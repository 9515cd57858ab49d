import AvbAes3.Acmp
import AvbAes3.Lib.Machine

/-!
# main.c: the main loop

`dispatch_rx`, the passes of the main loop as single steps, and the state
they start from. `mainLoop` takes the steps in any order and any number, and
the frames, the readings of the hardware and the audio as inputs, so what
holds of its runs holds of the loop's own order too. The UART commands, the
bench counters and the I2S writer, which touch none of this state, are left
out. The packetizer is gateware: it builds a frame from whatever its
registers hold, and goes on building for a while after it is disabled.
-/

namespace AvbAes3

-- ---------------------------------------------------------------------------
-- Received frames
-- ---------------------------------------------------------------------------

/-- The bytes a VLAN tag takes. -/
def vlanLen (slot : Buffer) (len : Nat) : Nat :=
  if 18 ≤ len ∧ getBe16 (slot.offset 12) = 0x8100 then 4 else 0

/-- AAF or CRF, which is handled in place. -/
def isAvtpData (slot : Buffer) (len v : Nat) : Bool :=
  decide (15 + v ≤ len) && getBe16 (slot.offset (12 + v)) == avtpEthertype &&
    (slot (14 + v) == avtpSubtypeAaf || slot (14 + v) == avtpSubtypeCrf)

def scratchSize : Nat := 1600

/-- The frame a handler is given, and what the copy leaves in `scratch`. -/
structure RxFrame where
  frame : Buffer
  len : Nat
  scratch : Buffer

def rxFrame (slot : Buffer) (len : Nat) (scratch : Buffer) : RxFrame :=
  let v := vlanLen slot len
  if isAvtpData slot len v then ⟨slot.offset v, len - v, scratch⟩
  else
    let len := min len scratchSize
    let scratch := scratch.copy 0 (slot.take len)
    if v = 0 then ⟨scratch, len, scratch⟩
    else
      let scratch := scratch.copy 12 ((scratch.offset 16).take (len - 16))
      ⟨scratch, len - 4, scratch⟩

inductive RxHandler
  | gptp | avdecc | crf | aaf | msrp
  deriving DecidableEq, Repr

/-- The `switch` on ethertype and AVTP subtype. -/
def rxHandler (frame : Buffer) (len : Nat) : Option RxHandler :=
  let ethertype := getBe16 (frame.offset 12)
  if len < 14 then none
  else if ethertype = ptpEthertype then some .gptp
  else if ethertype = avtpEthertype then
    if len < 15 then none
    else if frame 14 = avtpSubtypeAdp ∨ frame 14 = avtpSubtypeAecp ∨ frame 14 = avtpSubtypeAcmp then
      some .avdecc
    else if frame 14 = avtpSubtypeCrf then some .crf
    else if frame 14 = avtpSubtypeAaf then some .aaf
    else none
  else if ethertype = msrpEthertype then some .msrp
  else none

def gptpEffect (fw : Firmware) : GptpEffect → Firmware
  | .send frame => fw.sendBytes .gptp frame
  | write => { fw with tsuWrites := fw.tsuWrites ++ [write] }

/-- Take over what a gPTP function returns. -/
def Firmware.putGptp (fw : Firmware) (r : Gptp × List GptpEffect) : Firmware :=
  r.2.foldl gptpEffect { fw with gptp := r.1 }

def rxHandle (fw : Firmware) (frame : Buffer) (len : Nat) (r : Readings) : RxHandler → Firmware
  | .gptp => fw.putGptp (gptpProcessRx fw.gptp frame len r.tsu)
  | .avdecc => avdeccProcessRx fw frame len r
  | .crf => { fw with mcr := mcrProcessRx fw.mcr frame len r.tsu.rxTs }
  | .aaf => { fw with aaf := aafProcessRx fw.aaf frame len }
  | .msrp => srpProcessRx fw frame len r.nowMs

/-- One turn of `dispatch_rx`. -/
def dispatchRx (fw : Firmware) (slot : Buffer) (len : Nat) (r : Readings) : Firmware :=
  let rx := rxFrame slot len fw.scratch
  let fw := { fw with scratch := rx.scratch }
  match rxHandler rx.frame rx.len with
  | some h => rxHandle fw rx.frame rx.len r h
  | none => fw

-- ---------------------------------------------------------------------------
-- The other passes
-- ---------------------------------------------------------------------------

def aafLocked (a : Aaf) : Bool := a.bound && decide (a.rxCount > 0)

/-- Per-stream lock indicators and frame counters. -/
def trackLocks (fw : Firmware) : Firmware :=
  let aafNow := aafLocked fw.aaf
  let fw :=
    if aafNow ≠ fw.prevAafLocked then
      { fw.putAvdecc (avdeccListenerLockChanged fw.avdecc listenerUidAaf aafNow) with
        prevAafLocked := aafNow }
    else fw
  let fw := fw.putAvdecc (avdeccListenerLockChanged fw.avdecc listenerUidCrf fw.mcr.servoLocked)
  { fw with avdecc := { fw.avdecc with
    streamFramesRx := fun u => if u = listenerUidCrf then fw.mcr.rxCount else fw.aaf.rxCount } }

/-- The bridge has declared another priority or VLAN than the last. -/
def vlanChanged (fw : Firmware) : Bool :=
  fw.srp.domainReceived && (fw.srp.rxSrPrio != fw.lastPrio || fw.srp.rxSrVid != fw.lastVid)

/-- The AAF VLAN tag follows the bridge's SR domain. -/
def syncVlan (fw : Firmware) : Firmware :=
  if vlanChanged fw then
    let fw := { fw with aaf := aafSetVlan fw.aaf fw.srp.rxSrPrio fw.srp.rxSrVid }
    let fw := if fw.aafGwEnabled then aafGwPushBinding fw else fw
    { fw with lastPrio := fw.srp.rxSrPrio, lastVid := fw.srp.rxSrVid }
  else fw

/-- One sample of the USB FIFO: channel, first-of-frame marker and value. -/
def usbSample (fw : Firmware) (v : UInt32) : Firmware :=
  let ch := (v &&& 0x7).toNat
  let first := (v >>> 3) &&& 1 = 1
  let flush := first ∧ fw.usbHave
  let aaf := if flush ∧ fw.aaf.txEnabled then aafTxPush fw.aaf fw.usbBlock else fw.aaf
  let block : SampleBlock := if flush then fun _ => 0 else fw.usbBlock
  { fw with
    aaf := aaf
    usbBlock := fun i => if i.val = ch then (v &&& 0xFFFFFF00).toInt32 else block i
    usbHave := true }

/-- At most 1024 valid words. -/
def usbAafDrain (fw : Firmware) (words : List UInt32) : Firmware :=
  ((words.take 1024).takeWhile fun v => v &&& 0x10 ≠ 0).foldl usbSample fw

def runAafTxPoll (fw : Firmware) (mcrSampleCount : UInt32) (now : PtpTimestamp) : Firmware :=
  let polled := aafTxPoll fw.aaf mcrSampleCount now
  let fw := { fw with aaf := polled.1 }
  match polled.2 with
  | some frame => fw.sendBytes .aaf frame
  | none => fw

/-- The 42 header bytes of the packetizer's frames, from its registers. -/
def packetizerHeader (regs : AafPktRegs) (seq : UInt8) (pres : UInt32) : List UInt8 :=
  regMac regs.dstMacHi regs.dstMacLo ++ regMac regs.srcMacHi regs.srcMacLo ++ [0x81, 0x00] ++
    be16 regs.vlanTci ++ [0x22, 0xF0] ++ [0x02, 0x81, seq, 0x00] ++
    regStreamId regs.streamIdHi regs.streamIdLo ++ be32 pres ++ [0x02] ++ be16 0x5008 ++
    [0x20] ++ be16 192 ++ [0x00, 0x00]

-- ---------------------------------------------------------------------------
-- What is not seen of them
-- ---------------------------------------------------------------------------

section Same

variable {α : Type} (read : Firmware → α)

theorem putGptp_same
    (h : ∀ fw gptp mac sent tsuWrites,
      read { fw with gptp := gptp, mac := mac, sent := sent, tsuWrites := tsuWrites } = read fw)
    (fw : Firmware) (r : Gptp × List GptpEffect) : read (fw.putGptp r) = read fw := by
  obtain ⟨g, effects⟩ := r
  rw [Firmware.putGptp]
  suffices ∀ fw : Firmware, read (effects.foldl gptpEffect fw) = read fw from
    (this _).trans (h fw g fw.mac fw.sent fw.tsuWrites)
  induction effects with
  | nil => exact fun _ => rfl
  | cons effect rest ih =>
    intro fw
    refine (ih _).trans ?_
    cases effect with
    | send frame => exact h fw fw.gptp _ _ fw.tsuWrites
    | _ => exact h fw fw.gptp fw.mac fw.sent _

theorem syncVlan_same
    (h : ∀ fw aaf aafPkt lastPrio lastVid,
      read { fw with aaf := aaf, aafPkt := aafPkt, lastPrio := lastPrio, lastVid := lastVid } =
        read fw)
    (fw : Firmware) : read (syncVlan fw) = read fw := by
  unfold syncVlan
  dsimp only
  split
  · split <;> exact h fw _ _ _ _
  · rfl

theorem usbAafDrain_same
    (h : ∀ fw aaf usbBlock usbHave,
      read { fw with aaf := aaf, usbBlock := usbBlock, usbHave := usbHave } = read fw)
    (fw : Firmware) (words : List UInt32) : read (usbAafDrain fw words) = read fw := by
  rw [usbAafDrain]
  induction (words.take 1024).takeWhile _ generalizing fw with
  | nil => rfl
  | cons v rest ih => exact (ih _).trans (h ..)

theorem runAafTxPoll_same
    (h : ∀ fw aaf mac sent, read { fw with aaf := aaf, mac := mac, sent := sent } = read fw)
    (fw : Firmware) (count : UInt32) (now : PtpTimestamp) :
    read (runAafTxPoll fw count now) = read fw := by
  unfold runAafTxPoll
  dsimp only
  split <;> exact h fw _ _ _

end Same

-- ---------------------------------------------------------------------------
-- Steps
-- ---------------------------------------------------------------------------

inductive LoopStep
  | dispatchRx (slot : Buffer) (len : Nat) (r : Readings)
  | gptpPoll (r : Readings)
  | srpPoll (r : Readings)
  | trackLocks
  | syncVlan
  | avdeccPoll (r : Readings)
  | mcrPumpHw (fifo : List CrfSample)
  | mcrServoUpdate
  | mcrWatchdogTick (r : Readings)
  | crfFlowWatchdog (r : Readings)
  | usbAafDrain (words : List UInt32)
  | aafTxPoll (mcrSampleCount : UInt32) (now : PtpTimestamp)
  | packetizerFrame (seq : UInt8) (pres : UInt32) (payload : List UInt8)

def Firmware.putMcr (fw : Firmware) (r : Mcr × McrRegs) : Firmware :=
  { fw with mcr := r.1, mcrRegs := r.2 }

def loopStep (fw : Firmware) : LoopStep → Firmware
  | .dispatchRx slot len r => dispatchRx fw slot len r
  | .gptpPoll r => fw.putGptp (gptpPoll fw.gptp r.tsu)
  | .srpPoll r =>
    let polled := srpPoll fw.srp r.nowMs
    { fw with srp := polled.1 }.sendAll .srp polled.2
  | .trackLocks => trackLocks fw
  | .syncVlan => syncVlan fw
  | .avdeccPoll r => fw.putAvdecc (avdeccPoll fw.avdecc fw.gptp fw.mcr r.nowMs)
  | .mcrPumpHw fifo => fw.putMcr (mcrPumpHw fw.mcr fw.mcrRegs fifo)
  | .mcrServoUpdate => fw.putMcr (mcrServoUpdate fw.mcr fw.mcrRegs)
  | .mcrWatchdogTick r => fw.putMcr (mcrWatchdogTick fw.mcr fw.mcrRegs r.nowMs)
  | .crfFlowWatchdog r =>
    fw.putAvdecc (avdeccCrfFlowWatchdog fw.avdecc listenerUidCrf fw.mcr.rxCount r.nowMs)
  | .usbAafDrain words => if fw.aafGwEnabled then fw else usbAafDrain fw words
  | .aafTxPoll count now => if fw.aafGwEnabled then fw else runAafTxPoll fw count now
  | .packetizerFrame seq pres payload =>
    if fw.aafPktStarted then
      { fw with sent := fw.sent ++
        [⟨.packetizer, packetizerHeader fw.aafPkt seq pres ++ payload⟩] }
    else fw

/-- The turn of `dispatch_rx` that takes in this ACMPDU. -/
def receiveAcmp (pdu : Acmpdu) : LoopStep :=
  .dispatchRx (Buffer.ofList (avdeccEthHdr (zeroBytes 6) ++ pdu.bytes)) (14 + acmpduLen) {}

/-- A step with the logs of the step before cleared. -/
def mainLoopStep (fw : Firmware) (step : LoopStep) : Firmware :=
  loopStep { fw with sent := [], tsuWrites := [] } step

/-- The ACMP handler a step calls, and the PDU it is given. -/
def acmpCall (fw : Firmware) : LoopStep → Option (AcmpHandler × Buffer)
  | .dispatchRx slot len _ =>
    let rx := rxFrame slot len fw.scratch
    if rxHandler rx.frame rx.len = some .avdecc ∧ isAcmp rx.frame rx.len then
      (acmpHandler fw.avdecc (rx.frame.offset 14)).map fun h => (h, rx.frame.offset 14)
    else none
  | _ => none

/-- The handler is called in the state the step is taken in, but for the
logs, the frame's copy and the message's count. -/
theorem mainLoopStep_acmp {fw : Firmware} {step : LoopStep} {h : AcmpHandler} {pdu : Buffer}
    (hcall : acmpCall fw step = some (h, pdu)) :
    ∃ slot len r scratch, step = .dispatchRx slot len r ∧
      mainLoopStep fw step = acmpHandle
        { fw with
          sent := []
          tsuWrites := []
          scratch := scratch
          avdecc := { fw.avdecc with acmpRxCount := fw.avdecc.acmpRxCount + 1 } } pdu r h := by
  cases step with
  | dispatchRx slot len r =>
    refine ⟨slot, len, r, (rxFrame slot len fw.scratch).scratch, rfl, ?_⟩
    unfold acmpCall at hcall
    dsimp only at hcall
    split at hcall
    · rename_i hacmp
      obtain ⟨handler, hhandler, heq⟩ := Option.map_eq_some_iff.mp hcall
      obtain ⟨rfl, rfl⟩ := Prod.mk.inj heq
      rw [mainLoopStep, loopStep, dispatchRx]
      dsimp only
      rw [hacmp.1]
      dsimp only
      rw [rxHandle]
      exact avdeccProcessRx_acmp r hacmp.2 hhandler
    · cases hcall
  | _ => cases hcall

-- ---------------------------------------------------------------------------
-- Boot
-- ---------------------------------------------------------------------------

/-- MAC address and 00:01. -/
def aafStreamId : StreamId :=
  eightBytes (byteAt boardMac 0) (byteAt boardMac 1) (byteAt boardMac 2) (byteAt boardMac 3)
    (byteAt boardMac 4) (byteAt boardMac 5) 0x00 0x01

def aafMcast : MacAddr := sixBytes 0x91 0xE0 0xF0 0x00 0xFE (byteAt boardMac 5)

/-- The state `main` enters its loop in. -/
def boot : Firmware where
  gptp := (gptpInit boardMac).1
  srp := srpTalkerSet (srpInit boardMac) aafStreamId aafMcast 230
  avdecc := avdeccSetTalkerStream (avdeccInit boardMac) talkerUidAaf aafStreamId aafMcast
  mcr := (mcrInit configClockFrequency 48000).1
  mcrRegs := (mcrInit configClockFrequency 48000).2
  aaf := aafInit boardMac aafStreamId aafMcast

def mainLoop : Machine Firmware LoopStep := ⟨boot, mainLoopStep⟩

end AvbAes3
