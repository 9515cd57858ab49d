import AvbAes3.Aecp
import AvbAes3.Aaf
import AvbAes3.EthMac

/-!
# main.c: the state and the callbacks

The modules' records together with main.c's own statics and the gateware
registers main.c writes, and the functions AVDECC and SRP call back. Both
keep a copy of what they were told: a callback changes several modules at
once, and the invariants between them are the subject of the modules that
follow. Counters that only the UART commands print are left out.
-/

namespace AvbAes3

/-- `pending_bind_t`. -/
structure PendingBind where
  active : Bool := false
  uid : ListenerUid := listenerUidCrf
  destMac : MacAddr := zeroBytes 6
  talkerEntityId : EntityId := zeroBytes 8
  talkerUid : UInt16 := 0
  deriving DecidableEq, Repr

/-- The `avtp_extractor_slot0` registers. -/
structure ExtractorSlot where
  streamIdHi : UInt32 := 0
  streamIdLo : UInt32 := 0
  dstMacHi : UInt32 := 0
  dstMacLo : UInt32 := 0
  enabled : Bool := false
  deriving DecidableEq, Repr

/-- The `aaf_pkt` registers of the gateware packetizer. -/
structure AafPktRegs where
  srcMacHi : UInt32 := 0
  srcMacLo : UInt32 := 0
  dstMacHi : UInt32 := 0
  dstMacLo : UInt32 := 0
  streamIdHi : UInt32 := 0
  streamIdLo : UInt32 := 0
  vlanTci : UInt16 := 0x6002
  enable : Bool := false
  deriving DecidableEq, Repr

def macHi (mac : MacAddr) : UInt32 := (byteAt mac 0).toUInt32 <<< 8 ||| (byteAt mac 1).toUInt32

def macLo (mac : MacAddr) : UInt32 :=
  (byteAt mac 2).toUInt32 <<< 24 ||| (byteAt mac 3).toUInt32 <<< 16 |||
    (byteAt mac 4).toUInt32 <<< 8 ||| (byteAt mac 5).toUInt32

/-- Who put a frame on the wire: a module through the MAC's slots, or the
packetizer beside it. -/
inductive FrameOrigin
  | firmware (producer : Producer)
  | packetizer
  deriving DecidableEq, Repr

structure WireFrame where
  origin : FrameOrigin
  bytes : List UInt8
  deriving DecidableEq, Repr

/-- The whole firmware. `sent` and `tsuWrites` are the frames and clock
writes of the current step of the main loop, `aafPktStarted` whether the
packetizer has ever been enabled; the other fields are the source's. -/
structure Firmware where
  gptp : Gptp
  srp : Srp
  avdecc : Avdecc
  mcr : Mcr
  aaf : Aaf
  pendingListeners : ListenerUid → PendingBind := fun _ => {}
  aafGwEnabled : Bool := false
  mcrRegs : McrRegs
  slot0 : ExtractorSlot := {}
  aafPkt : AafPktRegs := {}
  aafPktStarted : Bool := false
  mac : EthMac := EthMac.init
  scratch : Buffer := fun _ => 0
  prevAafLocked : Bool := false
  lastPrio : UInt8 := 0xFF
  lastVid : UInt16 := 0xFFFF
  usbBlock : SampleBlock := fun _ => 0
  usbHave : Bool := false
  tsuWrites : List GptpEffect := []
  sent : List WireFrame := []

/-- What the registers read during one step. -/
structure Readings where
  tsu : Tsu := {}
  mcrSampleCount : UInt32 := 0
  deriving DecidableEq, Repr

def Readings.nowMs (r : Readings) : UInt32 := r.tsu.uptimeMs

-- ---------------------------------------------------------------------------
-- Sending
-- ---------------------------------------------------------------------------

/-- Send `length` bytes of what has been built in the module's slot. -/
def Firmware.sendSlot (fw : Firmware) (p : Producer) (slot : Buffer) (length : Nat) : Firmware :=
  let sent := fw.mac.send p slot length
  { fw with mac := sent.1, sent := fw.sent ++ [⟨.firmware p, sent.2.bytes⟩] }

/-- Send a frame that is written as a whole. -/
def Firmware.sendBytes (fw : Firmware) (p : Producer) (bytes : List UInt8) : Firmware :=
  fw.sendSlot p ((fw.mac.buf p).copy 0 bytes) bytes.length

def Firmware.sendAll (fw : Firmware) (p : Producer) (frames : List (List UInt8)) : Firmware :=
  frames.foldl (fun fw bytes => fw.sendBytes p bytes) fw

/-- Take over what an AVDECC function returns. -/
def Firmware.putAvdecc (fw : Firmware) (r : Avdecc × List (List UInt8)) : Firmware :=
  { fw with avdecc := r.1 }.sendAll .avdecc r.2

theorem sendBytes_sent (fw : Firmware) (p : Producer) (bytes : List UInt8) :
    (fw.sendBytes p bytes).sent = fw.sent ++ [⟨.firmware p, bytes⟩] := by
  simp only [Firmware.sendBytes, Firmware.sendSlot, EthMac.send, Buffer.take_copy]

theorem sendAll_sent (fw : Firmware) (p : Producer) (frames : List (List UInt8)) :
    (fw.sendAll p frames).sent = fw.sent ++ frames.map fun bytes => ⟨.firmware p, bytes⟩ := by
  induction frames generalizing fw with
  | nil => exact (List.append_nil _).symm
  | cons bytes rest ih =>
    refine (ih _).trans ?_
    rw [sendBytes_sent, List.append_assoc]
    rfl

/-- Sending is seen in the MAC and the log alone. -/
theorem sendAll_same {α : Type} (read : Firmware → α)
    (h : ∀ fw mac sent, read { fw with mac := mac, sent := sent } = read fw) (fw : Firmware)
    (p : Producer) (frames : List (List UInt8)) : read (fw.sendAll p frames) = read fw := by
  induction frames generalizing fw with
  | nil => rfl
  | cons bytes rest ih => exact (ih _).trans (h ..)

theorem sendAll_avdecc (fw : Firmware) (p : Producer) (frames : List (List UInt8)) :
    (fw.sendAll p frames).avdecc = fw.avdecc := sendAll_same _ (fun _ _ _ => rfl) ..

theorem putAvdecc_avdecc (fw : Firmware) (r : Avdecc × List (List UInt8)) :
    (fw.putAvdecc r).avdecc = r.1 := sendAll_avdecc { fw with avdecc := r.1 } ..

theorem sendAll_srp (fw : Firmware) (p : Producer) (frames : List (List UInt8)) :
    (fw.sendAll p frames).srp = fw.srp := sendAll_same _ (fun _ _ _ => rfl) ..

-- ---------------------------------------------------------------------------
-- The gateware slot and the packetizer
-- ---------------------------------------------------------------------------

/-- `avtp_filter_set_slot(AVTP_FILTER_SLOT_AAF, ...)` -/
def avtpFilterSetSlot (streamId : StreamId) (destMac : MacAddr) : ExtractorSlot where
  streamIdHi := streamIdHi streamId
  streamIdLo := streamIdLo streamId
  dstMacHi := macHi destMac
  dstMacLo := macLo destMac
  enabled := true

def avtpFilterClearSlot (slot : ExtractorSlot) : ExtractorSlot := { slot with enabled := false }

def aafGwPushBinding (fw : Firmware) : Firmware :=
  { fw with aafPkt := { fw.aafPkt with
    srcMacHi := macHi fw.aaf.srcMac
    srcMacLo := macLo fw.aaf.srcMac
    dstMacHi := macHi fw.aaf.destMac
    dstMacLo := macLo fw.aaf.destMac
    streamIdHi := streamIdHi fw.aaf.streamId
    streamIdLo := streamIdLo fw.aaf.streamId
    vlanTci := vlanTci fw.aaf.txPcp fw.aaf.txVid } }

def aafGwSet (fw : Firmware) (on : Bool) : Firmware :=
  let fw := if on then { aafGwPushBinding fw with aafPktStarted := true } else fw
  { fw with aafPkt := { fw.aafPkt with enable := on }, aafGwEnabled := on }

-- ---------------------------------------------------------------------------
-- Talker callbacks
-- ---------------------------------------------------------------------------

def onTalkerConnect (fw : Firmware) (uid : TalkerUid) (r : Readings) : Firmware :=
  if uid ≠ talkerUidAaf then fw
  else
    aafGwSet
      { fw with
        aaf := aafTxEnable fw.aaf true r.mcrSampleCount
        srp := srpTalkerEnable fw.srp true } true

def onTalkerDisconnect (fw : Firmware) (uid : TalkerUid) (r : Readings) : Firmware :=
  if uid ≠ talkerUidAaf then fw
  else
    let fw := aafGwSet fw false
    { fw with
      aaf := aafTxEnable fw.aaf false r.mcrSampleCount
      srp := srpTalkerEnable fw.srp false }

-- ---------------------------------------------------------------------------
-- Listener callbacks
-- ---------------------------------------------------------------------------

def streamIdIsZero (sid : StreamId) : Bool := sid == zeroBytes 8

/-- The registrar's latency and VLAN of the stream, if it has been heard. -/
def learnStream (fw : Firmware) (uid : ListenerUid) (streamId : StreamId) : Firmware :=
  match srpFindTalker fw.srp streamId with
  | none => fw
  | some t =>
    let l := { fw.avdecc.listeners uid with
      msrpAccumulatedLatencyNs := t.accumulatedLatencyNs
      streamVlanId := t.vlanId }
    { fw with avdecc := fw.avdecc.setListener uid l }

/-- The media engine of a listener: the media clock's or the audio's, with
its gateware slot. CRF has none (`AVTP_FILTER_SLOT_CRF` is -1). -/
def bindEngine (fw : Firmware) (uid : ListenerUid) (streamId : StreamId) (destMac : MacAddr) :
    Firmware :=
  if uid = listenerUidCrf then
    let bound := mcrBind fw.mcr fw.mcrRegs streamId
    { fw with mcr := bound.1, mcrRegs := bound.2 }
  else
    { fw with aaf := aafBind fw.aaf streamId, slot0 := avtpFilterSetSlot streamId destMac }

def Firmware.setPending (fw : Firmware) (uid : ListenerUid) (p : PendingBind) : Firmware :=
  { fw with pendingListeners := Function.update fw.pendingListeners uid p }

def Firmware.listenerEnable (fw : Firmware) (streamId : StreamId) (enable : Bool) (nowMs : UInt32) :
    Firmware :=
  { fw with srp := srpListenerEnable fw.srp streamId enable nowMs }

/-- `uid` has passed the callback's bound check. -/
def onListenerConnect (fw : Firmware) (uid : ListenerUid) (streamId : StreamId) (destMac : MacAddr)
    (talkerEntityId : EntityId) (nowMs : UInt32) : Firmware :=
  if streamIdIsZero streamId then
    -- a saved binding: wait for the talker's advertisement
    fw.setPending uid ⟨true, uid, destMac, talkerEntityId, 0⟩
  else
    let fw := fw.setPending uid { fw.pendingListeners uid with active := false }
    let fw := learnStream fw uid streamId
    bindEngine (fw.listenerEnable streamId true nowMs) uid streamId destMac

/-- Withdraws the SRP declaration if the engine is bound, and unbinds it. -/
def unbindEngine (fw : Firmware) (uid : ListenerUid) (nowMs : UInt32) : Firmware :=
  if uid = listenerUidCrf then
    let fw := if fw.mcr.bound then fw.listenerEnable fw.mcr.streamId false nowMs else fw
    let unbound := mcrUnbind fw.mcr fw.mcrRegs
    { fw with mcr := unbound.1, mcrRegs := unbound.2 }
  else
    let fw := if fw.aaf.bound then fw.listenerEnable fw.aaf.streamId false nowMs else fw
    { fw with
      aaf := { aafUnbind fw.aaf with rxAudioCapture := false }
      slot0 := avtpFilterClearSlot fw.slot0 }

def onListenerDisconnect (fw : Firmware) (uid : ListenerUid) (nowMs : UInt32) : Firmware :=
  unbindEngine (fw.setPending uid { fw.pendingListeners uid with active := false }) uid nowMs

-- ---------------------------------------------------------------------------
-- Talker advertisements
-- ---------------------------------------------------------------------------

/-- The saved entity's MAC portion is the advertised stream's. -/
def eidMatches (eid : EntityId) (sid : StreamId) : Bool :=
  byteAt eid 0 == byteAt sid 0 && byteAt eid 1 == byteAt sid 1 && byteAt eid 2 == byteAt sid 2 &&
    ((byteAt eid 3 == 0xFF && byteAt eid 4 == 0xFE) ||
      (byteAt eid 3 == byteAt sid 3 && byteAt eid 4 == byteAt sid 4 &&
        byteAt eid 5 == byteAt sid 5))

def destOrEidMatch (p : PendingBind) (advSid : StreamId) (advDest : MacAddr) : Bool :=
  (p.destMac != zeroBytes 6 && p.destMac == advDest) ||
    (p.talkerEntityId != zeroBytes 8 && eidMatches p.talkerEntityId advSid)

/-- The listener is given the stream learned. -/
def setStream (fw : Firmware) (uid : ListenerUid) (streamId : StreamId) (destMac : MacAddr) :
    Firmware :=
  let l := { fw.avdecc.listeners uid with streamId := streamId, destMac := destMac }
  { fw with avdecc := fw.avdecc.setListener uid l }

/-- One turn of the loop of `on_talker_advertise`. -/
def completePending (fw : Firmware) (i : ListenerUid) (streamId : StreamId) (destMac : MacAddr)
    (nowMs : UInt32) : Firmware :=
  let p := fw.pendingListeners i
  if p.active ∧ destOrEidMatch p streamId destMac then
    let fw := learnStream (setStream fw p.uid streamId destMac) p.uid streamId
    let fw := bindEngine (fw.listenerEnable streamId true nowMs) p.uid streamId p.destMac
    fw.setPending i { p with active := false }
  else fw

def onTalkerAdvertise (fw : Firmware) (streamId : StreamId) (destMac : MacAddr) (nowMs : UInt32) :
    Firmware :=
  completePending (completePending fw listenerUidCrf streamId destMac nowMs) listenerUidAaf
    streamId destMac nowMs

-- ---------------------------------------------------------------------------
-- Received MRPDUs
-- ---------------------------------------------------------------------------

def talkerAdvertised (nowMs : UInt32) (fw : Firmware) (value : Buffer) : Firmware :=
  let fw := { fw with srp := upsertTalker fw.srp value nowMs }
  let fw := onTalkerAdvertise fw (value.bytes 8) ((value.offset 8).bytes 6) nowMs
  { fw with srp := matchListener fw.srp value nowMs }

def srpVector (nowMs : UInt32) (fw : Firmware) (v : MsrpVector) : Firmware :=
  let fw := { fw with srp := noteVector fw.srp v }
  if isTalkerAdvertise v then talkerAdvertised nowMs fw v.value else fw

def srpProcessRx (fw : Firmware) (frame : Buffer) (len : Nat) (nowMs : UInt32) : Firmware :=
  if isMsrpPdu frame len then
    (msrpVectors frame len).foldl (srpVector nowMs)
      { fw with srp := { fw.srp with rxPduCount := fw.srp.rxPduCount + 1 } }
  else fw

-- ---------------------------------------------------------------------------
-- What the registers say
-- ---------------------------------------------------------------------------

/-- The stream id two registers hold, in the order of its bytes on the wire. -/
def regStreamId (hi lo : UInt32) : List UInt8 := be32 hi ++ be32 lo

def regMac (hi lo : UInt32) : List UInt8 := be16 hi.toUInt16 ++ be32 lo

theorem regStreamId_eq (sid : StreamId) :
    regStreamId (streamIdHi sid) (streamIdLo sid) = sid.toList := by
  rw [regStreamId, streamIdHi, streamIdLo, be32_ofBytes, be32_ofBytes, toList_eight]
  rfl

theorem regMac_eq (mac : MacAddr) : regMac (macHi mac) (macLo mac) = mac.toList := by
  rw [regMac, macHi, macLo, be16_ofBytes, be32_ofBytes, toList_six]
  rfl

end AvbAes3
