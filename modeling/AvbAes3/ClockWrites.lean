import AvbAes3.MainLoop

/-!
# What the main loop writes to the clocks

The TSU's time and the media clock's increment are registers. AVDECC and SRP
come to neither but through `mcr_bind` and `mcr_unbind`, which the callbacks
call: `ClockInvariant` says what a property of the registers has to bear, and
every handler keeps such a property.
-/

namespace AvbAes3

/-- What has been written to the TSU, and media clock recovery with its
registers. -/
def Firmware.clocks (fw : Firmware) : List GptpEffect × Mcr × McrRegs :=
  (fw.tsuWrites, fw.mcr, fw.mcrRegs)

/-- A property of the clocks that binding and unbinding keep. -/
structure ClockInvariant (I : Firmware → Prop) : Prop where
  same : ∀ {fw fw' : Firmware}, I fw → fw'.clocks = fw.clocks → I fw'
  bind : ∀ {fw : Firmware} (streamId : StreamId), I fw →
    I (fw.putMcr (mcrBind fw.mcr fw.mcrRegs streamId))
  unbind : ∀ {fw : Firmware}, I fw → I (fw.putMcr (mcrUnbind fw.mcr fw.mcrRegs))

-- ---------------------------------------------------------------------------
-- What touches no clock
-- ---------------------------------------------------------------------------

theorem sendAll_clocks (fw : Firmware) (p : Producer) (frames : List (List UInt8)) :
    (fw.sendAll p frames).clocks = fw.clocks := sendAll_same _ (fun _ _ _ => rfl) ..

theorem putAvdecc_clocks (fw : Firmware) (r : Avdecc × List (List UInt8)) :
    (fw.putAvdecc r).clocks = fw.clocks := sendAll_clocks ..

theorem onTalkerConnect_clocks (fw : Firmware) (uid : TalkerUid) (r : Readings) :
    (onTalkerConnect fw uid r).clocks = fw.clocks := by
  unfold onTalkerConnect
  split <;> rfl

theorem onTalkerDisconnect_clocks (fw : Firmware) (uid : TalkerUid) (r : Readings) :
    (onTalkerDisconnect fw uid r).clocks = fw.clocks := by
  unfold onTalkerDisconnect
  split <;> rfl

theorem learnStream_clocks (fw : Firmware) (uid : ListenerUid) (streamId : StreamId) :
    (learnStream fw uid streamId).clocks = fw.clocks := by
  unfold learnStream
  split <;> rfl

theorem aecp_clocks (fw : Firmware) (frame : Buffer) (len : Nat) :
    (fw.aecp frame len).clocks = fw.clocks := by
  unfold Firmware.aecp
  dsimp only
  split <;> rfl

theorem trackLocks_clocks (fw : Firmware) : (trackLocks fw).clocks = fw.clocks := by
  unfold trackLocks
  dsimp only
  split
  · exact (putAvdecc_clocks ..).trans (putAvdecc_clocks ..)
  · exact putAvdecc_clocks ..

/-- A pass that comes to no clock. -/
def LoopStep.leavesClocks : LoopStep → Bool
  | .dispatchRx .. | .gptpPoll _ | .mcrPumpHw _ | .mcrServoUpdate | .mcrWatchdogTick _ => false
  | _ => true

theorem loopStep_clocks (fw : Firmware) {step : LoopStep} (h : step.leavesClocks) :
    (loopStep fw step).clocks = fw.clocks := by
  cases step with
  | srpPoll r => exact sendAll_clocks ..
  | trackLocks => exact trackLocks_clocks fw
  | syncVlan => exact syncVlan_same _ (fun _ _ _ _ _ => rfl) ..
  | avdeccPoll r => exact putAvdecc_clocks ..
  | crfFlowWatchdog r => exact putAvdecc_clocks ..
  | usbAafDrain words =>
    rw [loopStep]
    split
    · rfl
    · exact usbAafDrain_same _ (fun _ _ _ _ => rfl) ..
  | aafTxPoll count now =>
    rw [loopStep]
    split
    · rfl
    · exact runAafTxPoll_same _ (fun _ _ _ _ => rfl) ..
  | packetizerFrame seq pres payload =>
    rw [loopStep]
    split <;> rfl
  | _ => cases h

-- ---------------------------------------------------------------------------
-- What comes to the media clock
-- ---------------------------------------------------------------------------

namespace ClockInvariant

variable {I : Firmware → Prop} (hI : ClockInvariant I) {fw : Firmware}

include hI

theorem setAvdecc (h : I fw) (s : Avdecc) : I { fw with avdecc := s } := hI.same h rfl

theorem putAvdecc (h : I fw) (r : Avdecc × List (List UInt8)) : I (fw.putAvdecc r) :=
  hI.same h (putAvdecc_clocks ..)

theorem respond (h : I fw) (msgType status : UInt8) (pdu : Buffer) :
    I (fw.respond msgType status pdu) := hI.putAvdecc h _

theorem bindEngine (h : I fw) (uid : ListenerUid) (streamId : StreamId) (destMac : MacAddr) :
    I (bindEngine fw uid streamId destMac) := by
  unfold AvbAes3.bindEngine
  split
  · exact hI.bind streamId h
  · exact hI.same h rfl

theorem onListenerConnect (h : I fw) (uid : ListenerUid) (streamId : StreamId)
    (destMac : MacAddr) (talkerId : EntityId) (nowMs : UInt32) :
    I (onListenerConnect fw uid streamId destMac talkerId nowMs) := by
  unfold AvbAes3.onListenerConnect
  split
  · exact hI.same h rfl
  · refine hI.bindEngine (hI.same h ?_) ..
    exact learnStream_clocks ..

theorem onListenerDisconnect (h : I fw) (uid : ListenerUid) (nowMs : UInt32) :
    I (onListenerDisconnect fw uid nowMs) := by
  unfold AvbAes3.onListenerDisconnect unbindEngine
  dsimp only
  split
  · refine hI.unbind (hI.same h ?_)
    split <;> rfl
  · refine hI.same h ?_
    split <;> rfl

theorem completePending (h : I fw) (i : ListenerUid) (streamId : StreamId) (destMac : MacAddr)
    (nowMs : UInt32) : I (completePending fw i streamId destMac nowMs) := by
  unfold AvbAes3.completePending
  dsimp only
  split
  · refine hI.same (hI.bindEngine (hI.same h ?_) ..) rfl
    exact learnStream_clocks ..
  · exact h

theorem srpProcessRx (h : I fw) (frame : Buffer) (len : Nat) (nowMs : UInt32) :
    I (srpProcessRx fw frame len nowMs) := by
  have hvector {fw : Firmware} (h : I fw) (v : MsrpVector) : I (srpVector nowMs fw v) := by
    unfold srpVector
    dsimp only
    split
    · refine hI.same (hI.completePending (hI.completePending ?_ ..) ..) rfl
      exact hI.same h rfl
    · exact hI.same h rfl
  unfold AvbAes3.srpProcessRx
  split
  · suffices ∀ (vectors : List MsrpVector) {fw : Firmware}, I fw →
        I (vectors.foldl (srpVector nowMs) fw) from this _ (hI.same h rfl)
    intro vectors
    induction vectors with
    | nil => exact fun h => h
    | cons v rest ih => exact fun h => ih (hvector h v)
  · exact h

theorem connectResolved (h : I fw) (resolve : AvdeccResolve) (pdu : Buffer) (nowMs : UInt32) :
    I (connectResolved fw resolve pdu nowMs) :=
  hI.putAvdecc (hI.onListenerConnect (hI.setAvdecc h _) ..) _

theorem fastConnect (h : I fw) (u : ListenerUid) (pdu : Buffer) (nowMs : UInt32) :
    I (fastConnect fw u pdu nowMs) :=
  hI.respond (hI.putAvdecc (hI.onListenerConnect (hI.setAvdecc h _) ..) _) ..

theorem acmpHandle (h : I fw) (pdu : Buffer) (r : Readings) (handler : AcmpHandler) :
    I (acmpHandle fw pdu r handler) := by
  cases handler with
  | connectTx =>
    rw [AvbAes3.acmpHandle, acmpHandleConnectTx]
    split
    · exact hI.respond h ..
    · exact hI.respond (hI.same (hI.setAvdecc h _) (onTalkerConnect_clocks ..)) ..
  | connectTxResponse =>
    rw [AvbAes3.acmpHandle, acmpHandleConnectTxResponse]
    split
    · exact h
    · refine hI.setAvdecc (hI.putAvdecc ?_ _) _
      split
      · exact hI.connectResolved h ..
      · exact h
  | disconnectTx =>
    rw [AvbAes3.acmpHandle, acmpHandleDisconnectTx]
    refine hI.respond ?_ ..
    split
    · exact h
    · exact hI.same (hI.setAvdecc h _) (onTalkerDisconnect_clocks ..)
  | getTxState => exact hI.respond h ..
  | connectRx =>
    rw [AvbAes3.acmpHandle, acmpHandleConnectRx]
    split
    · exact hI.respond h ..
    split
    · exact hI.putAvdecc (hI.setAvdecc h _) _
    split
    · exact hI.respond h ..
    · exact hI.fastConnect h ..
  | disconnectRx =>
    rw [AvbAes3.acmpHandle, acmpHandleDisconnectRx]
    refine hI.respond ?_ ..
    split
    · exact h
    · exact hI.putAvdecc (hI.onListenerDisconnect (hI.setAvdecc h _) ..) _
  | getRxState => exact hI.respond h ..

theorem avdeccProcessRx (h : I fw) (frame : Buffer) (len : Nat) (r : Readings) :
    I (avdeccProcessRx fw frame len r) := by
  have hrx := avdeccRx fw frame len r
  generalize AvbAes3.avdeccProcessRx fw frame len r = fw' at hrx ⊢
  cases hrx with
  | ignored => exact h
  | uncalled => exact hI.setAvdecc h _
  | acmp _ handler => exact hI.acmpHandle (hI.setAvdecc h _) ..
  | aecp => exact hI.same h (aecp_clocks ..)

/-- What a received frame does, if it is not handed on to a clock itself. -/
theorem rxHandle (h : I fw) (frame : Buffer) (len : Nat) (r : Readings) {handler : RxHandler}
    (hgptp : handler ≠ .gptp) (hcrf : handler ≠ .crf) : I (rxHandle fw frame len r handler) := by
  cases handler with
  | gptp => exact absurd rfl hgptp
  | crf => exact absurd rfl hcrf
  | avdecc => exact hI.avdeccProcessRx h ..
  | aaf => exact hI.same h rfl
  | msrp => exact hI.srpProcessRx h ..

end ClockInvariant

end AvbAes3
