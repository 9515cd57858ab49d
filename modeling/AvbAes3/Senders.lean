import AvbAes3.MainLoop

/-!
# Who sends what

Each module sends through its own slots, so a frame carries the name of the
module that sent it. What a pass of the main loop adds to `sent` is given
here for the callbacks, which send nothing, and for the passes, by origin.
-/

namespace AvbAes3

/-- Frames that meet `P` have been added to those sent. -/
def Adds (P : WireFrame → Prop) (before after : List WireFrame) : Prop :=
  ∃ new, after = before ++ new ∧ ∀ f ∈ new, P f

section Adds

variable {P Q : WireFrame → Prop} {before after : List WireFrame} {fw : Firmware}

theorem Adds.refl : Adds P before before :=
  ⟨[], (List.append_nil _).symm, fun _ hf => absurd hf List.not_mem_nil⟩

theorem Adds.trans {after' : List WireFrame} (h : Adds P before after) (h' : Adds P after after') :
    Adds P before after' := by
  obtain ⟨new, rfl, hnew⟩ := h
  obtain ⟨new', rfl, hnew'⟩ := h'
  refine ⟨new ++ new', List.append_assoc .., fun f hf => ?_⟩
  rcases List.mem_append.mp hf with hf | hf
  · exact hnew f hf
  · exact hnew' f hf

theorem Adds.mono (h : Adds P before after) (hpq : ∀ f, P f → Q f) : Adds Q before after := by
  obtain ⟨new, hsent, hnew⟩ := h
  exact ⟨new, hsent, fun f hf => hpq f (hnew f hf)⟩

theorem Adds.all (h : Adds P [] after) : ∀ f ∈ after, P f := by
  obtain ⟨new, rfl, hnew⟩ := h
  exact hnew

theorem Adds.sendAll (h : Adds P before fw.sent) (p : Producer) (frames : List (List UInt8))
    (hp : ∀ bytes ∈ frames, P ⟨.firmware p, bytes⟩) : Adds P before (fw.sendAll p frames).sent := by
  refine h.trans ⟨_, sendAll_sent .., fun f hf => ?_⟩
  obtain ⟨bytes, hbytes, rfl⟩ := List.mem_map.mp hf
  exact hp bytes hbytes

theorem Adds.putAvdecc (h : Adds P before fw.sent) (r : Avdecc × List (List UInt8))
    (hp : ∀ bytes ∈ r.2, P ⟨.firmware .avdecc, bytes⟩) : Adds P before (fw.putAvdecc r).sent := by
  have h' : Adds P before { fw with avdecc := r.1 }.sent := h
  exact h'.sendAll .avdecc r.2 hp

end Adds

-- ---------------------------------------------------------------------------
-- The callbacks send nothing
-- ---------------------------------------------------------------------------

theorem onTalkerConnect_sent (fw : Firmware) (uid : TalkerUid) (r : Readings) :
    (onTalkerConnect fw uid r).sent = fw.sent := by
  unfold onTalkerConnect
  split <;> rfl

theorem onTalkerDisconnect_sent (fw : Firmware) (uid : TalkerUid) (r : Readings) :
    (onTalkerDisconnect fw uid r).sent = fw.sent := by
  unfold onTalkerDisconnect
  split <;> rfl

theorem learnStream_sent (fw : Firmware) (uid : ListenerUid) (streamId : StreamId) :
    (learnStream fw uid streamId).sent = fw.sent := by
  unfold learnStream
  split <;> rfl

theorem bindEngine_sent (fw : Firmware) (uid : ListenerUid) (streamId : StreamId)
    (destMac : MacAddr) : (bindEngine fw uid streamId destMac).sent = fw.sent := by
  unfold bindEngine
  split <;> rfl

theorem onListenerConnect_sent (fw : Firmware) (uid : ListenerUid) (streamId : StreamId)
    (destMac : MacAddr) (talkerId : EntityId) (nowMs : UInt32) :
    (onListenerConnect fw uid streamId destMac talkerId nowMs).sent = fw.sent := by
  unfold onListenerConnect
  split
  · rfl
  · exact (bindEngine_sent ..).trans (learnStream_sent ..)

theorem onListenerDisconnect_sent (fw : Firmware) (uid : ListenerUid) (nowMs : UInt32) :
    (onListenerDisconnect fw uid nowMs).sent = fw.sent := by
  unfold onListenerDisconnect unbindEngine
  dsimp only
  split
  · split <;> rfl
  · split <;> rfl

theorem completePending_sent (fw : Firmware) (i : ListenerUid) (streamId : StreamId)
    (destMac : MacAddr) (nowMs : UInt32) :
    (completePending fw i streamId destMac nowMs).sent = fw.sent := by
  unfold completePending
  dsimp only
  split
  · exact (bindEngine_sent ..).trans (learnStream_sent ..)
  · rfl

theorem srpVector_sent (nowMs : UInt32) (fw : Firmware) (v : MsrpVector) :
    (srpVector nowMs fw v).sent = fw.sent := by
  unfold srpVector
  dsimp only
  split
  · exact (completePending_sent ..).trans (completePending_sent ..)
  · rfl

theorem srpProcessRx_sent (fw : Firmware) (frame : Buffer) (len : Nat) (nowMs : UInt32) :
    (srpProcessRx fw frame len nowMs).sent = fw.sent := by
  unfold srpProcessRx
  split
  · generalize msrpVectors frame len = vectors
    suffices ∀ fw', (vectors.foldl (srpVector nowMs) fw').sent = fw'.sent from this _
    intro fw'
    induction vectors generalizing fw' with
    | nil => rfl
    | cons v rest ih => exact (ih _).trans (srpVector_sent nowMs fw' v)
  · rfl

theorem syncVlan_sent (fw : Firmware) : (syncVlan fw).sent = fw.sent :=
  syncVlan_same _ (fun _ _ _ _ _ => rfl) ..

theorem usbAafDrain_sent (fw : Firmware) (words : List UInt32) :
    (usbAafDrain fw words).sent = fw.sent := usbAafDrain_same _ (fun _ _ _ _ => rfl) ..

-- ---------------------------------------------------------------------------
-- Received frames
-- ---------------------------------------------------------------------------

/-- A module's own frames. -/
def SentBy (p : Producer) (f : WireFrame) : Prop := f.origin = .firmware p

section Received

variable {before : List WireFrame} {fw : Firmware}

theorem Adds.avdecc (h : Adds (SentBy .avdecc) before fw.sent) (r : Avdecc × List (List UInt8)) :
    Adds (SentBy .avdecc) before (fw.putAvdecc r).sent := h.putAvdecc r fun _ _ => rfl

theorem Adds.respond (h : Adds (SentBy .avdecc) before fw.sent) (msgType status : UInt8)
    (pdu : Buffer) : Adds (SentBy .avdecc) before (fw.respond msgType status pdu).sent := h.avdecc _

end Received

theorem acmpHandleConnectTx_adds (fw : Firmware) (pdu : Buffer) (r : Readings) :
    Adds (SentBy .avdecc) fw.sent (acmpHandleConnectTx fw pdu r).sent := by
  unfold acmpHandleConnectTx
  split
  · exact Adds.refl.respond ..
  · refine Adds.respond ?_ ..
    rw [onTalkerConnect_sent]
    exact .refl

theorem acmpHandleDisconnectTx_adds (fw : Firmware) (pdu : Buffer) (r : Readings) :
    Adds (SentBy .avdecc) fw.sent (acmpHandleDisconnectTx fw pdu r).sent := by
  unfold acmpHandleDisconnectTx
  refine Adds.respond ?_ ..
  split
  · exact .refl
  · dsimp only
    rw [onTalkerDisconnect_sent]
    exact .refl

theorem connectResolved_adds (fw : Firmware) (r : AvdeccResolve) (pdu : Buffer) (nowMs : UInt32) :
    Adds (SentBy .avdecc) fw.sent (connectResolved fw r pdu nowMs).sent := by
  unfold connectResolved
  refine Adds.avdecc ?_ _
  rw [onListenerConnect_sent]
  exact .refl

theorem acmpHandleConnectTxResponse_adds (fw : Firmware) (pdu : Buffer) (nowMs : UInt32) :
    Adds (SentBy .avdecc) fw.sent (acmpHandleConnectTxResponse fw pdu nowMs).sent := by
  unfold acmpHandleConnectTxResponse
  split
  · exact .refl
  · refine Adds.avdecc ?_ _
    split
    · exact connectResolved_adds ..
    · exact .refl

theorem fastConnect_adds (fw : Firmware) (luid : ListenerUid) (pdu : Buffer) (nowMs : UInt32) :
    Adds (SentBy .avdecc) fw.sent (fastConnect fw luid pdu nowMs).sent := by
  unfold fastConnect
  refine Adds.respond (Adds.avdecc ?_ _) ..
  rw [onListenerConnect_sent]
  exact .refl

theorem acmpHandleConnectRx_adds (fw : Firmware) (pdu : Buffer) (nowMs : UInt32) :
    Adds (SentBy .avdecc) fw.sent (acmpHandleConnectRx fw pdu nowMs).sent := by
  unfold acmpHandleConnectRx
  split
  · exact Adds.refl.respond ..
  split
  · exact Adds.avdecc .refl _
  split
  · exact Adds.refl.respond ..
  · exact fastConnect_adds ..

theorem acmpHandleDisconnectRx_adds (fw : Firmware) (pdu : Buffer) (nowMs : UInt32) :
    Adds (SentBy .avdecc) fw.sent (acmpHandleDisconnectRx fw pdu nowMs).sent := by
  unfold acmpHandleDisconnectRx
  refine Adds.respond ?_ ..
  split
  · exact .refl
  · refine Adds.avdecc ?_ _
    rw [onListenerDisconnect_sent]
    exact .refl

theorem acmpHandle_adds (fw : Firmware) (pdu : Buffer) (r : Readings) (h : AcmpHandler) :
    Adds (SentBy .avdecc) fw.sent (acmpHandle fw pdu r h).sent := by
  cases h with
  | connectTx => exact acmpHandleConnectTx_adds ..
  | connectTxResponse => exact acmpHandleConnectTxResponse_adds ..
  | disconnectTx => exact acmpHandleDisconnectTx_adds ..
  | getTxState => exact Adds.refl.respond ..
  | connectRx => exact acmpHandleConnectRx_adds ..
  | disconnectRx => exact acmpHandleDisconnectRx_adds ..
  | getRxState => exact Adds.refl.respond ..

theorem aecp_adds (fw : Firmware) (frame : Buffer) (len : Nat) :
    Adds (SentBy .avdecc) fw.sent (fw.aecp frame len).sent := by
  unfold Firmware.aecp
  dsimp only
  split
  · exact ⟨_, rfl, fun f hf => List.mem_singleton.mp hf ▸ rfl⟩
  · exact .refl

theorem avdeccProcessRx_adds (fw : Firmware) (frame : Buffer) (len : Nat) (r : Readings) :
    Adds (SentBy .avdecc) fw.sent (avdeccProcessRx fw frame len r).sent := by
  have hrx := avdeccRx fw frame len r
  generalize avdeccProcessRx fw frame len r = fw' at hrx ⊢
  cases hrx with
  | ignored => exact .refl
  | uncalled => exact .refl
  | acmp _ h => exact acmpHandle_adds ..
  | aecp => exact aecp_adds ..

theorem putGptp_adds (fw : Firmware) (r : Gptp × List GptpEffect) :
    Adds (SentBy .gptp) fw.sent (fw.putGptp r).sent := by
  unfold Firmware.putGptp
  suffices ∀ (fw' : Firmware) (effects : List GptpEffect),
      Adds (SentBy .gptp) fw'.sent (effects.foldl gptpEffect fw').sent from this ..
  intro fw' effects
  induction effects generalizing fw' with
  | nil => exact .refl
  | cons effect rest ih =>
    refine Adds.trans ?_ (ih _)
    cases effect with
    | send frame => exact Adds.refl.sendAll .gptp [frame] fun _ _ => rfl
    | _ => exact .refl

/-- What a received frame is answered with comes from gPTP or AVDECC. -/
theorem dispatchRx_adds (fw : Firmware) (slot : Buffer) (len : Nat) (r : Readings) :
    Adds (fun f => SentBy .gptp f ∨ SentBy .avdecc f) fw.sent (dispatchRx fw slot len r).sent := by
  unfold dispatchRx
  dsimp only
  split
  · rename_i h _
    cases h with
    | gptp => exact (putGptp_adds ..).mono fun _ => .inl
    | avdecc => exact (avdeccProcessRx_adds ..).mono fun _ => .inr
    | crf => exact .refl
    | aaf => exact .refl
    | msrp =>
      rw [rxHandle, srpProcessRx_sent]
      exact .refl
  · exact .refl

-- ---------------------------------------------------------------------------
-- The passes of the main loop
-- ---------------------------------------------------------------------------

theorem trackLocks_adds (fw : Firmware) :
    Adds (SentBy .avdecc) fw.sent (trackLocks fw).sent := by
  unfold trackLocks
  dsimp only
  refine Adds.avdecc ?_ _
  split
  · exact Adds.refl.avdecc _
  · exact .refl

theorem runAafTxPoll_adds (fw : Firmware) (count : UInt32) (now : PtpTimestamp) :
    Adds (SentBy .aaf) fw.sent (runAafTxPoll fw count now).sent := by
  unfold runAafTxPoll
  dsimp only
  split
  · rename_i frame _
    exact Adds.refl.sendAll .aaf [frame] fun _ _ => rfl
  · exact .refl

theorem SentBy.unique {p q : Producer} {f : WireFrame} (hp : SentBy p f) (hq : SentBy q f) :
    p = q := FrameOrigin.firmware.inj (hp.symm.trans hq)

theorem SentBy.not_other {p q : Producer} (hne : p ≠ q) {f : WireFrame} (h : SentBy p f) :
    ¬ SentBy q f := fun hq => hne (h.unique hq)

/-- The modules that send in a pass. -/
def LoopStep.senders : LoopStep → List Producer
  | .dispatchRx .. => [.gptp, .avdecc]
  | .gptpPoll _ => [.gptp]
  | .srpPoll _ => [.srp]
  | .trackLocks => [.avdecc]
  | .avdeccPoll _ => [.avdecc]
  | .crfFlowWatchdog _ => [.avdecc]
  | .aafTxPoll .. => [.aaf]
  | _ => []

theorem loopStep_adds (fw : Firmware) (step : LoopStep) :
    Adds (fun f => ∀ p, SentBy p f → p ∈ step.senders) fw.sent (loopStep fw step).sent := by
  have hfrom {p : Producer} {after : List WireFrame} (hp : p ∈ step.senders)
      (h : Adds (SentBy p) fw.sent after) :
      Adds (fun f => ∀ q, SentBy q f → q ∈ step.senders) fw.sent after :=
    h.mono fun _ hf _ hq => hf.unique hq ▸ hp
  cases step with
  | dispatchRx slot len r =>
    refine (dispatchRx_adds fw slot len r).mono fun f hf p hp => ?_
    rcases hf with hf | hf
    · exact hf.unique hp ▸ .head _
    · exact hf.unique hp ▸ .tail _ (.head _)
  | gptpPoll r => exact hfrom (.head _) (putGptp_adds ..)
  | srpPoll r => exact hfrom (.head _) (Adds.refl.sendAll .srp _ fun _ _ => rfl)
  | trackLocks => exact hfrom (.head _) (trackLocks_adds fw)
  | syncVlan =>
    rw [loopStep, syncVlan_sent]
    exact .refl
  | avdeccPoll r => exact hfrom (.head _) (Adds.refl.avdecc _)
  | mcrPumpHw fifo => exact .refl
  | mcrServoUpdate => exact .refl
  | mcrWatchdogTick r => exact .refl
  | crfFlowWatchdog r => exact hfrom (.head _) (Adds.refl.avdecc _)
  | usbAafDrain words =>
    rw [loopStep]
    split
    · exact .refl
    · rw [usbAafDrain_sent]
      exact .refl
  | aafTxPoll count now =>
    rw [loopStep]
    split
    · exact .refl
    · exact hfrom (.head _) (runAafTxPoll_adds ..)
  | packetizerFrame seq pres payload =>
    rw [loopStep]
    split
    · refine ⟨_, rfl, fun f hf p hp => ?_⟩
      rw [List.mem_singleton.mp hf] at hp
      cases hp
    · exact .refl

/-- The frames a pass other than SRP's poll sends are not SRP's. -/
theorem loopStep_adds_others (fw : Firmware) (step : LoopStep) (h : ∀ r, step ≠ .srpPoll r) :
    Adds (fun f => ¬ SentBy .srp f) fw.sent (loopStep fw step).sent := by
  refine (loopStep_adds fw step).mono fun f hf hsrp => ?_
  have hmem := hf _ hsrp
  cases step with
  | srpPoll r => exact h r rfl
  | _ => simp [LoopStep.senders] at hmem

/-- SRP's poll sends what `srp_poll` returns. -/
theorem srpPoll_sent (fw : Firmware) (r : Readings) (h : fw.sent = []) :
    (loopStep fw (.srpPoll r)).sent =
      (srpPoll fw.srp r.nowMs).2.map fun bytes => ⟨.firmware .srp, bytes⟩ := by
  refine (sendAll_sent ..).trans ?_
  rw [h]
  rfl

end AvbAes3
