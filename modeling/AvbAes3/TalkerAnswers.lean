import AvbAes3.MainLoop

/-!
# Which answers bind a listener

`acmp_handle_connect_tx_response` takes any CONNECT_TX_RESPONSE with our
listener entity id and the sequence number of an active resolve for the
answer to it. ACMP is multicast, so responses to other controllers and from
other talkers arrive too. What a listener is bound by was asked for if no
such response arrives with success.
-/

namespace AvbAes3.TalkerAnswers

-- ---------------------------------------------------------------------------
-- What was asked
-- ---------------------------------------------------------------------------

/-- The response is to the CONNECT_TX_COMMAND that the listener's resolve is
waiting for. -/
structure Asked (s : Avdecc) (u : ListenerUid) (pdu : Buffer) : Prop where
  active : (s.resolves u).active
  controllerId : pduControllerId pdu = s.entityId
  talkerId : pduTalkerId pdu = (s.resolves u).talkerId
  talkerUid : pduTalkerUid pdu = (s.resolves u).talkerUid
  listenerUid : pduListenerUid pdu = u.toUInt16

/-- A listener whose record a CONNECT_TX_RESPONSE changes has asked for it. -/
def BindsAsked (fw : Firmware) (step : LoopStep) : Prop :=
  ∀ pdu, acmpCall fw step = some (.connectTxResponse, pdu) → ∀ u,
    (mainLoopStep fw step).avdecc.listeners u ≠ fw.avdecc.listeners u → Asked fw.avdecc u pdu

/-- A response with success that matches a resolve by listener entity and
sequence number has been asked for. -/
def NoStray (fw : Firmware) (step : LoopStep) : Prop :=
  ∀ pdu, acmpCall fw step = some (.connectTxResponse, pdu) → ∀ i, answeredResolve fw.avdecc pdu = some i →
    pduStatus pdu = acmpStatusSuccess → Asked fw.avdecc (fw.avdecc.resolves i).listenerUid pdu

-- ---------------------------------------------------------------------------
-- What a response changes
-- ---------------------------------------------------------------------------

theorem learnStream_listeners (fw : Firmware) (uid : ListenerUid) (streamId : StreamId)
    (v : ListenerUid) :
    ((learnStream fw uid streamId).avdecc.listeners v).connectionCount =
        (fw.avdecc.listeners v).connectionCount ∧
      (v ≠ uid → (learnStream fw uid streamId).avdecc.listeners v = fw.avdecc.listeners v) := by
  unfold learnStream
  split
  · exact ⟨rfl, fun _ => rfl⟩
  · refine ⟨?_, fun hv => Function.update_of_ne hv ..⟩
    show (Function.update fw.avdecc.listeners uid _ v).connectionCount = _
    by_cases hv : v = uid
    · rw [hv, Function.update_self]
    · rw [Function.update_of_ne hv]

theorem bindEngine_avdecc (fw : Firmware) (uid : ListenerUid) (streamId : StreamId)
    (destMac : MacAddr) : (bindEngine fw uid streamId destMac).avdecc = fw.avdecc := by
  unfold bindEngine
  split <;> rfl

/-- The callback fills in what the registrar knows of the stream. -/
theorem onListenerConnect_listeners (fw : Firmware) (uid : ListenerUid) (streamId : StreamId)
    (destMac : MacAddr) (talkerId : EntityId) (nowMs : UInt32) (v : ListenerUid) :
    let fw' := onListenerConnect fw uid streamId destMac talkerId nowMs
    (fw'.avdecc.listeners v).connectionCount = (fw.avdecc.listeners v).connectionCount ∧
      (v ≠ uid → fw'.avdecc.listeners v = fw.avdecc.listeners v) := by
  unfold onListenerConnect
  split
  · exact ⟨rfl, fun _ => rfl⟩
  · dsimp only
    rw [bindEngine_avdecc]
    exact learnStream_listeners ..

theorem count_ne_succ (n : UInt16) : n ≠ n + 1 := by
  intro h
  have hn := congrArg UInt16.toNat h
  have hlt := n.toNat_lt
  rw [UInt16.toNat_add] at hn
  have hone : (1 : UInt16).toNat = 1 := rfl
  omega

/-- The count of connections alone tells that the record has changed. -/
theorem connectResolved_listeners (fw : Firmware) (r : AvdeccResolve) (pdu : Buffer)
    (nowMs : UInt32) (v : ListenerUid) :
    (connectResolved fw r pdu nowMs).avdecc.listeners v ≠ fw.avdecc.listeners v ↔
      r.listenerUid = v := by
  unfold connectResolved
  dsimp only
  rw [putAvdecc_avdecc]
  generalize hconnected : onListenerConnect _ r.listenerUid _ _ r.talkerId nowMs = fw'
  have hlisteners : (notifyListenerConnected fw'.avdecc r.listenerUid).1.listeners =
      fw'.avdecc.listeners :=
    congrArg AvdeccConnections.listeners (notifyListenerConnected_connections ..)
  have hcallback := hconnected ▸ onListenerConnect_listeners _ r.listenerUid _ _ r.talkerId nowMs v
  rw [hlisteners]
  constructor
  · intro hne
    by_contra hv
    refine hne ((hcallback.2 (Ne.symm hv)).trans ?_)
    exact Function.update_of_ne (Ne.symm hv) ..
  · rintro rfl heq
    have hcount := hcallback.1
    rw [heq] at hcount
    refine count_ne_succ _ (hcount.trans ?_)
    show (Function.update fw.avdecc.listeners r.listenerUid _ _).connectionCount = _
    rw [Function.update_self]

theorem connectTxResponse_listeners (fw : Firmware) (pdu : Buffer) (nowMs : UInt32)
    (v : ListenerUid) :
    (acmpHandleConnectTxResponse fw pdu nowMs).avdecc.listeners v ≠ fw.avdecc.listeners v ↔
      ∃ i, answeredResolve fw.avdecc pdu = some i ∧ pduStatus pdu = acmpStatusSuccess ∧
        (fw.avdecc.resolves i).listenerUid = v := by
  unfold acmpHandleConnectTxResponse
  cases hanswered : answeredResolve fw.avdecc pdu with
  | none => simp
  | some i =>
    dsimp only
    rw [putAvdecc_avdecc]
    have hkept (s : Avdecc) (r r' : AvdeccResolve) (status : UInt8) (streamId : StreamId)
        (destMac : MacAddr) (vlanId : UInt16) :
        ((sendDeferredConnectRxResponse s r status streamId destMac vlanId).1.setResolve i
          r').listeners = s.listeners := rfl
    rw [hkept]
    by_cases hsuccess : pduStatus pdu = acmpStatusSuccess
    · rw [if_pos hsuccess, connectResolved_listeners]
      simp [hsuccess]
    · rw [if_neg hsuccess]
      simp [hsuccess]

theorem step_listeners {fw : Firmware} {step : LoopStep} {pdu : Buffer}
    (h : acmpCall fw step = some (.connectTxResponse, pdu)) (v : ListenerUid) :
    (mainLoopStep fw step).avdecc.listeners v ≠ fw.avdecc.listeners v ↔
      ∃ i, answeredResolve fw.avdecc pdu = some i ∧ pduStatus pdu = acmpStatusSuccess ∧
        (fw.avdecc.resolves i).listenerUid = v := by
  obtain ⟨_, _, _, _, -, hstep⟩ := mainLoopStep_acmp h
  rw [hstep]
  exact connectTxResponse_listeners ..

-- ---------------------------------------------------------------------------
-- Runs
-- ---------------------------------------------------------------------------

theorem bindsAsked_iff (fw : Firmware) (step : LoopStep) :
    BindsAsked fw step ↔ NoStray fw step := by
  constructor
  · intro h pdu hpdu i hi hsuccess
    exact h pdu hpdu _ ((step_listeners hpdu _).mpr ⟨i, hi, hsuccess, rfl⟩)
  · intro h pdu hpdu u hu
    obtain ⟨i, hi, hsuccess, rfl⟩ := (step_listeners hpdu u).mp hu
    exact h pdu hpdu i hi hsuccess

/-- In a run, listeners are bound by nothing but what was asked for if and
only if no stray response arrives. -/
theorem bindsAsked_iff_noStray (run : List LoopStep) :
    mainLoop.Steps BindsAsked run ↔ mainLoop.Steps NoStray run :=
  Machine.steps_congr (fun _ => True) trivial (fun _ _ _ _ => trivial)
    (fun fw step _ => bindsAsked_iff fw step) run

-- ---------------------------------------------------------------------------
-- A run
-- ---------------------------------------------------------------------------

def talkerEntity : EntityId := eightBytes 0x00 0x1B 0x21 0xFF 0xFE 0x00 0x00 0x0A
def otherTalker : EntityId := eightBytes 0x00 0x1B 0x21 0xFF 0xFE 0x00 0x00 0x0B
def controller : EntityId := eightBytes 0x00 0x1B 0x21 0xFF 0xFE 0x00 0x00 0x0C

/-- A controller asks us to connect, and we ask the talker, as number 0. -/
def slowConnectRx : LoopStep :=
  receiveAcmp
    { msgType := acmpMsgConnectRxCommand
      controllerId := controller
      talkerId := talkerEntity
      listenerId := boot.avdecc.entityId
      talkerUid := 0
      listenerUid := 0
      seqId := 7 }

/-- Another talker answers the controller's own CONNECT_TX_COMMAND, its
number 0. -/
def strayAnswer : LoopStep :=
  receiveAcmp
    { msgType := acmpMsgConnectTxResponse
      streamId := eightBytes 0x00 0x1B 0x21 0x00 0x00 0x0B 0x00 0x01
      controllerId := controller
      talkerId := otherTalker
      listenerId := boot.avdecc.entityId
      talkerUid := 0
      listenerUid := 1
      streamDestMac := sixBytes 0x91 0xE0 0xF0 0x00 0xFE 0x0B
      seqId := 0 }

/-- The response is taken for the answer to our number 0. -/
theorem strayAnswer_matches :
    (acmpCall (mainLoop.run [slowConnectRx]) strayAnswer).any fun call =>
      decide (call.1 = .connectTxResponse) &&
        (answeredResolve (mainLoop.run [slowConnectRx]).avdecc call.2).isSome &&
        decide (pduStatus call.2 = acmpStatusSuccess) &&
        decide (pduControllerId call.2 ≠ (mainLoop.run [slowConnectRx]).avdecc.entityId) := by
  decide +kernel

theorem bound_by_stray : ¬ mainLoop.Steps BindsAsked [slowConnectRx, strayAnswer] := by
  rw [bindsAsked_iff_noStray]
  rintro ⟨-, hstray, -⟩
  obtain ⟨⟨handler, pdu⟩, hcall, hmatches⟩ := (Option.any_eq_true ..).mp strayAnswer_matches
  simp only [Bool.and_eq_true, decide_eq_true_eq] at hmatches
  obtain ⟨⟨⟨rfl, hanswers⟩, hsuccess⟩, hcontroller⟩ := hmatches
  obtain ⟨i, hi⟩ := Option.isSome_iff_exists.mp hanswers
  exact hcontroller (hstray pdu hcall i hi hsuccess).controllerId

end AvbAes3.TalkerAnswers
