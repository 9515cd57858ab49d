import AvbAes3.AecpFrames
import AvbAes3.ConnectAnswers
import AvbAes3.ListenerSide

/-!
# What GET_RX_STATE tells of a listener

The response starts as a copy of the command, and the connection's fields
are written over it only when the listener is connected. The talker id a
connected listener holds is not zero in any run; the response of one that
is not connected says so exactly when the command's own fields are zero.
-/

namespace AvbAes3.RxState

open ConnectAnswers (frame_pdu)

/-- A response that says what the listener is connected to. -/
structure Tells (l : AvdeccListenerStream) (pdu : Buffer) : Prop where
  indicates : pduTalkerId pdu ≠ zeroBytes 8 ↔ l.connected
  binding : l.connected → pduTalkerId pdu = l.talkerId ∧ pduTalkerUid pdu = l.talkerUid ∧
    pduStreamId pdu = l.streamId ∧ pduStreamDestMac pdu = l.destMac ∧
    pduVlanId pdu = if l.streamVlanId ≠ 0 then l.streamVlanId else 2
  idle : l.connected = false → pduTalkerId pdu = zeroBytes 8 ∧ pduStreamId pdu = zeroBytes 8 ∧
    pduStreamDestMac pdu = zeroBytes 6

/-- A GET_RX_STATE for one of our listeners is answered with the truth. -/
def Truthful (fw : Firmware) (step : LoopStep) : Prop :=
  ∀ pdu u, acmpCall fw step = some (.getRxState, pdu) →
    listenerUid? (pduListenerUid pdu) = some u →
      ∃ frame, (mainLoop.step fw step).sent = [⟨.firmware .avdecc, frame⟩] ∧
        Tells (fw.avdecc.listeners u) ((Buffer.ofList frame).offset 14)

/-- No talker, stream or destination in the command. -/
def NamesNothing (pdu : Buffer) : Prop :=
  pduTalkerId pdu = zeroBytes 8 ∧ pduStreamId pdu = zeroBytes 8 ∧
    pduStreamDestMac pdu = zeroBytes 6

/-- A command for a listener that is not connected names nothing. -/
def AsksOpenly (fw : Firmware) (step : LoopStep) : Prop :=
  ∀ pdu u, acmpCall fw step = some (.getRxState, pdu) →
    listenerUid? (pduListenerUid pdu) = some u →
      (fw.avdecc.listeners u).connected = false → NamesNothing pdu

-- ---------------------------------------------------------------------------
-- A connected listener has a talker
-- ---------------------------------------------------------------------------

structure Named (c : ListenerSide) : Prop where
  listeners : ∀ u, (c.listeners u).connected → (c.listeners u).talkerId ≠ zeroBytes 8
  resolves : ∀ i, (c.resolves i).active → (c.resolves i).talkerId ≠ zeroBytes 8

section Step

variable {c : ListenerSide}

theorem Named.listen (h : Named c) (u : ListenerUid) (l : AvdeccListenerStream)
    (hl : l.talkerId ≠ zeroBytes 8) (streamId : StreamId) (destMac : MacAddr)
    (talkerId : EntityId) (known : Option SrpRemoteTalker) :
    Named ((c.setListener u l).listen u streamId destMac talkerId known) where
  listeners v hv := by
    by_cases hu : v = u
    · subst hu
      rw [ListenerSide.listen_same _ _ _ _ _ AvdeccListenerStream.talkerId fun _ _ _ => rfl,
        ListenerSide.setListener_self]
      exact hl
    · have hother := ((c.setListener u l).listen_other streamId destMac talkerId known hu).1
      rw [hother, ListenerSide.setListener_other _ hu] at hv ⊢
      exact h.listeners v hv
  resolves i hi := by
    rw [ListenerSide.listen_resolves] at hi ⊢
    exact h.resolves i hi

theorem Named.setResolve (h : Named c) (i : ListenerUid) {r : AvdeccResolve}
    (hr : r.active → r.talkerId ≠ zeroBytes 8) : Named (c.setResolve i r) where
  listeners := h.listeners
  resolves j hj := by
    by_cases hij : j = i
    · subst hij
      rw [ListenerSide.setResolve_self] at hj ⊢
      exact hr hj
    · rw [ListenerSide.setResolve_other _ hij] at hj ⊢
      exact h.resolves j hj

theorem Named.complete (h : Named c) (i : ListenerUid) (t : SrpRemoteTalker) :
    Named (c.complete i t) := by
  unfold ListenerSide.complete
  dsimp only
  split
  · generalize (c.pending i).uid = u
    refine ⟨fun v hv => ?_, h.resolves⟩
    by_cases hu : v = u
    · subst hu
      rw [ListenerSide.setPending_listeners] at hv ⊢
      rw [ListenerSide.learn_same _ _ AvdeccListenerStream.connected fun _ _ _ => rfl,
        ListenerSide.setListener_self] at hv
      rw [ListenerSide.learn_same _ _ AvdeccListenerStream.talkerId fun _ _ _ => rfl,
        ListenerSide.setListener_self]
      exact h.listeners v hv
    · rw [ListenerSide.setPending_listeners, ListenerSide.learn_other _ _ hu,
        ListenerSide.setListener_other _ hu] at hv ⊢
      exact h.listeners v hv
  · exact h

theorem Named.apply (h : Named c) {op : ListenerOp} (hop : op.Sound c) : Named (c.apply op) := by
  cases op with
  | connect u talkerId talkerUid streamId destMac known =>
    refine h.listen u _ ?_ ..
    exact hop
  | resolve u r => exact h.setResolve u fun _ => hop
  | answer i success streamId destMac vlanId known =>
    cases success with
    | false => exact h.setResolve i Bool.noConfusion
    | true => exact (h.listen _ _ (h.resolves i hop) ..).setResolve i Bool.noConfusion
  | timeOut i => exact h.setResolve i Bool.noConfusion
  | disconnect u =>
    refine ⟨fun v hv => ?_, h.resolves⟩
    rw [ListenerSide.apply, ListenerSide.disconnect, ListenerSide.stopWaiting,
      ListenerSide.setPending_listeners] at hv ⊢
    by_cases hu : v = u
    · subst hu
      rw [ListenerSide.setListener_self] at hv
      cases hv
    · rw [ListenerSide.setListener_other _ hu] at hv ⊢
      exact h.listeners v hv
  | advertise t => exact (h.complete _ t).complete _ t

end Step

theorem Named.step {fw : Firmware} (h : Named fw.listenerSide) (step : LoopStep) :
    Named (mainLoop.step fw step).listenerSide :=
  listenerSide_invariant h (fun _ _ hsound => h.apply hsound) fun c op hc hevent => by
    refine hc.apply ?_
    cases op with
    | advertise | timeOut => trivial
    | _ => cases hevent

theorem named_boot : Named boot.listenerSide where
  listeners _ hu := by cases hu
  resolves _ hi := by cases hi

-- ---------------------------------------------------------------------------
-- The response
-- ---------------------------------------------------------------------------

section Response

variable {p : Buffer}

theorem holds_copy_other {at_ off : Nat} {bytes other : List UInt8} (h : p.Holds at_ bytes)
    (hdisjoint : at_ + bytes.length ≤ off ∨ off + other.length ≤ at_) :
    (p.copy off other).Holds at_ bytes := by
  intro i hi
  rw [Buffer.copy_outside (by omega)]
  exact h i hi

/-- Fields in front of or behind each other. -/
def Disjoint (f g : Nat × List UInt8) : Prop :=
  f.1 + f.2.length ≤ g.1 ∨ g.1 + g.2.length ≤ f.1

theorem holds_fields {fields : List (Nat × List UInt8)} (h : fields.Pairwise Disjoint)
    {f : Nat × List UInt8} (hf : f ∈ fields) :
    (fields.foldl (fun b g => b.copy g.1 g.2) p).Holds f.1 f.2 := by
  induction fields using List.reverseRecOn with
  | nil => cases hf
  | append_singleton rest g ih =>
    obtain ⟨hrest, -, hlast⟩ := List.pairwise_append.mp h
    rw [List.foldl_append]
    rcases List.mem_append.mp hf with hf | hf
    · exact holds_copy_other (ih hrest hf) (hlast f hf g (List.mem_singleton_self g))
    · obtain rfl := List.mem_singleton.mp hf
      exact Buffer.holds_copy_at _ _ _

/-- Fields in front of the connection count, or of the stream, as they were. -/
theorem fields_congr {p' : Buffer} (h : ∀ i, 4 ≤ i → i < 46 → p' i = p i) :
    pduTalkerId p' = pduTalkerId p ∧ pduStreamId p' = pduStreamId p ∧
      pduStreamDestMac p' = pduStreamDestMac p ∧ pduListenerUid p' = pduListenerUid p := by
  refine ⟨Buffer.bytes_congr fun i hi => h _ ?_ ?_, Buffer.bytes_congr fun i hi => h _ ?_ ?_,
    Buffer.bytes_congr fun i hi => h _ ?_ ?_, getBe16_congr fun i hi => h _ ?_ ?_⟩
  all_goals
    simp only [acmpOffTalkerId, acmpOffStreamId, acmpOffStreamDestMac, acmpOffListenerUid]
    omega

end Response

/-- The PDU the response is sent with. -/
def response (s : Avdecc) (pdu : Buffer) : Buffer :=
  fillListenerResponse s ((pdu.copy 0 [avtpSubtypeAcmp, acmpMsgGetRxStateResponse &&& 0x0F]).copy 2
    (be16 (statusCdl acmpStatusSuccess acmpControlDataLen)))

/-- Only the first four bytes are written before the listener's fields. -/
theorem response_filled (s : Avdecc) (pdu : Buffer) :
    ∃ p, response s pdu = fillListenerResponse s p ∧ (∀ i, 4 ≤ i → p i = pdu i) ∧
      getBe16 (p.offset acmpOffListenerUid) = pduListenerUid pdu := by
  have hheader (i : Nat) (hi : 4 ≤ i) :
      ((pdu.copy 0 [avtpSubtypeAcmp, acmpMsgGetRxStateResponse &&& 0x0F]).copy 2
        (be16 (statusCdl acmpStatusSuccess acmpControlDataLen))) i = pdu i := by
    rw [Buffer.copy_outside (.inr hi), Buffer.copy_outside (.inr (Nat.le_of_lt (by simp; omega)))]
  obtain ⟨-, -, -, hlistener⟩ := fields_congr fun i hi _ => hheader i hi
  exact ⟨_, rfl, hheader, hlistener⟩

theorem response_idle {s : Avdecc} {pdu : Buffer} {u : ListenerUid}
    (hu : listenerUid? (pduListenerUid pdu) = some u) (hidle : (s.listeners u).connected = false) :
    pduTalkerId (response s pdu) = pduTalkerId pdu ∧
      pduStreamId (response s pdu) = pduStreamId pdu ∧
      pduStreamDestMac (response s pdu) = pduStreamDestMac pdu := by
  obtain ⟨p, hresponse, hheader, hlistener⟩ := response_filled s pdu
  rw [hresponse, fillListenerResponse, hlistener, hu]
  dsimp only
  rw [if_neg (by rw [hidle]; decide)]
  have hfields := @fields_congr pdu (p.copy acmpOffConnCount (be16 (s.listeners u).connectionCount))
    fun i hi hlt => (Buffer.copy_outside (.inl hlt)).trans (hheader i hi)
  exact ⟨hfields.1, hfields.2.1, hfields.2.2.1⟩

/-- What is written of a connection. -/
def connectionFields (l : AvdeccListenerStream) (vid : UInt16) : List (Nat × List UInt8) :=
  [(acmpOffTalkerId, l.talkerId.toList), (acmpOffTalkerUid, be16 l.talkerUid),
    (acmpOffStreamId, l.streamId.toList), (acmpOffStreamDestMac, l.destMac.toList),
    (acmpOffVlanId, be16 vid), (acmpOffFlags, be16 acmpFlagsConnected)]

theorem connectionFields_disjoint (l : AvdeccListenerStream) (vid : UInt16) :
    (connectionFields l vid).Pairwise Disjoint := by
  simp [connectionFields, Disjoint, acmpOffTalkerId, acmpOffTalkerUid, acmpOffStreamId,
    acmpOffStreamDestMac, acmpOffVlanId, acmpOffFlags]

theorem connection_fields (q : Buffer) (l : AvdeccListenerStream) (vid : UInt16) :
    let p := (connectionFields l vid).foldl (fun b f => b.copy f.1 f.2) q
    pduTalkerId p = l.talkerId ∧ pduTalkerUid p = l.talkerUid ∧ pduStreamId p = l.streamId ∧
      pduStreamDestMac p = l.destMac ∧ pduVlanId p = vid := by
  intro p
  have hwritten {f : Nat × List UInt8} (hf : f ∈ connectionFields l vid) : p.Holds f.1 f.2 :=
    holds_fields (connectionFields_disjoint l vid) hf
  have htalkerId : p.Holds acmpOffTalkerId l.talkerId.toList := hwritten (.head _)
  have htalkerUid : p.Holds acmpOffTalkerUid (be16 l.talkerUid) := hwritten (.tail _ (.head _))
  have hstreamId : p.Holds acmpOffStreamId l.streamId.toList :=
    hwritten (.tail _ (.tail _ (.head _)))
  have hdestMac : p.Holds acmpOffStreamDestMac l.destMac.toList :=
    hwritten (.tail _ (.tail _ (.tail _ (.head _))))
  have hvid : p.Holds acmpOffVlanId (be16 vid) :=
    hwritten (.tail _ (.tail _ (.tail _ (.tail _ (.head _)))))
  exact ⟨(Buffer.holds_offset.mpr htalkerId).bytes, htalkerUid.getBe16,
    (Buffer.holds_offset.mpr hstreamId).bytes, (Buffer.holds_offset.mpr hdestMac).bytes,
    hvid.getBe16⟩

theorem response_connected {s : Avdecc} {pdu : Buffer} {u : ListenerUid}
    (hu : listenerUid? (pduListenerUid pdu) = some u) (h : (s.listeners u).connected) :
    pduTalkerId (response s pdu) = (s.listeners u).talkerId ∧
      pduTalkerUid (response s pdu) = (s.listeners u).talkerUid ∧
      pduStreamId (response s pdu) = (s.listeners u).streamId ∧
      pduStreamDestMac (response s pdu) = (s.listeners u).destMac ∧
      pduVlanId (response s pdu) =
        if (s.listeners u).streamVlanId ≠ 0 then (s.listeners u).streamVlanId else 2 := by
  obtain ⟨p, hresponse, hheader, hlistener⟩ := response_filled s pdu
  rw [hresponse, fillListenerResponse, hlistener, hu]
  dsimp only
  rw [if_pos h]
  generalize s.listeners u = l
  generalize (if l.streamVlanId ≠ 0 then l.streamVlanId else 2) = vid
  generalize p.copy acmpOffConnCount _ = q
  -- each field is behind or in front of those written after it
  exact connection_fields q l vid

/-- The one frame of the step is the response, behind an Ethernet header. -/
theorem response_sent {fw : Firmware} {step : LoopStep} {pdu : Buffer}
    (hcall : acmpCall fw step = some (.getRxState, pdu)) :
    ∃ frame, (mainLoop.step fw step).sent = [⟨.firmware .avdecc, frame⟩] ∧
      ∀ i < acmpduLen, (Buffer.ofList frame).offset 14 i = response fw.avdecc pdu i := by
  obtain ⟨_, _, _, scratch, -, hstep⟩ := mainLoopStep_acmp hcall
  refine ⟨avdeccEthHdr fw.avdecc.srcMac ++ (response fw.avdecc pdu).take acmpduLen, ?_,
    fun i hi => frame_pdu _ _ hi⟩
  have hsent : (mainLoop.step fw step).sent = (mainLoopStep fw step).sent := rfl
  rw [hsent, hstep, acmpHandle, acmpHandleGetRxState, Firmware.respond, Firmware.putAvdecc,
    sendAll_sent]
  rfl

/-- What is told of the listener is read of the response. -/
theorem Tells.congr {l : AvdeccListenerStream} {p p' : Buffer} (htells : Tells l p)
    (h : ∀ i < acmpduLen, p' i = p i) : Tells l p' := by
  obtain ⟨hindicates, hbinding, hidle⟩ := htells
  have hbefore : ∀ i < 54, p' i = p i := fun i hi => h i (Nat.lt_of_lt_of_le hi (by decide))
  obtain ⟨htalkerId, hstreamId, hdestMac, -⟩ :=
    fields_congr fun i _ hi => hbefore i (Nat.lt_trans hi (by decide))
  have htalkerUid : pduTalkerUid p' = pduTalkerUid p :=
    getBe16_congr fun i hi => hbefore _ (by unfold acmpOffTalkerUid; omega)
  have hvlanId : pduVlanId p' = pduVlanId p :=
    getBe16_congr fun i hi => hbefore _ (by unfold acmpOffVlanId; omega)
  rw [← htalkerId] at hindicates
  rw [← htalkerId, ← htalkerUid, ← hstreamId, ← hdestMac, ← hvlanId] at hbinding
  rw [← htalkerId, ← hstreamId, ← hdestMac] at hidle
  exact ⟨hindicates, hbinding, hidle⟩

theorem truthful_iff_tells {fw : Firmware} {step : LoopStep} :
    Truthful fw step ↔ ∀ pdu u, acmpCall fw step = some (.getRxState, pdu) →
      listenerUid? (pduListenerUid pdu) = some u →
        Tells (fw.avdecc.listeners u) (response fw.avdecc pdu) := by
  constructor
  · intro h pdu u hcall hu
    obtain ⟨frame, hsent, htells⟩ := h pdu u hcall hu
    obtain ⟨frame', hsent', hframe⟩ := response_sent hcall
    obtain rfl : frame = frame' := by
      simpa using hsent.symm.trans hsent'
    exact htells.congr fun i hi => (hframe i hi).symm
  · intro h pdu u hcall hu
    obtain ⟨frame, hsent, hframe⟩ := response_sent hcall
    exact ⟨frame, hsent, (h pdu u hcall hu).congr hframe⟩

-- ---------------------------------------------------------------------------
-- The truth
-- ---------------------------------------------------------------------------

/-- A connected listener's response tells of it; another's tells nothing
exactly when the command does. -/
theorem tells_iff {s : Avdecc} {pdu : Buffer} {u : ListenerUid}
    (hu : listenerUid? (pduListenerUid pdu) = some u)
    (hnamed : (s.listeners u).connected → (s.listeners u).talkerId ≠ zeroBytes 8) :
    Tells (s.listeners u) (response s pdu) ↔
      ((s.listeners u).connected = false → NamesNothing pdu) := by
  cases hconnected : (s.listeners u).connected with
  | true =>
    have hbinding := response_connected hu hconnected
    refine iff_of_true ⟨iff_of_true ?_ hconnected, fun _ => hbinding, ?_⟩ Bool.noConfusion
    · rw [hbinding.1]
      exact hnamed hconnected
    · rw [hconnected]
      exact Bool.noConfusion
  | false =>
    obtain ⟨htalkerId, hstreamId, hdestMac⟩ := response_idle hu hconnected
    constructor
    · rintro ⟨-, -, hidle⟩ -
      rw [htalkerId, hstreamId, hdestMac] at hidle
      exact hidle hconnected
    · intro h
      obtain ⟨hno, hstream, hdest⟩ := h rfl
      refine ⟨?_, ?_, fun _ => ⟨htalkerId.trans hno, hstreamId.trans hstream,
        hdestMac.trans hdest⟩⟩
      · rw [htalkerId, hconnected]
        exact iff_of_false (absurd hno) Bool.noConfusion
      · rw [hconnected]
        exact Bool.noConfusion

/-- GET_RX_STATE tells the truth throughout a run exactly when each command
for a listener that is not connected names no talker, stream or destination. -/
theorem truthful_run_iff (run : List LoopStep) :
    mainLoop.Steps Truthful run ↔ mainLoop.Steps AsksOpenly run := by
  refine Machine.steps_congr (fun fw => Named fw.listenerSide) named_boot
    (fun fw step h _ => h.step step) (fun fw step h => ?_) run
  rw [truthful_iff_tells]
  exact forall_congr' fun pdu => forall_congr' fun u => forall_congr' fun _ =>
    forall_congr' fun hu => tells_iff hu (h.listeners u)

/-- A controller asks for the CRF listener and names a talker. -/
def namingCommand : LoopStep :=
  receiveAcmp
    { msgType := acmpMsgGetRxStateCommand
      controllerId := zeroBytes 8
      talkerId := eightBytes 0x00 0x1B 0x21 0xFF 0xFE 0x00 0x00 0x0A
      listenerId := boot.avdecc.entityId
      talkerUid := 0
      listenerUid := 0
      seqId := 0 }

/-- The talker it names is what it is told, and no listener is connected. -/
theorem namingCommand_believed : ¬ mainLoop.Steps Truthful [namingCommand] := by
  intro h
  have htold := truthful_iff_tells.mp (@Machine.Steps.at _ _ mainLoop _ [] _ _ h)
  have hread : (acmpCall boot namingCommand).map (fun call =>
      (call.1, listenerUid? (pduListenerUid call.2), pduTalkerId call.2)) =
        some (.getRxState, some listenerUidCrf,
          eightBytes 0x00 0x1B 0x21 0xFF 0xFE 0x00 0x00 0x0A) := by
    decide +kernel
  obtain ⟨⟨handler, pdu⟩, hcall, hpdu⟩ := Option.map_eq_some_iff.mp hread
  obtain ⟨rfl, hu, htalkerId⟩ : handler = .getRxState ∧ listenerUid? (pduListenerUid pdu) =
      some listenerUidCrf ∧ pduTalkerId pdu = _ := by simpa using hpdu
  have hidle := (htold pdu listenerUidCrf hcall hu).idle rfl
  rw [(response_idle hu rfl).1, htalkerId] at hidle
  exact absurd hidle.1 (by decide)

end AvbAes3.RxState
