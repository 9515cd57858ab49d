import AvbAes3.ListenerSide

/-!
# The stream a VLAN and a latency were learned of

Beside the firmware, which stream each listener's VLAN and latency were last
learned of: by the talker's answer that binds it, or from the registrar. A
connect that learns nothing anew leaves both in place, so they belong to the
listener's stream exactly in the runs in which such a connect finds nothing
of another stream.
-/

namespace AvbAes3.LearnedFacts

/-- The streams a listener's VLAN and latency were learned of, if ever. -/
structure LearnedOf where
  vlan : Option StreamId := none
  latency : Option StreamId := none
  deriving DecidableEq

abbrev History := ListenerUid → LearnedOf

namespace History

/-- What the registrar knows, it knows of the stream of its entry. -/
def learn (h : History) (u : ListenerUid) : Option SrpRemoteTalker → History
  | none => h
  | some t => Function.update h u ⟨some t.streamId, some t.streamId⟩

def listen (h : History) (u : ListenerUid) (streamId : StreamId)
    (known : Option SrpRemoteTalker) : History :=
  if streamIdIsZero streamId then h else h.learn u known

/-- The talker's answer names the VLAN of the stream. -/
def answered (h : History) (u : ListenerUid) (streamId : StreamId) : History :=
  Function.update h u { h u with vlan := some streamId }

def complete (h : History) (c : ListenerSide) (i : ListenerUid) (t : SrpRemoteTalker) : History :=
  let p := c.pending i
  if p.active ∧ destOrEidMatch p t.streamId t.destMac then h.learn p.uid (some t) else h

def note (h : History) (c : ListenerSide) : ListenerOp → History
  | .connect u _ _ streamId _ known => h.listen u streamId known
  | .answer i success streamId _ _ known =>
    let u := (c.resolves i).listenerUid
    if success then (h.answered u streamId).listen u streamId known else h
  | .advertise t =>
    (h.complete c listenerUidCrf t).complete (c.complete listenerUidCrf t) listenerUidAaf t
  | .resolve .. | .timeOut _ | .disconnect _ => h

end History

/-- The listeners alone, with what they learned of. -/
def listenerHistory : Machine (ListenerSide × History) ListenerOp :=
  listenerMachine.withHistory (fun _ => {}) fun h c op => h.note c op

/-- The main loop, with what its listeners learned of. -/
def learned : Machine (Firmware × History) LoopStep :=
  mainLoop.withHistory (fun _ => {}) fun h fw step =>
    (listenerHistory.runFrom (fw.listenerSide, h) (listenerOps fw step)).2

/-- A VLAN and a latency that are reported were learned of the stream. -/
structure OfStream (l : AvdeccListenerStream) (of : LearnedOf) : Prop where
  vlan : l.streamVlanId ≠ 0 → of.vlan = some l.streamId
  latency : l.msrpAccumulatedLatencyNs ≠ 0 → of.latency = some l.streamId

/-- Of every connected listener. -/
def Belongs (c : ListenerSide × History) : Prop :=
  ∀ u, (c.1.listeners u).connected → OfStream (c.1.listeners u) (c.2 u)

/-- The registrar is asked, and knows the stream. -/
def Relearns (streamId : StreamId) (known : Option SrpRemoteTalker) : Prop :=
  streamIdIsZero streamId = false ∧ known ≠ none

/-- A connect that learns nothing anew finds a VLAN and a latency of its own
stream, or none; the talker's answer always brings a VLAN. -/
def FindsOwn (c : ListenerSide × History) : ListenerOp → Prop
  | .connect u _ _ streamId _ known =>
    Relearns streamId known ∨ OfStream { c.1.listeners u with streamId := streamId } (c.2 u)
  | .answer i success streamId _ _ known =>
    let u := (c.1.resolves i).listenerUid
    success → Relearns streamId known ∨
      ((c.1.listeners u).msrpAccumulatedLatencyNs ≠ 0 → (c.2 u).latency = some streamId)
  | .resolve .. | .timeOut _ | .disconnect _ | .advertise _ => True

-- ---------------------------------------------------------------------------
-- The registrar's entries
-- ---------------------------------------------------------------------------

/-- What is known of the stream is the entry of that stream. -/
def KnowsStream : ListenerOp → Prop
  | .connect _ _ _ streamId _ known | .answer _ _ streamId _ _ known =>
    ∀ t ∈ known, t.streamId = streamId
  | .resolve .. | .timeOut _ | .disconnect _ | .advertise _ => True

theorem acmpListenerOps_knowsStream {fw : Firmware} {pdu : Buffer} {nowMs : UInt32}
    {h : AcmpHandler} {op : ListenerOp} (hop : op ∈ acmpListenerOps fw pdu nowMs h) :
    KnowsStream op := by
  have hfound : ∀ t ∈ srpFindTalker fw.srp (pduStreamId pdu), t.streamId = pduStreamId pdu :=
    fun t ht => srpFindTalker_streamId ht
  cases h with
  | connectTxResponse =>
    unfold acmpListenerOps at hop
    dsimp only at hop
    split at hop
    · cases hop
    · obtain rfl := List.mem_singleton.mp hop
      exact hfound
  | connectRx =>
    unfold acmpListenerOps at hop
    dsimp only at hop
    split at hop
    · cases hop
    split at hop
    · obtain rfl := List.mem_singleton.mp hop
      trivial
    split at hop
    · cases hop
    · obtain rfl := List.mem_singleton.mp hop
      exact hfound
  | disconnectRx =>
    unfold acmpListenerOps at hop
    dsimp only at hop
    split at hop
    · cases hop
    · obtain rfl := List.mem_singleton.mp hop
      trivial
  | connectTx | disconnectTx | getTxState | getRxState => cases hop

theorem knowsStream_event {op : ListenerOp} (h : op.IsEvent) : KnowsStream op := by
  cases op with
  | advertise | timeOut => trivial
  | _ => cases h

theorem listenerOps_knowsStream {fw : Firmware} {step : LoopStep} {op : ListenerOp}
    (h : op ∈ listenerOps fw step) : KnowsStream op := by
  cases step with
  | dispatchRx slot len r =>
    unfold listenerOps at h
    dsimp only at h
    split at h
    · rename_i handler _
      cases handler with
      | avdecc =>
        unfold rxListenerOps avdeccListenerOps at h
        dsimp only at h
        split at h
        · split at h
          · exact acmpListenerOps_knowsStream h
          · cases h
        · cases h
      | msrp =>
        unfold rxListenerOps msrpListenerOps at h
        dsimp only at h
        split at h
        · obtain ⟨v, -, rfl⟩ := List.mem_map.mp h
          trivial
        · cases h
      | gptp | crf | aaf => cases h
    · cases h
  | avdeccPoll r =>
    have htimeOut {i : ListenerUid} (hmem : op ∈ timeOutListenerOps fw.avdecc r.nowMs i) :
        KnowsStream op := by
      unfold timeOutListenerOps at hmem
      split at hmem
      · obtain rfl := List.mem_singleton.mp hmem
        trivial
      · cases hmem
    exact (List.mem_append.mp h).elim htimeOut htimeOut
  | _ => cases h

-- ---------------------------------------------------------------------------
-- One operation
-- ---------------------------------------------------------------------------

section Operation

variable {c : ListenerSide} {h : History} {u v : ListenerUid}

theorem History.learn_other (h : History) (hv : v ≠ u) (known : Option SrpRemoteTalker) :
    h.learn u known v = h v := by
  cases known with
  | none => rfl
  | some t => exact Function.update_of_ne hv ..

theorem History.listen_other (h : History) (hv : v ≠ u) (streamId : StreamId)
    (known : Option SrpRemoteTalker) : h.listen u streamId known v = h v := by
  unfold History.listen
  split
  · rfl
  · exact h.learn_other hv known

/-- A listener starts on a stream with what is learned anew, or what it had. -/
theorem listen_ofStream {l : AvdeccListenerStream} {known : Option SrpRemoteTalker}
    (hl : l.streamId = streamId) (hknown : ∀ t ∈ known, t.streamId = streamId)
    (destMac : MacAddr) (talkerId : EntityId) :
    OfStream (((c.setListener u l).listen u streamId destMac talkerId known).listeners u)
        (h.listen u streamId known u) ↔
      Relearns streamId known ∨ OfStream l (h u) := by
  unfold ListenerSide.listen History.listen Relearns
  cases streamIdIsZero streamId with
  | true =>
    rw [if_pos rfl, if_pos rfl, ListenerSide.setPending_listeners, ListenerSide.setListener_self]
    simp
  | false =>
    rw [if_neg Bool.noConfusion, if_neg Bool.noConfusion]
    cases known with
    | none =>
      simp [ListenerSide.learn, History.learn, ListenerSide.stopWaiting]
    | some t =>
      have ht : t.streamId = l.streamId := (hknown t rfl).trans hl.symm
      refine iff_of_true ?_ (.inl ⟨rfl, Option.some_ne_none t⟩)
      rw [ListenerSide.learn, ListenerSide.setListener_self, History.learn, Function.update_self, ht,
        ListenerSide.stopWaiting, ListenerSide.setPending_listeners, ListenerSide.setListener_self]
      exact ⟨fun _ => rfl, fun _ => rfl⟩

/-- Where only one listener's record changes, all depends on it. -/
theorem belongs_iff {c' : ListenerSide} {h' : History} (hbelongs : Belongs (c, h))
    (hother : ∀ v, v ≠ u → c'.listeners v = c.listeners v ∧ h' v = h v)
    (hconnected : (c'.listeners u).connected) :
    Belongs (c', h') ↔ OfStream (c'.listeners u) (h' u) := by
  constructor
  · exact fun hall => hall u hconnected
  · intro hu v hv
    dsimp only at hv ⊢
    by_cases huv : v = u
    · exact huv ▸ hu
    · rw [(hother v huv).1] at hv ⊢
      rw [(hother v huv).2]
      exact hbelongs v hv

theorem connect_belongs_iff (hbelongs : Belongs (c, h)) {known : Option SrpRemoteTalker}
    (hknown : ∀ t ∈ known, t.streamId = streamId) (u : ListenerUid) (talkerId : EntityId)
    (talkerUid : UInt16) (destMac : MacAddr) :
    Belongs (c.connect u talkerId talkerUid streamId destMac known, h.listen u streamId known) ↔
      FindsOwn (c, h) (.connect u talkerId talkerUid streamId destMac known) := by
  rw [belongs_iff (u := u) hbelongs]
  · have hstream : (ListenerSide.connected (c.listeners u) talkerId talkerUid streamId
        destMac).streamId = streamId := rfl
    rw [ListenerSide.connect, listen_ofStream hstream hknown]
    refine or_congr_right ⟨?_, ?_⟩ <;>
    · rintro ⟨hvlan, hlatency⟩
      exact ⟨hvlan, hlatency⟩
  · intro v hv
    rw [ListenerSide.connect, (ListenerSide.listen_other _ _ _ _ _ hv).1,
      ListenerSide.setListener_other _ hv]
    exact ⟨rfl, h.listen_other hv ..⟩
  · rw [ListenerSide.connect,
      ListenerSide.listen_same _ _ _ _ _ AvdeccListenerStream.connected fun _ _ _ => rfl,
      ListenerSide.setListener_self]
    rfl

theorem answer_belongs_iff (hbelongs : Belongs (c, h)) {known : Option SrpRemoteTalker}
    (hknown : ∀ t ∈ known, t.streamId = streamId) (r : AvdeccResolve) (destMac : MacAddr)
    (vlanId : UInt16) :
    Belongs (c.connectResolved r streamId destMac vlanId known,
        (h.answered r.listenerUid streamId).listen r.listenerUid streamId known) ↔
      Relearns streamId known ∨ ((c.listeners r.listenerUid).msrpAccumulatedLatencyNs ≠ 0 →
        (h r.listenerUid).latency = some streamId) := by
  rw [belongs_iff (u := r.listenerUid) hbelongs]
  · rw [ListenerSide.connectResolved]
    refine (listen_ofStream ?_ hknown ..).trans ?_
    · rfl
    rw [History.answered, Function.update_self]
    refine or_congr_right ⟨?_, ?_⟩
    · rintro ⟨-, hlatency⟩
      exact hlatency
    · exact fun hlatency => ⟨fun _ => rfl, hlatency⟩
  · intro v hv
    rw [ListenerSide.connectResolved, (ListenerSide.listen_other _ _ _ _ _ hv).1,
      ListenerSide.setListener_other _ hv, History.listen_other _ hv, History.answered,
      Function.update_of_ne hv]
    exact ⟨rfl, rfl⟩
  · rw [ListenerSide.connectResolved,
      ListenerSide.listen_same _ _ _ _ _ AvdeccListenerStream.connected fun _ _ _ => rfl,
      ListenerSide.setListener_self]
    rfl

/-- Completing a parked connect learns both anew. -/
theorem complete_belongs (hbelongs : Belongs (c, h)) (i : ListenerUid) (t : SrpRemoteTalker) :
    Belongs (c.complete i t, h.complete c i t) := by
  unfold ListenerSide.complete History.complete
  dsimp only
  split
  · generalize (c.pending i).uid = u
    intro v hv
    dsimp only at hv ⊢
    rw [ListenerSide.setPending_listeners] at hv ⊢
    by_cases huv : v = u
    · subst huv
      rw [ListenerSide.learn, ListenerSide.setListener_self, ListenerSide.setListener_self,
        History.learn, Function.update_self]
      exact ⟨fun _ => rfl, fun _ => rfl⟩
    · rw [ListenerSide.learn_other _ _ huv, ListenerSide.setListener_other _ huv] at hv ⊢
      rw [History.learn_other _ huv]
      exact hbelongs v hv
  · exact hbelongs

/-- An operation keeps them belonging exactly when it finds its own. -/
theorem note_belongs_iff (hbelongs : Belongs (c, h)) {op : ListenerOp} (hop : KnowsStream op) :
    Belongs (c.apply op, h.note c op) ↔ FindsOwn (c, h) op := by
  cases op with
  | connect u talkerId talkerUid streamId destMac known =>
    exact connect_belongs_iff hbelongs hop u talkerId talkerUid destMac
  | answer i success streamId destMac vlanId known =>
    cases success with
    | true =>
      refine (answer_belongs_iff hbelongs hop (c.resolves i) destMac vlanId).trans ?_
      simp [FindsOwn]
    | false => exact iff_of_true hbelongs Bool.noConfusion
  | disconnect u =>
    refine iff_of_true (fun v hv => ?_) trivial
    dsimp only at hv ⊢
    rw [ListenerSide.apply, ListenerSide.disconnect, ListenerSide.stopWaiting,
      ListenerSide.setPending_listeners] at hv ⊢
    by_cases huv : v = u
    · subst huv
      rw [ListenerSide.setListener_self] at hv
      cases hv
    · rw [ListenerSide.setListener_other _ huv] at hv ⊢
      exact hbelongs v hv
  | advertise t => exact iff_of_true (complete_belongs (complete_belongs hbelongs _ t) _ t) trivial
  | resolve | timeOut => exact iff_of_true hbelongs trivial

end Operation

-- ---------------------------------------------------------------------------
-- The run
-- ---------------------------------------------------------------------------

/-- Every connect and every answer finds its own. -/
def StepFindsOwn (s : Firmware × History) (step : LoopStep) : Prop :=
  ∀ op ∈ listenerOps s.1 step, FindsOwn (s.1.listenerSide, s.2) op

/-- The VLAN and the latency of every connected listener were learned of its
stream. -/
def LearnedOfStream (s : Firmware × History) : Prop :=
  ∀ u, (s.1.avdecc.listeners u).connected → OfStream (s.1.avdecc.listeners u) (s.2 u)

theorem learnedOfStream_iff (s : Firmware × History) :
    LearnedOfStream s ↔ Belongs (s.1.listenerSide, s.2) := Iff.rfl

theorem learned_refines : learned.Refines listenerHistory
    (fun s => (s.1.listenerSide, s.2)) (fun s step => listenerOps s.1 step) where
  init := rfl
  step s step := by
    have hfirst (ops : List ListenerOp) (c : ListenerSide × History) :
        (listenerHistory.runFrom c ops).1 = listenerMachine.runFrom c.1 ops := by
      induction ops generalizing c with
      | nil => rfl
      | cons op rest ih => exact ih _
    refine Prod.ext ?_ rfl
    rw [hfirst]
    exact mainLoop_refines_listenerSide.step s.1 step

theorem events_belong {ops : List ListenerOp} (hops : ∀ op ∈ ops, op.IsEvent)
    {c : ListenerSide × History} (h : Belongs c) : Belongs (listenerHistory.runFrom c ops) := by
  induction ops generalizing c with
  | nil => exact h
  | cons op rest ih =>
    obtain ⟨hop, hrest⟩ := List.forall_mem_cons.mp hops
    refine ih hrest ((note_belongs_iff h (knowsStream_event hop)).mpr ?_)
    cases op with
    | advertise | timeOut => trivial
    | _ => cases hop

theorem step_learnedOfStream_iff {s : Firmware × History} (h : LearnedOfStream s)
    (step : LoopStep) : LearnedOfStream (learned.step s step) ↔ StepFindsOwn s step := by
  have hbelongs := (learnedOfStream_iff s).mp h
  rw [learnedOfStream_iff, learned_refines.step, StepFindsOwn]
  have hknows (op : ListenerOp) (hop : op ∈ listenerOps s.1 step) : KnowsStream op :=
    listenerOps_knowsStream hop
  have hshape := listenerOps_shape s.1 step
  generalize listenerOps s.1 step = ops at hshape hknows
  cases hshape with
  | one op _ =>
    rw [List.forall_mem_singleton]
    exact note_belongs_iff hbelongs (hknows op (List.mem_singleton_self op))
  | events hevents =>
    refine iff_of_true (events_belong hevents hbelongs) fun op hop => ?_
    cases op with
    | advertise | timeOut => trivial
    | _ => cases hevents _ hop

/-- The VLAN and the latency of every connected listener belong to its
stream throughout a run exactly when every connect and every answer of the
run finds its own or learns anew. -/
theorem learnedOfStream_run_iff (run : List LoopStep) :
    learned.Steps (fun s step => LearnedOfStream (learned.step s step)) run ↔
      learned.Steps StepFindsOwn run := by
  refine Machine.steps_congr LearnedOfStream ?_ (fun s step _ hstep => hstep)
    (fun s step h => step_learnedOfStream_iff h step) run
  intro u hu
  cases hu

-- ---------------------------------------------------------------------------
-- A listener that changes its stream
-- ---------------------------------------------------------------------------

def talkerEntity : EntityId := eightBytes 0x00 0x1B 0x21 0xFF 0xFE 0x00 0x00 0x0A

def firstStream : StreamId := eightBytes 0x00 0x1B 0x21 0x00 0x00 0x0A 0x00 0x01

def secondStream : StreamId := eightBytes 0x00 0x1B 0x21 0x00 0x00 0x0A 0x00 0x02

def destination : MacAddr := sixBytes 0x91 0xE0 0xF0 0x00 0xFE 0x0A

/-- A message for the CRF listener. -/
def message (msgType : UInt8) (controllerId : EntityId) (streamId : StreamId) (destMac : MacAddr)
    (vlanId : UInt16) : LoopStep :=
  receiveAcmp
    { msgType := msgType
      streamId := streamId
      controllerId := controllerId
      talkerId := talkerEntity
      listenerId := boot.avdecc.entityId
      talkerUid := 0
      listenerUid := 0
      streamDestMac := destMac
      seqId := 0
      vlanId := vlanId }

/-- The talker's answer names VLAN 100 for the first stream. -/
def firstConnected : List LoopStep :=
  [message acmpMsgConnectRxCommand (zeroBytes 8) (zeroBytes 8) (zeroBytes 6) 0,
    message acmpMsgConnectTxResponse boot.avdecc.entityId firstStream destination 100]

/-- A controller connects the listener to the second stream, not advertised. -/
def rebind : LoopStep :=
  message acmpMsgConnectRxCommand (zeroBytes 8) secondStream destination 0

def rebindOps : List ListenerOp :=
  [.resolve listenerUidCrf { active := true, listenerUid := listenerUidCrf, talkerId := talkerEntity },
    .answer listenerUidCrf true firstStream destination 100 none,
    .connect listenerUidCrf talkerEntity 0 secondStream destination none]

theorem rebind_run : ((learned.run (firstConnected ++ [rebind])).1.listenerSide,
    (learned.run (firstConnected ++ [rebind])).2) = listenerHistory.run rebindOps := by
  have htrace : learned.traceFrom (fun s step => listenerOps s.1 step) learned.init
      (firstConnected ++ [rebind]) = rebindOps := by
    decide +kernel
  rw [← htrace]
  exact learned_refines.run _

/-- It reports VLAN 100 for the second stream, learned of the first. -/
theorem rebind_keeps_vlan :
    ¬ learned.Steps (fun s step => LearnedOfStream (learned.step s step))
      (firstConnected ++ [rebind]) := by
  intro h
  have hlast := (learnedOfStream_iff _).mp h.at
  rw [← Machine.run_concat, rebind_run] at hlast
  have hconnected : ((listenerHistory.run rebindOps).1.listeners listenerUidCrf).connected = true := by
    decide +kernel
  have hvlan : ((listenerHistory.run rebindOps).1.listeners listenerUidCrf).streamVlanId ≠ 0 := by
    decide +kernel
  have hstreams : ((listenerHistory.run rebindOps).2 listenerUidCrf).vlan ≠
      some ((listenerHistory.run rebindOps).1.listeners listenerUidCrf).streamId := by
    decide +kernel
  exact hstreams ((hlast listenerUidCrf hconnected).vlan hvlan)

end AvbAes3.LearnedFacts
