import AvbAes3.ConnectionsSound

/-!
# The listeners' records

A model of the listeners alone, with all their records hold: the talker, the
stream and what was learned of it, the connects they wait for, and the
pending binds. Its operations are the messages and timeouts that change any
of this. What the registrar knows of a stream comes with the operation.
`mainLoop_refines_listenerSide` ties the model to the firmware.
-/

namespace AvbAes3

-- ---------------------------------------------------------------------------
-- The registrar
-- ---------------------------------------------------------------------------

theorem srpFindTalker_streamId {s : Srp} (h : srpFindTalker s streamId = some t) :
    t.streamId = streamId := by
  have hfound := List.find?_some h
  exact eq_of_beq (Bool.and_eq_true_iff.mp hfound).2

theorem srpFindTalker_congr {s s' : Srp} (h : s'.remoteTalkers = s.remoteTalkers)
    (streamId : StreamId) : srpFindTalker s' streamId = srpFindTalker s streamId := by
  rw [srpFindTalker, srpFindTalker, h]

/-- The entry written is the first of its stream. -/
theorem find_upsertSlot {talkers : RemoteTalkers} {t : SrpRemoteTalker} (hvalid : t.valid)
    (indices : List (Fin srpMaxRemoteTalkers)) (scan : SlotScan)
    (hmem : upsertSlot talkers t.streamId indices scan ∈ indices) :
    (indices.map (Function.update talkers (upsertSlot talkers t.streamId indices scan) t)).find?
      (fun e => e.valid && e.streamId == t.streamId) = some t := by
  induction indices generalizing scan with
  | nil => cases hmem
  | cons i rest ih =>
    have hnew (l : List SrpRemoteTalker) :
        (t :: l).find? (fun e => e.valid && e.streamId == t.streamId) = some t := by
      simp [hvalid]
    by_cases hown : (talkers i).valid ∧ (talkers i).streamId = t.streamId
    · have hslot : upsertSlot talkers t.streamId (i :: rest) scan = i := by
        rw [upsertSlot, if_pos hown.1, if_pos hown.2]
      rw [hslot, List.map_cons, Function.update_self, hnew]
    · have hslot : ∃ scan', upsertSlot talkers t.streamId (i :: rest) scan =
          upsertSlot talkers t.streamId rest scan' := by
        rw [upsertSlot]
        split_ifs with hv hs ho hn
        · exact absurd ⟨hv, hs⟩ hown
        · exact ⟨_, rfl⟩
        · exact ⟨_, rfl⟩
        · exact ⟨_, rfl⟩
        · exact ⟨_, rfl⟩
      obtain ⟨scan', hslot⟩ := hslot
      rw [hslot] at hmem ⊢
      rw [List.map_cons]
      by_cases heq : i = upsertSlot talkers t.streamId rest scan'
      · rw [← heq, Function.update_self, hnew]
      · have hother : ¬ ((talkers i).valid && (talkers i).streamId == t.streamId) = true := by
          rw [Bool.and_eq_true, beq_iff_eq]
          exact hown
        rw [Function.update_of_ne heq, List.find?_cons, Bool.eq_false_iff.mpr hother]
        exact ih scan' ((List.mem_cons.mp hmem).resolve_left (Ne.symm heq))

/-- After an advertisement, it is what the registrar knows of the stream. -/
theorem srpFindTalker_upsert (s : Srp) (value : Buffer) (nowMs : UInt32) :
    srpFindTalker (upsertTalker s value nowMs) (value.bytes 8) =
      some (remoteTalkerOf value nowMs) :=
  find_upsertSlot (t := remoteTalkerOf value nowMs) rfl _ _ (List.mem_finRange _)

-- ---------------------------------------------------------------------------
-- State and operations
-- ---------------------------------------------------------------------------

structure ListenerSide where
  listeners : ListenerUid → AvdeccListenerStream
  resolves : ListenerUid → AvdeccResolve
  pending : ListenerUid → PendingBind

namespace ListenerSide

def setListener (c : ListenerSide) (u : ListenerUid) (l : AvdeccListenerStream) : ListenerSide :=
  { c with listeners := Function.update c.listeners u l }

def setResolve (c : ListenerSide) (i : ListenerUid) (r : AvdeccResolve) : ListenerSide :=
  { c with resolves := Function.update c.resolves i r }

def setPending (c : ListenerSide) (i : ListenerUid) (p : PendingBind) : ListenerSide :=
  { c with pending := Function.update c.pending i p }

def stopWaiting (c : ListenerSide) (i : ListenerUid) : ListenerSide :=
  c.setPending i { c.pending i with active := false }

/-- VLAN and latency of the stream, if the registrar knows it. -/
def learn (c : ListenerSide) (u : ListenerUid) : Option SrpRemoteTalker → ListenerSide
  | none => c
  | some t => c.setListener u { c.listeners u with
      msrpAccumulatedLatencyNs := t.accumulatedLatencyNs
      streamVlanId := t.vlanId }

/-- A stream id of zero parks the connect until the talker advertises. -/
def listen (c : ListenerSide) (u : ListenerUid) (streamId : StreamId) (destMac : MacAddr)
    (talkerId : EntityId) (known : Option SrpRemoteTalker) : ListenerSide :=
  if streamIdIsZero streamId then c.setPending u ⟨true, u, destMac, talkerId, 0⟩
  else (c.stopWaiting u).learn u known

/-- The record of a fast connect. -/
def connected (l : AvdeccListenerStream) (talkerId : EntityId) (talkerUid : UInt16)
    (streamId : StreamId) (destMac : MacAddr) : AvdeccListenerStream :=
  { l with
    talkerId := talkerId
    talkerUid := talkerUid
    streamId := streamId
    destMac := destMac
    connected := true
    connectionCount := l.connectionCount + 1 }

def connect (c : ListenerSide) (u : ListenerUid) (talkerId : EntityId) (talkerUid : UInt16)
    (streamId : StreamId) (destMac : MacAddr) (known : Option SrpRemoteTalker) : ListenerSide :=
  (c.setListener u (connected (c.listeners u) talkerId talkerUid streamId destMac)).listen u
    streamId destMac talkerId known

/-- The talker's answer also names the VLAN. -/
def connectResolved (c : ListenerSide) (r : AvdeccResolve) (streamId : StreamId)
    (destMac : MacAddr) (vlanId : UInt16) (known : Option SrpRemoteTalker) : ListenerSide :=
  (c.setListener r.listenerUid
    { connected (c.listeners r.listenerUid) r.talkerId r.talkerUid streamId destMac with
      streamVlanId := vlanId }).listen r.listenerUid streamId destMac r.talkerId known

def answer (c : ListenerSide) (i : ListenerUid) (success : Bool) (streamId : StreamId)
    (destMac : MacAddr) (vlanId : UInt16) (known : Option SrpRemoteTalker) : ListenerSide :=
  let r := c.resolves i
  (if success then c.connectResolved r streamId destMac vlanId known else c).setResolve i
    { r with active := false }

def disconnect (c : ListenerSide) (u : ListenerUid) : ListenerSide :=
  let l := c.listeners u
  (c.setListener u { l with
    connected := false
    connectionCount :=
      if l.connectionCount > 0 then l.connectionCount - 1 else l.connectionCount }).stopWaiting u

def complete (c : ListenerSide) (i : ListenerUid) (t : SrpRemoteTalker) : ListenerSide :=
  let p := c.pending i
  if p.active ∧ destOrEidMatch p t.streamId t.destMac then
    let l := { c.listeners p.uid with streamId := t.streamId, destMac := t.destMac }
    ((c.setListener p.uid l).learn p.uid (some t)).setPending i { p with active := false }
  else c

end ListenerSide

/-- `known` is the registrar's entry of the stream, an advertisement the
entry it is recorded as. -/
inductive ListenerOp
  | connect (u : ListenerUid) (talkerId : EntityId) (talkerUid : UInt16) (streamId : StreamId)
    (destMac : MacAddr) (known : Option SrpRemoteTalker)
  | resolve (u : ListenerUid) (r : AvdeccResolve)
  | answer (i : ListenerUid) (success : Bool) (streamId : StreamId) (destMac : MacAddr)
    (vlanId : UInt16) (known : Option SrpRemoteTalker)
  | timeOut (i : ListenerUid)
  | disconnect (u : ListenerUid)
  | advertise (t : SrpRemoteTalker)
  deriving DecidableEq

def ListenerSide.apply (c : ListenerSide) : ListenerOp → ListenerSide
  | .connect u talkerId talkerUid streamId destMac known =>
    c.connect u talkerId talkerUid streamId destMac known
  | .resolve u r => c.setResolve u r
  | .answer i success streamId destMac vlanId known =>
    c.answer i success streamId destMac vlanId known
  | .timeOut i => c.setResolve i { c.resolves i with active := false }
  | .disconnect u => c.disconnect u
  | .advertise t => (c.complete listenerUidCrf t).complete listenerUidAaf t

-- ---------------------------------------------------------------------------
-- What the operations leave alone
-- ---------------------------------------------------------------------------

namespace ListenerSide

variable (c : ListenerSide) {u v i : ListenerUid} (streamId : StreamId) (destMac : MacAddr)
  (talkerId : EntityId) (known : Option SrpRemoteTalker)

@[simp] theorem setListener_self (l : AvdeccListenerStream) :
    (c.setListener u l).listeners u = l := Function.update_self ..

theorem setListener_other (h : v ≠ u) (l : AvdeccListenerStream) :
    (c.setListener u l).listeners v = c.listeners v := Function.update_of_ne h ..

@[simp] theorem setPending_self (p : PendingBind) : (c.setPending i p).pending i = p :=
  Function.update_self ..

theorem setPending_other (h : v ≠ i) (p : PendingBind) :
    (c.setPending i p).pending v = c.pending v := Function.update_of_ne h ..

@[simp] theorem setResolve_self (r : AvdeccResolve) : (c.setResolve i r).resolves i = r :=
  Function.update_self ..

theorem setResolve_other (h : v ≠ i) (r : AvdeccResolve) :
    (c.setResolve i r).resolves v = c.resolves v := Function.update_of_ne h ..

@[simp] theorem setListener_pending (l : AvdeccListenerStream) :
    (c.setListener u l).pending = c.pending := rfl

@[simp] theorem setPending_listeners (p : PendingBind) :
    (c.setPending i p).listeners = c.listeners := rfl

@[simp] theorem learn_pending : (c.learn u known).pending = c.pending := by
  cases known <;> rfl

@[simp] theorem learn_resolves : (c.learn u known).resolves = c.resolves := by
  cases known <;> rfl

theorem learn_other (h : v ≠ u) : (c.learn u known).listeners v = c.listeners v := by
  cases known with
  | none => rfl
  | some t => exact setListener_other _ h _

/-- Learning changes VLAN and latency alone. -/
theorem learn_same {α : Type} (read : AvdeccListenerStream → α)
    (h : ∀ l latency vlan,
      read { l with msrpAccumulatedLatencyNs := latency, streamVlanId := vlan } = read l) :
    read ((c.learn u known).listeners u) = read (c.listeners u) := by
  cases known with
  | none => rfl
  | some t =>
    rw [learn, setListener_self]
    exact h ..

@[simp] theorem listen_resolves :
    (c.listen u streamId destMac talkerId known).resolves = c.resolves := by
  unfold listen
  split
  · rfl
  · exact learn_resolves ..

theorem listen_other (h : v ≠ u) :
    (c.listen u streamId destMac talkerId known).listeners v = c.listeners v ∧
      (c.listen u streamId destMac talkerId known).pending v = c.pending v := by
  unfold listen
  split
  · exact ⟨rfl, setPending_other _ h _⟩
  · rw [learn_pending]
    exact ⟨learn_other _ _ h, setPending_other _ h _⟩

theorem listen_same {α : Type} (read : AvdeccListenerStream → α)
    (h : ∀ l latency vlan,
      read { l with msrpAccumulatedLatencyNs := latency, streamVlanId := vlan } = read l) :
    read ((c.listen u streamId destMac talkerId known).listeners u) = read (c.listeners u) := by
  unfold listen
  split
  · rfl
  · exact learn_same _ _ read h

/-- The pending entry of a connect is its own listener's. -/
theorem listen_own (h : ((c.listen u streamId destMac talkerId known).pending u).active) :
    ((c.listen u streamId destMac talkerId known).pending u).uid = u := by
  unfold listen at h ⊢
  split
  · rw [setPending_self]
  · rename_i hzero
    rw [if_neg hzero, learn_pending, stopWaiting, setPending_self] at h
    cases h

end ListenerSide

-- ---------------------------------------------------------------------------
-- The firmware seen as its listeners
-- ---------------------------------------------------------------------------

def Firmware.listenerSide (fw : Firmware) : ListenerSide :=
  ⟨fw.avdecc.connections.listeners, fw.avdecc.connections.resolves, fw.pendingListeners⟩

theorem Firmware.listenerSide_listeners (fw : Firmware) :
    fw.listenerSide.listeners = fw.avdecc.listeners := rfl

theorem listenerUid?_toUInt16 (u : ListenerUid) : listenerUid? u.toUInt16 = some u := by
  rcases u.cases with rfl | rfl <;> rfl

def acmpListenerOps (fw : Firmware) (pdu : Buffer) (nowMs : UInt32) :
    AcmpHandler → List ListenerOp
  | .connectTxResponse =>
    match answeredResolve fw.avdecc pdu with
    | none => []
    | some i =>
      [.answer i (pduStatus pdu = acmpStatusSuccess) (pduStreamId pdu) (pduStreamDestMac pdu)
        (pduVlanId pdu) (srpFindTalker fw.srp (pduStreamId pdu))]
  | .connectRx =>
    match listenerUid? (pduListenerUid pdu) with
    | none => []
    | some u =>
      if isSlowPath pdu then [.resolve u (newResolve fw.avdecc u pdu nowMs)]
      else if pduTalkerId pdu = zeroBytes 8 then []
      else
        [.connect u (pduTalkerId pdu) (pduTalkerUid pdu) (pduStreamId pdu) (pduStreamDestMac pdu)
          (srpFindTalker fw.srp (pduStreamId pdu))]
  | .disconnectRx =>
    match listenerUid? (pduListenerUid pdu) with
    | none => []
    | some u => [.disconnect u]
  | .connectTx | .disconnectTx | .getTxState | .getRxState => []

def avdeccListenerOps (fw : Firmware) (frame : Buffer) (len : Nat) (nowMs : UInt32) :
    List ListenerOp :=
  if isAcmp frame len then
    match acmpHandler fw.avdecc (frame.offset 14) with
    | some h => acmpListenerOps fw (frame.offset 14) nowMs h
    | none => []
  else []

def msrpListenerOps (frame : Buffer) (len : Nat) (nowMs : UInt32) : List ListenerOp :=
  if isMsrpPdu frame len then
    ((msrpVectors frame len).filter isTalkerAdvertise).map fun v =>
      .advertise (remoteTalkerOf v.value nowMs)
  else []

def rxListenerOps (fw : Firmware) (frame : Buffer) (len : Nat) (nowMs : UInt32) :
    RxHandler → List ListenerOp
  | .avdecc => avdeccListenerOps fw frame len nowMs
  | .msrp => msrpListenerOps frame len nowMs
  | .gptp | .crf | .aaf => []

def timeOutListenerOps (s : Avdecc) (nowMs : UInt32) (i : ListenerUid) : List ListenerOp :=
  if resolveTimedOut (s.resolves i) nowMs then [.timeOut i] else []

def listenerOps (fw : Firmware) : LoopStep → List ListenerOp
  | .dispatchRx slot len r =>
    let rx := rxFrame slot len fw.scratch
    match rxHandler rx.frame rx.len with
    | some h => rxListenerOps fw rx.frame rx.len r.nowMs h
    | none => []
  | .avdeccPoll r =>
    timeOutListenerOps fw.avdecc r.nowMs listenerUidCrf ++
      timeOutListenerOps fw.avdecc r.nowMs listenerUidAaf
  | _ => []

/-- What is checked before the operation. -/
def ListenerOp.Sound (c : ListenerSide) : ListenerOp → Prop
  | .connect _ talkerId _ _ _ _ => talkerId ≠ zeroBytes 8
  | .resolve _ r => r.talkerId ≠ zeroBytes 8
  | .answer i .. => (c.resolves i).active
  | .timeOut _ | .disconnect _ | .advertise _ => True

def ListenerOp.IsEvent : ListenerOp → Prop
  | .advertise _ | .timeOut _ => True
  | _ => False

/-- A message is one operation; the rest are advertisements and timeouts. -/
inductive ListenerShape (c : ListenerSide) : List ListenerOp → Prop
  | one (op : ListenerOp) (h : op.Sound c) : ListenerShape c [op]
  | events {ops : List ListenerOp} (h : ∀ op ∈ ops, op.IsEvent) : ListenerShape c ops

theorem ListenerShape.none (c : ListenerSide) : ListenerShape c [] :=
  .events fun _ hop => nomatch hop

theorem slowPath_talkerId {pdu : Buffer} (h : isSlowPath pdu) : pduTalkerId pdu ≠ zeroBytes 8 :=
  bne_iff_ne.mp (Bool.and_eq_true_iff.mp h).2

theorem acmpListenerOps_shape (fw : Firmware) (pdu : Buffer) (nowMs : UInt32) (h : AcmpHandler) :
    ListenerShape fw.listenerSide (acmpListenerOps fw pdu nowMs h) := by
  cases h with
  | connectTxResponse =>
    unfold acmpListenerOps
    dsimp only
    split
    · exact .none _
    · exact .one _ (answeredResolve_active ‹_›)
  | connectRx =>
    unfold acmpListenerOps
    dsimp only
    split
    · exact .none _
    split
    · exact .one _ (slowPath_talkerId ‹_›)
    split
    · exact .none _
    · exact .one _ ‹_›
  | disconnectRx =>
    unfold acmpListenerOps
    dsimp only
    split
    · exact .none _
    · exact .one _ trivial
  | _ => exact .none _

theorem listenerOps_shape (fw : Firmware) (step : LoopStep) :
    ListenerShape fw.listenerSide (listenerOps fw step) := by
  cases step with
  | dispatchRx slot len r =>
    unfold listenerOps
    dsimp only
    split
    · rename_i h _
      cases h with
      | avdecc =>
        unfold rxListenerOps avdeccListenerOps
        dsimp only
        split
        · split
          · exact acmpListenerOps_shape ..
          · exact .none _
        · exact .none _
      | msrp =>
        refine .events fun op hop => ?_
        unfold rxListenerOps msrpListenerOps at hop
        dsimp only at hop
        split at hop
        · obtain ⟨v, -, rfl⟩ := List.mem_map.mp hop
          trivial
        · cases hop
      | _ => exact .none _
    · exact .none _
  | avdeccPoll r =>
    refine .events fun op hop => ?_
    have htimeOut {i : ListenerUid} (hmem : op ∈ timeOutListenerOps fw.avdecc r.nowMs i) :
        op.IsEvent := by
      unfold timeOutListenerOps at hmem
      split at hmem
      · rw [List.mem_singleton.mp hmem]
        trivial
      · cases hmem
    exact (List.mem_append.mp hop).elim htimeOut htimeOut
  | _ => exact .none _

def listenerMachine : Machine ListenerSide ListenerOp := ⟨boot.listenerSide, ListenerSide.apply⟩

-- ---------------------------------------------------------------------------
-- Records and callbacks
-- ---------------------------------------------------------------------------

theorem withAvdecc_listenerSide_congr (fw : Firmware) {s s' : Avdecc}
    (h : s.connections = s'.connections) :
    { fw with avdecc := s }.listenerSide = { fw with avdecc := s' }.listenerSide := by
  simp only [Firmware.listenerSide, h]

theorem withAvdecc_listenerSide (fw : Firmware) {s : Avdecc}
    (h : s.connections = fw.avdecc.connections) :
    { fw with avdecc := s }.listenerSide = fw.listenerSide := withAvdecc_listenerSide_congr fw h

theorem putAvdecc_listenerSide (fw : Firmware) (r : Avdecc × List (List UInt8)) :
    (fw.putAvdecc r).listenerSide = { fw with avdecc := r.1 }.listenerSide :=
  sendAll_same Firmware.listenerSide (fun _ _ _ => rfl) ..

/-- Frames sent and connections kept. -/
theorem putAvdecc_listenerSide_same (fw : Firmware) {r : Avdecc × List (List UInt8)}
    (h : r.1.connections = fw.avdecc.connections) :
    (fw.putAvdecc r).listenerSide = fw.listenerSide :=
  (putAvdecc_listenerSide fw r).trans (withAvdecc_listenerSide fw h)

theorem respond_listenerSide (fw : Firmware) (msgType status : UInt8) (pdu : Buffer) :
    (fw.respond msgType status pdu).listenerSide = fw.listenerSide :=
  putAvdecc_listenerSide_same fw (acmpSendResponse_connections ..)

theorem setListener_listenerSide (fw : Firmware) (u : ListenerUid) (l : AvdeccListenerStream) :
    { fw with avdecc := fw.avdecc.setListener u l }.listenerSide =
      fw.listenerSide.setListener u l := rfl

theorem setResolve_listenerSide (fw : Firmware) (i : ListenerUid) (r : AvdeccResolve) :
    { fw with avdecc := fw.avdecc.setResolve i r }.listenerSide =
      fw.listenerSide.setResolve i r := rfl

theorem setPending_listenerSide (fw : Firmware) (i : ListenerUid) (p : PendingBind) :
    (fw.setPending i p).listenerSide = fw.listenerSide.setPending i p := rfl

theorem learnStream_listenerSide (fw : Firmware) (u : ListenerUid) (streamId : StreamId) :
    (learnStream fw u streamId).listenerSide =
      fw.listenerSide.learn u (srpFindTalker fw.srp streamId) := by
  unfold learnStream
  cases srpFindTalker fw.srp streamId <;> rfl

theorem bindEngine_listenerSide (fw : Firmware) (u : ListenerUid) (streamId : StreamId)
    (destMac : MacAddr) : (bindEngine fw u streamId destMac).listenerSide = fw.listenerSide := by
  unfold bindEngine
  split <;> rfl

theorem unbindEngine_listenerSide (fw : Firmware) (u : ListenerUid) (nowMs : UInt32) :
    (unbindEngine fw u nowMs).listenerSide = fw.listenerSide := by
  unfold unbindEngine
  dsimp only
  split
  · cases fw.mcr.bound <;> rfl
  · cases fw.aaf.bound <;> rfl

theorem onListenerConnect_listenerSide (fw : Firmware) (u : ListenerUid) (streamId : StreamId)
    (destMac : MacAddr) (talkerId : EntityId) (nowMs : UInt32) :
    (onListenerConnect fw u streamId destMac talkerId nowMs).listenerSide =
      fw.listenerSide.listen u streamId destMac talkerId (srpFindTalker fw.srp streamId) := by
  unfold onListenerConnect ListenerSide.listen
  split
  · rfl
  · refine (bindEngine_listenerSide ..).trans ?_
    exact learnStream_listenerSide (fw.setPending u { fw.pendingListeners u with active := false })
      u streamId

theorem onListenerDisconnect_listenerSide (fw : Firmware) (u : ListenerUid) (nowMs : UInt32) :
    (onListenerDisconnect fw u nowMs).listenerSide = fw.listenerSide.stopWaiting u := by
  rw [onListenerDisconnect, unbindEngine_listenerSide]
  rfl

-- ---------------------------------------------------------------------------
-- Received MRPDUs
-- ---------------------------------------------------------------------------

theorem completePending_srp (fw : Firmware) (i : ListenerUid) (streamId : StreamId)
    (destMac : MacAddr) (nowMs : UInt32) :
    (completePending fw i streamId destMac nowMs).srp.remoteTalkers = fw.srp.remoteTalkers := by
  unfold completePending
  dsimp only
  split
  · unfold bindEngine learnStream
    dsimp only
    split <;> split <;> rfl
  · rfl

theorem completePending_listenerSide {fw : Firmware} {t : SrpRemoteTalker} (i : ListenerUid)
    (nowMs : UInt32) (hknown : srpFindTalker fw.srp t.streamId = some t) :
    (completePending fw i t.streamId t.destMac nowMs).listenerSide =
      fw.listenerSide.complete i t := by
  unfold completePending ListenerSide.complete
  dsimp only
  split
  · rename_i hactive
    have hactive' : (fw.listenerSide.pending i).active ∧
        destOrEidMatch (fw.listenerSide.pending i) t.streamId t.destMac := hactive
    have hlearned := learnStream_listenerSide
      (setStream fw (fw.pendingListeners i).uid t.streamId t.destMac) (fw.pendingListeners i).uid
      t.streamId
    have hsrp : srpFindTalker (setStream fw (fw.pendingListeners i).uid t.streamId t.destMac).srp
        t.streamId = some t := hknown
    rw [hsrp] at hlearned
    rw [if_pos hactive']
    refine (setPending_listenerSide ..).trans ?_
    refine congrArg (ListenerSide.setPending · i _) ?_
    exact (bindEngine_listenerSide ..).trans hlearned
  · rename_i hidle
    have hidle' : ¬ ((fw.listenerSide.pending i).active ∧
        destOrEidMatch (fw.listenerSide.pending i) t.streamId t.destMac) := hidle
    rw [if_neg hidle']

theorem onTalkerAdvertise_listenerSide {fw : Firmware} {t : SrpRemoteTalker} (nowMs : UInt32)
    (hknown : srpFindTalker fw.srp t.streamId = some t) :
    (onTalkerAdvertise fw t.streamId t.destMac nowMs).listenerSide =
      fw.listenerSide.apply (.advertise t) := by
  have hstill : srpFindTalker (completePending fw listenerUidCrf t.streamId t.destMac nowMs).srp
      t.streamId = some t := (srpFindTalker_congr (completePending_srp ..) _).trans hknown
  rw [onTalkerAdvertise, completePending_listenerSide _ _ hstill,
    completePending_listenerSide _ _ hknown]
  rfl

theorem talkerAdvertised_listenerSide (nowMs : UInt32) (fw : Firmware) (value : Buffer) :
    (talkerAdvertised nowMs fw value).listenerSide =
      fw.listenerSide.apply (.advertise (remoteTalkerOf value nowMs)) :=
  @onTalkerAdvertise_listenerSide { fw with srp := upsertTalker fw.srp value nowMs }
    (remoteTalkerOf value nowMs) nowMs (srpFindTalker_upsert fw.srp value nowMs)

theorem srpVectors_listenerSide (nowMs : UInt32) (vectors : List MsrpVector) (fw : Firmware) :
    (vectors.foldl (srpVector nowMs) fw).listenerSide =
      listenerMachine.runFrom fw.listenerSide ((vectors.filter isTalkerAdvertise).map fun v =>
        .advertise (remoteTalkerOf v.value nowMs)) := by
  induction vectors generalizing fw with
  | nil => rfl
  | cons v rest ih =>
    rw [List.foldl_cons, ih, srpVector]
    cases h : isTalkerAdvertise v
    · rw [List.filter_cons_of_neg (by rw [h]; decide)]
      rfl
    · rw [List.filter_cons_of_pos h, List.map_cons, Machine.runFrom_cons]
      rw [if_pos rfl, talkerAdvertised_listenerSide]
      rfl

theorem srpProcessRx_listenerSide (fw : Firmware) (frame : Buffer) (len : Nat) (nowMs : UInt32) :
    (srpProcessRx fw frame len nowMs).listenerSide =
      listenerMachine.runFrom fw.listenerSide (msrpListenerOps frame len nowMs) := by
  unfold srpProcessRx msrpListenerOps
  split
  · rw [srpVectors_listenerSide]
    rfl
  · rfl

-- ---------------------------------------------------------------------------
-- Received AVDECC messages
-- ---------------------------------------------------------------------------

theorem acmpHandleConnectTx_listenerSide (fw : Firmware) (pdu : Buffer) (r : Readings) :
    (acmpHandleConnectTx fw pdu r).listenerSide = fw.listenerSide := by
  unfold acmpHandleConnectTx
  split
  · exact respond_listenerSide ..
  · refine (respond_listenerSide ..).trans ?_
    unfold onTalkerConnect
    split <;> rfl

theorem acmpHandleDisconnectTx_listenerSide (fw : Firmware) (pdu : Buffer) (r : Readings) :
    (acmpHandleDisconnectTx fw pdu r).listenerSide = fw.listenerSide := by
  refine (respond_listenerSide ..).trans ?_
  split
  · rfl
  · unfold onTalkerDisconnect
    split <;> rfl

theorem notified_listenerSide (fw : Firmware) (u : ListenerUid) :
    (fw.putAvdecc (notifyListenerConnected fw.avdecc u)).listenerSide = fw.listenerSide :=
  putAvdecc_listenerSide_same fw (notifyListenerConnected_connections ..)

theorem connectResolved_listenerSide (fw : Firmware) (r : AvdeccResolve) (pdu : Buffer)
    (nowMs : UInt32) :
    (connectResolved fw r pdu nowMs).listenerSide =
      fw.listenerSide.connectResolved r (pduStreamId pdu) (pduStreamDestMac pdu) (pduVlanId pdu)
        (srpFindTalker fw.srp (pduStreamId pdu)) := by
  rw [connectResolved, notified_listenerSide, onListenerConnect_listenerSide,
    setListener_listenerSide]
  rfl

theorem fastConnect_listenerSide (fw : Firmware) (u : ListenerUid) (pdu : Buffer)
    (nowMs : UInt32) :
    (fastConnect fw u pdu nowMs).listenerSide =
      fw.listenerSide.connect u (pduTalkerId pdu) (pduTalkerUid pdu) (pduStreamId pdu)
        (pduStreamDestMac pdu) (srpFindTalker fw.srp (pduStreamId pdu)) := by
  rw [fastConnect, respond_listenerSide, notified_listenerSide, onListenerConnect_listenerSide,
    setListener_listenerSide]
  rfl

theorem slowConnect_listenerSide (fw : Firmware) (u : ListenerUid) (pdu : Buffer)
    (nowMs : UInt32) :
    (slowConnect fw u pdu nowMs).listenerSide =
      fw.listenerSide.setResolve u (newResolve fw.avdecc u pdu nowMs) := by
  rw [slowConnect, putAvdecc_listenerSide]
  exact withAvdecc_listenerSide
    { fw with avdecc := fw.avdecc.setResolve u (newResolve fw.avdecc u pdu nowMs) }
    (sendConnectTxCommand_connections ..)

theorem acmpHandleConnectTxResponse_listenerSide (fw : Firmware) (pdu : Buffer) (nowMs : UInt32) :
    (acmpHandleConnectTxResponse fw pdu nowMs).listenerSide =
      listenerMachine.runFrom fw.listenerSide
        (acmpListenerOps fw pdu nowMs .connectTxResponse) := by
  unfold acmpHandleConnectTxResponse acmpListenerOps
  cases h : answeredResolve fw.avdecc pdu with
  | none => rfl
  | some i =>
    dsimp only
    rw [setResolve_listenerSide, putAvdecc_listenerSide_same _
      (sendDeferredConnectRxResponse_connections ..)]
    show _ = fw.listenerSide.answer i _ _ _ _ _
    rw [ListenerSide.answer]
    by_cases hs : pduStatus pdu = acmpStatusSuccess
    · rw [if_pos hs, if_pos (decide_eq_true hs), connectResolved_listenerSide]
      rfl
    · rw [if_neg hs, if_neg (by simpa using hs)]
      rfl

theorem acmpHandleConnectRx_listenerSide (fw : Firmware) (pdu : Buffer) (nowMs : UInt32) :
    (acmpHandleConnectRx fw pdu nowMs).listenerSide =
      listenerMachine.runFrom fw.listenerSide (acmpListenerOps fw pdu nowMs .connectRx) := by
  unfold acmpHandleConnectRx acmpListenerOps
  cases h : listenerUid? (pduListenerUid pdu) with
  | none => exact respond_listenerSide ..
  | some u =>
    dsimp only
    by_cases hslow : isSlowPath pdu
    · rw [if_pos hslow, if_pos hslow, slowConnect_listenerSide]
      rfl
    rw [if_neg hslow, if_neg hslow]
    by_cases hzero : pduTalkerId pdu = zeroBytes 8
    · rw [if_pos hzero, if_pos hzero, respond_listenerSide]
      rfl
    · rw [if_neg hzero, if_neg hzero, fastConnect_listenerSide]
      rfl

theorem acmpHandleDisconnectRx_listenerSide (fw : Firmware) (pdu : Buffer) (nowMs : UInt32) :
    (acmpHandleDisconnectRx fw pdu nowMs).listenerSide =
      listenerMachine.runFrom fw.listenerSide (acmpListenerOps fw pdu nowMs .disconnectRx) := by
  rw [acmpHandleDisconnectRx, respond_listenerSide]
  unfold acmpListenerOps
  cases h : listenerUid? (pduListenerUid pdu) with
  | none => rfl
  | some u =>
    dsimp only
    rw [putAvdecc_listenerSide_same _ (notifyListenerDisconnected_connections ..),
      onListenerDisconnect_listenerSide]
    rfl

theorem acmpHandle_listenerSide (fw : Firmware) (pdu : Buffer) (r : Readings) (h : AcmpHandler) :
    (acmpHandle fw pdu r h).listenerSide =
      listenerMachine.runFrom fw.listenerSide (acmpListenerOps fw pdu r.nowMs h) := by
  cases h with
  | connectTx => exact acmpHandleConnectTx_listenerSide ..
  | connectTxResponse => exact acmpHandleConnectTxResponse_listenerSide ..
  | disconnectTx => exact acmpHandleDisconnectTx_listenerSide ..
  | getTxState => exact respond_listenerSide ..
  | connectRx => exact acmpHandleConnectRx_listenerSide ..
  | disconnectRx => exact acmpHandleDisconnectRx_listenerSide ..
  | getRxState => exact respond_listenerSide ..

theorem aecp_listenerSide (fw : Firmware) (frame : Buffer) (len : Nat) :
    (fw.aecp frame len).listenerSide = fw.listenerSide := by
  unfold Firmware.aecp
  dsimp only
  split
  · exact withAvdecc_listenerSide fw (aecpHandle_connections ..)
  · exact withAvdecc_listenerSide fw (aecpHandle_connections ..)

theorem acmpCounted_listenerOps (fw : Firmware) (count : UInt32) (pdu : Buffer) (nowMs : UInt32)
    (h : AcmpHandler) :
    acmpListenerOps { fw with avdecc := { fw.avdecc with acmpRxCount := count } } pdu nowMs h =
      acmpListenerOps fw pdu nowMs h := by
  cases h <;> rfl

theorem avdeccProcessRx_listenerSide (fw : Firmware) (frame : Buffer) (len : Nat) (r : Readings) :
    (avdeccProcessRx fw frame len r).listenerSide =
      listenerMachine.runFrom fw.listenerSide (avdeccListenerOps fw frame len r.nowMs) := by
  unfold avdeccListenerOps
  have hrx := avdeccRx fw frame len r
  generalize avdeccProcessRx fw frame len r = fw' at hrx ⊢
  cases hrx with
  | ignored hacmp =>
    rw [if_neg hacmp]
    rfl
  | uncalled hacmp hnone =>
    rw [if_pos hacmp, hnone]
    rfl
  | acmp hacmp h hcalled =>
    rw [if_pos hacmp, hcalled, acmpHandle_listenerSide, acmpCounted_listenerOps]
    rfl
  | aecp hacmp =>
    rw [if_neg hacmp]
    exact aecp_listenerSide ..

-- ---------------------------------------------------------------------------
-- The main loop
-- ---------------------------------------------------------------------------

theorem dispatchRx_listenerSide (fw : Firmware) (slot : Buffer) (len : Nat) (r : Readings) :
    (dispatchRx fw slot len r).listenerSide =
      listenerMachine.runFrom fw.listenerSide (listenerOps fw (.dispatchRx slot len r)) := by
  unfold dispatchRx listenerOps
  dsimp only
  cases h : rxHandler (rxFrame slot len fw.scratch).frame (rxFrame slot len fw.scratch).len with
  | none => rfl
  | some handler =>
    cases handler with
    | gptp => exact putGptp_same Firmware.listenerSide (fun _ _ _ _ _ => rfl) ..
    | avdecc => exact avdeccProcessRx_listenerSide ..
    | msrp => exact srpProcessRx_listenerSide ..
    | _ => rfl

theorem trackLocks_listenerSide (fw : Firmware) : (trackLocks fw).listenerSide = fw.listenerSide := by
  have hlock (fw : Firmware) (u : ListenerUid) (locked : Bool) :
      (fw.putAvdecc (avdeccListenerLockChanged fw.avdecc u locked)).listenerSide =
        fw.listenerSide :=
    putAvdecc_listenerSide_same fw (avdeccListenerLockChanged_connections ..)
  unfold trackLocks
  refine (withAvdecc_listenerSide (Firmware.putAvdecc _ (avdeccListenerLockChanged _ _ _)) rfl).trans ?_
  refine (hlock ..).trans ?_
  split
  · exact hlock ..
  · rfl

theorem timeOutResolve_listenerSide (fw : Firmware) (s : Avdecc) (i : ListenerUid)
    (nowMs : UInt32) :
    { fw with avdecc := (timeOutResolve s i nowMs).1 }.listenerSide =
      listenerMachine.runFrom { fw with avdecc := s }.listenerSide
        (timeOutListenerOps s nowMs i) := by
  unfold timeOutResolve timeOutListenerOps
  dsimp only
  split <;> rfl

theorem timeOutListenerOps_congr {s s' : Avdecc} {i : ListenerUid} (nowMs : UInt32)
    (h : s'.resolves i = s.resolves i) :
    timeOutListenerOps s' nowMs i = timeOutListenerOps s nowMs i := by
  rw [timeOutListenerOps, timeOutListenerOps, h]

theorem avdeccPoll_listenerSide (fw : Firmware) (r : Readings) :
    (fw.putAvdecc (avdeccPoll fw.avdecc fw.gptp fw.mcr r.nowMs)).listenerSide =
      listenerMachine.runFrom fw.listenerSide (listenerOps fw (.avdeccPoll r)) := by
  let s := (trackClockLock fw.avdecc fw.gptp fw.mcr).1
  let s' := (timeOutResolve s listenerUidCrf r.nowMs).1
  have hs : s.connections = fw.avdecc.connections := trackClockLock_connections ..
  have hresolves : s.resolves = fw.avdecc.resolves := congrArg AvdeccConnections.resolves hs
  have hcrf : timeOutListenerOps s r.nowMs listenerUidCrf =
      timeOutListenerOps fw.avdecc r.nowMs listenerUidCrf :=
    timeOutListenerOps_congr _ (congrFun hresolves _)
  have haaf : timeOutListenerOps s' r.nowMs listenerUidAaf =
      timeOutListenerOps fw.avdecc r.nowMs listenerUidAaf :=
    timeOutListenerOps_congr _
      ((timeOutResolve_other _ (by decide)).trans (congrFun hresolves _))
  have hadp : (avdeccPoll fw.avdecc fw.gptp fw.mcr r.nowMs).1.connections =
      (timeOutResolve s' listenerUidAaf r.nowMs).1.connections :=
    adpAdvertise_connections (timeOutResolve s' listenerUidAaf r.nowMs).1 fw.gptp r.nowMs
  calc (fw.putAvdecc (avdeccPoll fw.avdecc fw.gptp fw.mcr r.nowMs)).listenerSide
    _ = { fw with avdecc := (timeOutResolve s' listenerUidAaf r.nowMs).1 }.listenerSide :=
      (putAvdecc_listenerSide ..).trans (withAvdecc_listenerSide_congr fw hadp)
    _ = listenerMachine.runFrom fw.listenerSide (listenerOps fw (.avdeccPoll r)) := by
      rw [timeOutResolve_listenerSide, haaf, timeOutResolve_listenerSide, hcrf,
        withAvdecc_listenerSide fw hs, ← Machine.runFrom_append]
      rfl

theorem loopStep_listenerSide (fw : Firmware) (step : LoopStep) :
    (loopStep fw step).listenerSide =
      listenerMachine.runFrom fw.listenerSide (listenerOps fw step) := by
  cases step with
  | dispatchRx slot len r => exact dispatchRx_listenerSide ..
  | gptpPoll r => exact putGptp_same Firmware.listenerSide (fun _ _ _ _ _ => rfl) ..
  | srpPoll r => exact sendAll_same Firmware.listenerSide (fun _ _ _ => rfl) ..
  | trackLocks => exact trackLocks_listenerSide fw
  | syncVlan => exact syncVlan_same Firmware.listenerSide (fun _ _ _ _ _ => rfl) fw
  | avdeccPoll r => exact avdeccPoll_listenerSide ..
  | crfFlowWatchdog r =>
    exact putAvdecc_listenerSide_same fw (avdeccCrfFlowWatchdog_connections ..)
  | usbAafDrain words =>
    unfold loopStep
    dsimp only
    split
    · rfl
    · exact usbAafDrain_same Firmware.listenerSide (fun _ _ _ _ => rfl) ..
  | aafTxPoll count now =>
    unfold loopStep
    dsimp only
    split
    · rfl
    · exact runAafTxPoll_same Firmware.listenerSide (fun _ _ _ _ => rfl) ..
  | packetizerFrame seq pres payload =>
    unfold loopStep
    dsimp only
    split <;> rfl
  | _ => rfl

theorem mainLoop_refines_listenerSide :
    mainLoop.Refines listenerMachine Firmware.listenerSide listenerOps where
  init := rfl
  step fw step := by
    show (loopStep { fw with sent := [], tsuWrites := [] } step).listenerSide = _
    rw [loopStep_listenerSide]
    cases step <;> rfl

/-- What every operation keeps that the step makes and that was checked. -/
theorem listenerSide_invariant {I : ListenerSide → Prop} {fw : Firmware} {step : LoopStep}
    (h : I fw.listenerSide)
    (hone : ∀ op ∈ listenerOps fw step, op.Sound fw.listenerSide → I (fw.listenerSide.apply op))
    (hevent : ∀ c op, I c → op.IsEvent → I (c.apply op)) :
    I (mainLoop.step fw step).listenerSide := by
  rw [mainLoop_refines_listenerSide.step]
  generalize hops : listenerOps fw step = ops at hone
  have hshape := listenerOps_shape fw step
  rw [hops] at hshape
  cases hshape with
  | one op hsound => exact hone op (List.mem_singleton.mpr rfl) hsound
  | events hevents =>
    clear hops hone
    generalize fw.listenerSide = c at h
    induction ops generalizing c with
    | nil => exact h
    | cons op rest ih =>
      obtain ⟨hop, hrest⟩ := List.forall_mem_cons.mp hevents
      exact ih hrest _ (hevent c op h hop)

theorem mainLoop_run_listenerSide {run : List LoopStep} {ops : List ListenerOp}
    (h : mainLoop.traceFrom listenerOps boot run = ops) :
    (mainLoop.run run).listenerSide = listenerMachine.run ops := by
  rw [← h]
  exact mainLoop_refines_listenerSide.run run

end AvbAes3
