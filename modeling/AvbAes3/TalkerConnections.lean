import AvbAes3.ConnectionsSound

/-!
# The talker and its listeners

CONNECT_TX names the listener that asks for the stream, DISCONNECT_TX the
one that has had enough. The talker keeps a flag and a counter instead of
the set of listeners: every CONNECT_TX counts, a retransmission too, and any
DISCONNECT_TX stops the stream, whoever else is listening. Flag, counter and
set agree along a run exactly if the run meets none of these cases.
-/

namespace AvbAes3.TalkerConnections

-- ---------------------------------------------------------------------------
-- Listeners
-- ---------------------------------------------------------------------------

/-- `(listener_entity_id, listener_unique_id)` -/
abbrev ListenerName := EntityId × UInt16

/-- The listeners that have connected and not since disconnected. -/
abbrev Listening := Finset ListenerName

def note (listening : Listening) : ConnOp → Listening
  | .connectTx id uid => insert (id, uid) listening
  | .disconnectTx id uid => listening.erase (id, uid)
  | _ => listening

/-- The main loop with the set of listeners beside it. -/
def tracked : Machine (Firmware × Listening) LoopStep :=
  mainLoop.withHistory ∅ fun listening fw step => (connOps fw step).foldl note listening

/-- The talker is connected and streams if anybody listens, and counts the
listeners. -/
def Agrees (fw : Firmware) (listening : Listening) : Prop :=
  (((fw.avdecc.talkers talkerUidAaf).connected ∧ fw.srp.talkerEnabled ∧ fw.aafPkt.enable) ↔
      listening.Nonempty) ∧
    (fw.avdecc.talkers talkerUidAaf).connectionCount.toNat = listening.card

/-- A listener connects that is not connected, and the counter has room; a
listener disconnects and nobody else is connected. -/
def Exclusive (listening : Listening) : ConnOp → Prop
  | .connectTx id uid => (id, uid) ∉ listening ∧ listening.card < 65535
  | .disconnectTx id uid => listening ⊆ {(id, uid)}
  | _ => True

-- ---------------------------------------------------------------------------
-- The talker's session
-- ---------------------------------------------------------------------------

/-- What the talker has in place of the set. -/
structure Session where
  connected : Bool
  count : UInt16
  advertised : Bool
  packetizing : Bool
  deriving DecidableEq, Repr

def sessionOf (c : Connections) : Session :=
  ⟨c.talker.connected, c.talker.connectionCount, c.advertised.enabled, c.packetizer.enabled⟩

def Session.connect (s : Session) : Session := ⟨true, s.count + 1, true, true⟩

def Session.disconnect (s : Session) : Session :=
  ⟨false, if s.count > 0 then s.count - 1 else s.count, false, false⟩

def Session.apply (s : Session) : ConnOp → Session
  | .connectTx .. => s.connect
  | .disconnectTx .. => s.disconnect
  | _ => s

theorem sessionOf_talkerSide {c c' : Connections} (h : c'.talkerSide = c.talkerSide) :
    sessionOf c' = sessionOf c := by
  simp only [Connections.talkerSide, TalkerSide.mk.injEq] at h
  obtain ⟨htalker, hadvertised, hpacketizer, -⟩ := h
  rw [sessionOf, htalker, hadvertised, hpacketizer]
  rfl

theorem apply_session (c : Connections) (op : ConnOp) :
    sessionOf (c.apply op) = (sessionOf c).apply op := by
  cases op with
  | connect => exact sessionOf_talkerSide (Connections.connect_talkerSide ..)
  | disconnect => exact sessionOf_talkerSide (Connections.disconnect_talkerSide ..)
  | answer => exact sessionOf_talkerSide (Connections.answer_talkerSide ..)
  | advertise =>
    exact sessionOf_talkerSide
      ((Connections.complete_talkerSide ..).trans (Connections.complete_talkerSide ..))
  | packetizerFrame =>
    unfold Connections.apply
    dsimp only
    split <;> rfl
  | _ => rfl

theorem mainLoop_session (fw : Firmware) (step : LoopStep) :
    sessionOf (mainLoop.step fw step).connections =
      (connOps fw step).foldl Session.apply (sessionOf fw.connections) := by
  rw [mainLoop_refines.step]
  generalize fw.connections = c
  induction connOps fw step generalizing c with
  | nil => rfl
  | cons op rest ih =>
    rw [List.foldl_cons, ← apply_session]
    exact ih _

-- ---------------------------------------------------------------------------
-- One command
-- ---------------------------------------------------------------------------

def Session.Agrees (s : Session) (listening : Listening) : Prop :=
  ((s.connected ∧ s.advertised ∧ s.packetizing) ↔ listening.Nonempty) ∧
    s.count.toNat = listening.card

/-- The three flags are one. -/
structure Session.Uniform (s : Session) : Prop where
  advertised : s.advertised = s.connected
  packetizing : s.packetizing = s.connected

theorem Session.Uniform.apply {s : Session} (h : s.Uniform) (op : ConnOp) :
    (s.apply op).Uniform := by
  cases op with
  | connectTx => exact ⟨rfl, rfl⟩
  | disconnectTx => exact ⟨rfl, rfl⟩
  | _ => exact h

theorem connect_agrees_iff {s : Session} {listening : Listening} (name : ListenerName)
    (h : s.Agrees listening) :
    (name ∉ listening ∧ listening.card < 65535) ↔ s.connect.Agrees (insert name listening) := by
  have hcount := h.2
  have hlt : s.count.toNat < 65536 := s.count.toNat_lt
  have hadd : (s.count + 1).toNat = (s.count.toNat + 1) % 65536 := UInt16.toNat_add ..
  have hflags : (s.connect.connected ∧ s.connect.advertised ∧ s.connect.packetizing) ↔
      (insert name listening).Nonempty :=
    iff_of_true ⟨rfl, rfl, rfl⟩ (Finset.insert_nonempty ..)
  simp only [Session.Agrees, hflags, true_and]
  show _ ↔ (s.count + 1).toNat = _
  by_cases hmem : name ∈ listening
  · rw [Finset.insert_eq_of_mem hmem]
    simp only [hmem, not_true_eq_false, false_and, false_iff]
    omega
  · rw [Finset.card_insert_of_notMem hmem]
    simp only [hmem, not_false_eq_true, true_and]
    omega

theorem disconnect_count (s : Session) : s.disconnect.count.toNat = s.count.toNat - 1 := by
  have hpos : s.count > 0 ↔ 0 < s.count.toNat := UInt16.lt_iff_toNat_lt
  unfold Session.disconnect
  dsimp only
  split
  case isTrue h =>
    exact UInt16.toNat_sub_of_le _ _ (UInt16.le_iff_toNat_le.mpr (hpos.mp h))
  case isFalse h =>
    have : ¬ 0 < s.count.toNat := mt hpos.mpr h
    omega

theorem disconnect_agrees_iff {s : Session} {listening : Listening} (name : ListenerName)
    (h : s.Agrees listening) :
    listening ⊆ {name} ↔ s.disconnect.Agrees (listening.erase name) := by
  constructor
  · intro hsub
    have hempty : listening.erase name = ∅ := by
      rwa [← Finset.subset_empty, ← Finset.subset_insert_iff]
    have hcard : listening.card ≤ 1 := Finset.card_le_one_iff_subset_singleton.mpr ⟨name, hsub⟩
    refine ⟨?_, ?_⟩
    · rw [hempty]
      exact iff_of_false (fun hflags => nomatch hflags.1) Finset.not_nonempty_empty
    · rw [disconnect_count, h.2, hempty, Finset.card_empty]
      omega
  · rintro ⟨hflags, -⟩
    have hempty : listening.erase name = ∅ := by
      rw [← Finset.not_nonempty_iff_eq_empty, ← hflags]
      exact fun hconnected => nomatch hconnected.1
    rw [← insert_empty_eq, Finset.subset_insert_iff, hempty]

theorem agrees_iff {s : Session} {listening : Listening} (h : s.Agrees listening) (op : ConnOp) :
    Exclusive listening op ↔ (s.apply op).Agrees (note listening op) := by
  cases op with
  | connectTx id uid => exact connect_agrees_iff (id, uid) h
  | disconnectTx id uid => exact disconnect_agrees_iff (id, uid) h
  | _ => exact iff_of_true trivial h

-- ---------------------------------------------------------------------------
-- One step of the main loop
-- ---------------------------------------------------------------------------

theorem agrees_of_session {fw : Firmware} {listening : Listening} :
    Agrees fw listening ↔ (sessionOf fw.connections).Agrees listening := Iff.rfl

theorem foldl_events {ops : List ConnOp} (h : ∀ op ∈ ops, op.isEvent) (s : Session)
    (listening : Listening) :
    ops.foldl Session.apply s = s ∧ ops.foldl note listening = listening ∧
      ∀ op ∈ ops, Exclusive listening op := by
  induction ops with
  | nil => exact ⟨rfl, rfl, fun _ hop => nomatch hop⟩
  | cons op rest ih =>
    obtain ⟨hop, hrest⟩ := List.forall_mem_cons.mp h
    obtain ⟨hs, hl, he⟩ := ih hrest
    cases op with
    | advertise | timeOut => exact ⟨hs, hl, List.forall_mem_cons.mpr ⟨trivial, he⟩⟩
    | _ => cases hop

/-- The whole operation list of a step, from a state in which flags, counter
and set agree. -/
theorem ops_agrees_iff {ops : List ConnOp} (hops : StepShape ops) {s : Session}
    {listening : Listening} (h : s.Agrees listening) :
    (∀ op ∈ ops, Exclusive listening op) ↔
      (ops.foldl Session.apply s).Agrees (ops.foldl note listening) := by
  cases hops with
  | events hevents =>
    obtain ⟨hs, hl, he⟩ := foldl_events hevents s listening
    rw [hs, hl]
    exact iff_of_true he h
  | one op =>
    rw [List.forall_mem_singleton]
    exact agrees_iff h op

-- ---------------------------------------------------------------------------
-- Runs
-- ---------------------------------------------------------------------------

/-- Flags, counter and set agree after every step of a run exactly if every
CONNECT_TX of the run is a new listener's that the counter has room for, and
every DISCONNECT_TX leaves nobody connected. -/
theorem talker_streams_iff (run : List LoopStep) :
    (tracked.Steps fun s step => ∀ op ∈ connOps s.1 step, Exclusive s.2 op) run ↔
      (tracked.Steps fun s step => Agrees (tracked.step s step).1 (tracked.step s step).2) run := by
  have hstep (s : Firmware × Listening) (step : LoopStep) (h : Agrees s.1 s.2) :
      (∀ op ∈ connOps s.1 step, Exclusive s.2 op) ↔
        Agrees (tracked.step s step).1 (tracked.step s step).2 := by
    rw [agrees_of_session]
    show _ ↔ (sessionOf (mainLoop.step s.1 step).connections).Agrees _
    rw [mainLoop_session, connOps, List.forall_mem_cons]
    exact Iff.trans ⟨And.right, And.intro trivial⟩ (ops_agrees_iff (stepOps_shape s.1 step) h)
  refine Machine.steps_congr (fun s => Agrees s.1 s.2) ?_
    (fun s step h hP => (hstep s step h).mp hP) hstep run
  exact ⟨iff_of_false (fun h => nomatch h.1) Finset.not_nonempty_empty, rfl⟩

/-- The three flags never differ: what the talker declares and sends follows
its connected flag. -/
theorem talker_flags_uniform (run : List LoopStep) :
    (sessionOf (mainLoop.run run).connections).Uniform := by
  refine mainLoop.run_invariant (I := fun fw => (sessionOf fw.connections).Uniform) ⟨rfl, rfl⟩ ?_ run
  intro fw step h
  rw [mainLoop_session]
  generalize sessionOf fw.connections = s at h ⊢
  induction connOps fw step generalizing s with
  | nil => exact h
  | cons op rest ih => exact ih _ (h.apply op)

-- ---------------------------------------------------------------------------
-- A disconnect with somebody else listening
-- ---------------------------------------------------------------------------

/-- A talker command of the listener of this entity and id 0. -/
def talkerCommand (msgType : UInt8) (listenerId : EntityId) : LoopStep :=
  receiveAcmp
    { msgType := msgType
      controllerId := zeroBytes 8
      talkerId := boot.avdecc.entityId
      listenerId := listenerId
      talkerUid := 0
      listenerUid := 0
      seqId := 0 }

def deviceA : EntityId := eightBytes 0x00 0x1B 0x21 0xFF 0xFE 0x00 0x00 0x0A
def deviceB : EntityId := eightBytes 0x00 0x1B 0x21 0xFF 0xFE 0x00 0x00 0x0B

/-- Two devices connect, one disconnects. -/
def earlyStop : List LoopStep :=
  [talkerCommand acmpMsgConnectTxCommand deviceA, talkerCommand acmpMsgConnectTxCommand deviceB,
    talkerCommand acmpMsgDisconnectTxCommand deviceA]

/-- The stream stops with a listener connected. -/
theorem talker_stopped_early :
    ¬ (tracked.Steps fun s step => Agrees (tracked.step s step).1 (tracked.step s step).2)
      earlyStop := by
  have hstopped : ((tracked.run earlyStop).1.avdecc.talkers talkerUidAaf).connected = false := by
    decide +kernel
  have hlistening : (tracked.run earlyStop).2.Nonempty := by decide +kernel
  rintro ⟨-, -, ⟨hflags, -⟩, -⟩
  have hconnected : ((tracked.run earlyStop).1.avdecc.talkers talkerUidAaf).connected = true :=
    (hflags.mpr hlistening).1
  rw [hstopped] at hconnected
  exact nomatch hconnected

end AvbAes3.TalkerConnections
