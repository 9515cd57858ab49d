import AvbAes3.ConnectionsSound

/-!
# Slow-path connects and what overtakes them

A slow-path CONNECT_RX starts a resolve, and the talker's answer connects
the listener later. The log numbers the CONNECT_RX and DISCONNECT_RX
commands; an answer is of the latest command if the resolve it is for was
started by it. A second slow-path connect replaces the resolve, but a fast
connect, a refused one and a disconnect leave it active: the theorem is
about the runs in which none of these finds an active resolve.
-/

namespace AvbAes3.SlowPath

-- ---------------------------------------------------------------------------
-- The commands of a listener
-- ---------------------------------------------------------------------------

/-- The commands are numbered from 1. `latest u` is the number of the latest
for the listener, `startedBy i` of the one that started the resolve. -/
structure CommandLog where
  count : Nat := 0
  latest : ListenerUid → Nat := fun _ => 0
  latestDisconnects : ListenerUid → Bool := fun _ => false
  startedBy : ListenerUid → Nat := fun _ => 0

def CommandLog.command (log : CommandLog) (u : ListenerUid) (disconnects : Bool) : CommandLog :=
  { log with
    count := log.count + 1
    latest := Function.update log.latest u (log.count + 1)
    latestDisconnects := Function.update log.latestDisconnects u disconnects }

def CommandLog.start (log : CommandLog) (u : ListenerUid) : CommandLog :=
  { log with startedBy := Function.update log.startedBy u (log.latest u) }

section Log

variable (log : CommandLog) {u v : ListenerUid} (disconnects : Bool)

theorem CommandLog.command_latestDisconnects :
    (log.command u disconnects).latestDisconnects u = disconnects := Function.update_self ..

theorem CommandLog.command_latest_other (h : v ≠ u) :
    (log.command u disconnects).latest v = log.latest v := Function.update_of_ne h ..

theorem CommandLog.command_latestDisconnects_other (h : v ≠ u) :
    (log.command u disconnects).latestDisconnects v = log.latestDisconnects v :=
  Function.update_of_ne h ..

theorem CommandLog.start_startedBy : (log.start u).startedBy u = log.latest u :=
  Function.update_self ..

theorem CommandLog.start_startedBy_other (h : v ≠ u) :
    (log.start u).startedBy v = log.startedBy v := Function.update_of_ne h ..

end Log

def note (log : CommandLog) : ConnOp → CommandLog
  | .connect u _ _ _ | .refuse u => log.command u false
  | .disconnect u => log.command u true
  | .resolve u => (log.command u false).start u
  | _ => log

/-- The main loop with the log beside it. -/
def tracked : Machine (Firmware × CommandLog) LoopStep :=
  mainLoop.withHistory {} fun log fw step => (connOps fw step).foldl note log

/-- A step that connects a listener with the talker's answer does so for the
listener's latest command. -/
def BindsLatest (s : Firmware × CommandLog) (step : LoopStep) : Prop :=
  ∀ i u streamId destMac talkerId,
    ConnOp.answer i true streamId destMac talkerId ∈ connOps s.1 step →
      s.1.connections.resolves i = some u → s.2.startedBy i = s.2.latest u

/-- A listener whose latest command is a disconnect is not connected. -/
def StaysDisconnected (s : Firmware × CommandLog) : Prop :=
  ∀ u, s.2.latestDisconnects u → (s.1.avdecc.listeners u).connected = false

/-- A command that does not start a resolve finds none active. -/
def Settled (fw : Firmware) : ConnOp → Prop
  | .connect u _ _ _ | .refuse u | .disconnect u => (fw.avdecc.resolves u).active = false
  | _ => True

-- ---------------------------------------------------------------------------
-- What the log says of the resolves
-- ---------------------------------------------------------------------------

/-- An active resolve is for the listener of its own index, started by its
latest command. -/
structure Fresh (c : Connections) (log : CommandLog) : Prop where
  own : ∀ i u, c.resolves i = some u → u = i
  latest : ∀ i u, c.resolves i = some u → log.startedBy i = log.latest i
  connects : ∀ i u, c.resolves i = some u → log.latestDisconnects i = false
  disconnected : ∀ u, log.latestDisconnects u → (c.listeners u).connected = false

/-- `Settled` of the connections. -/
def Free (c : Connections) : ConnOp → Prop
  | .connect u _ _ _ | .refuse u | .disconnect u => c.resolves u = none
  | _ => True

section Step

variable {c c' : Connections} {log : CommandLog} {u : ListenerUid}

theorem Fresh.same (h : Fresh c log) (hresolves : c'.resolves = c.resolves)
    (hconnected : ∀ v, (c'.listeners v).connected = (c.listeners v).connected) : Fresh c' log where
  own := hresolves ▸ h.own
  latest := hresolves ▸ h.latest
  connects := hresolves ▸ h.connects
  disconnected v hv := (hconnected v).trans (h.disconnected v hv)

/-- A command for a listener without an active resolve. -/
theorem Fresh.command (h : Fresh c log) (hfree : c.resolves u = none)
    (hresolves : c'.resolves = c.resolves) {disconnects : Bool}
    (hother : ∀ v, v ≠ u → (c'.listeners v).connected = (c.listeners v).connected)
    (hu : disconnects → (c'.listeners u).connected = false) :
    Fresh c' (log.command u disconnects) := by
  have hne : ∀ i v, c'.resolves i = some v → i ≠ u := by
    rintro i v hi rfl
    rw [hresolves, hfree] at hi
    cases hi
  refine ⟨hresolves ▸ h.own, fun i v hi => ?_, fun i v hi => ?_, fun v hv => ?_⟩
  · rw [log.command_latest_other disconnects (hne i v hi)]
    exact h.latest i v (hresolves ▸ hi)
  · rw [log.command_latestDisconnects_other disconnects (hne i v hi)]
    exact h.connects i v (hresolves ▸ hi)
  · by_cases hvu : v = u
    · rw [hvu, log.command_latestDisconnects] at hv
      exact hvu ▸ hu hv
    · rw [log.command_latestDisconnects_other disconnects hvu] at hv
      exact (hother v hvu).trans (h.disconnected v hv)

/-- The command that starts a resolve replaces the one there was. -/
theorem Fresh.resolve (h : Fresh c log) :
    Fresh (c.setResolve u (some u)) ((log.command u false).start u) := by
  have hself : (c.setResolve u (some u)).resolves u = some u := Function.update_self ..
  have hother : ∀ i, i ≠ u → (c.setResolve u (some u)).resolves i = c.resolves i :=
    fun i hi => Function.update_of_ne hi ..
  refine ⟨fun i v hi => ?_, fun i v hi => ?_, fun i v hi => ?_, fun v hv => ?_⟩
  · by_cases hiu : i = u
    · subst hiu
      exact (Option.some.inj (hself.symm.trans hi)).symm
    · exact h.own i v (hother i hiu ▸ hi)
  · by_cases hiu : i = u
    · subst hiu
      exact CommandLog.start_startedBy _
    · rw [CommandLog.start_startedBy_other _ hiu]
      exact (h.latest i v (hother i hiu ▸ hi)).trans (log.command_latest_other false hiu).symm
  · by_cases hiu : i = u
    · subst hiu
      exact log.command_latestDisconnects false
    · exact (log.command_latestDisconnects_other false hiu).trans
        (h.connects i v (hother i hiu ▸ hi))
  · by_cases hvu : v = u
    · subst hvu
      exact nomatch (log.command_latestDisconnects false).symm.trans hv
    · exact h.disconnected v ((log.command_latestDisconnects_other false hvu).symm.trans hv)

theorem Fresh.settle (h : Fresh c log) (i : ListenerUid) : Fresh (c.setResolve i none) log := by
  have hat : ∀ j v, (c.setResolve i none).resolves j = some v → c.resolves j = some v := by
    intro j v hj
    by_cases hji : j = i
    · subst hji
      exact nomatch (Function.update_self ..).symm.trans hj
    · exact (Function.update_of_ne hji ..).symm.trans hj
  exact ⟨fun j v hj => h.own j v (hat j v hj), fun j v hj => h.latest j v (hat j v hj),
    fun j v hj => h.connects j v (hat j v hj), h.disconnected⟩

/-- An answer connects the listener of a fresh resolve, whose latest command
is no disconnect. -/
theorem Fresh.answer (h : Fresh c log) (i : ListenerUid) (success : Bool) (streamId : StreamId)
    (destMac : MacAddr) (talkerId : EntityId) :
    Fresh (c.answer i success streamId destMac talkerId) log := by
  unfold Connections.answer
  split
  case h_2 => exact h
  case h_1 u hu =>
    cases success
    · exact h.settle i
    refine Fresh.settle ?_ i
    refine ⟨?_, ?_, ?_, fun v hv => ?_⟩
    · rw [if_pos rfl, Connections.connect_resolves]
      exact h.own
    · rw [if_pos rfl, Connections.connect_resolves]
      exact h.latest
    · rw [if_pos rfl, Connections.connect_resolves]
      exact h.connects
    · have hvu : v ≠ u := by
        rintro rfl
        rw [h.own i v hu, h.connects i v hu] at hv
        cases hv
      rw [if_pos rfl, Connections.connect_listeners, Function.update_of_ne hvu]
      exact h.disconnected v hv

theorem Fresh.apply (h : Fresh c log) {op : ConnOp} (hfree : Free c op) :
    Fresh (c.apply op) (note log op) := by
  cases op with
  | connect u streamId destMac talkerId =>
    refine h.command hfree (Connections.connect_resolves ..) (fun v hv => ?_) (fun hd => nomatch hd)
    show ((c.connect u streamId destMac talkerId).listeners v).connected = _
    rw [Connections.connect_listeners, Function.update_of_ne hv]
  | refuse u => exact h.command hfree rfl (fun _ _ => rfl) (fun hd => nomatch hd)
  | resolve u => exact h.resolve
  | answer i success streamId destMac talkerId => exact h.answer ..
  | timeOut i => exact h.settle i
  | disconnect u =>
    refine h.command hfree (Connections.disconnect_resolves ..) (fun v hv => ?_) (fun _ => ?_)
    · show ((c.disconnect u).listeners v).connected = _
      rw [Connections.disconnect_listeners, Function.update_of_ne hv]
    · show ((c.disconnect u).listeners u).connected = _
      rw [Connections.disconnect_listeners, Function.update_self]
  | advertise streamId destMac =>
    refine h.same ?_ fun v => ?_
    · exact (Connections.complete_resolves ..).trans (Connections.complete_resolves ..)
    · exact (Connections.complete_connected ..).trans (Connections.complete_connected ..)
  | packetizerFrame =>
    unfold Connections.apply note
    dsimp only
    split
    · exact h.same rfl fun _ => rfl
    · exact h
  | _ => exact h.same rfl fun _ => rfl

theorem Fresh.ops {ops : List ConnOp} (hops : StepShape ops) (h : Fresh c log)
    (hfree : ∀ op ∈ ops, Free c op) :
    Fresh (connMachine.runFrom c ops) (ops.foldl note log) := by
  cases hops with
  | one op => exact h.apply (hfree op (List.mem_singleton_self op))
  | events hevents =>
    clear hfree
    induction ops generalizing c log with
    | nil => exact h
    | cons op rest ih =>
      obtain ⟨hop, hrest⟩ := List.forall_mem_cons.mp hevents
      refine ih (h.apply ?_) hrest
      cases op with
      | advertise | timeOut => exact trivial
      | _ => cases hop

theorem free_of_settled {fw : Firmware} {op : ConnOp} (h : Settled fw op) :
    Free (fw.connections.apply .newStep) op := by
  have hfree {u : ListenerUid} (hu : (fw.avdecc.resolves u).active = false) :
      fw.connections.resolves u = none := by
    show (fw.avdecc.resolves u).waiting = none
    rw [AvdeccResolve.waiting, hu]
    rfl
  cases op with
  | connect | refuse | disconnect => exact hfree h
  | _ => exact trivial

theorem Fresh.step {fw : Firmware} (step : LoopStep) (h : Fresh fw.connections log)
    (hsettled : ∀ op ∈ connOps fw step, Settled fw op) :
    Fresh (mainLoop.step fw step).connections ((connOps fw step).foldl note log) := by
  rw [mainLoop_refines.step]
  have hnew : Fresh (fw.connections.apply .newStep) log := h.same rfl fun _ => rfl
  show Fresh (connMachine.runFrom (fw.connections.apply .newStep) (stepOps fw step))
    ((stepOps fw step).foldl note log)
  exact hnew.ops (stepOps_shape fw step) fun op hop =>
    free_of_settled (hsettled op (List.mem_cons_of_mem _ hop))

end Step

-- ---------------------------------------------------------------------------
-- Runs
-- ---------------------------------------------------------------------------

theorem fresh_boot : Fresh boot.connections {} where
  own _ _ h := nomatch h
  latest _ _ h := nomatch h
  connects _ _ h := nomatch h
  disconnected _ h := nomatch h

/-- In a run in which every command that starts no resolve finds none
active, an answer connects a listener only for its latest command, and a
listener stays disconnected until the next CONNECT_RX. -/
theorem slowPath_bindsLatest (run : List LoopStep)
    (h : (tracked.Steps fun s step => ∀ op ∈ connOps s.1 step, Settled s.1 op) run) :
    tracked.Steps BindsLatest run ∧ StaysDisconnected (tracked.run run) := by
  have hkeep : ∀ (s : Firmware × CommandLog) (step : LoopStep), Fresh s.1.connections s.2 →
      (∀ op ∈ connOps s.1 step, Settled s.1 op) →
        Fresh (tracked.step s step).1.connections (tracked.step s step).2 :=
    fun s step hs hsettled => hs.step step hsettled
  refine ⟨h.of_invariant (fun s => Fresh s.1.connections s.2) fresh_boot hkeep ?_, ?_⟩
  · rintro s step hs - i u streamId destMac talkerId - hu
    rw [hs.own i u hu]
    exact hs.latest i u hu
  · exact (h.invariant (I := fun s => Fresh s.1.connections s.2) fresh_boot hkeep).disconnected

-- ---------------------------------------------------------------------------
-- Two runs
-- ---------------------------------------------------------------------------

instance decidableSettled (fw : Firmware) : (op : ConnOp) → Decidable (Settled fw op)
  | .connect u _ _ _ | .refuse u | .disconnect u =>
    inferInstanceAs (Decidable ((fw.avdecc.resolves u).active = false))
  | .newStep | .connectTx .. | .disconnectTx .. | .resolve _ | .answer .. | .timeOut _
  | .advertise .. | .pushBinding | .aafFrame | .packetizerFrame => .isTrue trivial

def talkerEntity : EntityId := eightBytes 0x00 0x1B 0x21 0xFF 0xFE 0x00 0x00 0x0A

/-- A listener command for the CRF listener, with nothing but the talker. -/
def listenerCommand (msgType : UInt8) : LoopStep :=
  receiveAcmp
    { msgType := msgType
      controllerId := zeroBytes 8
      talkerId := talkerEntity
      listenerId := boot.avdecc.entityId
      talkerUid := 0
      listenerUid := 0
      seqId := 7 }

/-- The talker's answer to the first resolve. -/
def talkerAnswer : LoopStep :=
  receiveAcmp
    { msgType := acmpMsgConnectTxResponse
      streamId := eightBytes 0x00 0x1B 0x21 0x00 0x00 0x0A 0x00 0x01
      controllerId := boot.avdecc.entityId
      talkerId := talkerEntity
      listenerId := boot.avdecc.entityId
      talkerUid := 0
      listenerUid := 0
      streamDestMac := sixBytes 0x91 0xE0 0xF0 0x00 0xFE 0x0A
      seqId := 0 }

/-- The answer comes while the connect is the latest command. -/
theorem slowPath_answered :
    tracked.Steps BindsLatest [listenerCommand acmpMsgConnectRxCommand, talkerAnswer] ∧
      StaysDisconnected (tracked.run [listenerCommand acmpMsgConnectRxCommand, talkerAnswer]) :=
  slowPath_bindsLatest [listenerCommand acmpMsgConnectRxCommand, talkerAnswer] (by decide +kernel)

/-- The answer comes after a disconnect. -/
def overtaken : List LoopStep :=
  [listenerCommand acmpMsgConnectRxCommand, listenerCommand acmpMsgDisconnectRxCommand,
    talkerAnswer]

theorem slowPath_overtaken :
    ¬ (tracked.Steps BindsLatest overtaken ∧ StaysDisconnected (tracked.run overtaken)) := by
  have hlatest : (tracked.run overtaken).2.latestDisconnects listenerUidCrf = true := by
    decide +kernel
  have hconnected : ((tracked.run overtaken).1.avdecc.listeners listenerUidCrf).connected = true := by
    decide +kernel
  rintro ⟨-, hstays⟩
  exact nomatch hconnected.symm.trans (hstays listenerUidCrf hlatest)

end AvbAes3.SlowPath
