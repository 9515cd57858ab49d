import AvbAes3.ConnectAnswers

/-!
# The CRF flow watchdog

Five fields make the watchdog a state machine: the count it last saw, when
it last saw it move, whether it is recovering, when it last sent, and
whether any of that holds. The `Log` beside it is what an observer of the
calls writes down: the count at the last call, when it was last seen to
change, and the commands sent since.

`disciplined_of_inOrder`: whatever the counts, the spacing of the calls and
the connects and disconnects between them, the watchdog sends nothing before
the count has stood still for 3 s, then one DISCONNECT_TX, then only
CONNECT_TX, 5 s apart.
-/

namespace AvbAes3.CrfWatchdog

open ConnectAnswers (acmpdu_bytes ethHdr_length frame_pdu)

-- ---------------------------------------------------------------------------
-- Calls
-- ---------------------------------------------------------------------------

structure Fields where
  rxSnapshot : UInt32
  flowMs : UInt32
  lastRetryMs : UInt32
  recovery : Bool
  init : Bool

def fields (s : Avdecc) : Fields :=
  ⟨s.crfWdRxSnapshot, s.crfWdFlowMs, s.crfWdLastRetryMs, s.crfWdRecovery, s.crfWdInit⟩

/-- The watchdog, and all that the module does besides, which may change
anything but the watchdog's fields. -/
inductive Call
  | watchdog (rxCount nowMs : UInt32)
  | other (rest : Avdecc)

def step (luid : ListenerUid) (s : Avdecc) : Call → Avdecc
  | .watchdog rxCount nowMs => (avdeccCrfFlowWatchdog s luid rxCount nowMs).1
  | .other rest => { rest with
      crfWdRxSnapshot := s.crfWdRxSnapshot
      crfWdFlowMs := s.crfWdFlowMs
      crfWdLastRetryMs := s.crfWdLastRetryMs
      crfWdRecovery := s.crfWdRecovery
      crfWdInit := s.crfWdInit }

/-- The message type of an ACMP frame. -/
def acmpType (frame : List UInt8) : Option UInt8 :=
  if isAcmp (Buffer.ofList frame) frame.length then some (Buffer.ofList frame 15 &&& 0x0F)
  else none

/-- `seen` is the count at the last call, if that found the stream connected,
and `since` the time of the last call at which it was another one. `sent` has
the time of each command since, the last one first. -/
structure Log where
  lastMs : UInt32 := 0
  seen : Option UInt32 := none
  since : UInt32 := 0
  sent : List UInt32 := []

def Log.note (l : Log) (connected : Bool) (rxCount nowMs : UInt32) (frames : List (List UInt8)) :
    Log :=
  if connected = false then { l with lastMs := nowMs, seen := none }
  else if l.seen = some rxCount then
    { l with lastMs := nowMs, sent := frames.map (fun _ => nowMs) ++ l.sent }
  else ⟨nowMs, some rxCount, nowMs, []⟩

def note (luid : ListenerUid) (l : Log) (s : Avdecc) : Call → Log
  | .watchdog rxCount nowMs =>
    l.note (s.listeners luid).connected rxCount nowMs
      (avdeccCrfFlowWatchdog s luid rxCount nowMs).2
  | .other _ => l

def machine (mac : MacAddr) (luid : ListenerUid) : Machine (Avdecc × Log) Call :=
  Machine.withHistory ⟨avdeccInit mac, step luid⟩ {} (note luid)

/-- What a call at `nowMs` may send. -/
structure MaySend (l : Log) (connected : Bool) (rxCount nowMs : UInt32)
    (frames : List (List UInt8)) : Prop where
  atMostOne : frames.length ≤ 1
  /-- Nothing when the count has changed or the stream is not connected. -/
  silent : connected = false ∨ l.seen ≠ some rxCount → frames = []
  stalled : frames ≠ [] → l.since.toNat + 3000 ≤ nowMs.toNat
  first : l.sent = [] → ∀ frame ∈ frames, acmpType frame = some acmpMsgDisconnectTxCommand
  later : ∀ last ∈ l.sent.head?, ∀ frame ∈ frames,
    acmpType frame = some acmpMsgConnectTxCommand ∧ last.toNat + 5000 ≤ nowMs.toNat

def Disciplined (luid : ListenerUid) (s : Avdecc × Log) : Call → Prop
  | .watchdog rxCount nowMs =>
    MaySend s.2 (s.1.listeners luid).connected rxCount nowMs
      (avdeccCrfFlowWatchdog s.1 luid rxCount nowMs).2
  | .other _ => True

def InOrder (s : Avdecc × Log) : Call → Prop
  | .watchdog _ nowMs => s.2.lastMs ≤ nowMs
  | .other _ => True

instance (s : Avdecc × Log) : DecidablePred (InOrder s) := fun c => by
  unfold InOrder; split <;> infer_instance

-- ---------------------------------------------------------------------------
-- The watchdog
-- ---------------------------------------------------------------------------

theorem acmpType_bytes (srcMac : MacAddr) (a : Acmpdu) (h : a.msgType &&& 0x0F = t) :
    acmpType (avdeccEthHdr srcMac ++ a.bytes) = some t := by
  obtain ⟨hbytes, hsubtype, htype, -⟩ := acmpdu_bytes a
  rw [hbytes, acmpType, isAcmp, frame_pdu srcMac _ (show 1 < acmpduLen by decide), htype, h,
    frame_pdu srcMac _ (show 0 < acmpduLen by decide), hsubtype, List.length_append,
    ethHdr_length, Buffer.length_take]
  simp

/-- What a stalled call does to the fields, and what it sends. -/
inductive Rebootstraps (f : Fields) (nowMs : UInt32) : Fields → List (List UInt8) → Prop
  | disconnect (h : f.recovery = false)
      (hframe : acmpType frame = some acmpMsgDisconnectTxCommand) :
      Rebootstraps f nowMs { f with recovery := true, lastRetryMs := nowMs } [frame]
  | retry (h : f.recovery) (hms : nowMs - f.lastRetryMs ≥ crfWdRetryMs)
      (hframe : acmpType frame = some acmpMsgConnectTxCommand) :
      Rebootstraps f nowMs { f with lastRetryMs := nowMs } [frame]
  | wait (h : f.recovery) : Rebootstraps f nowMs f []

theorem crfRebootstrap_cases (s : Avdecc) (luid : ListenerUid) (nowMs : UInt32) :
    Rebootstraps (fields s) nowMs (fields (crfRebootstrap s luid nowMs).1)
      (crfRebootstrap s luid nowMs).2 := by
  have hdisconnect : acmpMsgDisconnectTxCommand &&& 0x0F = acmpMsgDisconnectTxCommand := by decide
  have hconnect : acmpMsgConnectTxCommand &&& 0x0F = acmpMsgConnectTxCommand := by decide
  unfold crfRebootstrap
  dsimp only
  by_cases hidle : (!s.crfWdRecovery) = true
  · have hrecovery : s.crfWdRecovery = false := by simpa using hidle
    rw [if_pos hidle]
    exact .disconnect hrecovery (acmpType_bytes _ _ hdisconnect)
  · have hrecovery : s.crfWdRecovery = true := by simpa using hidle
    rw [if_neg hidle]
    by_cases hms : nowMs - s.crfWdLastRetryMs ≥ crfWdRetryMs
    · rw [if_pos hms]
      exact .retry hrecovery hms (acmpType_bytes _ _ hconnect)
    · rw [if_neg hms]
      exact .wait hrecovery

/-- The log is what the fields say: while a count is seen, it is the
snapshot, and recovery has begun just when a command has been sent. -/
structure Kept (f : Fields) (l : Log) : Prop where
  init : f.init = l.seen.isSome
  snapshot : ∀ c ∈ l.seen, f.rxSnapshot = c
  flow : l.seen.isSome → l.since ≤ f.flowMs ∧ f.flowMs ≤ l.lastMs
  recovery : l.seen.isSome → (f.recovery ↔ l.sent ≠ [])
  lastRetry : l.seen.isSome → ∀ last ∈ l.sent.head?, f.lastRetryMs = last ∧ last ≤ l.lastMs

variable {f f' : Fields} {l : Log} {rxCount nowMs : UInt32}

theorem MaySend.nothing (l : Log) (connected : Bool) (rxCount nowMs : UInt32) :
    MaySend l connected rxCount nowMs [] where
  atMostOne := Nat.zero_le 1
  silent _ := rfl
  stalled h := absurd rfl h
  first _ _ h := absurd h List.not_mem_nil
  later _ _ _ h := absurd h List.not_mem_nil

theorem kept_baseline (rxCount nowMs : UInt32) (lastRetryMs : UInt32) :
    Kept ⟨rxCount, nowMs, lastRetryMs, false, true⟩ ⟨nowMs, some rxCount, nowMs, []⟩ where
  init := rfl
  snapshot _ h := Option.some.inj h
  flow _ := ⟨UInt32.le_refl _, UInt32.le_refl _⟩
  recovery _ := iff_of_false Bool.false_ne_true fun h => h rfl
  lastRetry _ _ h := by cases h

/-- A call that finds the count where it was, and sends nothing. -/
theorem Kept.still (h : Kept f l) (hord : l.lastMs ≤ nowMs) {flowMs : UInt32}
    (hflow : l.seen.isSome → l.since ≤ flowMs ∧ flowMs ≤ nowMs) :
    Kept { f with flowMs := flowMs } { l with lastMs := nowMs } where
  init := h.init
  snapshot := h.snapshot
  flow := hflow
  recovery := h.recovery
  lastRetry hseen last hlast :=
    ⟨(h.lastRetry hseen last hlast).1, UInt32.le_trans (h.lastRetry hseen last hlast).2 hord⟩

/-- A call that sends a command. -/
theorem Kept.sends (h : Kept f l) (hord : l.lastMs ≤ nowMs) (hflow : f.flowMs ≤ l.lastMs)
    {recovering : Bool} (hrecovering : recovering = true) :
    Kept { f with recovery := recovering, lastRetryMs := nowMs }
      { l with lastMs := nowMs, sent := nowMs :: l.sent } where
  init := h.init
  snapshot := h.snapshot
  flow hseen := ⟨(h.flow hseen).1, UInt32.le_trans hflow hord⟩
  recovery _ := iff_of_true hrecovering (List.cons_ne_nil _ _)
  lastRetry _ last hlast := by
    obtain rfl := Option.some.inj hlast
    exact ⟨rfl, UInt32.le_refl _⟩

/-- A call that finds it there after 3 s. -/
theorem Kept.rebootstrap (h : Kept f l) (hord : l.lastMs ≤ nowMs) (hseen : l.seen = some rxCount)
    (hstall : 3000 ≤ (nowMs - f.flowMs).toNat) {frames : List (List UInt8)}
    (hsends : Rebootstraps f nowMs f' frames) :
    MaySend l true rxCount nowMs frames ∧
      Kept f' { l with lastMs := nowMs, sent := frames.map (fun _ => nowMs) ++ l.sent } := by
  have hsome : l.seen.isSome := by rw [hseen]; rfl
  obtain ⟨hsince, hflow⟩ := h.flow hsome
  have hstalled : l.since.toNat + 3000 ≤ nowMs.toNat := by
    have hle := UInt32.le_trans hflow hord
    rw [UInt32.toNat_sub_of_le _ _ hle] at hstall
    have := UInt32.le_iff_toNat_le.mp hsince
    omega
  have hsilent {frames : List (List UInt8)} : true = false ∨ l.seen ≠ some rxCount → frames = [] :=
    fun hnot => absurd hseen (hnot.resolve_left (by decide))
  cases hsends with
  | disconnect hidle hframe =>
    have hnone : l.sent = [] := by
      by_contra hsent
      exact Bool.false_ne_true (hidle.symm.trans ((h.recovery hsome).mpr hsent))
    refine ⟨⟨Nat.le_refl 1, hsilent, fun _ => hstalled, ?_, ?_⟩, h.sends hord hflow rfl⟩
    · rintro - frame hmem
      rwa [List.mem_singleton.mp hmem]
    · rw [hnone]
      exact fun _ hlast => absurd hlast (by simp)
  | retry hrecovering hms hframe =>
    have hsent : l.sent ≠ [] := (h.recovery hsome).mp hrecovering
    refine ⟨⟨Nat.le_refl 1, hsilent, fun _ => hstalled, fun hnone => absurd hnone hsent, ?_⟩,
      h.sends hord hflow hrecovering⟩
    intro last hlast frame hmem
    obtain ⟨hlastRetry, hle⟩ := h.lastRetry hsome last hlast
    rw [List.mem_singleton.mp hmem]
    refine ⟨hframe, ?_⟩
    rw [hlastRetry, ge_iff_le, UInt32.le_iff_toNat_le,
      UInt32.toNat_sub_of_le _ _ (UInt32.le_trans hle hord)] at hms
    have hretry : crfWdRetryMs.toNat = 5000 := rfl
    have hbefore := UInt32.le_iff_toNat_le.mp (UInt32.le_trans hle hord)
    omega
  | wait hrecovering =>
    exact ⟨.nothing .., h.still hord fun _ => ⟨hsince, UInt32.le_trans hflow hord⟩⟩

theorem Log.note_idle (l : Log) (rxCount nowMs : UInt32) (frames : List (List UInt8)) :
    l.note false rxCount nowMs frames = { l with lastMs := nowMs, seen := none } := rfl

theorem Log.note_new (h : l.seen ≠ some rxCount) (nowMs : UInt32) (frames : List (List UInt8)) :
    l.note true rxCount nowMs frames = ⟨nowMs, some rxCount, nowMs, []⟩ := by
  rw [Log.note, if_neg (by decide), if_neg h]

theorem Log.note_same (h : l.seen = some rxCount) (nowMs : UInt32) (frames : List (List UInt8)) :
    l.note true rxCount nowMs frames =
      { l with lastMs := nowMs, sent := frames.map (fun _ => nowMs) ++ l.sent } := by
  rw [Log.note, if_neg (by decide), if_pos h]

/-- One call of the watchdog. -/
theorem Kept.watchdog {s : Avdecc} (h : Kept (fields s) l) (hord : l.lastMs ≤ nowMs)
    (luid : ListenerUid) (rxCount : UInt32) :
    MaySend l (s.listeners luid).connected rxCount nowMs
        (avdeccCrfFlowWatchdog s luid rxCount nowMs).2 ∧
      Kept (fields (avdeccCrfFlowWatchdog s luid rxCount nowMs).1)
        (l.note (s.listeners luid).connected rxCount nowMs
          (avdeccCrfFlowWatchdog s luid rxCount nowMs).2) := by
  unfold avdeccCrfFlowWatchdog
  by_cases hidle : (!(s.listeners luid).connected) = true
  · have hconnected : (s.listeners luid).connected = false := by simpa using hidle
    rw [if_pos hidle, hconnected, Log.note_idle]
    refine ⟨.nothing .., rfl, fun _ hc => ?_, fun hseen => ?_, fun hseen => ?_, fun hseen => ?_⟩
    · cases hc
    all_goals cases hseen
  have hconnected : (s.listeners luid).connected = true := by simpa using hidle
  rw [if_neg hidle, hconnected]
  by_cases hfirst : (!s.crfWdInit) = true
  · have hinit : s.crfWdInit = false := by simpa using hfirst
    have hseen : l.seen ≠ some rxCount := fun hsome => by
      have hlog : s.crfWdInit = l.seen.isSome := h.init
      rw [hinit, hsome] at hlog
      exact Bool.false_ne_true hlog
    rw [if_pos hfirst, Log.note_new hseen]
    exact ⟨.nothing .., kept_baseline rxCount nowMs s.crfWdLastRetryMs⟩
  have hinit : s.crfWdInit = true := by simpa using hfirst
  obtain ⟨c, hc⟩ := Option.isSome_iff_exists.mp (h.init.symm.trans hinit)
  have hsnapshot : s.crfWdRxSnapshot = c := h.snapshot c hc
  rw [← hsnapshot] at hc
  rw [if_neg hfirst]
  by_cases hmoved : rxCount ≠ s.crfWdRxSnapshot
  · have hseen : l.seen ≠ some rxCount := fun hsome =>
      hmoved (Option.some.inj (hsome.symm.trans hc))
    rw [if_pos hmoved, Log.note_new hseen]
    refine ⟨.nothing .., ?_⟩
    have hkept := kept_baseline rxCount nowMs s.crfWdLastRetryMs
    rw [← hinit] at hkept
    exact hkept
  have hseen : l.seen = some rxCount := by rw [not_not.mp hmoved, hc]
  rw [if_neg hmoved, Log.note_same hseen]
  obtain ⟨hsince, hflow⟩ := h.flow (by rw [hseen]; rfl)
  by_cases hback : nowMs - s.crfWdFlowMs > 2000000000
  · -- the wrap guard only moves the start of the stall later
    rw [if_pos hback]
    have hle := UInt32.le_trans hflow hord
    exact ⟨.nothing .., h.still hord fun _ => ⟨UInt32.le_trans hsince hle, UInt32.le_refl _⟩⟩
  rw [if_neg hback]
  by_cases hflows : nowMs - s.crfWdFlowMs < crfWdStallMs
  · rw [if_pos hflows]
    exact ⟨.nothing .., h.still hord fun _ => ⟨hsince, UInt32.le_trans hflow hord⟩⟩
  · rw [if_neg hflows]
    have hstall : 3000 ≤ (nowMs - s.crfWdFlowMs).toNat :=
      UInt32.le_iff_toNat_le.mp (UInt32.not_lt.mp hflows)
    exact h.rebootstrap hord hseen hstall (crfRebootstrap_cases s luid nowMs)

-- ---------------------------------------------------------------------------
-- Runs
-- ---------------------------------------------------------------------------

theorem Kept.step {luid : ListenerUid} {s : Avdecc × Log} (h : Kept (fields s.1) s.2) {c : Call}
    (hord : InOrder s c) :
    Disciplined luid s c ∧ Kept (fields (step luid s.1 c)) (note luid s.2 s.1 c) := by
  cases c with
  | watchdog rxCount nowMs => exact h.watchdog hord luid rxCount
  | other rest => exact ⟨trivial, h⟩

theorem disciplined_of_inOrder (mac : MacAddr) (luid : ListenerUid) (run : List Call)
    (h : (machine mac luid).Steps InOrder run) :
    (machine mac luid).Steps (Disciplined luid) run := by
  refine h.of_invariant (fun s => Kept (fields s.1) s.2) ?_ (fun _ _ hkept hord =>
    (hkept.step hord).2) fun _ _ hkept hord => (hkept.step hord).1
  refine ⟨rfl, fun _ hc => ?_, fun hseen => ?_, fun hseen => ?_, fun hseen => ?_⟩
  · cases hc
  all_goals cases hseen

/-- The stream is connected, and its count stands still. -/
def stalledStream : List Call :=
  [.other { avdeccInit boardMac with
      listeners := fun _ => { ({} : AvdeccListenerStream) with connected := true } },
    .watchdog 7 1000, .watchdog 7 3999, .watchdog 7 4000, .watchdog 7 8999, .watchdog 7 9000]

theorem disciplined_stalledStream :
    (machine boardMac listenerUidCrf).Steps (Disciplined listenerUidCrf) stalledStream ∧
      ((machine boardMac listenerUidCrf).run stalledStream).2.sent = [9000, 4000] :=
  ⟨disciplined_of_inOrder boardMac listenerUidCrf stalledStream (by decide +kernel),
    by decide +kernel⟩

end AvbAes3.CrfWatchdog
