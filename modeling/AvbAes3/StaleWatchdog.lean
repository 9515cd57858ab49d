import AvbAes3.CrfPaths
import AvbAes3.Stamps

/-!
# The stale watchdog

`mcr_watchdog_tick` infers an arrival from `rx_count` having left its
snapshot. `mcr_bind` resets the count and leaves the snapshot: the first
tick after a bind can take the reset for an arrival, which opens a window no
sample has opened, or find the count back at the snapshot and miss an
arrival.

`exact_of_arrivalTold`: in every run whose ticks are told of arrivals, a
stream that falls silent is dropped when the window is over and one that
does not is left alone.
-/

namespace AvbAes3.StaleWatchdog

/-- `sample` is a turn of the drain, `packet` one from a receive slot; the
servo runs on either. -/
inductive Call
  | bind (streamId : StreamId)
  | unbind
  | sample (pair : CrfSample)
  | packet (frame : Buffer) (len : Nat) (rxTs : PtpTimestamp)
  | tick (nowMs : UInt32)

def step (s : Mcr × McrRegs) : Call → Mcr × McrRegs
  | .bind streamId => mcrBind s.1 s.2 streamId
  | .unbind => mcrUnbind s.1 s.2
  | .sample pair => mcrPumpHw s.1 s.2 [pair]
  | .packet frame len rxTs => mcrServoUpdate (mcrProcessRx s.1 frame len rxTs) s.2
  | .tick nowMs => mcrWatchdogTick s.1 s.2 nowMs

def arrives (m : Mcr) : Call → Bool
  | .sample _ => m.bound
  | .packet frame len rxTs => (mcrProcessRx m frame len rxTs).rxCount != m.rxCount
  | _ => false

/-- `fresh`: a sample of the current binding has arrived since the last tick.
`quietSince` is the first tick since the last sample. -/
structure Watch where
  fresh : Bool := false
  quietSince : Option UInt32 := none
  lastMs : UInt32 := 0

def note (w : Watch) (s : Mcr × McrRegs) (c : Call) : Watch :=
  if arrives s.1 c then { w with fresh := true, quietSince := none }
  else
    match c with
    | .bind _ | .unbind => { w with fresh := false }
    | .tick nowMs =>
      { fresh := false, quietSince := some (w.quietSince.getD nowMs), lastMs := nowMs }
    | _ => w

def watched (sysClkFreq fs : UInt32) : Machine ((Mcr × McrRegs) × Watch) Call :=
  Machine.withHistory ⟨mcrInit sysClkFreq fs, step⟩ {} note

def AtBase (m : Mcr) : Prop := m.currentIncrement = m.baseIncrement ∧ m.servoLocked = false

instance : DecidablePred AtBase := fun m => by unfold AtBase; infer_instance

/-- A tick more than 1000 ms after a tick since when nothing has arrived
leaves a bound servo at base; the first tick after an arrival changes
nothing. -/
def Exact (s : (Mcr × McrRegs) × Watch) (c : Call) : Prop :=
  match c with
  | .tick nowMs =>
    (s.1.1.bound → ∀ t ∈ s.2.quietSince, t.toNat + 1000 < nowMs.toNat → AtBase (step s.1 c).1) ∧
      (s.2.fresh → (step s.1 c).1.currentIncrement = s.1.1.currentIncrement ∧
        (step s.1 c).1.servoLocked = s.1.1.servoLocked)
  | _ => True

def InOrder (s : (Mcr × McrRegs) × Watch) (c : Call) : Prop :=
  match c with
  | .tick nowMs => s.2.lastMs ≤ nowMs
  | _ => True

/-- At a tick of a bound servo that is off base: a count off its snapshot
tells of an arrival (or of a first tick in this very millisecond); one at its
snapshot misses an arrival only if the reset flag is clear and, when the
sample is one of the current binding, the old window still runs. -/
def ArrivalTold (s : (Mcr × McrRegs) × Watch) (c : Call) : Prop :=
  match c with
  | .tick nowMs =>
    s.1.1.bound → ¬ AtBase s.1.1 →
      if s.1.1.rxCount ≠ s.1.1.lastRxCountSnapshot then ∀ t ∈ s.2.quietSince, nowMs ≤ t
      else s.2.quietSince = none → s.1.1.watchdogResetActive = false ∧
        (s.2.fresh → nowMs - s.1.1.lastRxCheckMs ≤ mcrStaleThresholdMs)
  | _ => True

instance (s : (Mcr × McrRegs) × Watch) : DecidablePred (Exact s) := fun c => by
  letI (p : UInt32 → Prop) [DecidablePred p] := Option.decidableForallMem (p := p) s.2.quietSince
  unfold Exact; split <;> infer_instance

instance (s : (Mcr × McrRegs) × Watch) : DecidablePred (InOrder s) := fun c => by
  unfold InOrder; split <;> infer_instance

instance (s : (Mcr × McrRegs) × Watch) : DecidablePred (ArrivalTold s) := fun c => by
  letI (p : UInt32 → Prop) [DecidablePred p] := Option.decidableForallMem (p := p) s.2.quietSince
  unfold ArrivalTold; split <;> infer_instance

-- ---------------------------------------------------------------------------
-- What each call does
-- ---------------------------------------------------------------------------

theorem mcrServoUpdate_idle {m : Mcr} (h : m.bound → m.servoConsumed) (regs : McrRegs) :
    mcrServoUpdate m regs = (m, regs) := by
  rw [mcrServoUpdate, if_pos]
  cases hbound : m.bound with
  | false => rfl
  | true => rw [h hbound]; rfl

theorem tick_bound {m : Mcr} (hbound : m.bound) (regs : McrRegs) (nowMs : UInt32) :
    (m.rxCount ≠ m.lastRxCountSnapshot ∧ (mcrWatchdogTick m regs nowMs).1 =
      { m with
        lastRxCountSnapshot := m.rxCount
        lastRxCheckMs := nowMs
        watchdogResetActive := false }) ∨
    (m.rxCount = m.lastRxCountSnapshot ∧ nowMs - m.lastRxCheckMs > mcrStaleThresholdMs ∧
      m.watchdogResetActive = false ∧ (mcrWatchdogTick m regs nowMs).1 =
      { m with
        currentIncrement := m.baseIncrement
        servoIntegral := 0
        havePrev := false
        servoLocked := false
        lockStreak := 0
        watchdogResetActive := true }) ∨
    (m.rxCount = m.lastRxCountSnapshot ∧
      (nowMs - m.lastRxCheckMs > mcrStaleThresholdMs → m.watchdogResetActive) ∧
      (mcrWatchdogTick m regs nowMs).1 = m) := by
  rw [mcrWatchdogTick, if_neg (by simp [hbound])]
  by_cases hcount : m.rxCount ≠ m.lastRxCountSnapshot
  · rw [if_pos hcount]
    exact .inl ⟨hcount, rfl⟩
  rw [if_neg hcount]
  rw [not_not] at hcount
  by_cases hstale : nowMs - m.lastRxCheckMs > mcrStaleThresholdMs
  · rw [if_pos hstale, watchdogStale]
    by_cases hreset : m.watchdogResetActive = true
    · rw [if_pos hreset]
      exact .inr (.inr ⟨hcount, fun _ => hreset, rfl⟩)
    · rw [if_neg hreset]
      exact .inr (.inl ⟨hcount, hstale, eq_false_of_ne_true hreset, rfl⟩)
  · rw [if_neg hstale]
    exact .inr (.inr ⟨hcount, fun h => absurd h hstale, rfl⟩)

/-- Without a stream a tick only ever writes the base increment. -/
theorem tick_unbound {m : Mcr} (hbound : m.bound = false) (regs : McrRegs) (nowMs : UInt32) :
    mcrWatchdogTick m regs nowMs = watchdogUnbound m regs := by
  rw [mcrWatchdogTick, hbound, if_pos (by rfl)]

theorem arrives_bound {m : Mcr} {c : Call} (h : arrives m c) : m.bound := by
  cases c with
  | sample pair => exact h
  | packet frame len rxTs => exact (CrfPaths.processRx_counted (bne_iff_ne.mp h)).1
  | _ => cases h

/-- What the watchdog and its statement look at, the count aside. -/
def view (m : Mcr) : (Bool × Bool × UInt32) × Bool × UInt32 × UInt32 × Bool :=
  (m.crfCheck, m.servoConsumed, m.nco)

theorem processRx_view {m : Mcr} {frame : Buffer} {len : Nat} {rxTs : PtpTimestamp}
    (h : (mcrProcessRx m frame len rxTs).rxCount = m.rxCount) :
    view (mcrProcessRx m frame len rxTs) = view m := by
  rw [view, view, mcrProcessRx_crfCheck, CrfPaths.processRx_uncounted h, mcrProcessRx_nco]

/-- A call that brings no sample, and is none of the others, changes nothing
the watchdog looks at. -/
theorem packet_view {m : Mcr} (hconsumed : m.bound → m.servoConsumed) {frame : Buffer} {len : Nat}
    {rxTs : PtpTimestamp} (h : (mcrProcessRx m frame len rxTs).rxCount = m.rxCount)
    (regs : McrRegs) : view (mcrServoUpdate (mcrProcessRx m frame len rxTs) regs).1 = view m := by
  have hview := processRx_view h
  rw [mcrServoUpdate_idle]
  · exact hview
  · simp only [view, Mcr.crfCheck, Mcr.nco, Prod.mk.injEq] at hview
    rw [hview.1.1, hview.2.1]
    exact hconsumed

/-- A sample leaves the binding and the window, and nothing to consume. -/
theorem arrival {m : Mcr} {c : Call} (h : arrives m c) (regs : McrRegs) :
    (step (m, regs) c).1.crfCheck = m.crfCheck ∧ (step (m, regs) c).1.servoConsumed := by
  have hbound := arrives_bound h
  cases c with
  | sample pair =>
    rw [step, mcrPumpHw_sample hbound]
    refine ⟨?_, CrfPaths.mcrTakeSample_consumed hbound regs pair⟩
    rw [mcrTakeSample, mcrServoUpdate_crfCheck]
    simp only [Mcr.crfCheck]
  | packet frame len rxTs =>
    have hcheck := mcrProcessRx_crfCheck m frame len rxTs
    rw [step, mcrServoUpdate_crfCheck]
    refine ⟨hcheck, CrfPaths.mcrServoUpdate_consumed ?_ regs⟩
    simp only [Mcr.crfCheck, Prod.mk.injEq] at hcheck
    rw [hcheck.1]
    exact hbound
  | _ => cases h

-- ---------------------------------------------------------------------------
-- Runs
-- ---------------------------------------------------------------------------

/-- Off base, the reset flag is clear and the window counted is no later than
the silence. -/
structure Kept (s : (Mcr × McrRegs) × Watch) : Prop where
  lastCheck : s.1.1.lastRxCheckMs ≤ s.2.lastMs
  consumed : s.1.1.bound → s.1.1.servoConsumed
  unbound : s.1.1.bound = false → AtBase s.1.1
  fresh : s.2.fresh → s.1.1.bound ∧ s.2.quietSince = none
  window : s.1.1.bound → ¬ AtBase s.1.1 → ∀ t ∈ s.2.quietSince,
    s.1.1.watchdogResetActive = false ∧ s.1.1.lastRxCheckMs ≤ t

theorem kept_init (sysClkFreq fs : UInt32) : Kept (watched sysClkFreq fs).init where
  lastCheck := UInt32.le_refl _
  consumed h := by cases h
  unbound _ := ⟨rfl, rfl⟩
  fresh h := by cases h
  window h := by cases h

theorem Kept.arrival {s : (Mcr × McrRegs) × Watch} (h : Kept s) {c : Call}
    (harrives : arrives s.1.1 c) (sysClkFreq fs : UInt32) :
    Kept ((watched sysClkFreq fs).step s c) := by
  obtain ⟨hcheck, hconsumed⟩ := StaleWatchdog.arrival harrives s.1.2
  simp only [Mcr.crfCheck, Prod.mk.injEq] at hcheck
  have hbound : (step s.1 c).1.bound := hcheck.1.trans (arrives_bound harrives)
  have hnote : note s.2 s.1 c = { s.2 with fresh := true, quietSince := none } := by
    unfold note
    exact if_pos harrives
  constructor
  · show (step s.1 c).1.lastRxCheckMs ≤ (note s.2 s.1 c).lastMs
    rw [hnote, hcheck.2.2]
    exact h.lastCheck
  · exact fun _ => hconsumed
  · exact fun hunbound => Bool.noConfusion (hunbound.symm.trans hbound)
  · exact fun _ => ⟨hbound, congrArg Watch.quietSince hnote⟩
  · intro _ _ t ht
    rw [show ((watched sysClkFreq fs).step s c).2.quietSince = none from
      congrArg Watch.quietSince hnote] at ht
    cases ht

theorem Kept.bind {s : (Mcr × McrRegs) × Watch} (h : Kept s) (streamId : StreamId)
    (sysClkFreq fs : UInt32) : Kept ((watched sysClkFreq fs).step s (.bind streamId)) where
  lastCheck := h.lastCheck
  consumed _ := rfl
  unbound hunbound := by cases hunbound
  fresh hfresh := by cases hfresh
  window _ hoff t ht := by
    have hnot : ¬ AtBase s.1.1 := fun hat => hoff ⟨hat.1, rfl⟩
    cases hbound : s.1.1.bound with
    | false => exact absurd (h.unbound hbound) hnot
    | true => exact h.window hbound hnot t ht

theorem Kept.unbind {s : (Mcr × McrRegs) × Watch} (h : Kept s) (sysClkFreq fs : UInt32) :
    Kept ((watched sysClkFreq fs).step s .unbind) where
  lastCheck := h.lastCheck
  consumed hbound := by cases hbound
  unbound _ := ⟨rfl, rfl⟩
  fresh hfresh := by cases hfresh
  window hbound := by cases hbound

/-- A call that leaves what the watchdog looks at, and is not noted. -/
theorem Kept.same {s s' : (Mcr × McrRegs) × Watch} (h : Kept s)
    (hview : view s'.1.1 = view s.1.1) (hnote : s'.2 = s.2) : Kept s' := by
  simp only [view, Mcr.crfCheck, Mcr.nco, Prod.mk.injEq] at hview
  obtain ⟨⟨hbound, hreset, hcheck⟩, hconsumed, hbase, hinc, hlocked⟩ := hview
  have hat : AtBase s'.1.1 ↔ AtBase s.1.1 := by rw [AtBase, AtBase, hinc, hbase, hlocked]
  constructor
  · rw [hcheck, hnote]
    exact h.lastCheck
  · rw [hbound, hconsumed]
    exact h.consumed
  · rw [hbound, hat]
    exact h.unbound
  · rw [hbound, hnote]
    exact h.fresh
  · rw [hbound, hat, hnote, hreset, hcheck]
    exact h.window

theorem age_gt {lastCheck t nowMs : UInt32} (hle : lastCheck ≤ t)
    (hlt : t.toNat + 1000 < nowMs.toNat) : nowMs - lastCheck > mcrStaleThresholdMs := by
  have hle' : lastCheck ≤ nowMs := UInt32.le_trans hle (UInt32.le_iff_toNat_le.mpr (by omega))
  rw [gt_iff_lt, UInt32.lt_iff_toNat_lt, UInt32.toNat_sub_of_le _ _ hle']
  rw [UInt32.le_iff_toNat_le] at hle
  show 1000 < _
  omega

theorem Kept.tick {s : (Mcr × McrRegs) × Watch} (h : Kept s) {nowMs : UInt32}
    (hord : s.2.lastMs ≤ nowMs) (htold : ArrivalTold s (.tick nowMs)) (sysClkFreq fs : UInt32) :
    Kept ((watched sysClkFreq fs).step s (.tick nowMs)) := by
  have hcheck : s.1.1.lastRxCheckMs ≤ nowMs := UInt32.le_trans h.lastCheck hord
  cases hbound : s.1.1.bound with
  | false =>
    have htick : step s.1 (.tick nowMs) = watchdogUnbound s.1.1 s.1.2 := tick_unbound hbound ..
    have hsame : (step s.1 (.tick nowMs)).1.bound = false ∧
        (step s.1 (.tick nowMs)).1.lastRxCheckMs = s.1.1.lastRxCheckMs ∧
        AtBase (step s.1 (.tick nowMs)).1 := by
      rw [htick, watchdogUnbound]
      split
      · exact ⟨hbound, rfl, h.unbound hbound⟩
      · exact ⟨hbound, rfl, rfl, (h.unbound hbound).2⟩
    constructor
    · exact hsame.2.1 ▸ hcheck
    · exact fun hbound' => Bool.noConfusion (hsame.1.symm.trans hbound')
    · exact fun _ => hsame.2.2
    · exact fun hfresh => Bool.noConfusion hfresh
    · exact fun _ hoff => absurd hsame.2.2 hoff
  | true =>
    suffices hm : ∀ m, (step s.1 (.tick nowMs)).1 = m → m.bound ∧ m.servoConsumed ∧
        m.lastRxCheckMs ≤ nowMs ∧ (¬ AtBase m → m.watchdogResetActive = false ∧
          m.lastRxCheckMs ≤ s.2.quietSince.getD nowMs) by
      obtain ⟨hbound', hconsumed, hcheck', hwindow⟩ := hm _ rfl
      constructor
      · exact hcheck'
      · exact fun _ => hconsumed
      · exact fun hunbound => Bool.noConfusion (hunbound.symm.trans hbound')
      · exact fun hfresh => Bool.noConfusion hfresh
      · rintro - hoff t ⟨⟩
        exact hwindow hoff
    rintro _ rfl
    have hconsumed := h.consumed hbound
    rcases tick_bound hbound s.1.2 nowMs with ⟨hcount, htick⟩ | ⟨-, -, -, htick⟩ | ⟨hcount, -, htick⟩
    · -- the window starts over
      refine htick ▸ ⟨hbound, hconsumed, UInt32.le_refl _, fun hoff => ⟨rfl, ?_⟩⟩
      have hlate := htold hbound hoff
      rw [if_pos hcount] at hlate
      cases hquiet : s.2.quietSince with
      | none => exact UInt32.le_refl _
      | some t => exact hlate t hquiet
    · exact htick ▸ ⟨hbound, hconsumed, hcheck, fun hoff => absurd ⟨rfl, rfl⟩ hoff⟩
    · refine htick ▸ ⟨hbound, hconsumed, hcheck, fun hoff => ?_⟩
      have hmissed := htold hbound hoff
      rw [if_neg (not_not.mpr hcount)] at hmissed
      cases hquiet : s.2.quietSince with
      | none => exact ⟨(hmissed hquiet).1, hcheck⟩
      | some t => exact h.window hbound hoff t hquiet

theorem Kept.step {s : (Mcr × McrRegs) × Watch} (h : Kept s) {c : Call} (hord : InOrder s c)
    (htold : ArrivalTold s c) (sysClkFreq fs : UInt32) :
    Kept ((watched sysClkFreq fs).step s c) := by
  by_cases harrives : arrives s.1.1 c
  · exact h.arrival harrives sysClkFreq fs
  cases c with
  | bind streamId => exact h.bind streamId sysClkFreq fs
  | unbind => exact h.unbind sysClkFreq fs
  | sample pair =>
    have hidle : StaleWatchdog.step s.1 (.sample pair) = s.1 := by
      rw [StaleWatchdog.step, mcrPumpHw, if_pos (by simpa [arrives] using harrives)]
    refine h.same (congrArg (fun s => view s.1) hidle) ?_
    exact if_neg harrives
  | packet frame len rxTs =>
    refine h.same (packet_view h.consumed ?_ s.1.2) ?_
    · simpa [arrives] using harrives
    · exact if_neg harrives
  | tick nowMs => exact h.tick hord htold sysClkFreq fs

theorem Kept.exact {s : (Mcr × McrRegs) × Watch} (h : Kept s) {c : Call}
    (htold : ArrivalTold s c) : Exact s c := by
  cases c with
  | tick nowMs =>
    constructor
    · intro hbound t ht hlater
      rcases tick_bound hbound s.1.2 nowMs with
        ⟨hcount, htick⟩ | ⟨-, -, -, htick⟩ | ⟨-, hstale, htick⟩
      · -- a window starts over only within the millisecond, or at base
        by_contra hoff
        have hoff' : ¬ AtBase s.1.1 := fun hat => hoff (htick ▸ hat)
        have hlate := htold hbound hoff'
        rw [if_pos hcount] at hlate
        have hle := UInt32.le_iff_toNat_le.mp (hlate t ht)
        omega
      · exact htick ▸ ⟨rfl, rfl⟩
      · by_contra hoff
        have hoff' : ¬ AtBase s.1.1 := fun hat => hoff (htick ▸ hat)
        obtain ⟨hreset, hle⟩ := h.window hbound hoff' t ht
        rw [hstale (age_gt hle hlater)] at hreset
        cases hreset
    · intro hfresh
      obtain ⟨hbound, hquiet⟩ := h.fresh hfresh
      rcases tick_bound hbound s.1.2 nowMs with
        ⟨-, htick⟩ | ⟨hcount, hstale, -, htick⟩ | ⟨-, -, htick⟩
      · exact htick ▸ ⟨rfl, rfl⟩
      · have hat : AtBase s.1.1 := by
          by_contra hoff
          have hmissed := htold hbound hoff
          rw [if_neg (not_not.mpr hcount)] at hmissed
          exact absurd hstale (UInt32.not_lt.mpr ((hmissed hquiet).2 hfresh))
        exact htick ▸ ⟨hat.1.symm, hat.2.symm⟩
      · exact htick ▸ ⟨rfl, rfl⟩
  | _ => trivial

theorem exact_of_arrivalTold (sysClkFreq fs : UInt32) (calls : List Call)
    (h : (watched sysClkFreq fs).Steps (fun s c => InOrder s c ∧ ArrivalTold s c) calls) :
    (watched sysClkFreq fs).Steps Exact calls :=
  h.of_invariant Kept (kept_init sysClkFreq fs)
    (fun _ _ hkept hc => hkept.step hc.1 hc.2 sysClkFreq fs) (fun _ _ hkept hc => hkept.exact hc.2)

/-- Two samples 100 ns apart in offset, so that the servo leaves base. -/
def steered (streamId : StreamId) : List Call :=
  [.bind streamId, .sample { avtpTs := 0, localTs := {} }, .sample { avtpTs := 100, localTs := {} }]

theorem exact_of_arrivalTold_silent :
    (watched 50000000 48000).Steps Exact (steered (zeroBytes 8) ++ [.tick 5, .tick 1006]) :=
  exact_of_arrivalTold _ _ _ (by decide +kernel)

/-- A bind after the last sample: the tick 1001 ms after that sample's takes
the reset count for an arrival. -/
theorem rebind_not_exact :
    ¬ (watched 50000000 48000).Steps Exact
      (steered (zeroBytes 8) ++ [.tick 1000, .bind (zeroBytes 8), .tick 2001]) ∧
    (watched 50000000 48000).Steps InOrder
      (steered (zeroBytes 8) ++ [.tick 1000, .bind (zeroBytes 8), .tick 2001]) := by
  decide +kernel

end AvbAes3.StaleWatchdog
