import AvbAes3.Lib.Signed64
import AvbAes3.StaleWatchdog
import AvbAes3.ClockSource

/-!
# The lock's hysteresis

One streak counter serves both directions, and `mcr_bind` clears the lock
but not the counter. It does not matter: an unlocked servo locks on the
first small difference whatever the counter holds, and clears it as it
locks, so the differences that unlock it are counted from there.

`hysteretic_of_near`: in every run of samples, binds, unbinds and ticks the
servo unlocks on the fourth large difference in a row, locks on a small one,
and nothing else moves the flag, but for the calls that drop it.
-/

namespace AvbAes3.LockHysteresis

open ClockSource (Clocking Call step calls rateError magnitude sampled)

-- ---------------------------------------------------------------------------
-- Samples
-- ---------------------------------------------------------------------------

/-- The state in which a call has the servo take a sample, if it does. -/
def taken (m : Mcr) : Call → Option Mcr
  | .sample pair => if m.bound then some (sampled m pair) else none
  | .servoUpdate => if m.bound ∧ m.servoConsumed = false then some m else none
  | _ => none

/-- The branch of the tick that gives a silent stream up. -/
def StaleReset (m : Mcr) (nowMs : UInt32) : Prop :=
  m.bound ∧ m.rxCount = m.lastRxCountSnapshot ∧
    nowMs - m.lastRxCheckMs > mcrStaleThresholdMs ∧ m.watchdogResetActive = false

instance (m : Mcr) (nowMs : UInt32) : Decidable (StaleReset m nowMs) := by
  unfold StaleReset; infer_instance

/-- The calls after which no earlier sample is remembered. -/
def restarts (m : Mcr) : Call → Bool
  | .received (.bind _) => true
  | .watchdogTick nowMs => StaleReset m nowMs
  | _ => false

def dropsLock (m : Mcr) : Call → Bool
  | .received .unbind => true
  | c => restarts m c

/-- `prev` is the offset of the last sample since a bind or a stale reset.
`far` counts the differences beyond 10 µs since the last one that was not,
as the one that locks the servo is not. -/
structure Trail where
  prev : Option Int := none
  far : Nat := 0

/-- The difference of a sample's offset and the last one's. -/
def Trail.difference (t : Trail) (m : Mcr) : Option Int :=
  t.prev.map fun p => m.latestOffsetNs.toInt - p

def Trail.sample (t : Trail) (m : Mcr) : Trail where
  prev := some m.latestOffsetNs.toInt
  far :=
    match t.difference m with
    | some delta => if 10000 < delta.natAbs then t.far + 1 else 0
    | none => t.far

def note (t : Trail) (s : Clocking) (c : Call) : Trail :=
  match taken s.mcr c with
  | some m => t.sample m
  | none => if restarts s.mcr c then { t with prev := none } else t

def machine (mac : MacAddr) : Machine (Clocking × Trail) Call :=
  (calls mac).withHistory {} note

/-- The differences stay below 2^62. -/
def Near (s : Clocking × Trail) (c : Call) : Prop :=
  ∀ m ∈ taken s.1.mcr c, ∀ delta ∈ s.2.difference m, delta.natAbs < 4611686018427387904

instance (s : Clocking × Trail) : DecidablePred (Near s) := fun c => by
  unfold Near; infer_instance

structure Hysteretic (s : Clocking × Trail) (c : Call) : Prop where
  unlocks : ∀ m ∈ taken s.1.mcr c, s.1.mcr.servoLocked →
    ((step s.1 c).mcr.servoLocked = false ↔
      (∃ delta ∈ s.2.difference m, 10000 < delta.natAbs) ∧ s.2.far = 3)
  locks : ∀ m ∈ taken s.1.mcr c, s.1.mcr.servoLocked = false →
    ((step s.1 c).mcr.servoLocked ↔ ∃ delta ∈ s.2.difference m, delta.natAbs < 2000)
  elsewhere : taken s.1.mcr c = none →
    (step s.1 c).mcr.servoLocked = (s.1.mcr.servoLocked && !dropsLock s.1.mcr c)

-- ---------------------------------------------------------------------------
-- The servo
-- ---------------------------------------------------------------------------

/-- What the hysteresis rests on. -/
structure LockState where
  locked : Bool
  streak : UInt8
  havePrev : Bool
  prevOffsetNs : Int64

def lockState (m : Mcr) : LockState :=
  ⟨m.servoLocked, m.lockStreak, m.havePrev, m.prevOffsetNs⟩

theorem servo_first {m : Mcr} (hbound : m.bound) (hconsumed : m.servoConsumed = false)
    (hprev : m.havePrev = false) (regs : McrRegs) :
    lockState (mcrServoUpdate m regs).1 =
      ⟨m.servoLocked, m.lockStreak, true, m.latestOffsetNs⟩ := by
  rw [ClockSource.mcrServoUpdate_first hbound hconsumed hprev]
  rfl

/-- A sample with one before it. -/
theorem servo_acts {m : Mcr} (hbound : m.bound) (hconsumed : m.servoConsumed = false)
    (hprev : m.havePrev) (regs : McrRegs) :
    lockState (mcrServoUpdate m regs).1 =
      ⟨(mcrLock m (magnitude (rateError m))).servoLocked,
        (mcrLock m (magnitude (rateError m))).lockStreak, m.havePrev, m.latestOffsetNs⟩ := by
  obtain ⟨_, _, _, _, hnext⟩ := ClockSource.mcrServoUpdate_next hbound hconsumed hprev regs
  rw [hnext]
  rfl

/-- The streak of a lock that holds. -/
theorem mcrLock_streak (m : Mcr) (absDelta : Int64) (h : (mcrLock m absDelta).servoLocked) :
    (mcrLock m absDelta).lockStreak =
      if m.servoLocked ∧ absDelta > mcrLockExitNs then m.lockStreak + 1 else 0 := by
  rw [ClockSource.mcrLock_servoLocked, ClockSource.HoldsLock] at h
  unfold mcrLock
  dsimp only
  by_cases hlocked : m.servoLocked
  · rw [if_pos hlocked] at h ⊢
    by_cases hfar : absDelta > mcrLockExitNs
    · have hstreak : m.lockStreak < mcrLockExitStreak - 1 :=
        h.resolve_left (Int64.not_le.mpr hfar)
      unfold mcrLockExitStreak at hstreak ⊢
      have hbelow : m.lockStreak < 4 := by grind
      have hnext : ¬ m.lockStreak + 1 ≥ 4 := by grind
      rw [if_pos hfar, if_pos hbelow, if_neg hnext, if_pos ⟨hlocked, hfar⟩]
    · have hnot : ¬ (m.servoLocked = true ∧ absDelta > mcrLockExitNs) := fun hboth => hfar hboth.2
      rw [if_neg hfar, if_neg hnot]
  · have hnot : ¬ (m.servoLocked = true ∧ absDelta > mcrLockExitNs) := fun hboth => hlocked hboth.1
    have henter : (if m.lockStreak < mcrLockEnterStreak then m.lockStreak + 1 else m.lockStreak) ≥
        mcrLockEnterStreak := by
      rw [mcrLockEnterStreak]
      split <;> grind
    rw [if_neg hlocked] at h ⊢
    rw [if_pos h, if_pos henter, if_neg hnot]

/-- The offsets' difference is exact below 2^62. -/
theorem magnitude_toInt {m : Mcr} {delta : Int}
    (hdelta : delta = m.latestOffsetNs.toInt - m.prevOffsetNs.toInt)
    (hnear : delta.natAbs < 4611686018427387904) :
    (magnitude (rateError m)).toInt = delta.natAbs := by
  have hexact : (rateError m).toInt = delta := by
    rw [rateError, hdelta]
    exact Int64.Fits.toInt_sub ⟨by omega, by omega⟩
  have hneg : (-rateError m).toInt = -delta := by
    rw [← hexact]
    exact Int64.Fits.toInt_neg ⟨by omega, by omega⟩
  have hzero : (0 : Int64).toInt = 0 := rfl
  unfold magnitude
  simp only [Int64.lt_iff_toInt_lt]
  split <;> omega

-- ---------------------------------------------------------------------------
-- A sample
-- ---------------------------------------------------------------------------

/-- The trail is what the servo remembers. -/
structure Kept (l : LockState) (t : Trail) : Prop where
  prev : t.prev = if l.havePrev then some l.prevOffsetNs.toInt else none
  streak : l.locked → l.streak.toNat = t.far ∧ t.far ≤ 3

structure Sampled (m m' : Mcr) (t : Trail) : Prop where
  kept : Kept (lockState m') (t.sample m)
  unlocks : m.servoLocked → (m'.servoLocked = false ↔
    (∃ delta ∈ t.difference m, 10000 < delta.natAbs) ∧ t.far = 3)
  locks : m.servoLocked = false →
    (m'.servoLocked ↔ ∃ delta ∈ t.difference m, delta.natAbs < 2000)

theorem sampled_first {m : Mcr} {t : Trail} (hbound : m.bound) (hconsumed : m.servoConsumed = false)
    (hprev : m.havePrev = false) (hkept : Kept (lockState m) t) (regs : McrRegs) :
    Sampled m (mcrServoUpdate m regs).1 t := by
  have hservo := servo_first hbound hconsumed hprev regs
  have hlocked : (mcrServoUpdate m regs).1.servoLocked = m.servoLocked :=
    congrArg LockState.locked hservo
  have hnone : t.difference m = none := by
    have := hkept.prev
    simp [Trail.difference, this, lockState, hprev]
  refine ⟨?_, ?_, ?_⟩
  · rw [hservo, Trail.sample, hnone]
    exact ⟨rfl, hkept.streak⟩
  · intro h
    simp [hlocked, hnone, h]
  · intro h
    simp [hlocked, hnone, h]

theorem sampled_next {m : Mcr} {t : Trail} (hbound : m.bound) (hconsumed : m.servoConsumed = false)
    (hprev : m.havePrev) (hkept : Kept (lockState m) t)
    (hnear : ∀ delta ∈ t.difference m, delta.natAbs < 4611686018427387904) (regs : McrRegs) :
    Sampled m (mcrServoUpdate m regs).1 t := by
  have hservo := servo_acts hbound hconsumed hprev regs
  generalize hdelta : m.latestOffsetNs.toInt - m.prevOffsetNs.toInt = delta
  have hdiff : t.difference m = some delta := by
    have := hkept.prev
    simp [Trail.difference, this, lockState, hprev, hdelta]
  have habs := magnitude_toInt hdelta.symm (hnear delta hdiff)
  have hfar : magnitude (rateError m) > mcrLockExitNs ↔ 10000 < delta.natAbs := by
    rw [gt_iff_lt, Int64.lt_iff_toInt_lt, habs]
    exact Int.ofNat_lt
  have hnear : magnitude (rateError m) < mcrLockEnterNs ↔ delta.natAbs < 2000 := by
    rw [Int64.lt_iff_toInt_lt, habs]
    exact Int.ofNat_lt
  have hholds := ClockSource.mcrLock_servoLocked m (magnitude (rateError m))
  rw [ClockSource.HoldsLock] at hholds
  have hkeeps := mcrLock_streak m (magnitude (rateError m))
  generalize (mcrLock m (magnitude (rateError m))).lockStreak = streak' at hservo hkeeps
  generalize (mcrLock m (magnitude (rateError m))).servoLocked = locked' at hservo hkeeps hholds
  rw [hprev] at hservo
  have hl : (mcrServoUpdate m regs).1.servoLocked = locked' := congrArg LockState.locked hservo
  have hcount := hkept.streak
  simp only [lockState] at hcount
  have hthree : m.lockStreak < mcrLockExitStreak - 1 ↔ m.lockStreak.toNat < 3 :=
    UInt8.lt_iff_toNat_lt
  rw [← Int64.not_lt, ← gt_iff_lt, hfar, hnear, hthree] at hholds
  simp only [hfar] at hkeeps
  constructor
  · rw [hservo, Trail.sample, hdiff]
    refine ⟨rfl, fun h => ?_⟩
    show streak'.toNat = (if 10000 < delta.natAbs then t.far + 1 else 0) ∧
      (if 10000 < delta.natAbs then t.far + 1 else 0) ≤ 3
    have hheld := hholds.mp h
    rw [hkeeps h]
    by_cases hlarge : 10000 < delta.natAbs
    · -- a large difference that the lock survives is at most the third
      cases hwas : m.servoLocked with
      | false =>
        rw [if_neg (by simp [hwas])] at hheld
        omega
      | true =>
        obtain ⟨hcount, -⟩ := hcount hwas
        rw [if_pos hwas] at hheld
        have hthird : m.lockStreak.toNat < 3 := hheld.resolve_left (not_not.mpr hlarge)
        have hone : (1 : UInt8).toNat = 1 := rfl
        rw [if_pos hlarge, if_pos ⟨rfl, hlarge⟩, UInt8.toNat_add, hone]
        omega
    · rw [if_neg hlarge, if_neg fun hboth : _ ∧ _ => hlarge hboth.2]
      exact ⟨rfl, Nat.zero_le 3⟩
  · intro h
    rw [if_pos h] at hholds
    obtain ⟨hcount, hle⟩ := hcount h
    simp only [hl, hdiff, Option.mem_some_iff, exists_eq_left', ← Bool.not_eq_true, hholds]
    omega
  · intro h
    rw [if_neg (by simp [h])] at hholds
    simp [hl, hdiff, hholds]

theorem sampled_servo {m : Mcr} {t : Trail} (hbound : m.bound) (hconsumed : m.servoConsumed = false)
    (hkept : Kept (lockState m) t)
    (hnear : ∀ delta ∈ t.difference m, delta.natAbs < 4611686018427387904) (regs : McrRegs) :
    Sampled m (mcrServoUpdate m regs).1 t := by
  cases hprev : m.havePrev with
  | false => exact sampled_first hbound hconsumed hprev hkept regs
  | true => exact sampled_next hbound hconsumed hprev hkept hnear regs

-- ---------------------------------------------------------------------------
-- Calls
-- ---------------------------------------------------------------------------

theorem taken_some {s : Clocking} {c : Call} {m : Mcr} (h : taken s.mcr c = some m) :
    m.bound ∧ m.servoConsumed = false ∧ lockState m = lockState s.mcr ∧
      (step s c).mcr = (mcrServoUpdate m s.regs).1 := by
  cases c with
  | sample pair =>
    simp only [taken, Option.ite_none_right_eq_some, Option.some.injEq] at h
    obtain ⟨hbound, rfl⟩ := h
    refine ⟨by rwa [sampled], by rw [sampled], by rw [sampled, lockState, lockState], ?_⟩
    rw [step, Clocking.putMcr, mcrPumpHw_sample hbound, mcrTakeSample, sampled]
  | servoUpdate =>
    simp only [taken, Option.ite_none_right_eq_some, Option.some.injEq] at h
    obtain ⟨⟨hbound, hconsumed⟩, rfl⟩ := h
    refine ⟨hbound, hconsumed, rfl, ?_⟩
    rw [step, Clocking.putMcr]
  | received r => simp [taken] at h
  | watchdogTick nowMs => simp [taken] at h

theorem mcrProcessRx_lockState (m : Mcr) (frame : Buffer) (len : Nat) (rxTs : PtpTimestamp) :
    lockState (mcrProcessRx m frame len rxTs) = lockState m := by
  unfold mcrProcessRx
  dsimp only
  split_ifs <;> rfl

theorem tick_stale {m : Mcr} {nowMs : UInt32} (h : StaleReset m nowMs) (regs : McrRegs) :
    (mcrWatchdogTick m regs nowMs).1 = { m with
      currentIncrement := m.baseIncrement
      servoIntegral := 0
      havePrev := false
      servoLocked := false
      lockStreak := 0
      watchdogResetActive := true } := by
  obtain ⟨hbound, hcount, helapsed, hclear⟩ := h
  rcases StaleWatchdog.tick_bound hbound regs nowMs with
    ⟨hmoved, -⟩ | ⟨-, -, -, htick⟩ | ⟨-, hreset, -⟩
  · exact absurd hcount hmoved
  · exact htick
  · exact absurd (hclear.symm.trans (hreset helapsed)) Bool.false_ne_true

/-- Any other tick leaves the servo's state. -/
theorem tick_kept {m : Mcr} {nowMs : UInt32} (h : ¬ StaleReset m nowMs) (regs : McrRegs) :
    ∃ increment snapshot checkMs active, (mcrWatchdogTick m regs nowMs).1 = { m with
      currentIncrement := increment
      lastRxCountSnapshot := snapshot
      lastRxCheckMs := checkMs
      watchdogResetActive := active } := by
  by_cases hbound : m.bound
  · rcases StaleWatchdog.tick_bound hbound regs nowMs with
      ⟨-, htick⟩ | ⟨hcount, helapsed, hclear, -⟩ | ⟨-, -, htick⟩
    · exact ⟨_, _, _, _, htick⟩
    · exact absurd ⟨hbound, hcount, helapsed, hclear⟩ h
    · exact ⟨_, _, _, _, htick⟩
  · rw [StaleWatchdog.tick_unbound (eq_false_of_ne_true hbound), watchdogUnbound]
    split <;> exact ⟨_, _, _, _, rfl⟩

/-- A call without a sample keeps the lock or drops it. -/
theorem taken_none {s : Clocking} {c : Call} (h : taken s.mcr c = none) :
    (step s c).mcr.servoLocked = (s.mcr.servoLocked && !dropsLock s.mcr c) ∧
      (step s c).mcr.havePrev = (s.mcr.havePrev && !restarts s.mcr c) ∧
      (step s c).mcr.prevOffsetNs = s.mcr.prevOffsetNs ∧
      ((step s c).mcr.servoLocked → (step s c).mcr.lockStreak = s.mcr.lockStreak) := by
  cases c with
  | sample pair =>
    have hbound : s.mcr.bound = false := by simpa [taken] using h
    have hstep : (step s (.sample pair)).mcr = s.mcr := by
      rw [step, Clocking.putMcr, mcrPumpHw, hbound]
      rfl
    simp [hstep, dropsLock, restarts]
  | servoUpdate =>
    have hidle : (step s .servoUpdate).mcr = s.mcr := by
      rw [step, Clocking.putMcr, StaleWatchdog.mcrServoUpdate_idle]
      simpa [taken] using h
    simp [hidle, dropsLock, restarts]
  | received r =>
    cases r with
    | setClockSource c => simp [step, dropsLock, restarts]
    | bind streamId => simp [step, Clocking.putMcr, mcrBind, dropsLock, restarts]
    | unbind => simp [step, Clocking.putMcr, mcrUnbind, dropsLock, restarts]
    | packet frame len rxTs =>
      have hlock := mcrProcessRx_lockState s.mcr frame len rxTs
      simp only [lockState, LockState.mk.injEq] at hlock
      simp [step, dropsLock, restarts, hlock]
  | watchdogTick nowMs =>
    by_cases hstale : StaleReset s.mcr nowMs
    · simp [step, Clocking.putMcr, dropsLock, restarts, tick_stale hstale, hstale]
    · obtain ⟨_, _, _, _, htick⟩ := tick_kept hstale s.regs
      simp [step, Clocking.putMcr, dropsLock, restarts, htick, hstale]

-- ---------------------------------------------------------------------------
-- Runs
-- ---------------------------------------------------------------------------

variable {s : Clocking × Trail} {c : Call}

theorem kept_step (h : Kept (lockState s.1.mcr) s.2) (hnear : Near s c) :
    Kept (lockState (step s.1 c).mcr) (note s.2 s.1 c) := by
  cases htaken : taken s.1.mcr c with
  | some m =>
    obtain ⟨hbound, hconsumed, hstate, hstep⟩ := taken_some htaken
    rw [← hstate] at h
    rw [hstep, note, htaken]
    exact (sampled_servo hbound hconsumed h (hnear m htaken) s.1.regs).kept
  | none =>
    obtain ⟨hlocked, hprev, hoffset, hstreak⟩ := taken_none htaken
    rw [note, htaken]
    constructor
    · show Trail.prev (if _ then _ else _) = if (step s.1 c).mcr.havePrev then
        some (step s.1 c).mcr.prevOffsetNs.toInt else none
      have hwas := h.prev
      simp only [lockState] at hwas
      rw [hprev, hoffset]
      cases restarts s.1.mcr c with
      | true => simp
      | false =>
        rw [if_neg Bool.false_ne_true, hwas, Bool.not_false, Bool.and_true]
        rfl
    · intro hstill
      have hstill' : (step s.1 c).mcr.servoLocked := hstill
      have hwas : s.1.mcr.servoLocked := by
        rw [hlocked, Bool.and_eq_true] at hstill'
        exact hstill'.1
      obtain ⟨hcount, hle⟩ := h.streak hwas
      have hfar : (if restarts s.1.mcr c then { s.2 with prev := none } else s.2).far =
          s.2.far := by
        split <;> rfl
      show (step s.1 c).mcr.lockStreak.toNat = Trail.far _ ∧ Trail.far _ ≤ 3
      rw [hstreak hstill', hfar]
      exact ⟨hcount, hle⟩

theorem hysteretic_step (h : Kept (lockState s.1.mcr) s.2) (hnear : Near s c) :
    Hysteretic s c := by
  constructor
  · intro m hm hlocked
    obtain ⟨hbound, hconsumed, hstate, hstep⟩ := taken_some hm
    rw [← hstate] at h
    have hwas : m.servoLocked = s.1.mcr.servoLocked := congrArg LockState.locked hstate
    rw [hstep]
    exact (sampled_servo hbound hconsumed h (hnear m hm) s.1.regs).unlocks (hwas.trans hlocked)
  · intro m hm hlocked
    obtain ⟨hbound, hconsumed, hstate, hstep⟩ := taken_some hm
    rw [← hstate] at h
    have hwas : m.servoLocked = s.1.mcr.servoLocked := congrArg LockState.locked hstate
    rw [hstep]
    exact (sampled_servo hbound hconsumed h (hnear m hm) s.1.regs).locks (hwas.trans hlocked)
  · exact fun hnone => (taken_none hnone).1

/-- In every run whose differences stay below 2^62. -/
theorem hysteretic_of_near (mac : MacAddr) (run : List Call) (h : (machine mac).Steps Near run) :
    (machine mac).Steps Hysteretic run :=
  h.of_invariant (fun s => Kept (lockState s.1.mcr) s.2) ⟨rfl, fun hlocked => by cases hlocked⟩
    (fun _ _ => kept_step) fun _ _ => hysteretic_step

/-- An offset of `ns`. -/
def sampleAt (ns : UInt64) : Call := .sample ⟨ns, {}⟩

/-- Locked, three differences of 20 µs, bound anew, locked again, and four
more such differences. -/
def rebound : List Call :=
  [.received (.bind (zeroBytes 8)), sampleAt 0, sampleAt 0, sampleAt 20000, sampleAt 40000,
    sampleAt 60000, .received (.bind (zeroBytes 8)), sampleAt 0, sampleAt 0, sampleAt 20000,
    sampleAt 40000, sampleAt 60000, sampleAt 80000]

theorem hysteretic_rebound : (machine boardMac).Steps Hysteretic rebound ∧
    ((machine boardMac).run (rebound.take 12)).1.mcr.servoLocked = true ∧
    ((machine boardMac).run rebound).1.mcr.servoLocked = false :=
  ⟨hysteretic_of_near boardMac rebound (by decide +kernel), by decide +kernel, by decide +kernel⟩

end AvbAes3.LockHysteresis
