import AvbAes3.Aecp
import AvbAes3.MainLoop

/-!
# The clock source and the NCO

SET_CLOCK_SOURCE picks what the media clock follows: 0 the internal
oscillator, 1 the CRF stream. The NCO is to leave its base increment only
while 1 is selected and the servo has locked. But mcr.c does not look at the
selection: `mcr_servo_update` steers with every sample of a bound stream,
locked or not, and `mcr_bind` keeps the increment while it drops the lock.

`honoured_of_allowed`: the selection is honoured at the end of every pass of
the main loop if no sample steers without selection and lock, and the
increment is at base whenever Internal is selected or a stream is bound.
-/

namespace AvbAes3.ClockSource

-- ---------------------------------------------------------------------------
-- Passes of the main loop
-- ---------------------------------------------------------------------------

structure Clocking where
  avdecc : Avdecc
  mcr : Mcr
  regs : McrRegs

/-- What `dispatch_rx` comes to for the clock. -/
inductive Received
  | setClockSource (c : AecpCommand)
  | bind (streamId : StreamId)
  | unbind
  | packet (frame : Buffer) (len : Nat) (rxTs : PtpTimestamp)

inductive Call
  | received (r : Received)
  | sample (pair : CrfSample)
  | servoUpdate
  | watchdogTick (nowMs : UInt32)

def Clocking.putMcr (s : Clocking) (r : Mcr × McrRegs) : Clocking :=
  { s with mcr := r.1, regs := r.2 }

/-- `sample` is a turn of the drain. -/
def step (s : Clocking) : Call → Clocking
  | .received (.setClockSource c) => { s with avdecc := (aemSetClockSource s.avdecc c).1 }
  | .received (.bind streamId) => s.putMcr (mcrBind s.mcr s.regs streamId)
  | .received .unbind => s.putMcr (mcrUnbind s.mcr s.regs)
  | .received (.packet frame len rxTs) => { s with mcr := mcrProcessRx s.mcr frame len rxTs }
  | .sample pair => s.putMcr (mcrPumpHw s.mcr s.regs [pair])
  | .servoUpdate => s.putMcr (mcrServoUpdate s.mcr s.regs)
  | .watchdogTick nowMs => s.putMcr (mcrWatchdogTick s.mcr s.regs nowMs)

structure Pass where
  received : List Received := []
  fifo : List CrfSample := []
  nowMs : UInt32 := 0

def Pass.calls (p : Pass) : List Call :=
  p.received.map .received ++ (p.fifo.take 64).map .sample ++ [.servoUpdate, .watchdogTick p.nowMs]

def start (mac : MacAddr) : Clocking where
  avdecc := avdeccInit mac
  mcr := (mcrInit configClockFrequency 48000).1
  regs := (mcrInit configClockFrequency 48000).2

def calls (mac : MacAddr) : Machine Clocking Call := ⟨start mac, step⟩

def passes (mac : MacAddr) : Machine Clocking Pass :=
  ⟨start mac, fun s p => (calls mac).runFrom s p.calls⟩

-- ---------------------------------------------------------------------------
-- Selection
-- ---------------------------------------------------------------------------

def Honoured (s : Clocking) : Prop :=
  (s.avdecc.currentClockSource = 0 ∨ s.mcr.servoLocked = false →
    s.regs.increment = s.mcr.baseIncrement) ∧
  (s.regs.increment ≠ s.mcr.baseIncrement →
    s.avdecc.currentClockSource = 1 ∧ s.mcr.servoLocked)

instance : DecidablePred Honoured := fun s => by unfold Honoured; infer_instance

/-- The rate error of the sample waiting for the servo. -/
def rateError (m : Mcr) : Int64 := m.latestOffsetNs - m.prevOffsetNs

def magnitude (delta : Int64) : Int64 := if delta < 0 then -delta else delta

/-- The rate error and the integral it leaves cancel. -/
def NoCorrection (m : Mcr) (delta : Int64) : Prop :=
  delta * mcrKpNum / mcrKpDen +
    clampInt64 (-mcrIntegralClamp) mcrIntegralClamp (m.servoIntegral + delta) *
      mcrKiNum / mcrKiDen = 0

/-- The sample locks the servo, or leaves it locked. -/
def HoldsLock (m : Mcr) (absDelta : Int64) : Prop :=
  if m.servoLocked then absDelta ≤ mcrLockExitNs ∨ m.lockStreak < mcrLockExitStreak - 1
  else absDelta < mcrLockEnterNs

/-- The sample waiting steers only while CRF is selected and holds the lock. -/
def SampleAllowed (source : UInt16) (m : Mcr) : Prop :=
  m.bound → m.servoConsumed = false → m.havePrev →
    NoCorrection m (rateError m) ∨ source = 1 ∧ HoldsLock m (magnitude (rateError m))

/-- The state in which the drain calls the servo. -/
def sampled (m : Mcr) (pair : CrfSample) : Mcr :=
  { m with
    latestOffsetNs := (pair.avtpTs - timestampNs pair.localTs).toInt64
    haveLatest := true
    servoConsumed := false
    hwRxCount := m.hwRxCount + 1
    rxCount := m.rxCount + 1 }

def selects (c : AecpCommand) (source : UInt16) : Prop :=
  ¬ c.pduLen < 32 ∧ setClockSourceStatus c = aecpStatusSuccess ∧ c.field 28 = source

/-- Before Internal is selected, or a stream bound, the increment is at base. -/
def Allowed (s : Clocking) : Call → Prop
  | .received (.setClockSource c) =>
    selects c 0 → s.regs.increment = s.mcr.baseIncrement
  | .received (.bind _) => s.regs.increment = s.mcr.baseIncrement
  | .sample pair => SampleAllowed s.avdecc.currentClockSource (sampled s.mcr pair)
  | .servoUpdate => SampleAllowed s.avdecc.currentClockSource s.mcr
  | _ => True

instance (m : Mcr) : DecidablePred (NoCorrection m) := fun delta => by
  unfold NoCorrection; infer_instance

instance (m : Mcr) : DecidablePred (HoldsLock m) := fun absDelta => by
  unfold HoldsLock; infer_instance

instance (source : UInt16) : DecidablePred (SampleAllowed source) := fun m => by
  unfold SampleAllowed; infer_instance

instance (c : AecpCommand) (source : UInt16) : Decidable (selects c source) := by
  unfold selects; infer_instance

instance (s : Clocking) : DecidablePred (Allowed s) := fun c => by
  unfold Allowed; split <;> infer_instance

-- ---------------------------------------------------------------------------
-- The servo
-- ---------------------------------------------------------------------------

theorem mcrLock_servoLocked (m : Mcr) (absDelta : Int64) :
    (mcrLock m absDelta).servoLocked = true ↔ HoldsLock m absDelta := by
  have hexit : (if m.lockStreak < mcrLockExitStreak then m.lockStreak + 1 else m.lockStreak) ≥
      mcrLockExitStreak ↔ ¬ m.lockStreak < mcrLockExitStreak - 1 := by
    rw [mcrLockExitStreak]
    split <;> grind
  have henter : (if m.lockStreak < mcrLockEnterStreak then m.lockStreak + 1 else m.lockStreak) ≥
      mcrLockEnterStreak := by
    rw [mcrLockEnterStreak]
    split <;> grind
  unfold mcrLock HoldsLock
  dsimp only
  by_cases hlocked : m.servoLocked = true
  · rw [if_pos hlocked, if_pos hlocked]
    by_cases hfar : absDelta > mcrLockExitNs
    · -- the fourth in a row unlocks
      rw [if_pos hfar, or_iff_right (Int64.not_le.mpr hfar)]
      by_cases hstreak : m.lockStreak < mcrLockExitStreak - 1
      · rw [if_neg fun h => hexit.mp h hstreak]
        exact iff_of_true hlocked hstreak
      · rw [if_pos (hexit.mpr hstreak)]
        exact iff_of_false Bool.false_ne_true hstreak
    · rw [if_neg hfar]
      exact iff_of_true hlocked (.inl (Int64.not_lt.mp hfar))
  · rw [if_neg hlocked, if_neg hlocked]
    by_cases hnear : absDelta < mcrLockEnterNs
    · rw [if_pos hnear, if_pos henter]
      exact iff_of_true rfl hnear
    · rw [if_neg hnear]
      exact iff_of_false hlocked hnear

theorem mcrPi_noCorrection {m : Mcr} {delta : Int64} (h : NoCorrection m delta)
    (hbase : m.baseIncrement = (mcrInit configClockFrequency 48000).1.baseIncrement) :
    (mcrPi m delta).2 = m.baseIncrement := by
  rw [NoCorrection] at h
  rw [mcrPi]
  dsimp only
  rw [h, hbase]
  decide +kernel

/-- The lock looks at its own two fields alone. -/
theorem mcrLock_congr {m m' : Mcr} (hlocked : m'.servoLocked = m.servoLocked)
    (hstreak : m'.lockStreak = m.lockStreak) (absDelta : Int64) :
    mcrLock m' absDelta = { m' with
      servoLocked := (mcrLock m absDelta).servoLocked
      lockStreak := (mcrLock m absDelta).lockStreak } := by
  unfold mcrLock
  dsimp only
  rw [hlocked, hstreak]
  split_ifs <;> simp only [← hlocked]

/-- The first sample is remembered. -/
theorem mcrServoUpdate_first {m : Mcr} (hbound : m.bound) (hconsumed : m.servoConsumed = false)
    (hprev : m.havePrev = false) (regs : McrRegs) :
    mcrServoUpdate m regs = ({ m with
      servoConsumed := true
      prevOffsetNs := m.latestOffsetNs
      havePrev := true }, regs) := by
  rw [mcrServoUpdate, if_neg (by simp [hbound, hconsumed])]
  dsimp only
  rw [if_pos (by simp [hprev])]

/-- The servo acts on a sample that has one before it. -/
theorem mcrServoUpdate_next {m : Mcr} (hbound : m.bound) (hconsumed : m.servoConsumed = false)
    (hprev : m.havePrev) (regs : McrRegs) :
    ∃ steps maxAbs sumAbs count, mcrServoUpdate m regs = ({ m with
      servoConsumed := true
      prevOffsetNs := m.latestOffsetNs
      servoIntegral := (mcrPi m (rateError m)).1
      currentIncrement := (mcrPi m (rateError m)).2
      servoLocked := (mcrLock m (magnitude (rateError m))).servoLocked
      lockStreak := (mcrLock m (magnitude (rateError m))).lockStreak
      servoStepCount := steps
      deltaMaxAbs := maxAbs
      deltaSumAbs := sumAbs
      deltaWindowCount := count }, { regs with increment := (mcrPi m (rateError m)).2 }) := by
  have hpi (consumed : Bool) : mcrPi { m with servoConsumed := consumed } = mcrPi m := rfl
  have hrate : m.latestOffsetNs - m.prevOffsetNs = rateError m := rfl
  rw [mcrServoUpdate, if_neg (by simp [hbound, hconsumed])]
  dsimp only
  rw [if_neg (by simp [hprev]), hpi, hrate]
  generalize mcrPi _ _ = pi
  generalize hm : mcrStats _ _ = m'
  have hlock := mcrLock_congr (by rw [← hm]; rfl : m'.servoLocked = m.servoLocked)
    (by rw [← hm]; rfl) (magnitude (rateError m))
  rw [← magnitude, hlock]
  subst hm
  exact ⟨_, _, _, _, rfl⟩

/-- A sample the servo acts on: what it makes of the increment and the lock. -/
theorem mcrServoUpdate_acts {m : Mcr} (hbound : m.bound) (hconsumed : m.servoConsumed = false)
    (hprev : m.havePrev) (regs : McrRegs) :
    (mcrServoUpdate m regs).1.baseIncrement = m.baseIncrement ∧
      (mcrServoUpdate m regs).2.increment = (mcrPi m (rateError m)).2 ∧
      ((mcrServoUpdate m regs).1.servoLocked ↔ HoldsLock m (magnitude (rateError m))) := by
  obtain ⟨_, _, _, _, hnext⟩ := mcrServoUpdate_next hbound hconsumed hprev regs
  rw [hnext]
  exact ⟨rfl, rfl, mcrLock_servoLocked ..⟩

/-- Any other is only remembered. -/
theorem mcrServoUpdate_waits {m : Mcr}
    (h : ¬ (m.bound = true ∧ m.servoConsumed = false ∧ m.havePrev = true)) (regs : McrRegs) :
    (mcrServoUpdate m regs).1.baseIncrement = m.baseIncrement ∧
      (mcrServoUpdate m regs).2 = regs ∧
      (mcrServoUpdate m regs).1.servoLocked = m.servoLocked := by
  by_cases hnew : (!m.bound || m.servoConsumed) = true
  · rw [mcrServoUpdate, if_pos hnew]
    exact ⟨rfl, rfl, rfl⟩
  · have hprev : ¬ m.havePrev = true := by
      simp only [Bool.or_eq_true, Bool.not_eq_true', not_or, Bool.not_eq_false,
        Bool.not_eq_true] at hnew
      exact fun hp => h ⟨hnew.1, hnew.2, hp⟩
    rw [mcrServoUpdate, if_neg hnew]
    dsimp only
    rw [if_pos (by simpa using hprev)]
    exact ⟨rfl, rfl, rfl⟩

-- ---------------------------------------------------------------------------
-- Calls
-- ---------------------------------------------------------------------------

/-- The increment is at base, or CRF is selected and locked. -/
structure Follows (source : UInt16) (m : Mcr) (regs : McrRegs) : Prop where
  base : m.baseIncrement = (mcrInit configClockFrequency 48000).1.baseIncrement
  steered : regs.increment = m.baseIncrement ∨ source = 1 ∧ m.servoLocked

theorem Follows.servo {source : UInt16} {m : Mcr} {regs : McrRegs} (h : Follows source m regs)
    (hallowed : SampleAllowed source m) :
    Follows source (mcrServoUpdate m regs).1 (mcrServoUpdate m regs).2 := by
  by_cases hacts : m.bound = true ∧ m.servoConsumed = false ∧ m.havePrev = true
  · obtain ⟨hbound, hconsumed, hprev⟩ := hacts
    obtain ⟨hbase, hinc, hlocked⟩ := mcrServoUpdate_acts hbound hconsumed hprev regs
    refine ⟨hbase.trans h.base, ?_⟩
    rcases hallowed hbound hconsumed hprev with hnone | ⟨hsource, hlock⟩
    · left
      rw [hinc, hbase, mcrPi_noCorrection hnone h.base]
    · exact .inr ⟨hsource, hlocked.mpr hlock⟩
  · obtain ⟨hbase, hregs, hlocked⟩ := mcrServoUpdate_waits hacts regs
    rw [hregs]
    refine ⟨hbase.trans h.base, ?_⟩
    rw [hbase, hlocked]
    exact h.steered

theorem Follows.sampled {source : UInt16} {m : Mcr} {regs : McrRegs} (h : Follows source m regs)
    (pair : CrfSample) : Follows source (sampled m pair) regs := by
  have hbase : (ClockSource.sampled m pair).baseIncrement = m.baseIncrement := by
    rw [ClockSource.sampled]
  have hlocked : (ClockSource.sampled m pair).servoLocked = m.servoLocked := by
    rw [ClockSource.sampled]
  constructor
  · rw [hbase]
    exact h.base
  · rw [hbase, hlocked]
    exact h.steered

theorem Follows.watchdog {source : UInt16} {m : Mcr} {regs : McrRegs} (h : Follows source m regs)
    (nowMs : UInt32) :
    Follows source (mcrWatchdogTick m regs nowMs).1 (mcrWatchdogTick m regs nowMs).2 := by
  unfold mcrWatchdogTick watchdogUnbound watchdogStale
  split_ifs
  all_goals first
    | exact h
    | exact ⟨h.base, h.steered⟩
    | exact ⟨h.base, .inl rfl⟩

theorem Follows.packet {source : UInt16} {m : Mcr} {regs : McrRegs} (h : Follows source m regs)
    (frame : Buffer) (len : Nat) (rxTs : PtpTimestamp) :
    Follows source (mcrProcessRx m frame len rxTs) regs := by
  have hnco := mcrProcessRx_nco m frame len rxTs
  simp only [Mcr.nco, Prod.mk.injEq] at hnco
  constructor
  · rw [hnco.1]
    exact h.base
  · rw [hnco.1, hnco.2.2]
    exact h.steered

/-- The source after the command is the one it selects, or the old one. -/
theorem setClockSource_source (s : Avdecc) (c : AecpCommand) :
    (aemSetClockSource s c).1.currentClockSource = s.currentClockSource ∨
      selects c (aemSetClockSource s c).1.currentClockSource := by
  unfold aemSetClockSource
  split
  · exact .inl rfl
  rename_i hlen
  dsimp only
  split
  · rename_i hstatus
    exact .inr ⟨hlen, hstatus, rfl⟩
  · exact .inl rfl

theorem selects_cases {c : AecpCommand} {source : UInt16} (h : selects c source) :
    source = 0 ∨ source = 1 := by
  obtain ⟨-, hstatus, hfield⟩ := h
  have hlt : ¬ c.field 28 ≥ nClockSources := by
    intro hge
    rw [setClockSourceStatus, if_pos hge] at hstatus
    split at hstatus <;> exact absurd hstatus (by decide)
  rw [hfield, nClockSources] at hlt
  grind

def Kept (s : Clocking) : Prop := Follows s.avdecc.currentClockSource s.mcr s.regs

theorem Kept.step {s : Clocking} (h : Kept s) {c : Call} (hallowed : Allowed s c) :
    Kept (step s c) := by
  cases c with
  | received r =>
    cases r with
    | setClockSource c =>
      refine ⟨h.base, ?_⟩
      show _ ∨ (aemSetClockSource s.avdecc c).1.currentClockSource = 1 ∧ _
      rcases setClockSource_source s.avdecc c with hsame | hselects
      · rw [hsame]
        exact h.steered
      · rcases selects_cases hselects with hzero | hone
        · exact .inl (hallowed (hzero ▸ hselects))
        · rw [hone]
          exact h.steered.imp_right fun hlocked => ⟨rfl, hlocked.2⟩
    | bind streamId => exact ⟨h.base, .inl hallowed⟩
    | unbind => exact ⟨h.base, .inl rfl⟩
    | packet frame len rxTs => exact Follows.packet h frame len rxTs
  | sample pair =>
    show Follows _ (mcrPumpHw s.mcr s.regs [pair]).1 (mcrPumpHw s.mcr s.regs [pair]).2
    cases hbound : s.mcr.bound with
    | false =>
      rw [mcrPumpHw, if_pos (by simp [hbound])]
      exact h
    | true =>
      have htake : mcrPumpHw s.mcr s.regs [pair] = mcrServoUpdate (sampled s.mcr pair) s.regs := by
        rw [mcrPumpHw_sample hbound, mcrTakeSample, sampled]
      rw [htake]
      exact Follows.servo (Follows.sampled h pair) hallowed
  | servoUpdate => exact Follows.servo h hallowed
  | watchdogTick nowMs => exact Follows.watchdog h nowMs

theorem Kept.honoured {s : Clocking} (h : Kept s) : Honoured s := by
  rcases h.steered with hbase | ⟨hsource, hlocked⟩
  · exact ⟨fun _ => hbase, fun hne => absurd hbase hne⟩
  · refine ⟨?_, fun _ => ⟨hsource, hlocked⟩⟩
    rintro (hzero | hunlocked)
    · rw [hsource] at hzero
      cases hzero
    · rw [hlocked] at hunlocked
      cases hunlocked

-- ---------------------------------------------------------------------------
-- Runs
-- ---------------------------------------------------------------------------

/-- The turns of a pass are the drain of the FIFO. -/
theorem drain_eq (mac : MacAddr) (s : Clocking) (fifo : List CrfSample) :
    (calls mac).runFrom s ((fifo.take 64).map .sample) =
      s.putMcr (mcrPumpHw s.mcr s.regs fifo) := by
  rw [mcrPumpHw]
  generalize fifo.take 64 = samples
  cases hbound : s.mcr.bound with
  | false =>
    rw [if_pos (by rfl)]
    induction samples with
    | nil => rfl
    | cons pair rest ih =>
      have hstep : step s (.sample pair) = s := by
        rw [step, mcrPumpHw, if_pos (by simp [hbound])]
        rfl
      rw [List.map_cons, Machine.runFrom_cons]
      exact (congrArg (fun t => (calls mac).runFrom t _) hstep).trans ih
  | true =>
    rw [if_neg (by simp)]
    induction samples generalizing s with
    | nil => rfl
    | cons pair rest ih =>
      have hstep : step s (.sample pair) = s.putMcr (mcrTakeSample s.mcr s.regs pair) := by
        rw [step, mcrPumpHw_sample hbound]
      have htaken : (mcrTakeSample s.mcr s.regs pair).1.bound = true := by
        have hb := mcrTakeSample_binding s.mcr s.regs pair
        rw [Mcr.binding_eq_some.mpr ⟨hbound, rfl⟩] at hb
        exact (Mcr.binding_eq_some.mp hb).1
      rw [List.map_cons, Machine.runFrom_cons, List.foldl_cons]
      exact (congrArg (fun t => (calls mac).runFrom t _) hstep).trans (ih _ htaken)

theorem kept_start (mac : MacAddr) : Kept (start mac) := ⟨rfl, .inl rfl⟩

theorem honoured_of_allowed (mac : MacAddr) (run : List Pass)
    (h : (passes mac).Steps (fun s p => (calls mac).StepsFrom Allowed s p.calls) run) :
    (passes mac).Steps (fun s p => Honoured ((passes mac).step s p)) run := by
  have hpass (s : Clocking) (p : Pass) (hs : Kept s)
      (hp : (calls mac).StepsFrom Allowed s p.calls) : Kept ((passes mac).step s p) :=
    Machine.StepsFrom.invariant hs (fun _ _ hkept hc => hkept.step hc) hp
  exact h.of_invariant Kept (kept_start mac) hpass fun s p hs hp => (hpass s p hs hp).honoured

-- ---------------------------------------------------------------------------
-- Two samples
-- ---------------------------------------------------------------------------

/-- SET_CLOCK_SOURCE for the CRF stream. -/
def selectCrf : AecpCommand where
  frame := Buffer.ofList (zeros 38 ++ be16 aemDescClockDomain ++ be16 0 ++ be16 1)
  pduLen := 32
  slot := fun _ => 0
  gptp := (gptpInit boardMac).1
  srp := srpInit boardMac

/-- A stream is bound; its offset moves by 100 ns. -/
def steered (received : List Received) : List Pass :=
  [{ received := received ++ [.bind (zeroBytes 8)] },
    { fifo := [{ avtpTs := 0, localTs := {} }, { avtpTs := 100, localTs := {} }] }]

theorem honoured_selected :
    (passes boardMac).Steps (fun s p => Honoured ((passes boardMac).step s p))
      (steered [.setClockSource selectCrf]) :=
  honoured_of_allowed boardMac _ (by decide +kernel)

/-- With Internal selected the increment moves all the same. -/
theorem internal_steered :
    ¬ (passes boardMac).Steps (fun s p => Honoured ((passes boardMac).step s p)) (steered []) := by
  decide +kernel

end AvbAes3.ClockSource
