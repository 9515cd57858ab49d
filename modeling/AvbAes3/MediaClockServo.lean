import AvbAes3.LockHysteresis
import AvbAes3.SyncOffset

/-!
# The media clock servo over the integers

The offsets that `mcr_servo_update` works on are differences of timestamps
from the wire, and none of its 64-bit operations is guarded: the offset, its
difference from the last one, the integral before its clamp and the negated
sum of the two terms can each wrap. An `Ideal` servo runs beside it over the
integers.

`exact_of_inRange`: in every run in which these four fit at every sample
taken, each increment written is the ideal one.
-/

namespace AvbAes3.MediaClockServo

open ClockSource (Clocking Call step calls rateError sampled)
open LockHysteresis (taken restarts)
open SyncOffset (ns)

-- ---------------------------------------------------------------------------
-- The ideal servo
-- ---------------------------------------------------------------------------

def clampInt (lo hi x : Int) : Int :=
  let x := if x > hi then hi else x
  if x < lo then lo else x

/-- `mcr_servo_update`'s integral. -/
def idealIntegral (integral delta : Int) : Int :=
  clampInt (-mcrIntegralClamp.toInt) mcrIntegralClamp.toInt (integral + delta)

/-- The sum of its two terms. -/
def idealTerms (integral delta : Int) : Int :=
  (delta * mcrKpNum.toInt).tdiv mcrKpDen.toInt +
    (idealIntegral integral delta * mcrKiNum.toInt).tdiv mcrKiDen.toInt

/-- Its increment. -/
def idealIncrement (base integral delta : Int) : Int :=
  clampInt 1 0xFFFFFFFF (base +
    clampInt (-mcrIncrementMaxDelta.toInt) mcrIncrementMaxDelta.toInt (-idealTerms integral delta))

/-- `offset` is the latest sample's, `prev` that of the last one taken since
a bind or a stale reset. -/
structure Ideal where
  offset : Int := 0
  prev : Option Int := none
  integral : Int := 0

def exactOffset (avtpTs : UInt64) (localTs : PtpTimestamp) : Int := avtpTs.toNat - ns localTs

/-- The timestamp that `mcr_process_rx` takes from a packet. -/
def packetTs (m : Mcr) (frame : Buffer) (len : Nat) : Option UInt64 :=
  let pdu := frame.offset 14
  if m.bound ∧ ¬ len < 14 + crfHdrLen ∧ pdu 0 = avtpSubtypeCrf ∧
      (pdu.offset 4).bytes 8 = m.streamId ∧ crfTsCount pdu len ≠ 0 then
    some (getBe64 (pdu.offset (crfHdrLen + 8 * (crfTsCount pdu len - 1))))
  else none

/-- The offset of the latest sample once the call has brought its own. -/
def latest (t : Ideal) (m : Mcr) : Call → Int
  | .received (.packet frame len rxTs) =>
    match packetTs m frame len with
    | some avtpTs => exactOffset avtpTs rxTs
    | none => t.offset
  | .sample pair => if m.bound then exactOffset pair.avtpTs pair.localTs else t.offset
  | _ => t.offset

def Ideal.sample (t : Ideal) (offset : Int) : Ideal where
  offset := offset
  prev := some offset
  integral :=
    match t.prev with
    | some p => idealIntegral t.integral (offset - p)
    | none => t.integral

def note (t : Ideal) (s : Clocking) (c : Call) : Ideal :=
  if (taken s.mcr c).isSome then t.sample (latest t s.mcr c)
  else if restarts s.mcr c then { t with prev := none, integral := 0 }
  else { t with offset := latest t s.mcr c }

def machine (mac : MacAddr) : Machine (Clocking × Ideal) Call :=
  (calls mac).withHistory {} note

/-- The increment written for a sample that has one before it is the ideal
one. -/
def Exact (s : Clocking × Ideal) (c : Call) : Prop :=
  (taken s.1.mcr c).isSome → ∀ p ∈ s.2.prev,
    ((step s.1 c).regs.increment.toNat : Int) =
      idealIncrement s.1.mcr.baseIncrement.toNat s.2.integral (latest s.2 s.1.mcr c - p)

/-- What the servo computes before its clamps. -/
structure NoOverflow (integral delta : Int) : Prop where
  difference : Int64.Fits delta
  sum : Int64.Fits (integral + delta)
  terms : Int64.Fits (idealTerms integral delta)
  correction : Int64.Fits (-idealTerms integral delta)

/-- A sample taken has an offset in range, and fits with the one before. -/
def InRange (s : Clocking × Ideal) (c : Call) : Prop :=
  (taken s.1.mcr c).isSome → Int64.Fits (latest s.2 s.1.mcr c) ∧
    ∀ p ∈ s.2.prev, NoOverflow s.2.integral (latest s.2 s.1.mcr c - p)

instance (s : Clocking × Ideal) : DecidablePred (Exact s) := fun c => by
  unfold Exact; infer_instance

instance (integral delta : Int) : Decidable (NoOverflow integral delta) :=
  decidable_of_iff (Int64.Fits delta ∧ Int64.Fits (integral + delta) ∧
      Int64.Fits (idealTerms integral delta) ∧ Int64.Fits (-idealTerms integral delta))
    ⟨fun ⟨hd, hs, ht, hc⟩ => ⟨hd, hs, ht, hc⟩, fun ⟨hd, hs, ht, hc⟩ => ⟨hd, hs, ht, hc⟩⟩

instance (s : Clocking × Ideal) : DecidablePred (InRange s) := fun c => by
  unfold InRange; infer_instance

-- ---------------------------------------------------------------------------
-- The formula
-- ---------------------------------------------------------------------------

theorem clampInt64_exact (lo hi x : Int64) :
    (clampInt64 lo hi x).toInt = clampInt lo.toInt hi.toInt x.toInt := by
  unfold clampInt64 clampInt
  simp only [gt_iff_lt, Int64.lt_iff_toInt_lt]
  split_ifs <;> rfl

theorem clampInt_le {lo hi : Int} (h : lo ≤ hi) (x : Int) :
    lo ≤ clampInt lo hi x ∧ clampInt lo hi x ≤ hi := by
  unfold clampInt
  dsimp only
  split_ifs <;> omega

theorem toInt64_toInt (n : UInt32) : n.toUInt64.toInt64.toInt = n.toNat := by
  have hlt := n.toNat_lt
  have hwide : n.toUInt64.toInt64 = Int64.ofNat n.toNat := by
    rw [← UInt64.toInt64_ofNat', ← UInt32.toNat_toUInt64, UInt64.ofNat_toNat]
  rw [hwide, Int64.toInt_ofNat_of_lt (by omega)]

theorem toUInt32_toNat {x : Int64} (hpos : 0 ≤ x.toInt) (hlt : x.toInt < 4294967296) :
    (x.toUInt64.toUInt32.toNat : Int) = x.toInt := by
  have hnonneg : 0 ≤ x := Int64.le_iff_toInt_le.mpr hpos
  have hcast := Int64.cast_toNatClampNeg x hnonneg
  rw [UInt64.toNat_toUInt32, Int64.toNat_toUInt64_of_le hnonneg]
  omega

/-- The last clamp and the narrowing. -/
theorem narrowed_exact (x : Int64) :
    ((if (if x < 1 then 1 else x) > 0xFFFFFFFF then 0xFFFFFFFF
      else if x < 1 then 1 else x : Int64).toUInt64.toUInt32.toNat : Int) =
      clampInt 1 0xFFFFFFFF x.toInt := by
  have hone : (1 : Int64).toInt = 1 := rfl
  have hmax : (0xFFFFFFFF : Int64).toInt = 0xFFFFFFFF := rfl
  have hclamped : (if (if x < 1 then 1 else x) > 0xFFFFFFFF then 0xFFFFFFFF
      else if x < 1 then 1 else x : Int64).toInt = clampInt 1 0xFFFFFFFF x.toInt := by
    unfold clampInt
    simp only [gt_iff_lt, Int64.lt_iff_toInt_lt, hmax, hone]
    split_ifs <;> omega
  have hle := clampInt_le (by decide : (1 : Int) ≤ 0xFFFFFFFF) x.toInt
  rw [← hclamped] at hle ⊢
  exact toUInt32_toNat (by omega) (by omega)

variable {m : Mcr} {delta64 : Int64} {integral delta : Int}

theorem mcrPi_integral (hintegral : m.servoIntegral.toInt = integral)
    (hdelta : delta64.toInt = delta) (h : NoOverflow integral delta) :
    (mcrPi m delta64).1.toInt = idealIntegral integral delta := by
  subst hintegral hdelta
  have hsum := Int64.Fits.toInt_add h.sum
  show (clampInt64 (-mcrIntegralClamp) mcrIntegralClamp (m.servoIntegral + delta64)).toInt = _
  rw [clampInt64_exact, hsum]
  rfl

/-- A product with one, divided by a positive constant. -/
theorem term_exact (x num den : Int64) (hnum : num.toInt = 1) (hden : 0 < den.toInt) :
    (x * num / den).toInt = (x.toInt * num.toInt).tdiv den.toInt := by
  have hmul : Int64.Fits (x.toInt * num.toInt) := by
    rw [hnum, mul_one]
    exact x.fits_toInt
  rw [Int64.toInt_div_of_pos _ hden, hmul.toInt_mul]

theorem mcrPi_increment (hintegral : m.servoIntegral.toInt = integral)
    (hdelta : delta64.toInt = delta) (h : NoOverflow integral delta) :
    ((mcrPi m delta64).2.toNat : Int) =
      idealIncrement m.baseIncrement.toNat integral delta := by
  have hterms : (delta64 * mcrKpNum / mcrKpDen +
      (mcrPi m delta64).1 * mcrKiNum / mcrKiDen).toInt = idealTerms integral delta := by
    have hp := term_exact delta64 mcrKpNum mcrKpDen rfl (by decide)
    have hi := term_exact (mcrPi m delta64).1 mcrKiNum mcrKiDen rfl (by decide)
    rw [hdelta] at hp
    rw [mcrPi_integral hintegral hdelta h] at hi
    have hfits := h.terms
    rw [idealTerms, ← hp, ← hi] at hfits
    rw [hfits.toInt_add, hp, hi, idealTerms]
  have hcorrection := h.correction
  rw [← hterms] at hcorrection
  have hclamp := clampInt64_exact (-mcrIncrementMaxDelta) mcrIncrementMaxDelta
    (-(delta64 * mcrKpNum / mcrKpDen + (mcrPi m delta64).1 * mcrKiNum / mcrKiDen))
  rw [hcorrection.toInt_neg, hterms] at hclamp
  have hle := clampInt_le (by decide : (-mcrIncrementMaxDelta).toInt ≤ mcrIncrementMaxDelta.toInt)
    (-idealTerms integral delta)
  rw [← hclamp, (by decide : (-mcrIncrementMaxDelta).toInt = -16777216),
    (by decide : mcrIncrementMaxDelta.toInt = 16777216)] at hle
  have hbase := toInt64_toInt m.baseIncrement
  have hlt := m.baseIncrement.toNat_lt
  have hsum := Int64.Fits.toInt_add (a := m.baseIncrement.toUInt64.toInt64)
    (b := clampInt64 (-mcrIncrementMaxDelta) mcrIncrementMaxDelta
      (-(delta64 * mcrKpNum / mcrKpDen + (mcrPi m delta64).1 * mcrKiNum / mcrKiDen)))
    ⟨by omega, by omega⟩
  rw [hbase, hclamp] at hsum
  have hwritten := narrowed_exact (m.baseIncrement.toUInt64.toInt64 +
    clampInt64 (-mcrIncrementMaxDelta) mcrIncrementMaxDelta
      (-(delta64 * mcrKpNum / mcrKpDen + (mcrPi m delta64).1 * mcrKiNum / mcrKiDen)))
  rw [hsum] at hwritten
  exact hwritten

-- ---------------------------------------------------------------------------
-- What the servo remembers
-- ---------------------------------------------------------------------------

structure Memory where
  latestOffsetNs : Int64
  havePrev : Bool
  prevOffsetNs : Int64
  servoIntegral : Int64

def memory (m : Mcr) : Memory :=
  ⟨m.latestOffsetNs, m.havePrev, m.prevOffsetNs, m.servoIntegral⟩

/-- A computed offset is the wrapped exact one. -/
theorem offset_eq (avtpTs : UInt64) (localTs : PtpTimestamp) :
    (avtpTs - timestampNs localTs).toInt64 = Int64.ofInt (exactOffset avtpTs localTs) := by
  have hlocal : (timestampNs localTs).toInt64 = Int64.ofInt (ns localTs) := by
    have hdiff : gptpTsDiffNs localTs {} = (localTs.seconds.toInt64 - 0) * 1000000000 +
        (localTs.nanoseconds.toUInt64.toInt64 - 0) := rfl
    rw [← SyncOffset.gptpTsDiffNs_ns, hdiff, Int64.sub_zero, Int64.sub_zero]
    rfl
  have havtp : avtpTs.toInt64 = Int64.ofInt avtpTs.toNat := by
    rw [Int64.ofInt_eq_ofNat, ← UInt64.toInt64_ofNat', UInt64.ofNat_toNat]
  rw [UInt64.toInt64_sub, hlocal, havtp, exactOffset, Int64.ofInt_sub]

theorem sampled_memory (m : Mcr) (pair : CrfSample) : memory (sampled m pair) =
    { memory m with latestOffsetNs := Int64.ofInt (exactOffset pair.avtpTs pair.localTs) } := by
  rw [← offset_eq, sampled, memory, memory]

theorem processRx_memory (m : Mcr) (frame : Buffer) (len : Nat) (rxTs : PtpTimestamp) (t : Ideal)
    (h : m.latestOffsetNs = Int64.ofInt t.offset) :
    memory (mcrProcessRx m frame len rxTs) =
      { memory m with
        latestOffsetNs := Int64.ofInt (latest t m (.received (.packet frame len rxTs))) } := by
  unfold latest packetTs mcrProcessRx
  dsimp only
  by_cases hall : m.bound = true ∧ ¬ len < 14 + crfHdrLen ∧
      frame.offset 14 0 = avtpSubtypeCrf ∧ ((frame.offset 14).offset 4).bytes 8 = m.streamId ∧
      crfTsCount (frame.offset 14) len ≠ 0
  · rw [if_pos hall]
    obtain ⟨hbound, hlen, hsubtype, hstream, hcount⟩ := hall
    rw [if_neg (by simp [hbound]), if_neg hlen, if_neg (not_not.mpr hsubtype),
      if_neg (not_not.mpr hstream), if_neg hcount, ← offset_eq]
    rfl
  · rw [if_neg hall]
    dsimp only
    rw [← h]
    split_ifs with hbound hlen hsubtype hstream hcount
    all_goals first
      | rfl
      | exact absurd ⟨by simpa using hbound, hlen, not_not.mp hsubtype, not_not.mp hstream,
          hcount⟩ hall

theorem servo_first {m : Mcr} (hbound : m.bound) (hconsumed : m.servoConsumed = false)
    (hprev : m.havePrev = false) (regs : McrRegs) :
    memory (mcrServoUpdate m regs).1 =
      ⟨m.latestOffsetNs, true, m.latestOffsetNs, m.servoIntegral⟩ := by
  rw [ClockSource.mcrServoUpdate_first hbound hconsumed hprev]
  rfl

theorem servo_acts {m : Mcr} (hbound : m.bound) (hconsumed : m.servoConsumed = false)
    (hprev : m.havePrev) (regs : McrRegs) :
    memory (mcrServoUpdate m regs).1 =
      ⟨m.latestOffsetNs, m.havePrev, m.latestOffsetNs, (mcrPi m (rateError m)).1⟩ := by
  obtain ⟨_, _, _, _, hnext⟩ := ClockSource.mcrServoUpdate_next hbound hconsumed hprev regs
  rw [hnext]
  rfl

-- ---------------------------------------------------------------------------
-- Calls
-- ---------------------------------------------------------------------------

/-- What the ideal servo remembers is what this one does. -/
structure Kept (l : Memory) (t : Ideal) : Prop where
  offset : l.latestOffsetNs = Int64.ofInt t.offset
  prev : t.prev = if l.havePrev then some l.prevOffsetNs.toInt else none
  integral : l.servoIntegral.toInt = t.integral

/-- The state in which the servo takes a sample. -/
structure Input (s : Clocking) (t : Ideal) (c : Call) (m : Mcr) : Prop where
  kept : Kept (memory m) { t with offset := latest t s.mcr c }
  base : m.baseIncrement = s.mcr.baseIncrement
  regs : (step s c).regs = (mcrServoUpdate m s.regs).2

variable {s : Clocking} {t : Ideal} {c : Call}

theorem Kept.input (h : Kept (memory s.mcr) t) {m : Mcr} (htaken : taken s.mcr c = some m) :
    Input s t c m := by
  cases c with
  | sample pair =>
    simp only [taken, Option.ite_none_right_eq_some, Option.some.injEq] at htaken
    obtain ⟨hbound, rfl⟩ := htaken
    refine ⟨?_, by rw [sampled], ?_⟩
    · rw [sampled_memory, latest, if_pos hbound]
      exact ⟨rfl, h.prev, h.integral⟩
    · rw [step, Clocking.putMcr, mcrPumpHw_sample hbound, mcrTakeSample, sampled]
  | servoUpdate =>
    simp only [taken, Option.ite_none_right_eq_some, Option.some.injEq] at htaken
    obtain ⟨-, rfl⟩ := htaken
    exact ⟨⟨h.offset, h.prev, h.integral⟩, rfl, rfl⟩
  | received r => simp [taken] at htaken
  | watchdogTick nowMs => simp [taken] at htaken

/-- A sample in range: the two servos stay together, and write the same. -/
theorem Kept.servo {m : Mcr} (h : Kept (memory m) t) (hbound : m.bound)
    (hconsumed : m.servoConsumed = false) (hoffset : Int64.Fits t.offset)
    (hfits : ∀ p ∈ t.prev, NoOverflow t.integral (t.offset - p)) (regs : McrRegs) :
    Kept (memory (mcrServoUpdate m regs).1) (t.sample t.offset) ∧
      ∀ p ∈ t.prev, ((mcrServoUpdate m regs).2.increment.toNat : Int) =
        idealIncrement m.baseIncrement.toNat t.integral (t.offset - p) := by
  have hlatest : m.latestOffsetNs.toInt = t.offset := (Int64.exact_iff h.offset).mpr hoffset
  cases hhave : m.havePrev with
  | false =>
    have hprev : t.prev = none := h.prev.trans (if_neg (by simp [memory, hhave]))
    rw [servo_first hbound hconsumed hhave, hprev, Ideal.sample, hprev]
    refine ⟨⟨h.offset, ?_, h.integral⟩, fun p hp => absurd hp (by simp)⟩
    exact congrArg some hlatest.symm
  | true =>
    have hprev : t.prev = some m.prevOffsetNs.toInt := h.prev.trans (if_pos hhave)
    have hno := hfits _ hprev
    have hrate : (rateError m).toInt = t.offset - m.prevOffsetNs.toInt := by
      have hfit := hno.difference
      rw [← hlatest] at hfit ⊢
      exact hfit.toInt_sub
    rw [servo_acts hbound hconsumed hhave, hprev, Ideal.sample, hprev]
    refine ⟨⟨h.offset, ?_, ?_⟩, ?_⟩
    · rw [hhave]
      exact congrArg some hlatest.symm
    · exact mcrPi_integral h.integral hrate hno
    · rintro p hp
      obtain rfl := Option.some.inj hp
      rw [(ClockSource.mcrServoUpdate_acts hbound hconsumed hhave regs).2.1]
      exact mcrPi_increment h.integral hrate hno

/-- A call without a sample for the servo. -/
theorem Kept.other (h : Kept (memory s.mcr) t) (hnone : taken s.mcr c = none) :
    Kept (memory (step s c).mcr) (note t s c) := by
  rw [note, hnone, Option.isSome_none, if_neg Bool.false_ne_true]
  cases c with
  | sample pair =>
    have hbound : s.mcr.bound = false := by simpa [taken] using hnone
    have hstep : (step s (.sample pair)).mcr = s.mcr := by
      rw [step, Clocking.putMcr, mcrPumpHw, hbound]
      rfl
    rw [hstep, latest, hbound]
    exact h
  | servoUpdate =>
    have hidle : (step s .servoUpdate).mcr = s.mcr := by
      rw [step, Clocking.putMcr, StaleWatchdog.mcrServoUpdate_idle]
      simpa [taken] using hnone
    rw [hidle]
    exact h
  | received r =>
    cases r with
    | setClockSource c => exact h
    | bind streamId => exact ⟨h.offset, rfl, rfl⟩
    | unbind => exact ⟨h.offset, h.prev, h.integral⟩
    | packet frame len rxTs =>
      rw [step, processRx_memory _ _ _ _ t h.offset]
      exact ⟨rfl, h.prev, h.integral⟩
  | watchdogTick nowMs =>
    show Kept (memory (mcrWatchdogTick s.mcr s.regs nowMs).1)
      (if decide (LockHysteresis.StaleReset s.mcr nowMs) then _ else _)
    by_cases hstale : LockHysteresis.StaleReset s.mcr nowMs
    · rw [LockHysteresis.tick_stale hstale, decide_eq_true hstale, if_pos rfl]
      exact ⟨h.offset, rfl, rfl⟩
    · obtain ⟨_, _, _, _, htick⟩ := LockHysteresis.tick_kept hstale s.regs
      rw [htick, decide_eq_false hstale, if_neg Bool.false_ne_true]
      exact ⟨h.offset, h.prev, h.integral⟩

-- ---------------------------------------------------------------------------
-- Runs
-- ---------------------------------------------------------------------------

/-- A call in range. -/
theorem Kept.step {s : Clocking × Ideal} (h : Kept (memory s.1.mcr) s.2) (hrange : InRange s c) :
    Kept (memory (step s.1 c).mcr) (note s.2 s.1 c) ∧ Exact s c := by
  cases htaken : taken s.1.mcr c with
  | none =>
    refine ⟨h.other htaken, fun hsome => ?_⟩
    rw [htaken] at hsome
    exact absurd hsome Bool.false_ne_true
  | some m =>
    have hsome : (taken s.1.mcr c).isSome := by rw [htaken]; rfl
    obtain ⟨hbound, hconsumed, -, hmcr⟩ := LockHysteresis.taken_some htaken
    obtain ⟨hkept, hbase, hregs⟩ := h.input htaken
    obtain ⟨hoffset, hfits⟩ := hrange hsome
    obtain ⟨hnext, hwrites⟩ := hkept.servo hbound hconsumed hoffset hfits s.1.regs
    refine ⟨?_, fun _ p hp => ?_⟩
    · rw [hmcr, note, if_pos hsome]
      exact hnext
    · rw [hregs, ← hbase]
      exact hwrites p hp

/-- In every run whose samples are in range, the increments written are the
ideal ones. -/
theorem exact_of_inRange (mac : MacAddr) (run : List Call) (h : (machine mac).Steps InRange run) :
    (machine mac).Steps Exact run :=
  h.of_invariant (fun s => Kept (memory s.1.mcr) s.2) ⟨rfl, rfl, rfl⟩
    (fun _ _ hkept hrange => (hkept.step hrange).1) fun _ _ hkept hrange => (hkept.step hrange).2

/-- Three offsets, the last of them 50 µs early. -/
def steered : List Call :=
  [.received (.bind (zeroBytes 8)), .sample ⟨0, {}⟩, .sample ⟨1000, {}⟩, .sample ⟨0, ⟨0, 50000⟩⟩]

theorem exact_steered : (machine boardMac).Steps Exact steered ∧
    ((machine boardMac).run steered).1.regs.increment = 4175731 :=
  ⟨exact_of_inRange boardMac steered (by decide +kernel), by decide +kernel⟩

/-- Offsets of 2^63 - 1 ns and of -1 s: their difference does not fit. -/
def apart : List Call :=
  [.received (.bind (zeroBytes 8)), .sample ⟨0x7FFFFFFFFFFFFFFF, {}⟩, .sample ⟨0, ⟨1, 0⟩⟩]

/-- The clock is slowed down all the way where it should be sped up. -/
theorem apart_wraps : ¬ (machine boardMac).Steps Exact apart ∧
    ((machine boardMac).run apart).1.regs.increment = 1 ∧
    idealIncrement 4123169 0 (-1000000000 - 0x7FFFFFFFFFFFFFFF) = 20900385 := by
  refine ⟨by decide +kernel, by decide +kernel, by decide +kernel⟩

end AvbAes3.MediaClockServo
