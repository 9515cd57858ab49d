import AvbAes3.Lib.Signed64
import AvbAes3.LockEarned

/-!
# Bounds of the servo

The inputs are arbitrary: 80-bit times from the wire and from the TSU, and a
64-bit correction. The bounds hold each other up. The coarse step takes the
offsets beyond half a second, so the PI branch only multiplies small ones;
its clamps bound the integrator and the addend; the outlier tests bound what
the two averages take in, and truncating division what they come to.
-/

namespace AvbAes3.ServoBounds

open Int64 (Fits)

-- ---------------------------------------------------------------------------
-- The PI branch
-- ---------------------------------------------------------------------------

/-- Numerator and denominator of the proportional gain. -/
def kp (offset : Int64) : Int64 × Int64 :=
  if absOff offset > 1000 then (200, 1000) else (servoKpNum, servoKpDen)

def clampIntegral (integral : Int64) : Int64 :=
  let integral := if integral > servoIntegralClampNs then servoIntegralClampNs else integral
  if integral < -servoIntegralClampNs then -servoIntegralClampNs else integral

def clampAddend (addend : Int64) : Int64 :=
  let addend := if addend < 1 then 1 else addend
  if addend ≥ addendFullEnd then addendFullEnd - 1 else addend

def nextIntegral (g : Gptp) : Int64 := clampIntegral (g.freqIntegral + g.offsetFromMasterNs)

def kpTerm (g : Gptp) : Int64 :=
  g.offsetFromMasterNs * (kp g.offsetFromMasterNs).1 / (kp g.offsetFromMasterNs).2

def kiTerm (g : Gptp) : Int64 := nextIntegral g * servoKiNum / servoKiDen

def nextAddend (g : Gptp) : Int64 :=
  clampAddend (g.baseAddendFull.toInt64 + -(kpTerm g + kiTerm g))

theorem servoPi_eq (g : Gptp) : servoPi g =
    ({ g with
        freqIntegral := nextIntegral g
        currentAddendFull := (nextAddend g).toUInt64
        servoStepCount := g.servoStepCount + 1 },
      [.setAddendFull (nextAddend g).toUInt64]) := by
  unfold servoPi nextAddend kpTerm kp
  dsimp only
  by_cases hlarge : absOff g.offsetFromMasterNs > 1000
  · rw [if_pos hlarge]
    rfl
  · rw [if_neg hlarge]
    rfl

/-- Every value that the PI branch computes is a signed 64-bit number. -/
structure PiFits (g : Gptp) : Prop where
  abs : Fits |g.offsetFromMasterNs.toInt|
  integral : Fits (g.freqIntegral.toInt + g.offsetFromMasterNs.toInt)
  kpProduct : Fits (g.offsetFromMasterNs.toInt * (kp g.offsetFromMasterNs).1.toInt)
  kiProduct : Fits ((nextIntegral g).toInt * servoKiNum.toInt)
  terms : Fits ((kpTerm g).toInt + (kiTerm g).toInt)
  delta : Fits (-((kpTerm g).toInt + (kiTerm g).toInt))
  addend : Fits (g.baseAddendFull.toNat - ((kpTerm g).toInt + (kiTerm g).toInt))

-- ---------------------------------------------------------------------------
-- The bounds
-- ---------------------------------------------------------------------------

structure Bounded (g : Gptp) : Prop where
  pathDelay : 0 ≤ g.meanPathDelayNs.toInt ∧ g.meanPathDelayNs.toInt < 20000
  integral : |g.freqIntegral.toInt| ≤ servoIntegralClampNs.toInt
  addend : 1 ≤ g.currentAddendFull.toNat ∧ g.currentAddendFull.toNat < 4503599627370496
  nrr : |g.nrrPpb.toInt| < 10000
  medianIdx : g.offMedianIdx.val < 5
  medianFilled : g.offMedianFilled.val ≤ 5
  samples : g.lockSampleCount.toNat ≤ 8

/-- The times that a step writes to the TSU have less than a second of
nanoseconds, and the PI branch does not wrap. -/
structure Safe (g : Gptp) (e : GptpEvent) : Prop where
  target : ∀ t, .stepTime t ∈ (gptpStep g e).2 → t.nanoseconds.toNat < 1000000000
  products : ∀ x ∈ LockEarned.servoInput g e, ¬ x.stepsTime → PiFits x

/-- What keeps the bounds: they hold, and the base addend is the nominal
one. -/
structure Kept (g : Gptp) : Prop where
  bounded : Bounded g
  base : g.baseAddendFull = nominalAddendFull configClockFrequency

/-- The fields that are bounded. -/
structure Fields where
  meanPathDelayNs : Int64
  freqIntegral : Int64
  currentAddendFull : UInt64
  baseAddendFull : UInt64
  nrrPpb : Int32
  lockSampleCount : UInt8

def fields (g : Gptp) : Fields :=
  ⟨g.meanPathDelayNs, g.freqIntegral, g.currentAddendFull, g.baseAddendFull, g.nrrPpb,
    g.lockSampleCount⟩

theorem Kept.congr (h : Kept g) (heq : fields g' = fields g) : Kept g' := by
  obtain ⟨hbounded, hbase⟩ := h
  simp only [fields, Fields.mk.injEq] at heq
  obtain ⟨hdelay, hintegral, haddend, hbase', hnrr, hsamples⟩ := heq
  refine ⟨⟨?_, ?_, ?_, ?_, g'.offMedianIdx.isLt, ?_, ?_⟩, hbase'.trans hbase⟩
  · rw [hdelay]
    exact hbounded.pathDelay
  · rw [hintegral]
    exact hbounded.integral
  · rw [haddend]
    exact hbounded.addend
  · rw [hnrr]
    exact hbounded.nrr
  · exact Nat.le_of_lt_succ g'.offMedianFilled.isLt
  · rw [hsamples]
    exact hbounded.samples

theorem kept_init (mac : MacAddr) : Kept (gptpInit mac).1 := by
  have hboard : Kept (gptpInit boardMac).1 :=
    ⟨⟨by decide +kernel, by decide +kernel, by decide +kernel, by decide +kernel,
      by decide +kernel, by decide +kernel, by decide +kernel⟩, rfl⟩
  exact hboard.congr rfl

-- ---------------------------------------------------------------------------
-- The servo
-- ---------------------------------------------------------------------------

theorem clampIntegral_bound (integral : Int64) :
    |(clampIntegral integral).toInt| ≤ servoIntegralClampNs.toInt := by
  have hpos : servoIntegralClampNs.toInt = 100000000 := rfl
  have hneg : (-servoIntegralClampNs).toInt = -100000000 := by decide +kernel
  unfold clampIntegral
  rw [hpos, abs_le]
  dsimp only
  split_ifs with habove hbelow hbelow
  · exact absurd hbelow (by decide)
  · rw [hpos]
    omega
  · rw [hneg]
    omega
  · rw [gt_iff_lt, Int64.lt_iff_toInt_lt, hpos] at habove
    rw [Int64.lt_iff_toInt_lt, hneg] at hbelow
    omega

theorem clampAddend_bound (addend : Int64) :
    1 ≤ (clampAddend addend).toInt ∧ (clampAddend addend).toInt < 4503599627370496 := by
  have hend : addendFullEnd.toInt = 4503599627370496 := rfl
  have hlast : (addendFullEnd - 1).toInt = 4503599627370495 := by decide +kernel
  unfold clampAddend
  dsimp only
  split_ifs with hbelow habove habove
  · exact absurd habove (by decide)
  · exact ⟨le_rfl, by decide +kernel⟩
  · rw [hlast]
    omega
  · rw [Int64.lt_iff_toInt_lt] at hbelow
    rw [ge_iff_le, Int64.le_iff_toInt_le, hend] at habove
    have hone : (1 : Int64).toInt = 1 := rfl
    omega

theorem toNat_toUInt64_of_nonneg {a : Int64} (h : 0 ≤ a.toInt) :
    (a.toUInt64.toNat : Int) = a.toInt := by
  have hle : (0 : Int64) ≤ a := Int64.le_iff_toInt_le.mpr h
  rw [Int64.toNat_toUInt64_of_le hle, ← Int64.toNat_toInt]
  exact Int.toNat_of_nonneg h

/-- An offset that is not stepped is within half a second. -/
theorem offset_of_not_stepsTime {g : Gptp} (h : ¬ g.stepsTime) :
    -500000000 ≤ g.offsetFromMasterNs.toInt ∧ g.offsetFromMasterNs.toInt ≤ 500000000 := by
  have hpos : bigThresh.toInt = 500000000 := rfl
  have hneg : (-bigThresh).toInt = -500000000 := by decide +kernel
  simp only [Gptp.stepsTime, not_or, gt_iff_lt, Int64.lt_iff_toInt_lt, hpos, hneg, not_lt] at h
  exact ⟨h.2.2, h.2.1⟩

theorem base_toNat {g : Gptp} (h : Kept g) : g.baseAddendFull.toNat = 90071993 := by
  rw [h.base]
  decide +kernel

theorem kp_cases (offset : Int64) :
    (kp offset).2.toInt = 1000 ∧ 0 ≤ (kp offset).1.toInt ∧ (kp offset).1.toInt ≤ 200 := by
  unfold kp
  split <;> decide +kernel

/-- The proportional term comes to a tenth of a second at most. -/
theorem kpTerm_bound {g : Gptp} (h : ¬ g.stepsTime) :
    Fits (g.offsetFromMasterNs.toInt * (kp g.offsetFromMasterNs).1.toInt) ∧
      -100000000 ≤ (kpTerm g).toInt ∧ (kpTerm g).toInt ≤ 100000000 := by
  obtain ⟨hlow, hhigh⟩ := offset_of_not_stepsTime h
  obtain ⟨hden, hnum, hnum200⟩ := kp_cases g.offsetFromMasterNs
  have hle : g.offsetFromMasterNs.toInt * (kp g.offsetFromMasterNs).1.toInt ≤ 100000000 * 1000 := by
    nlinarith
  have hge : -100000000 * 1000 ≤ g.offsetFromMasterNs.toInt * (kp g.offsetFromMasterNs).1.toInt := by
    nlinarith
  have hfits : Fits (g.offsetFromMasterNs.toInt * (kp g.offsetFromMasterNs).1.toInt) := by
    constructor <;> omega
  have hterm : (kpTerm g).toInt =
      (g.offsetFromMasterNs.toInt * (kp g.offsetFromMasterNs).1.toInt).tdiv 1000 := by
    rw [kpTerm, Int64.toInt_div_of_pos _ (by omega), hfits.toInt_mul, hden]
  rw [hterm]
  exact ⟨hfits, Int64.le_tdiv (by decide) hge, Int64.tdiv_le (by decide) hle⟩

theorem kiTerm_bound (g : Gptp) :
    Fits ((nextIntegral g).toInt * servoKiNum.toInt) ∧
      -360000 ≤ (kiTerm g).toInt ∧ (kiTerm g).toInt ≤ 360000 := by
  have hnum : servoKiNum.toInt = 3600 := rfl
  have hden : servoKiDen.toInt = 1000000 := rfl
  have hclamp : servoIntegralClampNs.toInt = 100000000 := rfl
  obtain ⟨hlow, hhigh⟩ := abs_le.mp (clampIntegral_bound (g.freqIntegral + g.offsetFromMasterNs))
  rw [hclamp] at hlow hhigh
  change _ ≤ (nextIntegral g).toInt at hlow
  change (nextIntegral g).toInt ≤ _ at hhigh
  have hfits : Fits ((nextIntegral g).toInt * servoKiNum.toInt) := by
    rw [hnum]
    constructor <;> omega
  have hterm : (kiTerm g).toInt = ((nextIntegral g).toInt * 3600).tdiv 1000000 := by
    rw [kiTerm, Int64.toInt_div_of_pos _ (by decide), hfits.toInt_mul, hnum, hden]
  rw [hterm]
  exact ⟨hfits, Int64.le_tdiv (by decide) (by omega), Int64.tdiv_le (by decide) (by omega)⟩

theorem pi_fits {g : Gptp} (hk : Kept g) (h : ¬ g.stepsTime) : PiFits g := by
  have hclamp : servoIntegralClampNs.toInt = 100000000 := rfl
  obtain ⟨hlow, hhigh⟩ := offset_of_not_stepsTime h
  obtain ⟨hkp, hkpLow, hkpHigh⟩ := kpTerm_bound h
  obtain ⟨hki, hkiLow, hkiHigh⟩ := kiTerm_bound g
  obtain ⟨hintLow, hintHigh⟩ := abs_le.mp hk.bounded.integral
  have habs : |g.offsetFromMasterNs.toInt| ≤ 500000000 := abs_le.mpr ⟨hlow, hhigh⟩
  have habs0 := abs_nonneg g.offsetFromMasterNs.toInt
  have hbase := base_toNat hk
  exact {
    abs := ⟨by omega, by omega⟩
    integral := ⟨by omega, by omega⟩
    kpProduct := hkp
    kiProduct := hki
    terms := ⟨by omega, by omega⟩
    delta := ⟨by omega, by omega⟩
    addend := ⟨by omega, by omega⟩ }

/-- The nanoseconds of a step target. -/
theorem stepTarget_ns (g : Gptp) : (stepTarget g).nanoseconds.toNat < 1000000000 := by
  unfold stepTarget
  dsimp only
  split
  · rw [UInt64.toNat_toUInt32, UInt64.toNat_mod]
    exact (Nat.mod_le _ _).trans_lt (Nat.mod_lt _ (by decide))
  · rename_i h
    rw [UInt64.toNat_toUInt32]
    have hlt := UInt64.lt_iff_toNat_lt.mp (UInt64.not_le.mp h)
    exact (Nat.mod_le _ _).trans_lt hlt

theorem servoLock_samples {g : Gptp} (h : g.lockSampleCount.toNat ≤ 8) :
    (servoLock g).lockSampleCount.toNat ≤ 8 := by
  unfold servoLock
  dsimp only
  split_ifs with _ _ hcount
  · have hlt : g.lockSampleCount.toNat < 8 := UInt8.lt_iff_toNat_lt.mp hcount
    rw [UInt8.toNat_add]
    exact (Nat.mod_le _ _).trans hlt
  · exact h
  · exact Nat.zero_le _
  · exact Nat.zero_le _
  · exact h

theorem servoStep_kept {g : Gptp} (h : Kept g) (now : UInt32) : Kept (servoStep g now).1 := by
  obtain ⟨hbounded, hbase⟩ := h
  have haddend := base_toNat ⟨hbounded, hbase⟩
  have hzero : |(0 : Int64).toInt| ≤ servoIntegralClampNs.toInt := by decide +kernel
  refine ⟨{ hbounded with integral := hzero, addend := ?_ }, hbase⟩
  change 1 ≤ g.baseAddendFull.toNat ∧ g.baseAddendFull.toNat < 4503599627370496
  omega

theorem servoPi_kept {g : Gptp} (h : Kept g) : Kept (servoPi g).1 := by
  obtain ⟨hbounded, hbase⟩ := h
  rw [servoPi_eq]
  refine ⟨{ hbounded with integral := clampIntegral_bound _, addend := ?_ }, hbase⟩
  obtain ⟨hpos, hlt⟩ : 1 ≤ (nextAddend g).toInt ∧ (nextAddend g).toInt < 4503599627370496 :=
    clampAddend_bound _
  have hnat := toNat_toUInt64_of_nonneg (a := nextAddend g) (by omega)
  change 1 ≤ (nextAddend g).toUInt64.toNat ∧ (nextAddend g).toUInt64.toNat < 4503599627370496
  omega

theorem servoUpdate_kept {g : Gptp} (h : Kept g) (now : UInt32) :
    Kept (gptpServoUpdate g now).1 := by
  unfold gptpServoUpdate
  split
  · exact servoStep_kept h now
  · have hpi := servoPi_kept h
    dsimp only
    generalize (servoPi g).1 = x at hpi
    have hsamples := servoLock_samples hpi.bounded.samples
    obtain ⟨locked, samples, hlock⟩ := servoLock_eq x
    have hlocked : Kept (servoLock x) := by
      rw [hlock] at hsamples ⊢
      exact ⟨{ hpi.bounded with samples := hsamples }, hpi.base⟩
    obtain ⟨_, _, _, _, _, _, _, hstats⟩ := servoStats_eq (servoLock x) now
    refine hlocked.congr ?_
    rw [hstats]
    rfl

-- ---------------------------------------------------------------------------
-- The averages
-- ---------------------------------------------------------------------------

/-- A rate that is accepted is within the bound, and so is the average. -/
theorem nextNrrPpb_bound {g : Gptp} (h : |g.nrrPpb.toInt| < 10000) (t3Ns t4Ns : Int64) :
    |(nextNrrPpb g t3Ns t4Ns).toInt| < 10000 := by
  unfold nextNrrPpb
  dsimp only
  split
  · rename_i hsample
    obtain ⟨-, -, hlow, hhigh⟩ := hsample
    generalize ((t3Ns - g.prevT3Ns - (t4Ns - g.prevT4Ns)) * 1000000000 /
      (t4Ns - g.prevT4Ns)).toInt32 = inst at hlow hhigh ⊢
    have hneg : (-10000 : Int32).toInt = -10000 := rfl
    have hpos : (10000 : Int32).toInt = 10000 := rfl
    have hseven : (7 : Int32).toInt = 7 := rfl
    have height : (8 : Int32).toInt = 8 := rfl
    rw [gt_iff_lt, Int32.lt_iff_toInt_lt, hneg] at hlow
    rw [Int32.lt_iff_toInt_lt, hpos] at hhigh
    rw [abs_lt] at h ⊢
    have hproduct : (g.nrrPpb * 7).toInt = g.nrrPpb.toInt * 7 := by
      rw [Int32.toInt_mul, hseven]
      exact Int.bmod_eq_of_le (by omega) (by omega)
    have hsum : (g.nrrPpb * 7 + inst).toInt = g.nrrPpb.toInt * 7 + inst.toInt := by
      rw [Int32.toInt_add, hproduct]
      exact Int.bmod_eq_of_le (by omega) (by omega)
    rw [Int32.toInt_div_of_ne_right _ _ (by decide), hsum, height]
    have hle := Int64.tdiv_le (z := g.nrrPpb.toInt * 7 + inst.toInt) (k := 9999) (d := 8)
      (by decide) (by omega)
    have hge := Int64.le_tdiv (z := g.nrrPpb.toInt * 7 + inst.toInt) (k := -9999) (d := 8)
      (by decide) (by omega)
    omega
  · exact h

/-- The average of path delays in range is in range. -/
theorem meanDelay_bound {mean delay : Int64} (hmean : 0 ≤ mean.toInt ∧ mean.toInt < 20000)
    (hdelay : 0 ≤ delay.toInt ∧ delay.toInt < 20000) :
    0 ≤ ((mean * 7 + delay) / 8).toInt ∧ ((mean * 7 + delay) / 8).toInt < 20000 := by
  have hseven : (7 : Int64).toInt = 7 := rfl
  have height : (8 : Int64).toInt = 8 := rfl
  have hproduct : (mean * 7).toInt = mean.toInt * 7 :=
    Int64.Fits.toInt_mul (b := 7) (by rw [hseven]; constructor <;> omega)
  have hsum : (mean * 7 + delay).toInt = mean.toInt * 7 + delay.toInt := by
    rw [Int64.Fits.toInt_add (by rw [hproduct]; constructor <;> omega), hproduct]
  rw [Int64.toInt_div_of_pos _ (by decide), hsum, height]
  have hle := Int64.tdiv_le (z := mean.toInt * 7 + delay.toInt) (k := 19999) (d := 8)
    (by decide) (by omega)
  have hge := Int64.le_tdiv (z := mean.toInt * 7 + delay.toInt) (k := 0) (d := 8)
    (by decide) (by omega)
  omega

-- ---------------------------------------------------------------------------
-- Events
-- ---------------------------------------------------------------------------

theorem processPdelayRespFup_kept {g : Gptp} (h : Kept g) (ptp : Buffer) :
    Kept (processPdelayRespFup g ptp) := by
  unfold processPdelayRespFup
  dsimp only
  split
  · obtain ⟨hbounded, hbase⟩ := h
    refine ⟨{ hbounded with nrr := nextNrrPpb_bound hbounded.nrr _ _, pathDelay := ?_ }, hbase⟩
    dsimp only
    split_ifs with haccepted hfirst
    · exact ⟨Int64.le_iff_toInt_le.mp haccepted.1, Int64.lt_iff_toInt_lt.mp haccepted.2⟩
    · exact meanDelay_bound hbounded.pathDelay
        ⟨Int64.le_iff_toInt_le.mp haccepted.1, Int64.lt_iff_toInt_lt.mp haccepted.2⟩
    · exact hbounded.pathDelay
  · exact h

theorem followUpOffset_kept {g : Gptp} (h : Kept g) (ptp : Buffer) : Kept (followUpOffset g ptp) :=
  h.congr rfl

theorem processPtp_kept {g : Gptp} (h : Kept g) (ptp : Buffer) (ptpLen : Nat) (tsu : Tsu)
    (msg : Option PtpMessage) : Kept (processPtp g ptp ptpLen tsu msg).1 := by
  cases msg with
  | none => exact h
  | some msg =>
    cases msg with
    | sync => exact h.congr rfl
    | followUp =>
      simp only [processPtp, processFollowUp]
      split
      · exact servoUpdate_kept (followUpOffset_kept h ptp) tsu.uptimeMs
      · exact h
    | pdelayReq => exact h
    | pdelayResp =>
      simp only [processPtp, processPdelayResp]
      split
      · exact h.congr rfl
      · exact h
    | pdelayRespFup => exact processPdelayRespFup_kept h ptp
    | announce =>
      simp only [processPtp, processAnnounce]
      split
      · exact h.congr rfl
      · exact h

theorem gptpStep_kept {g : Gptp} (h : Kept g) (e : GptpEvent) : Kept (gptpStep g e).1 := by
  cases e with
  | poll tsu =>
    refine h.congr ?_
    simp only [gptpStep, gptpPoll, pdelayLost, syncTimeout, gptpSendPdelayReq]
    split_ifs <;> rfl
  | rx frame len tsu =>
    obtain ⟨rx, hrx⟩ := gptpProcessRx_eq g frame len tsu
    rw [gptpStep, hrx]
    exact processPtp_kept (g := { g with rx := rx }) (h.congr rfl) _ _ tsu _

theorem servoUpdate_target {g : Gptp} {now : UInt32} {t : PtpTimestamp}
    (h : .stepTime t ∈ (gptpServoUpdate g now).2) : ∃ g', t = stepTarget g' := by
  unfold gptpServoUpdate at h
  split at h
  · refine ⟨g, ?_⟩
    simpa [servoStep] using h
  · simp [servoPi] at h

/-- The coarse step writes its target; nothing else steps the time. -/
theorem stepTime_mem {g : Gptp} {e : GptpEvent} {t : PtpTimestamp}
    (h : .stepTime t ∈ (gptpStep g e).2) : ∃ g', t = stepTarget g' := by
  cases e with
  | poll tsu =>
    simp only [gptpStep, gptpPoll, gptpSendPdelayReq] at h
    split at h <;> simp at h
  | rx frame len tsu =>
    obtain ⟨rx, hrx⟩ := gptpProcessRx_eq g frame len tsu
    rw [gptpStep, hrx] at h
    cases hmsg : ptpMessage frame len with
    | none => simp [hmsg, processPtp] at h
    | some msg =>
      rw [hmsg] at h
      cases msg with
      | followUp =>
        simp only [processPtp, processFollowUp] at h
        split at h
        · exact servoUpdate_target h
        · simp at h
      | pdelayReq =>
        simp [processPtp, processPdelayReq, gptpSendPdelayResp, gptpSendPdelayRespFup,
          gptpSendAnswer] at h
      | sync => simp [processPtp] at h
      | pdelayResp => simp [processPtp] at h
      | pdelayRespFup => simp [processPtp] at h
      | announce => simp [processPtp] at h

theorem safe_step {g : Gptp} (h : Kept g) (e : GptpEvent) : Safe g e := by
  refine ⟨fun t ht => ?_, fun x hx hpi => ?_⟩
  · obtain ⟨g', rfl⟩ := stepTime_mem ht
    exact stepTarget_ns g'
  · obtain ⟨y, -, rfl⟩ := Option.map_eq_some_iff.mp hx
    exact pi_fits (followUpOffset_kept h y.1) hpi

/-- For all frames and times, in every state reached the servo is within its
bounds, and every step writes a time in range and computes its PI branch
without wrapping. -/
theorem servo_bounded (mac : MacAddr) (events : List GptpEvent) :
    Bounded ((LockEarned.machine mac).run events) ∧ (LockEarned.machine mac).Steps Safe events := by
  have hany : (LockEarned.machine mac).Steps (fun _ _ => True) events :=
    Machine.stepsFrom_of_forall (fun _ _ => trivial) _ events
  constructor
  · exact (Machine.run_invariant (I := Kept) (kept_init mac)
      (fun g e h => gptpStep_kept h e) events).bounded
  · exact hany.of_invariant Kept (kept_init mac) (fun g e h _ => gptpStep_kept h e)
      fun g e h _ => safe_step h e

end AvbAes3.ServoBounds
