import AvbAes3.Lib.Signed64
import AvbAes3.LockEarned
import AvbAes3.TimeBase

/-!
# The raw offset of a Sync

`process_follow_up` subtracts a 48-bit origin time, a 64-bit correction and
the path delay from a 48-bit receive time, all in signed 64-bit nanoseconds
and none of it checked. What it stores is the exact difference modulo 2^64:
`exactOrRefused_iff` says that the sample is exact just when the difference
fits, and that a Follow_Up whose difference does not is never refused.
-/

namespace AvbAes3.SyncOffset

-- ---------------------------------------------------------------------------
-- The exact offset
-- ---------------------------------------------------------------------------

/-- A timestamp in nanoseconds. -/
def ns (ts : PtpTimestamp) : Int := ts.seconds.toNat * 1000000000 + ts.nanoseconds.toNat

/-- The offset that the Follow_Up stands for; the correction is rounded
down. -/
def exactOffset (g : Gptp) (ptp : Buffer) : Int :=
  ns g.syncRxTs - ns (getPtpTs (ptp.offset ptpHeaderLen)) -
    (getBe64Signed (ptp.offset ptpOffCorrection)).toInt / 65536 - g.meanPathDelayNs.toInt

/-- The sample that the step wrote into the median ring. -/
def stored (g g' : Gptp) : Int64 := g'.offMedianBuf.get g.offMedianIdx

/-- The servo is as it was, and the hardware was not touched. -/
def Refused (g : Gptp) (result : Gptp × List GptpEffect) : Prop :=
  result.1.servoState = g.servoState ∧ result.2 = []

def ExactOrRefused (g : Gptp) (e : GptpEvent) : Prop :=
  ∀ x ∈ acceptedFollowUp g e,
    (stored g (gptpStep g e).1).toInt = exactOffset g x.1 ∨ Refused g (gptpStep g e)

/-- The exact offset is a signed 64-bit number. -/
def OffsetFits (g : Gptp) (e : GptpEvent) : Prop :=
  ∀ x ∈ acceptedFollowUp g e, Int64.Fits (exactOffset g x.1)

-- ---------------------------------------------------------------------------
-- The computed offset
-- ---------------------------------------------------------------------------

theorem gptpTsDiffNs_ns (ts : PtpTimestamp) : gptpTsDiffNs ts {} = Int64.ofInt (ns ts) := by
  have hsec : ts.seconds.toInt64 = Int64.ofInt ts.seconds.toNat := by
    rw [Int64.ofInt_eq_ofNat, ← UInt64.toInt64_ofNat', UInt64.ofNat_toNat]
  have hns : ts.nanoseconds.toUInt64.toInt64 = Int64.ofInt ts.nanoseconds.toNat := by
    rw [Int64.ofInt_eq_ofNat, ← UInt64.toInt64_ofNat', ← UInt32.toNat_toUInt64,
      UInt64.ofNat_toNat]
  have hdiff : gptpTsDiffNs ts {} =
      (ts.seconds.toInt64 - 0) * 1000000000 + (ts.nanoseconds.toUInt64.toInt64 - 0) := rfl
  rw [hdiff, hsec, hns, Int64.sub_zero, Int64.sub_zero, ns, Int64.ofInt_add, Int64.ofInt_mul]
  rfl

theorem rawOffset_eq (g : Gptp) (ptp : Buffer) :
    rawOffset g ptp = Int64.ofInt (exactOffset g ptp) := by
  have hcorr (corr : Int64) : corr >>> 16 = Int64.ofInt (corr.toInt / 65536) := by
    have hshift := Int64.toInt_shiftRight corr (b := 16) (by decide) (by decide)
    exact (Int64.ofInt_toInt (corr >>> 16)).symm.trans (congrArg Int64.ofInt hshift)
  rw [rawOffset, exactOffset, gptpTsDiffNs_ns, gptpTsDiffNs_ns, hcorr, Int64.ofInt_sub,
    Int64.ofInt_sub, Int64.ofInt_sub, Int64.ofInt_toInt]

/-- The servo leaves the ring alone. -/
theorem gptpServoUpdate_ring (g : Gptp) (now : UInt32) :
    (gptpServoUpdate g now).1.offMedianBuf = g.offMedianBuf := by
  obtain ⟨_, hwrites⟩ := gptpServoUpdate_writes g now
  rw [hwrites]
  rfl

theorem stored_accepted (h : acceptedFollowUp g e = some (ptp, uptimeMs)) :
    stored g (gptpStep g e).1 = rawOffset g ptp := by
  obtain ⟨rx, hrx⟩ := gptpStep_followUp h
  rw [stored, hrx, gptpServoUpdate_ring]
  exact Vector.getElem_set_self g.offMedianIdx.isLt

/-- An accepted Follow_Up always moves the ring on. -/
theorem not_refused (h : acceptedFollowUp g e = some (ptp, uptimeMs)) :
    ¬ Refused g (gptpStep g e) := by
  rintro ⟨hservo, -⟩
  obtain ⟨rx, hrx⟩ := gptpStep_followUp h
  have hidx := (TimeBase.gptpServoUpdate_sameRing { followUpOffset g ptp with rx := rx } uptimeMs).1
  rw [← hrx] at hidx
  have hnext : g.offMedianIdx = g.offMedianIdx + 1 :=
    (congrArg ServoState.offMedianIdx hservo).symm.trans hidx
  omega

/-- A stored sample is exact just when the exact offset fits, and no
accepted Follow_Up is refused. -/
theorem exactOrRefused_iff (g : Gptp) (e : GptpEvent) : ExactOrRefused g e ↔ OffsetFits g e := by
  refine forall₂_congr ?_
  rintro ⟨ptp, uptimeMs⟩ h
  rw [stored_accepted h, or_iff_left (not_refused h)]
  exact Int64.exact_iff (rawOffset_eq g ptp)

/-- The port after a Sync pair of offset zero and a Sync received 2^64 ns
and 100 ns later. -/
def beforeFar : Gptp :=
  (LockEarned.machine boardMac).run (syncPair {} ++ (syncPair ⟨18446744073, 709551716⟩).take 1)

def farFollowUp : GptpEvent := .rx (peerFrame grandmaster ptpMsgFollowUp 0 (.replicate 20 0)) 68 {}

/-- An offset of 584 years is stored as 100 ns, and the time is not stepped. -/
theorem far_offset_wraps :
    ¬ ExactOrRefused beforeFar farFollowUp ∧
      (stored beforeFar (gptpStep beforeFar farFollowUp).1).toInt = 100 ∧
      TimeBase.steps (gptpStep beforeFar farFollowUp).2 = false := by
  refine ⟨fun h => ?_, by decide +kernel, by decide +kernel⟩
  rcases h _ rfl with hexact | hrefused
  · revert hexact
    decide +kernel
  · exact not_refused rfl hrefused

end AvbAes3.SyncOffset
