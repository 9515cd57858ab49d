import AvbAes3.Lib.Recent
import AvbAes3.LockEarned

/-!
# The running median of the offsets

`process_follow_up` writes each raw offset into a ring of five and hands the
servo the middle of what the ring holds. Whatever was received before, that
is the median of the last five raw offsets, or of all while there are fewer:
`servo_seesMedian`.
-/

namespace AvbAes3.OffsetMedian

open LockEarned (machine servoInput)
open Recent

-- ---------------------------------------------------------------------------
-- The raw offsets
-- ---------------------------------------------------------------------------

/-- The raw offsets of the Follow_Ups accepted since `gptp_init`, the latest
last. -/
abbrev RawOffsets := List Int64

def measured (raw : RawOffsets) (g : Gptp) (e : GptpEvent) : RawOffsets :=
  raw ++ ((acceptedFollowUp g e).map fun x => rawOffset g x.1).toList

def sampled (mac : MacAddr) : Machine (Gptp × RawOffsets) GptpEvent :=
  (machine mac).withHistory [] measured

/-- The element at `m / 2` of the last `m` raw offsets in ascending order,
`m` being five or as many as there are. -/
def runningMedian (raw : RawOffsets) : Option Int64 :=
  let m := min raw.length 5
  ((raw.rtake m).insertionSort (· ≤ ·))[m / 2]?

/-- The offset is the running median, and where four of the last five raw
offsets lie in an interval, it lies there too. -/
structure IsMedian (g : Gptp) (raw : RawOffsets) : Prop where
  median : runningMedian raw = some g.offsetFromMasterNs
  outlier : ∀ lo hi, 5 ≤ raw.length → 4 ≤ (raw.rtake 5).countP (fun x => lo ≤ x ∧ x ≤ hi) →
    lo ≤ g.offsetFromMasterNs ∧ g.offsetFromMasterNs ≤ hi

/-- The event comes to `gptp_servo_update` with the median, or not at all. -/
def SeesMedian (s : Gptp × RawOffsets) (e : GptpEvent) : Prop :=
  ∀ x ∈ servoInput s.1 e, IsMedian x (measured s.2 s.1 e)

-- ---------------------------------------------------------------------------
-- The ring
-- ---------------------------------------------------------------------------

/-- What the ring holds of the raw offsets. -/
def Ring (s : ServoState) (raw : RawOffsets) : Prop :=
  Holds s.offMedianBuf.toList s.offMedianIdx s.offMedianFilled raw

theorem Ring.push {g : Gptp} {raw : RawOffsets} (h : Ring g.servoState raw) (v : Int64) :
    Ring (g.pushOffset v).servoState (raw ++ [v]) := by
  have hpush := Holds.push h v
  have hlength : g.offMedianBuf.toList.length = 5 := Vector.length_toList
  have hidx : (g.offMedianIdx + 1).val = (g.offMedianIdx.val + 1) % 5 := Fin.val_add ..
  have hfilled : (g.pushOffset v).offMedianFilled.val = min (g.offMedianFilled.val + 1) 5 := by
    simp only [Gptp.pushOffset]
    split <;> omega
  simp only [Gptp.servoState, hlength] at hpush
  simp only [Ring, Gptp.servoState, hfilled]
  rw [← hidx] at hpush
  have hbuf : (g.pushOffset v).offMedianBuf.toList =
      g.offMedianBuf.toList.set g.offMedianIdx v := Vector.toList_set g.offMedianIdx.isLt
  rw [hbuf]
  exact hpush

/-- The median of the window is that of the last raw offsets. -/
theorem Ring.median {g : Gptp} {raw : RawOffsets} (h : Ring g.servoState raw) :
    Median.upperMedian g.offWindow = Median.upperMedian (raw.rtake 5) := by
  have hperm := Holds.window_perm h
  have hlength : g.offMedianBuf.toList.length = 5 := Vector.length_toList
  simp only [Gptp.servoState, hlength] at hperm
  exact Median.upperMedian_perm hperm

theorem rtake_min (raw : RawOffsets) (n : Nat) : raw.rtake (min raw.length n) = raw.rtake n := by
  rw [List.rtake, List.rtake]
  exact congrArg raw.drop (by omega)

theorem runningMedian_eq {raw : RawOffsets} (hne : raw ≠ []) :
    runningMedian raw = some (Median.upperMedian (raw.rtake 5)) := by
  have hlen : (raw.rtake 5).length = min raw.length 5 := length_rtake raw 5
  have hpos := List.length_pos_iff.mpr hne
  have hlast : raw.rtake 5 ≠ [] := List.length_pos_iff.mp (by omega)
  obtain ⟨hi, hmedian⟩ := Median.upperMedian_eq hlast
  rw [runningMedian, hmedian, ← List.getElem?_eq_getElem hi, Median.insertionSort_eq, hlen,
    rtake_min]

/-- The median of a ring that holds the raw offsets. -/
theorem isMedian_of_ring {g : Gptp} {raw : RawOffsets} (h : Ring g.servoState raw)
    (hne : raw ≠ []) (hoffset : g.offsetFromMasterNs = Median.upperMedian g.offWindow) :
    IsMedian g raw := by
  rw [h.median] at hoffset
  refine ⟨?_, fun lo hi hfive hfour => ?_⟩
  · rw [hoffset]
    exact runningMedian_eq hne
  · have hlen : (raw.rtake 5).length = 5 := by
      rw [length_rtake]
      exact Nat.min_eq_right hfive
    have hmajority : (raw.rtake 5).length / 2 <
        (raw.rtake 5).countP fun x => lo ≤ x ∧ x ≤ hi := by omega
    rw [hoffset]
    exact Median.upperMedian_between lo hi hmajority

-- ---------------------------------------------------------------------------
-- Steps
-- ---------------------------------------------------------------------------

/-- What holds between the events. -/
structure Tracks (s : Gptp × RawOffsets) : Prop where
  ring : Ring s.1.servoState s.2
  median : s.2 ≠ [] → IsMedian s.1 s.2

theorem measured_accepted {raw : RawOffsets} {g : Gptp} {e : GptpEvent}
    (h : acceptedFollowUp g e = some x) : measured raw g e = raw ++ [rawOffset g x.1] := by
  rw [measured, h]
  rfl

theorem measured_other {raw : RawOffsets} {g : Gptp} {e : GptpEvent}
    (h : acceptedFollowUp g e = none) : measured raw g e = raw := by
  rw [measured, h]
  exact List.append_nil raw

/-- The state that an accepted Follow_Up makes for the servo. -/
theorem tracks_followUp {g : Gptp} {raw : RawOffsets} (h : Ring g.servoState raw) (ptp : Buffer) :
    Ring (followUpOffset g ptp).servoState (raw ++ [rawOffset g ptp]) ∧
      IsMedian (followUpOffset g ptp) (raw ++ [rawOffset g ptp]) := by
  have hring : Ring (followUpOffset g ptp).servoState (raw ++ [rawOffset g ptp]) :=
    h.push (rawOffset g ptp)
  exact ⟨hring, isMedian_of_ring hring (by simp) rfl⟩

theorem seesMedian_of_tracks {s : Gptp × RawOffsets} (h : Tracks s) (e : GptpEvent) :
    SeesMedian s e := by
  rintro x hx
  obtain ⟨accepted, haccepted, rfl⟩ := Option.map_eq_some_iff.mp hx
  rw [measured_accepted haccepted]
  exact (tracks_followUp h.ring accepted.1).2

theorem tracks_step {mac : MacAddr} {s : Gptp × RawOffsets} (h : Tracks s) (e : GptpEvent) :
    Tracks ((sampled mac).step s e) := by
  show Tracks ((gptpStep s.1 e).1, measured s.2 s.1 e)
  cases haccepted : acceptedFollowUp s.1 e with
  | none =>
    obtain ⟨hservo, hoffset⟩ := gptpStep_other haccepted
    rw [measured_other haccepted]
    refine ⟨?_, fun hne => ⟨?_, ?_⟩⟩
    · rw [hservo]
      exact h.ring
    · rw [hoffset]
      exact (h.median hne).median
    · rw [hoffset]
      exact (h.median hne).outlier
  | some x =>
    obtain ⟨ptp, uptimeMs⟩ := x
    obtain ⟨rx, hrx⟩ := gptpStep_followUp haccepted
    obtain ⟨w, hwrites⟩ := gptpServoUpdate_writes { followUpOffset s.1 ptp with rx := rx } uptimeMs
    obtain ⟨hring, hmedian⟩ := tracks_followUp h.ring ptp
    rw [measured_accepted haccepted, hrx, hwrites]
    exact ⟨hring, fun _ => ⟨hmedian.median, hmedian.outlier⟩⟩

-- ---------------------------------------------------------------------------
-- Runs
-- ---------------------------------------------------------------------------

theorem tracks_init (mac : MacAddr) : Tracks (sampled mac).init where
  ring := Holds.empty (Nat.succ_pos 4)
  median h := absurd rfl h

/-- Whatever is received, the servo sees the running median, and
`offset_from_master_ns` is that of the Follow_Ups accepted so far. -/
theorem servo_seesMedian (mac : MacAddr) (events : List GptpEvent) :
    (sampled mac).Steps SeesMedian events ∧
      (((sampled mac).run events).2 ≠ [] →
        IsMedian ((sampled mac).run events).1 ((sampled mac).run events).2) := by
  have hsteps := Machine.stepsFrom_of_forall (m := sampled mac) (P := fun _ _ => True)
    (fun _ _ => trivial) (sampled mac).init events
  refine ⟨?_, ?_⟩
  · exact Machine.Steps.of_invariant Tracks (tracks_init mac) (fun s e h _ => tracks_step h e)
      (fun s e h _ => seesMedian_of_tracks h e) hsteps
  · exact (Machine.run_invariant (tracks_init mac) (fun s e h => tracks_step h e) events).median

end AvbAes3.OffsetMedian
