import AvbAes3.GptpRun

/-!
# The lock flag and the offset

`servo_locked` says that the last offset was small. The PI path keeps it so,
with hysteresis. The coarse step returns before it reaches the flag: an
offset beyond ±500 ms that arrives while locked steps the time and leaves
the flag set.

`lockSound_iff`: the flag is never left set on an offset beyond ±2 µs
exactly in the runs in which no such offset meets the coarse step while
locked.
-/

namespace AvbAes3.ServoLock

/-- The calls of the API; `servoUpdate` is the servo called by itself, on
the offset held. -/
inductive Call
  | port (e : GptpEvent)
  | servoUpdate (uptimeMs : UInt32)

def step (g : Gptp) : Call → Gptp
  | .port e => (gptpStep g e).1
  | .servoUpdate uptimeMs => (gptpServoUpdate g uptimeMs).1

def machine (mac : MacAddr) : Machine Gptp Call where
  init := (gptpInit mac).1
  step := step

/-- The state in which a call reaches `gptp_servo_update`. -/
def servoInput (g : Gptp) : Call → Option Gptp
  | .port e => (acceptedFollowUp g e).map fun x => followUpOffset g x.1
  | .servoUpdate _ => some g

def WithinLock (offset : Int64) : Prop := -2000 ≤ offset ∧ offset ≤ 2000

instance (offset : Int64) : Decidable (WithinLock offset) := by
  unfold WithinLock; infer_instance

/-- Locked right after `gptp_servo_update` only on an offset within ±2 µs. -/
def LockSound (g : Gptp) (c : Call) : Prop :=
  ∀ x ∈ servoInput g c, (step g c).servoLocked → WithinLock x.offsetFromMasterNs

/-- No coarse step is due while locked, but on an offset within ±2 µs (which
takes a step count that has wrapped to zero). -/
def NoLockedStep (g : Gptp) (c : Call) : Prop :=
  ∀ x ∈ servoInput g c, x.servoLocked → x.stepsTime → WithinLock x.offsetFromMasterNs

instance (g : Gptp) : DecidablePred (LockSound g) := fun c => by
  unfold LockSound; infer_instance

instance (g : Gptp) : DecidablePred (NoLockedStep g) := fun c => by
  unfold NoLockedStep; infer_instance

-- ---------------------------------------------------------------------------
-- One call of the servo
-- ---------------------------------------------------------------------------

@[simp] theorem servoStats_servoLocked (g : Gptp) (now : UInt32) :
    (servoStats g now).servoLocked = g.servoLocked := by
  unfold servoStats
  dsimp only
  split_ifs <;> rfl

theorem servoPi_offsetFromMasterNs (g : Gptp) :
    (servoPi g).1.offsetFromMasterNs = g.offsetFromMasterNs := by
  unfold servoPi
  rfl

theorem servoStep_servoLocked (g : Gptp) (now : UInt32) :
    (servoStep g now).1.servoLocked = g.servoLocked := rfl

/-- Within the range of the PI path the magnitude does not wrap. -/
theorem absOff_le_iff (h : ¬ offset < -bigThresh) :
    ¬ absOff offset > 2000 ↔ WithinLock offset := by
  unfold bigThresh at h
  unfold absOff WithinLock
  split <;> grind

theorem servoLock_withinLock (hb : ¬ g.offsetFromMasterNs < -bigThresh)
    (h : (servoLock g).servoLocked = true) : WithinLock g.offsetFromMasterNs := by
  rw [← absOff_le_iff hb]
  unfold servoLock at h
  cases hl : g.servoLocked with
  | false =>
    -- the flag was set by this very sample, within 500 ns
    simp only [hl, Bool.not_false, ↓reduceIte] at h
    split at h
    · grind
    · simp at h
  | true =>
    simp only [hl, Bool.not_true, Bool.false_eq_true, ↓reduceIte] at h
    split at h
    · simp at h
    · assumption

theorem gptpServoUpdate_locked (g : Gptp) (now : UInt32) :
    ((gptpServoUpdate g now).1.servoLocked → WithinLock g.offsetFromMasterNs) ↔
      (g.servoLocked → g.stepsTime → WithinLock g.offsetFromMasterNs) := by
  unfold gptpServoUpdate
  by_cases hs : g.stepsTime
  · rw [if_pos hs, servoStep_servoLocked]
    exact ⟨fun h hl _ => h hl, fun h hl => h hl hs⟩
  · rw [if_neg hs]
    have hs' := hs
    simp only [Gptp.stepsTime, not_or] at hs'
    refine ⟨fun _ _ h => absurd h hs, fun _ hl => ?_⟩
    rw [servoStats_servoLocked] at hl
    rw [← servoPi_offsetFromMasterNs g] at hs' ⊢
    exact servoLock_withinLock hs'.2.2 hl

theorem lockSound_iff_noLockedStep (g : Gptp) (c : Call) : LockSound g c ↔ NoLockedStep g c := by
  unfold LockSound NoLockedStep
  cases c with
  | servoUpdate now => simpa [servoInput, step] using gptpServoUpdate_locked g now
  | port e =>
    simp only [servoInput, Option.mem_map, forall_exists_index, and_imp, forall_apply_eq_imp_iff₂]
    refine forall₂_congr fun ⟨ptp, now⟩ hx => ?_
    obtain ⟨rx, hrx⟩ := gptpStep_followUp hx
    rw [step, hrx]
    exact gptpServoUpdate_locked _ now

-- ---------------------------------------------------------------------------
-- Runs
-- ---------------------------------------------------------------------------

theorem lockSound_iff (mac : MacAddr) (calls : List Call) :
    (machine mac).Steps LockSound calls ↔ (machine mac).Steps NoLockedStep calls :=
  Machine.steps_congr (fun _ => True) trivial (fun _ _ _ _ => trivial)
    (fun g c _ => lockSound_iff_noLockedStep g c) calls

/-- Ten Syncs with offset 0 lock the servo; three with an offset of 1 s then
carry the median there. -/
def lockedThenFar : List Call :=
  ((List.replicate 10 (syncPair {})).flatten ++
    (List.replicate 3 (syncPair { seconds := 1 })).flatten).map .port

theorem lock_kept_far :
    ¬ (machine boardMac).Steps LockSound lockedThenFar ∧
      ((machine boardMac).run lockedThenFar).servoLocked = true ∧
      ((machine boardMac).run lockedThenFar).offsetFromMasterNs = 1000000000 := by
  decide +kernel

end AvbAes3.ServoLock
