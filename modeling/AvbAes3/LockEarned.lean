import AvbAes3.GptpRun

/-!
# A lock is earned

The servo locks on the ninth small offset in a row. Its counter is cleared by
a large offset and with the lock, but neither by the Sync timeout, which
clears the lock alone, nor by the coarse step, which returns before it. In
the runs in which these two find the counter at zero, eight small offsets
have come since the lock was last cleared and the time last stepped,
whenever the servo locks.
-/

namespace AvbAes3.LockEarned

def machine (mac : MacAddr) : Machine Gptp GptpEvent where
  init := (gptpInit mac).1
  step g e := (gptpStep g e).1

/-- The state in which an event reaches `gptp_servo_update`. -/
def servoInput (g : Gptp) (e : GptpEvent) : Option Gptp :=
  (acceptedFollowUp g e).map fun x => followUpOffset g x.1

/-- The guard of the Sync timeout. -/
def SyncTimesOut (g : Gptp) (uptimeMs : UInt32) : Prop :=
  g.state = .slave ∧ uptimeMs - g.lastSyncTimeMs > 3000

instance (g : Gptp) (uptimeMs : UInt32) : Decidable (SyncTimesOut g uptimeMs) := by
  unfold SyncTimesOut; infer_instance

/-- The event ends in the Sync timeout. -/
def TimesOut (g : Gptp) : GptpEvent → Prop
  | .poll tsu => SyncTimesOut g tsu.uptimeMs
  | .rx .. => False

instance (g : Gptp) : DecidablePred (TimesOut g)
  | .poll tsu => inferInstanceAs (Decidable (SyncTimesOut g tsu.uptimeMs))
  | .rx .. => .isFalse id

/-- The offsets of the servo updates since the lock was last cleared and the
time last stepped, the latest first. -/
abbrev Updates := List Int64

def record (since : Updates) (g : Gptp) (e : GptpEvent) : Updates :=
  match servoInput g e with
  | some x =>
    if x.stepsTime then []
    else if g.servoLocked && !(gptpStep g e).1.servoLocked then []
    else x.offsetFromMasterNs :: since
  | none => if TimesOut g e then [] else since

def recorded (mac : MacAddr) : Machine (Gptp × Updates) GptpEvent :=
  (machine mac).withHistory [] record

/-- Within 500 ns. -/
def Small (offset : Int64) : Prop := -500 < offset ∧ offset < 500

/-- The last `n` updates had small offsets. -/
def Backed (n : Nat) (since : Updates) : Prop :=
  n ≤ since.length ∧ ∀ offset ∈ since.take n, Small offset

/-- Where the servo locks, the eight updates before had small offsets. -/
def Earned (x : Gptp × Updates) (e : GptpEvent) : Prop :=
  (servoInput x.1 e).isSome → x.1.servoLocked = false → (gptpStep x.1 e).1.servoLocked →
    Backed 8 x.2

/-- The Sync timeout, and a coarse step while not locked, find the counter at
zero. -/
structure FindsNoCount (x : Gptp × Updates) (e : GptpEvent) : Prop where
  timeout : TimesOut x.1 e → x.1.lockSampleCount = 0
  step : ∀ y ∈ servoInput x.1 e, y.stepsTime → x.1.servoLocked = false → x.1.lockSampleCount = 0

instance (offset : Int64) : Decidable (Small offset) := by
  unfold Small; infer_instance

instance (n : Nat) (since : Updates) : Decidable (Backed n since) :=
  have := List.decidableBAll Small (since.take n)
  inferInstanceAs (Decidable (n ≤ since.length ∧ ∀ offset ∈ since.take n, Small offset))

instance (x : Gptp × Updates) (e : GptpEvent) : Decidable (Earned x e) := by
  unfold Earned; infer_instance

instance (x : Gptp × Updates) (e : GptpEvent) : Decidable (FindsNoCount x e) :=
  decidable_of_iff ((TimesOut x.1 e → x.1.lockSampleCount = 0) ∧ ∀ y ∈ servoInput x.1 e,
    y.stepsTime → x.1.servoLocked = false → x.1.lockSampleCount = 0)
    ⟨fun h => ⟨h.1, h.2⟩, fun h => ⟨h.timeout, h.step⟩⟩

-- ---------------------------------------------------------------------------
-- The servo
-- ---------------------------------------------------------------------------

theorem backed_zero (since : Updates) : Backed 0 since :=
  ⟨Nat.zero_le _, fun _ h => by cases h⟩

theorem Backed.cons {n : Nat} {since : Updates} {offset : Int64} (h : Backed n since)
    (hsmall : Small offset) : Backed (n + 1) (offset :: since) := by
  refine ⟨Nat.succ_le_succ h.1, fun o ho => ?_⟩
  rw [List.take_succ_cons] at ho
  rcases List.mem_cons.mp ho with rfl | ho
  · exact hsmall
  · exact h.2 o ho

/-- The fields of the lock. -/
def lockFields (g : Gptp) : Bool × UInt8 := (g.servoLocked, g.lockSampleCount)

def nextLock (lock : Bool × UInt8) (abs : Int64) : Bool × UInt8 :=
  if !lock.1 then
    if abs < 500 then if lock.2 < 8 then (lock.1, lock.2 + 1) else (true, lock.2)
    else (lock.1, 0)
  else if abs > 2000 then (false, 0)
  else lock

theorem servoLock_lockFields (g : Gptp) :
    lockFields (servoLock g) = nextLock (lockFields g) (absOff g.offsetFromMasterNs) := by
  unfold servoLock nextLock lockFields
  dsimp only
  split_ifs <;> rfl

theorem servoStats_lockFields (g : Gptp) (nowMs : UInt32) :
    lockFields (servoStats g nowMs) = lockFields g := by
  unfold servoStats
  dsimp only
  split_ifs <;> rfl

theorem servoUpdate_lockFields (g : Gptp) (uptimeMs : UInt32) :
    lockFields (gptpServoUpdate g uptimeMs).1 =
      if g.stepsTime then lockFields g
      else nextLock (lockFields g) (absOff g.offsetFromMasterNs) := by
  unfold gptpServoUpdate
  split
  · rfl
  · exact (servoStats_lockFields ..).trans (servoLock_lockFields (servoPi g).1)

/-- The counter of an unlocked servo counts small offsets. -/
def Counted (lock : Bool × UInt8) (since : Updates) : Prop :=
  lock.1 = false → Backed lock.2.toNat since ∧ lock.2.toNat ≤ 8

theorem counted_zero (since : Updates) : Counted (false, 0) since :=
  fun _ => ⟨backed_zero _, Nat.zero_le _⟩

theorem counted_locked (count : UInt8) (since : Updates) : Counted (true, count) since :=
  fun h => Bool.noConfusion h

theorem small_of_absOff {offset : Int64} (hbig : ¬ offset < -bigThresh)
    (h : absOff offset < 500) : Small offset := by
  unfold bigThresh at hbig
  unfold absOff at h
  unfold Small
  split at h <;> grind

/-- An update that locks has eight small offsets behind it, and another one
leaves the counter counting. -/
theorem Counted.next {lock : Bool × UInt8} {since : Updates} {offset : Int64}
    (h : Counted lock since) (hbig : ¬ offset < -bigThresh) :
    (lock.1 = false → (nextLock lock (absOff offset)).1 → Backed 8 since) ∧
      Counted (nextLock lock (absOff offset))
        (if lock.1 && !(nextLock lock (absOff offset)).1 then [] else offset :: since) := by
  obtain ⟨locked, count⟩ := lock
  cases locked with
  | false =>
    obtain ⟨hbacked, hle⟩ := h rfl
    dsimp only at hbacked hle
    simp only [nextLock, Bool.not_false, if_true]
    split
    · rename_i habs
      split
      · rename_i hcount
        have hlt : count.toNat < 8 := UInt8.lt_iff_toNat_lt.mp hcount
        have hnext : (count + 1).toNat = count.toNat + 1 := by
          rw [UInt8.toNat_add]
          exact Nat.mod_eq_of_lt (by rw [UInt8.toNat_one]; omega)
        refine ⟨fun _ hnow => Bool.noConfusion hnow, fun _ => ?_⟩
        dsimp only
        rw [hnext]
        exact ⟨hbacked.cons (small_of_absOff hbig habs), hlt⟩
      · rename_i hcount
        have hfull : count.toNat = 8 :=
          Nat.le_antisymm hle (Nat.not_lt.mp fun hlt => hcount (UInt8.lt_iff_toNat_lt.mpr hlt))
        exact ⟨fun _ _ => hfull ▸ hbacked, counted_locked _ _⟩
    · exact ⟨fun _ hnow => Bool.noConfusion hnow, counted_zero _⟩
  | true =>
    refine ⟨fun hnow => Bool.noConfusion hnow, ?_⟩
    simp only [nextLock, Bool.not_true, Bool.false_eq_true, if_false]
    split
    · exact counted_zero _
    · exact counted_locked _ _

-- ---------------------------------------------------------------------------
-- Steps
-- ---------------------------------------------------------------------------

theorem syncTimeout_lockFields (g : Gptp) (uptimeMs : UInt32) :
    lockFields (syncTimeout g uptimeMs) =
      if SyncTimesOut g uptimeMs then (false, g.lockSampleCount) else lockFields g := by
  by_cases h : SyncTimesOut g uptimeMs
  · have hcleared : syncTimeout g uptimeMs = { g with state := .listening, servoLocked := false } :=
      if_pos h
    rw [hcleared, if_pos h]
    rfl
  · have hsame : syncTimeout g uptimeMs = g := if_neg h
    rw [hsame, if_neg h]

/-- Without an update only the Sync timeout touches the lock. -/
theorem lockFields_other {g : Gptp} {e : GptpEvent} (h : acceptedFollowUp g e = none) :
    lockFields (gptpStep g e).1 =
      if TimesOut g e then (false, g.lockSampleCount) else lockFields g := by
  cases e with
  | poll tsu =>
    have hstep : ∃ g', (gptpStep g (.poll tsu)).1 = syncTimeout g' tsu.uptimeMs ∧
        g'.state = g.state ∧ g'.lastSyncTimeMs = g.lastSyncTimeMs ∧ lockFields g' = lockFields g := by
      rw [gptpStep, gptpPoll]
      by_cases hdue : pdelayDue g tsu
      · rw [if_pos hdue]
        refine ⟨(gptpSendPdelayReq (pdelayLost g) tsu).1, rfl, ?_⟩
        unfold pdelayLost
        split <;> exact ⟨rfl, rfl, rfl⟩
      · rw [if_neg hdue]
        exact ⟨g, rfl, rfl, rfl, rfl⟩
    obtain ⟨g', hpoll, hstate, htime, hlock⟩ := hstep
    have htimesOut : SyncTimesOut g' tsu.uptimeMs ↔ TimesOut g (.poll tsu) := by
      rw [SyncTimesOut, hstate, htime]
      rfl
    have hcount : g'.lockSampleCount = g.lockSampleCount := congrArg Prod.snd hlock
    rw [hpoll, syncTimeout_lockFields, hlock, hcount]
    exact if_congr htimesOut rfl rfl
  | rx frame len tsu =>
    obtain ⟨-, hlocked, hcount, -⟩ := gptpStep_rx_servo h
    rw [if_neg (show ¬ TimesOut g (.rx frame len tsu) from id)]
    exact Prod.ext hlocked hcount

/-- An update, from the state it is made in. -/
theorem lockFields_update {g : Gptp} {e : GptpEvent} {y : Gptp} (h : servoInput g e = some y) :
    lockFields y = lockFields g ∧ lockFields (gptpStep g e).1 =
      if y.stepsTime then lockFields y
      else nextLock (lockFields y) (absOff y.offsetFromMasterNs) := by
  obtain ⟨⟨ptp, uptimeMs⟩, haccepted, rfl⟩ := Option.map_eq_some_iff.mp h
  obtain ⟨rx, hrx⟩ := gptpStep_followUp haccepted
  rw [hrx]
  exact ⟨rfl, servoUpdate_lockFields _ uptimeMs⟩

theorem step_counted {x : Gptp × Updates} {e : GptpEvent} (h : Counted (lockFields x.1) x.2)
    (hfinds : FindsNoCount x e) :
    Earned x e ∧ Counted (lockFields (gptpStep x.1 e).1) (record x.2 x.1 e) := by
  obtain ⟨g, since⟩ := x
  unfold Earned record
  cases hinput : servoInput g e with
  | none =>
    refine ⟨fun hsome => Bool.noConfusion hsome, ?_⟩
    rw [lockFields_other (Option.map_eq_none_iff.mp hinput)]
    dsimp only
    split
    · rename_i htimeout
      have hzero := hfinds.timeout htimeout
      dsimp only at hzero
      rw [hzero]
      exact counted_zero _
    · exact h
  | some y =>
    obtain ⟨hsame, hlock⟩ := lockFields_update hinput
    have hlocked : g.servoLocked = (lockFields y).1 := (congrArg Prod.fst hsame).symm
    have hnow : (gptpStep g e).1.servoLocked = (lockFields (gptpStep g e).1).1 := rfl
    rw [hnow, hlocked, hlock]
    have hcounted : Counted (lockFields y) since := hsame ▸ h
    by_cases hsteps : y.stepsTime
    · rw [if_pos hsteps]
      refine ⟨fun _ hunlocked hlocks => ?_, fun hunlocked => ?_⟩
      · exact absurd (hunlocked.symm.trans hlocks) Bool.false_ne_true
      · have hzero : (lockFields y).2 = 0 := by
          rw [hsame]
          exact hfinds.step y hinput hsteps (hlocked.trans hunlocked)
        rw [hzero]
        exact ⟨backed_zero _, Nat.zero_le _⟩
    · have hbig : ¬ y.offsetFromMasterNs < -bigThresh := fun hlt => hsteps (.inr (.inr hlt))
      rw [if_neg hsteps]
      obtain ⟨hearned, hnext⟩ := hcounted.next hbig
      refine ⟨fun _ => hearned, ?_⟩
      simp only [if_neg hsteps]
      exact hnext

/-- Where the Sync timeout and the coarse step find the counter at zero, every
lock is earned. -/
theorem locks_earned (mac : MacAddr) (run : List GptpEvent)
    (h : (recorded mac).Steps FindsNoCount run) : (recorded mac).Steps Earned run :=
  h.of_invariant (fun x : Gptp × Updates => Counted (lockFields x.1) x.2) (counted_zero [])
    (fun _ _ hx hfinds => (step_counted hx hfinds).2) fun _ _ hx hfinds => (step_counted hx hfinds).1

/-- The first Sync steps the time, the tenth locks. -/
def tenPairs : List GptpEvent := (List.replicate 10 (syncPair {})).flatten

theorem tenPairs_earned : (recorded boardMac).Steps Earned tenPairs ∧
    ((recorded boardMac).run tenPairs).1.servoLocked = true :=
  ⟨locks_earned boardMac tenPairs (by decide +kernel), by decide +kernel⟩

/-- Silence for five seconds, and a single Sync. -/
def lostAndBack : List GptpEvent := tenPairs ++ [.poll { uptimeMs := 5000 }] ++ syncPair {}

theorem relocks_at_once : ¬ (recorded boardMac).Steps Earned lostAndBack ∧
    ((recorded boardMac).run lostAndBack).1.servoLocked = true ∧
    ((recorded boardMac).run lostAndBack).2.length = 1 := by
  decide +kernel

end AvbAes3.LockEarned
