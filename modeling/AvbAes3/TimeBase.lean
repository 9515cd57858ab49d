import AvbAes3.GptpRun

/-!
# The time base of the median window

The coarse step moves the clock, but the median ring of `process_follow_up`
keeps the raw offsets measured against the clock as it was, the one that
triggered the step among them. A `History` numbers the Follow_Ups as they are
accepted, and knows every entry of the ring by the Follow_Up it was measured
for.

`timeBase_discarded_iff`: no offset is taken over a sample from before the
last step, and no step follows one without a raw offset beyond ±500 ms, only
in the runs that accept a single Follow_Up: the first one steps the time,
and the second one's median is taken over both.
-/

namespace AvbAes3.TimeBase

/-- The port and its Follow_Ups, numbered as they are accepted. -/
structure History where
  g : Gptp
  accepted : Nat
  /-- For each entry of the ring, the Follow_Up its sample was measured for. -/
  measured : Fin 5 → Nat
  /-- The Follow_Up at which the time was last stepped. -/
  stepped : Option Nat
  /-- Every raw offset measured since that step was within ±500 ms. -/
  settled : Bool

def steps (effects : List GptpEffect) : Bool :=
  effects.any fun | .stepTime _ => true | _ => false

def WithinStep (offset : Int64) : Prop := -bigThresh ≤ offset ∧ offset ≤ bigThresh

instance (offset : Int64) : Decidable (WithinStep offset) := by
  unfold WithinStep; infer_instance

def History.step (s : History) (e : GptpEvent) : History :=
  let (g, effects) := gptpStep s.g e
  match acceptedFollowUp s.g e with
  | none => { s with g := g }
  | some (ptp, _) =>
    let number := s.accepted + 1
    { g := g
      accepted := number
      measured := Function.update s.measured s.g.offMedianIdx number
      stepped := if steps effects then some number else s.stepped
      settled := steps effects || s.settled && WithinStep (rawOffset s.g ptp) }

def machine (mac : MacAddr) : Machine History GptpEvent where
  init := ⟨(gptpInit mac).1, 0, fun _ => 0, none, true⟩
  step := History.step

/-- The samples the Follow_Up's median is taken of, by the Follow_Ups they
were measured for. -/
def window (s : History) (e : GptpEvent) : List Nat :=
  ((List.finRange 5).take (s.step e).g.offMedianFilled).map (s.step e).measured

/-- After a step, the window of a Follow_Up holds none but later samples,
and while these are within ±500 ms there is no other step. -/
def Discarded (s : History) (e : GptpEvent) : Prop :=
  ∀ x ∈ acceptedFollowUp s.g e, ∀ last ∈ s.stepped,
    (∀ number ∈ window s e, last < number) ∧
      (s.settled → WithinStep (rawOffset s.g x.1) → ¬ steps (gptpStep s.g e).2)

/-- The event delivers no Follow_Up that is accepted after another one. -/
def NoSecond (s : History) (e : GptpEvent) : Prop :=
  (acceptedFollowUp s.g e).isSome → s.accepted = 0

instance (s : History) : DecidablePred (Discarded s) := fun e => by
  unfold Discarded; infer_instance

instance (s : History) : DecidablePred (NoSecond s) := fun e => by
  unfold NoSecond; infer_instance

-- ---------------------------------------------------------------------------
-- The first Follow_Up
-- ---------------------------------------------------------------------------

/-- Before any Follow_Up, and after the first. -/
inductive Fresh : History → Prop
  | none (hacc : s.accepted = 0) (hstep : s.stepped = .none) (hidx : s.g.offMedianIdx = 0)
      (hfill : s.g.offMedianFilled = 0) (hcount : s.g.servoStepCount = 0) : Fresh s
  | one (hacc : s.accepted = 1) (hstep : s.stepped = some 1) (hidx : s.g.offMedianIdx = 1)
      (hfill : s.g.offMedianFilled = 1) (hold : s.measured 0 = 1) : Fresh s

variable {s : History} {e : GptpEvent} {g : Gptp}

theorem fresh_of_servoState (h : Fresh s) (hg : g.servoState = s.g.servoState) :
    Fresh { s with g := g } := by
  simp only [Gptp.servoState, ServoState.mk.injEq] at hg
  obtain ⟨-, hidx, hfill, hcount⟩ := hg
  cases h with
  | none hacc hstep h1 h2 h3 =>
    exact .none hacc hstep (hidx.trans h1) (hfill.trans h2) (hcount.trans h3)
  | one hacc hstep h1 h2 hold => exact .one hacc hstep (hidx.trans h1) (hfill.trans h2) hold

/-- What a part of the servo leaves alone: the median ring. -/
def SameRing (g g' : Gptp) : Prop :=
  g'.offMedianIdx = g.offMedianIdx ∧ g'.offMedianFilled = g.offMedianFilled

theorem gptpServoUpdate_sameRing (g : Gptp) (now : UInt32) :
    SameRing g (gptpServoUpdate g now).1 := by
  obtain ⟨_, hwrites⟩ := gptpServoUpdate_writes g now
  rw [hwrites]
  exact ⟨rfl, rfl⟩

theorem gptpServoUpdate_first (h : g.servoStepCount = 0) (now : UInt32) :
    steps (gptpServoUpdate g now).2 := by
  rw [gptpServoUpdate, if_pos (.inl h)]
  rfl

theorem step_accepted (h : acceptedFollowUp s.g e = some x) :
    (s.step e).accepted = s.accepted + 1 ∧
      (s.step e).measured = Function.update s.measured s.g.offMedianIdx (s.accepted + 1) ∧
      (s.step e).stepped =
        (if steps (gptpStep s.g e).2 then some (s.accepted + 1) else s.stepped) ∧
      (s.step e).g.offMedianIdx = s.g.offMedianIdx + 1 ∧
      (s.step e).g.offMedianFilled =
        if s.g.offMedianFilled < 5 then s.g.offMedianFilled + 1 else s.g.offMedianFilled := by
  obtain ⟨ptp, now⟩ := x
  obtain ⟨rx, hrx⟩ := gptpStep_followUp h
  obtain ⟨hidx, hfill⟩ := gptpServoUpdate_sameRing { followUpOffset s.g ptp with rx := rx } now
  simp only [History.step, h, hrx]
  exact ⟨trivial, trivial, trivial, hidx, hfill⟩

theorem step_other (h : acceptedFollowUp s.g e = none) :
    s.step e = { s with g := (gptpStep s.g e).1 } := by
  simp only [History.step, h]

theorem fresh_step (h : Fresh s) (hn : NoSecond s e) : Fresh (s.step e) := by
  cases hf : acceptedFollowUp s.g e with
  | none =>
    rw [step_other hf]
    exact fresh_of_servoState h (gptpStep_other hf).1
  | some x =>
    obtain ⟨hacc', hmeas', hstep', hidx', hfill'⟩ := step_accepted hf
    cases h with
    | one hacc => exact absurd (hn (by rw [hf]; rfl)) (by rw [hacc]; decide)
    | none hacc hstep hidx hfill hcount =>
      have hsteps : steps (gptpStep s.g e).2 := by
        obtain ⟨rx, hrx⟩ := gptpStep_followUp hf
        have hcount' : ({ followUpOffset s.g x.1 with rx := rx } : Gptp).servoStepCount = 0 :=
          hcount
        rw [hrx]
        exact gptpServoUpdate_first hcount' _
      refine .one (by rw [hacc', hacc]) ?_ (by rw [hidx', hidx]; rfl) ?_ ?_
      · rw [hstep', if_pos hsteps, hacc]
      · rw [hfill, if_pos (by decide)] at hfill'
        exact hfill'
      · rw [hmeas', hidx, hacc]
        exact Function.update_self ..

theorem noSecond_iff_discarded (h : Fresh s) (e : GptpEvent) : NoSecond s e ↔ Discarded s e := by
  cases hf : acceptedFollowUp s.g e with
  | none => simp [NoSecond, Discarded, hf]
  | some x =>
    obtain ⟨-, hmeas', -, -, hfill'⟩ := step_accepted hf
    cases h with
    | none hacc hstep => simp [NoSecond, Discarded, hacc, hstep]
    | one hacc hstep hidx hfill hold =>
      refine ⟨fun hn => absurd (hn (by rw [hf]; rfl)) (by rw [hacc]; decide), fun hd => ?_⟩
      -- the sample that triggered the step is the first of the two
      have hstale : 1 ∈ window s e := by
        have hfill2 : (s.step e).g.offMedianFilled = 2 := by
          rw [hfill, if_pos (by decide)] at hfill'
          exact hfill'
        rw [window, hmeas', hfill2, hidx]
        exact List.mem_map.mpr ⟨0, by decide, hold⟩
      exact absurd ((hd x hf 1 (by rw [hstep]; rfl)).1 1 hstale) (lt_irrefl 1)

-- ---------------------------------------------------------------------------
-- When a Follow_Up steps the time
-- ---------------------------------------------------------------------------

theorem offWindow_pushOffset_ne_nil (g : Gptp) (raw : Int64) :
    (g.pushOffset raw).offWindow ≠ [] := by
  have hpos : 0 < (g.pushOffset raw).offMedianFilled.val := by
    simp only [Gptp.pushOffset]
    split <;> omega
  rw [Gptp.offWindow, ← List.length_pos_iff, List.length_take]
  simpa using hpos

theorem steps_gptpServoUpdate (g : Gptp) (now : UInt32) :
    steps (gptpServoUpdate g now).2 ↔ g.stepsTime := by
  unfold gptpServoUpdate
  split
  · rename_i h
    exact ⟨fun _ => h, fun _ => rfl⟩
  · rename_i h
    -- the PI path only sets the addend
    have hpi : ¬ steps (servoPi g).2 := Bool.false_ne_true
    exact ⟨fun hs => absurd hs hpi, fun hs => absurd hs h⟩

/-- After the first, a Follow_Up steps the time exactly when half of the
window, rounded up, lies above +500 ms, or more than half below -500 ms. -/
theorem followUp_steps_iff (g : Gptp) (ptp : Buffer) (now : UInt32) :
    let samples := (g.pushOffset (rawOffset g ptp)).offWindow
    steps (gptpServoUpdate (followUpOffset g ptp) now).2 ↔
      g.servoStepCount = 0 ∨
        samples.length - samples.length / 2 ≤ samples.countP (bigThresh < ·) ∨
        samples.length / 2 < samples.countP (· < -bigThresh) := by
  have hne := offWindow_pushOffset_ne_nil g (rawOffset g ptp)
  dsimp only
  rw [steps_gptpServoUpdate, ← Median.lt_upperMedian_iff hne, ← Median.upperMedian_lt_iff hne]
  exact Iff.rfl

-- ---------------------------------------------------------------------------
-- Runs
-- ---------------------------------------------------------------------------

theorem timeBase_discarded_iff (mac : MacAddr) (events : List GptpEvent) :
    (machine mac).Steps Discarded events ↔ (machine mac).Steps NoSecond events :=
  (Machine.steps_congr Fresh (.none rfl rfl rfl rfl rfl) (fun _ _ => fresh_step)
    (fun _ e h => noSecond_iff_discarded h e) events).symm

/-- The first Sync is 1 s off and steps the time; the second one is right on
time, and steps it again. -/
def staleSecond : List GptpEvent := syncPair { seconds := 1 } ++ syncPair {}

theorem timeBase_stale :
    ¬ (machine boardMac).Steps Discarded staleSecond ∧
      ((machine boardMac).run staleSecond).stepped = some 2 ∧
      ((machine boardMac).run staleSecond).g.offsetFromMasterNs = 1000000000 := by
  decide +kernel

end AvbAes3.TimeBase
