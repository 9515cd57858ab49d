import Mathlib.Tactic

/-!
# Machines and their runs

A machine is an initial state and what each input does to a state. A run is
a list of inputs. `Steps P` says that every step of a run meets `P`, a
condition on the state the step is taken in and on its input; a property
"at every step" and a restriction on the runs considered are both of this
form, so the rules below turn one into the other through an invariant.
-/

structure Machine (σ ι : Type*) where
  init : σ
  step : σ → ι → σ

namespace Machine

variable {σ ι τ : Type*} (m : Machine σ ι)

def runFrom (s : σ) (inputs : List ι) : σ := inputs.foldl m.step s

/-- The state after the inputs. -/
def run (inputs : List ι) : σ := m.runFrom m.init inputs

/-- Every step from `s` meets `P`, in the state it is taken in. -/
def StepsFrom (P : σ → ι → Prop) : σ → List ι → Prop
  | _, [] => True
  | s, i :: rest => P s i ∧ StepsFrom P (m.step s i) rest

def Steps (P : σ → ι → Prop) (inputs : List ι) : Prop := m.StepsFrom P m.init inputs

instance StepsFrom.decidable {P : σ → ι → Prop} [∀ s i, Decidable (P s i)] :
    (s : σ) → (inputs : List ι) → Decidable (m.StepsFrom P s inputs)
  | _, [] => .isTrue trivial
  | s, i :: rest =>
    have := StepsFrom.decidable (P := P) (m.step s i) rest
    inferInstanceAs (Decidable (P s i ∧ m.StepsFrom P (m.step s i) rest))

instance Steps.decidable {P : σ → ι → Prop} [∀ s i, Decidable (P s i)] (inputs : List ι) :
    Decidable (m.Steps P inputs) := StepsFrom.decidable m m.init inputs

variable {m}

@[simp] theorem runFrom_nil (s : σ) : m.runFrom s [] = s := rfl

@[simp] theorem runFrom_cons (s : σ) (i : ι) (rest : List ι) :
    m.runFrom s (i :: rest) = m.runFrom (m.step s i) rest := rfl

theorem runFrom_append (s : σ) (first second : List ι) :
    m.runFrom s (first ++ second) = m.runFrom (m.runFrom s first) second := by
  simp [runFrom, List.foldl_append]

theorem run_concat (inputs : List ι) (i : ι) : m.run (inputs ++ [i]) = m.step (m.run inputs) i :=
  runFrom_append m.init inputs [i]

@[simp] theorem stepsFrom_nil (P : σ → ι → Prop) (s : σ) : m.StepsFrom P s [] := trivial

@[simp] theorem stepsFrom_cons (P : σ → ι → Prop) (s : σ) (i : ι) (rest : List ι) :
    m.StepsFrom P s (i :: rest) ↔ P s i ∧ m.StepsFrom P (m.step s i) rest := Iff.rfl

theorem stepsFrom_append (P : σ → ι → Prop) (s : σ) (first second : List ι) :
    m.StepsFrom P s (first ++ second) ↔
      m.StepsFrom P s first ∧ m.StepsFrom P (m.runFrom s first) second := by
  induction first generalizing s with
  | nil => simp
  | cons i rest ih => simp [ih, and_assoc]

/-- A step anywhere in a run meets what all its steps meet. -/
theorem Steps.at {P : σ → ι → Prop} {first rest : List ι} {i : ι}
    (h : m.Steps P (first ++ i :: rest)) : P (m.run first) i :=
  ((stepsFrom_append P _ first (i :: rest)).mp h).2.1

theorem Steps.before {P : σ → ι → Prop} {first rest : List ι}
    (h : m.Steps P (first ++ rest)) : m.Steps P first :=
  ((stepsFrom_append P _ first rest).mp h).1

theorem stepsFrom_of_forall {P : σ → ι → Prop} (h : ∀ s i, P s i) (s : σ) (inputs : List ι) :
    m.StepsFrom P s inputs := by
  induction inputs generalizing s with
  | nil => trivial
  | cons i rest ih => exact ⟨h s i, ih _⟩

/-- A condition on the inputs alone. -/
theorem steps_of_mem {P : ι → Prop} {inputs : List ι} (h : ∀ i ∈ inputs, P i) :
    m.Steps (fun _ i => P i) inputs := by
  suffices ∀ s, m.StepsFrom (fun _ i => P i) s inputs from this _
  induction inputs with
  | nil => exact fun _ => trivial
  | cons i rest ih =>
    exact fun s => ⟨h i List.mem_cons_self, ih (fun j hj => h j (List.mem_cons_of_mem _ hj)) _⟩

theorem Steps.and {P Q : σ → ι → Prop} {inputs : List ι} (hp : m.Steps P inputs)
    (hq : m.Steps Q inputs) : m.Steps (fun s i => P s i ∧ Q s i) inputs := by
  suffices ∀ s, m.StepsFrom P s inputs → m.StepsFrom Q s inputs →
      m.StepsFrom (fun s i => P s i ∧ Q s i) s inputs from this _ hp hq
  clear hp hq
  induction inputs with
  | nil => exact fun _ _ _ => trivial
  | cons i rest ih => exact fun s hp hq => ⟨⟨hp.1, hq.1⟩, ih _ hp.2 hq.2⟩

-- ---------------------------------------------------------------------------
-- Invariants
-- ---------------------------------------------------------------------------

theorem StepsFrom.invariant {P : σ → ι → Prop} {I : σ → Prop} {inputs : List ι} {s : σ}
    (hi : I s) (hs : ∀ s i, I s → P s i → I (m.step s i)) (h : m.StepsFrom P s inputs) :
    I (m.runFrom s inputs) := by
  induction inputs generalizing s with
  | nil => exact hi
  | cons i rest ih => exact ih (hs s i hi h.1) h.2

/-- What holds at the start and is kept by every step that meets `P` holds
after a run whose steps meet `P`. -/
theorem Steps.invariant {P : σ → ι → Prop} {I : σ → Prop} {inputs : List ι} (hi : I m.init)
    (hs : ∀ s i, I s → P s i → I (m.step s i)) (h : m.Steps P inputs) : I (m.run inputs) :=
  StepsFrom.invariant hi hs h

/-- Without a condition on the steps: what every step keeps holds of every
reachable state. -/
theorem run_invariant {I : σ → Prop} (hi : I m.init) (hs : ∀ s i, I s → I (m.step s i))
    (inputs : List ι) : I (m.run inputs) :=
  StepsFrom.invariant (P := fun _ _ => True) hi (fun s i h _ => hs s i h)
    (stepsFrom_of_forall (fun _ _ => trivial) _ inputs)

/-- A condition on the steps gives a property of the steps, through an
invariant that the condition keeps. -/
theorem Steps.of_invariant {P Q : σ → ι → Prop} (I : σ → Prop) {inputs : List ι}
    (hi : I m.init) (hs : ∀ s i, I s → P s i → I (m.step s i)) (hq : ∀ s i, I s → P s i → Q s i)
    (h : m.Steps P inputs) : m.Steps Q inputs := by
  suffices ∀ s, I s → m.StepsFrom P s inputs → m.StepsFrom Q s inputs from this _ hi h
  clear h
  induction inputs with
  | nil => exact fun _ _ _ => trivial
  | cons i rest ih => exact fun s hI hp => ⟨hq s i hI hp.1, ih _ (hs s i hI hp.1) hp.2⟩

/-- Where the invariant makes a condition and a property say the same of a
step, and the condition keeps the invariant, they say the same of a run. -/
theorem steps_congr {P Q : σ → ι → Prop} (I : σ → Prop) (hi : I m.init)
    (hs : ∀ s i, I s → P s i → I (m.step s i)) (hpq : ∀ s i, I s → (P s i ↔ Q s i))
    (inputs : List ι) : m.Steps P inputs ↔ m.Steps Q inputs :=
  ⟨fun h => h.of_invariant I hi hs fun s i hI => (hpq s i hI).mp,
    fun h => h.of_invariant I hi (fun s i hI hq => hs s i hI ((hpq s i hI).mpr hq))
      fun s i hI => (hpq s i hI).mpr⟩

-- ---------------------------------------------------------------------------
-- Simulation
-- ---------------------------------------------------------------------------

/-- `R` relates the initial states, and the states the two machines reach by
one input from related states. -/
structure Simulates (m : Machine σ ι) (n : Machine τ ι) (R : σ → τ → Prop) : Prop where
  init : R m.init n.init
  step : ∀ s t i, R s t → R (m.step s i) (n.step t i)

variable {n : Machine τ ι} {R : σ → τ → Prop}

theorem Simulates.run (h : Simulates m n R) (inputs : List ι) : R (m.run inputs) (n.run inputs) := by
  suffices ∀ s t, R s t → R (m.runFrom s inputs) (n.runFrom t inputs) from this _ _ h.init
  induction inputs with
  | nil => exact fun _ _ hR => hR
  | cons i rest ih => exact fun s t hR => ih _ _ (h.step s t i hR)

/-- Conditions that say the same of related states say the same of a run. -/
theorem Simulates.steps_iff (h : Simulates m n R) {P : σ → ι → Prop} {Q : τ → ι → Prop}
    (hpq : ∀ s t i, R s t → (P s i ↔ Q t i)) (inputs : List ι) :
    m.Steps P inputs ↔ n.Steps Q inputs := by
  suffices ∀ s t, R s t → (m.StepsFrom P s inputs ↔ n.StepsFrom Q t inputs) from
    this _ _ h.init
  induction inputs with
  | nil => exact fun _ _ _ => Iff.rfl
  | cons i rest ih =>
    intro s t hR
    rw [stepsFrom_cons, stepsFrom_cons, hpq s t i hR, ih _ _ (h.step s t i hR)]

-- ---------------------------------------------------------------------------
-- History beside the state
-- ---------------------------------------------------------------------------

/-- The machine with a history that its steps are written into. -/
def withHistory (m : Machine σ ι) (start : γ) (note : γ → σ → ι → γ) : Machine (σ × γ) ι where
  init := (m.init, start)
  step s i := (m.step s.1 i, note s.2 s.1 i)

/-- The history changes nothing of the run. -/
theorem withHistory_fst (start : γ) (note : γ → σ → ι → γ) (inputs : List ι) :
    ((m.withHistory start note).run inputs).1 = m.run inputs := by
  have hsimulates : Simulates (m.withHistory start note) m fun s t => s.1 = t :=
    ⟨rfl, fun s t i h => congrArg (m.step · i) h⟩
  exact hsimulates.run inputs

-- ---------------------------------------------------------------------------
-- Refinement
-- ---------------------------------------------------------------------------

/-- Seen through `abs`, a step of `m` is the run of `n` over the inputs that
`trace` reads off it. -/
structure Refines (m : Machine σ ι) (n : Machine τ κ) (abs : σ → τ) (trace : σ → ι → List κ) :
    Prop where
  init : abs m.init = n.init
  step : ∀ s i, abs (m.step s i) = n.runFrom (abs s) (trace s i)

variable {abs : σ → τ} {trace : σ → ι → List κ}

/-- What `trace` reads off the steps of a run, one after the other. -/
def traceFrom (m : Machine σ ι) (trace : σ → ι → List κ) : σ → List ι → List κ
  | _, [] => []
  | s, i :: rest => trace s i ++ traceFrom m trace (m.step s i) rest

theorem Refines.run {n : Machine τ κ} (h : Refines m n abs trace) (inputs : List ι) :
    abs (m.run inputs) = n.run (m.traceFrom trace m.init inputs) := by
  suffices ∀ s, abs (m.runFrom s inputs) = n.runFrom (abs s) (m.traceFrom trace s inputs) by
    rw [Machine.run, this, h.init, Machine.run]
  induction inputs with
  | nil => exact fun _ => rfl
  | cons i rest ih =>
    intro s
    rw [runFrom_cons, ih, h.step, traceFrom, runFrom_append]

/-- What the steps of a concrete run see to is met by the abstract run. -/
theorem Refines.steps {n : Machine τ κ} (h : Refines m n abs trace) {P : τ → κ → Prop}
    {inputs : List ι} (hp : m.Steps (fun s i => n.StepsFrom P (abs s) (trace s i)) inputs) :
    n.Steps P (m.traceFrom trace m.init inputs) := by
  suffices ∀ s, m.StepsFrom (fun s i => n.StepsFrom P (abs s) (trace s i)) s inputs →
      n.StepsFrom P (abs s) (m.traceFrom trace s inputs) by
    rw [Steps, ← h.init]
    exact this _ hp
  clear hp
  induction inputs with
  | nil => exact fun _ _ => trivial
  | cons i rest ih =>
    intro s hp
    rw [traceFrom, stepsFrom_append, ← h.step]
    exact ⟨hp.1, ih _ hp.2⟩

/-- An invariant of the abstract machine holds of what a concrete run comes
to, if the condition that keeps it is met by every abstract input on the
way. -/
theorem Refines.invariant {n : Machine τ κ} (h : Refines m n abs trace) {P : τ → κ → Prop}
    {I : τ → Prop} (hi : I n.init) (hs : ∀ t k, I t → P t k → I (n.step t k)) {inputs : List ι}
    (hp : m.Steps (fun s i => n.StepsFrom P (abs s) (trace s i)) inputs) :
    I (abs (m.run inputs)) := by
  rw [h.run]
  exact (h.steps hp).invariant hi hs

-- ---------------------------------------------------------------------------
-- A machine that feeds another
-- ---------------------------------------------------------------------------

variable {α : Type*}

/-- Two machines side by side, of which one steps at a time. What the second
is given depends on the state that the first is in. -/
def feeds (m : Machine σ ι) (n : Machine τ κ) (feed : σ → α → κ) : Machine (σ × τ) (ι ⊕ α) where
  init := (m.init, n.init)
  step s
    | .inl i => (m.step s.1 i, s.2)
    | .inr a => (s.1, n.step s.2 (feed s.1 a))

def fedAt (feed : σ → α → κ) (s : σ × τ) : ι ⊕ α → List κ
  | .inl _ => []
  | .inr a => [feed s.1 a]

/-- All that the second is given in a run. -/
def fed (m : Machine σ ι) (n : Machine τ κ) (feed : σ → α → κ) (inputs : List (ι ⊕ α)) : List κ :=
  (m.feeds n feed).traceFrom (fedAt feed) (m.feeds n feed).init inputs

section Feeds

variable {n : Machine τ κ} {feed : σ → α → κ}

theorem feeds_refines : Refines (m.feeds n feed) n Prod.snd (fedAt feed) where
  init := rfl
  step s i := by cases i <;> rfl

/-- The second runs as it would alone, on what it is given. -/
theorem feeds_run (inputs : List (ι ⊕ α)) :
    ((m.feeds n feed).run inputs).2 = n.run (m.fed n feed inputs) := feeds_refines.run inputs

/-- The first steps, and then the second. -/
theorem feeds_run_apart (inputs : List ι) (rest : List α) :
    (m.feeds n feed).run (inputs.map .inl ++ rest.map .inr) =
      (m.run inputs, n.run (rest.map (feed (m.run inputs)))) := by
  have hfirst (s : σ) (t : τ) :
      (m.feeds n feed).runFrom (s, t) (inputs.map .inl) = (m.runFrom s inputs, t) := by
    induction inputs generalizing s with
    | nil => rfl
    | cons i rest ih => exact ih (m.step s i)
  have hsecond (s : σ) (t : τ) :
      (m.feeds n feed).runFrom (s, t) (rest.map .inr) = (s, n.runFrom t (rest.map (feed s))) := by
    induction rest generalizing t with
    | nil => rfl
    | cons a rest ih => exact ih (n.step t (feed s a))
  rw [Machine.run, runFrom_append]
  exact (congrArg (fun s => (m.feeds n feed).runFrom s _) (hfirst m.init n.init)).trans (hsecond _ _)

/-- The first runs as it would alone. -/
theorem feeds_fst (inputs : List (ι ⊕ α)) :
    ((m.feeds n feed).run inputs).1 = m.run (inputs.filterMap Sum.getLeft?) := by
  suffices ∀ s : σ × τ, ((m.feeds n feed).runFrom s inputs).1 =
      m.runFrom s.1 (inputs.filterMap Sum.getLeft?) from this _
  induction inputs with
  | nil => exact fun _ => rfl
  | cons i rest ih => cases i <;> exact fun s => ih _

/-- What an invariant of the first says of all it can give, every step of the
second meets. -/
theorem Steps.fed {I : σ → Prop} {H : σ × τ → ι ⊕ α → Prop} {P : τ → κ → Prop}
    (hinit : I m.init) (hstep : ∀ s i, I s → I (m.step s i))
    (hfeed : ∀ s t a, I s → H (s, t) (.inr a) → P t (feed s a)) {inputs : List (ι ⊕ α)}
    (h : (m.feeds n feed).Steps H inputs) : n.Steps P (m.fed n feed inputs) := by
  refine feeds_refines.steps (h.of_invariant (fun s => I s.1) hinit ?_ ?_)
  · rintro ⟨s, t⟩ (i | a) hI -
    · exact hstep s i hI
    · exact hI
  · rintro ⟨s, t⟩ (i | a) hI hH
    · trivial
    · exact ⟨hfeed s t a hI hH, trivial⟩

end Feeds

end Machine
