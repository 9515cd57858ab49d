import Mathlib.Tactic

/-!
# Vector attributes

The Multiple Registration Protocol declares attributes in vectors: a first
value and, for each of a number of consecutive values, an event. Events are
packed three to a byte, an application's own parameters four to a byte.
`declared` is what a vector declares: the consecutive values whose event
makes a declaration.
-/

namespace Mrp

-- ---------------------------------------------------------------------------
-- Events
-- ---------------------------------------------------------------------------

/-- In the order of their encoding. -/
inductive Event
  | new | joinIn | in_ | joinMt | mt | lv
  deriving DecidableEq, Repr

def Event.code : Event → UInt8
  | .new => 0
  | .joinIn => 1
  | .in_ => 2
  | .joinMt => 3
  | .mt => 4
  | .lv => 5

/-- The events with which the sender declares the attribute. -/
def Event.joins : Event → Bool
  | .new | .joinIn | .joinMt => true
  | .in_ | .mt | .lv => false

/-- Three to a byte, in base six. -/
def packThree : List UInt8 → List UInt8
  | [] => []
  | [a] => [a * 36]
  | [a, b] => [a * 36 + b * 6]
  | a :: b :: c :: rest => (a * 36 + b * 6 + c) :: packThree rest

/-- Four to a byte, in base four. -/
def packFour : List UInt8 → List UInt8
  | [] => []
  | [a] => [a * 64]
  | [a, b] => [a * 64 + b * 16]
  | [a, b, c] => [a * 64 + b * 16 + c * 4]
  | a :: b :: c :: d :: rest => (a * 64 + b * 16 + c * 4 + d) :: packFour rest

theorem length_packThree (codes : List UInt8) :
    (packThree codes).length = (codes.length + 2) / 3 := by
  fun_induction packThree codes with
  | case1 => rfl
  | case2 => simp
  | case3 => simp
  | case4 a b c rest ih =>
    simp only [List.length_cons, ih]
    omega

theorem length_packFour (codes : List UInt8) :
    (packFour codes).length = (codes.length + 3) / 4 := by
  fun_induction packFour codes with
  | case1 => rfl
  | case2 => simp
  | case3 => simp
  | case4 => simp
  | case5 a b c d rest ih =>
    simp only [List.length_cons, ih]
    omega

-- ---------------------------------------------------------------------------
-- Consecutive values
-- ---------------------------------------------------------------------------

section Declared

variable {α : Type*} (nth : α → Nat → α) (first : α)

/-- The values declared, the events being those from the `i`-th value on. -/
def declaredFrom : Nat → List Event → List α
  | _, [] => []
  | i, event :: rest =>
    if event.joins then nth first i :: declaredFrom (i + 1) rest else declaredFrom (i + 1) rest

def declared (events : List Event) : List α := declaredFrom nth first 0 events

variable {nth first}

theorem length_declaredFrom_le (i : Nat) (events : List Event) :
    (declaredFrom nth first i events).length ≤ events.length := by
  induction events generalizing i with
  | nil => exact Nat.le_refl _
  | cons event rest ih =>
    rw [declaredFrom]
    split
    · exact Nat.succ_le_succ (ih _)
    · exact Nat.le_succ_of_le (ih _)

theorem declaredFrom_eq_nil {i : Nat} {events : List Event} (h : ∀ e ∈ events, e.joins = false) :
    declaredFrom nth first i events = [] := by
  induction events generalizing i with
  | nil => rfl
  | cons event rest ih =>
    obtain ⟨hevent, hrest⟩ := List.forall_mem_cons.mp h
    rw [declaredFrom, hevent]
    exact ih hrest

theorem mem_declaredFrom {i : Nat} {events : List Event} {value : α} :
    value ∈ declaredFrom nth first i events ↔
      ∃ j event, events[j]? = some event ∧ event.joins ∧ value = nth first (i + j) := by
  induction events generalizing i with
  | nil => simp [declaredFrom]
  | cons event rest ih =>
    rw [declaredFrom]
    constructor
    · intro h
      have hcases : value ∈ declaredFrom nth first (i + 1) rest ∨
          event.joins ∧ value = nth first i := by
        split at h
        · rename_i hjoins
          rcases List.mem_cons.mp h with h | h
          · exact .inr ⟨hjoins, h⟩
          · exact .inl h
        · exact .inl h
      rcases hcases with h | ⟨hjoins, h⟩
      · obtain ⟨j, e, hj, he, hvalue⟩ := ih.mp h
        exact ⟨j + 1, e, hj, he, by rw [hvalue, Nat.add_assoc, Nat.add_comm 1]⟩
      · exact ⟨0, event, rfl, hjoins, h⟩
    · rintro ⟨j, e, hj, he, hvalue⟩
      cases j with
      | zero =>
        obtain rfl : event = e := Option.some.inj hj
        rw [if_pos he, hvalue]
        exact List.mem_cons_self
      | succ j =>
        have hrest : value ∈ declaredFrom nth first (i + 1) rest :=
          ih.mpr ⟨j, e, hj, he, by rw [hvalue, Nat.add_assoc, Nat.add_comm 1]⟩
        split
        · exact List.mem_cons_of_mem _ hrest
        · exact hrest

end Declared

/-- A vector whose first value alone is declared. -/
def FirstOnly (events : List Event) : Prop :=
  ∃ event rest, events = event :: rest ∧ event.joins ∧ ∀ e ∈ rest, e.joins = false

theorem FirstOnly.declared {nth : α → Nat → α} {first : α} {events : List Event}
    (h : FirstOnly events) : declared nth first events = [nth first 0] := by
  obtain ⟨event, rest, rfl, hevent, hrest⟩ := h
  rw [Mrp.declared, declaredFrom, if_pos hevent, declaredFrom_eq_nil hrest]

end Mrp
