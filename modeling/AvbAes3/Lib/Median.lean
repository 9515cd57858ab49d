import Mathlib.Tactic
import Mathlib.Data.List.Sort

/-!
# Insertion sort and the upper median

The insertion sort an imperative program writes: the sorted prefix is
scanned from its end, and the elements greater than the new one are moved
up. The median of an even number of elements is the greater of the middle
two, as `sorted[n / 2]` takes it.
-/

namespace Median

variable {α : Type*} [LinearOrder α]

/-- The sorted prefix from its end, with `v` put below the elements greater
than it. -/
def insertDown (v : α) : List α → List α
  | [] => [v]
  | x :: rest => if v < x then x :: insertDown v rest else v :: x :: rest

/-- The elements in descending order. -/
def descending (l : List α) : List α := l.foldl (fun sorted v => insertDown v sorted) []

def insertionSort (l : List α) : List α := (descending l).reverse

/-- `sorted[n / 2]` of the `n` elements. -/
def upperMedian [Inhabited α] (l : List α) : α := (insertionSort l).getD (l.length / 2) default

theorem insertDown_eq (v : α) (l : List α) :
    insertDown v l = l.orderedInsert (· ≥ ·) v := by
  induction l with
  | nil => rfl
  | cons x rest ih =>
    simp only [insertDown, List.orderedInsert_cons, ih]
    by_cases h : v < x
    · rw [if_pos h, if_neg (not_le.mpr h)]
    · rw [if_neg h, if_pos (not_lt.mp h)]

theorem descending_eq (l : List α) : descending l = l.reverse.insertionSort (· ≥ ·) := by
  simp only [descending, insertDown_eq, List.insertionSort, List.foldr_reverse]

theorem perm_insertionSort (l : List α) : (insertionSort l).Perm l := by
  rw [insertionSort, descending_eq]
  exact (List.reverse_perm _).trans ((List.perm_insertionSort _ _).trans (List.reverse_perm l))

@[simp] theorem length_insertionSort (l : List α) : (insertionSort l).length = l.length :=
  (perm_insertionSort l).length_eq

theorem sorted_insertionSort (l : List α) : (insertionSort l).Pairwise (· ≤ ·) := by
  rw [insertionSort, descending_eq, List.pairwise_reverse]
  exact List.pairwise_insertionSort (· ≥ ·) l.reverse

theorem insertionSort_eq (l : List α) : insertionSort l = l.insertionSort (· ≤ ·) :=
  ((perm_insertionSort l).trans (List.perm_insertionSort _ l).symm).eq_of_pairwise'
    (sorted_insertionSort l) (List.pairwise_insertionSort (· ≤ ·) l)

theorem upperMedian_eq [Inhabited α] {l : List α} (h : l ≠ []) :
    ∃ hi : l.length / 2 < (insertionSort l).length,
      upperMedian l = (insertionSort l)[l.length / 2] := by
  have hi : l.length / 2 < (insertionSort l).length := by
    rw [length_insertionSort]
    exact Nat.div_lt_self (List.length_pos_iff.mpr h) (by decide)
  exact ⟨hi, by rw [upperMedian, List.getD_eq_getElem?_getD, List.getElem?_eq_getElem hi]; rfl⟩

/-- Position `k` of a sorted list lies above `c` exactly when the elements
above `c` reach down to it. -/
theorem lt_getElem_iff {s : List α} (hs : s.Pairwise (· ≤ ·)) (c : α) (k : Nat)
    (hk : k < s.length) : c < s[k] ↔ s.length - k ≤ s.countP (c < ·) := by
  induction s generalizing k with
  | nil => simp at hk
  | cons x rest ih =>
    obtain ⟨hx, hrest⟩ := List.pairwise_cons.mp hs
    by_cases hcx : c < x
    · -- everything is above `c`
      have hall : ∀ y ∈ x :: rest, c < y := by
        intro y hy
        rcases List.mem_cons.mp hy with rfl | hy
        · exact hcx
        · exact lt_of_lt_of_le hcx (hx y hy)
      have hcount : (x :: rest).countP (c < ·) = (x :: rest).length :=
        List.countP_eq_length.mpr fun y hy => by simpa using hall y hy
      rw [hcount]
      exact ⟨fun _ => Nat.sub_le _ _, fun _ => hall _ (List.getElem_mem hk)⟩
    · rw [List.countP_cons_of_neg (by simpa using hcx)]
      cases k with
      | zero =>
        have hle : rest.countP (c < ·) ≤ rest.length := List.countP_le_length
        simp only [List.getElem_cons_zero, List.length_cons]
        exact ⟨fun h => absurd h hcx, fun h => absurd h (by omega)⟩
      | succ k =>
        simp only [List.getElem_cons_succ, List.length_cons]
        rw [ih hrest k (by simpa using hk), Nat.add_sub_add_right]

theorem getElem_lt_iff {s : List α} (hs : s.Pairwise (· ≤ ·)) (c : α) (k : Nat)
    (hk : k < s.length) : s[k] < c ↔ k < s.countP (· < c) := by
  induction s generalizing k with
  | nil => simp at hk
  | cons x rest ih =>
    obtain ⟨hx, hrest⟩ := List.pairwise_cons.mp hs
    by_cases hcx : x < c
    · rw [List.countP_cons_of_pos (by simpa using hcx)]
      cases k with
      | zero => simp [hcx]
      | succ k =>
        simp only [List.getElem_cons_succ]
        rw [ih hrest k (by simpa using hk), Nat.add_lt_add_iff_right]
    · -- nothing is below `c`
      have hall : ∀ y ∈ x :: rest, ¬ y < c := by
        intro y hy
        rcases List.mem_cons.mp hy with rfl | hy
        · exact hcx
        · exact not_lt.mpr (le_trans (not_lt.mp hcx) (hx y hy))
      have hcount : (x :: rest).countP (· < c) = 0 :=
        List.countP_eq_zero.mpr fun y hy => by simpa using hall y hy
      rw [hcount]
      exact ⟨fun h => absurd h (hall _ (List.getElem_mem hk)), fun h => absurd h (Nat.not_lt_zero _)⟩

/-- The median lies above `c` exactly when at least half of the elements,
rounded up, do. -/
theorem lt_upperMedian_iff [Inhabited α] {l : List α} (h : l ≠ []) (c : α) :
    c < upperMedian l ↔ l.length - l.length / 2 ≤ l.countP (c < ·) := by
  obtain ⟨hi, heq⟩ := upperMedian_eq h
  rw [heq, lt_getElem_iff (sorted_insertionSort l) c _ hi, length_insertionSort,
    (perm_insertionSort l).countP_eq]

/-- The median lies below `c` exactly when more than half of the elements,
rounded down, do. -/
theorem upperMedian_lt_iff [Inhabited α] {l : List α} (h : l ≠ []) (c : α) :
    upperMedian l < c ↔ l.length / 2 < l.countP (· < c) := by
  obtain ⟨hi, heq⟩ := upperMedian_eq h
  rw [heq, getElem_lt_iff (sorted_insertionSort l) c _ hi, (perm_insertionSort l).countP_eq]

/-- The median is that of the values, in whatever order. -/
theorem upperMedian_perm [Inhabited α] {l l' : List α} (h : l.Perm l') :
    upperMedian l = upperMedian l' := by
  have hsorted : insertionSort l = insertionSort l' :=
    ((perm_insertionSort l).trans (h.trans (perm_insertionSort l').symm)).eq_of_pairwise'
      (sorted_insertionSort l) (sorted_insertionSort l')
  rw [upperMedian, upperMedian, hsorted, h.length_eq]

omit [LinearOrder α] in
theorem countP_disjoint {p q : α → Bool} (h : ∀ x, p x → ¬ q x) (l : List α) :
    l.countP p + l.countP q ≤ l.length := by
  have hall := List.length_eq_countP_add_countP p (l := l)
  have hother : l.countP q ≤ l.countP fun x => ¬ p x :=
    List.countP_mono_left fun x _ hq => by simpa using fun hp => h x hp hq
  omega

/-- A majority within an interval has the median there. -/
theorem upperMedian_between [Inhabited α] {l : List α} (lo hi : α)
    (h : l.length / 2 < l.countP fun x => lo ≤ x ∧ x ≤ hi) :
    lo ≤ upperMedian l ∧ upperMedian l ≤ hi := by
  have hne : l ≠ [] := by
    rintro rfl
    simp at h
  constructor
  · refine not_lt.mp fun hlow => ?_
    have hbelow := (upperMedian_lt_iff hne lo).mp hlow
    have hsum := countP_disjoint (p := (· < lo)) (q := fun x => lo ≤ x ∧ x ≤ hi)
      (fun x hx => by simp at hx; simp [hx]) l
    omega
  · refine not_lt.mp fun hhigh => ?_
    have habove := (lt_upperMedian_iff hne hi).mp hhigh
    have hsum := countP_disjoint (p := (hi < ·)) (q := fun x => lo ≤ x ∧ x ≤ hi)
      (fun x hx => by simp at hx; simp [hx]) l
    omega

end Median
