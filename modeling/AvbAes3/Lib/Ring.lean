import Mathlib.Data.Int.ModEq
import Mathlib.Logic.Function.Basic

/-!
# Rings of cells

A memory of `n` cells used round and round holds a list from a cell on. What
is written behind the list extends it, as long as there is a cell left; what
is read from its front leaves the tail, from the next cell on.
-/

namespace AvbAes3.Ring

variable {n start : Nat} {mem : Nat → α} {xs ys : List α}

def Holds (n : Nat) (mem : Nat → α) (start : Nat) (xs : List α) : Prop :=
  ∀ i x, xs[i]? = some x → mem ((start + i) % n) = x

theorem Holds.left (h : Holds n mem start (xs ++ ys)) : Holds n mem start xs := by
  intro i x hx
  refine h i x ?_
  rw [List.getElem?_append_left (List.getElem?_eq_some_iff.mp hx).1]
  exact hx

theorem Holds.tail (h : Holds n mem start xs) : Holds n mem ((start + 1) % n) xs.tail := by
  intro i x hx
  rw [List.getElem?_tail] at hx
  rw [← h (i + 1) x hx, Nat.mod_add_mod, Nat.add_assoc, Nat.add_comm 1 i]

theorem Holds.head (h : Holds n mem start xs) (hstart : start < n) {x : α}
    (hx : xs.head? = some x) : mem start = x := by
  rw [List.head?_eq_getElem?] at hx
  rw [← h 0 x hx, Nat.add_zero, Nat.mod_eq_of_lt hstart]

theorem Holds.push (h : Holds n mem start xs) (hroom : xs.length < n) (x : α) :
    Holds n (Function.update mem ((start + xs.length) % n) x) start (xs ++ [x]) := by
  intro i y hy
  rcases Nat.lt_trichotomy i xs.length with hlt | rfl | hgt
  · rw [List.getElem?_append_left hlt] at hy
    -- fewer than `n` cells apart
    have hne : (start + i) % n ≠ (start + xs.length) % n := by
      intro heq
      have hcells := Nat.ModEq.add_left_cancel' start heq
      rw [Nat.ModEq, Nat.mod_eq_of_lt (Nat.lt_trans hlt hroom), Nat.mod_eq_of_lt hroom] at hcells
      exact Nat.ne_of_lt hlt hcells
    rw [Function.update_of_ne hne]
    exact h i y hy
  · rw [List.getElem?_concat_length] at hy
    rw [Function.update_self]
    exact Option.some.inj hy
  · rw [List.getElem?_eq_none (by simp; omega)] at hy
    cases hy

end AvbAes3.Ring
