import Mathlib.Tactic

/-!
# Synchronous FIFOs

A FIFO of a given depth as the list of its words, head first, and what a
clock cycle does to it. A write is taken if the FIFO was not full when the
cycle began, whether or not the cycle also reads; a read of an empty FIFO
does nothing.
-/

namespace SyncFifo

variable {α β : Type*} {depth : Nat}

/-- The words after a cycle with the write `din`, if any, and the read `re`. -/
def next (depth : Nat) (words : List α) (din : Option α) (re : Bool) : List α :=
  (if re then words.tail else words) ++ if words.length < depth then din.toList else []

@[simp] theorem next_none (words : List α) (re : Bool) :
    next depth words none re = if re then words.tail else words := by
  simp [next]

theorem next_full {words : List α} (h : ¬ words.length < depth) (din : Option α) (re : Bool) :
    next depth words din re = if re then words.tail else words := by
  rw [next, if_neg h, List.append_nil]

theorem next_room {words : List α} (h : words.length < depth) (din : Option α) (re : Bool) :
    next depth words din re = (if re then words.tail else words) ++ din.toList := by
  rw [next, if_pos h]

theorem length_tail_if (words : List α) (re : Bool) :
    (if re then words.tail else words).length = words.length - if re then 1 else 0 := by
  cases re <;> simp

theorem length_next_le (words : List α) (din : Option α) (re : Bool) :
    (next depth words din re).length ≤ words.length + 1 := by
  have htail := length_tail_if words re
  have hdin : din.toList.length ≤ 1 := by cases din <;> simp
  by_cases hroom : words.length < depth
  · rw [next_room hroom, List.length_append]
    omega
  · rw [next_full hroom]
    omega

/-- What a cycle reads is taken off the head, what it writes is added at the
end. -/
theorem next_conserves (words : List α) (din : Option α) (re : Bool) :
    (if re then words.head?.toList else []) ++ next depth words din re =
      words ++ if words.length < depth then din.toList else [] := by
  rw [next, ← List.append_assoc]
  congr 1
  cases re with
  | false => rfl
  | true => cases words <;> rfl

-- ---------------------------------------------------------------------------
-- Writes alone
-- ---------------------------------------------------------------------------

/-- The words after writing these, one a cycle. -/
def fill (depth : Nat) (words : List α) (writes : List α) : List α :=
  writes.foldl (fun words word => next depth words (some word) false) words

theorem fill_append (words first second : List α) :
    fill depth words (first ++ second) = fill depth (fill depth words first) second :=
  List.foldl_append

theorem fill_full {words : List α} (h : depth ≤ words.length) (writes : List α) :
    fill depth words writes = words := by
  induction writes with
  | nil => rfl
  | cons word rest ih =>
    rw [fill, List.foldl_cons, next_full (Nat.not_lt.mpr h)]
    exact ih

theorem fill_eq (words writes : List α) (h : words.length ≤ depth) :
    fill depth words writes = words ++ writes.take (depth - words.length) := by
  induction writes generalizing words with
  | nil => simp [fill]
  | cons word rest ih =>
    by_cases hroom : words.length < depth
    · have hlen : depth - words.length = (depth - (words ++ [word]).length) + 1 := by
        rw [List.length_append, List.length_singleton]
        omega
      rw [fill, List.foldl_cons, next_room hroom, hlen, List.take_succ_cons]
      refine (ih (words ++ [word]) ?_).trans (by simp)
      rw [List.length_append, List.length_singleton]
      omega
    · rw [fill_full (Nat.not_lt.mp hroom), Nat.sub_eq_zero_of_le (Nat.not_lt.mp hroom),
        List.take_zero, List.append_nil]

end SyncFifo
