import Mathlib.Data.List.DropRight
import Mathlib.Tactic

/-!
# An array that keeps the last few

An array written round and round, with the next cell to write and the number
of cells written. Whatever was written before, it holds the last values of
the log in some order: from the next cell on the older ones, before it the
newer.
-/

namespace Recent

variable {α : Type*} {cells log : List α} {idx filled : Nat}

/-- `newer` was written since the last wrap, and `older` is what it has not
reached. -/
structure Parts (cells : List α) (filled : Nat) (log newer older : List α) : Prop where
  window : cells.take filled = newer ++ older
  recent : older ++ newer = log.rtake cells.length
  unwrapped : filled < cells.length → older = []

structure Holds (cells : List α) (idx filled : Nat) (log : List α) : Prop where
  room : idx < cells.length
  count : filled = min log.length cells.length
  parts : ∃ newer older, newer.length = idx ∧ Parts cells filled log newer older

theorem rtake_all (h : log.length ≤ n) : log.rtake n = log := by
  rw [List.rtake, Nat.sub_eq_zero_of_le h, List.drop_zero]

@[simp] theorem length_rtake (log : List α) (n : Nat) : (log.rtake n).length = min log.length n := by
  rw [List.rtake, List.length_drop]
  omega

theorem Holds.empty (h : 0 < cells.length) : Holds cells 0 0 [] where
  room := h
  count := (Nat.zero_min _).symm
  parts := ⟨[], [], rfl, rfl, (List.rtake_nil _).symm, fun _ => rfl⟩

/-- The window is the last values of the log, in some order. -/
theorem Holds.window_perm (h : Holds cells idx filled log) :
    (cells.take filled).Perm (log.rtake cells.length) := by
  obtain ⟨newer, older, -, hparts⟩ := h.parts
  rw [hparts.window, ← hparts.recent]
  exact List.perm_append_comm

/-- The wrap: where the newer values have reached the end of the array they
become the older ones. -/
theorem Parts.wrap {newer older : List α} (h : Parts cells filled log newer older)
    (hle : newer.length ≤ cells.length) (hfilled : filled = min log.length cells.length) :
    ∃ newer' older', newer'.length = newer.length % cells.length ∧
      Parts cells filled log newer' older' := by
  rcases Nat.lt_or_eq_of_le hle with hlt | heq
  · exact ⟨newer, older, (Nat.mod_eq_of_lt hlt).symm, h⟩
  · -- there is nothing behind them
    have hlen := congrArg List.length h.window
    rw [List.length_take, List.length_append] at hlen
    obtain rfl : older = [] := List.eq_nil_of_length_eq_zero (by omega)
    refine ⟨[], newer, ?_, ?_, ?_, fun hlt => ?_⟩
    · rw [heq, Nat.mod_self]
      rfl
    · rw [h.window, List.append_nil, List.nil_append]
    · rw [← h.recent, List.append_nil, List.nil_append]
    · exact absurd hlen (by omega)

/-- One less is without the oldest. -/
theorem rtake_of_cons {oldest : α} {rest : List α} (h : oldest :: rest = log.rtake n)
    (hle : n ≤ log.length) : ∃ k, n = k + 1 ∧ log.rtake k = rest := by
  cases n with
  | zero =>
    rw [List.rtake_zero] at h
    cases h
  | succ k =>
    have htail : rest = (log.rtake (k + 1)).tail := congrArg List.tail h
    rw [List.rtake, List.tail_drop] at htail
    refine ⟨k, rfl, ?_⟩
    rw [htail, List.rtake]
    exact congrArg log.drop (by omega)

/-- A value written behind the others, before the array is full. -/
theorem Parts.grow {newer older : List α} (h : Parts cells filled log newer older)
    (hnewer : newer.length = idx) (hidx : idx < cells.length)
    (hfilled : filled = min log.length cells.length) (hroom : filled < cells.length) (v : α) :
    idx = filled ∧ Parts (cells.set idx v) (filled + 1) (log ++ [v]) (newer ++ [v]) [] := by
  obtain rfl := h.unwrapped hroom
  have hlog : log.length < cells.length := by omega
  have hrecent := h.recent
  have hwindow := h.window
  rw [rtake_all (Nat.le_of_lt hlog), List.nil_append] at hrecent
  subst hrecent
  rw [List.append_nil] at hwindow
  have hidx' : idx = filled := by omega
  refine ⟨hidx', ?_, ?_, fun _ => rfl⟩
  · rw [hidx', List.take_succ_eq_append_getElem (by simpa using hroom), List.take_set_of_le,
      hwindow, List.getElem_set_self, List.append_nil]
    exact Nat.le_refl _
  · rw [List.nil_append, rtake_all]
    rw [List.length_append, List.length_set]
    exact hlog

/-- A value written over the oldest. -/
theorem Parts.replace {newer older : List α} (h : Parts cells filled log newer older)
    (hnewer : newer.length = idx) (hidx : idx < cells.length) (hfull : filled = cells.length)
    (hlog : cells.length ≤ log.length) (v : α) :
    ∃ older', Parts (cells.set idx v) filled (log ++ [v]) (newer ++ [v]) older' := by
  have hcells := h.window
  rw [hfull, List.take_length] at hcells
  cases older with
  | nil =>
    rw [List.append_nil] at hcells
    rw [hcells, hnewer] at hidx
    exact absurd hidx (Nat.lt_irrefl _)
  | cons oldest older =>
    have hset : cells.set idx v = newer ++ [v] ++ older := by
      rw [hcells, ← hnewer, List.set_append_right _ _ (Nat.le_refl _), Nat.sub_self,
        List.set_cons_zero, List.append_assoc]
      rfl
    have hrecent := h.recent
    refine ⟨older, ?_, ?_, fun hlt => ?_⟩
    · rw [List.take_of_length_le (by rw [List.length_set, hfull]), hset]
    · obtain ⟨k, hk, hrest⟩ := rtake_of_cons hrecent hlog
      rw [List.length_set, hk, List.rtake_concat_succ, hrest, List.append_eq, List.append_assoc]
    · rw [List.length_set] at hlt
      exact absurd hlt (by omega)

theorem Holds.push (h : Holds cells idx filled log) (v : α) :
    Holds (cells.set idx v) ((idx + 1) % cells.length) (min (filled + 1) cells.length)
      (log ++ [v]) := by
  obtain ⟨newer, older, hnewer, hparts⟩ := h.parts
  have hroom := h.room
  have hcount := h.count
  have hlength : (newer ++ [v]).length = idx + 1 := by rw [List.length_append, hnewer]; rfl
  have hcount' : min (filled + 1) cells.length =
      min (log ++ [v]).length (cells.set idx v).length := by
    rw [List.length_append, List.length_set, List.length_singleton]
    omega
  have hnext : ∃ older', Parts (cells.set idx v) (min (filled + 1) cells.length) (log ++ [v])
      (newer ++ [v]) older' := by
    rcases Nat.lt_or_ge filled cells.length with hlt | hge
    · rw [Nat.min_eq_left hlt]
      exact ⟨[], (hparts.grow hnewer hroom hcount hlt v).2⟩
    · have hfull : filled = cells.length := by omega
      obtain ⟨older', hreplaced⟩ := hparts.replace hnewer hroom hfull (by omega) v
      rw [Nat.min_eq_right (by omega), ← hfull]
      exact ⟨older', hreplaced⟩
  obtain ⟨older', hnext⟩ := hnext
  refine ⟨?_, hcount', ?_⟩
  · rw [List.length_set]
    exact Nat.mod_lt _ (Nat.zero_lt_of_lt hroom)
  · have hwrap := hnext.wrap (by rw [hlength, List.length_set]; exact hroom) hcount'
    rw [hlength, List.length_set] at hwrap
    exact hwrap

end Recent
