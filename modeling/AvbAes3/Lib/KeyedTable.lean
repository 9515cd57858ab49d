import Mathlib.Logic.Function.Basic
import Mathlib.Order.Defs.LinearOrder

/-!
# Tables of keyed entries

A table of slots, live or free, stands for a map from keys to entries as long
as no two live slots have the same key. An entry is written to the slot of
its key; if there is none, to a free slot; and if there is none of these
either, to one with the smallest stamp. Whichever slot is `Chosen` that way,
the table `Upserts` the entry.
-/

structure Keyed (ε κ τ : Type*) where
  live : ε → Prop
  key : ε → κ
  stamp : ε → τ

namespace Keyed

variable {ι ε κ τ : Type*} (e : Keyed ε κ τ)

def Unique (t : ι → ε) : Prop :=
  ∀ ⦃i j⦄, e.live (t i) → e.live (t j) → e.key (t i) = e.key (t j) → i = j

def Absent (t : ι → ε) (k : κ) : Prop := ∀ i, e.live (t i) → e.key (t i) ≠ k

def Full (t : ι → ε) : Prop := ∀ i, e.live (t i)

/-- A slot for an entry of the key. -/
inductive Chosen [LE τ] (t : ι → ε) (k : κ) (i : ι) : Prop
  | own (hlive : e.live (t i)) (hkey : e.key (t i) = k)
  | free (habsent : e.Absent t k) (hfree : ¬ e.live (t i))
  | oldest (habsent : e.Absent t k) (hfull : e.Full t) (hmin : ∀ j, e.stamp (t i) ≤ e.stamp (t j))

/-- A live entry of another key is no longer what it was. -/
def Evicted (t t' : ι → ε) (k : κ) (i : ι) : Prop :=
  e.live (t i) ∧ e.key (t i) ≠ k ∧ t' i ≠ t i

/-- The entry is in the table, and every other one is as it was, but for one
that had to make room. -/
structure Upserts [LE τ] (t t' : ι → ε) (x : ε) : Prop where
  unique : e.Unique t'
  written : ∃ i, t' i = x
  evicts_iff : (∃ i, e.Evicted t t' (e.key x) i) ↔ e.Absent t (e.key x) ∧ e.Full t
  evicts_one : ∀ i j, e.Evicted t t' (e.key x) i → e.Evicted t t' (e.key x) j → i = j
  evicts_oldest : ∀ i, e.Evicted t t' (e.key x) i → ∀ j, e.stamp (t i) ≤ e.stamp (t j)
  evicts_gone : ∀ i, e.Evicted t t' (e.key x) i → e.Absent t' (e.key (t i))

variable {e} {t : ι → ε} {x : ε} {k : κ} {i j : ι}

/-- What is evicted by one write is the slot written. -/
theorem Evicted.eq [DecidableEq ι] (h : e.Evicted t (Function.update t i x) k j) : j = i := by
  by_contra hji
  exact h.2.2 (Function.update_of_ne hji ..)

variable [LE τ]

/-- A slot of another key is chosen only as the oldest one. -/
theorem Chosen.of_other (h : e.Chosen t k i) (hlive : e.live (t i)) (hkey : e.key (t i) ≠ k) :
    e.Absent t k ∧ e.Full t ∧ ∀ j, e.stamp (t i) ≤ e.stamp (t j) := by
  cases h with
  | own _ hown => exact absurd hown hkey
  | free _ hfree => exact absurd hlive hfree
  | oldest habsent hfull hmin => exact ⟨habsent, hfull, hmin⟩

/-- No slot but the one chosen is of the key. -/
theorem Chosen.absent (h : e.Chosen t k i) (hu : e.Unique t) (hj : e.live (t j)) (hij : j ≠ i) :
    e.key (t j) ≠ k := by
  rintro rfl
  cases h with
  | own hlive hkey => exact hij (hu hj hlive hkey.symm)
  | free habsent => exact habsent j hj rfl
  | oldest habsent => exact habsent j hj rfl

variable [DecidableEq ι]

theorem Chosen.unique (h : e.Chosen t (e.key x) i) (hu : e.Unique t) :
    e.Unique (Function.update t i x) := by
  intro j l hj hl hkey
  by_cases hji : j = i
  · by_cases hli : l = i
    · exact hji.trans hli.symm
    · rw [hji, Function.update_self, Function.update_of_ne hli] at hkey
      rw [Function.update_of_ne hli] at hl
      exact absurd hkey.symm (h.absent hu hl hli)
  · rw [Function.update_of_ne hji] at hj hkey
    by_cases hli : l = i
    · rw [hli, Function.update_self] at hkey
      exact absurd hkey (h.absent hu hj hji)
    · rw [Function.update_of_ne hli] at hl hkey
      exact hu hj hl hkey

theorem Chosen.upserts (h : e.Chosen t (e.key x) i) (hu : e.Unique t) :
    e.Upserts t (Function.update t i x) x where
  unique := h.unique hu
  written := ⟨i, Function.update_self ..⟩
  evicts_iff := by
    constructor
    · rintro ⟨j, hevicted⟩
      obtain rfl := hevicted.eq
      obtain ⟨habsent, hfull, -⟩ := h.of_other hevicted.1 hevicted.2.1
      exact ⟨habsent, hfull⟩
    · rintro ⟨habsent, hfull⟩
      refine ⟨i, hfull i, habsent i (hfull i), fun heq => habsent i (hfull i) ?_⟩
      rw [← heq, Function.update_self]
  evicts_one j l hj hl := hj.eq.trans hl.eq.symm
  evicts_oldest j hevicted := by
    obtain rfl := hevicted.eq
    exact (h.of_other hevicted.1 hevicted.2.1).2.2
  evicts_gone j hevicted l hl hkey := by
    obtain rfl := hevicted.eq
    by_cases hlj : l = j
    · rw [hlj, Function.update_self] at hkey
      exact hevicted.2.1 hkey.symm
    · rw [Function.update_of_ne hlj] at hl hkey
      exact hlj (hu hl hevicted.1 hkey)

end Keyed
