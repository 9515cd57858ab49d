import Mathlib.Data.Set.Basic

/-!
# Functions that overwrite part of a memory

A memory gives each address a value. A function from memories to memories
overwrites a set of addresses when it puts values of its own there, whatever
the memory held, and leaves the other addresses as they were. What is
overwritten is then the same for every memory, and nothing else is.
-/

/-- `f` puts values of its own at the addresses in `w` and leaves the rest. -/
structure Overwrites {ι α : Type*} (f : (ι → α) → ι → α) (w : Set ι) : Prop where
  own : ∀ m m', ∀ i ∈ w, f m i = f m' i
  rest : ∀ m, ∀ i ∉ w, f m i = m i

namespace Overwrites

variable {ι α : Type*} {f g : (ι → α) → ι → α} {w v : Set ι} {i : ι}

theorem nothing : Overwrites (fun m : ι → α => m) ∅ where
  own _ _ _ hi := hi.elim
  rest _ _ _ := rfl

/-- What a second function overwrites is added. -/
theorem comp (hf : Overwrites f w) (hg : Overwrites g v) :
    Overwrites (fun m => g (f m)) (w ∪ v) where
  own m m' i hi := by
    by_cases hv : i ∈ v
    · exact hg.own _ _ i hv
    · rw [hg.rest _ i hv, hg.rest _ i hv]
      exact hf.own m m' i (hi.resolve_right hv)
  rest m i hi := by
    rw [Set.mem_union, not_or] at hi
    rw [hg.rest _ i hi.2, hf.rest _ i hi.1]

theorem of_eq (h : Overwrites f w) (heq : w = v) : Overwrites f v := heq ▸ h

/-- An address is overwritten exactly when what it ends up with is the same
for every memory. -/
theorem mem_iff [Nontrivial α] (h : Overwrites f w) : i ∈ w ↔ ∀ m m', f m i = f m' i := by
  constructor
  · exact fun hi m m' => h.own m m' i hi
  · intro hsame
    by_contra hi
    obtain ⟨a, b, hab⟩ := exists_pair_ne α
    refine hab ?_
    rw [← h.rest (fun _ => a) i hi, hsame _ (fun _ => b), h.rest _ i hi]

end Overwrites
