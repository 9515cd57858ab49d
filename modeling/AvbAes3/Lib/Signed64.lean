import Mathlib.Tactic

/-!
# Exact signed 64-bit arithmetic

`Int64` computes modulo 2^64. Sums, differences and products commute with
the wrapping, so an expression built of them is the wrapped value of the
same expression over the integers, however many of its parts have wrapped,
and it is exact just when the integer fits. Division does not commute:
there the operands have to be exact first.
-/

namespace Int64

/-- The integers that a signed 64-bit value holds. -/
def Fits (z : Int) : Prop := -9223372036854775808 ≤ z ∧ z < 9223372036854775808

instance (z : Int) : Decidable (Fits z) := by unfold Fits; infer_instance

theorem fits_toInt (a : Int64) : Fits a.toInt := ⟨a.le_toInt, a.toInt_lt⟩

theorem Fits.toInt_ofInt (h : Fits z) : (Int64.ofInt z).toInt = z :=
  Int64.toInt_ofInt_of_le h.1 h.2

theorem toInt_ofInt_iff (z : Int) : (Int64.ofInt z).toInt = z ↔ Fits z :=
  ⟨fun h => h ▸ fits_toInt _, Fits.toInt_ofInt⟩

/-- The wrapped value of an integer is exact just when the integer fits. -/
theorem exact_iff {a : Int64} (h : a = Int64.ofInt z) : a.toInt = z ↔ Fits z := by
  rw [h]
  exact toInt_ofInt_iff z

-- ---------------------------------------------------------------------------
-- Ring operations
-- ---------------------------------------------------------------------------

variable {a b : Int64}

theorem ofInt_toInt_add (a b : Int64) : a + b = Int64.ofInt (a.toInt + b.toInt) := by simp

theorem ofInt_toInt_sub (a b : Int64) : a - b = Int64.ofInt (a.toInt - b.toInt) := by simp

theorem ofInt_toInt_mul (a b : Int64) : a * b = Int64.ofInt (a.toInt * b.toInt) := by simp

theorem ofInt_toInt_neg (a : Int64) : -a = Int64.ofInt (-a.toInt) := by simp

theorem Fits.toInt_add (h : Fits (a.toInt + b.toInt)) : (a + b).toInt = a.toInt + b.toInt :=
  (exact_iff (ofInt_toInt_add a b)).mpr h

theorem Fits.toInt_sub (h : Fits (a.toInt - b.toInt)) : (a - b).toInt = a.toInt - b.toInt :=
  (exact_iff (ofInt_toInt_sub a b)).mpr h

theorem Fits.toInt_mul (h : Fits (a.toInt * b.toInt)) : (a * b).toInt = a.toInt * b.toInt :=
  (exact_iff (ofInt_toInt_mul a b)).mpr h

theorem Fits.toInt_neg (h : Fits (-a.toInt)) : (-a).toInt = -a.toInt :=
  (exact_iff (ofInt_toInt_neg a)).mpr h

-- ---------------------------------------------------------------------------
-- Division
-- ---------------------------------------------------------------------------

theorem toInt_div_of_pos (a : Int64) {d : Int64} (hd : 0 < d.toInt) :
    (a / d).toInt = a.toInt.tdiv d.toInt := by
  refine Int64.toInt_div_of_ne_right a d ?_
  rintro rfl
  exact absurd hd (by decide)

/-- Truncating division brings what is within `k * d` to within `k`. -/
theorem tdiv_le {z k d : Int} (hd : 0 < d) (h : z ≤ k * d) : z.tdiv d ≤ k :=
  (Int.tdiv_le_tdiv hd h).trans_eq (Int.mul_tdiv_cancel k hd.ne')

theorem le_tdiv {z k d : Int} (hd : 0 < d) (h : k * d ≤ z) : k ≤ z.tdiv d :=
  (Int.mul_tdiv_cancel k hd.ne').symm.trans_le (Int.tdiv_le_tdiv hd h)

/-- A quotient is within `k` just when the dividend is within `k * d`. -/
theorem abs_tdiv_lt_iff {z k d : Int} (hd : 0 < d) : |z.tdiv d| < k ↔ |z| < k * d := by
  have hnonneg {y : Int} (hy : 0 ≤ y) : |y.tdiv d| < k ↔ |y| < k * d := by
    rw [abs_of_nonneg hy, abs_of_nonneg (Int.tdiv_nonneg hy hd.le), Int.tdiv_eq_ediv_of_nonneg hy]
    exact Int.ediv_lt_iff_lt_mul hd
  rcases le_total 0 z with hz | hz
  · exact hnonneg hz
  · have hneg := hnonneg (y := -z) (by omega)
    rwa [Int.neg_tdiv, abs_neg, abs_neg] at hneg

/-- A shift to the right divides by the power of two, rounding down. -/
theorem toInt_shiftRight (a : Int64) {b : Int64} (hb : 0 ≤ b.toInt) (hlt : b.toInt < 64) :
    (a >>> b).toInt = a.toInt / 2 ^ b.toInt.toNat := by
  have hamount : (b.toBitVec.smod 64).toNat = b.toInt.toNat := by
    have hsmod : (b.toBitVec.smod 64).toInt = b.toInt := by
      rw [BitVec.toInt_smod]
      exact Int.fmod_eq_of_lt hb hlt
    have hlt := (b.toBitVec.smod 64).isLt
    rw [BitVec.toInt_eq_toNat_cond] at hsmod
    split at hsmod <;> omega
  rw [← Int64.toInt_toBitVec, Int64.toBitVec_shiftRight, BitVec.toInt_sshiftRight', hamount,
    Int.shiftRight_eq_div_pow]
  push_cast
  rfl

end Int64
