import Mathlib.Tactic

/-!
# Gray codes across a clock boundary

A counter that one clock counts and another reads is sent as its Gray code:
from one number to the next a single bit changes, so that a register that
samples the code while it changes holds one of the two numbers, whatever each
bit resolves to. `Crossing` is a counter with the two registers that bring it
into the other clock domain.
-/

namespace GrayCode

variable {w : Nat}

-- ---------------------------------------------------------------------------
-- The code
-- ---------------------------------------------------------------------------

def encode (x : BitVec w) : BitVec w := x ^^^ (x >>> 1)

/-- Bit `i` is the sum of the bits of `code` from `i` on. -/
def decodeFrom : Nat → BitVec w → BitVec w
  | 0, _ => 0#w
  | n + 1, code => code ^^^ decodeFrom n (code >>> 1)

def decode (code : BitVec w) : BitVec w := decodeFrom w code

theorem getLsbD_encode (x : BitVec w) (i : Nat) :
    (encode x).getLsbD i = (x.getLsbD i ^^ x.getLsbD (i + 1)) := by
  rw [encode, BitVec.getLsbD_xor, BitVec.getLsbD_ushiftRight, Nat.add_comm 1 i]

theorem encode_shift (x : BitVec w) : encode x >>> 1 = encode (x >>> 1) := by
  rw [encode, encode, BitVec.ushiftRight_xor_distrib]

theorem getLsbD_decodeFrom (n : Nat) (x : BitVec w) (i : Nat) :
    (decodeFrom n (encode x)).getLsbD i = (x.getLsbD i ^^ x.getLsbD (i + n)) := by
  induction n generalizing x with
  | zero => simp [decodeFrom]
  | succ n ih =>
    rw [decodeFrom, BitVec.getLsbD_xor, encode_shift, ih, getLsbD_encode,
      BitVec.getLsbD_ushiftRight, BitVec.getLsbD_ushiftRight, Nat.add_comm 1 i,
      show 1 + (i + n) = i + (n + 1) by omega, Bool.xor_assoc]
    simp

theorem decode_encode (x : BitVec w) : decode (encode x) = x := by
  refine BitVec.eq_of_getLsbD_eq fun i _ => ?_
  rw [decode, getLsbD_decodeFrom, BitVec.getLsbD_of_ge x (i + w) (Nat.le_add_left w i),
    Bool.xor_false]

theorem encode_injective : Function.Injective (encode (w := w)) :=
  Function.LeftInverse.injective decode_encode

-- ---------------------------------------------------------------------------
-- The next number
-- ---------------------------------------------------------------------------

/-- The bits below `i` are ones, so that the carry reaches it. -/
def Carried (x : BitVec w) (i : Nat) : Prop := ∀ j < i, x.getLsbD j = true

theorem Carried.mono {x : BitVec w} {i j : Nat} (h : Carried x j) (hle : i ≤ j) : Carried x i :=
  fun k hk => h k (Nat.lt_of_lt_of_le hk hle)

instance (x : BitVec w) (i : Nat) : Decidable (Carried x i) :=
  inferInstanceAs (Decidable (∀ j < i, _))

theorem getLsbD_add_one (x : BitVec w) {i : Nat} (hi : i < w) :
    (x + 1#w).getLsbD i = (x.getLsbD i ^^ decide (Carried x i)) := by
  rw [BitVec.getLsbD_add hi]
  cases i with
  | zero =>
    have hone : (1#w).getLsbD 0 = true := by simp [hi]
    have hfirst : Carried x 0 := fun j hj => absurd hj (Nat.not_lt_zero j)
    rw [hone, BitVec.carry_zero, Bool.xor_false, decide_eq_true hfirst]
  | succ i =>
    have hzero : (1#w).getLsbD (i + 1) = false := by simp
    rw [hzero, Bool.false_xor, BitVec.carry_succ_one i x (by omega)]
    refine congrArg _ (decide_eq_decide.mpr ?_)
    exact ⟨fun h j hj => h j (Nat.le_of_lt_succ hj), fun h j hj => h j (Nat.lt_succ_of_le hj)⟩

/-- A bit of the code changes where the carry stops. -/
theorem carried_of_changes (x : BitVec w) {i : Nat}
    (h : (encode x).getLsbD i ≠ (encode (x + 1#w)).getLsbD i) :
    i < w ∧ Carried x i ∧ (i + 1 < w → ¬ Carried x (i + 1)) := by
  have hi : i < w := by
    by_contra hge
    rw [BitVec.getLsbD_of_ge _ _ (Nat.le_of_not_lt hge),
      BitVec.getLsbD_of_ge _ _ (Nat.le_of_not_lt hge)] at h
    exact h rfl
  rw [getLsbD_encode, getLsbD_encode, getLsbD_add_one x hi] at h
  rcases Nat.lt_or_ge (i + 1) w with hnext | hlast
  · rw [getLsbD_add_one x hnext] at h
    by_cases hstop : Carried x (i + 1)
    · simp [hstop, hstop.mono (Nat.le_succ i)] at h
    · refine ⟨hi, ?_, fun _ => hstop⟩
      by_contra hcarried
      simp [hstop, hcarried] at h
  · refine ⟨hi, ?_, fun hnext => absurd hnext (Nat.not_lt.mpr hlast)⟩
    rw [BitVec.getLsbD_of_ge _ _ hlast, BitVec.getLsbD_of_ge _ _ hlast] at h
    by_contra hcarried
    simp [hcarried] at h

theorem changes_once (x : BitVec w) {i j : Nat}
    (hi : (encode x).getLsbD i ≠ (encode (x + 1#w)).getLsbD i)
    (hj : (encode x).getLsbD j ≠ (encode (x + 1#w)).getLsbD j) : i = j := by
  obtain ⟨hiw, hicarried, histop⟩ := carried_of_changes x hi
  obtain ⟨hjw, hjcarried, hjstop⟩ := carried_of_changes x hj
  rcases Nat.lt_trichotomy i j with hlt | heq | hgt
  · exact absurd (hjcarried.mono hlt) (histop (by omega))
  · exact heq
  · exact absurd (hicarried.mono hgt) (hjstop (by omega))

-- ---------------------------------------------------------------------------
-- Half way round
-- ---------------------------------------------------------------------------

/-- Half way round only the highest bit is another. -/
theorem getLsbD_add_half (x : BitVec (w + 1)) {i : Nat} (hi : i < w + 1) :
    (x + BitVec.twoPow (w + 1) w).getLsbD i = (x.getLsbD i ^^ decide (i = w)) := by
  have hcarry : BitVec.carry i x (BitVec.twoPow (w + 1) w) false = false := by
    have hzero : (BitVec.twoPow (w + 1) w).toNat % 2 ^ i = 0 := by
      rw [BitVec.toNat_twoPow, Nat.mod_eq_of_lt (Nat.pow_lt_pow_right Nat.one_lt_two (Nat.lt_succ_self w))]
      exact Nat.mod_eq_zero_of_dvd (Nat.pow_dvd_pow 2 (Nat.le_of_lt_succ hi))
    rw [BitVec.carry, hzero]
    simpa using Nat.mod_lt x.toNat (Nat.two_pow_pos i)
  rw [BitVec.getLsbD_add hi, hcarry, BitVec.getLsbD_twoPow, Bool.xor_false]
  have hw : decide (w < w + 1) = true := decide_eq_true (Nat.lt_succ_self w)
  rw [hw, Bool.true_and]
  refine congrArg _ (decide_eq_decide.mpr ⟨Eq.symm, Eq.symm⟩)

/-- Half way round the two highest bits of the code are others. -/
theorem getLsbD_encode_add_half (x : BitVec (w + 2)) {i : Nat} (hi : i < w + 2) :
    (encode (x + BitVec.twoPow (w + 2) (w + 1))).getLsbD i =
      ((encode x).getLsbD i ^^ decide (w ≤ i)) := by
  rw [getLsbD_encode, getLsbD_encode, getLsbD_add_half x hi]
  rcases Nat.lt_trichotomy i w with hlow | heq | htop
  · rw [getLsbD_add_half x (by omega)]
    simp [show i ≠ w + 1 by omega, show i ≠ w by omega, Nat.not_le.mpr hlow]
  · rw [getLsbD_add_half x (by omega)]
    simp [heq]
  · rw [BitVec.getLsbD_of_ge _ (i + 1) (by omega), BitVec.getLsbD_of_ge x (i + 1) (by omega)]
    simp [show i = w + 1 by omega]

-- ---------------------------------------------------------------------------
-- Sampling
-- ---------------------------------------------------------------------------

/-- What is sampled while `before` changes to `after`: the bits in `mask`
have changed already. -/
def resolve (mask before after : BitVec w) : BitVec w := (before &&& ~~~mask) ||| (after &&& mask)

theorem getLsbD_resolve (mask before after : BitVec w) {i : Nat} (hi : i < w) :
    (resolve mask before after).getLsbD i =
      if mask.getLsbD i then after.getLsbD i else before.getLsbD i := by
  rw [resolve, BitVec.getLsbD_or, BitVec.getLsbD_and, BitVec.getLsbD_and, BitVec.getLsbD_not]
  cases mask.getLsbD i <;> simp [hi]

theorem resolve_same (mask before : BitVec w) : resolve mask before before = before := by
  refine BitVec.eq_of_getLsbD_eq fun i hi => ?_
  rw [getLsbD_resolve _ _ _ hi, ite_self]

/-- Where one bit changes, one of the two is sampled. -/
theorem resolve_eq_or {before after : BitVec w} (mask : BitVec w)
    (h : ∀ i j, before.getLsbD i ≠ after.getLsbD i → before.getLsbD j ≠ after.getLsbD j → i = j) :
    resolve mask before after = before ∨ resolve mask before after = after := by
  by_cases hseen : ∃ i, before.getLsbD i ≠ after.getLsbD i ∧ mask.getLsbD i = true
  · obtain ⟨i, hchanges, hmask⟩ := hseen
    refine .inr (BitVec.eq_of_getLsbD_eq fun j hj => ?_)
    rw [getLsbD_resolve _ _ _ hj]
    by_cases hsame : before.getLsbD j = after.getLsbD j
    · rw [hsame, ite_self]
    · rw [← h i j hchanges hsame, if_pos hmask]
  · refine .inl (BitVec.eq_of_getLsbD_eq fun j hj => ?_)
    rw [getLsbD_resolve _ _ _ hj]
    cases hmask : mask.getLsbD j with
    | false => rfl
    | true =>
      by_contra hne
      exact hseen ⟨j, Ne.symm hne, hmask⟩

theorem resolve_next (mask x : BitVec w) :
    resolve mask (encode x) (encode (x + 1#w)) = encode x ∨
      resolve mask (encode x) (encode (x + 1#w)) = encode (x + 1#w) :=
  resolve_eq_or mask fun _ _ => changes_once x

-- ---------------------------------------------------------------------------
-- A counter in the other clock domain
-- ---------------------------------------------------------------------------

/-- The counter is at `n`, the two registers hold earlier numbers. -/
structure Crossing (code stage0 stage1 : BitVec w) (n n0 n1 : Nat) : Prop where
  code : code = encode (BitVec.ofNat w n)
  stage0 : stage0 = encode (BitVec.ofNat w n0)
  stage1 : stage1 = encode (BitVec.ofNat w n1)
  first : n0 ≤ n
  second : n1 ≤ n0

section Crossing

variable {code stage0 stage1 : BitVec w} {n n0 n1 n' : Nat}

/-- The counting clock. -/
theorem Crossing.counts (h : Crossing code stage0 stage1 n n0 n1) (hn : n ≤ n') :
    Crossing (encode (BitVec.ofNat w n')) stage0 stage1 n' n0 n1 :=
  ⟨rfl, h.stage0, h.stage1, Nat.le_trans h.first hn, h.second⟩

/-- The reading clock. -/
theorem Crossing.reads (h : Crossing code stage0 stage1 n n0 n1) :
    Crossing code code stage0 n n n0 := ⟨h.code, h.code, h.stage0, Nat.le_refl n, h.first⟩

/-- Both at once. -/
theorem Crossing.both (h : Crossing code stage0 stage1 n n0 n1) (hn : n' = n ∨ n' = n + 1)
    (mask : BitVec w) :
    ∃ m, n ≤ m ∧ m ≤ n' ∧ Crossing (encode (BitVec.ofNat w n'))
      (resolve mask code (encode (BitVec.ofNat w n'))) stage0 n' m n0 := by
  rw [h.code]
  rcases hn with rfl | rfl
  · rw [resolve_same]
    exact ⟨n', Nat.le_refl _, Nat.le_refl _, rfl, rfl, h.stage0, Nat.le_refl _, h.first⟩
  · have hnext : BitVec.ofNat w (n + 1) = BitVec.ofNat w n + 1#w := BitVec.ofNat_add ..
    rw [hnext]
    rcases resolve_next mask (BitVec.ofNat w n) with hold | hnew
    · rw [hold]
      exact ⟨n, Nat.le_refl n, Nat.le_succ n, congrArg encode hnext.symm, rfl, h.stage0,
        Nat.le_succ n, h.first⟩
    · rw [hnew]
      exact ⟨n + 1, Nat.le_succ n, Nat.le_refl _, congrArg encode hnext.symm,
        congrArg encode hnext.symm, h.stage0, Nat.le_refl _, Nat.le_succ_of_le h.first⟩

end Crossing

end GrayCode
