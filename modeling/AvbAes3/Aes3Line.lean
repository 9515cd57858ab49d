import Mathlib.Tactic

/-!
# The AES3 line

A subframe takes 64 cells: the eight of its preamble, and two for each of 28
data bits. Biphase mark puts a transition at the first cell of every bit and
one at the second cell of a one. The level a subframe begins after inverts
all of it.
-/

namespace AvbAes3.Aes3Line

inductive Preamble
  | z | x | y
  deriving DecidableEq

/-- `PREAMBLE_Z`, `PREAMBLE_X`, `PREAMBLE_Y`: the levels after a low cell. -/
def Preamble.pattern : Preamble → BitVec 8
  | .z => 0b11101000#8
  | .x => 0b11100010#8
  | .y => 0b11100100#8

/-- The exclusive or of the first bits. -/
def xorUpTo (bits : Nat → Bool) : Nat → Bool
  | 0 => false
  | n + 1 => xorUpTo bits n ^^ bits n

/-- The reduction `^x` -/
def reduceXor {w : Nat} (x : BitVec w) : Bool := xorUpTo x.getLsbD w

/-- `parity_bit` -/
def parityBit (audio : BitVec 24) (cs : Bool) : Bool :=
  reduceXor (audio ++ 0#1 ++ 0#1 ++ BitVec.ofBool cs)

/-- `data_bit_current`: audio from its lowest bit, V, U, C and P. -/
def dataBit (audio : BitVec 24) (cs : Bool) (bitIndex : Nat) : Bool :=
  if bitIndex = 24 then false
  else if bitIndex = 25 then false
  else if bitIndex = 26 then cs
  else if bitIndex = 27 then parityBit audio cs
  else audio.getLsbD bitIndex

/-- The level at the end of so many bits. -/
def levelAfter (start : Bool) (bits : Nat → Bool) : Nat → Bool
  | 0 => start
  | i + 1 => !levelAfter start bits i ^^ bits i

/-- The level of a cell of a subframe. -/
def cell (p : Preamble) (start : Bool) (bits : Nat → Bool) (k : Nat) : Bool :=
  if k < 8 then start ^^ p.pattern.getLsbD (7 - k)
  else if k % 2 = 0 then !levelAfter start bits ((k - 8) / 2)
  else levelAfter start bits ((k - 8) / 2 + 1)

-- ---------------------------------------------------------------------------
-- The cells
-- ---------------------------------------------------------------------------

variable {p : Preamble} {start : Bool} {bits bits' : Nat → Bool} {i k n m : Nat}

theorem cell_first (p : Preamble) (start : Bool) (bits : Nat → Bool) (i : Nat) :
    cell p start bits (8 + 2 * i) = !levelAfter start bits i := by
  rw [cell, if_neg (by omega), if_pos (by omega), show (8 + 2 * i - 8) / 2 = i by omega]

theorem cell_second (p : Preamble) (start : Bool) (bits : Nat → Bool) (i : Nat) :
    cell p start bits (9 + 2 * i) = (!levelAfter start bits i ^^ bits i) := by
  rw [cell, if_neg (by omega), if_neg (by omega), show (9 + 2 * i - 8) / 2 + 1 = i + 1 by omega]
  rfl

/-- The second cell of a bit differs from its first where the bit is one. -/
theorem cells_bit (p : Preamble) (start : Bool) (bits : Nat → Bool) (i : Nat) :
    (cell p start bits (9 + 2 * i) != cell p start bits (8 + 2 * i)) = bits i := by
  rw [cell_first, cell_second]
  cases levelAfter start bits i <;> cases bits i <;> rfl

/-- Every preamble ends at the level it began after. -/
theorem cell_seven (p : Preamble) (start : Bool) (bits : Nat → Bool) :
    cell p start bits 7 = start := by
  cases p <;> cases start <;> rfl

theorem levelAfter_congr (h : ∀ j < i, bits j = bits' j) :
    levelAfter start bits i = levelAfter start bits' i := by
  induction i with
  | zero => rfl
  | succ i ih =>
    have hbefore := ih (fun j hj => h j (Nat.lt_succ_of_lt hj))
    rw [levelAfter, levelAfter, hbefore, h i (Nat.lt_succ_self i)]

/-- A cell depends on the bits whose second cell has come. -/
theorem cell_congr (h : ∀ j, 9 + 2 * j ≤ k → bits j = bits' j) :
    cell p start bits k = cell p start bits' k := by
  unfold cell
  split
  · rfl
  · split
    · rw [levelAfter_congr (fun j hj => h j (by omega))]
    · rw [levelAfter_congr (fun j hj => h j (by omega))]

-- ---------------------------------------------------------------------------
-- Parity
-- ---------------------------------------------------------------------------

theorem xorUpTo_congr (h : ∀ i < n, bits i = bits' i) : xorUpTo bits n = xorUpTo bits' n := by
  induction n with
  | zero => rfl
  | succ n ih =>
    have hbefore := ih (fun i hi => h i (Nat.lt_succ_of_lt hi))
    rw [xorUpTo, xorUpTo, hbefore, h n (Nat.lt_succ_self n)]

theorem xorUpTo_add (bits : Nat → Bool) (n m : Nat) :
    xorUpTo bits (n + m) = (xorUpTo bits n ^^ xorUpTo (fun i => bits (n + i)) m) := by
  induction m with
  | zero => simp [xorUpTo]
  | succ m ih => rw [← Nat.add_assoc, xorUpTo, xorUpTo, ih, Bool.xor_assoc]

theorem parityBit_eq (audio : BitVec 24) (cs : Bool) :
    parityBit audio cs = (cs ^^ reduceXor audio) := by
  have hlow : xorUpTo (audio ++ 0#1 ++ 0#1 ++ BitVec.ofBool cs).getLsbD 3 = cs := by
    simp only [xorUpTo, BitVec.getLsbD_append]
    cases cs <;> rfl
  have hhigh : xorUpTo (fun i => (audio ++ 0#1 ++ 0#1 ++ BitVec.ofBool cs).getLsbD (3 + i)) 24
      = reduceXor audio := by
    refine xorUpTo_congr (fun i hi => ?_)
    have h1 : ¬3 + i < 1 := by omega
    have h2 : ¬3 + i - 1 < 1 := by omega
    have h3 : ¬3 + i - 1 - 1 < 1 := by omega
    have h4 : 3 + i - 1 - 1 - 1 = i := by omega
    simp only [BitVec.getLsbD_append, h1, h2, h3, h4, if_false]
  calc parityBit audio cs
      = xorUpTo (audio ++ 0#1 ++ 0#1 ++ BitVec.ofBool cs).getLsbD (3 + 24) := rfl
    _ = (cs ^^ reduceXor audio) := by rw [xorUpTo_add, hlow, hhigh]

theorem dataBit_audio (audio : BitVec 24) (cs : Bool) (hi : i < 24) :
    dataBit audio cs i = audio.getLsbD i := by
  unfold dataBit
  rw [if_neg (by omega), if_neg (by omega), if_neg (by omega), if_neg (by omega)]

/-- Bits 4 to 31 of a subframe hold an even number of ones. -/
theorem dataBit_even (audio : BitVec 24) (cs : Bool) : xorUpTo (dataBit audio cs) 28 = false := by
  have haudio : xorUpTo (dataBit audio cs) 24 = reduceXor audio :=
    xorUpTo_congr (fun i hi => dataBit_audio audio cs hi)
  have hrest : xorUpTo (dataBit audio cs) 28
      = (xorUpTo (dataBit audio cs) 24 ^^ false ^^ false ^^ cs ^^ parityBit audio cs) := rfl
  rw [hrest, haudio, parityBit_eq]
  cases cs <;> cases reduceXor audio <;> rfl

end AvbAes3.Aes3Line
