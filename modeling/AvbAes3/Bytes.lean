import Mathlib.Tactic

/-!
# Bytes, buffers and byte order

A `Buffer` is memory as a pointer into it sees it: the byte at each offset,
with nothing that marks where the received or written part ends. The length
travels beside it, as in the firmware, so a read past the length is a read
of whatever the memory holds there.
-/

namespace AvbAes3

abbrev Buffer := Nat → UInt8

abbrev MacAddr := Vector UInt8 6
abbrev StreamId := Vector UInt8 8
abbrev EntityId := Vector UInt8 8
abbrev ClockId := Vector UInt8 8

def sixBytes (b0 b1 b2 b3 b4 b5 : UInt8) : MacAddr := #v[b0, b1, b2, b3, b4, b5]

def eightBytes (b0 b1 b2 b3 b4 b5 b6 b7 : UInt8) : Vector UInt8 8 := #v[b0, b1, b2, b3, b4, b5, b6, b7]

def byteAt (v : Vector UInt8 n) (i : Nat) : UInt8 := (v[i]?).getD 0

/-- main.c's `mac_addr`. -/
def boardMac : MacAddr := sixBytes 0x02 0x00 0x00 0x00 0x00 0x42

def zeroBytes (n : Nat) : Vector UInt8 n := Vector.replicate n 0

def zeros (n : Nat) : List UInt8 := List.replicate n 0

/-- The pointer `n` bytes further on. -/
def Buffer.offset (b : Buffer) (n : Nat) : Buffer := fun i => b (n + i)

/-- The first `n` bytes, as a copy. -/
def Buffer.bytes (b : Buffer) (n : Nat) : Vector UInt8 n := Vector.ofFn fun i => b i

/-- What the MAC is handed: the first `n` bytes. -/
def Buffer.take (b : Buffer) (n : Nat) : List UInt8 := (List.range n).map b

/-- Write a byte. -/
def Buffer.store (b : Buffer) (at_ : Nat) (v : UInt8) : Buffer :=
  fun i => if i = at_ then v else b i

/-- `memcpy(b + at_, bytes, length)`. -/
def Buffer.copy (b : Buffer) (at_ : Nat) (bytes : List UInt8) : Buffer :=
  fun i => if at_ ≤ i then (bytes[i - at_]?).getD (b i) else b i

/-- A buffer that starts with these bytes, over memory that reads zero. -/
def Buffer.ofList (bytes : List UInt8) : Buffer := fun i => (bytes[i]?).getD 0

@[simp] theorem Buffer.offset_apply (b : Buffer) (n i : Nat) : b.offset n i = b (n + i) := rfl

theorem Buffer.offset_offset (b : Buffer) (i j : Nat) : (b.offset i).offset j = b.offset (i + j) :=
  funext fun k => congrArg b (Nat.add_assoc i j k).symm

@[simp] theorem Buffer.length_take (b : Buffer) (n : Nat) : (b.take n).length = n := by
  simp [Buffer.take]

theorem Buffer.take_copy (b : Buffer) (bytes : List UInt8) :
    (b.copy 0 bytes).take bytes.length = bytes := by
  refine List.ext_getElem (by simp) fun i _ hi => ?_
  simp [Buffer.take, Buffer.copy, hi]

theorem Buffer.copy_outside {b : Buffer} {at_ i : Nat} {bytes : List UInt8}
    (h : i < at_ ∨ at_ + bytes.length ≤ i) : b.copy at_ bytes i = b i := by
  rw [Buffer.copy]
  split
  · rw [List.getElem?_eq_none (by omega)]
    rfl
  · rfl

theorem Buffer.copy_take {b src : Buffer} {at_ n i : Nat} (hlow : at_ ≤ i)
    (hhigh : i < at_ + n) : b.copy at_ (src.take n) i = src (i - at_) := by
  rw [Buffer.copy, if_pos hlow, Buffer.take, List.getElem?_map, List.getElem?_range (by omega)]
  rfl

/-- The bytes from `at_` on. -/
def Buffer.Holds (b : Buffer) (at_ : Nat) (bytes : List UInt8) : Prop :=
  ∀ i (h : i < bytes.length), b (at_ + i) = bytes[i]

theorem Buffer.holds_append {b : Buffer} {at_ : Nat} {first second : List UInt8} :
    b.Holds at_ (first ++ second) ↔ b.Holds at_ first ∧ b.Holds (at_ + first.length) second := by
  constructor
  · refine fun h => ⟨fun i hi => ?_, fun i hi => ?_⟩
    · rw [h i (by rw [List.length_append]; omega), List.getElem_append_left hi]
    · have := h (first.length + i) (by rw [List.length_append]; omega)
      rw [List.getElem_append_right (by omega)] at this
      simpa [Nat.add_assoc] using this
  · rintro ⟨hfirst, hsecond⟩ i hi
    by_cases hlt : i < first.length
    · rw [List.getElem_append_left hlt]
      exact hfirst i hlt
    · rw [List.getElem_append_right (by omega)]
      have := hsecond (i - first.length) (by rw [List.length_append] at hi; omega)
      rwa [Nat.add_assoc, Nat.add_sub_cancel' (by omega)] at this

theorem Buffer.holds_ofList (bytes : List UInt8) : (Buffer.ofList bytes).Holds 0 bytes := by
  intro i hi
  simp [Buffer.ofList, hi]

theorem Buffer.holds_copy (b : Buffer) (bytes : List UInt8) : (b.copy 0 bytes).Holds 0 bytes := by
  intro i hi
  simp [Buffer.copy, hi]

theorem Buffer.holds_offset {b : Buffer} {n at_ : Nat} {bytes : List UInt8} :
    (b.offset n).Holds at_ bytes ↔ b.Holds (n + at_) bytes := by
  simp only [Buffer.Holds, Buffer.offset, Nat.add_assoc]

theorem Buffer.Holds.bytes {b : Buffer} {n : Nat} {v : Vector UInt8 n} (h : b.Holds 0 v.toList) :
    b.bytes n = v := by
  refine Vector.ext fun i hi => ?_
  have := h i (by simpa using hi)
  simpa [Buffer.bytes] using this

/-- The byte behind two addresses and an ethertype. -/
theorem Buffer.ofList_payload (dst src : MacAddr) (ethertype : List UInt8)
    (h : ethertype.length = 2) (b : UInt8) (rest : List UInt8) :
    Buffer.ofList (dst.toList ++ (src.toList ++ (ethertype ++ b :: rest))) 14 = b := by
  have hholds := Buffer.holds_ofList (dst.toList ++ (src.toList ++ (ethertype ++ b :: rest)))
  rw [Buffer.holds_append, Buffer.holds_append, Buffer.holds_append, Vector.length_toList,
    Vector.length_toList, h] at hholds
  exact hholds.2.2.2 0 (Nat.zero_lt_succ _)

theorem Buffer.take_succ (b : Buffer) (n : Nat) : b.take (n + 1) = b.take n ++ [b n] := by
  simp [Buffer.take, List.range_succ]

-- ---------------------------------------------------------------------------
-- Network byte order is big-endian
-- ---------------------------------------------------------------------------

def getBe16 (p : Buffer) : UInt16 := (p 0).toUInt16 <<< 8 ||| (p 1).toUInt16

def getBe32 (p : Buffer) : UInt32 :=
  (p 0).toUInt32 <<< 24 ||| (p 1).toUInt32 <<< 16 ||| (p 2).toUInt32 <<< 8 ||| (p 3).toUInt32

def getBe48 (p : Buffer) : UInt64 :=
  (p 0).toUInt64 <<< 40 ||| (p 1).toUInt64 <<< 32 ||| (p 2).toUInt64 <<< 24 |||
    (p 3).toUInt64 <<< 16 ||| (p 4).toUInt64 <<< 8 ||| (p 5).toUInt64

def getBe64 (p : Buffer) : UInt64 :=
  (getBe32 p).toUInt64 <<< 32 ||| (getBe32 (p.offset 4)).toUInt64

def getBe64Signed (p : Buffer) : Int64 := (getBe64 p).toInt64

def be16 (v : UInt16) : List UInt8 := [(v >>> 8).toUInt8, v.toUInt8]

def be32 (v : UInt32) : List UInt8 :=
  [(v >>> 24).toUInt8, (v >>> 16).toUInt8, (v >>> 8).toUInt8, v.toUInt8]

def be48 (v : UInt64) : List UInt8 :=
  [(v >>> 40).toUInt8, (v >>> 32).toUInt8, (v >>> 24).toUInt8, (v >>> 16).toUInt8,
    (v >>> 8).toUInt8, v.toUInt8]

theorem Buffer.bytes_congr {b b' : Buffer} {n : Nat} (h : ∀ i < n, b i = b' i) :
    b.bytes n = b'.bytes n :=
  Vector.ext fun i hi => by simp only [Buffer.bytes, Vector.getElem_ofFn, h i hi]

theorem Buffer.take_congr {b b' : Buffer} {n : Nat} (h : ∀ i < n, b i = b' i) :
    b.take n = b'.take n :=
  List.map_congr_left fun i hi => h i (List.mem_range.mp hi)

theorem getBe16_congr {b b' : Buffer} (h : ∀ i < 2, b i = b' i) : getBe16 b = getBe16 b' := by
  rw [getBe16, getBe16, h 0 (by decide), h 1 (by decide)]

theorem getBe32_congr {b b' : Buffer} (h : ∀ i < 4, b i = b' i) : getBe32 b = getBe32 b' := by
  rw [getBe32, getBe32, h 0 (by decide), h 1 (by decide), h 2 (by decide), h 3 (by decide)]

theorem getBe48_congr {b b' : Buffer} (h : ∀ i < 6, b i = b' i) : getBe48 b = getBe48 b' := by
  rw [getBe48, getBe48, h 0 (by decide), h 1 (by decide), h 2 (by decide), h 3 (by decide),
    h 4 (by decide), h 5 (by decide)]

theorem getBe64_congr {b b' : Buffer} (h : ∀ i < 8, b i = b' i) : getBe64 b = getBe64 b' := by
  have hhigh : getBe32 b = getBe32 b' := getBe32_congr fun i hi => h i (by omega)
  have hlow : getBe32 (b.offset 4) = getBe32 (b'.offset 4) :=
    getBe32_congr fun i hi => h (4 + i) (by omega)
  rw [getBe64, getBe64, hhigh, hlow]

theorem getBe16_eq {p : Buffer} {v : UInt16} (hi : p 0 = (v >>> 8).toUInt8) (lo : p 1 = v.toUInt8) :
    getBe16 p = v := by
  have hv := v.toNat_lt
  rw [getBe16, hi, lo]
  apply UInt16.toNat_inj.mp
  simp only [UInt16.toNat_or, UInt16.toNat_shiftLeft, UInt8.toNat_toUInt16, UInt16.toNat_toUInt8,
    UInt16.toNat_shiftRight, UInt16.reduceToNat, Nat.reduceMod, Nat.shiftRight_eq_div_pow]
  rw [Nat.mod_eq_of_lt (by rw [Nat.shiftLeft_eq]; omega),
    ← Nat.shiftLeft_add_eq_or_of_lt (by omega), Nat.shiftLeft_eq]
  omega

theorem Buffer.Holds.getBe32 {b : Buffer} {at_ : Nat} {v : UInt32} (h : b.Holds at_ (be32 v)) :
    AvbAes3.getBe32 (b.offset at_) = v := by
  have hbyte (i : Nat) (hi : i < 4) := h i hi
  simp only [AvbAes3.getBe32, Buffer.offset_apply, hbyte 0 (by decide), hbyte 1 (by decide),
    hbyte 2 (by decide), hbyte 3 (by decide)]
  simp only [be32, List.getElem_cons_zero, List.getElem_cons_succ]
  apply UInt32.toBitVec_inj.mp
  ext i hi
  simp [-UInt32.toUInt32_toUInt8]
  interval_cases i <;> simp

theorem Buffer.Holds.getBe48 {b : Buffer} {at_ : Nat} {v : UInt64} (h : b.Holds at_ (be48 v))
    (hv : v.toNat < 2 ^ 48) : AvbAes3.getBe48 (b.offset at_) = v := by
  have hbyte (i : Nat) (hi : i < 6) := h i hi
  simp only [AvbAes3.getBe48, Buffer.offset_apply, hbyte 0 (by decide), hbyte 1 (by decide),
    hbyte 2 (by decide), hbyte 3 (by decide), hbyte 4 (by decide), hbyte 5 (by decide)]
  simp only [be48, List.getElem_cons_zero, List.getElem_cons_succ]
  apply UInt64.toBitVec_inj.mp
  ext i hi
  by_cases hlow : i < 48
  · simp [-UInt64.toUInt64_toUInt8]
    interval_cases i <;> simp
  · have hhigh : v.toNat.testBit i = false :=
      Nat.testBit_lt_two_pow (Nat.lt_of_lt_of_le hv (Nat.pow_le_pow_right (by decide) (by omega)))
    simp [-UInt64.toUInt64_toUInt8]
    interval_cases i <;> simp [hhigh, BitVec.getElem_eq_testBit_toNat]

theorem be16_ofBytes (a b : UInt8) : be16 (a.toUInt32 <<< 8 ||| b.toUInt32).toUInt16 = [a, b] := by
  simp only [be16, List.cons.injEq, and_true]
  refine ⟨?_, ?_⟩
  all_goals
    apply UInt8.toBitVec_inj.mp
    ext i hi
    simp <;> interval_cases i <;> simp

theorem be32_ofBytes (a b c d : UInt8) :
    be32 (a.toUInt32 <<< 24 ||| b.toUInt32 <<< 16 ||| c.toUInt32 <<< 8 ||| d.toUInt32) =
      [a, b, c, d] := by
  simp only [be32, List.cons.injEq, and_true]
  refine ⟨?_, ?_, ?_, ?_⟩
  all_goals
    apply UInt8.toBitVec_inj.mp
    ext i hi
    simp <;> interval_cases i <;> simp

theorem toList_six (v : Vector UInt8 6) :
    v.toList = [byteAt v 0, byteAt v 1, byteAt v 2, byteAt v 3, byteAt v 4, byteAt v 5] := by
  obtain ⟨⟨bytes⟩, hsize⟩ := v
  match bytes, hsize with
  | [_, _, _, _, _, _], _ => rfl

theorem toList_eight (v : Vector UInt8 8) :
    v.toList = [byteAt v 0, byteAt v 1, byteAt v 2, byteAt v 3, byteAt v 4, byteAt v 5, byteAt v 6,
      byteAt v 7] := by
  obtain ⟨⟨bytes⟩, hsize⟩ := v
  match bytes, hsize with
  | [_, _, _, _, _, _, _, _], _ => rfl

end AvbAes3
