import Mathlib.Data.List.Basic

/-!
# Cyclic redundancy checks

The register of a CRC takes a message bit by bit, at its upper end, and a
polynomial with a constant term. A step is linear in exclusive or, register
and bit together, and undoes nothing: two registers that take the same bits
stay apart. A message is accepted if its last bits, as many as the register
has, complement the register of those before, whatever those are; of two
messages accepted that differ only in a stretch no longer than the register,
the stretches are the same.
-/

namespace AvbAes3.Crc

-- ---------------------------------------------------------------------------
-- The register
-- ---------------------------------------------------------------------------

/-- A bit enters: the register moves up, and `poly` is added where the bit
that leaves it is not the one that enters. -/
def next (poly reg : BitVec w) (bit : Bool) : BitVec w :=
  (reg <<< 1) ^^^ if reg.msb ^^ bit then poly else 0#w

def feed (poly reg : BitVec w) (bits : List Bool) : BitVec w := bits.foldl (next poly) reg

/-- The bits of a number, from the lowest. -/
def lsbFirst (x : BitVec n) : List Bool := (List.range n).map x.getLsbD

/-- Bits at the upper end of a register, the first one highest. -/
def top : List Bool → BitVec w
  | [] => 0#w
  | b :: bits => (if b then BitVec.twoPow w (w - 1) else 0#w) ^^^ (top bits >>> 1)

@[simp] theorem length_lsbFirst (x : BitVec n) : (lsbFirst x).length = n := by simp [lsbFirst]

theorem lsbFirst_xor (x y : BitVec n) :
    lsbFirst (x ^^^ y) = List.zipWith xor (lsbFirst x) (lsbFirst y) := by
  refine List.ext_getElem (by simp) fun i _ _ => ?_
  simp [lsbFirst]

theorem lsbFirst_append (x : BitVec m) (y : BitVec n) :
    lsbFirst (x ++ y) = lsbFirst y ++ lsbFirst x := by
  refine List.ext_getElem (by simp [Nat.add_comm]) fun i hi _ => ?_
  rw [List.getElem_append]
  simp only [lsbFirst, List.getElem_map, List.getElem_range, BitVec.getLsbD_append,
    List.length_map, List.length_range]
  split <;> rfl

@[simp] theorem feed_nil (poly reg : BitVec w) : feed poly reg [] = reg := rfl

@[simp] theorem feed_cons (poly reg : BitVec w) (bit : Bool) (bits : List Bool) :
    feed poly reg (bit :: bits) = feed poly (next poly reg bit) bits := rfl

theorem feed_append (poly reg : BitVec w) (first second : List Bool) :
    feed poly reg (first ++ second) = feed poly (feed poly reg first) second :=
  List.foldl_append

-- ---------------------------------------------------------------------------
-- Linearity
-- ---------------------------------------------------------------------------

variable {poly a b : BitVec w}

theorem next_xor (x y : Bool) :
    next poly (a ^^^ b) (x ^^ y) = next poly a x ^^^ next poly b y := by
  have hadd : ∀ p q : Bool, (if p ^^ q then poly else 0#w) =
      (if p then poly else 0#w) ^^^ if q then poly else 0#w := by
    intro p q
    cases p <;> cases q <;> simp
  have hbits : ((a ^^^ b).msb ^^ (x ^^ y)) = ((a.msb ^^ x) ^^ (b.msb ^^ y)) := by
    rw [BitVec.msb_xor]
    cases a.msb <;> cases b.msb <;> cases x <;> cases y <;> rfl
  rw [next, hbits, hadd, BitVec.shiftLeft_xor_distrib, next, next]
  ac_rfl

theorem feed_xor {xs ys : List Bool} (hlen : xs.length = ys.length) :
    feed poly (a ^^^ b) (List.zipWith xor xs ys) = feed poly a xs ^^^ feed poly b ys := by
  induction xs generalizing ys a b with
  | nil =>
    cases List.length_eq_zero_iff.mp hlen.symm
    rfl
  | cons x xs ih =>
    cases ys with
    | nil => cases hlen
    | cons y ys =>
      rw [List.zipWith_cons_cons, feed_cons, next_xor, ih (Nat.succ.inj hlen)]
      rfl

section ConstantTerm
variable (hpoly : poly.getLsbD 0 = true) (hw : 0 < w)
include hpoly hw

theorem next_injective (bit : Bool) (h : next poly a bit = next poly b bit) : a = b := by
  -- the constant term shows which bit has left
  have hmsb : a.msb = b.msb := by
    have hlow := congrArg (BitVec.getLsbD · 0) h
    simp only [next, BitVec.getLsbD_xor, BitVec.getLsbD_shiftLeft] at hlow
    cases ha : a.msb <;> cases hb : b.msb <;> cases bit <;> simp_all
  have hshift : a <<< 1 = b <<< 1 := by
    rw [next, next, hmsb] at h
    exact BitVec.xor_left_inj _ |>.mp h
  refine BitVec.eq_of_getLsbD_eq fun i hi => ?_
  rcases Nat.lt_or_ge (i + 1) w with hlt | hge
  · have hbit := congrArg (BitVec.getLsbD · (i + 1)) hshift
    simp only [BitVec.getLsbD_shiftLeft, hlt] at hbit
    simpa using hbit
  · have hi : i = w - 1 := by omega
    rw [hi, ← BitVec.msb_eq_getLsbD_last, ← BitVec.msb_eq_getLsbD_last, hmsb]

theorem feed_injective {bits : List Bool} (h : feed poly a bits = feed poly b bits) : a = b := by
  induction bits generalizing a b with
  | nil => exact h
  | cons bit bits ih => exact next_injective hpoly hw bit (ih h)

end ConstantTerm

-- ---------------------------------------------------------------------------
-- Bits at the upper end
-- ---------------------------------------------------------------------------

theorem getLsbD_top {bits : List Bool} {i : Nat} (h : i + bits.length < w) :
    (top bits : BitVec w).getLsbD i = false := by
  induction bits generalizing i with
  | nil => simp [top]
  | cons b bits ih =>
    rw [List.length_cons] at h
    have hne : ¬ w - 1 = i := by omega
    have hnext : (top bits : BitVec w).getLsbD (i + 1) = false := ih (by omega)
    simp only [top, BitVec.getLsbD_xor, BitVec.getLsbD_ushiftRight, Nat.add_comm 1 i, hnext]
    cases b <;> simp [BitVec.getLsbD_twoPow, hne]

/-- The highest bit is the first, and the others are those after it. -/
theorem msb_top (b : Bool) (bits : List Bool) (hw : 0 < w) :
    (top (b :: bits) : BitVec w).msb = b := by
  have hout : 1 + (w - 1) = w := by omega
  have hlast : (top bits >>> 1 : BitVec w).msb = false := by
    rw [BitVec.msb_eq_getLsbD_last, BitVec.getLsbD_ushiftRight, hout,
      BitVec.getLsbD_of_ge _ _ (Nat.le_refl w)]
  rw [top, BitVec.msb_xor, hlast, Bool.xor_false]
  cases b with
  | false => simp
  | true =>
    rw [if_pos rfl, BitVec.msb_eq_getLsbD_last, BitVec.getLsbD_twoPow]
    simp only [decide_true, Bool.and_true, decide_eq_true_iff]
    omega

theorem next_top {bit : Bool} {bits : List Bool} (hlen : bits.length < w) :
    next poly (top (bit :: bits)) bit = top bits := by
  have hmsb : (top (bit :: bits) : BitVec w).msb = bit := msb_top bit bits (by omega)
  rw [next, hmsb, Bool.xor_self]
  refine BitVec.eq_of_getLsbD_eq fun i hi => ?_
  simp only [top, Bool.false_eq_true, if_false, BitVec.xor_zero, BitVec.getLsbD_shiftLeft,
    BitVec.getLsbD_xor, BitVec.getLsbD_ushiftRight]
  cases i with
  | zero =>
    have hlow : (top bits : BitVec w).getLsbD 0 = false := getLsbD_top (by omega)
    rw [hlow]
    simp
  | succ i =>
    have hne : ¬ w - 1 = i := by omega
    cases bit <;> simp [BitVec.getLsbD_twoPow, hne, hi, Nat.add_comm 1 i]

theorem getMsbD_top {bits : List Bool} {i : Nat} (hi : i < w) :
    (top bits : BitVec w).getMsbD i = bits.getD i false := by
  induction bits generalizing i with
  | nil => simp [top]
  | cons b bits ih =>
    cases i with
    | zero => exact msb_top b bits hi
    | succ i =>
      have hnext : (top bits : BitVec w).getMsbD i = bits.getD i false := ih (by omega)
      have hone : (if b then BitVec.twoPow w (w - 1) else 0#w).getMsbD (i + 1) = false := by
        cases b with
        | false => simp
        | true =>
          rw [if_pos rfl, BitVec.getMsbD_eq_getLsbD, BitVec.getLsbD_twoPow]
          simp
          omega
      rw [top, BitVec.getMsbD_xor, hone, BitVec.getMsbD_ushiftRight]
      simp [hi, hnext]

theorem top_lsbFirst (x : BitVec w) : top (lsbFirst x) = x.reverse := by
  refine BitVec.eq_of_getMsbD_eq fun i hi => ?_
  rw [getMsbD_top hi, BitVec.getMsbD_reverse]
  simp [lsbFirst, List.getD_eq_getElem?_getD, hi]

/-- Bits that enter are as good as there from the beginning. -/
theorem feed_eq {reg : BitVec w} {bits : List Bool} (hlen : bits.length ≤ w) :
    feed poly reg bits = feed poly (reg ^^^ top bits) (List.replicate bits.length false) := by
  induction bits generalizing reg with
  | nil => simp [top]
  | cons bit bits ih =>
    rw [List.length_cons] at hlen
    have hnext : next poly (reg ^^^ top (bit :: bits)) false = next poly reg bit ^^^ top bits := by
      have htop : next poly (top (bit :: bits)) bit = top bits := next_top (by omega)
      rw [← htop, ← next_xor, Bool.xor_self]
    rw [feed_cons, ih (by omega), List.length_cons, List.replicate_succ, feed_cons, hnext]

theorem top_injective {first second : List Bool} (hlen : first.length = second.length)
    (hle : first.length ≤ w) (h : (top first : BitVec w) = top second) : first = second := by
  induction first generalizing second with
  | nil => exact (List.length_eq_zero_iff.mp hlen.symm).symm
  | cons b rest ih =>
    cases second with
    | nil => cases hlen
    | cons b' rest' =>
      rw [List.length_cons] at hle hlen
      rw [List.length_cons] at hlen
      have hb : b = b' := by
        have hfirst : (top (b :: rest) : BitVec w).msb = b := msb_top b rest (by omega)
        rw [← hfirst, h, msb_top b' rest' (by omega)]
      subst hb
      have hrest : (top rest : BitVec w) = top rest' := by
        have hnext : next 0#w (top (b :: rest)) b = top rest := next_top (by omega)
        rw [← hnext, h, next_top (by omega)]
      rw [ih (by omega) (by omega) hrest]

-- ---------------------------------------------------------------------------
-- The messages accepted
-- ---------------------------------------------------------------------------

/-- The register after every message accepted. -/
def residue (poly : BitVec w) : BitVec w :=
  feed poly (BitVec.allOnes w) (List.replicate w false)

def Accepted (poly init : BitVec w) (message : List Bool) : Prop :=
  feed poly init message = residue poly

section ConstantTerm
variable (hpoly : poly.getLsbD 0 = true) (hw : 0 < w)
include hpoly hw

/-- The last bits of a message accepted complement the register. -/
theorem accepted_append {init : BitVec w} {data check : List Bool} (hcheck : check.length = w) :
    Accepted poly init (data ++ check) ↔ top check = ~~~ feed poly init data := by
  rw [Accepted, feed_append, feed_eq (Nat.le_of_eq hcheck), hcheck, residue]
  constructor
  · intro h
    have hones := feed_injective hpoly hw h
    rw [← BitVec.xor_allOnes, ← hones, ← BitVec.xor_assoc, BitVec.xor_self, BitVec.zero_xor]
  · intro h
    rw [h]
    congr 1
    ext i hi
    simp

/-- What is accepted does not differ in a short stretch only. -/
theorem burst {init : BitVec w} {before stretch other after : List Bool}
    (hlen : stretch.length = other.length) (hle : stretch.length ≤ w)
    (h : Accepted poly init (before ++ (stretch ++ after)))
    (h' : Accepted poly init (before ++ (other ++ after))) : stretch = other := by
  have hsame := h.trans h'.symm
  simp only [feed_append] at hsame
  have hstretch := feed_injective hpoly hw hsame
  have htop := (feed_eq hle).symm.trans (hstretch.trans (feed_eq (hlen ▸ hle)))
  rw [hlen] at htop
  have htop := feed_injective hpoly hw htop
  exact top_injective hlen hle ((BitVec.xor_right_inj _).mp htop)

end ConstantTerm

-- ---------------------------------------------------------------------------
-- Networks of exclusive or
-- ---------------------------------------------------------------------------

/-- The value at an exclusive or is the exclusive or of the values. -/
def Linear (f : BitVec n → BitVec m) : Prop := ∀ x y, f (x ^^^ y) = f x ^^^ f y

theorem Linear.zero {f : BitVec n → BitVec m} (h : Linear f) : f 0#n = 0#m := by
  have hzero := h 0#n 0#n
  rw [BitVec.xor_self, BitVec.xor_self] at hzero
  exact hzero

/-- Linear functions that agree on the numbers with one bit agree. -/
theorem Linear.ext {f g : BitVec n → BitVec m} (hf : Linear f) (hg : Linear g)
    (h : ∀ i < n, f (BitVec.twoPow n i) = g (BitVec.twoPow n i)) : f = g := by
  -- by the highest bit of a number
  have hbelow : ∀ k ≤ n, ∀ x : BitVec n, (∀ i, k ≤ i → x.getLsbD i = false) → f x = g x := by
    intro k
    induction k with
    | zero =>
      intro _ x hx
      have hzero : x = 0#n := BitVec.eq_of_getLsbD_eq fun i _ => by simp [hx i (Nat.zero_le i)]
      rw [hzero, hf.zero, hg.zero]
    | succ k ih =>
      intro hk x hx
      cases hbit : x.getLsbD k with
      | false =>
        refine ih (by omega) x fun i hi => ?_
        rcases Nat.eq_or_lt_of_le hi with rfl | hlt
        · exact hbit
        · exact hx i hlt
      | true =>
        have hsplit : x = (x ^^^ BitVec.twoPow n k) ^^^ BitVec.twoPow n k := by
          rw [BitVec.xor_assoc, BitVec.xor_self, BitVec.xor_zero]
        rw [hsplit, hf, hg, h k (by omega)]
        congr 1
        refine ih (by omega) _ fun i hi => ?_
        rw [BitVec.getLsbD_xor, BitVec.getLsbD_twoPow]
        rcases Nat.eq_or_lt_of_le hi with rfl | hlt
        · simp [hbit]
          omega
        · simp [hx i hlt, Nat.ne_of_lt hlt]
  exact funext fun x => hbelow n (Nat.le_refl n) x fun i hi => BitVec.getLsbD_of_ge x i hi

end AvbAes3.Crc
