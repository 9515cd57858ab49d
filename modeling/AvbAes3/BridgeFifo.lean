import AvbAes3.Lib.GrayCode
import AvbAes3.Lib.Machine

/-!
# bridge_fifo

The FIFO of 1024 words that takes the USB samples from the clock of the PHY
to the system clock. Each side keeps its pointer in binary, shows the other
its Gray code, and sees the other's two edges late. Nothing relates the two
clocks; where their edges fall together, each bit of a code that changes is
sampled before or after the change.

`bridge_conserves`: what is read is what was written, in order, and the FIFO
never holds more than it has room for.
-/

namespace AvbAes3.BridgeFifo

open GrayCode

abbrev Word := BitVec 64

-- ---------------------------------------------------------------------------
-- The registers
-- ---------------------------------------------------------------------------

/-- The registers of `usb_clk`, with those of `consume_cdc`. -/
structure WriteSide where
  produceBin : BitVec 11
  produceGry : BitVec 11
  consume0 : BitVec 11
  consume1 : BitVec 11

/-- The registers of `clk`, with those of `produce_cdc` and `rst_cdc`, and
the word read from the storage. -/
structure ReadSide where
  consumeBin : BitVec 11
  consumeGry : BitVec 11
  produce0 : BitVec 11
  produce1 : BitVec 11
  rst0 : Bool
  rst1 : Bool
  data : Word

structure Fifo where
  write : WriteSide
  read : ReadSide
  storage : BitVec 10 → Word

def initial : Fifo where
  write := ⟨0#11, 0#11, 0#11, 0#11⟩
  read := ⟨0#11, 0#11, 0#11, 0#11, true, true, 0#64⟩
  storage := fun _ => 0#64

-- ---------------------------------------------------------------------------
-- The edges
-- ---------------------------------------------------------------------------

/-- `w_full`: the two highest bits of the codes differ, the others do not. -/
def wFull (w : WriteSide) : Bool :=
  (w.produceGry.getLsbD 10 ^^ w.consume1.getLsbD 10) &&
    (w.produceGry.getLsbD 9 ^^ w.consume1.getLsbD 9) &&
    decide (w.produceGry.extractLsb' 0 9 = w.consume1.extractLsb' 0 9)

def wRdy (w : WriteSide) : Bool := !wFull w

def rEmpty (r : ReadSide) : Bool := if r.rst1 then true else decide (r.consumeGry = r.produce1)

def rRdy (r : ReadSide) : Bool := !rEmpty r

def produceNxt (w : WriteSide) (wEn : Bool) : BitVec 11 :=
  w.produceBin + if wRdy w && wEn then 1#11 else 0#11

def consumeNxt (r : ReadSide) (rEn : Bool) : BitVec 11 :=
  r.consumeBin + if rRdy r && rEn then 1#11 else 0#11

/-- An edge of `usb_clk`, at which `seen` is sampled of the other side. -/
def WriteSide.next (w : WriteSide) (wEn : Bool) (seen : BitVec 11) : WriteSide where
  produceBin := produceNxt w wEn
  produceGry := encode (produceNxt w wEn)
  consume0 := seen
  consume1 := w.consume0

def nextStorage (s : Fifo) (wData : Option Word) : BitVec 10 → Word :=
  match wData with
  | none => s.storage
  | some word =>
    if wRdy s.write then Function.update s.storage (s.write.produceBin.setWidth 10) word
    else s.storage

/-- An edge of `clk`. After a reset of the write side the read pointer
follows the write pointer. -/
def ReadSide.next (r : ReadSide) (storage : BitVec 10 → Word) (rEn : Bool) (seen : BitVec 11) :
    ReadSide where
  consumeBin := if r.rst1 then decode r.produce1 else consumeNxt r rEn
  consumeGry := if r.rst1 then r.produce1 else encode (consumeNxt r rEn)
  produce0 := seen
  produce1 := r.produce0
  rst0 := false
  rst1 := r.rst0
  data := storage ((consumeNxt r rEn).setWidth 10)

/-- `usb_clk` with `w_data` where `w_en`, `clk` with `r_en`, or both at once:
of the codes that change then the bits in the masks are seen changed. -/
inductive Edge
  | usb (wData : Option Word)
  | clk (rEn : Bool)
  | both (wData : Option Word) (rEn : Bool) (consumeSeen produceSeen : BitVec 11)

def step (s : Fifo) : Edge → Fifo
  | .usb wData =>
    { s with
      write := s.write.next wData.isSome s.read.consumeGry
      storage := nextStorage s wData }
  | .clk rEn => { s with read := s.read.next s.storage rEn s.write.produceGry }
  | .both wData rEn consumeSeen produceSeen =>
    let consumeGry := (s.read.next s.storage rEn s.write.produceGry).consumeGry
    let produceGry := (s.write.next wData.isSome s.read.consumeGry).produceGry
    { write := s.write.next wData.isSome (resolve consumeSeen s.read.consumeGry consumeGry)
      read := s.read.next s.storage rEn (resolve produceSeen s.write.produceGry produceGry)
      storage := nextStorage s wData }

def bridgeFifo : Machine Fifo Edge := ⟨initial, step⟩

-- ---------------------------------------------------------------------------
-- What is written and read
-- ---------------------------------------------------------------------------

def Edge.wData : Edge → Option Word
  | .usb wData | .both wData _ _ _ => wData
  | .clk _ => none

def Edge.rEn : Edge → Bool
  | .clk rEn | .both _ rEn _ _ => rEn
  | .usb _ => false

/-- The word that is written at an edge. -/
def accepted (s : Fifo) (e : Edge) : Option Word := if wRdy s.write then e.wData else none

/-- The word that is read. -/
def popped (s : Fifo) (e : Edge) : Option Word :=
  if rRdy s.read && e.rEn then some s.read.data else none

structure Log where
  written : List Word
  read : List Word

def Log.note (l : Log) (s : Fifo) (e : Edge) : Log :=
  ⟨l.written ++ (accepted s e).toList, l.read ++ (popped s e).toList⟩

def logged : Machine (Fifo × Log) Edge := bridgeFifo.withHistory ⟨[], []⟩ Log.note

/-- What waits has been written and not been read; it fits, and the word that
is offered is the first of it. -/
structure Conserved (s : Fifo × Log) : Prop where
  order : ∃ waiting, s.2.written = s.2.read ++ waiting ∧ waiting.length ≤ 1024 ∧
    (rRdy s.1.read = true → waiting.head? = some s.1.read.data)

-- ---------------------------------------------------------------------------
-- The invariant
-- ---------------------------------------------------------------------------

/-- `p0` and `p1` are the words written that the read side has seen of, `c0`
and `c1` those read that the write side has. -/
structure Sound (s : Fifo) (l : Log) (p0 p1 c0 c1 : Nat) : Prop where
  produce : Crossing s.write.produceGry s.read.produce0 s.read.produce1 l.written.length p0 p1
  consume : Crossing s.read.consumeGry s.write.consume0 s.write.consume1 l.read.length c0 c1
  produceBin : s.write.produceBin = BitVec.ofNat 11 l.written.length
  consumeBin : s.read.consumeBin = BitVec.ofNat 11 l.read.length
  behind : l.read.length ≤ p1
  room : l.written.length ≤ c1 + 1024
  order : l.read = l.written.take l.read.length
  stored : ∀ i word, l.read.length ≤ i → l.written[i]? = some word →
    s.storage (BitVec.ofNat 10 i) = word
  offered : l.read.length < p1 → l.written[l.read.length]? = some s.read.data
  starting0 : s.read.rst0 = true → p0 = 0
  starting1 : s.read.rst1 = true → p1 = 0

section Sound

variable {s : Fifo} {l : Log} {p0 p1 c0 c1 : Nat}

theorem ofNat_eq_iff {m n : Nat} (h : m ≤ n) (hnear : n < m + 2048) :
    BitVec.ofNat 11 m = BitVec.ofNat 11 n ↔ m = n := by
  refine ⟨fun heq => ?_, fun heq => heq ▸ rfl⟩
  have := congrArg BitVec.toNat heq
  simp only [BitVec.toNat_ofNat] at this
  omega

/-- Full is half way round. -/
theorem wFull_eq {w : WriteSide} {x y : BitVec 11} (hproduce : w.produceGry = encode x)
    (hconsume : w.consume1 = encode y) : wFull w = decide (x = y + 1024#11) := by
  have hhalf (i : Nat) (hi : i < 11) :
      (encode (y + 1024#11)).getLsbD i = ((encode y).getLsbD i ^^ decide (9 ≤ i)) :=
    getLsbD_encode_add_half y hi
  have hcode : x = y + 1024#11 ↔
      ∀ i < 11, (encode x).getLsbD i = ((encode y).getLsbD i ^^ decide (9 ≤ i)) := by
    rw [← encode_injective.eq_iff, BitVec.eq_of_getLsbD_eq_iff]
    exact forall₂_congr fun i hi => by rw [hhalf i hi]
  rw [wFull, hproduce, hconsume, Bool.eq_iff_iff, decide_eq_true_iff, hcode, Bool.and_eq_true,
    Bool.and_eq_true, decide_eq_true_iff, BitVec.eq_of_getLsbD_eq_iff]
  have hother (a b : Bool) : (a ^^ b) = true ↔ a = (b ^^ true) := by
    revert a b
    decide
  simp only [BitVec.getLsbD_extractLsb', Nat.zero_add, hother]
  constructor
  · rintro ⟨⟨hten, hnine⟩, hlow⟩ i hi
    rcases Nat.lt_trichotomy i 9 with hlt | rfl | hgt
    · simpa [hlt, Nat.not_le.mpr hlt] using hlow i hlt
    · exact hnine
    · obtain rfl : i = 10 := by omega
      exact hten
  · intro h
    refine ⟨⟨h 10 (by decide), h 9 (by decide)⟩, fun i hi => ?_⟩
    simp [h i (by omega), hi, Nat.not_le.mpr hi]

theorem Sound.read_le_written (h : Sound s l p0 p1 c0 c1) : l.read.length ≤ l.written.length :=
  Nat.le_trans h.behind (Nat.le_trans h.produce.second h.produce.first)

/-- There is room where fewer than 1024 words wait, as far as the write side
has seen. -/
theorem Sound.wRdy (h : Sound s l p0 p1 c0 c1) :
    wRdy s.write = decide (l.written.length < c1 + 1024) := by
  have hseen : c1 ≤ l.written.length :=
    Nat.le_trans (Nat.le_trans h.consume.second h.consume.first) h.read_le_written
  have hroom := h.room
  have hfull : BitVec.ofNat 11 l.written.length = BitVec.ofNat 11 c1 + 1024#11 ↔
      l.written.length = c1 + 1024 := by
    rw [← BitVec.ofNat_add]
    exact ofNat_eq_iff hroom (by omega)
  rw [BridgeFifo.wRdy, wFull_eq h.produce.code h.consume.stage1, decide_eq_decide.mpr hfull,
    ← decide_not, decide_eq_decide]
  omega

/-- A word is offered where the read side has seen one that it has not
read. -/
theorem Sound.rRdy (h : Sound s l p0 p1 c0 c1) :
    rRdy s.read = decide (l.read.length < p1) := by
  have hbehind := h.behind
  have hnear : p1 < l.read.length + 2048 := by
    have := h.produce.second
    have := h.produce.first
    have := h.consume.second
    have := h.consume.first
    have := h.room
    omega
  rw [BridgeFifo.rRdy, rEmpty]
  cases hrst : s.read.rst1 with
  | true =>
    have hstarting := h.starting1 hrst
    simp [hstarting]
  | false =>
    have hempty : encode (BitVec.ofNat 11 l.read.length) = encode (BitVec.ofNat 11 p1) ↔
        l.read.length = p1 := by
      rw [encode_injective.eq_iff]
      exact ofNat_eq_iff hbehind hnear
    rw [h.consume.code, h.produce.stage1, if_neg Bool.false_ne_true, decide_eq_decide.mpr hempty,
      ← decide_not, decide_eq_decide]
    omega

-- ---------------------------------------------------------------------------
-- An edge
-- ---------------------------------------------------------------------------

theorem Sound.produceNxt (h : Sound s l p0 p1 c0 c1) (e : Edge) :
    produceNxt s.write e.wData.isSome = BitVec.ofNat 11 (l.note s e).written.length := by
  rw [BridgeFifo.produceNxt, h.produceBin, Log.note, accepted]
  cases BridgeFifo.wRdy s.write <;> cases e.wData <;> simp [BitVec.ofNat_add]

theorem Sound.consumeNxt (h : Sound s l p0 p1 c0 c1) (e : Edge) :
    consumeNxt s.read e.rEn = BitVec.ofNat 11 (l.note s e).read.length := by
  rw [BridgeFifo.consumeNxt, h.consumeBin, Log.note, popped]
  cases BridgeFifo.rRdy s.read <;> cases e.rEn <;> simp [BitVec.ofNat_add]

/-- What is read is what was offered, the next of what was written. -/
theorem Sound.pops (h : Sound s l p0 p1 c0 c1) (e : Edge) :
    (l.note s e).read.length ≤ p1 ∧ l.read.length ≤ (l.note s e).read.length ∧
      (l.note s e).read.length ≤ l.read.length + 1 ∧
      (l.note s e).read = l.written.take (l.note s e).read.length := by
  have hbehind := h.behind
  cases hpopped : popped s e with
  | none =>
    rw [Log.note, hpopped, Option.toList_none, List.append_nil]
    exact ⟨hbehind, Nat.le_refl _, Nat.le_succ _, h.order⟩
  | some word =>
    simp only [popped, h.rRdy] at hpopped
    split at hpopped
    · rename_i hready
      have hlt : l.read.length < p1 := by simpa using (Bool.and_eq_true_iff.mp hready).1
      have hnext := h.offered hlt
      rw [Option.some.inj hpopped] at hnext
      have hpops : popped s e = some word := by
        rw [popped, h.rRdy, if_pos hready]
        exact hpopped
      rw [Log.note, hpops, Option.toList_some, List.length_append, List.length_singleton]
      refine ⟨hlt, Nat.le_succ _, Nat.le_refl _, ?_⟩
      rw [List.take_add_one, hnext, ← h.order]
      rfl
    · cases hpopped

/-- What is written goes behind what waits. -/
theorem Sound.writes (h : Sound s l p0 p1 c0 c1) (e : Edge) :
    (l.note s e).written.length ≤ c1 + 1024 ∧
      l.written.length ≤ (l.note s e).written.length ∧
      (l.note s e).written.length ≤ l.written.length + 1 ∧
      ∀ i word, l.read.length ≤ i → (l.note s e).written[i]? = some word →
        nextStorage s e.wData (BitVec.ofNat 10 i) = word := by
  have hroom := h.room
  unfold nextStorage
  rw [Log.note, accepted]
  cases hready : BridgeFifo.wRdy s.write with
  | false =>
    simp only [Bool.false_eq_true, if_false, Option.toList_none, List.append_nil]
    refine ⟨hroom, Nat.le_refl _, Nat.le_succ _, fun i word hi hword => ?_⟩
    cases e.wData <;> exact h.stored i word hi hword
  | true =>
    cases e.wData with
    | none =>
      simp only [if_true, Option.toList_none, List.append_nil]
      exact ⟨hroom, Nat.le_refl _, Nat.le_succ _, h.stored⟩
    | some last =>
      have hlt : l.written.length < c1 + 1024 := by
        rw [h.wRdy] at hready
        exact of_decide_eq_true hready
      simp only [if_true, Option.toList_some, List.length_append, List.length_singleton]
      refine ⟨hlt, Nat.le_succ _, Nat.le_refl _, fun i word hi hword => ?_⟩
      have haddress : s.write.produceBin.setWidth 10 = BitVec.ofNat 10 l.written.length := by
        rw [h.produceBin]
        exact BitVec.setWidth_ofNat_of_le (by decide) _
      rcases Nat.lt_trichotomy i l.written.length with hbefore | rfl | hafter
      · -- the address of a word that waits is another
        have hne : BitVec.ofNat 10 i ≠ BitVec.ofNat 10 l.written.length := by
          intro heq
          have hmod := congrArg BitVec.toNat heq
          simp only [BitVec.toNat_ofNat] at hmod
          have := h.consume.second
          have := h.consume.first
          omega
        rw [haddress, Function.update_of_ne hne]
        rw [List.getElem?_append_left hbefore] at hword
        exact h.stored i word hi hword
      · rw [List.getElem?_concat_length] at hword
        rw [haddress, Function.update_self]
        exact Option.some.inj hword
      · rw [List.getElem?_eq_none (by simpa using hafter)] at hword
        cases hword

theorem Sound.produceGry (h : Sound s l p0 p1 c0 c1) (e : Edge) (seen : BitVec 11) :
    (s.write.next e.wData.isSome seen).produceGry =
      encode (BitVec.ofNat 11 (l.note s e).written.length) := congrArg encode (h.produceNxt e)

/-- Until the reset is over the pointer follows a write pointer that is still
zero. -/
theorem Sound.consumeNext (h : Sound s l p0 p1 c0 c1) (e : Edge) (seen : BitVec 11) :
    (s.read.next s.storage e.rEn seen).consumeBin =
        BitVec.ofNat 11 (l.note s e).read.length ∧
      (s.read.next s.storage e.rEn seen).consumeGry =
        encode (BitVec.ofNat 11 (l.note s e).read.length) := by
  rw [ReadSide.next, h.consumeNxt e, h.produce.stage1, decode_encode]
  cases hrst : s.read.rst1 with
  | false => exact ⟨rfl, rfl⟩
  | true =>
    have hstarting := h.starting1 hrst
    have hnone : (l.note s e).read.length = p1 := by
      have := (h.pops e).1
      omega
    rw [hnone]
    exact ⟨rfl, rfl⟩

/-- What the read side holds after its edge, where the words it has seen of
are `m`. -/
theorem Sound.offers (h : Sound s l p0 p1 c0 c1) (e : Edge) (seen : BitVec 11)
    (hlt : (l.note s e).read.length < p0) :
    (l.note s e).written[(l.note s e).read.length]? =
      some (s.read.next s.storage e.rEn seen).data := by
  have hwritten : (l.note s e).read.length < l.written.length :=
    Nat.lt_of_lt_of_le hlt h.produce.first
  have haddress : (BridgeFifo.consumeNxt s.read e.rEn).setWidth 10 =
      BitVec.ofNat 10 (l.note s e).read.length := by
    rw [h.consumeNxt e]
    exact BitVec.setWidth_ofNat_of_le (by decide) _
  have hword : l.written[(l.note s e).read.length]? =
      some l.written[(l.note s e).read.length] := List.getElem?_eq_getElem hwritten
  have hdata : (s.read.next s.storage e.rEn seen).data = l.written[(l.note s e).read.length] := by
    rw [ReadSide.next, haddress]
    exact h.stored _ _ (h.pops e).2.1 hword
  rw [hdata, ← hword]
  exact List.getElem?_append_left hwritten

theorem Sound.takes (h : Sound s l p0 p1 c0 c1) (e : Edge) :
    (l.note s e).read = (l.note s e).written.take (l.note s e).read.length := by
  obtain ⟨hseen, -, -, horder⟩ := h.pops e
  have hwritten : (l.note s e).read.length ≤ l.written.length :=
    Nat.le_trans hseen (Nat.le_trans h.produce.second h.produce.first)
  conv_lhs => rw [horder]
  exact (List.take_append_of_le_length hwritten).symm

theorem Sound.usb (h : Sound s l p0 p1 c0 c1) (wData : Option Word) :
    Sound (step s (.usb wData)) (l.note s (.usb wData)) p0 p1 l.read.length c0 := by
  obtain ⟨hroom, hmore, -, hstored⟩ := h.writes (.usb wData)
  have hread : (l.note s (.usb wData)).read = l.read := by
    simp [Log.note, popped, Edge.rEn]
  have hproduceGry := h.produceGry (.usb wData) s.read.consumeGry
  refine ⟨?_, ?_, h.produceNxt (.usb wData), ?_, ?_, ?_, h.takes _, ?_, ?_, h.starting0,
    h.starting1⟩
  · exact hproduceGry ▸ h.produce.counts hmore
  · rw [hread]
    exact h.consume.reads
  · rw [hread]
    exact h.consumeBin
  · rw [hread]
    exact h.behind
  · exact Nat.le_trans hroom (Nat.add_le_add_right h.consume.second 1024)
  · rw [hread]
    exact hstored
  · rw [hread]
    intro hlt
    have hwritten : l.read.length < l.written.length :=
      Nat.lt_of_lt_of_le hlt (Nat.le_trans h.produce.second h.produce.first)
    exact (List.getElem?_append_left hwritten).trans (h.offered hlt)

theorem Sound.clk (h : Sound s l p0 p1 c0 c1) (rEn : Bool) :
    Sound (step s (.clk rEn)) (l.note s (.clk rEn)) l.written.length p0 c0 c1 := by
  obtain ⟨hseen, hmore, -, -⟩ := h.pops (.clk rEn)
  have hwritten : (l.note s (.clk rEn)).written = l.written := by
    simp [Log.note, accepted, Edge.wData]
  obtain ⟨hbin, hgry⟩ := h.consumeNext (.clk rEn) s.write.produceGry
  refine ⟨?_, ?_, ?_, hbin, Nat.le_trans hseen h.produce.second, ?_, h.takes _, ?_,
    fun hlt => h.offers (.clk rEn) s.write.produceGry hlt, fun hrst => absurd hrst Bool.false_ne_true,
    fun hrst => h.starting0 hrst⟩
  · rw [hwritten]
    exact h.produce.reads
  · exact hgry ▸ h.consume.counts hmore
  · rw [hwritten]
    exact h.produceBin
  · rw [hwritten]
    exact h.room
  · rw [hwritten]
    exact fun i word hi hword => h.stored i word (Nat.le_trans hmore hi) hword

/-- Where the edges fall together, what each side sees of the other is one of
the two numbers that the code changes between. -/
theorem Sound.both (h : Sound s l p0 p1 c0 c1) (wData : Option Word) (rEn : Bool)
    (consumeSeen produceSeen : BitVec 11) :
    ∃ p c, l.written.length ≤ p ∧ Sound (step s (.both wData rEn consumeSeen produceSeen))
      (l.note s (.both wData rEn consumeSeen produceSeen)) p p0 c c0 := by
  generalize he : Edge.both wData rEn consumeSeen produceSeen = e
  have hw : e.wData = wData := he ▸ rfl
  have hr : e.rEn = rEn := he ▸ rfl
  obtain ⟨hseen, hread, hreadOne, -⟩ := h.pops e
  obtain ⟨hroom, hwritten, hwrittenOne, hstored⟩ := h.writes e
  obtain ⟨hbin, hgry⟩ := h.consumeNext e s.write.produceGry
  have hproduceGry := h.produceGry e s.read.consumeGry
  have hwrites : (l.note s e).written.length = l.written.length ∨
      (l.note s e).written.length = l.written.length + 1 := by omega
  have hreads : (l.note s e).read.length = l.read.length ∨
      (l.note s e).read.length = l.read.length + 1 := by omega
  obtain ⟨p, hp, -, hproduce⟩ := h.produce.both hwrites produceSeen
  obtain ⟨c, hc, -, hconsume⟩ := h.consume.both hreads consumeSeen
  rw [← hproduceGry] at hproduce
  rw [← hgry] at hconsume
  refine ⟨p, c, hp, ?_⟩
  rw [hw] at hproduce hstored hproduceGry
  rw [hr] at hconsume hbin
  have hstep : step s e = {
      write := s.write.next wData.isSome (resolve consumeSeen s.read.consumeGry
        (s.read.next s.storage rEn s.write.produceGry).consumeGry)
      read := s.read.next s.storage rEn (resolve produceSeen s.write.produceGry
        (s.write.next wData.isSome s.read.consumeGry).produceGry)
      storage := nextStorage s wData } := he ▸ rfl
  rw [hstep]
  refine ⟨hproduce, hconsume, ?_, hbin, Nat.le_trans hseen h.produce.second,
    Nat.le_trans hroom (Nat.add_le_add_right h.consume.second 1024), h.takes e, ?_, ?_,
    fun hrst => absurd hrst Bool.false_ne_true, fun hrst => h.starting0 hrst⟩
  · have := h.produceNxt e
    rwa [hw] at this
  · exact fun i word hi hword => hstored i word (Nat.le_trans hread hi) hword
  · intro hlt
    have := h.offers e (resolve produceSeen s.write.produceGry
      (s.write.next wData.isSome s.read.consumeGry).produceGry) hlt
    rwa [hr] at this

theorem Sound.conserved (h : Sound s l p0 p1 c0 c1) : Conserved (s, l) := by
  refine ⟨⟨l.written.drop l.read.length, ?_, ?_, fun hready => ?_⟩⟩
  · conv_rhs => rw [h.order]
    have hlength : (l.written.take l.read.length).length = l.read.length := by
      rw [← h.order]
    rw [hlength]
    exact (List.take_append_drop ..).symm
  · have := h.room
    have := h.consume.second
    have := h.consume.first
    rw [List.length_drop]
    omega
  · rw [h.rRdy] at hready
    rw [List.head?_drop]
    exact h.offered (of_decide_eq_true hready)

end Sound

-- ---------------------------------------------------------------------------
-- Runs
-- ---------------------------------------------------------------------------

theorem sound_init : Sound logged.init.1 logged.init.2 0 0 0 0 where
  produce := ⟨rfl, rfl, rfl, Nat.le_refl 0, Nat.le_refl 0⟩
  consume := ⟨rfl, rfl, rfl, Nat.le_refl 0, Nat.le_refl 0⟩
  produceBin := rfl
  consumeBin := rfl
  behind := Nat.le_refl 0
  room := Nat.zero_le _
  order := rfl
  stored i word _ hword := by cases hword
  offered h := absurd h (Nat.lt_irrefl 0)
  starting0 _ := rfl
  starting1 _ := rfl

/-- An edge of `clk`. -/
def Edge.reads : Edge → Bool
  | .clk _ | .both .. => true
  | .usb _ => false

/-- What has been written reaches the read side in two edges of `clk`. -/
structure Seen (s : Fifo × Log) (n edges : Nat) : Prop where
  sound : ∃ p0 p1 c0 c1, Sound s.1 s.2 p0 p1 c0 c1 ∧ (1 ≤ edges → n ≤ p0) ∧ (2 ≤ edges → n ≤ p1)
  written : n ≤ s.2.written.length

theorem Seen.next {s : Fifo × Log} {n edges : Nat} (h : Seen s n edges) (e : Edge) :
    Seen (logged.step s e) n (edges + if e.reads then 1 else 0) := by
  obtain ⟨⟨p0, p1, c0, c1, hsound, hp0, hp1⟩, hwritten⟩ := h
  have hmore : n ≤ (s.2.note s.1 e).written.length := by
    simp only [Log.note, List.length_append]
    omega
  refine ⟨?_, hmore⟩
  cases e with
  | usb wData => exact ⟨p0, p1, _, _, hsound.usb wData, hp0, hp1⟩
  | clk rEn =>
    exact ⟨_, p0, c0, c1, hsound.clk rEn, fun _ => hwritten, fun h => hp0 (Nat.le_of_succ_le_succ h)⟩
  | both wData rEn consumeSeen produceSeen =>
    obtain ⟨p, c, hp, hnext⟩ := hsound.both wData rEn consumeSeen produceSeen
    exact ⟨p, p0, c, c0, hnext, fun _ => Nat.le_trans hwritten hp,
      fun h => hp0 (Nat.le_of_succ_le_succ h)⟩

theorem Seen.run {s : Fifo × Log} {n edges : Nat} (h : Seen s n edges) (rest : List Edge) :
    Seen (logged.runFrom s rest) n (edges + rest.countP Edge.reads) := by
  induction rest generalizing s edges with
  | nil => exact h
  | cons e rest ih =>
    have hrest := ih (h.next e)
    rw [List.countP_cons]
    rwa [Nat.add_assoc, Nat.add_comm (if e.reads then 1 else 0)] at hrest

/-- Every reachable state. -/
theorem seen_run (run : List Edge) : Seen (logged.run run) 0 (run.countP Edge.reads) := by
  have hinit : Seen logged.init 0 0 :=
    ⟨⟨0, 0, 0, 0, sound_init, fun _ => Nat.le_refl 0, fun _ => Nat.le_refl 0⟩, Nat.zero_le _⟩
  have := hinit.run run
  rwa [Nat.zero_add] at this

/-- However the edges of the two clocks follow each other, and whatever is
sampled where they fall together, nothing is lost, repeated or overtaken. -/
theorem bridge_conserves (run : List Edge) : Conserved (logged.run run) := by
  obtain ⟨_, _, _, _, hsound, -, -⟩ := (seen_run run).sound
  exact hsound.conserved

/-- A word that still waits two edges of `clk` after it was written is
offered, or one before it, whatever is read and written meanwhile. -/
theorem bridge_offers {run rest : List Edge} (hedges : 2 ≤ rest.countP Edge.reads)
    (hwaits : (logged.run (run ++ rest)).2.read.length < (logged.run run).2.written.length) :
    rRdy (logged.run (run ++ rest)).1.read = true := by
  obtain ⟨p0, p1, c0, c1, hsound, -, -⟩ := (seen_run run).sound
  have hseen : Seen (logged.run run) (logged.run run).2.written.length 0 :=
    ⟨⟨p0, p1, c0, c1, hsound, fun h => absurd h (by omega), fun h => absurd h (by omega)⟩,
      Nat.le_refl _⟩
  have hrun : logged.run (run ++ rest) = logged.runFrom (logged.run run) rest :=
    Machine.runFrom_append ..
  obtain ⟨q0, q1, d0, d1, hnext, -, hq1⟩ := (hseen.run rest).sound
  have hq : (logged.run run).2.written.length ≤ q1 := hq1 (by omega)
  rw [hrun] at hwaits ⊢
  rw [hnext.rRdy, decide_eq_true_iff]
  exact Nat.lt_of_lt_of_le hwaits hq

/-- Two words are written while the read side starts, the second at an edge
of both clocks. -/
def twoWrites : List Edge :=
  [.clk false, .usb (some 0xab#64), .both (some 0xcd#64) false 0#11 0x7ff#11]

/-- The first is read as soon as it is offered; the second is then. -/
theorem twoWrites_offered :
    rRdy (logged.run (twoWrites ++ [.clk true, .usb none, .clk true])).1.read = true :=
  bridge_offers (by decide) (by decide +kernel)

end AvbAes3.BridgeFifo
