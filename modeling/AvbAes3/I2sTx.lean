import AvbAes3.UsbAudio

/-!
# MCRI2STx

The I2S transmitter takes bit clock, word select and bit index from the bits
of the NCO's phase, and its sample pair from the FIFO in the cycle of the
NCO's strobe, one cycle after the phase has wrapped. With an increment of
2^25 at most no half period of the bit clock is skipped, and the pair is
latched before the first data bit is due: the strobe falls in the half period
after the wrap, in which the bit clock is low.

`frames_whole`: what `dout` holds at the rising edges of the bit clock,
from one wrap to the next, is one frame of one pair.
-/

namespace AvbAes3.I2sTx

open UsbAudio (Nco maxIncrement)

-- ---------------------------------------------------------------------------
-- The gateware
-- ---------------------------------------------------------------------------

/-- A left and a right sample of 24 bits. -/
abbrev Pair := BitVec 24 × BitVec 24

/-- `MCRNco`, `shift_l` with `shift_r`, and the underruns. -/
structure Tx where
  nco : Nco := {}
  shift : Pair := (0, 0)
  underruns : UInt32 := 0

/-- The increment of a cycle, and the head of the FIFO if `audio_valid`. -/
structure Cycle where
  increment : UInt32
  head : Option Pair

def bck (s : Tx) : Bool := s.nco.phase.toNat.testBit 25

def lrck (s : Tx) : Bool := s.nco.phase.toNat.testBit 31

/-- `nco.phase[26:31]` -/
def bitIdx (s : Tx) : Nat := s.nco.phase.toNat / 2 ^ 26 % 32

def active (s : Tx) : BitVec 24 := if lrck s then s.shift.2 else s.shift.1

/-- `Cat(C(0, 1), active[::-1], C(0, 7))`, the lowest bit last. -/
def pattern (sample : BitVec 24) : BitVec 32 := 0#7 ++ sample.reverse ++ 0#1

def dout (s : Tx) : Bool := (pattern (active s)).getLsbD (bitIdx s)

/-- The pair popped: `audio_ready` is the strobe with `audio_valid`. -/
def popped (s : Tx) (c : Cycle) : Option Pair := if s.nco.sampleStrobe then c.head else none

def step (s : Tx) (c : Cycle) : Tx where
  nco := s.nco.step c.increment
  shift := if s.nco.sampleStrobe then c.head.getD s.shift else s.shift
  underruns :=
    if s.nco.sampleStrobe ∧ c.head = none then s.underruns + 1 else s.underruns

def i2sTx : Machine Tx Cycle := ⟨{}, step⟩

-- ---------------------------------------------------------------------------
-- A period
-- ---------------------------------------------------------------------------

/-- The increment carries the phase past its end. -/
def wraps (s : Tx) (c : Cycle) : Bool :=
  decide (2 ^ 32 ≤ s.nco.phase.toNat + c.increment.toNat)

/-- The phase wraps in the last of these cycles, and only there. -/
def FullPeriod : Tx → List Cycle → Prop
  | _, [] => False
  | s, [c] => wraps s c
  | s, c :: rest => wraps s c = false ∧ FullPeriod (step s c) rest

instance FullPeriod.decidable : (s : Tx) → (cycles : List Cycle) → Decidable (FullPeriod s cycles)
  | _, [] => .isFalse id
  | s, [c] => inferInstanceAs (Decidable (wraps s c = true))
  | s, c :: next :: rest =>
    have := FullPeriod.decidable (step s c) (next :: rest)
    inferInstanceAs (Decidable (wraps s c = false ∧ FullPeriod (step s c) (next :: rest)))

/-- What `dout` holds in the cycles in which the bit clock has risen. -/
def sampled : Tx → List Cycle → List Bool
  | _, [] => []
  | s, c :: rest =>
    (if !bck s && bck (step s c) then [dout (step s c)] else []) ++ sampled (step s c) rest

/-- The heads that are popped. -/
def pops : Tx → List Cycle → List Pair
  | _, [] => []
  | s, c :: rest => (popped s c).toList ++ pops (step s c) rest

/-- The 32 bits of a channel: one bit of delay, the sample with its highest
bit first, and the padding. -/
def channelBits (sample : BitVec 24) : List Bool :=
  false :: (List.range 24).map (fun i => sample.getLsbD (23 - i)) ++ List.replicate 7 false

def frameBits (pair : Pair) : List Bool := channelBits pair.1 ++ channelBits pair.2

-- ---------------------------------------------------------------------------
-- The half periods of the bit clock
-- ---------------------------------------------------------------------------

/-- Which of the 128 half periods of the bit clock it is. -/
def half (s : Tx) : Nat := s.nco.phase.toNat / 2 ^ 25

theorem half_lt (s : Tx) : half s < 128 := by
  have := s.nco.phase.toNat_lt
  unfold half
  omega

theorem bck_eq (s : Tx) : bck s = decide (half s % 2 = 1) := by
  rw [bck, Nat.testBit_eq_decide_div_mod_eq, half]

theorem lrck_eq (s : Tx) : lrck s = decide (64 ≤ half s) := by
  have := s.nco.phase.toNat_lt
  rw [lrck, Nat.testBit_eq_decide_div_mod_eq, half, decide_eq_decide]
  omega

theorem bitIdx_eq (s : Tx) : bitIdx s = half s / 2 % 32 := by
  rw [bitIdx, half, Nat.div_div_eq_div_mul]
  rfl

theorem length_channelBits (sample : BitVec 24) : (channelBits sample).length = 32 := by
  simp [channelBits]

theorem length_frameBits (pair : Pair) : (frameBits pair).length = 64 := by
  simp [frameBits, length_channelBits]

theorem pattern_bit (sample : BitVec 24) {i : Nat} (h : i < 32) :
    (channelBits sample)[i]? = some ((pattern sample).getLsbD i) := by
  rw [pattern, BitVec.getLsbD_append, BitVec.getLsbD_append, BitVec.getLsbD_reverse,
    BitVec.getMsbD_eq_getLsbD, channelBits]
  rcases i with - | i
  · rfl
  · rw [List.cons_append, List.getElem?_cons_succ]
    rcases Nat.lt_or_ge i 24 with hdata | hpad
    · rw [List.getElem?_append_left (by simpa using hdata)]
      simp [hdata]
    · rw [List.getElem?_append_right (by simpa using hpad), List.getElem?_replicate,
        if_pos (by simp; omega)]
      simp [Nat.not_lt.mpr hpad]

/-- In the second half of a bit's slot or the first, `dout` has the bit. -/
theorem dout_eq (s : Tx) : (frameBits s.shift)[half s / 2]? = some (dout s) := by
  have hhalf := half_lt s
  rw [dout, bitIdx_eq, active, lrck_eq, frameBits]
  rcases Nat.lt_or_ge (half s) 64 with hleft | hright
  · rw [List.getElem?_append_left (by rw [length_channelBits]; omega),
      decide_eq_false (Nat.not_le.mpr hleft), Nat.mod_eq_of_lt (by omega)]
    exact pattern_bit _ (by omega)
  · have hslot : half s / 2 % 32 = half s / 2 - 32 := by omega
    rw [List.getElem?_append_right (by rw [length_channelBits]; omega), length_channelBits,
      decide_eq_true hright, hslot]
    exact pattern_bit _ (by omega)

-- ---------------------------------------------------------------------------
-- One cycle
-- ---------------------------------------------------------------------------

/-- Without a wrap the phase moves on by a half period at most. -/
theorem half_step {s : Tx} {c : Cycle} (hinc : c.increment.toNat ≤ 2 ^ 25)
    (hstay : wraps s c = false) : half (step s c) = half s ∨ half (step s c) = half s + 1 := by
  have hsum : s.nco.phase.toNat + c.increment.toNat < 2 ^ 32 := by
    simpa [wraps] using hstay
  have hphase : (step s c).nco.phase.toNat = s.nco.phase.toNat + c.increment.toNat := by
    rw [step, Nco.step, UInt32.toNat_add]
    exact Nat.mod_eq_of_lt hsum
  unfold half
  omega

/-- It wraps out of the last half period into the first. -/
theorem half_wrap {s : Tx} {c : Cycle} (hinc : c.increment.toNat ≤ 2 ^ 25) (h : wraps s c) :
    half s = 127 ∧ half (step s c) = 0 := by
  have hsum : 2 ^ 32 ≤ s.nco.phase.toNat + c.increment.toNat := by simpa [wraps] using h
  have hlt := s.nco.phase.toNat_lt
  have hphase : (step s c).nco.phase.toNat = s.nco.phase.toNat + c.increment.toNat - 2 ^ 32 := by
    rw [step, Nco.step, UInt32.toNat_add]
    omega
  unfold half
  omega

theorem strobe_step (s : Tx) (c : Cycle) : (step s c).nco.sampleStrobe = wraps s c := rfl

theorem shift_step {s : Tx} (h : s.nco.sampleStrobe = false) (c : Cycle) :
    (step s c).shift = s.shift := by
  rw [step, h]
  rfl

theorem popped_none {s : Tx} (h : s.nco.sampleStrobe = false) (c : Cycle) : popped s c = none := by
  rw [popped, h]
  rfl

/-- A cycle without a wrap samples the next bit, or none. -/
theorem sampled_step {s : Tx} {c : Cycle} (hinc : c.increment.toNat ≤ 2 ^ 25)
    (hstay : wraps s c = false) :
    (if !bck s && bck (step s c) then [dout (step s c)] else []) ++
        (frameBits (step s c).shift).drop ((half (step s c) + 1) / 2) =
      (frameBits (step s c).shift).drop ((half s + 1) / 2) := by
  have hlt := half_lt (step s c)
  rw [bck_eq, bck_eq]
  rcases half_step hinc hstay with hsame | hnext
  · rw [hsame]
    cases hodd : decide (half s % 2 = 1) <;> simp
  · rcases Nat.mod_two_eq_zero_or_one (half s) with heven | hodd
    · have hbit := dout_eq (step s c)
      have hslot : half (step s c) / 2 = (half s + 1) / 2 := by omega
      obtain ⟨hbound, hget⟩ := List.getElem?_eq_some_iff.mp hbit
      have hrise : (!decide (half s % 2 = 1) && decide (half (step s c) % 2 = 1)) = true := by
        rw [decide_eq_false (by omega), decide_eq_true (by omega)]
        rfl
      have hafter : (half (step s c) + 1) / 2 = half (step s c) / 2 + 1 := by omega
      rw [if_pos hrise, hafter, ← hslot, List.drop_eq_getElem_cons hbound, hget]
      rfl
    · have hsame : (half (step s c) + 1) / 2 = (half s + 1) / 2 := by omega
      rw [decide_eq_true hodd, hsame]
      rfl

-- ---------------------------------------------------------------------------
-- From wrap to wrap
-- ---------------------------------------------------------------------------

/-- After the strobe: the rest of the frame is sampled, nothing is popped and
the pair stays. -/
theorem rest_sampled {s : Tx} {cycles : List Cycle} (hstrobe : s.nco.sampleStrobe = false)
    (hinc : ∀ c ∈ cycles, c.increment.toNat ≤ 2 ^ 25) (h : FullPeriod s cycles) :
    sampled s cycles = (frameBits s.shift).drop ((half s + 1) / 2) ∧ pops s cycles = [] ∧
      (i2sTx.runFrom s cycles).shift = s.shift := by
  induction cycles generalizing s with
  | nil => exact h.elim
  | cons c rest ih =>
    have hc := hinc c List.mem_cons_self
    rw [sampled, pops, popped_none hstrobe, Machine.runFrom_cons]
    cases rest with
    | nil =>
      obtain ⟨hlast, hfirst⟩ := half_wrap hc h
      have hlow : bck (step s c) = false := by rw [bck_eq, hfirst]; rfl
      refine ⟨?_, rfl, shift_step hstrobe c⟩
      rw [hlow, Bool.and_false, hlast, List.drop_eq_nil_of_le (length_frameBits _).le]
      rfl
    | cons next rest =>
      obtain ⟨hstay, hrest⟩ := h
      have hstrobe' : (step s c).nco.sampleStrobe = false := (strobe_step s c).trans hstay
      obtain ⟨hbits, hpops, hshift⟩ :=
        ih hstrobe' (fun c' hc' => hinc c' (List.mem_cons_of_mem _ hc')) hrest
      refine ⟨?_, hpops, hshift.trans (shift_step hstrobe c)⟩
      rw [hbits, sampled_step hc hstay, shift_step hstrobe]

/-- The pair of a period: the head popped at the strobe that starts it, or the
pair of the period before. -/
def pairOf (s : Tx) (period : List Cycle) : Pair := (period.head?.bind Cycle.head).getD s.shift

theorem period_sampled {s : Tx} {period : List Cycle} (hstrobe : s.nco.sampleStrobe)
    (hfirst : half s = 0) (hinc : ∀ c ∈ period, c.increment.toNat ≤ 2 ^ 25)
    (h : FullPeriod s period) :
    sampled s period = frameBits (pairOf s period) ∧
      pops s period = (period.head?.bind Cycle.head).toList ∧
      (i2sTx.runFrom s period).shift = pairOf s period := by
  cases period with
  | nil => exact h.elim
  | cons c rest =>
    have hc := hinc c List.mem_cons_self
    cases rest with
    | nil =>
      obtain ⟨hlast, -⟩ := half_wrap hc h
      omega
    | cons next rest =>
      obtain ⟨hstay, hrest⟩ := h
      have hshift : (step s c).shift = pairOf s (c :: next :: rest) := by
        rw [step, hstrobe]
        rfl
      obtain ⟨hbits, hpops, hkept⟩ := rest_sampled ((strobe_step s c).trans hstay)
        (fun c' hc' => hinc c' (List.mem_cons_of_mem _ hc')) hrest
      refine ⟨?_, ?_, hkept.trans hshift⟩
      · rw [sampled, hbits, sampled_step hc hstay, hfirst, hshift]
        rfl
      · rw [pops, hpops, popped, hstrobe]
        exact List.append_nil _

/-- The firmware's clamp is below 2^25, and with increments up to that each
period of a run, from the wrap to the next, is a whole frame. -/
theorem frames_whole :
    maxIncrement < 2 ^ 25 ∧
      ∀ (first period : List Cycle) (wrap : Cycle),
        (∀ c ∈ wrap :: period, c.increment.toNat ≤ 2 ^ 25) → wraps (i2sTx.run first) wrap →
        FullPeriod (i2sTx.run (first ++ [wrap])) period →
          let s := i2sTx.run (first ++ [wrap])
          sampled s period = frameBits (pairOf s period) ∧
            pops s period = (period.head?.bind Cycle.head).toList ∧
            (i2sTx.run (first ++ wrap :: period)).shift = pairOf s period := by
  refine ⟨by rw [UsbAudio.maxIncrement_eq]; decide, ?_⟩
  intro first period wrap hinc hwrap hperiod s
  obtain ⟨hwrapInc, hperiodInc⟩ := List.forall_mem_cons.mp hinc
  have hs : s = step (i2sTx.run first) wrap := Machine.runFrom_append _ first [wrap]
  have hrun : i2sTx.run (first ++ wrap :: period) = i2sTx.runFrom s period := by
    rw [Machine.run, Machine.runFrom_append, Machine.runFrom_cons, hs]
    rfl
  rw [hrun]
  refine period_sampled ?_ ?_ hperiodInc hperiod
  · rw [hs, strobe_step]
    exact hwrap
  · rw [hs]
    exact (half_wrap hwrapInc hwrap).2

/-- A half period in each cycle, and a pair at the head of the FIFO. -/
def fastCycle : Cycle := ⟨33554432, some (0xABCDEF#24, 0x123456#24)⟩

theorem frames_whole_fastCycle :
    let s := i2sTx.run (List.replicate 127 fastCycle ++ [fastCycle])
    sampled s (List.replicate 128 fastCycle) = frameBits (0xABCDEF#24, 0x123456#24) := by
  exact (frames_whole.2 (List.replicate 127 fastCycle) (List.replicate 128 fastCycle) fastCycle
    (by decide +kernel) (by decide +kernel) (by decide +kernel)).1

end AvbAes3.I2sTx
