import AvbAes3.Lib.Machine
import AvbAes3.Lib.SyncFifo

/-!
# The DAC's FIFO

Each pass of the DAC loop pushes a pair for every sample tick it has not
served yet, 32 at most, and each sample strobe pops one. A strobe that finds
the FIFO empty pops nothing, but its tick is served later all the same: the
pushes of a loop that has fallen behind are more than the strobes to come
will pop.

`accepted_iff`: every push is accepted exactly in the runs in which the loop
never catches up 32 ticks of the furthest it has been behind.
-/

namespace AvbAes3.DacFifo

-- ---------------------------------------------------------------------------
-- The gateware and the loop
-- ---------------------------------------------------------------------------

/-- A left and a right sample of 24 bits. -/
abbrev Pair := BitVec 24 × BitVec 24

def i2sFifoDepth : Nat := 32

def maxDrain : UInt32 := 32

/-- The sample counter, `i2s_fifo` with its drops, what `MCRI2STx` latches
and its underruns; `dac_last_sample_tick` and, within a pass, `ticks_due` and
`processed`. -/
structure Dac where
  sampleCount : UInt32 := 0
  i2sFifo : List Pair := []
  i2sFifoDrops : UInt32 := 0
  shift : Pair := (0, 0)
  underruns : UInt32 := 0
  dacLastSampleTick : UInt32 := 0
  ticksDue : UInt32 := 0
  processed : UInt32 := 0

/-- The `sample_strobe` of a clock cycle, whether the loop goes on in it, and
the pair at the heads of the extractor's channels, if neither is empty. -/
structure Cycle where
  sampleStrobe : Bool
  advance : Bool
  heads : Option Pair

/-- The pair the loop pushes in the cycle, zeros when a channel is empty. -/
def pushed (s : Dac) (c : Cycle) : Option Pair :=
  if c.advance ∧ s.ticksDue ≠ 0 then some (c.heads.getD (0, 0)) else none

/-- The counter is read, or a tick is served; after the last the ticks
processed are counted. -/
def loopStep (s : Dac) : Dac :=
  if s.ticksDue = 0 then
    let due := s.sampleCount - s.dacLastSampleTick
    let due := if due > maxDrain then maxDrain else due
    { s with ticksDue := due, processed := due }
  else
    { s with
      ticksDue := s.ticksDue - 1
      dacLastSampleTick :=
        if s.ticksDue = 1 then s.dacLastSampleTick + s.processed else s.dacLastSampleTick }

def step (s : Dac) (c : Cycle) : Dac :=
  let loop := if c.advance then loopStep s else s
  { loop with
    sampleCount := if c.sampleStrobe then s.sampleCount + 1 else s.sampleCount
    i2sFifo := SyncFifo.next i2sFifoDepth s.i2sFifo (pushed s c) c.sampleStrobe
    i2sFifoDrops :=
      if (pushed s c).isSome ∧ ¬ s.i2sFifo.length < i2sFifoDepth then s.i2sFifoDrops + 1
      else s.i2sFifoDrops
    shift := if c.sampleStrobe then s.i2sFifo.head?.getD s.shift else s.shift
    underruns :=
      if c.sampleStrobe ∧ s.i2sFifo = [] then s.underruns + 1 else s.underruns }

-- ---------------------------------------------------------------------------
-- How far the loop is behind
-- ---------------------------------------------------------------------------

/-- The strobes the loop has not pushed a pair for, and the most there have
been. -/
structure Backlog where
  behind : Nat := 0
  furthest : Nat := 0

def note (b : Backlog) (s : Dac) (c : Cycle) : Backlog :=
  let ticked := b.behind + if c.sampleStrobe then 1 else 0
  { behind := ticked - if (pushed s c).isSome then 1 else 0
    furthest := max b.furthest ticked }

def dac : Machine (Dac × Backlog) Cycle := Machine.withHistory ⟨{}, step⟩ {} note

/-- A pair pushed is in the FIFO, behind those that were, and none is counted
as dropped. -/
def Accepted (s : Dac × Backlog) (c : Cycle) : Prop :=
  (step s.1 c).i2sFifoDrops = s.1.i2sFifoDrops ∧
    ∀ pair ∈ pushed s.1 c, (step s.1 c).i2sFifo =
      (if c.sampleStrobe then s.1.i2sFifo.tail else s.1.i2sFifo) ++ [pair]

/-- At a push the loop is less than 32 ticks closer than the furthest it has
been behind. -/
def WithinDepth (s : Dac × Backlog) (c : Cycle) : Prop :=
  (pushed s.1 c).isSome → s.2.furthest < s.2.behind + i2sFifoDepth

instance (s : Dac × Backlog) : DecidablePred (Accepted s) := fun c =>
  @instDecidableAnd _ _ inferInstance (Option.decidableForallMem (pushed s.1 c))

instance (s : Dac × Backlog) : DecidablePred (WithinDepth s) := fun c => by
  unfold WithinDepth; infer_instance

-- ---------------------------------------------------------------------------
-- One cycle
-- ---------------------------------------------------------------------------

/-- As long as nothing was dropped: what the FIFO holds is how much the loop
has caught up. -/
structure Kept (s : Dac × Backlog) : Prop where
  level : s.1.i2sFifo.length + s.2.behind = s.2.furthest
  due : s.1.ticksDue.toNat ≤ s.2.behind
  count : s.1.sampleCount = s.1.dacLastSampleTick +
    (if s.1.ticksDue = 0 then 0 else s.1.processed - s.1.ticksDue) + UInt32.ofNat s.2.behind

theorem accepted_iff_withinDepth {s : Dac × Backlog} (h : Kept s) (c : Cycle) :
    Accepted s c ↔ WithinDepth s c := by
  have hlevel := h.level
  unfold Accepted WithinDepth step
  dsimp only
  cases hpush : pushed s.1 c with
  | none => simp
  | some pair =>
    by_cases hroom : s.1.i2sFifo.length < i2sFifoDepth
    · rw [if_neg fun hfull => hfull.2 hroom, SyncFifo.next_room hroom]
      refine iff_of_true ⟨rfl, ?_⟩ fun _ => by omega
      rintro _ ⟨⟩
      rfl
    · rw [if_pos ⟨rfl, hroom⟩]
      refine iff_of_false (fun hsame => ?_) fun hdepth => ?_
      · have hdrops : s.1.i2sFifoDrops + 1 = s.1.i2sFifoDrops := hsame.1
        have hnat := congrArg UInt32.toNat hdrops
        simp only [UInt32.toNat_add, UInt32.reduceToNat] at hnat
        omega
      · have := hdepth rfl
        omega

theorem pushed_isSome (s : Dac) (c : Cycle) :
    (pushed s c).isSome ↔ c.advance = true ∧ s.ticksDue ≠ 0 := by
  unfold pushed
  split <;> simp_all

/-- The word count after the cycle of a push that has room, or of none. -/
theorem next_length {s : Dac × Backlog} (h : Kept s) {c : Cycle} (hdepth : WithinDepth s c) :
    (step s.1 c).i2sFifo.length =
      s.1.i2sFifo.length - (if c.sampleStrobe then 1 else 0) +
        if (pushed s.1 c).isSome then 1 else 0 := by
  have hlevel := h.level
  have htail := SyncFifo.length_tail_if s.1.i2sFifo c.sampleStrobe
  show (SyncFifo.next i2sFifoDepth s.1.i2sFifo (pushed s.1 c) c.sampleStrobe).length = _
  cases hpush : pushed s.1 c with
  | none =>
    rw [SyncFifo.next]
    simpa using htail
  | some pair =>
    have hroom := hdepth (by rw [hpush]; rfl)
    rw [SyncFifo.next_room (by omega), List.length_append, htail]
    rfl

/-- A tick is served. -/
theorem serve_tick (last processed due n : UInt32) :
    last + (processed - due) + (n + 1) = last + (processed - (due - 1)) + n := by
  have hserved : processed - (due - 1) = processed - due + 1 := by
    rw [UInt32.sub_eq_iff_eq_add, UInt32.add_assoc, UInt32.add_comm 1, UInt32.sub_add_cancel,
      UInt32.sub_add_cancel]
  rw [hserved, UInt32.add_assoc, UInt32.add_assoc, UInt32.add_assoc, UInt32.add_comm n]

theorem ofNat_succ (n : Nat) : UInt32.ofNat (n + 1) = UInt32.ofNat n + 1 := UInt32.ofNat_add n 1

/-- Behind by `note`: what is due is at most that. -/
theorem note_behind {s : Dac × Backlog} (h : Kept s) (c : Cycle) :
    (note s.2 s.1 c).behind + (if (pushed s.1 c).isSome then 1 else 0) =
      s.2.behind + if c.sampleStrobe then 1 else 0 := by
  have hdue := h.due
  have hpos : (pushed s.1 c).isSome → 0 < s.2.behind := by
    intro hp
    have hne : s.1.ticksDue.toNat ≠ 0 := fun h0 =>
      ((pushed_isSome s.1 c).mp hp).2 (UInt32.toNat_inj.mp h0)
    omega
  rw [note]
  by_cases hp : (pushed s.1 c).isSome
  · have := hpos hp
    simp only [if_pos hp]
    omega
  · simp only [if_neg hp]
    omega

theorem Kept.level_step {s : Dac × Backlog} (h : Kept s) {c : Cycle} (hdepth : WithinDepth s c) :
    (DacFifo.step s.1 c).i2sFifo.length + (note s.2 s.1 c).behind = (note s.2 s.1 c).furthest := by
  have hlevel := h.level
  have hbehind := note_behind h c
  rw [next_length h hdepth]
  have hfurthest : (note s.2 s.1 c).furthest =
      max s.2.furthest (s.2.behind + if c.sampleStrobe then 1 else 0) := rfl
  rw [hfurthest]
  generalize (if c.sampleStrobe = true then 1 else 0) = ticked at *
  generalize (if (pushed s.1 c).isSome = true then 1 else 0) = served at *
  omega

theorem Kept.count_idle {s : Dac × Backlog} (h : Kept s) (hidle : s.1.ticksDue = 0) :
    s.1.sampleCount = s.1.dacLastSampleTick + UInt32.ofNat s.2.behind := by
  have hcount := h.count
  rw [if_pos hidle, UInt32.add_zero] at hcount
  exact hcount

theorem due_le (count last : UInt32) {behind : Nat} (h : count = last + UInt32.ofNat behind) :
    (if count - last > maxDrain then maxDrain else count - last).toNat ≤ behind := by
  have hdiff : count - last = UInt32.ofNat behind := by
    rw [h, UInt32.add_comm, UInt32.add_sub_cancel]
  have hle : (count - last).toNat ≤ behind := by
    rw [hdiff, UInt32.toNat_ofNat']
    exact Nat.mod_le ..
  split
  · rename_i hgt
    rw [gt_iff_lt, UInt32.lt_iff_toNat_lt] at hgt
    omega
  · exact hle

/-- Where the loop goes on: what it serves, and what the counters then say. -/
theorem Kept.loopStep {s : Dac × Backlog} (h : Kept s) :
    let served := if s.1.ticksDue = 0 then 0 else 1
    (DacFifo.loopStep s.1).ticksDue.toNat + served ≤ s.2.behind ∧
      s.1.sampleCount = (DacFifo.loopStep s.1).dacLastSampleTick +
        (if (DacFifo.loopStep s.1).ticksDue = 0 then 0
          else (DacFifo.loopStep s.1).processed - (DacFifo.loopStep s.1).ticksDue) +
        UInt32.ofNat (s.2.behind - served) := by
  have hdue := h.due
  dsimp only
  unfold DacFifo.loopStep
  by_cases hidle : s.1.ticksDue = 0
  · have hcount := h.count_idle hidle
    simp only [if_pos hidle]
    refine ⟨due_le _ _ hcount, ?_⟩
    rw [Nat.sub_zero, UInt32.sub_self, ite_self, UInt32.add_zero]
    exact hcount
  · have hcount := h.count
    simp only [if_neg hidle] at hcount ⊢
    have hpos : s.1.ticksDue.toNat ≠ 0 := fun h0 => hidle (UInt32.toNat_inj.mp h0)
    have hbehind : s.2.behind = s.2.behind - 1 + 1 := by omega
    rw [hbehind, ofNat_succ] at hcount
    refine ⟨?_, ?_⟩
    · have hone : (1 : UInt32).toNat ≤ s.1.ticksDue.toNat := Nat.one_le_iff_ne_zero.mpr hpos
      rw [UInt32.toNat_sub_of_le _ _ (UInt32.le_iff_toNat_le.mpr hone)]
      show s.1.ticksDue.toNat - 1 + 1 ≤ _
      omega
    · by_cases hlast : s.1.ticksDue = 1
      · rw [if_pos hlast, if_pos (by rw [hlast]; rfl), hcount, hlast, serve_tick, UInt32.sub_self,
          UInt32.sub_zero, UInt32.add_zero]
      · have hmore : s.1.ticksDue - 1 ≠ 0 := fun h0 => hlast (by
          rw [UInt32.sub_eq_iff_eq_add, UInt32.zero_add] at h0
          exact h0)
        rw [if_neg hlast, if_neg hmore, hcount, serve_tick]

/-- The same of every cycle: what is pushed in it is no longer due. -/
theorem Kept.loop {s : Dac × Backlog} (h : Kept s) (c : Cycle) :
    let served := if (pushed s.1 c).isSome then 1 else 0
    (DacFifo.step s.1 c).ticksDue.toNat + served ≤ s.2.behind ∧
      s.1.sampleCount = (DacFifo.step s.1 c).dacLastSampleTick +
        (if (DacFifo.step s.1 c).ticksDue = 0 then 0
          else (DacFifo.step s.1 c).processed - (DacFifo.step s.1 c).ticksDue) +
        UInt32.ofNat (s.2.behind - served) := by
  have hpushed := pushed_isSome s.1 c
  dsimp only
  unfold DacFifo.step
  dsimp only
  by_cases hadvance : c.advance = true
  · have hloop := h.loopStep
    dsimp only at hloop
    by_cases hidle : s.1.ticksDue = 0
    · simp only [if_pos hidle] at hloop
      simp only [if_pos hadvance, if_neg fun hp => (hpushed.mp hp).2 hidle]
      exact hloop
    · simp only [if_neg hidle] at hloop
      simp only [if_pos hadvance, if_pos (hpushed.mpr ⟨hadvance, hidle⟩)]
      exact hloop
  · simp only [if_neg hadvance, if_neg fun hp => hadvance (hpushed.mp hp).1]
    exact ⟨h.due, h.count⟩

theorem Kept.step {s : Dac × Backlog} (h : Kept s) {c : Cycle} (hdepth : WithinDepth s c) :
    Kept (dac.step s c) := by
  have hbehind := note_behind h c
  obtain ⟨hdue, hcount⟩ := h.loop c
  have hstrobe : (DacFifo.step s.1 c).sampleCount =
      s.1.sampleCount + UInt32.ofNat (if c.sampleStrobe then 1 else 0) := by
    show (if c.sampleStrobe then s.1.sampleCount + 1 else s.1.sampleCount) = _
    cases c.sampleStrobe with
    | false => exact (UInt32.add_zero _).symm
    | true => rfl
  refine ⟨h.level_step hdepth, ?_, ?_⟩
  · show (DacFifo.step s.1 c).ticksDue.toNat ≤ (note s.2 s.1 c).behind
    omega
  · show (DacFifo.step s.1 c).sampleCount = _ + _ + UInt32.ofNat (note s.2 s.1 c).behind
    rw [hstrobe, hcount, UInt32.add_assoc, ← UInt32.ofNat_add]
    congr 2
    omega

-- ---------------------------------------------------------------------------
-- Runs
-- ---------------------------------------------------------------------------

theorem accepted_iff (cycles : List Cycle) :
    dac.Steps Accepted cycles ↔ dac.Steps WithinDepth cycles := by
  refine Machine.steps_congr Kept ⟨rfl, Nat.le_refl _, rfl⟩ ?_
    (fun s c h => accepted_iff_withinDepth h c) cycles
  exact fun s c h hc => h.step ((accepted_iff_withinDepth h c).mp hc)

/-- A pass: the counter is read, and each tick due is served. -/
def pass (due : Nat) : List Cycle := List.replicate (due + 1) ⟨false, true, some (1, 1)⟩

/-- The loop is away for 33 ticks and then serves them, in two passes. -/
def late : List Cycle := List.replicate 33 ⟨true, false, none⟩ ++ pass 32 ++ pass 1

theorem late_dropped : ¬ dac.Steps Accepted late ∧ (dac.run late).1.i2sFifoDrops = 1 := by
  decide +kernel

end AvbAes3.DacFifo
