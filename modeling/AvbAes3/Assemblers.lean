import AvbAes3.UsbAudio

/-!
# Two assemblers

`usb_aaf_drain` reads the USB FIFO's head as one word of a CSR and assembles
the samples a batch at a time; the packetizer's assembler takes one in a
cycle, and waits while `block_fifo` is full. Both make `assembled` of the
samples, whatever the batches and whatever the waits.
-/

namespace AvbAes3.Assemblers

open AafPacketizer UsbAudio

-- ---------------------------------------------------------------------------
-- The batches
-- ---------------------------------------------------------------------------

/-- `usb_sample_data` while the sample is at the FIFO's head. -/
def sampleData (x : UsbSample) : UInt32 := x.lo &&& 0xFFFFFF00 ||| 0x10 ||| x.hi &&& 0xF

/-- A call of `usb_aaf_drain`: the talker as it finds it, which sends and
polls since the last call have changed, and the words it may read. -/
structure DrainCall where
  aaf : Aaf
  words : List UInt32

/-- The words a call takes out of the FIFO. -/
def DrainCall.drained (c : DrainCall) : List UInt32 :=
  (c.words.take 1024).takeWhile fun v => v &&& 0x10 ≠ 0

/-- The block a sample makes `usb_aaf_drain` pass to `aaf_tx_push`. -/
def pushedBlock (fw : Firmware) (v : UInt32) : Option SampleBlock :=
  if ((v >>> 3) &&& 1 = 1 ∧ fw.usbHave) ∧ fw.aaf.txEnabled then some fw.usbBlock else none

def pushedBlocks : Firmware → List UInt32 → List SampleBlock
  | _, [] => []
  | fw, v :: rest => (pushedBlock fw v).toList ++ pushedBlocks (usbSample fw v) rest

/-- The blocks that calls pass on, one call after the other. -/
def drainPushes : Firmware → List DrainCall → List SampleBlock
  | _, [] => []
  | fw, c :: rest =>
    pushedBlocks { fw with aaf := c.aaf } c.drained ++
      drainPushes (usbAafDrain { fw with aaf := c.aaf } c.words) rest

/-- What a call makes of the talker it finds is what `aaf_tx_push` makes of it
with the call's blocks, one after the other. -/
def Pushes : Firmware → List DrainCall → Prop
  | _, [] => True
  | fw, c :: rest =>
    (usbAafDrain { fw with aaf := c.aaf } c.words).aaf =
        (pushedBlocks { fw with aaf := c.aaf } c.drained).foldl aafTxPush c.aaf ∧
      Pushes (usbAafDrain { fw with aaf := c.aaf } c.words) rest

def asBlock (block : SampleBlock) : Block := fun ch => (block ch).toUInt32

-- ---------------------------------------------------------------------------
-- The cycles
-- ---------------------------------------------------------------------------

/-- Whether the FIFO's head can be read, what `block_fifo` holds, and with it
whether a block can be written, and the sample that arrives. -/
structure AsmCycle where
  readable : Bool
  blockFifo : List Block
  arrived : Option UsbSample

def AsmCycle.found (c : AsmCycle) (a : Assembler) : Assembler := { a with blockFifo := c.blockFifo }

def asmStep (a : Assembler) (c : AsmCycle) : Assembler :=
  (c.found a).step c.readable true c.arrived false

def asmPop (a : Assembler) (c : AsmCycle) : Option UsbSample := (c.found a).pop c.readable true

/-- The block written into `block_fifo`. -/
def asmPush (a : Assembler) (c : AsmCycle) : Option Block := (c.found a).push (asmPop a c)

structure AsmTrace where
  arrived : List UsbSample := []
  popped : List UsbSample := []
  written : List Block := []

def asmNote (t : AsmTrace) (a : Assembler) (c : AsmCycle) : AsmTrace where
  arrived := t.arrived ++ c.arrived.toList
  popped := t.popped ++ (asmPop a c).toList
  written := t.written ++ (asmPush a c).toList

def assembler : Machine (Assembler × AsmTrace) AsmCycle :=
  Machine.withHistory ⟨{}, asmStep⟩ {} asmNote

-- ---------------------------------------------------------------------------
-- The word of a sample
-- ---------------------------------------------------------------------------

theorem sampleData_value (x : UsbSample) : sampleData x &&& 0xFFFFFF00 = x.samp32 := by
  apply UInt32.toBitVec_inj.mp
  ext i hi
  simp only [sampleData, UsbSample.samp32, UInt32.toBitVec_and, UInt32.toBitVec_or]
  interval_cases i <;> simp

theorem sampleData_ch (x : UsbSample) : (sampleData x &&& 0x7).toNat = x.ch.val := by
  have hlow : sampleData x &&& 0x7 = x.hi &&& 0x7 := by
    apply UInt32.toBitVec_inj.mp
    ext i hi
    simp only [sampleData, UInt32.toBitVec_and, UInt32.toBitVec_or]
    interval_cases i <;> simp
  rw [hlow, UInt32.toNat_and]
  exact Nat.and_two_pow_sub_one_eq_mod x.hi.toNat 3

theorem sampleData_first (x : UsbSample) : (sampleData x >>> 3) &&& 1 = 1 ↔ x.first = true := by
  have hbit : (sampleData x >>> 3) &&& (1 : UInt32) = (x.hi >>> 3) &&& (1 : UInt32) := by
    apply UInt32.toBitVec_inj.mp
    ext i hi
    simp only [sampleData, UInt32.toBitVec_and, UInt32.toBitVec_or, UInt32.toBitVec_shiftRight]
    interval_cases i <;> simp
  rw [hbit, UsbSample.first, ← UInt32.toNat_inj, Nat.testBit, bne_iff_ne, Nat.one_and_eq_mod_two]
  simp only [UInt32.toNat_and, UInt32.toNat_shiftRight, UInt32.reduceToNat, Nat.reduceMod]
  generalize x.hi.toNat >>> 3 = n
  have hone : n &&& 1 = n % 2 := Nat.and_two_pow_sub_one_eq_mod n 1
  rw [hone]
  omega

-- ---------------------------------------------------------------------------
-- usb_aaf_drain
-- ---------------------------------------------------------------------------

/-- What the statics hold after these samples. -/
structure Drained (fw : Firmware) (samples : List UsbSample) : Prop where
  have_ : fw.usbHave = true ↔ samples ≠ []
  block : asBlock fw.usbBlock = blockOf (lastFrame samples)

theorem usbSample_aaf (fw : Firmware) (v : UInt32) :
    (usbSample fw v).aaf = (pushedBlock fw v).toList.foldl aafTxPush fw.aaf := by
  unfold usbSample pushedBlock
  dsimp only
  split <;> rfl

theorem usbSample_enabled (fw : Firmware) (v : UInt32) :
    (usbSample fw v).aaf.txEnabled = fw.aaf.txEnabled := by
  rw [usbSample_aaf]
  cases pushedBlock fw v <;> rfl

/-- What a call leaves in the talker's ring. -/
theorem usbAafDrain_aaf (fw : Firmware) (c : DrainCall) :
    (usbAafDrain fw c.words).aaf = (pushedBlocks fw c.drained).foldl aafTxPush fw.aaf := by
  rw [usbAafDrain, ← DrainCall.drained]
  induction c.drained generalizing fw with
  | nil => rfl
  | cons v rest ih => rw [List.foldl_cons, ih, pushedBlocks, List.foldl_append, usbSample_aaf]

theorem pushes (fw : Firmware) (calls : List DrainCall) : Pushes fw calls := by
  induction calls generalizing fw with
  | nil => trivial
  | cons c rest ih => exact ⟨usbAafDrain_aaf .., ih _⟩

theorem Drained.sample {fw : Firmware} {samples : List UsbSample} (h : Drained fw samples)
    (henabled : fw.aaf.txEnabled = true) (x : UsbSample) :
    Drained (usbSample fw (sampleData x)) (samples ++ [x]) ∧
      assembled (samples ++ [x]) =
        assembled samples ++ ((pushedBlock fw (sampleData x)).map asBlock).toList := by
  obtain ⟨hblocks, hlast⟩ := assembled_snoc samples x
  have hflush : ((sampleData x >>> 3) &&& 1 = 1 ∧ fw.usbHave = true) ↔
      (x.first = true ∧ samples ≠ []) := and_congr (sampleData_first x) h.have_
  refine ⟨⟨?_, ?_⟩, ?_⟩
  · exact iff_of_true rfl (by simp)
  · rw [hlast, ← h.block, usbSample]
    funext ch
    simp only [asBlock, hflush, sampleData_ch, sampleData_value]
    by_cases hch : ch = x.ch
    · rw [hch, if_pos rfl, Function.update_self]
      rfl
    · rw [if_neg fun heq => hch (Fin.ext heq), Function.update_of_ne hch]
      split <;> rfl
  · rw [hblocks, pushedBlock, ← h.block]
    simp only [hflush, henabled, and_true]
    split <;> rfl

theorem Drained.samples {fw : Firmware} {samples : List UsbSample} (h : Drained fw samples)
    (henabled : fw.aaf.txEnabled = true) (more : List UsbSample) :
    Drained ((more.map sampleData).foldl usbSample fw) (samples ++ more) ∧
      assembled (samples ++ more) =
        assembled samples ++ (pushedBlocks fw (more.map sampleData)).map asBlock := by
  induction more generalizing fw samples with
  | nil =>
    rw [List.append_nil, List.map_nil, pushedBlocks, List.map_nil, List.append_nil]
    exact ⟨h, rfl⟩
  | cons x rest ih =>
    obtain ⟨hone, hblock⟩ := h.sample henabled x
    obtain ⟨hall, hblocks⟩ := ih hone ((usbSample_enabled ..).trans henabled)
    rw [← List.append_cons] at hall hblocks
    refine ⟨hall, ?_⟩
    rw [hblocks, hblock, List.map_cons, pushedBlocks, List.map_append, List.append_assoc]
    cases pushedBlock fw (sampleData x) <;> rfl

/-- The calls make the blocks of all the samples they take. -/
theorem Drained.calls {fw : Firmware} {before : List UsbSample} (h : Drained fw before)
    {calls : List DrainCall} (henabled : ∀ c ∈ calls, c.aaf.txEnabled = true)
    {samples : List UsbSample} (hsamples : calls.flatMap DrainCall.drained = samples.map sampleData) :
    assembled (before ++ samples) = assembled before ++ (drainPushes fw calls).map asBlock := by
  induction calls generalizing fw before samples with
  | nil =>
    have hnil : samples = [] := List.map_eq_nil_iff.mp hsamples.symm
    rw [hnil, List.append_nil, drainPushes, List.map_nil, List.append_nil]
  | cons c rest ih =>
    rw [List.flatMap_cons] at hsamples
    obtain ⟨first, last, rfl, hfirst, hlast⟩ := List.map_eq_append_iff.mp hsamples.symm
    have hfound : Drained { fw with aaf := c.aaf } before := ⟨h.have_, h.block⟩
    obtain ⟨hafter, hblocks⟩ := hfound.samples (henabled c List.mem_cons_self) first
    rw [hfirst] at hafter hblocks
    have hrest := ih hafter (fun c' hc' => henabled c' (List.mem_cons_of_mem _ hc')) hlast.symm
    rw [← List.append_assoc, hrest, hblocks, drainPushes, List.map_append, List.append_assoc]
    rfl

-- ---------------------------------------------------------------------------
-- The packetizer's assembler
-- ---------------------------------------------------------------------------

structure AsmMade (s : Assembler × AsmTrace) : Prop where
  arrived : s.2.arrived = s.2.popped ++ s.1.usb
  have_ : s.1.have_ = true ↔ s.2.popped ≠ []
  cur : s.1.cur = blockOf (lastFrame s.2.popped)
  written : s.2.written = assembled s.2.popped

theorem AsmMade.step {s : Assembler × AsmTrace} (h : AsmMade s) (c : AsmCycle) :
    AsmMade (assembler.step s c) := by
  obtain ⟨a, t⟩ := s
  have harrived := h.arrived
  have hhave := h.have_
  have hcur := h.cur
  have hwritten := h.written
  dsimp only at harrived hhave hcur hwritten
  have hneed (x : UsbSample) : (c.found a).needPush x = true ↔ x.first = true ∧ t.popped ≠ [] := by
    rw [Assembler.needPush, Bool.and_eq_true, ← hhave]
    rfl
  cases hpop : asmPop a c with
  | none =>
    have hpush : asmPush a c = none := by
      rw [asmPush, hpop]
      rfl
    have hstep : (asmStep a c).usb = a.usb ++ c.arrived.toList ∧
        (asmStep a c).have_ = a.have_ ∧ (asmStep a c).cur = a.cur := by
      rw [asmStep, Assembler.step, ← asmPop, hpop]
      exact ⟨rfl, rfl, rfl⟩
    obtain ⟨husb, hhave', hcur'⟩ := hstep
    constructor
    · show t.arrived ++ c.arrived.toList =
        t.popped ++ (asmPop a c).toList ++ (asmStep a c).usb
      rw [hpop, husb, harrived]
      simp
    · show (asmStep a c).have_ = true ↔ t.popped ++ (asmPop a c).toList ≠ []
      rw [hpop, hhave', hhave, Option.toList_none, List.append_nil]
    · show (asmStep a c).cur = blockOf (lastFrame (t.popped ++ (asmPop a c).toList))
      rw [hpop, hcur', hcur, Option.toList_none, List.append_nil]
    · show t.written ++ (asmPush a c).toList = assembled (t.popped ++ (asmPop a c).toList)
      rw [hpop, hpush, hwritten, Option.toList_none, Option.toList_none, List.append_nil,
        List.append_nil]
  | some x =>
    obtain ⟨hblocks, hlast⟩ := assembled_snoc t.popped x
    have hstep : (asmStep a c).usb = a.usb.tail ++ c.arrived.toList ∧
        (asmStep a c).have_ = true ∧ (asmStep a c).cur =
          Function.update (if (c.found a).needPush x then silence else a.cur) x.ch x.samp32 := by
      rw [asmStep, Assembler.step, ← asmPop, hpop]
      exact ⟨rfl, rfl, rfl⟩
    obtain ⟨husb, hhave', hcur'⟩ := hstep
    have hhead : a.usb = x :: a.usb.tail := (pop_some hpop).1
    constructor
    · show t.arrived ++ c.arrived.toList =
        t.popped ++ (asmPop a c).toList ++ (asmStep a c).usb
      rw [hpop, husb, harrived, hhead]
      simp
    · show (asmStep a c).have_ = true ↔ t.popped ++ (asmPop a c).toList ≠ []
      rw [hpop]
      exact iff_of_true hhave' (by simp)
    · show (asmStep a c).cur = blockOf (lastFrame (t.popped ++ (asmPop a c).toList))
      rw [hpop, Option.toList_some, hlast, hcur', hcur]
      simp only [hneed x]
    · show t.written ++ (asmPush a c).toList = assembled (t.popped ++ (asmPop a c).toList)
      rw [hpop, Option.toList_some, hblocks, hwritten, asmPush, hpop, Assembler.push,
        Option.bind_some]
      simp only [hneed x, ← hcur]
      split <;> rfl

theorem asmMade_run (cycles : List AsmCycle) : AsmMade (assembler.run cycles) :=
  Machine.run_invariant ⟨rfl, by simp [assembler, Machine.withHistory], rfl, rfl⟩
    (fun _ c h => h.step c) cycles

/-- Beside the FIFO it really has, the assembler goes through one of these
runs. -/
theorem asmStep_found (a : Assembler) (readable re : Bool) (arrived : Option UsbSample) :
    a.step readable true arrived re =
      { asmStep a ⟨readable, a.blockFifo, arrived⟩ with
        blockFifo := SyncFifo.next fifoDepth a.blockFifo
          (asmPush a ⟨readable, a.blockFifo, arrived⟩) re } := rfl

/-- From the reset states, what goes to `aaf_tx_push` is what the packetizer's
assembler makes of the same samples. -/
theorem assemblers_agree (samples : List UsbSample) (calls : List DrainCall)
    (cycles : List AsmCycle) (henabled : ∀ c ∈ calls, c.aaf.txEnabled = true)
    (hdrained : calls.flatMap DrainCall.drained = samples.map sampleData)
    (harrived : cycles.flatMap (fun c => c.arrived.toList) = samples)
    (hpopped : (assembler.run cycles).1.usb = []) :
    (drainPushes boot calls).map asBlock = (assembler.run cycles).2.written ∧
      Pushes boot calls := by
  refine ⟨?_, pushes boot calls⟩
  have hmade := asmMade_run cycles
  have hall : (assembler.run cycles).2.arrived = samples := by
    rw [← harrived]
    refine cycles.reverseRecOn rfl fun before c ih => ?_
    rw [Machine.run_concat, List.flatMap_append, ← ih, List.flatMap_singleton]
    rfl
  have hsame : (assembler.run cycles).2.popped = samples := by
    rw [← hall, hmade.arrived, hpopped, List.append_nil]
  have hboot : Drained boot [] := ⟨by simp [boot], rfl⟩
  have hcalls := hboot.calls henabled hdrained
  rw [hmade.written, hsame]
  exact hcalls.symm

/-- Two samples of a frame and the first of the next, in two calls. -/
def splitCalls : List DrainCall :=
  [⟨{ boot.aaf with txEnabled := true }, [0x00000118, 0x00000213, 0]⟩,
    ⟨{ boot.aaf with txEnabled := true }, [0x00000318, 0]⟩]

/-- The assembler waits a cycle for `block_fifo`. -/
theorem assemblers_agree_split :
    (drainPushes boot splitCalls).map asBlock =
        (assembler.run
          [⟨false, [], some ⟨0x100, 8⟩⟩, ⟨true, [], some ⟨0x200, 3⟩⟩, ⟨true, [], some ⟨0x300, 8⟩⟩,
            ⟨true, List.replicate 64 silence, none⟩, ⟨true, [], none⟩]).2.written ∧
      Pushes boot splitCalls := by
  refine assemblers_agree [⟨0x100, 8⟩, ⟨0x200, 3⟩, ⟨0x300, 8⟩] _ _ ?_ ?_ ?_ ?_
  · simp [splitCalls]
  · decide
  · decide
  · rfl

end AvbAes3.Assemblers
