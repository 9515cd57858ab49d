import AvbAes3.AafPacketizer
import AvbAes3.ClockSource
import AvbAes3.Lib.Machine
import AvbAes3.Lib.SyncFifo
import Mathlib.Data.List.ReduceOption
import Mathlib.Data.List.SplitBy

/-!
# From the USB samples to the packets

The samples of the USB FIFO are assembled to blocks of eight channels, which
wait in `block_fifo`. Each strobe of the media clock moves one block, or
silence, to the half of `pay` that is being filled; the sixth hands the half
over to the builder and the other is filled. A hand-over that finds the
builder at work is a packet skipped. Nothing stops the filling, so that the
builder reads a half before it is filled again rests on the NCO: its
increment is clamped, and while the builder goes through a frame's 234 bytes
it strobes twice at most.

`inOrder`: the payloads of the packets are the assembled blocks, in order,
with silence where a strobe found the FIFO empty.
-/

namespace AvbAes3.UsbAudio

open AafPacketizer ClockSource

-- ---------------------------------------------------------------------------
-- The media clock
-- ---------------------------------------------------------------------------

/-- `MCRNco`; the strobe is a register. -/
structure Nco where
  phase : UInt32 := 0
  sampleStrobe : Bool := false

def Nco.step (n : Nco) (increment : UInt32) : Nco where
  phase := n.phase + increment
  sampleStrobe := decide (2 ^ 32 ≤ n.phase.toNat + increment.toNat)

/-- The bound of the servo's clamp. -/
def maxIncrement : Nat :=
  (mcrInit configClockFrequency 48000).1.baseIncrement.toNat + mcrIncrementMaxDelta.toNatClampNeg

-- ---------------------------------------------------------------------------
-- The assembler
-- ---------------------------------------------------------------------------

def fifoDepth : Nat := 64

def silence : Block := fun _ => 0

/-- The words at the head of the USB FIFO. -/
structure UsbSample where
  lo : UInt32
  hi : UInt32
  deriving DecidableEq

def UsbSample.ch (x : UsbSample) : Fin aafChannels := channelOf x.hi.toNat
def UsbSample.first (x : UsbSample) : Bool := x.hi.toNat.testBit 3
def UsbSample.samp32 (x : UsbSample) : UInt32 := x.lo &&& 0xFFFFFF00

/-- `usb` is what waits in the USB FIFO, whose own overflow is not of the
packetizer. -/
structure Assembler where
  usb : List UsbSample := []
  cur : Block := silence
  have_ : Bool := false
  blockFifo : List Block := []

def Assembler.needPush (a : Assembler) (x : UsbSample) : Bool := x.first && a.have_

def Assembler.writable (a : Assembler) : Bool := decide (a.blockFifo.length < fifoDepth)

/-- The sample popped in a cycle: a sample that closes a block waits until
the FIFO takes the block. -/
def Assembler.pop (a : Assembler) (readable enable : Bool) : Option UsbSample :=
  (if readable then a.usb.head? else none).filter fun x =>
    enable && (!a.needPush x || a.writable)

/-- The block pushed with it. -/
def Assembler.push (a : Assembler) (popped : Option UsbSample) : Option Block :=
  popped.bind fun x => if a.needPush x then some a.cur else none

def Assembler.step (a : Assembler) (readable enable : Bool) (arrived : Option UsbSample)
    (re : Bool) : Assembler :=
  let popped := a.pop readable enable
  { usb := (if popped.isSome then a.usb.tail else a.usb) ++ arrived.toList
    cur :=
      match popped with
      | some x => Function.update (if a.needPush x then silence else a.cur) x.ch x.samp32
      | none => a.cur
    have_ := popped.isSome || a.have_
    blockFifo := SyncFifo.next fifoDepth a.blockFifo (a.push popped) re }

-- ---------------------------------------------------------------------------
-- The halves
-- ---------------------------------------------------------------------------

structure PingPong where
  pay : Bool → Nat → Block := fun _ _ => silence
  fillBuf : Bool := false
  sendBuf : Bool := false
  blkIdx : Nat := 0
  sendReq : Bool := false
  underruns : UInt32 := 0

/-- `dout` is the head of `block_fifo`. -/
def PingPong.step (p : PingPong) (strobe : Bool) (dout : Option Block) : PingPong :=
  if strobe then
    let half := Function.update (p.pay p.fillBuf) p.blkIdx (dout.getD silence)
    let p' : PingPong := { p with
      pay := Function.update p.pay p.fillBuf half
      underruns := if dout.isNone then p.underruns + 1 else p.underruns }
    if p.blkIdx = aafSamplesPerPacket - 1 then
      { p' with blkIdx := 0, sendBuf := p.fillBuf, fillBuf := !p.fillBuf, sendReq := true }
    else { p' with blkIdx := p.blkIdx + 1, sendReq := false }
  else { p with sendReq := false }

-- ---------------------------------------------------------------------------
-- The packetizer
-- ---------------------------------------------------------------------------

structure Packetizer where
  nco : Nco := {}
  asm : Assembler := {}
  pingPong : PingPong := {}
  builder : Builder := {}

/-- A sample that arrives in the USB FIFO, whether the FIFO's head can be
read, the NCO's increment, and what the builder sees besides. -/
structure Cycle where
  arrived : Option UsbSample
  readable : Bool
  increment : UInt32
  regs : AafPktRegs
  presOffset : UInt32
  tsu : PtpTimestamp
  ready : Bool

def strobe (s : Packetizer) (c : Cycle) : Bool := s.nco.sampleStrobe && c.regs.enable

def seen (s : Packetizer) (c : Cycle) : Seen :=
  ⟨s.pingPong.sendReq, c.tsu, c.regs, c.presOffset, s.pingPong.pay s.pingPong.sendBuf, c.ready⟩

def step (s : Packetizer) (c : Cycle) : Packetizer where
  nco := s.nco.step c.increment
  asm := s.asm.step c.readable c.regs.enable c.arrived (strobe s c)
  pingPong := s.pingPong.step (strobe s c) s.asm.blockFifo.head?
  builder := s.builder.step (seen s c)

-- ---------------------------------------------------------------------------
-- What goes in and what comes out
-- ---------------------------------------------------------------------------

def beats (frameRam : Nat → Word) : List AafPacketizer.Beat := (List.range nWords).map (beatAt frameRam)

/-- The samples that arrived and those consumed; for each strobe whether it
found `block_fifo` empty; the packets built, `none` for one skipped; and the
beats the arbiter took. -/
structure Trace where
  arrived : List UsbSample := []
  consumed : List UsbSample := []
  strobes : List Bool := []
  packets : List (Option (List AafPacketizer.Beat)) := []
  accepted : List AafPacketizer.Beat := []

/-- The packet the builder finishes in the cycle. -/
def finished (s : Packetizer) (c : Cycle) : List (Option (List AafPacketizer.Beat)) :=
  if s.builder.fsm = .build ∧ s.builder.byteIdx = total - 1 then
    [some (beats (s.builder.step (seen s c)).frameRam)]
  else []

def skipped (s : Packetizer) : List (Option (List AafPacketizer.Beat)) :=
  if s.pingPong.sendReq ∧ s.builder.fsm ≠ .idle then [none] else []

def note (t : Trace) (s : Packetizer) (c : Cycle) : Trace where
  arrived := t.arrived ++ c.arrived.toList
  consumed := t.consumed ++ (s.asm.pop c.readable c.regs.enable).toList
  strobes := t.strobes ++ if strobe s c then [s.asm.blockFifo.isEmpty] else []
  packets := t.packets ++ finished s c ++ skipped s
  accepted := t.accepted ++ if c.ready then s.builder.source.toList else []

def packetizer : Machine (Packetizer × Trace) Cycle := Machine.withHistory ⟨{}, step⟩ {} note

def Clamped (_ : Packetizer × Trace) (c : Cycle) : Prop := c.increment.toNat ≤ maxIncrement

instance (s : Packetizer × Trace) (c : Cycle) : Decidable (Clamped s c) :=
  inferInstanceAs (Decidable (_ ≤ _))

-- ---------------------------------------------------------------------------
-- What the audio is
-- ---------------------------------------------------------------------------

/-- A `first` sample begins a frame. -/
def frames (samples : List UsbSample) : List (List UsbSample) :=
  samples.splitBy fun _ x => !x.first

/-- The last sample of each channel, zero where there is none. -/
def blockOf (frame : List UsbSample) : Block :=
  frame.foldl (fun block x => Function.update block x.ch x.samp32) silence

/-- A frame is assembled when the next one begins. -/
def assembled (samples : List UsbSample) : List Block := (frames samples).dropLast.map blockOf

/-- The blocks, with silence at the strobes that found none. -/
def withSilence : List Bool → List Block → List Block
  | [], _ => []
  | true :: strobes, blocks => silence :: withSilence strobes blocks
  | false :: strobes, block :: blocks => block :: withSilence strobes blocks
  | false :: _, [] => []

def Trace.audio (t : Trace) : List Block := withSilence t.strobes (assembled t.consumed)

/-- The six blocks of a packet. -/
def packetBlocks (audio : List Block) (i : Nat) : List Block :=
  (audio.drop (aafSamplesPerPacket * i)).take aafSamplesPerPacket

def payloadOf (packet : List AafPacketizer.Beat) : List UInt8 :=
  ((packet.flatMap fun beat => beat.data.bytes).take total).drop hdrLen

/-- A half is waiting for the builder, or in it. -/
def Packetizer.pending (s : Packetizer) : Bool := s.pingPong.sendReq || s.builder.fsm == .build

/-- The beats of the packet being sent that the arbiter has not taken. -/
def Packetizer.unsent (s : Packetizer) : List AafPacketizer.Beat :=
  if s.builder.fsm = .stream then (beats s.builder.frameRam).drop s.builder.rdIdx else []

structure InOrder (s : Packetizer × Trace) : Prop where
  arrived : s.2.arrived = s.2.consumed ++ s.1.asm.usb
  waiting : (assembled s.2.consumed).drop (s.2.strobes.count false) = s.1.asm.blockFifo
  strobes : s.2.audio.length = s.2.strobes.length
  payload : ∀ (i : Nat) (packet : List AafPacketizer.Beat), s.2.packets[i]? = some (some packet) →
    payloadOf packet = (packetBlocks s.2.audio i).flatMap blockBytes
  packets : s.2.packets.length + (if s.1.pending then 1 else 0) =
    s.2.audio.length / aafSamplesPerPacket
  accepted : s.2.accepted ++ s.1.unsent = s.2.packets.reduceOption.flatten

-- ---------------------------------------------------------------------------
-- Frames
-- ---------------------------------------------------------------------------

theorem frames_first (samples : List UsbSample) {x : UsbSample} (h : x.first = true) :
    frames (samples ++ [x]) = frames samples ++ [[x]] := by
  rw [frames, List.splitBy_append_cons [] fun _ _ => by rw [h]; rfl]
  rfl

/-- Another sample of the last frame. -/
theorem frames_more {samples : List UsbSample} {closed : List (List UsbSample)}
    {last : List UsbSample} (hframes : frames samples = closed ++ [last]) {x : UsbSample}
    (h : x.first = false) : frames (samples ++ [x]) = closed ++ [last ++ [x]] := by
  obtain ⟨hflat, hne, hchain, hheads⟩ := List.splitBy_eq_iff.mp hframes
  refine List.splitBy_eq_iff.mpr ⟨?_, ?_, fun group hgroup => ?_, ?_⟩
  · rw [hflat]
    simp
  · simp only [List.mem_append, List.mem_singleton, not_or] at hne ⊢
    exact ⟨hne.1, by simp⟩
  · rcases List.mem_append.mp hgroup with hmem | hmem
    · exact hchain group (List.mem_append_left _ hmem)
    · rw [List.mem_singleton.mp hmem]
      refine List.IsChain.append (hchain last (by simp)) (List.isChain_singleton x) ?_
      rintro _ _ y hy
      rw [← Option.some.inj hy, h]
      rfl
  · have hlast : last ≠ [] := fun hnil => hne (by simp [hnil])
    rw [List.isChain_append] at hheads ⊢
    refine ⟨hheads.1, List.isChain_singleton _, ?_⟩
    rintro before hbefore _ hmem
    rw [← Option.some.inj hmem]
    obtain ⟨hb, _, hr⟩ := hheads.2.2 before hbefore last rfl
    refine ⟨hb, by simp, ?_⟩
    rw [List.head_append_of_ne_nil hlast]
    exact hr

theorem blockOf_snoc (frame : List UsbSample) (x : UsbSample) :
    blockOf (frame ++ [x]) = Function.update (blockOf frame) x.ch x.samp32 := by
  rw [blockOf, blockOf, List.foldl_append]
  rfl

/-- The frame in progress. -/
def lastFrame (samples : List UsbSample) : List UsbSample := (frames samples).getLast?.getD []

theorem frames_split {samples : List UsbSample} (h : samples ≠ []) :
    ∃ closed, frames samples = closed ++ [lastFrame samples] := by
  have hne : frames samples ≠ [] := List.splitBy_ne_nil.mpr h
  refine ⟨(frames samples).dropLast, ?_⟩
  rw [lastFrame, List.getLast?_eq_some_getLast hne, Option.getD_some,
    List.dropLast_append_getLast]

/-- What one more sample does to the blocks assembled and the one in
progress. -/
theorem assembled_snoc (samples : List UsbSample) (x : UsbSample) :
    assembled (samples ++ [x]) =
        assembled samples ++
          (if x.first ∧ samples ≠ [] then [blockOf (lastFrame samples)] else []) ∧
      blockOf (lastFrame (samples ++ [x])) =
        Function.update (if x.first ∧ samples ≠ [] then silence else blockOf (lastFrame samples))
          x.ch x.samp32 := by
  by_cases hnil : samples = []
  · rw [hnil, if_neg (fun h => h.2 rfl), if_neg (fun h => h.2 rfl)]
    exact ⟨rfl, rfl⟩
  obtain ⟨closed, hframes⟩ := frames_split hnil
  by_cases hfirst : x.first = true
  · have hnext := frames_first samples hfirst
    have hlast : lastFrame (samples ++ [x]) = [x] := by
      rw [lastFrame, hnext, List.getLast?_concat]
      rfl
    rw [if_pos ⟨hfirst, hnil⟩, if_pos ⟨hfirst, hnil⟩, hlast, assembled, assembled, hnext,
      List.dropLast_concat, hframes, List.dropLast_concat, List.map_append]
    exact ⟨rfl, rfl⟩
  · have hnext := frames_more hframes (eq_false_of_ne_true hfirst)
    have hlast : lastFrame (samples ++ [x]) = lastFrame samples ++ [x] := by
      rw [lastFrame, hnext, List.getLast?_concat]
      rfl
    rw [if_neg (fun h => hfirst h.1), if_neg (fun h => hfirst h.1), List.append_nil, hlast,
      assembled, assembled, hframes, hnext, List.dropLast_concat, List.dropLast_concat]
    exact ⟨rfl, blockOf_snoc _ x⟩

-- ---------------------------------------------------------------------------
-- Silence
-- ---------------------------------------------------------------------------

/-- Blocks behind those read make no difference. -/
theorem withSilence_append {strobes : List Bool} {blocks : List Block}
    (h : strobes.count false ≤ blocks.length) (more : List Block) :
    withSilence strobes (blocks ++ more) = withSilence strobes blocks := by
  induction strobes generalizing blocks with
  | nil => rfl
  | cons found rest ih =>
    cases found with
    | true =>
      rw [withSilence, withSilence, ih]
      simpa using h
    | false =>
      cases blocks with
      | nil => simp at h
      | cons block blocks =>
        rw [List.cons_append, withSilence, withSilence, ih]
        simpa using h

theorem withSilence_length {strobes : List Bool} {blocks : List Block}
    (h : strobes.count false ≤ blocks.length) :
    (withSilence strobes blocks).length = strobes.length := by
  induction strobes generalizing blocks with
  | nil => rfl
  | cons found rest ih =>
    cases found with
    | true =>
      rw [withSilence, List.length_cons, List.length_cons, ih]
      simpa using h
    | false =>
      cases blocks with
      | nil => simp at h
      | cons block blocks =>
        rw [withSilence, List.length_cons, List.length_cons, ih]
        simpa using h

/-- A strobe takes the first of the blocks that wait, or silence. -/
theorem withSilence_snoc {strobes : List Bool} {blocks waiting : List Block}
    (h : strobes.count false ≤ blocks.length) (hwaiting : blocks.drop (strobes.count false) = waiting) :
    withSilence (strobes ++ [waiting.isEmpty]) blocks =
      withSilence strobes blocks ++ [waiting.head?.getD silence] := by
  induction strobes generalizing blocks with
  | nil =>
    rw [List.count_nil, List.drop_zero] at hwaiting
    rw [hwaiting]
    cases waiting <;> rfl
  | cons found rest ih =>
    cases found with
    | true =>
      rw [List.cons_append, withSilence, withSilence, ih, List.cons_append]
      · simpa using h
      · simpa using hwaiting
    | false =>
      cases blocks with
      | nil => simp at h
      | cons block blocks =>
        rw [List.cons_append, withSilence, withSilence, ih, List.cons_append]
        · simpa using h
        · simpa using hwaiting

-- ---------------------------------------------------------------------------
-- The assembler
-- ---------------------------------------------------------------------------

structure Assembling (a : Assembler) (t : Trace) : Prop where
  arrived : t.arrived = t.consumed ++ a.usb
  have_ : a.have_ = true ↔ t.consumed ≠ []
  cur : a.cur = blockOf (lastFrame t.consumed)
  enough : t.strobes.count false ≤ (assembled t.consumed).length
  waiting : (assembled t.consumed).drop (t.strobes.count false) = a.blockFifo

/-- The sample popped was the head, and its block has room. -/
theorem pop_some {a : Assembler} {readable enable : Bool} {x : UsbSample}
    (h : a.pop readable enable = some x) :
    a.usb = x :: a.usb.tail ∧ (a.needPush x = true → a.blockFifo.length < fifoDepth) := by
  rw [Assembler.pop, Option.filter_eq_some_iff] at h
  obtain ⟨hhead, hroom⟩ := h
  refine ⟨?_, fun hpush => ?_⟩
  · cases readable with
    | false => cases hhead
    | true => exact List.eq_cons_of_mem_head? hhead
  · rw [hpush] at hroom
    simp only [Assembler.writable, Bool.not_true, Bool.false_or, Bool.and_eq_true,
      decide_eq_true_eq] at hroom
    exact hroom.2

variable {s : Packetizer × Trace} {c : Cycle}

theorem Assembling.needPush (h : Assembling s.1.asm s.2) (x : UsbSample) :
    s.1.asm.needPush x = true ↔ x.first = true ∧ s.2.consumed ≠ [] := by
  rw [Assembler.needPush, Bool.and_eq_true, h.have_]

/-- The block pushed is the one that the sample completes. -/
theorem Assembling.pushed (h : Assembling s.1.asm s.2) (c : Cycle) :
    assembled (note s.2 s.1 c).consumed = assembled s.2.consumed ++
      (s.1.asm.push (s.1.asm.pop c.readable c.regs.enable)).toList := by
  show assembled (s.2.consumed ++ (s.1.asm.pop c.readable c.regs.enable).toList) = _
  cases s.1.asm.pop c.readable c.regs.enable with
  | none => rw [Assembler.push, Option.toList_none, List.append_nil]; exact (List.append_nil _).symm
  | some x =>
    have hpush := h.needPush x
    rw [Option.toList_some, (assembled_snoc _ x).1, Assembler.push, Option.bind_some, ← h.cur]
    by_cases hclose : x.first = true ∧ s.2.consumed ≠ []
    · rw [if_pos hclose, if_pos (hpush.mpr hclose)]
      rfl
    · rw [if_neg hclose, if_neg fun hp => hclose (hpush.mp hp)]
      rfl

/-- `block_fifo` never drops. -/
theorem next_push (a : Assembler) (readable enable re : Bool) :
    SyncFifo.next fifoDepth a.blockFifo (a.push (a.pop readable enable)) re =
      (if re then a.blockFifo.tail else a.blockFifo) ++ (a.push (a.pop readable enable)).toList := by
  cases hpop : a.pop readable enable with
  | none => simp [Assembler.push]
  | some x =>
    rw [Assembler.push, Option.bind_some]
    by_cases hpush : a.needPush x = true
    · rw [if_pos hpush, SyncFifo.next_room ((pop_some hpop).2 hpush)]
    · rw [if_neg hpush]
      simp

/-- The blocks that have been read, after the cycle. -/
theorem Assembling.read (h : Assembling s.1.asm s.2) (c : Cycle) :
    (note s.2 s.1 c).strobes.count false = s.2.strobes.count false +
        (if strobe s.1 c ∧ s.1.asm.blockFifo ≠ [] then 1 else 0) ∧
      (note s.2 s.1 c).strobes.count false ≤ (assembled s.2.consumed).length := by
  have hcount : (note s.2 s.1 c).strobes.count false = s.2.strobes.count false +
      if strobe s.1 c ∧ s.1.asm.blockFifo ≠ [] then 1 else 0 := by
    show (s.2.strobes ++ if strobe s.1 c then [s.1.asm.blockFifo.isEmpty] else []).count false = _
    cases hstrobe : strobe s.1 c with
    | false => simp
    | true =>
      cases s.1.asm.blockFifo <;> simp
  have henough := h.enough
  refine ⟨hcount, ?_⟩
  rw [hcount]
  split
  · rename_i hread
    have hlt : s.2.strobes.count false < (assembled s.2.consumed).length := by
      refine Nat.lt_of_not_le fun hle => hread.2 ?_
      rw [← h.waiting, List.drop_eq_nil_of_le hle]
    omega
  · omega

theorem Assembling.step (h : Assembling s.1.asm s.2) (c : Cycle) :
    Assembling (UsbAudio.step s.1 c).asm (note s.2 s.1 c) := by
  have hpushed := h.pushed c
  obtain ⟨hcount, hread⟩ := h.read c
  constructor
  · show s.2.arrived ++ c.arrived.toList =
      s.2.consumed ++ (s.1.asm.pop c.readable c.regs.enable).toList ++
        ((if (s.1.asm.pop c.readable c.regs.enable).isSome then s.1.asm.usb.tail else s.1.asm.usb) ++
          c.arrived.toList)
    rw [h.arrived]
    cases hpop : s.1.asm.pop c.readable c.regs.enable with
    | none => simp
    | some x =>
      rw [(pop_some hpop).1]
      simp
  · show ((s.1.asm.pop c.readable c.regs.enable).isSome || s.1.asm.have_) = true ↔
      s.2.consumed ++ (s.1.asm.pop c.readable c.regs.enable).toList ≠ []
    have hhave := h.have_
    cases s.1.asm.pop c.readable c.regs.enable with
    | none => simpa using hhave
    | some x => simp
  · show (match s.1.asm.pop c.readable c.regs.enable with
        | some x => Function.update (if s.1.asm.needPush x then silence else s.1.asm.cur) x.ch x.samp32
        | none => s.1.asm.cur) =
      blockOf (lastFrame (s.2.consumed ++ (s.1.asm.pop c.readable c.regs.enable).toList))
    cases s.1.asm.pop c.readable c.regs.enable with
    | none =>
      rw [Option.toList_none, List.append_nil]
      exact h.cur
    | some x =>
      rw [Option.toList_some, (assembled_snoc _ x).2, h.cur]
      simp only [h.needPush x]
  · rw [hpushed, List.length_append]
    omega
  · rw [hcount, hpushed, ← List.drop_drop, List.drop_append_of_le_length h.enough, h.waiting]
    refine Eq.trans ?_ (next_push s.1.asm c.readable c.regs.enable (strobe s.1 c)).symm
    cases hstrobe : strobe s.1 c with
    | false => rw [if_neg (by simp), if_neg Bool.false_ne_true, List.drop_zero]
    | true =>
      cases hfifo : s.1.asm.blockFifo <;> simp

/-- A strobe adds the block it takes to the audio. -/
theorem Assembling.audio (h : Assembling s.1.asm s.2) (c : Cycle) :
    (note s.2 s.1 c).audio = s.2.audio ++
      if strobe s.1 c then [s.1.asm.blockFifo.head?.getD silence] else [] := by
  rw [Trace.audio, h.pushed c, withSilence_append (h.read c).2]
  show withSilence (s.2.strobes ++ if strobe s.1 c then [s.1.asm.blockFifo.isEmpty] else [])
    (assembled s.2.consumed) = _
  cases strobe s.1 c with
  | false =>
    rw [if_neg Bool.false_ne_true, if_neg Bool.false_ne_true, List.append_nil, List.append_nil]
    rfl
  | true =>
    rw [if_pos rfl, if_pos rfl]
    exact withSilence_snoc h.enough h.waiting

-- ---------------------------------------------------------------------------
-- Time
-- ---------------------------------------------------------------------------

theorem maxIncrement_eq : maxIncrement = 20900385 := by decide +kernel

theorem clampInt64_toInt {lo hi : Int64} (h : lo.toInt ≤ hi.toInt) (x : Int64) :
    lo.toInt ≤ (clampInt64 lo hi x).toInt ∧ (clampInt64 lo hi x).toInt ≤ hi.toInt := by
  rw [clampInt64]
  simp only [gt_iff_lt, Int64.lt_iff_toInt_lt]
  split_ifs <;> omega

theorem toUInt32_le {x : Int64} {bound : Nat} (hpos : 0 ≤ x) (h : x.toInt ≤ bound) :
    x.toUInt64.toUInt32.toNat ≤ bound := by
  rw [UInt64.toNat_toUInt32, Int64.toNat_toUInt64_of_le hpos]
  have hnat := Int64.cast_toNatClampNeg x hpos
  have hmod := Nat.mod_le x.toNatClampNeg (2 ^ 32)
  omega

theorem mcrPi_clamped {m : Mcr}
    (h : m.baseIncrement = (mcrInit configClockFrequency 48000).1.baseIncrement) (delta : Int64) :
    (mcrPi m delta).2.toNat ≤ maxIncrement := by
  have hbase : m.baseIncrement.toUInt64.toInt64 = 4123169 := by
    rw [h]
    decide +kernel
  rw [mcrPi, maxIncrement_eq, hbase]
  dsimp only
  generalize hcorr : clampInt64 (-mcrIncrementMaxDelta) mcrIncrementMaxDelta _ = correction
  have hclamp : (-16777216 : Int64).toInt ≤ correction.toInt ∧
      correction.toInt ≤ (16777216 : Int64).toInt := by
    rw [← hcorr]
    exact clampInt64_toInt (by decide) _
  rw [(by decide : (-16777216 : Int64).toInt = -16777216),
    (by decide : (16777216 : Int64).toInt = 16777216)] at hclamp
  have hsum : ((4123169 : Int64) + correction).toInt = 4123169 + correction.toInt := by
    rw [Int64.toInt_add, (by decide : (4123169 : Int64).toInt = 4123169), Int.bmod_eq_of_le]
    · omega
    · omega
  have hone : (1 : Int64).toInt = 1 := by decide
  have hmax : (0xFFFFFFFF : Int64).toInt = 4294967295 := by decide
  have hzero : (0 : Int64).toInt = 0 := by decide
  refine toUInt32_le ?_ ?_
  · rw [Int64.le_iff_toInt_le]
    simp only [gt_iff_lt, Int64.lt_iff_toInt_lt]
    split_ifs <;> omega
  · simp only [gt_iff_lt, Int64.lt_iff_toInt_lt]
    split_ifs <;> omega

/-- The firmware keeps the increment within the clamp. -/
theorem mcrServoUpdate_clamped {m : Mcr} {regs : McrRegs}
    (h : m.baseIncrement = (mcrInit configClockFrequency 48000).1.baseIncrement)
    (hregs : regs.increment.toNat ≤ maxIncrement) :
    (mcrServoUpdate m regs).2.increment.toNat ≤ maxIncrement := by
  by_cases hacts : m.bound = true ∧ m.servoConsumed = false ∧ m.havePrev = true
  · rw [(mcrServoUpdate_acts hacts.1 hacts.2.1 hacts.2.2 regs).2.1]
    exact mcrPi_clamped h _
  · rw [(mcrServoUpdate_waits hacts regs).2.1]
    exact hregs

/-- The strobe of the cycle is the sixth. -/
def handOver (s : Packetizer) (c : Cycle) : Prop :=
  strobe s c = true ∧ s.pingPong.blkIdx = aafSamplesPerPacket - 1

instance (s : Packetizer) (c : Cycle) : Decidable (handOver s c) := by
  unfold handOver; infer_instance

/-- The halves with the block that the strobe takes. -/
def filled (s : Packetizer) : Bool → Nat → Block :=
  Function.update s.pingPong.pay s.pingPong.fillBuf
    (Function.update (s.pingPong.pay s.pingPong.fillBuf) s.pingPong.blkIdx
      (s.asm.blockFifo.head?.getD silence))

/-- What a cycle does to the halves: nothing, a block, or the last block and
the hand-over. -/
theorem pingPong_cases (s : Packetizer) (c : Cycle) :
    strobe s c = false ∧ (step s c).pingPong = { s.pingPong with sendReq := false } ∨
    (strobe s c = true ∧ s.pingPong.blkIdx ≠ aafSamplesPerPacket - 1 ∧ ∃ underruns,
      (step s c).pingPong = ⟨filled s, s.pingPong.fillBuf, s.pingPong.sendBuf, s.pingPong.blkIdx + 1,
        false, underruns⟩) ∨
    (handOver s c ∧ ∃ underruns,
      (step s c).pingPong =
        ⟨filled s, !s.pingPong.fillBuf, s.pingPong.fillBuf, 0, true, underruns⟩) := by
  have hstep : (step s c).pingPong = s.pingPong.step (strobe s c) s.asm.blockFifo.head? := rfl
  cases hstrobe : strobe s c with
  | false =>
    refine .inl ⟨rfl, ?_⟩
    rw [hstep, hstrobe, PingPong.step, if_neg Bool.false_ne_true]
  | true =>
    rw [hstep, hstrobe, PingPong.step, if_pos rfl]
    by_cases hlast : s.pingPong.blkIdx = aafSamplesPerPacket - 1
    · exact .inr (.inr ⟨⟨hstrobe, hlast⟩, _, if_pos hlast⟩)
    · exact .inr (.inl ⟨rfl, hlast, _, if_neg hlast⟩)

theorem sendReq_step (s : Packetizer) (c : Cycle) :
    (step s c).pingPong.sendReq = true ↔ handOver s c := by
  rcases pingPong_cases s c with ⟨hno, hstep⟩ | ⟨-, hmore, _, hstep⟩ | ⟨hover, _, hstep⟩
  · rw [hstep]
    exact iff_of_false Bool.false_ne_true fun h => Bool.false_ne_true (hno.symm.trans h.1)
  · rw [hstep]
    exact iff_of_false Bool.false_ne_true fun h => hmore h.2
  · rw [hstep]
    exact iff_of_true rfl hover

theorem blkIdx_step (s : Packetizer) (c : Cycle) :
    (step s c).pingPong.blkIdx =
      if handOver s c then 0
      else s.pingPong.blkIdx + if strobe s c then 1 else 0 := by
  rcases pingPong_cases s c with ⟨hno, hstep⟩ | ⟨hstrobe, hmore, _, hstep⟩ | ⟨hover, _, hstep⟩
  · rw [hstep, if_neg fun h => Bool.false_ne_true (hno.symm.trans h.1), hno]
    rfl
  · rw [hstep, if_neg fun h => hmore h.2, hstrobe]
    rfl
  · rw [hstep, if_pos hover]

/-- The phase since the half was begun. -/
def Packetizer.clock (s : Packetizer) : Nat :=
  (s.pingPong.blkIdx + s.nco.sampleStrobe.toNat) * 2 ^ 32 + s.nco.phase.toNat

theorem nco_step (n : Nco) (increment : UInt32) :
    (n.step increment).sampleStrobe.toNat * 2 ^ 32 + (n.step increment).phase.toNat =
      n.phase.toNat + increment.toNat := by
  have hphase := n.phase.toNat_lt
  have hinc := increment.toNat_lt
  rw [Nco.step, UInt32.toNat_add]
  by_cases h : 2 ^ 32 ≤ n.phase.toNat + increment.toNat
  · rw [decide_eq_true h, Bool.toNat_true]
    omega
  · rw [decide_eq_false h, Bool.toNat_false]
    omega

theorem clock_step (s : Packetizer) (c : Cycle) :
    (step s c).clock ≤ (if handOver s c then s.nco.phase.toNat else s.clock) +
      c.increment.toNat := by
  have hnco := nco_step s.nco c.increment
  have hclock : (step s c).clock = (step s c).pingPong.blkIdx * 2 ^ 32 +
      (s.nco.phase.toNat + c.increment.toNat) := by
    rw [Packetizer.clock, Nat.add_mul, Nat.add_assoc]
    exact congrArg _ hnco
  rw [hclock, blkIdx_step]
  by_cases hover : handOver s c
  · rw [if_pos hover, if_pos hover]
    omega
  · rw [if_neg hover, if_neg hover, Packetizer.clock, strobe]
    cases s.nco.sampleStrobe with
    | false => simp; omega
    | true =>
      cases c.regs.enable <;> simp <;> omega

/-- While a half is with the builder the next is at its beginning. -/
structure Timed (s : Packetizer) : Prop where
  blkIdx : s.pingPong.blkIdx < aafSamplesPerPacket
  phase : s.nco.sampleStrobe = true → s.nco.phase.toNat < maxIncrement
  request : s.pingPong.sendReq = true → s.clock ≤ 2 * maxIncrement
  build : s.builder.fsm = .build → s.pingPong.sendReq = false ∧ s.builder.byteIdx < total ∧
    s.clock ≤ (s.builder.byteIdx + 3) * maxIncrement

/-- A hand-over takes six strobes. -/
theorem handOver_clock {s : Packetizer} {c : Cycle} (h : handOver s c) : 6 * 2 ^ 32 ≤ s.clock := by
  obtain ⟨hstrobe, hblk⟩ := h
  rw [strobe, Bool.and_eq_true] at hstrobe
  rw [Packetizer.clock, hblk, hstrobe.1]
  exact Nat.le_add_right _ _

theorem Timed.not_handOver {s : Packetizer} (h : Timed s)
    (hpending : s.pending = true) (c : Cycle) : ¬ handOver s c := by
  intro hover
  have hclock := handOver_clock hover
  rw [Packetizer.pending, Bool.or_eq_true, beq_iff_eq] at hpending
  rcases hpending with hreq | hbuild
  · have := h.request hreq
    rw [maxIncrement_eq] at this
    omega
  · obtain ⟨-, hidx, hbound⟩ := h.build hbuild
    have hidx' : s.builder.byteIdx < 234 := hidx
    rw [maxIncrement_eq] at hbound
    omega

/-- The builder is at work after the cycle: how far the clock was before. -/
theorem Timed.building {s : Packetizer} (h : Timed s) (c : Cycle)
    (hbuild : (step s c).builder.fsm = .build) :
    s.pending = true ∧ s.clock ≤ ((step s c).builder.byteIdx + 2) * maxIncrement ∧
      (step s c).builder.byteIdx < total := by
  cases s.builder.step_moves (seen s c) with
  | wait _ _ same => cases same.symm.trans hbuild
  | start _ req _ byteIdx =>
    have hreq : s.pingPong.sendReq = true := req
    have hidx : (UsbAudio.step s c).builder.byteIdx = 0 := byteIdx
    rw [hidx, Packetizer.pending, hreq]
    exact ⟨rfl, h.request hreq, Nat.succ_pos 233⟩
  | lay build more _ byteIdx _ =>
    obtain ⟨-, hlt, hbound⟩ := h.build build
    have hidx : (UsbAudio.step s c).builder.byteIdx = s.builder.byteIdx + 1 := byteIdx
    rw [hidx, Packetizer.pending, build]
    exact ⟨Bool.or_true _, hbound, by omega⟩
  | last _ _ fsm _ _ => cases fsm.symm.trans hbuild
  | stall _ _ fsm _ _ => cases fsm.symm.trans hbuild
  | beat _ _ _ fsm _ _ => cases fsm.symm.trans hbuild
  | done _ _ _ fsm => cases fsm.symm.trans hbuild

theorem Timed.step {s : Packetizer} (h : Timed s) {c : Cycle}
    (hclamped : c.increment.toNat ≤ maxIncrement) : Timed (UsbAudio.step s c) := by
  have hclock := clock_step s c
  constructor
  · rw [blkIdx_step]
    have hblk := h.blkIdx
    split
    · exact Nat.succ_pos 5
    · rename_i hover
      cases hstrobe : strobe s c with
      | false => exact hblk
      | true =>
        have hmore : s.pingPong.blkIdx ≠ aafSamplesPerPacket - 1 := fun hb => hover ⟨hstrobe, hb⟩
        rw [if_pos rfl]
        omega
  · intro hstrobe
    have hphase := (UsbAudio.step s c).nco.phase.toNat_lt
    have hnco := nco_step s.nco c.increment
    have hold := s.nco.phase.toNat_lt
    have hstep : (s.nco.step c.increment).sampleStrobe = true := hstrobe
    rw [hstep, Bool.toNat_true] at hnco
    show (s.nco.step c.increment).phase.toNat < maxIncrement
    omega
  · intro hreq
    have hover := (sendReq_step s c).mp hreq
    have hstrobe : s.nco.sampleStrobe = true := (Bool.and_eq_true_iff.mp hover.1).1
    have hphase := h.phase hstrobe
    rw [if_pos hover] at hclock
    omega
  · intro hbuild
    obtain ⟨hpending, hbound, hidx⟩ := h.building c hbuild
    have hover := h.not_handOver hpending c
    rw [if_neg hover] at hclock
    refine ⟨eq_false_of_ne_true fun hreq => hover ((sendReq_step s c).mp hreq), hidx, ?_⟩
    calc (UsbAudio.step s c).clock ≤ s.clock + c.increment.toNat := hclock
      _ ≤ ((UsbAudio.step s c).builder.byteIdx + 2) * maxIncrement + maxIncrement :=
        Nat.add_le_add hbound hclamped
      _ = ((UsbAudio.step s c).builder.byteIdx + 3) * maxIncrement := by ring

-- ---------------------------------------------------------------------------
-- The halves
-- ---------------------------------------------------------------------------

/-- The block that the cycle's strobe takes. -/
def taken (s : Packetizer) (c : Cycle) : List Block :=
  if strobe s c then [s.asm.blockFifo.head?.getD silence] else []

/-- The half being filled holds the audio from the last whole packet on. -/
structure Filling (p : PingPong) (audio : List Block) : Prop where
  blkIdx : audio.length % aafSamplesPerPacket = p.blkIdx
  fill : (List.range p.blkIdx).map (p.pay p.fillBuf) =
    audio.drop (aafSamplesPerPacket * (audio.length / aafSamplesPerPacket))

/-- The other half holds the last whole packet. -/
structure Sending (p : PingPong) (audio : List Block) : Prop where
  sendBuf : p.sendBuf = !p.fillBuf
  send : (List.range aafSamplesPerPacket).map (p.pay p.sendBuf) =
    packetBlocks audio (audio.length / aafSamplesPerPacket - 1)
  whole : aafSamplesPerPacket ≤ audio.length

theorem packetBlocks_append {audio : List Block} {i : Nat}
    (h : i < audio.length / aafSamplesPerPacket) (more : List Block) :
    packetBlocks (audio ++ more) i = packetBlocks audio i := by
  rw [aafSamplesPerPacket] at h
  rw [packetBlocks, packetBlocks, aafSamplesPerPacket, List.drop_append_of_le_length (by omega),
    List.take_append_of_le_length (by rw [List.length_drop]; omega)]

/-- The packets completed by a cycle. -/
theorem Filling.packets {s : Packetizer} {audio : List Block} (h : Filling s.pingPong audio)
    (c : Cycle) :
    (audio ++ taken s c).length / aafSamplesPerPacket =
      audio.length / aafSamplesPerPacket + if handOver s c then 1 else 0 := by
  have hblk := h.blkIdx
  rw [List.length_append, taken]
  rw [aafSamplesPerPacket] at hblk ⊢
  cases hstrobe : strobe s c with
  | false =>
    rw [if_neg fun hover : handOver s c => Bool.false_ne_true (hstrobe.symm.trans hover.1)]
    rfl
  | true =>
    rw [if_pos rfl, List.length_singleton]
    by_cases hlast : s.pingPong.blkIdx = 5
    · have hover : handOver s c := ⟨hstrobe, hlast⟩
      rw [if_pos hover]
      omega
    · have hover : ¬ handOver s c := fun h => hlast h.2
      rw [if_neg hover]
      omega

/-- The half with the block taken. -/
theorem filled_fillBuf (s : Packetizer) (n : Nat) (h : n = s.pingPong.blkIdx) :
    (List.range (n + 1)).map (filled s s.pingPong.fillBuf) =
      (List.range n).map (s.pingPong.pay s.pingPong.fillBuf) ++
        [s.asm.blockFifo.head?.getD silence] := by
  rw [List.range_succ, List.map_append, filled, Function.update_self, ← h, List.map_singleton,
    Function.update_self]
  congr 1
  refine List.map_congr_left fun i hi => ?_
  rw [Function.update_of_ne (Nat.ne_of_lt (List.mem_range.mp hi))]

theorem taken_true {s : Packetizer} {c : Cycle} (h : strobe s c = true) :
    taken s c = [s.asm.blockFifo.head?.getD silence] := by
  rw [taken, if_pos h]

theorem Filling.step {s : Packetizer} {audio : List Block} (h : Filling s.pingPong audio)
    (c : Cycle) : Filling (UsbAudio.step s c).pingPong (audio ++ taken s c) := by
  have hblk := h.blkIdx
  have hpackets := h.packets c
  have hmod := Nat.div_add_mod audio.length aafSamplesPerPacket
  rcases pingPong_cases s c with ⟨hno, hstep⟩ | ⟨hstrobe, hmore, _, hstep⟩ | ⟨hover, _, hstep⟩
  · rw [hstep, taken, if_neg (by simp [hno]), List.append_nil]
    exact ⟨h.blkIdx, h.fill⟩
  · have hover : ¬ handOver s c := fun hover => hmore hover.2
    rw [if_neg hover, Nat.add_zero] at hpackets
    rw [hstep]
    constructor
    · rw [taken_true hstrobe, List.length_append, List.length_singleton]
      dsimp only
      rw [aafSamplesPerPacket] at *
      omega
    · rw [hpackets]
      dsimp only
      rw [filled_fillBuf s _ rfl, h.fill, taken_true hstrobe,
        List.drop_append_of_le_length (by omega)]
  · rw [if_pos hover] at hpackets
    have hlen : (audio ++ taken s c).length =
        aafSamplesPerPacket * (audio.length / aafSamplesPerPacket + 1) := by
      have hlast := hover.2
      rw [taken_true hover.1, List.length_append, List.length_singleton]
      rw [aafSamplesPerPacket] at *
      omega
    rw [hstep]
    constructor
    · rw [hlen, Nat.mul_mod_right]
    · rw [hpackets, ← hlen, List.drop_length]
      rfl

/-- The half handed over is the packet completed. -/
theorem Filling.handOver {s : Packetizer} {audio : List Block} (h : Filling s.pingPong audio)
    {c : Cycle} (hover : UsbAudio.handOver s c) :
    Sending (UsbAudio.step s c).pingPong (audio ++ taken s c) := by
  have hblk := h.blkIdx
  have hpackets := h.packets c
  have hmod := Nat.div_add_mod audio.length aafSamplesPerPacket
  obtain ⟨hno, -⟩ | ⟨-, hmore, -⟩ | ⟨-, _, hstep⟩ := pingPong_cases s c
  · cases hno.symm.trans hover.1
  · exact absurd hover.2 hmore
  have hfilled := filled_fillBuf s 5 hover.2.symm
  have hfill := h.fill
  rw [hover.2] at hfill hblk
  rw [if_pos hover] at hpackets
  rw [hstep]
  refine ⟨(Bool.not_not _).symm, ?_, ?_⟩
  · rw [hpackets, Nat.add_sub_cancel, packetBlocks, taken_true hover.1,
      List.drop_append_of_le_length (by omega), ← hfill]
    refine hfilled.trans ?_
    rw [List.take_of_length_le (by simp [aafSamplesPerPacket])]
    rfl
  · rw [taken_true hover.1, List.length_append, List.length_singleton]
    rw [aafSamplesPerPacket] at *
    omega

/-- Until the next hand-over nothing is written to it. -/
theorem Sending.step {s : Packetizer} {audio : List Block} (h : Sending s.pingPong audio)
    (hfilling : Filling s.pingPong audio) {c : Cycle} (hover : ¬ handOver s c) :
    Sending (UsbAudio.step s c).pingPong (audio ++ taken s c) ∧
      (UsbAudio.step s c).pingPong.pay (UsbAudio.step s c).pingPong.sendBuf =
        s.pingPong.pay s.pingPong.sendBuf := by
  have hpackets := hfilling.packets c
  have hwhole := h.whole
  rw [if_neg hover, Nat.add_zero] at hpackets
  have hsend : (List.range aafSamplesPerPacket).map (s.pingPong.pay s.pingPong.sendBuf) =
      packetBlocks (audio ++ taken s c)
        ((audio ++ taken s c).length / aafSamplesPerPacket - 1) := by
    rw [hpackets, packetBlocks_append _ _, h.send]
    rw [aafSamplesPerPacket] at *
    omega
  have hlen : aafSamplesPerPacket ≤ (audio ++ taken s c).length := by
    rw [List.length_append]
    omega
  obtain ⟨-, hstep⟩ | ⟨-, -, _, hstep⟩ | ⟨hyes, -⟩ := pingPong_cases s c
  · rw [hstep]
    exact ⟨⟨h.sendBuf, hsend, hlen⟩, rfl⟩
  · have hsame : filled s s.pingPong.sendBuf = s.pingPong.pay s.pingPong.sendBuf := by
      rw [filled, h.sendBuf, Function.update_of_ne (Bool.not_ne_self _)]
    rw [hstep]
    refine ⟨⟨h.sendBuf, ?_, hlen⟩, hsame⟩
    dsimp only
    rw [hsame]
    exact hsend
  · exact absurd hyes hover

-- ---------------------------------------------------------------------------
-- The payload laid
-- ---------------------------------------------------------------------------

/-- The payload bytes laid so far are the first of these. -/
def LaysPayload (b : Builder) (payload : List UInt8) : Prop :=
  b.laid.drop hdrLen = payload.take (b.byteIdx - hdrLen)

theorem LaysPayload.curByte {b : Builder} {i : Seen} (h : LaysPayload b (payloadBytes i.half))
    (hidx : b.byteIdx < total) :
    (b.laid ++ [b.curByte i]).drop hdrLen =
      (payloadBytes i.half).take (b.byteIdx + 1 - hdrLen) := by
  have hlaid := laid_length b
  have hpayload := payloadBytes_length i.half
  rw [total] at hidx
  by_cases hhdr : b.byteIdx < hdrLen
  · rw [List.drop_eq_nil_of_le (by rw [List.length_append, List.length_singleton]; omega),
      (by omega : b.byteIdx + 1 - hdrLen = 0), List.take_zero]
  · have hlt : b.byteIdx - hdrLen < (payloadBytes i.half).length := by omega
    have hcur : b.curByte i = (payloadBytes i.half)[b.byteIdx - hdrLen] := by
      rw [Builder.curByte, if_neg hhdr, payloadByte_eq _ (by omega), List.getD_eq_getElem _ _ hlt]
    rw [List.drop_append_of_le_length (by omega), h, hcur,
      (by omega : b.byteIdx + 1 - hdrLen = b.byteIdx - hdrLen + 1), List.take_concat_get']

theorem payloadOf_beats (frameRam : Nat → Word) :
    payloadOf (beats frameRam) = (frameBytes frameRam).drop hdrLen := by
  rw [payloadOf, beats, List.flatMap_map]
  rfl

theorem payloadBytes_eq {half : Nat → Block} {blocks : List Block}
    (h : (List.range aafSamplesPerPacket).map half = blocks) :
    payloadBytes half = blocks.flatMap blockBytes := by
  rw [payloadBytes, ← h, List.flatMap_map]

-- ---------------------------------------------------------------------------
-- Packets
-- ---------------------------------------------------------------------------

theorem finished_none {s : Packetizer} (c : Cycle) (h : s.builder.fsm ≠ .build) :
    finished s c = [] := if_neg fun hp => h hp.1

theorem finished_more {s : Packetizer} (c : Cycle) (h : s.builder.byteIdx ≠ total - 1) :
    finished s c = [] := if_neg fun hp => h hp.2

theorem finished_last {s : Packetizer} (c : Cycle) (h : s.builder.fsm = .build)
    (hlast : s.builder.byteIdx = total - 1) :
    finished s c = [some (beats (step s c).builder.frameRam)] := if_pos ⟨h, hlast⟩

theorem skipped_none {s : Packetizer} (h : s.builder.fsm = .idle) : skipped s = [] :=
  if_neg fun hp => hp.2 h

theorem skipped_noReq {s : Packetizer} (h : s.pingPong.sendReq = false) : skipped s = [] :=
  if_neg fun hp => Bool.false_ne_true (h.symm.trans hp.1)

theorem pending_build {s : Packetizer} (h : s.builder.fsm = .build) : s.pending = true := by
  rw [Packetizer.pending, h]
  exact Bool.or_true _

theorem pending_other {s : Packetizer} (h : s.builder.fsm ≠ .build) :
    s.pending = s.pingPong.sendReq := by
  rw [Packetizer.pending, beq_eq_false_iff_ne.mpr h, Bool.or_false]

theorem sendReq_toNat (s : Packetizer) (c : Cycle) :
    (step s c).pingPong.sendReq.toNat = if handOver s c then 1 else 0 := by
  have hreq := sendReq_step s c
  by_cases hover : handOver s c
  · rw [if_pos hover, hreq.mpr hover]
    rfl
  · rw [if_neg hover, eq_false_of_ne_true fun h => hover (hreq.mp h)]
    rfl

/-- While the builder sends, a half handed over is skipped. -/
theorem packets_stream {s : Packetizer} (hstream : s.builder.fsm = .stream) (c : Cycle)
    (hnot' : (step s c).builder.fsm ≠ .build) :
    (finished s c ++ skipped s).length + (step s c).pending.toNat =
      s.pending.toNat + if handOver s c then 1 else 0 := by
  have hnot : s.builder.fsm ≠ .build := by rw [hstream]; decide
  rw [finished_none c hnot, List.nil_append, pending_other hnot, pending_other hnot',
    sendReq_toNat, skipped]
  cases s.pingPong.sendReq with
  | false => simp
  | true => simp [hstream]

/-- A half handed over is pending, then built or skipped. -/
theorem Timed.packets {s : Packetizer} (h : Timed s) (c : Cycle) :
    (finished s c ++ skipped s).length + (UsbAudio.step s c).pending.toNat =
      s.pending.toNat + if UsbAudio.handOver s c then 1 else 0 := by
  have hreq := sendReq_toNat s c
  have hfsm : (UsbAudio.step s c).builder = s.builder.step (seen s c) := rfl
  cases s.builder.step_moves (seen s c) with
  | wait idle req same =>
    have hnot : s.builder.fsm ≠ .build := by rw [idle]; decide
    have hnot' : (UsbAudio.step s c).builder.fsm ≠ .build := by rw [hfsm, same]; decide
    rw [finished_none c hnot, skipped_none idle, pending_other hnot, pending_other hnot', hreq]
    have hno : s.pingPong.sendReq = false := req
    rw [hno]
    rfl
  | start idle req fsm _ =>
    have hnot : s.builder.fsm ≠ .build := by rw [idle]; decide
    have hyes : s.pingPong.sendReq = true := req
    have hpending : s.pending = true := (pending_other hnot).trans hyes
    rw [finished_none c hnot, skipped_none idle, hpending, pending_build (hfsm ▸ fsm),
      if_neg (h.not_handOver hpending c)]
    rfl
  | lay build more fsm _ _ =>
    have hpending := pending_build build
    rw [finished_more c more, skipped_noReq (h.build build).1, hpending,
      pending_build (hfsm ▸ fsm), if_neg (h.not_handOver hpending c)]
    rfl
  | last build idx fsm _ _ =>
    have hpending := pending_build build
    have hnot' : (UsbAudio.step s c).builder.fsm ≠ .build := by rw [hfsm, fsm]; decide
    rw [finished_last c build idx, skipped_noReq (h.build build).1, hpending,
      pending_other hnot', hreq, if_neg (h.not_handOver hpending c)]
    rfl
  | stall stream _ fsm _ _ => exact packets_stream stream c (by rw [hfsm, fsm]; decide)
  | beat stream _ _ fsm _ _ => exact packets_stream stream c (by rw [hfsm, fsm]; decide)
  | done stream _ _ fsm => exact packets_stream stream c (by rw [hfsm, fsm]; decide)

theorem unsent_other {s : Packetizer} (h : s.builder.fsm ≠ .stream) : s.unsent = [] := if_neg h

theorem source_other {b : Builder} (h : b.fsm ≠ .stream) : b.source = none := if_neg h

theorem unsent_stream {s : Packetizer} (h : s.builder.fsm = .stream) :
    s.unsent = (beats s.builder.frameRam).drop s.builder.rdIdx := if_pos h

/-- The beat offered is the first that is not sent. -/
theorem source_unsent {s : Packetizer} (h : s.builder.fsm = .stream)
    (hidx : s.builder.rdIdx ≤ lastIdx) :
    s.unsent = s.builder.source.toList ++ (beats s.builder.frameRam).drop (s.builder.rdIdx + 1) := by
  have hlt : s.builder.rdIdx < (beats s.builder.frameRam).length := by
    rw [beats, List.length_map, List.length_range]
    exact Nat.lt_succ_of_le hidx
  rw [unsent_stream h, List.drop_eq_getElem_cons hlt, Builder.source, if_pos h]
  simp [beats]

/-- What the builder finishes has been sent when the arbiter has taken it. -/
theorem accepted_step {s : Packetizer} (h : s.builder.fsm = .stream → s.builder.rdIdx ≤ lastIdx)
    (c : Cycle) :
    (if c.ready then s.builder.source.toList else []) ++ (step s c).unsent =
      s.unsent ++ (finished s c ++ skipped s).reduceOption.flatten := by
  have hstep : (step s c).builder = s.builder.step (seen s c) := rfl
  have hskipped : (skipped s).reduceOption = [] := by
    rw [skipped]
    split <;> rfl
  rw [List.reduceOption_append, hskipped, List.append_nil]
  cases s.builder.step_moves (seen s c) with
  | wait idle _ same =>
    rw [source_other (by rw [idle]; decide), unsent_other (by rw [hstep, same]; decide),
      unsent_other (by rw [idle]; decide), finished_none c (by rw [idle]; decide)]
    simp
  | start idle _ fsm _ =>
    rw [source_other (by rw [idle]; decide), unsent_other (by rw [hstep, fsm]; decide),
      unsent_other (by rw [idle]; decide), finished_none c (by rw [idle]; decide)]
    simp
  | lay build more fsm _ _ =>
    rw [source_other (by rw [build]; decide), unsent_other (by rw [hstep, fsm]; decide),
      unsent_other (by rw [build]; decide), finished_more c more]
    simp
  | last build idx fsm rdIdx _ =>
    rw [source_other (by rw [build]; decide), unsent_stream (hstep ▸ fsm),
      unsent_other (by rw [build]; decide), finished_last c build idx, hstep, rdIdx]
    simp
  | stall stream ready fsm rdIdx frame =>
    have hready : c.ready = false := ready
    rw [unsent_stream (hstep ▸ fsm), unsent_stream stream, finished_none c (by rw [stream]; decide),
      hstep, rdIdx, frame, hready]
    simp
  | beat stream ready more fsm rdIdx frame =>
    have hready : c.ready = true := ready
    rw [unsent_stream (hstep ▸ fsm), source_unsent stream (h stream),
      finished_none c (by rw [stream]; decide), hstep, rdIdx, frame, if_pos hready]
    simp
  | done stream ready last fsm =>
    have hready : c.ready = true := ready
    have hend : (beats s.builder.frameRam).drop (s.builder.rdIdx + 1) = [] := by
      rw [last]
      exact List.drop_eq_nil_of_le (by rw [beats, List.length_map, List.length_range]; decide)
    rw [unsent_other (by rw [hstep, fsm]; decide), source_unsent stream (h stream), hend,
      finished_none c (by rw [stream]; decide), if_pos hready]
    simp

-- ---------------------------------------------------------------------------
-- The invariant
-- ---------------------------------------------------------------------------

structure Packed (s : Packetizer × Trace) : Prop where
  filling : Filling s.1.pingPong s.2.audio
  sending : s.1.pending = true → Sending s.1.pingPong s.2.audio
  lays : s.1.builder.fsm = .build →
    LaysPayload s.1.builder (payloadBytes (s.1.pingPong.pay s.1.pingPong.sendBuf))
  packets : s.2.packets.length + s.1.pending.toNat = s.2.audio.length / aafSamplesPerPacket
  payload : ∀ (i : Nat) (packet : List AafPacketizer.Beat), s.2.packets[i]? = some (some packet) →
    payloadOf packet = (packetBlocks s.2.audio i).flatMap blockBytes
  accepted : s.2.accepted ++ s.1.unsent = s.2.packets.reduceOption.flatten
  rdIdx : s.1.builder.fsm = .stream → s.1.builder.rdIdx ≤ lastIdx

theorem pending_before {s : Packetizer} (h : Timed s) {c : Cycle} (hover : ¬ handOver s c)
    (hpending : (step s c).pending = true) : s.pending = true := by
  rw [Packetizer.pending, Bool.or_eq_true, beq_iff_eq] at hpending
  rcases hpending with hreq | hbuild
  · exact absurd ((sendReq_step s c).mp hreq) hover
  · exact (h.building c hbuild).1

/-- A packet that the cycle adds is the one the builder finishes. -/
theorem added_packet {s : Packetizer} {c : Cycle} {k : Nat} {packet : List AafPacketizer.Beat}
    (h : (finished s c ++ skipped s)[k]? = some (some packet)) :
    k = 0 ∧ s.builder.fsm = .build ∧ s.builder.byteIdx = total - 1 ∧
      packet = beats (step s c).builder.frameRam := by
  have hskipped (j : Nat) : (skipped s)[j]? ≠ some (some packet) := by
    rw [skipped]
    split
    · cases j <;> simp
    · simp
  by_cases hlast : s.builder.fsm = .build ∧ s.builder.byteIdx = total - 1
  · rw [finished_last c hlast.1 hlast.2] at h
    cases k with
    | zero =>
      rw [List.singleton_append, List.getElem?_cons_zero, Option.some.injEq, Option.some.injEq] at h
      exact ⟨rfl, hlast.1, hlast.2, h.symm⟩
    | succ k => exact absurd h (hskipped k)
  · have hnone : finished s c = [] := if_neg hlast
    rw [hnone] at h
    exact absurd h (hskipped k)

/-- What `Packed` says of the packets built from any audio. -/
structure Carries (s : Packetizer) (audio : List Block)
    (built : List (Option (List AafPacketizer.Beat))) (sent : List AafPacketizer.Beat) : Prop where
  filling : Filling s.pingPong audio
  sending : s.pending = true → Sending s.pingPong audio
  lays : s.builder.fsm = .build →
    LaysPayload s.builder (payloadBytes (s.pingPong.pay s.pingPong.sendBuf))
  packets : built.length + s.pending.toNat = audio.length / aafSamplesPerPacket
  payload : ∀ (i : Nat) (packet : List AafPacketizer.Beat), built[i]? = some (some packet) →
    payloadOf packet = (packetBlocks audio i).flatMap blockBytes
  accepted : sent ++ s.unsent = built.reduceOption.flatten
  rdIdx : s.builder.fsm = .stream → s.builder.rdIdx ≤ lastIdx

section Carries

variable {s : Packetizer} {audio : List Block}
  {built : List (Option (List AafPacketizer.Beat))} {sent : List AafPacketizer.Beat}

/-- The frame that is finished holds the half's payload. -/
theorem Carries.finished (h : Carries s audio built sent) {c : Cycle}
    (hbuild : s.builder.fsm = .build) (hlast : s.builder.byteIdx = total - 1) :
    payloadOf (beats (UsbAudio.step s c).builder.frameRam) =
      payloadBytes (s.pingPong.pay s.pingPong.sendBuf) := by
  have hlays : LaysPayload s.builder (payloadBytes (seen s c).half) := h.lays hbuild
  have hlaid := hlays.curByte (by rw [hlast]; decide)
  have hall : s.builder.byteIdx + 1 - hdrLen = payLen := by rw [hlast]; rfl
  have hframe : frameBytes (UsbAudio.step s c).builder.frameRam =
      s.builder.laid ++ [s.builder.curByte (seen s c)] := by
    show frameBytes (s.builder.step (seen s c)).frameRam = _
    rw [step_build hbuild]
    exact (build_last hlast _).2.2
  rw [payloadOf_beats, hframe, hlaid, hall]
  exact List.take_of_length_le (payloadBytes_length _).le

theorem Carries.payload_step (h : Carries s audio built sent) (c : Cycle) (i : Nat)
    (packet : List AafPacketizer.Beat)
    (hi : (built ++ (UsbAudio.finished s c ++ skipped s))[i]? = some (some packet)) :
    payloadOf packet = (packetBlocks (audio ++ taken s c) i).flatMap blockBytes := by
  have hpackets := h.packets
  by_cases hold : i < built.length
  · rw [List.getElem?_append_left hold] at hi
    rw [packetBlocks_append (by omega), h.payload i packet hi]
  · rw [List.getElem?_append_right (Nat.not_lt.mp hold)] at hi
    obtain ⟨hk, hbuild, hlast, rfl⟩ := added_packet hi
    have hpending := pending_build hbuild
    rw [hpending, Bool.toNat_true] at hpackets
    have hidx : i = audio.length / aafSamplesPerPacket - 1 := by omega
    rw [h.finished hbuild hlast, payloadBytes_eq (h.sending hpending).send, hidx,
      packetBlocks_append (by omega)]

theorem Carries.lays_step (h : Carries s audio built sent) (ht : Timed s) (c : Cycle)
    (hbuild : (UsbAudio.step s c).builder.fsm = .build) :
    LaysPayload (UsbAudio.step s c).builder (payloadBytes
      ((UsbAudio.step s c).pingPong.pay (UsbAudio.step s c).pingPong.sendBuf)) := by
  have hstep : (UsbAudio.step s c).builder = s.builder.step (seen s c) := rfl
  have hpending := (ht.building c hbuild).1
  have hhalf := ((h.sending hpending).step h.filling (ht.not_handOver hpending c)).2
  rw [hhalf, LaysPayload]
  cases s.builder.step_moves (seen s c) with
  | wait _ _ same => cases same.symm.trans hbuild
  | start _ _ _ byteIdx =>
    have hlen := laid_length (s.builder.step (seen s c))
    rw [byteIdx] at hlen
    rw [hstep, byteIdx, List.eq_nil_of_length_eq_zero hlen]
    rfl
  | lay build more _ byteIdx laid =>
    have hlt := (ht.build build).2.1
    have hlays : LaysPayload s.builder (payloadBytes (seen s c).half) := h.lays build
    rw [hstep, byteIdx, laid hlt]
    exact hlays.curByte hlt
  | last _ _ fsm _ _ => cases fsm.symm.trans hbuild
  | stall _ _ fsm _ _ => cases fsm.symm.trans hbuild
  | beat _ _ _ fsm _ _ => cases fsm.symm.trans hbuild
  | done _ _ _ fsm => cases fsm.symm.trans hbuild

theorem rdIdx_step (s : Packetizer) (h : s.builder.fsm = .stream → s.builder.rdIdx ≤ lastIdx)
    (c : Cycle) (hstream : (step s c).builder.fsm = .stream) :
    (step s c).builder.rdIdx ≤ lastIdx := by
  have hstep : (step s c).builder = s.builder.step (seen s c) := rfl
  rw [hstep] at *
  cases s.builder.step_moves (seen s c) with
  | wait _ _ same => cases same.symm.trans hstream
  | start _ _ fsm _ => cases fsm.symm.trans hstream
  | lay _ _ fsm _ _ => cases fsm.symm.trans hstream
  | last _ _ _ rdIdx _ =>
    rw [rdIdx]
    exact Nat.zero_le _
  | stall stream _ _ rdIdx _ =>
    rw [rdIdx]
    exact h stream
  | beat stream _ more _ rdIdx _ =>
    have hle := h stream
    rw [rdIdx]
    omega
  | done _ _ _ fsm => cases fsm.symm.trans hstream

theorem Carries.step (h : Carries s audio built sent) (ht : Timed s) (c : Cycle) :
    Carries (UsbAudio.step s c) (audio ++ taken s c)
      (built ++ (UsbAudio.finished s c ++ skipped s))
      (sent ++ if c.ready then s.builder.source.toList else []) := by
  have hfilling := h.filling.step c
  constructor
  · exact hfilling
  · intro hpending
    by_cases hover : UsbAudio.handOver s c
    · exact h.filling.handOver hover
    · exact ((h.sending (pending_before ht hover hpending)).step h.filling hover).1
  · exact h.lays_step ht c
  · have hold := h.packets
    have hnew := ht.packets c
    rw [h.filling.packets c, List.length_append]
    omega
  · exact h.payload_step c
  · have hsent := accepted_step h.rdIdx c
    rw [List.reduceOption_append, List.flatten_append, ← h.accepted, List.append_assoc,
      List.append_assoc, hsent]
  · exact rdIdx_step s h.rdIdx c

end Carries

theorem Packed.step (h : Packed s) (ha : Assembling s.1.asm s.2) (ht : Timed s.1) (c : Cycle) :
    Packed (packetizer.step s c) := by
  have haudio : (packetizer.step s c).2.audio = s.2.audio ++ taken s.1 c := ha.audio c
  have hpackets : (packetizer.step s c).2.packets =
      s.2.packets ++ (UsbAudio.finished s.1 c ++ skipped s.1) := List.append_assoc ..
  have hcarries : Carries s.1 s.2.audio s.2.packets s.2.accepted :=
    ⟨h.filling, h.sending, h.lays, h.packets, h.payload, h.accepted, h.rdIdx⟩
  have hnext := hcarries.step ht c
  rw [← haudio, ← hpackets] at hnext
  exact ⟨hnext.filling, hnext.sending, hnext.lays, hnext.packets, hnext.payload, hnext.accepted,
    hnext.rdIdx⟩

theorem inOrder (cycles : List Cycle) (h : packetizer.Steps Clamped cycles) :
    InOrder (packetizer.run cycles) := by
  have hinv : Assembling (packetizer.run cycles).1.asm (packetizer.run cycles).2 ∧
      Timed (packetizer.run cycles).1 ∧ Packed (packetizer.run cycles) := by
    refine h.invariant (I := fun s => Assembling s.1.asm s.2 ∧ Timed s.1 ∧ Packed s) ⟨?_, ?_, ?_⟩
      fun s c hs hc => ⟨hs.1.step c, hs.2.1.step hc, hs.2.2.step hs.1 hs.2.1 c⟩
    · exact ⟨rfl, by decide, rfl, Nat.le_refl _, rfl⟩
    · exact ⟨by decide, by decide, by decide, by decide⟩
    · refine ⟨⟨rfl, rfl⟩, fun hp => ?_, fun hb => ?_, rfl, fun i packet hi => ?_, rfl, fun hs => ?_⟩
      · cases hp
      · cases hb
      · cases hi
      · cases hs
  obtain ⟨hasm, -, hpacked⟩ := hinv
  refine ⟨hasm.arrived, hasm.waiting, withSilence_length hasm.enough, hpacked.payload, ?_,
    hpacked.accepted⟩
  have hpackets := hpacked.packets
  cases hpending : (packetizer.run cycles).1.pending with
  | true => rw [hpending] at hpackets; exact hpackets
  | false => rw [hpending] at hpackets; exact hpackets

def cycleOf (arrived : Option UsbSample) : Cycle :=
  ⟨arrived, true, 20900385, { enable := true }, presOffsetReset, {}, true⟩

/-- Two frames of one sample begin, then the clock runs until a packet has
been sent, of the first of them and silence. -/
def twoFrames : List Cycle :=
  [cycleOf (some ⟨0x12345600, 8⟩), cycleOf (some ⟨0x65432100, 8⟩)] ++
    List.replicate 1530 (cycleOf none)

theorem inOrder_twoFrames :
    (packetizer.run twoFrames).2.strobes = false :: List.replicate 6 true ∧
      (packetizer.run twoFrames).2.accepted.length = 59 ∧ InOrder (packetizer.run twoFrames) :=
  ⟨by decide +kernel, by decide +kernel, inOrder twoFrames (by decide +kernel)⟩

end AvbAes3.UsbAudio
