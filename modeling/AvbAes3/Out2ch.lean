import AvbAes3.Lib.Machine
import Mathlib.Data.List.ReduceOption

/-!
# out2ch

The bytes of the isochronous packets become samples of the eight channels. A
subslot has four bytes, the first of which is not used. A byte that is marked
`first` begins a packet, and with it channel 0; where it comes in the middle
of a subslot, the bytes of that subslot are garbage.

`bytes_decoded`: the samples shown are those of the packets, whatever the
packets are cut off at and however the bytes are spaced.
-/

namespace AvbAes3.Out2ch

abbrev Byte := BitVec 8

-- ---------------------------------------------------------------------------
-- The registers
-- ---------------------------------------------------------------------------

/-- `fsm_state`. -/
inductive State
  | b0
  | b1
  | b2
  | b3

structure Regs where
  fsm : State
  outChannelNr : BitVec 3
  outSample : BitVec 16
  payload : BitVec 24
  channelNr : BitVec 3
  first : Bool
  valid : Bool

def reset : Regs := ⟨.b0, 0#3, 0#16, 0#24, 0#3, false, false⟩

structure StreamByte where
  payload : Byte
  first : Bool

/-- `first` and `valid` last for a cycle. -/
def Regs.quiet (s : Regs) : Regs := { s with first := false, valid := false }

/-- A packet begins in the middle of a subslot. -/
def Regs.garbage (s : Regs) : Regs := { s with fsm := .b1, outChannelNr := 0#3 }

def Regs.take (s : Regs) (x : StreamByte) : Regs :=
  match s.fsm with
  | .b0 => { s with
      fsm := .b1
      outChannelNr := if x.first then 0#3 else s.outChannelNr + 1#3 }
  | .b1 =>
    if x.first then s.garbage
    else { s with fsm := .b2, outSample := s.outSample.extractLsb' 8 8 ++ x.payload }
  | .b2 =>
    if x.first then s.garbage
    else { s with fsm := .b3, outSample := x.payload ++ s.outSample.extractLsb' 0 8 }
  | .b3 =>
    if x.first then s.garbage
    else { s with
      fsm := .b0
      payload := x.payload ++ s.outSample
      channelNr := s.outChannelNr
      first := decide (s.outChannelNr = 0#3)
      valid := true
      outChannelNr := if s.outChannelNr = 7#3 then 7#3 else s.outChannelNr }

/-- A cycle, with the byte that is valid in it. -/
def step (s : Regs) : Option StreamByte → Regs
  | none => s.quiet
  | some x => s.quiet.take x

def out2ch : Machine Regs (Option StreamByte) := ⟨reset, step⟩

-- ---------------------------------------------------------------------------
-- What is shown
-- ---------------------------------------------------------------------------

structure Sample where
  payload : BitVec 24
  channelNr : BitVec 3
  first : Bool
  deriving DecidableEq

def Regs.sample (s : Regs) : Option Sample :=
  if s.valid then some ⟨s.payload, s.channelNr, s.first⟩ else none

def logged : Machine (Regs × List Sample) (Option StreamByte) :=
  out2ch.withHistory [] fun samples s c => samples ++ (step s c).sample.toList

-- ---------------------------------------------------------------------------
-- What the packets hold
-- ---------------------------------------------------------------------------

/-- The subslots of a packet from a channel on; a subslot that is cut off has
no sample. -/
def subslots : BitVec 3 → List Byte → List Sample
  | channel, _ :: b1 :: b2 :: b3 :: rest =>
    ⟨b3 ++ (b2 ++ b1), channel, decide (channel = 0#3)⟩ :: subslots (channel + 1#3) rest
  | _, _ => []

structure Packet where
  channel : BitVec 3
  bytes : List Byte

def Packet.samples (p : Packet) : List Sample := subslots p.channel p.bytes

structure Stream where
  closed : List Packet
  last : Packet

def Stream.add (p : Stream) (x : StreamByte) : Stream :=
  if x.first then ⟨p.closed ++ [p.last], ⟨0#3, [x.payload]⟩⟩
  else { p with last := { p.last with bytes := p.last.bytes ++ [x.payload] } }

/-- Bytes before the first packet begin with channel 1. -/
def streamOf (bytes : List StreamByte) : Stream := bytes.foldl Stream.add ⟨[], ⟨1#3, []⟩⟩

def Stream.samples (p : Stream) : List Sample := (p.closed ++ [p.last]).flatMap Packet.samples

-- ---------------------------------------------------------------------------
-- The bytes of a packet so far
-- ---------------------------------------------------------------------------

/-- The machine has read the bytes of a packet from a channel on: subslots,
then what its state stands for. -/
inductive Reading (s : Regs) : BitVec 3 → List Byte → Prop
  | b0 (fsm : s.fsm = .b0) : Reading s (s.outChannelNr + 1#3) []
  | b1 (fsm : s.fsm = .b1) (x0 : Byte) : Reading s s.outChannelNr [x0]
  | b2 (fsm : s.fsm = .b2) (x0 : Byte) :
    Reading s s.outChannelNr [x0, s.outSample.extractLsb' 0 8]
  | b3 (fsm : s.fsm = .b3) (x0 x1 x2 : Byte) (sample : s.outSample = x2 ++ x1) :
    Reading s s.outChannelNr [x0, x1, x2]
  | subslot (x0 x1 x2 x3 : Byte) (rest : Reading s (channel + 1#3) bytes) :
    Reading s channel (x0 :: x1 :: x2 :: x3 :: bytes)

theorem Reading.quiet (h : Reading s channel bytes) : Reading s.quiet channel bytes := by
  induction h with
  | b0 fsm => exact Reading.b0 (s := s.quiet) fsm
  | b1 fsm x0 => exact Reading.b1 (s := s.quiet) fsm x0
  | b2 fsm x0 => exact Reading.b2 (s := s.quiet) fsm x0
  | b3 fsm x0 x1 x2 sample => exact Reading.b3 (s := s.quiet) fsm x0 x1 x2 sample
  | subslot x0 x1 x2 x3 _ ih => exact .subslot x0 x1 x2 x3 ih

/-- What one more byte of the packet does. -/
structure Takes (s t : Regs) (channel : BitVec 3) (bytes : List Byte) (x : Byte) : Prop where
  reading : Reading t channel (bytes ++ [x])
  samples : subslots channel (bytes ++ [x]) = subslots channel bytes ++ t.sample.toList

theorem Reading.take (h : Reading s channel bytes) (hvalid : s.valid = false) {x : StreamByte}
    (hfirst : x.first = false) : Takes s (s.take x) channel bytes x.payload := by
  induction h with
  | b0 fsm =>
    have htake : s.take x = { s with fsm := .b1, outChannelNr := s.outChannelNr + 1#3 } := by
      simp [Regs.take, fsm, hfirst]
    rw [htake]
    refine ⟨Reading.b1 (s := { s with fsm := .b1, outChannelNr := s.outChannelNr + 1#3 }) rfl _, ?_⟩
    simp [subslots, Regs.sample, hvalid]
  | b1 fsm x0 =>
    have htake : s.take x =
        { s with fsm := .b2, outSample := s.outSample.extractLsb' 8 8 ++ x.payload } := by
      simp [Regs.take, fsm, hfirst]
    have hlow : (s.outSample.extractLsb' 8 8 ++ x.payload).extractLsb' 0 8 = x.payload :=
      BitVec.extractLsb'_append_eq_right
    rw [htake]
    refine ⟨?_, ?_⟩
    · have := Reading.b2 (s := { s with
        fsm := .b2, outSample := s.outSample.extractLsb' 8 8 ++ x.payload }) rfl x0
      rwa [hlow] at this
    · simp [subslots, Regs.sample, hvalid]
  | b2 fsm x0 =>
    have htake : s.take x =
        { s with fsm := .b3, outSample := x.payload ++ s.outSample.extractLsb' 0 8 } := by
      simp [Regs.take, fsm, hfirst]
    rw [htake]
    refine ⟨.b3 rfl x0 _ x.payload rfl, ?_⟩
    simp [subslots, Regs.sample, hvalid]
  | b3 fsm x0 x1 x2 sample =>
    have hchannel : (if s.outChannelNr = 7#3 then 7#3 else s.outChannelNr) = s.outChannelNr :=
      ite_eq_right_iff.mpr Eq.symm
    have htake : s.take x = { s with
        fsm := .b0
        payload := x.payload ++ s.outSample
        channelNr := s.outChannelNr
        first := decide (s.outChannelNr = 0#3)
        valid := true } := by
      simp [Regs.take, fsm, hfirst, hchannel]
    rw [htake]
    refine ⟨.subslot x0 x1 x2 x.payload (.b0 rfl), ?_⟩
    simp [subslots, Regs.sample, sample]
  | subslot x0 x1 x2 x3 _ ih =>
    refine ⟨.subslot x0 x1 x2 x3 ih.reading, ?_⟩
    rw [List.cons_append, List.cons_append, List.cons_append, List.cons_append, subslots, subslots,
      ih.samples]
    rfl

/-- A packet begins, wherever the one before stops. -/
theorem Regs.take_first (s : Regs) {x : StreamByte} (hfirst : x.first = true) :
    s.take x = s.garbage := by
  cases hfsm : s.fsm <;> simp [Regs.take, hfsm, hfirst, Regs.garbage]

-- ---------------------------------------------------------------------------
-- All bytes
-- ---------------------------------------------------------------------------

/-- The samples so far are those of the packets so far. -/
structure Decoded (s : Regs × List Sample) (p : Stream) : Prop where
  reading : Reading s.1 p.last.channel p.last.bytes
  samples : s.2 = p.samples

theorem Stream.samples_snoc (p : Stream) :
    p.samples = p.closed.flatMap Packet.samples ++ p.last.samples := by
  simp [Stream.samples]

theorem Decoded.byte (h : Decoded s p) (x : StreamByte) :
    Decoded (logged.step s (some x)) (p.add x) := by
  obtain ⟨s, samples⟩ := s
  have hsamples : samples = p.samples := h.samples
  have hstep : logged.step (s, samples) (some x) =
      (s.quiet.take x, samples ++ (s.quiet.take x).sample.toList) := rfl
  rw [hstep]
  cases hfirst : x.first with
  | true =>
    have hadd : p.add x = ⟨p.closed ++ [p.last], ⟨0#3, [x.payload]⟩⟩ := by
      simp [Stream.add, hfirst]
    rw [hadd, s.quiet.take_first hfirst]
    refine ⟨.b1 rfl x.payload, ?_⟩
    rw [hsamples, Stream.samples_snoc, Stream.samples_snoc]
    simp [Packet.samples, subslots, Regs.sample, Regs.garbage, Regs.quiet]
  | false =>
    have hadd : p.add x = { p with last := { p.last with bytes := p.last.bytes ++ [x.payload] } } := by
      simp [Stream.add, hfirst]
    obtain ⟨hreading, htaken⟩ := h.reading.quiet.take rfl hfirst
    rw [hadd]
    refine ⟨hreading, ?_⟩
    rw [hsamples, Stream.samples_snoc, Stream.samples_snoc, Packet.samples, Packet.samples, htaken,
      List.append_assoc]

theorem Decoded.idle (h : Decoded s p) : Decoded (logged.step s none) p := by
  refine ⟨h.reading.quiet, ?_⟩
  have hnone : (logged.step s none).2 = s.2 ++ s.1.quiet.sample.toList := rfl
  rw [hnone, h.samples]
  exact List.append_nil _

theorem decoded_run (cycles : List (Option StreamByte)) :
    Decoded (logged.run cycles) (streamOf cycles.reduceOption) := by
  induction cycles using List.reverseRecOn with
  | nil => exact ⟨.b0 rfl, rfl⟩
  | append_singleton cycles c ih =>
    rw [Machine.run_concat, List.reduceOption_append, streamOf, List.foldl_append]
    cases c with
    | none => exact ih.idle
    | some x => exact ih.byte x

/-- Out of the bytes come the samples of the packets. -/
theorem bytes_decoded (cycles : List (Option StreamByte)) :
    (logged.run cycles).2 = (streamOf cycles.reduceOption).samples :=
  (decoded_run cycles).samples

end AvbAes3.Out2ch
