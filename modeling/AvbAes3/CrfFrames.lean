import AvbAes3.CrfExtractor
import AvbAes3.Lib.Machine
import AvbAes3.Lib.SyncFifo

/-!
# The entries of the CRF extractor

The extractor looks at a frame one cycle after its last beat, and the words it
looks at are overwritten from that cycle on if the next frame follows at once.
Each cycle's decision is read here against the beats of the frame that ended
in the cycle before: with twelve beats the frame has overwritten every word
the decision reads.

`entries_exact`: the FIFO takes exactly the entries of these frames, in the
order in which they end, and counts the ones it has no room for.
-/

namespace AvbAes3.CrfFrames

open CrfExtractor (hdrBeats fifoDepth isOfStream pairOf Keeps)

-- ---------------------------------------------------------------------------
-- The extractor with its counters
-- ---------------------------------------------------------------------------

structure Extractor where
  crf : CrfExtractor := {}
  matchCount : UInt32 := 0
  overflowCount : UInt32 := 0

/-- The inputs of a clock cycle, with what the configuration registers hold. -/
structure Cycle where
  regs : McrRegs
  input : CrfCycle

def step (s : Extractor) (c : Cycle) : Extractor where
  crf := s.crf.step c.regs c.input
  matchCount :=
    if s.crf.matched c.regs ∧ s.crf.fifo.length < fifoDepth then s.matchCount + 1
    else s.matchCount
  overflowCount :=
    if s.crf.matched c.regs ∧ ¬ s.crf.fifo.length < fifoDepth then s.overflowCount + 1
    else s.overflowCount

-- ---------------------------------------------------------------------------
-- The frames
-- ---------------------------------------------------------------------------

/-- The beats of the frame being received, and the frame whose last beat came
in the cycle before. -/
structure Seen where
  beats : List CrfCycle := []
  ended : Option (List CrfCycle) := none

def note (h : Seen) (_ : Extractor) (c : Cycle) : Seen :=
  if c.input.beat.valid then
    if c.input.beat.last then ⟨[], some (h.beats ++ [c.input])⟩
    else ⟨h.beats ++ [c.input], none⟩
  else ⟨h.beats, none⟩

def gateware : Machine (Extractor × Seen) Cycle := Machine.withHistory ⟨{}, step⟩ {} note

def frameBytes (frame : List CrfCycle) : Buffer := fun off =>
  (frame[off / 4]?.map fun c => wordByte c.beat.data off).getD 0

/-- The TSU's time at the first beat. -/
def arrival (frame : List CrfCycle) : PtpTimestamp := (frame[0]?.map CrfCycle.time).getD {}

/-- The entry of a frame: its first timestamp and its arrival, if it is a CRF
packet of the stream. -/
def entry (regs : McrRegs) (frame : List CrfCycle) : Option CrfSample :=
  if isOfStream (frameBytes frame) regs then some (pairOf (frameBytes frame) (arrival frame))
  else none

/-- What the cycle offers goes to the end of the FIFO, or is counted as
dropped if that is full; nothing else is written. -/
def Queues (s : Extractor) (c : Cycle) (offered : Option CrfSample) : Prop :=
  (step s c).crf.fifo = SyncFifo.next fifoDepth s.crf.fifo offered c.input.pop ∧
    (step s c).overflowCount =
      if offered.isSome ∧ ¬ s.crf.fifo.length < fifoDepth then s.overflowCount + 1
      else s.overflowCount

/-- The beats of the shortest frame that the decision reads no stale word of. -/
def leastBeats : Nat := 12

def Exact (s : Extractor × Seen) (c : Cycle) : Prop :=
  match s.2.ended with
  | none => Queues s.1 c none
  | some frame => leastBeats ≤ frame.length → Queues s.1 c (entry c.regs frame)

-- ---------------------------------------------------------------------------
-- One cycle
-- ---------------------------------------------------------------------------

structure Kept (s : Extractor × Seen) : Prop where
  beatIdx : s.1.crf.beatIdx = min s.2.beats.length hdrBeats
  beats : s.1.crf.Keeps s.2.beats
  eofB : s.1.crf.eofB = s.2.ended.isSome
  ended : ∀ frame, s.2.ended = some frame → s.1.crf.Keeps frame

theorem keeps_header {e : CrfExtractor} {frame : List CrfCycle} (h : e.Keeps frame) {i : Nat}
    (hi : i < 4 * hdrBeats) (hframe : i < 4 * frame.length) : e.header i = frameBytes frame i := by
  have hbound : i / 4 < frame.length := by omega
  have hget := List.getElem?_eq_getElem hbound
  rw [CrfExtractor.header, frameBytes, hget, h.words (i / 4) _ (by omega) hget]
  rfl

theorem kept_init : Kept gateware.init where
  beatIdx := rfl
  beats := CrfExtractor.keeps_nil _
  eofB := rfl
  ended _ hframe := by cases hframe

theorem Kept.step {s : Extractor × Seen} (h : Kept s) (c : Cycle) : Kept (gateware.step s c) := by
  obtain ⟨e, seen⟩ := s
  obtain ⟨hidx, hbeats, -, -⟩ := h
  change Kept (CrfFrames.step e c, note seen e c)
  cases hvalid : c.input.beat.valid with
  | false =>
    have hnote : note seen e c = ⟨seen.beats, none⟩ := by rw [note, hvalid]; rfl
    rw [hnote]
    refine ⟨?_, hbeats.idle c.regs hvalid, ?_, fun _ hframe => by cases hframe⟩
    · rw [CrfFrames.step, CrfExtractor.step, hvalid]
      exact hidx
    · rw [CrfFrames.step, CrfExtractor.step, hvalid]
      rfl
  | true =>
    have hkept := hbeats.beat hidx c.regs hvalid
    cases hlast : c.input.beat.last with
    | false =>
      have hnote : note seen e c = ⟨seen.beats ++ [c.input], none⟩ := by
        rw [note, hvalid, hlast]; rfl
      rw [hnote]
      refine ⟨?_, hkept, ?_, fun _ hframe => by cases hframe⟩
      · rw [CrfFrames.step, CrfExtractor.step, hvalid, hlast, hidx, List.length_append,
          List.length_singleton]
        simp only [if_true, Bool.false_eq_true, if_false]
        split <;> omega
      · rw [CrfFrames.step, CrfExtractor.step, hlast, Bool.and_false]
        rfl
    | true =>
      have hnote : note seen e c = ⟨[], some (seen.beats ++ [c.input])⟩ := by
        rw [note, hvalid, hlast]; rfl
      rw [hnote]
      refine ⟨?_, CrfExtractor.keeps_nil _, ?_, ?_⟩
      · rw [CrfFrames.step, CrfExtractor.step, hvalid, hlast]
        rfl
      · rw [CrfFrames.step, CrfExtractor.step, hvalid, hlast]
        rfl
      · rintro frame hframe
        obtain rfl := Option.some.inj hframe
        exact hkept

-- ---------------------------------------------------------------------------
-- What is queued
-- ---------------------------------------------------------------------------

theorem queues_none {s : Extractor} {c : Cycle} (h : s.crf.matched c.regs = false) :
    Queues s c none := by
  constructor
  · rw [step, CrfExtractor.step, h, SyncFifo.next_none]
    rfl
  · rw [step, h]
    rfl

theorem queues_some {s : Extractor} {c : Cycle} (h : s.crf.matched c.regs) :
    Queues s c (some ⟨s.crf.avtpTs, CrfExtractor.localTs s.crf.localTsCap⟩) := by
  constructor
  · rw [step, CrfExtractor.step, h, SyncFifo.next]
    dsimp only
    split
    · rename_i hroom
      rw [if_pos hroom.2]
      rfl
    · rename_i hfull
      rw [if_neg fun hroom => hfull ⟨rfl, hroom⟩, List.append_nil]
  · rw [step, h]
    rfl

/-- The decision a cycle after the last beat is about the frame's own bytes,
as long as it reads no further than the frame goes. -/
theorem queues_entry {s : Extractor} {c : Cycle} {frame : List CrfCycle} (heof : s.crf.eofB)
    (h : s.crf.Keeps frame) (hlong : leastBeats ≤ frame.length) :
    Queues s c (entry c.regs frame) := by
  unfold leastBeats at hlong
  have hheader (i : Nat) (hi : i < 46) : s.crf.header i = frameBytes frame i :=
    keeps_header h (by rw [hdrBeats]; omega) (by omega)
  obtain ⟨hstream, hpair⟩ := CrfExtractor.isOfStream_congr c.regs hheader
  have hmatched := CrfExtractor.matched_eq c.regs heof
  rw [hstream] at hmatched
  have htime : s.crf.localTsCap = arrival frame := by
    have hget : frame[0]? = some frame[0] := List.getElem?_eq_getElem (by omega)
    rw [arrival, hget, h.time _ hget]
    rfl
  rw [entry]
  cases hof : isOfStream (frameBytes frame) c.regs with
  | false => exact queues_none (hmatched.trans hof)
  | true =>
    rw [if_pos rfl, ← hpair, ← CrfExtractor.pair_eq, ← htime]
    exact queues_some (hmatched.trans hof)

theorem exact_of_kept {s : Extractor × Seen} (h : Kept s) (c : Cycle) : Exact s c := by
  unfold Exact
  split
  · rename_i hended
    refine queues_none ?_
    rw [CrfExtractor.matched, h.eofB, hended]
    rfl
  · rename_i frame hended
    refine queues_entry ?_ (h.ended frame hended)
    rw [h.eofB, hended]
    rfl

/-- In every cycle of every run. -/
theorem entries_exact (cycles : List Cycle) : gateware.Steps Exact cycles := by
  have hsteps : gateware.Steps (fun _ _ => True) cycles :=
    Machine.stepsFrom_of_forall (fun _ _ => trivial) _ cycles
  exact hsteps.of_invariant Kept kept_init (fun s c h _ => h.step c) fun s c h _ => exact_of_kept h c

end AvbAes3.CrfFrames
