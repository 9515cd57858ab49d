import AvbAes3.Firmware
import AvbAes3.TxFrameArbiter

/-!
# CRFTimestampExtractor

The gateware that observes the MAC's receive stream, keeps the first 64 bytes
of each frame and the time of its first beat, and one cycle after the last
beat queues the first timestamp of a CRF packet of the bound stream with that
time. `Carries` says what the clock cycles of a received frame look like, and
`step_carried` what the extractor has queued after them.
-/

namespace AvbAes3

/-- The inputs of a clock cycle: the observed beat, the TSU's time and
`pop.re`. -/
structure CrfCycle where
  beat : Beat UInt32
  time : PtpTimestamp
  pop : Bool

/-- The byte at this offset, in the word that has it. -/
def wordByte (word : UInt32) (off : Nat) : UInt8 := (word >>> (8 * (off % 4)).toUInt32).toUInt8

/-- The registers, and the FIFO with its head first. -/
structure CrfExtractor where
  beatIdx : Nat := 0
  hdrWords : Nat → UInt32 := fun _ => 0
  localTsCap : PtpTimestamp := {}
  eofB : Bool := false
  fifo : List CrfSample := []

namespace CrfExtractor

def hdrBeats : Nat := 16

def fifoDepth : Nat := 16

/-- `byte_at`. -/
def header (e : CrfExtractor) : Buffer := fun off => wordByte (e.hdrWords (off / 4)) off

def vlan (e : CrfExtractor) : Bool := e.header 12 == 0x81 && e.header 13 == 0x00

def subtype (e : CrfExtractor) : UInt8 := if e.vlan then e.header 18 else e.header 14

def sid (e : CrfExtractor) : UInt64 :=
  if e.vlan then getBe64 (e.header.offset 22) else getBe64 (e.header.offset 18)

def avtpTs (e : CrfExtractor) : UInt64 :=
  if e.vlan then getBe64 (e.header.offset 38) else getBe64 (e.header.offset 34)

def cfgSid (regs : McrRegs) : UInt64 :=
  regs.crfStreamIdHi.toUInt64 <<< 32 ||| regs.crfStreamIdLo.toUInt64

def matched (e : CrfExtractor) (regs : McrRegs) : Bool :=
  e.eofB && regs.crfEnabled && e.subtype == avtpSubtypeCrf && e.sid == cfgSid regs

/-- The lower 32 of the 48 bits of seconds. -/
def localTs (time : PtpTimestamp) : PtpTimestamp :=
  ⟨time.seconds.toUInt32.toUInt64, time.nanoseconds⟩

def step (regs : McrRegs) (e : CrfExtractor) (c : CrfCycle) : CrfExtractor where
  beatIdx :=
    if c.beat.valid then
      if c.beat.last then 0 else if e.beatIdx < hdrBeats then e.beatIdx + 1 else e.beatIdx
    else e.beatIdx
  hdrWords :=
    if c.beat.valid ∧ e.beatIdx < hdrBeats then Function.update e.hdrWords e.beatIdx c.beat.data
    else e.hdrWords
  localTsCap := if c.beat.valid ∧ e.beatIdx = 0 then c.time else e.localTsCap
  eofB := c.beat.valid && c.beat.last
  fifo :=
    let fifo := if c.pop then e.fifo.tail else e.fifo
    if e.matched regs ∧ e.fifo.length < fifoDepth then
      fifo ++ [⟨e.avtpTs, localTs e.localTsCap⟩]
    else fifo

def run (regs : McrRegs) (e : CrfExtractor) (cycles : List CrfCycle) : CrfExtractor :=
  cycles.foldl (step regs) e

-- ---------------------------------------------------------------------------
-- The cycles of a frame
-- ---------------------------------------------------------------------------

/-- The accepted beats, with their times. The observer is always ready. -/
def accepted (cycles : List CrfCycle) : List CrfCycle := cycles.filter fun c => c.beat.valid

/-- The frame in these cycles, up to its last beat: idle cycles may come
between the beats. The bytes fill the words from the low end, and what the
last word has behind them is not said. -/
structure Carries (cycles : List CrfCycle) (final : CrfCycle) (bytes : List UInt8)
    (time : PtpTimestamp) : Prop where
  body : ∀ c ∈ accepted cycles, c.beat.last = false
  last : final.beat.valid ∧ final.beat.last
  data : ∀ i (h : i < bytes.length),
    (accepted cycles ++ [final])[i / 4]?.map (fun c => wordByte c.beat.data i) = some bytes[i]
  time : (accepted cycles ++ [final])[0]?.map (fun c => c.time) = some time

/-- Between frames, with an empty FIFO. -/
structure Idle (e : CrfExtractor) : Prop where
  beatIdx : e.beatIdx = 0
  eofB : e.eofB = false
  fifo : e.fifo = []

/-- What has been kept of the beats of a frame. -/
structure Keeps (e : CrfExtractor) (taken : List CrfCycle) : Prop where
  words : ∀ (k : Nat) (c : CrfCycle), k < hdrBeats → taken[k]? = some c →
    e.hdrWords k = c.beat.data
  time : ∀ c, taken[0]? = some c → e.localTsCap = c.time

/-- The word and the time of one more beat. -/
theorem Keeps.beat {e : CrfExtractor} {taken : List CrfCycle} (h : e.Keeps taken)
    (hidx : e.beatIdx = min taken.length hdrBeats) (regs : McrRegs) {c : CrfCycle}
    (hvalid : c.beat.valid) : (step regs e c).Keeps (taken ++ [c]) where
  words k c' hk hc' := by
    rw [step, hidx]
    dsimp only
    rcases Nat.lt_or_ge k taken.length with hlt | hge
    · rw [List.getElem?_append_left hlt] at hc'
      split
      · rw [Function.update_of_ne (by omega)]
        exact h.words k c' hk hc'
      · exact h.words k c' hk hc'
    · obtain rfl : k = taken.length := by
        have hbound := (List.getElem?_eq_some_iff.mp hc').1
        rw [List.length_append, List.length_singleton] at hbound
        omega
      rw [List.getElem?_concat_length] at hc'
      obtain rfl := Option.some.inj hc'
      rw [Nat.min_eq_left hk.le, if_pos ⟨hvalid, hk⟩, Function.update_self]
  time c' hc' := by
    rw [step, hidx]
    dsimp only
    cases taken with
    | nil =>
      obtain rfl := Option.some.inj hc'
      rw [if_pos ⟨hvalid, rfl⟩]
    | cons first rest =>
      rw [if_neg fun hzero => absurd hzero.2 (by simp [hdrBeats])]
      exact h.time c' hc'

/-- An idle cycle leaves what is kept of the beats. -/
theorem Keeps.idle {e : CrfExtractor} {taken : List CrfCycle} (h : e.Keeps taken) (regs : McrRegs)
    {c : CrfCycle} (hvalid : c.beat.valid = false) : (step regs e c).Keeps taken := by
  constructor
  · intro k c' hk hc'
    rw [step, hvalid]
    dsimp only
    rw [if_neg fun hv => Bool.false_ne_true hv.1]
    exact h.words k c' hk hc'
  · intro c' hc'
    rw [step, hvalid]
    dsimp only
    rw [if_neg fun hv => Bool.false_ne_true hv.1]
    exact h.time c' hc'

theorem keeps_nil (e : CrfExtractor) : e.Keeps [] where
  words _ _ _ hc := by cases hc
  time _ hc := by cases hc

/-- The beats of one frame, before which nothing waited. -/
structure Latched (e : CrfExtractor) (taken : List CrfCycle) : Prop extends e.Keeps taken where
  fifo : e.fifo = []

/-- Within a frame. -/
structure Latching (e : CrfExtractor) (taken : List CrfCycle) : Prop where
  latched : e.Latched taken
  beatIdx : e.beatIdx = min taken.length hdrBeats
  eofB : e.eofB = false

theorem step_fifo_empty {e : CrfExtractor} (regs : McrRegs) (c : CrfCycle) (hfifo : e.fifo = [])
    (heof : e.eofB = false) : (step regs e c).fifo = [] := by
  have hmatched : e.matched regs = false := by rw [matched, heof]; rfl
  rw [step, hfifo, hmatched]
  dsimp only
  rw [if_neg (fun h => absurd h.1 Bool.false_ne_true)]
  split <;> rfl

theorem Latched.beat {e : CrfExtractor} {taken : List CrfCycle} (h : e.Latching taken)
    (regs : McrRegs) {c : CrfCycle} (hvalid : c.beat.valid) :
    (step regs e c).Latched (taken ++ [c]) :=
  ⟨h.latched.toKeeps.beat h.beatIdx regs hvalid, step_fifo_empty regs c h.latched.fifo h.eofB⟩

theorem Latching.step {e : CrfExtractor} {taken : List CrfCycle} (h : e.Latching taken)
    (regs : McrRegs) {c : CrfCycle} (hlast : c.beat.valid → c.beat.last = false) :
    (step regs e c).Latching (taken ++ accepted [c]) := by
  cases hvalid : c.beat.valid with
  | true =>
    have haccepted : accepted [c] = [c] := by simp [accepted, hvalid]
    rw [haccepted]
    refine ⟨Latched.beat h regs hvalid, ?_, ?_⟩
    · rw [CrfExtractor.step, hvalid, hlast hvalid, h.beatIdx, List.length_append,
        List.length_singleton]
      simp only [if_true, Bool.false_eq_true, if_false]
      split <;> omega
    · rw [CrfExtractor.step, hlast hvalid, Bool.and_false]
  | false =>
    have haccepted : accepted [c] = [] := by simp [accepted, hvalid]
    rw [haccepted, List.append_nil]
    refine ⟨⟨h.latched.toKeeps.idle regs hvalid,
      step_fifo_empty regs c h.latched.fifo h.eofB⟩, ?_, ?_⟩
    · rw [CrfExtractor.step, hvalid]
      exact h.beatIdx
    · rw [CrfExtractor.step, hvalid, Bool.false_and]

theorem Latching.run {e : CrfExtractor} {taken : List CrfCycle} (h : e.Latching taken)
    (regs : McrRegs) {cycles : List CrfCycle}
    (hbody : ∀ c ∈ accepted cycles, c.beat.last = false) :
    (run regs e cycles).Latching (taken ++ accepted cycles) := by
  induction cycles generalizing e taken with
  | nil =>
    rw [accepted, List.filter_nil, List.append_nil]
    exact h
  | cons c rest ih =>
    have hsplit : accepted (c :: rest) = accepted [c] ++ accepted rest := by
      rw [accepted, accepted, accepted, ← List.filter_append, List.singleton_append]
    rw [hsplit] at hbody ⊢
    rw [← List.append_assoc]
    refine ih (h.step regs fun hvalid => hbody c ?_) fun c' hc' =>
      hbody c' (List.mem_append_right _ hc')
    refine List.mem_append_left _ ?_
    rw [accepted, List.filter_cons, if_pos hvalid]
    exact List.mem_cons_self

-- ---------------------------------------------------------------------------
-- What is queued
-- ---------------------------------------------------------------------------

/-- Where the AVTPDU of a frame is. -/
def avtpAt (frame : Buffer) : Nat := if frame 12 == 0x81 && frame 13 == 0x00 then 18 else 14

/-- A frame the extractor takes for a packet of the stream. -/
def isOfStream (frame : Buffer) (regs : McrRegs) : Bool :=
  regs.crfEnabled && frame (avtpAt frame) == avtpSubtypeCrf &&
    getBe64 (frame.offset (avtpAt frame + 4)) == cfgSid regs

/-- The pair it queues. -/
def pairOf (frame : Buffer) (time : PtpTimestamp) : CrfSample :=
  ⟨getBe64 (frame.offset (avtpAt frame + 20)), localTs time⟩

/-- Both are the same of frames that agree in the 46 bytes read. -/
theorem isOfStream_congr {frame frame' : Buffer} (regs : McrRegs)
    (h : ∀ i < 46, frame i = frame' i) :
    isOfStream frame regs = isOfStream frame' regs ∧
      ∀ time, pairOf frame time = pairOf frame' time := by
  have hat : avtpAt frame = avtpAt frame' := by
    rw [avtpAt, avtpAt, h 12 (by decide), h 13 (by decide)]
  have hle : avtpAt frame' ≤ 18 := by
    rw [avtpAt]
    split <;> omega
  have hword (n : Nat) (hn : n ≤ 20) :
      getBe64 (frame.offset (avtpAt frame' + n)) = getBe64 (frame'.offset (avtpAt frame' + n)) :=
    getBe64_congr fun i hi => h _ (by omega)
  constructor
  · rw [isOfStream, isOfStream, hat, h _ (by omega), hword 4 (by decide)]
  · intro time
    rw [pairOf, pairOf, hat, hword 20 (by decide)]

theorem matched_eq {e : CrfExtractor} (regs : McrRegs) (heof : e.eofB) :
    e.matched regs = isOfStream e.header regs := by
  rw [matched, heof, Bool.true_and, isOfStream, subtype, sid, avtpAt, vlan]
  split <;> rfl

theorem pair_eq (e : CrfExtractor) (time : PtpTimestamp) :
    (⟨e.avtpTs, localTs time⟩ : CrfSample) = pairOf e.header time := by
  rw [pairOf, avtpTs, avtpAt, vlan]
  split <;> rfl

/-- A cycle after the frame, whatever that cycle brings. -/
theorem step_carried {e : CrfExtractor} {cycles : List CrfCycle} {final next : CrfCycle}
    {bytes : List UInt8} {time : PtpTimestamp} (hidle : e.Idle)
    (h : Carries cycles final bytes time) (hlong : 46 ≤ bytes.length) (regs : McrRegs)
    {frame : Buffer} (hframe : frame.Holds 0 bytes) :
    (run regs e (cycles ++ [final, next])).fifo =
      if isOfStream frame regs then [pairOf frame time] else [] := by
  have hstart : e.Latching [] := {
    latched := ⟨keeps_nil e, hidle.fifo⟩
    beatIdx := hidle.beatIdx
    eofB := hidle.eofB }
  have hbody := hstart.run regs h.body
  rw [List.nil_append] at hbody
  have hlatched := Latched.beat hbody regs h.last.1
  rw [run, List.foldl_append, List.foldl_cons, List.foldl_cons, List.foldl_nil, ← run]
  generalize hend : CrfExtractor.step regs (run regs e cycles) final = s at hlatched ⊢
  have heof : s.eofB = true := by
    rw [← hend, CrfExtractor.step, h.last.1, h.last.2]
    rfl
  have hheader (i : Nat) (hi : i < 46) : s.header i = frame i := by
    obtain ⟨c, hc, hbyte⟩ := Option.map_eq_some_iff.mp (h.data i (by omega))
    have hword := hlatched.words (i / 4) c (by rw [hdrBeats]; omega) hc
    have hheld := hframe i (by omega)
    rw [Nat.zero_add] at hheld
    rw [header, hword, hbyte, hheld]
  have htime : s.localTsCap = time := by
    obtain ⟨c, hc, rfl⟩ := Option.map_eq_some_iff.mp h.time
    exact hlatched.time c hc
  obtain ⟨hstream, hpair⟩ := isOfStream_congr regs hheader
  rw [CrfExtractor.step, hlatched.fifo]
  dsimp only
  rw [matched_eq regs heof, hstream, pair_eq, hpair, htime]
  have htail : (if next.pop then ([] : List CrfSample).tail else []) = [] := by split <;> rfl
  rw [htail]
  cases isOfStream frame regs <;> rfl

end CrfExtractor

end AvbAes3
