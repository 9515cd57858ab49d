import AvbAes3.Aaf
import AvbAes3.ChannelPairs
import AvbAes3.CrfExtractor

/-!
# AVTPSampleExtractor

The gateware that observes the MAC's receive stream and, when a frame of the
stream in its slot has ended, walks the buffer the frame was kept in and
writes the samples into a FIFO for each channel. This is the instance of
avb_soc.py: one slot, two FIFOs, eight channels on the wire. The buffer's
read port takes its address at a clock edge and shows what is in that cell
from then on, a write at the same edge included.

A run is an initial state and the inputs of every cycle; `beats` and `frame`
read the frames off the inputs, and `Receiving` and `Checked` say what the
registers hold of them.
-/

namespace AvbAes3

open ChannelPairs (Channel ExState wireChannels samplesPerFrame fifoDepth)

/-- The inputs of a clock cycle: the observed beat, what the slot's registers
hold, `pop.re` and `ch_select`. -/
structure AvtpCycle where
  beat : Beat UInt32
  slot : ExtractorSlot
  popRe : Bool
  chSelect : Channel

/-- The registers of the extraction FSM. -/
structure AvtpWalk where
  exState : ExState := .idle
  exSampleN : Nat := 0
  exBeatAddr : Nat := 0
  exPrevWord : UInt32 := 0

/-- The registers, the frame buffer with the address its read port has taken,
and the FIFOs with their heads first. -/
structure AvtpExtractor where
  beatIdx : Nat := 0
  frameBuf : Nat → UInt32 := fun _ => 0
  hdrWords : Nat → UInt32 := fun _ => 0
  vlanPresentB : Bool := false
  subtypeB : UInt8 := 0
  dstMacB : UInt64 := 0
  sidB : UInt64 := 0
  eofB : Bool := false
  slotMatchC : Bool := false
  eofC : Bool := false
  vlanC : Bool := false
  ex : AvtpWalk := {}
  rdAdr : Nat := 0
  fifos : Channel → List UInt32 := fun _ => []

namespace AvtpExtractor

def bufBeats : Nat := 64

def hdrBeats : Nat := 8

-- ---------------------------------------------------------------------------
-- Match
-- ---------------------------------------------------------------------------

/-- `byte_at`. -/
def header (e : AvtpExtractor) : Buffer := fun off => wordByte (e.hdrWords (off / 4)) off

def vlanComb (e : AvtpExtractor) : Bool := e.header 12 == 0x81 && e.header 13 == 0x00

def subtypeComb (e : AvtpExtractor) : UInt8 := if e.vlanComb then e.header 18 else e.header 14

def sidComb (e : AvtpExtractor) : UInt64 :=
  if e.vlanComb then getBe64 (e.header.offset 22) else getBe64 (e.header.offset 18)

def dstMacComb (e : AvtpExtractor) : UInt64 := getBe48 e.header

/-- The register of the upper half has 16 bits. -/
def slotDstMac (slot : ExtractorSlot) : UInt64 :=
  slot.dstMacHi.toUInt16.toUInt64 <<< 32 ||| slot.dstMacLo.toUInt64

def slotStreamId (slot : ExtractorSlot) : UInt64 :=
  slot.streamIdHi.toUInt64 <<< 32 ||| slot.streamIdLo.toUInt64

def slotMatch (slot : ExtractorSlot) (dstMac sid : UInt64) (subtype : UInt8) : Bool :=
  slot.enabled && slotDstMac slot == dstMac && slotStreamId slot == sid &&
    subtype == avtpSubtypeAaf

def matchAtEof (e : AvtpExtractor) (c : AvtpCycle) : Bool :=
  c.beat.valid && c.beat.last && slotMatch c.slot e.dstMacComb e.sidComb e.subtypeComb

-- ---------------------------------------------------------------------------
-- Extraction
-- ---------------------------------------------------------------------------

def datR (e : AvtpExtractor) : UInt32 := e.frameBuf e.rdAdr

/-- The upper half of one word and the lower half of the next, bytes
reversed. -/
def straddled (prev word : UInt32) : UInt32 :=
  (wordByte prev 2).toUInt32 <<< 24 ||| (wordByte prev 3).toUInt32 <<< 16 |||
    (wordByte word 0).toUInt32 <<< 8 ||| (wordByte word 1).toUInt32

def exSample (e : AvtpExtractor) : UInt32 := straddled e.ex.exPrevWord e.datR

/-- The sample `ex_write` offers the channel's FIFO, `ex_ch_now` being its
channel. -/
def offered (e : AvtpExtractor) (ch : Channel) : Option UInt32 :=
  if e.ex.exState = .stream ∧ e.ex.exSampleN % wireChannels = ch.index then some e.exSample
  else none

/-- It is written if the FIFO is `writable`. -/
def written (e : AvtpExtractor) (ch : Channel) : Option UInt32 :=
  if (e.fifos ch).length < fifoDepth then e.offered ch else none

def walkStart (vlan : Bool) : Nat := if vlan then 10 else 9

/-- `matched` is `eof_c` with a match. -/
def walkStep (x : AvtpWalk) (matched vlanC : Bool) (datR : UInt32) : AvtpWalk :=
  match x.exState with
  | .idle =>
    if matched then { x with exState := .prime, exBeatAddr := walkStart vlanC, exSampleN := 0 }
    else x
  | .prime => { x with exState := .warm, exBeatAddr := x.exBeatAddr + 1 }
  | .warm =>
    { x with exState := .stream, exBeatAddr := x.exBeatAddr + 1, exPrevWord := datR }
  | .stream =>
    if x.exSampleN = samplesPerFrame - 1 then
      { x with exState := .idle, exBeatAddr := x.exBeatAddr + 1, exPrevWord := datR }
    else
      { x with
        exSampleN := x.exSampleN + 1
        exBeatAddr := x.exBeatAddr + 1
        exPrevWord := datR }

def step (e : AvtpExtractor) (c : AvtpCycle) : AvtpExtractor where
  beatIdx :=
    if c.beat.valid then
      if c.beat.last then 0 else if e.beatIdx < bufBeats then e.beatIdx + 1 else e.beatIdx
    else e.beatIdx
  frameBuf :=
    if c.beat.valid ∧ e.beatIdx < bufBeats then Function.update e.frameBuf e.beatIdx c.beat.data
    else e.frameBuf
  hdrWords :=
    if c.beat.valid ∧ e.beatIdx < hdrBeats then Function.update e.hdrWords e.beatIdx c.beat.data
    else e.hdrWords
  vlanPresentB := if c.beat.valid ∧ c.beat.last then e.vlanComb else e.vlanPresentB
  subtypeB := if c.beat.valid ∧ c.beat.last then e.subtypeComb else e.subtypeB
  dstMacB := if c.beat.valid ∧ c.beat.last then e.dstMacComb else e.dstMacB
  sidB := if c.beat.valid ∧ c.beat.last then e.sidComb else e.sidB
  eofB := c.beat.valid && c.beat.last
  slotMatchC := if e.eofB then slotMatch c.slot e.dstMacB e.sidB e.subtypeB else e.slotMatchC
  eofC := e.eofB
  vlanC := if e.eofB then e.vlanPresentB else e.vlanC
  ex := walkStep e.ex (e.eofC && e.slotMatchC) e.vlanC e.datR
  rdAdr := e.ex.exBeatAddr % bufBeats
  fifos ch :=
    SyncFifo.next fifoDepth (e.fifos ch) (e.offered ch) (c.popRe && c.chSelect == ch)

/-- The FSM that the pairing of the channels rests on is this one. -/
theorem walkStep_extract (x : AvtpWalk) (matched vlanC : Bool) (datR sample : UInt32)
    (advance : Bool) (count : Nat) :
    (ChannelPairs.extract ⟨x.exState, x.exSampleN, count⟩ ⟨matched, sample, advance⟩).exState =
        (walkStep x matched vlanC datR).exState ∧
      (ChannelPairs.extract ⟨x.exState, x.exSampleN, count⟩ ⟨matched, sample, advance⟩).exSampleN =
        (walkStep x matched vlanC datR).exSampleN := by
  obtain ⟨exState, exSampleN, exBeatAddr, exPrevWord⟩ := x
  unfold ChannelPairs.extract walkStep
  cases exState with
  | idle => cases matched <;> exact ⟨rfl, rfl⟩
  | prime => exact ⟨rfl, rfl⟩
  | warm => exact ⟨rfl, rfl⟩
  | stream =>
    dsimp only
    split <;> exact ⟨rfl, rfl⟩

/-- The state at the start of a cycle. -/
def state (e : AvtpExtractor) (input : Nat → AvtpCycle) : Nat → AvtpExtractor
  | 0 => e
  | t + 1 => (state e input t).step (input t)

/-- Between frames and not extracting; the buffer, the header and the FIFOs
hold anything. -/
structure Quiet (e : AvtpExtractor) : Prop where
  beatIdx : e.beatIdx = 0
  eofB : e.eofB = false
  eofC : e.eofC = false
  exState : e.ex.exState = .idle

-- ---------------------------------------------------------------------------
-- The frames
-- ---------------------------------------------------------------------------

/-- The beats of the frame being received that came before the cycle. -/
def beats (input : Nat → AvtpCycle) : Nat → List UInt32
  | 0 => []
  | t + 1 =>
    if (input t).beat.valid then
      if (input t).beat.last then [] else beats input t ++ [(input t).beat.data]
    else beats input t

/-- A frame's last beat comes in the cycle. -/
def Ends (input : Nat → AvtpCycle) (t : Nat) : Prop :=
  (input t).beat.valid ∧ (input t).beat.last

instance (input : Nat → AvtpCycle) (t : Nat) : Decidable (Ends input t) := by
  unfold Ends; infer_instance

/-- The words of that frame. -/
def frame (input : Nat → AvtpCycle) (t : Nat) : List UInt32 :=
  beats input t ++ [(input t).beat.data]

/-- The words' bytes, the first in the low end. -/
def wordBytes (words : List UInt32) : Buffer := fun off =>
  (words[off / 4]?.map fun word => wordByte word off).getD 0

open CrfExtractor (avtpAt)

def matchesSlot (frame : Buffer) (slot : ExtractorSlot) : Bool :=
  slotMatch slot (getBe48 frame) (getBe64 (frame.offset (avtpAt frame + 4)))
    (frame (avtpAt frame))

/-- Both read the first 30 bytes. -/
theorem matchesSlot_congr {frame frame' : Buffer} (h : ∀ i < 30, frame i = frame' i) :
    avtpAt frame = avtpAt frame' ∧ matchesSlot frame = matchesSlot frame' := by
  have hat : avtpAt frame = avtpAt frame' := by
    rw [avtpAt, avtpAt, h 12 (by decide), h 13 (by decide)]
  have hle : avtpAt frame' ≤ 18 := by
    rw [avtpAt]
    split <;> omega
  have hmac : getBe48 frame = getBe48 frame' := getBe48_congr fun i hi => h i (by omega)
  have hsid : getBe64 (frame.offset (avtpAt frame' + 4)) =
      getBe64 (frame'.offset (avtpAt frame' + 4)) := getBe64_congr fun i hi => h _ (by omega)
  refine ⟨hat, funext fun slot => ?_⟩
  rw [matchesSlot, matchesSlot, hat, hmac, hsid, h _ (by omega)]

theorem slotMatch_header (e : AvtpExtractor) (slot : ExtractorSlot) :
    slotMatch slot e.dstMacComb e.sidComb e.subtypeComb = matchesSlot e.header slot := by
  rw [matchesSlot, dstMacComb, sidComb, subtypeComb, avtpAt, vlanComb]
  split <;> rfl

theorem walkStart_header (e : AvtpExtractor) :
    4 * walkStart e.vlanComb + 2 = avtpAt e.header + aafStreamHdrLen := by
  rw [walkStart, avtpAt, vlanComb, aafStreamHdrLen]
  split <;> rfl

-- ---------------------------------------------------------------------------
-- What is kept of a frame
-- ---------------------------------------------------------------------------

/-- The words of the beats so far, as far as the memory goes. -/
def HoldsWords (mem : Nat → UInt32) (depth : Nat) (words : List UInt32) : Prop :=
  ∀ k word, k < depth → words[k]? = some word → mem k = word

theorem HoldsWords.nil (mem : Nat → UInt32) (depth : Nat) : HoldsWords mem depth [] := by
  rintro k word - ⟨⟩

/-- One more beat, kept or past the end. -/
theorem HoldsWords.beat {mem : Nat → UInt32} {depth idx : Nat} {words : List UInt32}
    (h : HoldsWords mem depth words) (hidx : min idx depth = min words.length depth)
    (word : UInt32) :
    HoldsWords (if idx < depth then Function.update mem idx word else mem) depth
      (words ++ [word]) := by
  intro k word' hk hword
  rcases Nat.lt_or_ge k words.length with hlt | hge
  · rw [List.getElem?_append_left hlt] at hword
    split
    · rw [Function.update_of_ne (by omega)]
      exact h k word' hk hword
    · exact h k word' hk hword
  · obtain rfl : k = words.length := by
      have hbound := (List.getElem?_eq_some_iff.mp hword).1
      rw [List.length_append, List.length_singleton] at hbound
      omega
    rw [List.getElem?_concat_length] at hword
    obtain rfl := Option.some.inj hword
    obtain rfl : words.length = idx := by omega
    rw [if_pos hk, Function.update_self]

/-- The counter and the memories, within a frame. -/
structure Receiving (e : AvtpExtractor) (words : List UInt32) : Prop where
  beatIdx : e.beatIdx = min words.length bufBeats
  buf : HoldsWords e.frameBuf bufBeats words
  header : HoldsWords e.hdrWords hdrBeats words

section Step

variable {e : AvtpExtractor} {c : AvtpCycle} {words : List UInt32}

theorem Receiving.idle (h : e.Receiving words) (hvalid : c.beat.valid = false) :
    (e.step c).Receiving words := by
  obtain ⟨hidx, hbuf, hheader⟩ := h
  constructor
  · rw [step, hvalid]
    exact hidx
  · rw [step, hvalid]
    exact hbuf
  · rw [step, hvalid]
    exact hheader

theorem frameBuf_step (hvalid : c.beat.valid) :
    (e.step c).frameBuf =
      if e.beatIdx < bufBeats then Function.update e.frameBuf e.beatIdx c.beat.data
      else e.frameBuf := by
  simp only [step, hvalid, true_and]

theorem hdrWords_step (hvalid : c.beat.valid) :
    (e.step c).hdrWords =
      if e.beatIdx < hdrBeats then Function.update e.hdrWords e.beatIdx c.beat.data
      else e.hdrWords := by
  simp only [step, hvalid, true_and]

/-- A beat, the last one included. -/
theorem Receiving.beat (h : e.Receiving words) (hvalid : c.beat.valid) :
    HoldsWords (e.step c).frameBuf bufBeats (words ++ [c.beat.data]) ∧
      HoldsWords (e.step c).hdrWords hdrBeats (words ++ [c.beat.data]) := by
  obtain ⟨hidx, hbuf, hheader⟩ := h
  rw [frameBuf_step hvalid, hdrWords_step hvalid]
  refine ⟨hbuf.beat ?_ _, hheader.beat ?_ _⟩
  · rw [hidx, Nat.min_assoc, Nat.min_self]
  · rw [hidx, Nat.min_assoc]
    rfl

theorem Receiving.more (h : e.Receiving words) (hvalid : c.beat.valid)
    (hlast : c.beat.last = false) : (e.step c).Receiving (words ++ [c.beat.data]) := by
  obtain ⟨hbuf, hheader⟩ := h.beat hvalid
  refine ⟨?_, hbuf, hheader⟩
  rw [step, hvalid, hlast, h.beatIdx, List.length_append, List.length_singleton]
  simp only [if_true, Bool.false_eq_true, if_false]
  split <;> omega

theorem Receiving.last (hvalid : c.beat.valid) (hlast : c.beat.last) :
    (e.step c).Receiving [] := by
  refine ⟨?_, .nil _ _, .nil _ _⟩
  rw [step, hvalid, hlast]
  rfl

end Step

section Run

variable {e : AvtpExtractor} (hquiet : e.Quiet) (input : Nat → AvtpCycle)

theorem beats_idle {t : Nat} (hvalid : (input t).beat.valid = false) :
    beats input (t + 1) = beats input t := by
  rw [beats, hvalid]
  rfl

theorem beats_more {t : Nat} (hvalid : (input t).beat.valid)
    (hlast : (input t).beat.last = false) : beats input (t + 1) = frame input t := by
  rw [beats, hvalid, hlast]
  rfl

theorem beats_ends {t : Nat} (hends : Ends input t) : beats input (t + 1) = [] := by
  rw [beats, hends.1, hends.2]
  rfl

include hquiet in
theorem receiving (t : Nat) : (e.state input t).Receiving (beats input t) := by
  induction t with
  | zero => exact ⟨hquiet.beatIdx, .nil _ _, .nil _ _⟩
  | succ t ih =>
    cases hvalid : (input t).beat.valid with
    | false =>
      rw [beats_idle input hvalid]
      exact ih.idle hvalid
    | true =>
      cases hlast : (input t).beat.last with
      | false =>
        rw [beats_more input hvalid hlast]
        exact ih.more hvalid hlast
      | true =>
        rw [beats_ends input ⟨hvalid, hlast⟩]
        exact .last hvalid hlast

include hquiet in
/-- After its last beat the buffer has the frame. -/
theorem frameBuf_frame {t : Nat} (hends : Ends input t) :
    HoldsWords (e.state input (t + 1)).frameBuf bufBeats (frame input t) :=
  ((receiving hquiet input t).beat hends.1).1

include hquiet in
/-- With its last beat the header has the frame's first eight words, if that
is not one of them. -/
theorem header_frame {t : Nat} (hlong : hdrBeats < (frame input t).length) {i : Nat}
    (hi : i < 4 * hdrBeats) :
    (e.state input t).header i = wordBytes (frame input t) i := by
  have hbound : i / 4 < (beats input t).length := by
    rw [frame, List.length_append, List.length_singleton] at hlong
    omega
  have hget := List.getElem?_eq_getElem hbound
  have hword := (receiving hquiet input t).header (i / 4) _ (by omega) hget
  rw [header, hword, wordBytes, frame, List.getElem?_append_left hbound, hget]
  rfl

-- ---------------------------------------------------------------------------
-- The match of a frame
-- ---------------------------------------------------------------------------

theorem keys_step {e : AvtpExtractor} {c : AvtpCycle} (hvalid : c.beat.valid)
    (hlast : c.beat.last) :
    (e.step c).eofB ∧ (e.step c).vlanPresentB = e.vlanComb ∧
      (e.step c).subtypeB = e.subtypeComb ∧ (e.step c).dstMacB = e.dstMacComb ∧
      (e.step c).sidB = e.sidComb := by
  simp only [step, hvalid, hlast, and_self, if_true, Bool.and_self]

theorem match_step {e : AvtpExtractor} (c : AvtpCycle) (heof : e.eofB) :
    (e.step c).eofC ∧ (e.step c).vlanC = e.vlanPresentB ∧
      (e.step c).slotMatchC = slotMatch c.slot e.dstMacB e.sidB e.subtypeB := by
  simp only [step, heof, if_true, and_self]

/-- Two cycles after its last beat the match of a frame is known. -/
theorem match_frame (e : AvtpExtractor) {t : Nat} (hends : Ends input t) :
    (e.state input (t + 2)).eofC ∧
      (e.state input (t + 2)).vlanC = (e.state input t).vlanComb ∧
      (e.state input (t + 2)).slotMatchC =
        matchesSlot (e.state input t).header (input (t + 1)).slot := by
  obtain ⟨heof, hvlan, hsubtype, hmac, hsid⟩ := keys_step (e := e.state input t) hends.1 hends.2
  obtain ⟨heofC, hvlanC, hmatch⟩ := match_step (input (t + 1)) heof
  rw [hvlan] at hvlanC
  rw [hsubtype, hmac, hsid, slotMatch_header] at hmatch
  exact ⟨heofC, hvlanC, hmatch⟩

include hquiet in
/-- A match is of the frame whose last beat came two cycles before. -/
theorem ends_of_eofC {t : Nat} (heof : (e.state input t).eofC) :
    ∃ T, t = T + 2 ∧ Ends input T := by
  cases t with
  | zero => exact absurd (hquiet.eofC.symm.trans heof) Bool.false_ne_true
  | succ t =>
    cases t with
    | zero => exact absurd (hquiet.eofB.symm.trans heof) Bool.false_ne_true
    | succ t =>
      refine ⟨t, rfl, ?_⟩
      have hends : ((input t).beat.valid && (input t).beat.last) = true := heof
      rw [Bool.and_eq_true] at hends
      exact hends

end Run

end AvtpExtractor

end AvbAes3
