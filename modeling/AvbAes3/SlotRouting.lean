import AvbAes3.AvtpExtractor

/-!
# Which slot gets the samples

The extractor with any number of slots and channels. Two cycles after a
frame's last beat the matches of all slots are known, and if the FSM is idle
it starts; `ex_match_slot` then takes the slot that matched, and `ex_slot`,
which the writes go by, takes what `ex_match_slot` held before. So a frame
goes to its slot if the match before was of the same slot.
-/

namespace AvbAes3.SlotRouting

open AvtpExtractor (bufBeats hdrBeats frame wordBytes matchesSlot)

-- ---------------------------------------------------------------------------
-- The extractor
-- ---------------------------------------------------------------------------

/-- The parameters of `AVTPSampleExtractor`. -/
structure Shape where
  nSlots : Nat
  nChannels : Nat
  wireChannels : Nat
  fifoDepth : Nat
  slots : 1 ≤ nSlots
  channels : 1 ≤ nChannels
  stored : nChannels ≤ wireChannels

def Shape.firstSlot (p : Shape) : Fin p.nSlots := ⟨0, p.slots⟩

def Shape.firstChannel (p : Shape) : Fin p.nChannels := ⟨0, p.channels⟩

/-- The observed beat, what the slots' registers hold, and for each slot
`pop.re` and `ch_select`. -/
structure SlotCycle (p : Shape) where
  beat : Beat UInt32
  slots : Fin p.nSlots → ExtractorSlot
  popRe : Fin p.nSlots → Bool
  chSelect : Fin p.nSlots → Nat

structure SlotExtractor (p : Shape) where
  beatIdx : Nat
  frameBuf : Nat → UInt32
  hdrWords : Nat → UInt32
  vlanPresentB : Bool
  subtypeB : UInt8
  dstMacB : UInt64
  sidB : UInt64
  eofB : Bool
  slotMatchC : Fin p.nSlots → Bool
  eofC : Bool
  vlanC : Bool
  ex : AvtpWalk
  exSlot : Fin p.nSlots
  exMatchSlot : Fin p.nSlots
  rdAdr : Nat
  matchCount : Fin p.nSlots → UInt32
  fifos : Fin p.nSlots → Fin p.nChannels → List UInt32

def reset (p : Shape) : SlotExtractor p where
  beatIdx := 0
  frameBuf := fun _ => 0
  hdrWords := fun _ => 0
  vlanPresentB := false
  subtypeB := 0
  dstMacB := 0
  sidB := 0
  eofB := false
  slotMatchC := fun _ => false
  eofC := false
  vlanC := false
  ex := ⟨.idle, 0, 0, 0⟩
  exSlot := p.firstSlot
  exMatchSlot := p.firstSlot
  rdAdr := 0
  matchCount := fun _ => 0
  fifos := fun _ _ => []

variable {p : Shape}

/-- The keys are read off the header as in the extractor with one slot. -/
def SlotExtractor.keys (e : SlotExtractor p) : AvtpExtractor := { hdrWords := e.hdrWords }

/-- The bits of `ex_sample_n` that are the channel. -/
def exChNow (p : Shape) (exSampleN : Nat) : Nat :=
  if p.wireChannels = 1 then 0 else exSampleN % 2 ^ Nat.log2 p.wireChannels

def SlotExtractor.datR (e : SlotExtractor p) : UInt32 := e.frameBuf e.rdAdr

def SlotExtractor.exSample (e : SlotExtractor p) : UInt32 :=
  AvtpExtractor.straddled e.ex.exPrevWord e.datR

/-- What `we` and `din` offer a FIFO, but for its being `writable`. -/
def SlotExtractor.offered (e : SlotExtractor p) (s : Fin p.nSlots) (ch : Fin p.nChannels) :
    Option UInt32 :=
  if e.ex.exState = .stream ∧ e.exSlot = s ∧ exChNow p e.ex.exSampleN = ch.val then
    some e.exSample
  else none

/-- The sample pushed into a FIFO. -/
def SlotExtractor.pushed (e : SlotExtractor p) (s : Fin p.nSlots) (ch : Fin p.nChannels) :
    Option UInt32 :=
  if (e.fifos s ch).length < p.fifoDepth then e.offered s ch else none

def samplesPerFrame (p : Shape) : Nat := 6 * p.wireChannels

/-- `ex_sample_n` has six bits. -/
def walkStep (p : Shape) (x : AvtpWalk) (matched vlanC : Bool) (datR : UInt32) : AvtpWalk :=
  match x.exState with
  | .idle =>
    if matched then
      { x with exState := .prime, exBeatAddr := AvtpExtractor.walkStart vlanC, exSampleN := 0 }
    else x
  | .prime => { x with exState := .warm, exBeatAddr := x.exBeatAddr + 1 }
  | .warm => { x with exState := .stream, exBeatAddr := x.exBeatAddr + 1, exPrevWord := datR }
  | .stream =>
    if x.exSampleN = samplesPerFrame p - 1 then
      { x with exState := .idle, exBeatAddr := x.exBeatAddr + 1, exPrevWord := datR }
    else
      { x with
        exSampleN := (x.exSampleN + 1) % 64
        exBeatAddr := x.exBeatAddr + 1
        exPrevWord := datR }

/-- `slot_match_c != 0` -/
def anyMatch (m : Fin p.nSlots → Bool) : Bool := (List.finRange p.nSlots).any m

/-- The `Case` has a branch for each one-hot value. -/
def decodeSlot (m : Fin p.nSlots → Bool) : Option (Fin p.nSlots) :=
  (List.finRange p.nSlots).find? fun i => (List.finRange p.nSlots).all fun j => m j == (j == i)

/-- A match is decided and the FSM is idle. -/
def SlotExtractor.starts (e : SlotExtractor p) : Bool :=
  e.eofC && anyMatch e.slotMatchC && e.ex.exState == .idle

def step (e : SlotExtractor p) (c : SlotCycle p) : SlotExtractor p where
  beatIdx :=
    if c.beat.valid then
      if c.beat.last then 0 else if e.beatIdx < bufBeats then e.beatIdx + 1 else e.beatIdx
    else e.beatIdx
  frameBuf :=
    if c.beat.valid ∧ e.beatIdx < bufBeats then Function.update e.frameBuf e.beatIdx c.beat.data
    else e.frameBuf
  hdrWords :=
    if c.beat.valid ∧ e.beatIdx < hdrBeats then Function.update e.hdrWords e.beatIdx c.beat.data
    else e.hdrWords
  vlanPresentB := if c.beat.valid ∧ c.beat.last then e.keys.vlanComb else e.vlanPresentB
  subtypeB := if c.beat.valid ∧ c.beat.last then e.keys.subtypeComb else e.subtypeB
  dstMacB := if c.beat.valid ∧ c.beat.last then e.keys.dstMacComb else e.dstMacB
  sidB := if c.beat.valid ∧ c.beat.last then e.keys.sidComb else e.sidB
  eofB := c.beat.valid && c.beat.last
  slotMatchC i :=
    if e.eofB then AvtpExtractor.slotMatch (c.slots i) e.dstMacB e.sidB e.subtypeB
    else e.slotMatchC i
  eofC := e.eofB
  vlanC := if e.eofB then e.vlanPresentB else e.vlanC
  ex := walkStep p e.ex (e.eofC && anyMatch e.slotMatchC) e.vlanC e.datR
  exSlot := if e.starts then e.exMatchSlot else e.exSlot
  exMatchSlot := if e.starts then (decodeSlot e.slotMatchC).getD p.firstSlot else e.exMatchSlot
  rdAdr := e.ex.exBeatAddr % bufBeats
  matchCount i := if e.eofC && e.slotMatchC i then e.matchCount i + 1 else e.matchCount i
  fifos s ch :=
    SyncFifo.next p.fifoDepth (e.fifos s ch) (e.offered s ch)
      (c.popRe s && c.chSelect s == ch.val)

/-- The state at the start of a cycle, from the reset on. -/
def state (input : Nat → SlotCycle p) : Nat → SlotExtractor p
  | 0 => reset p
  | t + 1 => step (state input t) (input t)

-- ---------------------------------------------------------------------------
-- Frames
-- ---------------------------------------------------------------------------

/-- What the extractor with only this slot sees. -/
def slotInput (i : Fin p.nSlots) (input : Nat → SlotCycle p) : Nat → AvtpCycle :=
  fun t => ⟨(input t).beat, (input t).slots i, false, .l⟩

/-- A frame that is long enough to have a header ends in the cycle, and when
its matches are known the FSM is idle. -/
structure Arrives (input : Nat → SlotCycle p) (T : Nat) : Prop where
  valid : (input T).beat.valid = true
  last : (input T).beat.last = true
  long : hdrBeats < (frame (slotInput p.firstSlot input) T).length
  idle : (state input (T + 2)).ex.exState = .idle

/-- The slot's registers, when they are compared, have the frame's keys. -/
def Matches (input : Nat → SlotCycle p) (T : Nat) (i : Fin p.nSlots) : Prop :=
  matchesSlot (wordBytes (frame (slotInput p.firstSlot input) T)) ((input (T + 1)).slots i)

def LowestMatch (input : Nat → SlotCycle p) (T : Nat) (i : Fin p.nSlots) : Prop :=
  Matches input T i ∧ ∀ j < i, ¬ Matches input T j

/-- The FSM has been at work since the frame's match. -/
def Walking (input : Nat → SlotCycle p) (T t : Nat) : Prop :=
  T + 3 ≤ t ∧ ∀ u, T + 3 ≤ u → u ≤ t → (state input u).ex.exState ≠ .idle

/-- The frame's samples go to this slot, and its match is counted. -/
structure Routed (input : Nat → SlotCycle p) (T : Nat) (i : Fin p.nSlots) : Prop where
  pushes : ∀ t, Walking input T t → ∀ s ch, (state input t).pushed s ch ≠ none → s = i
  count : (state input (T + 3)).matchCount i = (state input (T + 2)).matchCount i + 1

/-- Every frame's samples go to the lowest slot that it matches. -/
def Routes (input : Nat → SlotCycle p) : Prop :=
  ∀ T i, Arrives input T → LowestMatch input T i → Routed input T i

/-- Whenever the FSM starts, `ex_match_slot` is already the lowest slot that
the frame matches. -/
def Decoded (input : Nat → SlotCycle p) : Prop :=
  ∀ T i, Arrives input T → LowestMatch input T i → (state input (T + 2)).exMatchSlot = i

def NeverFull (input : Nat → SlotCycle p) : Prop :=
  ∀ t s ch, ((state input t).fifos s ch).length < p.fifoDepth

-- ---------------------------------------------------------------------------
-- The match of a frame
-- ---------------------------------------------------------------------------

/-- The extractor with one slot has the same registers, up to the match. -/
structure Sees (a : AvtpExtractor) (e : SlotExtractor p) (i : Fin p.nSlots) : Prop where
  beatIdx : a.beatIdx = e.beatIdx
  hdrWords : a.hdrWords = e.hdrWords
  subtypeB : a.subtypeB = e.subtypeB
  dstMacB : a.dstMacB = e.dstMacB
  sidB : a.sidB = e.sidB
  eofB : a.eofB = e.eofB
  slotMatchC : a.slotMatchC = e.slotMatchC i
  eofC : a.eofC = e.eofC

theorem Sees.keys {a : AvtpExtractor} {e : SlotExtractor p} {i : Fin p.nSlots} (h : Sees a e i) :
    a.subtypeComb = e.keys.subtypeComb ∧ a.dstMacComb = e.keys.dstMacComb ∧
      a.sidComb = e.keys.sidComb := by
  have hheader : a.header = e.keys.header :=
    congrArg (fun words : Nat → UInt32 => fun off => wordByte (words (off / 4)) off) h.hdrWords
  have hvlan : a.vlanComb = e.keys.vlanComb := by
    rw [AvtpExtractor.vlanComb, AvtpExtractor.vlanComb, hheader]
  refine ⟨?_, ?_, ?_⟩
  · rw [AvtpExtractor.subtypeComb, AvtpExtractor.subtypeComb, hvlan, hheader]
  · rw [AvtpExtractor.dstMacComb, AvtpExtractor.dstMacComb, hheader]
  · rw [AvtpExtractor.sidComb, AvtpExtractor.sidComb, hvlan, hheader]

theorem Sees.step {a : AvtpExtractor} {e : SlotExtractor p} {i : Fin p.nSlots} (h : Sees a e i)
    (c : SlotCycle p) :
    Sees (a.step ⟨c.beat, c.slots i, false, .l⟩) (SlotRouting.step e c) i := by
  obtain ⟨hsubtype, hmac, hsid⟩ := h.keys
  constructor
  · rw [AvtpExtractor.step, SlotRouting.step, h.beatIdx]
  · rw [AvtpExtractor.step, SlotRouting.step, h.beatIdx, h.hdrWords]
  · rw [AvtpExtractor.step, SlotRouting.step, h.subtypeB, hsubtype]
  · rw [AvtpExtractor.step, SlotRouting.step, h.dstMacB, hmac]
  · rw [AvtpExtractor.step, SlotRouting.step, h.sidB, hsid]
  · rw [AvtpExtractor.step, SlotRouting.step]
  · rw [AvtpExtractor.step, SlotRouting.step, h.eofB, h.dstMacB, h.sidB, h.subtypeB, h.slotMatchC]
  · rw [AvtpExtractor.step, SlotRouting.step, h.eofB]

theorem sees (input : Nat → SlotCycle p) (i : Fin p.nSlots) (t : Nat) :
    Sees (({} : AvtpExtractor).state (slotInput i input) t) (state input t) i := by
  induction t with
  | zero => exact ⟨rfl, rfl, rfl, rfl, rfl, rfl, rfl, rfl⟩
  | succ t ih => exact ih.step (input t)

/-- The beats are the same to every slot. -/
theorem frame_slotInput (input : Nat → SlotCycle p) (i j : Fin p.nSlots) (T : Nat) :
    frame (slotInput i input) T = frame (slotInput j input) T := by
  have hbeats (t : Nat) :
      AvtpExtractor.beats (slotInput i input) t = AvtpExtractor.beats (slotInput j input) t := by
    induction t with
    | zero => rfl
    | succ t ih =>
      rw [AvtpExtractor.beats, AvtpExtractor.beats, ih]
      rfl
  rw [frame, frame, hbeats]
  rfl

/-- Two cycles after the last beat `slot_match_c` has the frame's matches. -/
theorem Arrives.matched {input : Nat → SlotCycle p} {T : Nat} (h : Arrives input T)
    (i : Fin p.nSlots) :
    (state input (T + 2)).eofC = true ∧
      ((state input (T + 2)).slotMatchC i = true ↔ Matches input T i) := by
  have hends : AvtpExtractor.Ends (slotInput i input) T := ⟨h.valid, h.last⟩
  have hsees := sees input i (T + 2)
  obtain ⟨heof, -, hmatch⟩ := AvtpExtractor.match_frame (slotInput i input) {} hends
  have hlong := h.long
  rw [frame_slotInput input p.firstSlot i] at hlong
  have hquiet : AvtpExtractor.Quiet {} := ⟨rfl, rfl, rfl, rfl⟩
  have hheader := (AvtpExtractor.matchesSlot_congr fun k hk =>
    AvtpExtractor.header_frame hquiet (slotInput i input) hlong (i := k)
      (by unfold hdrBeats; omega)).2
  rw [hheader] at hmatch
  rw [← hsees.eofC, ← hsees.slotMatchC, hmatch, Matches, frame_slotInput input p.firstSlot i]
  exact ⟨heof, Iff.rfl⟩

-- ---------------------------------------------------------------------------
-- The walk
-- ---------------------------------------------------------------------------

theorem Arrives.starts {input : Nat → SlotCycle p} {T : Nat} (h : Arrives input T)
    {i : Fin p.nSlots} (hmatch : Matches input T i) : (state input (T + 2)).starts = true := by
  obtain ⟨heof, hslot⟩ := h.matched i
  have hany : anyMatch (state input (T + 2)).slotMatchC = true :=
    List.any_eq_true.mpr ⟨i, List.mem_finRange i, hslot.mpr hmatch⟩
  rw [SlotExtractor.starts, heof, hany, h.idle]
  rfl

theorem exSlot_step (e : SlotExtractor p) (c : SlotCycle p) :
    (step e c).exSlot = if e.starts then e.exMatchSlot else e.exSlot := rfl

/-- The slot is kept while the FSM is at work. -/
theorem exSlot_kept {e : SlotExtractor p} (h : e.ex.exState ≠ .idle) (c : SlotCycle p) :
    (step e c).exSlot = e.exSlot := by
  have hnot : e.starts = false := by
    rw [SlotExtractor.starts, beq_false_of_ne h, Bool.and_false]
  rw [exSlot_step, hnot]
  rfl

theorem Walking.exSlot {input : Nat → SlotCycle p} {T t : Nat} (h : Walking input T t) :
    (state input t).exSlot = (state input (T + 3)).exSlot := by
  obtain ⟨hle, hbusy⟩ := h
  induction t, hle using Nat.le_induction with
  | base => rfl
  | succ t hle ih =>
    rw [state, exSlot_kept (hbusy t hle (Nat.le_succ t)), ih fun u hu hut => hbusy u hu (by omega)]

/-- A push goes to `ex_slot`. -/
theorem pushed_slot {e : SlotExtractor p} {s : Fin p.nSlots} {ch : Fin p.nChannels}
    (h : e.pushed s ch ≠ none) : e.exSlot = s := by
  rw [SlotExtractor.pushed, SlotExtractor.offered] at h
  by_contra hother
  refine h ?_
  split
  · exact if_neg fun hoffered => hother hoffered.2.1
  · rfl

theorem walkStep_started (x : AvtpWalk) (h : x.exState = .idle) (vlanC : Bool) (datR : UInt32) :
    (walkStep p x true vlanC datR).exState = .prime ∧
      (walkStep p x true vlanC datR).exSampleN = 0 := by
  rw [walkStep, h]
  exact ⟨rfl, rfl⟩

/-- The first sample comes three cycles after the FSM starts. -/
theorem Arrives.first {input : Nat → SlotCycle p} {T : Nat} (h : Arrives input T)
    {i : Fin p.nSlots} (hmatch : Matches input T i) :
    Walking input T (T + 5) ∧ (state input (T + 5)).ex.exState = .stream ∧
      (state input (T + 5)).ex.exSampleN = 0 := by
  have hstarts := h.starts hmatch
  rw [SlotExtractor.starts, h.idle, Bool.and_eq_true] at hstarts
  have hprime := walkStep_started (p := p) _ h.idle (state input (T + 2)).vlanC
    (state input (T + 2)).datR
  rw [← hstarts.1] at hprime
  have hprime' : (state input (T + 3)).ex.exState = .prime ∧
      (state input (T + 3)).ex.exSampleN = 0 := hprime
  have hwarm : (state input (T + 4)).ex.exState = .warm ∧
      (state input (T + 4)).ex.exSampleN = 0 := by
    rw [state, step]
    dsimp only
    rw [walkStep, hprime'.1]
    exact ⟨rfl, hprime'.2⟩
  have hstream : (state input (T + 5)).ex.exState = .stream ∧
      (state input (T + 5)).ex.exSampleN = 0 := by
    rw [state, step]
    dsimp only
    rw [walkStep, hwarm.1]
    exact ⟨rfl, hwarm.2⟩
  refine ⟨⟨by omega, fun u hu hut => ?_⟩, hstream⟩
  rcases (by omega : u = T + 3 ∨ u = T + 4 ∨ u = T + 5) with rfl | rfl | rfl
  · rw [hprime'.1]
    rintro ⟨⟩
  · rw [hwarm.1]
    rintro ⟨⟩
  · rw [hstream.1]
    rintro ⟨⟩

theorem Arrives.exSlot {input : Nat → SlotCycle p} {T : Nat} (h : Arrives input T)
    {i : Fin p.nSlots} (hmatch : Matches input T i) :
    (state input (T + 3)).exSlot = (state input (T + 2)).exMatchSlot := by
  rw [state, exSlot_step, h.starts hmatch]
  rfl

/-- Samples go to the lowest slot that a frame matches if that is the one
decoded for the match before; where the FIFOs have room, only if. -/
theorem routes_decoded (p : Shape) (input : Nat → SlotCycle p) :
    (Decoded input → Routes input) ∧ (NeverFull input → Routes input → Decoded input) := by
  constructor
  · rintro hdecoded T i harrives hlowest
    obtain ⟨heof, hslot⟩ := harrives.matched i
    refine ⟨fun t hwalking s ch hpushed => ?_, ?_⟩
    · rw [← pushed_slot hpushed, hwalking.exSlot, harrives.exSlot hlowest.1]
      exact hdecoded T i harrives hlowest
    · rw [state, step]
      dsimp only
      rw [heof, hslot.mpr hlowest.1]
      rfl
  · rintro hroom hroutes T i harrives hlowest
    obtain ⟨hwalking, hstream, hfirst⟩ := harrives.first hlowest.1
    have hch : exChNow p 0 = p.firstChannel.val := by
      rw [exChNow, Nat.zero_mod]
      exact ite_self _
    have hpushed : (state input (T + 5)).pushed (state input (T + 5)).exSlot p.firstChannel ≠
        none := by
      rw [SlotExtractor.pushed, if_pos (hroom ..), SlotExtractor.offered, hfirst,
        if_pos ⟨hstream, rfl, hch⟩]
      exact Option.some_ne_none _
    rw [← harrives.exSlot hlowest.1, ← hwalking.exSlot]
    exact (hroutes T i harrives hlowest).pushes _ hwalking _ _ hpushed

-- ---------------------------------------------------------------------------
-- Two slots
-- ---------------------------------------------------------------------------

def twoSlots : Shape := ⟨2, 1, 1, 4, Nat.le_succ 1, Nat.le_refl 1, Nat.le_refl 1⟩

def secondSlot : Fin twoSlots.nSlots := ⟨1, Nat.le_refl 2⟩

/-- The registers of a stream, and the words of a frame of it. -/
def streamSlot : ExtractorSlot :=
  { enabled := true, dstMacHi := 0x91E0, dstMacLo := 0xF000FE01 }

def streamFrame : List UInt32 :=
  [0x00F0E091, 0x000001FE, 0, 0x0002F022, 0, 0, 0, 0, 0, 0, 0, 0, 0, 0, 0]

/-- One frame, from the reset on, over slots of which this one has the
stream and the other one another. -/
def oneFrame (s : Fin twoSlots.nSlots) (t : Nat) : SlotCycle twoSlots where
  beat := ⟨decide (t < 15), t == 14, (streamFrame[t]?).getD 0⟩
  slots i := if i = s then streamSlot else { streamSlot with dstMacLo := 0xF000FE02 }
  popRe _ := false
  chSelect _ := 0

theorem oneFrame_arrives (s : Fin twoSlots.nSlots) : Arrives (oneFrame s) 14 :=
  ⟨rfl, rfl, by revert s; decide +kernel, by revert s; decide +kernel⟩

theorem oneFrame_matches (s i : Fin twoSlots.nSlots) : Matches (oneFrame s) 14 i ↔ i = s := by
  rw [Matches]
  revert s i
  decide +kernel

/-- The first frame of slot 0 goes there. -/
theorem routes_decoded_first :
    LowestMatch (oneFrame twoSlots.firstSlot) 14 twoSlots.firstSlot ∧
      Routes (oneFrame twoSlots.firstSlot) := by
  have hmatches := oneFrame_matches twoSlots.firstSlot
  refine ⟨⟨(hmatches _).mpr rfl, fun j hj => absurd hj (Nat.not_lt_zero _)⟩, ?_⟩
  refine (routes_decoded twoSlots (oneFrame twoSlots.firstSlot)).1 fun T i harrives hlowest => ?_
  obtain rfl : T = 14 := beq_iff_eq.mp harrives.last
  obtain rfl := (hmatches i).mp hlowest.1
  decide +kernel

/-- The first frame of slot 1 goes to slot 0. -/
theorem twoSlots_misrouted : ¬ Routes (oneFrame secondSlot) := by
  intro h
  have harrives := oneFrame_arrives secondSlot
  have hmatches := oneFrame_matches secondSlot
  have hlowest : LowestMatch (oneFrame secondSlot) 14 secondSlot := by
    refine ⟨(hmatches _).mpr rfl, fun j hj hmatch => ?_⟩
    exact absurd ((hmatches j).mp hmatch) (ne_of_lt hj)
  have hpushed : (state (oneFrame secondSlot) 19).pushed twoSlots.firstSlot
      twoSlots.firstChannel ≠ none := by
    decide +kernel
  have hslot := (h 14 _ harrives hlowest).pushes 19 (harrives.first hlowest.1).1 _ _ hpushed
  exact absurd hslot (by decide)

end AvbAes3.SlotRouting
