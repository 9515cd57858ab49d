import AvbAes3.Aes3Tx
import Mathlib.Data.List.GetD

/-!
# One pair to a frame

A frame is 128 cells. A reader of the line takes the bits of both subframes
from it and compares them with the pairs that were loaded.

`aes3_tx` has one pending pair and no other: a load replaces the word that is
being sent. It also releases the pair at the end of subframe A, before B has
been sent. `untorn_of_window`: the frames are whole if every load finds no
pair pending and falls between the last tick of a frame and the tick that
reads the first bit of the next. `earlyLoad_torn` is a producer that waits
for `audio_ready` and nothing else.
-/

namespace AvbAes3.UntornFrames

open Aes3Line Aes3Tx

-- ---------------------------------------------------------------------------
-- What is sent and what is loaded
-- ---------------------------------------------------------------------------

inductive Event
  | loaded (pair : Pair)
  | frame (cells : List Bool)
  deriving DecidableEq

/-- The cells of the frame that is being sent, and the log. -/
structure Seen where
  cells : List Bool
  log : List Event

def loads (c : Clock) : List Event :=
  if c.audioValid then [.loaded (c.audioL, c.audioR)] else []

def note (seen : Seen) (s : Tx) (c : Clock) : Seen :=
  let cells := if c.biphaseTick then seen.cells ++ [(step s c).aes3Out] else seen.cells
  if cells.length = 128 then ⟨[], seen.log ++ .frame cells :: loads c⟩
  else ⟨cells, seen.log ++ loads c⟩

def line : Machine (Tx × Seen) Clock := aes3Tx.withHistory ⟨[], []⟩ note

/-- Bit `i` after the preamble of subframe A or B. -/
def bitOf (cells : List Bool) (subframeB : Bool) (i : Nat) : Bool :=
  let first := (if subframeB then 64 else 0) + 8 + 2 * i
  cells.getD (first + 1) false != cells.getD first false

/-- The frame has the two words of the pair, and each parity bit is even. -/
structure Carries (cells : List Bool) (pair : Pair) : Prop where
  left : ∀ i < 24, bitOf cells false i = pair.1.getLsbD i
  right : ∀ i < 24, bitOf cells true i = pair.2.getLsbD i
  even : ∀ subframeB, xorUpTo (bitOf cells subframeB) 28 = false

/-- A pair that has been loaded, or zeros before the first. -/
def Loaded (log : List Event) (pair : Pair) : Prop :=
  .loaded pair ∈ log ∨ (∀ other, .loaded other ∉ log) ∧ pair = (0, 0)

/-- Every frame has the words of one pair, and between a load and any later
one its pair is sent. -/
structure Untorn (log : List Event) : Prop where
  onePair : ∀ before cells rest, log = before ++ .frame cells :: rest →
    ∃ pair, Loaded before pair ∧ Carries cells pair
  sentOnce : ∀ before pair between next rest,
    log = before ++ .loaded pair :: (between ++ .loaded next :: rest) →
      ∃ cells, .frame cells ∈ between ∧ Carries cells pair

/-- The producer loads when `audio_ready` is high. -/
def Obeys (channelStatus : BitVec 192) (w : Tx × Seen) (c : Clock) : Prop :=
  c.rst = false ∧ c.channelStatus = channelStatus ∧
    (c.audioValid = true → w.1.audioReady = true)

/-- From the last tick of subframe B to before the tick that reads the first
bit of subframe A. -/
def InWindow (s : Tx) (biphaseTick : Bool) : Prop :=
  if s.subframeB then s.symbolCount = 63 ∧ biphaseTick = true
  else s.symbolCount < 9 ∨ s.symbolCount = 9 ∧ biphaseTick = false

def LoadsInWindow (w : Tx × Seen) (c : Clock) : Prop :=
  c.audioValid = true → w.1.pendingValid = false ∧ InWindow w.1 c.biphaseTick

instance (channelStatus : BitVec 192) (w : Tx × Seen) (c : Clock) :
    Decidable (Obeys channelStatus w c) := inferInstanceAs (Decidable (_ ∧ _ ∧ (_ → _)))

instance (s : Tx) (biphaseTick : Bool) : Decidable (InWindow s biphaseTick) :=
  inferInstanceAs (Decidable (if s.subframeB = true then _ ∧ _ else _ ∨ _))

instance (w : Tx × Seen) (c : Clock) : Decidable (LoadsInWindow w c) :=
  inferInstanceAs (Decidable (_ → _))

-- ---------------------------------------------------------------------------
-- The log
-- ---------------------------------------------------------------------------

variable {log before rest between : List Event} {e x : Event} {pair next : Pair}
  {cells earlier : List Bool}

/-- An entry of a log that has grown is the new one or was there. -/
theorem concat_split (h : log ++ [e] = before ++ x :: rest) :
    (e = x ∧ log = before ∧ rest = []) ∨ ∃ old, rest = old ++ [e] ∧ log = before ++ x :: old := by
  rcases List.eq_nil_or_concat rest with rfl | ⟨old, last, rfl⟩
  · obtain ⟨rfl, hx⟩ := List.append_inj' h rfl
    cases hx
    exact .inl ⟨rfl, rfl, rfl⟩
  · rw [List.concat_eq_append, ← List.cons_append, ← List.append_assoc] at h
    obtain ⟨rfl, hlast⟩ := List.append_inj' h rfl
    cases hlast
    exact .inr ⟨old, List.concat_eq_append, rfl⟩

/-- All that was loaded has been sent. -/
def AllSent (log : List Event) : Prop :=
  ∀ before pair between, log = before ++ .loaded pair :: between →
    ∃ cells, .frame cells ∈ between ∧ Carries cells pair

/-- All that was loaded has been sent, this pair perhaps excepted. -/
def Due (log : List Event) (next : Pair) : Prop :=
  ∀ before pair between, log = before ++ .loaded pair :: between →
    pair = next ∨ ∃ cells, .frame cells ∈ between ∧ Carries cells pair

theorem AllSent.due (h : AllSent log) (next : Pair) : Due log next :=
  fun before pair between hlog => .inr (h before pair between hlog)

theorem Due.frame (h : Due log pair) (hcells : Carries cells pair) :
    AllSent (log ++ [.frame cells]) := by
  intro before other between hlog
  rcases concat_split hlog with ⟨hx, -, -⟩ | ⟨old, rfl, hold⟩
  · cases hx
  · rcases h before other old hold with rfl | ⟨sent, hsent, hcarries⟩
    · exact ⟨cells, by simp, hcells⟩
    · exact ⟨sent, by simp [hsent], hcarries⟩

theorem AllSent.loaded (h : AllSent log) (pair : Pair) : Due (log ++ [.loaded pair]) pair := by
  intro before other between hlog
  rcases concat_split hlog with ⟨hx, -, -⟩ | ⟨old, rfl, hold⟩
  · cases hx
    exact .inl rfl
  · obtain ⟨sent, hsent, hcarries⟩ := h before other old hold
    exact .inr ⟨sent, by simp [hsent], hcarries⟩

theorem Untorn.frame (h : Untorn log) (hloaded : Loaded log pair) (hcells : Carries cells pair) :
    Untorn (log ++ [.frame cells]) := by
  constructor
  · intro before other rest hlog
    rcases concat_split hlog with ⟨hx, rfl, -⟩ | ⟨old, -, hlog⟩
    · cases hx
      exact ⟨pair, hloaded, hcells⟩
    · exact h.onePair before other old hlog
  · intro before other between next rest hlog
    rw [← List.cons_append, ← List.append_assoc] at hlog
    rcases concat_split hlog with ⟨hx, -, -⟩ | ⟨old, -, hlog⟩
    · cases hx
    · rw [List.append_assoc, List.cons_append] at hlog
      exact h.sentOnce before other between next old hlog

theorem Untorn.loaded (h : Untorn log) (hsent : AllSent log) (pair : Pair) :
    Untorn (log ++ [.loaded pair]) := by
  constructor
  · intro before other rest hlog
    rcases concat_split hlog with ⟨hx, -, -⟩ | ⟨old, -, hlog⟩
    · cases hx
    · exact h.onePair before other old hlog
  · intro before other between next rest hlog
    rw [← List.cons_append, ← List.append_assoc] at hlog
    rcases concat_split hlog with ⟨-, hlog, -⟩ | ⟨old, -, hlog⟩
    · exact hsent before other between hlog
    · rw [List.append_assoc, List.cons_append] at hlog
      exact h.sentOnce before other between next old hlog

theorem Loaded.frame (h : Loaded log pair) (cells : List Bool) :
    Loaded (log ++ [.frame cells]) pair := by
  rcases h with h | ⟨hnone, rfl⟩
  · exact .inl (by simp [h])
  · exact .inr ⟨by simpa using hnone, rfl⟩

-- ---------------------------------------------------------------------------
-- The cells of a frame
-- ---------------------------------------------------------------------------

variable {p : Preamble} {start : Bool} {bits bits' : Nat → Bool} {n k i : Nat}

def subframe (p : Preamble) (start : Bool) (bits : Nat → Bool) (n : Nat) : List Bool :=
  (List.range n).map (cell p start bits)

@[simp] theorem length_subframe (p : Preamble) (start : Bool) (bits : Nat → Bool) (n : Nat) :
    (subframe p start bits n).length = n := by
  simp [subframe]

theorem subframe_succ (p : Preamble) (start : Bool) (bits : Nat → Bool) (n : Nat) :
    subframe p start bits (n + 1) = subframe p start bits n ++ [cell p start bits n] := by
  simp [subframe, List.range_succ]

theorem subframe_congr (h : ∀ j, 10 + 2 * j ≤ n → bits j = bits' j) :
    subframe p start bits n = subframe p start bits' n := by
  refine List.map_congr_left (fun k hk => cell_congr (fun j hj => h j ?_))
  have := List.mem_range.mp hk
  omega

theorem getD_subframe (hk : k < n) :
    (subframe p start bits n).getD k false = cell p start bits k := by
  simp [subframe, List.getD_eq_getElem?_getD, List.getElem?_map, List.getElem?_range hk]

theorem bitOf_first (later : List Bool) (hi : i < 28) :
    bitOf (subframe p start bits 64 ++ later) false i = bits i := by
  have hfirst : 8 + 2 * i < 64 := by omega
  have hsecond : 9 + 2 * i < 64 := by omega
  have hat (k : Nat) (hk : k < 64) :
      (subframe p start bits 64 ++ later).getD k false = cell p start bits k := by
    rw [List.getD_append _ _ _ _ (by rwa [length_subframe]), getD_subframe hk]
  simp only [bitOf, Bool.false_eq_true, if_false, Nat.zero_add]
  rw [show 8 + 2 * i + 1 = 9 + 2 * i by omega, hat _ hfirst, hat _ hsecond]
  exact cells_bit p start bits i

theorem bitOf_second (hearlier : earlier.length = 64) (hi : i < 28) :
    bitOf (earlier ++ subframe p start bits 64) true i = bits i := by
  have hfirst : 8 + 2 * i < 64 := by omega
  have hsecond : 9 + 2 * i < 64 := by omega
  have hat (k : Nat) (hk : k < 64) :
      (earlier ++ subframe p start bits 64).getD (64 + k) false = cell p start bits k := by
    rw [List.getD_append_right _ _ _ _ (by omega), hearlier, Nat.add_sub_cancel_left,
      getD_subframe hk]
  simp only [bitOf, if_true]
  rw [show 64 + 8 + 2 * i + 1 = 64 + (9 + 2 * i) by omega,
    show 64 + 8 + 2 * i = 64 + (8 + 2 * i) by omega, hat _ hfirst, hat _ hsecond]
  exact cells_bit p start bits i

/-- Two subframes of the line code carry the two words they were made of. -/
theorem carries_subframes (p p' : Preamble) (start start' : Bool) (left right : BitVec 24)
    (cs cs' : Bool) : Carries (subframe p start (dataBit left cs) 64 ++
      subframe p' start' (dataBit right cs') 64) (left, right) := by
  constructor
  · intro i hi
    rw [bitOf_first _ (by omega), dataBit_audio left cs hi]
  · intro i hi
    rw [bitOf_second (length_subframe ..) (by omega), dataBit_audio right cs' hi]
  · rintro (- | -)
    · rw [xorUpTo_congr (fun i hi => bitOf_first _ hi), dataBit_even]
    · rw [xorUpTo_congr (fun i hi => bitOf_second (length_subframe ..) hi), dataBit_even]

-- ---------------------------------------------------------------------------
-- The frame that is being sent
-- ---------------------------------------------------------------------------

variable {s s' : Tx} {c : Clock} {channelStatus : BitVec 192}

/-- The bits of the subframe, as the registers are now. -/
def bitsNow (channelStatus : BitVec 192) (s : Tx) : Nat → Bool :=
  dataBit (currentAudio s) (currentCs s channelStatus)

/-- What the frame has of subframe A while B is being sent. -/
def Earlier (s : Tx) (earlier : List Bool) : Prop :=
  if s.subframeB then ∃ p start cs, earlier = subframe p start (dataBit s.pendingL cs) 64
  else earlier = []

/-- The cells of the frame so far are those of the pending pair. -/
def OnLine (channelStatus : BitVec 192) (s : Tx) (cells : List Bool) : Prop :=
  ∃ start earlier, Sending start (bitsNow channelStatus s) s ∧ Earlier s earlier ∧
    cells = earlier ++ subframe (preamble s) start (bitsNow channelStatus s) s.symbolCount

theorem Earlier.length (h : Earlier s earlier) :
    earlier.length = if s.subframeB then 64 else 0 := by
  cases hb : s.subframeB
  · have hnone : earlier = [] := by simpa [Earlier, hb] using h
    simp [hnone]
  · obtain ⟨p, start, cs, rfl⟩ :
        ∃ p start cs, earlier = subframe p start (dataBit s.pendingL cs) 64 := by
      simpa [Earlier, hb] using h
    simp

theorem OnLine.length (h : OnLine channelStatus s cells) :
    cells.length = (if s.subframeB then 64 else 0) + s.symbolCount := by
  obtain ⟨start, earlier, -, hearlier, rfl⟩ := h
  rw [List.length_append, hearlier.length, length_subframe]

/-- A new pair is as good as the old one until a bit has been read. -/
theorem OnLine.of_registers {start : Bool} (hsub : s'.subframeB = s.subframeB)
    (hframe : s'.frameCount = s.frameCount) (hearlier : Earlier s earlier)
    (hpair : s'.pendingL = s.pendingL ∧ s'.pendingR = s.pendingR ∨
      s.subframeB = false ∧ s'.symbolCount ≤ 9)
    (hsending : Sending start (bitsNow channelStatus s) s')
    (hcells : cells =
      earlier ++ subframe (preamble s) start (bitsNow channelStatus s) s'.symbolCount) :
    OnLine channelStatus s' cells := by
  have hpreamble : preamble s' = preamble s := by rw [preamble, preamble, hsub, hframe]
  rcases hpair with ⟨hl, hr⟩ | ⟨hb, hcount⟩
  · have hbits : bitsNow channelStatus s' = bitsNow channelStatus s := by
      rw [bitsNow, bitsNow, currentAudio, currentAudio, currentCs, currentCs, hsub, hframe, hl, hr]
    refine ⟨start, earlier, hbits ▸ hsending, ?_, ?_⟩
    · rw [Earlier, hsub, hl]
      exact hearlier
    · rw [hcells, hpreamble, hbits]
  · have hunread (j : Nat) (hj : 10 + 2 * j ≤ s'.symbolCount) :
        bitsNow channelStatus s j = bitsNow channelStatus s' j := by omega
    refine ⟨start, earlier, hsending.rebits hunread, ?_, ?_⟩
    · rw [Earlier, hb] at hearlier
      rw [Earlier, hsub, hb]
      exact hearlier
    · rw [hcells, hpreamble, subframe_congr hunread]

section Clock

variable (h : OnLine channelStatus s cells) (hrst : c.rst = false)
  (hcs : c.channelStatus = channelStatus)

include h hrst

theorem OnLine.idle (hidle : c.biphaseTick = false)
    (hload : c.audioValid = true → s.subframeB = false ∧ s.symbolCount ≤ 9) :
    OnLine channelStatus (step s c) cells := by
  obtain ⟨start, earlier, hsending, hearlier, rfl⟩ := h
  have hsame := step_idle_sameCell (s := s) hrst hidle
  refine .of_registers hsame.subframeB hsame.frameCount hearlier ?_ (hsending.idle hrst hidle) ?_
  · rw [step_pendingL hrst, step_pendingR hrst, hsame.symbolCount]
    cases hv : c.audioValid
    · exact .inl ⟨rfl, rfl⟩
    · exact .inr (hload hv)
  · rw [hsame.symbolCount]

include hcs

theorem OnLine.within (htick : c.biphaseTick = true) (hwithin : s.symbolCount < 63)
    (hload : c.audioValid = true → s.subframeB = false ∧ s.symbolCount < 9) :
    OnLine channelStatus (step s c) (cells ++ [(step s c).aes3Out]) := by
  obtain ⟨start, earlier, hsending, hearlier, rfl⟩ := h
  obtain ⟨hcount, hsub, hframe⟩ := tick_within hrst htick hwithin
  obtain ⟨hout, hnext, -⟩ := hsending.tick hrst htick (fun _ => by rw [hcs]; rfl)
  refine .of_registers hsub hframe hearlier ?_ (hnext hwithin) ?_
  · rw [step_pendingL hrst, step_pendingR hrst, hcount]
    cases hv : c.audioValid
    · exact .inl ⟨rfl, rfl⟩
    · exact .inr (hload hv)
  · rw [hcount, subframe_succ, hout, List.append_assoc]

/-- The end of subframe A. -/
theorem OnLine.half (htick : c.biphaseTick = true) (hlast : s.symbolCount = 63)
    (hb : s.subframeB = false) (hload : c.audioValid = false) :
    OnLine channelStatus (step s c) (cells ++ [(step s c).aes3Out]) := by
  obtain ⟨start, earlier, hsending, hearlier, rfl⟩ := h
  obtain ⟨hcount, hsub⟩ := tick_last hrst htick hlast
  obtain ⟨hout, -, hnext⟩ := hsending.tick hrst htick (fun _ => by rw [hcs]; rfl)
  have hnone : earlier = [] := by simpa [Earlier, hb] using hearlier
  have hpending : (step s c).pendingL = s.pendingL := by rw [step_pendingL hrst, hload]; rfl
  refine ⟨_, _, hnext hlast _, ?_, (by rw [hcount]; exact (List.append_nil _).symm)⟩
  have hbits : bitsNow channelStatus s = dataBit s.pendingL (currentCs s channelStatus) := by
    rw [bitsNow, currentAudio, hb]
    rfl
  rw [Earlier, hsub, hb, Bool.not_false, if_pos rfl, hpending]
  refine ⟨preamble s, start, currentCs s channelStatus, ?_⟩
  rw [hnone, List.nil_append, hout, hlast, ← subframe_succ, hbits]

/-- The end of subframe B. -/
theorem OnLine.whole (htick : c.biphaseTick = true) (hlast : s.symbolCount = 63)
    (hb : s.subframeB = true) :
    OnLine channelStatus (step s c) [] ∧
      Carries (cells ++ [(step s c).aes3Out]) (s.pendingL, s.pendingR) := by
  obtain ⟨start, earlier, hsending, hearlier, rfl⟩ := h
  obtain ⟨hcount, hsub⟩ := tick_last hrst htick hlast
  obtain ⟨hout, -, hnext⟩ := hsending.tick hrst htick (fun _ => by rw [hcs]; rfl)
  constructor
  · refine ⟨_, [], hnext hlast _, ?_, (by rw [hcount]; rfl)⟩
    rw [Earlier, hsub, hb]
    rfl
  · have hbits : bitsNow channelStatus s = dataBit s.pendingR (currentCs s channelStatus) := by
      rw [bitsNow, currentAudio, hb]
      rfl
    rw [Earlier, hb, if_pos rfl] at hearlier
    obtain ⟨p, startA, cs, rfl⟩ := hearlier
    rw [List.append_assoc, hout, hlast, ← subframe_succ, hbits]
    exact carries_subframes ..

end Clock

-- ---------------------------------------------------------------------------
-- Runs
-- ---------------------------------------------------------------------------

structure Inv (channelStatus : BitVec 192) (w : Tx × Seen) : Prop where
  onLine : OnLine channelStatus w.1 w.2.cells
  untorn : Untorn w.2.log
  current : Loaded w.2.log (w.1.pendingL, w.1.pendingR)
  due : Due w.2.log (w.1.pendingL, w.1.pendingR)
  sent : w.1.subframeB = false → w.1.pendingValid = false → AllSent w.2.log
  released : w.1.subframeB = true → w.1.pendingValid = false

theorem note_open {seen : Seen} (hopen : seen.cells.length < 127 ∨ c.biphaseTick = false)
    (hshort : seen.cells.length < 128) :
    note seen s c = ⟨if c.biphaseTick then seen.cells ++ [(step s c).aes3Out] else seen.cells,
      seen.log ++ loads c⟩ := by
  have hlength : ¬(if c.biphaseTick then seen.cells ++ [(step s c).aes3Out]
      else seen.cells).length = 128 := by
    rcases hopen with h | h
    · split
      · rw [List.length_append, List.length_singleton]
        omega
      · omega
    · rw [h]
      exact Nat.ne_of_lt hshort
  exact if_neg hlength

theorem note_frame {seen : Seen} (htick : c.biphaseTick = true) (hfull : seen.cells.length = 127) :
    note seen s c =
      ⟨[], seen.log ++ [.frame (seen.cells ++ [(step s c).aes3Out])] ++ loads c⟩ := by
  simp [note, htick, hfull]

/-- A load into a log whose pairs have all been sent. -/
theorem loaded_next (huntorn : Untorn log) (hsent : AllSent log) (pair : Pair) :
    Untorn (log ++ [.loaded pair]) ∧ Loaded (log ++ [.loaded pair]) pair ∧
      Due (log ++ [.loaded pair]) pair :=
  ⟨huntorn.loaded hsent pair, .inl (by simp), hsent.loaded pair⟩

theorem step_pair_load (hrst : c.rst = false) (hload : c.audioValid = true) :
    ((step s c).pendingL, (step s c).pendingR) = (c.audioL, c.audioR) := by
  rw [step_pendingL hrst, step_pendingR hrst, hload]
  rfl

theorem step_pair_keep (hrst : c.rst = false) (hload : c.audioValid = false) :
    ((step s c).pendingL, (step s c).pendingR) = (s.pendingL, s.pendingR) := by
  rw [step_pendingL hrst, step_pendingR hrst, hload]
  rfl

theorem clearsPending_b (hb : s.subframeB = true) : clearsPending s c = false := by
  simp [clearsPending, hb]

variable {w : Tx × Seen}

/-- The clock in which a frame ends. -/
theorem Inv.frame (h : Inv channelStatus w) (hobeys : Obeys channelStatus w c)
    (htick : c.biphaseTick = true) (hlast : w.1.symbolCount = 63) (hb : w.1.subframeB = true) :
    Inv channelStatus (line.step w c) := by
  obtain ⟨hrst, hcs, -⟩ := hobeys
  obtain ⟨honLine, hcarries⟩ := h.onLine.whole hrst hcs htick hlast hb
  have hfull : w.2.cells.length = 127 := by rw [h.onLine.length, hb, hlast]; rfl
  have huntorn := h.untorn.frame h.current hcarries
  have hsent := h.due.frame hcarries
  have hstep : line.step w c = (step w.1 c,
      ⟨[], w.2.log ++ [.frame (w.2.cells ++ [(step w.1 c).aes3Out])] ++ loads c⟩) := by
    rw [← note_frame htick hfull]
    rfl
  have hsub : (step w.1 c).subframeB = false := by rw [(tick_last hrst htick hlast).2, hb]; rfl
  rw [hstep]
  cases hload : c.audioValid
  · have hnone : loads c = [] := by simp [loads, hload]
    rw [hnone, List.append_nil]
    refine ⟨honLine, huntorn, ?_, hsent.due _, fun _ _ => hsent, fun hsub' => ?_⟩
    · rw [step_pair_keep hrst hload]
      exact h.current.frame _
    · cases hsub.symm.trans hsub'
  · have hone : loads c = [.loaded (c.audioL, c.audioR)] := by simp [loads, hload]
    obtain ⟨huntorn', hloaded, hdue⟩ := loaded_next huntorn hsent (c.audioL, c.audioR)
    rw [hone]
    refine ⟨honLine, huntorn', ?_, ?_, fun _ hvalid => ?_, fun hsub' => ?_⟩
    · rw [step_pair_load hrst hload]
      exact hloaded
    · rw [step_pair_load hrst hload]
      exact hdue
    · rw [step_pendingValid hrst, clearsPending_b hb, hload] at hvalid
      cases hvalid
    · cases hsub.symm.trans hsub'

theorem OnLine.short (h : OnLine channelStatus s cells) : cells.length < 128 := by
  have hlength := h.length
  obtain ⟨start, earlier, hsending, -, -⟩ := h
  have hcount := hsending.count
  split at hlength <;> omega

/-- A clock in which no frame ends, and what is on the line after it. -/
theorem OnLine.open (h : OnLine channelStatus s cells) (hrst : c.rst = false)
    (hcs : c.channelStatus = channelStatus)
    (hopen : ¬(c.biphaseTick = true ∧ s.symbolCount = 63 ∧ s.subframeB = true))
    (hload : c.audioValid = true → InWindow s c.biphaseTick) :
    OnLine channelStatus (step s c)
      (if c.biphaseTick then cells ++ [(step s c).aes3Out] else cells) := by
  have hwindow (hv : c.audioValid = true) : s.subframeB = false ∧
      (s.symbolCount < 9 ∨ s.symbolCount = 9 ∧ c.biphaseTick = false) := by
    have hin := hload hv
    unfold InWindow at hin
    split at hin
    · exact absurd ⟨hin.2, hin.1, ‹_›⟩ hopen
    · exact ⟨Bool.eq_false_iff.mpr ‹_›, hin⟩
  cases htick : c.biphaseTick
  · refine h.idle hrst htick (fun hv => ⟨(hwindow hv).1, ?_⟩)
    rcases (hwindow hv).2 with hcount | ⟨hcount, -⟩ <;> omega
  · rw [if_pos rfl]
    rcases Nat.lt_or_ge s.symbolCount 63 with hwithin | hend
    · refine h.within hrst hcs htick hwithin (fun hv => ⟨(hwindow hv).1, ?_⟩)
      rcases (hwindow hv).2 with hcount | ⟨-, hidle⟩
      · exact hcount
      · cases htick.symm.trans hidle
    · have hlast : s.symbolCount = 63 := by
        obtain ⟨start, earlier, hsending, -, -⟩ := h
        have := hsending.count
        omega
      have hb : s.subframeB = false := Bool.eq_false_iff.mpr fun hb => hopen ⟨htick, hlast, hb⟩
      refine h.half hrst hcs htick hlast hb (Bool.eq_false_iff.mpr fun hv => ?_)
      rcases (hwindow hv).2 with hcount | ⟨hcount, -⟩ <;> omega

/-- Where no frame ends, the subframe is A after the clock if it was before
and the pair is not released. -/
theorem subframe_open (hrst : c.rst = false) (hcount : s.symbolCount < 64)
    (hopen : ¬(c.biphaseTick = true ∧ s.symbolCount = 63 ∧ s.subframeB = true)) :
    (step s c).subframeB = (s.subframeB || clearsPending s c) := by
  cases htick : c.biphaseTick
  · rw [(step_idle_sameCell (s := s) hrst htick).subframeB]
    simp [clearsPending, htick]
  · rcases Nat.lt_or_ge s.symbolCount 63 with hwithin | hend
    · rw [(tick_within hrst htick hwithin).2.1]
      simp [clearsPending, Nat.ne_of_lt hwithin]
    · have hlast : s.symbolCount = 63 := by omega
      have hb : s.subframeB = false := Bool.eq_false_iff.mpr fun hb => hopen ⟨htick, hlast, hb⟩
      rw [(tick_last hrst htick hlast).2]
      simp [clearsPending, htick, hlast, hb]

theorem Inv.open (h : Inv channelStatus w) (hobeys : Obeys channelStatus w c)
    (hwindow : LoadsInWindow w c)
    (hopen : ¬(c.biphaseTick = true ∧ w.1.symbolCount = 63 ∧ w.1.subframeB = true)) :
    Inv channelStatus (line.step w c) := by
  obtain ⟨hrst, hcs, -⟩ := hobeys
  have honLine := h.onLine.open hrst hcs hopen (fun hv => (hwindow hv).2)
  have hlength := h.onLine.length
  obtain ⟨start, earlier, hsending, -, -⟩ := h.onLine
  have hcount := hsending.count
  have hsub := subframe_open hrst hcount hopen
  have hvalid := step_pendingValid (s := w.1) hrst
  have hstep : line.step w c = (step w.1 c,
      ⟨if c.biphaseTick then w.2.cells ++ [(step w.1 c).aes3Out] else w.2.cells,
        w.2.log ++ loads c⟩) := by
    rw [← note_open ?_ h.onLine.short]
    · rfl
    · cases htick : c.biphaseTick
      · exact .inr rfl
      · refine .inl ?_
        split at hlength
        · have : w.1.symbolCount ≠ 63 := fun hlast => hopen ⟨htick, hlast, ‹_›⟩
          omega
        · omega
  rw [hstep]
  cases hload : c.audioValid
  · have hnone : loads c = [] := by simp [loads, hload]
    have hpair := step_pair_keep (s := w.1) hrst hload
    rw [hnone, List.append_nil]
    rw [hload, if_neg Bool.false_ne_true] at hvalid
    refine ⟨honLine, h.untorn, hpair ▸ h.current, hpair ▸ h.due, fun hsub' hvalid' => ?_,
      fun hsub' => ?_⟩
    · obtain ⟨hb, hkept⟩ := Bool.or_eq_false_iff.mp (hsub.symm.trans hsub')
      rw [hkept, if_neg Bool.false_ne_true] at hvalid
      exact h.sent hb (hvalid.symm.trans hvalid')
    · rcases Bool.or_eq_true_iff.mp (hsub.symm.trans hsub') with hb | hclears
      · rw [hvalid, h.released hb, ite_self]
      · rw [hvalid, if_pos hclears]
  · have hone : loads c = [.loaded (c.audioL, c.audioR)] := by simp [loads, hload]
    obtain ⟨hfree, hin⟩ := hwindow hload
    have hb : w.1.subframeB = false := by
      unfold InWindow at hin
      split at hin
      · exact absurd ⟨hin.2, hin.1, ‹_›⟩ hopen
      · exact Bool.eq_false_iff.mpr ‹_›
    have hkept : clearsPending w.1 c = false := by
      rw [InWindow, hb, if_neg Bool.false_ne_true] at hin
      have hne : w.1.symbolCount ≠ 63 := by omega
      simp [clearsPending, hne]
    obtain ⟨huntorn, hloaded, hdue⟩ := loaded_next h.untorn (h.sent hb hfree) (c.audioL, c.audioR)
    have hpair := step_pair_load (s := w.1) hrst hload
    rw [hone]
    refine ⟨honLine, huntorn, hpair ▸ hloaded, hpair ▸ hdue, fun _ hvalid' => ?_, fun hsub' => ?_⟩
    · rw [hkept, hload, if_neg Bool.false_ne_true, if_pos rfl] at hvalid
      cases hvalid.symm.trans hvalid'
    · rw [hb, hkept] at hsub
      cases hsub.symm.trans hsub'

theorem Inv.step (h : Inv channelStatus w) (hobeys : Obeys channelStatus w c)
    (hwindow : LoadsInWindow w c) : Inv channelStatus (line.step w c) := by
  by_cases hend : c.biphaseTick = true ∧ w.1.symbolCount = 63 ∧ w.1.subframeB = true
  · exact h.frame hobeys hend.1 hend.2.1 hend.2.2
  · exact h.open hobeys hwindow hend

theorem inv_init (channelStatus : BitVec 192) : Inv channelStatus line.init := by
  have hnil {before rest : List Event} {e : Event} : ¬([] : List Event) = before ++ e :: rest := by
    simp
  refine ⟨⟨false, [], ⟨by decide, rfl, rfl⟩, rfl, rfl⟩, ⟨fun _ _ _ h => (hnil h).elim,
    fun _ _ _ _ _ h => (hnil h).elim⟩, .inr ⟨fun _ => List.not_mem_nil, rfl⟩,
    fun _ _ _ h => (hnil h).elim, fun _ _ _ _ _ h => (hnil h).elim, fun _ => rfl⟩

/-- Frames carry one pair each, and no pair is replaced unsent, if every load
finds the pending pair released and comes between the last tick of a frame
and the first bit of the next. -/
theorem untorn_of_window (channelStatus : BitVec 192) (clocks : List Clock)
    (hobeys : line.Steps (Obeys channelStatus) clocks)
    (hwindow : line.Steps LoadsInWindow clocks) : Untorn (line.run clocks).2.log :=
  ((hobeys.and hwindow).invariant (inv_init channelStatus)
    fun _ _ h hp => h.step hp.1 hp.2).untorn

-- A clock with a tick, with or without a load.

def ticked : Clock := ⟨false, 0, 0, false, true, 0⟩

def loading (pair : Pair) : Clock := ⟨false, pair.1, pair.2, true, true, 0⟩

/-- A load at the start of each of two frames. -/
def onTime : List Clock :=
  loading (1, 2) :: List.replicate 127 ticked ++ loading (3, 4) :: List.replicate 127 ticked

theorem untorn_of_window_onTime : Untorn (line.run onTime).2.log :=
  untorn_of_window 0 onTime (by decide +kernel) (by decide +kernel)

/-- The pair is released after subframe A, and the producer loads the next
one while B is being sent. -/
def earlyLoad : List Clock :=
  loading (1, 0) :: List.replicate 65 ticked ++ loading (0, 1) :: List.replicate 61 ticked

def tornCells : List Bool :=
  subframe .z false (dataBit 1 false) 64 ++ subframe .y false (dataBit 1 false) 64

theorem earlyLoad_torn :
    line.Steps (Obeys 0) earlyLoad ∧ ¬Untorn (line.run earlyLoad).2.log := by
  refine ⟨by decide +kernel, fun h => ?_⟩
  have hlog : (line.run earlyLoad).2.log =
      [.loaded (1, 0), .loaded (0, 1), .frame tornCells] := by decide +kernel
  obtain ⟨pair, hloaded, hcarries⟩ := h.onePair [.loaded (1, 0), .loaded (0, 1)] tornCells [] hlog
  have hleft : bitOf tornCells false 0 = true := by decide
  have hright : bitOf tornCells true 0 = true := by decide
  have hl := hleft.symm.trans (hcarries.left 0 (by decide))
  have hr := hright.symm.trans (hcarries.right 0 (by decide))
  rcases hloaded with hmem | ⟨-, rfl⟩
  · simp only [List.mem_cons, Event.loaded.injEq, List.not_mem_nil, or_false] at hmem
    rcases hmem with rfl | rfl
    · exact absurd hr (by decide)
    · exact absurd hl (by decide)
  · exact absurd hl (by decide)

end AvbAes3.UntornFrames
