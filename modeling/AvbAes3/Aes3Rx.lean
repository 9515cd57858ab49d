import AvbAes3.Lib.Machine
import AvbAes3.Aes3Line

/-!
# aes3_rx

The receiver measures the clocks between two edges, tells from the cell width
it tracks how many cells that was, and parses the intervals into subframes.
The registers that parse (`Framing`) read nothing of the others, so `next`
and `event` of a framing say what a clock does to a subframe, and what the
rest of `control` keeps of it.
-/

namespace AvbAes3.Aes3Rx

open Aes3Line

-- ---------------------------------------------------------------------------
-- The line
-- ---------------------------------------------------------------------------

/-- The input synchronizer -/
structure InSync where
  in0 : Bool
  in1 : Bool
  in2 : Bool
  deriving DecidableEq

def InSync.step (s : InSync) (rst aes3In : Bool) : InSync :=
  if rst then ⟨false, false, false⟩ else ⟨aes3In, s.in0, s.in1⟩

/-- The edge detector and the interval measurement -/
structure Edges where
  aes3D : Bool
  edgeTimer : Nat
  interval : Nat
  iv : Bool
  deriving DecidableEq

def Edges.step (s : Edges) (rst aes3 : Bool) : Edges :=
  if rst then { s with aes3D := false, edgeTimer := 0, iv := false }
  else if aes3 != s.aes3D then
    if 3 ≤ s.edgeTimer then
      { aes3D := aes3, edgeTimer := 1, interval := s.edgeTimer, iv := true }
    else { s with aes3D := aes3, edgeTimer := 1, iv := false }
  else if s.edgeTimer < 128 then
    { s with aes3D := aes3, edgeTimer := s.edgeTimer + 1, iv := false }
  else { s with aes3D := aes3, iv := false }

/-- No edge for 128 clocks. -/
def Edges.noSignal (s : Edges) : Bool := 128 ≤ s.edgeTimer

/-- `CELL_NOM` -/
def cellNom (clkFreq : Nat) : Nat := clkFreq / (128 * 48000) % 256

/-- The cell width estimator -/
structure CellWidth where
  cellW : Nat
  decayCnt : Nat
  deriving DecidableEq

def CellWidth.step (clkFreq : Nat) (s : CellWidth) (rst : Bool) (e : Edges) : CellWidth :=
  if rst then { cellW := cellNom clkFreq, decayCnt := 0 }
  else
    { cellW :=
        if s.decayCnt = 4095 ∧ s.cellW < 40 then s.cellW + 1
        else if e.iv = true ∧ 3 ≤ e.interval ∧ e.interval < s.cellW then e.interval
        else s.cellW
      decayCnt := (s.decayCnt + 1) % 4096 }

inductive IntervalType
  | short | long | vlong | error
  deriving DecidableEq

/-- `itype`: the thresholds in 9, 9 and 8 bits. -/
def itype (cellW interval : Nat) : IntervalType :=
  if interval < (cellW + cellW / 2) % 512 then .short
  else if interval < (2 * cellW + cellW / 2) % 512 then .long
  else if interval < 4 * cellW % 256 then .vlong
  else .error

-- ---------------------------------------------------------------------------
-- Subframes
-- ---------------------------------------------------------------------------

inductive State
  | hunt | sync | data
  deriving DecidableEq

/-- The registers that parse intervals into subframes. -/
structure Framing where
  state : State
  syncCnt : Nat
  phase : Bool
  bitCnt : Nat
  sr : BitVec 28
  preZ : Bool
  preX : Bool
  preY : Bool
  chB : Bool
  deriving DecidableEq

/-- The clock after the last bit. -/
def Framing.completes (f : Framing) : Prop := f.state = .data ∧ f.bitCnt = 28

instance (f : Framing) : Decidable f.completes := inferInstanceAs (Decidable (_ ∧ _))

/-- What the control makes of the subframes. -/
structure Control where
  framing : Framing
  frameNum : Nat
  csAcc : BitVec 192
  csCnt : Nat
  lockCnt : Nat
  audioL : BitVec 24
  audioR : BitVec 24
  audioValid : Bool
  audioSub : BitVec 24
  subValid : Bool
  channelStatus : BitVec 192
  csValid : Bool
  locked : Bool
  is96k : Bool
  errorCount : Nat
  deriving DecidableEq

/-- `{b, sr[27:1]}` -/
def shiftIn (b : Bool) (sr : BitVec 28) : BitVec 28 := BitVec.cons b (sr.extractLsb' 1 27)

/-- `{c, cs_acc[191:1]}` -/
def accumulate (c : Bool) (csAcc : BitVec 192) : BitVec 192 :=
  BitVec.cons c (csAcc.extractLsb' 1 191)

/-- `sr[26]` -/
def cBit (sr : BitVec 28) : Bool := sr.getLsbD 26

def parityOk (sr : BitVec 28) : Bool := !reduceXor sr

/-- The lock count after a loss of sync. -/
def demote (lockCnt : Nat) : Nat := if 8 < lockCnt then lockCnt - 8 else 0

/-- `S_SYNC`: the preamble's type from its second interval, and its end. -/
def sync (s : Control) (t : IntervalType) : Control :=
  let f := s.framing
  if f.syncCnt = 0 then
    let f : Framing :=
      { f with
        preZ := decide (t = .short)
        preY := decide (t = .long)
        preX := decide (t = .vlong) }
    if t = .error then { s with framing := { f with state := .hunt } }
    else { s with framing := { f with syncCnt := 1 } }
  else if f.syncCnt = 1 then { s with framing := { f with syncCnt := 2 } }
  else
    let f := { f with state := .data, phase := false, bitCnt := 0 }
    if f.preZ then
      { s with framing := { f with chB := false }, frameNum := 0, csCnt := 0 }
    else if f.preX then { s with framing := { f with chB := false } }
    else { s with framing := { f with chB := true } }

/-- `S_DATA`: the biphase-mark bits. -/
def data (s : Control) (t : IntervalType) : Control :=
  let f := s.framing
  if t = .vlong then
    { s with framing := { f with state := .sync, syncCnt := 0 }, lockCnt := demote s.lockCnt }
  else if t = .error then
    { s with framing := { f with state := .hunt }, lockCnt := demote s.lockCnt }
  else if f.phase = false ∧ t = .short then { s with framing := { f with phase := true } }
  else if f.phase = true ∧ t = .short then
    { s with
      framing :=
        { f with phase := false, sr := shiftIn true f.sr, bitCnt := (f.bitCnt + 1) % 32 } }
  else if f.phase = false ∧ t = .long then
    { s with framing := { f with sr := shiftIn false f.sr, bitCnt := (f.bitCnt + 1) % 32 } }
  else { s with framing := { f with state := .hunt }, lockCnt := demote s.lockCnt }

/-- Edge processing -/
def edge (s : Control) (t : IntervalType) : Control :=
  match s.framing.state with
  | .hunt =>
    if t = .vlong then { s with framing := { s.framing with state := .sync, syncCnt := 0 } } else s
  | .sync => sync s t
  | .data => data s t

/-- The audio of a complete subframe. -/
def takeAudio (s : Control) : Control :=
  let audio := s.framing.sr.extractLsb' 0 24
  let s := { s with audioSub := audio, subValid := true }
  if s.framing.chB then
    { s with
      audioR := audio, audioValid := true,
      frameNum := if s.frameNum < 191 then s.frameNum + 1 else s.frameNum }
  else { s with audioL := audio }

/-- The C bit of a complete subframe, of A only. -/
def takeStatus (s : Control) : Control :=
  if s.framing.chB then s
  else
    let csAcc := accumulate (cBit s.framing.sr) s.csAcc
    if s.csCnt = 191 then
      { s with csAcc := csAcc, channelStatus := csAcc, csValid := true, csCnt := 0 }
    else { s with csAcc := csAcc, csCnt := (s.csCnt + 1) % 256 }

/-- The lock and error counts, and the rate. -/
def takeParity (clkFreq cellW : Nat) (s : Control) : Control :=
  { s with
    lockCnt :=
      if parityOk s.framing.sr then if s.lockCnt < 255 then s.lockCnt + 1 else s.lockCnt
      else demote s.lockCnt
    errorCount :=
      if parityOk s.framing.sr then if 0 < s.errorCount then s.errorCount - 1 else s.errorCount
      else if s.errorCount < 15 then s.errorCount + 1 else s.errorCount
    locked := 32 < s.lockCnt
    is96k := cellW < (cellNom clkFreq + 254) % 256 }

/-- Subframe complete. -/
def complete (clkFreq cellW : Nat) (s : Control) (iv : Bool) (t : IntervalType) : Control :=
  let s := takeParity clkFreq cellW (takeStatus (takeAudio s))
  if iv = true ∧ t = .vlong then
    { s with framing := { s.framing with state := .sync, syncCnt := 0, bitCnt := 0 } }
  else { s with framing := { s.framing with state := .hunt, bitCnt := 0 } }

def clearPulses (s : Control) : Control :=
  { s with audioValid := false, subValid := false, csValid := false }

/-- The receiver state machine -/
def Control.step (clkFreq : Nat) (s : Control) (rst : Bool) (e : Edges) (cellW : Nat) : Control :=
  let quiet := clearPulses s
  let t := itype cellW e.interval
  if rst then
    { quiet with
      framing :=
        { s.framing with state := .hunt, bitCnt := 0, chB := false, phase := false, sr := 0 }
      locked := false, lockCnt := 0, errorCount := 0, frameNum := 0, is96k := false
      audioL := 0, audioR := 0, audioSub := 0, csCnt := 0 }
  else if e.noSignal then
    { quiet with framing := { s.framing with state := .hunt }, locked := false, lockCnt := 0 }
  else if s.framing.completes then complete clkFreq cellW quiet e.iv t
  else if e.iv then edge quiet t
  else quiet

/-- What is behind the synchronizer. -/
structure Decoder where
  edges : Edges
  width : CellWidth
  control : Control
  deriving DecidableEq

def Decoder.step (clkFreq : Nat) (s : Decoder) (rst aes3 : Bool) : Decoder where
  edges := s.edges.step rst aes3
  width := s.width.step clkFreq rst s.edges
  control := s.control.step clkFreq rst s.edges s.width.cellW

structure Rx where
  inSync : InSync
  decoder : Decoder
  deriving DecidableEq

structure Sample where
  rst : Bool
  aes3In : Bool

def step (clkFreq : Nat) (s : Rx) (c : Sample) : Rx where
  inSync := s.inSync.step c.rst c.aes3In
  decoder := s.decoder.step clkFreq c.rst s.inSync.in2

/-- The state in which a reset leaves it, with the registers it does not
touch clear. -/
def afterReset (clkFreq : Nat) : Rx where
  inSync := ⟨false, false, false⟩
  decoder :=
    { edges := ⟨false, 0, 0, false⟩
      width := ⟨cellNom clkFreq, 0⟩
      control :=
        { framing := ⟨.hunt, 0, false, 0, 0, false, false, false, false⟩
          frameNum := 0, csAcc := 0, csCnt := 0, lockCnt := 0, audioL := 0, audioR := 0
          audioValid := false, audioSub := 0, subValid := false, channelStatus := 0
          csValid := false, locked := false, is96k := false, errorCount := 0 } }

/-- The receiver from some state of its registers. -/
def aes3Rx (clkFreq : Nat) (start : Rx) : Machine Rx Sample := ⟨start, step clkFreq⟩

-- ---------------------------------------------------------------------------
-- The framing by itself
-- ---------------------------------------------------------------------------

/-- What an interval does. -/
def Framing.take (f : Framing) (t : IntervalType) : Framing :=
  match f.state with
  | .hunt => if t = .vlong then { f with state := .sync, syncCnt := 0 } else f
  | .sync =>
    if f.syncCnt = 0 then
      { f with
        preZ := decide (t = .short)
        preY := decide (t = .long)
        preX := decide (t = .vlong)
        state := if t = .error then .hunt else .sync
        syncCnt := if t = .error then 0 else 1 }
    else if f.syncCnt = 1 then { f with syncCnt := 2 }
    else { f with state := .data, phase := false, bitCnt := 0, chB := !f.preZ && !f.preX }
  | .data =>
    if t = .vlong then { f with state := .sync, syncCnt := 0 }
    else if t = .short then
      if f.phase then
        { f with phase := false, sr := shiftIn true f.sr, bitCnt := (f.bitCnt + 1) % 32 }
      else { f with phase := true }
    else if f.phase = false ∧ t = .long then
      { f with sr := shiftIn false f.sr, bitCnt := (f.bitCnt + 1) % 32 }
    else { f with state := .hunt }

def Framing.next (f : Framing) (noSignal iv : Bool) (t : IntervalType) : Framing :=
  if noSignal then { f with state := .hunt }
  else if f.completes then
    { f with
      bitCnt := 0
      state := if iv = true ∧ t = .vlong then .sync else .hunt
      syncCnt := if iv = true ∧ t = .vlong then 0 else f.syncCnt }
  else if iv then f.take t else f

/-- What a clock does to a subframe. No interval ends in the clock in which a
subframe is complete: its last interval ended in the clock before. -/
inductive Event
  | preamble (p : Preamble)
  | subframe (chB : Bool) (sr : BitVec 28)
  | lost
  | skipped
  deriving DecidableEq

def Framing.preamble (f : Framing) : Preamble :=
  if f.preZ then .z else if f.preX then .x else .y

/-- An interval that belongs to no subframe is skipped. -/
def Framing.taken (f : Framing) (t : IntervalType) : Option Event :=
  match f.state with
  | .hunt => if t = .vlong then none else some .skipped
  | .sync =>
    if f.syncCnt = 0 then if t = .error then some .lost else none
    else if f.syncCnt = 1 then none
    else some (.preamble f.preamble)
  | .data => if t = .short ∨ f.phase = false ∧ t = .long then none else some .lost

def Decoder.itype (s : Decoder) : IntervalType := Aes3Rx.itype s.width.cellW s.edges.interval

def Decoder.event (s : Decoder) (rst : Bool) : Option Event :=
  if rst = true ∨ s.edges.noSignal = true then some .lost
  else if s.control.framing.completes then
    some (.subframe s.control.framing.chB s.control.framing.sr)
  else if s.edges.iv then s.control.framing.taken s.itype
  else none

/-- The receiver with what has happened on its line. -/
def logged (clkFreq : Nat) (start : Rx) : Machine (Rx × List Event) Sample :=
  (aes3Rx clkFreq start).withHistory [] fun log s c => log ++ (s.decoder.event c.rst).toList

-- ---------------------------------------------------------------------------
-- The control refines the framing
-- ---------------------------------------------------------------------------

theorem edge_framing (s : Control) (t : IntervalType) :
    (edge s t).framing = s.framing.take t := by
  obtain ⟨⟨state, syncCnt, phase, bitCnt, sr, preZ, preX, preY, chB⟩, _⟩ := s
  cases state with
  | hunt => cases t <;> rfl
  | sync =>
    simp only [edge, sync, Framing.take]
    split_ifs <;> simp_all
  | data => cases phase <;> cases t <;> rfl

theorem takeAudio_framing (s : Control) : (takeAudio s).framing = s.framing := by
  unfold takeAudio
  dsimp only
  split <;> rfl

theorem takeStatus_framing (s : Control) : (takeStatus s).framing = s.framing := by
  unfold takeStatus
  dsimp only
  split_ifs <;> rfl

theorem complete_framing (clkFreq cellW : Nat) (s : Control) (iv : Bool) (t : IntervalType) :
    (complete clkFreq cellW s iv t).framing =
      { s.framing with
        bitCnt := 0
        state := if iv = true ∧ t = .vlong then .sync else .hunt
        syncCnt := if iv = true ∧ t = .vlong then 0 else s.framing.syncCnt } := by
  have hkept : (takeParity clkFreq cellW (takeStatus (takeAudio s))).framing = s.framing :=
    (takeStatus_framing _).trans (takeAudio_framing _)
  rw [complete]
  dsimp only
  rw [hkept]
  split_ifs <;> rfl

theorem control_framing (clkFreq : Nat) (s : Control) (e : Edges) (cellW : Nat) :
    (s.step clkFreq false e cellW).framing =
      s.framing.next e.noSignal e.iv (itype cellW e.interval) := by
  rw [Control.step, if_neg Bool.false_ne_true, Framing.next]
  by_cases hlost : e.noSignal = true
  · rw [if_pos hlost, if_pos hlost]
  · rw [if_neg hlost, if_neg hlost]
    by_cases hdone : s.framing.completes
    · rw [if_pos hdone, if_pos hdone]
      exact complete_framing ..
    · rw [if_neg hdone, if_neg hdone]
      by_cases hiv : e.iv = true
      · rw [if_pos hiv, if_pos hiv]
        exact edge_framing _ _
      · rw [if_neg hiv, if_neg hiv]
        rfl

theorem decoder_framing (clkFreq : Nat) (s : Decoder) (aes3 : Bool) :
    (s.step clkFreq false aes3).control.framing =
      s.control.framing.next s.edges.noSignal s.edges.iv s.itype :=
  control_framing clkFreq s.control s.edges s.width.cellW

-- ---------------------------------------------------------------------------
-- A clock with an event
-- ---------------------------------------------------------------------------

variable {clkFreq : Nat} {d : Decoder} {rst aes3 : Bool} {sr : BitVec 28}

/-- Not reset, and a signal. -/
theorem step_live (h : ¬(rst = true ∨ d.edges.noSignal = true)) :
    (d.step clkFreq rst aes3).control =
      if d.control.framing.completes then
        complete clkFreq d.width.cellW (clearPulses d.control) d.edges.iv d.itype
      else if d.edges.iv then edge (clearPulses d.control) d.itype
      else clearPulses d.control := by
  obtain ⟨hrst, hlost⟩ := not_or.mp h
  rw [Decoder.step]
  dsimp only
  rw [Control.step, if_neg hrst, if_neg hlost]
  rfl

theorem event_subframe {chB : Bool} (h : d.event rst = some (.subframe chB sr)) :
    ¬(rst = true ∨ d.edges.noSignal = true) ∧ d.control.framing.completes ∧
      d.control.framing.chB = chB ∧ d.control.framing.sr = sr := by
  by_cases hlost : rst = true ∨ d.edges.noSignal = true
  · rw [Decoder.event, if_pos hlost] at h
    cases h
  · rw [Decoder.event, if_neg hlost] at h
    by_cases hdone : d.control.framing.completes
    · rw [if_pos hdone] at h
      cases h
      exact ⟨hlost, hdone, rfl, rfl⟩
    · rw [if_neg hdone] at h
      by_cases hiv : d.edges.iv = true
      · rw [if_pos hiv, Framing.taken] at h
        split at h <;> split_ifs at h <;> cases h
      · rw [if_neg hiv] at h
        cases h

/-- The outputs after a subframe. -/
structure Delivered (chB : Bool) (sr : BitVec 28) (s : Control) : Prop where
  subValid : s.subValid = true
  audioSub : s.audioSub = sr.extractLsb' 0 24
  left : chB = false → s.audioL = sr.extractLsb' 0 24
  right : chB = true → s.audioR = sr.extractLsb' 0 24 ∧ s.audioValid = true

theorem takeAudio_delivered (s : Control) :
    Delivered s.framing.chB s.framing.sr (takeAudio s) := by
  unfold takeAudio
  dsimp only
  by_cases hb : s.framing.chB = true
  · rw [if_pos hb]
    exact ⟨rfl, rfl, fun h => absurd hb (by simp [h]), fun _ => ⟨rfl, rfl⟩⟩
  · rw [if_neg hb]
    exact ⟨rfl, rfl, fun _ => rfl, fun h => absurd h hb⟩

theorem Delivered.complete {chB : Bool} {s : Control} (h : Delivered chB sr (takeAudio s))
    (clkFreq cellW : Nat) (iv : Bool) (t : IntervalType) :
    Delivered chB sr (complete clkFreq cellW s iv t) := by
  have hstatus : Delivered chB sr (takeStatus (takeAudio s)) := by
    unfold takeStatus
    dsimp only
    split_ifs <;> exact ⟨h.subValid, h.audioSub, h.left, h.right⟩
  rw [Aes3Rx.complete]
  dsimp only
  split <;> exact ⟨hstatus.subValid, hstatus.audioSub, hstatus.left, hstatus.right⟩

/-- A subframe is put out in the clock after it is complete. -/
theorem event_delivered {chB : Bool} (h : d.event rst = some (.subframe chB sr))
    (clkFreq : Nat) (aes3 : Bool) : Delivered chB sr (d.step clkFreq rst aes3).control := by
  obtain ⟨hlive, hdone, rfl, rfl⟩ := event_subframe h
  rw [step_live hlive, if_pos hdone]
  exact (takeAudio_delivered (clearPulses d.control)).complete clkFreq _ _ _

end AvbAes3.Aes3Rx
