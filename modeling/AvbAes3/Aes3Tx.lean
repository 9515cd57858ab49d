import AvbAes3.Lib.Machine
import AvbAes3.Aes3Line

/-!
# aes3_tx

The transmitter steps one cell further in every clock with a biphase tick.
It has no register for the word it sends: each second cell reads its data bit
from the pending pair and the channel status as they are in that clock.

`Sending` says that the cells since the start of the subframe are those of
the line code. What it needs of a tick is that the bit read is the bit meant.
-/

namespace AvbAes3.Aes3Tx

open Aes3Line

-- ---------------------------------------------------------------------------
-- The gateware
-- ---------------------------------------------------------------------------

/-- A left and a right sample of 24 bits. -/
abbrev Pair := BitVec 24 × BitVec 24

structure Tx where
  frameCount : Nat
  subframeB : Bool
  symbolCount : Nat
  bmcLevel : Bool
  aes3Out : Bool
  pendingL : BitVec 24
  pendingR : BitVec 24
  pendingValid : Bool
  audioReady : Bool
  deriving DecidableEq

structure Clock where
  rst : Bool
  audioL : BitVec 24
  audioR : BitVec 24
  audioValid : Bool
  biphaseTick : Bool
  channelStatus : BitVec 192

/-- The preamble `preamble_pattern` is of. -/
def preamble (s : Tx) : Preamble :=
  if s.subframeB then .y else if s.frameCount = 0 then .z else .x

def currentAudio (s : Tx) : BitVec 24 := if s.subframeB then s.pendingR else s.pendingL

def currentCs (s : Tx) (channelStatus : BitVec 192) : Bool := channelStatus.getLsbD s.frameCount

/-- `symbol_count - 6'd8`, halved -/
def bitIndex (s : Tx) : Nat := (s.symbolCount + 56) % 64 / 2

def dataBitCurrent (s : Tx) (channelStatus : BitVec 192) : Bool :=
  dataBit (currentAudio s) (currentCs s channelStatus) (bitIndex s)

/-- The release of the pending pair. -/
def clearsPending (s : Tx) (c : Clock) : Bool :=
  c.biphaseTick && s.symbolCount == 63 && !s.subframeB

/-- Audio sample buffering -/
def buffer (s : Tx) (c : Clock) : Tx :=
  if c.rst then { s with pendingValid := false, pendingL := 0, pendingR := 0 }
  else
    let loaded := if c.audioValid then
        { s with pendingL := c.audioL, pendingR := c.audioR, pendingValid := true }
      else s
    if clearsPending s c then { loaded with pendingValid := false } else loaded

/-- The levels of a clock with a tick. -/
def encode (s : Tx) (channelStatus : BitVec 192) : Bool × Bool :=
  if s.symbolCount < 8 then
    (s.bmcLevel ^^ (preamble s).pattern.getLsbD (7 - s.symbolCount), s.bmcLevel)
  else if s.symbolCount % 2 = 0 then (!s.aes3Out, !s.aes3Out)
  else if dataBitCurrent s channelStatus then (!s.aes3Out, !s.aes3Out)
  else (s.aes3Out, s.bmcLevel)

/-- The counters after a clock with a tick. -/
def advance (s : Tx) : Tx :=
  if s.symbolCount = 63 then
    if s.subframeB then
      { s with
        symbolCount := 0, subframeB := false,
        frameCount := if s.frameCount = 191 then 0 else s.frameCount + 1 }
    else { s with symbolCount := 0, subframeB := true }
  else { s with symbolCount := s.symbolCount + 1 }

def step (s : Tx) (c : Clock) : Tx :=
  let next := { buffer s c with audioReady := !s.pendingValid }
  if c.rst then
    { next with
      frameCount := 0, subframeB := false, symbolCount := 0, bmcLevel := false, aes3Out := false }
  else if c.biphaseTick then
    { advance next with
      aes3Out := (encode s c.channelStatus).1, bmcLevel := (encode s c.channelStatus).2 }
  else next

/-- The state in which a reset leaves it. -/
def reset : Tx where
  frameCount := 0
  subframeB := false
  symbolCount := 0
  bmcLevel := false
  aes3Out := false
  pendingL := 0
  pendingR := 0
  pendingValid := false
  audioReady := true

def aes3Tx : Machine Tx Clock := ⟨reset, step⟩

-- ---------------------------------------------------------------------------
-- A clock
-- ---------------------------------------------------------------------------

variable {s : Tx} {c : Clock} {start : Bool} {bits bits' : Nat → Bool}

/-- What the encoder keeps from one tick to the next. -/
structure SameCell (s s' : Tx) : Prop where
  frameCount : s'.frameCount = s.frameCount
  subframeB : s'.subframeB = s.subframeB
  symbolCount : s'.symbolCount = s.symbolCount
  bmcLevel : s'.bmcLevel = s.bmcLevel
  aes3Out : s'.aes3Out = s.aes3Out

theorem buffer_sameCell (s : Tx) (c : Clock) : SameCell s (buffer s c) := by
  unfold buffer
  split
  · exact ⟨rfl, rfl, rfl, rfl, rfl⟩
  · split <;> split <;> exact ⟨rfl, rfl, rfl, rfl, rfl⟩

theorem step_idle (hrst : c.rst = false) (hidle : c.biphaseTick = false) :
    step s c = { buffer s c with audioReady := !s.pendingValid } := by
  simp [step, hrst, hidle]

theorem step_idle_sameCell (hrst : c.rst = false) (hidle : c.biphaseTick = false) :
    SameCell s (step s c) := by
  have h := buffer_sameCell s c
  rw [step_idle hrst hidle]
  exact ⟨h.frameCount, h.subframeB, h.symbolCount, h.bmcLevel, h.aes3Out⟩

theorem step_buffer (s : Tx) (c : Clock) : (step s c).pendingL = (buffer s c).pendingL ∧
    (step s c).pendingR = (buffer s c).pendingR ∧
    (step s c).pendingValid = (buffer s c).pendingValid := by
  unfold step advance
  dsimp only
  split_ifs <;> exact ⟨rfl, rfl, rfl⟩

theorem step_pendingL (hrst : c.rst = false) :
    (step s c).pendingL = if c.audioValid then c.audioL else s.pendingL := by
  rw [(step_buffer s c).1, buffer, if_neg (by simp [hrst])]
  dsimp only
  split_ifs <;> rfl

theorem step_pendingR (hrst : c.rst = false) :
    (step s c).pendingR = if c.audioValid then c.audioR else s.pendingR := by
  rw [(step_buffer s c).2.1, buffer, if_neg (by simp [hrst])]
  dsimp only
  split_ifs <;> rfl

theorem step_pendingValid (hrst : c.rst = false) :
    (step s c).pendingValid = if clearsPending s c then false
      else if c.audioValid then true else s.pendingValid := by
  rw [(step_buffer s c).2.2, buffer, if_neg (by simp [hrst])]
  dsimp only
  split_ifs <;> rfl

section Tick

variable (hrst : c.rst = false) (htick : c.biphaseTick = true)

include hrst htick

theorem step_tick : step s c =
    { advance { buffer s c with audioReady := !s.pendingValid } with
      aes3Out := (encode s c.channelStatus).1, bmcLevel := (encode s c.channelStatus).2 } := by
  simp [step, hrst, htick]

theorem tick_within (hwithin : s.symbolCount < 63) :
    (step s c).symbolCount = s.symbolCount + 1 ∧ (step s c).subframeB = s.subframeB ∧
      (step s c).frameCount = s.frameCount := by
  have h := buffer_sameCell s c
  have hcount : (buffer s c).symbolCount ≠ 63 := h.symbolCount ▸ Nat.ne_of_lt hwithin
  rw [step_tick hrst htick, advance, if_neg hcount]
  exact ⟨congrArg (· + 1) h.symbolCount, h.subframeB, h.frameCount⟩

theorem tick_last (hlast : s.symbolCount = 63) :
    (step s c).symbolCount = 0 ∧ (step s c).subframeB = !s.subframeB := by
  have h := buffer_sameCell s c
  have hcount : (buffer s c).symbolCount = 63 := h.symbolCount.trans hlast
  rw [step_tick hrst htick, advance, if_pos hcount]
  cases hb : s.subframeB
  · have hkept : ¬(buffer s c).subframeB = true := by simp [h.subframeB, hb]
    rw [if_neg hkept]
    exact ⟨rfl, rfl⟩
  · have hkept : (buffer s c).subframeB = true := h.subframeB.trans hb
    rw [if_pos hkept]
    exact ⟨rfl, rfl⟩

theorem tick_levels : (step s c).aes3Out = (encode s c.channelStatus).1 ∧
    (step s c).bmcLevel = (encode s c.channelStatus).2 := by
  rw [step_tick hrst htick]
  exact ⟨rfl, rfl⟩

end Tick

-- ---------------------------------------------------------------------------
-- The cells of a subframe
-- ---------------------------------------------------------------------------

/-- The level the line has before cell `k`. -/
def levelBefore (p : Preamble) (start : Bool) (bits : Nat → Bool) (k : Nat) : Bool :=
  if k = 0 then start else cell p start bits (k - 1)

/-- The subframe began after `start`, and its next cell is the one due. -/
structure Sending (start : Bool) (bits : Nat → Bool) (s : Tx) : Prop where
  count : s.symbolCount < 64
  out : s.aes3Out = levelBefore (preamble s) start bits s.symbolCount
  level : s.bmcLevel = if s.symbolCount ≤ 8 then start else s.aes3Out

/-- A data bit is read in this cell. -/
def ReadsBit (s : Tx) : Prop := 8 ≤ s.symbolCount ∧ s.symbolCount % 2 = 1

instance : Decidable (ReadsBit s) := inferInstanceAs (Decidable (_ ∧ _))

theorem bitIndex_eq (h : Sending start bits s) (hdata : 8 ≤ s.symbolCount) :
    bitIndex s = (s.symbolCount - 8) / 2 := by
  have := h.count
  unfold bitIndex
  omega

theorem Sending.out_eight (h : Sending start bits s) (height : s.symbolCount = 8) :
    s.aes3Out = start := by
  rw [h.out, height]
  exact cell_seven (preamble s) start bits

theorem Sending.out_first (h : Sending start bits s) {i : Nat} (hi : s.symbolCount = 8 + 2 * i) :
    s.aes3Out = levelAfter start bits i := by
  rcases i with - | i
  · exact h.out_eight hi
  · have hne : ¬s.symbolCount = 0 := by omega
    rw [h.out, levelBefore, if_neg hne, show s.symbolCount - 1 = 9 + 2 * i by omega, cell_second,
      levelAfter]

/-- What a tick puts on the line is the cell due. -/
theorem Sending.encode (h : Sending start bits s) {channelStatus : BitVec 192}
    (hbit : ReadsBit s → dataBitCurrent s channelStatus = bits (bitIndex s)) :
    (encode s channelStatus).1 = cell (preamble s) start bits s.symbolCount ∧
      (encode s channelStatus).2 =
        if s.symbolCount < 8 then start else (Aes3Tx.encode s channelStatus).1 := by
  rcases Nat.lt_or_ge s.symbolCount 8 with hpre | hdata
  · have hlevel : s.bmcLevel = start := by rw [h.level, if_pos (Nat.le_of_lt hpre)]
    rw [Aes3Tx.encode, if_pos hpre, if_pos hpre, cell, if_pos hpre, hlevel]
    exact ⟨rfl, rfl⟩
  · have hnot : ¬s.symbolCount < 8 := Nat.not_lt.mpr hdata
    obtain ⟨i, hi | hi⟩ : ∃ i, s.symbolCount = 8 + 2 * i ∨ s.symbolCount = 9 + 2 * i :=
      ⟨(s.symbolCount - 8) / 2, by omega⟩
    · have heven : s.symbolCount % 2 = 0 := by omega
      rw [Aes3Tx.encode, if_neg hnot, if_pos heven, if_neg hnot, hi, cell_first, h.out_first hi]
      exact ⟨rfl, rfl⟩
    · have hodd : ¬s.symbolCount % 2 = 0 := by omega
      have hne : ¬s.symbolCount = 0 := by omega
      have hafter : ¬s.symbolCount ≤ 8 := by omega
      have hout : s.aes3Out = !levelAfter start bits i := by
        rw [h.out, levelBefore, if_neg hne, show s.symbolCount - 1 = 8 + 2 * i by omega,
          cell_first]
      have hlevel : s.bmcLevel = s.aes3Out := by rw [h.level, if_neg hafter]
      have hread : dataBitCurrent s channelStatus = bits i := by
        have hindex : bitIndex s = i := by
          rw [bitIndex_eq h hdata]
          omega
        rw [hbit ⟨hdata, by omega⟩, hindex]
      rw [Aes3Tx.encode, if_neg hnot, if_neg hodd, if_neg hnot, hi, cell_second, hread, hlevel,
        hout]
      cases bits i <;> cases levelAfter start bits i <;> exact ⟨rfl, rfl⟩

/-- Between ticks nothing changes, whatever is loaded. -/
theorem Sending.idle (h : Sending start bits s) (hrst : c.rst = false)
    (hidle : c.biphaseTick = false) : Sending start bits (step s c) := by
  have hsame := step_idle_sameCell (s := s) hrst hidle
  have hpreamble : preamble (step s c) = preamble s := by
    rw [preamble, preamble, hsame.subframeB, hsame.frameCount]
  refine ⟨hsame.symbolCount ▸ h.count, ?_, ?_⟩
  · rw [hsame.aes3Out, hsame.symbolCount, hpreamble, h.out]
  · rw [hsame.bmcLevel, hsame.symbolCount, hsame.aes3Out, h.level]

theorem Sending.tick (h : Sending start bits s) (hrst : c.rst = false)
    (htick : c.biphaseTick = true)
    (hbit : ReadsBit s → dataBitCurrent s c.channelStatus = bits (bitIndex s)) :
    (step s c).aes3Out = cell (preamble s) start bits s.symbolCount ∧
      (s.symbolCount < 63 → Sending start bits (step s c)) ∧
      (s.symbolCount = 63 → ∀ next, Sending (levelAfter start bits 28) next (step s c)) := by
  obtain ⟨hout, hlevel⟩ := h.encode hbit
  obtain ⟨hstepOut, hstepLevel⟩ := tick_levels (s := s) hrst htick
  refine ⟨hstepOut.trans hout, fun hwithin => ?_, fun hlast next => ?_⟩
  · obtain ⟨hcount, hsub, hframe⟩ := tick_within hrst htick hwithin
    have hpreamble : preamble (step s c) = preamble s := by
      rw [preamble, preamble, hsub, hframe]
    refine ⟨by omega, ?_, ?_⟩
    · rw [hstepOut, hout, hpreamble, hcount]
      rfl
    · rw [hstepLevel, hlevel, hcount, hstepOut]
      rcases Nat.lt_or_ge s.symbolCount 8 with hpre | hdata
      · rw [if_pos hpre, if_pos (by omega)]
      · rw [if_neg (by omega), if_neg (by omega)]
  · obtain ⟨hcount, -⟩ := tick_last hrst htick hlast
    have hend : (step s c).aes3Out = levelAfter start bits 28 := by
      rw [hstepOut, hout, hlast]
      exact cell_second _ _ _ 27
    refine ⟨by omega, ?_, ?_⟩
    · rw [hend, hcount]
      rfl
    · rw [hstepLevel, hlevel, hcount, if_neg (by omega), if_pos (by omega), ← hstepOut, hend]

/-- Bits that have not been read may be other ones. -/
theorem Sending.rebits (h : Sending start bits s)
    (hsame : ∀ j, 10 + 2 * j ≤ s.symbolCount → bits j = bits' j) : Sending start bits' s := by
  refine ⟨h.count, ?_, h.level⟩
  rw [h.out, levelBefore, levelBefore]
  split
  · rfl
  · exact cell_congr (fun j hj => hsame j (by omega))

end AvbAes3.Aes3Tx
