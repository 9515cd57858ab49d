import AvbAes3.Aes3Decode
import Mathlib.Data.List.GetD

/-!
# Channel status blocks

A block is the A subframes of 192 frames, the first of them after a Z
preamble. `aes3_rx` shifts the C bit of every A subframe into a register and
counts to 192. The count starts again at a Z preamble and at nothing else, so
what was counted before a loss of sync is still counted after it.

`whole_iff_inTurn`: the pulses of `cs_valid` are those of whole blocks
exactly if no A subframe fills the count once the block has been broken.
-/

namespace AvbAes3.ChannelStatus

open Aes3Line Aes3Rx Aes3Decode

-- ---------------------------------------------------------------------------
-- Blocks
-- ---------------------------------------------------------------------------

/-- The frames that other frames follow. -/
def frames (words : List (BitVec 28 × BitVec 28)) : List Event :=
  words.flatMap fun w => [.subframe false w.1, .preamble .y, .subframe true w.2, .preamble .x]

/-- The log ends with the A subframe of the last frame of a block. Since its
Z preamble no subframe was lost, and the register has the C bits. -/
def WholeBlock (log : List Event) (channelStatus : BitVec 192) : Prop :=
  ∃ before words last, words.length = 191 ∧
    log = before ++ .preamble .z :: (frames words ++ [.subframe false last]) ∧
    ∀ i < 192, channelStatus.getLsbD i = cBit ((words.map Prod.fst ++ [last]).getD i 0)

/-- What `cs_valid` promises of a clock. -/
def Whole (clkFreq : Nat) (start : Rx) (w : Rx × List Event) (c : Sample) : Prop :=
  let next := (logged clkFreq start).step w c
  next.1.decoder.control.csValid = true →
    WholeBlock next.2 next.1.decoder.control.channelStatus

-- ---------------------------------------------------------------------------
-- Turns
-- ---------------------------------------------------------------------------

/-- What has to come next in frame `n` of the block. -/
inductive Turn
  | subframeA (n : Nat)
  | preambleY (n : Nat)
  | subframeB (n : Nat)
  | preambleX (n : Nat)
  deriving DecidableEq

/-- A Z preamble starts a block. Whatever comes out of turn breaks it, as do
a loss of sync and an interval that belongs to no subframe. -/
def follow (turn : Option Turn) (e : Event) : Option Turn :=
  match turn, e with
  | _, .preamble .z => some (.subframeA 0)
  | some (.subframeA n), .subframe false _ => some (.preambleY n)
  | some (.preambleY n), .preamble .y => some (.subframeB n)
  | some (.subframeB n), .subframe true _ => some (.preambleX (n + 1))
  | some (.preambleX n), .preamble .x => if n < 192 then some (.subframeA n) else none
  | _, _ => none

def turn (log : List Event) : Option Turn := log.foldl follow none

/-- An A subframe is complete and the count is full with it. -/
def Fills (w : Rx × List Event) (c : Sample) : Prop :=
  w.1.decoder.control.csCnt = 191 ∧ ∃ sr, w.1.decoder.event c.rst = some (.subframe false sr)

/-- The A subframe that fills the count is one of an unbroken block. -/
def InTurn (w : Rx × List Event) (c : Sample) : Prop :=
  Fills w c → ∃ n, turn w.2 = some (.subframeA n)

-- ---------------------------------------------------------------------------
-- A clock
-- ---------------------------------------------------------------------------

variable {clkFreq cellW : Nat} {s : Control} {d : Decoder} {rst aes3 : Bool} {sr : BitVec 28}

theorem accumulate_getLsbD (c : Bool) (csAcc : BitVec 192) {i : Nat} (hi : i < 192) :
    (accumulate c csAcc).getLsbD i = if i = 191 then c else csAcc.getLsbD (i + 1) := by
  rw [accumulate, BitVec.getLsbD_cons]
  split
  · rfl
  · rw [BitVec.getLsbD_extractLsb', decide_eq_true (by omega), Bool.true_and, Nat.add_comm]

theorem edge_status (s : Control) (t : IntervalType) :
    (edge s t).csAcc = s.csAcc ∧ (edge s t).csValid = s.csValid ∧
      (edge s t).csCnt = if s.framing.taken t = some (.preamble .z) then 0 else s.csCnt := by
  obtain ⟨⟨state, syncCnt, phase, bitCnt, sr, preZ, preX, preY, chB⟩, _⟩ := s
  cases state with
  | hunt => cases t <;> exact ⟨rfl, rfl, rfl⟩
  | sync =>
    simp only [edge, sync, Framing.taken, Framing.preamble]
    split_ifs <;> simp_all
  | data => cases phase <;> cases t <;> exact ⟨rfl, rfl, rfl⟩

theorem complete_status (clkFreq cellW : Nat) (s : Control) (iv : Bool) (t : IntervalType) :
    let taken := takeStatus (takeAudio s)
    (complete clkFreq cellW s iv t).csAcc = taken.csAcc ∧
      (complete clkFreq cellW s iv t).csCnt = taken.csCnt ∧
      (complete clkFreq cellW s iv t).csValid = taken.csValid ∧
      (complete clkFreq cellW s iv t).channelStatus = taken.channelStatus := by
  unfold complete
  dsimp only
  split <;> exact ⟨rfl, rfl, rfl, rfl⟩

theorem takeAudio_status (s : Control) : (takeAudio s).csAcc = s.csAcc ∧
    (takeAudio s).csCnt = s.csCnt ∧ (takeAudio s).csValid = s.csValid ∧
    (takeAudio s).framing = s.framing := by
  unfold takeAudio
  dsimp only
  split <;> exact ⟨rfl, rfl, rfl, rfl⟩

theorem takeStatus_b (hb : s.framing.chB = true) : takeStatus s = s := by
  simp [takeStatus, hb]

theorem takeStatus_a (hb : s.framing.chB = false) :
    (takeStatus s).csAcc = accumulate (cBit s.framing.sr) s.csAcc ∧
      (s.csCnt = 191 → (takeStatus s).csValid = true ∧ (takeStatus s).csCnt = 0 ∧
        (takeStatus s).channelStatus = accumulate (cBit s.framing.sr) s.csAcc) ∧
      (s.csCnt ≠ 191 → (takeStatus s).csValid = s.csValid ∧
        (takeStatus s).csCnt = (s.csCnt + 1) % 256) := by
  have hnot : ¬s.framing.chB = true := by simp [hb]
  rw [takeStatus, if_neg hnot]
  dsimp only
  by_cases hfull : s.csCnt = 191
  · rw [if_pos hfull]
    exact ⟨rfl, fun _ => ⟨rfl, rfl, rfl⟩, fun h => absurd hfull h⟩
  · rw [if_neg hfull]
    exact ⟨rfl, fun h => absurd h hfull, fun _ => ⟨rfl, rfl⟩⟩

theorem step_subframeA (clkFreq : Nat) (aes3 : Bool)
    (h : d.event rst = some (.subframe false sr)) :
    (d.step clkFreq rst aes3).control.csAcc = accumulate (cBit sr) d.control.csAcc ∧
      (d.control.csCnt = 191 → (d.step clkFreq rst aes3).control.csValid = true ∧
        (d.step clkFreq rst aes3).control.csCnt = 0 ∧
        (d.step clkFreq rst aes3).control.channelStatus =
          accumulate (cBit sr) d.control.csAcc) ∧
      (d.control.csCnt ≠ 191 → (d.step clkFreq rst aes3).control.csValid = false ∧
        (d.step clkFreq rst aes3).control.csCnt = (d.control.csCnt + 1) % 256) := by
  obtain ⟨hlive, hdone, hb, rfl⟩ := event_subframe h
  obtain ⟨hacc, hcnt, hvalid, hframing⟩ := takeAudio_status (clearPulses d.control)
  obtain ⟨hacc', hcnt', hvalid', hstatus'⟩ :=
    complete_status clkFreq d.width.cellW (clearPulses d.control) d.edges.iv d.itype
  have hbA : (takeAudio (clearPulses d.control)).framing.chB = false := by rw [hframing]; exact hb
  obtain ⟨htaken, hfull, hpart⟩ := takeStatus_a hbA
  rw [hacc, hframing] at htaken hfull
  rw [hcnt] at hfull hpart
  rw [hvalid] at hpart
  rw [step_live hlive, if_pos hdone, hacc', hcnt', hvalid', hstatus']
  exact ⟨htaken, hfull, hpart⟩

/-- Nothing but an A subframe pulses `cs_valid`, and nothing but an A
subframe, a Z preamble or a loss changes what is counted. -/
theorem step_other (clkFreq : Nat) (d : Decoder) (rst aes3 : Bool)
    (h : ∀ sr, d.event rst ≠ some (.subframe false sr)) :
    (d.step clkFreq rst aes3).control.csValid = false ∧ (d.event rst = some .lost ∨
      (d.step clkFreq rst aes3).control.csAcc = d.control.csAcc ∧
      (d.step clkFreq rst aes3).control.csCnt =
        if d.event rst = some (.preamble .z) then 0 else d.control.csCnt) := by
  by_cases hlost : rst = true ∨ d.edges.noSignal = true
  · refine ⟨?_, .inl (by rw [Decoder.event, if_pos hlost])⟩
    rw [Decoder.step]
    dsimp only
    by_cases hrst : rst = true
    · rw [Control.step, if_pos hrst]
      rfl
    · rw [Control.step, if_neg hrst, if_pos (hlost.resolve_left hrst)]
      rfl
  · rw [step_live hlost]
    by_cases hdone : d.control.framing.completes
    · have hevent : d.event rst = some (.subframe d.control.framing.chB d.control.framing.sr) := by
        rw [Decoder.event, if_neg hlost, if_pos hdone]
      have hb : d.control.framing.chB = true := by
        by_contra hb
        rw [Bool.eq_false_iff.mpr hb] at hevent
        exact h _ hevent
      obtain ⟨hacc, hcnt, hvalid, hframing⟩ := takeAudio_status (clearPulses d.control)
      obtain ⟨hacc', hcnt', hvalid', -⟩ :=
        complete_status clkFreq d.width.cellW (clearPulses d.control) d.edges.iv d.itype
      have hbB : (takeAudio (clearPulses d.control)).framing.chB = true := by
        rw [hframing]; exact hb
      rw [takeStatus_b hbB] at hacc' hcnt' hvalid'
      have hne : d.event rst ≠ some (.preamble .z) := by rw [hevent]; simp
      rw [if_pos hdone, if_neg hne, hacc', hcnt', hvalid', hacc, hcnt, hvalid]
      exact ⟨rfl, .inr ⟨rfl, rfl⟩⟩
    · by_cases hiv : d.edges.iv = true
      · have hevent : d.event rst = d.control.framing.taken d.itype := by
          rw [Decoder.event, if_neg hlost, if_neg hdone, if_pos hiv]
        obtain ⟨hacc, hvalid, hcnt⟩ := edge_status (clearPulses d.control) d.itype
        rw [if_neg hdone, if_pos hiv, hevent, hacc, hvalid, hcnt]
        exact ⟨rfl, .inr ⟨rfl, rfl⟩⟩
      · have hevent : d.event rst = none := by
          rw [Decoder.event, if_neg hlost, if_neg hdone, if_neg hiv]
        rw [if_neg hdone, if_neg hiv, hevent]
        exact ⟨rfl, .inr ⟨rfl, rfl⟩⟩

-- ---------------------------------------------------------------------------
-- An unbroken block
-- ---------------------------------------------------------------------------

variable {log : List Event} {subframes : List (BitVec 28)} {t t' : Turn} {e : Event}
  {start : Rx} {w : Rx × List Event} {c : Sample}

/-- A log with an unbroken block at its end, and the block's A subframes. -/
inductive Block : List Event → Turn → List (BitVec 28) → Prop
  | subframeA (before : List Event) (words : List (BitVec 28 × BitVec 28)) :
      words.length < 192 →
      Block (before ++ .preamble .z :: frames words) (.subframeA words.length)
        (words.map Prod.fst)
  | preambleY (before : List Event) (words : List (BitVec 28 × BitVec 28)) (a : BitVec 28) :
      words.length < 192 →
      Block (before ++ .preamble .z :: (frames words ++ [.subframe false a]))
        (.preambleY words.length) (words.map Prod.fst ++ [a])
  | subframeB (before : List Event) (words : List (BitVec 28 × BitVec 28)) (a : BitVec 28) :
      words.length < 192 →
      Block (before ++ .preamble .z :: (frames words ++ [.subframe false a, .preamble .y]))
        (.subframeB words.length) (words.map Prod.fst ++ [a])
  | preambleX (before : List Event) (words : List (BitVec 28 × BitVec 28)) (a b : BitVec 28) :
      words.length < 192 →
      Block (before ++ .preamble .z ::
          (frames words ++ [.subframe false a, .preamble .y, .subframe true b]))
        (.preambleX (words.length + 1)) (words.map Prod.fst ++ [a])

/-- The A subframe an event brings. -/
def Event.subframeA? : Event → List (BitVec 28)
  | .subframe false sr => [sr]
  | _ => []

theorem block_start (log : List Event) : Block (log ++ [.preamble .z]) (.subframeA 0) [] :=
  .subframeA log [] (by decide)

theorem frames_concat (words : List (BitVec 28 × BitVec 28)) (a b : BitVec 28) :
    frames (words ++ [(a, b)]) =
      frames words ++ [.subframe false a, .preamble .y, .subframe true b, .preamble .x] := by
  simp [frames]

theorem Block.extend (h : Block log t subframes) (he : e ≠ .preamble .z)
    (hfollow : follow (some t) e = some t') :
    Block (log ++ [e]) t' (subframes ++ Event.subframeA? e) := by
  cases h with
  | subframeA before words hlt =>
    rcases e with (- | - | -) | ⟨- | -, sr⟩ | - | - <;> cases hfollow
    · exact absurd rfl he
    · simpa [Event.subframeA?] using Block.preambleY before words sr hlt
  | preambleY before words a hlt =>
    rcases e with (- | - | -) | ⟨- | -, sr⟩ | - | - <;> cases hfollow
    · exact absurd rfl he
    · simpa [Event.subframeA?] using Block.subframeB before words a hlt
  | subframeB before words a hlt =>
    rcases e with (- | - | -) | ⟨- | -, sr⟩ | - | - <;> cases hfollow
    · exact absurd rfl he
    · simpa [Event.subframeA?] using Block.preambleX before words a sr hlt
  | preambleX before words a b hlt =>
    rcases e with (- | - | -) | ⟨- | -, sr⟩ | - | -
    · exact absurd rfl he
    · have hmore : words.length + 1 < 192 := by
        by_contra hnot
        simp [follow, hnot] at hfollow
      have ht : t' = .subframeA (words.length + 1) := by
        simpa [follow, hmore] using hfollow.symm
      have hblock := Block.subframeA before (words ++ [(a, b)]) (by simpa using hmore)
      rw [ht]
      simpa [Event.subframeA?, frames_concat] using hblock
    all_goals cases hfollow

theorem follow_z (turn : Option Turn) : follow turn (.preamble .z) = some (.subframeA 0) := by
  rcases turn with - | (- | - | - | -) <;> rfl

theorem turn_concat (log : List Event) (e : Event) :
    turn (log ++ [e]) = follow (turn log) e := by
  simp [turn, List.foldl_append]

/-- A run of frames leaves the block in turn. -/
theorem follow_frames (words : List (BitVec 28 × BitVec 28)) (n : Nat)
    (hn : n + words.length < 192) :
    (frames words).foldl follow (some (.subframeA n)) = some (.subframeA (n + words.length)) := by
  induction words generalizing n with
  | nil => rfl
  | cons word rest ih =>
    have hlt : n + 1 < 192 := by
      rw [List.length_cons] at hn
      omega
    have hone : (frames [word]).foldl follow (some (.subframeA n)) = some (.subframeA (n + 1)) := by
      simp [frames, follow, hlt]
    have hsplit : frames (word :: rest) = frames [word] ++ frames rest := by simp [frames]
    rw [hsplit, List.foldl_append, hone, ih (n + 1) (by rw [List.length_cons] at hn; omega),
      List.length_cons, Nat.add_assoc, Nat.add_comm 1]

theorem turn_frames (before : List Event) (words : List (BitVec 28 × BitVec 28))
    (hlt : words.length < 192) :
    turn (before ++ .preamble .z :: frames words) = some (.subframeA words.length) := by
  rw [turn, List.foldl_append, List.foldl_cons]
  rw [follow_z, follow_frames words 0 (by omega), Nat.zero_add]

-- ---------------------------------------------------------------------------
-- The count
-- ---------------------------------------------------------------------------

/-- The register has the C bits of these subframes at its upper end. -/
structure Counted (s : Control) (subframes : List (BitVec 28)) : Prop where
  csCnt : s.csCnt = subframes.length % 192
  csAcc : ∀ i < subframes.length,
    s.csAcc.getLsbD (192 - subframes.length + i) = cBit (subframes.getD i 0)

theorem Counted.keep {s s' : Control} (h : Counted s subframes) (hcnt : s'.csCnt = s.csCnt)
    (hacc : s'.csAcc = s.csAcc) : Counted s' subframes :=
  ⟨hcnt.trans h.csCnt, fun i hi => hacc ▸ h.csAcc i hi⟩

theorem Counted.shift {s s' : Control} {sr : BitVec 28} (h : Counted s subframes)
    (hlt : subframes.length < 192) (hacc : s'.csAcc = accumulate (cBit sr) s.csAcc)
    (hcnt : s'.csCnt = (subframes.length + 1) % 192) : Counted s' (subframes ++ [sr]) := by
  refine ⟨by rw [hcnt, List.length_append]; rfl, fun i hi => ?_⟩
  rw [List.length_append, List.length_singleton] at hi ⊢
  rw [hacc, accumulate_getLsbD _ _ (by omega)]
  rcases Nat.lt_or_ge i subframes.length with hold | hnew
  · rw [if_neg (by omega), List.getD_append _ _ _ _ hold, ← h.csAcc i hold]
    congr 1
    omega
  · have hi' : i = subframes.length := by omega
    rw [if_pos (by omega), List.getD_append_right _ _ _ _ hnew, hi', Nat.sub_self]
    rfl

def Inv (w : Rx × List Event) : Prop :=
  ∀ t, turn w.2 = some t →
    ∃ subframes, Block w.2 t subframes ∧ Counted w.1.decoder.control subframes

theorem follow_none (he : e ≠ .preamble .z) : follow none e = none := by
  rcases e with (- | - | -) | ⟨- | -, -⟩ | - | -
  · exact absurd rfl he
  all_goals rfl

theorem follow_lost (turn : Option Turn) : follow turn .lost = none := by
  rcases turn with - | (- | - | - | -) <;> rfl

theorem Block.length_lt (h : Block log t subframes) {sr : BitVec 28}
    (hfollow : follow (some t) (.subframe false sr) = some t') : subframes.length < 192 := by
  cases h with
  | subframeA before words hlt => rwa [List.length_map]
  | preambleY | subframeB | preambleX => cases hfollow

theorem step_log_none (clkFreq : Nat) (start : Rx) {s : Rx} (log : List Event)
    (hevent : s.decoder.event c.rst = none) :
    ((logged clkFreq start).step (s, log) c).2 = log := by
  change log ++ (s.decoder.event c.rst).toList = log
  rw [hevent]
  exact List.append_nil _

theorem step_log_some (clkFreq : Nat) (start : Rx) {s : Rx} (log : List Event)
    (hevent : s.decoder.event c.rst = some e) :
    ((logged clkFreq start).step (s, log) c).2 = log ++ [e] := by
  change log ++ (s.decoder.event c.rst).toList = log ++ [e]
  rw [hevent]
  rfl

theorem not_subframeA (ha : ¬∃ sr, e = .subframe false sr) : Event.subframeA? e = [] := by
  rcases e with - | ⟨- | -, sr⟩ | - | -
  · rfl
  · exact absurd ⟨sr, rfl⟩ ha
  all_goals rfl

theorem Inv.step (h : Inv w) (c : Sample) : Inv ((logged clkFreq start).step w c) := by
  intro t' ht'
  obtain ⟨s, log⟩ := w
  cases hevent : s.decoder.event c.rst with
  | none =>
    have hlog := step_log_none clkFreq start log hevent
    obtain ⟨-, hlost | ⟨hacc, hcnt⟩⟩ := step_other clkFreq s.decoder c.rst s.inSync.in2
      (by simp [hevent])
    · cases hevent.symm.trans hlost
    · rw [hlog] at ht' ⊢
      rw [hevent, if_neg (by simp)] at hcnt
      obtain ⟨subframes, hblock, hcounted⟩ := h t' ht'
      exact ⟨subframes, hblock, hcounted.keep hcnt hacc⟩
  | some e =>
    have hlog := step_log_some clkFreq start log hevent
    rw [hlog, turn_concat] at ht'
    rw [hlog]
    by_cases hz : e = .preamble .z
    · obtain ⟨-, hlost | ⟨-, hcnt⟩⟩ := step_other clkFreq s.decoder c.rst s.inSync.in2
        (by simp [hevent, hz])
      · rw [hevent, hz] at hlost
        cases hlost
      · have ht : t' = .subframeA 0 := by
          rw [hz, follow_z] at ht'
          exact (Option.some.inj ht').symm
        rw [hevent, hz, if_pos rfl] at hcnt
        rw [hz, ht]
        exact ⟨[], block_start log, hcnt, by simp⟩
    · rcases hturn : turn log with - | t
      · rw [hturn, follow_none hz] at ht'
        cases ht'
      · rw [hturn] at ht'
        obtain ⟨subframes, hblock, hcounted⟩ := h t hturn
        refine ⟨_, hblock.extend hz ht', ?_⟩
        by_cases ha : ∃ sr, e = .subframe false sr
        · obtain ⟨sr, rfl⟩ := ha
          have hlt := hblock.length_lt ht'
          obtain ⟨hacc, hfull, hpart⟩ := step_subframeA clkFreq s.inSync.in2 hevent
          have hcnt := hcounted.csCnt
          rw [Nat.mod_eq_of_lt hlt] at hcnt
          refine hcounted.shift hlt hacc ?_
          by_cases h191 : s.decoder.control.csCnt = 191
          · rw [show subframes.length = 191 from hcnt.symm.trans h191]
            exact (hfull h191).2.1
          · refine (hpart h191).2.trans ?_
            have : s.decoder.control.csCnt = subframes.length := hcnt
            omega
        · obtain ⟨-, hlost | ⟨hacc, hcnt⟩⟩ := step_other clkFreq s.decoder c.rst s.inSync.in2 (by
              intro sr hsr
              exact ha ⟨sr, Option.some.inj (hevent.symm.trans hsr)⟩)
          · rw [Option.some.inj (hevent.symm.trans hlost), follow_lost] at ht'
            cases ht'
          · rw [not_subframeA ha, List.append_nil]
            rw [hevent, if_neg (by simpa using hz)] at hcnt
            exact hcounted.keep hcnt hacc

theorem inv_start (clkFreq : Nat) (start : Rx) : Inv (logged clkFreq start).init := by
  rintro t ⟨⟩

-- ---------------------------------------------------------------------------
-- The pulses
-- ---------------------------------------------------------------------------

theorem fills_of_pulse
    (hpulse : ((logged clkFreq start).step w c).1.decoder.control.csValid = true) : Fills w c := by
  by_cases ha : ∃ sr, w.1.decoder.event c.rst = some (.subframe false sr)
  · obtain ⟨sr, hsr⟩ := ha
    obtain ⟨-, -, hpart⟩ := step_subframeA clkFreq w.1.inSync.in2 hsr
    refine ⟨?_, sr, hsr⟩
    by_contra hne
    cases (hpart hne).1.symm.trans hpulse
  · obtain ⟨hvalid, -⟩ := step_other clkFreq w.1.decoder c.rst w.1.inSync.in2
      (fun sr hsr => ha ⟨sr, hsr⟩)
    cases hvalid.symm.trans hpulse

theorem whole_iff (h : Inv w) : InTurn w c ↔ Whole clkFreq start w c := by
  obtain ⟨s, log⟩ := w
  have hlog {sr : BitVec 28} (hsr : s.decoder.event c.rst = some (.subframe false sr)) :=
    step_log_some clkFreq start log hsr
  constructor
  · intro hturn hpulse
    have hfills := fills_of_pulse hpulse
    obtain ⟨n, hn⟩ := hturn hfills
    obtain ⟨h191, sr, hsr⟩ := hfills
    obtain ⟨subframes, hblock, hcounted⟩ := h _ hn
    obtain ⟨hacc, hfull, -⟩ := step_subframeA clkFreq s.inSync.in2 hsr
    obtain ⟨-, hcnt', hstatus⟩ := hfull h191
    have hcnt := hcounted.csCnt
    cases hblock with
    | subframeA before words hlt =>
      have hwords : words.length = 191 := by
        rw [List.length_map, Nat.mod_eq_of_lt hlt] at hcnt
        exact hcnt.symm.trans h191
      have hnext : Counted (s.decoder.step clkFreq c.rst s.inSync.in2).control
          (words.map Prod.fst ++ [sr]) :=
        hcounted.shift (by rwa [List.length_map]) hacc (by
          rw [hcnt', List.length_map, hwords])
      refine ⟨before, words, sr, hwords, ?_, fun i hi => ?_⟩
      · exact (hlog hsr).trans (List.append_assoc ..)
      · have hbit := hnext.csAcc i (by simpa [hwords] using hi)
        have hlength : (words.map Prod.fst ++ [sr]).length = 192 := by simp [hwords]
        rw [hlength, Nat.sub_self, Nat.zero_add, hacc] at hbit
        rw [← hbit]
        exact congrArg (BitVec.getLsbD · i) hstatus
  · rintro hwhole ⟨h191, sr, hsr⟩
    obtain ⟨-, hfull, -⟩ := step_subframeA clkFreq s.inSync.in2 hsr
    obtain ⟨before, words, last, hwords, heq, -⟩ := hwhole (hfull h191).1
    rw [hlog hsr, ← List.cons_append, ← List.append_assoc] at heq
    obtain ⟨hbefore, -⟩ := List.append_inj' heq rfl
    change log = _ at hbefore
    refine ⟨words.length, ?_⟩
    change turn log = _
    rw [hbefore]
    exact turn_frames before words (by omega)

/-- From whatever state, every pulse of `cs_valid` is that of a whole block
exactly if every A subframe that fills the count is in its turn. -/
theorem whole_iff_inTurn (clkFreq : Nat) (start : Rx) (samples : List Sample) :
    (logged clkFreq start).Steps (Whole clkFreq start) samples ↔
      (logged clkFreq start).Steps InTurn samples :=
  (Machine.steps_congr Inv (inv_start clkFreq start) (fun _ c h _ => h.step c)
    (fun _ _ h => whole_iff h) samples).symm

-- ---------------------------------------------------------------------------
-- A Z preamble that is missed
-- ---------------------------------------------------------------------------

def zeros : Nat → Bool := fun _ => false

/-- A frame of zeros within a block, at 8 clocks to the cell. -/
def frameLevels : List Bool := subframeLevels 8 .x false zeros ++ subframeLevels 8 .y false zeros

def streamLevels (n : Nat) : List Bool := (List.replicate n frameLevels).flatten

/-- After a reset the receiver joins a block, and the next Z preamble is
received as an X. -/
def missedZ : List Sample :=
  (List.replicate 13 false ++ List.replicate 3 true ++ streamLevels 192 ++
    [true, true, true]).map (Sample.mk false)

/-- A log with so many A subframes, no Z preamble and no loss. -/
structure NoZ (n : Nat) (log : List Event) : Prop where
  z : .preamble .z ∉ log
  lost : .lost ∉ log
  subframes : (log.flatMap Event.subframeA?).length = n

theorem hears_stream (clkFreq : Nat) {d : Decoder} (h : Ready 8 false 56 d) (n : Nat) :
    ∃ d' events, Heard clkFreq 8 d (streamLevels n) events d' ∧ Ready 8 false 56 d' ∧
      NoZ n events := by
  induction n generalizing d with
  | zero => exact ⟨d, [], .done d, h, by simp, by simp, rfl⟩
  | succ n ih =>
    have hready : Ready 8 false (firstShort .x * 8 - 1) d := ⟨h.quiet.weaken (by decide), h.hunt⟩
    obtain ⟨d₁, a, ha, -, ready₁⟩ := hready.subframe clkFreq zeros (by decide) (by decide)
    have hready₁ : Ready 8 false (firstShort .y * 8 - 1) d₁ :=
      ⟨ready₁.quiet.weaken (by decide), ready₁.hunt⟩
    obtain ⟨d₂, b, hb, -, ready₂⟩ := hready₁.subframe clkFreq zeros (by decide) (by decide)
    obtain ⟨d', events, hrest, hready', hz, hlost, hcount⟩ := ih ready₂
    refine ⟨d', _, (ha.trans hb).trans hrest, hready', ?_, ?_, ?_⟩
    · simpa using hz
    · simpa using hlost
    · rw [List.flatMap_append, List.length_append, hcount, Nat.add_comm]
      rfl

theorem NoZ.before {n : Nat} (h : NoZ n (log ++ [e])) :
    e ≠ .preamble .z ∧ e ≠ .lost ∧ ∃ m, NoZ m log ∧ n = m + (Event.subframeA? e).length := by
  obtain ⟨hz, hlost, hcount⟩ := h
  simp only [List.mem_append, List.mem_singleton, not_or] at hz hlost
  refine ⟨Ne.symm hz.2, Ne.symm hlost.2, _, ⟨hz.1, hlost.1, rfl⟩, ?_⟩
  rw [← hcount, List.flatMap_append, List.length_append, List.flatMap_singleton]

theorem WholeBlock.z_mem {channelStatus : BitVec 192} (h : WholeBlock log channelStatus) :
    .preamble .z ∈ log := by
  obtain ⟨before, words, last, -, rfl, -⟩ := h
  simp

/-- While every pulse is whole, the count without a Z preamble is the number
of A subframes, and does not get to 192. -/
theorem count_noZ (hstart : start.decoder.control.csCnt = 0) {samples : List Sample}
    (h : (logged clkFreq start).Steps (Whole clkFreq start) samples) {n : Nat}
    (hlog : NoZ n ((logged clkFreq start).run samples).2) : n < 192 := by
  refine (h.invariant (I := fun w => ∀ n, NoZ n w.2 → w.1.decoder.control.csCnt = n ∧ n < 192)
    ?_ ?_ n hlog).2
  · rintro n ⟨-, -, rfl⟩
    exact ⟨hstart, Nat.succ_pos 191⟩
  · rintro ⟨s, log⟩ c ih hwhole n hn
    cases hevent : s.decoder.event c.rst with
    | none =>
      rw [step_log_none clkFreq start log hevent] at hn
      obtain ⟨-, hlost | ⟨-, hcnt⟩⟩ := step_other clkFreq s.decoder c.rst s.inSync.in2
        (by simp [hevent])
      · cases hevent.symm.trans hlost
      · rw [hevent, if_neg (by simp)] at hcnt
        obtain ⟨hold, hlt⟩ := ih n hn
        exact ⟨hcnt.trans hold, hlt⟩
    | some e =>
      have hlog' := step_log_some clkFreq start log hevent
      rw [hlog'] at hn
      obtain ⟨hz, hlost, m, hm, rfl⟩ := hn.before
      obtain ⟨hold, hlt⟩ := ih m hm
      by_cases ha : ∃ sr, e = .subframe false sr
      · obtain ⟨sr, rfl⟩ := ha
        obtain ⟨-, hfull, hpart⟩ := step_subframeA clkFreq s.inSync.in2 hevent
        have hnot : s.decoder.control.csCnt ≠ 191 := by
          intro h191
          have hblock := hwhole (hfull h191).1
          rw [hlog'] at hblock
          exact hn.z hblock.z_mem
        have hm191 : m ≠ 191 := fun hm191 => hnot (hold.trans hm191)
        have hnext : (s.decoder.control.csCnt + 1) % 256 = m + 1 := by
          have : s.decoder.control.csCnt = m := hold
          omega
        have hmore : m + 1 < 192 := by omega
        exact ⟨(hpart hnot).2.trans hnext, hmore⟩
      · obtain ⟨-, hlost' | ⟨-, hcnt⟩⟩ := step_other clkFreq s.decoder c.rst s.inSync.in2 (by
          intro sr hsr
          exact ha ⟨sr, Option.some.inj (hevent.symm.trans hsr)⟩)
        · exact absurd (Option.some.inj (hevent.symm.trans hlost')) hlost
        · rw [hevent, if_neg (by simpa using hz)] at hcnt
          rw [not_subframeA ha, List.length_nil, Nat.add_zero]
          exact ⟨hcnt.trans hold, hlt⟩

theorem hears_first (clkFreq : Nat) : ∃ d', Heard clkFreq 8 (afterReset 50000000).decoder
    (List.replicate 16 false ++ List.replicate 3 true) [.skipped] d' ∧ Ready 8 false 56 d' := by
  have hquiet : Quiet 8 false 0 (56 + 3 + 16) (afterReset 50000000).decoder :=
    ⟨rfl, rfl, rfl, by decide, .inl (by decide)⟩
  obtain ⟨d₁, hheard, hquiet₁, hframing⟩ :=
    hquiet.hold clkFreq (by decide) (by decide) (by decide)
  obtain ⟨d', hdecodes, hquiet'⟩ := Quiet.edge clkFreq (c := 2) hquiet₁ (by decide) (by decide)
    (by decide) (by decide) (by decide) (show true = !false from rfl)
  obtain ⟨hedge, hstate⟩ := hdecodes
  rw [hframing] at hedge hstate
  refine ⟨d', hheard.trans hedge, hquiet', ?_⟩
  rw [hstate]
  rfl

/-- 192 frames of which none begins a block are taken for a block. -/
theorem missedZ_counted : ¬(logged 50000000 (afterReset 50000000)).Steps
    (Whole 50000000 (afterReset 50000000)) missedZ := by
  intro h
  obtain ⟨d₁, hfirst, hready⟩ := hears_first 50000000
  obtain ⟨d', events, hstream, -, hz, hlost, hcount⟩ :=
    hears_stream 50000000 hready 192
  have hline : false :: false :: false :: (List.replicate 13 false ++ List.replicate 3 true ++
      streamLevels 192 ++ [true, true, true]) =
        (List.replicate 16 false ++ List.replicate 3 true) ++ streamLevels 192 ++
          [true, true, true] := by
    rw [List.append_assoc, List.append_assoc, List.append_assoc, List.append_assoc]
    rfl
  obtain ⟨hrun, -⟩ := (hfirst.trans hstream).rx (afterReset 50000000) hline []
  have hlog : NoZ 192 ((logged 50000000 (afterReset 50000000)).run missedZ).2 := by
    have hsecond : ((logged 50000000 (afterReset 50000000)).run missedZ).2 =
        [] ++ ([.skipped] ++ events) := congrArg Prod.snd hrun
    rw [hsecond]
    refine ⟨by simpa using hz, by simpa using hlost, ?_⟩
    rw [← hcount]
    rfl
  exact absurd (count_noZ rfl h hlog) (Nat.lt_irrefl 192)

end AvbAes3.ChannelStatus
