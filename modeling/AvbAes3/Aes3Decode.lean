import AvbAes3.Aes3Rx

/-!
# Decoding the line

What `aes3_rx` makes of levels that change at the ends of cells of constant
width. An edge takes three clocks: one to measure, one to take the interval,
one to take the subframe it may have completed. In the rest of a cell only
the timer and the decay count move.

The estimate of the cell width is right to one clock as long as the decay
does not strike twice between two short intervals (`Estimate`).
-/

namespace AvbAes3.Aes3Decode

open Aes3Line Aes3Rx

-- ---------------------------------------------------------------------------
-- The estimate
-- ---------------------------------------------------------------------------

variable {T n m k c : Nat} {w : CellWidth} {e : Edges} {d d' d'' : Decoder}
  {level : Bool} {levels levels' : List Bool} {events events' : List Event}

/-- `cell_w` is `T`, or one more and not raised again in the next `n` clocks. -/
def Estimate (T n : Nat) (w : CellWidth) : Prop :=
  w.cellW = T ∨ w.cellW = T + 1 ∧ (40 ≤ T + 1 ∨ w.decayCnt + n ≤ 4095)

theorem Estimate.range (h : Estimate T n w) : w.cellW = T ∨ w.cellW = T + 1 :=
  h.imp id And.left

theorem Estimate.weaken (h : Estimate T n w) (hm : m ≤ n) : Estimate T m w := by
  rcases h with h | ⟨h, hdecay⟩
  · exact .inl h
  · exact .inr ⟨h, by omega⟩

/-- No interval is shorter than a cell. -/
theorem Estimate.step {clkFreq : Nat} (h : Estimate T (n + 1) w) (hn : n ≤ 4095) (hT : T ≤ 40)
    (hiv : e.iv = true → T ≤ e.interval) : Estimate T n (w.step clkFreq false e) := by
  simp only [Estimate, CellWidth.step, Bool.false_eq_true, if_false]
  rcases h with h | ⟨h, hdecay⟩
  · by_cases hstrike : w.decayCnt = 4095 ∧ w.cellW < 40
    · rw [if_pos hstrike]
      omega
    · rw [if_neg hstrike, if_neg (fun hsnap => by have := hiv hsnap.1; omega)]
      exact .inl h
  · rw [if_neg (by omega)]
    by_cases hsnap : e.iv = true ∧ 3 ≤ e.interval ∧ e.interval < w.cellW
    · rw [if_pos hsnap]
      have := hiv hsnap.1
      omega
    · rw [if_neg hsnap]
      omega

/-- A short interval puts the estimate right. -/
theorem Estimate.short {clkFreq : Nat} (h : Estimate T 1 w) (hlow : 3 ≤ T) (hiv : e.iv = true)
    (hinterval : e.interval = T) : Estimate T 4095 (w.step clkFreq false e) := by
  simp only [Estimate, CellWidth.step, Bool.false_eq_true, if_false]
  rcases h with h | ⟨h, hdecay⟩
  · by_cases hstrike : w.decayCnt = 4095 ∧ w.cellW < 40
    · rw [if_pos hstrike]
      omega
    · rw [if_neg hstrike, if_neg (by omega)]
      exact .inl h
  · rw [if_neg (by omega), if_pos ⟨hiv, by omega, by omega⟩]
    exact .inl hinterval

/-- The type of an interval of so many cells. -/
def span (c : Nat) : IntervalType :=
  if c = 1 then .short else if c = 2 then .long else .vlong

theorem itype_span {cellW : Nat} (hT : 4 ≤ T) (hT' : T ≤ 40) (hcell : cellW = T ∨ cellW = T + 1)
    (hc : 1 ≤ c) (hc' : c ≤ 3) : itype cellW (c * T) = span c := by
  have hsl : (cellW + cellW / 2) % 512 = cellW + cellW / 2 := Nat.mod_eq_of_lt (by omega)
  have hlv : (2 * cellW + cellW / 2) % 512 = 2 * cellW + cellW / 2 := Nat.mod_eq_of_lt (by omega)
  have hv : 4 * cellW % 256 = 4 * cellW := Nat.mod_eq_of_lt (by omega)
  obtain rfl | rfl | rfl : c = 1 ∨ c = 2 ∨ c = 3 := by omega
  · rw [itype, hsl, if_pos (by omega)]
    rfl
  · rw [itype, hsl, hlv, if_neg (by omega), if_pos (by omega)]
    rfl
  · rw [itype, hsl, hlv, hv, if_neg (by omega), if_neg (by omega), if_pos (by omega)]
    rfl

-- ---------------------------------------------------------------------------
-- Clocks
-- ---------------------------------------------------------------------------

/-- What is heard of the levels. The estimate is in range in every clock. -/
inductive Heard (clkFreq T : Nat) : Decoder → List Bool → List Event → Decoder → Prop
  | done (d : Decoder) : Heard clkFreq T d [] [] d
  | clock {d d' : Decoder} {level : Bool} {levels : List Bool} {events : List Event} :
      (d.width.cellW = T ∨ d.width.cellW = T + 1) →
      Heard clkFreq T (d.step clkFreq false level) levels events d' →
      Heard clkFreq T d (level :: levels) ((d.event false).toList ++ events) d'

variable (clkFreq : Nat)

theorem Heard.trans {clkFreq : Nat} (h : Heard clkFreq T d levels events d')
    (h' : Heard clkFreq T d' levels' events' d'') :
    Heard clkFreq T d (levels ++ levels') (events ++ events') d'' := by
  induction h with
  | done d => exact h'
  | clock hrange _ ih =>
    rw [List.cons_append, List.append_assoc]
    exact .clock hrange (ih h')

/-- `m` clocks after an edge, which has been dealt with. -/
structure Quiet (T : Nat) (level : Bool) (m n : Nat) (d : Decoder) : Prop where
  aes3D : d.edges.aes3D = level
  edgeTimer : d.edges.edgeTimer = m
  iv : d.edges.iv = false
  settled : ¬d.control.framing.completes
  estimate : Estimate T n d.width

theorem Quiet.weaken (h : Quiet T level m n d) (hk : k ≤ n) : Quiet T level m k d :=
  { h with estimate := h.estimate.weaken hk }

theorem Quiet.event (h : Quiet T level m n d) (hm : m < 128) : d.event false = none := by
  have hlost : ¬(false = true ∨ d.edges.noSignal = true) := by
    simp [Edges.noSignal, h.edgeTimer, hm]
  have hidle : ¬d.edges.iv = true := by simp [h.iv]
  rw [Decoder.event, if_neg hlost, if_neg h.settled, if_neg hidle]

theorem Quiet.framing (h : Quiet T level m n d) (hm : m < 128) (aes3 : Bool) :
    (d.step clkFreq false aes3).control.framing = d.control.framing := by
  have hlost : ¬d.edges.noSignal = true := by simp [Edges.noSignal, h.edgeTimer, hm]
  have hidle : ¬d.edges.iv = true := by simp [h.iv]
  rw [decoder_framing, Framing.next, if_neg hlost, if_neg h.settled, if_neg hidle]

theorem Quiet.estimate_step (h : Quiet T level m (n + 1) d) (hn : n ≤ 4095) (hT : T ≤ 40)
    (aes3 : Bool) : Estimate T n (d.step clkFreq false aes3).width := by
  change Estimate T n (d.width.step clkFreq false d.edges)
  refine h.estimate.step hn hT (fun hiv => ?_)
  cases h.iv.symm.trans hiv

/-- A clock without an edge. -/
theorem Quiet.clock (h : Quiet T level m (n + 1) d) (hm : m < 127) (hn : n ≤ 4095) (hT : T ≤ 40) :
    Heard clkFreq T d [level] [] (d.step clkFreq false level) ∧
      Quiet T level (m + 1) n (d.step clkFreq false level) ∧
      (d.step clkFreq false level).control.framing = d.control.framing := by
  have hframing := h.framing clkFreq (by omega) level
  have hedges : d.edges.step false level =
      { d.edges with aes3D := level, edgeTimer := m + 1, iv := false } := by
    simp [Edges.step, h.aes3D, h.edgeTimer, show m < 128 by omega]
  refine ⟨?_, ⟨congrArg Edges.aes3D hedges, congrArg Edges.edgeTimer hedges,
    congrArg Edges.iv hedges, hframing ▸ h.settled, h.estimate_step clkFreq hn hT level⟩, hframing⟩
  have hone := Heard.clock h.estimate.range (.done (d.step clkFreq false level))
  rwa [h.event (by omega)] at hone

/-- Clocks without an edge. -/
theorem Quiet.hold (h : Quiet T level m (n + k) d) (hm : m + k ≤ 127) (hn : n + k ≤ 4096)
    (hT : T ≤ 40) : ∃ d', Heard clkFreq T d (List.replicate k level) [] d' ∧
      Quiet T level (m + k) n d' ∧ d'.control.framing = d.control.framing := by
  induction k generalizing d m with
  | zero => exact ⟨d, .done d, h, rfl⟩
  | succ k ih =>
    obtain ⟨hheard, hquiet, hframing⟩ :=
      h.clock clkFreq (n := n + k) (by omega) (by omega) hT
    obtain ⟨d', hheard', hquiet', hframing'⟩ := ih hquiet (by omega) (by omega)
    refine ⟨d', hheard.trans hheard', ?_, hframing'.trans hframing⟩
    rwa [Nat.add_right_comm, Nat.add_assoc] at hquiet'

-- ---------------------------------------------------------------------------
-- Edges
-- ---------------------------------------------------------------------------

/-- The framing once the clock after the last bit has passed. -/
def settle (f : Framing) : Framing :=
  if f.completes then { f with bitCnt := 0, state := .hunt } else f

def completed (f : Framing) : Option Event :=
  if f.completes then some (.subframe f.chB f.sr) else none

theorem settle_not_completes (f : Framing) : ¬(settle f).completes := by
  unfold settle
  split
  · rintro ⟨⟨⟩, -⟩
  · assumption

theorem Heard.one (hrange : d.width.cellW = T ∨ d.width.cellW = T + 1) (level : Bool) :
    Heard clkFreq T d [level] (d.event false).toList (d.step clkFreq false level) := by
  have h := Heard.clock hrange (.done (d.step clkFreq false level))
  rwa [List.append_nil] at h

/-- The clock after an edge. -/
structure Measured (T : Nat) (level : Bool) (c n : Nat) (d : Decoder) : Prop where
  edges : d.edges = ⟨level, 1, c * T, true⟩
  settled : ¬d.control.framing.completes
  estimate : Estimate T n d.width

/-- The clock after that. -/
structure Taken (T : Nat) (level : Bool) (c n : Nat) (d : Decoder) : Prop where
  edges : d.edges = ⟨level, 2, c * T, false⟩
  estimate : Estimate T n d.width

theorem Quiet.measure (h : Quiet T level (c * T) (n + 1) d) (hlow : 3 ≤ c * T)
    (hhigh : c * T < 128) (hT : T ≤ 40) (hn : n ≤ 4095) :
    Heard clkFreq T d [!level] [] (d.step clkFreq false (!level)) ∧
      Measured T (!level) c n (d.step clkFreq false (!level)) ∧
      (d.step clkFreq false (!level)).control.framing = d.control.framing := by
  have hframing := h.framing clkFreq hhigh (!level)
  have hheard := Heard.one clkFreq h.estimate.range (!level)
  rw [h.event hhigh] at hheard
  refine ⟨hheard, ⟨?_, hframing ▸ h.settled, h.estimate_step clkFreq hn hT _⟩, hframing⟩
  change d.edges.step false (!level) = _
  simp [Edges.step, h.aes3D, h.edgeTimer, hlow]

theorem Measured.take (h : Measured T level c n d) (hT : 4 ≤ T) (hT' : T ≤ 40) (hc : 1 ≤ c)
    (hc' : c ≤ 3) : Heard clkFreq T d [level] (d.control.framing.taken (span c)).toList
        (d.step clkFreq false level) ∧
      (d.step clkFreq false level).edges = ⟨level, 2, c * T, false⟩ ∧
      (d.step clkFreq false level).control.framing = d.control.framing.take (span c) := by
  have htype : d.itype = span c := by
    rw [Decoder.itype, h.edges]
    exact itype_span hT hT' h.estimate.range hc hc'
  have hsignal : ¬d.edges.noSignal = true := by simp [Edges.noSignal, h.edges]
  have hiv : d.edges.iv = true := by rw [h.edges]
  have hevent : d.event false = d.control.framing.taken (span c) := by
    rw [Decoder.event, if_neg (by simpa using hsignal), if_neg h.settled, if_pos hiv, htype]
  refine ⟨hevent ▸ Heard.one clkFreq h.estimate.range level, ?_, ?_⟩
  · change d.edges.step false level = _
    simp [h.edges, Edges.step]
  · rw [decoder_framing, htype, Framing.next, if_neg hsignal, if_neg h.settled, if_pos hiv]

theorem Taken.settle (h : Taken T level c (n + 1) d) (hT : T ≤ 40) (hn : n ≤ 4095) :
    Heard clkFreq T d [level] (completed d.control.framing).toList (d.step clkFreq false level) ∧
      Quiet T level 3 n (d.step clkFreq false level) ∧
      (d.step clkFreq false level).control.framing = settle d.control.framing := by
  have hsignal : ¬d.edges.noSignal = true := by simp [Edges.noSignal, h.edges]
  have hiv : ¬d.edges.iv = true := by simp [h.edges]
  have hevent : d.event false = completed d.control.framing := by
    rw [Decoder.event, if_neg (by simpa using hsignal), if_neg hiv]
    rfl
  have hframing : (d.step clkFreq false level).control.framing =
      Aes3Decode.settle d.control.framing := by
    rw [decoder_framing, Framing.next, if_neg hsignal, if_neg hiv, Aes3Decode.settle]
    simp [h.edges]
  have hedges : d.edges.step false level = ⟨level, 3, c * T, false⟩ := by
    simp [h.edges, Edges.step]
  have hestimate : Estimate T n (d.width.step clkFreq false d.edges) :=
    h.estimate.step hn hT (fun h => absurd h hiv)
  exact ⟨hevent ▸ Heard.one clkFreq h.estimate.range level, ⟨congrArg Edges.aes3D hedges,
    congrArg Edges.edgeTimer hedges, congrArg Edges.iv hedges,
    hframing ▸ settle_not_completes _, hestimate⟩, hframing⟩

/-- An edge, and the two clocks after it. -/
theorem Quiet.edge_with (h : Quiet T level (c * T) (n + 1) d) (hT : 4 ≤ T) (hT' : T ≤ 40)
    (hn : n ≤ 4095) (hc : 1 ≤ c) (hc' : c ≤ 3) (hk : k ≤ 4095)
    (htake : ∀ w e, Estimate T n w → e.iv = true → e.interval = c * T →
      Estimate T (k + 1) (w.step clkFreq false e)) :
    ∃ d', Heard clkFreq T d (List.replicate 3 (!level))
        ((d.control.framing.taken (span c)).toList ++
          (completed (d.control.framing.take (span c))).toList) d' ∧
      Quiet T (!level) 3 k d' ∧
      d'.control.framing = Aes3Decode.settle (d.control.framing.take (span c)) := by
  have hspan : 3 ≤ c * T ∧ c * T < 128 := by
    obtain rfl | rfl | rfl : c = 1 ∨ c = 2 ∨ c = 3 := by omega
    all_goals omega
  obtain ⟨hheard₁, hmeasured, hframing₁⟩ :=
    h.measure clkFreq hspan.1 hspan.2 hT' hn
  obtain ⟨hheard₂, hedges₂, hframing₂⟩ := hmeasured.take clkFreq hT hT' hc hc'
  have htaken : Taken T (!level) c (k + 1)
      ((d.step clkFreq false (!level)).step clkFreq false (!level)) :=
    ⟨hedges₂, htake _ _ hmeasured.estimate (by rw [hmeasured.edges]) (by rw [hmeasured.edges])⟩
  obtain ⟨hheard₃, hquiet, hframing₃⟩ := htaken.settle clkFreq hT' hk
  rw [hframing₁] at hframing₂ hheard₂
  rw [hframing₂] at hframing₃ hheard₃
  exact ⟨_, hheard₁.trans (hheard₂.trans hheard₃), hquiet, hframing₃⟩

-- ---------------------------------------------------------------------------
-- Intervals
-- ---------------------------------------------------------------------------

/-- What the framing makes of intervals, and what is heard. -/
def parse (f : Framing) : List IntervalType → Framing × List Event
  | [] => (f, [])
  | t :: rest =>
    ((parse (settle (f.take t)) rest).1,
      (f.taken t).toList ++ (completed (f.take t)).toList ++ (parse (settle (f.take t)) rest).2)

theorem parse_append (f : Framing) (first second : List IntervalType) :
    parse f (first ++ second) = ((parse (parse f first).1 second).1,
      (parse f first).2 ++ (parse (parse f first).1 second).2) := by
  induction first generalizing f with
  | nil => rfl
  | cons t rest ih => simp [parse, ih]

/-- Levels that amount to these intervals. -/
structure Decodes (clkFreq T : Nat) (d : Decoder) (levels : List Bool)
    (intervals : List IntervalType) (d' : Decoder) : Prop where
  heard : Heard clkFreq T d levels (parse d.control.framing intervals).2 d'
  framing : d'.control.framing = (parse d.control.framing intervals).1

variable {intervals intervals' : List IntervalType} {level' : Bool}

theorem Decodes.trans {clkFreq : Nat} (h : Decodes clkFreq T d levels intervals d')
    (h' : Decodes clkFreq T d' levels' intervals' d'') :
    Decodes clkFreq T d (levels ++ levels') (intervals ++ intervals') d'' := by
  obtain ⟨hheard', hframing'⟩ := h'
  rw [h.framing] at hheard' hframing'
  refine ⟨?_, ?_⟩
  · rw [parse_append]
    exact h.heard.trans hheard'
  · rw [parse_append]
    exact hframing'

/-- An edge costs the estimate no more than its clocks. -/
theorem Quiet.edge (h : Quiet T level (c * T) (n + 3) d) (hT : 4 ≤ T) (hT' : T ≤ 40)
    (hn : n + 3 ≤ 4096) (hc : 1 ≤ c) (hc' : c ≤ 3) (hl : level' = !level) :
    ∃ d', Decodes clkFreq T d (List.replicate 3 level') [span c] d' ∧ Quiet T level' 3 n d' := by
  subst hl
  obtain ⟨d', hheard, hquiet, hframing⟩ :=
    h.edge_with clkFreq (n := n + 2) hT hT' (by omega) hc hc' (by omega)
      (fun w e hw _ he => hw.step (by omega) hT' (fun _ => he ▸ Nat.le_mul_of_pos_left T hc))
  exact ⟨d', ⟨by simpa [parse] using hheard, hframing⟩, hquiet⟩

/-- After a short interval the decay may strike once more. -/
theorem Quiet.edge_short (h : Quiet T level (1 * T) 2 d) (hT : 4 ≤ T) (hT' : T ≤ 40)
    (hl : level' = !level) :
    ∃ d', Decodes clkFreq T d (List.replicate 3 level') [.short] d' ∧
      Quiet T level' 3 4094 d' := by
  subst hl
  obtain ⟨d', hheard, hquiet, hframing⟩ :=
    h.edge_with clkFreq (n := 1) hT hT' (by decide) (by decide) (by decide)
      (by decide) (fun w e hw hiv he => hw.short (by omega) hiv (by omega))
  exact ⟨d', ⟨by simpa [parse, span] using hheard, hframing⟩, hquiet⟩

-- ---------------------------------------------------------------------------
-- Cells
-- ---------------------------------------------------------------------------

/-- Cells of constant width. -/
def wave (T : Nat) (levels : Nat → Bool) (first n : Nat) : List Bool :=
  (List.range' first n).flatMap fun k => List.replicate T (levels k)

theorem wave_succ (T : Nat) (levels : Nat → Bool) (first n : Nat) :
    wave T levels first (n + 1) =
      List.replicate T (levels first) ++ wave T levels (first + 1) n := by
  simp [wave, List.range'_succ]

theorem wave_add (T : Nat) (levels : Nat → Bool) (first n m : Nat) :
    wave T levels first (n + m) = wave T levels first n ++ wave T levels (first + n) m := by
  simp [wave, ← List.flatMap_append]

theorem replicate_cell (hT : 4 ≤ T) (level : Bool) :
    List.replicate T level = List.replicate 3 level ++ List.replicate (T - 3) level := by
  rw [← List.replicate_add]
  congr 1
  omega

/-- The rest of a cell after its first three clocks. -/
theorem Quiet.rest (h : Quiet T level 3 (n + (T - 3)) d) (hT : 4 ≤ T) (hT' : T ≤ 40)
    (hn : n + (T - 3) ≤ 4096) : ∃ d', Decodes clkFreq T d (List.replicate (T - 3) level) [] d' ∧
      Quiet T level (1 * T) n d' := by
  obtain ⟨d', hheard, hquiet, hframing⟩ := h.hold clkFreq (by omega) hn hT'
  refine ⟨d', ⟨hheard, hframing⟩, ?_⟩
  rwa [show 3 + (T - 3) = 1 * T by omega] at hquiet

theorem Quiet.cell_hold (h : Quiet T level (c * T) (n + T) d) (hT' : T ≤ 40) (hc : c ≤ 2)
    (hn : n + T ≤ 4096) (hl : level' = level) :
    ∃ d', Decodes clkFreq T d (List.replicate T level') [] d' ∧
      Quiet T level' ((c + 1) * T) n d' := by
  subst hl
  have hspan : c * T + T ≤ 127 := by
    obtain rfl | rfl | rfl : c = 0 ∨ c = 1 ∨ c = 2 := by omega
    all_goals omega
  obtain ⟨d', hheard, hquiet, hframing⟩ := h.hold clkFreq hspan hn hT'
  refine ⟨d', ⟨hheard, hframing⟩, ?_⟩
  rwa [← Nat.succ_mul] at hquiet

theorem Quiet.cell_edge (h : Quiet T level (c * T) (n + T) d) (hT : 4 ≤ T) (hT' : T ≤ 40)
    (hc : 1 ≤ c) (hc' : c ≤ 3) (hn : n + T ≤ 4096) (hl : level' = !level) :
    ∃ d', Decodes clkFreq T d (List.replicate T level') [span c] d' ∧
      Quiet T level' (1 * T) n d' := by
  have h' : Quiet T level (c * T) (n + (T - 3) + 3) d := h.weaken (by omega)
  obtain ⟨d', hdecodes, hquiet⟩ := h'.edge clkFreq hT hT' (by omega) hc hc' hl
  obtain ⟨d'', hdecodes', hquiet'⟩ := hquiet.rest clkFreq hT hT' (by omega)
  exact ⟨d'', replicate_cell hT level' ▸ hdecodes.trans hdecodes', hquiet'⟩

theorem Quiet.cell_short (h : Quiet T level (1 * T) 2 d) (hT : 4 ≤ T) (hT' : T ≤ 40)
    (hl : level' = !level) :
    ∃ d', Decodes clkFreq T d (List.replicate T level') [.short] d' ∧
      Quiet T level' (1 * T) (4097 - T) d' := by
  obtain ⟨d', hdecodes, hquiet⟩ := h.edge_short clkFreq hT hT' hl
  have hquiet' : Quiet T level' 3 (4097 - T + (T - 3)) d' := hquiet.weaken (by omega)
  obtain ⟨d'', hdecodes', hquiet''⟩ := hquiet'.rest clkFreq hT hT' (by omega)
  exact ⟨d'', replicate_cell hT level' ▸ hdecodes.trans hdecodes', hquiet''⟩

-- ---------------------------------------------------------------------------
-- Subframes
-- ---------------------------------------------------------------------------

variable {p : Preamble} {start : Bool} {bits : Nat → Bool} {f : Framing} {i : Nat} {chB : Bool}

/-- The cell at which the first short interval of a preamble ends. -/
def firstShort : Preamble → Nat
  | .z => 4
  | .x => 7
  | .y => 6

/-- The intervals of a preamble after its first. -/
def preambleIntervals : Preamble → List IntervalType
  | .z => [.short, .short, .vlong]
  | .x => [.vlong, .short, .short]
  | .y => [.long, .short, .long]

def bitIntervals (bit : Bool) : List IntervalType := if bit then [.short, .short] else [.long]

def dataIntervals (bits : Nat → Bool) (first n : Nat) : List IntervalType :=
  (List.range' first n).flatMap fun i => bitIntervals (bits i)

/-- Cells up to the next edge, which is `c` cells after the last. -/
theorem Quiet.interval (line : Nat → Bool) (first c : Nat)
    (h : Quiet T level (1 * T) (n + c * T) d) (hT : 4 ≤ T) (hT' : T ≤ 40)
    (hn : n + c * T ≤ 4096) (hc : 1 ≤ c) (hc' : c ≤ 3) (hfirst : 2 ≤ c → line first = level)
    (hsecond : 3 ≤ c → line (first + 1) = level) (hedge : line (first + (c - 1)) = !level) :
    ∃ d', Decodes clkFreq T d (wave T line first c) [span c] d' ∧
      Quiet T (!level) (1 * T) n d' := by
  obtain rfl | rfl | rfl : c = 1 ∨ c = 2 ∨ c = 3 := by omega
  · obtain ⟨d', hdecodes, hquiet⟩ := Quiet.cell_edge clkFreq (n := n) (c := 1)
      (h.weaken (by omega)) hT hT' hc hc' (by omega) hedge
    refine ⟨d', ?_, hedge ▸ hquiet⟩
    simpa [wave] using hdecodes
  · obtain ⟨d₁, h₁, q₁⟩ := Quiet.cell_hold clkFreq (n := n + T) (c := 1)
      (h.weaken (by omega)) hT' (by decide) (by omega) (hfirst (by decide))
    rw [hfirst (by decide)] at q₁
    obtain ⟨d', hdecodes, hquiet⟩ := Quiet.cell_edge clkFreq (c := 2)
      q₁ hT hT' hc hc' (by omega) hedge
    refine ⟨d', ?_, hedge ▸ hquiet⟩
    simpa [wave, List.range'_succ] using h₁.trans hdecodes
  · obtain ⟨d₁, h₁, q₁⟩ := Quiet.cell_hold clkFreq (n := n + 2 * T) (c := 1)
      (h.weaken (by omega)) hT' (by decide) (by omega) (hfirst (by decide))
    rw [hfirst (by decide)] at q₁
    obtain ⟨d₂, h₂, q₂⟩ := Quiet.cell_hold clkFreq (n := n + T) (c := 2)
      (q₁.weaken (by omega)) hT' (by decide) (by omega) (hsecond (by decide))
    rw [hsecond (by decide)] at q₂
    obtain ⟨d', hdecodes, hquiet⟩ := Quiet.cell_edge clkFreq (c := 3)
      q₂ hT hT' hc hc' (by omega) hedge
    refine ⟨d', ?_, hedge ▸ hquiet⟩
    simpa [wave, List.range'_succ] using h₁.trans (h₂.trans hdecodes)

/-- A preamble, from its second cell to the first cell of the data. -/
theorem Quiet.preamble (p : Preamble) (start : Bool) (bits : Nat → Bool)
    (h : Quiet T (!start) (1 * T) ((firstShort p - 1) * T + 2) d) (hT : 4 ≤ T) (hT' : T ≤ 40) :
    ∃ d', Decodes clkFreq T d (wave T (cell p start bits) 1 8)
        (.vlong :: preambleIntervals p) d' ∧ Quiet T (!start) (1 * T) (4095 - 6 * T) d' := by
  have hstart : (!!start) = start := Bool.not_not start
  cases p with
  | z =>
    obtain ⟨d₁, h₁, q₁⟩ := Quiet.interval clkFreq (cell .z start bits) 1 3 (n := 2)
      (h.weaken (by simp only [firstShort]; omega)) hT hT' (by omega) (by decide) (by decide)
      (fun _ => by cases start <;> rfl) (fun _ => by cases start <;> rfl) (by cases start <;> rfl)
    rw [hstart] at q₁
    obtain ⟨d₂, h₂, q₂⟩ := q₁.cell_short clkFreq hT hT'
      (show cell .z start bits 4 = !start by cases start <;> rfl)
    rw [show cell .z start bits 4 = !start by cases start <;> rfl] at q₂
    obtain ⟨d₃, h₃, q₃⟩ := Quiet.interval clkFreq (cell .z start bits) 5 1 (n := 4096 - 3 * T)
      (q₂.weaken (by omega)) hT hT' (by omega) (by decide) (by decide)
      (fun h => absurd h (by decide)) (fun h => absurd h (by decide)) (by cases start <;> rfl)
    rw [hstart] at q₃
    obtain ⟨d₄, h₄, q₄⟩ := Quiet.interval clkFreq (cell .z start bits) 6 3 (n := 4095 - 6 * T)
      (q₃.weaken (by omega)) hT hT' (by omega) (by decide) (by decide)
      (fun _ => by cases start <;> rfl) (fun _ => by cases start <;> rfl) (by cases start <;> rfl)
    refine ⟨d₄, ?_, q₄⟩
    simpa [wave, List.range'_succ, span, preambleIntervals] using
      h₁.trans (h₂.trans (h₃.trans h₄))
  | x =>
    obtain ⟨d₁, h₁, q₁⟩ := Quiet.interval clkFreq (cell .x start bits) 1 3 (n := 3 * T + 2)
      (h.weaken (by simp only [firstShort]; omega)) hT hT' (by omega) (by decide) (by decide)
      (fun _ => by cases start <;> rfl) (fun _ => by cases start <;> rfl) (by cases start <;> rfl)
    rw [hstart] at q₁
    obtain ⟨d₂, h₂, q₂⟩ := Quiet.interval clkFreq (cell .x start bits) 4 3 (n := 2)
      (q₁.weaken (by omega)) hT hT' (by omega) (by decide) (by decide)
      (fun _ => by cases start <;> rfl) (fun _ => by cases start <;> rfl) (by cases start <;> rfl)
    obtain ⟨d₃, h₃, q₃⟩ := q₂.cell_short clkFreq hT hT'
      (show cell .x start bits 7 = !!start by cases start <;> rfl)
    rw [show cell .x start bits 7 = start by cases start <;> rfl] at q₃
    obtain ⟨d₄, h₄, q₄⟩ := Quiet.interval clkFreq (cell .x start bits) 8 1 (n := 4095 - 6 * T)
      (q₃.weaken (by omega)) hT hT' (by omega) (by decide) (by decide)
      (fun h => absurd h (by decide)) (fun h => absurd h (by decide)) (by cases start <;> rfl)
    refine ⟨d₄, ?_, q₄⟩
    simpa [wave, List.range'_succ, span, preambleIntervals] using
      h₁.trans (h₂.trans (h₃.trans h₄))
  | y =>
    obtain ⟨d₁, h₁, q₁⟩ := Quiet.interval clkFreq (cell .y start bits) 1 3 (n := 2 * T + 2)
      (h.weaken (by simp only [firstShort]; omega)) hT hT' (by omega) (by decide) (by decide)
      (fun _ => by cases start <;> rfl) (fun _ => by cases start <;> rfl) (by cases start <;> rfl)
    rw [hstart] at q₁
    obtain ⟨d₂, h₂, q₂⟩ := Quiet.interval clkFreq (cell .y start bits) 4 2 (n := 2)
      (q₁.weaken (by omega)) hT hT' (by omega) (by decide) (by decide)
      (fun _ => by cases start <;> rfl) (fun h => absurd h (by decide)) (by cases start <;> rfl)
    obtain ⟨d₃, h₃, q₃⟩ := q₂.cell_short clkFreq hT hT'
      (show cell .y start bits 6 = !!start by cases start <;> rfl)
    rw [show cell .y start bits 6 = start by cases start <;> rfl] at q₃
    obtain ⟨d₄, h₄, q₄⟩ := Quiet.interval clkFreq (cell .y start bits) 7 2 (n := 4095 - 6 * T)
      (q₃.weaken (by omega)) hT hT' (by omega) (by decide) (by decide)
      (fun _ => by cases start <;> rfl) (fun h => absurd h (by decide)) (by cases start <;> rfl)
    refine ⟨d₄, ?_, q₄⟩
    simpa [wave, List.range'_succ, span, preambleIntervals] using
      h₁.trans (h₂.trans (h₃.trans h₄))

/-- A bit, from its second cell to the first cell of the next. -/
theorem Quiet.bit (p : Preamble) (h : Quiet T (!levelAfter start bits i) (1 * T) (n + 2 * T) d)
    (hT : 4 ≤ T) (hT' : T ≤ 40) (hn : n + 2 * T ≤ 4096) :
    ∃ d', Decodes clkFreq T d (wave T (cell p start bits) (9 + 2 * i) 2)
        (bitIntervals (bits i)) d' ∧
      Quiet T (!levelAfter start bits (i + 1)) (1 * T) n d' := by
  have hsecond := cell_second p start bits i
  have hnext : cell p start bits (9 + 2 * i + 1) = !levelAfter start bits (i + 1) := by
    rw [← cell_first]
    congr 1
    omega
  cases hbit : bits i
  · have hlevel : levelAfter start bits (i + 1) = !levelAfter start bits i := by
      rw [levelAfter, hbit, Bool.xor_false]
    rw [hbit, Bool.xor_false] at hsecond
    obtain ⟨d', h', q'⟩ := h.interval clkFreq (cell p start bits) (9 + 2 * i) 2 hT hT' hn
      (by decide) (by decide) (fun _ => hsecond) (fun h => absurd h (by decide))
      (by rw [hnext, hlevel])
    rw [hlevel]
    exact ⟨d', h', q'⟩
  · have hlevel : levelAfter start bits (i + 1) = !!levelAfter start bits i := by
      rw [levelAfter, hbit, Bool.xor_true]
    rw [hbit, Bool.xor_true] at hsecond
    obtain ⟨d₁, h₁, q₁⟩ := Quiet.interval clkFreq (cell p start bits) (9 + 2 * i) 1 (n := n + T)
      (h.weaken (by omega)) hT hT' (by omega) (by decide) (by decide)
      (fun h => absurd h (by decide)) (fun h => absurd h (by decide)) hsecond
    obtain ⟨d₂, h₂, q₂⟩ := Quiet.interval clkFreq (cell p start bits) (9 + 2 * i + 1) 1 (n := n)
      (q₁.weaken (by omega)) hT hT' (by omega) (by decide) (by decide)
      (fun h => absurd h (by decide)) (fun h => absurd h (by decide)) (by rw [hnext, hlevel])
    rw [hlevel]
    refine ⟨d₂, ?_, q₂⟩
    simpa [wave, List.range'_succ, span, bitIntervals] using h₁.trans h₂

theorem Quiet.dataBits (p : Preamble) (start : Bool) (bits : Nat → Bool) (i m : Nat)
    (h : Quiet T (!levelAfter start bits i) (1 * T) (n + 2 * m * T) d) (hT : 4 ≤ T)
    (hT' : T ≤ 40) (hn : n + 2 * m * T ≤ 4096) :
    ∃ d', Decodes clkFreq T d (wave T (cell p start bits) (9 + 2 * i) (2 * m))
        (dataIntervals bits i m) d' ∧ Quiet T (!levelAfter start bits (i + m)) (1 * T) n d' := by
  induction m generalizing i d with
  | zero =>
    refine ⟨d, ⟨.done d, rfl⟩, ?_⟩
    rwa [Nat.mul_zero, Nat.zero_mul] at h
  | succ m ih =>
    have hcost : n + 2 * (m + 1) * T = n + 2 * m * T + 2 * T := by
      rw [Nat.mul_succ, Nat.add_mul, Nat.add_assoc]
    rw [hcost] at h hn
    obtain ⟨d₁, h₁, q₁⟩ := h.bit clkFreq p hT hT' hn
    obtain ⟨d₂, h₂, q₂⟩ := ih (i + 1) q₁ (by omega)
    refine ⟨d₂, ?_, by rwa [Nat.add_assoc, Nat.add_comm 1] at q₂⟩
    have hwave : wave T (cell p start bits) (9 + 2 * i) (2 * (m + 1)) =
        wave T (cell p start bits) (9 + 2 * i) 2 ++
          wave T (cell p start bits) (9 + 2 * (i + 1)) (2 * m) := by
      rw [Nat.mul_succ, Nat.add_comm (2 * m) 2, wave_add]
      congr 2
    have hdata : dataIntervals bits i (m + 1) =
        bitIntervals (bits i) ++ dataIntervals bits (i + 1) m := by
      simp [dataIntervals, List.range'_succ]
    rw [hwave, hdata]
    exact h₁.trans h₂

/-- The last bit ends with the first edge of the next preamble. -/
theorem Quiet.lastBit (h : Quiet T (!levelAfter start bits i) (1 * T) (n + T + 3) d) (hT : 4 ≤ T)
    (hT' : T ≤ 40) (hn : n + T + 3 ≤ 4096) :
    ∃ d', Decodes clkFreq T d
        (List.replicate T (levelAfter start bits (i + 1)) ++
          List.replicate 3 (!levelAfter start bits (i + 1))) (bitIntervals (bits i)) d' ∧
      Quiet T (!levelAfter start bits (i + 1)) 3 n d' := by
  cases hbit : bits i
  · have hlevel : levelAfter start bits (i + 1) = !levelAfter start bits i := by
      rw [levelAfter, hbit, Bool.xor_false]
    obtain ⟨d₁, h₁, q₁⟩ := Quiet.cell_hold clkFreq (n := n + 3) (c := 1) (h.weaken (by omega))
      hT' (by decide) (by omega) hlevel
    obtain ⟨d₂, h₂, q₂⟩ := q₁.edge clkFreq (c := 2) hT hT' (by omega) (by decide) (by decide) rfl
    exact ⟨d₂, h₁.trans h₂, q₂⟩
  · have hlevel : levelAfter start bits (i + 1) = !!levelAfter start bits i := by
      rw [levelAfter, hbit, Bool.xor_true]
    obtain ⟨d₁, h₁, q₁⟩ := Quiet.cell_edge clkFreq (n := n + 3) (c := 1) (h.weaken (by omega))
      hT hT' (by decide) (by decide) (by omega) hlevel
    obtain ⟨d₂, h₂, q₂⟩ := q₁.edge clkFreq (c := 1) hT hT' (by omega) (by decide) (by decide) rfl
    exact ⟨d₂, h₁.trans h₂, q₂⟩

/-- The levels of a subframe, from three clocks after its first edge to three
clocks after the first edge of the next. -/
def subframeLevels (T : Nat) (p : Preamble) (start : Bool) (bits : Nat → Bool) : List Bool :=
  List.replicate (T - 3) (cell p start bits 0) ++ wave T (cell p start bits) 1 63 ++
    List.replicate 3 (!levelAfter start bits 28)

def subframeIntervals (p : Preamble) (bits : Nat → Bool) : List IntervalType :=
  .vlong :: preambleIntervals p ++ dataIntervals bits 0 28

theorem cell_zero (p : Preamble) (start : Bool) (bits : Nat → Bool) :
    cell p start bits 0 = !start := by
  cases p <;> cases start <;> rfl

/-- No subframe is too long for the decay. -/
theorem Quiet.subframe (bits : Nat → Bool) (h : Quiet T (!start) 3 (firstShort p * T - 1) d)
    (hT : 4 ≤ T) (hT' : T ≤ 40) : ∃ d', Decodes clkFreq T d (subframeLevels T p start bits)
        (subframeIntervals p bits) d' ∧ Quiet T (!levelAfter start bits 28) 3 (7 * T) d' := by
  have hpos : firstShort p * T = (firstShort p - 1) * T + T := by
    cases p <;> simp only [firstShort] <;> omega
  have hfew : (firstShort p - 1) * T + T ≤ 4000 := by
    cases p <;> simp only [firstShort] <;> omega
  obtain ⟨d₁, h₁, q₁⟩ := Quiet.rest clkFreq (n := (firstShort p - 1) * T + 2)
    (h.weaken (by omega)) hT hT' (by omega)
  obtain ⟨d₂, h₂, q₂⟩ := q₁.preamble clkFreq p start bits hT hT'
  obtain ⟨d₃, h₃, q₃⟩ := Quiet.dataBits clkFreq p start bits 0 27 (n := 4095 - 60 * T)
    (q₂.weaken (by omega)) hT hT' (by omega)
  obtain ⟨d₄, h₄, q₄⟩ := Quiet.lastBit clkFreq (i := 27) (n := 7 * T) (q₃.weaken (by omega)) hT hT'
    (by omega)
  refine ⟨d₄, ?_, q₄⟩
  have hlevels : subframeLevels T p start bits =
      List.replicate (T - 3) (!start) ++ (wave T (cell p start bits) 1 8 ++
        (wave T (cell p start bits) (9 + 2 * 0) (2 * 27) ++
          (List.replicate T (levelAfter start bits 28) ++
            List.replicate 3 (!levelAfter start bits 28)))) := by
    have hlast : cell p start bits 63 = levelAfter start bits 28 := cell_second p start bits 27
    have hwave : wave T (cell p start bits) 1 63 = wave T (cell p start bits) 1 8 ++
        (wave T (cell p start bits) 9 54 ++ wave T (cell p start bits) 63 1) := by
      rw [← wave_add, ← wave_add]
    rw [subframeLevels, cell_zero, hwave, ← hlast]
    simp [wave]
  have hintervals : subframeIntervals p bits =
      [] ++ (.vlong :: preambleIntervals p ++
        (dataIntervals bits 0 27 ++ bitIntervals (bits 27))) := by
    simp [subframeIntervals, dataIntervals, List.range'_succ]
  rw [hlevels, hintervals]
  exact h₁.trans (h₂.trans (h₃.trans h₄))

-- ---------------------------------------------------------------------------
-- The framing of a subframe
-- ---------------------------------------------------------------------------

/-- The bits before the `i`-th have been decoded. -/
structure InBits (chB : Bool) (bits : Nat → Bool) (i : Nat) (f : Framing) : Prop where
  state : f.state = .data
  phase : f.phase = false
  bitCnt : f.bitCnt = i
  channel : f.chB = chB
  sr : ∀ j < i, f.sr.getLsbD (28 - i + j) = bits j

def push (b : Bool) (f : Framing) : Framing :=
  { f with phase := false, sr := shiftIn b f.sr, bitCnt := (f.bitCnt + 1) % 32 }

theorem shiftIn_getLsbD (b : Bool) (sr : BitVec 28) (hi : i < 28) :
    (shiftIn b sr).getLsbD i = if i = 27 then b else sr.getLsbD (i + 1) := by
  rw [shiftIn, BitVec.getLsbD_cons]
  split
  · rfl
  · rw [BitVec.getLsbD_extractLsb', decide_eq_true (by omega), Bool.true_and, Nat.add_comm]

theorem parse_open {t : IntervalType} (rest : List IntervalType)
    (hopen : ¬(f.take t).completes) : parse f (t :: rest) =
      ((parse (f.take t) rest).1, (f.taken t).toList ++ (parse (f.take t) rest).2) := by
  rw [parse, settle, if_neg hopen, completed, if_neg hopen]
  simp

theorem parse_preamble (hhunt : f.state = .hunt) (p : Preamble) (bits : Nat → Bool) :
    (parse f (.vlong :: preambleIntervals p)).2 = [.preamble p] ∧
      InBits (decide (p = .y)) bits 0 (parse f (.vlong :: preambleIntervals p)).1 := by
  have hnone (f : Framing) : ∀ j < 0, f.sr.getLsbD (28 - 0 + j) = bits j :=
    fun j hj => absurd hj (Nat.not_lt_zero j)
  obtain ⟨state, syncCnt, phase, bitCnt, sr, preZ, preX, preY, chB⟩ := f
  cases hhunt
  cases p <;>
    rw [preambleIntervals, parse_open _ (by rintro ⟨⟨⟩, -⟩), parse_open _ (by rintro ⟨⟨⟩, -⟩),
      parse_open _ (by rintro ⟨⟨⟩, -⟩), parse_open _ (by rintro ⟨-, ⟨⟩⟩)] <;>
    exact ⟨rfl, rfl, rfl, rfl, rfl, hnone _⟩

theorem parse_bitIntervals (h : InBits chB bits i f) (hi : i < 28) (b : Bool) :
    parse f (bitIntervals b) = (settle (push b f), (completed (push b f)).toList) := by
  have hne : ¬f.bitCnt = 28 := by
    have := h.bitCnt
    omega
  cases b
  · have htake : f.take .long = push false f := by
      simp [Framing.take, h.state, h.phase, push]
    have htaken : f.taken .long = none := by simp [Framing.taken, h.state, h.phase]
    simp [parse, bitIntervals, htake, htaken]
  · have hmid : f.take .short = { f with phase := true } := by
      simp [Framing.take, h.state, h.phase]
    have hopen : ¬({ f with phase := true } : Framing).completes := fun hdone => hne hdone.2
    have htaken : f.taken .short = none := by simp [Framing.taken, h.state]
    have htake : ({ f with phase := true } : Framing).take .short = push true f := by
      simp [Framing.take, h.state, push]
    have htaken' : ({ f with phase := true } : Framing).taken .short = none := by
      simp [Framing.taken, h.state]
    rw [bitIntervals, if_pos rfl, parse_open _ (hmid ▸ hopen), hmid, htaken, parse, htake, htaken']
    simp [parse]

theorem InBits.push (h : InBits chB bits i f) (hi : i < 28) :
    InBits chB bits (i + 1) (Aes3Decode.push (bits i) f) := by
  refine ⟨h.state, rfl, ?_, h.channel, fun j hj => ?_⟩
  · rw [Aes3Decode.push, h.bitCnt]
    exact Nat.mod_eq_of_lt (by omega)
  · rw [Aes3Decode.push]
    dsimp only
    rw [shiftIn_getLsbD _ _ (by omega)]
    rcases Nat.lt_or_ge j i with hold | hnew
    · rw [if_neg (by omega), ← h.sr j hold]
      congr 1
      omega
    · rw [if_pos (by omega), show j = i by omega]

theorem parse_bit (h : InBits chB bits i f) (hi : i < 27) :
    (parse f (bitIntervals (bits i))).2 = [] ∧
      InBits chB bits (i + 1) (parse f (bitIntervals (bits i))).1 := by
  have hpush := h.push (by omega)
  have hopen : ¬(push (bits i) f).completes := fun hdone => by
    have := hpush.bitCnt.symm.trans hdone.2
    omega
  rw [parse_bitIntervals h (by omega), settle, if_neg hopen, completed, if_neg hopen]
  exact ⟨rfl, hpush⟩

theorem parse_bits (h : InBits chB bits i f) (m : Nat) (hi : i + m ≤ 27) :
    (parse f (dataIntervals bits i m)).2 = [] ∧
      InBits chB bits (i + m) (parse f (dataIntervals bits i m)).1 := by
  induction m generalizing i f with
  | zero => exact ⟨rfl, h⟩
  | succ m ih =>
    obtain ⟨hnone, hnext⟩ := parse_bit h (by omega)
    obtain ⟨hnone', hrest⟩ := ih hnext (by omega)
    have hdata : dataIntervals bits i (m + 1) =
        bitIntervals (bits i) ++ dataIntervals bits (i + 1) m := by
      simp [dataIntervals, List.range'_succ]
    rw [hdata, parse_append]
    refine ⟨by rw [hnone, hnone']; rfl, ?_⟩
    rwa [Nat.add_assoc, Nat.add_comm 1] at hrest

theorem parse_lastBit (h : InBits chB bits 27 f) :
    ∃ sr, (parse f (bitIntervals (bits 27))).2 = [.subframe chB sr] ∧
      (∀ j < 28, sr.getLsbD j = bits j) ∧
      (parse f (bitIntervals (bits 27))).1.state = .hunt := by
  have hpush := h.push (by decide)
  have hdone : (push (bits 27) f).completes := ⟨hpush.state, hpush.bitCnt⟩
  rw [parse_bitIntervals h (by decide), settle, if_pos hdone, completed, if_pos hdone,
    hpush.channel]
  refine ⟨_, rfl, fun j hj => ?_, rfl⟩
  simpa using hpush.sr j hj

/-- A subframe is heard as its preamble and its 28 bits, from hunting to
hunting. -/
theorem parse_subframe (hhunt : f.state = .hunt) (p : Preamble) (bits : Nat → Bool) :
    ∃ sr, (parse f (subframeIntervals p bits)).2 =
        [.preamble p, .subframe (decide (p = .y)) sr] ∧
      (∀ j < 28, sr.getLsbD j = bits j) ∧
      (parse f (subframeIntervals p bits)).1.state = .hunt := by
  obtain ⟨hpreamble, hbits⟩ := parse_preamble hhunt p bits
  obtain ⟨hnone, hlast⟩ := parse_bits hbits 27 (by decide)
  obtain ⟨sr, hsub, hsr, hstate⟩ := parse_lastBit hlast
  have hintervals : subframeIntervals p bits =
      (.vlong :: preambleIntervals p) ++ (dataIntervals bits 0 27 ++ bitIntervals (bits 27)) := by
    simp [subframeIntervals, dataIntervals, List.range'_succ]
  refine ⟨sr, ?_, hsr, ?_⟩
  · rw [hintervals, parse_append, parse_append, hpreamble, hnone, hsub]
    rfl
  · rw [hintervals, parse_append, parse_append]
    exact hstate

/-- Hunting three clocks after the first edge of a preamble. -/
structure Ready (T : Nat) (start : Bool) (n : Nat) (d : Decoder) : Prop where
  quiet : Quiet T (!start) 3 n d
  hunt : d.control.framing.state = .hunt

theorem Ready.subframe (h : Ready T start (firstShort p * T - 1) d) (bits : Nat → Bool)
    (hT : 4 ≤ T) (hT' : T ≤ 40) :
    ∃ d' sr, Heard clkFreq T d (subframeLevels T p start bits)
        [.preamble p, .subframe (decide (p = .y)) sr] d' ∧
      (∀ j < 28, sr.getLsbD j = bits j) ∧ Ready T (levelAfter start bits 28) (7 * T) d' := by
  obtain ⟨d', hdecodes, hquiet⟩ := h.quiet.subframe clkFreq bits hT hT'
  obtain ⟨sr, hevents, hsr, hstate⟩ := parse_subframe h.hunt p bits
  refine ⟨d', sr, hevents ▸ hdecodes.heard, hsr, hquiet, ?_⟩
  rw [hdecodes.framing]
  exact hstate

-- ---------------------------------------------------------------------------
-- Behind the synchronizer
-- ---------------------------------------------------------------------------

/-- The decoder hears the line three clocks late. -/
theorem Heard.rx {clkFreq : Nat} (h : Heard clkFreq T d levels events d') (start : Rx)
    {in0 in1 in2 z0 z1 z2 : Bool} {line : List Bool}
    (hline : in2 :: in1 :: in0 :: line = levels ++ [z2, z1, z0]) (log : List Event) :
    (logged clkFreq start).runFrom (⟨⟨in0, in1, in2⟩, d⟩, log) (line.map (Sample.mk false)) =
      (⟨⟨z0, z1, z2⟩, d'⟩, log ++ events) ∧
    (logged clkFreq start).StepsFrom
      (fun w _ => w.1.decoder.width.cellW = T ∨ w.1.decoder.width.cellW = T + 1)
      (⟨⟨in0, in1, in2⟩, d⟩, log) (line.map (Sample.mk false)) := by
  induction h generalizing in0 in1 in2 line log with
  | done d =>
    simp only [List.nil_append, List.cons.injEq] at hline
    obtain ⟨rfl, rfl, rfl, rfl⟩ := hline
    exact ⟨by simp, trivial⟩
  | @clock d d' level levels events hrange _ ih =>
    rcases line with - | ⟨x, rest⟩
    · have hlength := congrArg List.length hline
      simp at hlength
    · simp only [List.cons_append, List.cons.injEq] at hline
      obtain ⟨rfl, hrest⟩ := hline
      obtain ⟨hrun, hsteps⟩ := ih hrest (log ++ (d.event false).toList)
      rw [List.append_assoc] at hrun
      exact ⟨hrun, hrange, hsteps⟩

end AvbAes3.Aes3Decode
