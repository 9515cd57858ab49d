import AvbAes3.TxFrameArbiter
import AvbAes3.Lib.Machine

/-!
# Frames through the arbiter

What TXFrameArbiter's output carries, over any run of cycles and for any
number of sources: whole frames one after the other, each from one source,
with every beat that a source has seen accepted. Source 0 waits for no more
than the frame in flight. And which frames `tx_latch` marks, of the firmware's
and the packetizer's: the firmware's, once each.
-/

namespace AvbAes3.Arbitration

variable {δ : Type}

section Frames

variable {n : Nat} [NeZero n]

/-- What the sources offer, and whether the output is taken. -/
structure Cycle (n : Nat) (δ : Type) where
  sources : Fin n → Beat δ
  ready : Bool

def arbiter : Machine (TxFrameArbiter n) (Cycle n δ) where
  init := .init
  step a c := a.step c.sources c.ready

/-- The beat the output passes on, with its source. -/
def passed (a : TxFrameArbiter n) (c : Cycle n δ) : List (Fin n × Beat δ) :=
  if a.fires c.sources c.ready then [(a.sel, c.sources a.sel)] else []

/-- The beats accepted at the output. -/
def output : TxFrameArbiter n → List (Cycle n δ) → List (Fin n × Beat δ)
  | _, [] => []
  | a, c :: rest => passed a c ++ output (arbiter.step a c) rest

/-- `s.ready` -/
def sourceReady (a : TxFrameArbiter n) (c : Cycle n δ) (i : Fin n) : Bool := a.grants i && c.ready

/-- The beats that source `i` has seen accepted. -/
def accepted (i : Fin n) : TxFrameArbiter n → List (Cycle n δ) → List (Beat δ)
  | _, [] => []
  | a, c :: rest =>
    (if (c.sources i).valid && sourceReady a c i then [c.sources i] else []) ++
      accepted i (arbiter.step a c) rest

-- ---------------------------------------------------------------------------
-- Whole frames
-- ---------------------------------------------------------------------------

/-- A frame of one source: its last beat is marked, and no other. -/
structure Frame (n : Nat) (δ : Type) where
  source : Fin n
  body : List (Beat δ)
  final : Beat δ
  body_open : ∀ b ∈ body, b.last = false
  final_last : final.last = true

def Frame.beats (f : Frame n δ) : List (Fin n × Beat δ) :=
  (f.body ++ [f.final]).map fun b => (f.source, b)

/-- Whole frames, and then what has passed of the one granted. -/
def Framed (a : TxFrameArbiter n) (beats : List (Fin n × Beat δ)) : Prop :=
  ∃ (frames : List (Frame n δ)) (part : List (Beat δ)),
    beats = frames.flatMap Frame.beats ++ part.map (fun b => (a.sel, b)) ∧
      (∀ b ∈ part, b.last = false) ∧ (a.busy = false → part = [])

theorem Framed.step {a : TxFrameArbiter n} {beats : List (Fin n × Beat δ)} (h : Framed a beats)
    (c : Cycle n δ) : Framed (arbiter.step a c) (beats ++ passed a c) := by
  obtain ⟨frames, part, hbeats, hopen, hidle⟩ := h
  show Framed (a.step c.sources c.ready) _
  rw [passed]
  cases hbusy : a.busy with
  | false =>
    have hpart := hidle hbusy
    have hfires : a.fires c.sources c.ready = false := by simp [TxFrameArbiter.fires, hbusy]
    rw [hfires, if_neg Bool.false_ne_true, List.append_nil]
    refine ⟨frames, [], ?_, fun b hb => absurd hb List.not_mem_nil, fun _ => rfl⟩
    rw [hbeats, hpart]
    rfl
  | true =>
    by_cases hlast : a.fires c.sources c.ready && (c.sources a.sel).last
    · obtain ⟨hfires, hfinal⟩ := Bool.and_eq_true_iff.mp hlast
      rw [TxFrameArbiter.step_last hbusy hlast, if_pos hfires]
      let frame : Frame n δ := ⟨a.sel, part, c.sources a.sel, hopen, hfinal⟩
      refine ⟨frames ++ [frame], [], ?_, fun b hb => absurd hb List.not_mem_nil, fun _ => rfl⟩
      simp [hbeats, frame, Frame.beats]
    · rw [TxFrameArbiter.step_busy hbusy hlast]
      by_cases hfires : a.fires c.sources c.ready
      · rw [if_pos hfires]
        refine ⟨frames, part ++ [c.sources a.sel], by simp [hbeats], ?_, by simp [hbusy]⟩
        rintro b hb
        rcases List.mem_append.mp hb with hb | hb
        · exact hopen b hb
        · rw [List.mem_singleton.mp hb]
          simpa [hfires] using hlast
      · rw [if_neg hfires, List.append_nil]
        exact ⟨frames, part, hbeats, hopen, hidle⟩

theorem framed_run {a : TxFrameArbiter n} {beats : List (Fin n × Beat δ)} (h : Framed a beats)
    (cycles : List (Cycle n δ)) : Framed (arbiter.runFrom a cycles) (beats ++ output a cycles) := by
  induction cycles generalizing a beats with
  | nil =>
    rw [output, List.append_nil]
    exact h
  | cons c rest ih =>
    rw [output, ← List.append_assoc]
    exact ih (h.step c)

-- ---------------------------------------------------------------------------
-- Every beat
-- ---------------------------------------------------------------------------

omit [NeZero n] in
theorem passed_from (a : TxFrameArbiter n) (c : Cycle n δ) (i : Fin n) :
    (passed a c).filterMap (fun x => if x.1 = i then some x.2 else none) =
      if (c.sources i).valid && sourceReady a c i then [c.sources i] else [] := by
  rw [passed, sourceReady, TxFrameArbiter.grants, TxFrameArbiter.fires]
  by_cases hi : a.sel = i
  · subst hi
    cases a.busy <;> cases (c.sources a.sel).valid <;> cases c.ready <;> simp
  · cases a.busy <;> cases (c.sources a.sel).valid <;> cases c.ready <;> simp [hi]

theorem output_from (a : TxFrameArbiter n) (cycles : List (Cycle n δ)) (i : Fin n) :
    (output a cycles).filterMap (fun x => if x.1 = i then some x.2 else none) =
      accepted i a cycles := by
  induction cycles generalizing a with
  | nil => rfl
  | cons c rest ih => rw [output, accepted, List.filterMap_append, passed_from, ih]

-- ---------------------------------------------------------------------------
-- Source 0
-- ---------------------------------------------------------------------------

/-- Source 0 offers a beat, and another source is granted or none. -/
def Waits (a : TxFrameArbiter n) (c : Cycle n δ) : Prop :=
  (c.sources 0).valid ∧ ¬a.grants 0

/-- When none is granted, source 0 is next. -/
theorem nextsel_zero {sources : Fin n → Beat δ} (h : (sources 0).valid) :
    TxFrameArbiter.nextsel sources = some 0 := by
  rw [TxFrameArbiter.nextsel, List.find?_eq_some_iff_append]
  refine ⟨h, [], ?_⟩
  obtain ⟨m, rfl⟩ := Nat.exists_eq_succ_of_ne_zero (NeZero.ne n)
  exact ⟨(List.finRange m).map Fin.succ, List.finRange_succ, fun _ hx => absurd hx List.not_mem_nil⟩

theorem idle_step {a : TxFrameArbiter n} {c : Cycle n δ} (hidle : a.busy = false)
    (h : (c.sources 0).valid) : arbiter.step a c = ⟨0, true⟩ := by
  show a.step c.sources c.ready = _
  rw [TxFrameArbiter.step, hidle, if_neg Bool.false_ne_true, nextsel_zero h]

/-- From an idle arbiter source 0 waits for one cycle. -/
theorem idle_waits {a : TxFrameArbiter n} {cycles : List (Cycle n δ)} (hidle : a.busy = false)
    (h : arbiter.StepsFrom Waits a cycles) : output a cycles = [] ∧ cycles.length ≤ 1 := by
  cases cycles with
  | nil => exact ⟨rfl, Nat.zero_le 1⟩
  | cons c rest =>
    obtain ⟨hwaits, hrest⟩ := h
    rw [idle_step hidle hwaits.1] at hrest
    cases rest with
    | nil =>
      refine ⟨?_, Nat.le_refl 1⟩
      simp [output, passed, TxFrameArbiter.fires, hidle]
    | cons c' rest => exact absurd (by simp [TxFrameArbiter.grants]) hrest.1.2

/-- While source 0 waits, what passes is of the frame granted already, and
ends with it. -/
theorem output_waits {a : TxFrameArbiter n} {cycles : List (Cycle n δ)}
    (h : arbiter.StepsFrom Waits a cycles) :
    (∀ x ∈ output a cycles, a.busy ∧ x.1 = a.sel) ∧
      (output a cycles).countP (fun x => x.2.last) ≤ 1 := by
  induction cycles generalizing a with
  | nil => exact ⟨fun x hx => absurd hx List.not_mem_nil, Nat.zero_le 1⟩
  | cons c rest ih =>
    cases hbusy : a.busy with
    | false =>
      rw [(idle_waits hbusy h).1]
      exact ⟨fun x hx => absurd hx List.not_mem_nil, Nat.zero_le 1⟩
    | true =>
      obtain ⟨hwaits, hrest⟩ := h
      by_cases hlast : a.fires c.sources c.ready && (c.sources a.sel).last
      · obtain ⟨hfires, hfinal⟩ := Bool.and_eq_true_iff.mp hlast
        have hstep : arbiter.step a c = { a with busy := false } :=
          TxFrameArbiter.step_last hbusy hlast
        rw [hstep] at hrest
        rw [output, hstep, (idle_waits rfl hrest).1, List.append_nil, passed, if_pos hfires]
        refine ⟨fun x hx => ?_, by simp [hfinal]⟩
        rw [List.mem_singleton.mp hx]
        exact ⟨rfl, rfl⟩
      · have hstep : arbiter.step a c = a := TxFrameArbiter.step_busy hbusy hlast
        rw [hstep] at hrest
        obtain ⟨hsource, hcount⟩ := ih hrest
        rw [output, hstep, passed]
        by_cases hfires : a.fires c.sources c.ready
        · have hopen : (c.sources a.sel).last = false := by simpa [hfires] using hlast
          rw [if_pos hfires]
          refine ⟨fun x hx => ?_, by simpa [hopen] using hcount⟩
          rcases List.mem_append.mp hx with hx | hx
          · rw [List.mem_singleton.mp hx]
            exact ⟨rfl, rfl⟩
          · exact ⟨rfl, (hsource x hx).2⟩
        · rw [if_neg hfires, List.nil_append]
          exact ⟨fun x hx => ⟨rfl, (hsource x hx).2⟩, hcount⟩

end Frames

/-- For any number of sources and any run: whole frames, every accepted beat
once and in order, ready for the granted source alone, and source 0 waits for
the frame in flight at most. -/
theorem arbiter_frames (n : Nat) (cycles : List (Cycle (n + 1) δ)) :
    Framed (arbiter.run cycles) (output .init cycles) ∧
      (∀ i, (output .init cycles).filterMap (fun x => if x.1 = i then some x.2 else none) =
        accepted i .init cycles) ∧
      arbiter.Steps (fun a c => ∀ i, sourceReady a c i → a.grants i) cycles ∧
      ∀ waiting : List (Cycle (n + 1) δ), arbiter.StepsFrom Waits (arbiter.run cycles) waiting →
        (∀ x ∈ output (arbiter.run cycles) waiting,
          (arbiter.run cycles).busy ∧ x.1 = (arbiter.run cycles).sel) ∧
        (output (arbiter.run cycles) waiting).countP (fun x => x.2.last) ≤ 1 ∧
        ((arbiter.run cycles).busy = false → waiting.length ≤ 1) := by
  refine ⟨?_, output_from _ cycles, ?_, ?_⟩
  · have hinit : Framed (.init : TxFrameArbiter (n + 1)) ([] : List (_ × Beat δ)) :=
      ⟨[], [], rfl, fun b hb => absurd hb List.not_mem_nil, fun _ => rfl⟩
    exact framed_run hinit cycles
  · refine Machine.stepsFrom_of_forall (fun a c i hready => ?_) _ cycles
    exact (Bool.and_eq_true_iff.mp hready).1
  · intro waiting hwaits
    obtain ⟨hsource, hcount⟩ := output_waits hwaits
    exact ⟨hsource, hcount, fun hidle => (idle_waits hidle hwaits).2⟩

-- ---------------------------------------------------------------------------
-- The transmit timestamp
-- ---------------------------------------------------------------------------

/-- What a source has to send: the beats of each frame, and how many of the
first one's have been accepted. -/
structure Feed (least : Nat) where
  frames : List { beats : Nat // least ≤ beats }
  sent : Nat

namespace Feed

variable {least : Nat}

/-- A beat of the first frame, in the cycles in which the source is ready to
offer one. -/
def beat (f : Feed least) (present : Bool) : Beat Unit :=
  match f.frames with
  | [] => ⟨false, false, ()⟩
  | k :: _ => ⟨present, f.sent + 1 == k.val, ()⟩

def take (f : Feed least) : Feed least :=
  match f.frames with
  | [] => f
  | k :: rest => if f.sent + 1 == k.val then ⟨rest, 0⟩ else ⟨k :: rest, f.sent + 1⟩

/-- The frames that have been begun. -/
def begun (f : Feed least) (all : Nat) : Nat := all - f.frames.length + if f.sent = 0 then 0 else 1

end Feed

local instance twoSources : NeZero 2 := ⟨two_ne_zero⟩

/-- `[mac.interface.source, aaf_pkt.source]` with the arbiter and the
`tx_sof` registers. -/
structure Tx where
  arbiter : TxFrameArbiter 2
  txSof : TxSof
  firmware : Feed 2
  aaf : Feed 1

/-- Which source offers its beat, and whether the MAC core takes one. -/
structure TxCycle where
  firmware : Bool
  aaf : Bool
  ready : Bool

namespace Tx

def sources (s : Tx) (c : TxCycle) : Fin 2 → Beat Unit :=
  ![s.firmware.beat c.firmware, s.aaf.beat c.aaf]

def fires (s : Tx) (c : TxCycle) : Bool := s.arbiter.fires (s.sources c) c.ready

def accepts (s : Tx) (c : TxCycle) (i : Fin 2) : Bool := s.arbiter.accepts (s.sources c) c.ready i

/-- `tx_sof & firmware_granted` -/
def txLatch (s : Tx) : Bool := s.txSof.sof && s.arbiter.firmwareGranted

def step (s : Tx) (c : TxCycle) : Tx where
  arbiter := s.arbiter.step (s.sources c) c.ready
  txSof := s.txSof.step (s.fires c) (s.sources c s.arbiter.sel).last
  firmware := if s.accepts c 0 then s.firmware.take else s.firmware
  aaf := if s.accepts c 1 then s.aaf.take else s.aaf

/-- The first beat of a firmware frame is accepted. -/
def begins (s : Tx) (c : TxCycle) : Bool := s.accepts c 0 && s.firmware.sent == 0

end Tx

def tx (firmware : List { beats : Nat // 2 ≤ beats }) (aaf : List { beats : Nat // 1 ≤ beats }) :
    Machine Tx TxCycle where
  init := ⟨.init, ⟨false, false⟩, ⟨firmware, 0⟩, ⟨aaf, 0⟩⟩
  step := Tx.step

-- ---------------------------------------------------------------------------
-- What the latch marks
-- ---------------------------------------------------------------------------

/-- `tx_active` is set within a frame, and none but the source granted is
within one. -/
structure Follows (s : Tx) : Prop where
  active : s.txSof.active = (s.arbiter.busy && if s.arbiter.sel = 0 then s.firmware.sent != 0
    else s.aaf.sent != 0)
  firmware : s.arbiter.grants 0 = false → s.firmware.sent = 0
  aaf : s.arbiter.grants 1 = false → s.aaf.sent = 0

namespace Feed

variable {least : Nat} {f : Feed least}

theorem take_sent {present : Bool} (hvalid : (f.beat present).valid) :
    f.take.sent = if (f.beat present).last then 0 else f.sent + 1 := by
  unfold beat at hvalid ⊢
  unfold take
  split
  · rename_i hnone
    rw [hnone] at hvalid
    cases hvalid
  · rename_i k rest hframes
    dsimp only
    split <;> rfl

theorem take_last {present : Bool} (hvalid : (f.beat present).valid)
    (hlast : (f.beat present).last) : f.take.sent = 0 :=
  (take_sent hvalid).trans (if_pos hlast)

theorem take_open {present : Bool} (hvalid : (f.beat present).valid)
    (hlast : (f.beat present).last = false) : f.take.sent = f.sent + 1 :=
  (take_sent hvalid).trans (if_neg (ne_true_of_eq_false hlast))

/-- The first beat of a frame of two or more is not its last. -/
theorem first_open {f : Feed 2} (present : Bool) (hsent : f.sent = 0) :
    (f.beat present).last = false := by
  unfold beat
  split
  · rfl
  · rename_i k rest hframes
    have hk := k.property
    rw [hsent]
    exact beq_false_of_ne (by omega)

end Feed

theorem follows_init (firmware : List { beats : Nat // 2 ≤ beats })
    (aaf : List { beats : Nat // 1 ≤ beats }) : Follows (tx firmware aaf).init :=
  ⟨rfl, fun _ => rfl, fun _ => rfl⟩

variable {s : Tx}

theorem accepts_iff (c : TxCycle) (i : Fin 2) :
    s.accepts c i = (s.fires c && s.arbiter.sel == i) := by
  rw [Tx.accepts, Tx.fires, TxFrameArbiter.accepts, TxFrameArbiter.fires, TxFrameArbiter.grants]
  by_cases hi : s.arbiter.sel = i
  · rw [hi, beq_self_eq_true, Bool.and_true, Bool.and_true]
  · rw [beq_false_of_ne hi, Bool.and_false, Bool.and_false, Bool.false_and, Bool.false_and]

/-- No beat passes: the feeds stay, and a source may be granted. -/
theorem Follows.pause (h : Follows s) (c : TxCycle) (hfires : s.fires c = false) :
    Follows (s.step c) := by
  have hfirmware : (s.step c).firmware = s.firmware := by
    rw [Tx.step, accepts_iff, hfires]
    rfl
  have haaf : (s.step c).aaf = s.aaf := by
    rw [Tx.step, accepts_iff c 1, hfires]
    rfl
  have hsof : (s.step c).txSof = ⟨false, s.txSof.active⟩ := by
    rw [Tx.step, hfires]
    rfl
  have harbiter : (s.step c).arbiter = s.arbiter ∨
      s.arbiter.busy = false ∧ (s.step c).arbiter.busy = true := by
    have hstay : s.arbiter.fires (s.sources c) c.ready = false := hfires
    rw [Tx.step, TxFrameArbiter.step, hstay]
    cases hbusy : s.arbiter.busy with
    | true => exact .inl rfl
    | false =>
      rw [if_neg Bool.false_ne_true]
      split
      · exact .inr ⟨rfl, rfl⟩
      · exact .inl rfl
  rcases harbiter with hsame | ⟨hidle, hgranted⟩
  · constructor
    · rw [hsof, hsame, hfirmware, haaf]
      exact h.active
    · rw [hsame, hfirmware]
      exact h.firmware
    · rw [hsame, haaf]
      exact h.aaf
  · have hfirst := h.firmware (by rw [TxFrameArbiter.grants, hidle]; rfl)
    have hsecond := h.aaf (by rw [TxFrameArbiter.grants, hidle]; rfl)
    have hactive : s.txSof.active = false := by
      rw [h.active, hidle]
      rfl
    constructor
    · rw [hsof, hfirmware, haaf, hfirst, hsecond, hactive]
      simp
    · rw [hfirmware]
      exact fun _ => hfirst
    · rw [haaf]
      exact fun _ => hsecond

/-- A beat of the source granted passes. -/
theorem Follows.pass (h : Follows s) (c : TxCycle) (hfires : s.fires c) : Follows (s.step c) := by
  have hfires' : s.arbiter.fires (s.sources c) c.ready = true := hfires
  have hsplit := hfires
  rw [Tx.fires, TxFrameArbiter.fires, Bool.and_eq_true, Bool.and_eq_true] at hsplit
  obtain ⟨⟨hbusy, hvalid⟩, -⟩ := hsplit
  have hsof : (s.step c).txSof.active = !(s.sources c s.arbiter.sel).last := by
    rw [Tx.step, hfires]
    rfl
  have hfirmware : (s.step c).firmware =
      if s.arbiter.sel = 0 then s.firmware.take else s.firmware := by
    rw [Tx.step, accepts_iff, hfires]
    simp
  have haaf : (s.step c).aaf = if s.arbiter.sel = 1 then s.aaf.take else s.aaf := by
    rw [Tx.step, accepts_iff c 1, hfires]
    simp
  cases hlast : (s.sources c s.arbiter.sel).last with
  | true =>
    have harbiter : (s.step c).arbiter = { s.arbiter with busy := false } :=
      TxFrameArbiter.step_last hbusy (by rw [hfires', hlast]; rfl)
    have hfirst : (s.step c).firmware.sent = 0 := by
      rw [hfirmware]
      split
      · rename_i hsel
        rw [hsel] at hvalid hlast
        exact Feed.take_last hvalid hlast
      · rename_i hsel
        exact h.firmware (by simp [TxFrameArbiter.grants, hsel])
    have hsecond : (s.step c).aaf.sent = 0 := by
      rw [haaf]
      split
      · rename_i hsel
        rw [hsel] at hvalid hlast
        exact Feed.take_last hvalid hlast
      · rename_i hsel
        exact h.aaf (by simp [TxFrameArbiter.grants, hsel])
    refine ⟨?_, fun _ => hfirst, fun _ => hsecond⟩
    rw [hsof, hlast, harbiter]
    rfl
  | false =>
    have harbiter : (s.step c).arbiter = s.arbiter :=
      TxFrameArbiter.step_busy hbusy (by rw [hlast, Bool.and_false]; exact Bool.false_ne_true)
    constructor
    · rw [hsof, hlast, harbiter, hbusy, hfirmware, haaf]
      by_cases hsel : s.arbiter.sel = 0
      · rw [hsel] at hvalid hlast
        rw [if_pos hsel, if_pos hsel, Feed.take_open hvalid hlast]
        rfl
      · have hsel' : s.arbiter.sel = 1 := by omega
        rw [hsel'] at hvalid hlast
        rw [if_neg hsel, if_pos hsel', Feed.take_open hvalid hlast]
        rfl
    · intro hgrants
      rw [harbiter] at hgrants
      have hsel : s.arbiter.sel ≠ 0 := by
        rintro hsel
        simp [TxFrameArbiter.grants, hbusy, hsel] at hgrants
      rw [hfirmware, if_neg hsel]
      exact h.firmware hgrants
    · intro hgrants
      rw [harbiter] at hgrants
      have hsel : s.arbiter.sel ≠ 1 := by
        rintro hsel
        simp [TxFrameArbiter.grants, hbusy, hsel] at hgrants
      rw [haaf, if_neg hsel]
      exact h.aaf hgrants

theorem Follows.step (h : Follows s) (c : TxCycle) : Follows (s.step c) := by
  cases hfires : s.fires c with
  | false => exact h.pause c hfires
  | true => exact h.pass c hfires

/-- The cycle after the first beat of a firmware frame, and no other. -/
theorem txLatch_step (h : Follows s) (c : TxCycle) : (s.step c).txLatch = s.begins c := by
  have hlatch : (s.step c).txLatch =
      (((s.fires c) && !s.txSof.active) && (s.arbiter.step (s.sources c) c.ready).grants 0) := by
    rw [Tx.txLatch, Tx.step, TxSof.step]
    cases s.fires c <;> rfl
  rw [hlatch, Tx.begins, accepts_iff]
  cases hfires : s.fires c with
  | false => rfl
  | true =>
    have hfires' : s.arbiter.fires (s.sources c) c.ready = true := hfires
    have hbusy : s.arbiter.busy = true := by
      simp only [TxFrameArbiter.fires, Bool.and_eq_true] at hfires'
      exact hfires'.1.1
    rw [Bool.true_and, Bool.true_and, h.active, hbusy, Bool.true_and]
    by_cases hsel : s.arbiter.sel = 0
    · by_cases hsent : s.firmware.sent = 0
      · have hopen : (s.sources c s.arbiter.sel).last = false := by
          rw [hsel]
          exact Feed.first_open c.firmware hsent
        rw [TxFrameArbiter.step_busy hbusy (by rw [hopen, Bool.and_false]; exact Bool.false_ne_true)]
        simp [hsel, hsent, TxFrameArbiter.grants, hbusy]
      · have hsent' : (s.firmware.sent == 0) = false := beq_false_of_ne hsent
        simp [hsel, bne, hsent']
    · have hgrants : (s.arbiter.step (s.sources c) c.ready).grants 0 = false := by
        rw [TxFrameArbiter.step, if_pos hbusy]
        split <;> simp [TxFrameArbiter.grants, hsel]
      rw [hgrants]
      simp [hsel]

/-- The cycles after which `tx_latch` is high. -/
def latches : Tx → List TxCycle → Nat
  | _, [] => 0
  | s, c :: rest => (if (s.step c).txLatch then 1 else 0) + latches (s.step c) rest

theorem begun_step {all : Nat} (hall : s.firmware.frames.length ≤ all) (c : TxCycle) :
    (s.step c).firmware.frames.length ≤ all ∧
      (s.step c).firmware.begun all = s.firmware.begun all + if s.begins c then 1 else 0 := by
  rw [Tx.step, Tx.begins]
  dsimp only
  cases haccepts : s.accepts c 0 with
  | false => exact ⟨hall, rfl⟩
  | true =>
    have hvalid : (s.firmware.beat c.firmware).valid := by
      rw [Tx.accepts, TxFrameArbiter.accepts, Bool.and_eq_true, Bool.and_eq_true] at haccepts
      exact haccepts.1.2
    rw [if_pos rfl, Bool.true_and, Feed.begun, Feed.begun, Feed.take]
    unfold Feed.beat at hvalid
    split
    · rename_i hnone
      rw [hnone] at hvalid
      cases hvalid
    · rename_i k rest hframes
      have hk := k.property
      rw [hframes, List.length_cons] at hall
      rw [hframes, List.length_cons]
      by_cases hlast : s.firmware.sent + 1 = k.val
      · simp only [hlast, beq_self_eq_true, if_true]
        have hsent : s.firmware.sent ≠ 0 := by omega
        simp only [hsent, if_false, beq_false_of_ne hsent, Bool.false_eq_true]
        omega
      · simp only [beq_false_of_ne hlast, Bool.false_eq_true, if_false, List.length_cons,
          Nat.succ_ne_zero, beq_iff_eq]
        refine ⟨hall, ?_⟩
        split <;> rfl

theorem latches_eq (h : Follows s) {all : Nat} (hall : s.firmware.frames.length ≤ all)
    (firmware : List { beats : Nat // 2 ≤ beats }) (aaf : List { beats : Nat // 1 ≤ beats })
    (cycles : List TxCycle) :
    ((tx firmware aaf).runFrom s cycles).firmware.begun all =
      s.firmware.begun all + latches s cycles := by
  induction cycles generalizing s with
  | nil => rfl
  | cons c rest ih =>
    obtain ⟨hall', hbegun⟩ := begun_step hall c
    refine (ih (h.step c) hall').trans ?_
    rw [hbegun, latches, txLatch_step h c, Nat.add_assoc]

/-- For any frames of the two sources, any gaps and any back-pressure: the
latch is high in the cycle after a firmware frame's first accepted beat and
in no other, so once for every firmware frame begun. -/
theorem latch_firmware (firmware : List { beats : Nat // 2 ≤ beats })
    (aaf : List { beats : Nat // 1 ≤ beats }) (cycles : List TxCycle) :
    (tx firmware aaf).init.txLatch = false ∧
      (tx firmware aaf).Steps (fun s c => (s.step c).txLatch = s.begins c) cycles ∧
      latches (tx firmware aaf).init cycles =
        ((tx firmware aaf).run cycles).firmware.begun firmware.length := by
  have hinit := follows_init firmware aaf
  refine ⟨rfl, ?_, ?_⟩
  · have hsteps : (tx firmware aaf).Steps (fun _ _ => True) cycles :=
      Machine.stepsFrom_of_forall (fun _ _ => trivial) _ cycles
    exact hsteps.of_invariant Follows hinit (fun s c h _ => h.step c) fun s c h _ => txLatch_step h c
  · have hcount := latches_eq hinit (Nat.le_refl firmware.length) firmware aaf cycles
    rw [Machine.run, hcount]
    simp [tx, Feed.begun]

end AvbAes3.Arbitration
