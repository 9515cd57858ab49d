import AvbAes3.Lib.Machine
import AvbAes3.Lib.SyncFifo

/-!
# Left and right

The extractor writes the samples of a block into one FIFO for each channel,
channel 0 in one cycle and channel 1 in the next, and each FIFO drops what
it has no room for. The DAC loop pops one sample of each when neither is
empty. Nothing else keeps the channels together: when one FIFO drops its
sample of a block and the other does not, all that follows is one block
apart.

`paired_of_bothOrNeither`: the n-th samples popped of the two channels are of
one block in every run in which the FIFOs take both samples of a block or
neither.
-/

namespace AvbAes3.ChannelPairs

-- ---------------------------------------------------------------------------
-- The extractor and the loop
-- ---------------------------------------------------------------------------

inductive Channel
  | l
  | r
  deriving DecidableEq

def Channel.index : Channel → Nat
  | .l => 0
  | .r => 1

def wireChannels : Nat := 8
def samplesPerFrame : Nat := 6 * wireChannels
def fifoDepth : Nat := 256

/-- A sample, and the frame and block it is from. -/
structure Word where
  frame : Nat
  block : Nat
  sample : UInt32
  deriving DecidableEq

def Word.origin (w : Word) : Nat × Nat := (w.frame, w.block)

inductive ExState
  | idle
  | prime
  | warm
  | stream
  deriving DecidableEq

/-- The accesses of one tick of the DAC loop, in order. The data of a channel
is read before it is popped; nothing else pops. -/
inductive Access
  | selectL
  | readL
  | selectR
  | readR
  | popR
  | selectL'
  | popL
  deriving DecidableEq

/-- The FSM; `frame` counts the frames extracted. -/
structure Extraction where
  exState : ExState := .idle
  exSampleN : Nat := 0
  frame : Nat := 0

/-- The loop and `ch_select`; `lvlL` is the level read. -/
structure Loop where
  access : Access := .selectL
  chSelect : Channel := .l
  lvlL : Nat := 0

structure Extractor where
  ex : Extraction := {}
  loop : Loop := {}
  fifoL : List Word := []
  fifoR : List Word := []

/-- `eof_c` with a match, the sample in `ex_sample`, and whether the loop makes
its next access in the cycle. -/
structure Cycle where
  matched : Bool
  exSample : UInt32
  advance : Bool

def Extractor.fifo (s : Extractor) : Channel → List Word
  | .l => s.fifoL
  | .r => s.fifoR

/-- `ex_ch_now` picks the FIFO that is written, if the channel has one. -/
def written (x : Extraction) (c : Cycle) (ch : Channel) : Option Word :=
  if x.exState = .stream ∧ x.exSampleN % wireChannels = ch.index then
    some ⟨x.frame, x.exSampleN / wireChannels, c.exSample⟩
  else none

def pops (s : Extractor) (c : Cycle) (ch : Channel) : Bool :=
  c.advance && (s.loop.access == .popR || s.loop.access == .popL) && s.loop.chSelect == ch

def extract (x : Extraction) (c : Cycle) : Extraction :=
  match x.exState with
  | .idle => if c.matched then ⟨.prime, 0, x.frame + 1⟩ else x
  | .prime => { x with exState := .warm }
  | .warm => { x with exState := .stream }
  | .stream =>
    if x.exSampleN = samplesPerFrame - 1 then { x with exState := .idle }
    else { x with exSampleN := x.exSampleN + 1 }

def access (s : Extractor) : Loop :=
  let level := (s.fifo s.loop.chSelect).length
  match s.loop.access with
  | .selectL => { s.loop with chSelect := .l, access := .readL }
  | .readL => { s.loop with lvlL := level, access := .selectR }
  | .selectR => { s.loop with chSelect := .r, access := .readR }
  | .readR => { s.loop with access := if s.loop.lvlL > 0 ∧ level > 0 then .popR else .selectL }
  | .popR => { s.loop with access := .selectL' }
  | .selectL' => { s.loop with chSelect := .l, access := .popL }
  | .popL => { s.loop with access := .selectL }

def step (s : Extractor) (c : Cycle) : Extractor where
  ex := extract s.ex c
  loop := if c.advance then access s else s.loop
  fifoL := SyncFifo.next fifoDepth s.fifoL (written s.ex c .l) (pops s c .l)
  fifoR := SyncFifo.next fifoDepth s.fifoR (written s.ex c .r) (pops s c .r)

-- ---------------------------------------------------------------------------
-- What is popped
-- ---------------------------------------------------------------------------

/-- The samples popped of each channel, by where they are from, and whether
channel 0 of the block being written was taken. -/
structure Popped where
  l : List (Nat × Nat) := []
  r : List (Nat × Nat) := []
  tookL : Bool := false

def popped (s : Extractor) (c : Cycle) (ch : Channel) : List (Nat × Nat) :=
  (if pops s c ch then (s.fifo ch).head?.toList else []).map Word.origin

def note (p : Popped) (s : Extractor) (c : Cycle) : Popped where
  l := p.l ++ popped s c .l
  r := p.r ++ popped s c .r
  tookL := if (written s.ex c .l).isSome then decide (s.fifoL.length < fifoDepth) else p.tookL

def channels : Machine (Extractor × Popped) Cycle := Machine.withHistory ⟨{}, step⟩ {} note

/-- After the cycle, the n-th samples popped are of one block, and what was
popped was there. -/
def Paired (s : Extractor × Popped) (c : Cycle) : Prop :=
  (∀ n : Nat, ∀ a ∈ (note s.2 s.1 c).l[n]?, ∀ b ∈ (note s.2 s.1 c).r[n]?, a = b) ∧
    ∀ ch, pops s.1 c ch → s.1.fifo ch ≠ []

/-- The FIFO of channel 1 takes its sample of a block if and only if that of
channel 0 did. -/
def BothOrNeither (s : Extractor × Popped) (c : Cycle) : Prop :=
  (written s.1.ex c .r).isSome → (s.1.fifoR.length < fifoDepth ↔ s.2.tookL = true)

instance (s : Extractor × Popped) : DecidablePred (BothOrNeither s) := fun c => by
  unfold BothOrNeither; infer_instance

-- ---------------------------------------------------------------------------
-- What the FIFOs have taken
-- ---------------------------------------------------------------------------

/-- Channel 0 of a block has been written, channel 1 comes next. -/
def midBlock (x : Extraction) : Prop := x.exState = .stream ∧ x.exSampleN % wireChannels = 1

instance : DecidablePred midBlock := fun x => by unfold midBlock; infer_instance

def pending (s : Extractor × Popped) : List (Nat × Nat) :=
  if midBlock s.1.ex ∧ s.2.tookL then [(s.1.ex.frame, s.1.ex.exSampleN / wireChannels)] else []

/-- What channel 0 has taken, channel 1 has, or is about to. -/
structure SameTaken (s : Extractor × Popped) : Prop where
  same : s.2.l ++ s.1.fifoL.map Word.origin =
    s.2.r ++ s.1.fifoR.map Word.origin ++ pending s
  start : s.1.ex.exState = .prime ∨ s.1.ex.exState = .warm → s.1.ex.exSampleN = 0

def taken (s : Extractor) (c : Cycle) (ch : Channel) : List (Nat × Nat) :=
  (if (s.fifo ch).length < fifoDepth then (written s.ex c ch).toList else []).map Word.origin

theorem taken_conserves (s : Extractor) (c : Cycle) (ch : Channel) :
    popped s c ch ++
        (SyncFifo.next fifoDepth (s.fifo ch) (written s.ex c ch) (pops s c ch)).map Word.origin =
      (s.fifo ch).map Word.origin ++ taken s c ch := by
  rw [popped, taken, ← List.map_append, ← List.map_append, SyncFifo.next_conserves]

theorem taken_none {s : Extractor} {c : Cycle} {ch : Channel} (h : written s.ex c ch = none) :
    taken s c ch = [] := by
  rw [taken, h]
  split <;> rfl

/-- What a cycle adds to the channels keeps them the same, if it does so to
the ends of what they have taken. -/
theorem SameTaken.step_of_taken {s : Extractor × Popped} (h : SameTaken s) {c : Cycle}
    (htaken : pending s ++ taken s.1 c .l = taken s.1 c .r ++ pending (channels.step s c)) :
    (note s.2 s.1 c).l ++ (step s.1 c).fifoL.map Word.origin =
      (note s.2 s.1 c).r ++ (step s.1 c).fifoR.map Word.origin ++ pending (channels.step s c) := by
  have hl := taken_conserves s.1 c .l
  have hr := taken_conserves s.1 c .r
  calc (note s.2 s.1 c).l ++ (step s.1 c).fifoL.map Word.origin
      = s.2.l ++ (popped s.1 c .l ++ (step s.1 c).fifoL.map Word.origin) := List.append_assoc ..
    _ = s.2.l ++ s.1.fifoL.map Word.origin ++ taken s.1 c .l := by
      rw [List.append_assoc]
      exact congrArg (s.2.l ++ ·) hl
    _ = s.2.r ++ s.1.fifoR.map Word.origin ++ (pending s ++ taken s.1 c .l) := by
      rw [h.same, List.append_assoc _ (pending s)]
    _ = s.2.r ++ (s.1.fifoR.map Word.origin ++ taken s.1 c .r) ++ pending (channels.step s c) := by
      rw [htaken, ← List.append_assoc, List.append_assoc s.2.r]
    _ = s.2.r ++ (popped s.1 c .r ++ (step s.1 c).fifoR.map Word.origin) ++
        pending (channels.step s c) := by
      exact congrArg (fun words => s.2.r ++ words ++ pending (channels.step s c)) hr.symm
    _ = _ := by
      rw [← List.append_assoc s.2.r]
      rfl

theorem pending_none {s : Extractor × Popped} (h : ¬ midBlock s.1.ex) : pending s = [] :=
  if_neg fun hp => h hp.1

/-- Channel 0 has been written in the cycle before. -/
theorem midBlock_extract {x : Extraction}
    (hstart : x.exState = .prime ∨ x.exState = .warm → x.exSampleN = 0) (c : Cycle) :
    midBlock (extract x c) ↔ x.exState = .stream ∧ x.exSampleN % wireChannels = 0 := by
  unfold midBlock extract
  cases hstate : x.exState with
  | idle =>
    cases c.matched with
    | true => simp
    | false => simp [hstate]
  | prime => simp
  | warm => simp [hstart (.inr hstate), wireChannels]
  | stream =>
    by_cases hlast : x.exSampleN = samplesPerFrame - 1
    · rw [if_pos hlast, hlast]
      refine iff_of_false (fun h => ?_) fun h => absurd h.2 (by decide)
      have hidle : ExState.idle = ExState.stream := h.1
      cases hidle
    · rw [if_neg hlast]
      simp only [wireChannels, true_and]
      omega

theorem extract_stream {x : Extraction} (h : x.exState = .stream)
    (hblock : x.exSampleN % wireChannels = 0) (c : Cycle) :
    (extract x c).frame = x.frame ∧
      (extract x c).exSampleN / wireChannels = x.exSampleN / wireChannels := by
  rw [wireChannels] at *
  rw [extract, h]
  dsimp only
  split
  · exact ⟨rfl, rfl⟩
  · refine ⟨rfl, ?_⟩
    dsimp only
    omega

theorem written_isSome {x : Extraction} (ch : Channel) (hstate : x.exState = .stream)
    (hch : x.exSampleN % wireChannels = ch.index) (c : Cycle) : (written x c ch).isSome := by
  have hword : written x c ch = some ⟨x.frame, x.exSampleN / wireChannels, c.exSample⟩ :=
    if_pos ⟨hstate, hch⟩
  rw [hword]
  rfl

theorem taken_some {s : Extractor} (ch : Channel) (hstate : s.ex.exState = .stream)
    (hch : s.ex.exSampleN % wireChannels = ch.index) (c : Cycle) :
    taken s c ch = if (s.fifo ch).length < fifoDepth then
      [(s.ex.frame, s.ex.exSampleN / wireChannels)] else [] := by
  have hword : written s.ex c ch = some ⟨s.ex.frame, s.ex.exSampleN / wireChannels, c.exSample⟩ :=
    if_pos ⟨hstate, hch⟩
  rw [taken, hword]
  split <;> rfl

/-- The two writes of a block, and the cycles without one. -/
theorem taken_step {s : Extractor × Popped} (h : SameTaken s) {c : Cycle}
    (hboth : BothOrNeither s c) :
    pending s ++ taken s.1 c .l = taken s.1 c .r ++ pending (channels.step s c) := by
  have hmid := midBlock_extract h.start c
  by_cases hl : s.1.ex.exState = .stream ∧ s.1.ex.exSampleN % wireChannels = 0
  · -- channel 0
    have hnotMid : ¬ midBlock s.1.ex := fun hm => by
      have := hm.2
      omega
    have hnoR : written s.1.ex c .r = none := if_neg hnotMid
    have htook : (channels.step s c).2.tookL = decide (s.1.fifoL.length < fifoDepth) := by
      exact if_pos (written_isSome .l hl.1 hl.2 c)
    obtain ⟨hframe, hblock⟩ := extract_stream hl.1 hl.2 c
    rw [pending_none hnotMid, taken_none hnoR, taken_some .l hl.1 hl.2]
    by_cases hroom : (s.1.fifo .l).length < fifoDepth
    · have hpend : pending (channels.step s c) = [((extract s.1.ex c).frame,
          (extract s.1.ex c).exSampleN / wireChannels)] :=
        if_pos ⟨hmid.mpr hl, htook.trans (decide_eq_true hroom)⟩
      rw [if_pos hroom, hpend, hframe, hblock]
    · have hpend : pending (channels.step s c) = [] :=
        if_neg fun ht => hroom (of_decide_eq_true (htook.symm.trans ht.2))
      rw [if_neg hroom, hpend]
  have hnoL : written s.1.ex c .l = none := if_neg hl
  have hafter : pending (channels.step s c) = [] := pending_none fun hm => hl (hmid.mp hm)
  rw [taken_none hnoL, hafter, List.append_nil, List.append_nil]
  by_cases hr : midBlock s.1.ex
  · -- channel 1
    have hroom := hboth (written_isSome .r hr.1 hr.2 c)
    rw [taken_some .r hr.1 hr.2, pending]
    by_cases ht : s.2.tookL = true
    · rw [if_pos ⟨hr, ht⟩]
      exact (if_pos (hroom.mpr ht)).symm
    · rw [if_neg fun hp => ht hp.2]
      exact (if_neg fun hp => ht (hroom.mp hp)).symm
  · have hnoR : written s.1.ex c .r = none := if_neg hr
    rw [pending_none hr, taken_none hnoR]

theorem SameTaken.step {s : Extractor × Popped} (h : SameTaken s) {c : Cycle}
    (hboth : BothOrNeither s c) : SameTaken (channels.step s c) where
  same := h.step_of_taken (taken_step h hboth)
  start := by
    show (extract s.1.ex c).exState = _ ∨ (extract s.1.ex c).exState = _ →
      (extract s.1.ex c).exSampleN = 0
    have hstart := h.start
    unfold extract
    cases hstate : s.1.ex.exState with
    | idle =>
      cases c.matched with
      | true => exact fun _ => rfl
      | false => simp [hstate]
    | prime => exact fun _ => hstart (.inl hstate)
    | warm => simp
    | stream =>
      dsimp only
      split <;> simp

-- ---------------------------------------------------------------------------
-- The loop's accesses
-- ---------------------------------------------------------------------------

/-- What the loop has made sure of, where it is. -/
def Sure (s : Extractor) : Prop :=
  match s.loop.access with
  | .selectL => True
  | .readL => s.loop.chSelect = .l
  | .selectR => s.loop.lvlL > 0 → s.fifoL ≠ []
  | .readR => s.loop.chSelect = .r ∧ (s.loop.lvlL > 0 → s.fifoL ≠ [])
  | .popR => s.loop.chSelect = .r ∧ s.fifoL ≠ [] ∧ s.fifoR ≠ []
  | .selectL' => s.fifoL ≠ []
  | .popL => s.loop.chSelect = .l ∧ s.fifoL ≠ []

theorem Sure.pops {s : Extractor} (h : Sure s) {c : Cycle} {ch : Channel} (hpops : pops s c ch) :
    s.fifo ch ≠ [] := by
  simp only [ChannelPairs.pops, Bool.and_eq_true, Bool.or_eq_true, beq_iff_eq] at hpops
  obtain ⟨⟨-, haccess | haccess⟩, rfl⟩ := hpops
  · simp only [Sure, haccess] at h
    rw [h.1]
    exact h.2.2
  · simp only [Sure, haccess] at h
    rw [h.1]
    exact h.2

/-- Words that are not popped stay. -/
theorem next_ne_nil {words : List Word} (h : words ≠ []) (din : Option Word) :
    SyncFifo.next fifoDepth words din false ≠ [] := by
  rw [SyncFifo.next]
  exact List.append_ne_nil_of_left_ne_nil h _

theorem Sure.step {s : Extractor} (h : Sure s) (c : Cycle) : Sure (step s c) := by
  have hstayL (hno : ChannelPairs.pops s c .l = false) (hne : s.fifoL ≠ []) :
      (ChannelPairs.step s c).fifoL ≠ [] := by
    show SyncFifo.next fifoDepth s.fifoL (written s.ex c .l) (ChannelPairs.pops s c .l) ≠ []
    rw [hno]
    exact next_ne_nil hne _
  have hstayR (hno : ChannelPairs.pops s c .r = false) (hne : s.fifoR ≠ []) :
      (ChannelPairs.step s c).fifoR ≠ [] := by
    show SyncFifo.next fifoDepth s.fifoR (written s.ex c .r) (ChannelPairs.pops s c .r) ≠ []
    rw [hno]
    exact next_ne_nil hne _
  cases hadvance : c.advance with
  | false =>
    have hno (ch : Channel) : ChannelPairs.pops s c ch = false := by
      rw [ChannelPairs.pops, hadvance]
      rfl
    have hloop : (ChannelPairs.step s c).loop = s.loop := by
      show (if c.advance then access s else s.loop) = _
      rw [hadvance]
      rfl
    unfold Sure at h ⊢
    rw [hloop]
    cases haccess : s.loop.access with
    | selectL => trivial
    | readL => simpa only [haccess] using h
    | selectR =>
      simp only [haccess] at h
      exact fun hp => hstayL (hno .l) (h hp)
    | readR =>
      simp only [haccess] at h
      exact ⟨h.1, fun hp => hstayL (hno .l) (h.2 hp)⟩
    | popR =>
      simp only [haccess] at h
      exact ⟨h.1, hstayL (hno .l) h.2.1, hstayR (hno .r) h.2.2⟩
    | selectL' =>
      simp only [haccess] at h
      exact hstayL (hno .l) h
    | popL =>
      simp only [haccess] at h
      exact ⟨h.1, hstayL (hno .l) h.2⟩
  | true =>
    have hloop : (ChannelPairs.step s c).loop = access s := by
      show (if c.advance then access s else s.loop) = _
      rw [hadvance]
      rfl
    unfold Sure at h ⊢
    rw [hloop]
    unfold access
    cases haccess : s.loop.access with
    | selectL => rfl
    | readL =>
      simp only [haccess] at h
      intro hp
      refine hstayL (by simp [ChannelPairs.pops, haccess]) (List.length_pos_iff.mp ?_)
      rw [h] at hp
      exact hp
    | selectR =>
      simp only [haccess] at h
      exact ⟨rfl, fun hp => hstayL (by simp [ChannelPairs.pops, haccess]) (h hp)⟩
    | readR =>
      simp only [haccess] at h
      by_cases hlevels : s.loop.lvlL > 0 ∧ (s.fifo s.loop.chSelect).length > 0
      · have hr : s.fifoR ≠ [] := by
          have hlen := hlevels.2
          rw [h.1] at hlen
          exact List.length_pos_iff.mp hlen
        simp only [if_pos hlevels]
        exact ⟨h.1, hstayL (by simp [ChannelPairs.pops, haccess]) (h.2 hlevels.1),
          hstayR (by simp [ChannelPairs.pops, haccess]) hr⟩
      · simp only [if_neg hlevels]
    | popR =>
      simp only [haccess] at h
      exact hstayL (by simp [ChannelPairs.pops, h.1]) h.2.1
    | selectL' =>
      simp only [haccess] at h
      exact ⟨rfl, hstayL (by simp [ChannelPairs.pops, haccess]) h⟩
    | popL => trivial

-- ---------------------------------------------------------------------------
-- Runs
-- ---------------------------------------------------------------------------

/-- The beginnings of one list agree. -/
theorem prefix_agree {l r restL restR : List (Nat × Nat)} (h : l ++ restL = r ++ restR) (n : Nat)
    {a b : Nat × Nat} (ha : l[n]? = some a) (hb : r[n]? = some b) : a = b := by
  have hl : (l ++ restL)[n]? = some a := by
    rw [List.getElem?_append_left (List.getElem?_eq_some_iff.mp ha).1, ha]
  have hr : (r ++ restR)[n]? = some b := by
    rw [List.getElem?_append_left (List.getElem?_eq_some_iff.mp hb).1, hb]
  rw [h, hr] at hl
  exact (Option.some.inj hl).symm

theorem paired_of_bothOrNeither (cycles : List Cycle) (h : channels.Steps BothOrNeither cycles) :
    channels.Steps Paired cycles := by
  refine h.of_invariant (fun s => SameTaken s ∧ Sure s.1) ⟨⟨rfl, ?_⟩, trivial⟩
    (fun s c hs hc => ⟨hs.1.step hc, hs.2.step c⟩) fun s c hs hc => ⟨fun n a ha b hb => ?_, ?_⟩
  · rintro (hprime | hwarm)
    · cases hprime
    · cases hwarm
  · have hsame := (hs.1.step hc).same
    rw [List.append_assoc] at hsame
    exact prefix_agree hsame n ha hb
  · exact fun ch hpops => hs.2.pops hpops

-- ---------------------------------------------------------------------------
-- Frames and ticks
-- ---------------------------------------------------------------------------

/-- What these cycles write into a channel. -/
def writes (x : Extraction) (ch : Channel) : List Cycle → List Word
  | [] => []
  | c :: rest => (written x c ch).toList ++ writes (extract x c) ch rest

/-- While the loop makes no access the FIFOs are only filled. -/
theorem run_waiting (cycles : List Cycle) (h : ∀ c ∈ cycles, c.advance = false)
    (s : Extractor × Popped) :
    (channels.runFrom s cycles).1 =
        ⟨cycles.foldl extract s.1.ex, s.1.loop,
          SyncFifo.fill fifoDepth s.1.fifoL (writes s.1.ex .l cycles),
          SyncFifo.fill fifoDepth s.1.fifoR (writes s.1.ex .r cycles)⟩ ∧
      (channels.runFrom s cycles).2.l = s.2.l ∧ (channels.runFrom s cycles).2.r = s.2.r := by
  induction cycles generalizing s with
  | nil => exact ⟨rfl, rfl, rfl⟩
  | cons c rest ih =>
    have hadvance := h c List.mem_cons_self
    have hno (ch : Channel) : pops s.1 c ch = false := by
      rw [pops, hadvance]
      rfl
    have hfill (words : List Word) (ch : Channel) (more : List Word) :
        SyncFifo.fill fifoDepth (SyncFifo.next fifoDepth words (written s.1.ex c ch) false) more =
          SyncFifo.fill fifoDepth words ((written s.1.ex c ch).toList ++ more) := by
      cases written s.1.ex c ch with
      | none => simp
      | some word => rfl
    have hstep : (channels.step s c).1 = ⟨extract s.1.ex c, s.1.loop,
        SyncFifo.next fifoDepth s.1.fifoL (written s.1.ex c .l) false,
        SyncFifo.next fifoDepth s.1.fifoR (written s.1.ex c .r) false⟩ := by
      show step s.1 c = _
      rw [step, hno, hno, hadvance, if_neg Bool.false_ne_true]
    obtain ⟨hstate, hl, hr⟩ := ih (fun c hc => h c (List.mem_cons_of_mem _ hc)) (channels.step s c)
    rw [Machine.runFrom_cons, hstate, hl, hr, hstep]
    refine ⟨?_, ?_, ?_⟩
    · rw [hfill, hfill]
      rfl
    · show s.2.l ++ popped s.1 c .l = _
      rw [popped, hno]
      exact List.append_nil _
    · show s.2.r ++ popped s.1 c .r = _
      rw [popped, hno]
      exact List.append_nil _

def frameCycles : List Cycle := ⟨true, 0, false⟩ :: List.replicate 50 ⟨false, 0, false⟩

/-- The samples of a frame's six blocks. -/
def blocks (frame : Nat) : List Word := (List.range 6).map fun block => ⟨frame, block, 0⟩

theorem frame_writes (n frame : Nat) (ch : Channel) :
    writes ⟨.idle, n, frame⟩ ch frameCycles = blocks (frame + 1) := by
  cases ch <;>
    simp [writes, frameCycles, List.replicate, written, extract, blocks, wireChannels,
      samplesPerFrame, Channel.index, List.range, List.range.loop]

theorem frame_extract (n frame : Nat) :
    frameCycles.foldl extract ⟨.idle, n, frame⟩ = ⟨.idle, 47, frame + 1⟩ := by
  simp [frameCycles, List.replicate, extract, samplesPerFrame, wireChannels]

/-- The state, and what has been popped. -/
structure At (s : Extractor × Popped) (e : Extractor) (l r : List (Nat × Nat)) : Prop where
  state : s.1 = e
  l : s.2.l = l
  r : s.2.r = r

variable {s : Extractor × Popped} {n frame : Nat} {loop : Loop} {ch : Channel} {lvl : Nat}
  {fifoL fifoR : List Word} {a b : Word} {l r : List (Nat × Nat)}

/-- A frame while the loop waits: each FIFO takes the blocks it has room for. -/
theorem At.runFrame (h : At s ⟨⟨.idle, n, frame⟩, loop, fifoL, fifoR⟩ l r) :
    At (channels.runFrom s frameCycles)
      ⟨⟨.idle, 47, frame + 1⟩, loop, SyncFifo.fill fifoDepth fifoL (blocks (frame + 1)),
        SyncFifo.fill fifoDepth fifoR (blocks (frame + 1))⟩ l r := by
  obtain ⟨hstate, hl, hr⟩ := run_waiting frameCycles (by decide) s
  rw [h.state, frame_extract, frame_writes, frame_writes] at hstate
  exact ⟨hstate, hl.trans h.l, hr.trans h.r⟩

def go : Cycle := ⟨false, 0, true⟩

/-- The first five accesses of a tick, up to the pop of channel 1. -/
def tickR : List Cycle := List.replicate 5 go

/-- The other two. -/
def tickL : List Cycle := List.replicate 2 go

theorem At.runTickR (h : At s ⟨⟨.idle, n, frame⟩, ⟨.selectL, ch, lvl⟩, a :: fifoL, b :: fifoR⟩ l r) :
    At (channels.runFrom s tickR)
      ⟨⟨.idle, n, frame⟩, ⟨.selectL', .r, fifoL.length + 1⟩, a :: fifoL, fifoR⟩ l
      (r ++ [b.origin]) := by
  obtain ⟨e, p⟩ := s
  obtain ⟨rfl, rfl, rfl⟩ := h
  constructor <;>
    simp [tickR, go, List.replicate, channels, Machine.withHistory, step, note,
      access, pops, popped, written, extract, Extractor.fifo]

theorem At.runTickL (h : At s ⟨⟨.idle, n, frame⟩, ⟨.selectL', ch, lvl⟩, a :: fifoL, fifoR⟩ l r) :
    At (channels.runFrom s tickL) ⟨⟨.idle, n, frame⟩, ⟨.selectL, .l, lvl⟩, fifoL, fifoR⟩
      (l ++ [a.origin]) r := by
  obtain ⟨e, p⟩ := s
  obtain ⟨rfl, rfl, rfl⟩ := h
  constructor <;>
    simp [tickL, go, List.replicate, channels, Machine.withHistory, step, note,
      access, pops, popped, written, extract, Extractor.fifo]

/-- Ticks pop a sample of each channel, as long as there are. -/
theorem At.runTicks (words : List Word)
    (h : At s ⟨⟨.idle, n, frame⟩, ⟨.selectL, ch, lvl⟩, words ++ fifoL, words ++ fifoR⟩ l r) :
    ∃ ch lvl, At (channels.runFrom s (List.replicate words.length (tickR ++ tickL)).flatten)
      ⟨⟨.idle, n, frame⟩, ⟨.selectL, ch, lvl⟩, fifoL, fifoR⟩
      (l ++ words.map Word.origin) (r ++ words.map Word.origin) := by
  induction words generalizing s ch lvl l r with
  | nil =>
    rw [List.map_nil, List.append_nil, List.append_nil]
    exact ⟨ch, lvl, h⟩
  | cons word rest ih =>
    obtain ⟨ch, lvl, hrest⟩ := ih (At.runTickR h).runTickL
    refine ⟨ch, lvl, ?_⟩
    rw [List.length_cons, List.replicate_succ, List.flatten_cons, List.append_assoc,
      Machine.runFrom_append, Machine.runFrom_append, List.map_cons, List.append_cons l,
      List.append_cons r]
    exact hrest

def frameWords (frame k : Nat) : List Word := (List.range k).flatMap fun i => blocks (frame + i + 1)

/-- Frames while the loop waits. -/
theorem At.runFrames (k : Nat) (h : At s ⟨⟨.idle, n, frame⟩, loop, fifoL, fifoR⟩ l r) :
    ∃ n, At (channels.runFrom s (List.replicate k frameCycles).flatten)
      ⟨⟨.idle, n, frame + k⟩, loop, SyncFifo.fill fifoDepth fifoL (frameWords frame k),
        SyncFifo.fill fifoDepth fifoR (frameWords frame k)⟩ l r := by
  induction k with
  | zero => exact ⟨n, h⟩
  | succ k ih =>
    obtain ⟨n, hk⟩ := ih
    refine ⟨47, ?_⟩
    have hwords : frameWords frame (k + 1) = frameWords frame k ++ blocks (frame + k + 1) := by
      simp [frameWords, List.range_succ]
    rw [List.replicate_succ', List.flatten_append, List.flatten_singleton, Machine.runFrom_append,
      hwords, SyncFifo.fill_append, SyncFifo.fill_append]
    exact hk.runFrame

/-- What fills a FIFO. -/
def full : List Word := (frameWords 0 43).take fifoDepth

/-- A frame comes between the pops of a tick, with both FIFOs full. -/
def dropL : List Cycle :=
  (List.replicate 43 frameCycles).flatten ++ tickR ++ frameCycles ++ tickL ++
    (List.replicate full.tail.length (tickR ++ tickL)).flatten ++ frameCycles ++ tickR ++ tickL

theorem fill_nil (words : List Word) :
    SyncFifo.fill fifoDepth [] words = words.take fifoDepth := by
  rw [SyncFifo.fill_eq _ _ (Nat.zero_le _), List.nil_append]
  rfl

theorem full_length : full.length = fifoDepth := by decide +kernel

theorem dropL_popped :
    (channels.run dropL).2.l = full.map Word.origin ++ [(45, 0)] ∧
      (channels.run dropL).2.r = full.map Word.origin ++ [(44, 0)] := by
  obtain ⟨word, rest, hfull⟩ : ∃ word rest, full = word :: rest := by
    cases h : full with
    | nil =>
      have hlen := full_length
      rw [h] at hlen
      cases hlen
    | cons word rest => exact ⟨word, rest, rfl⟩
  have hlen : rest.length + 1 = fifoDepth := by
    rw [← List.length_cons, ← hfull, full_length]
  have hstart : At channels.init ⟨⟨.idle, 0, 0⟩, ⟨.selectL, .l, 0⟩, [], []⟩ [] [] := ⟨rfl, rfl, rfl⟩
  obtain ⟨n, hframes⟩ := hstart.runFrames 43
  rw [fill_nil, ← full, hfull] at hframes
  -- channel 0 is still full, channel 1 is not
  have hbetween := hframes.runTickR.runFrame
  have hdropped : SyncFifo.fill fifoDepth (word :: rest) (blocks 44) = word :: rest :=
    SyncFifo.fill_full (by rw [List.length_cons, hlen]) _
  have htaken : SyncFifo.fill fifoDepth rest (blocks 44) = rest ++ [⟨44, 0, 0⟩] := by
    rw [SyncFifo.fill_eq _ _ (by omega), show fifoDepth - rest.length = 1 by omega]
    rfl
  rw [hdropped, htaken] at hbetween
  have htick := hbetween.runTickL
  rw [← List.append_nil rest, List.append_assoc rest [] [_]] at htick
  obtain ⟨_, _, hticks⟩ := htick.runTicks
  have hframe := hticks.runFrame
  rw [SyncFifo.fill_eq _ _ (by decide), SyncFifo.fill_eq _ _ (by decide)] at hframe
  have hlast := hframe.runTickR.runTickL
  rw [dropL, Machine.run, hfull, Machine.runFrom_append, Machine.runFrom_append,
    Machine.runFrom_append, Machine.runFrom_append, Machine.runFrom_append,
    Machine.runFrom_append, Machine.runFrom_append]
  exact ⟨hlast.l, hlast.r⟩

/-- What the last cycle of a run leaves is paired. -/
theorem paired_last {cycles : List Cycle} {last : Cycle}
    (h : channels.Steps Paired (cycles ++ [last])) (n : Nat) :
    ∀ a ∈ (channels.run (cycles ++ [last])).2.l[n]?,
      ∀ b ∈ (channels.run (cycles ++ [last])).2.r[n]?, a = b := by
  have hpaired := h.at.1 n
  rw [Machine.run, Machine.runFrom_append]
  exact hpaired

theorem dropL_not_paired : ¬ channels.Steps Paired dropL := by
  intro h
  obtain ⟨cycles, hcycles⟩ : ∃ cycles, dropL = cycles ++ [go] :=
    ⟨_, (List.append_assoc _ [go] [go]).symm⟩
  obtain ⟨hl, hr⟩ := dropL_popped
  have hlen : (full.map Word.origin).length = 256 := by
    rw [List.length_map, full_length, fifoDepth]
  have hpaired := paired_last (hcycles ▸ h) 256
  rw [← hcycles, hl, hr, List.getElem?_append_right hlen.le, List.getElem?_append_right hlen.le,
    hlen] at hpaired
  have hblocks := hpaired (45, 0) rfl (44, 0) rfl
  cases hblocks

/-- A frame and a tick. -/
def frameAndTick : List Cycle := frameCycles ++ tickR ++ tickL

theorem paired_of_bothOrNeither_frameAndTick :
    channels.Steps BothOrNeither frameAndTick ∧ (channels.run frameAndTick).2.l = [(1, 0)] ∧
      channels.Steps Paired frameAndTick := by
  have hboth : channels.Steps BothOrNeither frameAndTick := by decide +kernel
  exact ⟨hboth, by decide +kernel, paired_of_bothOrNeither _ hboth⟩

end AvbAes3.ChannelPairs
