import AvbAes3.AvtpExtractor

/-!
# The samples of the AVTP extractor

The walk of a frame's buffer starts three cycles after its last beat, and by
then the next frame may be overwriting the buffer from its first word on.
The walk starts nine or ten words in and is not slower than the beats, so it
stays ahead of them: `frameBuf_kept`.

`extracts_exactly`: whatever frames come, every sample written is of a frame
that matches the slot, and a well-formed frame that matches has all its
samples written, once and in order. Its own length keeps the frame before it
from having the FSM busy.
-/

namespace AvbAes3.AvtpExtractor

open ChannelPairs (Channel ExState wireChannels samplesPerFrame fifoDepth)
open CrfExtractor (avtpAt)

-- ---------------------------------------------------------------------------
-- Which frame is extracted
-- ---------------------------------------------------------------------------

variable (e : AvtpExtractor) (input : Nat → AvtpCycle)

/-- The frame that is being extracted in the cycle, by the cycle of its last
beat: the FSM leaves idle for the frame whose last beat came two cycles
before. -/
def extracting : Nat → Option Nat
  | 0 => none
  | t + 1 =>
    if (e.state input (t + 1)).ex.exState = .idle then none
    else if (e.state input t).ex.exState = .idle then some (t - 2)
    else extracting t

/-- What has been written into the channel's FIFO of the frame before the
cycle. -/
def writtenOf (T : Nat) (ch : Channel) (t : Nat) : List UInt32 :=
  (List.range t).flatMap fun u =>
    if extracting e input u = some T then ((e.state input u).written ch).toList else []

/-- The frame that ends in the cycle matches the slot, as its registers are
in the next. -/
def Matches (T : Nat) : Prop :=
  Ends input T ∧ matchesSlot (wordBytes (frame input T)) (input (T + 1)).slot

/-- An AAF frame of eight channels and six blocks of 32 bit samples, all of
them there. -/
structure WellFormed (words : List UInt32) : Prop where
  ethertype :
    getBe16 ((wordBytes words).offset (avtpAt (wordBytes words) - 2)) = avtpEthertype
  format : aafFormatMatches ((wordBytes words).offset (avtpAt (wordBytes words)))
  dataLen : getBe16 ((wordBytes words).offset (avtpAt (wordBytes words) + 20)) = 192
  whole : avtpAt (wordBytes words) + aafStreamHdrLen + 192 ≤ 4 * words.length

/-- A channel's samples, a block after the other. -/
def samples (frame : Buffer) (ch : Channel) : List UInt32 :=
  (List.range aafSamplesPerPacket).map fun block =>
    getBe32 (frame.offset
      (avtpAt frame + aafStreamHdrLen + (wireChannels * block + ch.index) * aafBytesPerSample))

/-- The FIFO has room for each sample of the frame when it is offered. -/
def HasRoom (T : Nat) (ch : Channel) : Prop :=
  ∀ t, extracting e input t = some T → ((e.state input t).offered ch).isSome →
    ((e.state input t).fifos ch).length < fifoDepth

/-- The FSM looks at what the read port shows. -/
def reads (e : AvtpExtractor) : Prop := e.ex.exState = .warm ∨ e.ex.exState = .stream

structure ExtractsExactly : Prop where
  attributed : ∀ t ch, ((e.state input t).written ch).isSome → ∃ T, extracting e input t = some T
  matched : ∀ T ch t, ¬ Matches input T → writtenOf e input T ch t = []
  whole : ∀ T ch, Matches input T → WellFormed (frame input T) → HasRoom e input T ch →
    ∀ t, T + 53 ≤ t → writtenOf e input T ch t = samples (wordBytes (frame input T)) ch
  /-- The cell that is read has not been written since the frame's last beat. -/
  unraced : ∀ t T, extracting e input t = some T → (e.state input t).reads →
    ∀ u, T < u → u < t → (input u).beat.valid → (beats input u).length ≠ (e.state input t).rdAdr

-- ---------------------------------------------------------------------------
-- The race
-- ---------------------------------------------------------------------------

section Race

variable {e input}

theorem beats_length_le (input : Nat → AvtpCycle) (t : Nat) :
    (beats input (t + 1)).length ≤ (beats input t).length + 1 := by
  rw [beats]
  split
  · split
    · exact Nat.zero_le _
    · rw [List.length_append, List.length_singleton]
  · exact Nat.le_succ _

/-- The frames after one that has ended have no more beats than there have
been cycles. -/
theorem beats_after {T : Nat} (hends : Ends input T) (k : Nat) :
    (beats input (T + 1 + k)).length ≤ k := by
  induction k with
  | zero => rw [Nat.add_zero, beats_ends input hends, List.length_nil]
  | succ k ih =>
    have hstep := beats_length_le input (T + 1 + k)
    rw [← Nat.add_assoc]
    omega

/-- So the next frame ends no sooner than it has cycles for its beats. -/
theorem frame_length_le {T T' : Nat} (hends : Ends input T) (hlt : T < T') :
    (frame input T').length ≤ T' - T := by
  have hafter := beats_after hends (T' - (T + 1))
  have hadd : T + 1 + (T' - (T + 1)) = T' := by omega
  rw [hadd] at hafter
  rw [frame, List.length_append, List.length_singleton]
  omega

theorem frameBuf_unwritten {e : AvtpExtractor} {c : AvtpCycle} {i : Nat} (h : i ≠ e.beatIdx) :
    (e.step c).frameBuf i = e.frameBuf i := by
  rw [step]
  dsimp only
  split
  · exact Function.update_of_ne h ..
  · rfl

/-- A cell keeps its word for as many cycles as there are cells before it. -/
theorem frameBuf_kept (hquiet : e.Quiet) {T : Nat} (hends : Ends input T) {i k : Nat}
    (hk : k ≤ i) :
    (e.state input (T + 1 + k)).frameBuf i = (e.state input (T + 1)).frameBuf i := by
  induction k with
  | zero => rfl
  | succ k ih =>
    refine Eq.trans (frameBuf_unwritten ?_) (ih (by omega))
    have hidx := (receiving hquiet input (T + 1 + k)).beatIdx
    have hafter := beats_after hends k
    change i ≠ (e.state input (T + 1 + k)).beatIdx
    omega

end Race

-- ---------------------------------------------------------------------------
-- The walk
-- ---------------------------------------------------------------------------

/-- The FSM takes up the frame that ended in the cycle. -/
structure Starts (T : Nat) : Prop where
  ends : Ends input T
  idle : (e.state input (T + 2)).ex.exState = .idle
  matched : (e.state input (T + 2)).slotMatchC

/-- Where the walk of the frame starts. -/
def walkOf (T : Nat) : Nat := walkStart (e.state input (T + 2)).vlanC

/-- The FSM has a sample of the frame before it, half of it in the word it
keeps. -/
structure AtSample (s : AvtpExtractor) (buf : Nat → UInt32) (start n : Nat) : Prop where
  exState : s.ex.exState = .stream
  exSampleN : s.ex.exSampleN = n
  exBeatAddr : s.ex.exBeatAddr = start + n + 2
  rdAdr : s.rdAdr = start + n + 1
  exPrevWord : s.ex.exPrevWord = buf (start + n)

theorem walkStart_bounds (vlan : Bool) : 9 ≤ walkStart vlan ∧ walkStart vlan ≤ 10 := by
  cases vlan <;> decide

section Walk

variable {e input} {T : Nat} (h : Starts e input T)

include h

theorem prime_of_starts :
    (e.state input (T + 3)).ex.exState = .prime ∧
      (e.state input (T + 3)).ex.exBeatAddr = walkOf e input T ∧
      (e.state input (T + 3)).ex.exSampleN = 0 := by
  have heof := (match_frame input e h.ends).1
  have hex : (e.state input (T + 3)).ex = walkStep (e.state input (T + 2)).ex
      ((e.state input (T + 2)).eofC && (e.state input (T + 2)).slotMatchC)
      (e.state input (T + 2)).vlanC (e.state input (T + 2)).datR := rfl
  rw [heof, h.matched, walkStep, h.idle] at hex
  rw [hex]
  exact ⟨rfl, rfl, rfl⟩

theorem warm_of_starts :
    (e.state input (T + 4)).ex.exState = .warm ∧
      (e.state input (T + 4)).ex.exBeatAddr = walkOf e input T + 1 ∧
      (e.state input (T + 4)).ex.exSampleN = 0 ∧
      (e.state input (T + 4)).rdAdr = walkOf e input T := by
  obtain ⟨hstate, haddr, hsample⟩ := prime_of_starts h
  have hbounds := walkStart_bounds (e.state input (T + 2)).vlanC
  have hex : (e.state input (T + 4)).ex = walkStep (e.state input (T + 3)).ex _ _ _ := rfl
  have hrd : (e.state input (T + 4)).rdAdr = (e.state input (T + 3)).ex.exBeatAddr % bufBeats := rfl
  rw [walkStep, hstate] at hex
  rw [hex, hrd, haddr]
  refine ⟨rfl, rfl, hsample, Nat.mod_eq_of_lt ?_⟩
  unfold walkOf bufBeats
  omega

theorem atSample_zero (hquiet : e.Quiet) :
    AtSample (e.state input (T + 5)) (e.state input (T + 1)).frameBuf (walkOf e input T) 0 := by
  obtain ⟨hstate, haddr, hsample, hrd⟩ := warm_of_starts h
  have hbounds := walkStart_bounds (e.state input (T + 2)).vlanC
  have hex : (e.state input (T + 5)).ex = walkStep (e.state input (T + 4)).ex _ _
      (e.state input (T + 4)).datR := rfl
  have hrd' : (e.state input (T + 5)).rdAdr = (e.state input (T + 4)).ex.exBeatAddr % bufBeats :=
    rfl
  have hkept : (e.state input (T + 4)).frameBuf (walkOf e input T) =
      (e.state input (T + 1)).frameBuf (walkOf e input T) :=
    frameBuf_kept hquiet h.ends (k := 3) (by unfold walkOf; omega)
  rw [walkStep, hstate] at hex
  constructor
  · rw [hex]
  · rw [hex]
    exact hsample
  · rw [hex]
    exact congrArg (· + 1) haddr
  · rw [hrd', haddr]
    refine Nat.mod_eq_of_lt ?_
    unfold walkOf bufBeats
    omega
  · rw [hex]
    exact (congrArg _ hrd).trans hkept

/-- A cycle takes the walk to the next sample, or ends it with the last. -/
theorem atSample_step (hquiet : e.Quiet) {n : Nat} (hn : n < samplesPerFrame)
    (hat : AtSample (e.state input (T + 5 + n)) (e.state input (T + 1)).frameBuf
      (walkOf e input T) n) :
    if n = samplesPerFrame - 1 then (e.state input (T + 5 + n + 1)).ex.exState = .idle
    else AtSample (e.state input (T + 5 + (n + 1))) (e.state input (T + 1)).frameBuf
      (walkOf e input T) (n + 1) := by
  have hbounds := walkStart_bounds (e.state input (T + 2)).vlanC
  have hex : (e.state input (T + 5 + n + 1)).ex = walkStep (e.state input (T + 5 + n)).ex _ _
      (e.state input (T + 5 + n)).datR := rfl
  have hrd : (e.state input (T + 5 + n + 1)).rdAdr =
      (e.state input (T + 5 + n)).ex.exBeatAddr % bufBeats := rfl
  rw [walkStep, hat.exState, hat.exSampleN] at hex
  dsimp only at hex
  split
  · rename_i hlast
    rw [if_pos hlast] at hex
    rw [hex]
  · rename_i hmore
    rw [if_neg hmore] at hex
    have hkept : (e.state input (T + 5 + n)).frameBuf (walkOf e input T + n + 1) =
        (e.state input (T + 1)).frameBuf (walkOf e input T + n + 1) := by
      have hcycle : T + 5 + n = T + 1 + (4 + n) := by omega
      rw [hcycle]
      exact frameBuf_kept hquiet h.ends (by unfold walkOf; omega)
    rw [← Nat.add_assoc]
    constructor
    · rw [hex]
    · rw [hex]
    · rw [hex]
      exact congrArg (· + 1) hat.exBeatAddr
    · rw [hrd, hat.exBeatAddr]
      refine Nat.mod_eq_of_lt ?_
      unfold walkOf bufBeats
      unfold samplesPerFrame wireChannels at hn
      omega
    · rw [hex]
      exact (congrArg _ hat.rdAdr).trans hkept

theorem atSample (hquiet : e.Quiet) (n : Nat) (hn : n < samplesPerFrame) :
    AtSample (e.state input (T + 5 + n)) (e.state input (T + 1)).frameBuf (walkOf e input T) n := by
  induction n with
  | zero => exact atSample_zero h hquiet
  | succ n ih =>
    have hstep := atSample_step h hquiet (by omega) (ih (by omega))
    rw [if_neg (by omega)] at hstep
    exact hstep

theorem idle_after (hquiet : e.Quiet) : (e.state input (T + 53)).ex.exState = .idle :=
  atSample_step h hquiet (n := 47) (by decide) (atSample h hquiet 47 (by decide))

theorem busy_of_starts (hquiet : e.Quiet) {t : Nat} (hge : T + 3 ≤ t) (hlt : t < T + 53) :
    (e.state input t).ex.exState ≠ .idle := by
  intro hidle
  obtain ⟨k, rfl⟩ := Nat.exists_eq_add_of_le hge
  match k with
  | 0 =>
    rw [Nat.add_zero, (prime_of_starts h).1] at hidle
    cases hidle
  | 1 =>
    have hwarm := (warm_of_starts h).1
    rw [show T + 3 + 1 = T + 4 from rfl, hwarm] at hidle
    cases hidle
  | n + 2 =>
    have hat := atSample h hquiet n (by unfold samplesPerFrame wireChannels; omega)
    have hcycle : T + 3 + (n + 2) = T + 5 + n := by omega
    rw [hcycle, hat.exState] at hidle
    cases hidle

end Walk

-- ---------------------------------------------------------------------------
-- Which frame starts a walk
-- ---------------------------------------------------------------------------

section Starts

variable {e input} (hquiet : e.Quiet)

include hquiet

/-- The FSM leaves idle for a frame only. -/
theorem starts_of_leaves {t : Nat} (hidle : (e.state input t).ex.exState = .idle)
    (hbusy : (e.state input (t + 1)).ex.exState ≠ .idle) :
    ∃ T, t = T + 2 ∧ Starts e input T := by
  have hex : (e.state input (t + 1)).ex = walkStep (e.state input t).ex
      ((e.state input t).eofC && (e.state input t).slotMatchC) (e.state input t).vlanC
      (e.state input t).datR := rfl
  rw [walkStep, hidle] at hex
  cases hmatched : (e.state input t).eofC && (e.state input t).slotMatchC with
  | false =>
    rw [hmatched] at hex
    exact absurd ((congrArg AvtpWalk.exState hex).trans hidle) hbusy
  | true =>
    rw [Bool.and_eq_true] at hmatched
    obtain ⟨T, rfl, hends⟩ := ends_of_eofC hquiet input hmatched.1
    exact ⟨T, rfl, hends, hidle, hmatched.2⟩

theorem extracting_iff {t T : Nat} :
    extracting e input t = some T ↔ Starts e input T ∧ T + 3 ≤ t ∧ t < T + 53 := by
  induction t with
  | zero =>
    refine iff_of_false nofun ?_
    rintro ⟨-, hge, -⟩
    omega
  | succ t ih =>
    rw [extracting]
    by_cases hidle : (e.state input (t + 1)).ex.exState = .idle
    · rw [if_pos hidle]
      refine iff_of_false nofun ?_
      rintro ⟨hstarts, hge, hlt⟩
      exact busy_of_starts hstarts hquiet hge hlt hidle
    rw [if_neg hidle]
    by_cases hbefore : (e.state input t).ex.exState = .idle
    · rw [if_pos hbefore]
      obtain ⟨T', rfl, hstarts'⟩ := starts_of_leaves hquiet hbefore hidle
      constructor
      · intro hsome
        obtain rfl := Option.some.inj hsome
        exact ⟨hstarts', by omega, by omega⟩
      · rintro ⟨hstarts, hge, hlt⟩
        have hnot : ¬ T + 3 ≤ T' + 2 := fun hle =>
          busy_of_starts hstarts hquiet hle (by omega) hbefore
        obtain rfl : T' = T := by omega
        rfl
    · rw [if_neg hbefore, ih]
      refine and_congr_right fun hstarts => ?_
      have hnext : T + 3 ≤ t + 1 → T + 3 ≤ t := by
        intro hge
        by_contra hlt
        have heq : t = T + 2 := by omega
        exact hbefore (heq ▸ hstarts.idle)
      have hend : t < T + 53 → t + 1 < T + 53 := by
        intro hlt
        by_contra hge
        have heq : t + 1 = T + 53 := by omega
        exact hidle (heq ▸ idle_after hstarts hquiet)
      omega

theorem extracting_of_busy {t : Nat} (hbusy : (e.state input t).ex.exState ≠ .idle) :
    ∃ T, extracting e input t = some T := by
  induction t with
  | zero => exact absurd hquiet.exState hbusy
  | succ t ih =>
    rw [extracting, if_neg hbusy]
    split
    · exact ⟨_, rfl⟩
    · exact ih ‹_›

/-- The frame of a walk is the one that was matched. -/
theorem matches_of_starts {T : Nat} (hstarts : Starts e input T)
    (hlong : hdrBeats < (frame input T).length) : Matches input T := by
  obtain ⟨-, -, hmatch⟩ := match_frame input e hstarts.ends
  have hheader := (matchesSlot_congr fun i hi =>
    header_frame hquiet input hlong (i := i) (by unfold hdrBeats; omega)).2
  rw [hstarts.matched, hheader] at hmatch
  exact ⟨hstarts.ends, hmatch.symm⟩

/-- A frame that matches is taken up if the FSM is idle. -/
theorem starts_of_matches {T : Nat} (hmatches : Matches input T)
    (hlong : hdrBeats < (frame input T).length)
    (hidle : (e.state input (T + 2)).ex.exState = .idle) : Starts e input T := by
  obtain ⟨-, -, hmatch⟩ := match_frame input e hmatches.1
  have hheader := (matchesSlot_congr fun i hi =>
    header_frame hquiet input hlong (i := i) (by unfold hdrBeats; omega)).2
  rw [hheader, hmatches.2] at hmatch
  exact ⟨hmatches.1, hidle, hmatch⟩

/-- A frame as long as the walk finds the FSM idle. -/
theorem idle_of_long {T : Nat} (hlong : 51 ≤ (frame input T).length) :
    (e.state input (T + 2)).ex.exState = .idle := by
  by_contra hbusy
  obtain ⟨T', hextracting⟩ := extracting_of_busy hquiet hbusy
  obtain ⟨hstarts, hge, hlt⟩ := (extracting_iff hquiet).mp hextracting
  have hlength : (frame input T).length ≤ T - T' := frame_length_le hstarts.ends (by omega)
  omega

end Starts

-- ---------------------------------------------------------------------------
-- What is written
-- ---------------------------------------------------------------------------

/-- The bytes of the frame buffer. -/
def bufBytes (buf : Nat → UInt32) : Buffer := fun off => wordByte (buf (off / 4)) off

/-- Half a word and half the next are four bytes of the buffer in a row. -/
theorem straddled_eq (buf : Nat → UInt32) (i : Nat) :
    straddled (buf i) (buf (i + 1)) = getBe32 ((bufBytes buf).offset (4 * i + 2)) := by
  have hbyte (k j w : Nat) (hw : (4 * i + 2 + k) / 4 = w) (hj : (4 * i + 2 + k) % 4 = j) :
      (bufBytes buf).offset (4 * i + 2) k = wordByte (buf w) j := by
    rw [Buffer.offset_apply, bufBytes, hw, wordByte, wordByte, hj, ← hj, Nat.mod_mod]
  rw [getBe32, hbyte 0 2 i (by omega) (by omega), hbyte 1 3 i (by omega) (by omega),
    hbyte 2 0 (i + 1) (by omega) (by omega), hbyte 3 1 (i + 1) (by omega) (by omega)]
  rfl

theorem written_none {e : AvtpExtractor} (h : e.ex.exState ≠ .stream) (ch : Channel) :
    e.written ch = none := by
  have hoffered : e.offered ch = none := if_neg fun hstream => h hstream.1
  rw [written, hoffered, ite_self]

section Written

variable {e input} (hquiet : e.Quiet) {T : Nat} (hstarts : Starts e input T)

include hquiet hstarts

/-- The sample the walk has got to, from the buffer as the frame left it. -/
theorem exSample_walk {n : Nat} (hn : n < samplesPerFrame) :
    (e.state input (T + 5 + n)).exSample =
      getBe32 ((bufBytes (e.state input (T + 1)).frameBuf).offset
        (4 * walkOf e input T + 2 + n * aafBytesPerSample)) := by
  have hat := atSample hstarts hquiet n hn
  have hbounds := walkStart_bounds (e.state input (T + 2)).vlanC
  have hkept : (e.state input (T + 5 + n)).frameBuf (walkOf e input T + n + 1) =
      (e.state input (T + 1)).frameBuf (walkOf e input T + n + 1) := by
    have hcycle : T + 5 + n = T + 1 + (4 + n) := by omega
    rw [hcycle]
    exact frameBuf_kept hquiet hstarts.ends (by unfold walkOf; omega)
  have haddr : 4 * walkOf e input T + 2 + n * aafBytesPerSample =
      4 * (walkOf e input T + n) + 2 := by
    unfold aafBytesPerSample
    omega
  rw [haddr, ← straddled_eq, exSample, hat.exPrevWord, datR, hat.rdAdr, hkept]

theorem offered_walk {n : Nat} (hn : n < samplesPerFrame) (ch : Channel) :
    (e.state input (T + 5 + n)).offered ch =
      if n % wireChannels = ch.index then
        some (getBe32 ((bufBytes (e.state input (T + 1)).frameBuf).offset
          (4 * walkOf e input T + 2 + n * aafBytesPerSample)))
      else none := by
  have hat := atSample hstarts hquiet n hn
  rw [offered, hat.exState, hat.exSampleN, exSample_walk hquiet hstarts hn]
  simp only [true_and]

/-- Nothing is written before the first sample and after the last. -/
theorem writtenOf_walk (ch : Channel) (k : Nat) :
    writtenOf e input T ch (T + 53 + k) =
      (List.range samplesPerFrame).flatMap fun n =>
        ((e.state input (T + 5 + n)).written ch).toList := by
  have hbefore : ∀ u ∈ List.range (T + 5), (if extracting e input u = some T then
      ((e.state input u).written ch).toList else []) = [] := by
    intro u hu
    rw [List.mem_range] at hu
    split
    · rename_i hextracting
      obtain ⟨-, hge, -⟩ := (extracting_iff hquiet).mp hextracting
      have hnot : (e.state input u).ex.exState ≠ .stream := by
        obtain rfl | rfl : u = T + 3 ∨ u = T + 4 := by omega
        · rw [(prime_of_starts hstarts).1]
          decide
        · rw [(warm_of_starts hstarts).1]
          decide
      rw [written_none hnot]
      rfl
    · rfl
  have hafter : ∀ u ∈ (List.range k).map (T + 53 + ·), (if extracting e input u = some T then
      ((e.state input u).written ch).toList else []) = [] := by
    intro u hu
    obtain ⟨j, -, rfl⟩ := List.mem_map.mp hu
    rw [if_neg fun h => absurd ((extracting_iff hquiet).mp h).2.2 (by omega)]
  have hsplit : T + 53 + k = T + 5 + samplesPerFrame + k := by
    unfold samplesPerFrame wireChannels
    omega
  have hduring : T + 53 = T + 5 + samplesPerFrame := by
    unfold samplesPerFrame wireChannels
    rfl
  rw [hduring] at hafter
  rw [writtenOf, hsplit, List.range_add, List.range_add, List.flatMap_append, List.flatMap_append,
    List.flatMap_eq_nil_iff.mpr hbefore, List.flatMap_eq_nil_iff.mpr hafter, List.append_nil,
    List.nil_append, List.flatMap_map]
  refine List.flatMap_congr fun n hn => if_pos ((extracting_iff hquiet).mpr ⟨hstarts, ?_⟩)
  rw [List.mem_range] at hn
  unfold samplesPerFrame wireChannels at hn
  omega

end Written

/-- A channel's samples among those of all channels. -/
theorem flatMap_channel (f : Nat → List UInt32) (ch : Channel) :
    ((List.range samplesPerFrame).flatMap fun n =>
      if n % wireChannels = ch.index then f n else []) =
      (List.range aafSamplesPerPacket).flatMap fun block => f (wireChannels * block + ch.index) := by
  cases ch <;> rfl

/-- The buffer's bytes from where the walk of a frame starts. -/
def walked (e : AvtpExtractor) (input : Nat → AvtpCycle) (T : Nat) : Buffer :=
  (bufBytes (e.state input (T + 1)).frameBuf).offset (4 * walkOf e input T + 2)

/-- The FIFO has room in the cycle in which the channel's sample of the block
is offered. -/
def roomFor (e : AvtpExtractor) (input : Nat → AvtpCycle) (T : Nat) (ch : Channel)
    (block : Nat) : Bool :=
  decide (((e.state input (T + 5 + (wireChannels * block + ch.index))).fifos ch).length < fifoDepth)

section Whole

variable {e input} (hquiet : e.Quiet) {T : Nat} (hstarts : Starts e input T)

include hquiet hstarts

/-- Six samples of a channel are offered, whatever the buffer holds, and those
that there is room for are written. -/
theorem writtenOf_blocks (ch : Channel) (k : Nat) :
    writtenOf e input T ch (T + 53 + k) = (List.range aafSamplesPerPacket).flatMap fun block =>
      if roomFor e input T ch block then
        [getBe32 ((walked e input T).offset
          ((wireChannels * block + ch.index) * aafBytesPerSample))]
      else [] := by
  let f : Nat → List UInt32 := fun n =>
    if ((e.state input (T + 5 + n)).fifos ch).length < fifoDepth then
      [getBe32 ((walked e input T).offset (n * aafBytesPerSample))]
    else []
  have hblocks : (fun block => f (wireChannels * block + ch.index)) = fun block =>
      if roomFor e input T ch block then
        [getBe32 ((walked e input T).offset
          ((wireChannels * block + ch.index) * aafBytesPerSample))]
      else [] := by
    funext block
    simp only [f, roomFor, decide_eq_true_eq]
  rw [writtenOf_walk hquiet hstarts, ← hblocks, ← flatMap_channel f]
  refine List.flatMap_congr fun n hn => ?_
  have hoffset : (walked e input T).offset (n * aafBytesPerSample) =
      (bufBytes (e.state input (T + 1)).frameBuf).offset
        (4 * walkOf e input T + 2 + n * aafBytesPerSample) := by
    funext i
    exact congrArg (bufBytes _) (Nat.add_assoc ..).symm
  rw [written, offered_walk hquiet hstarts (List.mem_range.mp hn) ch]
  simp only [f, hoffset]
  split
  · split <;> rfl
  · rw [ite_self]
    rfl

theorem hasRoom_block {ch : Channel} (hroom : HasRoom e input T ch) {block : Nat}
    (hblock : block < aafSamplesPerPacket) : roomFor e input T ch block := by
  have hch : ch.index ≤ 1 := by cases ch <;> decide
  unfold aafSamplesPerPacket at hblock
  have hn : wireChannels * block + ch.index < samplesPerFrame := by
    unfold wireChannels samplesPerFrame wireChannels
    omega
  have hmod : (wireChannels * block + ch.index) % wireChannels = ch.index := by
    unfold wireChannels
    omega
  refine decide_eq_true (hroom _ ((extracting_iff hquiet).mpr ⟨hstarts, ?_⟩) ?_)
  · unfold samplesPerFrame wireChannels at hn
    unfold wireChannels
    omega
  · rw [offered_walk hquiet hstarts hn, if_pos hmod]
    rfl

/-- With room for them all six are written. -/
theorem writtenOf_room {ch : Channel} (hroom : HasRoom e input T ch) {t : Nat}
    (ht : T + 53 ≤ t) :
    writtenOf e input T ch t = (List.range aafSamplesPerPacket).map fun block =>
      getBe32 ((walked e input T).offset
        ((wireChannels * block + ch.index) * aafBytesPerSample)) := by
  obtain ⟨k, rfl⟩ := Nat.exists_eq_add_of_le ht
  rw [writtenOf_blocks hquiet hstarts, List.map_eq_flatMap]
  refine List.flatMap_congr fun block hblock => if_pos ?_
  exact hasRoom_block hquiet hstarts hroom (List.mem_range.mp hblock)

/-- The walk starts at the frame's first sample. -/
theorem walkOf_frame (hlong : hdrBeats < (frame input T).length) :
    4 * walkOf e input T + 2 = avtpAt (wordBytes (frame input T)) + aafStreamHdrLen := by
  obtain ⟨-, hvlan, -⟩ := match_frame input e hstarts.ends
  have hat := (matchesSlot_congr fun i hi =>
    header_frame hquiet input hlong (i := i) (by unfold hdrBeats; omega)).1
  rw [walkOf, hvlan, walkStart_header, hat]

theorem walked_frame (hlong : hdrBeats < (frame input T).length) {i : Nat}
    (hbuf : avtpAt (wordBytes (frame input T)) + aafStreamHdrLen + i < 4 * bufBeats)
    (hframe : avtpAt (wordBytes (frame input T)) + aafStreamHdrLen + i <
      4 * (frame input T).length) :
    walked e input T i = wordBytes (frame input T)
      (avtpAt (wordBytes (frame input T)) + aafStreamHdrLen + i) := by
  rw [walked, Buffer.offset_apply, walkOf_frame hquiet hstarts hlong]
  generalize avtpAt (wordBytes (frame input T)) + aafStreamHdrLen + i = off at *
  have hget := List.getElem?_eq_getElem (show off / 4 < (frame input T).length by omega)
  have hword := frameBuf_frame hquiet input hstarts.ends (off / 4) _ (by omega) hget
  rw [bufBytes, wordBytes, hget, hword]
  rfl

theorem writtenOf_wellFormed (hwell : WellFormed (frame input T)) {ch : Channel}
    (hroom : HasRoom e input T ch) {t : Nat} (ht : T + 53 ≤ t) :
    writtenOf e input T ch t = samples (wordBytes (frame input T)) ch := by
  have hwhole := hwell.whole
  have hat : avtpAt (wordBytes (frame input T)) ≤ 18 := by
    rw [avtpAt]
    split <;> omega
  have hlong : hdrBeats < (frame input T).length := by
    unfold hdrBeats
    omega
  rw [writtenOf_room hquiet hstarts hroom ht, samples]
  refine List.map_congr_left fun block hblock => getBe32_congr fun i hi => ?_
  have hch : ch.index ≤ 1 := by cases ch <;> decide
  rw [List.mem_range] at hblock
  unfold aafSamplesPerPacket at hblock
  have hoff : (wireChannels * block + ch.index) * aafBytesPerSample + i < 192 := by
    unfold wireChannels aafBytesPerSample
    omega
  refine (walked_frame hquiet hstarts hlong ?_ ?_).trans ?_
  · unfold bufBeats aafStreamHdrLen
    omega
  · omega
  · exact congrArg (wordBytes (frame input T)) (Nat.add_assoc ..).symm

end Whole

-- ---------------------------------------------------------------------------
-- Every run
-- ---------------------------------------------------------------------------

theorem unraced {e : AvtpExtractor} {input : Nat → AvtpCycle} (hquiet : e.Quiet) {t T : Nat}
    (hextracting : extracting e input t = some T) (hreads : (e.state input t).reads) {u : Nat}
    (hafter : T < u) (hbefore : u < t) :
    (beats input u).length < (e.state input t).rdAdr := by
  obtain ⟨hstarts, hge, hlt⟩ := (extracting_iff hquiet).mp hextracting
  have hbounds := walkStart_bounds (e.state input (T + 2)).vlanC
  have hlength := beats_after hstarts.ends (u - (T + 1))
  have hadd : T + 1 + (u - (T + 1)) = u := by omega
  rw [hadd] at hlength
  have hrd : (e.state input t).rdAdr = walkOf e input T + (t - (T + 4)) := by
    obtain ⟨k, rfl⟩ := Nat.exists_eq_add_of_le hge
    match k with
    | 0 =>
      exfalso
      rcases hreads with hstate | hstate <;>
      · rw [Nat.add_zero, (prime_of_starts hstarts).1] at hstate
        cases hstate
    | 1 =>
      have hcycle : T + 3 + 1 - (T + 4) = 0 := by omega
      rw [hcycle]
      exact (warm_of_starts hstarts).2.2.2
    | n + 2 =>
      have hat := atSample hstarts hquiet n (by unfold samplesPerFrame wireChannels; omega)
      have hcycle : T + 3 + (n + 2) = T + 5 + n := by omega
      rw [hcycle, hat.rdAdr]
      omega
  unfold walkOf at hrd
  omega

/-- Whatever the frames, as long as each has fifteen beats. -/
theorem extracts_exactly (e : AvtpExtractor) (hquiet : e.Quiet) (input : Nat → AvtpCycle)
    (hlong : ∀ T, Ends input T → 15 ≤ (frame input T).length) : ExtractsExactly e input where
  attributed t ch hwritten := by
    refine extracting_of_busy hquiet fun hidle => ?_
    rw [written_none (by rw [hidle]; decide)] at hwritten
    cases hwritten
  matched T ch t hnot := by
    refine List.flatMap_eq_nil_iff.mpr fun u _ => if_neg fun hextracting => ?_
    obtain ⟨hstarts, -⟩ := (extracting_iff hquiet).mp hextracting
    have hbeats := hlong T hstarts.ends
    exact hnot (matches_of_starts hquiet hstarts (by unfold hdrBeats; omega))
  whole T ch hmatches hwell hroom t ht := by
    have hwhole := hwell.whole
    have hat : 14 ≤ avtpAt (wordBytes (frame input T)) := by
      rw [avtpAt]
      split <;> omega
    unfold aafStreamHdrLen at hwhole
    have hstarts := starts_of_matches hquiet hmatches (by unfold hdrBeats; omega)
      (idle_of_long hquiet (by omega))
    exact writtenOf_wellFormed hquiet hstarts hwell hroom ht
  unraced t T hextracting hreads u hafter hbefore _ :=
    Nat.ne_of_lt (unraced hquiet hextracting hreads hafter hbefore)

-- ---------------------------------------------------------------------------
-- One frame
-- ---------------------------------------------------------------------------

/-- The frame's beats without gaps from the first cycle on, then none. -/
def lone (words : List UInt32) (slot : ExtractorSlot) (t : Nat) : AvtpCycle where
  beat := ⟨decide (t < words.length), decide (t + 1 = words.length), words.getD t 0⟩
  slot := slot
  popRe := false
  chSelect := .l

/-- `_bytes_to_beats` of the testbench. -/
def bytesToBeats (bytes : List UInt8) : List UInt32 :=
  (List.range ((bytes.length + 3) / 4)).map fun k =>
    let byte := fun i => (bytes.getD (4 * k + i) 0).toUInt32
    byte 0 ||| byte 1 <<< 8 ||| byte 2 <<< 16 ||| byte 3 <<< 24

section Lone

variable {words : List UInt32} {slot : ExtractorSlot}

theorem data_lone {t : Nat} (ht : t < words.length) :
    (lone words slot t).beat.data = words[t] := by
  simp [lone, ht]

theorem ends_lone {t : Nat} : Ends (lone words slot) t ↔ t + 1 = words.length := by
  unfold Ends lone
  simp only [decide_eq_true_eq]
  omega

theorem beats_lone {t : Nat} (ht : t < words.length) :
    beats (lone words slot) t = words.take t := by
  induction t with
  | zero => rfl
  | succ t ih =>
    have hvalid : (lone words slot t).beat.valid = true := decide_eq_true (by omega)
    have hlast : (lone words slot t).beat.last = false := decide_eq_false (by omega)
    rw [beats_more _ hvalid hlast, frame, ih (by omega), List.take_succ_eq_append_getElem (by omega),
      data_lone (by omega)]

theorem frame_lone {t : Nat} (ht : t + 1 = words.length) : frame (lone words slot) t = words := by
  rw [frame, beats_lone (by omega), data_lone (by omega), ← List.take_succ_eq_append_getElem (by omega), ht, List.take_length]

end Lone

/-- A cycle adds one sample at most. -/
theorem fifo_length_le (e : AvtpExtractor) (input : Nat → AvtpCycle) (ch : Channel) (t : Nat) :
    ((e.state input t).fifos ch).length ≤ (e.fifos ch).length + t := by
  induction t with
  | zero => exact le_rfl
  | succ t ih =>
    refine (SyncFifo.length_next_le ..).trans ?_
    omega

/-- As many cycles before the end of its walk as an empty FIFO has room for. -/
theorem hasRoom_early {e : AvtpExtractor} (hquiet : e.Quiet) (hempty : ∀ ch, e.fifos ch = [])
    (input : Nat → AvtpCycle) {T : Nat} (hearly : T + 53 ≤ fifoDepth) (ch : Channel) :
    HasRoom e input T ch := by
  intro t hextracting _
  have hlt := ((extracting_iff hquiet).mp hextracting).2.2
  have hlength := fifo_length_le e input ch t
  rw [hempty, List.length_nil] at hlength
  omega

/-- The stream of the testbench. -/
def aafSid : StreamId := eightBytes 0x02 0x00 0x00 0x00 0x00 0x42 0x00 0x01

def aafMac : MacAddr := sixBytes 0x91 0xE0 0xF0 0x00 0xFE 0x42

def boundSlot : ExtractorSlot := avtpFilterSetSlot aafSid aafMac

/-- A frame of it. -/
def aafBytes : List UInt8 :=
  aafHeader aafMac boardMac (vlanTci 3 2) 0 aafSid 0 ++ (List.range 192).map UInt8.ofNat

def aafWords : List UInt32 := bytesToBeats aafBytes

/-- All of them are written, after a reset. -/
theorem aafWords_extracted :
    writtenOf {} (lone aafWords boundSlot) 58 .l 111 = samples (wordBytes aafWords) .l ∧
      writtenOf {} (lone aafWords boundSlot) 58 .r 111 = samples (wordBytes aafWords) .r := by
  have hquiet : Quiet {} := ⟨rfl, rfl, rfl, rfl⟩
  have hlength : aafWords.length = 59 := by decide +kernel
  have hframe : frame (lone aafWords boundSlot) 58 = aafWords := frame_lone hlength.symm
  have hlong (T : Nat) (hends : Ends (lone aafWords boundSlot) T) :
      15 ≤ (frame (lone aafWords boundSlot) T).length := by
    rw [frame_lone (ends_lone.mp hends), hlength]
    decide
  have hmatches : Matches (lone aafWords boundSlot) 58 := by
    refine ⟨ends_lone.mpr hlength.symm, ?_⟩
    rw [hframe]
    decide +kernel
  have hwell : WellFormed (frame (lone aafWords boundSlot) 58) := by
    rw [hframe]
    exact ⟨by decide +kernel, by decide +kernel, by decide +kernel, by decide +kernel⟩
  have hwhole (ch : Channel) :=
    (extracts_exactly {} hquiet (lone aafWords boundSlot) hlong).whole 58 ch hmatches hwell
      (hasRoom_early hquiet (fun _ => rfl) _ (by decide) ch) 111 (by decide)
  rw [hframe] at hwhole
  exact ⟨hwhole .l, hwhole .r⟩

end AvbAes3.AvtpExtractor
