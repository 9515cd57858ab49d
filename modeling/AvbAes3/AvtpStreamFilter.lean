import AvbAes3.AvtpExtractor

/-!
# AVTPStreamFilter

The gateware that tags the frames of the streams in its slots. Eight words of
a frame are kept; with its last beat the keys are read off them (stage B), a
cycle later they are compared with every slot (stage C), and a cycle after
that the match is shown and counted (stage D). The matches are registered
before they are decoded, and the `Case` that decodes them has a branch for
each single match: `decides_iff`, the filter decides as it should exactly
when every frame that matches several slots matches the first.
-/

namespace AvbAes3.AvtpStreamFilter

open AvtpExtractor (HoldsWords Ends beats hdrBeats)
open CrfExtractor (avtpAt)

-- ---------------------------------------------------------------------------
-- The filter
-- ---------------------------------------------------------------------------

/-- A slot's registers. -/
structure FilterSlot where
  enabled : Bool := false
  dstMacHi : UInt16 := 0
  dstMacLo : UInt32 := 0
  streamIdHi : UInt32 := 0
  streamIdLo : UInt32 := 0

def FilterSlot.dstMac (slot : FilterSlot) : UInt64 :=
  slot.dstMacHi.toUInt64 <<< 32 ||| slot.dstMacLo.toUInt64

def FilterSlot.streamId (slot : FilterSlot) : UInt64 :=
  slot.streamIdHi.toUInt64 <<< 32 ||| slot.streamIdLo.toUInt64

structure Filter (nSlots : Nat) where
  beatIdx : Nat
  hdrWords : Nat → UInt32
  vlanPresentB : Bool
  subtypeB : UInt8
  dstMacB : UInt64
  sidB : UInt64
  eofB : Bool
  slotMatchC : Fin nSlots → Bool
  eofC : Bool
  eof : Bool
  matchValid : Bool
  matchSlot : Nat
  matchCount : Fin nSlots → UInt32

variable {nSlots : Nat}

def reset (nSlots : Nat) : Filter nSlots where
  beatIdx := 0
  hdrWords := fun _ => 0
  vlanPresentB := false
  subtypeB := 0
  dstMacB := 0
  sidB := 0
  eofB := false
  slotMatchC := fun _ => false
  eofC := false
  eof := false
  matchValid := false
  matchSlot := 0
  matchCount := fun _ => 0

/-- The byte at this offset, in the word that has it, the first in the high
end. -/
def wireByte (word : UInt32) (off : Nat) : UInt8 :=
  (word >>> (24 - 8 * (off % 4)).toUInt32).toUInt8

/-- `byte_at`. -/
def Filter.header (s : Filter nSlots) : Buffer := fun off => wireByte (s.hdrWords (off / 4)) off

def Filter.vlanComb (s : Filter nSlots) : Bool := s.header 12 == 0x81 && s.header 13 == 0x00

def Filter.subtypeComb (s : Filter nSlots) : UInt8 :=
  if s.vlanComb then s.header 18 else s.header 14

def Filter.sidComb (s : Filter nSlots) : UInt64 :=
  if s.vlanComb then getBe64 (s.header.offset 22) else getBe64 (s.header.offset 18)

def Filter.dstMacComb (s : Filter nSlots) : UInt64 := getBe48 s.header

def slotMatch (slot : FilterSlot) (dstMac sid : UInt64) (subtype : UInt8) : Bool :=
  slot.enabled && slot.dstMac == dstMac && slot.streamId == sid &&
    (subtype == avtpSubtypeAaf || subtype == avtpSubtypeCrf)

/-- `slot_match_c` has only this bit. -/
def onlyBit (m : Fin nSlots → Bool) (i : Fin nSlots) : Bool :=
  (List.finRange nSlots).all fun j => m j == (j == i)

/-- The `Case`, in which no branch means `match_slot` 0. -/
def decodeSlot (m : Fin nSlots → Bool) : Nat :=
  (((List.finRange nSlots).find? (onlyBit m)).map Fin.val).getD 0

def step (slots : Fin nSlots → FilterSlot) (s : Filter nSlots) (sink : Beat UInt32) :
    Filter nSlots where
  beatIdx :=
    if sink.valid then
      if sink.last then 0 else if s.beatIdx ≠ hdrBeats then s.beatIdx + 1 else s.beatIdx
    else s.beatIdx
  hdrWords :=
    if sink.valid ∧ s.beatIdx ≠ hdrBeats then Function.update s.hdrWords s.beatIdx sink.data
    else s.hdrWords
  vlanPresentB := if sink.valid ∧ sink.last then s.vlanComb else s.vlanPresentB
  subtypeB := if sink.valid ∧ sink.last then s.subtypeComb else s.subtypeB
  dstMacB := if sink.valid ∧ sink.last then s.dstMacComb else s.dstMacB
  sidB := if sink.valid ∧ sink.last then s.sidComb else s.sidB
  eofB := sink.valid && sink.last
  slotMatchC i :=
    if s.eofB then slotMatch (slots i) s.dstMacB s.sidB s.subtypeB else s.slotMatchC i
  eofC := s.eofB
  eof := s.eofC
  matchValid := s.eofC && (List.finRange nSlots).any s.slotMatchC
  matchSlot := if s.eofC then decodeSlot s.slotMatchC else s.matchSlot
  matchCount i := if s.eofC && s.slotMatchC i then s.matchCount i + 1 else s.matchCount i

/-- The state at the start of a cycle. -/
def state (slots : Fin nSlots → FilterSlot) (s : Filter nSlots) (sink : Nat → Beat UInt32) :
    Nat → Filter nSlots
  | 0 => s
  | t + 1 => step slots (state slots s sink t) (sink t)

/-- Between frames, with none on its way; the header, the keys and the counts
are anything. -/
structure Quiet (s : Filter nSlots) : Prop where
  beatIdx : s.beatIdx = 0
  eofB : s.eofB = false
  eofC : s.eofC = false
  eof : s.eof = false
  matchValid : s.matchValid = false

-- ---------------------------------------------------------------------------
-- Frames
-- ---------------------------------------------------------------------------

def packWord (a b c d : UInt8) : UInt32 :=
  a.toUInt32 <<< 24 ||| b.toUInt32 <<< 16 ||| c.toUInt32 <<< 8 ||| d.toUInt32

/-- `_bytes_to_beats`: the last word is filled with zeros. -/
def bytesToBeats : List UInt8 → List UInt32
  | [] => []
  | [a] => [packWord a 0 0 0]
  | [a, b] => [packWord a b 0 0]
  | [a, b, c] => [packWord a b c 0]
  | a :: b :: c :: d :: rest => packWord a b c d :: bytesToBeats rest

/-- The words' bytes. -/
def wireBytes (words : List UInt32) : Buffer := fun off =>
  (words[off / 4]?.map fun word => wireByte word off).getD 0

theorem wireBytes_cons (word : UInt32) (rest : List UInt32) (off : Nat) :
    wireBytes (word :: rest) (off + 4) = wireBytes rest off := by
  have hbyte (word : UInt32) : wireByte word (off + 4) = wireByte word off := by
    rw [wireByte, wireByte, Nat.add_mod_right]
  simp only [wireBytes, hbyte, Nat.add_div_right off (Nat.succ_pos 3), List.getElem?_cons_succ]

theorem wireBytes_pack (a b c d : UInt8) (rest : List UInt32) {off : Nat} (hoff : off < 4) :
    wireBytes (packWord a b c d :: rest) off = [a, b, c, d].getD off 0 := by
  have hbytes := be32_ofBytes a b c d
  simp only [be32, List.cons.injEq, and_true] at hbytes
  obtain ⟨ha, hb, hc, hd⟩ := hbytes
  rcases (by omega : off = 0 ∨ off = 1 ∨ off = 2 ∨ off = 3) with rfl | rfl | rfl | rfl
  · exact ha
  · exact hb
  · exact hc
  · exact hd

/-- The last word. -/
theorem wireBytes_filled (a b c d : UInt8) (off : Nat) :
    wireBytes [packWord a b c d] off = [a, b, c, d].getD off 0 := by
  rcases Nat.lt_or_ge off 4 with hlt | hge
  · exact wireBytes_pack a b c d [] hlt
  · obtain ⟨k, rfl⟩ := Nat.exists_eq_add_of_le' hge
    rw [wireBytes_cons]
    rfl

/-- A frame's bytes are those it was packed from. -/
theorem wireBytes_bytesToBeats (bytes : List UInt8) (off : Nat) :
    wireBytes (bytesToBeats bytes) off = bytes.getD off 0 := by
  fun_induction bytesToBeats bytes generalizing off with
  | case1 => rfl
  | case2 a =>
    rw [wireBytes_filled]
    rcases off with _ | _ | _ | _ | off <;> rfl
  | case3 a b =>
    rw [wireBytes_filled]
    rcases off with _ | _ | _ | _ | off <;> rfl
  | case4 a b c =>
    rw [wireBytes_filled]
    rcases off with _ | _ | _ | _ | off <;> rfl
  | case5 a b c d rest ih =>
    rcases Nat.lt_or_ge off 4 with hlt | hge
    · rw [wireBytes_pack _ _ _ _ _ hlt]
      rcases (by omega : off = 0 ∨ off = 1 ∨ off = 2 ∨ off = 3) with rfl | rfl | rfl | rfl <;> rfl
    · obtain ⟨k, rfl⟩ := Nat.exists_eq_add_of_le' hge
      rw [wireBytes_cons, ih]
      rfl

/-- The observed beats, as the extractor takes them. -/
def observed (sink : Nat → Beat UInt32) : Nat → AvtpCycle := fun t => ⟨sink t, {}, false, .l⟩

/-- The words of the frame whose last beat comes in the cycle. -/
def frame (sink : Nat → Beat UInt32) (t : Nat) : List UInt32 :=
  AvtpExtractor.frame (observed sink) t

/-- The slot has the frame's keys. -/
structure Matches (slots : Fin nSlots → FilterSlot) (frame : Buffer) (i : Fin nSlots) : Prop where
  enabled : (slots i).enabled = true
  dstMac : (slots i).dstMac = getBe48 frame
  streamId : (slots i).streamId = getBe64 (frame.offset (avtpAt frame + 4))
  subtype : frame (avtpAt frame) = avtpSubtypeAaf ∨ frame (avtpAt frame) = avtpSubtypeCrf

instance (slots : Fin nSlots → FilterSlot) (frame : Buffer) (i : Fin nSlots) :
    Decidable (Matches slots frame i) :=
  decidable_of_iff ((slots i).enabled = true ∧ (slots i).dstMac = getBe48 frame ∧
      (slots i).streamId = getBe64 (frame.offset (avtpAt frame + 4)) ∧
      (frame (avtpAt frame) = avtpSubtypeAaf ∨ frame (avtpAt frame) = avtpSubtypeCrf))
    ⟨fun h => ⟨h.1, h.2.1, h.2.2.1, h.2.2.2⟩, fun h => ⟨h.1, h.2, h.3, h.4⟩⟩

def LowestMatch (slots : Fin nSlots → FilterSlot) (frame : Buffer) (i : Fin nSlots) : Prop :=
  Matches slots frame i ∧ ∀ j < i, ¬ Matches slots frame j

/-- Every frame has at least 15 beats. -/
def LongFrames (sink : Nat → Beat UInt32) : Prop :=
  ∀ T, Ends (observed sink) T → 15 ≤ (frame sink T).length

/-- Three cycles after each frame's last beat, and then only, `eof` is up,
with what the frame matches; each slot that it matches is counted then. -/
structure Decides (slots : Fin nSlots → FilterSlot) (s : Filter nSlots)
    (sink : Nat → Beat UInt32) : Prop where
  eof : ∀ t, (state slots s sink t).eof = true ↔ ∃ T, T + 3 = t ∧ Ends (observed sink) T
  matchValid : ∀ t, (state slots s sink t).matchValid = true ↔
    ∃ T, T + 3 = t ∧ Ends (observed sink) T ∧ ∃ i, Matches slots (wireBytes (frame sink T)) i
  matchSlot : ∀ T i, Ends (observed sink) T →
    LowestMatch slots (wireBytes (frame sink T)) i →
      (state slots s sink (T + 3)).matchSlot = i.val
  counted : ∀ T i, Ends (observed sink) T → Matches slots (wireBytes (frame sink T)) i →
    (state slots s sink (T + 3)).matchCount i = (state slots s sink (T + 2)).matchCount i + 1
  kept : ∀ t i, (∀ T, T + 2 = t → Ends (observed sink) T →
      ¬ Matches slots (wireBytes (frame sink T)) i) →
    (state slots s sink (t + 1)).matchCount i = (state slots s sink t).matchCount i

/-- A frame that matches several slots matches the first. -/
def FirstOrOnly (slots : Fin nSlots → FilterSlot) (frame : Buffer) : Prop :=
  ∀ i, LowestMatch slots frame i → i.val = 0 ∨ ∀ j, Matches slots frame j → j = i

-- ---------------------------------------------------------------------------
-- What is kept of a frame
-- ---------------------------------------------------------------------------

/-- The counter and the header, within a frame. -/
structure Receiving (s : Filter nSlots) (words : List UInt32) : Prop where
  beatIdx : s.beatIdx = min words.length hdrBeats
  header : HoldsWords s.hdrWords hdrBeats words

section Step

variable {slots : Fin nSlots → FilterSlot} {s : Filter nSlots} {sink : Beat UInt32}
  {words : List UInt32}

theorem Receiving.idle (h : Receiving s words) (hvalid : sink.valid = false) :
    Receiving (step slots s sink) words := by
  obtain ⟨hidx, hheader⟩ := h
  constructor
  · rw [step, hvalid]
    exact hidx
  · rw [step, hvalid]
    exact hheader

theorem hdrWords_step (hvalid : sink.valid) (hidx : s.beatIdx ≤ hdrBeats) :
    (step slots s sink).hdrWords =
      if s.beatIdx < hdrBeats then Function.update s.hdrWords s.beatIdx sink.data
      else s.hdrWords := by
  simp only [step, hvalid, true_and]
  exact if_congr (by omega) rfl rfl

theorem Receiving.more (h : Receiving s words) (hvalid : sink.valid)
    (hlast : sink.last = false) : Receiving (step slots s sink) (words ++ [sink.data]) := by
  have hidx := h.beatIdx
  constructor
  · rw [step, hvalid, hlast, hidx, List.length_append, List.length_singleton]
    simp only [if_true, Bool.false_eq_true, if_false]
    split <;> omega
  · rw [hdrWords_step hvalid (by omega)]
    exact h.header.beat (by omega) sink.data

theorem Receiving.last (hvalid : sink.valid) (hlast : sink.last) :
    Receiving (step slots s sink) [] := by
  refine ⟨?_, .nil _ _⟩
  rw [step, hvalid, hlast]
  rfl

end Step

section Run

variable {slots : Fin nSlots → FilterSlot} {s : Filter nSlots} (hquiet : Quiet s)
  (sink : Nat → Beat UInt32)

include hquiet in
theorem receiving (t : Nat) : Receiving (state slots s sink t) (beats (observed sink) t) := by
  induction t with
  | zero => exact ⟨hquiet.beatIdx, .nil _ _⟩
  | succ t ih =>
    cases hvalid : (sink t).valid with
    | false =>
      rw [AvtpExtractor.beats_idle (observed sink) hvalid]
      exact ih.idle hvalid
    | true =>
      cases hlast : (sink t).last with
      | false =>
        rw [AvtpExtractor.beats_more (observed sink) hvalid hlast]
        exact ih.more hvalid hlast
      | true =>
        rw [AvtpExtractor.beats_ends (observed sink) ⟨hvalid, hlast⟩]
        exact .last hvalid hlast

include hquiet in
/-- With the last beat of a frame the header has its first eight words, if
that is not one of them. -/
theorem header_frame {T : Nat} (hlong : hdrBeats < (frame sink T).length) {i : Nat}
    (hi : i < 4 * hdrBeats) :
    (state slots s sink T).header i = wireBytes (frame sink T) i := by
  have hbound : i / 4 < (beats (observed sink) T).length := by
    rw [frame, AvtpExtractor.frame, List.length_append, List.length_singleton] at hlong
    omega
  have hget := List.getElem?_eq_getElem hbound
  have hreceiving : Receiving (state slots s sink T) _ := receiving hquiet sink T
  have hword := hreceiving.header (i / 4) _ (by omega) hget
  rw [Filter.header, hword, wireBytes, frame, AvtpExtractor.frame,
    List.getElem?_append_left hbound, hget]
  rfl

-- ---------------------------------------------------------------------------
-- The match of a frame
-- ---------------------------------------------------------------------------

theorem slotMatch_header (s : Filter nSlots) (i : Fin nSlots) :
    slotMatch (slots i) s.dstMacComb s.sidComb s.subtypeComb = true ↔
      Matches slots s.header i := by
  have hkeys : s.sidComb = getBe64 (s.header.offset (avtpAt s.header + 4)) ∧
      s.subtypeComb = s.header (avtpAt s.header) := by
    rw [Filter.sidComb, Filter.subtypeComb, avtpAt, Filter.vlanComb]
    split <;> exact ⟨rfl, rfl⟩
  rw [slotMatch, Filter.dstMacComb, hkeys.1, hkeys.2]
  simp only [Bool.and_eq_true, Bool.or_eq_true, beq_iff_eq]
  constructor
  · rintro ⟨⟨⟨henabled, hmac⟩, hsid⟩, hsubtype⟩
    exact ⟨henabled, hmac, hsid, hsubtype⟩
  · rintro ⟨henabled, hmac, hsid, hsubtype⟩
    exact ⟨⟨⟨henabled, hmac⟩, hsid⟩, hsubtype⟩

/-- The keys are in the first 30 bytes. -/
theorem matches_congr {f f' : Buffer} (h : ∀ i < 30, f i = f' i) (i : Fin nSlots) :
    Matches slots f i ↔ Matches slots f' i := by
  have hat : avtpAt f = avtpAt f' := by
    rw [avtpAt, avtpAt, h 12 (by decide), h 13 (by decide)]
  have hle : avtpAt f' ≤ 18 := by
    rw [avtpAt]
    split <;> omega
  have hmac : getBe48 f = getBe48 f' := getBe48_congr fun k hk => h k (by omega)
  have hsid : getBe64 (f.offset (avtpAt f' + 4)) = getBe64 (f'.offset (avtpAt f' + 4)) :=
    getBe64_congr fun k hk => h _ (by omega)
  have hsubtype : f (avtpAt f') = f' (avtpAt f') := h _ (by omega)
  constructor
  · rintro ⟨h1, h2, h3, h4⟩
    rw [hat, hsid] at h3
    rw [hat, hsubtype] at h4
    exact ⟨h1, h2.trans hmac, h3, h4⟩
  · rintro ⟨h1, h2, h3, h4⟩
    rw [← hsid, ← hat] at h3
    rw [← hsubtype, ← hat] at h4
    exact ⟨h1, h2.trans hmac.symm, h3, h4⟩

theorem keys_step (slots : Fin nSlots → FilterSlot) {sink : Beat UInt32} (s : Filter nSlots)
    (hvalid : sink.valid) (hlast : sink.last) :
    (step slots s sink).eofB ∧ (step slots s sink).subtypeB = s.subtypeComb ∧
      (step slots s sink).dstMacB = s.dstMacComb ∧ (step slots s sink).sidB = s.sidComb := by
  simp only [step, hvalid, hlast, and_self, if_true, Bool.and_self]

theorem match_step (slots : Fin nSlots → FilterSlot) (sink : Beat UInt32) {s : Filter nSlots}
    (heof : s.eofB) (i : Fin nSlots) :
    (step slots s sink).slotMatchC i = slotMatch (slots i) s.dstMacB s.sidB s.subtypeB := by
  simp only [step, heof, if_true]

include hquiet in
/-- Two cycles after the last beat of a frame `slot_match_c` has its
matches. -/
theorem slotMatchC_frame {T : Nat} (hends : Ends (observed sink) T)
    (hlong : hdrBeats < (frame sink T).length) (i : Fin nSlots) :
    (state slots s sink (T + 2)).slotMatchC i = true ↔
      Matches slots (wireBytes (frame sink T)) i := by
  obtain ⟨heof, hsubtype, hmac, hsid⟩ :=
    keys_step slots (state slots s sink T) hends.1 hends.2
  have hmatch := match_step slots (sink (T + 1)) heof i
  rw [hsubtype, hmac, hsid] at hmatch
  have hheader (k : Nat) (hk : k < 30) :
      (state slots s sink T).header k = wireBytes (frame sink T) k :=
    header_frame hquiet sink hlong (by rw [hdrBeats]; omega)
  rw [← matches_congr hheader, ← slotMatch_header, ← hmatch]
  exact Iff.rfl

/-- Nothing comes so many cycles before its time. -/
theorem none_before {P : Nat → Prop} {delay t : Nat} (h : t < delay) :
    false = true ↔ ∃ T, T + delay = t ∧ P T := by
  constructor
  · rintro ⟨⟩
  · rintro ⟨T, hT, -⟩
    omega

include hquiet in
theorem eofC_iff (t : Nat) :
    (state slots s sink t).eofC = true ↔ ∃ T, T + 2 = t ∧ Ends (observed sink) T := by
  rcases t with _ | _ | T
  · rw [state, hquiet.eofC]
    exact none_before (by decide)
  · rw [state, step, state, hquiet.eofB]
    exact none_before (by decide)
  · have heof : (state slots s sink (T + 2)).eofC = ((sink T).valid && (sink T).last) := rfl
    rw [heof, Bool.and_eq_true]
    constructor
    · exact fun hends => ⟨T, rfl, hends⟩
    · rintro ⟨T', hT', hends⟩
      obtain rfl : T' = T := by omega
      exact hends

-- ---------------------------------------------------------------------------
-- The decoding
-- ---------------------------------------------------------------------------

theorem onlyBit_iff {m : Fin nSlots → Bool} {i : Fin nSlots} :
    onlyBit m i = true ↔ ∀ j, m j = true ↔ j = i := by
  rw [onlyBit, List.all_eq_true]
  constructor
  · intro h j
    have hj := h j (List.mem_finRange j)
    rw [beq_iff_eq] at hj
    rw [hj, beq_iff_eq]
  · intro h j _
    rw [beq_iff_eq, Bool.eq_iff_iff, h j, beq_iff_eq]

theorem decodeSlot_only {m : Fin nSlots → Bool} {i : Fin nSlots} (h : ∀ j, m j = true ↔ j = i) :
    decodeSlot m = i.val := by
  have hfind : (List.finRange nSlots).find? (onlyBit m) = some i := by
    have hsome : ((List.finRange nSlots).find? (onlyBit m)).isSome :=
      List.find?_isSome.mpr ⟨i, List.mem_finRange i, onlyBit_iff.mpr h⟩
    obtain ⟨k, hk⟩ := Option.isSome_iff_exists.mp hsome
    obtain rfl : i = k := (onlyBit_iff.mp (List.find?_some hk) i).mp ((h i).mpr rfl)
    exact hk
  rw [decodeSlot, hfind]
  rfl

/-- Two bits match no branch. -/
theorem decodeSlot_several {m : Fin nSlots → Bool} {i j : Fin nSlots} (hi : m i = true)
    (hj : m j = true) (hne : j ≠ i) : decodeSlot m = 0 := by
  have hfind : (List.finRange nSlots).find? (onlyBit m) = none := by
    rw [List.find?_eq_none]
    intro k _ honly
    have hk := onlyBit_iff.mp honly
    exact hne (((hk j).mp hj).trans ((hk i).mp hi).symm)
  rw [decodeSlot, hfind]
  rfl

/-- A slot that matches is the one decoded just when it is the first, or the
only one. -/
theorem decodeSlot_lowest_iff {m : Fin nSlots → Bool} {i : Fin nSlots} (hi : m i = true) :
    decodeSlot m = i.val ↔ i.val = 0 ∨ ∀ j, m j = true → j = i := by
  by_cases honly : ∀ j, m j = true → j = i
  · have hiff (j : Fin nSlots) : m j = true ↔ j = i := ⟨honly j, fun h => h ▸ hi⟩
    exact ⟨fun _ => .inr honly, fun _ => decodeSlot_only hiff⟩
  · obtain ⟨j, hj⟩ := not_forall.mp honly
    obtain ⟨hj, hne⟩ := Classical.not_imp.mp hj
    rw [decodeSlot_several hi hj hne, or_iff_left honly]
    exact eq_comm

end Run

-- ---------------------------------------------------------------------------
-- Decisions
-- ---------------------------------------------------------------------------

section Decisions

variable {slots : Fin nSlots → FilterSlot} {s : Filter nSlots} (hquiet : Quiet s)
  {sink : Nat → Beat UInt32}

include hquiet in
theorem eof_iff (t : Nat) :
    (state slots s sink t).eof = true ↔ ∃ T, T + 3 = t ∧ Ends (observed sink) T := by
  cases t with
  | zero =>
    rw [state, hquiet.eof]
    exact none_before (by decide)
  | succ t =>
    have heof : (state slots s sink (t + 1)).eof = (state slots s sink t).eofC := rfl
    rw [heof, eofC_iff hquiet]
    refine exists_congr fun T => and_congr_left fun _ => ?_
    omega

variable (hlong : LongFrames sink)

/-- What stage D finds two cycles after a frame. -/
theorem stageD (slots : Fin nSlots → FilterSlot) {s : Filter nSlots} (hquiet : Quiet s)
    {sink : Nat → Beat UInt32} (hlong : LongFrames sink) {T : Nat} (hends : Ends (observed sink) T) :
    (state slots s sink (T + 2)).eofC = true ∧
      ∀ i, (state slots s sink (T + 2)).slotMatchC i = true ↔
        Matches slots (wireBytes (frame sink T)) i := by
  have hheader : hdrBeats < (frame sink T).length := Nat.lt_of_lt_of_le (by decide) (hlong T hends)
  exact ⟨(eofC_iff hquiet sink _).mpr ⟨T, rfl, hends⟩, slotMatchC_frame hquiet sink hends hheader⟩

include hquiet hlong in
theorem matchValid_iff (t : Nat) : (state slots s sink t).matchValid = true ↔
    ∃ T, T + 3 = t ∧ Ends (observed sink) T ∧
      ∃ i, Matches slots (wireBytes (frame sink T)) i := by
  cases t with
  | zero =>
    rw [state, hquiet.matchValid]
    exact none_before (by decide)
  | succ t =>
    have hvalid : (state slots s sink (t + 1)).matchValid = ((state slots s sink t).eofC &&
        (List.finRange nSlots).any (state slots s sink t).slotMatchC) := rfl
    rw [hvalid, Bool.and_eq_true, eofC_iff hquiet, List.any_eq_true]
    constructor
    · rintro ⟨⟨T, rfl, hends⟩, i, -, hi⟩
      exact ⟨T, rfl, hends, i, ((stageD slots hquiet hlong hends).2 i).mp hi⟩
    · rintro ⟨T, hT, hends, i, hi⟩
      obtain rfl : T + 2 = t := by omega
      exact ⟨⟨T, rfl, hends⟩, i, List.mem_finRange i, ((stageD slots hquiet hlong hends).2 i).mpr hi⟩

theorem matchCount_step (t : Nat) (i : Fin nSlots) :
    (state slots s sink (t + 1)).matchCount i =
      if (state slots s sink t).eofC && (state slots s sink t).slotMatchC i then
        (state slots s sink t).matchCount i + 1
      else (state slots s sink t).matchCount i := rfl

include hquiet hlong in
theorem matchCount_counted {T : Nat} (hends : Ends (observed sink) T) {i : Fin nSlots}
    (hi : Matches slots (wireBytes (frame sink T)) i) :
    (state slots s sink (T + 3)).matchCount i =
      (state slots s sink (T + 2)).matchCount i + 1 := by
  obtain ⟨heof, hmatch⟩ := stageD slots hquiet hlong hends
  rw [matchCount_step, heof, (hmatch i).mpr hi]
  rfl

include hquiet hlong in
theorem matchCount_kept {t : Nat} {i : Fin nSlots}
    (hno : ∀ T, T + 2 = t → Ends (observed sink) T →
      ¬ Matches slots (wireBytes (frame sink T)) i) :
    (state slots s sink (t + 1)).matchCount i = (state slots s sink t).matchCount i := by
  rw [matchCount_step]
  refine if_neg fun hcounts => ?_
  obtain ⟨heof, hmatch⟩ := Bool.and_eq_true_iff.mp hcounts
  obtain ⟨T, rfl, hends⟩ := (eofC_iff hquiet sink t).mp heof
  exact hno T rfl hends (((stageD slots hquiet hlong hends).2 i).mp hmatch)

include hquiet hlong in
/-- The slot shown for a frame is the lowest exactly if it is the only one,
or the first. -/
theorem matchSlot_iff {T : Nat} (hends : Ends (observed sink) T) {i : Fin nSlots}
    (hi : Matches slots (wireBytes (frame sink T)) i) :
    (state slots s sink (T + 3)).matchSlot = i.val ↔
      i.val = 0 ∨ ∀ j, Matches slots (wireBytes (frame sink T)) j → j = i := by
  obtain ⟨heof, hmatch⟩ := stageD slots hquiet hlong hends
  have hslot : (state slots s sink (T + 3)).matchSlot =
      decodeSlot (state slots s sink (T + 2)).slotMatchC := by
    rw [state, step, heof]
    rfl
  rw [hslot, decodeSlot_lowest_iff ((hmatch i).mpr hi)]
  exact or_congr_right (forall_congr' fun j => imp_congr_left (hmatch j))

end Decisions

/-- The filter decides every frame as it should exactly if every frame that
matches several slots matches the first. -/
theorem decides_iff {nSlots : Nat} (slots : Fin nSlots → FilterSlot) (s : Filter nSlots)
    (hquiet : Quiet s) (sink : Nat → Beat UInt32) (hlong : LongFrames sink) :
    Decides slots s sink ↔
      ∀ T, Ends (observed sink) T → FirstOrOnly slots (wireBytes (frame sink T)) := by
  constructor
  · intro h T hends i hlowest
    exact (matchSlot_iff hquiet hlong hends hlowest.1).mp (h.matchSlot T i hends hlowest)
  · intro h
    refine ⟨eof_iff hquiet, matchValid_iff hquiet hlong, ?_, ?_, ?_⟩
    · intro T i hends hlowest
      exact (matchSlot_iff hquiet hlong hends hlowest.1).mpr (h T hends i hlowest)
    · intro T i hends hi
      exact matchCount_counted hquiet hlong hends hi
    · intro t i hno
      exact matchCount_kept hquiet hlong hno

-- ---------------------------------------------------------------------------
-- One frame
-- ---------------------------------------------------------------------------

/-- The registers of a stream, and a frame of it. -/
def aafSlot : FilterSlot where
  enabled := true
  dstMacHi := 0x91E0
  dstMacLo := 0xF000FE42
  streamIdHi := 0x02000000
  streamIdLo := 0x00420001

def aafBytes : List UInt8 :=
  [0x91, 0xE0, 0xF0, 0x00, 0xFE, 0x42, 0x02, 0x00, 0x00, 0xFF, 0xFE, 0x00,
    0x22, 0xF0, 0x02, 0x00, 0x00, 0x00, 0x02, 0x00, 0x00, 0x00, 0x00, 0x42, 0x00, 0x01] ++
    List.replicate 34 0

def aafFrame : List UInt32 := bytesToBeats aafBytes

def oneFrame (t : Nat) : Beat UInt32 := ⟨decide (t < 15), t == 14, (aafFrame[t]?).getD 0⟩

theorem oneFrame_ends {T : Nat} (h : Ends (observed oneFrame) T) : T = 14 := beq_iff_eq.mp h.2

theorem oneFrame_bytes : wireBytes (frame oneFrame 14) = Buffer.ofList aafBytes := by
  have hframe : frame oneFrame 14 = aafFrame := by decide +kernel
  rw [hframe]
  exact funext (wireBytes_bytesToBeats aafBytes)

theorem oneFrame_long : LongFrames oneFrame := by
  intro T hends
  obtain rfl := oneFrame_ends hends
  decide +kernel

/-- Of three slots, the stream's are those given. -/
def threeSlots (stream : List (Fin 3)) (i : Fin 3) : FilterSlot :=
  if i ∈ stream then aafSlot else {}

theorem quiet_reset (nSlots : Nat) : Quiet (reset nSlots) := ⟨rfl, rfl, rfl, rfl, rfl⟩

/-- A stream in one slot. -/
theorem decides_iff_one : Decides (threeSlots [1]) (reset 3) oneFrame := by
  refine (decides_iff (threeSlots [1]) (reset 3) (quiet_reset 3) oneFrame oneFrame_long).mpr ?_
  rintro T hends i ⟨hi, -⟩
  obtain rfl := oneFrame_ends hends
  rw [oneFrame_bytes] at hi ⊢
  revert i
  decide +kernel

/-- A stream in slots 1 and 2 is shown as slot 0. -/
theorem twoMatches_first : ¬ Decides (threeSlots [1, 2]) (reset 3) oneFrame := by
  intro h
  have hends : Ends (observed oneFrame) 14 := ⟨rfl, rfl⟩
  have hlowest : LowestMatch (threeSlots [1, 2]) (wireBytes (frame oneFrame 14)) 1 := by
    rw [oneFrame_bytes]
    refine ⟨by decide +kernel, fun j hj => ?_⟩
    obtain rfl : j = 0 := by omega
    decide +kernel
  have hslot := h.matchSlot 14 1 hends hlowest
  have hshown : (state (threeSlots [1, 2]) (reset 3) oneFrame 17).matchSlot = 0 := by
    decide +kernel
  exact absurd (hshown.symm.trans hslot) (by decide)

end AvbAes3.AvtpStreamFilter
