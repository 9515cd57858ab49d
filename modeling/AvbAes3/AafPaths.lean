import AvbAes3.AvtpExtraction
import AvbAes3.CrfParsers
import AvbAes3.MainLoop

/-!
# One audio frame, two paths

The extractor takes a frame by its destination, stream id and subtype, and
writes six blocks of whatever is in its buffer behind the header.
`aaf_process_rx` reads the sample format and the length too, and only gets
frames with AVTP's ethertype. `accepts_iff` says of which frames the
extractor writes nothing that the firmware would not.
-/

namespace AvbAes3.AafPaths

open AvtpExtractor
open ChannelPairs (Channel)
open CrfExtractor (avtpAt)
open CrfParsers (getBe16_iff idRegisters_hold)

/-- The MAC's receive memory has the frame of these words. -/
structure Holds (words : List UInt32) (mem : Buffer) (len : Nat) : Prop where
  length : words.length = (len + 3) / 4
  bytes : ∀ i < len, wordBytes words i = mem i

/-- The firmware takes packets of the slot's stream, and their audio. -/
structure Captures (a : Aaf) (slot : ExtractorSlot) : Prop where
  enabled : a.rxEnabled
  capture : a.rxAudioCapture
  hi : slot.streamIdHi = streamIdHi a.streamId
  lo : slot.streamIdLo = streamIdLo a.streamId

/-- The blocks that `aaf_process_rx` finds in a frame. -/
def blocksIn (mem : Buffer) (len : Nat) : Nat :=
  min (getBe16 (mem.offset (avtpAt mem + 20))).toNat (len - avtpAt mem - aafStreamHdrLen) /
    (aafChannels * aafBytesPerSample)

variable (e : AvtpExtractor) (input : Nat → AvtpCycle) (T : Nat) (slot : ExtractorSlot)
  (mem : Buffer) (len : Nat)

/-- If samples are written of the frame that ends in the cycle, and the CPU
does not get it, then it has AVTP's ethertype, the firmware would not reject
its format, and would have copied as many blocks. -/
def AcceptsOnly (a : Aaf) (scratch : Buffer) : Prop :=
  (∃ ch, writtenOf e input T ch (T + 53) ≠ []) → (e.state input T).matchAtEof (input T) →
    let rx := rxFrame mem len scratch
    let a' := aafProcessRx a rx.frame rx.len
    getBe16 (mem.offset (12 + vlanLen mem len)) = avtpEthertype ∧
      a'.formatErrors = a.formatErrors ∧
      ∀ ch, (writtenOf e input T ch (T + 53)).length = (a'.rxWriteIdx - a.rxWriteIdx).toNat

/-- The blocks of the frame the channel's FIFO has room for: all six unless it
is full. -/
def roomOf (ch : Channel) : Nat :=
  (List.range aafSamplesPerPacket).countP (roomFor e input T ch)

/-- A frame that the slot matches, that comes when the FSM is idle and that
there is room for has the ethertype, the format and as many blocks. -/
def TakesAudio : Prop :=
  matchesSlot mem slot → (e.state input (T + 2)).ex.exState = .idle →
    (∃ ch, roomOf e input T ch ≠ 0) →
      getBe16 (mem.offset (avtpAt mem - 2)) = avtpEthertype ∧
        aafFormatMatches (mem.offset (avtpAt mem)) ∧
        ∀ ch, roomOf e input T ch = blocksIn mem len

-- ---------------------------------------------------------------------------
-- aaf_process_rx
-- ---------------------------------------------------------------------------

theorem copyBlocks_counts (a : Aaf) (audio : Buffer) (blocks : Nat) :
    (copyBlocks a audio blocks).rxWriteIdx = a.rxWriteIdx + UInt32.ofNat blocks ∧
      (copyBlocks a audio blocks).formatErrors = a.formatErrors := by
  induction blocks generalizing a audio with
  | zero => exact ⟨(UInt32.add_zero _).symm, rfl⟩
  | succ blocks ih =>
    obtain ⟨hidx, herrors⟩ := ih { a with rxBuf := _, rxWriteIdx := a.rxWriteIdx + 1 }
      (audio.offset (aafChannels * aafBytesPerSample))
    refine ⟨hidx.trans ?_, herrors⟩
    rw [UInt32.add_assoc, Nat.add_comm, UInt32.ofNat_add]
    rfl

/-- A captured packet of the stream is counted as a format error, or its
blocks are copied. -/
theorem aafProcessRx_captured {a : Aaf} (henabled : a.rxEnabled) (hcapture : a.rxAudioCapture)
    {frame : Buffer} {len : Nat} (hlen : 14 + aafStreamHdrLen ≤ len)
    (hsubtype : frame 14 = avtpSubtypeAaf)
    (hstream : ((frame.offset 14).offset 4).bytes 8 = a.streamId) :
    (aafProcessRx a frame len).formatErrors =
        (if aafFormatMatches (frame.offset 14) then a.formatErrors else a.formatErrors + 1) ∧
      (aafProcessRx a frame len).rxWriteIdx = a.rxWriteIdx +
        UInt32.ofNat (if aafFormatMatches (frame.offset 14) then
          min (getBe16 ((frame.offset 14).offset 20)).toNat (len - 14 - aafStreamHdrLen) /
            (aafChannels * aafBytesPerSample)
        else 0) := by
  have hpdu : (frame.offset 14) 0 = avtpSubtypeAaf := hsubtype
  unfold aafProcessRx
  dsimp only
  rw [henabled, if_neg (by decide), if_neg (by omega), if_neg (not_not_intro hpdu),
    if_neg (not_not_intro hstream), hcapture, if_neg (by decide)]
  cases hformat : aafFormatMatches (frame.offset 14) with
  | false => exact ⟨rfl, (UInt32.add_zero _).symm⟩
  | true =>
    rw [if_neg (by decide), if_pos rfl, if_pos rfl]
    obtain ⟨hidx, herrors⟩ := copyBlocks_counts _ ((frame.offset 14).offset aafStreamHdrLen) _
    exact ⟨herrors, hidx⟩

-- ---------------------------------------------------------------------------
-- The frame in the MAC's memory
-- ---------------------------------------------------------------------------

section Memory

variable {mem : Buffer} {len : Nat}

theorem vlanLen_avtpAt (mem : Buffer) (hmin : 60 ≤ len) :
    14 + vlanLen mem len = avtpAt mem := by
  have htag : getBe16 (mem.offset 12) = 0x8100 ↔ (mem 12 == 0x81 && mem 13 == 0x00) = true := by
    rw [getBe16_iff, Bool.and_eq_true, beq_iff_eq, beq_iff_eq]
    rfl
  rw [vlanLen, avtpAt]
  by_cases hvlan : getBe16 (mem.offset 12) = 0x8100
  · rw [if_pos ⟨by omega, hvlan⟩, if_pos (htag.mp hvlan)]
  · rw [if_neg fun h => hvlan h.2, if_neg (mt htag.mpr hvlan)]

theorem avtpAt_le (mem : Buffer) : avtpAt mem ≤ 18 := by
  rw [avtpAt]
  split <;> omega

/-- AVTP audio is handed on in place. -/
theorem rxFrame_audio (hmin : 60 ≤ len)
    (hethertype : getBe16 (mem.offset (12 + vlanLen mem len)) = avtpEthertype)
    (hsubtype : mem (avtpAt mem) = avtpSubtypeAaf) (scratch : Buffer) :
    rxFrame mem len scratch = ⟨mem.offset (vlanLen mem len), len - vlanLen mem len, scratch⟩ := by
  have hat := vlanLen_avtpAt mem hmin
  have hle := avtpAt_le mem
  have hdata : isAvtpData mem len (vlanLen mem len) = true := by
    rw [isAvtpData, hethertype, hat, hsubtype, decide_eq_true (by omega)]
    rfl
  rw [rxFrame]
  dsimp only
  rw [if_pos hdata]

/-- What the firmware makes of a frame of the slot's stream. -/
theorem firmware_audio {a : Aaf} {slot : ExtractorSlot} (ha : Captures a slot) (hmin : 60 ≤ len)
    (hethertype : getBe16 (mem.offset (12 + vlanLen mem len)) = avtpEthertype)
    (hmatch : matchesSlot mem slot) (scratch : Buffer) :
    let rx := rxFrame mem len scratch
    let a' := aafProcessRx a rx.frame rx.len
    a'.formatErrors =
        (if aafFormatMatches (mem.offset (avtpAt mem)) then a.formatErrors
          else a.formatErrors + 1) ∧
      a'.rxWriteIdx = a.rxWriteIdx + UInt32.ofNat
        (if aafFormatMatches (mem.offset (avtpAt mem)) then blocksIn mem len else 0) := by
  have hat := vlanLen_avtpAt mem hmin
  have hle := avtpAt_le mem
  rw [matchesSlot, slotMatch, Bool.and_eq_true, Bool.and_eq_true, beq_iff_eq, beq_iff_eq] at hmatch
  obtain ⟨⟨-, hsid⟩, hsubtype⟩ := hmatch
  have hpdu : (mem.offset (vlanLen mem len)).offset 14 = mem.offset (avtpAt mem) := by
    rw [Buffer.offset_offset, Nat.add_comm, hat]
  have hlen : len - vlanLen mem len - 14 = len - avtpAt mem := by omega
  have hstream : ((mem.offset (avtpAt mem)).offset 4).bytes 8 = a.streamId := by
    rw [Buffer.offset_offset]
    exact (idRegisters_hold ha.hi ha.lo _).mp hsid.symm
  rw [rxFrame_audio hmin hethertype hsubtype]
  have hlong : 14 + aafStreamHdrLen ≤ len - vlanLen mem len := by
    unfold aafStreamHdrLen
    omega
  have hcaptured := aafProcessRx_captured ha.enabled ha.capture hlong
    ((congrFun hpdu 0).trans hsubtype) (by rw [hpdu]; exact hstream)
  rw [hpdu, hlen, Buffer.offset_offset] at hcaptured
  exact hcaptured

theorem sub_toNat_eq (idx : UInt32) {n : Nat} (hn : n < 2 ^ 32) :
    (idx + UInt32.ofNat n - idx).toNat = n := by
  rw [UInt32.add_comm, UInt32.add_sub_cancel]
  exact UInt32.toNat_ofNat_of_lt hn

/-- The firmware's counters tell whether it accepts the format, and how many
blocks it copies. -/
theorem firmware_accepts_iff {a : Aaf} {slot : ExtractorSlot} (ha : Captures a slot)
    (hmin : 60 ≤ len) (hmax : len ≤ 1522) (hmatch : matchesSlot mem slot) (scratch : Buffer)
    (written : Channel → Nat) :
    (let rx := rxFrame mem len scratch
      let a' := aafProcessRx a rx.frame rx.len
      getBe16 (mem.offset (12 + vlanLen mem len)) = avtpEthertype ∧
        a'.formatErrors = a.formatErrors ∧
        ∀ ch, written ch = (a'.rxWriteIdx - a.rxWriteIdx).toNat) ↔
      getBe16 (mem.offset (avtpAt mem - 2)) = avtpEthertype ∧
        aafFormatMatches (mem.offset (avtpAt mem)) ∧ ∀ ch, written ch = blocksIn mem len := by
  have hat := vlanLen_avtpAt mem hmin
  have hoff : avtpAt mem - 2 = 12 + vlanLen mem len := by omega
  rw [hoff]
  refine and_congr_right fun hethertype => ?_
  obtain ⟨herrors, hidx⟩ := firmware_audio ha hmin hethertype hmatch scratch
  have hblocks : blocksIn mem len < 2 ^ 32 := by
    refine Nat.lt_of_le_of_lt (Nat.div_le_self ..) (Nat.lt_of_le_of_lt (Nat.min_le_right ..) ?_)
    omega
  rw [herrors, hidx]
  cases hformat : aafFormatMatches (mem.offset (avtpAt mem)) with
  | false =>
    refine iff_of_false (fun h => ?_) fun h => absurd h.1 Bool.false_ne_true
    have hsame : a.formatErrors + 1 = a.formatErrors := h.1
    exact absurd hsame (by simp)
  | true =>
    rw [if_pos rfl, if_pos rfl, sub_toNat_eq _ hblocks]
    simp only [true_and]

end Memory

-- ---------------------------------------------------------------------------
-- What is written
-- ---------------------------------------------------------------------------

theorem length_flatMap_if (p : Nat → Bool) (f : Nat → UInt32) (blocks : List Nat) :
    (blocks.flatMap fun block => if p block then [f block] else []).length = blocks.countP p := by
  induction blocks with
  | nil => rfl
  | cons block rest ih =>
    rw [List.flatMap_cons, List.length_append, ih, List.countP_cons, Nat.add_comm]
    cases p block <;> rfl

section Written

variable {e : AvtpExtractor} (hquiet : e.Quiet) {input : Nat → AvtpCycle} {T : Nat}

include hquiet

theorem writtenOf_length (hstarts : Starts e input T) (ch : Channel) :
    (writtenOf e input T ch (T + 53)).length = roomOf e input T ch := by
  rw [roomOf, ← length_flatMap_if _ fun block =>
    getBe32 ((walked e input T).offset
      ((ChannelPairs.wireChannels * block + ch.index) * aafBytesPerSample))]
  exact congrArg List.length (writtenOf_blocks hquiet hstarts ch 0)

theorem writtenOf_none (hnot : ¬ Starts e input T) (ch : Channel) (t : Nat) :
    writtenOf e input T ch t = [] :=
  List.flatMap_eq_nil_iff.mpr fun _ _ =>
    if_neg fun hextracting => hnot ((extracting_iff hquiet).mp hextracting).1

end Written

/-- A frame of 60 to 1522 bytes that ends in the cycle, over a slot whose
registers do not change. -/
structure Received (input : Nat → AvtpCycle) (T : Nat) (slot : ExtractorSlot) (mem : Buffer)
    (len : Nat) : Prop where
  ends : Ends input T
  slot : ∀ t, (input t).slot = slot
  holds : Holds (frame input T) mem len
  min : 60 ≤ len
  max : len ≤ 1522

section Received

variable {input : Nat → AvtpCycle} {T : Nat} {slot : ExtractorSlot} {mem : Buffer} {len : Nat}
  (h : Received input T slot mem len)

include h

theorem Received.long : hdrBeats < (frame input T).length := by
  have hmin := h.min
  rw [h.holds.length]
  unfold hdrBeats
  omega

theorem Received.matches_iff : Matches input T ↔ matchesSlot mem slot := by
  have hmin := h.min
  have hmem := (matchesSlot_congr fun i hi => h.holds.bytes i (by omega)).2
  rw [Matches, and_iff_right h.ends, hmem, h.slot]

theorem Received.starts_iff {e : AvtpExtractor} (hquiet : e.Quiet) :
    Starts e input T ↔
      matchesSlot mem slot ∧ (e.state input (T + 2)).ex.exState = .idle := by
  rw [← h.matches_iff]
  constructor
  · exact fun hstarts => ⟨matches_of_starts hquiet hstarts h.long, hstarts.idle⟩
  · rintro ⟨hmatches, hidle⟩
    exact starts_of_matches hquiet hmatches h.long hidle

/-- A frame that is taken up is kept from the CPU. -/
theorem Received.hidden {e : AvtpExtractor} (hquiet : e.Quiet) (hmatch : matchesSlot mem slot) :
    (e.state input T).matchAtEof (input T) := by
  have hmin := h.min
  have hmem := (matchesSlot_congr fun i hi => h.holds.bytes i (by omega)).2
  have hheader := (matchesSlot_congr fun i hi =>
    header_frame hquiet input h.long (i := i) (by unfold hdrBeats; omega)).2
  rw [matchAtEof, h.ends.1, h.ends.2, h.slot, slotMatch_header, hheader, hmem, hmatch]
  rfl

end Received

/-- The extractor accepts only what the firmware accepts exactly of the frames
that it does not take up, or that are what it takes them for. -/
theorem acceptsOnly_iff (e : AvtpExtractor) (hquiet : e.Quiet) (input : Nat → AvtpCycle) (T : Nat)
    (slot : ExtractorSlot) (mem : Buffer) (len : Nat) (h : Received input T slot mem len)
    (a : Aaf) (ha : Captures a slot) (scratch : Buffer) :
    AcceptsOnly e input T mem len a scratch ↔ TakesAudio e input T slot mem len := by
  by_cases hstarts : Starts e input T
  · obtain ⟨hmatch, hidle⟩ := (h.starts_iff hquiet).mp hstarts
    have hwritten : (∃ ch, writtenOf e input T ch (T + 53) ≠ []) ↔
        ∃ ch, roomOf e input T ch ≠ 0 := by
      refine exists_congr fun ch => not_congr ?_
      rw [← writtenOf_length hquiet hstarts, List.length_eq_zero_iff]
    rw [AcceptsOnly, TakesAudio, forall_prop_of_true (h.hidden hquiet hmatch),
      forall_prop_of_true hmatch, forall_prop_of_true hidle, hwritten]
    simp only [writtenOf_length hquiet hstarts]
    exact imp_congr_right fun _ =>
      firmware_accepts_iff ha h.min h.max hmatch scratch (roomOf e input T)
  · refine iff_of_true ?_ fun hmatch hidle => ?_
    · rintro ⟨ch, hwritten⟩
      exact absurd (writtenOf_none hquiet hstarts ch _) hwritten
    · exact absurd ((h.starts_iff hquiet).mpr ⟨hmatch, hidle⟩) hstarts

-- ---------------------------------------------------------------------------
-- Two frames after a reset
-- ---------------------------------------------------------------------------

section Lone

variable {words : List UInt32} {slot : ExtractorSlot} {mem : Buffer} {len T : Nat}

/-- The only frame finds the FSM idle. -/
theorem starts_lone (h : Received (lone words slot) T slot mem len)
    (hmatch : matchesSlot mem slot) : Starts {} (lone words slot) T := by
  have hquiet : Quiet {} := ⟨rfl, rfl, rfl, rfl⟩
  refine (h.starts_iff hquiet).mpr ⟨hmatch, ?_⟩
  by_contra hbusy
  obtain ⟨T', hextracting⟩ := extracting_of_busy hquiet hbusy
  obtain ⟨hstarts, hge, -⟩ := (extracting_iff hquiet).mp hextracting
  have hends := ends_lone.mp h.ends
  have hends' := ends_lone.mp hstarts.ends
  omega

/-- And room in both FIFOs. -/
theorem roomOf_lone (h : Received (lone words slot) T slot mem len)
    (hmatch : matchesSlot mem slot) (hearly : T + 53 ≤ ChannelPairs.fifoDepth) (ch : Channel) :
    roomOf {} (lone words slot) T ch = aafSamplesPerPacket := by
  have hquiet : Quiet {} := ⟨rfl, rfl, rfl, rfl⟩
  have hroom := hasRoom_early hquiet (fun _ => rfl) (lone words slot) hearly ch
  rw [roomOf, List.countP_eq_length.mpr fun block hblock =>
    hasRoom_block hquiet (starts_lone h hmatch) hroom (List.mem_range.mp hblock), List.length_range]

end Lone

def capturing : Aaf := { aafBind (aafInit boardMac aafSid aafMac) aafSid with rxAudioCapture := true }

theorem capturing_captures : Captures capturing boundSlot := ⟨rfl, rfl, rfl, rfl⟩

theorem aafWords_received :
    Received (lone aafWords boundSlot) 58 boundSlot (Buffer.ofList aafBytes) 234 := by
  have hlength : aafWords.length = 59 := by decide +kernel
  refine ⟨ends_lone.mpr hlength.symm, fun _ => rfl, ?_, by decide, by decide⟩
  rw [frame_lone hlength.symm]
  exact ⟨hlength, by decide +kernel⟩

/-- Eight channels of 32 bits in six blocks. -/
theorem aafWords_accepted :
    AcceptsOnly {} (lone aafWords boundSlot) 58 (Buffer.ofList aafBytes) 234 capturing
      (fun _ => 0) := by
  have hquiet : Quiet {} := ⟨rfl, rfl, rfl, rfl⟩
  refine (acceptsOnly_iff {} hquiet (lone aafWords boundSlot) 58 boundSlot
    (Buffer.ofList aafBytes) 234 aafWords_received capturing capturing_captures
    fun _ => 0).mpr fun hmatch _ _ => ⟨by decide +kernel, by decide +kernel, fun ch => ?_⟩
  rw [roomOf_lone aafWords_received hmatch (by decide) ch]
  decide +kernel

/-- A packet of the same stream with two channels of 16 bits, and six blocks of
them. -/
def stereoBytes : List UInt8 :=
  aafMac.toList ++ boardMac.toList ++ be16 0x8100 ++ be16 (vlanTci 3 2) ++ be16 avtpEthertype ++
    [avtpSubtypeAaf, 0x81, 0x00, 0x00] ++ aafSid.toList ++ be32 0 ++
    [0x04, 0x50, 0x02, 16] ++ be16 24 ++ [0x00, 0x00] ++ zeros 24

theorem stereo_received :
    Received (lone (bytesToBeats stereoBytes) boundSlot) 16 boundSlot (Buffer.ofList stereoBytes)
      66 := by
  have hlength : (bytesToBeats stereoBytes).length = 17 := by decide +kernel
  refine ⟨ends_lone.mpr hlength.symm, fun _ => rfl, ?_, by decide, by decide⟩
  rw [frame_lone hlength.symm]
  exact ⟨hlength, by decide +kernel⟩

/-- Six samples of each channel are written, and the firmware would have
counted a format error. -/
theorem stereo_taken :
    ¬ AcceptsOnly {} (lone (bytesToBeats stereoBytes) boundSlot) 16 (Buffer.ofList stereoBytes) 66
      capturing fun _ => 0 := by
  intro haccepts
  have hquiet : Quiet {} := ⟨rfl, rfl, rfl, rfl⟩
  have hmatch : matchesSlot (Buffer.ofList stereoBytes) boundSlot := by decide +kernel
  have hstarts := starts_lone stereo_received hmatch
  have hwritten :
      writtenOf {} (lone (bytesToBeats stereoBytes) boundSlot) 16 .l (16 + 53) ≠ [] := by
    rw [← List.length_pos_iff, writtenOf_length hquiet hstarts,
      roomOf_lone stereo_received hmatch (by decide)]
    decide
  obtain ⟨-, herrors, -⟩ :=
    haccepts ⟨.l, hwritten⟩ (stereo_received.hidden hquiet hmatch)
  exact absurd herrors (by decide +kernel)

end AvbAes3.AafPaths
