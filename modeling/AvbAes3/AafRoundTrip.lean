import AvbAes3.GatewareFrame
import AvbAes3.VlanTransparent

/-!
# What is sent is what is received

`aaf_send_packet` places the fields of a packet behind a VLAN tag, one after
the other; `dispatch_rx` moves the pointer past the tag, and
`aaf_process_rx` reads them back by their offsets. A listener of the stream
takes every packet of a talker, without an error, and its ring gets channels
0 and 1 of the blocks sent.
-/

namespace AvbAes3.AafRoundTrip

open AafPacketizer (sentBlocks aafHeader_length aafSendPacket_bytes)

-- ---------------------------------------------------------------------------
-- Talker and listener
-- ---------------------------------------------------------------------------

/-- A packet that `aaf_send_packet` builds in some state of the talker, in the
MAC's memory at the listener's. -/
structure Packet where
  talker : Aaf
  now : PtpTimestamp
  slot : Buffer
  readings : Readings
  holds : slot.Holds 0 (aafSendPacket talker now).2

def Packet.len (p : Packet) : Nat := (aafSendPacket p.talker p.now).2.length

def Packet.blocks (p : Packet) : List SampleBlock := sentBlocks p.talker aafSamplesPerPacket

/-- Packets of one stream, each built after the last: of the talker's state
only the sequence number is kept between them. -/
structure Sent (streamId : StreamId) (packets : List Packet) : Prop where
  stream : ∀ p ∈ packets, p.talker.streamId = streamId
  next : packets.IsChain fun p q => q.talker.txSeq = (aafSendPacket p.talker p.now).1.txSeq

/-- A listener just bound to the stream, whose audio is captured. -/
def bound (fw : Firmware) (streamId : StreamId) : Firmware :=
  { fw with aaf := { aafBind fw.aaf streamId with rxAudioCapture := true } }

def Packet.received (p : Packet) (fw : Firmware) : Firmware :=
  dispatchRx fw p.slot p.len p.readings

def listener (fw : Firmware) (streamId : StreamId) : Machine Firmware Packet :=
  ⟨bound fw streamId, fun fw p => p.received fw⟩

/-- The ring behind the blocks has their first two channels. -/
structure Appended (before after : Aaf) (blocks : List SampleBlock) : Prop where
  write : after.rxWriteIdx = before.rxWriteIdx + UInt32.ofNat blocks.length
  pairs : ∀ i (h : i < blocks.length), ∀ ch : Fin aafChannels, ch.val < 2 →
    after.rxBuf ch (ringSlot (before.rxWriteIdx + UInt32.ofNat i)) = blocks[i] ch
  kept : ∀ ch slot, (∀ i < blocks.length, slot ≠ ringSlot (before.rxWriteIdx + UInt32.ofNat i)) →
    after.rxBuf ch slot = before.rxBuf ch slot

/-- The packet is taken, and nothing is lost of it. -/
structure Takes (fw : Firmware) (p : Packet) (fw' : Firmware) : Prop where
  handler : VlanTransparent.handlerOf p.slot p.len fw.scratch = some .aaf
  count : fw'.aaf.rxCount = fw.aaf.rxCount + 1
  seqErrors : fw'.aaf.rxSeqErrors = 0
  formatErrors : fw'.aaf.formatErrors = 0
  presentation : fw'.aaf.lastPresentationTs = (timestampNs p.now + 2000000).toUInt32
  six : p.blocks.length = 6
  ring : Appended fw.aaf fw'.aaf p.blocks

-- ---------------------------------------------------------------------------
-- The ring
-- ---------------------------------------------------------------------------

theorem sentBlocks_length (a : Aaf) (samples : Nat) : (sentBlocks a samples).length = samples := by
  induction samples generalizing a with
  | zero => rfl
  | succ samples ih => rw [sentBlocks, List.length_cons, ih]

/-- One turn of the copy. -/
def copyBlock (a : Aaf) (block : SampleBlock) : Aaf :=
  { a with
    rxBuf := fun ch =>
      if ch.val < 2 then Function.update (a.rxBuf ch) (ringSlot a.rxWriteIdx) (block ch)
      else a.rxBuf ch
    rxWriteIdx := a.rxWriteIdx + 1 }

theorem putBlock_length (block : SampleBlock) : (putBlock block).length = 32 := by
  simp [putBlock, be32, aafChannels]

/-- The first two channels, as `aaf_process_rx` reads them. -/
theorem getBe32_putBlock {audio : Buffer} {block : SampleBlock} (h : audio.Holds 0 (putBlock block)) :
    (getBe32 audio).toInt32 = block ⟨0, by decide⟩ ∧
      (getBe32 (audio.offset 4)).toInt32 = block ⟨1, by decide⟩ := by
  have hsplit : putBlock block = be32 (block ⟨0, by decide⟩).toUInt32 ++
      (be32 (block ⟨1, by decide⟩).toUInt32 ++ ((List.finRange aafChannels).drop 2).flatMap
        fun ch => be32 (block ch).toUInt32) := rfl
  rw [hsplit, Buffer.holds_append, Buffer.holds_append] at h
  have hzero := h.1.getBe32
  have hone := h.2.1.getBe32
  have hstart : audio.offset 0 = audio := funext fun i => congrArg audio (Nat.zero_add i)
  rw [hstart] at hzero
  rw [hzero]
  refine ⟨Int32.toInt32_toUInt32 _, ?_⟩
  exact (congrArg UInt32.toInt32 hone).trans (Int32.toInt32_toUInt32 _)

theorem copyBlocks_holds {audio : Buffer} {blocks : List SampleBlock}
    (h : audio.Holds 0 (blocks.flatMap putBlock)) (a : Aaf) :
    copyBlocks a audio blocks.length = blocks.foldl copyBlock a := by
  induction blocks generalizing a audio with
  | nil => rfl
  | cons block rest ih =>
    rw [List.flatMap_cons, Buffer.holds_append, putBlock_length] at h
    obtain ⟨hzero, hone⟩ := getBe32_putBlock h.1
    have hrest : (audio.offset (aafChannels * aafBytesPerSample)).Holds 0 (rest.flatMap putBlock) :=
      Buffer.holds_offset.mpr h.2
    rw [List.length_cons, copyBlocks, List.foldl_cons, hzero, hone]
    refine (ih hrest _).trans (congrArg (rest.foldl copyBlock) ?_)
    rw [copyBlock]
    congr 1
    funext ch
    by_cases hch : ch.val = 0
    · have hch' : ch = ⟨0, by decide⟩ := Fin.ext hch
      rw [hch', if_pos rfl, if_pos (by decide)]
    · by_cases hch1 : ch.val = 1
      · have hch' : ch = ⟨1, by decide⟩ := Fin.ext hch1
        rw [hch', if_neg (by decide), if_pos rfl, if_pos (by decide)]
      · rw [if_neg hch, if_neg hch1, if_neg (by omega)]

theorem copyBlock_rxBuf (a : Aaf) (block : SampleBlock) (ch : Fin aafChannels) :
    (copyBlock a block).rxBuf ch =
      if ch.val < 2 then Function.update (a.rxBuf ch) (ringSlot a.rxWriteIdx) (block ch)
      else a.rxBuf ch := rfl

theorem copyBlock_appended (a : Aaf) (block : SampleBlock) :
    Appended a (copyBlock a block) [block] := by
  have hzero : a.rxWriteIdx + UInt32.ofNat 0 = a.rxWriteIdx := UInt32.add_zero _
  refine ⟨rfl, fun i hi ch hch => ?_, fun ch slot hslot => ?_⟩
  · obtain rfl : i = 0 := Nat.lt_one_iff.mp hi
    rw [hzero, copyBlock_rxBuf, if_pos hch, Function.update_self]
    rfl
  · have hother := hslot 0 Nat.one_pos
    rw [hzero] at hother
    rw [copyBlock_rxBuf]
    split
    · rw [Function.update_of_ne hother]
    · rfl

/-- Blocks that do not come round the ring are appended one after the
other. -/
theorem Appended.append {a b c : Aaf} {first second : List SampleBlock}
    (h : Appended a b first) (h' : Appended b c second)
    (hfits : first.length + second.length ≤ aafBufferSize) : Appended a c (first ++ second) := by
  have hidx (i : Nat) : b.rxWriteIdx + UInt32.ofNat i =
      a.rxWriteIdx + UInt32.ofNat (first.length + i) := by
    rw [h.write, UInt32.ofNat_add, UInt32.add_assoc]
  refine ⟨?_, fun i hi ch hch => ?_, fun ch slot hslot => ?_⟩
  · rw [h'.write, hidx, List.length_append]
  · rw [List.length_append] at hi
    by_cases hlt : i < first.length
    · rw [List.getElem_append_left hlt, ← h.pairs i hlt ch hch]
      refine h'.kept ch _ fun j hj => ?_
      rw [hidx]
      exact AafPacketizer.ringSlot_ne _ (by omega) (by omega)
    · rw [List.getElem_append_right (by omega), ← h'.pairs (i - first.length) (by omega) ch hch, hidx,
        Nat.add_sub_cancel' (by omega)]
  · rw [List.length_append] at hslot
    rw [h'.kept ch slot fun i hi => ?_, h.kept ch slot fun i hi => hslot i (by omega)]
    rw [hidx]
    exact hslot _ (by omega)

theorem copyBlocks_appended (a : Aaf) {blocks : List SampleBlock}
    (hfits : blocks.length ≤ aafBufferSize) : Appended a (blocks.foldl copyBlock a) blocks := by
  induction blocks generalizing a with
  | nil => exact ⟨(UInt32.add_zero _).symm, nofun, fun _ _ _ => rfl⟩
  | cons block rest ih =>
    rw [List.length_cons] at hfits
    exact (copyBlock_appended a block).append (ih _ (by omega)) (by rw [List.length_singleton]; omega)

-- ---------------------------------------------------------------------------
-- The fields
-- ---------------------------------------------------------------------------

theorem getBe16_holds {b : Buffer} {at_ : Nat} {v : UInt16} (h : b.Holds at_ (be16 v)) :
    getBe16 (b.offset at_) = v := getBe16_eq (h 0 Nat.two_pos) (h 1 Nat.one_lt_two)

/-- The packet's fields, where they are read. -/
structure Fields (slot : Buffer) (seq : UInt8) (streamId : StreamId) (presTs : UInt32)
    (blocks : List SampleBlock) : Prop where
  tpid : getBe16 (slot.offset 12) = 0x8100
  ethertype : getBe16 (slot.offset 16) = avtpEthertype
  subtype : slot 18 = avtpSubtypeAaf
  seq : slot 20 = seq
  stream : (slot.offset 22).bytes 8 = streamId
  presTs : getBe32 (slot.offset 30) = presTs
  format : aafFormatMatches (slot.offset 18)
  dataLen : getBe16 (slot.offset 38) = 192
  audio : slot.Holds 42 (blocks.flatMap putBlock)

theorem fields_of_holds {slot : Buffer} {destMac srcMac : MacAddr} {tci : UInt16} {seq : UInt8}
    {streamId : StreamId} {presTs : UInt32} {blocks : List SampleBlock}
    (h : slot.Holds 0 (aafHeader destMac srcMac tci seq streamId presTs ++
      blocks.flatMap putBlock)) : Fields slot seq streamId presTs blocks := by
  rw [Buffer.holds_append, aafHeader_length] at h
  obtain ⟨hheader, haudio⟩ := h
  rw [aafHeader] at hheader
  simp only [Buffer.holds_append, List.length_append, Vector.length_toList, be16, be32,
    List.length_cons, List.length_nil, Nat.reduceAdd] at hheader
  obtain ⟨⟨⟨⟨⟨⟨⟨⟨⟨⟨⟨⟨-, -⟩, htpid⟩, -⟩, hethertype⟩, havtp⟩, hstream⟩, hpres⟩, hformat⟩,
    hnsr⟩, hdepth⟩, hlen⟩, -⟩ := hheader
  refine ⟨getBe16_holds htpid, getBe16_holds hethertype, havtp 0 (Nat.succ_pos 3),
    havtp 2 (Nat.lt_succ_of_lt (Nat.lt_succ_self 2)), ?_, Buffer.Holds.getBe32 hpres, ?_, getBe16_holds hlen, haudio⟩
  · exact Buffer.Holds.bytes (Buffer.holds_offset.mpr hstream)
  · have hrate := (congrArg getBe16 (Buffer.offset_offset slot 18 17)).trans (getBe16_holds hnsr)
    have hdepth' : (slot.offset 18) 19 = aafBitDepth := hdepth 0 Nat.one_pos
    have hformat' : (slot.offset 18) 16 = aafFormatInt32Bit := hformat 0 Nat.one_pos
    rw [aafFormatMatches, aafNsr, aafChannelsPerFrame, hrate, hdepth', hformat']
    decide

theorem Packet.fields (p : Packet) : Fields p.slot p.talker.txSeq p.talker.streamId
    (timestampNs p.now + aafPresentationOffsetNs).toUInt32 p.blocks := by
  have hholds := p.holds
  rw [aafSendPacket_bytes] at hholds
  exact fields_of_holds hholds

theorem Packet.blocks_length (p : Packet) : p.blocks.length = 6 := sentBlocks_length ..

theorem Packet.len_eq (p : Packet) : p.len = 234 := by
  have hpayload (blocks : List SampleBlock) :
      (blocks.flatMap putBlock).length = 32 * blocks.length := by
    simp [List.length_flatMap, putBlock_length, Nat.mul_comm]
  rw [Packet.len, aafSendPacket_bytes, List.length_append, aafHeader_length, hpayload,
    sentBlocks_length]
  rfl

-- ---------------------------------------------------------------------------
-- A packet received
-- ---------------------------------------------------------------------------

/-- The packet is handed on in place, behind its tag. -/
theorem Packet.rxFrame_eq (p : Packet) (scratch : Buffer) :
    rxFrame p.slot p.len scratch = ⟨p.slot.offset 4, 230, scratch⟩ := by
  have hfields := p.fields
  have htag : vlanLen p.slot 234 = 4 := if_pos ⟨by decide, hfields.tpid⟩
  have hdata : isAvtpData p.slot 234 4 = true := by
    rw [isAvtpData, hfields.ethertype, hfields.subtype]
    decide
  rw [p.len_eq]
  exact VlanTransparent.rxFrame_inPlace htag hdata scratch

theorem Packet.handler (p : Packet) (scratch : Buffer) :
    VlanTransparent.handlerOf p.slot p.len scratch = some .aaf := by
  have hfields := p.fields
  have hethertype : getBe16 ((p.slot.offset 4).offset 12) = avtpEthertype := hfields.ethertype
  have hsubtype : (p.slot.offset 4) 14 = avtpSubtypeAaf := hfields.subtype
  rw [VlanTransparent.handlerOf, p.rxFrame_eq]
  show rxHandler (p.slot.offset 4) 230 = some .aaf
  rw [rxHandler, hethertype, hsubtype]
  rfl

theorem Packet.dispatch (p : Packet) (fw : Firmware) :
    (p.received fw).aaf = aafProcessRx fw.aaf (p.slot.offset 4) 230 := by
  have hhandler := p.handler fw.scratch
  rw [VlanTransparent.handlerOf] at hhandler
  unfold Packet.received dispatchRx
  dsimp only
  rw [hhandler, p.rxFrame_eq]
  rfl

/-- What `aaf_process_rx` makes of a packet of its stream. -/
theorem aafProcessRx_fields {slot : Buffer} {seq : UInt8} {presTs : UInt32}
    {blocks : List SampleBlock} {a : Aaf} (h : Fields slot seq a.streamId presTs blocks)
    (hsix : blocks.length = 6) (henabled : a.rxEnabled = true) (hcapture : a.rxAudioCapture = true) :
    aafProcessRx a (slot.offset 4) 230 = blocks.foldl copyBlock { a with
      rxSeqErrors := if a.rxHaveLastSeq ∧ seq ≠ a.rxLastSeq + 1 then a.rxSeqErrors + 1 else a.rxSeqErrors
      rxLastSeq := seq
      rxHaveLastSeq := true
      lastPresentationTs := presTs
      rxCount := a.rxCount + 1 } := by
  have hpdu : (slot.offset 4).offset 14 = slot.offset 18 := Buffer.offset_offset ..
  have hsubtype : (slot.offset 18) 0 = avtpSubtypeAaf := h.subtype
  have hseq : (slot.offset 18) 2 = seq := h.seq
  have hstream : ((slot.offset 18).offset 4).bytes 8 = a.streamId := h.stream
  have hpres : getBe32 ((slot.offset 18).offset 12) = presTs := h.presTs
  have hlen : getBe16 ((slot.offset 18).offset 20) = 192 := h.dataLen
  have haudio : ((slot.offset 18).offset aafStreamHdrLen).Holds 0 (blocks.flatMap putBlock) := by
    rw [Buffer.offset_offset]
    exact Buffer.holds_offset.mpr h.audio
  have hcopied := copyBlocks_holds haudio
  rw [hsix] at hcopied
  unfold aafProcessRx
  dsimp only
  rw [hpdu, henabled, if_neg (by decide), if_neg (by decide), hsubtype, if_neg (not_not_intro rfl),
    hstream, if_neg (not_not_intro rfl), hcapture, if_neg (by decide), h.format, if_neg (by decide),
    hlen, hseq, hpres]
  exact hcopied _

theorem copyBlocks_others (blocks : List SampleBlock) (a : Aaf) : ∃ ring idx,
    blocks.foldl copyBlock a = { a with rxBuf := ring, rxWriteIdx := idx } := by
  induction blocks generalizing a with
  | nil => exact ⟨_, _, rfl⟩
  | cons block rest ih =>
    obtain ⟨ring, idx, hrest⟩ := ih (copyBlock a block)
    exact ⟨ring, idx, hrest⟩

theorem aafSendPacket_txSeq (a : Aaf) (now : PtpTimestamp) :
    (aafSendPacket a now).1.txSeq = a.txSeq + 1 := by
  obtain ⟨idx, underruns, hpacked⟩ := packBlocks_writes a aafSamplesPerPacket
  rw [aafSendPacket_state, hpacked]

/-- The listener expects this sequence number, or any. -/
structure Listening (streamId : StreamId) (expected : Option UInt8) (a : Aaf) : Prop where
  stream : a.streamId = streamId
  enabled : a.rxEnabled = true
  capture : a.rxAudioCapture = true
  seqErrors : a.rxSeqErrors = 0
  formatErrors : a.formatErrors = 0
  seq : ∀ seq ∈ expected, a.rxHaveLastSeq = true → a.rxLastSeq + 1 = seq

/-- The listener's state once the packet is counted. -/
def counted (a : Aaf) (seq : UInt8) (presTs : UInt32) : Aaf :=
  { a with
    rxLastSeq := seq
    rxHaveLastSeq := true
    lastPresentationTs := presTs
    rxCount := a.rxCount + 1 }

theorem Listening.received {streamId : StreamId} {expected : Option UInt8} {fw : Firmware}
    (h : Listening streamId expected fw.aaf) (p : Packet) (hstream : p.talker.streamId = streamId)
    (hseq : expected = some p.talker.txSeq) :
    (p.received fw).aaf = p.blocks.foldl copyBlock (counted fw.aaf p.talker.txSeq
      (timestampNs p.now + aafPresentationOffsetNs).toUInt32) := by
  have hfields := p.fields
  rw [hstream, ← h.stream] at hfields
  have hinOrder : ¬ (fw.aaf.rxHaveLastSeq ∧ p.talker.txSeq ≠ fw.aaf.rxLastSeq + 1) :=
    fun hbad => hbad.2 (h.seq _ hseq hbad.1).symm
  rw [p.dispatch, aafProcessRx_fields hfields p.blocks_length h.enabled h.capture, if_neg hinOrder]
  rfl

theorem Listening.takes {streamId : StreamId} {expected : Option UInt8} {fw : Firmware}
    (h : Listening streamId expected fw.aaf) (p : Packet) (hstream : p.talker.streamId = streamId)
    (hseq : expected = some p.talker.txSeq) :
    Takes fw p (p.received fw) ∧
      Listening streamId (some (aafSendPacket p.talker p.now).1.txSeq) (p.received fw).aaf := by
  have hrx := h.received p hstream hseq
  have hfits : p.blocks.length ≤ aafBufferSize := by
    rw [p.blocks_length]
    decide
  have happended := copyBlocks_appended (counted fw.aaf p.talker.txSeq
    (timestampNs p.now + aafPresentationOffsetNs).toUInt32) hfits
  obtain ⟨ring, idx, hothers⟩ := copyBlocks_others p.blocks (counted fw.aaf p.talker.txSeq
    (timestampNs p.now + aafPresentationOffsetNs).toUInt32)
  rw [← hrx] at happended hothers
  generalize p.received fw = fw' at happended hothers
  refine ⟨⟨p.handler _, ?_, ?_, ?_, ?_, p.blocks_length, ?_⟩, ⟨?_, ?_, ?_, ?_, ?_, ?_⟩⟩
  · rw [hothers]
    rfl
  · rw [hothers]
    exact h.seqErrors
  · rw [hothers]
    exact h.formatErrors
  · rw [hothers]
    rfl
  · exact ⟨happended.write, happended.pairs, happended.kept⟩
  · rw [hothers]
    exact h.stream
  · rw [hothers]
    exact h.enabled
  · rw [hothers]
    exact h.capture
  · rw [hothers]
    exact h.seqErrors
  · rw [hothers]
    exact h.formatErrors
  · rintro seq hmem -
    rw [hothers, ← Option.mem_some_iff.mp hmem, aafSendPacket_txSeq]
    rfl

-- ---------------------------------------------------------------------------
-- The stream
-- ---------------------------------------------------------------------------

theorem listener_step (fw₀ : Firmware) (streamId : StreamId) (fw : Firmware) (p : Packet) :
    (listener fw₀ streamId).step fw p = p.received fw := by
  rw [listener]

theorem takes_from {streamId : StreamId} {packets : List Packet} (hsent : Sent streamId packets)
    (fw₀ : Firmware) {fw : Firmware}
    (h : Listening streamId (packets.head?.map fun p => p.talker.txSeq) fw.aaf) :
    (listener fw₀ streamId).StepsFrom
      (fun fw p => Takes fw p (p.received fw)) fw packets := by
  induction packets generalizing fw with
  | nil => trivial
  | cons p rest ih =>
    obtain ⟨htakes, hnext⟩ := h.takes p (hsent.stream p List.mem_cons_self) rfl
    rw [Machine.stepsFrom_cons, listener_step]
    refine ⟨htakes, ih ⟨fun q hq => hsent.stream q (List.mem_cons_of_mem _ hq), ?_⟩ ?_⟩
    · exact hsent.next.tail
    · refine ⟨hnext.stream, hnext.enabled, hnext.capture, hnext.seqErrors, hnext.formatErrors, ?_⟩
      rintro _ hmem hhave
      obtain ⟨q, hq, rfl⟩ := Option.mem_map.mp hmem
      obtain ⟨others, rfl⟩ : ∃ others, rest = q :: others := List.head?_eq_some_iff.mp hq
      have hchain := (List.isChain_cons_cons.mp hsent.next).1
      exact hnext.seq _ (congrArg some hchain.symm) hhave

/-- A listener takes every packet that a talker of its stream builds. -/
theorem roundTrip (fw : Firmware) (streamId : StreamId) (packets : List Packet)
    (hsent : Sent streamId packets) :
    (listener fw streamId).Steps
      (fun before p => Takes before p (p.received before)) packets := by
  refine takes_from hsent fw ⟨rfl, rfl, rfl, rfl, rfl, ?_⟩
  rintro _ - ⟨⟩

/-- The packet as it comes out of the talker. -/
def packetOf (talker : Aaf) (now : PtpTimestamp) : Packet :=
  ⟨talker, now, Buffer.ofList (aafSendPacket talker now).2, {}, Buffer.holds_ofList _⟩

/-- Two packets between which the sequence number wraps. -/
theorem roundTrip_wrap :
    (listener boot aafStreamId).Steps
      (fun before p => Takes before p (p.received before))
      [packetOf { boot.aaf with txSeq := 255 } ⟨1000, 5⟩, packetOf boot.aaf ⟨1000, 125005⟩] := by
  refine roundTrip boot aafStreamId _ ⟨fun p hp => ?_, ?_⟩
  · rcases List.mem_pair.mp hp with rfl | rfl <;> rfl
  · refine List.isChain_pair.mpr ?_
    rw [aafSendPacket_txSeq]
    rfl

end AvbAes3.AafRoundTrip
