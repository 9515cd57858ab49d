import AvbAes3.AafRoundTrip
import AvbAes3.AvtpExtraction
import AvbAes3.CrfParsers
import AvbAes3.PacketFrames
import AvbAes3.UsbFrames

/-!
# From board to board

A talker's packets, as they come out of the packetizer, and the extractor of
a listener whose slot holds the stream. Other frames come between them, and
of the packets some may be lost, or come twice.

`audio_delivered`: the FIFO of each of the two channels is written the
channel's samples of the packets that arrived, six for each, in the order of
their arrival.
-/

namespace AvbAes3.WireAudio

open AvtpExtractor
open ChannelPairs (Channel)
open UsbAudio (packetBlocks)
open AafPacketizer (Block blockBytes)
open PacketFrames (stamped Bound wireBytes)

-- ---------------------------------------------------------------------------
-- All that is written
-- ---------------------------------------------------------------------------

def writtenTo (e : AvtpExtractor) (input : Nat → AvtpCycle) (ch : Channel) (t : Nat) :
    List UInt32 :=
  (List.range t).flatMap fun u => ((e.state input u).written ch).toList

/-- The frames that are taken up, by the cycles of their last beats. -/
def takenUp (e : AvtpExtractor) (input : Nat → AvtpCycle) (t : Nat) : List Nat :=
  (List.range t).filter fun T => decide (extracting e input (T + 3) = some T)

/-- One of the pieces grows, and those behind it are not begun. -/
theorem flatMap_grows {before after : List α} {x : α} {f g : α → List β} {more : List β}
    (hbefore : ∀ a ∈ before, g a = f a) (hx : g x = f x ++ more)
    (hafter : ∀ a ∈ after, f a = [] ∧ g a = []) :
    (before ++ x :: after).flatMap g = (before ++ x :: after).flatMap f ++ more := by
  rw [List.flatMap_append, List.flatMap_append, List.flatMap_cons, List.flatMap_cons,
    List.flatMap_congr hbefore, hx, List.flatMap_eq_nil_iff.mpr fun a ha => (hafter a ha).1,
    List.flatMap_eq_nil_iff.mpr fun a ha => (hafter a ha).2]
  simp

section Taken

variable {e : AvtpExtractor} {input : Nat → AvtpCycle} (hquiet : e.Quiet)

theorem writtenOf_succ (e : AvtpExtractor) (input : Nat → AvtpCycle) (T : Nat) (ch : Channel)
    (t : Nat) :
    writtenOf e input T ch (t + 1) = writtenOf e input T ch t ++
      if extracting e input t = some T then ((e.state input t).written ch).toList else [] := by
  rw [writtenOf, writtenOf, List.range_succ, List.flatMap_append, List.flatMap_singleton]

include hquiet

/-- Nothing is written of a frame before it is taken up. -/
theorem writtenOf_early {T t : Nat} (ht : t ≤ T + 3) (ch : Channel) :
    writtenOf e input T ch t = [] := by
  refine List.flatMap_eq_nil_iff.mpr fun u hu => if_neg fun hextracting => ?_
  have hge := ((extracting_iff hquiet).mp hextracting).2.1
  rw [List.mem_range] at hu
  omega

theorem mem_takenUp {T t : Nat} : T ∈ takenUp e input t ↔ T < t ∧ Starts e input T := by
  rw [takenUp, List.mem_filter, List.mem_range, decide_eq_true_iff, extracting_iff hquiet]
  refine and_congr_right fun _ => ?_
  constructor
  · exact fun h => h.1
  · exact fun h => ⟨h, by omega, by omega⟩

theorem written_idle {t : Nat} (h : extracting e input t = none) (ch : Channel) :
    (e.state input t).written ch = none := by
  by_cases hidle : (e.state input t).ex.exState = .idle
  · exact written_none (by rw [hidle]; decide) ch
  · obtain ⟨T, hT⟩ := extracting_of_busy hquiet hidle
    rw [h] at hT
    cases hT

theorem takenUp_grows (ch : Channel) (t : Nat) :
    ((takenUp e input t).flatMap fun T => writtenOf e input T ch (t + 1)) =
      ((takenUp e input t).flatMap fun T => writtenOf e input T ch t) ++
        ((e.state input t).written ch).toList := by
  cases hextracting : extracting e input t with
  | none =>
    rw [written_idle hquiet hextracting, Option.toList_none, List.append_nil]
    refine List.flatMap_congr fun T _ => ?_
    rw [writtenOf_succ, hextracting]
    exact List.append_nil _
  | some T =>
    obtain ⟨hstarts, hge, hlt⟩ := (extracting_iff hquiet).mp hextracting
    have hmem : T ∈ takenUp e input t := (mem_takenUp hquiet).mpr ⟨by omega, hstarts⟩
    have hsorted : (takenUp e input t).Pairwise (· < ·) := List.pairwise_lt_range.filter _
    obtain ⟨before, after, hsplit⟩ := List.append_of_mem hmem
    have hother {T' : Nat} (hne : T' ≠ T) :
        writtenOf e input T' ch (t + 1) = writtenOf e input T' ch t := by
      rw [writtenOf_succ, hextracting, if_neg fun h => hne (Option.some.inj h).symm,
        List.append_nil]
    rw [hsplit] at hsorted ⊢
    obtain ⟨-, htail, hlater⟩ := List.pairwise_append.mp hsorted
    refine flatMap_grows ?_ ?_ ?_
    · intro T' hT'
      exact hother (Nat.ne_of_lt (hlater T' hT' T List.mem_cons_self))
    · rw [writtenOf_succ, hextracting, if_pos rfl]
    · intro T' hT'
      -- taken up when the FSM was idle again, so after the walk that is on
      have hafter : T < T' := (List.pairwise_cons.mp htail).1 T' hT'
      have hstarts' : Starts e input T' :=
        ((mem_takenUp hquiet).mp (hsplit ▸ List.mem_append_right _ (List.mem_cons_of_mem _ hT'))).2
      have hlate : t + 1 ≤ T' + 3 := by
        by_contra hearly
        exact busy_of_starts hstarts hquiet (t := T' + 2) (by omega) (by omega) hstarts'.idle
      have hnone : writtenOf e input T' ch (t + 1) = [] := writtenOf_early hquiet hlate ch
      exact ⟨hother (Nat.ne_of_gt hafter) ▸ hnone, hnone⟩

theorem writtenTo_takenUp (ch : Channel) (t : Nat) :
    writtenTo e input ch t = (takenUp e input t).flatMap fun T => writtenOf e input T ch t := by
  induction t with
  | zero => rfl
  | succ t ih =>
    have hnew : (takenUp e input (t + 1)).flatMap (fun T => writtenOf e input T ch (t + 1)) =
        (takenUp e input t).flatMap fun T => writtenOf e input T ch (t + 1) := by
      rw [takenUp, List.range_succ, List.filter_append, List.flatMap_append, ← takenUp]
      refine (congrArg _ (List.flatMap_eq_nil_iff.mpr fun T hT => ?_)).trans (List.append_nil _)
      obtain rfl : T = t := List.mem_singleton.mp (List.mem_filter.mp hT).1
      exact writtenOf_early hquiet (by omega) ch
    rw [hnew, takenUp_grows hquiet, ← ih, writtenTo, List.range_succ, List.flatMap_append,
      List.flatMap_singleton, ← writtenTo]

end Taken

-- ---------------------------------------------------------------------------
-- A packet received
-- ---------------------------------------------------------------------------

/-- The beats of a frame with these bytes; the lanes behind them hold
anything. -/
structure CarriesBytes (words : List UInt32) (bytes : List UInt8) : Prop where
  length : words.length = (bytes.length + 3) / 4
  holds : (wordBytes words).Holds 0 bytes

theorem holds_pieces {f : α → List UInt8} (hsize : ∀ a, (f a).length = size) {b : Buffer}
    {at_ : Nat} {pieces : List α} (h : b.Holds at_ (pieces.flatMap f)) {k : Nat}
    (hk : k < pieces.length) : b.Holds (at_ + size * k) (f pieces[k]) := by
  induction pieces generalizing at_ k with
  | nil => exact absurd hk (Nat.not_lt_zero k)
  | cons a rest ih =>
    rw [List.flatMap_cons, Buffer.holds_append, hsize] at h
    cases k with
    | zero => exact h.1
    | succ k =>
      have hrest := ih h.2 (Nat.lt_of_succ_lt_succ hk)
      rw [Nat.mul_succ, Nat.add_comm (size * k), ← Nat.add_assoc]
      exact hrest

/-- The channel of the wire. -/
def wired (ch : Channel) : Fin aafChannels := AafPacketizer.channelOf ch.index

def softBlock (block : Block) : SampleBlock := fun ch => (block ch).toInt32

theorem putBlock_softBlock (block : Block) : putBlock (softBlock block) = blockBytes block := by
  simp [putBlock, softBlock, blockBytes]

theorem joined_toNat (hi : UInt16) (lo : UInt32) :
    (hi.toUInt64 <<< 32 ||| lo.toUInt64).toNat = hi.toNat * 4294967296 + lo.toNat := by
  have hhi := hi.toNat_lt
  have hlo := lo.toNat_lt
  simp only [UInt64.toNat_or, UInt64.toNat_shiftLeft, UInt32.toNat_toUInt64, UInt16.toNat_toUInt64,
    UInt64.reduceToNat, Nat.reduceMod]
  rw [Nat.mod_eq_of_lt (by rw [Nat.shiftLeft_eq]; omega),
    ← Nat.shiftLeft_add_eq_or_of_lt (by omega), Nat.shiftLeft_eq]

theorem be48_joined (hi : UInt16) (lo : UInt32) :
    be48 (hi.toUInt64 <<< 32 ||| lo.toUInt64) = be16 hi ++ be32 lo := by
  have hjoined := joined_toNat hi lo
  have hhi := hi.toNat_lt
  have hlo := lo.toNat_lt
  generalize hi.toUInt64 <<< 32 ||| lo.toUInt64 = v at hjoined
  simp only [be48, be16, be32, List.cons_append, List.nil_append, List.cons.injEq, and_true,
    ← UInt8.toNat_inj]
  simp [Nat.shiftRight_eq_div_pow, hjoined]
  omega

/-- The slot's destination, as it is compared. -/
theorem slotDstMac_holds {frame : Buffer} {mac : MacAddr} (h : frame.Holds 0 mac.toList)
    (streamId : StreamId) :
    slotDstMac (avtpFilterSetSlot streamId mac) = getBe48 frame := by
  have hjoined := joined_toNat (macHi mac).toUInt16 (macLo mac)
  have hhi := (macHi mac).toUInt16.toNat_lt
  have hlo := (macLo mac).toNat_lt
  rw [← regMac_eq, regMac, ← be48_joined] at h
  have hget := h.getBe48 (by omega)
  have hstart : frame.offset 0 = frame := funext fun i => congrArg frame (Nat.zero_add i)
  rw [hstart] at hget
  exact hget.symm

section Packet

variable {words : List UInt32} {talker : Firmware} {seq : UInt8} {pres : UInt32}
  {blocks : List Block} (hblocks : blocks.length = aafSamplesPerPacket)
  (h : CarriesBytes words
    (packetizerHeader (aafGwPushBinding talker).aafPkt seq pres ++ blocks.flatMap blockBytes))

include h

theorem packet_holds :
    (wordBytes words).Holds 0 talker.aaf.destMac.toList ∧
      AafRoundTrip.Fields (wordBytes words) seq talker.aaf.streamId pres
        (blocks.map softBlock) := by
  have hholds := h.holds
  have hpayload : blocks.flatMap blockBytes = (blocks.map softBlock).flatMap putBlock := by
    rw [List.flatMap_map]
    exact List.flatMap_congr fun block _ => (putBlock_softBlock block).symm
  rw [AafPacketizer.packetizerHeader_eq, hpayload] at hholds
  refine ⟨?_, AafRoundTrip.fields_of_holds hholds⟩
  rw [Buffer.holds_append, aafHeader] at hholds
  simp only [Buffer.holds_append, and_assoc] at hholds
  exact hholds.1

theorem packet_avtpAt : CrfExtractor.avtpAt (wordBytes words) = 18 := by
  obtain ⟨-, hfields⟩ := packet_holds h
  obtain ⟨h12, h13⟩ := (CrfParsers.getBe16_iff _ _).mp hfields.tpid
  rw [Buffer.offset_apply] at h12 h13
  rw [CrfExtractor.avtpAt, h12, h13]
  rfl

theorem packet_matches :
    matchesSlot (wordBytes words)
      (avtpFilterSetSlot talker.aaf.streamId talker.aaf.destMac) = true := by
  obtain ⟨hmac, hfields⟩ := packet_holds h
  have hsid := (CrfParsers.idRegisters_hold (Eq.refl (streamIdHi talker.aaf.streamId)) rfl
    ((wordBytes words).offset 22)).mpr hfields.stream
  rw [matchesSlot, packet_avtpAt h, slotMatch, slotDstMac_holds hmac, hfields.subtype, hsid]
  simp [avtpFilterSetSlot, slotStreamId]

include hblocks

theorem packet_length : words.length = 59 := by
  rw [h.length, List.length_append, AafPacketizer.packetizerHeader_length, List.length_flatMap,
    List.map_congr_left fun block _ => AafPacketizer.blockBytes_length block]
  simp [hblocks]
  rfl

theorem packet_wellFormed : WellFormed words := by
  obtain ⟨-, hfields⟩ := packet_holds h
  have hat := packet_avtpAt h
  refine ⟨?_, ?_, ?_, ?_⟩
  · rw [hat]
    exact hfields.ethertype
  · rw [hat]
    exact hfields.format
  · rw [hat]
    exact hfields.dataLen
  · rw [hat, packet_length hblocks h]
    decide

theorem packet_samples (ch : Channel) :
    samples (wordBytes words) ch = blocks.map fun block => block (wired ch) := by
  obtain ⟨-, hfields⟩ := packet_holds h
  rw [samples, packet_avtpAt h]
  refine List.ext_getElem (by simp [hblocks]) fun k _ hk => ?_
  rw [List.length_map] at hk
  have haudio := hfields.audio
  simp only [List.flatMap_map, putBlock_softBlock] at haudio
  have hblock : (wordBytes words).Holds (42 + 32 * k) (blockBytes blocks[k]) :=
    holds_pieces AafPacketizer.blockBytes_length haudio hk
  have hlt : ch.index < (List.finRange aafChannels).length := by cases ch <;> decide
  have hwired : (List.finRange aafChannels)[ch.index] = wired ch := by cases ch <;> rfl
  have hchannel := holds_pieces (f := fun c => be32 (blocks[k] c)) (fun _ => (rfl : _ = 4))
    hblock hlt
  rw [hwired] at hchannel
  simp only [List.getElem_map, List.getElem_range]
  rw [← hchannel.getBe32]
  congr 2
  unfold aafStreamHdrLen ChannelPairs.wireChannels aafBytesPerSample
  omega

end Packet

-- ---------------------------------------------------------------------------
-- The stream received
-- ---------------------------------------------------------------------------

/-- The packet whose frame ends in the cycle. -/
def arrival (input : Nat → AvtpCycle) (sent : Nat → Option Nat) (T : Nat) : Option Nat :=
  if Ends input T then sent T else none

def arrivals (input : Nat → AvtpCycle) (sent : Nat → Option Nat) (t : Nat) : List Nat :=
  (List.range t).filterMap (arrival input sent)

/-- The extractor of a listener bound to the stream. Of the frames it sees,
`sent` tells which packet each is, if it is one; no other matches the slot. -/
structure Receives (slot : ExtractorSlot) (packets : List (Option (List AafPacketizer.Beat)))
    (e : AvtpExtractor) (input : Nat → AvtpCycle) (sent : Nat → Option Nat) (t : Nat) : Prop where
  quiet : e.Quiet
  bound : ∀ u, (input u).slot = slot
  long : ∀ T, Ends input T → 15 ≤ (frame input T).length
  packet : ∀ T i, arrival input sent T = some i → ∃ packet, packets[i]? = some (some packet) ∧
    CarriesBytes (frame input T) (wireBytes packet)
  other : ∀ T, Ends input T → sent T = none →
    matchesSlot (wordBytes (frame input T)) slot = false
  room : ∀ T i, arrival input sent T = some i → ∀ ch, HasRoom e input T ch
  done : ∀ T i, arrival input sent T = some i → T < t → T + 53 ≤ t

theorem arrival_ends {input : Nat → AvtpCycle} {sent : Nat → Option Nat} {T i : Nat}
    (h : arrival input sent T = some i) : Ends input T := by
  by_contra hnot
  rw [arrival, if_neg hnot] at h
  cases h

theorem flatMap_filterMap {l : List α} {p : α → Bool} {g : α → Option β} {f : α → List γ}
    {f' : β → List γ} (hnone : ∀ a ∈ l, g a = none → p a = false)
    (hsome : ∀ a ∈ l, ∀ b, g a = some b → p a = true ∧ f a = f' b) :
    (l.filter p).flatMap f = (l.filterMap g).flatMap f' := by
  induction l with
  | nil => rfl
  | cons a rest ih =>
    have hrest := ih (fun x hx => hnone x (List.mem_cons_of_mem _ hx))
      fun x hx => hsome x (List.mem_cons_of_mem _ hx)
    cases hg : g a with
    | none =>
      have hp := hnone a List.mem_cons_self hg
      simpa [List.filter_cons, hp, List.filterMap_cons, hg] using hrest
    | some b =>
      obtain ⟨hp, hf⟩ := hsome a List.mem_cons_self b hg
      simpa [List.filter_cons, hp, List.filterMap_cons, hg, hf] using hrest

theorem packetBlocks_length {audio : List Block} {i : Nat}
    (h : i < audio.length / aafSamplesPerPacket) :
    (packetBlocks audio i).length = aafSamplesPerPacket := by
  rw [aafSamplesPerPacket] at h
  rw [packetBlocks, List.length_take, List.length_drop, aafSamplesPerPacket]
  omega

/-- A packet as its bytes come out of the builder. -/
theorem packet_bytes {binding : AafPktRegs} {s : (UsbBridge.Bridge × UsbBridge.Log) × List UInt32}
    (h : PacketFrames.Sound binding s) {i : Nat} {packet : List AafPacketizer.Beat}
    (hi : s.1.2.trace.packets[i]? = some (some packet)) :
    (packetBlocks s.1.2.trace.audio i).length = aafSamplesPerPacket ∧ ∃ seq pres,
      wireBytes packet = packetizerHeader binding seq pres ++
        (packetBlocks s.1.2.trace.audio i).flatMap blockBytes := by
  obtain ⟨pres, -, hbytes⟩ := h.framed.frame i packet hi
  refine ⟨packetBlocks_length ?_, _, pres, hbytes⟩
  have hcount := h.bridge.carries.packets
  have hlt := (List.getElem?_eq_some_iff.mp hi).1
  omega

section Receives

variable {talker : Firmware} {s : (UsbBridge.Bridge × UsbBridge.Log) × List UInt32}
  {e : AvtpExtractor} {input : Nat → AvtpCycle} {sent : Nat → Option Nat} {t : Nat}
  (hsound : PacketFrames.Sound (aafGwPushBinding talker).aafPkt s)
  (h : Receives (avtpFilterSetSlot talker.aaf.streamId talker.aaf.destMac) s.1.2.trace.packets e
    input sent t)

include h

/-- No other frame is taken up. -/
theorem Receives.other_left {T : Nat} (hnone : arrival input sent T = none) :
    ¬ Starts e input T := by
  intro hstarts
  have hlong := h.long T hstarts.ends
  have hmatches := (matches_of_starts h.quiet hstarts (by unfold hdrBeats; omega)).2
  rw [arrival, if_pos hstarts.ends] at hnone
  rw [h.bound, h.other T hstarts.ends hnone] at hmatches
  cases hmatches

include hsound

/-- A packet is taken up, and its samples are written. -/
theorem Receives.written {T i : Nat} (hi : arrival input sent T = some i) (ht : T < t)
    (ch : Channel) :
    Starts e input T ∧ writtenOf e input T ch t =
      (packetBlocks s.1.2.trace.audio i).map fun block => block (wired ch) := by
  obtain ⟨packet, hpacket, hcarries⟩ := h.packet T i hi
  obtain ⟨hsix, seq, pres, hbytes⟩ := packet_bytes hsound hpacket
  rw [hbytes] at hcarries
  have hlength := packet_length hsix hcarries
  have hmatches : Matches input T := by
    refine ⟨arrival_ends hi, ?_⟩
    rw [h.bound]
    exact packet_matches hcarries
  have hidle : (e.state input (T + 2)).ex.exState = .idle := idle_of_long h.quiet (by omega)
  have hstarts := starts_of_matches h.quiet hmatches (by unfold hdrBeats; omega) hidle
  refine ⟨hstarts, ?_⟩
  rw [← packet_samples hsix hcarries ch]
  exact writtenOf_wellFormed h.quiet hstarts (packet_wellFormed hsix hcarries) (h.room T i hi ch)
    (h.done T i hi ht)

theorem Receives.delivered (ch : Channel) :
    writtenTo e input ch t = (arrivals input sent t).flatMap fun i =>
      (packetBlocks s.1.2.trace.audio i).map fun block => block (wired ch) := by
  rw [writtenTo_takenUp h.quiet, takenUp, arrivals]
  refine flatMap_filterMap ?_ ?_
  · intro T _ hnone
    refine decide_eq_false fun hextracting => h.other_left hnone ?_
    exact ((extracting_iff h.quiet).mp hextracting).1
  · intro T hT i hi
    obtain ⟨hstarts, hwritten⟩ := h.written hsound hi (List.mem_range.mp hT) ch
    refine ⟨decide_eq_true ((extracting_iff h.quiet).mpr ⟨hstarts, ?_⟩), hwritten⟩
    omega

end Receives

/-- Whatever else comes in, and whatever becomes of the packets on the way. -/
theorem audio_delivered {talker : Firmware} {run : List UsbBridge.Edge}
    (hbound : stamped.Steps (Bound (aafGwPushBinding talker).aafPkt) run) {e : AvtpExtractor}
    {input : Nat → AvtpCycle} {sent : Nat → Option Nat} {t : Nat}
    (hreceives : Receives (avtpFilterSetSlot talker.aaf.streamId talker.aaf.destMac)
      (stamped.run run).1.2.trace.packets e input sent t) (ch : Channel) :
    writtenTo e input ch t = (arrivals input sent t).flatMap fun i =>
      (packetBlocks (stamped.run run).1.2.trace.audio i).map fun block => block (wired ch) :=
  hreceives.delivered (PacketFrames.sound_run hbound) ch

-- ---------------------------------------------------------------------------
-- From the host
-- ---------------------------------------------------------------------------

theorem packetBlocks_range (audio : List Block) (m : Nat) :
    (List.range m).flatMap (packetBlocks audio) = audio.take (aafSamplesPerPacket * m) := by
  induction m with
  | zero => rfl
  | succ m ih =>
    rw [List.range_succ, List.flatMap_append, ih, List.flatMap_singleton, packetBlocks,
      Nat.mul_succ, List.take_add]

theorem wordByte_packed (b0 b1 b2 b3 : UInt8) (i : Nat) :
    wordByte
        (b0.toUInt32 ||| b1.toUInt32 <<< 8 ||| b2.toUInt32 <<< 16 ||| b3.toUInt32 <<< 24) i =
      [b0, b1, b2, b3].getD (i % 4) 0 := by
  have hlane : i % 4 < 4 := Nat.mod_lt _ (by decide)
  rw [wordByte]
  generalize i % 4 = lane at hlane
  apply UInt8.toBitVec_inj.mp
  ext j hj
  interval_cases lane <;> simp <;> interval_cases j <;> simp

theorem bytesToBeats_carries (bytes : List UInt8) : CarriesBytes (bytesToBeats bytes) bytes where
  length := by simp [bytesToBeats]
  holds := by
    intro i hi
    have hword : i / 4 < (bytes.length + 3) / 4 := by omega
    have hlane : i % 4 < 4 := Nat.mod_lt _ (by decide)
    have hback : 4 * (i / 4) + i % 4 = i := Nat.div_add_mod i 4
    have hbyte : bytes[i] = bytes.getD (4 * (i / 4) + i % 4) 0 := by simp [hback, hi]
    rw [Nat.zero_add, wordBytes, bytesToBeats, List.getElem?_map, List.getElem?_range hword, hbyte]
    simp only [Option.map_some, Option.getD_some, wordByte_packed]
    generalize i % 4 = lane at hlane
    interval_cases lane <;> rfl

/-- A frame alone, received after a reset. -/
theorem lone_receives {binding : AafPktRegs}
    {s : (UsbBridge.Bridge × UsbBridge.Log) × List UInt32} (h : PacketFrames.Sound binding s)
    {packet : List AafPacketizer.Beat} (hpacket : s.1.2.trace.packets[0]? = some (some packet))
    (slot : ExtractorSlot) :
    Receives slot s.1.2.trace.packets {} (lone (bytesToBeats (wireBytes packet)) slot)
      (fun _ => some 0) 111 ∧
    arrivals (lone (bytesToBeats (wireBytes packet)) slot) (fun _ => some 0) 111 = [0] := by
  have hcarries := bytesToBeats_carries (wireBytes packet)
  obtain ⟨hsix, seq, pres, hbytes⟩ := packet_bytes h hpacket
  have hlength : (bytesToBeats (wireBytes packet)).length = 59 := by
    rw [hcarries.length, hbytes, List.length_append, AafPacketizer.packetizerHeader_length]
    simp [List.length_flatMap, AafPacketizer.blockBytes_length, hsix]
    rfl
  have hends {T : Nat} (hT : Ends (lone (bytesToBeats (wireBytes packet)) slot) T) : T = 58 ∧
      frame (lone (bytesToBeats (wireBytes packet)) slot) T = bytesToBeats (wireBytes packet) := by
    have hlast := ends_lone.mp hT
    exact ⟨by omega, frame_lone hlast⟩
  have hquiet : Quiet {} := ⟨rfl, rfl, rfl, rfl⟩
  refine ⟨⟨hquiet, fun _ => rfl, ?_, ?_, ?_, ?_, ?_⟩, ?_⟩
  · intro T hT
    rw [(hends hT).2, hlength]
    decide
  · intro T i hi
    have hT := arrival_ends hi
    have hframe := (hends hT).2
    obtain rfl : 0 = i := by
      rw [arrival, if_pos hT] at hi
      exact Option.some.inj hi
    exact ⟨packet, hpacket, hframe.symm ▸ hcarries⟩
  · intro T _ hnone
    cases hnone
  · intro T i hi ch
    obtain ⟨rfl, -⟩ := hends (arrival_ends hi)
    exact hasRoom_early hquiet (fun _ => rfl) _ (by decide) ch
  · intro T i hi _
    obtain ⟨rfl, -⟩ := hends (arrival_ends hi)
    decide
  · have hlast (T : Nat) : arrival (lone (bytesToBeats (wireBytes packet)) slot)
        (fun _ => some 0) T = if T = 58 then some 0 else none := by
      have hiff : Ends (lone (bytesToBeats (wireBytes packet)) slot) T ↔ T = 58 := by
        rw [ends_lone, hlength]
        omega
      simp only [arrival, hiff]
    rw [arrivals, List.filterMap_congr fun T _ => hlast T]
    rfl

/-- The host's first nine words, and the cycles until the packet is sent. -/
def talkerCycle : UsbBridge.Cycle :=
  { UsbBridge.cycle with regs := { (aafGwPushBinding boot).aafPkt with enable := true } }

def talkerRun : List UsbBridge.Edge :=
  (((Out2ch.logged.run UsbFrames.hostBytes).2.map UsbFrames.wData).take 9).map
      (fun word => .usb (some word)) ++
    List.replicate 1470 (.clk talkerCycle)

theorem talkerRun_bound :
    stamped.Steps (Bound (aafGwPushBinding boot).aafPkt) talkerRun := by
  decide +kernel

/-- It is the first. -/
theorem talkerRun_packet :
    ∃ packet, (stamped.run talkerRun).1.2.trace.packets[0]? = some (some packet) := by
  have hsound := PacketFrames.sound_run talkerRun_bound
  have hstream : (stamped.run talkerRun).1.1.packetizer.builder.fsm = .stream := by decide +kernel
  have htimes : (stamped.run talkerRun).2 = [2000000] := by decide +kernel
  have hstrobes : (stamped.run talkerRun).1.2.trace.strobes.length = 7 := by decide +kernel
  have hstamps := hsound.numbered.stamps
  have hcarries := hsound.bridge.carries
  have hcount := hcarries.packets
  rw [hstream, htimes] at hstamps
  rw [hcarries.strobes, hstrobes] at hcount
  generalize (stamped.run talkerRun).1.2.trace.packets = packets at hstamps hcount ⊢
  cases packets with
  | nil => cases hstamps
  | cons packet rest =>
    obtain rfl : rest = [] := by
      rw [List.length_cons] at hcount
      exact List.eq_nil_of_length_eq_zero (by unfold aafSamplesPerPacket at hcount; omega)
    cases packet with
    | none => cases hstamps
    | some packet => exact ⟨packet, rfl⟩

def talkerSlot : ExtractorSlot := avtpFilterSetSlot boot.aaf.streamId boot.aaf.destMac

theorem talkerRun_delivered : ∃ packet,
    (stamped.run talkerRun).1.2.trace.packets[0]? = some (some packet) ∧
      ∀ ch, writtenTo {} (lone (bytesToBeats (wireBytes packet)) talkerSlot) ch 111 =
        (packetBlocks (stamped.run talkerRun).1.2.trace.audio 0).map fun block =>
          block (wired ch) := by
  obtain ⟨packet, hpacket⟩ := talkerRun_packet
  obtain ⟨hreceives, hone⟩ :=
    lone_receives (PacketFrames.sound_run talkerRun_bound) hpacket talkerSlot
  refine ⟨packet, hpacket, fun ch => ?_⟩
  rw [audio_delivered talkerRun_bound hreceives ch, hone, List.flatMap_singleton]

end AvbAes3.WireAudio
