import AvbAes3.Out2ch
import AvbAes3.UsbBridge

/-!
# The frames of the host

The host's packets hold whole frames: for each of the eight channels a
subslot of four bytes, the lowest first, of which the upper three are audio.
What `out2ch` shows of them, written to `bridge_fifo`, is assembled to the
blocks of these frames.

`host_audio`: the packets on the wire carry the audio of the host.
-/

namespace AvbAes3.UsbFrames

open UsbAudio
open Out2ch (Byte StreamByte Packet Stream subslots streamOf)
open AafPacketizer (Block blockBytes channelOf)

-- ---------------------------------------------------------------------------
-- The host
-- ---------------------------------------------------------------------------

def subslotBytes (x : UInt32) : List Byte :=
  [x.toBitVec.extractLsb' 0 8, x.toBitVec.extractLsb' 8 8, x.toBitVec.extractLsb' 16 8,
    x.toBitVec.extractLsb' 24 8]

def channels : List (Fin aafChannels) := List.finRange aafChannels

/-- A frame, the subslot of each channel. -/
def frameBytes (f : Block) : List Byte := channels.flatMap fun ch => subslotBytes (f ch)

/-- The bytes of a packet; the first is marked. -/
def packetBytes (frames : List Block) : List StreamByte :=
  match frames.flatMap frameBytes with
  | [] => []
  | x :: rest => ⟨x, true⟩ :: rest.map fun y => ⟨y, false⟩

/-- The audio of a frame. -/
def hostBlock (f : Block) : Block := fun ch => f ch &&& 0xFFFFFF00

-- ---------------------------------------------------------------------------
-- What is shown and written
-- ---------------------------------------------------------------------------

/-- `bridge_fifo_w_data`. -/
def wData (x : Out2ch.Sample) : BridgeFifo.Word :=
  (0#28 ++ BitVec.ofBool x.first ++ x.channelNr) ++ (x.payload ++ 0#8)

def shown (f : Block) (ch : Fin aafChannels) : Out2ch.Sample :=
  ⟨(f ch).toBitVec.extractLsb' 8 24, BitVec.ofNat 3 ch, decide (ch.val = 0)⟩

def frameSamples (f : Block) : List Out2ch.Sample := channels.map (shown f)

theorem subslot_payload (x : BitVec 32) :
    x.extractLsb' 24 8 ++ (x.extractLsb' 16 8 ++ x.extractLsb' 8 8) = x.extractLsb' 8 24 := by
  have hlow : x.extractLsb' 16 8 ++ x.extractLsb' 8 8 = x.extractLsb' 8 16 :=
    BitVec.extractLsb'_append_extractLsb'_eq_extractLsb' rfl
  rw [hlow]
  exact BitVec.extractLsb'_append_extractLsb'_eq_extractLsb' rfl

theorem subslots_slot (channel : BitVec 3) (x : UInt32) (rest : List Byte) :
    subslots channel (subslotBytes x ++ rest) =
      ⟨x.toBitVec.extractLsb' 8 24, channel, decide (channel = 0#3)⟩ ::
        subslots (channel + 1#3) rest := by
  rw [← subslot_payload]
  rfl

/-- A frame of a packet gives a sample of each channel. -/
theorem subslots_frame (f : Block) (rest : List Byte) :
    subslots 0#3 (frameBytes f ++ rest) = frameSamples f ++ subslots 0#3 rest := by
  have hchannels : channels = [⟨0, by decide⟩, ⟨1, by decide⟩, ⟨2, by decide⟩, ⟨3, by decide⟩,
      ⟨4, by decide⟩, ⟨5, by decide⟩, ⟨6, by decide⟩, ⟨7, by decide⟩] := rfl
  rw [frameBytes, frameSamples, hchannels]
  simp only [List.flatMap_cons, List.flatMap_nil, List.append_nil, List.append_assoc, subslots_slot]
  rfl

theorem subslots_frames (frames : List Block) :
    subslots 0#3 (frames.flatMap frameBytes) = frames.flatMap frameSamples := by
  induction frames with
  | nil => rfl
  | cons f rest ih => rw [List.flatMap_cons, List.flatMap_cons, subslots_frame, ih]

-- ---------------------------------------------------------------------------
-- The packets
-- ---------------------------------------------------------------------------

/-- The bytes behind the first go to the last packet. -/
theorem add_more (p : Stream) (bytes : List Byte) :
    (bytes.map fun y => (⟨y, false⟩ : StreamByte)).foldl Stream.add p =
      { p with last := { p.last with bytes := p.last.bytes ++ bytes } } := by
  induction bytes generalizing p with
  | nil => simp
  | cons y rest ih =>
    rw [List.map_cons, List.foldl_cons, ih]
    simp [Stream.add]

theorem add_packet (p : Stream) (frames : List Block) :
    ((packetBytes frames).foldl Stream.add p).samples =
      p.samples ++ frames.flatMap frameSamples := by
  rw [← subslots_frames, packetBytes]
  cases frames.flatMap frameBytes with
  | nil => exact (List.append_nil _).symm
  | cons x rest =>
    simp only [List.foldl_cons]
    have hfirst : p.add ⟨x, true⟩ = ⟨p.closed ++ [p.last], ⟨0#3, [x]⟩⟩ := if_pos rfl
    rw [add_more, hfirst, Stream.samples_snoc]
    rfl

theorem packets_samples (packets : List (List Block)) :
    (streamOf (packets.flatMap packetBytes)).samples = packets.flatten.flatMap frameSamples := by
  suffices ∀ p : Stream, ((packets.flatMap packetBytes).foldl Stream.add p).samples =
      p.samples ++ packets.flatten.flatMap frameSamples from this _
  induction packets with
  | nil => exact fun p => (List.append_nil _).symm
  | cons frames rest ih =>
    intro p
    rw [List.flatMap_cons, List.foldl_append, ih, add_packet, List.flatten_cons,
      List.flatMap_append, List.append_assoc]

-- ---------------------------------------------------------------------------
-- The blocks
-- ---------------------------------------------------------------------------

/-- The sample as the packetizer sees it. -/
def seen (f : Block) (ch : Fin aafChannels) : UsbSample := UsbBridge.usbSample (wData (shown f ch))

def frameSeen (f : Block) : List UsbSample := channels.map (seen f)

theorem seen_hi (f : Block) (ch : Fin aafChannels) :
    (seen f ch).hi.toBitVec =
      0#28 ++ BitVec.ofBool (decide (ch.val = 0)) ++ BitVec.ofNat 3 ch :=
  BitVec.extractLsb'_append_eq_left

theorem seen_ch (f : Block) (ch : Fin aafChannels) : (seen f ch).ch = ch := by
  rw [UsbSample.ch, UInt32.toNat, seen_hi]
  refine Fin.ext ?_
  revert ch
  unfold aafChannels
  decide

theorem seen_first (f : Block) (ch : Fin aafChannels) :
    (seen f ch).first = decide (ch.val = 0) := by
  rw [UsbSample.first, UInt32.toNat, seen_hi]
  revert ch
  unfold aafChannels
  decide

theorem seen_samp32 (f : Block) (ch : Fin aafChannels) : (seen f ch).samp32 = hostBlock f ch := by
  have hmask : ∀ i < 32, (0xFFFFFF00#32).getLsbD i = decide (8 ≤ i) := by decide
  have hlo : (seen f ch).lo.toBitVec = (f ch).toBitVec.extractLsb' 8 24 ++ 0#8 :=
    BitVec.extractLsb'_append_eq_right
  refine UInt32.toBitVec_inj.mp ?_
  rw [UsbSample.samp32, hostBlock, UInt32.toBitVec_and, UInt32.toBitVec_and, hlo]
  refine BitVec.eq_of_getLsbD_eq fun i hi => ?_
  rw [BitVec.getLsbD_and, BitVec.getLsbD_and]
  refine (congrArg (_ && ·) (hmask i hi)).trans (Eq.trans ?_ (congrArg (_ && ·) (hmask i hi)).symm)
  by_cases hlow : 8 ≤ i
  · have hsame : ((f ch).toBitVec.extractLsb' 8 24 ++ 0#8).getLsbD i =
        (f ch).toBitVec.getLsbD i := by
      refine BitVec.getLsbD_append.trans ?_
      have hback : 8 + (i - 8) = i := by omega
      rw [if_neg (by omega), BitVec.getLsbD_extractLsb', hback]
      simp [show i - 8 < 24 by omega]
    rw [hsame]
  · rw [decide_eq_false hlow, Bool.and_false, Bool.and_false]

theorem frames_closed (samples : List UsbSample) {x : UsbSample} {rest : List UsbSample}
    (hfirst : x.first = true) (hrest : ∀ y ∈ rest, y.first = false) :
    frames (samples ++ x :: rest) = frames samples ++ [x :: rest] := by
  induction rest using List.reverseRecOn with
  | nil => exact frames_first samples hfirst
  | append_singleton rest y ih =>
    have hbefore := ih fun z hz => hrest z (List.mem_append_left _ hz)
    have hmore := frames_more hbefore (hrest y (by simp))
    simpa using hmore

/-- A frame's samples close the frame before. -/
theorem frames_frame (samples : List UsbSample) (f : Block) :
    frames (samples ++ frameSeen f) = frames samples ++ [frameSeen f] := by
  have hchannels : channels =
      ⟨0, by decide⟩ :: (List.finRange 7).map fun i => ⟨i.val + 1, Nat.succ_lt_succ i.isLt⟩ := rfl
  rw [frameSeen, hchannels, List.map_cons]
  refine frames_closed samples (seen_first ..) fun y hy => ?_
  simp only [List.map_map, List.mem_map] at hy
  obtain ⟨i, -, rfl⟩ := hy
  exact (seen_first ..).trans (decide_eq_false (Nat.succ_ne_zero _))

theorem foldl_seen (f block : Block) (chs : List (Fin aafChannels)) (ch : Fin aafChannels) :
    (chs.map (seen f)).foldl (fun block x => Function.update block x.ch x.samp32) block ch =
      if ch ∈ chs then hostBlock f ch else block ch := by
  induction chs generalizing block with
  | nil => rfl
  | cons c rest ih =>
    rw [List.map_cons, List.foldl_cons, ih, seen_ch, seen_samp32]
    rcases eq_or_ne ch c with rfl | hne
    · simp
    · simp [hne]

theorem blockOf_frame (f : Block) : blockOf (frameSeen f) = hostBlock f := by
  funext ch
  exact (foldl_seen ..).trans (if_pos (List.mem_finRange ch))

/-- The samples of frames, assembled. -/
theorem assembled_frames (hosts : List Block) :
    (frames (hosts.flatMap frameSeen)).map blockOf =
      hosts.map hostBlock := by
  induction hosts using List.reverseRecOn with
  | nil => rfl
  | append_singleton hosts f ih =>
    rw [List.flatMap_append, List.flatMap_singleton, frames_frame, List.map_append, ih,
      List.map_append, List.map_singleton, List.map_singleton, blockOf_frame]

/-- Of a beginning of the samples a beginning of the blocks is assembled. -/
theorem assembled_extends (samples more : List UsbSample) :
    assembled samples <+: assembled (samples ++ more) := by
  induction more using List.reverseRecOn with
  | nil => rw [List.append_nil]
  | append_singleton more x ih =>
    rw [← List.append_assoc, (assembled_snoc _ x).1]
    exact ih.trans (List.prefix_append ..)

-- ---------------------------------------------------------------------------
-- From the host to the wire
-- ---------------------------------------------------------------------------

/-- Only the packetizer has popped. -/
def AllTaken (l : UsbBridge.Log) : Prop := l.popped.all Prod.snd = true

instance (l : UsbBridge.Log) : Decidable (AllTaken l) :=
  inferInstanceAs (Decidable (l.popped.all Prod.snd = true))

/-- Each packet built has the next six blocks of the host's audio as its
payload, but for silence where a strobe found none. -/
structure CarriesHost (l : UsbBridge.Log) (hosts : List Block) : Prop where
  audio : ∃ n, l.trace.audio = withSilence l.trace.strobes ((hosts.take n).map hostBlock)
  payload : ∀ (i : Nat) (packet : List AafPacketizer.Beat),
    l.trace.packets[i]? = some (some packet) →
      payloadOf packet = (packetBlocks l.trace.audio i).flatMap blockBytes

theorem seen_samples (hosts : List Block) :
    ((hosts.flatMap frameSamples).map wData).map UsbBridge.usbSample = hosts.flatMap frameSeen := by
  induction hosts with
  | nil => rfl
  | cons f rest ih =>
    rw [List.flatMap_cons, List.flatMap_cons, List.map_append, List.map_append, ih]
    rfl

theorem taken_allTaken {l : UsbBridge.Log} (h : AllTaken l) :
    l.taken = (l.popped.map Prod.fst).map UsbBridge.usbSample := by
  rw [UsbBridge.Log.taken, List.filter_eq_self.mpr (List.all_eq_true.mp h), List.map_map]
  rfl

/-- What is assembled of a beginning of the host's samples. -/
theorem assembled_host {samples : List UsbSample} {hosts : List Block}
    (h : samples <+: hosts.flatMap frameSeen) :
    ∃ n, assembled samples = (hosts.take n).map hostBlock := by
  obtain ⟨more, hmore⟩ := h
  have hprefix : assembled samples <+: hosts.map hostBlock := by
    rw [← assembled_frames, ← hmore]
    refine (assembled_extends samples more).trans ?_
    exact (List.dropLast_prefix _).map blockOf
  refine ⟨(assembled samples).length, ?_⟩
  rw [List.map_take]
  exact List.prefix_iff_eq_take.mp hprefix

theorem sound_carriesHost {s : UsbBridge.Bridge × UsbBridge.Log} (h : UsbBridge.Sound s)
    (htaken : AllTaken s.2) {packets : List (List Block)} {bytes : List (Option StreamByte)}
    (hbytes : bytes.reduceOption = packets.flatMap packetBytes)
    (hwritten : s.2.fifo.written <+: (Out2ch.logged.run bytes).2.map wData) :
    CarriesHost s.2 packets.flatten := by
  have hcarries := h.carries
  obtain ⟨waiting, horder, -⟩ := hcarries.words
  refine ⟨?_, hcarries.payload⟩
  have hpopped : s.2.popped.map Prod.fst <+:
      (packets.flatten.flatMap frameSamples).map wData := by
    rw [← packets_samples, ← hbytes, ← (Out2ch.decoded_run bytes).samples]
    exact (horder ▸ List.prefix_append ..).trans hwritten
  have hsamples : s.2.taken <+: packets.flatten.flatMap frameSeen := by
    rw [taken_allTaken htaken, ← seen_samples]
    exact hpopped.map _
  obtain ⟨n, hn⟩ := assembled_host hsamples
  exact ⟨n, hn ▸ hcarries.audio⟩

def ramp (k : Nat) : Block := fun ch => UInt32.ofNat (65536 * (8 * k + ch))

/-- A packet of two frames, a byte in each cycle. -/
def hostBytes : List (Option StreamByte) := (packetBytes [ramp 0, ramp 1]).map some

/-- The first nine of its words are written, then popped, and a packet is
sent. -/
def hostRun : List UsbBridge.Edge :=
  (((Out2ch.logged.run hostBytes).2.map wData).take 9).map (fun word => .usb (some word)) ++
    List.replicate 1530 (.clk UsbBridge.cycle)

theorem hostBytes_packet :
    hostBytes.reduceOption = [[ramp 0, ramp 1]].flatMap packetBytes := by
  simp [hostBytes, List.reduceOption]

theorem hostRun_sent : (UsbBridge.logged.run hostRun).2.trace.accepted.length = 59 := by
  decide +kernel

theorem hostRun_taken : AllTaken (UsbBridge.logged.run hostRun).2 := by decide +kernel

theorem hostRun_written : (UsbBridge.logged.run hostRun).2.fifo.written <+:
    (Out2ch.logged.run hostBytes).2.map wData := by
  decide +kernel

end AvbAes3.UsbFrames
