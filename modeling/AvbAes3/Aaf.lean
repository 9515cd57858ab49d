import AvbAes3.Mcr

/-!
# aaf.c

The audio streams: packets of the bound stream are checked and, when a
consumer asks for it, copied to a ring; the talker's packets are built from
another. One record serves both directions, and `streamId` is both the
stream listened to and the one sent. `aaf_rx_pop` has no caller and is left
out, as are prints.
-/

namespace AvbAes3

def aafChannels : Nat := 8
def aafBitDepth : UInt8 := 32
def aafBytesPerSample : Nat := 4
def aafNsr48000 : UInt8 := 5
def aafFormatInt32Bit : UInt8 := 2
def aafBufferSize : Nat := 512
def aafSamplesPerPacket : Nat := 6
def aafPresentationOffsetNs : UInt64 := 2000000

def aafStreamHdrLen : Nat := 24

/-- One sample for each channel. -/
abbrev SampleBlock := Fin aafChannels → Int32
abbrev SampleRing := Fin aafChannels → Fin aafBufferSize → Int32

/-- `aaf_state_t`. -/
structure Aaf where
  bound : Bool := false
  streamId : StreamId := zeroBytes 8
  rxEnabled : Bool := false
  rxAudioCapture : Bool := false
  rxCount : UInt32 := 0
  rxOtherCount : UInt32 := 0
  formatErrors : UInt32 := 0
  rxSeqErrors : UInt32 := 0
  rxLastSeq : UInt8 := 0
  rxHaveLastSeq : Bool := false
  rxBuf : SampleRing := fun _ _ => 0
  rxWriteIdx : UInt32 := 0
  rxReadIdx : UInt32 := 0
  lastPresentationTs : UInt32 := 0
  txEnabled : Bool := false
  txSeq : UInt8 := 0
  srcMac : MacAddr := zeroBytes 6
  destMac : MacAddr := zeroBytes 6
  txBuf : SampleRing := fun _ _ => 0
  txWriteIdx : UInt32 := 0
  txReadIdx : UInt32 := 0
  txPacketCount : UInt32 := 0
  txUnderrunCount : UInt32 := 0
  txLastSampleCount : UInt32 := 0
  txPcp : UInt8 := 0
  txVid : UInt16 := 0

/-- `idx & AAF_BUFFER_MASK` -/
def ringSlot (idx : UInt32) : Fin aafBufferSize :=
  ⟨idx.toNat % aafBufferSize, Nat.mod_lt _ (by decide)⟩

-- ---------------------------------------------------------------------------
-- Init and control
-- ---------------------------------------------------------------------------

def aafInit (mac : MacAddr) (streamId : StreamId) (destMac : MacAddr) : Aaf :=
  { srcMac := mac, destMac := destMac, streamId := streamId, txPcp := 3, txVid := 2 }

def aafSetVlan (a : Aaf) (pcp : UInt8) (vid : UInt16) : Aaf :=
  { a with txPcp := pcp &&& 0x07, txVid := vid &&& 0x0FFF }

def aafBind (a : Aaf) (streamId : StreamId) : Aaf :=
  { a with
    streamId := streamId
    bound := true
    rxEnabled := true
    rxCount := 0
    rxSeqErrors := 0
    formatErrors := 0
    rxHaveLastSeq := false
    rxWriteIdx := 0
    rxReadIdx := 0 }

def aafUnbind (a : Aaf) : Aaf := { a with bound := false, rxEnabled := false }

def aafTxEnable (a : Aaf) (enable : Bool) (mcrSampleCount : UInt32) : Aaf :=
  if enable then
    { a with
      txEnabled := true
      txSeq := 0
      txPacketCount := 0
      txUnderrunCount := 0
      txWriteIdx := 0
      txReadIdx := 0
      txLastSampleCount := mcrSampleCount }
  else { a with txEnabled := false }

-- ---------------------------------------------------------------------------
-- Receive
-- ---------------------------------------------------------------------------

/-- `blocks` turns of the copy, which keeps channels 0 and 1 only. -/
def copyBlocks (a : Aaf) (audio : Buffer) : (blocks : Nat) → Aaf
  | 0 => a
  | blocks + 1 =>
    let slot := ringSlot a.rxWriteIdx
    let ring : SampleRing := fun ch =>
      if ch.val = 0 then Function.update (a.rxBuf ch) slot (getBe32 audio).toInt32
      else if ch.val = 1 then Function.update (a.rxBuf ch) slot (getBe32 (audio.offset 4)).toInt32
      else a.rxBuf ch
    copyBlocks { a with rxBuf := ring, rxWriteIdx := a.rxWriteIdx + 1 }
      (audio.offset (aafChannels * aafBytesPerSample)) blocks

/-- The sample rate, in the high nibble. -/
def aafNsr (pdu : Buffer) : UInt8 := ((getBe16 (pdu.offset 17) >>> 12) &&& 0xF).toUInt8

def aafChannelsPerFrame (pdu : Buffer) : UInt16 := getBe16 (pdu.offset 17) &&& 0x3FF

def aafFormatMatches (pdu : Buffer) : Bool :=
  pdu 16 == aafFormatInt32Bit && aafNsr pdu == aafNsr48000 &&
    aafChannelsPerFrame pdu == aafChannels.toUInt16 && pdu 19 == aafBitDepth

def aafProcessRx (a : Aaf) (frame : Buffer) (len : Nat) : Aaf :=
  let pdu := frame.offset 14
  if !a.rxEnabled then a
  else if len < 14 + aafStreamHdrLen then a
  else if pdu 0 ≠ avtpSubtypeAaf then a
  else if (pdu.offset 4).bytes 8 ≠ a.streamId then { a with rxOtherCount := a.rxOtherCount + 1 }
  else
    let seq := pdu 2
    let a := { a with
      rxSeqErrors :=
        if a.rxHaveLastSeq ∧ seq ≠ a.rxLastSeq + 1 then a.rxSeqErrors + 1 else a.rxSeqErrors
      rxLastSeq := seq
      rxHaveLastSeq := true
      lastPresentationTs := getBe32 (pdu.offset 12)
      rxCount := a.rxCount + 1 }
    if !a.rxAudioCapture then a
    else if !aafFormatMatches pdu then { a with formatErrors := a.formatErrors + 1 }
    else
      let avail := len - 14 - aafStreamHdrLen
      let dataLen := min (getBe16 (pdu.offset 20)).toNat avail
      copyBlocks a (pdu.offset aafStreamHdrLen) (dataLen / (aafChannels * aafBytesPerSample))

-- ---------------------------------------------------------------------------
-- Transmit
-- ---------------------------------------------------------------------------

def aafTxPush (a : Aaf) (block : SampleBlock) : Aaf :=
  { a with
    txBuf := fun ch => Function.update (a.txBuf ch) (ringSlot a.txWriteIdx) (block ch)
    txWriteIdx := a.txWriteIdx + 1 }

/-- The next block to send: silence when there is none. -/
def aafNextBlock (a : Aaf) : Aaf × SampleBlock :=
  if a.txReadIdx = a.txWriteIdx then
    ({ a with txUnderrunCount := a.txUnderrunCount + 1 }, fun _ => 0)
  else
    ({ a with txReadIdx := a.txReadIdx + 1 }, fun ch => a.txBuf ch (ringSlot a.txReadIdx))

def putBlock (block : SampleBlock) : List UInt8 :=
  (List.finRange aafChannels).flatMap fun ch => be32 (block ch).toUInt32

/-- `samples` turns of the packing loop. -/
def packBlocks (a : Aaf) : (samples : Nat) → Aaf × List UInt8
  | 0 => (a, [])
  | samples + 1 =>
    let (a, block) := aafNextBlock a
    let (a, rest) := packBlocks a samples
    (a, putBlock block ++ rest)

/-- The 802.1Q tag's PCP and VID. -/
def vlanTci (pcp : UInt8) (vid : UInt16) : UInt16 :=
  (pcp &&& 0x07).toUInt16 <<< 13 ||| (vid &&& 0x0FFF)

/-- Ethernet, VLAN and AVTP header of a talker's packet. -/
def aafHeader (destMac srcMac : MacAddr) (tci : UInt16) (seq : UInt8) (streamId : StreamId)
    (presTs : UInt32) : List UInt8 :=
  destMac.toList ++ srcMac.toList ++ be16 0x8100 ++ be16 tci ++ be16 avtpEthertype ++
    [avtpSubtypeAaf, 0x81, seq, 0x00] ++ streamId.toList ++ be32 presTs ++
    [aafFormatInt32Bit] ++
    be16 (aafNsr48000.toUInt16 <<< 12 ||| (aafChannels.toUInt16 &&& 0x3FF)) ++ [aafBitDepth] ++
    be16 (aafSamplesPerPacket * aafChannels * aafBytesPerSample).toUInt16 ++ [0x00, 0x00]

def aafSendPacket (a : Aaf) (now : PtpTimestamp) : Aaf × List UInt8 :=
  let presTs := (timestampNs now + aafPresentationOffsetNs).toUInt32
  let header := aafHeader a.destMac a.srcMac (vlanTci a.txPcp a.txVid) a.txSeq a.streamId presTs
  let (a, payload) := packBlocks a aafSamplesPerPacket
  ({ a with txSeq := a.txSeq + 1, txPacketCount := a.txPacketCount + 1 }, header ++ payload)

def aafTxPoll (a : Aaf) (mcrSampleCount : UInt32) (now : PtpTimestamp) :
    Aaf × Option (List UInt8) :=
  if !a.txEnabled then (a, none)
  else if mcrSampleCount - a.txLastSampleCount < aafSamplesPerPacket.toUInt32 then (a, none)
  else
    let (a, frame) := aafSendPacket
      { a with txLastSampleCount := a.txLastSampleCount + aafSamplesPerPacket.toUInt32 } now
    (a, some frame)

-- ---------------------------------------------------------------------------
-- What the streams depend on
-- ---------------------------------------------------------------------------

/-- The stream the receive path listens to, if any. -/
def Aaf.binding (a : Aaf) : Option StreamId := if a.bound then some a.streamId else none

theorem Aaf.binding_eq_some {a : Aaf} {streamId : StreamId} :
    a.binding = some streamId ↔ a.bound ∧ a.streamId = streamId := by
  cases h : a.bound <;> simp [Aaf.binding, h]

theorem Aaf.binding_eq_none {a : Aaf} : a.binding = none ↔ a.bound = false := by
  cases h : a.bound <;> simp [Aaf.binding, h]

/-- What a packet of the talker is addressed with. -/
structure TalkerIdentity where
  streamId : StreamId
  destMac : MacAddr
  deriving DecidableEq, Repr

def Aaf.identity (a : Aaf) : TalkerIdentity := ⟨a.streamId, a.destMac⟩

@[simp] theorem aafBind_binding (a : Aaf) (sid : StreamId) : (aafBind a sid).binding = some sid :=
  rfl

@[simp] theorem aafBind_identity (a : Aaf) (sid : StreamId) :
    (aafBind a sid).identity = { a.identity with streamId := sid } := rfl

@[simp] theorem aafUnbind_binding (a : Aaf) : (aafUnbind a).binding = none := rfl

@[simp] theorem aafUnbind_identity (a : Aaf) : (aafUnbind a).identity = a.identity := rfl

@[simp] theorem aafSetVlan_binding (a : Aaf) (pcp : UInt8) (vid : UInt16) :
    (aafSetVlan a pcp vid).binding = a.binding := rfl

@[simp] theorem aafSetVlan_identity (a : Aaf) (pcp : UInt8) (vid : UInt16) :
    (aafSetVlan a pcp vid).identity = a.identity := rfl

@[simp] theorem aafTxEnable_binding (a : Aaf) (enable : Bool) (count : UInt32) :
    (aafTxEnable a enable count).binding = a.binding := by
  cases enable <;> rfl

@[simp] theorem aafTxEnable_identity (a : Aaf) (enable : Bool) (count : UInt32) :
    (aafTxEnable a enable count).identity = a.identity := by
  cases enable <;> rfl

theorem copyBlocks_writes (a : Aaf) (audio : Buffer) (blocks : Nat) : ∃ ring idx,
    copyBlocks a audio blocks = { a with rxBuf := ring, rxWriteIdx := idx } := by
  induction blocks generalizing a audio with
  | zero => exact ⟨_, _, rfl⟩
  | succ blocks ih =>
    obtain ⟨ring, idx, hrest⟩ := ih { a with rxBuf := _, rxWriteIdx := a.rxWriteIdx + 1 } _
    exact ⟨ring, idx, hrest⟩

/-- The fields that a received packet changes. -/
theorem aafProcessRx_writes (a : Aaf) (frame : Buffer) (len : Nat) :
    ∃ count other errors seqErrors seq haveSeq ts ring idx,
      aafProcessRx a frame len = { a with
        rxCount := count
        rxOtherCount := other
        formatErrors := errors
        rxSeqErrors := seqErrors
        rxLastSeq := seq
        rxHaveLastSeq := haveSeq
        lastPresentationTs := ts
        rxBuf := ring
        rxWriteIdx := idx } := by
  rw [aafProcessRx]
  dsimp only
  iterate 6
    split
    · exact ⟨_, _, _, _, _, _, _, _, _, rfl⟩
  exact ⟨_, _, _, _, _, _, _, _, _, (copyBlocks_writes _ _ _).choose_spec.choose_spec⟩

@[simp] theorem aafProcessRx_binding (a : Aaf) (frame : Buffer) (len : Nat) :
    (aafProcessRx a frame len).binding = a.binding := by
  obtain ⟨_, _, _, _, _, _, _, _, _, hwrites⟩ := aafProcessRx_writes a frame len
  rw [hwrites]
  rfl

@[simp] theorem aafProcessRx_identity (a : Aaf) (frame : Buffer) (len : Nat) :
    (aafProcessRx a frame len).identity = a.identity := by
  obtain ⟨_, _, _, _, _, _, _, _, _, hwrites⟩ := aafProcessRx_writes a frame len
  rw [hwrites]
  rfl

@[simp] theorem aafTxPush_binding (a : Aaf) (block : SampleBlock) :
    (aafTxPush a block).binding = a.binding := by
  unfold aafTxPush Aaf.binding
  rfl

@[simp] theorem aafTxPush_identity (a : Aaf) (block : SampleBlock) :
    (aafTxPush a block).identity = a.identity := by
  simp only [aafTxPush, Aaf.identity]

theorem packBlocks_writes (a : Aaf) (samples : Nat) : ∃ idx underruns,
    (packBlocks a samples).1 = { a with txReadIdx := idx, txUnderrunCount := underruns } := by
  have hnext (a : Aaf) : ∃ idx underruns,
      (aafNextBlock a).1 = { a with txReadIdx := idx, txUnderrunCount := underruns } := by
    rw [aafNextBlock]
    split <;> exact ⟨_, _, rfl⟩
  induction samples generalizing a with
  | zero => exact ⟨_, _, rfl⟩
  | succ samples ih =>
    obtain ⟨idx, underruns, hrest⟩ := ih (aafNextBlock a).1
    obtain ⟨_, _, hfirst⟩ := hnext a
    have hstep : (packBlocks a (samples + 1)).1 = (packBlocks (aafNextBlock a).1 samples).1 := rfl
    rw [hstep, hrest, hfirst]
    exact ⟨idx, underruns, rfl⟩

/-- What the packing loop leaves, with the packet counted. -/
theorem aafSendPacket_state (a : Aaf) (now : PtpTimestamp) :
    (aafSendPacket a now).1 = { (packBlocks a aafSamplesPerPacket).1 with
      txSeq := (packBlocks a aafSamplesPerPacket).1.txSeq + 1
      txPacketCount := (packBlocks a aafSamplesPerPacket).1.txPacketCount + 1 } := by
  unfold aafSendPacket
  generalize packBlocks a aafSamplesPerPacket = packed
  rfl

theorem aafSendPacket_writes (a : Aaf) (now : PtpTimestamp) : ∃ seq packets idx underruns,
    (aafSendPacket a now).1 = { a with
      txSeq := seq
      txPacketCount := packets
      txReadIdx := idx
      txUnderrunCount := underruns } := by
  obtain ⟨idx, underruns, hpacked⟩ := packBlocks_writes a aafSamplesPerPacket
  rw [aafSendPacket_state, hpacked]
  exact ⟨_, _, idx, underruns, rfl⟩

/-- The fields that the talker changes. -/
theorem aafTxPoll_writes (a : Aaf) (count : UInt32) (now : PtpTimestamp) :
    ∃ seq packets last idx underruns, (aafTxPoll a count now).1 = { a with
      txSeq := seq
      txPacketCount := packets
      txLastSampleCount := last
      txReadIdx := idx
      txUnderrunCount := underruns } := by
  rw [aafTxPoll]
  split
  · exact ⟨_, _, _, _, _, rfl⟩
  split
  · exact ⟨_, _, _, _, _, rfl⟩
  · obtain ⟨seq, packets, idx, underruns, hsent⟩ := aafSendPacket_writes
      { a with txLastSampleCount := a.txLastSampleCount + aafSamplesPerPacket.toUInt32 } now
    dsimp only
    rw [hsent]
    exact ⟨seq, packets, _, idx, underruns, rfl⟩

@[simp] theorem aafTxPoll_binding (a : Aaf) (count : UInt32) (now : PtpTimestamp) :
    (aafTxPoll a count now).1.binding = a.binding := by
  obtain ⟨_, _, _, _, _, hwrites⟩ := aafTxPoll_writes a count now
  rw [hwrites]
  rfl

@[simp] theorem aafTxPoll_identity (a : Aaf) (count : UInt32) (now : PtpTimestamp) :
    (aafTxPoll a count now).1.identity = a.identity := by
  obtain ⟨_, _, _, _, _, hwrites⟩ := aafTxPoll_writes a count now
  rw [hwrites]
  rfl

/-- Destination and stream id of an AAF frame, as its bytes give them. -/
structure WireIdentity where
  destMac : List UInt8
  streamId : List UInt8
  deriving DecidableEq, Repr

def TalkerIdentity.wire (t : TalkerIdentity) : WireIdentity := ⟨t.destMac.toList, t.streamId.toList⟩

/-- Behind the VLAN tag the AVTP header starts at 18. -/
def frameIdentity (bytes : List UInt8) : WireIdentity := ⟨bytes.take 6, (bytes.drop 22).take 8⟩

theorem aafHeader_identity (destMac srcMac : MacAddr) (tci : UInt16) (seq : UInt8)
    (streamId : StreamId) (presTs : UInt32) (payload : List UInt8) :
    frameIdentity (aafHeader destMac srcMac tci seq streamId presTs ++ payload) =
      TalkerIdentity.wire ⟨streamId, destMac⟩ := by
  rw [aafHeader, TalkerIdentity.wire, toList_six, toList_six, toList_eight]
  simp only [frameIdentity, be16, be32, List.cons_append, List.nil_append, List.take_succ_cons,
    List.take_zero, List.drop_succ_cons, List.drop_zero]

theorem aafSendPacket_frame (a : Aaf) (now : PtpTimestamp) :
    frameIdentity (aafSendPacket a now).2 = a.identity.wire := by
  unfold aafSendPacket
  generalize packBlocks a aafSamplesPerPacket = packed
  exact aafHeader_identity ..

theorem aafTxPoll_frame {a : Aaf} {count : UInt32} {now : PtpTimestamp} {frame : List UInt8}
    (h : (aafTxPoll a count now).2 = some frame) : frameIdentity frame = a.identity.wire := by
  unfold aafTxPoll at h
  split at h
  · cases h
  split at h
  · cases h
  · rw [← Option.some.inj h, aafSendPacket_frame]
    unfold Aaf.identity
    rfl

end AvbAes3
