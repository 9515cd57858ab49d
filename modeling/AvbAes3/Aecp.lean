import AvbAes3.Avdecc

/-!
# avdecc.c: AECP

The AEM and Milan vendor-unique command handlers and the descriptors they
serve. A handler is given the memory of the transmit slot it builds its
response in, because a response covers only part of what is sent: the rest
of the frame is what the slot held before. Prints are left out, and
`on_clock_source_change`, which main.c does not set.
-/

namespace AvbAes3

-- ---------------------------------------------------------------------------
-- Constants
-- ---------------------------------------------------------------------------

def aecpMsgAemCommand : UInt8 := 0
def aecpMsgVendorUniqueCommand : UInt8 := 6
def aecpMsgVendorUniqueResponse : UInt8 := 7

/-- `MVU_PROTOCOL_ID`. -/
def mvuPid : Vector UInt8 6 := sixBytes 0x00 0x1B 0xC5 0x0A 0xC1 0x00
def mvuCmdGetMilanInfo : UInt16 := 0x0000
def mvuCmdGetStreamInputInfoEx : UInt16 := 0x0007

def aecpStatusSuccess : UInt8 := 0
def aecpStatusNotImplemented : UInt8 := 1
def aecpStatusNoSuchDescriptor : UInt8 := 2
def aecpStatusBadArguments : UInt8 := 7

def aemCmdAcquireEntity : UInt16 := 0x0000
def aemCmdLockEntity : UInt16 := 0x0001
def aemCmdReadDescriptor : UInt16 := 0x0004
def aemCmdSetStreamFormat : UInt16 := 0x0008
def aemCmdGetStreamFormat : UInt16 := 0x0009
def aemCmdSetClockSource : UInt16 := 0x0016
def aemCmdGetClockSource : UInt16 := 0x0017
def aemCmdGetName : UInt16 := 0x0019
def aemCmdRegisterUnsolicited : UInt16 := 0x0024
def aemCmdDeregisterUnsolicited : UInt16 := 0x0025
def aemCmdGetAvbInfo : UInt16 := 0x0027
def aemCmdGetAsPath : UInt16 := 0x0028
def aemCmdGetAudioMap : UInt16 := 0x002B
def aemCmdGetMaxTransitTime : UInt16 := 0x004D

def aemDescEntity : UInt16 := 0x0000
def aemDescConfiguration : UInt16 := 0x0001
def aemDescAudioUnit : UInt16 := 0x0002
def aemDescAvbInterface : UInt16 := 0x0009
def aemDescClockSource : UInt16 := 0x000A
def aemDescLocale : UInt16 := 0x000C
def aemDescStrings : UInt16 := 0x000D
def aemDescStreamPortInput : UInt16 := 0x000E
def aemDescStreamPortOutput : UInt16 := 0x000F

def streamFlagClockSyncSource : UInt16 := 0x0001
def streamFlagClassA : UInt16 := 0x0002
def streamPortFlagClockSyncSource : UInt16 := 0x0001

/-- `AVB_INTERFACE_FLAG_GPTP_SUPPORTED | AVB_INTERFACE_FLAG_SRP_SUPPORTED` -/
def avbInterfaceFlags : UInt16 := 0x0002 ||| 0x0004

def clockSourceTypeInternal : UInt16 := 0x0000
def clockSourceTypeInputStream : UInt16 := 0x0002

def nClockSources : UInt16 := 2

def aecpOffTargetId : Nat := 4
def aecpOffControllerId : Nat := 12
def aecpOffCmdType : Nat := 22

/-- gptp.h's `LOG_SYNC_INTERVAL` and `LOG_ANNOUNCE_INTERVAL`. -/
def logSyncInterval : Int8 := -3
def logAnnounceInterval : Int8 := 0

-- ---------------------------------------------------------------------------
-- Descriptors
-- ---------------------------------------------------------------------------

/-- `n` bytes cleared and then written field by field. -/
def layout (n : Nat) (fields : List (Nat × List UInt8)) : List UInt8 :=
  Buffer.take (fields.foldl (fun b field => Buffer.copy b field.1 field.2) (fun _ => 0)) n

/-- `write_name64`. -/
def name64 (s : String) : List UInt8 :=
  let text := (s.toList.map fun c => c.toNat.toUInt8).take 63
  text ++ zeros (64 - text.length)

def hexDigit (n : UInt8) : UInt8 := if n < 10 then 0x30 + n else 0x41 + (n - 10)

/-- "NS-" and the lower three bytes of the MAC address. -/
def serialNumber (mac : MacAddr) : List UInt8 :=
  let hex (b : UInt8) : List UInt8 := [hexDigit ((b >>> 4) &&& 0xF), hexDigit (b &&& 0xF)]
  0x4E :: 0x53 :: 0x2D :: (hex (byteAt mac 3) ++ hex (byteAt mac 4) ++ hex (byteAt mac 5))

def buildDescEntity (idx : UInt16) (s : Avdecc) : Option (List UInt8) :=
  if idx ≠ 0 then none
  else some <| layout 312
    [(0, be16 aemDescEntity), (2, be16 0), (4, s.entityId.toList), (12, entityModelId.toList),
      (20, be32 entityCaps), (24, be16 nStreamOutputs), (26, be16 talkerCaps),
      (28, be16 nStreamInputs), (30, be16 listenerCaps), (36, be32 s.adpAvailableIndex),
      (48, name64 "AVB-AES3 Endpoint"), (112, be16 0x0000), (114, be16 0x0001),
      (116, name64 "1.0.0"), (244, serialNumber s.srcMac), (308, be16 1), (310, be16 0)]

def buildDescConfiguration (idx : UInt16) : Option (List UInt8) :=
  if idx ≠ 0 then none
  else some <| layout 102
    [(0, be16 aemDescConfiguration), (2, be16 0), (4, name64 "Default"), (68, be16 0xFFFF),
      (70, be16 7), (72, be16 74),
      (74, be16 aemDescAudioUnit), (76, be16 1),
      (78, be16 aemDescStreamInput), (80, be16 nStreamInputs),
      (82, be16 aemDescStreamOutput), (84, be16 nStreamOutputs),
      (86, be16 aemDescAvbInterface), (88, be16 1),
      (90, be16 aemDescClockSource), (92, be16 nClockSources),
      (94, be16 aemDescLocale), (96, be16 1),
      (98, be16 aemDescClockDomain), (100, be16 1)]

def buildDescAudioUnit (idx : UInt16) : Option (List UInt8) :=
  if idx ≠ 0 then none
  else some <| layout 148
    [(0, be16 aemDescAudioUnit), (2, be16 0), (4, name64 "Audio Unit"), (68, be16 0xFFFF),
      (70, be16 0), (72, be16 1), (74, be16 0), (76, be16 1), (78, be16 0), (136, be32 48000),
      (140, be16 144), (142, be16 1), (144, be32 48000)]

/-- A stream descriptor: the input and the output ones differ in type, name,
flags and format. -/
def buildDescStream (descType idx : UInt16) (name : String) (flags : UInt16)
    (fmt : Vector UInt8 8) : List UInt8 :=
  layout 140
    [(0, be16 descType), (2, be16 idx), (4, name64 name), (68, be16 0xFFFF), (70, be16 0),
      (72, be16 flags), (74, fmt.toList), (82, be16 132), (84, be16 1), (104, be16 0),
      (106, be32 2000000), (132, fmt.toList)]

def buildDescStreamInput (idx : UInt16) : Option (List UInt8) :=
  if idx ≥ nStreamInputs then none
  else if idx = 0 then
    some (buildDescStream aemDescStreamInput idx "Media Clock Input"
      (streamFlagClockSyncSource ||| streamFlagClassA) streamFmtCrf48k)
  else
    some (buildDescStream aemDescStreamInput idx "Audio Input" streamFlagClassA streamFmtAaf8ch48k)

def buildDescStreamOutput (idx : UInt16) : Option (List UInt8) :=
  if idx ≥ nStreamOutputs then none
  else some
    (buildDescStream aemDescStreamOutput idx "Audio Output" streamFlagClassA streamFmtAaf8ch48k)

/-- The grandmaster's announced values, or a slave's defaults. -/
def gmDataset (g : Gptp) : List UInt8 :=
  if g.gmValid then
    [g.gmPriority1, g.gmClockClass] ++ be16 g.gmOffsetScaledLogVariance ++
      [g.gmClockAccuracy, g.gmPriority2]
  else [248, 248] ++ be16 0x4E5D ++ [0xFE, 248]

def buildDescAvbInterface (idx : UInt16) (s : Avdecc) (g : Gptp) : Option (List UInt8) :=
  if idx ≠ 0 then none
  else some <| layout 98
    [(0, be16 aemDescAvbInterface), (2, be16 0), (4, name64 "Ethernet"), (68, be16 0xFFFF),
      (70, s.srcMac.toList), (76, be16 avbInterfaceFlags), (78, g.clockId.toList),
      (86, gmDataset g), (92, [0]), (93, [logSyncInterval.toUInt8]),
      (94, [logAnnounceInterval.toUInt8]), (95, [logPdelayReqInterval.toUInt8]), (96, be16 1)]

def buildDescClockSource (idx : UInt16) (s : Avdecc) : Option (List UInt8) :=
  let clockSource (name : String) (type locationType : UInt16) : List UInt8 :=
    layout 86
      [(0, be16 aemDescClockSource), (2, be16 idx), (4, name64 name), (68, be16 0xFFFF),
        (70, be16 0), (72, be16 type), (74, s.entityId.toList), (82, be16 locationType),
        (84, be16 0)]
  if idx ≥ nClockSources then none
  else if idx = 0 then some (clockSource "Internal" clockSourceTypeInternal aemDescAudioUnit)
  else some (clockSource "Media Clock" clockSourceTypeInputStream aemDescStreamInput)

def buildDescClockDomain (idx : UInt16) (s : Avdecc) : Option (List UInt8) :=
  let cs := if s.currentClockSource ≥ nClockSources then 0 else s.currentClockSource
  if idx ≠ 0 then none
  else some <| layout 80
    [(0, be16 aemDescClockDomain), (2, be16 0), (4, name64 "Clock Domain"), (68, be16 0xFFFF),
      (70, be16 cs), (72, be16 76), (74, be16 nClockSources), (76, be16 0), (78, be16 1)]

def buildDescLocale (idx : UInt16) : Option (List UInt8) :=
  if idx ≠ 0 then none
  else some <| layout 72
    [(0, be16 aemDescLocale), (2, be16 0), (4, [0x65, 0x6E, 0x2D, 0x55, 0x53]), (68, be16 1),
      (70, be16 0)]

def buildDescStrings (idx : UInt16) : Option (List UInt8) :=
  if idx ≠ 0 then none
  else some (be16 aemDescStrings ++ be16 0 ++
    ["N-Series", "AVB-AES3 Endpoint", "Audio Unit", "Media Clock Input", "Audio Input",
      "Audio Output", "Clock Domain"].flatMap name64)

def buildDescStreamPort (descType idx : UInt16) : Option (List UInt8) :=
  if idx ≠ 0 then none
  else some <| layout 20
    [(0, be16 descType), (2, be16 0), (4, be16 0), (6, be16 streamPortFlagClockSyncSource)]

/-- The `switch` of READ_DESCRIPTOR. -/
def buildDescriptor (descType idx : UInt16) (s : Avdecc) (g : Gptp) : Option (List UInt8) :=
  if descType = aemDescEntity then buildDescEntity idx s
  else if descType = aemDescConfiguration then buildDescConfiguration idx
  else if descType = aemDescAudioUnit then buildDescAudioUnit idx
  else if descType = aemDescStreamInput then buildDescStreamInput idx
  else if descType = aemDescStreamOutput then buildDescStreamOutput idx
  else if descType = aemDescAvbInterface then buildDescAvbInterface idx s g
  else if descType = aemDescClockSource then buildDescClockSource idx s
  else if descType = aemDescClockDomain then buildDescClockDomain idx s
  else if descType = aemDescLocale then buildDescLocale idx
  else if descType = aemDescStrings then buildDescStrings idx
  else if descType = aemDescStreamPortInput ∨ descType = aemDescStreamPortOutput then
    buildDescStreamPort descType idx
  else none

-- ---------------------------------------------------------------------------
-- Responses
-- ---------------------------------------------------------------------------

/-- Write at an offset of the PDU, past the Ethernet header. -/
def putPdu (b : Buffer) (off : Nat) (bytes : List UInt8) : Buffer := b.copy (14 + off) bytes

def aecpSetStatusCdl (b : Buffer) (status : UInt8) (cdl : UInt16) : Buffer :=
  putPdu b 2 (be16 (statusCdl status (cdl &&& 0x7FF)))

/-- Back to the sender, from us. -/
def unicastHeader (slot : Buffer) (srcMac : MacAddr) (rxFrame : Buffer) : Buffer :=
  ((slot.copy 0 ((rxFrame.offset 6).take 6)).copy 6 srcMac.toList).copy 12 (be16 avtpEthertype)

def aecpBeginResponse (slot : Buffer) (srcMac : MacAddr) (rxFrame : Buffer) : Buffer :=
  putPdu (putPdu (unicastHeader slot srcMac rxFrame) 0 [avtpSubtypeAecp, aecpMsgAemResponse]) 4
    ((rxFrame.offset (14 + 4)).take 20)

/-- What a command is handled with: the frame and its PDU's length, the
transmit slot, and the modules avdecc.c refers back to. -/
structure AecpCommand where
  frame : Buffer
  pduLen : Nat
  slot : Buffer
  gptp : Gptp
  srp : Srp

def AecpCommand.pdu (c : AecpCommand) : Buffer := c.frame.offset 14

/-- The bytes of the request's PDU. -/
def AecpCommand.echo (c : AecpCommand) (off n : Nat) : List UInt8 := (c.pdu.offset off).take n

def AecpCommand.field (c : AecpCommand) (off : Nat) : UInt16 := getBe16 (c.pdu.offset off)

/-- A response built and the length it is sent with. -/
abbrev AecpReply := Option (Buffer × Nat)

/-- A response with the common header, then the fields given, then status
and length. -/
def aecpRespond (s : Avdecc) (c : AecpCommand) (fields : List (Nat × List UInt8))
    (status : UInt8) (cdl : UInt16) (len : Nat) : AecpReply :=
  let body := fields.foldl (fun b field => putPdu b field.1 field.2)
    (aecpBeginResponse c.slot s.srcMac c.frame)
  some (aecpSetStatusCdl body status cdl, len)

def aemReadDescriptor (s : Avdecc) (c : AecpCommand) : AecpReply :=
  if c.pduLen < 32 then none
  else
    let head := [(24, be16 (c.field 24)), (26, be16 0)]
    match buildDescriptor (c.field 28) (c.field 30) s c.gptp with
    | none => aecpRespond s c head aecpStatusNotImplemented 16 (14 + 28)
    | some desc =>
      aecpRespond s c (head ++ [(28, desc)]) aecpStatusSuccess (16 + desc.length.toUInt16)
        (max 64 (14 + 28 + desc.length))

/-- ACQUIRE_ENTITY and LOCK_ENTITY, which differ in the flag that releases. -/
def aemAcquireOrLock (s : Avdecc) (c : AecpCommand) (releaseFlag : UInt32) : AecpReply :=
  if c.pduLen < 40 then none
  else
    let isRelease := getBe32 (c.pdu.offset 24) &&& releaseFlag ≠ 0
    aecpRespond s c
      [(24, c.echo 24 16), (28, if isRelease then zeros 8 else c.echo aecpOffControllerId 8)]
      aecpStatusSuccess 28 64

/-- The format of a stream descriptor. -/
def descriptorFormat (dt di : UInt16) : Option (Vector UInt8 8) :=
  if dt = aemDescStreamInput then
    if di = 0 then some streamFmtCrf48k else if di = 1 then some streamFmtAaf8ch48k else none
  else if dt = aemDescStreamOutput ∧ di = 0 then some streamFmtAaf8ch48k
  else none

def aemGetStreamFormat (s : Avdecc) (c : AecpCommand) : AecpReply :=
  if c.pduLen < 28 then none
  else
    match descriptorFormat (c.field 24) (c.field 26) with
    | some fmt => aecpRespond s c [(24, c.echo 24 4), (28, fmt.toList)] aecpStatusSuccess 24 64
    | none => aecpRespond s c [(24, c.echo 24 4), (28, zeros 8)] aecpStatusNoSuchDescriptor 24 64

/-- Any format is accepted for an input, only its own for the output. -/
def setStreamFormatStatus (dt di : UInt16) (want : List UInt8) : UInt8 :=
  match descriptorFormat dt di with
  | none => aecpStatusNoSuchDescriptor
  | some expect =>
    if dt = aemDescStreamInput then aecpStatusSuccess
    else if want = expect.toList then aecpStatusSuccess
    else aecpStatusBadArguments

def aemSetStreamFormat (s : Avdecc) (c : AecpCommand) : AecpReply :=
  if c.pduLen < 36 then none
  else aecpRespond s c [(24, c.echo 24 12)]
    (setStreamFormatStatus (c.field 24) (c.field 26) (c.echo 28 8)) 24 64

def clockDomainStatus (c : AecpCommand) : UInt8 :=
  if c.field 24 = aemDescClockDomain ∧ c.field 26 = 0 then aecpStatusSuccess
  else aecpStatusNoSuchDescriptor

def aemGetClockSource (s : Avdecc) (c : AecpCommand) : AecpReply :=
  if c.pduLen < 28 then none
  else aecpRespond s c
    [(24, c.echo 24 4), (28, be16 s.currentClockSource), (30, be16 0)] (clockDomainStatus c) 20 64

def aemGetAsPath (s : Avdecc) (c : AecpCommand) : AecpReply :=
  if c.pduLen < 26 then none
  else aecpRespond s c
    [(24, be16 (c.field 24)), (26, be16 1), (28, (gmIdentity c.gptp).toList)]
    aecpStatusSuccess 24 64

def propagationDelay (g : Gptp) : UInt32 :=
  if g.meanPathDelayNs < 0 then 0
  else if g.meanPathDelayNs > 0xFFFFFFFF then 0xFFFFFFFF
  else g.meanPathDelayNs.toUInt64.toUInt32

/-- GPTP_ENABLED and SRP_ENABLED, and AS_CAPABLE once the delay is valid. -/
def avbInfoFlags (g : Gptp) : UInt8 :=
  if g.meanPathDelayNs > 0 ∧ g.meanPathDelayNs < 100000 then 0x06 ||| 0x01 else 0x06

def aemGetAvbInfo (s : Avdecc) (c : AecpCommand) : AecpReply :=
  if c.pduLen < 28 then none
  else
    let status := if c.field 24 = aemDescAvbInterface ∧ c.field 26 = 0 then aecpStatusSuccess
      else aecpStatusNoSuchDescriptor
    let (mapClass, mapPrio, mapVid) := c.srp.domain
    aecpRespond s c
      [(24, be16 (c.field 24)), (26, be16 (c.field 26)), (28, (gmIdentity c.gptp).toList),
        (36, be32 (propagationDelay c.gptp)), (40, [0]), (41, [avbInfoFlags c.gptp]),
        (42, be16 1), (44, [mapClass]), (45, [mapPrio]), (46, be16 mapVid)]
      status 36 68

/-- The valid bits and values of a descriptor's counters. -/
def descriptorCounters (s : Avdecc) (dt di : UInt16) : UInt32 × (Nat → UInt32) :=
  if dt = aemDescAvbInterface then
    if di = 0 then (0x00000023, fun j => if j = 0 then 1 else 0) else (0, fun _ => 0)
  else if dt = aemDescClockDomain then
    if di = 0 then
      (0x00000003, fun j =>
        if j = 0 then s.clockLockedCount else if j = 1 then s.clockUnlockedCount else 0)
    else (0, fun _ => 0)
  else if dt = aemDescStreamInput then
    match listenerUid? di with
    | some uid =>
      (0x00000FFF, fun j =>
        if j = 0 then s.streamMediaLocked uid
        else if j = 1 then s.streamMediaUnlocked uid
        else if j = 11 then s.streamFramesRx uid
        else 0)
    | none => (0, fun _ => 0)
  else if dt = aemDescStreamOutput ∧ di < nStreamOutputs then (0x0000001F, fun _ => 0)
  else (0, fun _ => 0)

def aemGetCounters (s : Avdecc) (c : AecpCommand) : AecpReply :=
  if c.pduLen < 28 then none
  else
    let (valid, counters) := descriptorCounters s (c.field 24) (c.field 26)
    aecpRespond s c
      [(24, be16 (c.field 24)), (26, be16 (c.field 26)), (28, be32 valid),
        (32, (List.range 32).flatMap fun j => be32 (counters j))]
      aecpStatusSuccess 148 (14 + 24 + 136)

def aemGetAudioMap (s : Avdecc) (c : AecpCommand) : AecpReply :=
  if c.pduLen < 30 then none
  else aecpRespond s c
    [(24, be16 (c.field 24)), (26, be16 (c.field 26)), (28, be16 (c.field 28)), (30, be16 0),
      (32, be16 0), (34, be16 0)]
    aecpStatusSuccess 24 64

def aemGetMaxTransitTime (s : Avdecc) (c : AecpCommand) : AecpReply :=
  if c.pduLen < 28 then none
  else
    let status :=
      if (c.field 24 = aemDescStreamOutput ∧ c.field 26 < nStreamOutputs) ∨
          (c.field 24 = aemDescStreamInput ∧ c.field 26 < nStreamInputs) then
        aecpStatusSuccess
      else aecpStatusNoSuchDescriptor
    aecpRespond s c
      [(24, be16 (c.field 24)), (26, be16 (c.field 26)), (28, be32 0), (32, be32 2000000)]
      status 24 64

/-- Flags, format and stream of a descriptor that GET_STREAM_INFO knows. -/
def solicitedStream (s : Avdecc) (dt di : UInt16) : Option StreamInfo :=
  match if dt = aemDescStreamOutput then talkerUid? di else none with
  | some uid =>
    let t := s.talkers uid
    some
      { flags := streamInfoFlagStreamFormatValid ||| (streamInfoFlagStreamIdValid |||
          streamInfoFlagStreamDestMacValid ||| streamInfoFlagMsrpAccLatencyValid |||
          streamInfoFlagStreamVlanIdValid)
        format := streamFmtAaf8ch48k
        streamId := t.streamId
        destMac := t.destMac }
  | none =>
    match if dt = aemDescStreamInput then listenerUid? di else none with
    | some uid =>
      let l := s.listeners uid
      let format := if uid = listenerUidCrf then streamFmtCrf48k else streamFmtAaf8ch48k
      if l.connected then
        let flags := streamInfoFlagStreamFormatValid |||
          (streamInfoFlagStreamIdValid ||| streamInfoFlagStreamDestMacValid)
        let hasTalker := l.talkerId.toList.any (· ≠ 0)
        some
          { flags := if hasTalker then flags ||| (streamInfoFlagConnected |||
              streamInfoFlagFastConnect ||| streamInfoFlagSavedState) else flags
            format := format
            streamId := l.streamId
            destMac := l.destMac }
      else some { flags := streamInfoFlagStreamFormatValid, format := format }
    | none => none

/-- What GET_STREAM_INFO answers with: an input's VLAN and latency are
reported whether it is connected or not. `none` is NO_SUCH_DESCRIPTOR. -/
def solicitedStreamInfo (s : Avdecc) (dt di : UInt16) : Option StreamInfo :=
  (solicitedStream s dt di).map fun info =>
    match if dt = aemDescStreamInput then listenerUid? di else none with
    | none => { info with probing := 0, msrpLatency := 2000000, vlanId := 2 }
    | some uid =>
      let l := s.listeners uid
      { info with
        probing := if l.connected then 3 else 0
        msrpLatency :=
          if l.msrpAccumulatedLatencyNs ≠ 0 then l.msrpAccumulatedLatencyNs else 2000000
        vlanId := if l.streamVlanId ≠ 0 then l.streamVlanId else 2 }

def aemGetStreamInfo (s : Avdecc) (c : AecpCommand) : AecpReply :=
  if c.pduLen < 28 then none
  else
    match solicitedStreamInfo s (c.field 24) (c.field 26) with
    | none =>
      aecpRespond s c [(24, c.echo 24 4), (28, zeros 52)] aecpStatusNoSuchDescriptor 68
        (14 + 24 + 56)
    | some info =>
      let acmpSt : UInt8 := 0
      aecpRespond s c
        [(24, be16 (c.field 24)), (26, be16 (c.field 26)), (28, be32 info.flags),
          (32, info.format.toList), (40, info.streamId.toList), (48, be32 info.msrpLatency),
          (52, info.destMac.toList), (58, [0]), (59, [0]), (60, zeros 8),
          (68, be16 info.vlanId), (70, be16 0), (72, be32 0),
          (76, [((info.probing &&& 0x07) <<< 5) ||| (acmpSt &&& 0x1F)]), (77, [0]), (78, be16 0)]
        aecpStatusSuccess 68 (14 + 24 + 56)

/-- The names served; `none` is NO_SUCH_DESCRIPTOR. -/
def descriptorName (dt di ni : UInt16) : Option String :=
  let first (name : String) : Option String := if di = 0 ∧ ni = 0 then some name else none
  if dt = aemDescEntity then
    if di = 0 ∧ ni = 0 then some "AVB-AES3 Endpoint" else if di = 0 ∧ ni = 1 then some "" else none
  else if dt = aemDescConfiguration then first "Default"
  else if dt = aemDescAudioUnit then first "Audio Unit"
  else if dt = aemDescStreamInput then
    if di < nStreamInputs ∧ ni = 0 then
      some (if di = 0 then "Media Clock Input" else "Audio Input")
    else none
  else if dt = aemDescStreamOutput then
    if di < nStreamOutputs ∧ ni = 0 then some "Audio Output" else none
  else if dt = aemDescAvbInterface then first "Ethernet"
  else if dt = aemDescClockSource then
    if di < nClockSources ∧ ni = 0 then some (if di = 0 then "Internal" else "Media Clock")
    else none
  else if dt = aemDescClockDomain then first "Clock Domain"
  else none

def aemGetName (s : Avdecc) (c : AecpCommand) : AecpReply :=
  if c.pduLen < 32 then none
  else
    let name := descriptorName (c.field 24) (c.field 26) (c.field 28)
    aecpRespond s c
      [(24, be16 (c.field 24)), (26, be16 (c.field 26)), (28, be16 (c.field 28)),
        (30, be16 (c.field 30)), (32, name64 (name.getD ""))]
      (if name.isSome then aecpStatusSuccess else aecpStatusNoSuchDescriptor) 84 110

/-- An unknown command is echoed, up to the length it claims to have. -/
def aemNotImplemented (s : Avdecc) (c : AecpCommand) : AecpReply :=
  let origCdl := c.field 2 &&& 0x7FF
  let copyLen := min 500 (12 + origCdl.toNat)
  let b := putPdu (putPdu (unicastHeader c.slot s.srcMac c.frame) 0 (c.echo 0 copyLen)) 0
    [avtpSubtypeAecp, aecpMsgAemResponse]
  some (aecpSetStatusCdl b aecpStatusNotImplemented origCdl, max 64 (14 + copyLen))

-- ---------------------------------------------------------------------------
-- Commands that change the state
-- ---------------------------------------------------------------------------

/-- The status SET_CLOCK_SOURCE answers with. -/
def setClockSourceStatus (c : AecpCommand) : UInt8 :=
  if c.field 24 ≠ aemDescClockDomain ∨ c.field 26 ≠ 0 then aecpStatusNoSuchDescriptor
  else if c.field 28 ≥ nClockSources then aecpStatusBadArguments
  else aecpStatusSuccess

def aemSetClockSource (s : Avdecc) (c : AecpCommand) : Avdecc × AecpReply :=
  if c.pduLen < 32 then (s, none)
  else
    let status := setClockSourceStatus c
    let s := if status = aecpStatusSuccess then { s with currentClockSource := c.field 28 } else s
    (s, aecpRespond s c
      [(24, c.echo 24 4), (28, be16 s.currentClockSource), (30, be16 0)] status 20 64)

/-- The entry of an active controller. -/
def unsolSlot (s : Avdecc) (ctrlEid : EntityId) : Option (Fin avdeccMaxUnsolCtrl) :=
  (List.finRange avdeccMaxUnsolCtrl).find? fun i =>
    (s.unsolCtrl i).active && (s.unsolCtrl i).controllerEid == ctrlEid

def unsolFreeSlot (s : Avdecc) : Option (Fin avdeccMaxUnsolCtrl) :=
  (List.finRange avdeccMaxUnsolCtrl).find? fun i => !(s.unsolCtrl i).active

def Avdecc.setUnsol (s : Avdecc) (i : Fin avdeccMaxUnsolCtrl) (u : UnsolCtrl) : Avdecc :=
  { s with unsolCtrl := Function.update s.unsolCtrl i u }

def registerUnsolicited (s : Avdecc) (ctrlEid : EntityId) (ctrlMac : MacAddr) : Avdecc :=
  match unsolSlot s ctrlEid, unsolFreeSlot s with
  | some i, _ =>
    s.setUnsol i { s.unsolCtrl i with active := true, controllerEid := ctrlEid, mac := ctrlMac }
  -- a new controller's sequence starts at 0
  | none, some i => s.setUnsol i ⟨true, ctrlEid, ctrlMac, 0⟩
  | none, none => s

def deregisterUnsolicited (s : Avdecc) (ctrlEid : EntityId) : Avdecc :=
  match unsolSlot s ctrlEid with
  | some i => s.setUnsol i { s.unsolCtrl i with active := false }
  | none => s

def aemRegisterUnsolicited (s : Avdecc) (c : AecpCommand) : Avdecc × AecpReply :=
  let s := registerUnsolicited s ((c.pdu.offset aecpOffControllerId).bytes 8)
    ((c.frame.offset 6).bytes 6)
  (s, aecpRespond s c [] aecpStatusSuccess 12 64)

def aemDeregisterUnsolicited (s : Avdecc) (c : AecpCommand) : Avdecc × AecpReply :=
  let s := deregisterUnsolicited s ((c.pdu.offset aecpOffControllerId).bytes 8)
  (s, aecpRespond s c [] aecpStatusSuccess 12 64)

/-- The `switch` on the AEM command type. -/
def aemCommand (s : Avdecc) (c : AecpCommand) (cmdType : UInt16) : Avdecc × AecpReply :=
  if cmdType = aemCmdReadDescriptor then (s, aemReadDescriptor s c)
  else if cmdType = aemCmdAcquireEntity then (s, aemAcquireOrLock s c 0x80000000)
  else if cmdType = aemCmdLockEntity then (s, aemAcquireOrLock s c 0x00000001)
  else if cmdType = aemCmdGetStreamFormat then (s, aemGetStreamFormat s c)
  else if cmdType = aemCmdSetStreamFormat then (s, aemSetStreamFormat s c)
  else if cmdType = aemCmdGetClockSource then (s, aemGetClockSource s c)
  else if cmdType = aemCmdGetAsPath then (s, aemGetAsPath s c)
  else if cmdType = aemCmdGetAvbInfo then (s, aemGetAvbInfo s c)
  else if cmdType = aemCmdGetCounters then (s, aemGetCounters s c)
  else if cmdType = aemCmdGetAudioMap then (s, aemGetAudioMap s c)
  else if cmdType = aemCmdRegisterUnsolicited then aemRegisterUnsolicited s c
  else if cmdType = aemCmdDeregisterUnsolicited then aemDeregisterUnsolicited s c
  else if cmdType = aemCmdGetMaxTransitTime then (s, aemGetMaxTransitTime s c)
  else if cmdType = aemCmdGetStreamInfo then (s, aemGetStreamInfo s c)
  else if cmdType = aemCmdSetClockSource then aemSetClockSource s c
  else if cmdType = aemCmdGetName then (s, aemGetName s c)
  else (s, aemNotImplemented s c)

-- ---------------------------------------------------------------------------
-- Milan vendor-unique commands
-- ---------------------------------------------------------------------------

/-- What a handler leaves: its state, the transmit slot's memory and the
length sent, if it sent. -/
structure AecpOutcome where
  state : Avdecc
  slot : Buffer
  sent : Option Nat

def mvuHeader (s : Avdecc) (c : AecpCommand) (cmdType : UInt16) : Buffer :=
  let b := putPdu (unicastHeader c.slot s.srcMac c.frame) 0 (c.echo 0 30)
  putPdu (putPdu b 1 [aecpMsgVendorUniqueResponse]) 28 (be16 cmdType)

def mvuMilanInfo (b : Buffer) : Buffer :=
  aecpSetStatusCdl
    (putPdu (putPdu (putPdu (putPdu b 30 (be16 0)) 32 (be32 1)) 36 (be32 0)) 40
      (be32 0x01020000))
    aecpStatusSuccess 32

/-- The talker a stream input is connected to. -/
def mvuStreamInputInfoEx (s : Avdecc) (c : AecpCommand) (b : Buffer) : Buffer :=
  let dt := c.field 30
  let di := c.field 32
  let talker : List UInt8 × UInt8 :=
    match if dt = aemDescStreamInput then listenerUid? di else none with
    | some uid =>
      let l := s.listeners uid
      if l.connected then (l.talkerId.toList ++ be16 l.talkerUid, 3) else (zeros 10, 0)
    | none => (zeros 10, 0)
  let b := putPdu (putPdu (putPdu b 30 (be16 0)) 32 (be16 dt)) 34 (be16 di)
  aecpSetStatusCdl
    (putPdu (putPdu (putPdu b 36 talker.1) 46 [(talker.2 &&& 0x07) <<< 5]) 47 [0])
    aecpStatusSuccess 36

/-- The request's PDU over the header, as far as the request goes. -/
def mvuNotImplemented (c : AecpCommand) (b : Buffer) : Buffer × Nat :=
  let origCdl := c.field 2 &&& 0x7FF
  let aecpduLen := min c.pduLen (min 500 (12 + origCdl.toNat))
  (aecpSetStatusCdl (putPdu (putPdu b 0 (c.echo 0 aecpduLen)) 1 [aecpMsgVendorUniqueResponse])
    aecpStatusNotImplemented origCdl, max 64 (14 + aecpduLen))

def targetsUs (s : Avdecc) (c : AecpCommand) : Bool :=
  (c.pdu.offset aecpOffTargetId).bytes 8 == s.entityId

/-- The checks at the head of `mvu_handle`. -/
def mvuAccepts (s : Avdecc) (c : AecpCommand) : Bool :=
  decide (30 ≤ c.pduLen) && targetsUs s c && (c.pdu.offset 22).bytes 6 == mvuPid

def mvuHandle (s : Avdecc) (c : AecpCommand) : AecpOutcome :=
  if !mvuAccepts s c then ⟨s, c.slot, none⟩
  else
    let s := { s with aecpRxCount := s.aecpRxCount + 1 }
    let cmdType := c.field 28 &&& 0x7FFF
    let b := mvuHeader s c cmdType
    let sent := { s with aecpTxCount := s.aecpTxCount + 1 }
    if cmdType = mvuCmdGetMilanInfo then ⟨sent, mvuMilanInfo b, some 64⟩
    else if cmdType = mvuCmdGetStreamInputInfoEx then
      -- too short: the header has been written, and nothing is sent
      if c.pduLen < 34 then ⟨s, b, none⟩
      else ⟨sent, mvuStreamInputInfoEx s c b, some 64⟩
    else ⟨sent, (mvuNotImplemented c b).1, some (mvuNotImplemented c b).2⟩

-- ---------------------------------------------------------------------------
-- The handler
-- ---------------------------------------------------------------------------

def aecpHandle (s : Avdecc) (c : AecpCommand) : AecpOutcome :=
  let msgType := c.pdu 1 &&& 0x0F
  if msgType = aecpMsgVendorUniqueCommand then mvuHandle s c
  else if msgType ≠ aecpMsgAemCommand then ⟨s, c.slot, none⟩
  else if !targetsUs s c then ⟨s, c.slot, none⟩
  else
    let s := { s with aecpRxCount := s.aecpRxCount + 1 }
    let (s, reply) := aemCommand s c (c.field aecpOffCmdType &&& 0x7FFF)
    match reply with
    | none => ⟨s, c.slot, none⟩
    | some (b, len) => ⟨{ s with aecpTxCount := s.aecpTxCount + 1 }, b, some len⟩

-- ---------------------------------------------------------------------------
-- AECP leaves the connections alone
-- ---------------------------------------------------------------------------

theorem registerUnsolicited_connections (s : Avdecc) (ctrlEid : EntityId) (ctrlMac : MacAddr) :
    (registerUnsolicited s ctrlEid ctrlMac).connections = s.connections := by
  unfold registerUnsolicited
  split <;> rfl

theorem deregisterUnsolicited_connections (s : Avdecc) (ctrlEid : EntityId) :
    (deregisterUnsolicited s ctrlEid).connections = s.connections := by
  unfold deregisterUnsolicited
  split <;> rfl

theorem aemSetClockSource_connections (s : Avdecc) (c : AecpCommand) :
    (aemSetClockSource s c).1.connections = s.connections := by
  unfold aemSetClockSource
  split
  · rfl
  dsimp only
  split <;> rfl

theorem fst_ite {β : Type} (f : Avdecc → β) {p : Prop} [Decidable p] {a b : Avdecc × AecpReply}
    {x : β} (ha : f a.1 = x) (hb : f b.1 = x) : f (if p then a else b).1 = x := by
  split
  · exact ha
  · exact hb

theorem aemCommand_connections (s : Avdecc) (c : AecpCommand) (cmdType : UInt16) :
    (aemCommand s c cmdType).1.connections = s.connections := by
  unfold aemCommand
  iterate 10 refine fst_ite Avdecc.connections rfl ?_
  refine fst_ite Avdecc.connections (registerUnsolicited_connections ..) ?_
  refine fst_ite Avdecc.connections (deregisterUnsolicited_connections ..) ?_
  iterate 2 refine fst_ite Avdecc.connections rfl ?_
  refine fst_ite Avdecc.connections (aemSetClockSource_connections ..) ?_
  exact fst_ite Avdecc.connections rfl rfl

theorem mvuHandle_connections (s : Avdecc) (c : AecpCommand) :
    (mvuHandle s c).state.connections = s.connections := by
  unfold mvuHandle
  split
  · rfl
  dsimp only
  split
  · rfl
  split
  · split <;> rfl
  · rfl

@[simp] theorem aecpHandle_connections (s : Avdecc) (c : AecpCommand) :
    (aecpHandle s c).state.connections = s.connections := by
  unfold aecpHandle
  dsimp only
  split
  · exact mvuHandle_connections s c
  split
  · rfl
  split
  · rfl
  have hcommand := aemCommand_connections { s with aecpRxCount := s.aecpRxCount + 1 } c
    (c.field aecpOffCmdType &&& 0x7FFF)
  split <;> exact hcommand

-- ---------------------------------------------------------------------------
-- What is sent is AECP
-- ---------------------------------------------------------------------------

/-- A reply keeps the subtype in the first byte of its PDU. -/
def AecpReply.IsAecp (reply : AecpReply) : Prop :=
  ∀ out, reply = some out → out.1 14 = avtpSubtypeAecp

theorem putPdu_subtype (b : Buffer) {off : Nat} (h : 1 ≤ off) (bytes : List UInt8) :
    putPdu b off bytes 14 = b 14 := Buffer.copy_outside (.inl (by omega))

theorem putPdus_subtype {fields : List (Nat × List UInt8)} (h : ∀ f ∈ fields, 1 ≤ f.1)
    (b : Buffer) : fields.foldl (fun b field => putPdu b field.1 field.2) b 14 = b 14 := by
  induction fields generalizing b with
  | nil => rfl
  | cons f rest ih =>
    obtain ⟨hf, hrest⟩ := List.forall_mem_cons.mp h
    exact (ih hrest _).trans (putPdu_subtype b hf f.2)

theorem aecpRespond_isAecp (s : Avdecc) (c : AecpCommand) {fields : List (Nat × List UInt8)}
    (h : ∀ f ∈ fields, 1 ≤ f.1) {status : UInt8} {cdl : UInt16} {len : Nat} :
    AecpReply.IsAecp (aecpRespond s c fields status cdl len) := by
  rintro out hout
  rw [← Option.some.inj hout]
  dsimp only
  rw [aecpSetStatusCdl, putPdu_subtype _ (by decide), putPdus_subtype h, aecpBeginResponse,
    putPdu_subtype _ (by decide)]
  rfl

theorem none_isAecp : AecpReply.IsAecp none := fun _ hout => by cases hout

theorem isAecp_ite {p : Prop} [Decidable p] {a b : AecpReply} (ha : a.IsAecp) (hb : b.IsAecp) :
    AecpReply.IsAecp (if p then a else b) := by
  split
  · exact ha
  · exact hb

theorem aemReadDescriptor_isAecp (s : Avdecc) (c : AecpCommand) :
    (aemReadDescriptor s c).IsAecp := by
  unfold aemReadDescriptor
  refine isAecp_ite none_isAecp ?_
  dsimp only
  split
  · refine aecpRespond_isAecp s c ?_
    simp
  · refine aecpRespond_isAecp s c ?_
    simp

theorem aemGetStreamFormat_isAecp (s : Avdecc) (c : AecpCommand) :
    (aemGetStreamFormat s c).IsAecp := by
  unfold aemGetStreamFormat
  refine isAecp_ite none_isAecp ?_
  split
  · refine aecpRespond_isAecp s c ?_
    simp
  · refine aecpRespond_isAecp s c ?_
    simp

theorem aemGetStreamInfo_isAecp (s : Avdecc) (c : AecpCommand) : (aemGetStreamInfo s c).IsAecp := by
  unfold aemGetStreamInfo
  refine isAecp_ite none_isAecp ?_
  split
  · refine aecpRespond_isAecp s c ?_
    simp
  · refine aecpRespond_isAecp s c ?_
    simp

/-- An echo of the request's PDU has the request's subtype. -/
theorem aemNotImplemented_isAecp (s : Avdecc) (c : AecpCommand) :
    (aemNotImplemented s c).IsAecp := by
  rintro out hout
  rw [← Option.some.inj hout]
  dsimp only
  rw [aecpSetStatusCdl, putPdu_subtype _ (by decide)]
  rfl

theorem aecpRespondAfter_isAecp (s : Avdecc) (c : AecpCommand) {p : Prop} [Decidable p]
    {fields : List (Nat × List UInt8)} (h : ∀ f ∈ fields, 1 ≤ f.1) {status : UInt8} {cdl : UInt16}
    {len : Nat} : AecpReply.IsAecp (if p then none else aecpRespond s c fields status cdl len) :=
  isAecp_ite none_isAecp (aecpRespond_isAecp s c h)

theorem snd_ite {p : Prop} [Decidable p] {a b : Avdecc × AecpReply} (ha : a.2.IsAecp)
    (hb : b.2.IsAecp) : AecpReply.IsAecp (if p then a else b).2 := by
  split
  · exact ha
  · exact hb

theorem aemSetClockSource_isAecp (s : Avdecc) (c : AecpCommand) :
    (aemSetClockSource s c).2.IsAecp := by
  unfold aemSetClockSource
  refine snd_ite none_isAecp ?_
  exact aecpRespond_isAecp _ c (by simp)

theorem aemCommand_isAecp (s : Avdecc) (c : AecpCommand) (cmdType : UInt16) :
    (aemCommand s c cmdType).2.IsAecp := by
  unfold aemCommand
  refine snd_ite (aemReadDescriptor_isAecp s c) ?_
  iterate 2 refine snd_ite (aecpRespondAfter_isAecp s c (by simp)) ?_
  refine snd_ite (aemGetStreamFormat_isAecp s c) ?_
  iterate 6 refine snd_ite (aecpRespondAfter_isAecp s c (by simp)) ?_
  iterate 2 refine snd_ite (aecpRespond_isAecp _ c (by simp)) ?_
  refine snd_ite (aecpRespondAfter_isAecp s c (by simp)) ?_
  refine snd_ite (aemGetStreamInfo_isAecp s c) ?_
  refine snd_ite (aemSetClockSource_isAecp s c) ?_
  exact snd_ite (aecpRespondAfter_isAecp s c (by simp)) (aemNotImplemented_isAecp s c)

/-- The Milan responses start as copies of the request. -/
theorem mvuHeader_subtype (s : Avdecc) (c : AecpCommand) (cmdType : UInt16) :
    mvuHeader s c cmdType 14 = c.frame 14 := by
  rw [mvuHeader, putPdu_subtype _ (by decide), putPdu_subtype _ (by decide)]
  rfl

theorem mvuNotImplemented_subtype (c : AecpCommand) (b : Buffer) (h : b 14 = c.frame 14) :
    (mvuNotImplemented c b).1 14 = c.frame 14 := by
  rw [mvuNotImplemented]
  dsimp only
  rw [aecpSetStatusCdl, putPdu_subtype _ (by decide), putPdu_subtype _ (by decide)]
  generalize min c.pduLen _ = n
  cases n with
  | zero => exact h
  | succ n => simp [putPdu, Buffer.copy, AecpCommand.echo, Buffer.take, AecpCommand.pdu]

theorem mvuMilanInfo_subtype (b : Buffer) : mvuMilanInfo b 14 = b 14 := by
  rw [mvuMilanInfo, aecpSetStatusCdl]
  iterate 5 rw [putPdu_subtype _ (by decide)]

theorem mvuStreamInputInfoEx_subtype (s : Avdecc) (c : AecpCommand) (b : Buffer) :
    mvuStreamInputInfoEx s c b 14 = b 14 := by
  rw [mvuStreamInputInfoEx, aecpSetStatusCdl]
  dsimp only
  iterate 7 rw [putPdu_subtype _ (by decide)]

theorem mvuHandle_subtype (s : Avdecc) (c : AecpCommand) :
    (mvuHandle s c).sent.isSome → (mvuHandle s c).slot 14 = c.frame 14 := by
  unfold mvuHandle
  split
  · exact fun h => by cases h
  dsimp only
  have hheader := mvuHeader_subtype { s with aecpRxCount := s.aecpRxCount + 1 } c
    (c.field 28 &&& 0x7FFF)
  generalize mvuHeader _ c _ = b at hheader ⊢
  split
  · exact fun _ => (mvuMilanInfo_subtype b).trans hheader
  split
  · split
    · exact fun h => by cases h
    · intro _
      dsimp only
      rw [mvuStreamInputInfoEx_subtype, hheader]
  · exact fun _ => mvuNotImplemented_subtype c b hheader

/-- What answers an AECP command is AECP. -/
theorem aecpHandle_subtype (s : Avdecc) (c : AecpCommand) (h : c.frame 14 = avtpSubtypeAecp) :
    (aecpHandle s c).sent.isSome → (aecpHandle s c).slot 14 = avtpSubtypeAecp := by
  unfold aecpHandle
  dsimp only
  split
  · exact fun hsent => (mvuHandle_subtype s c hsent).trans h
  split
  · exact fun hsent => by cases hsent
  split
  · exact fun hsent => by cases hsent
  have hcommand := aemCommand_isAecp { s with aecpRxCount := s.aecpRxCount + 1 } c
    (c.field aecpOffCmdType &&& 0x7FFF)
  split
  · exact fun hsent => by cases hsent
  · rename_i hreply
    exact fun _ => hcommand _ hreply

end AvbAes3
