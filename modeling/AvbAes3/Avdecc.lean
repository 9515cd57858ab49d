import AvbAes3.Srp
import AvbAes3.Mcr

/-!
# avdecc.c: state, frames and polls

The AVDECC endpoint apart from the handlers of received messages, which call
back into main.c: the state, the ACMP and ADP frames it sends, the
unsolicited notifications, lock tracking, the CRF watchdog and the poll. A
function that sends returns its frames in order. `gptp_uptime_ms()` is read
once in a call. `boot_announce_done`, `avdecc_depart` and
`avdecc_listener_frame_rx`, which nothing uses, and prints are left out.
-/

namespace AvbAes3

-- ---------------------------------------------------------------------------
-- Constants
-- ---------------------------------------------------------------------------

def avtpSubtypeAdp : UInt8 := 0xFA
def avtpSubtypeAecp : UInt8 := 0xFB
def avtpSubtypeAcmp : UInt8 := 0xFC

def avdeccMcastAddr : MacAddr := sixBytes 0x91 0xE0 0xF0 0x01 0x00 0x00

def adpMsgEntityAvailable : UInt8 := 0
def adpValidTime : UInt16 := 10
def adpControlDataLen : UInt16 := 56
def adpAdvertisePeriodMs : UInt32 := 10000

def adpCapAemSupported : UInt32 := 0x00000008
def adpCapVendorUniqueSupported : UInt32 := 0x00000080
def adpCapClassASupported : UInt32 := 0x00000100
def adpCapGptpSupported : UInt32 := 0x00000400
def adpCapAemInterfaceIndexValid : UInt32 := 0x00008000

/-- `ENTITY_MODEL_ID`: the product, the same in every unit. -/
def entityModelId : EntityId := eightBytes 0x02 0xFF 0xEE 0x4E 0x53 0x41 0x56 0x01

/-- `ADP_TALKER_CAP_IMPLEMENTED | ADP_TALKER_CAP_AUDIO_SOURCE` -/
def talkerCaps : UInt16 := 0x0001 ||| 0x4000

/-- `ADP_LISTENER_CAP_IMPLEMENTED | ADP_LISTENER_CAP_MEDIA_CLOCK_SINK |
ADP_LISTENER_CAP_AUDIO_SINK` -/
def listenerCaps : UInt16 := 0x0001 ||| 0x0800 ||| 0x4000

def entityCaps : UInt32 :=
  adpCapAemSupported ||| adpCapVendorUniqueSupported ||| adpCapClassASupported |||
    adpCapGptpSupported ||| adpCapAemInterfaceIndexValid

def nStreamInputs : UInt16 := 2
def nStreamOutputs : UInt16 := 1

def acmpMsgConnectTxCommand : UInt8 := 0
def acmpMsgConnectTxResponse : UInt8 := 1
def acmpMsgDisconnectTxCommand : UInt8 := 2
def acmpMsgDisconnectTxResponse : UInt8 := 3
def acmpMsgGetTxStateCommand : UInt8 := 4
def acmpMsgGetTxStateResponse : UInt8 := 5
def acmpMsgConnectRxCommand : UInt8 := 6
def acmpMsgConnectRxResponse : UInt8 := 7
def acmpMsgDisconnectRxCommand : UInt8 := 8
def acmpMsgDisconnectRxResponse : UInt8 := 9
def acmpMsgGetRxStateCommand : UInt8 := 10
def acmpMsgGetRxStateResponse : UInt8 := 11

def acmpStatusSuccess : UInt8 := 0
def acmpStatusListenerUnknownId : UInt8 := 1
def acmpStatusTalkerUnknownId : UInt8 := 2
def acmpStatusListenerTalkerTimeout : UInt8 := 7

/-- `ACMP_FLAG_FAST_CONNECT | ACMP_FLAG_SAVED_STATE` -/
def acmpFlagsConnected : UInt16 := 0x0002 ||| 0x0004

def acmpduLen : Nat := 56
def acmpControlDataLen : UInt16 := 44

def acmpOffStreamId : Nat := 4
def acmpOffControllerId : Nat := 12
def acmpOffTalkerId : Nat := 20
def acmpOffListenerId : Nat := 28
def acmpOffTalkerUid : Nat := 36
def acmpOffListenerUid : Nat := 38
def acmpOffStreamDestMac : Nat := 40
def acmpOffConnCount : Nat := 46
def acmpOffSeqId : Nat := 48
def acmpOffFlags : Nat := 50
def acmpOffVlanId : Nat := 52

def aecpMsgAemResponse : UInt8 := 1

def aemCmdGetStreamInfo : UInt16 := 0x000F
def aemCmdGetCounters : UInt16 := 0x0029

def aemDescStreamInput : UInt16 := 0x0005
def aemDescStreamOutput : UInt16 := 0x0006
def aemDescClockDomain : UInt16 := 0x0024

def streamInfoFlagStreamFormatValid : UInt32 := 0x80000000
def streamInfoFlagStreamIdValid : UInt32 := 0x40000000
def streamInfoFlagMsrpAccLatencyValid : UInt32 := 0x20000000
def streamInfoFlagStreamDestMacValid : UInt32 := 0x10000000
def streamInfoFlagStreamVlanIdValid : UInt32 := 0x02000000
def streamInfoFlagConnected : UInt32 := 0x04000000
def streamInfoFlagSavedState : UInt32 := 0x00000004
def streamInfoFlagFastConnect : UInt32 := 0x00000002

def streamFmtCrf48k : Vector UInt8 8 := eightBytes 0x04 0x10 0x60 0x01 0x00 0x00 0xBB 0x80
def streamFmtAaf8ch48k : Vector UInt8 8 := eightBytes 0x02 0x05 0x02 0x20 0x02 0x00 0x60 0x00

def avdeccMaxTalkers : Nat := 1
def avdeccMaxListeners : Nat := 2
def avdeccMaxUnsolCtrl : Nat := 4

/-- A `talker_unique_id` below `AVDECC_MAX_TALKERS`. -/
abbrev TalkerUid := Fin avdeccMaxTalkers

/-- A `listener_unique_id` below `AVDECC_MAX_LISTENERS`. -/
abbrev ListenerUid := Fin avdeccMaxListeners

def talkerUidAaf : TalkerUid := ⟨0, by decide⟩
def listenerUidCrf : ListenerUid := ⟨0, by decide⟩
def listenerUidAaf : ListenerUid := ⟨1, by decide⟩

def talkerUid? (uid : UInt16) : Option TalkerUid :=
  if h : uid.toNat < avdeccMaxTalkers then some ⟨uid.toNat, h⟩ else none

def listenerUid? (uid : UInt16) : Option ListenerUid :=
  if h : uid.toNat < avdeccMaxListeners then some ⟨uid.toNat, h⟩ else none

theorem ListenerUid.cases (u : ListenerUid) : u = listenerUidCrf ∨ u = listenerUidAaf := by
  revert u
  decide

theorem TalkerUid.eq_aaf (u : TalkerUid) : u = talkerUidAaf := by
  revert u
  decide

-- ---------------------------------------------------------------------------
-- State
-- ---------------------------------------------------------------------------

/-- `avdecc_talker_stream_t`. -/
structure AvdeccTalkerStream where
  streamId : StreamId := zeroBytes 8
  destMac : MacAddr := zeroBytes 6
  listenerId : EntityId := zeroBytes 8
  listenerUid : UInt16 := 0
  connected : Bool := false
  connectionCount : UInt16 := 0
  deriving DecidableEq, Repr

/-- `avdecc_listener_stream_t`. -/
structure AvdeccListenerStream where
  talkerId : EntityId := zeroBytes 8
  talkerUid : UInt16 := 0
  streamId : StreamId := zeroBytes 8
  destMac : MacAddr := zeroBytes 6
  connected : Bool := false
  connectionCount : UInt16 := 0
  msrpAccumulatedLatencyNs : UInt32 := 0
  streamVlanId : UInt16 := 0
  deriving DecidableEq, Repr

/-- `avdecc_resolve_t`. -/
structure AvdeccResolve where
  active : Bool := false
  listenerUid : ListenerUid := listenerUidCrf
  ourSeqId : UInt16 := 0
  ctrlEidOrig : EntityId := zeroBytes 8
  ctrlSeqIdOrig : UInt16 := 0
  talkerId : EntityId := zeroBytes 8
  talkerUid : UInt16 := 0
  startMs : UInt32 := 0
  deriving DecidableEq, Repr

/-- An entry of `unsol_ctrl`. -/
structure UnsolCtrl where
  active : Bool := false
  controllerEid : EntityId := zeroBytes 8
  mac : MacAddr := zeroBytes 6
  unsolSeqId : UInt16 := 0
  deriving DecidableEq, Repr

/-- `avdecc_state_t`. `clockLastLocked` is `none` for the 0xFF that stands
for no baseline yet. -/
structure Avdecc where
  entityId : EntityId := zeroBytes 8
  srcMac : MacAddr := zeroBytes 6
  adpAvailableIndex : UInt32 := 0
  lastAdpMs : UInt32 := 0
  talkers : TalkerUid → AvdeccTalkerStream := fun _ => {}
  listeners : ListenerUid → AvdeccListenerStream := fun _ => {}
  currentClockSource : UInt16 := 0
  adpTxCount : UInt32 := 0
  acmpRxCount : UInt32 := 0
  acmpTxCount : UInt32 := 0
  aecpRxCount : UInt32 := 0
  aecpTxCount : UInt32 := 0
  clockLockedCount : UInt32 := 0
  clockUnlockedCount : UInt32 := 0
  clockLastLocked : Option Bool := none
  streamMediaLocked : ListenerUid → UInt32 := fun _ => 0
  streamMediaUnlocked : ListenerUid → UInt32 := fun _ => 0
  streamFramesRx : ListenerUid → UInt32 := fun _ => 0
  streamLastLocked : ListenerUid → Bool := fun _ => false
  resolves : ListenerUid → AvdeccResolve := fun _ => {}
  nextAcmpSeq : UInt16 := 0
  crfWdRxSnapshot : UInt32 := 0
  crfWdFlowMs : UInt32 := 0
  crfWdLastRetryMs : UInt32 := 0
  crfWdRecovery : Bool := false
  crfWdInit : Bool := false
  unsolCtrl : Fin avdeccMaxUnsolCtrl → UnsolCtrl := fun _ => {}

/-- The part of the state that the connection handlers are about, and that
nothing below changes but `avdeccPoll`, which ends resolves. -/
structure AvdeccConnections where
  entityId : EntityId
  talkers : TalkerUid → AvdeccTalkerStream
  listeners : ListenerUid → AvdeccListenerStream
  resolves : ListenerUid → AvdeccResolve

def Avdecc.connections (s : Avdecc) : AvdeccConnections :=
  ⟨s.entityId, s.talkers, s.listeners, s.resolves⟩

def Avdecc.setListener (s : Avdecc) (u : ListenerUid) (l : AvdeccListenerStream) : Avdecc :=
  { s with listeners := Function.update s.listeners u l }

def Avdecc.setResolve (s : Avdecc) (u : ListenerUid) (r : AvdeccResolve) : Avdecc :=
  { s with resolves := Function.update s.resolves u r }

def Avdecc.setTalker (s : Avdecc) (u : TalkerUid) (t : AvdeccTalkerStream) : Avdecc :=
  { s with talkers := Function.update s.talkers u t }

-- ---------------------------------------------------------------------------
-- Init
-- ---------------------------------------------------------------------------

def avdeccInit (mac : MacAddr) : Avdecc := { srcMac := mac, entityId := gptpClockId mac }

def avdeccSetTalkerStream (s : Avdecc) (uid : TalkerUid) (streamId : StreamId)
    (streamDestMac : MacAddr) : Avdecc :=
  s.setTalker uid { s.talkers uid with streamId := streamId, destMac := streamDestMac }

-- ---------------------------------------------------------------------------
-- ADP
-- ---------------------------------------------------------------------------

def avdeccEthHdr (srcMac : MacAddr) : List UInt8 :=
  avdeccMcastAddr.toList ++ srcMac.toList ++ be16 avtpEthertype

/-- The grandmaster's identity, once an Announce has given it. -/
def gmIdentity (g : Gptp) : ClockId := if g.gmValid then g.gmClockId else zeroBytes 8

def adpSend (s : Avdecc) (g : Gptp) (msgType : UInt8) : Avdecc × List (List UInt8) :=
  let pdu := [avtpSubtypeAdp, msgType &&& 0x0F] ++
    be16 (adpValidTime <<< 11 ||| adpControlDataLen) ++ s.entityId.toList ++
    entityModelId.toList ++ be32 entityCaps ++ be16 nStreamOutputs ++ be16 talkerCaps ++
    be16 nStreamInputs ++ be16 listenerCaps ++ be32 0 ++ be32 s.adpAvailableIndex ++
    (gmIdentity g).toList ++ [0] ++ [0, 0, 0] ++ be16 0xFFFF ++ be16 0 ++
    zeros 8 ++ zeros 4
  ({ s with
      adpAvailableIndex :=
        if msgType = adpMsgEntityAvailable then s.adpAvailableIndex + 1 else s.adpAvailableIndex
      adpTxCount := s.adpTxCount + 1 },
    [avdeccEthHdr s.srcMac ++ pdu])

-- ---------------------------------------------------------------------------
-- ACMP frames
-- ---------------------------------------------------------------------------

/-- The fields of an ACMPDU built from nothing; what the builder leaves out
is zero. -/
structure Acmpdu where
  msgType : UInt8
  status : UInt8 := acmpStatusSuccess
  streamId : StreamId := zeroBytes 8
  controllerId : EntityId
  talkerId : EntityId
  listenerId : EntityId
  talkerUid : UInt16
  listenerUid : UInt16
  streamDestMac : MacAddr := zeroBytes 6
  connCount : UInt16 := 0
  seqId : UInt16
  flags : UInt16 := 0
  vlanId : UInt16 := 0

/-- `status(5) | control_data_length(11)` -/
def statusCdl (status : UInt8) (cdl : UInt16) : UInt16 :=
  (status &&& 0x1F).toUInt16 <<< 11 ||| cdl

def Acmpdu.bytes (a : Acmpdu) : List UInt8 :=
  [avtpSubtypeAcmp, a.msgType] ++ be16 (statusCdl a.status acmpControlDataLen) ++
    a.streamId.toList ++ a.controllerId.toList ++ a.talkerId.toList ++ a.listenerId.toList ++
    be16 a.talkerUid ++ be16 a.listenerUid ++ a.streamDestMac.toList ++ be16 a.connCount ++
    be16 a.seqId ++ be16 a.flags ++ be16 a.vlanId ++ be16 0

def acmpSend (s : Avdecc) (a : Acmpdu) : Avdecc × List (List UInt8) :=
  ({ s with acmpTxCount := s.acmpTxCount + 1 }, [avdeccEthHdr s.srcMac ++ a.bytes])

def ListenerUid.toUInt16 (u : ListenerUid) : UInt16 := u.val.toUInt16

def sendConnectTxCommand (s : Avdecc) (r : AvdeccResolve) : Avdecc × List (List UInt8) :=
  acmpSend s
    { msgType := acmpMsgConnectTxCommand
      controllerId := s.entityId
      talkerId := r.talkerId
      listenerId := s.entityId
      talkerUid := r.talkerUid
      listenerUid := r.listenerUid.toUInt16
      seqId := r.ourSeqId }

def sendDisconnectTxCommand (s : Avdecc) (r : AvdeccResolve) (streamId : StreamId) :
    Avdecc × List (List UInt8) :=
  acmpSend s
    { msgType := acmpMsgDisconnectTxCommand
      streamId := streamId
      controllerId := s.entityId
      talkerId := r.talkerId
      listenerId := s.entityId
      talkerUid := r.talkerUid
      listenerUid := r.listenerUid.toUInt16
      seqId := r.ourSeqId }

def sendDeferredConnectRxResponse (s : Avdecc) (r : AvdeccResolve) (status : UInt8)
    (streamId : StreamId) (destMac : MacAddr) (vlanId : UInt16) : Avdecc × List (List UInt8) :=
  acmpSend s
    { msgType := acmpMsgConnectRxResponse
      status := status
      streamId := streamId
      controllerId := r.ctrlEidOrig
      talkerId := r.talkerId
      listenerId := s.entityId
      talkerUid := r.talkerUid
      listenerUid := r.listenerUid.toUInt16
      streamDestMac := destMac
      connCount := (s.listeners r.listenerUid).connectionCount
      seqId := r.ctrlSeqIdOrig
      vlanId := vlanId }

/-- Our stream's fields in the response to a talker command. -/
def fillTalkerResponse (s : Avdecc) (msgType : UInt8) (p : Buffer) : Buffer :=
  match talkerUid? (getBe16 (p.offset acmpOffTalkerUid)) with
  | none => p
  | some uid =>
    let t := s.talkers uid
    let count := if msgType = acmpMsgGetTxStateResponse then 0 else t.connectionCount
    ((p.copy acmpOffStreamId t.streamId.toList).copy acmpOffStreamDestMac t.destMac.toList).copy
      acmpOffConnCount (be16 count)

/-- The connection's fields in the response to a listener command. -/
def fillListenerResponse (s : Avdecc) (p : Buffer) : Buffer :=
  match listenerUid? (getBe16 (p.offset acmpOffListenerUid)) with
  | none => p
  | some uid =>
    let l := s.listeners uid
    let p := p.copy acmpOffConnCount (be16 l.connectionCount)
    if l.connected then
      let vid := if l.streamVlanId ≠ 0 then l.streamVlanId else 2
      (((((p.copy acmpOffTalkerId l.talkerId.toList).copy acmpOffTalkerUid (be16 l.talkerUid)).copy
        acmpOffStreamId l.streamId.toList).copy acmpOffStreamDestMac l.destMac.toList).copy
        acmpOffVlanId (be16 vid)).copy acmpOffFlags (be16 acmpFlagsConnected)
    else p

/-- The received ACMPDU, edited into its response. -/
def acmpSendResponse (s : Avdecc) (msgType status : UInt8) (rxPdu : Buffer) :
    Avdecc × List (List UInt8) :=
  let p := (rxPdu.copy 0 [avtpSubtypeAcmp, msgType &&& 0x0F]).copy 2
    (be16 (statusCdl status acmpControlDataLen))
  let p :=
    if msgType = acmpMsgConnectTxResponse ∨ msgType = acmpMsgGetTxStateResponse ∨
        msgType = acmpMsgDisconnectTxResponse then
      fillTalkerResponse s msgType p
    else p
  let p :=
    if msgType = acmpMsgConnectRxResponse ∨ msgType = acmpMsgGetRxStateResponse ∨
        msgType = acmpMsgDisconnectRxResponse then
      fillListenerResponse s p
    else p
  ({ s with acmpTxCount := s.acmpTxCount + 1 }, [avdeccEthHdr s.srcMac ++ p.take acmpduLen])

-- ---------------------------------------------------------------------------
-- Unsolicited notifications
-- ---------------------------------------------------------------------------

/-- A push to one controller: the common header, its sequence number, the
command with the U flag and the payload. -/
def unsolFrame (s : Avdecc) (c : UnsolCtrl) (cmd : UInt16) (cdl : UInt16) (payload : List UInt8) :
    List UInt8 :=
  c.mac.toList ++ s.srcMac.toList ++ be16 avtpEthertype ++
    [avtpSubtypeAecp, aecpMsgAemResponse] ++ be16 cdl ++ s.entityId.toList ++
    c.controllerEid.toList ++ be16 c.unsolSeqId ++ be16 (0x8000 ||| cmd) ++ payload

def pushTo (cmd cdl : UInt16) (payload : List UInt8) (s : Avdecc)
    (i : Fin avdeccMaxUnsolCtrl) : Avdecc × List (List UInt8) :=
  let c := s.unsolCtrl i
  if c.active then
    ({ s with
        unsolCtrl := Function.update s.unsolCtrl i { c with unsolSeqId := c.unsolSeqId + 1 }
        aecpTxCount := s.aecpTxCount + 1 },
      [unsolFrame s c cmd cdl payload])
  else (s, [])

/-- The loop over `unsol_ctrl` that both pushes make. -/
def pushUnsol (cmd cdl : UInt16) (payload : List UInt8) :
    List (Fin avdeccMaxUnsolCtrl) → Avdecc → Avdecc × List (List UInt8)
  | [], s => (s, [])
  | i :: rest, s =>
    let (s, frame) := pushTo cmd cdl payload s i
    let (s, frames) := pushUnsol cmd cdl payload rest s
    (s, frame ++ frames)

def countersPayload (dt di : UInt16) (valid : UInt32) (counters : Nat → UInt32) : List UInt8 :=
  be16 dt ++ be16 di ++ be32 valid ++ (List.range 32).flatMap fun j => be32 (counters j)

def pushUnsolCounters (s : Avdecc) (dt di : UInt16) (valid : UInt32) (counters : Nat → UInt32) :
    Avdecc × List (List UInt8) :=
  pushUnsol aemCmdGetCounters 148 (countersPayload dt di valid counters)
    (List.finRange avdeccMaxUnsolCtrl) s

def clockCounters (s : Avdecc) : Nat → UInt32
  | 0 => s.clockLockedCount
  | 1 => s.clockUnlockedCount
  | _ => 0

def streamCounters (s : Avdecc) (uid : ListenerUid) : Nat → UInt32
  | 0 => s.streamMediaLocked uid
  | 1 => s.streamMediaUnlocked uid
  | 11 => s.streamFramesRx uid
  | _ => 0

def pushUnsolClockCounters (s : Avdecc) : Avdecc × List (List UInt8) :=
  pushUnsolCounters s aemDescClockDomain 0 0x00000003 (clockCounters s)

def pushUnsolStreamCounters (s : Avdecc) (uid : ListenerUid) : Avdecc × List (List UInt8) :=
  pushUnsolCounters s aemDescStreamInput uid.toUInt16 0x00000FFF (streamCounters s uid)

/-- What a stream's description says of a connection. -/
structure StreamInfo where
  flags : UInt32
  format : Vector UInt8 8
  streamId : StreamId := zeroBytes 8
  destMac : MacAddr := zeroBytes 6
  probing : UInt8 := 0
  msrpLatency : UInt32 := 2000000
  vlanId : UInt16 := 2

def streamFormat (uid : ListenerUid) : Vector UInt8 8 :=
  if uid = listenerUidCrf then streamFmtCrf48k else streamFmtAaf8ch48k

/-- Set while the listener has a talker to name. -/
def talkerFlags (l : AvdeccListenerStream) : UInt32 :=
  if l.talkerId = zeroBytes 8 then 0
  else streamInfoFlagConnected ||| streamInfoFlagFastConnect ||| streamInfoFlagSavedState

/-- The live values `build_stream_info_payload` gathers. -/
def streamInfo (s : Avdecc) (dt di : UInt16) : StreamInfo :=
  match if dt = aemDescStreamOutput then talkerUid? di else none with
  | some uid =>
    { flags := streamInfoFlagStreamFormatValid ||| streamInfoFlagStreamIdValid |||
        streamInfoFlagStreamDestMacValid ||| streamInfoFlagMsrpAccLatencyValid |||
        streamInfoFlagStreamVlanIdValid
      format := streamFmtAaf8ch48k
      streamId := (s.talkers uid).streamId
      destMac := (s.talkers uid).destMac }
  | none =>
    match if dt = aemDescStreamInput then listenerUid? di else none with
    | some uid =>
      let l := s.listeners uid
      if l.connected then
        { flags := streamInfoFlagStreamFormatValid ||| streamInfoFlagStreamIdValid |||
            streamInfoFlagStreamDestMacValid ||| talkerFlags l
          format := streamFormat uid
          streamId := l.streamId
          destMac := l.destMac
          probing := 3
          msrpLatency :=
            if l.msrpAccumulatedLatencyNs ≠ 0 then l.msrpAccumulatedLatencyNs else 2000000
          vlanId := if l.streamVlanId ≠ 0 then l.streamVlanId else 2 }
      else { flags := streamInfoFlagStreamFormatValid, format := streamFormat uid }
    | none => { flags := streamInfoFlagStreamFormatValid, format := streamFmtAaf8ch48k }

def buildStreamInfoPayload (s : Avdecc) (dt di : UInt16) : List UInt8 :=
  let info := streamInfo s dt di
  be16 dt ++ be16 di ++ be32 info.flags ++ info.format.toList ++ info.streamId.toList ++
    be32 info.msrpLatency ++ info.destMac.toList ++ zeros 10 ++ be16 info.vlanId ++
    zeros 6 ++ [(info.probing &&& 0x07) <<< 5] ++ zeros 3

def pushUnsolStreamInfo (s : Avdecc) (dt di : UInt16) : Avdecc × List (List UInt8) :=
  pushUnsol aemCmdGetStreamInfo 68 (buildStreamInfoPayload s dt di)
    (List.finRange avdeccMaxUnsolCtrl) s

/-- Counters first, then the stream's description. -/
def pushListener (s : Avdecc) (uid : ListenerUid) : Avdecc × List (List UInt8) :=
  let (s, counters) := pushUnsolStreamCounters s uid
  let (s, info) := pushUnsolStreamInfo s aemDescStreamInput uid.toUInt16
  (s, counters ++ info)

def countLocked (s : Avdecc) (uid : ListenerUid) : Avdecc :=
  { s with
    streamMediaLocked := Function.update s.streamMediaLocked uid (s.streamMediaLocked uid + 1)
    streamLastLocked := Function.update s.streamLastLocked uid true }

def countUnlocked (s : Avdecc) (uid : ListenerUid) : Avdecc :=
  { s with
    streamMediaUnlocked := Function.update s.streamMediaUnlocked uid (s.streamMediaUnlocked uid + 1)
    streamLastLocked := Function.update s.streamLastLocked uid false }

def notifyListenerConnected (s : Avdecc) (uid : ListenerUid) : Avdecc × List (List UInt8) :=
  pushListener
    (if s.streamMediaLocked uid = s.streamMediaUnlocked uid then countLocked s uid else s) uid

def notifyListenerDisconnected (s : Avdecc) (uid : ListenerUid) : Avdecc × List (List UInt8) :=
  pushListener
    (if s.streamMediaUnlocked uid < s.streamMediaLocked uid then countUnlocked s uid else s) uid

-- ---------------------------------------------------------------------------
-- Locks
-- ---------------------------------------------------------------------------

def avdeccListenerLockChanged (s : Avdecc) (uid : ListenerUid) (locked : Bool) :
    Avdecc × List (List UInt8) :=
  if locked = s.streamLastLocked uid then (s, [])
  else pushUnsolStreamCounters (if locked then countLocked s uid else countUnlocked s uid) uid

/-- The lock the clock domain follows: the media clock's or gPTP's. -/
def clockLock (s : Avdecc) (g : Gptp) (m : Mcr) : Bool :=
  if s.currentClockSource = 1 then m.servoLocked else g.servoLocked

def trackClockLock (s : Avdecc) (g : Gptp) (m : Mcr) : Avdecc × List (List UInt8) :=
  let cur := clockLock s g m
  match s.clockLastLocked with
  | none => ({ s with clockLastLocked := some cur }, [])
  | some last =>
    if cur ≠ last then
      pushUnsolClockCounters
        { s with
          clockLockedCount := if cur then s.clockLockedCount + 1 else s.clockLockedCount
          clockUnlockedCount := if cur then s.clockUnlockedCount else s.clockUnlockedCount + 1
          clockLastLocked := some cur }
    else (s, [])

-- ---------------------------------------------------------------------------
-- CRF flow watchdog
-- ---------------------------------------------------------------------------

def crfWdStallMs : UInt32 := 3000
def crfWdRetryMs : UInt32 := 5000

/-- Stalled while connected: first the DISCONNECT_TX, then a CONNECT_TX in
every retry period. A sequence number is used up either way. -/
def crfRebootstrap (s : Avdecc) (luid : ListenerUid) (nowMs : UInt32) : Avdecc × List (List UInt8) :=
  let l := s.listeners luid
  let r : AvdeccResolve :=
    { listenerUid := luid, talkerId := l.talkerId, talkerUid := l.talkerUid,
      ourSeqId := s.nextAcmpSeq }
  let s := { s with nextAcmpSeq := s.nextAcmpSeq + 1 }
  if !s.crfWdRecovery then
    let (s, frames) := sendDisconnectTxCommand s r l.streamId
    ({ s with crfWdRecovery := true, crfWdLastRetryMs := nowMs }, frames)
  else if nowMs - s.crfWdLastRetryMs ≥ crfWdRetryMs then
    let (s, frames) := sendConnectTxCommand s r
    ({ s with crfWdLastRetryMs := nowMs }, frames)
  else (s, [])

def avdeccCrfFlowWatchdog (s : Avdecc) (luid : ListenerUid) (rxCount nowMs : UInt32) :
    Avdecc × List (List UInt8) :=
  if !(s.listeners luid).connected then
    ({ s with crfWdInit := false, crfWdRecovery := false }, [])
  else if !s.crfWdInit then
    ({ s with
        crfWdInit := true
        crfWdRxSnapshot := rxCount
        crfWdFlowMs := nowMs
        crfWdRecovery := false }, [])
  else if rxCount ≠ s.crfWdRxSnapshot then
    ({ s with crfWdRxSnapshot := rxCount, crfWdFlowMs := nowMs, crfWdRecovery := false }, [])
  else if nowMs - s.crfWdFlowMs > 2000000000 then ({ s with crfWdFlowMs := nowMs }, [])
  else if nowMs - s.crfWdFlowMs < crfWdStallMs then (s, [])
  else crfRebootstrap s luid nowMs

-- ---------------------------------------------------------------------------
-- Poll
-- ---------------------------------------------------------------------------

def acmpTimeoutMs : UInt32 := 1500

/-- The resolve has waited for its talker long enough. -/
def resolveTimedOut (r : AvdeccResolve) (nowMs : UInt32) : Bool :=
  r.active && decide (elapsedMs nowMs r.startMs 0 ≥ acmpTimeoutMs)

def timeOutResolve (s : Avdecc) (i : ListenerUid) (nowMs : UInt32) : Avdecc × List (List UInt8) :=
  let r := s.resolves i
  if resolveTimedOut r nowMs then
    let (s, frames) := sendDeferredConnectRxResponse s r acmpStatusListenerTalkerTimeout
      (zeroBytes 8) (zeroBytes 6) 0
    (s.setResolve i { r with active := false }, frames)
  else (s, [])

def adpAdvertise (s : Avdecc) (g : Gptp) (nowMs : UInt32) : Avdecc × List (List UInt8) :=
  if elapsedMs nowMs s.lastAdpMs adpAdvertisePeriodMs ≥ adpAdvertisePeriodMs then
    let (s, frames) := adpSend s g adpMsgEntityAvailable
    ({ s with lastAdpMs := nowMs }, frames)
  else (s, [])

def avdeccPoll (s : Avdecc) (g : Gptp) (m : Mcr) (nowMs : UInt32) : Avdecc × List (List UInt8) :=
  let (s, clock) := trackClockLock s g m
  let (s, crf) := timeOutResolve s listenerUidCrf nowMs
  let (s, aaf) := timeOutResolve s listenerUidAaf nowMs
  let (s, adp) := adpAdvertise s g nowMs
  (s, clock ++ crf ++ aaf ++ adp)

-- ---------------------------------------------------------------------------
-- What leaves the connections alone
-- ---------------------------------------------------------------------------

@[simp] theorem adpSend_connections (s : Avdecc) (g : Gptp) (msgType : UInt8) :
    (adpSend s g msgType).1.connections = s.connections := rfl

@[simp] theorem acmpSend_connections (s : Avdecc) (a : Acmpdu) :
    (acmpSend s a).1.connections = s.connections := rfl

@[simp] theorem sendConnectTxCommand_connections (s : Avdecc) (r : AvdeccResolve) :
    (sendConnectTxCommand s r).1.connections = s.connections := rfl

@[simp] theorem sendDeferredConnectRxResponse_connections (s : Avdecc) (r : AvdeccResolve)
    (status : UInt8) (streamId : StreamId) (destMac : MacAddr) (vlanId : UInt16) :
    (sendDeferredConnectRxResponse s r status streamId destMac vlanId).1.connections =
      s.connections := rfl

@[simp] theorem acmpSendResponse_connections (s : Avdecc) (msgType status : UInt8)
    (rxPdu : Buffer) : (acmpSendResponse s msgType status rxPdu).1.connections = s.connections :=
  rfl

theorem pushTo_connections (cmd cdl : UInt16) (payload : List UInt8) (s : Avdecc)
    (i : Fin avdeccMaxUnsolCtrl) : (pushTo cmd cdl payload s i).1.connections = s.connections := by
  unfold pushTo
  dsimp only
  split <;> rfl

theorem pushUnsol_connections (cmd cdl : UInt16) (payload : List UInt8)
    (indices : List (Fin avdeccMaxUnsolCtrl)) (s : Avdecc) :
    (pushUnsol cmd cdl payload indices s).1.connections = s.connections := by
  induction indices generalizing s with
  | nil => rfl
  | cons i rest ih =>
    rw [pushUnsol]
    exact (ih _).trans (pushTo_connections ..)

@[simp] theorem pushListener_connections (s : Avdecc) (uid : ListenerUid) :
    (pushListener s uid).1.connections = s.connections := by
  unfold pushListener pushUnsolStreamInfo pushUnsolStreamCounters pushUnsolCounters
  exact (pushUnsol_connections ..).trans (pushUnsol_connections ..)

@[simp] theorem notifyListenerConnected_connections (s : Avdecc) (uid : ListenerUid) :
    (notifyListenerConnected s uid).1.connections = s.connections := by
  rw [notifyListenerConnected, pushListener_connections]
  split <;> rfl

@[simp] theorem notifyListenerDisconnected_connections (s : Avdecc) (uid : ListenerUid) :
    (notifyListenerDisconnected s uid).1.connections = s.connections := by
  rw [notifyListenerDisconnected, pushListener_connections]
  split <;> rfl

@[simp] theorem avdeccListenerLockChanged_connections (s : Avdecc) (uid : ListenerUid)
    (locked : Bool) : (avdeccListenerLockChanged s uid locked).1.connections = s.connections := by
  unfold avdeccListenerLockChanged
  split
  · rfl
  · refine (pushUnsol_connections ..).trans ?_
    split <;> rfl

@[simp] theorem trackClockLock_connections (s : Avdecc) (g : Gptp) (m : Mcr) :
    (trackClockLock s g m).1.connections = s.connections := by
  unfold trackClockLock
  dsimp only
  split
  · rfl
  split
  · exact pushUnsol_connections ..
  · rfl

@[simp] theorem avdeccCrfFlowWatchdog_connections (s : Avdecc) (luid : ListenerUid)
    (rxCount nowMs : UInt32) :
    (avdeccCrfFlowWatchdog s luid rxCount nowMs).1.connections = s.connections := by
  unfold avdeccCrfFlowWatchdog crfRebootstrap
  dsimp only
  split_ifs <;> rfl

@[simp] theorem adpAdvertise_connections (s : Avdecc) (g : Gptp) (nowMs : UInt32) :
    (adpAdvertise s g nowMs).1.connections = s.connections := by
  unfold adpAdvertise
  split <;> rfl

end AvbAes3
