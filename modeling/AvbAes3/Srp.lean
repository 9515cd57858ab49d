import AvbAes3.Bytes

/-!
# srp.c

The MSRP endpoint: the declarations it sends, the MVRP join beside them, the
registrar of the talkers it has heard, and the parser of received MRPDUs.
Where the source walks a received PDU and acts on each vector as it comes
to it, `msrpVectors` is the walk: it depends on the frame alone. What a
vector makes the station do is in `Firmware`, because a talker's
advertisement calls back into main.c. `gptp_uptime_ms()` is read once in a
call. Prints and the static caches that limit them are left out.
-/

namespace AvbAes3

-- ---------------------------------------------------------------------------
-- Constants
-- ---------------------------------------------------------------------------

def msrpEthertype : UInt16 := 0x22EA
def msrpProtoVersion : UInt8 := 0x00
def msrpMcastAddr : MacAddr := sixBytes 0x01 0x80 0xC2 0x00 0x00 0x0E

def mvrpEthertype : UInt16 := 0x88F5
def mvrpMcast : MacAddr := sixBytes 0x01 0x80 0xC2 0x00 0x00 0x21

def msrpAttrTalkerAdv : UInt8 := 1
def msrpAttrTalkerFail : UInt8 := 2
def msrpAttrListener : UInt8 := 3
def msrpAttrDomain : UInt8 := 4

inductive MsrpListener
  | ignore | askFailed | ready | readyFail
  deriving DecidableEq, Repr

def MsrpListener.code : MsrpListener → UInt8
  | .ignore => 0
  | .askFailed => 1
  | .ready => 2
  | .readyFail => 3

def mrpEvtNew : UInt8 := 0
def mrpEvtJoinIn : UInt8 := 1

def srClassA : UInt8 := 6
def srClassAPrio : UInt8 := 3
def srClassAVid : UInt16 := 2

def mrpJoinPeriodMs : UInt32 := 1000
def mrpLeaveAllPeriodMs : UInt32 := 10000

def mrp3Pack (a b c : UInt8) : UInt8 := (a * 6 + b) * 6 + c
def mrp4Pack (a b c d : UInt8) : UInt8 := a * 64 + b * 16 + c * 4 + d

def srpMaxRemoteTalkers : Nat := 8

-- ---------------------------------------------------------------------------
-- State
-- ---------------------------------------------------------------------------

/-- `srp_talker_attr_t`. -/
structure SrpTalkerAttr where
  streamId : StreamId := zeroBytes 8
  destAddr : MacAddr := zeroBytes 6
  vlanId : UInt16 := 0
  maxFrameSize : UInt16 := 0
  maxIntervalFrames : UInt16 := 0
  priorityAndRank : UInt8 := 0
  accumulatedLatencyNs : UInt32 := 0
  deriving DecidableEq, Repr

/-- `srp_remote_talker_t`. -/
structure SrpRemoteTalker where
  valid : Bool := false
  streamId : StreamId := zeroBytes 8
  destMac : MacAddr := zeroBytes 6
  vlanId : UInt16 := 0
  maxFrameSize : UInt16 := 0
  maxIntervalFrames : UInt16 := 0
  priorityAndRank : UInt8 := 0
  accumulatedLatencyNs : UInt32 := 0
  lastSeenMs : UInt32 := 0
  deriving DecidableEq, Repr

abbrev RemoteTalkers := Fin srpMaxRemoteTalkers → SrpRemoteTalker

/-- `srp_state_t`. -/
structure Srp where
  srcMac : MacAddr := zeroBytes 6
  talkerEnabled : Bool := false
  talker : SrpTalkerAttr := {}
  listenerEnabled : Bool := false
  listenerStreamId : StreamId := zeroBytes 8
  listenerSubstate : MsrpListener := .ignore
  lastJoinMs : UInt32 := 0
  lastLeaveAllMs : UInt32 := 0
  joinCount : UInt32 := 0
  domainReceived : Bool := false
  rxSrClass : UInt8 := 0
  rxSrPrio : UInt8 := 0
  rxSrVid : UInt16 := 0
  talkerRegistered : Bool := false
  rxPduCount : UInt32 := 0
  talkerLastSeenMs : UInt32 := 0
  listenerNewCount : UInt8 := 0
  mvrpNewCount : UInt8 := 0
  talkerNewCount : UInt8 := 0
  domainNewCount : UInt8 := 0
  rxTalkerAdvCount : UInt32 := 0
  rxTalkerFailedCount : UInt32 := 0
  rxListenerCount : UInt32 := 0
  rxDomainCount : UInt32 := 0
  rxMatchCount : UInt32 := 0
  remoteTalkers : RemoteTalkers := fun _ => {}

-- ---------------------------------------------------------------------------
-- Frames
-- ---------------------------------------------------------------------------

/-- Zeros up to the minimum frame. -/
def padTo64 (frame : List UInt8) : List UInt8 := frame ++ List.replicate (64 - frame.length) 0

def mvrpSendJoinVid (s : Srp) (vid : UInt16) (event : UInt8) : List UInt8 :=
  padTo64 (mvrpMcast.toList ++ s.srcMac.toList ++ be16 mvrpEthertype ++ [0] ++ [1, 2] ++
    be16 1 ++ be16 vid ++ [mrp3Pack event 0 0] ++ be16 0)

def msrpFrameBegin (srcMac : MacAddr) : List UInt8 :=
  msrpMcastAddr.toList ++ srcMac.toList ++ be16 msrpEthertype ++ [msrpProtoVersion]

/-- One value: `NumberOfValues` is 1. -/
def vectorHeader (leaveAll : Bool) : UInt16 :=
  if leaveAll then (1 : UInt16) ||| (1 : UInt16) <<< 13 else 1

/-- A message with one vector of one value. The list length counts the
vector header, the value, its packed events and the list's own EndMark. -/
def msrpMessage (attrType attrLen : UInt8) (leaveAll : Bool) (firstValue packed : List UInt8) :
    List UInt8 :=
  let list := be16 (vectorHeader leaveAll) ++ firstValue ++ packed ++ be16 0
  [attrType, attrLen] ++ be16 list.length.toUInt16 ++ list

def msrpEmitDomain (srClass srPrio : UInt8) (srVid : UInt16) (leaveAll : Bool) (event : UInt8) :
    List UInt8 :=
  msrpMessage msrpAttrDomain 4 leaveAll ([srClass, srPrio] ++ be16 srVid) [mrp3Pack event 0 0]

/-- The 25 bytes of a TalkerAdvertise value. -/
def talkerFirstValue (t : SrpTalkerAttr) : List UInt8 :=
  t.streamId.toList ++ t.destAddr.toList ++ be16 t.vlanId ++ be16 t.maxFrameSize ++
    be16 t.maxIntervalFrames ++ [t.priorityAndRank] ++ be32 t.accumulatedLatencyNs

def msrpEmitTalkerAdv (t : SrpTalkerAttr) (leaveAll : Bool) (event : UInt8) : List UInt8 :=
  msrpMessage msrpAttrTalkerAdv 25 leaveAll (talkerFirstValue t) [mrp3Pack event 0 0]

def msrpEmitListener (streamId : StreamId) (substate : MsrpListener) (leaveAll : Bool)
    (event : UInt8) : List UInt8 :=
  msrpMessage msrpAttrListener 8 leaveAll streamId.toList
    [mrp3Pack event 0 0, mrp4Pack substate.code 0 0 0]

/-- The priority in the top three bits, rank 1. -/
def priorityAndRankOf (prio : UInt8) : UInt8 := prio <<< 5 ||| (1 : UInt8) <<< 4

/-- NEW for the first two transmissions, JoinIn from then on. -/
def newEvent (newCount : UInt8) : UInt8 := if newCount < 2 then mrpEvtNew else mrpEvtJoinIn

def nextNewCount (newCount : UInt8) : UInt8 := if newCount < 2 then newCount + 1 else newCount

/-- The class, priority and VLAN declared: the bridge's once it has declared
them, else the standard's. -/
def Srp.domain (s : Srp) : UInt8 × UInt8 × UInt16 :=
  if s.domainReceived then (s.rxSrClass, s.rxSrPrio, s.rxSrVid)
  else (srClassA, srClassAPrio, srClassAVid)

def sendDomain (s : Srp) (leaveAll : Bool) : Srp × List UInt8 :=
  ({ s with domainNewCount := nextNewCount s.domainNewCount },
    msrpEmitDomain s.domain.1 s.domain.2.1 s.domain.2.2 leaveAll (newEvent s.domainNewCount))

def sendTalker (s : Srp) (leaveAll : Bool) : Srp × List UInt8 :=
  if s.talkerEnabled then
    let talker := { s.talker with
      priorityAndRank := priorityAndRankOf s.domain.2.1
      vlanId := s.domain.2.2 }
    ({ s with talker := talker, talkerNewCount := nextNewCount s.talkerNewCount },
      msrpEmitTalkerAdv talker leaveAll (newEvent s.talkerNewCount))
  else (s, [])

def sendListener (s : Srp) (leaveAll : Bool) : Srp × List UInt8 :=
  if s.listenerEnabled then
    ({ s with listenerNewCount := nextNewCount s.listenerNewCount },
      msrpEmitListener s.listenerStreamId s.listenerSubstate leaveAll
        (newEvent s.listenerNewCount))
  else (s, [])

def srpSendDeclarations (s : Srp) (leaveAll : Bool) : Srp × List UInt8 :=
  let (s, domain) := sendDomain s leaveAll
  let (s, talker) := sendTalker s leaveAll
  let (s, listener) := sendListener s leaveAll
  ({ s with joinCount := s.joinCount + 1 },
    padTo64 (msrpFrameBegin s.srcMac ++ domain ++ talker ++ listener ++ be16 0))

-- ---------------------------------------------------------------------------
-- Received MRPDUs
-- ---------------------------------------------------------------------------

/-- A vector the walk comes to, with the memory from its FirstValue on. -/
structure MsrpVector where
  attrType : UInt8
  attrLen : UInt8
  vecHdr : UInt16
  value : Buffer

def MsrpVector.numValues (v : MsrpVector) : Nat := (v.vecHdr &&& 0x1FFF).toNat

/-- `vec_hdr >> 13`, which the source leaves in a comment. -/
def MsrpVector.lva (v : MsrpVector) : UInt16 := v.vecHdr >>> 13

/-- FirstValue and the packed events behind it, which a Listener vector has
two of. -/
def MsrpVector.length (v : MsrpVector) : Nat :=
  v.attrLen.toNat + (v.numValues + 2) / 3 +
    if v.attrType = msrpAttrListener then (v.numValues + 3) / 4 else 0

/-- The vectors of one message: from `at_` to the end of its list. Each turn
passes a vector header, so `fuel` bytes are enough turns. -/
def messageVectors (attrType attrLen : UInt8) (pdu : Buffer) (attrEnd : Nat) :
    (fuel at_ : Nat) → List MsrpVector
  | 0, _ => []
  | fuel + 1, at_ =>
    if at_ + 2 ≤ attrEnd then
      let vecHdr := getBe16 (pdu.offset at_)
      let vp := at_ + 2
      -- EndMark of the list
      if vecHdr = 0 then []
      else if vp + attrLen.toNat > attrEnd then []
      else
        let v : MsrpVector := ⟨attrType, attrLen, vecHdr, pdu.offset vp⟩
        v :: messageVectors attrType attrLen pdu attrEnd fuel (vp + v.length)
    else []

/-- The vectors of the message list from `at_` to `end_`. -/
def messageListVectors (pdu : Buffer) (end_ : Nat) : (fuel at_ : Nat) → List MsrpVector
  | 0, _ => []
  | fuel + 1, at_ =>
    if at_ + 4 ≤ end_ then
      let attrType := pdu at_
      let attrLen := pdu (at_ + 1)
      -- EndMark of the PDU
      if attrType = 0 ∧ attrLen = 0 then []
      else
        let attrEnd := at_ + 4 + (getBe16 (pdu.offset (at_ + 2))).toNat
        if attrEnd > end_ then []
        else
          messageVectors attrType attrLen pdu attrEnd end_ (at_ + 4) ++
            messageListVectors pdu end_ fuel attrEnd
    else []

/-- The checks at the head of `srp_process_rx`. -/
def isMsrpPdu (frame : Buffer) (len : Nat) : Bool :=
  decide (14 + 2 ≤ len) && getBe16 (frame.offset 12) == msrpEthertype &&
    frame 14 == msrpProtoVersion

def msrpVectors (frame : Buffer) (len : Nat) : List MsrpVector :=
  messageListVectors (frame.offset 14) (len - 14) len 1

-- ---------------------------------------------------------------------------
-- The registrar
-- ---------------------------------------------------------------------------

/-- What the upsert's scan has found so far. -/
structure SlotScan where
  slot : Option (Fin srpMaxRemoteTalkers) := none
  oldest : Fin srpMaxRemoteTalkers
  oldestT : UInt32 := 0xFFFFFFFF

/-- The entry a TalkerAdvertise is written to: the stream's own, else the
first free one, else the oldest. -/
def upsertSlot (talkers : RemoteTalkers) (streamId : StreamId) :
    List (Fin srpMaxRemoteTalkers) → SlotScan → Fin srpMaxRemoteTalkers
  | [], scan => scan.slot.getD scan.oldest
  | i :: rest, scan =>
    let t := talkers i
    if t.valid then
      if t.streamId = streamId then i
      else if t.lastSeenMs < scan.oldestT then
        upsertSlot talkers streamId rest { scan with oldest := i, oldestT := t.lastSeenMs }
      else upsertSlot talkers streamId rest scan
    else if scan.slot = none then upsertSlot talkers streamId rest { scan with slot := some i }
    else upsertSlot talkers streamId rest scan

/-- A TalkerAdvertise value as a registrar entry. -/
def remoteTalkerOf (value : Buffer) (nowMs : UInt32) : SrpRemoteTalker where
  valid := true
  streamId := value.bytes 8
  destMac := (value.offset 8).bytes 6
  vlanId := getBe16 (value.offset 14)
  maxFrameSize := getBe16 (value.offset 16)
  maxIntervalFrames := getBe16 (value.offset 18)
  priorityAndRank := value 20
  accumulatedLatencyNs := getBe32 (value.offset 21)
  lastSeenMs := nowMs

def upsertTalker (s : Srp) (value : Buffer) (nowMs : UInt32) : Srp :=
  let slot := upsertSlot s.remoteTalkers (value.bytes 8) (List.finRange srpMaxRemoteTalkers)
    { oldest := ⟨0, by decide⟩ }
  { s with remoteTalkers := Function.update s.remoteTalkers slot (remoteTalkerOf value nowMs) }

def srpFindTalker (s : Srp) (streamId : StreamId) : Option SrpRemoteTalker :=
  ((List.finRange srpMaxRemoteTalkers).map s.remoteTalkers).find?
    fun t => t.valid && t.streamId == streamId

/-- The listener's registration, after the advertisement has been recorded
and called back. -/
def matchListener (s : Srp) (value : Buffer) (nowMs : UInt32) : Srp :=
  if s.listenerEnabled ∧ value.bytes 8 = s.listenerStreamId then
    { s with
      rxMatchCount := s.rxMatchCount + 1
      talkerRegistered := true
      talkerLastSeenMs := nowMs
      listenerSubstate := .ready }
  else s

def isDomain (v : MsrpVector) : Bool := v.attrType == msrpAttrDomain && decide (v.attrLen ≥ 4)

def isTalkerAdvertise (v : MsrpVector) : Bool :=
  v.attrType == msrpAttrTalkerAdv && decide (v.attrLen ≥ 25)

/-- What a vector other than a TalkerAdvertise does, and the count of one. -/
def noteVector (s : Srp) (v : MsrpVector) : Srp :=
  let s := if isDomain v then
    { s with
      rxDomainCount := s.rxDomainCount + 1
      domainReceived := true
      rxSrClass := v.value 0
      rxSrPrio := v.value 1
      rxSrVid := getBe16 (v.value.offset 2) }
    else s
  let s := if v.attrType = msrpAttrTalkerFail then
    { s with rxTalkerFailedCount := s.rxTalkerFailedCount + 1 } else s
  let s := if v.attrType = msrpAttrListener then
    { s with rxListenerCount := s.rxListenerCount + 1 } else s
  if isTalkerAdvertise v then { s with rxTalkerAdvCount := s.rxTalkerAdvCount + 1 } else s

/-- The fields that a vector writes. -/
theorem noteVector_writes (s : Srp) (v : MsrpVector) :
    ∃ domains received srClass prio vid failed listeners advertised,
      noteVector s v = { s with
        rxDomainCount := domains
        domainReceived := received
        rxSrClass := srClass
        rxSrPrio := prio
        rxSrVid := vid
        rxTalkerFailedCount := failed
        rxListenerCount := listeners
        rxTalkerAdvCount := advertised } := by
  unfold noteVector
  dsimp only
  split <;> split <;> split <;> split <;> exact ⟨_, _, _, _, _, _, _, _, rfl⟩

-- ---------------------------------------------------------------------------
-- Init and control
-- ---------------------------------------------------------------------------

def srpInit (mac : MacAddr) : Srp := { srcMac := mac, listenerSubstate := .askFailed }

def srpTalkerSet (s : Srp) (streamId : StreamId) (destMac : MacAddr) (maxFrameSize : UInt16) :
    Srp :=
  { s with talker :=
    { streamId := streamId
      destAddr := destMac
      vlanId := srClassAVid
      maxFrameSize := maxFrameSize
      maxIntervalFrames := 1
      priorityAndRank := priorityAndRankOf srClassAPrio
      accumulatedLatencyNs := 250000 } }

def srpTalkerEnable (s : Srp) (enable : Bool) : Srp :=
  if enable then { s with talkerEnabled := true, talkerNewCount := 0 }
  else { s with talkerEnabled := false }

def srpListenerEnable (s : Srp) (streamId : StreamId) (enable : Bool) (nowMs : UInt32) : Srp :=
  if enable then
    { s with
      listenerEnabled := true
      listenerStreamId := streamId
      listenerSubstate := .ready
      talkerRegistered := false
      talkerLastSeenMs := nowMs
      listenerNewCount := 0 }
  else { s with listenerEnabled := false }

-- ---------------------------------------------------------------------------
-- Poll
-- ---------------------------------------------------------------------------

/-- An age; what can only be a clock that went back counts as `wrapped`. -/
def elapsedMs (nowMs sinceMs wrapped : UInt32) : UInt32 :=
  if nowMs - sinceMs > 2000000000 then wrapped else nowMs - sinceMs

def leaveAllDue (s : Srp) (nowMs : UInt32) : Bool :=
  decide (elapsedMs nowMs s.lastLeaveAllMs mrpLeaveAllPeriodMs ≥ mrpLeaveAllPeriodMs)

def joinDue (s : Srp) (nowMs : UInt32) : Bool :=
  decide (elapsedMs nowMs s.lastJoinMs mrpJoinPeriodMs ≥ mrpJoinPeriodMs)

/-- Three LeaveAll periods without an advertisement. -/
def talkerAgedOut (nowMs lastSeenMs : UInt32) : Bool :=
  decide (elapsedMs nowMs lastSeenMs 0 ≥ 3 * mrpLeaveAllPeriodMs)

/-- The timers and ages, before anything is sent. -/
def srpAge (s : Srp) (nowMs : UInt32) : Srp :=
  { s with
    lastLeaveAllMs := if leaveAllDue s nowMs then nowMs else s.lastLeaveAllMs
    talkerRegistered := s.talkerRegistered && !talkerAgedOut nowMs s.talkerLastSeenMs
    listenerSubstate :=
      if s.listenerEnabled ∧ s.listenerSubstate ≠ .ready then .ready else s.listenerSubstate
    listenerNewCount :=
      if s.listenerEnabled ∧ s.listenerSubstate ≠ .ready then 0 else s.listenerNewCount
    remoteTalkers := fun i =>
      let t := s.remoteTalkers i
      if t.valid && talkerAgedOut nowMs t.lastSeenMs then { t with valid := false } else t }

def srpPoll (s : Srp) (nowMs : UInt32) : Srp × List (List UInt8) :=
  let aged := srpAge s nowMs
  if joinDue s nowMs then
    let (s', msrpFrame) := srpSendDeclarations aged (leaveAllDue s nowMs)
    ({ s' with
        mvrpNewCount := nextNewCount s'.mvrpNewCount
        lastJoinMs := nowMs },
      [msrpFrame, mvrpSendJoinVid s' srClassAVid (newEvent s'.mvrpNewCount)])
  else (aged, [])

end AvbAes3
