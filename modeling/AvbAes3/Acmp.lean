import AvbAes3.Firmware

/-!
# avdecc.c: received messages

The ACMP handlers and the dispatch of received AVDECC messages. The handlers
call back into main.c, so they act on the whole firmware. Out-of-range
stream ids are `none` of `talkerUid?` and `listenerUid?`. Prints are left
out.
-/

namespace AvbAes3

-- ---------------------------------------------------------------------------
-- Fields
-- ---------------------------------------------------------------------------

def pduStreamId (pdu : Buffer) : StreamId := (pdu.offset acmpOffStreamId).bytes 8
def pduControllerId (pdu : Buffer) : EntityId := (pdu.offset acmpOffControllerId).bytes 8
def pduTalkerId (pdu : Buffer) : EntityId := (pdu.offset acmpOffTalkerId).bytes 8
def pduListenerId (pdu : Buffer) : EntityId := (pdu.offset acmpOffListenerId).bytes 8
def pduTalkerUid (pdu : Buffer) : UInt16 := getBe16 (pdu.offset acmpOffTalkerUid)
def pduListenerUid (pdu : Buffer) : UInt16 := getBe16 (pdu.offset acmpOffListenerUid)
def pduStreamDestMac (pdu : Buffer) : MacAddr := (pdu.offset acmpOffStreamDestMac).bytes 6
def pduSeqId (pdu : Buffer) : UInt16 := getBe16 (pdu.offset acmpOffSeqId)
def pduVlanId (pdu : Buffer) : UInt16 := getBe16 (pdu.offset acmpOffVlanId)

/-- The status as `acmp_handle_connect_tx_response` reads it. -/
def pduStatus (pdu : Buffer) : UInt8 := (pdu 2 >>> 3) &&& 0x1F

-- ---------------------------------------------------------------------------
-- Talker
-- ---------------------------------------------------------------------------

def Firmware.respond (fw : Firmware) (msgType status : UInt8) (pdu : Buffer) : Firmware :=
  fw.putAvdecc (acmpSendResponse fw.avdecc msgType status pdu)

def acmpHandleConnectTx (fw : Firmware) (pdu : Buffer) (r : Readings) : Firmware :=
  match talkerUid? (pduTalkerUid pdu) with
  | none => fw.respond acmpMsgConnectTxResponse acmpStatusTalkerUnknownId pdu
  | some uid =>
    let t := fw.avdecc.talkers uid
    let t := { t with
      listenerId := pduListenerId pdu
      listenerUid := pduListenerUid pdu
      connected := true
      connectionCount := t.connectionCount + 1 }
    let fw := onTalkerConnect { fw with avdecc := fw.avdecc.setTalker uid t } uid r
    fw.respond acmpMsgConnectTxResponse acmpStatusSuccess pdu

def acmpHandleDisconnectTx (fw : Firmware) (pdu : Buffer) (r : Readings) : Firmware :=
  let fw :=
    match talkerUid? (pduTalkerUid pdu) with
    | none => fw
    | some uid =>
      let t := fw.avdecc.talkers uid
      let t := { t with
        connected := false
        connectionCount :=
          if t.connectionCount > 0 then t.connectionCount - 1 else t.connectionCount }
      onTalkerDisconnect { fw with avdecc := fw.avdecc.setTalker uid t } uid r
  fw.respond acmpMsgDisconnectTxResponse acmpStatusSuccess pdu

def acmpHandleGetTxState (fw : Firmware) (pdu : Buffer) : Firmware :=
  fw.respond acmpMsgGetTxStateResponse acmpStatusSuccess pdu

-- ---------------------------------------------------------------------------
-- Listener
-- ---------------------------------------------------------------------------

/-- The resolve a CONNECT_TX_RESPONSE answers: the first active one with its
sequence number. -/
def answeredResolve (s : Avdecc) (pdu : Buffer) : Option ListenerUid :=
  if pduListenerId pdu ≠ s.entityId then none
  else [listenerUidCrf, listenerUidAaf].find? fun i =>
    (s.resolves i).active && (s.resolves i).ourSeqId == pduSeqId pdu

theorem answeredResolve_active {s : Avdecc} {pdu : Buffer} {i : ListenerUid}
    (h : answeredResolve s pdu = some i) : (s.resolves i).active := by
  unfold answeredResolve at h
  split at h
  · cases h
  · have hfound := List.find?_some h
    exact (Bool.and_eq_true_iff.mp hfound).1

/-- The listener takes the stream the talker named. -/
def connectResolved (fw : Firmware) (r : AvdeccResolve) (pdu : Buffer) (nowMs : UInt32) :
    Firmware :=
  let l := fw.avdecc.listeners r.listenerUid
  let l := { l with
    talkerId := r.talkerId
    talkerUid := r.talkerUid
    streamId := pduStreamId pdu
    destMac := pduStreamDestMac pdu
    connected := true
    connectionCount := l.connectionCount + 1
    streamVlanId := pduVlanId pdu }
  let fw := { fw with avdecc := fw.avdecc.setListener r.listenerUid l }
  let fw := onListenerConnect fw r.listenerUid (pduStreamId pdu) (pduStreamDestMac pdu) r.talkerId
    nowMs
  fw.putAvdecc (notifyListenerConnected fw.avdecc r.listenerUid)

def acmpHandleConnectTxResponse (fw : Firmware) (pdu : Buffer) (nowMs : UInt32) : Firmware :=
  match answeredResolve fw.avdecc pdu with
  | none => fw
  | some i =>
    let r := fw.avdecc.resolves i
    let fw := if pduStatus pdu = acmpStatusSuccess then connectResolved fw r pdu nowMs else fw
    let fw := fw.putAvdecc (sendDeferredConnectRxResponse fw.avdecc r (pduStatus pdu)
      (pduStreamId pdu) (pduStreamDestMac pdu) (pduVlanId pdu))
    { fw with avdecc := fw.avdecc.setResolve i { r with active := false } }

/-- Neither stream nor destination given, but a talker: the listener asks. -/
def isSlowPath (pdu : Buffer) : Bool :=
  streamIdIsZero (pduStreamId pdu) && pduStreamDestMac pdu == zeroBytes 6 &&
    pduTalkerId pdu != zeroBytes 8

def newResolve (s : Avdecc) (luid : ListenerUid) (pdu : Buffer) (nowMs : UInt32) : AvdeccResolve where
  active := true
  listenerUid := luid
  ourSeqId := s.nextAcmpSeq
  ctrlEidOrig := pduControllerId pdu
  ctrlSeqIdOrig := pduSeqId pdu
  talkerId := pduTalkerId pdu
  talkerUid := pduTalkerUid pdu
  startMs := nowMs

def slowConnect (fw : Firmware) (luid : ListenerUid) (pdu : Buffer) (nowMs : UInt32) : Firmware :=
  let r := newResolve fw.avdecc luid pdu nowMs
  let s := { fw.avdecc.setResolve luid r with nextAcmpSeq := fw.avdecc.nextAcmpSeq + 1 }
  { fw with avdecc := s }.putAvdecc (sendConnectTxCommand s r)

def fastConnect (fw : Firmware) (luid : ListenerUid) (pdu : Buffer) (nowMs : UInt32) : Firmware :=
  let l := fw.avdecc.listeners luid
  let l := { l with
    talkerId := pduTalkerId pdu
    talkerUid := pduTalkerUid pdu
    streamId := pduStreamId pdu
    destMac := pduStreamDestMac pdu
    connected := true
    connectionCount := l.connectionCount + 1 }
  let fw := { fw with avdecc := fw.avdecc.setListener luid l }
  let fw := onListenerConnect fw luid (pduStreamId pdu) (pduStreamDestMac pdu) (pduTalkerId pdu)
    nowMs
  let fw := fw.putAvdecc (notifyListenerConnected fw.avdecc luid)
  fw.respond acmpMsgConnectRxResponse acmpStatusSuccess pdu

def acmpHandleConnectRx (fw : Firmware) (pdu : Buffer) (nowMs : UInt32) : Firmware :=
  match listenerUid? (pduListenerUid pdu) with
  | none => fw.respond acmpMsgConnectRxResponse acmpStatusListenerUnknownId pdu
  | some luid =>
    if isSlowPath pdu then slowConnect fw luid pdu nowMs
    else if pduTalkerId pdu = zeroBytes 8 then
      fw.respond acmpMsgConnectRxResponse acmpStatusTalkerUnknownId pdu
    else fastConnect fw luid pdu nowMs

def acmpHandleDisconnectRx (fw : Firmware) (pdu : Buffer) (nowMs : UInt32) : Firmware :=
  let fw :=
    match listenerUid? (pduListenerUid pdu) with
    | none => fw
    | some luid =>
      let l := fw.avdecc.listeners luid
      let l := { l with
        connected := false
        connectionCount :=
          if l.connectionCount > 0 then l.connectionCount - 1 else l.connectionCount }
      let fw := onListenerDisconnect { fw with avdecc := fw.avdecc.setListener luid l } luid nowMs
      fw.putAvdecc (notifyListenerDisconnected fw.avdecc luid)
  fw.respond acmpMsgDisconnectRxResponse acmpStatusSuccess pdu

def acmpHandleGetRxState (fw : Firmware) (pdu : Buffer) : Firmware :=
  fw.respond acmpMsgGetRxStateResponse acmpStatusSuccess pdu

-- ---------------------------------------------------------------------------
-- Dispatch
-- ---------------------------------------------------------------------------

inductive AcmpHandler
  | connectTx | connectTxResponse | disconnectTx | getTxState | connectRx | disconnectRx
  | getRxState
  deriving DecidableEq, Repr

/-- The handler of an ACMP message, if it is addressed to us. -/
def acmpHandler (s : Avdecc) (pdu : Buffer) : Option AcmpHandler :=
  let msgType := pdu 1 &&& 0x0F
  let toTalker (h : AcmpHandler) := if pduTalkerId pdu = s.entityId then some h else none
  let toListener (h : AcmpHandler) := if pduListenerId pdu = s.entityId then some h else none
  if msgType = acmpMsgConnectTxCommand then toTalker .connectTx
  else if msgType = acmpMsgConnectTxResponse then some .connectTxResponse
  else if msgType = acmpMsgDisconnectTxCommand then toTalker .disconnectTx
  else if msgType = acmpMsgGetTxStateCommand then toTalker .getTxState
  else if msgType = acmpMsgConnectRxCommand then toListener .connectRx
  else if msgType = acmpMsgDisconnectRxCommand then toListener .disconnectRx
  else if msgType = acmpMsgGetRxStateCommand then toListener .getRxState
  else none

def acmpHandle (fw : Firmware) (pdu : Buffer) (r : Readings) : AcmpHandler → Firmware
  | .connectTx => acmpHandleConnectTx fw pdu r
  | .connectTxResponse => acmpHandleConnectTxResponse fw pdu r.nowMs
  | .disconnectTx => acmpHandleDisconnectTx fw pdu r
  | .getTxState => acmpHandleGetTxState fw pdu
  | .connectRx => acmpHandleConnectRx fw pdu r.nowMs
  | .disconnectRx => acmpHandleDisconnectRx fw pdu r.nowMs
  | .getRxState => acmpHandleGetRxState fw pdu

/-- AECP builds its response in the transmit slot, sent or not. -/
def Firmware.aecp (fw : Firmware) (frame : Buffer) (len : Nat) : Firmware :=
  let o := aecpHandle fw.avdecc ⟨frame, len - 14, fw.mac.buf .avdecc, fw.gptp, fw.srp⟩
  match o.sent with
  | some length => { fw with avdecc := o.state }.sendSlot .avdecc o.slot length
  | none => { fw with avdecc := o.state, mac := fw.mac.fill .avdecc o.slot }

def isAcmp (frame : Buffer) (len : Nat) : Bool :=
  decide (14 + acmpduLen ≤ len) && frame 14 == avtpSubtypeAcmp

def avdeccProcessRx (fw : Firmware) (frame : Buffer) (len : Nat) (r : Readings) : Firmware :=
  let pdu := frame.offset 14
  if len < 14 + 4 then fw
  else if frame 14 = avtpSubtypeAcmp then
    if isAcmp frame len then
      let fw := { fw with avdecc := { fw.avdecc with acmpRxCount := fw.avdecc.acmpRxCount + 1 } }
      match acmpHandler fw.avdecc pdu with
      | some h => acmpHandle fw pdu r h
      | none => fw
    else fw
  else if frame 14 = avtpSubtypeAecp then fw.aecp frame len
  else fw

theorem isAcmp_iff (frame : Buffer) (len : Nat) :
    isAcmp frame len ↔ 14 + acmpduLen ≤ len ∧ frame 14 = avtpSubtypeAcmp := by
  simp [isAcmp]

/-- What comes of a received frame. -/
inductive AvdeccRx (fw : Firmware) (frame : Buffer) (len : Nat) (r : Readings) : Firmware → Prop
  | ignored (hacmp : ¬ isAcmp frame len) : AvdeccRx fw frame len r fw
  | uncalled (hacmp : isAcmp frame len)
    (hnone : acmpHandler fw.avdecc (frame.offset 14) = none) : AvdeccRx fw frame len r
      { fw with avdecc := { fw.avdecc with acmpRxCount := fw.avdecc.acmpRxCount + 1 } }
  | acmp (hacmp : isAcmp frame len) (h : AcmpHandler)
    (hcalled : acmpHandler fw.avdecc (frame.offset 14) = some h) : AvdeccRx fw frame len r
      (acmpHandle { fw with avdecc := { fw.avdecc with acmpRxCount := fw.avdecc.acmpRxCount + 1 } }
        (frame.offset 14) r h)
  | aecp (hacmp : ¬ isAcmp frame len) (haecp : frame 14 = avtpSubtypeAecp) :
    AvdeccRx fw frame len r (fw.aecp frame len)

theorem avdeccRx (fw : Firmware) (frame : Buffer) (len : Nat) (r : Readings) :
    AvdeccRx fw frame len r (avdeccProcessRx fw frame len r) := by
  by_cases hacmp : isAcmp frame len
  · obtain ⟨hlen, hsubtype⟩ := (isAcmp_iff frame len).mp hacmp
    have hlong : ¬ len < 14 + 4 := by
      unfold acmpduLen at hlen
      omega
    have hcounted (count : UInt32) : acmpHandler { fw.avdecc with acmpRxCount := count }
        (frame.offset 14) = acmpHandler fw.avdecc (frame.offset 14) := rfl
    rw [avdeccProcessRx, if_neg hlong, if_pos hsubtype, if_pos hacmp]
    dsimp only
    rw [hcounted]
    cases hcalled : acmpHandler fw.avdecc (frame.offset 14) with
    | none => exact .uncalled hacmp hcalled
    | some h => exact .acmp hacmp h hcalled
  · rw [avdeccProcessRx, if_neg hacmp]
    split
    · exact .ignored hacmp
    split
    · exact .ignored hacmp
    split
    · exact .aecp hacmp ‹_›
    · exact .ignored hacmp

theorem avdeccProcessRx_acmp {fw : Firmware} {frame : Buffer} {len : Nat} (r : Readings)
    (hacmp : isAcmp frame len) {h : AcmpHandler}
    (hcalled : acmpHandler fw.avdecc (frame.offset 14) = some h) :
    avdeccProcessRx fw frame len r = acmpHandle
      { fw with avdecc := { fw.avdecc with acmpRxCount := fw.avdecc.acmpRxCount + 1 } }
      (frame.offset 14) r h := by
  have hrx := avdeccRx fw frame len r
  generalize avdeccProcessRx fw frame len r = fw' at hrx ⊢
  cases hrx with
  | ignored hnot => exact absurd hacmp hnot
  | uncalled _ hnone => cases hnone.symm.trans hcalled
  | acmp _ h' hcalled' =>
    obtain rfl := Option.some.inj (hcalled'.symm.trans hcalled)
    rfl
  | aecp hnot => exact absurd hacmp hnot

end AvbAes3
