import AvbAes3.AvdeccBooks
import AvbAes3.AecpFrames
import AvbAes3.ConnectAnswers

/-!
# The CONNECT_TX exchange, one side of it

A listener asks a talker with a CONNECT_TX_COMMAND, the talker answers with a
CONNECT_TX_RESPONSE. Of the firmware this needs the entity, the streams its
talkers offer, the resolves and the next sequence number; a step of the main
loop ends resolves, asks one talker under a new number or answers one
command.
-/

namespace AvbAes3.ConnectTx

open ConnectAnswers (frame_pdu ethHdr_length acmpdu_bytes)

-- ---------------------------------------------------------------------------
-- Messages
-- ---------------------------------------------------------------------------

/-- What the handlers read of a CONNECT_TX_COMMAND or its response. -/
structure Message where
  response : Bool
  status : UInt8
  listenerId : EntityId
  talkerId : EntityId
  talkerUid : UInt16
  seqId : UInt16
  streamId : StreamId
  destMac : MacAddr
  deriving DecidableEq, Repr

def readMessage (response : Bool) (pdu : Buffer) : Message :=
  ⟨response, pduStatus pdu, pduListenerId pdu, pduTalkerId pdu, pduTalkerUid pdu, pduSeqId pdu,
    pduStreamId pdu, pduStreamDestMac pdu⟩

def messageOf (pdu : Buffer) : Option Message :=
  if pdu 1 &&& 0x0F = acmpMsgConnectTxCommand then some (readMessage false pdu)
  else if pdu 1 &&& 0x0F = acmpMsgConnectTxResponse then some (readMessage true pdu)
  else none

/-- The message a frame of AVDECC carries. -/
def sentMessage (f : WireFrame) : Option Message :=
  if f.origin = .firmware .avdecc ∧ isAcmp (Buffer.ofList f.bytes) f.bytes.length then
    messageOf ((Buffer.ofList f.bytes).offset 14)
  else none

def messages (sent : List WireFrame) : List Message := sent.filterMap sentMessage

-- ---------------------------------------------------------------------------
-- A side of the exchange
-- ---------------------------------------------------------------------------

structure Peer where
  entityId : EntityId
  streams : TalkerUid → TalkerIdentity
  resolves : ListenerUid → AvdeccResolve
  nextSeq : UInt16

def peer (s : Avdecc) : Peer :=
  ⟨s.entityId, fun u => ⟨(s.talkers u).streamId, (s.talkers u).destMac⟩, s.resolves, s.nextAcmpSeq⟩

/-- A CONNECT_TX_COMMAND of ours, under the number that is next. -/
structure Command (p : Peer) (talkerId : EntityId) (m : Message) : Prop where
  response : m.response = false
  listenerId : m.listenerId = p.entityId
  talkerId : m.talkerId = talkerId
  seqId : m.seqId = p.nextSeq

/-- Our response to a command: with success it names one of our streams. -/
structure Response (p : Peer) (pdu : Buffer) (m : Message) : Prop where
  response : m.response = true
  listenerId : m.listenerId = pduListenerId pdu
  talkerId : m.talkerId = pduTalkerId pdu
  seqId : m.seqId = pduSeqId pdu
  stream : m.status = acmpStatusSuccess →
    ∃ u, talkerUid? (pduTalkerUid pdu) = some u ∧ p.streams u = ⟨m.streamId, m.destMac⟩

/-- What a step that takes in `call` may do to a peer, and say. -/
inductive Exchange (p : Peer) (call : Option (AcmpHandler × Buffer)) : Peer → List Message → Prop
  | ends {resolves : ListenerUid → AvdeccResolve}
    (hended : ∀ i, (resolves i).active → resolves i = p.resolves i) :
    Exchange p call { p with resolves := resolves } []
  | asks {resolves : ListenerUid → AvdeccResolve} {sent : List Message} (talkerId : EntityId)
    (hresolves : ∀ i, (resolves i).active → resolves i = p.resolves i ∨
      (resolves i).ourSeqId = p.nextSeq ∧ (resolves i).talkerId = talkerId)
    (hsent : ∀ m ∈ sent, Command p talkerId m) :
    Exchange p call { p with resolves := resolves, nextSeq := p.nextSeq + 1 } sent
  | answers {pdu : Buffer} {m : Message} (hcall : call = some (.connectTx, pdu))
    (hm : Response p pdu m) : Exchange p call p [m]

theorem Exchange.same {p : Peer} {call : Option (AcmpHandler × Buffer)} :
    Exchange p call p [] := .ends fun _ _ => rfl

theorem peer_books : IgnoresBooks peer := fun _ _ _ _ _ _ _ _ _ _ _ _ _ _ _ _ => rfl

def dealings (fw : Firmware) : Peer × List Message := (peer fw.avdecc, messages fw.sent)

-- ---------------------------------------------------------------------------
-- Frames
-- ---------------------------------------------------------------------------

theorem messages_append (sent new : List WireFrame) :
    messages (sent ++ new) = messages sent ++ messages new := List.filterMap_append

theorem sentMessage_origin {f : WireFrame} (h : f.origin ≠ .firmware .avdecc) :
    sentMessage f = none := if_neg fun hf => h hf.1

theorem sentMessage_subtype {p : Producer} {bytes : List UInt8}
    (h : Buffer.ofList bytes 14 ≠ avtpSubtypeAcmp) : sentMessage ⟨.firmware p, bytes⟩ = none :=
  if_neg fun hf => h ((isAcmp_iff ..).mp hf.2).2

theorem readMessage_congr {b b' : Buffer} (response : Bool) (h : ∀ i < acmpduLen, b i = b' i) :
    readMessage response b = readMessage response b' := by
  have hbytes {at_ n : Nat} (hn : at_ + n ≤ acmpduLen) :
      (b.offset at_).bytes n = (b'.offset at_).bytes n :=
    Buffer.bytes_congr fun i hi => h _ (by omega)
  have hfield {at_ : Nat} (hn : at_ + 2 ≤ acmpduLen) :
      getBe16 (b.offset at_) = getBe16 (b'.offset at_) :=
    getBe16_congr fun i hi => h _ (by omega)
  have hstatus : pduStatus b = pduStatus b' := by rw [pduStatus, pduStatus, h 2 (by decide)]
  have hlistener : pduListenerId b = pduListenerId b' := hbytes (by decide)
  have htalker : pduTalkerId b = pduTalkerId b' := hbytes (by decide)
  have huid : pduTalkerUid b = pduTalkerUid b' := hfield (by decide)
  have hseq : pduSeqId b = pduSeqId b' := hfield (by decide)
  have hstream : pduStreamId b = pduStreamId b' := hbytes (by decide)
  have hdest : pduStreamDestMac b = pduStreamDestMac b' := hbytes (by decide)
  simp only [readMessage, hstatus, hlistener, htalker, huid, hseq, hstream, hdest]

theorem messageOf_congr {b b' : Buffer} (h : ∀ i < acmpduLen, b i = b' i) :
    messageOf b = messageOf b' := by
  rw [messageOf, messageOf, h 1 (by decide), readMessage_congr false h, readMessage_congr true h]

/-- An ACMP frame carries the message its PDU reads as. -/
theorem sentMessage_acmp (srcMac : MacAddr) (b : Buffer) (hsubtype : b 0 = avtpSubtypeAcmp) :
    sentMessage ⟨.firmware .avdecc, avdeccEthHdr srcMac ++ b.take acmpduLen⟩ = messageOf b := by
  have hacmp : isAcmp (Buffer.ofList (avdeccEthHdr srcMac ++ b.take acmpduLen))
      (avdeccEthHdr srcMac ++ b.take acmpduLen).length := by
    refine (isAcmp_iff ..).mpr ⟨?_, (frame_pdu srcMac b (show 0 < acmpduLen by decide)).trans
      hsubtype⟩
    rw [List.length_append, ethHdr_length, Buffer.length_take]
  rw [sentMessage, if_pos ⟨rfl, hacmp⟩]
  exact messageOf_congr fun i hi => frame_pdu srcMac b hi

/-- A PDU built from nothing. -/
theorem sentMessage_acmpdu (srcMac : MacAddr) (a : Acmpdu) :
    sentMessage ⟨.firmware .avdecc, avdeccEthHdr srcMac ++ a.bytes⟩ =
      messageOf (Buffer.ofList a.bytes) := by
  obtain ⟨hbytes, hsubtype, -⟩ := acmpdu_bytes a
  conv_lhs => rw [hbytes]
  exact sentMessage_acmp srcMac _ hsubtype

/-- The fields of a PDU built from nothing. -/
theorem readMessage_acmpdu (response : Bool) (a : Acmpdu) :
    let m := readMessage response (Buffer.ofList a.bytes)
    m.response = response ∧ m.listenerId = a.listenerId ∧ m.talkerId = a.talkerId ∧
      m.talkerUid = a.talkerUid ∧ m.seqId = a.seqId := by
  have h : (Buffer.ofList a.bytes).Holds 0 a.bytes := Buffer.holds_ofList a.bytes
  generalize Buffer.ofList a.bytes = b at h
  simp only [Acmpdu.bytes, Buffer.holds_append, List.length_append, Vector.length_toList, be16,
    List.length_cons, List.length_nil] at h
  obtain ⟨⟨⟨⟨⟨⟨⟨⟨⟨⟨⟨⟨-, -⟩, -⟩, htalker⟩, hlistener⟩, huid⟩, -⟩, -⟩, -⟩, hseq⟩, -⟩, -⟩, -⟩ := h
  refine ⟨rfl, ?_, ?_, ?_, ?_⟩
  · exact Buffer.Holds.bytes (Buffer.holds_offset.mpr hlistener)
  · exact Buffer.Holds.bytes (Buffer.holds_offset.mpr htalker)
  · exact getBe16_eq (huid 0 Nat.two_pos) (huid 1 Nat.one_lt_two)
  · exact getBe16_eq (hseq 0 Nat.two_pos) (hseq 1 Nat.one_lt_two)

-- ---------------------------------------------------------------------------
-- Frames that carry none
-- ---------------------------------------------------------------------------

/-- Frames of AVDECC without a CONNECT_TX message. -/
structure Silent (frames : List (List UInt8)) : Prop where
  noMessage : ∀ bytes ∈ frames, sentMessage ⟨.firmware .avdecc, bytes⟩ = none

theorem Silent.nil : Silent [] := ⟨fun _ h => absurd h List.not_mem_nil⟩

theorem Silent.append {first second : List (List UInt8)} (h : Silent first) (h' : Silent second) :
    Silent (first ++ second) where
  noMessage bytes hbytes := by
    rcases List.mem_append.mp hbytes with hbytes | hbytes
    · exact h.noMessage bytes hbytes
    · exact h'.noMessage bytes hbytes

theorem Silent.singleton {bytes : List UInt8}
    (h : sentMessage ⟨.firmware .avdecc, bytes⟩ = none) : Silent [bytes] :=
  ⟨fun _ hbytes => List.mem_singleton.mp hbytes ▸ h⟩

theorem pushUnsol_silent (cmd cdl : UInt16) (payload : List UInt8)
    (indices : List (Fin avdeccMaxUnsolCtrl)) (s : Avdecc) :
    Silent (pushUnsol cmd cdl payload indices s).2 := by
  induction indices generalizing s with
  | nil => exact .nil
  | cons i rest ih =>
    rw [pushUnsol]
    refine Silent.append ?_ (ih _)
    unfold pushTo
    dsimp only
    split
    · refine .singleton (sentMessage_subtype ?_)
      rw [ConnectAnswers.unsolFrame_subtype]
      decide
    · exact .nil

theorem pushListener_silent (s : Avdecc) (uid : ListenerUid) : Silent (pushListener s uid).2 := by
  unfold pushListener pushUnsolStreamInfo pushUnsolStreamCounters pushUnsolCounters
  exact (pushUnsol_silent ..).append (pushUnsol_silent ..)

theorem lockChanged_silent (s : Avdecc) (uid : ListenerUid) (locked : Bool) :
    Silent (avdeccListenerLockChanged s uid locked).2 := by
  unfold avdeccListenerLockChanged
  split
  · exact .nil
  · exact pushUnsol_silent ..

theorem trackClockLock_silent (s : Avdecc) (g : Gptp) (m : Mcr) :
    Silent (trackClockLock s g m).2 := by
  unfold trackClockLock
  dsimp only
  split
  · exact .nil
  split
  · exact pushUnsol_silent ..
  · exact .nil

theorem adpAdvertise_silent (s : Avdecc) (g : Gptp) (nowMs : UInt32) :
    Silent (adpAdvertise s g nowMs).2 := by
  unfold adpAdvertise
  split
  · refine .singleton (sentMessage_subtype ?_)
    simp only [avdeccEthHdr, List.append_assoc, List.cons_append]
    rw [Buffer.ofList_payload _ _ _ rfl]
    decide
  · exact .nil

/-- ACMP messages of the other types. -/
theorem acmpdu_silent (srcMac : MacAddr) (a : Acmpdu)
    (h : a.msgType &&& 0x0F ≠ acmpMsgConnectTxCommand)
    (h' : a.msgType &&& 0x0F ≠ acmpMsgConnectTxResponse) :
    Silent [avdeccEthHdr srcMac ++ a.bytes] := by
  refine .singleton ?_
  obtain ⟨-, -, htype, -⟩ := acmpdu_bytes a
  rw [sentMessage_acmpdu, messageOf, htype, if_neg h, if_neg h']

theorem deferred_silent (s : Avdecc) (r : AvdeccResolve) (status : UInt8) (streamId : StreamId)
    (destMac : MacAddr) (vlanId : UInt16) :
    Silent (sendDeferredConnectRxResponse s r status streamId destMac vlanId).2 :=
  acmpdu_silent _ _ (show acmpMsgConnectRxResponse &&& 0x0F ≠ _ by decide)
    (show acmpMsgConnectRxResponse &&& 0x0F ≠ _ by decide)

theorem timeOutResolve_silent (s : Avdecc) (i : ListenerUid) (nowMs : UInt32) :
    Silent (timeOutResolve s i nowMs).2 := by
  unfold timeOutResolve
  dsimp only
  split
  · exact deferred_silent ..
  · exact .nil

theorem messages_silent {frames : List (List UInt8)} (h : Silent frames) :
    messages (frames.map fun bytes => ⟨.firmware .avdecc, bytes⟩) = [] := by
  refine List.filterMap_eq_nil_iff.mpr fun f hf => ?_
  obtain ⟨bytes, hbytes, rfl⟩ := List.mem_map.mp hf
  exact h.noMessage bytes hbytes

/-- Frames of other modules. -/
theorem messages_others {p : Producer} (hp : p ≠ .avdecc) {before after : List WireFrame}
    (h : Adds (SentBy p) before after) : messages after = messages before := by
  obtain ⟨new, rfl, hnew⟩ := h
  have hnone : messages new = [] := List.filterMap_eq_nil_iff.mpr fun f hf =>
    sentMessage_origin fun havdecc => (hnew f hf).not_other hp havdecc
  rw [messages_append, hnone, List.append_nil]

-- ---------------------------------------------------------------------------
-- What leaves the exchange alone
-- ---------------------------------------------------------------------------

theorem putAvdecc_dealings (fw : Firmware) (r : Avdecc × List (List UInt8)) :
    dealings (fw.putAvdecc r) = (peer r.1,
      messages fw.sent ++ messages (r.2.map fun bytes => ⟨.firmware .avdecc, bytes⟩)) := by
  have hsent : (fw.putAvdecc r).sent =
      fw.sent ++ r.2.map fun bytes => ⟨.firmware .avdecc, bytes⟩ := sendAll_sent ..
  rw [dealings, putAvdecc_avdecc, hsent, messages_append]

theorem putAvdecc_silent (fw : Firmware) {r : Avdecc × List (List UInt8)} (h : Silent r.2) :
    dealings (fw.putAvdecc r) = (peer r.1, messages fw.sent) := by
  rw [putAvdecc_dealings, messages_silent h, List.append_nil]

theorem putAvdecc_same (fw : Firmware) {r : Avdecc × List (List UInt8)}
    (hpeer : peer r.1 = peer fw.avdecc) (h : Silent r.2) :
    dealings (fw.putAvdecc r) = dealings fw := by
  rw [putAvdecc_silent fw h, hpeer]
  rfl

theorem onListenerConnect_dealings (fw : Firmware) (uid : ListenerUid) (streamId : StreamId)
    (destMac : MacAddr) (talkerId : EntityId) (nowMs : UInt32) :
    dealings (onListenerConnect fw uid streamId destMac talkerId nowMs) = dealings fw :=
  Prod.ext (onListenerConnect_books peer_books ..) (congrArg messages (onListenerConnect_sent ..))

theorem onListenerDisconnect_dealings (fw : Firmware) (uid : ListenerUid) (nowMs : UInt32) :
    dealings (onListenerDisconnect fw uid nowMs) = dealings fw :=
  Prod.ext (congrArg peer (onListenerDisconnect_sameAvdecc ..)) (congrArg messages (onListenerDisconnect_sent ..))

theorem notified_dealings (fw : Firmware) (uid : ListenerUid) :
    dealings (fw.putAvdecc (notifyListenerConnected fw.avdecc uid)) = dealings fw :=
  putAvdecc_same fw (notifyListenerConnected_books peer_books ..) (pushListener_silent ..)

-- ---------------------------------------------------------------------------
-- Responses
-- ---------------------------------------------------------------------------

/-- Responses of the other types. -/
theorem respond_dealings (fw : Firmware) {msgType : UInt8} (status : UInt8) (pdu : Buffer)
    (h : msgType &&& 0x0F ≠ acmpMsgConnectTxCommand)
    (h' : msgType &&& 0x0F ≠ acmpMsgConnectTxResponse) :
    dealings (fw.respond msgType status pdu) = dealings fw := by
  refine putAvdecc_same fw (acmpCounted_books peer_books fw.avdecc fw.avdecc.acmpRxCount _) ?_
  obtain ⟨b, hframe, hsubtype, htype, -⟩ :=
    ConnectAnswers.acmpSendResponse_frame fw.avdecc msgType status pdu
  have hmask : b 1 &&& 0x0F = msgType &&& 0x0F := by
    rw [htype, UInt8.and_assoc]
    rfl
  rw [hframe]
  refine .singleton ?_
  rw [sentMessage_acmp _ _ hsubtype, messageOf, hmask, if_neg h, if_neg h']

section Filled

variable (s : Avdecc) (msgType : UInt8) (pdu : Buffer)

/-- A talker's response keeps the header, the ids, the uids and the sequence
number. -/
theorem fillTalkerResponse_kept {i : Nat}
    (h : i < 4 ∨ (20 ≤ i ∧ i < 40) ∨ (48 ≤ i ∧ i < 50)) :
    fillTalkerResponse s msgType pdu i = pdu i := by
  unfold fillTalkerResponse
  cases talkerUid? (getBe16 (pdu.offset acmpOffTalkerUid)) with
  | none => rfl
  | some uid =>
    dsimp only
    iterate 3
      rw [Buffer.copy_outside (by
        simp only [acmpOffConnCount, acmpOffStreamDestMac, acmpOffStreamId, be16,
          Vector.length_toList, List.length_cons, List.length_nil]
        omega)]

/-- And it names the stream. -/
theorem fillTalkerResponse_stream {u : TalkerUid} (h : talkerUid? (pduTalkerUid pdu) = some u) :
    pduStreamId (fillTalkerResponse s msgType pdu) = (s.talkers u).streamId ∧
      pduStreamDestMac (fillTalkerResponse s msgType pdu) = (s.talkers u).destMac := by
  unfold fillTalkerResponse
  rw [pduTalkerUid] at h
  rw [h]
  dsimp only
  generalize (if msgType = acmpMsgGetTxStateResponse then 0
    else (s.talkers u).connectionCount) = count
  constructor
  · refine Buffer.Holds.bytes (Buffer.holds_offset.mpr fun i hi => ?_)
    have hlt : i < 8 := by simpa using hi
    rw [Buffer.copy_outside (.inl (by simp only [acmpOffConnCount, acmpOffStreamId]; omega)),
      Buffer.copy_outside (.inl (by simp only [acmpOffStreamDestMac, acmpOffStreamId]; omega))]
    exact Buffer.holds_copy_at _ _ _ i hi
  · refine Buffer.Holds.bytes (Buffer.holds_offset.mpr fun i hi => ?_)
    have hlt : i < 6 := by simpa using hi
    rw [Buffer.copy_outside (.inl (by simp only [acmpOffConnCount, acmpOffStreamDestMac]; omega))]
    exact Buffer.holds_copy_at _ _ _ i hi

/-- The header of a response written over the command. -/
def headed (status : UInt8) : Buffer :=
  (pdu.copy 0 [avtpSubtypeAcmp, acmpMsgConnectTxResponse]).copy 2
    (be16 (statusCdl status acmpControlDataLen))

variable {pdu}

theorem headed_kept {status : UInt8} {i : Nat} (h : 4 ≤ i) : headed pdu status i = pdu i := by
  unfold headed
  iterate 2
    rw [Buffer.copy_outside (.inr (by
      simp only [be16, List.length_cons, List.length_nil]
      omega))]

variable (pdu)

theorem connectTxResponse_message (status : UInt8) :
    messages ((acmpSendResponse s acmpMsgConnectTxResponse status pdu).2.map fun bytes =>
      ⟨.firmware .avdecc, bytes⟩) =
      [readMessage true (fillTalkerResponse s acmpMsgConnectTxResponse (headed pdu status))] := by
  have hframe : (acmpSendResponse s acmpMsgConnectTxResponse status pdu).2 =
      [avdeccEthHdr s.srcMac ++
        (fillTalkerResponse s acmpMsgConnectTxResponse (headed pdu status)).take acmpduLen] := rfl
  have htype {i : Nat} (hi : i < 2) :
      fillTalkerResponse s acmpMsgConnectTxResponse (headed pdu status) i = headed pdu status i :=
    ConnectAnswers.fillTalkerResponse_kept s _ _ (.inl hi)
  have hmessage : messageOf (fillTalkerResponse s acmpMsgConnectTxResponse (headed pdu status)) =
      some (readMessage true
        (fillTalkerResponse s acmpMsgConnectTxResponse (headed pdu status))) := by
    have hone : headed pdu status 1 = acmpMsgConnectTxResponse := rfl
    rw [messageOf, htype Nat.one_lt_two, hone, if_neg (by decide), if_pos (by decide)]
  rw [hframe]
  refine (List.filterMap_cons_some ?_).trans rfl
  rw [sentMessage_acmp _ _ (htype Nat.two_pos), hmessage]

/-- What a response shares with the command it is written over. -/
theorem response_fields (status : UInt8) :
    let m := readMessage true (fillTalkerResponse s msgType (headed pdu status))
    m.listenerId = pduListenerId pdu ∧ m.talkerId = pduTalkerId pdu ∧ m.seqId = pduSeqId pdu ∧
      pduTalkerUid (headed pdu status) = pduTalkerUid pdu := by
  have hkept {i : Nat} (hi : (20 ≤ i ∧ i < 40) ∨ (48 ≤ i ∧ i < 50)) :
      fillTalkerResponse s msgType (headed pdu status) i = pdu i :=
    (fillTalkerResponse_kept s msgType _ (.inr hi)).trans (headed_kept (by omega))
  refine ⟨Buffer.bytes_congr fun i hi => ?_, Buffer.bytes_congr fun i hi => ?_,
    getBe16_congr fun i hi => ?_, getBe16_congr fun i hi => ?_⟩
  · exact hkept (by simp only [acmpOffListenerId]; omega)
  · exact hkept (by simp only [acmpOffTalkerId]; omega)
  · exact hkept (by simp only [acmpOffSeqId]; omega)
  · exact headed_kept (by simp only [acmpOffTalkerUid]; omega)

end Filled

/-- A CONNECT_TX_COMMAND is answered, and nothing else comes of it here. -/
theorem connectTx_dealings (fw : Firmware) (pdu : Buffer) (r : Readings) :
    ∃ m, Response (peer fw.avdecc) pdu m ∧
      dealings (acmpHandleConnectTx fw pdu r) = (peer fw.avdecc, messages fw.sent ++ [m]) := by
  unfold acmpHandleConnectTx
  cases hu : talkerUid? (pduTalkerUid pdu) with
  | none =>
    obtain ⟨hlistener, htalker, hseq, -⟩ := response_fields fw.avdecc acmpMsgConnectTxResponse pdu
      acmpStatusTalkerUnknownId
    refine ⟨_, ⟨rfl, hlistener, htalker, hseq, fun hsuccess => ?_⟩, ?_⟩
    · have hstatus : pduStatus (fillTalkerResponse fw.avdecc acmpMsgConnectTxResponse
          (headed pdu acmpStatusTalkerUnknownId)) = acmpStatusTalkerUnknownId := by
        have hhigh : headed pdu acmpStatusTalkerUnknownId 2 =
            (statusCdl acmpStatusTalkerUnknownId acmpControlDataLen >>> 8).toUInt8 := rfl
        rw [pduStatus, fillTalkerResponse_kept _ _ _ (.inl (by decide)), hhigh]
        decide
      exact absurd (hstatus.symm.trans hsuccess) (by decide)
    · dsimp only
      rw [Firmware.respond, putAvdecc_dealings, connectTxResponse_message]
      rfl
  | some u =>
    dsimp only
    generalize hfw : onTalkerConnect _ u r = fw'
    have hsent : fw'.sent = fw.sent := hfw ▸ onTalkerConnect_sent ..
    have havdecc : peer fw'.avdecc = peer fw.avdecc := by
      have hstart (fw'' : Firmware) : (onTalkerConnect fw'' u r).avdecc = fw''.avdecc := by
        unfold onTalkerConnect
        split <;> rfl
      rw [← hfw, hstart]
      refine Peer.mk.injEq .. |>.mpr ⟨rfl, funext fun v => ?_, rfl, rfl⟩
      rw [v.eq_aaf, u.eq_aaf]
      simp [Avdecc.setTalker]
    obtain ⟨hlistener, htalker, hseq, huid⟩ := response_fields fw'.avdecc acmpMsgConnectTxResponse
      pdu acmpStatusSuccess
    obtain ⟨hstream, hdest⟩ := fillTalkerResponse_stream fw'.avdecc acmpMsgConnectTxResponse
      (headed pdu acmpStatusSuccess) ((congrArg talkerUid? huid).trans hu)
    refine ⟨_, ⟨rfl, hlistener, htalker, hseq, fun _ => ⟨u, hu, ?_⟩⟩, ?_⟩
    · rw [← havdecc]
      exact congrArg₂ TalkerIdentity.mk hstream.symm hdest.symm
    · rw [Firmware.respond, putAvdecc_dealings, connectTxResponse_message, hsent]
      refine Prod.ext ?_ rfl
      exact (acmpCounted_books peer_books fw'.avdecc fw'.avdecc.acmpRxCount _).trans havdecc

-- ---------------------------------------------------------------------------
-- The other handlers
-- ---------------------------------------------------------------------------

theorem setTalker_peer {s : Avdecc} {u : TalkerUid} {t : AvdeccTalkerStream}
    (hstream : t.streamId = (s.talkers u).streamId) (hdest : t.destMac = (s.talkers u).destMac) :
    peer (s.setTalker u t) = peer s := by
  refine Peer.mk.injEq .. |>.mpr ⟨rfl, funext fun v => ?_, rfl, rfl⟩
  obtain rfl : v = u := v.eq_aaf.trans u.eq_aaf.symm
  simp only [Avdecc.setTalker, Function.update_self, hstream, hdest]

theorem disconnectTx_dealings (fw : Firmware) (pdu : Buffer) (r : Readings) :
    dealings (acmpHandleDisconnectTx fw pdu r) = dealings fw := by
  unfold acmpHandleDisconnectTx
  dsimp only
  rw [respond_dealings _ _ _ (by decide) (by decide)]
  split
  · rfl
  · refine Prod.ext ?_ (congrArg messages (onTalkerDisconnect_sent ..))
    have hstop (fw' : Firmware) (u : TalkerUid) : (onTalkerDisconnect fw' u r).avdecc = fw'.avdecc := by
      unfold onTalkerDisconnect
      split <;> rfl
    rw [dealings, hstop]
    exact setTalker_peer rfl rfl

theorem disconnectRx_dealings (fw : Firmware) (pdu : Buffer) (nowMs : UInt32) :
    dealings (acmpHandleDisconnectRx fw pdu nowMs) = dealings fw := by
  unfold acmpHandleDisconnectRx
  dsimp only
  rw [respond_dealings _ _ _ (by decide) (by decide)]
  split
  · rfl
  · rw [putAvdecc_same _ (notifyListenerDisconnected_books peer_books ..)
      (pushListener_silent ..), onListenerDisconnect_dealings]
    exact Prod.ext (setListener_books peer_books ..) rfl

theorem fastConnect_dealings (fw : Firmware) (luid : ListenerUid) (pdu : Buffer)
    (nowMs : UInt32) : dealings (fastConnect fw luid pdu nowMs) = dealings fw := by
  unfold fastConnect
  dsimp only
  rw [respond_dealings _ _ _ (by decide) (by decide), notified_dealings,
    onListenerConnect_dealings]
  exact Prod.ext (setListener_books peer_books ..) rfl

theorem connectResolved_dealings (fw : Firmware) (r : AvdeccResolve) (pdu : Buffer)
    (nowMs : UInt32) : dealings (connectResolved fw r pdu nowMs) = dealings fw := by
  unfold connectResolved
  dsimp only
  rw [notified_dealings, onListenerConnect_dealings]
  exact Prod.ext (setListener_books peer_books ..) rfl

/-- An answer ends the resolve it is for. -/
theorem connectTxResponse_dealings (fw : Firmware) (pdu : Buffer) (nowMs : UInt32) :
    ∃ resolves, (∀ i, (resolves i).active → resolves i = fw.avdecc.resolves i) ∧
      dealings (acmpHandleConnectTxResponse fw pdu nowMs) =
        ({ peer fw.avdecc with resolves := resolves }, messages fw.sent) := by
  unfold acmpHandleConnectTxResponse
  cases answeredResolve fw.avdecc pdu with
  | none => exact ⟨_, fun _ _ => rfl, rfl⟩
  | some i =>
    dsimp only
    have hconnected : dealings (if pduStatus pdu = acmpStatusSuccess then
        connectResolved fw (fw.avdecc.resolves i) pdu nowMs else fw) = dealings fw := by
      split
      · exact connectResolved_dealings ..
      · rfl
    generalize (if pduStatus pdu = acmpStatusSuccess then
      connectResolved fw (fw.avdecc.resolves i) pdu nowMs else fw) = fw' at hconnected ⊢
    have hpeer : peer fw'.avdecc = peer fw.avdecc := congrArg Prod.fst hconnected
    have hmessages : messages fw'.sent = messages fw.sent := congrArg Prod.snd hconnected
    have hsent := putAvdecc_silent fw' (deferred_silent fw'.avdecc (fw.avdecc.resolves i)
      (pduStatus pdu) (pduStreamId pdu) (pduStreamDestMac pdu) (pduVlanId pdu))
    generalize fw'.putAvdecc _ = fw'' at hsent ⊢
    have hpeer' : peer fw''.avdecc = peer fw.avdecc := (congrArg Prod.fst hsent).trans
      ((acmpCounted_books peer_books fw'.avdecc fw'.avdecc.acmpRxCount _).trans hpeer)
    have hresolves : fw''.avdecc.resolves = fw.avdecc.resolves := congrArg Peer.resolves hpeer'
    refine ⟨Function.update fw.avdecc.resolves i { fw.avdecc.resolves i with active := false },
      fun j hj => ?_, Prod.ext ?_ ((congrArg Prod.snd hsent).trans hmessages)⟩
    · rcases eq_or_ne j i with rfl | hji
      · rw [Function.update_self] at hj
        cases hj
      · exact Function.update_of_ne hji ..
    · rw [← hpeer', ← hresolves]
      rfl

theorem sendConnectTxCommand_command {s : Avdecc} {p : Peer} {r : AvdeccResolve}
    (hentity : s.entityId = p.entityId) (hseq : r.ourSeqId = p.nextSeq) :
    ∀ m ∈ messages ((sendConnectTxCommand s r).2.map fun bytes => ⟨.firmware .avdecc, bytes⟩),
      Command p r.talkerId m := by
  intro m hm
  obtain ⟨f, hf, hread⟩ := List.mem_filterMap.mp hm
  obtain ⟨bytes, hbytes, rfl⟩ := List.mem_map.mp hf
  unfold sendConnectTxCommand acmpSend at hbytes
  rw [List.mem_singleton.mp hbytes, sentMessage_acmpdu] at hread
  clear hbytes
  generalize ha : Acmpdu.mk _ _ _ _ _ _ _ _ _ _ _ _ _ = a at hread
  obtain ⟨-, -, htype, -⟩ := acmpdu_bytes a
  obtain ⟨hresponse, hlistener, htalker, -, hnumber⟩ := readMessage_acmpdu false a
  have hcommand : a.msgType = acmpMsgConnectTxCommand := ha ▸ rfl
  rw [messageOf, htype, hcommand, if_pos (by decide)] at hread
  obtain rfl := Option.some.inj hread
  refine ⟨hresponse, hlistener.trans ?_, htalker.trans (ha ▸ rfl), hnumber.trans ?_⟩
  · rw [← hentity, ← ha]
  · rw [← hseq, ← ha]

/-- A resolve is started, and its talker asked, under the next number. -/
theorem asked_exchange {fw : Firmware} {s : Avdecc} {r : AvdeccResolve} {luid : ListenerUid}
    (hpeer : peer s = { peer fw.avdecc with
      resolves := Function.update fw.avdecc.resolves luid r
      nextSeq := fw.avdecc.nextAcmpSeq + 1 })
    (hseq : r.ourSeqId = fw.avdecc.nextAcmpSeq) (hsent : fw.sent = [])
    (call : Option (AcmpHandler × Buffer)) :
    Exchange (peer fw.avdecc) call
      (peer ({ fw with avdecc := s }.putAvdecc (sendConnectTxCommand s r)).avdecc)
      (messages ({ fw with avdecc := s }.putAvdecc (sendConnectTxCommand s r)).sent) := by
  have hdealings := putAvdecc_dealings { fw with avdecc := s } (sendConnectTxCommand s r)
  have hafter : peer (sendConnectTxCommand s r).1 = peer s :=
    acmpCounted_books peer_books s s.acmpRxCount _
  rw [hafter, hpeer, show messages fw.sent = [] from hsent ▸ rfl, List.nil_append] at hdealings
  obtain ⟨hp, hm⟩ := Prod.mk.inj hdealings
  rw [hp, hm]
  refine .asks r.talkerId (fun i _ => ?_)
    (sendConnectTxCommand_command (congrArg Peer.entityId hpeer) hseq)
  rcases eq_or_ne i luid with rfl | hi
  · rw [Function.update_self]
    exact .inr ⟨hseq, rfl⟩
  · exact .inl (Function.update_of_ne hi ..)

/-- The watchdog's CONNECT_TX is asked without a resolve. -/
theorem crfFlowWatchdog_exchange (fw : Firmware) (luid : ListenerUid) (rxCount nowMs : UInt32)
    (hsent : fw.sent = []) (call : Option (AcmpHandler × Buffer)) :
    Exchange (peer fw.avdecc) call
      (peer (fw.putAvdecc (avdeccCrfFlowWatchdog fw.avdecc luid rxCount nowMs)).avdecc)
      (messages (fw.putAvdecc (avdeccCrfFlowWatchdog fw.avdecc luid rxCount nowMs)).sent) := by
  obtain ⟨hp, hm⟩ := Prod.mk.inj (putAvdecc_dealings fw
    (avdeccCrfFlowWatchdog fw.avdecc luid rxCount nowMs))
  rw [show messages fw.sent = [] from hsent ▸ rfl, List.nil_append] at hm
  rw [hp, hm]
  clear hp hm
  unfold avdeccCrfFlowWatchdog
  iterate 5
    split
    · exact .same
  unfold crfRebootstrap
  dsimp only
  split
  · refine .asks (fw.avdecc.listeners luid).talkerId (fun _ _ => .inl rfl) ?_
    rw [messages_silent]
    · exact fun _ hm => absurd hm List.not_mem_nil
    · exact acmpdu_silent _ _ (show acmpMsgDisconnectTxCommand &&& 0x0F ≠ _ by decide)
        (show acmpMsgDisconnectTxCommand &&& 0x0F ≠ _ by decide)
  split
  · exact .asks (fw.avdecc.listeners luid).talkerId (fun _ _ => .inl rfl)
      (sendConnectTxCommand_command rfl rfl)
  · exact .asks (fw.avdecc.listeners luid).talkerId (fun _ _ => .inl rfl)
      fun _ hm => absurd hm List.not_mem_nil

theorem avdeccPoll_dealings (fw : Firmware) (nowMs : UInt32) :
    ∃ resolves, (∀ i, (resolves i).active → resolves i = fw.avdecc.resolves i) ∧
      dealings (fw.putAvdecc (avdeccPoll fw.avdecc fw.gptp fw.mcr nowMs)) =
        ({ peer fw.avdecc with resolves := resolves }, messages fw.sent) := by
  have htimeOut (s : Avdecc) (i : ListenerUid) :
      ∃ resolves, (∀ j, (resolves j).active → resolves j = s.resolves j) ∧
        peer (timeOutResolve s i nowMs).1 = { peer s with resolves := resolves } := by
    unfold timeOutResolve
    dsimp only
    split
    · refine ⟨Function.update s.resolves i { s.resolves i with active := false },
        fun j hj => ?_, rfl⟩
      rcases eq_or_ne j i with rfl | hji
      · rw [Function.update_self] at hj
        cases hj
      · exact Function.update_of_ne hji ..
    · exact ⟨_, fun _ _ => rfl, rfl⟩
  have hadp (s : Avdecc) : peer (adpAdvertise s fw.gptp nowMs).1 = peer s := by
    unfold adpAdvertise
    split <;> rfl
  have hclock := trackClockLock_books peer_books fw.avdecc fw.gptp fw.mcr
  obtain ⟨crf, hcrf, hpeerCrf⟩ := htimeOut (trackClockLock fw.avdecc fw.gptp fw.mcr).1
    listenerUidCrf
  obtain ⟨aaf, haaf, hpeerAaf⟩ := htimeOut
    (timeOutResolve (trackClockLock fw.avdecc fw.gptp fw.mcr).1 listenerUidCrf nowMs).1
    listenerUidAaf
  refine ⟨aaf, fun i hi => ?_, ?_⟩
  · have hkept : aaf i = crf i :=
      (haaf i hi).trans (congrFun (congrArg Peer.resolves hpeerCrf) i)
    rw [hkept] at hi ⊢
    exact (hcrf i hi).trans (congrFun (congrArg Peer.resolves hclock) i)
  · have hsilent : Silent (avdeccPoll fw.avdecc fw.gptp fw.mcr nowMs).2 := by
      unfold avdeccPoll
      dsimp only
      exact (((trackClockLock_silent ..).append (timeOutResolve_silent ..)).append
        (timeOutResolve_silent ..)).append (adpAdvertise_silent ..)
    rw [putAvdecc_silent fw hsilent]
    refine Prod.ext ?_ rfl
    refine (hadp _).trans (hpeerAaf.trans ?_)
    rw [hpeerCrf, hclock]

-- ---------------------------------------------------------------------------
-- A step
-- ---------------------------------------------------------------------------

theorem Exchange.of_dealings {fw fw' : Firmware} {call : Option (AcmpHandler × Buffer)}
    (h : dealings fw' = dealings fw) (hsent : fw.sent = []) :
    Exchange (peer fw.avdecc) call (peer fw'.avdecc) (messages fw'.sent) := by
  obtain ⟨hp, hm⟩ := Prod.mk.inj h
  rw [hp, hm, hsent]
  exact .same

theorem Exchange.of_ended {fw fw' : Firmware} {call : Option (AcmpHandler × Buffer)}
    (h : ∃ resolves, (∀ i, (resolves i).active → resolves i = fw.avdecc.resolves i) ∧
      dealings fw' = ({ peer fw.avdecc with resolves := resolves }, messages fw.sent))
    (hsent : fw.sent = []) :
    Exchange (peer fw.avdecc) call (peer fw'.avdecc) (messages fw'.sent) := by
  obtain ⟨resolves, hended, hdealings⟩ := h
  obtain ⟨hp, hm⟩ := Prod.mk.inj hdealings
  rw [hp, hm, hsent]
  exact .ends hended

theorem acmpHandle_exchange (fw : Firmware) (pdu : Buffer) (r : Readings) (h : AcmpHandler)
    (hsent : fw.sent = []) :
    Exchange (peer fw.avdecc) (some (h, pdu)) (peer (acmpHandle fw pdu r h).avdecc)
      (messages (acmpHandle fw pdu r h).sent) := by
  cases h with
  | connectTx =>
    obtain ⟨m, hm, hdealings⟩ := connectTx_dealings fw pdu r
    obtain ⟨hpeer, hmessages⟩ := Prod.mk.inj hdealings
    rw [acmpHandle, hpeer, hmessages, hsent]
    exact .answers rfl hm
  | connectTxResponse => exact .of_ended (connectTxResponse_dealings ..) hsent
  | disconnectTx => exact .of_dealings (disconnectTx_dealings ..) hsent
  | getTxState => exact .of_dealings (respond_dealings _ _ _ (by decide) (by decide)) hsent
  | connectRx =>
    rw [acmpHandle, acmpHandleConnectRx]
    split
    · exact .of_dealings (respond_dealings _ _ _ (by decide) (by decide)) hsent
    split
    · exact asked_exchange rfl rfl hsent _
    split
    · exact .of_dealings (respond_dealings _ _ _ (by decide) (by decide)) hsent
    · exact .of_dealings (fastConnect_dealings ..) hsent
  | disconnectRx => exact .of_dealings (disconnectRx_dealings ..) hsent
  | getRxState => exact .of_dealings (respond_dealings _ _ _ (by decide) (by decide)) hsent

theorem loopStep_messages (fw : Firmware) {step : LoopStep} (h : .avdecc ∉ step.senders) :
    messages (loopStep fw step).sent = messages fw.sent := by
  obtain ⟨new, hsent, hnew⟩ := loopStep_adds fw step
  have hnone : messages new = [] := List.filterMap_eq_nil_iff.mpr fun f hf =>
    sentMessage_origin fun havdecc => h (hnew f hf _ havdecc)
  rw [hsent, messages_append, hnone, List.append_nil]

theorem aecp_messages (fw : Firmware) (frame : Buffer) (len : Nat)
    (h : frame 14 = avtpSubtypeAecp) : messages (fw.aecp frame len).sent = messages fw.sent := by
  have hsubtype := aecpHandle_subtype fw.avdecc
    ⟨frame, len - 14, fw.mac.buf .avdecc, fw.gptp, fw.srp⟩ h
  unfold Firmware.aecp
  dsimp only
  split
  · rename_i length hsent
    have hslot := hsubtype (by rw [hsent]; rfl)
    refine (messages_append ..).trans ?_
    have hnone (slot : Buffer) (hacmp : slot 14 ≠ avtpSubtypeAcmp) :
        messages [⟨.firmware .avdecc, slot.take length⟩] = [] :=
      List.filterMap_cons_none
        (sentMessage_subtype (ConnectAnswers.take_subtype hacmp length))
    refine (congrArg (messages fw.sent ++ ·) (hnone _ ?_)).trans (List.append_nil _)
    rw [hslot]
    decide
  · rfl

theorem dispatchRx_messages (fw : Firmware) (slot : Buffer) (len : Nat) (r : Readings)
    (hcall : acmpCall fw (.dispatchRx slot len r) = none) :
    messages (dispatchRx fw slot len r).sent = messages fw.sent := by
  unfold acmpCall at hcall
  unfold dispatchRx
  dsimp only at hcall ⊢
  generalize rxFrame slot len fw.scratch = rx at hcall ⊢
  cases hhandler : rxHandler rx.frame rx.len with
  | none => rfl
  | some handler =>
    cases handler with
    | gptp => exact messages_others (p := .gptp) (by decide) (putGptp_adds ..)
    | crf => rfl
    | aaf => rfl
    | msrp => exact congrArg messages (srpProcessRx_sent ..)
    | avdecc =>
      rw [hhandler] at hcall
      dsimp only
      rw [rxHandle]
      have hrx := avdeccRx { fw with scratch := rx.scratch } rx.frame rx.len r
      generalize avdeccProcessRx { fw with scratch := rx.scratch } rx.frame rx.len r = fw' at hrx ⊢
      cases hrx with
      | ignored => rfl
      | uncalled => rfl
      | acmp hacmp handler hcalled =>
        rw [if_pos ⟨rfl, hacmp⟩, Option.map_eq_none_iff] at hcall
        cases hcall.symm.trans hcalled
      | aecp _ haecp => exact aecp_messages _ _ _ haecp

theorem trackLocks_messages (fw : Firmware) :
    messages (trackLocks fw).sent = messages fw.sent := by
  have hlock (fw : Firmware) (uid : ListenerUid) (locked : Bool) :
      messages (fw.putAvdecc (avdeccListenerLockChanged fw.avdecc uid locked)).sent =
        messages fw.sent :=
    congrArg Prod.snd (putAvdecc_silent fw (lockChanged_silent fw.avdecc uid locked))
  unfold trackLocks
  dsimp only
  refine (hlock _ listenerUidCrf _).trans ?_
  split
  · exact hlock fw listenerUidAaf _
  · rfl

theorem mainLoopStep_exchange (fw : Firmware) (step : LoopStep) :
    Exchange (peer fw.avdecc) (acmpCall fw step) (peer (mainLoopStep fw step).avdecc)
      (messages (mainLoopStep fw step).sent) := by
  cases hcall : acmpCall fw step with
  | some call =>
    obtain ⟨h, pdu⟩ := call
    obtain ⟨slot, len, r, scratch, rfl, hstep⟩ := mainLoopStep_acmp hcall
    rw [hstep]
    have hhandled := acmpHandle_exchange
      { fw with
        sent := []
        tsuWrites := []
        scratch := scratch
        avdecc := { fw.avdecc with acmpRxCount := fw.avdecc.acmpRxCount + 1 } } pdu r h rfl
    exact hhandled
  | none =>
    rw [mainLoopStep]
    generalize hclear : ({ fw with sent := [], tsuWrites := [] } : Firmware) = fw₀
    have hpeer : peer fw₀.avdecc = peer fw.avdecc := hclear ▸ rfl
    have hsent : fw₀.sent = [] := hclear ▸ rfl
    have hcall₀ : acmpCall fw₀ step = none := hclear ▸ hcall
    have hbooks (hpoll : ∀ r, step ≠ .avdeccPoll r) (hwatchdog : ∀ r, step ≠ .crfFlowWatchdog r)
        (hmessages : messages (loopStep fw₀ step).sent = messages fw₀.sent) :
        Exchange (peer fw₀.avdecc) none (peer (loopStep fw₀ step).avdecc)
          (messages (loopStep fw₀ step).sent) :=
      .of_dealings (Prod.ext (loopStep_books peer_books fw₀ step hpoll hwatchdog hcall₀) hmessages)
        hsent
    rw [← hpeer]
    cases step with
    | avdeccPoll r => exact .of_ended (avdeccPoll_dealings fw₀ r.nowMs) hsent
    | crfFlowWatchdog r => exact crfFlowWatchdog_exchange fw₀ _ _ _ hsent _
    | dispatchRx slot len r =>
      exact hbooks (fun _ h => by cases h) (fun _ h => by cases h)
        (dispatchRx_messages fw₀ slot len r hcall₀)
    | trackLocks =>
      exact hbooks (fun _ h => by cases h) (fun _ h => by cases h)
        (trackLocks_messages fw₀)
    | _ =>
      exact hbooks (fun _ h => by cases h) (fun _ h => by cases h)
        (loopStep_messages fw₀ (by simp [LoopStep.senders]))

end AvbAes3.ConnectTx
