import AvbAes3.Senders

/-!
# Every connect is answered once

A CONNECT_RX_COMMAND is answered at once, or its listener's resolve waits
for the talker and answers when the response or the timeout comes. The
ledger holds the commands received and the CONNECT_RX_RESPONSEs sent, each
by the controller and sequence number it carries; what has been received and
not answered is in the active resolves. A second slow-path command for a
listener takes the resolve over, and the first is never answered.
-/

namespace AvbAes3.ConnectAnswers

-- ---------------------------------------------------------------------------
-- Commands and responses
-- ---------------------------------------------------------------------------

/-- What a CONNECT_RX_COMMAND and its response have in common. -/
structure Request where
  controllerId : EntityId
  seqId : UInt16
  deriving DecidableEq, Repr

def requestOf (pdu : Buffer) : Request := ⟨pduControllerId pdu, pduSeqId pdu⟩

def isConnectRxResponse (bytes : List UInt8) : Bool :=
  isAcmp (Buffer.ofList bytes) bytes.length &&
    (Buffer.ofList bytes 15 &&& 0x0F) == acmpMsgConnectRxResponse

/-- The request a frame answers, if it is a CONNECT_RX_RESPONSE. -/
def answerOf (f : WireFrame) : Option Request :=
  if f.origin = .firmware .avdecc ∧ isConnectRxResponse f.bytes then
    some (requestOf ((Buffer.ofList f.bytes).offset 14))
  else none

/-- The CONNECT_RX_COMMAND addressed to us that a step takes in. -/
def commands (fw : Firmware) (step : LoopStep) : List Request :=
  match acmpCall fw step with
  | some (.connectRx, pdu) => [requestOf pdu]
  | _ => []

def answers (sent : List WireFrame) : List Request := sent.filterMap answerOf

structure Ledger where
  commands : List Request := []
  answers : List Request := []

def note (ledger : Ledger) (fw : Firmware) (step : LoopStep) : Ledger where
  commands := ledger.commands ++ commands fw step
  answers := ledger.answers ++ answers (mainLoopStep fw step).sent

def ledgered : Machine (Firmware × Ledger) LoopStep := mainLoop.withHistory {} note

/-- The requests the active resolves will answer. -/
def waiting (resolves : ListenerUid → AvdeccResolve) : List Request :=
  [listenerUidCrf, listenerUidAaf].filterMap fun u =>
    if (resolves u).active then some ⟨(resolves u).ctrlEidOrig, (resolves u).ctrlSeqIdOrig⟩
    else none

/-- Every command has been answered once or is waiting. -/
def Balanced (s : Firmware × Ledger) : Prop :=
  s.2.commands.Perm (s.2.answers ++ waiting s.1.avdecc.resolves)

/-- A poll leaves no resolve waiting whose time it sees over. -/
def Expired (fw : Firmware) : LoopStep → Prop
  | .avdeccPoll r => ∀ u, (fw.avdecc.resolves u).active →
      ¬ (1500 ≤ r.nowMs - (fw.avdecc.resolves u).startMs ∧
        r.nowMs - (fw.avdecc.resolves u).startMs ≤ 2000000000)
  | _ => True

def Answered (s : Firmware × Ledger) (step : LoopStep) : Prop :=
  Balanced (ledgered.step s step) ∧ Expired (ledgered.step s step).1 step

/-- A slow-path command finds no resolve of its listener active. -/
def NoOverlap (fw : Firmware) (step : LoopStep) : Prop :=
  ∀ pdu, acmpCall fw step = some (.connectRx, pdu) → isSlowPath pdu → ∀ u,
    listenerUid? (pduListenerUid pdu) = some u → (fw.avdecc.resolves u).active = false

-- ---------------------------------------------------------------------------
-- Frames
-- ---------------------------------------------------------------------------

def NoAnswer (f : WireFrame) : Prop := answerOf f = none

theorem noAnswer_subtype {p : Producer} {bytes : List UInt8}
    (h : Buffer.ofList bytes 14 ≠ avtpSubtypeAcmp) : NoAnswer ⟨.firmware p, bytes⟩ := by
  refine if_neg fun hanswer => h ?_
  have hacmp := (Bool.and_eq_true_iff.mp hanswer.2).1
  exact eq_of_beq (Bool.and_eq_true_iff.mp hacmp).2

theorem noAnswer_origin {f : WireFrame} (h : f.origin ≠ .firmware .avdecc) : NoAnswer f :=
  if_neg fun hanswer => h hanswer.1

theorem take_subtype {b : Buffer} (h : b 14 ≠ avtpSubtypeAcmp) (n : Nat) :
    Buffer.ofList (b.take n) 14 ≠ avtpSubtypeAcmp := by
  rw [Buffer.ofList]
  by_cases hn : 14 < n
  · simpa [Buffer.take, hn] using h
  · rw [List.getElem?_eq_none (by rw [Buffer.length_take]; omega)]
    decide

theorem noAnswer_take {p : Producer} {b : Buffer} (h : b 14 ≠ avtpSubtypeAcmp) (n : Nat) :
    NoAnswer ⟨.firmware p, b.take n⟩ := noAnswer_subtype (take_subtype h n)

theorem ethHdr_length (srcMac : MacAddr) : (avdeccEthHdr srcMac).length = 14 := by
  simp [avdeccEthHdr, be16]

/-- Past the Ethernet header a frame holds its PDU. -/
theorem frame_pdu (srcMac : MacAddr) (b : Buffer) {i : Nat} (h : i < acmpduLen) :
    Buffer.ofList (avdeccEthHdr srcMac ++ b.take acmpduLen) (14 + i) = b i := by
  have hholds := (Buffer.holds_append.mp (Buffer.holds_ofList
    (avdeccEthHdr srcMac ++ b.take acmpduLen))).2
  rw [ethHdr_length] at hholds
  have hi : i < (b.take acmpduLen).length := by rwa [Buffer.length_take]
  have := hholds i hi
  rw [Nat.zero_add] at this
  rw [this]
  simp [Buffer.take]

/-- The bytes of the controller's entity id and of the sequence number. -/
def IsRequestByte (i : Nat) : Prop := (12 ≤ i ∧ i < 20) ∨ (48 ≤ i ∧ i < 50)

theorem requestOf_congr {b b' : Buffer} (h : ∀ i, IsRequestByte i → b i = b' i) :
    requestOf b = requestOf b' := by
  have hid : pduControllerId b = pduControllerId b' := by
    refine Vector.ext fun i hi => ?_
    simp only [pduControllerId, Buffer.bytes, Vector.getElem_ofFn, Buffer.offset_apply]
    exact h _ (.inl (by simp only [acmpOffControllerId]; omega))
  have hseq : pduSeqId b = pduSeqId b' := by
    simp only [pduSeqId, getBe16, Buffer.offset_apply]
    rw [h _ (.inr (by decide)), h _ (.inr (by decide))]
  rw [requestOf, requestOf, hid, hseq]

theorem answerOf_acmp (srcMac : MacAddr) (b : Buffer) (hsubtype : b 0 = avtpSubtypeAcmp) :
    answerOf ⟨.firmware .avdecc, avdeccEthHdr srcMac ++ b.take acmpduLen⟩ =
      if b 1 &&& 0x0F = acmpMsgConnectRxResponse then some (requestOf b) else none := by
  have hlength : 14 + acmpduLen ≤ (avdeccEthHdr srcMac ++ b.take acmpduLen).length := by
    rw [List.length_append, ethHdr_length, Buffer.length_take]
  have hacmp : isAcmp (Buffer.ofList (avdeccEthHdr srcMac ++ b.take acmpduLen))
      (avdeccEthHdr srcMac ++ b.take acmpduLen).length := by
    rw [isAcmp, frame_pdu srcMac b (show 0 < acmpduLen by decide), hsubtype,
      decide_eq_true hlength]
    rfl
  have htype := frame_pdu srcMac b (show 1 < acmpduLen by decide)
  have hrequest : requestOf ((Buffer.ofList (avdeccEthHdr srcMac ++ b.take acmpduLen)).offset 14) =
      requestOf b := requestOf_congr fun i hi => frame_pdu srcMac b (by
        unfold acmpduLen
        rcases hi with hi | hi <;> omega)
  rw [answerOf, hrequest, isConnectRxResponse, hacmp, htype]
  simp

theorem fillTalkerResponse_kept (s : Avdecc) (msgType : UInt8) (p : Buffer) {i : Nat}
    (h : i < 2 ∨ IsRequestByte i) : fillTalkerResponse s msgType p i = p i := by
  unfold fillTalkerResponse
  unfold IsRequestByte at h
  cases talkerUid? (getBe16 (p.offset acmpOffTalkerUid)) with
  | none => rfl
  | some uid =>
    dsimp only
    iterate 3
      rw [Buffer.copy_outside (by
        simp only [acmpOffConnCount, acmpOffStreamDestMac, acmpOffStreamId, be16,
          Vector.length_toList, List.length_cons, List.length_nil]
        omega)]

theorem fillListenerResponse_kept (s : Avdecc) (p : Buffer) {i : Nat}
    (h : i < 2 ∨ IsRequestByte i) : fillListenerResponse s p i = p i := by
  unfold fillListenerResponse
  unfold IsRequestByte at h
  cases listenerUid? (getBe16 (p.offset acmpOffListenerUid)) with
  | none => rfl
  | some uid =>
    have hcount (count : UInt16) : p.copy acmpOffConnCount (be16 count) i = p i :=
      Buffer.copy_outside (by
        simp only [acmpOffConnCount, be16, List.length_cons, List.length_nil]
        omega)
    dsimp only
    cases (s.listeners uid).connected
    · exact hcount _
    · rw [if_pos rfl]
      iterate 6
        rw [Buffer.copy_outside (by
          simp only [acmpOffTalkerId, acmpOffTalkerUid, acmpOffStreamId, acmpOffStreamDestMac,
            acmpOffVlanId, acmpOffFlags, be16, Vector.length_toList, List.length_cons,
            List.length_nil]
          omega)]
      exact hcount _

theorem filled_kept (s : Avdecc) (msgType : UInt8) (p : Buffer) {i : Nat}
    (h : i < 2 ∨ IsRequestByte i) (talker listener : Prop) [Decidable talker]
    [Decidable listener] :
    (if listener then
        fillListenerResponse s (if talker then fillTalkerResponse s msgType p else p)
      else if talker then fillTalkerResponse s msgType p else p) i = p i := by
  split
  · rw [fillListenerResponse_kept s _ h]
    split
    · exact fillTalkerResponse_kept s msgType p h
    · rfl
  split
  · exact fillTalkerResponse_kept s msgType p h
  · rfl

/-- A response edited out of a command keeps what identifies it. -/
theorem acmpSendResponse_frame (s : Avdecc) (msgType status : UInt8) (pdu : Buffer) :
    ∃ b : Buffer, (acmpSendResponse s msgType status pdu).2 =
        [avdeccEthHdr s.srcMac ++ b.take acmpduLen] ∧
      b 0 = avtpSubtypeAcmp ∧ b 1 = msgType &&& 0x0F ∧ requestOf b = requestOf pdu := by
  refine ⟨_, rfl, ?_⟩
  refine ⟨filled_kept s msgType _ (.inl (by decide)) .., filled_kept s msgType _
    (.inl (by decide)) .., requestOf_congr fun i hi => ?_⟩
  rw [filled_kept s msgType _ (.inr hi)]
  unfold IsRequestByte at hi
  rw [Buffer.copy_outside (by simp only [be16, List.length_cons, List.length_nil]; omega),
    Buffer.copy_outside (by simp only [List.length_cons, List.length_nil]; omega)]

theorem Acmpdu.length_bytes (a : Acmpdu) : a.bytes.length = acmpduLen := by
  simp [Acmpdu.bytes, be16, acmpduLen]

theorem acmpdu_bytes (a : Acmpdu) :
    let b := Buffer.ofList a.bytes
    a.bytes = b.take acmpduLen ∧ b 0 = avtpSubtypeAcmp ∧ b 1 = a.msgType ∧
      requestOf b = ⟨a.controllerId, a.seqId⟩ := by
  intro b
  have h : b.Holds 0 a.bytes := Buffer.holds_ofList a.bytes
  have htake : a.bytes = b.take acmpduLen := by
    rw [← Acmpdu.length_bytes a]
    refine List.ext_getElem (by simp) fun i hi _ => ?_
    rw [← h i hi]
    simp [Buffer.take]
  simp only [Acmpdu.bytes, Buffer.holds_append, List.length_append, Vector.length_toList, be16,
    List.length_cons, List.length_nil] at h
  obtain ⟨⟨⟨⟨⟨⟨⟨⟨⟨⟨⟨⟨⟨hhead, -⟩, -⟩, hcontroller⟩, -⟩, -⟩, -⟩, -⟩, -⟩, -⟩, hseq⟩, -⟩, -⟩, -⟩ := h
  refine ⟨htake, hhead 0 Nat.two_pos, hhead 1 Nat.one_lt_two, ?_⟩
  have hcontroller' : pduControllerId b = a.controllerId :=
    Buffer.Holds.bytes (Buffer.holds_offset.mpr hcontroller)
  have hseq' : pduSeqId b = a.seqId := getBe16_eq (hseq 0 Nat.two_pos) (hseq 1 Nat.one_lt_two)
  rw [requestOf, hcontroller', hseq']

theorem acmpSend_answer (s : Avdecc) (a : Acmpdu) :
    answerOf ⟨.firmware .avdecc, avdeccEthHdr s.srcMac ++ a.bytes⟩ =
      if a.msgType &&& 0x0F = acmpMsgConnectRxResponse then some ⟨a.controllerId, a.seqId⟩
      else none := by
  obtain ⟨hbytes, hsubtype, htype, hrequest⟩ := acmpdu_bytes a
  rw [hbytes, answerOf_acmp _ _ hsubtype, htype, hrequest]

-- ---------------------------------------------------------------------------
-- Notifications
-- ---------------------------------------------------------------------------

/-- None of the frames an AVDECC function returns answers a connect. -/
structure Silent (frames : List (List UInt8)) : Prop where
  noAnswer : ∀ bytes ∈ frames, NoAnswer ⟨.firmware .avdecc, bytes⟩

/-- Not an ACMP message, or a command to a talker. -/
def ToOthers (bytes : List UInt8) : Prop :=
  Buffer.ofList bytes 14 ≠ avtpSubtypeAcmp ∨
    ∃ (srcMac : MacAddr) (a : Acmpdu), bytes = avdeccEthHdr srcMac ++ a.bytes ∧
      (a.msgType = acmpMsgConnectTxCommand ∨ a.msgType = acmpMsgDisconnectTxCommand)

/-- None of the frames is a response. -/
structure Quiet (frames : List (List UInt8)) : Prop where
  toOthers : ∀ bytes ∈ frames, ToOthers bytes

theorem Quiet.append {first second : List (List UInt8)} (h : Quiet first) (h' : Quiet second) :
    Quiet (first ++ second) where
  toOthers bytes hbytes := by
    rcases List.mem_append.mp hbytes with hbytes | hbytes
    · exact h.toOthers bytes hbytes
    · exact h'.toOthers bytes hbytes

theorem Quiet.nil : Quiet [] := ⟨fun _ h => absurd h List.not_mem_nil⟩

theorem Quiet.singleton {bytes : List UInt8} (h : ToOthers bytes) : Quiet [bytes] :=
  ⟨fun _ hbytes => List.mem_singleton.mp hbytes ▸ h⟩

theorem Quiet.silent {frames : List (List UInt8)} (h : Quiet frames) : Silent frames where
  noAnswer bytes hbytes := by
    obtain hsubtype | ⟨srcMac, a, rfl, hcommand⟩ := h.toOthers bytes hbytes
    · exact noAnswer_subtype hsubtype
    · obtain ⟨hbytes, hsubtype, htype, -⟩ := acmpdu_bytes a
      rw [hbytes, NoAnswer, answerOf_acmp _ _ hsubtype, htype]
      rcases hcommand with hcommand | hcommand
      · rw [hcommand]
        rfl
      · rw [hcommand]
        rfl

theorem unsolFrame_subtype (s : Avdecc) (c : UnsolCtrl) (cmd cdl : UInt16)
    (payload : List UInt8) :
    Buffer.ofList (unsolFrame s c cmd cdl payload) 14 = avtpSubtypeAecp := by
  simp only [unsolFrame, List.append_assoc, List.cons_append]
  exact Buffer.ofList_payload _ _ _ rfl ..

theorem pushUnsol_quiet (cmd cdl : UInt16) (payload : List UInt8)
    (indices : List (Fin avdeccMaxUnsolCtrl)) (s : Avdecc) :
    Quiet (pushUnsol cmd cdl payload indices s).2 := by
  induction indices generalizing s with
  | nil => exact .nil
  | cons i rest ih =>
    rw [pushUnsol]
    refine Quiet.append ?_ (ih _)
    unfold pushTo
    dsimp only
    split
    · refine .singleton (.inl ?_)
      rw [unsolFrame_subtype]
      decide
    · exact .nil

theorem pushListener_quiet (s : Avdecc) (uid : ListenerUid) : Quiet (pushListener s uid).2 := by
  unfold pushListener pushUnsolStreamInfo pushUnsolStreamCounters pushUnsolCounters
  exact Quiet.append (pushUnsol_quiet ..) (pushUnsol_quiet ..)

theorem lockChanged_quiet (s : Avdecc) (uid : ListenerUid) (locked : Bool) :
    Quiet (avdeccListenerLockChanged s uid locked).2 := by
  unfold avdeccListenerLockChanged
  split
  · exact .nil
  · exact pushUnsol_quiet ..

theorem trackClockLock_quiet (s : Avdecc) (g : Gptp) (m : Mcr) :
    Quiet (trackClockLock s g m).2 := by
  unfold trackClockLock
  dsimp only
  split
  · exact .nil
  split
  · exact pushUnsol_quiet ..
  · exact .nil

theorem adpSend_quiet (s : Avdecc) (g : Gptp) (msgType : UInt8) :
    Quiet (adpSend s g msgType).2 := by
  refine .singleton (.inl ?_)
  simp only [avdeccEthHdr, List.append_assoc, List.cons_append]
  rw [Buffer.ofList_payload _ _ _ rfl]
  decide

theorem adpAdvertise_quiet (s : Avdecc) (g : Gptp) (nowMs : UInt32) :
    Quiet (adpAdvertise s g nowMs).2 := by
  unfold adpAdvertise
  split
  · exact adpSend_quiet ..
  · exact .nil

theorem sendConnectTxCommand_quiet (s : Avdecc) (r : AvdeccResolve) :
    Quiet (sendConnectTxCommand s r).2 := .singleton (.inr ⟨_, _, rfl, .inl rfl⟩)

theorem crfRebootstrap_quiet (s : Avdecc) (luid : ListenerUid) (nowMs : UInt32) :
    Quiet (crfRebootstrap s luid nowMs).2 := by
  unfold crfRebootstrap
  dsimp only
  split
  · exact .singleton (.inr ⟨_, _, rfl, .inr rfl⟩)
  split
  · exact sendConnectTxCommand_quiet ..
  · exact .nil

theorem crfFlowWatchdog_quiet (s : Avdecc) (luid : ListenerUid) (rxCount nowMs : UInt32) :
    Quiet (avdeccCrfFlowWatchdog s luid rxCount nowMs).2 := by
  unfold avdeccCrfFlowWatchdog
  split
  · exact .nil
  split
  · exact .nil
  split
  · exact .nil
  split
  · exact .nil
  split
  · exact .nil
  · exact crfRebootstrap_quiet ..

-- ---------------------------------------------------------------------------
-- What leaves the exchange alone
-- ---------------------------------------------------------------------------

/-- The resolves, and the requests answered in this step. -/
def exchange (fw : Firmware) : (ListenerUid → AvdeccResolve) × List Request :=
  (fw.avdecc.resolves, answers fw.sent)

theorem answers_append (sent new : List WireFrame) :
    answers (sent ++ new) = answers sent ++ answers new := List.filterMap_append

theorem answers_noAnswer {new : List WireFrame} (h : ∀ f ∈ new, NoAnswer f) : answers new = [] :=
  List.filterMap_eq_nil_iff.mpr h

theorem answers_adds {before after : List WireFrame} (h : Adds NoAnswer before after) :
    answers after = answers before := by
  obtain ⟨new, rfl, hnew⟩ := h
  rw [answers_append, answers_noAnswer hnew, List.append_nil]

/-- Frames of other modules. -/
theorem answers_others {p : Producer} (hp : p ≠ .avdecc) {before after : List WireFrame}
    (h : Adds (SentBy p) before after) : answers after = answers before :=
  answers_adds (h.mono fun _ hf => noAnswer_origin fun havdecc => hf.not_other hp havdecc)

/-- The requests that frames of AVDECC answer. -/
def frameAnswers (frames : List (List UInt8)) : List Request :=
  frames.filterMap fun bytes => answerOf ⟨.firmware .avdecc, bytes⟩

theorem Silent.frameAnswers {frames : List (List UInt8)} (h : Silent frames) :
    frameAnswers frames = [] := List.filterMap_eq_nil_iff.mpr h.noAnswer

theorem putAvdecc_exchange (fw : Firmware) (r : Avdecc × List (List UInt8)) :
    exchange (fw.putAvdecc r) = (r.1.resolves, answers fw.sent ++ frameAnswers r.2) := by
  have hsent : (fw.putAvdecc r).sent =
      fw.sent ++ r.2.map fun bytes => ⟨.firmware .avdecc, bytes⟩ := sendAll_sent ..
  rw [exchange, putAvdecc_avdecc, hsent, answers_append]
  refine Prod.ext rfl (congrArg (answers fw.sent ++ ·) ?_)
  exact List.filterMap_map ..

theorem putAvdecc_quiet (fw : Firmware) {r : Avdecc × List (List UInt8)}
    (h : r.1.connections = fw.avdecc.connections) (hquiet : Quiet r.2) :
    exchange (fw.putAvdecc r) = exchange fw := by
  rw [putAvdecc_exchange, hquiet.silent.frameAnswers, List.append_nil]
  exact Prod.ext (congrArg AvdeccConnections.resolves h) rfl

theorem acmpSendResponse_frameAnswers (s : Avdecc) (msgType status : UInt8) (pdu : Buffer) :
    frameAnswers (acmpSendResponse s msgType status pdu).2 =
      if msgType &&& 0x0F = acmpMsgConnectRxResponse then [requestOf pdu] else [] := by
  obtain ⟨b, hframe, hsubtype, htype, hrequest⟩ := acmpSendResponse_frame s msgType status pdu
  have hmask : msgType &&& 0x0F &&& 0x0F = msgType &&& 0x0F := by
    rw [UInt8.and_assoc]
    rfl
  rw [hframe, frameAnswers, List.filterMap_cons, answerOf_acmp _ _ hsubtype, htype, hrequest,
    hmask]
  split
  all_goals
    rename_i h
    split at h
    all_goals simp_all

theorem respond_exchange (fw : Firmware) {msgType : UInt8} (status : UInt8) (pdu : Buffer)
    (h : msgType &&& 0x0F ≠ acmpMsgConnectRxResponse) :
    exchange (fw.respond msgType status pdu) = exchange fw := by
  rw [Firmware.respond, putAvdecc_exchange, acmpSendResponse_frameAnswers, if_neg h,
    List.append_nil]
  rfl

theorem onTalkerConnect_exchange (fw : Firmware) (uid : TalkerUid) (r : Readings) :
    exchange (onTalkerConnect fw uid r) = exchange fw := by
  unfold onTalkerConnect
  split <;> rfl

theorem onTalkerDisconnect_exchange (fw : Firmware) (uid : TalkerUid) (r : Readings) :
    exchange (onTalkerDisconnect fw uid r) = exchange fw := by
  unfold onTalkerDisconnect
  split <;> rfl

theorem learnStream_exchange (fw : Firmware) (uid : ListenerUid) (streamId : StreamId) :
    exchange (learnStream fw uid streamId) = exchange fw := by
  unfold learnStream
  split <;> rfl

theorem bindEngine_exchange (fw : Firmware) (uid : ListenerUid) (streamId : StreamId)
    (destMac : MacAddr) : exchange (bindEngine fw uid streamId destMac) = exchange fw := by
  unfold bindEngine
  split <;> rfl

theorem onListenerConnect_exchange (fw : Firmware) (uid : ListenerUid) (streamId : StreamId)
    (destMac : MacAddr) (talkerId : EntityId) (nowMs : UInt32) :
    exchange (onListenerConnect fw uid streamId destMac talkerId nowMs) = exchange fw := by
  unfold onListenerConnect
  split
  · rfl
  · exact (bindEngine_exchange ..).trans (learnStream_exchange ..)

theorem onListenerDisconnect_exchange (fw : Firmware) (uid : ListenerUid) (nowMs : UInt32) :
    exchange (onListenerDisconnect fw uid nowMs) = exchange fw := by
  unfold onListenerDisconnect unbindEngine
  dsimp only
  split
  · split <;> rfl
  · split <;> rfl

theorem completePending_exchange (fw : Firmware) (i : ListenerUid) (streamId : StreamId)
    (destMac : MacAddr) (nowMs : UInt32) :
    exchange (completePending fw i streamId destMac nowMs) = exchange fw := by
  unfold completePending
  dsimp only
  split
  · exact (bindEngine_exchange ..).trans (learnStream_exchange ..)
  · rfl

theorem srpProcessRx_exchange (fw : Firmware) (frame : Buffer) (len : Nat) (nowMs : UInt32) :
    exchange (srpProcessRx fw frame len nowMs) = exchange fw := by
  have hvector (fw : Firmware) (v : MsrpVector) : exchange (srpVector nowMs fw v) = exchange fw := by
    unfold srpVector
    dsimp only
    split
    · exact (completePending_exchange ..).trans (completePending_exchange ..)
    · rfl
  unfold srpProcessRx
  split
  · suffices ∀ (vectors : List MsrpVector) (fw' : Firmware),
        exchange (vectors.foldl (srpVector nowMs) fw') = exchange fw' from this ..
    intro vectors
    induction vectors with
    | nil => exact fun _ => rfl
    | cons v rest ih => exact fun fw' => (ih _).trans (hvector fw' v)
  · rfl

theorem sendSlot_exchange (fw : Firmware) {b : Buffer} (h : b 14 ≠ avtpSubtypeAcmp) (n : Nat) :
    exchange (fw.sendSlot .avdecc b n) = exchange fw := by
  refine Prod.ext rfl ?_
  refine answers_adds ⟨[⟨.firmware .avdecc, b.take n⟩], rfl, fun f hf => ?_⟩
  rw [List.mem_singleton.mp hf]
  exact noAnswer_take h n

theorem aecp_exchange (fw : Firmware) (frame : Buffer) (len : Nat)
    (h : frame 14 = avtpSubtypeAecp) : exchange (fw.aecp frame len) = exchange fw := by
  have hsubtype := aecpHandle_subtype fw.avdecc
    ⟨frame, len - 14, fw.mac.buf .avdecc, fw.gptp, fw.srp⟩ h
  have hkept := congrArg AvdeccConnections.resolves (aecpHandle_connections fw.avdecc
    ⟨frame, len - 14, fw.mac.buf .avdecc, fw.gptp, fw.srp⟩)
  unfold Firmware.aecp
  dsimp only
  split
  · rename_i length hsent
    have hslot := hsubtype (by rw [hsent]; rfl)
    refine (sendSlot_exchange _ ?_ length).trans (Prod.ext hkept rfl)
    rw [hslot]
    decide
  · exact Prod.ext hkept rfl

-- ---------------------------------------------------------------------------
-- The ACMP handlers
-- ---------------------------------------------------------------------------

theorem acmpHandleConnectTx_exchange (fw : Firmware) (pdu : Buffer) (r : Readings) :
    exchange (acmpHandleConnectTx fw pdu r) = exchange fw := by
  unfold acmpHandleConnectTx
  split
  · exact respond_exchange fw _ pdu (by decide)
  · dsimp only
    rw [respond_exchange _ _ _ (by decide), onTalkerConnect_exchange]
    rfl

theorem acmpHandleDisconnectTx_exchange (fw : Firmware) (pdu : Buffer) (r : Readings) :
    exchange (acmpHandleDisconnectTx fw pdu r) = exchange fw := by
  unfold acmpHandleDisconnectTx
  dsimp only
  rw [respond_exchange _ _ _ (by decide)]
  split
  · rfl
  · rw [onTalkerDisconnect_exchange]
    rfl

theorem acmpHandleDisconnectRx_exchange (fw : Firmware) (pdu : Buffer) (nowMs : UInt32) :
    exchange (acmpHandleDisconnectRx fw pdu nowMs) = exchange fw := by
  unfold acmpHandleDisconnectRx
  dsimp only
  rw [respond_exchange _ _ _ (by decide)]
  split
  · rfl
  · rw [putAvdecc_quiet _ (notifyListenerDisconnected_connections ..) (pushListener_quiet ..),
      onListenerDisconnect_exchange]
    rfl

theorem notified_exchange (fw : Firmware) (uid : ListenerUid) :
    exchange (fw.putAvdecc (notifyListenerConnected fw.avdecc uid)) = exchange fw :=
  putAvdecc_quiet fw (notifyListenerConnected_connections ..) (pushListener_quiet ..)

/-- A CONNECT_RX_RESPONSE sent at once. -/
theorem respond_answer (fw : Firmware) (status : UInt8) (pdu : Buffer) :
    exchange (fw.respond acmpMsgConnectRxResponse status pdu) =
      ((exchange fw).1, (exchange fw).2 ++ [requestOf pdu]) := by
  rw [Firmware.respond, putAvdecc_exchange, acmpSendResponse_frameAnswers, if_pos (by decide)]
  rfl

theorem fastConnect_exchange (fw : Firmware) (luid : ListenerUid) (pdu : Buffer)
    (nowMs : UInt32) :
    exchange (fastConnect fw luid pdu nowMs) =
      ((exchange fw).1, (exchange fw).2 ++ [requestOf pdu]) := by
  unfold fastConnect
  dsimp only
  rw [respond_answer, notified_exchange, onListenerConnect_exchange]
  rfl

theorem slowConnect_exchange (fw : Firmware) (luid : ListenerUid) (pdu : Buffer)
    (nowMs : UInt32) :
    exchange (slowConnect fw luid pdu nowMs) =
      (Function.update (exchange fw).1 luid (newResolve fw.avdecc luid pdu nowMs),
        (exchange fw).2) := by
  unfold slowConnect
  dsimp only
  rw [putAvdecc_exchange, (sendConnectTxCommand_quiet ..).silent.frameAnswers, List.append_nil]
  rfl

/-- The request a resolve was started by. -/
def resolveRequest (r : AvdeccResolve) : Request := ⟨r.ctrlEidOrig, r.ctrlSeqIdOrig⟩

theorem deferred_frameAnswers (s : Avdecc) (r : AvdeccResolve) (status : UInt8)
    (streamId : StreamId) (destMac : MacAddr) (vlanId : UInt16) :
    frameAnswers (sendDeferredConnectRxResponse s r status streamId destMac vlanId).2 =
      [resolveRequest r] := by
  rw [sendDeferredConnectRxResponse, acmpSend, frameAnswers, List.filterMap_cons,
    acmpSend_answer, if_pos (show acmpMsgConnectRxResponse &&& 0x0F = _ by decide)]
  rfl

/-- A resolve that ends answers its request. -/
def settled (x : (ListenerUid → AvdeccResolve) × List Request) (i : ListenerUid) :
    (ListenerUid → AvdeccResolve) × List Request :=
  (Function.update x.1 i { x.1 i with active := false }, x.2 ++ [resolveRequest (x.1 i)])

theorem connectResolved_exchange (fw : Firmware) (r : AvdeccResolve) (pdu : Buffer)
    (nowMs : UInt32) : exchange (connectResolved fw r pdu nowMs) = exchange fw := by
  unfold connectResolved
  dsimp only
  rw [notified_exchange, onListenerConnect_exchange]
  rfl

theorem acmpHandleConnectTxResponse_exchange (fw : Firmware) (pdu : Buffer) (nowMs : UInt32) :
    exchange (acmpHandleConnectTxResponse fw pdu nowMs) =
      match answeredResolve fw.avdecc pdu with
      | none => exchange fw
      | some i => settled (exchange fw) i := by
  unfold acmpHandleConnectTxResponse
  cases answeredResolve fw.avdecc pdu with
  | none => rfl
  | some i =>
    dsimp only
    have hconnected : exchange (if pduStatus pdu = acmpStatusSuccess then
        connectResolved fw (fw.avdecc.resolves i) pdu nowMs else fw) = exchange fw := by
      split
      · exact connectResolved_exchange ..
      · rfl
    generalize (if pduStatus pdu = acmpStatusSuccess then
        connectResolved fw (fw.avdecc.resolves i) pdu nowMs else fw) = fw' at hconnected ⊢
    have hsent := putAvdecc_exchange fw' (sendDeferredConnectRxResponse fw'.avdecc
      (fw.avdecc.resolves i) (pduStatus pdu) (pduStreamId pdu) (pduStreamDestMac pdu)
      (pduVlanId pdu))
    rw [deferred_frameAnswers] at hsent
    generalize fw'.putAvdecc _ = fw'' at hsent ⊢
    have hresolves : fw''.avdecc.resolves = fw.avdecc.resolves :=
      (congrArg Prod.fst hsent).trans (congrArg Prod.fst hconnected)
    have hanswers : answers fw''.sent = answers fw.sent ++ [resolveRequest (fw.avdecc.resolves i)] :=
      (congrArg Prod.snd hsent).trans
        (congrArg (· ++ [resolveRequest (fw.avdecc.resolves i)]) (congrArg Prod.snd hconnected))
    refine Prod.ext ?_ hanswers
    show Function.update fw''.avdecc.resolves i _ = _
    rw [hresolves]
    rfl

/-- A CONNECT_RX_COMMAND that does not take the slow path is answered. -/
theorem acmpHandleConnectRx_exchange (fw : Firmware) (pdu : Buffer) (nowMs : UInt32) :
    exchange (acmpHandleConnectRx fw pdu nowMs) =
      match listenerUid? (pduListenerUid pdu) with
      | none => ((exchange fw).1, (exchange fw).2 ++ [requestOf pdu])
      | some u =>
        if isSlowPath pdu then
          (Function.update (exchange fw).1 u (newResolve fw.avdecc u pdu nowMs), (exchange fw).2)
        else ((exchange fw).1, (exchange fw).2 ++ [requestOf pdu]) := by
  unfold acmpHandleConnectRx
  cases listenerUid? (pduListenerUid pdu) with
  | none => exact respond_answer ..
  | some u =>
    dsimp only
    split
    · exact slowConnect_exchange ..
    split
    · exact respond_answer ..
    · exact fastConnect_exchange ..

-- ---------------------------------------------------------------------------
-- The poll
-- ---------------------------------------------------------------------------

/-- The resolve ends if its time is over. -/
def timedOut (nowMs : UInt32) (x : (ListenerUid → AvdeccResolve) × List Request)
    (i : ListenerUid) : (ListenerUid → AvdeccResolve) × List Request :=
  if resolveTimedOut (x.1 i) nowMs then settled x i else x

theorem timeOutResolve_exchange (s : Avdecc) (i : ListenerUid) (nowMs : UInt32)
    (before : List Request) :
    ((timeOutResolve s i nowMs).1.resolves,
        before ++ frameAnswers (timeOutResolve s i nowMs).2) =
      timedOut nowMs (s.resolves, before) i := by
  unfold timeOutResolve timedOut
  dsimp only
  split
  · dsimp only
    rw [deferred_frameAnswers]
    rfl
  · rw [Quiet.nil.silent.frameAnswers, List.append_nil]

theorem frameAnswers_append (first second : List (List UInt8)) :
    frameAnswers (first ++ second) = frameAnswers first ++ frameAnswers second :=
  List.filterMap_append

theorem avdeccPoll_exchange (fw : Firmware) (nowMs : UInt32) :
    exchange (fw.putAvdecc (avdeccPoll fw.avdecc fw.gptp fw.mcr nowMs)) =
      timedOut nowMs (timedOut nowMs (exchange fw) listenerUidCrf) listenerUidAaf := by
  rw [putAvdecc_exchange, avdeccPoll]
  dsimp only
  simp only [frameAnswers_append, (trackClockLock_quiet ..).silent.frameAnswers,
    (adpAdvertise_quiet ..).silent.frameAnswers, List.nil_append, List.append_nil]
  have hclock : (trackClockLock fw.avdecc fw.gptp fw.mcr).1.resolves = fw.avdecc.resolves :=
    congrArg AvdeccConnections.resolves (trackClockLock_connections ..)
  have hadp (s : Avdecc) : (adpAdvertise s fw.gptp nowMs).1.resolves = s.resolves :=
    congrArg AvdeccConnections.resolves (adpAdvertise_connections ..)
  rw [hadp, ← List.append_assoc, timeOutResolve_exchange, timeOutResolve_exchange, hclock]
  rfl

-- ---------------------------------------------------------------------------
-- The other steps
-- ---------------------------------------------------------------------------

theorem putGptp_exchange (fw : Firmware) (r : Gptp × List GptpEffect) :
    exchange (fw.putGptp r) = exchange fw := by
  have havdecc : (fw.putGptp r).avdecc = fw.avdecc := putGptp_same _ (fun _ _ _ _ _ => rfl) ..
  exact Prod.ext (congrArg Avdecc.resolves havdecc) (answers_others (by decide) (putGptp_adds ..))

/-- A received frame that is not handed to an ACMP handler. -/
theorem dispatchRx_exchange (fw : Firmware) (slot : Buffer) (len : Nat) (r : Readings)
    (h : acmpCall fw (.dispatchRx slot len r) = none) :
    exchange (dispatchRx fw slot len r) = exchange fw := by
  unfold acmpCall at h
  unfold dispatchRx
  dsimp only at h ⊢
  generalize rxFrame slot len fw.scratch = rx at h ⊢
  cases hhandler : rxHandler rx.frame rx.len with
  | none => rfl
  | some handler =>
    cases handler with
    | gptp => exact putGptp_exchange ..
    | crf => rfl
    | aaf => rfl
    | msrp => exact srpProcessRx_exchange ..
    | avdecc =>
      rw [hhandler] at h
      dsimp only
      rw [rxHandle]
      have hrx := avdeccRx { fw with scratch := rx.scratch } rx.frame rx.len r
      generalize avdeccProcessRx { fw with scratch := rx.scratch } rx.frame rx.len r = fw' at hrx ⊢
      cases hrx with
      | ignored => rfl
      | uncalled => rfl
      | acmp hacmp handler hcalled =>
        rw [if_pos ⟨rfl, hacmp⟩, Option.map_eq_none_iff] at h
        cases h.symm.trans hcalled
      | aecp _ haecp => exact aecp_exchange _ _ _ haecp

theorem trackLocks_exchange (fw : Firmware) : exchange (trackLocks fw) = exchange fw := by
  have hlock (fw : Firmware) (uid : ListenerUid) (locked : Bool) :
      exchange (fw.putAvdecc (avdeccListenerLockChanged fw.avdecc uid locked)) = exchange fw :=
    putAvdecc_quiet fw (avdeccListenerLockChanged_connections ..) (lockChanged_quiet ..)
  unfold trackLocks
  dsimp only
  refine (hlock _ listenerUidCrf _).trans ?_
  split
  · exact hlock fw listenerUidAaf _
  · rfl

theorem usbAafDrain_exchange (fw : Firmware) (words : List UInt32) :
    exchange (usbAafDrain fw words) = exchange fw := usbAafDrain_same _ (fun _ _ _ _ => rfl) ..

theorem runAafTxPoll_exchange (fw : Firmware) (count : UInt32) (now : PtpTimestamp) :
    exchange (runAafTxPoll fw count now) = exchange fw := by
  refine Prod.ext ?_ (answers_others (p := .aaf) (by decide) (runAafTxPoll_adds ..))
  exact runAafTxPoll_same (fun fw => fw.avdecc.resolves) (fun _ _ _ _ => rfl) fw count now

/-- The steps that are neither AVDECC's poll nor take in a frame. -/
theorem loopStep_exchange (fw : Firmware) (step : LoopStep)
    (hpoll : ∀ r, step ≠ .avdeccPoll r) (hrx : ∀ slot len r, step ≠ .dispatchRx slot len r) :
    exchange (loopStep fw step) = exchange fw := by
  cases step with
  | avdeccPoll r => exact absurd rfl (hpoll r)
  | dispatchRx slot len r => exact absurd rfl (hrx slot len r)
  | gptpPoll r => exact putGptp_exchange ..
  | srpPoll r =>
    refine Prod.ext (congrArg Avdecc.resolves (sendAll_avdecc ..)) ?_
    exact answers_others (p := .srp) (by decide) (Adds.refl.sendAll .srp _ fun _ _ => rfl)
  | trackLocks => exact trackLocks_exchange fw
  | syncVlan =>
    rw [loopStep, syncVlan]
    split
    · dsimp only
      split <;> rfl
    · rfl
  | mcrPumpHw fifo => rfl
  | mcrServoUpdate => rfl
  | mcrWatchdogTick r => rfl
  | crfFlowWatchdog r =>
    exact putAvdecc_quiet fw (avdeccCrfFlowWatchdog_connections ..) (crfFlowWatchdog_quiet ..)
  | usbAafDrain words =>
    rw [loopStep]
    split
    · rfl
    · exact usbAafDrain_exchange ..
  | aafTxPoll count now =>
    rw [loopStep]
    split
    · rfl
    · exact runAafTxPoll_exchange ..
  | packetizerFrame seq pres payload =>
    rw [loopStep]
    split
    · refine Prod.ext rfl (answers_adds ⟨_, rfl, fun f hf => ?_⟩)
      rw [List.mem_singleton.mp hf]
      exact noAnswer_origin fun h => by cases h
    · rfl

-- ---------------------------------------------------------------------------
-- The ledger
-- ---------------------------------------------------------------------------

theorem waiting_eq (resolves : ListenerUid → AvdeccResolve) :
    waiting resolves =
      (if (resolves listenerUidCrf).active then [resolveRequest (resolves listenerUidCrf)] else []) ++
        if (resolves listenerUidAaf).active then [resolveRequest (resolves listenerUidAaf)]
        else [] := by
  unfold waiting resolveRequest
  split <;> split <;> simp_all

/-- What waits, but for one listener. -/
theorem waiting_update (resolves : ListenerUid → AvdeccResolve) (u : ListenerUid)
    (r : AvdeccResolve) :
    ∃ others : List Request,
      (waiting resolves).Perm
        ((if (resolves u).active then [resolveRequest (resolves u)] else []) ++ others) ∧
      (waiting (Function.update resolves u r)).Perm
        ((if r.active then [resolveRequest r] else []) ++ others) := by
  rcases u.cases with rfl | rfl
  · refine ⟨_, .of_eq (waiting_eq resolves), ?_⟩
    rw [waiting_eq, Function.update_self, Function.update_of_ne (by decide)]
  · refine ⟨_, (List.Perm.of_eq (waiting_eq resolves)).trans List.perm_append_comm, ?_⟩
    rw [waiting_eq, Function.update_self, Function.update_of_ne (by decide)]
    exact List.perm_append_comm

/-- Ending a resolve moves its request from those waiting to those
answered. -/
theorem settled_balance {x : (ListenerUid → AvdeccResolve) × List Request} {i : ListenerUid}
    (h : (x.1 i).active) :
    ((settled x i).2 ++ waiting (settled x i).1).Perm (x.2 ++ waiting x.1) := by
  obtain ⟨others, hbefore, hafter⟩ := waiting_update x.1 i { x.1 i with active := false }
  rw [if_pos h] at hbefore
  rw [settled, List.append_assoc]
  exact ((hafter.append_left _).trans hbefore.symm).append_left _

theorem timedOut_balance (nowMs : UInt32) (x : (ListenerUid → AvdeccResolve) × List Request)
    (i : ListenerUid) :
    ((timedOut nowMs x i).2 ++ waiting (timedOut nowMs x i).1).Perm (x.2 ++ waiting x.1) := by
  unfold timedOut
  split
  · rename_i h
    exact settled_balance (Bool.and_eq_true_iff.mp h).1
  · exact .refl _

-- ---------------------------------------------------------------------------
-- A step
-- ---------------------------------------------------------------------------

theorem exchange_balance {fw : Firmware} {x : (ListenerUid → AvdeccResolve) × List Request}
    {others : List Request} (h : exchange fw = x) (hx : (x.2 ++ waiting x.1).Perm others) :
    (answers fw.sent ++ waiting fw.avdecc.resolves).Perm others := by
  subst h
  exact hx

/-- Every ACMP message but a CONNECT_RX_COMMAND. -/
theorem acmpHandle_balance (fw : Firmware) (pdu : Buffer) (r : Readings) {h : AcmpHandler}
    (hother : h ≠ .connectRx) (hsent : fw.sent = []) :
    (answers (acmpHandle fw pdu r h).sent ++ waiting (acmpHandle fw pdu r h).avdecc.resolves).Perm
      (waiting fw.avdecc.resolves) := by
  have hsame : ((exchange fw).2 ++ waiting (exchange fw).1).Perm (waiting fw.avdecc.resolves) := by
    rw [exchange, hsent]
    exact .refl _
  cases h with
  | connectTx => exact exchange_balance (acmpHandleConnectTx_exchange ..) hsame
  | connectTxResponse =>
    refine exchange_balance (acmpHandleConnectTxResponse_exchange ..) ?_
    cases hanswered : answeredResolve fw.avdecc pdu with
    | none => exact hsame
    | some i => exact (settled_balance (answeredResolve_active hanswered)).trans hsame
  | disconnectTx => exact exchange_balance (acmpHandleDisconnectTx_exchange ..) hsame
  | getTxState => exact exchange_balance (respond_exchange _ _ _ (by decide)) hsame
  | connectRx => exact absurd rfl hother
  | disconnectRx => exact exchange_balance (acmpHandleDisconnectRx_exchange ..) hsame
  | getRxState => exact exchange_balance (respond_exchange _ _ _ (by decide)) hsame

/-- A CONNECT_RX_COMMAND is answered or waits, and nothing that waited is
lost, if and only if it takes over no active resolve. -/
theorem connectRx_balance (fw : Firmware) (pdu : Buffer) (nowMs : UInt32) (hsent : fw.sent = []) :
    (answers (acmpHandleConnectRx fw pdu nowMs).sent ++
        waiting (acmpHandleConnectRx fw pdu nowMs).avdecc.resolves).Perm
        (requestOf pdu :: waiting fw.avdecc.resolves) ↔
      (isSlowPath pdu → ∀ u, listenerUid? (pduListenerUid pdu) = some u →
        (fw.avdecc.resolves u).active = false) := by
  have hexchange := acmpHandleConnectRx_exchange fw pdu nowMs
  have hempty : exchange fw = (fw.avdecc.resolves, []) := by rw [exchange, hsent]; rfl
  have hatonce (h : exchange (acmpHandleConnectRx fw pdu nowMs) =
      ((exchange fw).1, (exchange fw).2 ++ [requestOf pdu])) :
      (answers (acmpHandleConnectRx fw pdu nowMs).sent ++
        waiting (acmpHandleConnectRx fw pdu nowMs).avdecc.resolves).Perm
        (requestOf pdu :: waiting fw.avdecc.resolves) := by
    rw [hempty] at h
    exact exchange_balance h (.refl _)
  cases hlistener : listenerUid? (pduListenerUid pdu) with
  | none =>
    rw [hlistener] at hexchange
    exact iff_of_true (hatonce hexchange) fun _ _ h => by cases h
  | some u =>
    rw [hlistener] at hexchange
    dsimp only at hexchange
    by_cases hslow : isSlowPath pdu
    case neg =>
      rw [if_neg hslow] at hexchange
      exact iff_of_true (hatonce hexchange) fun h => absurd h hslow
    rw [if_pos hslow, hempty] at hexchange
    obtain ⟨others, hbefore, hafter⟩ := waiting_update fw.avdecc.resolves u
      (newResolve fw.avdecc u pdu nowMs)
    have hnow : (answers (acmpHandleConnectRx fw pdu nowMs).sent ++
        waiting (acmpHandleConnectRx fw pdu nowMs).avdecc.resolves).Perm
        (requestOf pdu :: others) := exchange_balance hexchange hafter
    constructor
    · intro hperm _ u' hu'
      obtain rfl := Option.some.inj hu'
      refine Bool.eq_false_iff.mpr fun hactive => ?_
      rw [if_pos hactive] at hbefore
      -- two requests would have to wait in one resolve
      have hlength := (hnow.symm.trans hperm).length_eq
      rw [List.length_cons, List.length_cons, hbefore.length_eq, List.length_append,
        List.length_singleton] at hlength
      omega
    · intro hfree
      have hidle : ¬ (fw.avdecc.resolves u).active := by rw [hfree hslow u rfl]; decide
      rw [if_neg hidle, List.nil_append] at hbefore
      exact hnow.trans (hbefore.symm.cons _)

section Step

variable (fw : Firmware) (step : LoopStep)

/-- What a step answers and leaves waiting is what was waiting, unless it
takes in a CONNECT_RX_COMMAND. -/
theorem step_balance (h : ∀ pdu, acmpCall fw step ≠ some (.connectRx, pdu)) :
    (answers (mainLoopStep fw step).sent ++ waiting (mainLoopStep fw step).avdecc.resolves).Perm
      (waiting fw.avdecc.resolves) := by
  cases hcall : acmpCall fw step with
  | some call =>
    obtain ⟨handler, pdu⟩ := call
    obtain ⟨_, _, r, scratch, -, hstep⟩ := mainLoopStep_acmp hcall
    rw [hstep]
    refine acmpHandle_balance _ pdu r ?_ rfl
    rintro rfl
    exact h pdu hcall
  | none =>
    cases step with
    | avdeccPoll r =>
      refine exchange_balance
        (avdeccPoll_exchange { fw with sent := [], tsuWrites := [] } r.nowMs) ?_
      exact (timedOut_balance ..).trans (timedOut_balance ..)
    | dispatchRx slot len r =>
      exact exchange_balance
        (dispatchRx_exchange { fw with sent := [], tsuWrites := [] } slot len r hcall) (.refl _)
    | _ =>
      exact exchange_balance
        (loopStep_exchange _ _ (fun _ h => by cases h) fun _ _ _ h => by cases h) (.refl _)

theorem step_connectRx {pdu : Buffer} (h : acmpCall fw step = some (.connectRx, pdu)) :
    (answers (mainLoopStep fw step).sent ++ waiting (mainLoopStep fw step).avdecc.resolves).Perm
        (requestOf pdu :: waiting fw.avdecc.resolves) ↔ NoOverlap fw step := by
  obtain ⟨_, _, r, scratch, -, hstep⟩ := mainLoopStep_acmp h
  rw [hstep]
  refine (connectRx_balance _ pdu r.nowMs rfl).trans ⟨fun hno pdu' h' => ?_, fun hno => hno pdu h⟩
  obtain rfl : pdu = pdu' := congrArg Prod.snd (Option.some.inj (h.symm.trans h'))
  exact hno

/-- Ending the resolve of one listener leaves none of its own waiting past its
time, and makes no other one active. -/
theorem timedOut_expired (nowMs : UInt32) (x : (ListenerUid → AvdeccResolve) × List Request)
    (i u : ListenerUid) :
    (resolveTimedOut ((timedOut nowMs x i).1 u) nowMs = true →
      u ≠ i ∧ resolveTimedOut (x.1 u) nowMs = true) := by
  unfold timedOut
  split
  · rename_i h
    dsimp only [settled]
    by_cases hu : u = i
    · subst hu
      rw [Function.update_self]
      intro hnow
      cases hnow
    · rw [Function.update_of_ne hu]
      exact fun hnow => ⟨hu, hnow⟩
  · rename_i h
    refine fun hnow => ⟨?_, hnow⟩
    rintro rfl
    exact h hnow

/-- A poll ends the resolves whose time it sees over. -/
theorem step_expired : Expired (mainLoopStep fw step) step := by
  cases step with
  | avdeccPoll r =>
    intro u hactive hage
    have hresolves := congrArg Prod.fst
      (avdeccPoll_exchange { fw with sent := [], tsuWrites := [] } r.nowMs)
    have hnow : resolveTimedOut ((mainLoopStep fw (.avdeccPoll r)).avdecc.resolves u) r.nowMs := by
      rw [resolveTimedOut, hactive, Bool.true_and, decide_eq_true_eq, elapsedMs,
        if_neg (by rw [gt_iff_lt, UInt32.not_lt]; exact hage.2)]
      exact hage.1
    rw [show (mainLoopStep fw (.avdeccPoll r)).avdecc.resolves u = _ from congrFun hresolves u]
      at hnow
    obtain ⟨hne, hnow⟩ := timedOut_expired _ _ _ _ hnow
    obtain ⟨hne', -⟩ := timedOut_expired _ _ _ _ hnow
    rcases u.cases with rfl | rfl
    · exact hne' rfl
    · exact hne rfl
  | _ => trivial

end Step

theorem answered_iff (s : Firmware × Ledger) (step : LoopStep) (h : Balanced s) :
    Answered s step ↔ NoOverlap s.1 step := by
  have hbalanced : Balanced (ledgered.step s step) ↔
      (answers (mainLoopStep s.1 step).sent ++
        waiting (mainLoopStep s.1 step).avdecc.resolves).Perm
        (commands s.1 step ++ waiting s.1.avdecc.resolves) := by
    show (s.2.commands ++ commands s.1 step).Perm
      (s.2.answers ++ answers (mainLoopStep s.1 step).sent ++
        waiting (mainLoopStep s.1 step).avdecc.resolves) ↔ _
    have hmoved : (s.2.commands ++ commands s.1 step).Perm
        (s.2.answers ++ (commands s.1 step ++ waiting s.1.avdecc.resolves)) := by
      refine (h.append_right _).trans ?_
      rw [List.append_assoc]
      exact List.perm_append_comm.append_left _
    rw [List.append_assoc]
    refine ⟨fun hperm => ?_, fun hperm => ?_⟩
    · exact (List.perm_append_left_iff _).mp (hperm.symm.trans hmoved)
    · exact hmoved.trans (hperm.symm.append_left _)
  refine (and_iff_left (step_expired ..)).trans (hbalanced.trans ?_)
  by_cases hconnect : ∃ pdu, acmpCall s.1 step = some (.connectRx, pdu)
  · obtain ⟨pdu, hcall⟩ := hconnect
    rw [commands, hcall]
    exact step_connectRx s.1 step hcall
  · have hother (pdu : Buffer) : acmpCall s.1 step ≠ some (.connectRx, pdu) :=
      fun hcall => hconnect ⟨pdu, hcall⟩
    have hnone : commands s.1 step = [] := by
      unfold commands
      split
      · rename_i pdu hcall
        exact absurd hcall (hother pdu)
      · rfl
    rw [hnone]
    exact iff_of_true (step_balance s.1 step hother) fun pdu hcall => absurd hcall (hother pdu)

theorem balanced_init : Balanced ledgered.init :=
  .of_eq (show [] = [] ++ waiting boot.avdecc.resolves by decide)

/-- In a run, every CONNECT_RX_COMMAND is answered exactly once, and in time,
if and only if none takes over an active resolve. -/
theorem answeredOnce_iff (run : List LoopStep) :
    ledgered.Steps Answered run ↔ ledgered.Steps (fun s step => NoOverlap s.1 step) run :=
  Machine.steps_congr Balanced balanced_init (fun _ _ _ h => h.1) answered_iff run

-- ---------------------------------------------------------------------------
-- A run
-- ---------------------------------------------------------------------------

/-- A controller asks listener 0 to connect by the slow path. -/
def slowCommand (controllerId : EntityId) (seqId : UInt16) : LoopStep :=
  receiveAcmp
    { msgType := acmpMsgConnectRxCommand
      controllerId := controllerId
      talkerId := eightBytes 0x00 0x1B 0x21 0xFF 0xFE 0x00 0x00 0x0A
      listenerId := boot.avdecc.entityId
      talkerUid := 0
      listenerUid := 0
      seqId := seqId }

/-- Two controllers, the second before the talker answered the first. -/
def firstCommand : LoopStep := slowCommand (eightBytes 0x00 0x1B 0x21 0xFF 0xFE 0x00 0x00 0x0C) 7
def secondCommand : LoopStep := slowCommand (eightBytes 0x00 0x1B 0x21 0xFF 0xFE 0x00 0x00 0x0D) 8

theorem secondCommand_overlaps :
    (acmpCall (mainLoop.run [firstCommand]) secondCommand).any fun call =>
      decide (call.1 = .connectRx) && isSlowPath call.2 &&
        decide (listenerUid? (pduListenerUid call.2) = some listenerUidCrf) &&
        ((mainLoop.run [firstCommand]).avdecc.resolves listenerUidCrf).active := by
  decide +kernel

theorem first_unanswered : ¬ ledgered.Steps Answered [firstCommand, secondCommand] := by
  rw [answeredOnce_iff]
  rintro ⟨-, hno, -⟩
  obtain ⟨⟨handler, pdu⟩, hcall, hsecond⟩ := (Option.any_eq_true ..).mp secondCommand_overlaps
  simp only [Bool.and_eq_true, decide_eq_true_eq] at hsecond
  obtain ⟨⟨⟨rfl, hslow⟩, hlistener⟩, hactive⟩ := hsecond
  have hidle := hno pdu hcall hslow listenerUidCrf hlistener
  exact Bool.false_ne_true (hidle.symm.trans hactive)

end AvbAes3.ConnectAnswers
