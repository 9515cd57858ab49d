import AvbAes3.RxState

/-!
# Connection counts

A listener's count is incremented by every connect and its flag set by each
of them, so the two part when a connected listener is connected again. Until
then the responses that carry the count say how many connections the
listener has to the talker they name, but for the refusal of a connect to
another talker than the one the listener is connected to.
-/

namespace AvbAes3.ConnectionCounts

open ConnectAnswers (frame_pdu Quiet acmpdu_bytes)

-- ---------------------------------------------------------------------------
-- Reports
-- ---------------------------------------------------------------------------

def pduConnCount (pdu : Buffer) : UInt16 := getBe16 (pdu.offset acmpOffConnCount)

/-- What an RX response says of one of our listeners. -/
structure Report where
  uid : ListenerUid
  talkerId : EntityId
  count : UInt16
  deriving DecidableEq

def pduReport (pdu : Buffer) : Option Report :=
  (listenerUid? (pduListenerUid pdu)).map fun u => ⟨u, pduTalkerId pdu, pduConnCount pdu⟩

def rxResponses : List UInt8 :=
  [acmpMsgConnectRxResponse, acmpMsgDisconnectRxResponse, acmpMsgGetRxStateResponse]

def reportOf (f : WireFrame) : Option Report :=
  if f.origin = .firmware .avdecc ∧ isAcmp (Buffer.ofList f.bytes) f.bytes.length ∧
      Buffer.ofList f.bytes 15 &&& 0x0F ∈ rxResponses then
    pduReport ((Buffer.ofList f.bytes).offset 14)
  else none

/-- The count of the listener's connections to the talker named. -/
def Report.Consistent (r : Report) (l : AvdeccListenerStream) : Prop :=
  r.count = if l.connected ∧ l.talkerId = r.talkerId then 1 else 0

def CountsAgree (listeners : ListenerUid → AvdeccListenerStream) : Prop :=
  ∀ u, (listeners u).connectionCount = if (listeners u).connected then 1 else 0

/-- The counts agree after the step. -/
def Counted (fw : Firmware) (step : LoopStep) : Prop :=
  CountsAgree (mainLoop.step fw step).avdecc.listeners

/-- They agree, and so does every response the step sends. -/
def Accounted (fw : Firmware) (step : LoopStep) : Prop :=
  Counted fw step ∧ ∀ f ∈ (mainLoop.step fw step).sent, ∀ r, reportOf f = some r →
    r.Consistent ((mainLoop.step fw step).avdecc.listeners r.uid)

/-- A connect, fast or resolved, finds its listener not connected. -/
def Idle (c : ListenerSide) : ListenerOp → Prop
  | .connect u .. => (c.listeners u).connected = false
  | .answer i true .. => (c.listeners (c.resolves i).listenerUid).connected = false
  | _ => True

def ConnectsIdle (fw : Firmware) (step : LoopStep) : Prop :=
  ∀ op ∈ listenerOps fw step, Idle fw.listenerSide op

/-- The resolve whose connect is refused. -/
def refused : ListenerOp → Option ListenerUid
  | .answer i false .. | .timeOut i => some i
  | _ => none

/-- A connect that is refused finds its listener not connected, or connected
to the talker that was asked. -/
def RefusesSame (fw : Firmware) (step : LoopStep) : Prop :=
  ∀ op ∈ listenerOps fw step, ∀ i, refused op = some i →
    (fw.avdecc.listeners (fw.avdecc.resolves i).listenerUid).connected →
      (fw.avdecc.listeners (fw.avdecc.resolves i).listenerUid).talkerId =
        (fw.avdecc.resolves i).talkerId

-- ---------------------------------------------------------------------------
-- Frames
-- ---------------------------------------------------------------------------

section Frames

theorem pduReport_congr {b b' : Buffer} (h : ∀ i < acmpduLen, b' i = b i) :
    pduReport b' = pduReport b := by
  have huid : pduListenerUid b' = pduListenerUid b :=
    getBe16_congr fun i hi => h _ (by simp only [acmpOffListenerUid, acmpduLen]; omega)
  have hcount : pduConnCount b' = pduConnCount b :=
    getBe16_congr fun i hi => h _ (by simp only [acmpOffConnCount, acmpduLen]; omega)
  have htalker : pduTalkerId b' = pduTalkerId b :=
    Buffer.bytes_congr fun i hi => h _ (by simp only [acmpOffTalkerId, acmpduLen]; omega)
  rw [pduReport, pduReport, huid, hcount, htalker]

theorem reportOf_subtype {p : Producer} {bytes : List UInt8}
    (h : Buffer.ofList bytes 14 ≠ avtpSubtypeAcmp) : reportOf ⟨.firmware p, bytes⟩ = none := by
  refine if_neg fun hreport => h ?_
  exact eq_of_beq (Bool.and_eq_true_iff.mp hreport.2.1).2

theorem reportOf_origin {f : WireFrame} (h : f.origin ≠ .firmware .avdecc) : reportOf f = none :=
  if_neg fun hreport => h hreport.1

theorem reportOf_acmp (srcMac : MacAddr) (b : Buffer) (hsubtype : b 0 = avtpSubtypeAcmp) :
    reportOf ⟨.firmware .avdecc, avdeccEthHdr srcMac ++ b.take acmpduLen⟩ =
      if b 1 &&& 0x0F ∈ rxResponses then pduReport b else none := by
  have hacmp : isAcmp (Buffer.ofList (avdeccEthHdr srcMac ++ b.take acmpduLen))
      (avdeccEthHdr srcMac ++ b.take acmpduLen).length := by
    have hlength : 14 + acmpduLen ≤ (avdeccEthHdr srcMac ++ b.take acmpduLen).length := by
      rw [List.length_append, ConnectAnswers.ethHdr_length, Buffer.length_take]
    rw [isAcmp, frame_pdu srcMac b (show 0 < acmpduLen by decide), hsubtype,
      decide_eq_true hlength]
    rfl
  have htype : Buffer.ofList (avdeccEthHdr srcMac ++ b.take acmpduLen) 15 = b 1 :=
    frame_pdu srcMac b (show 1 < acmpduLen by decide)
  have hreport : pduReport ((Buffer.ofList (avdeccEthHdr srcMac ++ b.take acmpduLen)).offset 14) =
      pduReport b := pduReport_congr fun i hi => frame_pdu srcMac b hi
  rw [reportOf]
  dsimp only
  rw [hreport, hacmp, htype]
  simp

/-- What an ACMPDU of ours reports. -/
theorem reportOf_acmpdu (srcMac : MacAddr) (a : Acmpdu) :
    reportOf ⟨.firmware .avdecc, avdeccEthHdr srcMac ++ a.bytes⟩ =
      if a.msgType &&& 0x0F ∈ rxResponses then
        (listenerUid? a.listenerUid).map fun u => ⟨u, a.talkerId, a.connCount⟩
      else none := by
  obtain ⟨hbytes, hsubtype, htype, -⟩ := acmpdu_bytes a
  have hholds : (Buffer.ofList a.bytes).Holds 0 a.bytes := Buffer.holds_ofList a.bytes
  generalize Buffer.ofList a.bytes = b at hbytes hsubtype htype hholds
  rw [hbytes, reportOf_acmp _ _ hsubtype, htype]
  simp only [Acmpdu.bytes, Buffer.holds_append, List.length_append, Vector.length_toList, be16,
    List.length_cons, List.length_nil] at hholds
  obtain ⟨⟨⟨⟨⟨⟨⟨⟨⟨⟨⟨⟨⟨-, -⟩, -⟩, -⟩, htalker⟩, -⟩, -⟩, huid⟩, -⟩, hcount⟩, -⟩, -⟩, -⟩, -⟩ := hholds
  have huid' : pduListenerUid b = a.listenerUid :=
    getBe16_eq (huid 0 Nat.two_pos) (huid 1 Nat.one_lt_two)
  have hcount' : pduConnCount b = a.connCount :=
    getBe16_eq (hcount 0 Nat.two_pos) (hcount 1 Nat.one_lt_two)
  have htalker' : pduTalkerId b = a.talkerId :=
    Buffer.Holds.bytes (Buffer.holds_offset.mpr htalker)
  rw [pduReport, huid', hcount', htalker']

theorem quiet_reportOf {frames : List (List UInt8)} (h : Quiet frames) :
    ∀ bytes ∈ frames, reportOf ⟨.firmware .avdecc, bytes⟩ = none := by
  intro bytes hbytes
  obtain hsubtype | ⟨srcMac, a, rfl, hcommand⟩ := h.toOthers bytes hbytes
  · exact reportOf_subtype hsubtype
  · rw [reportOf_acmpdu]
    rcases hcommand with hcommand | hcommand
    · rw [hcommand]
      exact if_neg (by decide)
    · rw [hcommand]
      exact if_neg (by decide)

/-- The listener named and the count are not among the connection's fields. -/
theorem connectionFields_kept (q : Buffer) (l : AvdeccListenerStream) (vid : UInt16) {i : Nat}
    (h : (38 ≤ i ∧ i < 40) ∨ (46 ≤ i ∧ i < 48)) :
    (RxState.connectionFields l vid).foldl (fun b f => b.copy f.1 f.2) q i = q i := by
  simp only [RxState.connectionFields, List.foldl_cons, List.foldl_nil]
  iterate 6
    rw [Buffer.copy_outside (by
      simp only [acmpOffTalkerId, acmpOffTalkerUid, acmpOffStreamId, acmpOffStreamDestMac,
        acmpOffVlanId, acmpOffFlags, be16, Vector.length_toList, List.length_cons,
        List.length_nil]
      omega)]

section Filled

variable {s : Avdecc} {p : Buffer} {u : ListenerUid}

/-- The count, and over it the connection if there is one. -/
theorem fillListenerResponse_eq (h : listenerUid? (pduListenerUid p) = some u) :
    fillListenerResponse s p =
      let q := p.copy acmpOffConnCount (be16 (s.listeners u).connectionCount)
      if (s.listeners u).connected then
        (RxState.connectionFields (s.listeners u)
          (if (s.listeners u).streamVlanId ≠ 0 then (s.listeners u).streamVlanId else 2)).foldl
          (fun b f => b.copy f.1 f.2) q
      else q := by
  rw [pduListenerUid] at h
  rw [fillListenerResponse, h]
  rfl

/-- Behind the connection's fields the count is in place. -/
theorem fillListenerResponse_kept (h : listenerUid? (pduListenerUid p) = some u) {i : Nat}
    (hi : (38 ≤ i ∧ i < 40) ∨ (46 ≤ i ∧ i < 48)) :
    fillListenerResponse s p i =
      p.copy acmpOffConnCount (be16 (s.listeners u).connectionCount) i := by
  rw [fillListenerResponse_eq h]
  dsimp only
  split
  · exact connectionFields_kept _ _ _ hi
  · rfl

theorem fillListenerResponse_count (h : listenerUid? (pduListenerUid p) = some u) :
    pduConnCount (fillListenerResponse s p) = (s.listeners u).connectionCount := by
  have hholds : (fillListenerResponse s p).Holds acmpOffConnCount
      (be16 (s.listeners u).connectionCount) := by
    intro i hi
    have hlt : i < 2 := hi
    rw [fillListenerResponse_kept h (.inr (by simp only [acmpOffConnCount]; omega))]
    exact Buffer.holds_copy_at _ _ _ i hi
  exact hholds.getBe16

theorem fillListenerResponse_talker (h : listenerUid? (pduListenerUid p) = some u)
    (hconnected : (s.listeners u).connected) :
    pduTalkerId (fillListenerResponse s p) = (s.listeners u).talkerId := by
  rw [fillListenerResponse_eq h]
  dsimp only
  rw [if_pos hconnected]
  exact (RxState.connection_fields _ _ _).1

theorem fillListenerResponse_uid : pduListenerUid (fillListenerResponse s p) = pduListenerUid p := by
  cases h : listenerUid? (pduListenerUid p) with
  | none =>
    rw [pduListenerUid] at h
    rw [fillListenerResponse, h]
  | some u =>
    refine getBe16_congr fun i hi => ?_
    rw [Buffer.offset_apply, Buffer.offset_apply,
      fillListenerResponse_kept h (.inl (by simp only [acmpOffListenerUid]; omega))]
    exact Buffer.copy_outside (.inl (by simp only [acmpOffConnCount, acmpOffListenerUid]; omega))

/-- A listener's count, and its talker if it has one. -/
def Tells (listeners : ListenerUid → AvdeccListenerStream) (f : WireFrame) : Prop :=
  ∀ r, reportOf f = some r → r.count = (listeners r.uid).connectionCount ∧
    ((listeners r.uid).connected → r.talkerId = (listeners r.uid).talkerId)

theorem acmpSendResponse_tells (s : Avdecc) {msgType : UInt8} (status : UInt8) (pdu : Buffer)
    (h : msgType ∈ rxResponses) :
    ∀ bytes ∈ (acmpSendResponse s msgType status pdu).2,
      Tells s.listeners ⟨.firmware .avdecc, bytes⟩ := by
  have hrx : msgType = acmpMsgConnectRxResponse ∨ msgType = acmpMsgGetRxStateResponse ∨
      msgType = acmpMsgDisconnectRxResponse := by
    simp only [rxResponses, List.mem_cons, List.not_mem_nil, or_false] at h
    rcases h with h | h | h
    · exact .inl h
    · exact .inr (.inr h)
    · exact .inr (.inl h)
  have htx : ¬ (msgType = acmpMsgConnectTxResponse ∨ msgType = acmpMsgGetTxStateResponse ∨
      msgType = acmpMsgDisconnectTxResponse) := by
    rcases hrx with rfl | rfl | rfl <;> decide
  intro bytes hbytes r hr
  unfold acmpSendResponse at hbytes
  dsimp only at hbytes
  rw [if_neg htx, if_pos hrx] at hbytes
  generalize hp : (pdu.copy 0 [avtpSubtypeAcmp, msgType &&& 0x0F]).copy 2
    (be16 (statusCdl status acmpControlDataLen)) = p at hbytes
  have hsubtype : fillListenerResponse s p 0 = avtpSubtypeAcmp := by
    rw [ConnectAnswers.fillListenerResponse_kept s p (.inl (by decide)), ← hp]
    rfl
  rw [List.mem_singleton.mp hbytes, reportOf_acmp _ _ hsubtype] at hr
  split at hr
  · obtain ⟨u, hu, rfl⟩ := Option.map_eq_some_iff.mp hr
    rw [fillListenerResponse_uid] at hu
    exact ⟨fillListenerResponse_count hu, fillListenerResponse_talker hu⟩
  · cases hr

/-- A talker's response. -/
theorem acmpSendResponse_other (s : Avdecc) {msgType : UInt8} (status : UInt8) (pdu : Buffer)
    (h : msgType &&& 0x0F ∉ rxResponses) :
    ∀ bytes ∈ (acmpSendResponse s msgType status pdu).2,
      reportOf ⟨.firmware .avdecc, bytes⟩ = none := by
  intro bytes hbytes
  obtain ⟨b, hframe, hsubtype, htype, -⟩ :=
    ConnectAnswers.acmpSendResponse_frame s msgType status pdu
  have hmask : msgType &&& 0x0F &&& 0x0F = msgType &&& 0x0F := by
    rw [UInt8.and_assoc]
    rfl
  rw [hframe] at hbytes
  rw [List.mem_singleton.mp hbytes, reportOf_acmp _ _ hsubtype, htype, hmask, if_neg h]

end Filled

end Frames

-- ---------------------------------------------------------------------------
-- The handlers
-- ---------------------------------------------------------------------------

section Handlers

variable {before : List WireFrame} {fw : Firmware}
  {listeners : ListenerUid → AvdeccListenerStream}

theorem Tells.of_none {f : WireFrame} (h : reportOf f = none) : Tells listeners f := by
  intro r hr
  cases h.symm.trans hr

theorem quiet_tells (h : Adds (Tells listeners) before fw.sent) {r : Avdecc × List (List UInt8)}
    (hquiet : Quiet r.2) : Adds (Tells listeners) before (fw.putAvdecc r).sent :=
  h.putAvdecc r fun bytes hbytes => .of_none (quiet_reportOf hquiet bytes hbytes)

theorem respond_other (h : Adds (Tells listeners) before fw.sent) {msgType : UInt8}
    (status : UInt8) (pdu : Buffer) (hmsg : msgType &&& 0x0F ∉ rxResponses) :
    Adds (Tells listeners) before (fw.respond msgType status pdu).sent :=
  h.putAvdecc _ fun bytes hbytes => .of_none (acmpSendResponse_other _ status pdu hmsg bytes hbytes)

theorem respond_tells (h : Adds (Tells fw.avdecc.listeners) before fw.sent) {msgType : UInt8}
    (status : UInt8) (pdu : Buffer) (hmsg : msgType ∈ rxResponses) :
    Adds (Tells (fw.respond msgType status pdu).avdecc.listeners) before
      (fw.respond msgType status pdu).sent := by
  rw [Firmware.respond, putAvdecc_avdecc]
  exact h.putAvdecc _ (acmpSendResponse_tells fw.avdecc status pdu hmsg)

theorem acmpHandle_tells (fw : Firmware) (pdu : Buffer) (r : Readings) {h : AcmpHandler}
    (hne : h ≠ .connectTxResponse) :
    Adds (Tells (acmpHandle fw pdu r h).avdecc.listeners) fw.sent (acmpHandle fw pdu r h).sent := by
  cases h with
  | connectTxResponse => exact absurd rfl hne
  | connectTx =>
    generalize (acmpHandle fw pdu r .connectTx).avdecc.listeners = listeners
    rw [acmpHandle, acmpHandleConnectTx]
    split
    · exact respond_other .refl _ _ (by decide)
    · refine respond_other ?_ _ _ (by decide)
      rw [onTalkerConnect_sent]
      exact .refl
  | disconnectTx =>
    generalize (acmpHandle fw pdu r .disconnectTx).avdecc.listeners = listeners
    rw [acmpHandle, acmpHandleDisconnectTx]
    refine respond_other ?_ _ _ (by decide)
    split
    · exact .refl
    · dsimp only
      rw [onTalkerDisconnect_sent]
      exact .refl
  | getTxState => exact respond_other .refl _ _ (by decide)
  | connectRx =>
    rw [acmpHandle, acmpHandleConnectRx]
    split
    · exact respond_tells .refl _ _ (by decide)
    split
    · exact quiet_tells .refl (ConnectAnswers.sendConnectTxCommand_quiet ..)
    split
    · exact respond_tells .refl _ _ (by decide)
    · refine respond_tells ?_ _ _ (by decide)
      refine quiet_tells ?_ (ConnectAnswers.pushListener_quiet ..)
      rw [onListenerConnect_sent]
      exact .refl
  | disconnectRx =>
    rw [acmpHandle, acmpHandleDisconnectRx]
    refine respond_tells ?_ _ _ (by decide)
    split
    · exact .refl
    · refine quiet_tells ?_ (ConnectAnswers.pushListener_quiet ..)
      rw [onListenerDisconnect_sent]
      exact .refl
  | getRxState => exact respond_tells .refl _ _ (by decide)

/-- The report of a response that waited for the talker. -/
def deferred (listeners : ListenerUid → AvdeccListenerStream) (r : AvdeccResolve) : Report :=
  ⟨r.listenerUid, r.talkerId, (listeners r.listenerUid).connectionCount⟩

theorem deferred_reportOf (s : Avdecc) (r : AvdeccResolve) (status : UInt8)
    (streamId : StreamId) (destMac : MacAddr) (vlanId : UInt16) :
    ∀ bytes ∈ (sendDeferredConnectRxResponse s r status streamId destMac vlanId).2,
      reportOf ⟨.firmware .avdecc, bytes⟩ = some (deferred s.listeners r) := by
  intro bytes hbytes
  rw [sendDeferredConnectRxResponse, acmpSend] at hbytes
  rw [List.mem_singleton.mp hbytes, reportOf_acmpdu,
    if_pos (show acmpMsgConnectRxResponse &&& 0x0F ∈ rxResponses by decide),
    listenerUid?_toUInt16]
  rfl

/-- Of a resolve that is answered. -/
structure Deferred (listeners : ListenerUid → AvdeccListenerStream) (r : AvdeccResolve)
    (sent : List WireFrame) : Prop where
  only : ∀ f ∈ sent, reportOf f = none ∨ reportOf f = some (deferred listeners r)
  sent : ∃ f ∈ sent, reportOf f = some (deferred listeners r)

theorem acmpHandleConnectTxResponse_reports (pdu : Buffer) (nowMs : UInt32) (hsent : fw.sent = []) :
    (answeredResolve fw.avdecc pdu = none → (acmpHandleConnectTxResponse fw pdu nowMs).sent = []) ∧
      ∀ i, answeredResolve fw.avdecc pdu = some i →
        Deferred (acmpHandleConnectTxResponse fw pdu nowMs).avdecc.listeners
          (fw.avdecc.resolves i) (acmpHandleConnectTxResponse fw pdu nowMs).sent := by
  unfold acmpHandleConnectTxResponse
  refine ⟨fun hnone => ?_, fun i hi => ?_⟩
  · rw [hnone]
    exact hsent
  · rw [hi]
    dsimp only
    have hquiet : ∀ f ∈ (if pduStatus pdu = acmpStatusSuccess then
        connectResolved fw (fw.avdecc.resolves i) pdu nowMs else fw).sent,
        reportOf f = none := by
      split
      · refine Adds.all (P := fun f => reportOf f = none) ?_
        rw [connectResolved, ← hsent]
        refine Adds.putAvdecc ?_ _ (quiet_reportOf (ConnectAnswers.pushListener_quiet ..))
        rw [onListenerConnect_sent]
        exact .refl
      · rw [hsent]
        exact fun f hf => absurd hf List.not_mem_nil
    generalize (if pduStatus pdu = acmpStatusSuccess then
      connectResolved fw (fw.avdecc.resolves i) pdu nowMs else fw) = fw' at hquiet ⊢
    have hreport := deferred_reportOf fw'.avdecc (fw.avdecc.resolves i) (pduStatus pdu)
      (pduStreamId pdu) (pduStreamDestMac pdu) (pduVlanId pdu) _ (List.mem_singleton_self _)
    rw [Firmware.putAvdecc, sendAll_sent, sendAll_avdecc]
    constructor
    · intro f hf
      rcases List.mem_append.mp hf with hf | hf
      · exact .inl (hquiet f hf)
      · rw [List.mem_singleton.mp hf]
        exact .inr hreport
    · exact ⟨_, List.mem_append_right _ (List.mem_singleton_self _), hreport⟩

end Handlers

-- ---------------------------------------------------------------------------
-- The steps
-- ---------------------------------------------------------------------------

/-- Every response sent in a step tells of its listener or is the refusal of
a connect that waited, and those refusals are sent. -/
structure Reports (fw : Firmware) (step : LoopStep) : Prop where
  told : ∀ f ∈ (mainLoopStep fw step).sent, Tells (mainLoopStep fw step).avdecc.listeners f ∨
    ∃ op ∈ listenerOps fw step, ∃ i, refused op = some i ∧
      reportOf f = some
        (deferred (mainLoopStep fw step).avdecc.listeners (fw.avdecc.resolves i))
  refusals : ∀ op ∈ listenerOps fw step, ∀ i, refused op = some i →
    ∃ f ∈ (mainLoopStep fw step).sent, reportOf f = some
      (deferred (mainLoopStep fw step).avdecc.listeners (fw.avdecc.resolves i))

section Steps

variable {fw : Firmware} {step : LoopStep}

theorem Reports.of_tells
    (htold : Adds (Tells (mainLoopStep fw step).avdecc.listeners) [] (mainLoopStep fw step).sent)
    (hops : ∀ op ∈ listenerOps fw step, refused op = none) : Reports fw step where
  told f hf := .inl (htold.all f hf)
  refusals op hop i hi := by
    rw [hops op hop] at hi
    cases hi

theorem Reports.of_silent
    (hsilent : Adds (fun f => reportOf f = none) [] (mainLoopStep fw step).sent)
    (hops : ∀ op ∈ listenerOps fw step, refused op = none) : Reports fw step :=
  .of_tells (hsilent.mono fun _ hf => .of_none hf) hops

theorem listenerOps_acmp {slot : Buffer} {len : Nat} {r : Readings} {h : AcmpHandler}
    {pdu : Buffer} (hcall : acmpCall fw (.dispatchRx slot len r) = some (h, pdu)) :
    listenerOps fw (.dispatchRx slot len r) = acmpListenerOps fw pdu r.nowMs h := by
  unfold acmpCall at hcall
  unfold listenerOps
  dsimp only at hcall ⊢
  split at hcall
  · rename_i hacmp
    obtain ⟨handler, hhandler, heq⟩ := Option.map_eq_some_iff.mp hcall
    obtain ⟨rfl, rfl⟩ := Prod.mk.inj heq
    rw [hacmp.1]
    dsimp only
    rw [rxListenerOps, avdeccListenerOps, if_pos hacmp.2, hhandler]
  · cases hcall

theorem putGptp_silent (fw : Firmware) (r : Gptp × List GptpEffect) :
    Adds (fun f => reportOf f = none) fw.sent (fw.putGptp r).sent :=
  (putGptp_adds ..).mono fun _ hf => reportOf_origin (hf.not_other (by decide))

theorem aecp_silent (fw : Firmware) (frame : Buffer) (len : Nat)
    (h : frame 14 = avtpSubtypeAecp) :
    Adds (fun f => reportOf f = none) fw.sent (fw.aecp frame len).sent := by
  have hsubtype := aecpHandle_subtype fw.avdecc
    ⟨frame, len - 14, fw.mac.buf .avdecc, fw.gptp, fw.srp⟩ h
  unfold Firmware.aecp
  dsimp only
  split
  · rename_i length hsent
    have hslot := hsubtype (by rw [hsent]; rfl)
    refine ⟨_, rfl, fun f hf => ?_⟩
    rw [List.mem_singleton.mp hf]
    refine reportOf_subtype (ConnectAnswers.take_subtype ?_ length)
    rw [hslot]
    decide
  · exact .refl

theorem dispatchRx_silent {slot : Buffer} {len : Nat} {r : Readings}
    (hcall : acmpCall fw (.dispatchRx slot len r) = none) :
    Adds (fun f => reportOf f = none) fw.sent (dispatchRx fw slot len r).sent := by
  unfold acmpCall at hcall
  unfold dispatchRx
  dsimp only at hcall ⊢
  generalize rxFrame slot len fw.scratch = rx at hcall ⊢
  cases hhandler : rxHandler rx.frame rx.len with
  | none => exact .refl
  | some handler =>
    cases handler with
    | gptp => exact putGptp_silent ..
    | crf => exact .refl
    | aaf => exact .refl
    | msrp =>
      dsimp only
      rw [rxHandle, srpProcessRx_sent]
      exact .refl
    | avdecc =>
      rw [hhandler] at hcall
      dsimp only
      rw [rxHandle]
      have hrx := avdeccRx { fw with scratch := rx.scratch } rx.frame rx.len r
      generalize avdeccProcessRx { fw with scratch := rx.scratch } rx.frame rx.len r = fw' at hrx ⊢
      cases hrx with
      | ignored => exact .refl
      | uncalled => exact .refl
      | acmp hacmp handler hcalled =>
        rw [if_pos ⟨rfl, hacmp⟩, Option.map_eq_none_iff] at hcall
        cases hcall.symm.trans hcalled
      | aecp _ haecp => exact aecp_silent _ _ _ haecp

theorem listenerOps_noCall {slot : Buffer} {len : Nat} {r : Readings}
    (hcall : acmpCall fw (.dispatchRx slot len r) = none) :
    ∀ op ∈ listenerOps fw (.dispatchRx slot len r), refused op = none := by
  unfold acmpCall at hcall
  unfold listenerOps
  dsimp only at hcall ⊢
  cases hhandler : rxHandler (rxFrame slot len fw.scratch).frame (rxFrame slot len fw.scratch).len with
  | none => exact fun op hop => nomatch hop
  | some handler =>
    rw [hhandler] at hcall
    cases handler with
    | msrp =>
      intro op hop
      dsimp only at hop
      rw [rxListenerOps, msrpListenerOps] at hop
      split at hop
      · obtain ⟨v, -, rfl⟩ := List.mem_map.mp hop
        rfl
      · cases hop
    | avdecc =>
      dsimp only
      rw [rxListenerOps, avdeccListenerOps]
      split
      · rename_i hacmp
        rw [if_pos ⟨rfl, hacmp⟩, Option.map_eq_none_iff] at hcall
        rw [hcall]
        exact fun op hop => nomatch hop
      · exact fun op hop => nomatch hop
    | _ => exact fun op hop => nomatch hop

theorem answered_talker (c : ListenerSide) (i : ListenerUid) (streamId : StreamId)
    (destMac : MacAddr) (vlanId : UInt16) (known : Option SrpRemoteTalker) :
    ((c.answer i true streamId destMac vlanId known).listeners
      (c.resolves i).listenerUid).talkerId = (c.resolves i).talkerId := by
  refine (ListenerSide.listen_same _ _ _ _ _ AvdeccListenerStream.talkerId fun _ _ _ => rfl).trans ?_
  rw [ListenerSide.setListener_self]
  rfl

theorem connectTxResponse_reports {slot : Buffer} {len : Nat} {r : Readings} {pdu : Buffer}
    (hcall : acmpCall fw (.dispatchRx slot len r) = some (.connectTxResponse, pdu)) :
    Reports fw (.dispatchRx slot len r) := by
  have hops := listenerOps_acmp hcall
  have hside := mainLoop_refines_listenerSide.step fw (.dispatchRx slot len r)
  rw [hops] at hside
  obtain ⟨_, _, r', scratch, heq, hstep⟩ := mainLoopStep_acmp hcall
  obtain ⟨rfl, rfl, rfl⟩ := LoopStep.dispatchRx.inj heq
  have hreports := @acmpHandleConnectTxResponse_reports
    { fw with
      sent := []
      tsuWrites := []
      scratch := scratch
      avdecc := { fw.avdecc with acmpRxCount := fw.avdecc.acmpRxCount + 1 } } pdu r.nowMs rfl
  have hafter : mainLoopStep fw (.dispatchRx slot len r) = acmpHandleConnectTxResponse _ pdu r.nowMs :=
    hstep
  rw [← hafter] at hreports
  clear hstep hafter heq
  have hanswered : answeredResolve { fw.avdecc with acmpRxCount := fw.avdecc.acmpRxCount + 1 } pdu =
      answeredResolve fw.avdecc pdu := rfl
  dsimp only at hreports
  rw [hanswered] at hreports
  cases hi : answeredResolve fw.avdecc pdu with
  | none =>
    refine .of_silent (by rw [hreports.1 hi]; exact .refl) ?_
    rw [hops, acmpListenerOps, hi]
    exact fun op hop => nomatch hop
  | some i =>
    replace hreports := hreports.2 i hi
    rw [acmpListenerOps, hi] at hops hside
    dsimp only at hops hside
    by_cases hsuccess : pduStatus pdu = acmpStatusSuccess
    · -- the listener has taken the talker over
      rw [decide_eq_true hsuccess] at hops hside
      have htalker := congrArg (fun c => (c.listeners (fw.avdecc.resolves i).listenerUid).talkerId)
        hside
      refine .of_tells ⟨_, (List.nil_append _).symm, fun f hf => ?_⟩ ?_
      · rcases hreports.only f hf with hnone | hreport
        · exact .of_none hnone
        · intro report hr
          obtain rfl := Option.some.inj (hreport.symm.trans hr)
          exact ⟨rfl, fun _ => (htalker.trans (answered_talker fw.listenerSide i _ _ _ _)).symm⟩
      · rw [hops]
        exact fun op hop => List.mem_singleton.mp hop ▸ rfl
    · rw [decide_eq_false hsuccess] at hops
      constructor
      · intro f hf
        rcases hreports.only f hf with hnone | hreport
        · exact .inl (.of_none hnone)
        · rw [hops]
          exact .inr ⟨_, List.mem_singleton_self _, i, rfl, hreport⟩
      · rw [hops]
        intro op hop j hj
        rw [List.mem_singleton.mp hop] at hj
        obtain rfl : i = j := Option.some.inj hj
        exact hreports.sent

theorem acmpListenerOps_other {pdu : Buffer} {nowMs : UInt32} {h : AcmpHandler}
    (hne : h ≠ .connectTxResponse) :
    ∀ op ∈ acmpListenerOps fw pdu nowMs h, refused op = none := by
  intro op hop
  cases h with
  | connectTxResponse => exact absurd rfl hne
  | connectRx =>
    unfold acmpListenerOps at hop
    dsimp only at hop
    split at hop
    · cases hop
    split at hop
    · rw [List.mem_singleton.mp hop]; rfl
    split at hop
    · cases hop
    · rw [List.mem_singleton.mp hop]; rfl
  | disconnectRx =>
    unfold acmpListenerOps at hop
    dsimp only at hop
    split at hop
    · cases hop
    · rw [List.mem_singleton.mp hop]; rfl
  | _ => cases hop

theorem acmp_reports {slot : Buffer} {len : Nat} {r : Readings} {h : AcmpHandler} {pdu : Buffer}
    (hne : h ≠ .connectTxResponse)
    (hcall : acmpCall fw (.dispatchRx slot len r) = some (h, pdu)) :
    Reports fw (.dispatchRx slot len r) := by
  refine .of_tells ?_ (listenerOps_acmp hcall ▸ acmpListenerOps_other hne)
  obtain ⟨_, _, r', scratch, -, hstep⟩ := mainLoopStep_acmp hcall
  rw [hstep]
  exact acmpHandle_tells _ pdu r' hne

theorem dispatchRx_reports (fw : Firmware) (slot : Buffer) (len : Nat) (r : Readings) :
    Reports fw (.dispatchRx slot len r) := by
  cases hcall : acmpCall fw (.dispatchRx slot len r) with
  | none =>
    have hcall' : acmpCall { fw with sent := [], tsuWrites := [] } (.dispatchRx slot len r) =
        none := hcall
    exact .of_silent (dispatchRx_silent hcall') (listenerOps_noCall hcall)
  | some call =>
    obtain ⟨h, pdu⟩ := call
    by_cases hresponse : h = .connectTxResponse
    · exact connectTxResponse_reports (hresponse ▸ hcall)
    · exact acmp_reports hresponse hcall

/-- A resolve that times out is answered. -/
theorem timeOutResolve_reports (s : Avdecc) (i : ListenerUid) (nowMs : UInt32) :
    (∀ bytes ∈ (timeOutResolve s i nowMs).2, resolveTimedOut (s.resolves i) nowMs ∧
      reportOf ⟨.firmware .avdecc, bytes⟩ = some (deferred s.listeners (s.resolves i))) ∧
    (resolveTimedOut (s.resolves i) nowMs → ∃ bytes ∈ (timeOutResolve s i nowMs).2,
      reportOf ⟨.firmware .avdecc, bytes⟩ = some (deferred s.listeners (s.resolves i))) ∧
    (timeOutResolve s i nowMs).1.listeners = s.listeners := by
  unfold timeOutResolve
  dsimp only
  split
  · rename_i hover
    have hreport := deferred_reportOf s (s.resolves i) acmpStatusListenerTalkerTimeout
      (zeroBytes 8) (zeroBytes 6) 0
    exact ⟨fun bytes hbytes => ⟨hover, hreport bytes hbytes⟩,
      fun _ => ⟨_, List.mem_singleton_self _, hreport _ (List.mem_singleton_self _)⟩, rfl⟩
  · rename_i hover
    exact ⟨fun bytes hbytes => (nomatch hbytes), fun h => absurd h hover, rfl⟩

/-- A poll answers the resolves that time out, and sends no other report. -/
theorem avdeccPoll_answers (s : Avdecc) (g : Gptp) (m : Mcr) (nowMs : UInt32) :
    (∀ bytes ∈ (avdeccPoll s g m nowMs).2, reportOf ⟨.firmware .avdecc, bytes⟩ = none ∨
      ∃ i, resolveTimedOut (s.resolves i) nowMs ∧
        reportOf ⟨.firmware .avdecc, bytes⟩ = some (deferred s.listeners (s.resolves i))) ∧
    (∀ i, resolveTimedOut (s.resolves i) nowMs → ∃ bytes ∈ (avdeccPoll s g m nowMs).2,
      reportOf ⟨.firmware .avdecc, bytes⟩ = some (deferred s.listeners (s.resolves i))) ∧
    (avdeccPoll s g m nowMs).1.listeners = s.listeners := by
  have hclock := trackClockLock_connections s g m
  have hclockQuiet := ConnectAnswers.trackClockLock_quiet s g m
  rw [avdeccPoll]
  dsimp only
  generalize trackClockLock s g m = clock at hclock hclockQuiet ⊢
  have hresolves : clock.1.resolves = s.resolves := congrArg AvdeccConnections.resolves hclock
  have hlisteners : clock.1.listeners = s.listeners := congrArg AvdeccConnections.listeners hclock
  obtain ⟨hcrf, hcrfSent, hcrfKept⟩ := timeOutResolve_reports clock.1 listenerUidCrf nowMs
  have haafResolve := timeOutResolve_other (s := clock.1) (i := listenerUidCrf)
    (j := listenerUidAaf) nowMs (by decide)
  generalize timeOutResolve clock.1 listenerUidCrf nowMs = crf
    at hcrf hcrfSent hcrfKept haafResolve ⊢
  obtain ⟨haaf, haafSent, haafKept⟩ := timeOutResolve_reports crf.1 listenerUidAaf nowMs
  generalize timeOutResolve crf.1 listenerUidAaf nowMs = aaf at haaf haafSent haafKept ⊢
  have hadpQuiet := ConnectAnswers.adpAdvertise_quiet aaf.1 g nowMs
  have hadp : (adpAdvertise aaf.1 g nowMs).1.listeners = aaf.1.listeners :=
    congrArg AvdeccConnections.listeners (adpAdvertise_connections aaf.1 g nowMs)
  rw [hresolves, hlisteners] at hcrf hcrfSent
  rw [haafResolve, hresolves, hcrfKept, hlisteners] at haaf haafSent
  refine ⟨fun bytes hbytes => ?_, fun i hover => ?_,
    hadp.trans (haafKept.trans (hcrfKept.trans hlisteners))⟩
  · simp only [List.mem_append] at hbytes
    obtain ((hbytes | hbytes) | hbytes) | hbytes := hbytes
    · exact .inl (quiet_reportOf hclockQuiet bytes hbytes)
    · exact .inr ⟨_, hcrf bytes hbytes⟩
    · exact .inr ⟨_, haaf bytes hbytes⟩
    · exact .inl (quiet_reportOf hadpQuiet bytes hbytes)
  · rcases i.cases with rfl | rfl
    · obtain ⟨bytes, hbytes, hreport⟩ := hcrfSent hover
      exact ⟨bytes, by simp [hbytes], hreport⟩
    · obtain ⟨bytes, hbytes, hreport⟩ := haafSent hover
      exact ⟨bytes, by simp [hbytes], hreport⟩

theorem mem_pollOps {fw : Firmware} {r : Readings} {op : ListenerOp} :
    op ∈ listenerOps fw (.avdeccPoll r) ↔
      ∃ i, op = .timeOut i ∧ resolveTimedOut (fw.avdecc.resolves i) r.nowMs := by
  have hmem (i : ListenerUid) : op ∈ timeOutListenerOps fw.avdecc r.nowMs i ↔
      op = .timeOut i ∧ resolveTimedOut (fw.avdecc.resolves i) r.nowMs := by
    unfold timeOutListenerOps
    split
    · rename_i hover
      rw [List.mem_singleton, and_iff_left hover]
    · rename_i hover
      exact iff_of_false List.not_mem_nil fun h => hover h.2
  refine List.mem_append.trans ⟨fun h => ?_, fun ⟨i, h⟩ => ?_⟩
  · rcases h with h | h
    · exact ⟨_, (hmem _).mp h⟩
    · exact ⟨_, (hmem _).mp h⟩
  · rcases i.cases with rfl | rfl
    · exact .inl ((hmem _).mpr h)
    · exact .inr ((hmem _).mpr h)

theorem avdeccPoll_reports (fw : Firmware) (r : Readings) : Reports fw (.avdeccPoll r) := by
  obtain ⟨honly, hanswered, hlisteners⟩ := avdeccPoll_answers fw.avdecc fw.gptp fw.mcr r.nowMs
  have hsent : (mainLoopStep fw (.avdeccPoll r)).sent =
      (avdeccPoll fw.avdecc fw.gptp fw.mcr r.nowMs).2.map fun bytes =>
        ⟨.firmware .avdecc, bytes⟩ := sendAll_sent ..
  have hkept : (mainLoopStep fw (.avdeccPoll r)).avdecc.listeners = fw.avdecc.listeners :=
    (congrArg Avdecc.listeners (putAvdecc_avdecc ..)).trans hlisteners
  constructor
  · rw [hsent, hkept]
    intro f hf
    obtain ⟨bytes, hbytes, rfl⟩ := List.mem_map.mp hf
    rcases honly bytes hbytes with hnone | ⟨i, hover, hreport⟩
    · exact .inl (.of_none hnone)
    · exact .inr ⟨_, mem_pollOps.mpr ⟨i, rfl, hover⟩, i, rfl, hreport⟩
  · rw [hsent, hkept]
    intro op hop j hj
    obtain ⟨i, rfl, hover⟩ := mem_pollOps.mp hop
    obtain rfl : i = j := Option.some.inj hj
    obtain ⟨bytes, hbytes, hreport⟩ := hanswered i hover
    exact ⟨_, List.mem_map_of_mem hbytes, hreport⟩

theorem loopStep_silent (fw : Firmware) (step : LoopStep)
    (hpoll : ∀ r, step ≠ .avdeccPoll r) (hrx : ∀ slot len r, step ≠ .dispatchRx slot len r) :
    Adds (fun f => reportOf f = none) fw.sent (loopStep fw step).sent := by
  have hquiet {fw : Firmware} {r : Avdecc × List (List UInt8)} {before : List WireFrame}
      (h : Adds (fun f => reportOf f = none) before fw.sent) (hquiet : Quiet r.2) :
      Adds (fun f => reportOf f = none) before (fw.putAvdecc r).sent :=
    h.putAvdecc r (quiet_reportOf hquiet)
  cases step with
  | avdeccPoll r => exact absurd rfl (hpoll r)
  | dispatchRx slot len r => exact absurd rfl (hrx slot len r)
  | trackLocks =>
    rw [loopStep, trackLocks]
    dsimp only
    refine hquiet ?_ (ConnectAnswers.lockChanged_quiet ..)
    split
    · exact hquiet .refl (ConnectAnswers.lockChanged_quiet ..)
    · exact .refl
  | crfFlowWatchdog r => exact hquiet .refl (ConnectAnswers.crfFlowWatchdog_quiet ..)
  | _ =>
    refine (loopStep_adds fw _).mono fun f hf => reportOf_origin fun havdecc => ?_
    have hmem := hf _ havdecc
    simp [LoopStep.senders] at hmem

theorem step_reports (fw : Firmware) (step : LoopStep) : Reports fw step := by
  cases step with
  | dispatchRx slot len r => exact dispatchRx_reports ..
  | avdeccPoll r => exact avdeccPoll_reports ..
  | _ =>
    refine .of_silent ?_ fun op hop => nomatch hop
    exact loopStep_silent { fw with sent := [], tsuWrites := [] } _ (fun _ => nofun)
      fun _ _ _ => nofun

end Steps

-- ---------------------------------------------------------------------------
-- The counts
-- ---------------------------------------------------------------------------

/-- The flag and the count beside it. -/
def tally (l : AvdeccListenerStream) : Bool × UInt16 := (l.connected, l.connectionCount)

section Counts

variable {c : ListenerSide} {listeners listeners' : ListenerUid → AvdeccListenerStream}
  {u : ListenerUid}

theorem countsAgree_congr (h : ∀ v, tally (listeners' v) = tally (listeners v)) :
    CountsAgree listeners' ↔ CountsAgree listeners := by
  refine forall_congr' fun v => ?_
  obtain ⟨hconnected, hcount⟩ := Prod.mk.inj (h v)
  rw [hconnected, hcount]

/-- Incremented, the count is right exactly when it was zero. -/
theorem countsAgree_connect (hagree : CountsAgree listeners)
    (hother : ∀ v, v ≠ u → tally (listeners' v) = tally (listeners v))
    (hown : tally (listeners' u) = (true, (listeners u).connectionCount + 1)) :
    CountsAgree listeners' ↔ (listeners u).connected = false := by
  obtain ⟨hconnected, hcount⟩ := Prod.mk.inj hown
  have hbefore := hagree u
  constructor
  · intro h
    have hafter := h u
    rw [hconnected, hcount, if_pos rfl] at hafter
    cases hflag : (listeners u).connected with
    | false => rfl
    | true =>
      rw [hbefore, hflag, if_pos rfl] at hafter
      exact absurd hafter (by decide)
  · intro hidle v
    by_cases hv : v = u
    · subst hv
      rw [hconnected, hcount, hbefore, hidle]
      rfl
    · obtain ⟨hconnected', hcount'⟩ := Prod.mk.inj (hother v hv)
      rw [hconnected', hcount']
      exact hagree v

theorem listen_tally (c : ListenerSide) (u : ListenerUid) (streamId : StreamId)
    (destMac : MacAddr) (talkerId : EntityId) (known : Option SrpRemoteTalker) (v : ListenerUid) :
    tally ((c.listen u streamId destMac talkerId known).listeners v) = tally (c.listeners v) := by
  by_cases hv : v = u
  · subst hv
    exact ListenerSide.listen_same _ _ _ _ _ tally fun _ _ _ => rfl
  · rw [(c.listen_other streamId destMac talkerId known hv).1]

/-- A record put in place and listened for. -/
theorem countsAgree_listen (hagree : CountsAgree c.listeners) {l : AvdeccListenerStream}
    (hl : tally l = (true, (c.listeners u).connectionCount + 1)) (streamId : StreamId)
    (destMac : MacAddr) (talkerId : EntityId) (known : Option SrpRemoteTalker) :
    CountsAgree ((c.setListener u l).listen u streamId destMac talkerId known).listeners ↔
      (c.listeners u).connected = false := by
  refine countsAgree_connect hagree (fun v hv => ?_) ?_
  · rw [listen_tally, ListenerSide.setListener_other _ hv]
  · rw [listen_tally, ListenerSide.setListener_self]
    exact hl

theorem countsAgree_disconnect (hagree : CountsAgree c.listeners) (u : ListenerUid) :
    CountsAgree (c.disconnect u).listeners := by
  intro v
  rw [ListenerSide.disconnect, ListenerSide.stopWaiting, ListenerSide.setPending_listeners]
  by_cases hv : v = u
  · subst hv
    have hbefore := hagree v
    rw [ListenerSide.setListener_self]
    dsimp only
    rw [hbefore]
    cases (c.listeners v).connected <;> rfl
  · rw [ListenerSide.setListener_other _ hv]
    exact hagree v

theorem complete_tally (c : ListenerSide) (i : ListenerUid) (t : SrpRemoteTalker)
    (v : ListenerUid) : tally ((c.complete i t).listeners v) = tally (c.listeners v) := by
  unfold ListenerSide.complete
  dsimp only
  split
  · generalize (c.pending i).uid = u
    rw [ListenerSide.setPending_listeners]
    by_cases hv : v = u
    · subst hv
      rw [ListenerSide.learn_same _ _ tally fun _ _ _ => rfl, ListenerSide.setListener_self]
      rfl
    · rw [ListenerSide.learn_other _ _ hv, ListenerSide.setListener_other _ hv]
  · rfl

theorem countsAgree_apply_iff (hagree : CountsAgree c.listeners) (op : ListenerOp) :
    CountsAgree (c.apply op).listeners ↔ Idle c op := by
  cases op with
  | connect u talkerId talkerUid streamId destMac known => exact countsAgree_listen hagree rfl ..
  | resolve u r => exact iff_of_true hagree trivial
  | answer i success streamId destMac vlanId known =>
    cases success with
    | false => exact iff_of_true hagree trivial
    | true => exact countsAgree_listen hagree rfl ..
  | timeOut i => exact iff_of_true hagree trivial
  | disconnect u => exact iff_of_true (countsAgree_disconnect hagree u) trivial
  | advertise t =>
    refine iff_of_true ((countsAgree_congr fun v => ?_).mpr hagree) trivial
    exact (complete_tally ..).trans (complete_tally ..)

theorem counted_iff {fw : Firmware} {step : LoopStep} (hagree : CountsAgree fw.avdecc.listeners) :
    Counted fw step ↔ ConnectsIdle fw step := by
  show CountsAgree (mainLoop.step fw step).listenerSide.listeners ↔ _
  rw [mainLoop_refines_listenerSide.step, ConnectsIdle]
  have hagree' : CountsAgree fw.listenerSide.listeners := hagree
  have hshape := listenerOps_shape fw step
  generalize listenerOps fw step = ops at hshape
  cases hshape with
  | one op hsound =>
    rw [List.forall_mem_singleton]
    exact countsAgree_apply_iff hagree' op
  | events hevents =>
    have hidle {c : ListenerSide} {op : ListenerOp} (hevent : op.IsEvent) : Idle c op := by
      cases op with
      | advertise | timeOut => trivial
      | _ => cases hevent
    refine iff_of_true ?_ fun op hop => hidle (hevents op hop)
    generalize fw.listenerSide = c at hagree'
    induction ops generalizing c with
    | nil => exact hagree'
    | cons op rest ih =>
      obtain ⟨hop, hrest⟩ := List.forall_mem_cons.mp hevents
      exact ih hrest _ ((countsAgree_apply_iff hagree' op).mpr (hidle hop))

end Counts

-- ---------------------------------------------------------------------------
-- The responses
-- ---------------------------------------------------------------------------

section Responses

variable {fw : Firmware} {step : LoopStep}

/-- A step that refuses a connect does nothing else. -/
theorem refused_alone {op : ListenerOp} {i : ListenerUid} (hop : op ∈ listenerOps fw step)
    (hi : refused op = some i) : ∀ op' ∈ listenerOps fw step, (refused op').isSome := by
  cases step with
  | dispatchRx slot len r =>
    cases hcall : acmpCall fw (.dispatchRx slot len r) with
    | none =>
      rw [listenerOps_noCall hcall op hop] at hi
      cases hi
    | some call =>
      obtain ⟨h, pdu⟩ := call
      rw [listenerOps_acmp hcall] at hop ⊢
      by_cases hresponse : h = .connectTxResponse
      · subst hresponse
        unfold acmpListenerOps at hop ⊢
        dsimp only at hop ⊢
        split at hop
        · cases hop
        · rw [List.forall_mem_singleton, ← List.mem_singleton.mp hop, hi]
          rfl
      · rw [acmpListenerOps_other hresponse op hop] at hi
        cases hi
  | avdeccPoll r =>
    intro op' hop'
    obtain ⟨_, rfl, -⟩ := mem_pollOps.mp hop'
    rfl
  | _ => cases hop

theorem refused_kept {op : ListenerOp} {i : ListenerUid} (hop : op ∈ listenerOps fw step)
    (hi : refused op = some i) :
    (mainLoop.step fw step).avdecc.listeners = fw.avdecc.listeners := by
  have hside := congrArg ListenerSide.listeners (mainLoop_refines_listenerSide.step fw step)
  have halone := refused_alone hop hi
  refine hside.trans ?_
  rw [← Firmware.listenerSide_listeners]
  clear hside hop
  generalize fw.listenerSide = c
  generalize listenerOps fw step = ops at halone
  induction ops generalizing c with
  | nil => rfl
  | cons op rest ih =>
    obtain ⟨hop, hrest⟩ := List.forall_mem_cons.mp halone
    refine (ih _ hrest).trans ?_
    show (c.apply op).listeners = c.listeners
    cases op with
    | answer i success =>
      cases success with
      | true => cases hop
      | false => rfl
    | timeOut i => rfl
    | _ => cases hop

theorem Tells.consistent {listeners : ListenerUid → AvdeccListenerStream} {f : WireFrame}
    (h : Tells listeners f) (hagree : CountsAgree listeners) {r : Report}
    (hr : reportOf f = some r) : r.Consistent (listeners r.uid) := by
  obtain ⟨hcount, htalker⟩ := h r hr
  rw [Report.Consistent, hcount, hagree r.uid]
  by_cases hconnected : (listeners r.uid).connected
  · rw [if_pos hconnected, if_pos ⟨hconnected, (htalker hconnected).symm⟩]
  · rw [if_neg hconnected, if_neg fun h => hconnected h.1]

/-- A refusal reports the right count if the listener has no other talker. -/
theorem deferred_consistent_iff {listeners : ListenerUid → AvdeccListenerStream}
    (hagree : CountsAgree listeners) (r : AvdeccResolve) :
    (deferred listeners r).Consistent (listeners r.listenerUid) ↔
      ((listeners r.listenerUid).connected →
        (listeners r.listenerUid).talkerId = r.talkerId) := by
  show (listeners r.listenerUid).connectionCount =
    (if (listeners r.listenerUid).connected ∧
      (listeners r.listenerUid).talkerId = r.talkerId then 1 else 0) ↔ _
  rw [hagree r.listenerUid]
  by_cases hconnected : (listeners r.listenerUid).connected
  · by_cases hsame : (listeners r.listenerUid).talkerId = r.talkerId
    · simp [hconnected, hsame]
    · simp [hconnected, hsame]
  · simp [hconnected]

theorem accounted_iff (hagree : CountsAgree fw.avdecc.listeners) :
    Accounted fw step ↔ ConnectsIdle fw step ∧ RefusesSame fw step := by
  rw [Accounted, ← counted_iff hagree]
  refine and_congr_right fun hcounted => ?_
  have hreports := step_reports fw step
  constructor
  · intro h op hop i hi
    obtain ⟨f, hf, hreport⟩ := hreports.refusals op hop i hi
    have hconsistent := (deferred_consistent_iff hcounted _).mp (h f hf _ hreport)
    rwa [refused_kept hop hi] at hconsistent
  · intro h f hf r hr
    rcases hreports.told f hf with htells | ⟨op, hop, i, hi, hreport⟩
    · exact htells.consistent hcounted hr
    · obtain rfl := Option.some.inj (hreport.symm.trans hr)
      refine (deferred_consistent_iff hcounted _).mpr ?_
      rw [refused_kept hop hi]
      exact h op hop i hi

end Responses

-- ---------------------------------------------------------------------------
-- The runs
-- ---------------------------------------------------------------------------

theorem countsAgree_boot : CountsAgree boot.avdecc.listeners := fun _ => rfl

/-- The counts agree with the flags throughout a run if and only if no
connected listener is connected again; the responses agree with them too if
and only if besides no connect is refused for another talker than the one
its listener is connected to. -/
theorem connectionCounts_run_iff (run : List LoopStep) :
    (mainLoop.Steps Counted run ↔ mainLoop.Steps ConnectsIdle run) ∧
      (mainLoop.Steps Accounted run ↔
        mainLoop.Steps (fun fw step => ConnectsIdle fw step ∧ RefusesSame fw step) run) := by
  constructor
  · exact Machine.steps_congr (fun fw : Firmware => CountsAgree fw.avdecc.listeners) countsAgree_boot
      (fun _ _ _ h => h) (fun _ _ h => counted_iff h) run
  · exact Machine.steps_congr (fun fw : Firmware => CountsAgree fw.avdecc.listeners) countsAgree_boot
      (fun _ _ _ h => h.1) (fun _ _ h => accounted_iff h) run

/-- A controller connects the CRF listener by the fast path. -/
def fastCommand : LoopStep :=
  receiveAcmp
    { msgType := acmpMsgConnectRxCommand
      streamId := eightBytes 0x00 0x1B 0x21 0x00 0x00 0x0A 0x00 0x01
      controllerId := zeroBytes 8
      talkerId := eightBytes 0x00 0x1B 0x21 0xFF 0xFE 0x00 0x00 0x0A
      listenerId := boot.avdecc.entityId
      talkerUid := 0
      listenerUid := 0
      streamDestMac := sixBytes 0x91 0xE0 0xF0 0x00 0xFE 0x0A
      seqId := 7 }

def fastConnectOp : ListenerOp :=
  .connect listenerUidCrf (eightBytes 0x00 0x1B 0x21 0xFF 0xFE 0x00 0x00 0x0A) 0
    (eightBytes 0x00 0x1B 0x21 0x00 0x00 0x0A 0x00 0x01)
    (sixBytes 0x91 0xE0 0xF0 0x00 0xFE 0x0A) none

/-- The command comes twice, and the one connection is counted twice. -/
theorem retransmitted_counts_two : ¬ mainLoop.Steps Accounted [fastCommand, fastCommand] := by
  intro h
  have hrun : (mainLoop.run [fastCommand, fastCommand]).listenerSide =
      listenerMachine.run [fastConnectOp, fastConnectOp] :=
    mainLoop_run_listenerSide (by decide +kernel)
  have hcounted : CountsAgree (mainLoop.run [fastCommand, fastCommand]).listenerSide.listeners :=
    h.2.1.1
  rw [hrun] at hcounted
  have htwo : ((listenerMachine.run [fastConnectOp, fastConnectOp]).listeners
      listenerUidCrf).connectionCount ≠ if ((listenerMachine.run [fastConnectOp,
        fastConnectOp]).listeners listenerUidCrf).connected then 1 else 0 := by
    decide +kernel
  exact htwo (hcounted listenerUidCrf)

end AvbAes3.ConnectionCounts
