import AvbAes3.AecpLeaks
import AvbAes3.MainLoop

/-!
# What a received AVDECC frame reveals

Two runs of `avdecc_process_rx` on frames that agree as far as they were
received, over different contents of the transmit slots. ACMP frames are
read and built as a whole, so the runs cannot be told apart. An AECP
response is padded to 64 bytes with what the slot held, and the echo of an
unknown command is as long as it claims to be, so they cannot be told apart
exactly where neither happens.
-/

namespace AvbAes3

open AecpResponses

-- ---------------------------------------------------------------------------
-- The slots
-- ---------------------------------------------------------------------------

def Firmware.withSlots (fw : Firmware) (slots : Slot → Buffer) : Firmware :=
  { fw with mac := { fw.mac with slots := slots } }

/-- The same state and the same frames sent, but for the slots' memory. -/
def SameButSlots (fw fw' : Firmware) : Prop := ∃ slots, fw' = fw.withSlots slots

namespace SameButSlots

variable {fw fw' : Firmware}

theorem refl (fw : Firmware) : SameButSlots fw fw := ⟨fw.mac.slots, rfl⟩

theorem withSlots (fw : Firmware) (slots : Slot → Buffer) : SameButSlots fw (fw.withSlots slots) :=
  ⟨slots, rfl⟩

theorem symm (h : SameButSlots fw fw') : SameButSlots fw' fw := by
  obtain ⟨slots, rfl⟩ := h
  exact ⟨fw.mac.slots, rfl⟩

theorem trans {fw'' : Firmware} (h : SameButSlots fw fw') (h' : SameButSlots fw' fw'') :
    SameButSlots fw fw'' := by
  obtain ⟨slots, rfl⟩ := h
  obtain ⟨slots', rfl⟩ := h'
  exact ⟨slots', rfl⟩

theorem avdecc (h : SameButSlots fw fw') : fw'.avdecc = fw.avdecc := by
  obtain ⟨slots, rfl⟩ := h
  rfl

theorem sent (h : SameButSlots fw fw') : fw'.sent = fw.sent := by
  obtain ⟨slots, rfl⟩ := h
  rfl

/-- What does not look at the slots takes both to the same. -/
theorem map {f : Firmware → Firmware} (h : SameButSlots fw fw')
    (hf : ∀ fw slots, f (fw.withSlots slots) = (f fw).withSlots slots) :
    SameButSlots (f fw) (f fw') := by
  obtain ⟨slots, rfl⟩ := h
  exact ⟨slots, hf fw slots⟩

theorem setAvdecc (h : SameButSlots fw fw') (s : Avdecc) :
    SameButSlots { fw with avdecc := s } { fw' with avdecc := s } :=
  h.map (f := fun fw => { fw with avdecc := s }) fun _ _ => rfl

/-- A frame that is written as a whole. -/
theorem sendBytes (h : SameButSlots fw fw') (p : Producer) (bytes : List UInt8) :
    SameButSlots (fw.sendBytes p bytes) (fw'.sendBytes p bytes) := by
  obtain ⟨slots, rfl⟩ := h
  refine ⟨((fw.withSlots slots).sendBytes p bytes).mac.slots, ?_⟩
  unfold Firmware.sendBytes Firmware.sendSlot EthMac.send
  simp only [Buffer.take_copy]
  rfl

theorem sendAll (h : SameButSlots fw fw') (p : Producer) (frames : List (List UInt8)) :
    SameButSlots (fw.sendAll p frames) (fw'.sendAll p frames) := by
  induction frames generalizing fw fw' with
  | nil => exact h
  | cons bytes rest ih => exact ih (h.sendBytes p bytes)

theorem putAvdecc (h : SameButSlots fw fw') (r : Avdecc × List (List UInt8)) :
    SameButSlots (fw.putAvdecc r) (fw'.putAvdecc r) :=
  (h.setAvdecc r.1).sendAll .avdecc r.2

theorem respond (h : SameButSlots fw fw') (msgType status : UInt8) (pdu : Buffer) :
    SameButSlots (fw.respond msgType status pdu) (fw'.respond msgType status pdu) := by
  rw [Firmware.respond, Firmware.respond, h.avdecc]
  exact h.putAvdecc _

end SameButSlots

-- ---------------------------------------------------------------------------
-- ACMP
-- ---------------------------------------------------------------------------

section Callbacks

variable (fw : Firmware) (slots : Slot → Buffer)

theorem onTalkerConnect_withSlots (uid : TalkerUid) (r : Readings) :
    onTalkerConnect (fw.withSlots slots) uid r = (onTalkerConnect fw uid r).withSlots slots := by
  unfold onTalkerConnect
  split <;> rfl

theorem onTalkerDisconnect_withSlots (uid : TalkerUid) (r : Readings) :
    onTalkerDisconnect (fw.withSlots slots) uid r =
      (onTalkerDisconnect fw uid r).withSlots slots := by
  unfold onTalkerDisconnect
  split <;> rfl

theorem learnStream_withSlots (uid : ListenerUid) (streamId : StreamId) :
    learnStream (fw.withSlots slots) uid streamId =
      (learnStream fw uid streamId).withSlots slots := by
  have hsrp : (fw.withSlots slots).srp = fw.srp := rfl
  unfold learnStream
  rw [hsrp]
  cases srpFindTalker fw.srp streamId <;> rfl

theorem bindEngine_withSlots (uid : ListenerUid) (streamId : StreamId) (destMac : MacAddr) :
    bindEngine (fw.withSlots slots) uid streamId destMac =
      (bindEngine fw uid streamId destMac).withSlots slots := by
  unfold bindEngine
  split <;> rfl

theorem onListenerConnect_withSlots (uid : ListenerUid) (streamId : StreamId) (destMac : MacAddr)
    (talkerEntityId : EntityId) (nowMs : UInt32) :
    onListenerConnect (fw.withSlots slots) uid streamId destMac talkerEntityId nowMs =
      (onListenerConnect fw uid streamId destMac talkerEntityId nowMs).withSlots slots := by
  unfold onListenerConnect
  split
  · rfl
  · dsimp only
    have hlearn := learnStream_withSlots
      (fw.setPending uid { fw.pendingListeners uid with active := false }) slots uid streamId
    generalize learnStream (fw.setPending uid _) uid streamId = learned at hlearn ⊢
    refine Eq.trans (congrArg (fun fw => bindEngine (fw.listenerEnable streamId true nowMs) uid
      streamId destMac) hlearn) ?_
    exact bindEngine_withSlots (learned.listenerEnable streamId true nowMs) slots uid streamId
      destMac

theorem unbindEngine_withSlots (uid : ListenerUid) (nowMs : UInt32) :
    unbindEngine (fw.withSlots slots) uid nowMs = (unbindEngine fw uid nowMs).withSlots slots := by
  have hmcr : (fw.withSlots slots).mcr = fw.mcr := rfl
  have haaf : (fw.withSlots slots).aaf = fw.aaf := rfl
  unfold unbindEngine
  dsimp only
  rw [hmcr, haaf]
  split
  · split <;> rfl
  · split <;> rfl

theorem onListenerDisconnect_withSlots (uid : ListenerUid) (nowMs : UInt32) :
    onListenerDisconnect (fw.withSlots slots) uid nowMs =
      (onListenerDisconnect fw uid nowMs).withSlots slots :=
  unbindEngine_withSlots (fw.setPending uid { fw.pendingListeners uid with active := false }) slots
    uid nowMs

end Callbacks

section Handlers

variable {fw fw' : Firmware} (h : SameButSlots fw fw') (pdu : Buffer)

include h

theorem onListenerConnect_same (uid : ListenerUid) (streamId : StreamId) (destMac : MacAddr)
    (talkerEntityId : EntityId) (nowMs : UInt32) :
    SameButSlots (onListenerConnect fw uid streamId destMac talkerEntityId nowMs)
      (onListenerConnect fw' uid streamId destMac talkerEntityId nowMs) := by
  obtain ⟨slots, rfl⟩ := h
  exact ⟨slots, onListenerConnect_withSlots ..⟩

theorem acmpHandleConnectTx_same (r : Readings) :
    SameButSlots (acmpHandleConnectTx fw pdu r) (acmpHandleConnectTx fw' pdu r) := by
  obtain ⟨slots, rfl⟩ := h
  unfold acmpHandleConnectTx
  split
  · exact (SameButSlots.withSlots fw slots).respond ..
  · exact SameButSlots.respond ⟨slots, onTalkerConnect_withSlots ..⟩ ..

theorem acmpHandleDisconnectTx_same (r : Readings) :
    SameButSlots (acmpHandleDisconnectTx fw pdu r) (acmpHandleDisconnectTx fw' pdu r) := by
  obtain ⟨slots, rfl⟩ := h
  unfold acmpHandleDisconnectTx
  refine SameButSlots.respond ?_ ..
  split
  · exact .withSlots fw slots
  · rename_i uid _
    exact ⟨slots, onTalkerDisconnect_withSlots { fw with avdecc := _ } slots uid r⟩

theorem connectResolved_same (resolve : AvdeccResolve) (nowMs : UInt32) :
    SameButSlots (connectResolved fw resolve pdu nowMs) (connectResolved fw' resolve pdu nowMs) := by
  unfold connectResolved
  rw [h.avdecc]
  have hconnect (s : Avdecc) := onListenerConnect_same (h.setAvdecc s) resolve.listenerUid
    (pduStreamId pdu) (pduStreamDestMac pdu) resolve.talkerId nowMs
  dsimp only
  rw [(hconnect _).avdecc]
  exact (hconnect _).putAvdecc _

theorem acmpHandleConnectTxResponse_same (nowMs : UInt32) :
    SameButSlots (acmpHandleConnectTxResponse fw pdu nowMs)
      (acmpHandleConnectTxResponse fw' pdu nowMs) := by
  unfold acmpHandleConnectTxResponse
  rw [h.avdecc]
  split
  · exact h
  · dsimp only
    have hconnect (resolve : AvdeccResolve) : SameButSlots
        (if pduStatus pdu = acmpStatusSuccess then connectResolved fw resolve pdu nowMs else fw)
        (if pduStatus pdu = acmpStatusSuccess then connectResolved fw' resolve pdu nowMs
          else fw') := by
      split
      · exact connectResolved_same h pdu resolve nowMs
      · exact h
    rw [(hconnect _).avdecc]
    have hsent := (hconnect (fw.avdecc.resolves ‹_›)).putAvdecc
    rw [(hsent _).avdecc]
    exact (hsent _).setAvdecc _

theorem slowConnect_same (u : ListenerUid) (nowMs : UInt32) :
    SameButSlots (slowConnect fw u pdu nowMs) (slowConnect fw' u pdu nowMs) := by
  unfold slowConnect
  rw [h.avdecc]
  exact (h.setAvdecc _).putAvdecc _

theorem fastConnect_same (u : ListenerUid) (nowMs : UInt32) :
    SameButSlots (fastConnect fw u pdu nowMs) (fastConnect fw' u pdu nowMs) := by
  unfold fastConnect
  rw [h.avdecc]
  have hconnect (s : Avdecc) := onListenerConnect_same (h.setAvdecc s) u (pduStreamId pdu)
    (pduStreamDestMac pdu) (pduTalkerId pdu) nowMs
  dsimp only
  rw [(hconnect _).avdecc]
  exact ((hconnect _).putAvdecc _).respond ..

theorem acmpHandleConnectRx_same (nowMs : UInt32) :
    SameButSlots (acmpHandleConnectRx fw pdu nowMs) (acmpHandleConnectRx fw' pdu nowMs) := by
  unfold acmpHandleConnectRx
  split
  · exact h.respond ..
  split
  · exact slowConnect_same h pdu _ nowMs
  split
  · exact h.respond ..
  · exact fastConnect_same h pdu _ nowMs

theorem acmpHandleDisconnectRx_same (nowMs : UInt32) :
    SameButSlots (acmpHandleDisconnectRx fw pdu nowMs) (acmpHandleDisconnectRx fw' pdu nowMs) := by
  obtain ⟨slots, rfl⟩ := h
  unfold acmpHandleDisconnectRx
  refine SameButSlots.respond ?_ ..
  split
  · exact .withSlots fw slots
  · rename_i u _
    dsimp only
    have hdisconnect (s : Avdecc) : SameButSlots
        (onListenerDisconnect { fw with avdecc := s } u nowMs)
        (onListenerDisconnect { fw.withSlots slots with avdecc := s } u nowMs) :=
      ⟨slots, onListenerDisconnect_withSlots { fw with avdecc := s } slots u nowMs⟩
    rw [(hdisconnect _).avdecc]
    exact (hdisconnect _).putAvdecc _

theorem acmpHandle_same (r : Readings) (handler : AcmpHandler) :
    SameButSlots (acmpHandle fw pdu r handler) (acmpHandle fw' pdu r handler) := by
  cases handler with
  | connectTx => exact acmpHandleConnectTx_same h pdu r
  | connectTxResponse => exact acmpHandleConnectTxResponse_same h pdu r.nowMs
  | disconnectTx => exact acmpHandleDisconnectTx_same h pdu r
  | getTxState => exact h.respond ..
  | connectRx => exact acmpHandleConnectRx_same h pdu r.nowMs
  | disconnectRx => exact acmpHandleDisconnectRx_same h pdu r.nowMs
  | getRxState => exact h.respond ..

end Handlers

-- ---------------------------------------------------------------------------
-- The ACMPDU
-- ---------------------------------------------------------------------------

/-- PDUs that agree as far as an ACMPDU goes. -/
def SamePdu (pdu pdu' : Buffer) : Prop := ∀ i < acmpduLen, pdu' i = pdu i

namespace SamePdu

variable {pdu pdu' : Buffer} (h : SamePdu pdu pdu')

include h

theorem id {off : Nat} (hoff : off + 8 ≤ 56) :
    (pdu'.offset off).bytes 8 = (pdu.offset off).bytes 8 :=
  Buffer.bytes_congr fun i hi => h (off + i) (by unfold acmpduLen; omega)

theorem field {off : Nat} (hoff : off + 2 ≤ 56) :
    getBe16 (pdu'.offset off) = getBe16 (pdu.offset off) :=
  getBe16_congr fun i hi => h (off + i) (by unfold acmpduLen; omega)

theorem streamId : pduStreamId pdu' = pduStreamId pdu := h.id (by decide)
theorem controllerId : pduControllerId pdu' = pduControllerId pdu := h.id (by decide)
theorem talkerId : pduTalkerId pdu' = pduTalkerId pdu := h.id (by decide)
theorem listenerId : pduListenerId pdu' = pduListenerId pdu := h.id (by decide)
theorem talkerUid : pduTalkerUid pdu' = pduTalkerUid pdu := h.field (by decide)
theorem listenerUid : pduListenerUid pdu' = pduListenerUid pdu := h.field (by decide)
theorem seqId : pduSeqId pdu' = pduSeqId pdu := h.field (by decide)
theorem vlanId : pduVlanId pdu' = pduVlanId pdu := h.field (by decide)

theorem status : pduStatus pdu' = pduStatus pdu := by
  rw [pduStatus, pduStatus, h 2 (by decide)]

theorem destMac : pduStreamDestMac pdu' = pduStreamDestMac pdu :=
  Buffer.bytes_congr fun i hi => h _ (by unfold acmpOffStreamDestMac acmpduLen; omega)

theorem copy (at_ : Nat) (bytes : List UInt8) :
    SamePdu (pdu.copy at_ bytes) (pdu'.copy at_ bytes) := by
  intro i hi
  rw [Buffer.copy, Buffer.copy, h i hi]

theorem fillTalkerResponse (s : Avdecc) (msgType : UInt8) :
    SamePdu (fillTalkerResponse s msgType pdu) (fillTalkerResponse s msgType pdu') := by
  have huid : getBe16 (pdu'.offset acmpOffTalkerUid) = getBe16 (pdu.offset acmpOffTalkerUid) :=
    h.talkerUid
  unfold AvbAes3.fillTalkerResponse
  rw [huid]
  split
  · exact h
  · exact ((h.copy _ _).copy _ _).copy _ _

theorem fillListenerResponse (s : Avdecc) :
    SamePdu (fillListenerResponse s pdu) (fillListenerResponse s pdu') := by
  have huid : getBe16 (pdu'.offset acmpOffListenerUid) = getBe16 (pdu.offset acmpOffListenerUid) :=
    h.listenerUid
  unfold AvbAes3.fillListenerResponse
  rw [huid]
  split
  · exact h
  · dsimp only
    split
    · exact ((((((h.copy _ _).copy _ _).copy _ _).copy _ _).copy _ _).copy _ _).copy _ _
    · exact h.copy _ _

theorem respond (fw : Firmware) (msgType status : UInt8) :
    fw.respond msgType status pdu' = fw.respond msgType status pdu := by
  have hite {p : Prop} [Decidable p] {a a' b b' : Buffer} (ha : SamePdu a a') (hb : SamePdu b b') :
      SamePdu (if p then a else b) (if p then a' else b') := by
    split
    · exact ha
    · exact hb
  have hheader := (h.copy 0 [avtpSubtypeAcmp, msgType &&& 0x0F]).copy 2
    (be16 (statusCdl status acmpControlDataLen))
  have htalker (p : Prop) [Decidable p] :=
    hite (p := p) (hheader.fillTalkerResponse fw.avdecc msgType) hheader
  have hfilled (p q : Prop) [Decidable p] [Decidable q] :=
    hite (p := q) ((htalker p).fillListenerResponse fw.avdecc) (htalker p)
  unfold Firmware.respond acmpSendResponse
  dsimp only
  rw [Buffer.take_congr (hfilled _ _)]

theorem slowPath : isSlowPath pdu' = isSlowPath pdu := by
  rw [isSlowPath, isSlowPath, h.streamId, h.destMac, h.talkerId]

theorem acmpHandler (s : Avdecc) : acmpHandler s pdu' = acmpHandler s pdu := by
  unfold AvbAes3.acmpHandler
  rw [h 1 (by decide), h.talkerId, h.listenerId]

theorem acmpHandle (fw : Firmware) (r : Readings) (handler : AcmpHandler) :
    acmpHandle fw pdu' r handler = acmpHandle fw pdu r handler := by
  cases handler with
  | connectTx =>
    simp only [AvbAes3.acmpHandle, acmpHandleConnectTx, h.talkerUid, h.listenerId, h.listenerUid,
      h.respond]
  | connectTxResponse =>
    simp only [AvbAes3.acmpHandle, acmpHandleConnectTxResponse, answeredResolve, connectResolved,
      h.listenerId, h.seqId, h.status, h.streamId, h.destMac, h.vlanId]
  | disconnectTx => simp only [AvbAes3.acmpHandle, acmpHandleDisconnectTx, h.talkerUid, h.respond]
  | getTxState => exact h.respond ..
  | connectRx =>
    simp only [AvbAes3.acmpHandle, acmpHandleConnectRx, slowConnect, newResolve, fastConnect,
      h.slowPath, h.listenerUid, h.controllerId, h.seqId, h.talkerId, h.talkerUid, h.streamId,
      h.destMac, h.respond]
  | disconnectRx =>
    simp only [AvbAes3.acmpHandle, acmpHandleDisconnectRx, h.listenerUid, h.respond]
  | getRxState => exact h.respond ..

end SamePdu

-- ---------------------------------------------------------------------------
-- The AECPDU
-- ---------------------------------------------------------------------------

def Firmware.aecpCommand (fw : Firmware) (frame : Buffer) (len : Nat) : AecpCommand :=
  ⟨frame, len - 14, fw.mac.buf .avdecc, fw.gptp, fw.srp⟩

/-- What the module takes over of an outcome. -/
def Firmware.putOutcome (fw : Firmware) (o : AecpOutcome) : Firmware :=
  match o.sent with
  | some length => { fw with avdecc := o.state }.sendSlot .avdecc o.slot length
  | none => { fw with avdecc := o.state, mac := fw.mac.fill .avdecc o.slot }

theorem aecp_eq (fw : Firmware) (frame : Buffer) (len : Nat) :
    fw.aecp frame len = fw.putOutcome (aecpHandle fw.avdecc (fw.aecpCommand frame len)) := rfl

theorem putOutcome_avdecc (fw : Firmware) (o : AecpOutcome) :
    (fw.putOutcome o).avdecc = o.state := by
  unfold Firmware.putOutcome
  cases o.sent <;> rfl

theorem putOutcome_sent (fw : Firmware) (o : AecpOutcome) :
    (fw.putOutcome o).sent =
      fw.sent ++ (o.sent.map fun n => (⟨.firmware .avdecc, o.slot.take n⟩ : WireFrame)).toList := by
  unfold Firmware.putOutcome
  cases o.sent with
  | none => exact (List.append_nil _).symm
  | some n => rfl

theorem take_eq_take_iff {b b' : Buffer} {n n' : Nat} :
    b'.take n' = b.take n ↔ n' = n ∧ ∀ i < n, b' i = b i := by
  constructor
  · intro h
    have hlength := congrArg List.length h
    rw [Buffer.length_take, Buffer.length_take] at hlength
    refine ⟨hlength, fun i hi => ?_⟩
    subst hlength
    simpa [Buffer.take, hi] using congrArg (·[i]?) h
  · rintro ⟨rfl, h⟩
    exact Buffer.take_congr h

/-- The outcomes are told apart by what is sent and by the state. -/
theorem putOutcome_same_iff (fw : Firmware) (slots : Slot → Buffer) (o o' : AecpOutcome) :
    SameButSlots (fw.putOutcome o) ((fw.withSlots slots).putOutcome o') ↔
      AecpLeaks.SameOutcome o o' := by
  constructor
  · intro h
    have hstate := h.avdecc
    have hsent := h.sent
    rw [putOutcome_avdecc, putOutcome_avdecc] at hstate
    rw [putOutcome_sent, putOutcome_sent] at hsent
    replace hsent := List.append_cancel_left hsent
    cases ho : o.sent with
    | none =>
      cases ho' : o'.sent with
      | none => exact ⟨hstate, ho'.trans ho.symm, fun n hn => by rw [ho] at hn; cases hn⟩
      | some n' =>
        rw [ho, ho'] at hsent
        cases hsent
    | some n =>
      cases ho' : o'.sent with
      | none =>
        rw [ho, ho'] at hsent
        cases hsent
      | some n' =>
        rw [ho, ho'] at hsent
        have htake : o'.slot.take n' = o.slot.take n :=
          congrArg WireFrame.bytes (List.singleton_injective hsent)
        obtain ⟨rfl, hbytes⟩ := take_eq_take_iff.mp htake
        refine ⟨hstate, ho'.trans ho.symm, fun n hn i hi => hbytes i ?_⟩
        rw [ho] at hn
        exact Option.some.inj hn ▸ hi
  · rintro ⟨hstate, hsent, hbytes⟩
    unfold Firmware.putOutcome
    rw [hstate, hsent]
    cases ho : o.sent with
    | none => exact ⟨((fw.withSlots slots).mac.fill .avdecc o'.slot).slots, rfl⟩
    | some n =>
      dsimp only
      unfold Firmware.sendSlot EthMac.send
      dsimp only
      rw [take_eq_take_iff.mpr ⟨rfl, hbytes n ho⟩]
      exact ⟨((fw.withSlots slots).mac.fill .avdecc o'.slot).slots, rfl⟩

-- ---------------------------------------------------------------------------
-- Received frames
-- ---------------------------------------------------------------------------

/-- Whatever is behind the received bytes and in the transmit slots, the same
is sent and the state becomes the same. -/
def RevealsNothing (fw : Firmware) (frame : Buffer) (len : Nat) (r : Readings) : Prop :=
  ∀ frame' slots, (∀ i < len, frame' i = frame i) →
    SameButSlots (avdeccProcessRx fw frame len r)
      (avdeccProcessRx (fw.withSlots slots) frame' len r)

theorem acmp_revealsNothing (fw : Firmware) {frame : Buffer} {len : Nat} (r : Readings)
    (hsubtype : frame 14 = avtpSubtypeAcmp) : RevealsNothing fw frame len r := by
  intro frame' slots hframe
  unfold avdeccProcessRx
  dsimp only
  by_cases hshort : len < 14 + 4
  · rw [if_pos hshort, if_pos hshort]
    exact .withSlots fw slots
  rw [if_neg hshort, if_neg hshort, hframe 14 (by omega), if_pos hsubtype, if_pos hsubtype]
  have hacmp : isAcmp frame' len = isAcmp frame len := by
    rw [isAcmp, isAcmp, hframe 14 (by omega)]
  rw [hacmp]
  split
  · rename_i hlong
    have hlen : 14 + acmpduLen ≤ len := by
      rw [isAcmp, Bool.and_eq_true] at hlong
      exact of_decide_eq_true hlong.1
    have hpdu : SamePdu (frame.offset 14) (frame'.offset 14) := fun i hi =>
      hframe (14 + i) (by omega)
    have havdecc : (fw.withSlots slots).avdecc = fw.avdecc := rfl
    rw [havdecc, hpdu.acmpHandler]
    have hcounted := (SameButSlots.withSlots fw slots).setAvdecc
      { fw.avdecc with acmpRxCount := fw.avdecc.acmpRxCount + 1 }
    cases acmpHandler { fw.avdecc with acmpRxCount := fw.avdecc.acmpRxCount + 1 }
        (frame.offset 14) with
    | none => exact hcounted
    | some handler =>
      dsimp only
      rw [hpdu.acmpHandle]
      exact acmpHandle_same hcounted (frame.offset 14) r handler
  · exact .withSlots fw slots

theorem aecp_revealsNothing_iff (fw : Firmware) {frame : Buffer} {len : Nat} (r : Readings)
    (hlen : 18 ≤ len) (hsubtype : frame 14 = avtpSubtypeAecp) :
    RevealsNothing fw frame len r ↔
      AecpLeaks.LeaksNothing fw.avdecc (fw.aecpCommand frame len) := by
  have hpduLen : 14 + (fw.aecpCommand frame len).pduLen = len := by
    show 14 + (len - 14) = len
    omega
  have hrx (fw : Firmware) {frame' : Buffer} (hframe : frame' 14 = frame 14) :
      avdeccProcessRx fw frame' len r =
        fw.putOutcome (aecpHandle fw.avdecc (fw.aecpCommand frame' len)) := by
    rw [← aecp_eq, avdeccProcessRx]
    dsimp only
    rw [if_neg (by omega), hframe, hsubtype, if_neg (by decide), if_pos rfl]
  constructor
  · intro h frame' slot hframe
    have hframe' : ∀ i < len, frame' i = frame i := fun i hi =>
      hframe i (by rw [hpduLen]; exact hi)
    have hsame := h frame' (fun _ => slot) hframe'
    rw [hrx fw rfl, hrx (fw.withSlots _) (hframe' 14 (by omega))] at hsame
    exact (putOutcome_same_iff ..).mp hsame
  · intro h frame' slots hframe
    rw [hrx fw rfl, hrx (fw.withSlots _) (hframe 14 (by omega))]
    exact (putOutcome_same_iff ..).mpr
      (h frame' ((fw.withSlots slots).mac.buf .avdecc) fun i hi =>
        hframe i (by rw [hpduLen] at hi; exact hi))

/-- Nothing older shows exactly where the frame is not an AECP command that
is padded, echoed too far or cut. -/
theorem avdeccProcessRx_revealsNothing_iff (fw : Firmware) (frame : Buffer) (len : Nat)
    (r : Readings) :
    RevealsNothing fw frame len r ↔ (18 ≤ len → frame 14 = avtpSubtypeAecp →
      AecpLeaks.Contained fw.avdecc (fw.aecpCommand frame len)) := by
  by_cases hlen : 18 ≤ len
  · rw [forall_prop_of_true hlen]
    by_cases haecp : frame 14 = avtpSubtypeAecp
    · rw [forall_prop_of_true haecp, aecp_revealsNothing_iff fw r hlen haecp]
      refine AecpLeaks.leaksNothing_iff_contained ?_
      show 4 ≤ len - 14
      omega
    refine iff_of_true ?_ fun h => absurd h haecp
    by_cases hacmp : frame 14 = avtpSubtypeAcmp
    · exact acmp_revealsNothing fw r hacmp
    intro frame' slots hframe
    unfold avdeccProcessRx
    dsimp only
    rw [hframe 14 (by omega), if_neg (by omega), if_neg hacmp, if_neg haecp, if_neg (by omega),
      if_neg hacmp, if_neg haecp]
    exact .withSlots fw slots
  · refine iff_of_true (fun frame' slots _ => ?_) fun h => absurd h hlen
    unfold avdeccProcessRx
    rw [if_pos (by omega), if_pos (by omega)]
    exact .withSlots fw slots

-- ---------------------------------------------------------------------------
-- REGISTER_UNSOLICITED_NOTIFICATION
-- ---------------------------------------------------------------------------

/-- REGISTER_UNSOLICITED_NOTIFICATION for the entity of a board that has just
started, in a frame of 60 bytes. -/
def registerFrame : Buffer :=
  Buffer.ofList (zeros 14 ++ [avtpSubtypeAecp, aecpMsgAemCommand, 0, 20] ++
    boot.avdecc.entityId.toList ++ zeros 10 ++ be16 aemCmdRegisterUnsolicited)

/-- The response is 52 bytes and 64 are sent: the last 12 are an older
frame's. -/
theorem registerFrame_reveals : ¬ RevealsNothing boot registerFrame 60 {} := by
  intro h
  have hsame := h registerFrame (fun _ _ => 0xFF) fun _ _ => rfl
  have hlast : (avdeccProcessRx (boot.withSlots fun _ _ => 0xFF) registerFrame 60 {}).sent.map
        (fun frame => frame.bytes.getD 63 0) ≠
      (avdeccProcessRx boot registerFrame 60 {}).sent.map fun frame => frame.bytes.getD 63 0 := by
    decide +kernel
  exact hlast (congrArg (List.map fun frame => frame.bytes.getD 63 0) hsame.sent)

end AvbAes3
