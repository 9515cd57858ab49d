import AvbAes3.Firmware
import AvbAes3.Mrpdu

/-!
# From one endpoint's declarations to another's registrar

What `srp_send_declarations` puts into a PDU, an endpoint of the same make
takes out of it again: each declaration once, in the order sent, and nothing
behind the EndMark, whether the frame is padded or not.
-/

namespace AvbAes3.MsrpRoundTrip

/-- A declaration, with what its receiver is to learn of it. -/
inductive Declaration
  | domain (srClass srPrio : UInt8) (srVid : UInt16)
  | talkerAdvertise (t : SrpTalkerAttr)
  | listener

/-- What the endpoint declares. The talker's attribute is the one the call
leaves, in the class and VLAN declared with it. -/
def declared (a : Srp) (leaveAll : Bool) : List Declaration :=
  [.domain a.domain.1 a.domain.2.1 a.domain.2.2] ++
    (if a.talkerEnabled then [.talkerAdvertise (srpSendDeclarations a leaveAll).1.talker] else []) ++
      if a.listenerEnabled then [.listener] else []

/-- The frame as it is before it is padded. -/
def unpadded (a : Srp) (leaveAll : Bool) : List UInt8 :=
  msrpFrameBegin a.srcMac ++ messageList a.attributes leaveAll ++ be16 0

def frameOf (a : Srp) (leaveAll padded : Bool) : List UInt8 :=
  if padded then (srpSendDeclarations a leaveAll).2 else unpadded a leaveAll

-- ---------------------------------------------------------------------------
-- What the receiver does
-- ---------------------------------------------------------------------------

/-- The registrar's entry of a talker's attribute. -/
def entryOf (t : SrpTalkerAttr) (nowMs : UInt32) : SrpRemoteTalker where
  valid := true
  streamId := t.streamId
  destMac := t.destAddr
  vlanId := t.vlanId
  maxFrameSize := t.maxFrameSize
  maxIntervalFrames := t.maxIntervalFrames
  priorityAndRank := t.priorityAndRank
  accumulatedLatencyNs := t.accumulatedLatencyNs
  lastSeenMs := nowMs

def upsert (talkers : RemoteTalkers) (t : SrpRemoteTalker) : RemoteTalkers :=
  Function.update talkers
    (upsertSlot talkers t.streamId (List.finRange srpMaxRemoteTalkers)
      { oldest := ⟨0, Nat.zero_lt_succ _⟩ }) t

/-- The listener's registration, if the stream is the one it wants. -/
def register (s : Srp) (streamId : StreamId) (nowMs : UInt32) : Srp :=
  if s.listenerEnabled ∧ streamId = s.listenerStreamId then
    { s with
      rxMatchCount := s.rxMatchCount + 1
      talkerRegistered := true
      talkerLastSeenMs := nowMs
      listenerSubstate := .ready }
  else s

/-- One declaration taken in; a talker's is upserted, called back and
matched. -/
def takeIn (nowMs : UInt32) (b : Firmware) : Declaration → Firmware
  | .domain srClass srPrio srVid =>
    { b with srp := { b.srp with
      rxDomainCount := b.srp.rxDomainCount + 1
      domainReceived := true
      rxSrClass := srClass
      rxSrPrio := srPrio
      rxSrVid := srVid } }
  | .talkerAdvertise t =>
    let b := { b with srp := { b.srp with
      rxTalkerAdvCount := b.srp.rxTalkerAdvCount + 1
      remoteTalkers := upsert b.srp.remoteTalkers (entryOf t nowMs) } }
    let b := onTalkerAdvertise b t.streamId t.destAddr nowMs
    { b with srp := register b.srp t.streamId nowMs }
  | .listener => { b with srp := { b.srp with rxListenerCount := b.srp.rxListenerCount + 1 } }

def counted (b : Firmware) : Firmware :=
  { b with srp := { b.srp with rxPduCount := b.srp.rxPduCount + 1 } }

-- ---------------------------------------------------------------------------
-- One vector
-- ---------------------------------------------------------------------------

section Vector

variable {a : Srp} {leaveAll : Bool} {v : MsrpVector} (nowMs : UInt32) (b : Firmware)

theorem not_isDomain (h : v.attrType ≠ msrpAttrDomain) : isDomain v = false := by
  rw [isDomain, beq_false_of_ne h, Bool.false_and]

theorem not_isTalkerAdvertise (h : v.attrType ≠ msrpAttrTalkerAdv) :
    isTalkerAdvertise v = false := by
  rw [isTalkerAdvertise, beq_false_of_ne h, Bool.false_and]

theorem noteVector_domain (s : Srp) (htype : v.attrType = msrpAttrDomain) (hdomain : isDomain v) :
    noteVector s v = { s with
      rxDomainCount := s.rxDomainCount + 1
      domainReceived := true
      rxSrClass := v.value 0
      rxSrPrio := v.value 1
      rxSrVid := getBe16 (v.value.offset 2) } := by
  have hadvertise := not_isTalkerAdvertise (v := v) (by rw [htype]; decide)
  unfold noteVector
  rw [hdomain, hadvertise, htype]
  rfl

theorem noteVector_listener (s : Srp) (htype : v.attrType = msrpAttrListener) :
    noteVector s v = { s with rxListenerCount := s.rxListenerCount + 1 } := by
  have hdomain := not_isDomain (v := v) (by rw [htype]; decide)
  have hadvertise := not_isTalkerAdvertise (v := v) (by rw [htype]; decide)
  unfold noteVector
  rw [hdomain, hadvertise, htype]
  rfl

theorem noteVector_talker (s : Srp) (htype : v.attrType = msrpAttrTalkerAdv)
    (hadvertise : isTalkerAdvertise v) :
    noteVector s v = { s with rxTalkerAdvCount := s.rxTalkerAdvCount + 1 } := by
  have hdomain := not_isDomain (v := v) (by rw [htype]; decide)
  unfold noteVector
  rw [hdomain, hadvertise, htype]
  rfl

theorem srpVector_other (h : v.attrType ≠ msrpAttrTalkerAdv) :
    srpVector nowMs b v = { b with srp := noteVector b.srp v } := by
  unfold srpVector
  rw [not_isTalkerAdvertise h]
  rfl

theorem read_domain (h : a.domainAttribute.Read leaveAll v) :
    srpVector nowMs b v = takeIn nowMs b (.domain a.domain.1 a.domain.2.1 a.domain.2.2) := by
  have htype : v.attrType = msrpAttrDomain := h.attrType
  have hlen : v.attrLen = 4 := h.attrLen
  have hvalue := (Buffer.holds_append.mp h.value).1
  obtain ⟨hfirst, hvid⟩ := Buffer.holds_append.mp hvalue
  have hclass : v.value 0 = a.domain.1 := hfirst 0 Nat.two_pos
  have hprio : v.value 1 = a.domain.2.1 := hfirst 1 Nat.one_lt_two
  have hvid' : getBe16 (v.value.offset 2) = a.domain.2.2 := getBe16_holds hvid
  have hdomain : isDomain v := by
    rw [isDomain, htype, hlen]
    decide
  rw [srpVector_other nowMs b (by rw [htype]; decide), noteVector_domain b.srp htype hdomain,
    hclass, hprio, hvid']
  rfl

theorem read_listener (h : a.listenerAttribute.Read leaveAll v) :
    srpVector nowMs b v = takeIn nowMs b .listener := by
  have htype : v.attrType = msrpAttrListener := h.attrType
  rw [srpVector_other nowMs b (by rw [htype]; decide), noteVector_listener b.srp htype]
  rfl

/-- The fields of a TalkerAdvertise value, read back. -/
theorem talkerValue_read {value : Buffer} {t : SrpTalkerAttr}
    (h : value.Holds 0 (talkerFirstValue t)) :
    value.bytes 8 = t.streamId ∧ (value.offset 8).bytes 6 = t.destAddr ∧
      remoteTalkerOf value nowMs = entryOf t nowMs := by
  simp only [talkerFirstValue, Buffer.holds_append, List.length_append, Vector.length_toList, be16,
    be32, List.length_cons, List.length_nil] at h
  obtain ⟨⟨⟨⟨⟨⟨hstreamId, hdestAddr⟩, hvlanId⟩, hframeSize⟩, hintervalFrames⟩, hprio⟩, hlatency⟩ := h
  have hstreamId' : value.bytes 8 = t.streamId := hstreamId.bytes
  have hdestAddr : (value.offset 8).Holds 0 t.destAddr.toList := Buffer.holds_offset.mpr hdestAddr
  have hvlanId' : getBe16 (value.offset 14) = t.vlanId := getBe16_holds hvlanId
  have hframeSize' : getBe16 (value.offset 16) = t.maxFrameSize := getBe16_holds hframeSize
  have hintervalFrames' : getBe16 (value.offset 18) = t.maxIntervalFrames :=
    getBe16_holds hintervalFrames
  have hprio' : value 20 = t.priorityAndRank := hprio 0 Nat.one_pos
  have hlatency' : getBe32 (value.offset 21) = t.accumulatedLatencyNs := hlatency.getBe32
  refine ⟨hstreamId', hdestAddr.bytes, ?_⟩
  rw [remoteTalkerOf, hstreamId', hdestAddr.bytes, hvlanId', hframeSize', hintervalFrames', hprio',
    hlatency']
  rfl

theorem read_talker {t : SrpTalkerAttr} (htype : v.attrType = msrpAttrTalkerAdv)
    (hlen : v.attrLen = 25) (h : v.value.Holds 0 (talkerFirstValue t)) :
    srpVector nowMs b v = takeIn nowMs b (.talkerAdvertise t) := by
  obtain ⟨hstreamId, hdestAddr, hentry⟩ := talkerValue_read nowMs h
  have hadvertise : isTalkerAdvertise v := by
    rw [isTalkerAdvertise, htype, hlen]
    decide
  have hupsert (s : Srp) : upsertTalker s v.value nowMs =
      { s with remoteTalkers := upsert s.remoteTalkers (entryOf t nowMs) } := by
    rw [upsertTalker, hentry, hstreamId]
    rfl
  have hmatch (s : Srp) : matchListener s v.value nowMs = register s t.streamId nowMs := by
    rw [matchListener, hstreamId, register]
  rw [srpVector, noteVector_talker b.srp htype hadvertise, if_pos hadvertise, talkerAdvertised,
    hupsert, hstreamId, hdestAddr, hmatch]
  rfl

end Vector

-- ---------------------------------------------------------------------------
-- The whole PDU
-- ---------------------------------------------------------------------------

theorem sent_talker (a : Srp) (leaveAll : Bool) (h : a.talkerEnabled) :
    (srpSendDeclarations a leaveAll).1.talker = { a.talker with
      priorityAndRank := priorityAndRankOf a.domain.2.1
      vlanId := a.domain.2.2 } := by
  have hlistener (s : Srp) : (sendListener s leaveAll).1.talker = s.talker := by
    unfold sendListener
    split <;> rfl
  have htalker (s : Srp) (hs : s.talkerEnabled) : (sendTalker s leaveAll).1.talker = { s.talker with
      priorityAndRank := priorityAndRankOf s.domain.2.1
      vlanId := s.domain.2.2 } := by
    rw [sendTalker, if_pos hs]
  exact (hlistener _).trans (htalker (sendDomain a leaveAll).1 h)

theorem frameOf_eq (a : Srp) (leaveAll padded : Bool) :
    ∃ pad, frameOf a leaveAll padded = unpadded a leaveAll ++ pad := by
  cases padded with
  | true => exact ⟨_, srpSendDeclarations_frame a leaveAll⟩
  | false => exact ⟨[], (List.append_nil _).symm⟩

/-- Vector by vector, what is read is what is declared. -/
theorem foldl_declared (a : Srp) (leaveAll : Bool) (nowMs : UInt32) (b : Firmware)
    {vectors : List MsrpVector}
    (h : List.Forall₂ (MsrpAttribute.Read · leaveAll) a.attributes vectors) :
    vectors.foldl (srpVector nowMs) b = (declared a leaveAll).foldl (takeIn nowMs) b := by
  have htalker (ht : a.talkerEnabled) (b : Firmware) (v : MsrpVector)
      (hr : a.talkerAttribute.Read leaveAll v) :
      srpVector nowMs b v =
        takeIn nowMs b (.talkerAdvertise (srpSendDeclarations a leaveAll).1.talker) := by
    have hlen : v.attrLen = 25 := by
      rw [hr.attrLen, Srp.talkerAttribute, talkerFirstValue_length]
      rfl
    rw [sent_talker a leaveAll ht]
    exact read_talker nowMs b hr.attrType hlen (Buffer.holds_append.mp hr.value).1
  unfold Srp.attributes at h
  unfold declared
  cases ht : a.talkerEnabled <;> cases hl : a.listenerEnabled <;>
    simp only [ht, hl, if_true, Bool.false_eq_true, if_false, List.append_nil, List.nil_append,
      List.cons_append] at h ⊢
  · obtain ⟨v, rfl⟩ := List.length_eq_one_iff.mp h.length_eq.symm
    rw [List.forall₂_cons] at h
    simp only [List.foldl_cons, List.foldl_nil, read_domain nowMs b h.1]
  · obtain ⟨v, w, rfl⟩ := List.length_eq_two.mp h.length_eq.symm
    rw [List.forall₂_cons, List.forall₂_cons] at h
    simp only [List.foldl_cons, List.foldl_nil, read_domain nowMs b h.1, read_listener nowMs _ h.2.1]
  · obtain ⟨v, w, rfl⟩ := List.length_eq_two.mp h.length_eq.symm
    rw [List.forall₂_cons, List.forall₂_cons] at h
    simp only [List.foldl_cons, List.foldl_nil, read_domain nowMs b h.1, htalker ht _ w h.2.1]
  · obtain ⟨u, v, w, rfl⟩ := List.length_eq_three.mp h.length_eq.symm
    rw [List.forall₂_cons, List.forall₂_cons, List.forall₂_cons] at h
    simp only [List.foldl_cons, List.foldl_nil, read_domain nowMs b h.1, htalker ht _ v h.2.1,
      read_listener nowMs _ h.2.2.1]

/-- The walk over the frame of one endpoint's declarations, padded or not, in
whatever memory, comes to its attributes and ends, and another endpoint takes
in each of them once. -/
theorem srpProcessRx_declared (a : Srp) (b : Firmware) (leaveAll padded : Bool) (memory : Buffer)
    (nowMs : UInt32) :
    let bytes := frameOf a leaveAll padded
    List.Forall₂ (MsrpAttribute.Read · leaveAll) a.attributes
        (msrpVectors (memory.copy 0 bytes) bytes.length) ∧
      srpProcessRx b (memory.copy 0 bytes) bytes.length nowMs =
        (declared a leaveAll).foldl (takeIn nowMs) (counted b) := by
  intro bytes
  have hholds : (memory.copy 0 bytes).Holds 0 bytes := Buffer.holds_copy memory bytes
  obtain ⟨pad, hbytes⟩ : ∃ pad, bytes = unpadded a leaveAll ++ pad := frameOf_eq a leaveAll padded
  generalize memory.copy 0 bytes = frame at hholds ⊢
  rw [hbytes, unpadded] at hholds ⊢
  have hread := msrpVectors_all (attributes_wellFormed a) hholds
  refine ⟨hread, ?_⟩
  rw [List.append_assoc, List.append_assoc] at hholds hread ⊢
  have hmsrp := isMsrpPdu_holds (fun hnil => by simp [be16] at hnil) hholds
  rw [srpProcessRx, if_pos hmsrp, foldl_declared a leaveAll nowMs _ hread]
  rfl

end AvbAes3.MsrpRoundTrip
