import AvbAes3.MsrpPdu

/-!
# What is in the MSRP PDUs sent

The walk over a received MRPDU, applied to a PDU of our own, comes to one
vector for each attribute put into it, in order, with its header, its
FirstValue and its events. What a declaration says is therefore stated in
the terms a receiver reads it in.
-/

namespace AvbAes3

/-- An attribute as `msrp_emit_*` puts it into the PDU. -/
structure MsrpAttribute where
  attrType : UInt8
  firstValue : List UInt8
  packed : List UInt8

namespace MsrpAttribute

def message (a : MsrpAttribute) (leaveAll : Bool) : List UInt8 :=
  msrpMessage a.attrType a.firstValue.length.toUInt8 leaveAll a.firstValue a.packed

/-- One value has one byte of events, a Listener's another. -/
structure WellFormed (a : MsrpAttribute) : Prop where
  attrType : a.attrType ≠ 0
  firstValue : a.firstValue.length < 256
  packed : a.packed.length = if a.attrType = msrpAttrListener then 2 else 1

/-- The vector the walk comes to. -/
structure Read (a : MsrpAttribute) (leaveAll : Bool) (v : MsrpVector) : Prop where
  attrType : v.attrType = a.attrType
  attrLen : v.attrLen = a.firstValue.length.toUInt8
  vecHdr : v.vecHdr = vectorHeader leaveAll
  value : v.value.Holds 0 (a.firstValue ++ a.packed)

end MsrpAttribute

-- ---------------------------------------------------------------------------
-- Messages
-- ---------------------------------------------------------------------------

theorem vectorHeader_ne_zero (leaveAll : Bool) : vectorHeader leaveAll ≠ 0 := by
  revert leaveAll
  decide

theorem vectorHeader_numValues (leaveAll : Bool) : (vectorHeader leaveAll &&& 0x1FFF).toNat = 1 := by
  revert leaveAll
  decide

/-- One vector to a message. -/
def MsrpAttribute.raw (a : MsrpAttribute) (leaveAll : Bool) : RawMessage :=
  ⟨a.attrType, a.firstValue.length.toUInt8, [⟨vectorHeader leaveAll, a.firstValue, a.packed⟩]⟩

theorem raw_bytes (a : MsrpAttribute) (leaveAll : Bool) :
    (a.raw leaveAll).bytes = a.message leaveAll := by
  simp only [RawMessage.bytes, MsrpAttribute.raw, vectorList, List.flatMap_singleton,
    RawVector.bytes, MsrpAttribute.message, msrpMessage, List.append_assoc]

theorem raw_wellFormed {a : MsrpAttribute} (h : a.WellFormed) (leaveAll : Bool) :
    (a.raw leaveAll).WellFormed where
  attrType := h.attrType
  fits := by
    intro v hv
    rw [List.mem_singleton.mp hv]
    refine ⟨vectorHeader_ne_zero leaveAll, (UInt8.toNat_ofNat_of_lt' h.firstValue).symm, ?_⟩
    show a.packed.length = ((vectorHeader leaveAll &&& 0x1FFF).toNat + 2) / 3 +
      if a.attrType = msrpAttrListener then ((vectorHeader leaveAll &&& 0x1FFF).toNat + 3) / 4 else 0
    rw [vectorHeader_numValues, h.packed]
    by_cases hlistener : a.attrType = msrpAttrListener
    · rw [if_pos hlistener, if_pos hlistener]
    · rw [if_neg hlistener, if_neg hlistener]
  short := by
    have hfirst := h.firstValue
    have hpacked := h.packed
    rw [MsrpAttribute.raw, vectorList_cons, List.length_append, RawVector.length_bytes]
    have hmark : (vectorList []).length = 2 := rfl
    dsimp only
    split at hpacked <;> omega

-- ---------------------------------------------------------------------------
-- The whole PDU
-- ---------------------------------------------------------------------------

def messageList (attributes : List MsrpAttribute) (leaveAll : Bool) : List UInt8 :=
  attributes.flatMap fun a => a.message leaveAll

theorem messageList_eq (attributes : List MsrpAttribute) (leaveAll : Bool) :
    messageList attributes leaveAll = messageBytes (attributes.map fun a => a.raw leaveAll) := by
  rw [messageList, messageBytes, List.flatMap_map]
  exact List.flatMap_congr fun a _ => (raw_bytes a leaveAll).symm

/-- The walk over a PDU built from well-formed attributes comes to them all. -/
theorem msrpVectors_all {attributes : List MsrpAttribute} (h : ∀ a ∈ attributes, a.WellFormed)
    {srcMac : MacAddr} {leaveAll : Bool} {pad : List UInt8} {frame : Buffer}
    (hframe : frame.Holds 0
      (msrpFrameBegin srcMac ++ messageList attributes leaveAll ++ be16 0 ++ pad)) :
    List.Forall₂ (MsrpAttribute.Read · leaveAll) attributes (msrpVectors frame
      (msrpFrameBegin srcMac ++ messageList attributes leaveAll ++ be16 0 ++ pad).length) := by
  have hwellFormed : ∀ m ∈ attributes.map fun a => a.raw leaveAll, m.WellFormed := by
    intro m hm
    obtain ⟨a, ha, rfl⟩ := List.mem_map.mp hm
    exact raw_wellFormed (h a ha) leaveAll
  rw [messageList_eq, List.append_assoc, List.append_assoc] at hframe ⊢
  have hread := msrpVectors_read hwellFormed (.inr ⟨pad, rfl⟩) hframe
  have hentries : (attributes.map fun a => a.raw leaveAll).flatMap RawMessage.entries =
      attributes.map fun a => ⟨a.attrType, a.firstValue.length.toUInt8,
        ⟨vectorHeader leaveAll, a.firstValue, a.packed⟩⟩ := by
    rw [List.flatMap_map, List.map_eq_flatMap]
    rfl
  rw [hentries, List.forall₂_map_left_iff] at hread
  exact hread.imp fun a v hr => ⟨hr.attrType, hr.attrLen, hr.vecHdr, hr.value⟩

-- ---------------------------------------------------------------------------
-- Our declarations
-- ---------------------------------------------------------------------------

def Srp.domainAttribute (s : Srp) : MsrpAttribute where
  attrType := msrpAttrDomain
  firstValue := [s.domain.1, s.domain.2.1] ++ be16 s.domain.2.2
  packed := [mrp3Pack (newEvent s.domainNewCount) 0 0]

def Srp.talkerAttribute (s : Srp) : MsrpAttribute where
  attrType := msrpAttrTalkerAdv
  firstValue := talkerFirstValue { s.talker with
    priorityAndRank := priorityAndRankOf s.domain.2.1
    vlanId := s.domain.2.2 }
  packed := [mrp3Pack (newEvent s.talkerNewCount) 0 0]

def Srp.listenerAttribute (s : Srp) : MsrpAttribute where
  attrType := msrpAttrListener
  firstValue := s.listenerStreamId.toList
  packed := [mrp3Pack (newEvent s.listenerNewCount) 0 0, mrp4Pack s.listenerSubstate.code 0 0 0]

/-- What `srp_send_declarations` declares, in the order sent. -/
def Srp.attributes (s : Srp) : List MsrpAttribute :=
  [s.domainAttribute] ++ (if s.talkerEnabled then [s.talkerAttribute] else []) ++
    if s.listenerEnabled then [s.listenerAttribute] else []

theorem talkerFirstValue_length (t : SrpTalkerAttr) : (talkerFirstValue t).length = 25 := by
  simp [talkerFirstValue, be16, be32]

theorem domainAttribute_wellFormed (s : Srp) : s.domainAttribute.WellFormed where
  attrType := show msrpAttrDomain ≠ 0 by decide
  firstValue := show 4 < 256 by decide
  packed := rfl

theorem talkerAttribute_wellFormed (s : Srp) : s.talkerAttribute.WellFormed where
  attrType := show msrpAttrTalkerAdv ≠ 0 by decide
  firstValue := by
    rw [Srp.talkerAttribute, talkerFirstValue_length]
    decide
  packed := rfl

theorem listenerAttribute_wellFormed (s : Srp) : s.listenerAttribute.WellFormed where
  attrType := show msrpAttrListener ≠ 0 by decide
  firstValue := by
    rw [Srp.listenerAttribute, Vector.length_toList]
    decide
  packed := rfl

theorem attributes_wellFormed (s : Srp) : ∀ a ∈ s.attributes, a.WellFormed := by
  intro a ha
  rcases List.mem_append.mp ha with ha | ha
  · rcases List.mem_append.mp ha with ha | ha
    · rw [List.mem_singleton.mp ha]
      exact domainAttribute_wellFormed s
    · split at ha
      · rw [List.mem_singleton.mp ha]
        exact talkerAttribute_wellFormed s
      · cases ha
  · split at ha
    · rw [List.mem_singleton.mp ha]
      exact listenerAttribute_wellFormed s
    · cases ha

theorem messageList_append (first second : List MsrpAttribute) (leaveAll : Bool) :
    messageList (first ++ second) leaveAll =
      messageList first leaveAll ++ messageList second leaveAll := List.flatMap_append

theorem sendTalker_message (s : Srp) (leaveAll : Bool) :
    (sendTalker s leaveAll).2 =
      messageList (if s.talkerEnabled then [s.talkerAttribute] else []) leaveAll := by
  unfold sendTalker
  split
  · rw [messageList, List.flatMap_singleton, MsrpAttribute.message, Srp.talkerAttribute,
      talkerFirstValue_length]
    rfl
  · rfl

theorem sendListener_message (s : Srp) (leaveAll : Bool) :
    (sendListener s leaveAll).2 =
      messageList (if s.listenerEnabled then [s.listenerAttribute] else []) leaveAll := by
  unfold sendListener
  split
  · rw [messageList, List.flatMap_singleton, MsrpAttribute.message, Srp.listenerAttribute,
      Vector.length_toList]
    rfl
  · rfl

theorem srpSendDeclarations_frame (s : Srp) (leaveAll : Bool) :
    (srpSendDeclarations s leaveAll).2 =
      padTo64 (msrpFrameBegin s.srcMac ++ messageList s.attributes leaveAll ++ be16 0) := by
  have hkept : (sendTalker (sendDomain s leaveAll).1 leaveAll).1.listenerEnabled = s.listenerEnabled ∧
      (sendTalker (sendDomain s leaveAll).1 leaveAll).1.listenerAttribute = s.listenerAttribute ∧
        (sendListener (sendTalker (sendDomain s leaveAll).1 leaveAll).1 leaveAll).1.srcMac =
          s.srcMac := by
    unfold sendTalker sendListener
    dsimp only
    split <;> split <;> exact ⟨rfl, rfl, rfl⟩
  have hdomain : (sendDomain s leaveAll).2 = messageList [s.domainAttribute] leaveAll := rfl
  rw [Srp.attributes, messageList_append, messageList_append, ← hdomain]
  unfold srpSendDeclarations
  dsimp only
  have htalker : (sendDomain s leaveAll).1.talkerEnabled = s.talkerEnabled ∧
      (sendDomain s leaveAll).1.talkerAttribute = s.talkerAttribute := ⟨rfl, rfl⟩
  rw [sendTalker_message, sendListener_message, hkept.1, hkept.2.1, hkept.2.2, htalker.1,
    htalker.2]
  simp only [List.append_assoc]

/-- A receiver reads in the PDU exactly what is declared. -/
theorem msrpVectors_declared (s : Srp) (leaveAll : Bool) :
    List.Forall₂ (MsrpAttribute.Read · leaveAll) s.attributes
      (msrpVectors (Buffer.ofList (srpSendDeclarations s leaveAll).2)
        (srpSendDeclarations s leaveAll).2.length) := by
  rw [srpSendDeclarations_frame]
  exact msrpVectors_all (attributes_wellFormed s) (Buffer.holds_ofList _)

theorem sendDeclarations_isMsrp (s : Srp) (leaveAll : Bool) :
    isMsrpPdu (Buffer.ofList (srpSendDeclarations s leaveAll).2)
      (srpSendDeclarations s leaveAll).2.length := by
  rw [srpSendDeclarations_frame, padTo64, List.append_assoc, List.append_assoc]
  refine isMsrpPdu_holds (fun hnil => ?_) (Buffer.holds_ofList _)
  cases (List.append_eq_nil_iff.mp (List.append_eq_nil_iff.mp hnil).2).1

/-- The ethertype behind two addresses. -/
theorem getBe16_ethertype (dst src : MacAddr) (ethertype : UInt16) (rest : List UInt8) :
    getBe16 ((Buffer.ofList (dst.toList ++ (src.toList ++ (be16 ethertype ++ rest)))).offset 12) =
      ethertype := by
  have h := Buffer.holds_ofList (dst.toList ++ (src.toList ++ (be16 ethertype ++ rest)))
  rw [Buffer.holds_append, Buffer.holds_append, Buffer.holds_append, Vector.length_toList,
    Vector.length_toList] at h
  exact getBe16_holds h.2.2.1

/-- The other frame `srp_poll` sends is no MSRP PDU. -/
theorem mvrp_not_msrp (s : Srp) (vid : UInt16) (event : UInt8) (len : Nat) :
    isMsrpPdu (Buffer.ofList (mvrpSendJoinVid s vid event)) len = false := by
  have htype : getBe16 ((Buffer.ofList (mvrpSendJoinVid s vid event)).offset 12) =
      mvrpEthertype := by
    simp only [mvrpSendJoinVid, padTo64, List.append_assoc]
    exact getBe16_ethertype ..
  have hne : (mvrpEthertype == msrpEthertype) = false := by decide
  rw [isMsrpPdu, htype, hne, Bool.and_false, Bool.false_and]

theorem forall₂_exists {R : α → β → Prop} {as : List α} {bs : List β} (h : List.Forall₂ R as bs)
    {a : α} (ha : a ∈ as) : ∃ b ∈ bs, R a b := by
  induction h with
  | nil => cases ha
  | @cons _ b _ _ hr _ ih =>
    rcases List.mem_cons.mp ha with rfl | ha
    · exact ⟨b, List.mem_cons_self, hr⟩
    · obtain ⟨b, hb, hab⟩ := ih ha
      exact ⟨b, List.mem_cons_of_mem _ hb, hab⟩

end AvbAes3
