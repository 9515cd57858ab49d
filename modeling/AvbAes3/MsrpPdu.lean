import AvbAes3.Srp
import AvbAes3.Lib.Mrp

/-!
# MSRPDUs

A PDU as the bytes of its messages, and what `srp_process_rx`'s walk over
them comes to: one vector for each there is, with its header, its FirstValue
and its events. A `MsrpPdu` is one as the standard has it, in terms of
attribute types, events and values.
-/

namespace AvbAes3

-- ---------------------------------------------------------------------------
-- Bytes
-- ---------------------------------------------------------------------------

theorem getBe16_holds {b : Buffer} {at_ : Nat} {v : UInt16} (h : b.Holds at_ (be16 v)) :
    getBe16 (b.offset at_) = v :=
  getBe16_eq (h 0 Nat.two_pos) (h 1 Nat.one_lt_two)

/-- A vector as it is sent. -/
structure RawVector where
  vecHdr : UInt16
  firstValue : List UInt8
  packed : List UInt8

namespace RawVector

def bytes (v : RawVector) : List UInt8 := be16 v.vecHdr ++ (v.firstValue ++ v.packed)

/-- The lengths are those that the walk computes. -/
structure Fits (attrType attrLen : UInt8) (v : RawVector) : Prop where
  vecHdr : v.vecHdr ≠ 0
  firstValue : v.firstValue.length = attrLen.toNat
  packed : v.packed.length = ((v.vecHdr &&& 0x1FFF).toNat + 2) / 3 +
    if attrType = msrpAttrListener then ((v.vecHdr &&& 0x1FFF).toNat + 3) / 4 else 0

/-- The vector the walk comes to. -/
structure Read (attrType attrLen : UInt8) (raw : RawVector) (v : MsrpVector) : Prop where
  attrType : v.attrType = attrType
  attrLen : v.attrLen = attrLen
  vecHdr : v.vecHdr = raw.vecHdr
  value : v.value.Holds 0 (raw.firstValue ++ raw.packed)

theorem length_bytes (v : RawVector) :
    v.bytes.length = 2 + (v.firstValue.length + v.packed.length) := by
  simp only [bytes, be16, List.length_append, List.length_cons, List.length_nil]

end RawVector

/-- The AttributeList of a message. -/
def vectorList (vectors : List RawVector) : List UInt8 :=
  vectors.flatMap RawVector.bytes ++ be16 0

theorem vectorList_cons (v : RawVector) (rest : List RawVector) :
    vectorList (v :: rest) = v.bytes ++ vectorList rest := by
  rw [vectorList, List.flatMap_cons, List.append_assoc]
  rfl

theorem length_le_vectorList (vectors : List RawVector) :
    2 * vectors.length + 2 ≤ (vectorList vectors).length := by
  induction vectors with
  | nil => simp [vectorList, be16]
  | cons v rest ih =>
    rw [vectorList_cons, List.length_append, RawVector.length_bytes, List.length_cons]
    omega

section Walk

variable {pdu : Buffer} {attrType attrLen : UInt8}

theorem messageVectors_endMark {attrEnd fuel at_ : Nat}
    (hzero : getBe16 (pdu.offset at_) = 0) :
    messageVectors attrType attrLen pdu attrEnd fuel at_ = [] := by
  cases fuel with
  | zero => rfl
  | succ fuel =>
    rw [messageVectors]
    split
    · exact if_pos hzero
    · rfl

theorem messageVectors_step {attrEnd fuel at_ : Nat}
    (hheader : at_ + 2 ≤ attrEnd) (hne : getBe16 (pdu.offset at_) ≠ 0)
    (hvalue : at_ + 2 + attrLen.toNat ≤ attrEnd) :
    messageVectors attrType attrLen pdu attrEnd (fuel + 1) at_ =
      ⟨attrType, attrLen, getBe16 (pdu.offset at_), pdu.offset (at_ + 2)⟩ ::
        messageVectors attrType attrLen pdu attrEnd fuel (at_ + 2 + MsrpVector.length
          ⟨attrType, attrLen, getBe16 (pdu.offset at_), pdu.offset (at_ + 2)⟩) := by
  rw [messageVectors, if_pos hheader]
  dsimp only
  rw [if_neg hne, if_neg (by omega)]

/-- The walk comes to the vectors of a list, one after the other. -/
theorem messageVectors_read {vectors : List RawVector}
    (h : ∀ v ∈ vectors, v.Fits attrType attrLen) {attrEnd fuel at_ : Nat}
    (hlist : pdu.Holds at_ (vectorList vectors))
    (hend : attrEnd = at_ + (vectorList vectors).length) (hfuel : vectors.length ≤ fuel) :
    List.Forall₂ (RawVector.Read attrType attrLen) vectors
      (messageVectors attrType attrLen pdu attrEnd fuel at_) := by
  induction vectors generalizing fuel at_ with
  | nil =>
    rw [messageVectors_endMark (getBe16_holds hlist)]
    exact .nil
  | cons v rest ih =>
    obtain ⟨hfits, hrest⟩ := List.forall_mem_cons.mp h
    obtain ⟨turns, rfl⟩ : ∃ turns, fuel = turns + 1 :=
      ⟨fuel - 1, by rw [List.length_cons] at hfuel; omega⟩
    rw [vectorList_cons, Buffer.holds_append] at hlist
    obtain ⟨hv, hmore⟩ := hlist
    rw [RawVector.bytes, Buffer.holds_append] at hv
    obtain ⟨hheader, hvalue⟩ := hv
    have hvecHdr : getBe16 (pdu.offset at_) = v.vecHdr := getBe16_holds hheader
    have hlength : MsrpVector.length ⟨attrType, attrLen, v.vecHdr, pdu.offset (at_ + 2)⟩ =
        v.firstValue.length + v.packed.length := by
      rw [hfits.firstValue, hfits.packed, MsrpVector.length, Nat.add_assoc]
      rfl
    have hbytes := v.length_bytes
    have hfirst := hfits.firstValue
    rw [vectorList_cons, List.length_append] at hend
    rw [messageVectors_step (by omega) (hvecHdr ▸ hfits.vecHdr) (by omega), hvecHdr, hlength]
    refine .cons ⟨rfl, rfl, rfl, Buffer.holds_offset.mpr hvalue⟩ (ih hrest ?_ ?_ ?_)
    · rwa [hbytes, ← Nat.add_assoc] at hmore
    · omega
    · rw [List.length_cons] at hfuel
      omega

end Walk

-- ---------------------------------------------------------------------------
-- Messages
-- ---------------------------------------------------------------------------

structure RawMessage where
  attrType : UInt8
  attrLen : UInt8
  vectors : List RawVector

namespace RawMessage

def bytes (m : RawMessage) : List UInt8 :=
  [m.attrType, m.attrLen] ++ (be16 (vectorList m.vectors).length.toUInt16 ++ vectorList m.vectors)

structure WellFormed (m : RawMessage) : Prop where
  attrType : m.attrType ≠ 0
  fits : ∀ v ∈ m.vectors, v.Fits m.attrType m.attrLen
  short : (vectorList m.vectors).length < 65536

theorem length_bytes (m : RawMessage) :
    m.bytes.length = 4 + (vectorList m.vectors).length := by
  simp only [bytes, be16, List.length_append, List.length_cons, List.length_nil]
  omega

end RawMessage

/-- A vector of a message, beside the message's head. -/
structure RawEntry where
  attrType : UInt8
  attrLen : UInt8
  vector : RawVector

def RawEntry.Read (e : RawEntry) (v : MsrpVector) : Prop :=
  e.vector.Read e.attrType e.attrLen v

def RawMessage.entries (m : RawMessage) : List RawEntry :=
  m.vectors.map fun v => ⟨m.attrType, m.attrLen, v⟩

/-- The walk over the message list takes in a message that is there. -/
theorem messageListVectors_read {pdu : Buffer} {m : RawMessage} (h : m.WellFormed)
    {end_ fuel at_ : Nat} (hmessage : pdu.Holds at_ m.bytes) (hend : at_ + m.bytes.length ≤ end_) :
    ∃ vectors, List.Forall₂ RawEntry.Read m.entries vectors ∧
      messageListVectors pdu end_ (fuel + 1) at_ =
        vectors ++ messageListVectors pdu end_ fuel (at_ + m.bytes.length) := by
  have hlength := m.length_bytes
  have hcount := length_le_vectorList m.vectors
  rw [RawMessage.bytes, Buffer.holds_append, Buffer.holds_append] at hmessage
  obtain ⟨hhead, hlistLen, hlist⟩ := hmessage
  have hlistAt : pdu.Holds (at_ + 4) (vectorList m.vectors) := hlist
  have htype : pdu at_ = m.attrType := hhead 0 Nat.two_pos
  have hattrLen : pdu (at_ + 1) = m.attrLen := hhead 1 Nat.one_lt_two
  have hlist' : (getBe16 (pdu.offset (at_ + 2))).toNat = (vectorList m.vectors).length :=
    (congrArg UInt16.toNat (getBe16_holds hlistLen)).trans (UInt16.toNat_ofNat_of_lt' h.short)
  have hvectors : List.Forall₂ (RawVector.Read m.attrType m.attrLen) m.vectors
      (messageVectors m.attrType m.attrLen pdu (at_ + 4 + (vectorList m.vectors).length) end_
        (at_ + 4)) := messageVectors_read h.fits hlistAt rfl (by omega)
  refine ⟨_, List.forall₂_map_left_iff.mpr hvectors, ?_⟩
  rw [messageListVectors, if_pos (by omega)]
  dsimp only
  rw [htype, hattrLen, if_neg fun hzero => h.attrType hzero.1, hlist', if_neg (by omega), hlength,
    Nat.add_assoc]

/-- At the EndMark, or with no room for another message, it ends. -/
theorem messageListVectors_end {pdu : Buffer} {end_ fuel at_ : Nat}
    (h : end_ ≤ at_ ∨ pdu.Holds at_ (be16 0)) : messageListVectors pdu end_ fuel at_ = [] := by
  cases fuel with
  | zero => rfl
  | succ fuel =>
    rw [messageListVectors]
    split
    · rcases h with h | h
      · omega
      · exact if_pos ⟨h 0 Nat.two_pos, h 1 Nat.one_lt_two⟩
    · rfl

def messageBytes (messages : List RawMessage) : List UInt8 := messages.flatMap RawMessage.bytes

theorem length_le_messageBytes (messages : List RawMessage) :
    messages.length ≤ (messageBytes messages).length := by
  induction messages with
  | nil => exact Nat.zero_le _
  | cons m rest ih =>
    have := m.length_bytes
    rw [messageBytes, List.flatMap_cons, List.length_append, List.length_cons]
    have : rest.length ≤ (rest.flatMap RawMessage.bytes).length := ih
    omega

theorem messageListVectors_all {messages : List RawMessage} (h : ∀ m ∈ messages, m.WellFormed)
    {pdu : Buffer} {end_ fuel at_ : Nat} (hmessages : pdu.Holds at_ (messageBytes messages))
    (hend : at_ + (messageBytes messages).length = end_ ∨
      at_ + (messageBytes messages).length ≤ end_ ∧
        pdu.Holds (at_ + (messageBytes messages).length) (be16 0))
    (hfuel : messages.length ≤ fuel) :
    List.Forall₂ RawEntry.Read (messages.flatMap RawMessage.entries)
      (messageListVectors pdu end_ fuel at_) := by
  induction messages generalizing fuel at_ with
  | nil =>
    have hend' : end_ ≤ at_ ∨ pdu.Holds at_ (be16 0) := hend.imp (fun h => h.ge) And.right
    rw [messageListVectors_end hend']
    exact .nil
  | cons m rest ih =>
    obtain ⟨hw, hrest⟩ := List.forall_mem_cons.mp h
    obtain ⟨turns, rfl⟩ : ∃ turns, fuel = turns + 1 :=
      ⟨fuel - 1, by rw [List.length_cons] at hfuel; omega⟩
    have hsplit : messageBytes (m :: rest) = m.bytes ++ messageBytes rest := List.flatMap_cons
    rw [hsplit, Buffer.holds_append] at hmessages
    rw [hsplit, List.length_append, ← Nat.add_assoc] at hend
    have hroom : at_ + m.bytes.length ≤ end_ := by omega
    obtain ⟨vectors, hvectors, hwalk⟩ := messageListVectors_read hw hmessages.1 hroom
    rw [hwalk, List.flatMap_cons]
    refine List.rel_append hvectors (ih hrest hmessages.2 hend ?_)
    rw [List.length_cons] at hfuel
    omega

/-- What follows an MSRP frame's head is taken for a PDU. -/
theorem isMsrpPdu_holds {frame : Buffer} {srcMac : MacAddr} {rest : List UInt8} (h : rest ≠ [])
    (hframe : frame.Holds 0 (msrpFrameBegin srcMac ++ rest)) :
    isMsrpPdu frame (msrpFrameBegin srcMac ++ rest).length := by
  have hlength : 14 + 2 ≤ (msrpFrameBegin srcMac ++ rest).length := by
    have := List.length_pos_of_ne_nil h
    simp only [msrpFrameBegin, be16, List.length_append, Vector.length_toList, List.length_cons,
      List.length_nil]
    omega
  simp only [msrpFrameBegin, Buffer.holds_append, List.length_append, Vector.length_toList, be16,
    List.length_cons, List.length_nil] at hframe
  obtain ⟨⟨⟨-, hethertype⟩, hversion⟩, -⟩ := hframe
  have hethertype' : getBe16 (frame.offset 12) = msrpEthertype := getBe16_holds hethertype
  have hversion' : frame 14 = msrpProtoVersion := hversion 0 Nat.one_pos
  rw [isMsrpPdu, decide_eq_true hlength, hethertype', hversion']
  rfl

theorem msrpFrameBegin_length (srcMac : MacAddr) : (msrpFrameBegin srcMac).length = 15 := by
  simp [msrpFrameBegin, be16]

/-- The walk over a PDU comes to all its vectors, whether an EndMark and
padding or the end of the frame ends it. -/
theorem msrpVectors_read {messages : List RawMessage} (h : ∀ m ∈ messages, m.WellFormed)
    {frame : Buffer} {srcMac : MacAddr} {ending : List UInt8}
    (hending : ending = [] ∨ ∃ pad, ending = be16 0 ++ pad)
    (hframe : frame.Holds 0 (msrpFrameBegin srcMac ++ (messageBytes messages ++ ending))) :
    List.Forall₂ RawEntry.Read (messages.flatMap RawMessage.entries)
      (msrpVectors frame (msrpFrameBegin srcMac ++ (messageBytes messages ++ ending)).length) := by
  have hbegin := msrpFrameBegin_length srcMac
  have hlength : (msrpFrameBegin srcMac ++ (messageBytes messages ++ ending)).length =
      15 + ((messageBytes messages).length + ending.length) := by
    rw [List.length_append, List.length_append, hbegin]
  have hcount := length_le_messageBytes messages
  rw [Buffer.holds_append, Buffer.holds_append, hbegin] at hframe
  obtain ⟨-, hmessages, hend⟩ := hframe
  refine messageListVectors_all h (Buffer.holds_offset.mpr hmessages) ?_ (by omega)
  rcases hending with rfl | ⟨pad, rfl⟩
  · rw [List.length_nil] at hlength
    exact .inl (by omega)
  · have hmark := (Buffer.holds_append.mp hend).1
    rw [Nat.zero_add] at hmark
    refine .inr ⟨by omega, Buffer.holds_offset.mpr ?_⟩
    rwa [← Nat.add_assoc]

-- ---------------------------------------------------------------------------
-- The PDUs of the standard
-- ---------------------------------------------------------------------------

inductive AttributeType
  | talkerAdvertise | talkerFailed | listener | domain
  deriving DecidableEq, Repr

def AttributeType.code : AttributeType → UInt8
  | .talkerAdvertise => msrpAttrTalkerAdv
  | .talkerFailed => msrpAttrTalkerFail
  | .listener => msrpAttrListener
  | .domain => msrpAttrDomain

/-- The bytes of a value. -/
def AttributeType.length : AttributeType → UInt8
  | .talkerAdvertise => 25
  | .talkerFailed => 34
  | .listener => 8
  | .domain => 4

/-- A vector: a LeaveAll, a value, the events of the values from it on, and
for a listener what each of them is declared as. Without a LeaveAll it has an
event, else its header were an EndMark. -/
structure VectorAttribute where
  type : AttributeType
  leaveAll : Bool
  firstValue : List UInt8
  events : List Mrp.Event
  substates : List MsrpListener
  firstValue_length : firstValue.length = type.length.toNat
  events_length : events.length < 8192
  not_endMark : leaveAll ∨ events ≠ []
  substates_length : substates.length = if type = .listener then events.length else 0

namespace VectorAttribute

def vecHdr (v : VectorAttribute) : UInt16 :=
  UInt16.ofNat (v.events.length + if v.leaveAll then 8192 else 0)

def raw (v : VectorAttribute) : RawVector where
  vecHdr := v.vecHdr
  firstValue := v.firstValue
  packed := Mrp.packThree (v.events.map Mrp.Event.code) ++
    Mrp.packFour (v.substates.map MsrpListener.code)

theorem vecHdr_toNat (v : VectorAttribute) :
    v.vecHdr.toNat = v.events.length + if v.leaveAll then 8192 else 0 := by
  have := v.events_length
  rw [vecHdr, UInt16.toNat_ofNat', Nat.mod_eq_of_lt]
  split <;> omega

theorem numValues (v : VectorAttribute) : (v.vecHdr &&& 0x1FFF).toNat = v.events.length := by
  have hlength := v.events_length
  have hmask : (0x1FFF : UInt16).toNat = 2 ^ 13 - 1 := rfl
  rw [UInt16.toNat_and, hmask, Nat.and_two_pow_sub_one_eq_mod, vecHdr_toNat]
  split <;> omega

theorem raw_fits (v : VectorAttribute) : v.raw.Fits v.type.code v.type.length where
  vecHdr := by
    intro hzero
    have hnat : v.vecHdr.toNat = 0 := congrArg UInt16.toNat hzero
    rw [vecHdr_toNat] at hnat
    rcases v.not_endMark with hleave | hevents
    · rw [if_pos hleave] at hnat
      omega
    · exact hevents (List.length_eq_zero_iff.mp (by omega))
  firstValue := v.firstValue_length
  packed := by
    have hlistener : v.type.code = msrpAttrListener ↔ v.type = .listener := by
      cases v.type <;> decide
    show (Mrp.packThree _ ++ Mrp.packFour _).length =
      ((v.vecHdr &&& 0x1FFF).toNat + 2) / 3 +
        if v.type.code = msrpAttrListener then ((v.vecHdr &&& 0x1FFF).toNat + 3) / 4 else 0
    rw [List.length_append, Mrp.length_packThree, Mrp.length_packFour, List.length_map,
      List.length_map, v.substates_length, numValues]
    congr 1
    by_cases h : v.type = .listener
    · rw [if_pos h, if_pos (hlistener.mpr h)]
    · rw [if_neg h, if_neg (mt hlistener.mp h)]

/-- What the walk hands on of the vector. -/
def received (v : VectorAttribute) : MsrpVector :=
  ⟨v.type.code, v.type.length, v.vecHdr, Buffer.ofList v.firstValue⟩

end VectorAttribute

/-- A message: vectors of its attribute type, in an AttributeList whose length
its head can give. -/
structure MsrpMessage where
  type : AttributeType
  vectors : List VectorAttribute
  sameType : ∀ v ∈ vectors, v.type = type
  short : (vectorList (vectors.map VectorAttribute.raw)).length < 65536

def MsrpMessage.raw (m : MsrpMessage) : RawMessage :=
  ⟨m.type.code, m.type.length, m.vectors.map VectorAttribute.raw⟩

theorem MsrpMessage.raw_wellFormed (m : MsrpMessage) : m.raw.WellFormed where
  attrType := by
    show m.type.code ≠ 0
    cases m.type <;> decide
  fits := by
    intro raw hraw
    obtain ⟨v, hv, rfl⟩ := List.mem_map.mp hraw
    have := v.raw_fits
    rwa [m.sameType v hv] at this
  short := m.short

/-- A well-formed PDU, in its frame. An EndMark and padding end it, or the
frame does. -/
structure MsrpPdu where
  srcMac : MacAddr
  messages : List MsrpMessage
  padding : Option (List UInt8)
  nonempty : messages ≠ []

namespace MsrpPdu

def ending (pdu : MsrpPdu) : List UInt8 :=
  match pdu.padding with
  | none => []
  | some pad => be16 0 ++ pad

def bytes (pdu : MsrpPdu) : List UInt8 :=
  msrpFrameBegin pdu.srcMac ++ (messageBytes (pdu.messages.map MsrpMessage.raw) ++ pdu.ending)

def vectors (pdu : MsrpPdu) : List VectorAttribute := pdu.messages.flatMap MsrpMessage.vectors

/-- The vector the walk comes to is the one there is. -/
structure Reads (v : VectorAttribute) (read : MsrpVector) : Prop where
  attrType : read.attrType = v.type.code
  attrLen : read.attrLen = v.type.length
  vecHdr : read.vecHdr = v.vecHdr
  value : read.value.Holds 0 v.firstValue

theorem Reads.byte {v : VectorAttribute} {read : MsrpVector} (h : Reads v read) {i : Nat}
    (hi : i < v.type.length.toNat) : read.value i = Buffer.ofList v.firstValue i := by
  rw [← v.firstValue_length] at hi
  have hread := h.value i hi
  have hfirst := Buffer.holds_ofList v.firstValue i hi
  rw [Nat.zero_add] at hread hfirst
  rw [hread, hfirst]

theorem raw_entries (m : MsrpMessage) :
    m.raw.entries = m.vectors.map fun v => ⟨v.type.code, v.type.length, v.raw⟩ := by
  rw [RawMessage.entries, MsrpMessage.raw, List.map_map]
  refine List.map_congr_left fun v hv => ?_
  rw [m.sameType v hv]
  rfl

/-- `srp_process_rx` comes to the vectors of a well-formed PDU, whatever the
memory behind the frame. -/
theorem msrpVectors_reads (pdu : MsrpPdu) {frame : Buffer} (h : frame.Holds 0 pdu.bytes) :
    List.Forall₂ Reads pdu.vectors (msrpVectors frame pdu.bytes.length) := by
  have hwellFormed : ∀ m ∈ pdu.messages.map MsrpMessage.raw, m.WellFormed := by
    intro raw hraw
    obtain ⟨m, -, rfl⟩ := List.mem_map.mp hraw
    exact m.raw_wellFormed
  have hending : pdu.ending = [] ∨ ∃ pad, pdu.ending = be16 0 ++ pad := by
    rw [ending]
    cases pdu.padding with
    | none => exact .inl rfl
    | some pad => exact .inr ⟨pad, rfl⟩
  have hread := msrpVectors_read hwellFormed hending h
  have hentries : (pdu.messages.map MsrpMessage.raw).flatMap RawMessage.entries =
      pdu.vectors.map fun v => ⟨v.type.code, v.type.length, v.raw⟩ := by
    rw [List.flatMap_map, vectors, List.map_flatMap]
    exact List.flatMap_congr fun m _ => raw_entries m
  rw [hentries] at hread
  refine (List.forall₂_map_left_iff.mp hread).imp fun v read hr => ?_
  exact ⟨hr.attrType, hr.attrLen, hr.vecHdr, (Buffer.holds_append.mp hr.value).1⟩

theorem isMsrpPdu (pdu : MsrpPdu) {frame : Buffer} (h : frame.Holds 0 pdu.bytes) :
    AvbAes3.isMsrpPdu frame pdu.bytes.length := by
  refine isMsrpPdu_holds (fun hnil => ?_) h
  obtain ⟨m, rest, hmessages⟩ := List.exists_cons_of_ne_nil pdu.nonempty
  have hlength := congrArg List.length hnil
  rw [hmessages, List.map_cons, messageBytes, List.flatMap_cons, List.length_append,
    List.length_append, RawMessage.length_bytes, List.length_nil] at hlength
  omega

end MsrpPdu

-- ---------------------------------------------------------------------------
-- A PDU of one vector
-- ---------------------------------------------------------------------------

/-- What one vector of a PDU has to be. -/
structure OneVector (type : AttributeType) (firstValue : List UInt8) (events : List Mrp.Event) :
    Prop where
  notListener : type ≠ .listener
  firstValue_length : firstValue.length = type.length.toNat
  events_length : events.length < 8192
  nonempty : events ≠ []
  short : (vectorList [⟨UInt16.ofNat events.length, firstValue,
    Mrp.packThree (events.map Mrp.Event.code)⟩]).length < 65536

namespace OneVector

variable {type : AttributeType} {firstValue : List UInt8} {events : List Mrp.Event}

def vector (h : OneVector type firstValue events) : VectorAttribute where
  type := type
  leaveAll := false
  firstValue := firstValue
  events := events
  substates := []
  firstValue_length := h.firstValue_length
  events_length := h.events_length
  not_endMark := .inr h.nonempty
  substates_length := by rw [if_neg h.notListener]; rfl

def pdu (h : OneVector type firstValue events) : MsrpPdu where
  srcMac := zeroBytes 6
  messages :=
    [{ type := type
       vectors := [h.vector]
       sameType := fun v hv => by rw [List.mem_singleton.mp hv]; rfl
       short := by
        have := h.short
        rwa [← List.append_nil (Mrp.packThree _)] at this }]
  padding := some []
  nonempty := List.cons_ne_nil _ _

end OneVector

end AvbAes3
