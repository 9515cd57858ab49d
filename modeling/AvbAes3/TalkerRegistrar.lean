import AvbAes3.MainLoop
import AvbAes3.MsrpPdu

/-!
# What is registered of a TalkerAdvertise vector

A vector of TalkerAdvertise values declares those of its consecutive values
whose event is New, JoinIn or JoinMt. The parser takes in the FirstValue of
every vector and neither the events nor the further values, so what it
registers is what the PDU declares only where each vector declares its
FirstValue and nothing else.
-/

namespace AvbAes3.TalkerRegistrar

-- ---------------------------------------------------------------------------
-- Consecutive values
-- ---------------------------------------------------------------------------

/-- The sum of a big-endian number and another, and what it carries out. -/
def addBe : List UInt8 → Nat → List UInt8 × Nat
  | [], n => ([], n)
  | b :: rest, n =>
    let low := addBe rest n
    ((b.toNat + low.2).toUInt8 :: low.1, (b.toNat + low.2) / 256)

def valueBe : List UInt8 → Nat
  | [] => 0
  | b :: rest => b.toNat * 256 ^ rest.length + valueBe rest

/-- Stream id and destination count up, the rest of the value stays. -/
def nthTalker (first : List UInt8) (i : Nat) : List UInt8 :=
  (addBe (first.take 8) i).1 ++ ((addBe ((first.drop 8).take 6) i).1 ++ first.drop 14)

def streamIdOf (value : List UInt8) : StreamId := (Buffer.ofList value).bytes 8

theorem addBe_length (bytes : List UInt8) (n : Nat) : (addBe bytes n).1.length = bytes.length := by
  induction bytes with
  | nil => rfl
  | cons b rest ih => rw [addBe, List.length_cons, List.length_cons, ih]

theorem addBe_value (bytes : List UInt8) (n : Nat) :
    valueBe bytes + n = (addBe bytes n).2 * 256 ^ bytes.length + valueBe (addBe bytes n).1 := by
  induction bytes with
  | nil => simp [addBe, valueBe]
  | cons b rest ih =>
    have hlength := addBe_length rest n
    simp only [addBe, valueBe, List.length_cons, Nat.toUInt8_eq, UInt8.toNat_ofNat', hlength]
    generalize (addBe rest n).2 = carry at *
    have hsplit := Nat.div_add_mod (b.toNat + carry) 256
    calc b.toNat * 256 ^ rest.length + valueBe rest + n
        = (b.toNat + carry) * 256 ^ rest.length + valueBe (addBe rest n).1 := by
          rw [Nat.add_assoc, ih]
          ring
      _ = (256 * ((b.toNat + carry) / 256) + (b.toNat + carry) % 256) * 256 ^ rest.length +
            valueBe (addBe rest n).1 := by rw [hsplit]
      _ = _ := by
        rw [Nat.pow_succ]
        ring

theorem addBe_zero (bytes : List UInt8) : addBe bytes 0 = (bytes, 0) := by
  induction bytes with
  | nil => rfl
  | cons b rest ih =>
    have hb := b.toNat_lt
    rw [addBe, ih]
    simp only [Nat.add_zero, Nat.div_eq_of_lt hb, Nat.toUInt8_eq, UInt8.ofNat_toNat]

theorem nthTalker_zero (first : List UInt8) : nthTalker first 0 = first := by
  have hdrop : first.drop 14 = (first.drop 8).drop 6 := by rw [List.drop_drop]
  rw [nthTalker, addBe_zero, addBe_zero, hdrop, List.take_append_drop, List.take_append_drop]

theorem streamIdOf_toList {first : List UInt8} (h : first.length = 25) (i : Nat) :
    (streamIdOf (nthTalker first i)).toList = (addBe (first.take 8) i).1 := by
  have hlength : (addBe (first.take 8) i).1.length = 8 := by
    rw [addBe_length, List.length_take]
    omega
  have hholds := (Buffer.holds_append.mp (Buffer.holds_ofList (nthTalker first i))).1
  refine List.ext_getElem (by rw [Vector.length_toList, hlength]) fun k _ hk => ?_
  rw [← hholds k hk, Nat.zero_add]
  simp [streamIdOf, Buffer.bytes]

/-- Within the number of values a vector can have, stream ids are distinct. -/
theorem streamIdOf_inj {first : List UInt8} (h : first.length = 25) {i j : Nat} (hi : i < 8192)
    (hj : j < 8192) (heq : streamIdOf (nthTalker first i) = streamIdOf (nthTalker first j)) :
    i = j := by
  have hbytes := congrArg Vector.toList heq
  rw [streamIdOf_toList h, streamIdOf_toList h] at hbytes
  have hvalueI := addBe_value (first.take 8) i
  have hvalueJ := addBe_value (first.take 8) j
  have hlength : (first.take 8).length = 8 := by rw [List.length_take]; omega
  rw [hbytes, hlength] at hvalueI
  rw [hlength] at hvalueJ
  norm_num at hvalueI hvalueJ
  omega

-- ---------------------------------------------------------------------------
-- What a PDU declares
-- ---------------------------------------------------------------------------

def declaredTalkers (v : VectorAttribute) : List (List UInt8) :=
  if v.type = .talkerAdvertise then Mrp.declared nthTalker v.firstValue v.events else []

/-- A vector with each of the values it declares taken in. -/
def register (nowMs : UInt32) (fw : Firmware) (v : VectorAttribute) : Firmware :=
  (declaredTalkers v).foldl (fun fw value => talkerAdvertised nowMs fw (Buffer.ofList value))
    { fw with srp := noteVector fw.srp v.received }

def counted (fw : Firmware) : Firmware :=
  { fw with srp := { fw.srp with rxPduCount := fw.srp.rxPduCount + 1 } }

/-- Where `srp_process_rx` is after `k` of the PDU's vectors. -/
def parsed (pdu : MsrpPdu) (fw : Firmware) (memory : Buffer) (nowMs : UInt32) (k : Nat) : Firmware :=
  ((msrpVectors (memory.copy 0 pdu.bytes) pdu.bytes.length).take k).foldl (srpVector nowMs)
    (counted fw)

/-- Where it would be if it took in what they declare. -/
def declared (pdu : MsrpPdu) (fw : Firmware) (nowMs : UInt32) (k : Nat) : Firmware :=
  (pdu.vectors.take k).foldl (register nowMs) (counted fw)

/-- Vector by vector, and so with the whole PDU, what is registered is what
is declared. -/
structure RegistersDeclared (pdu : MsrpPdu) : Prop where
  vectors : ∀ fw memory nowMs k, parsed pdu fw memory nowMs k = declared pdu fw nowMs k
  whole : ∀ fw (memory : Buffer) nowMs,
    srpProcessRx fw (memory.copy 0 pdu.bytes) pdu.bytes.length nowMs =
      declared pdu fw nowMs pdu.vectors.length

/-- Every TalkerAdvertise vector declares its FirstValue and no other. -/
def DeclaresFirstValues (pdu : MsrpPdu) : Prop :=
  ∀ v ∈ pdu.vectors, v.type = .talkerAdvertise → Mrp.FirstOnly v.events

-- ---------------------------------------------------------------------------
-- The parser
-- ---------------------------------------------------------------------------

/-- Only the 25 bytes of the value are read. -/
theorem talkerAdvertised_congr (nowMs : UInt32) (fw : Firmware) {value value' : Buffer}
    (h : ∀ i < 25, value i = value' i) :
    talkerAdvertised nowMs fw value = talkerAdvertised nowMs fw value' := by
  have hsid : value.bytes 8 = value'.bytes 8 := Buffer.bytes_congr fun i hi => h i (by omega)
  have hoffset (n k : Nat) (hk : n + k ≤ 25) (i : Nat) (hi : i < k) :
      value.offset n i = value'.offset n i := h (n + i) (by omega)
  have hdest := Buffer.bytes_congr (hoffset 8 6 (by decide))
  have hremote : remoteTalkerOf value nowMs = remoteTalkerOf value' nowMs := by
    rw [remoteTalkerOf, remoteTalkerOf, hsid, hdest, getBe16_congr (hoffset 14 2 (by decide)),
      getBe16_congr (hoffset 16 2 (by decide)), getBe16_congr (hoffset 18 2 (by decide)),
      h 20 (by decide), getBe32_congr (hoffset 21 4 (by decide))]
  have hupsert : upsertTalker fw.srp value nowMs = upsertTalker fw.srp value' nowMs := by
    rw [upsertTalker, upsertTalker, hsid, hremote]
  rw [talkerAdvertised, talkerAdvertised, hupsert, hsid, hdest, matchListener, matchListener, hsid]

theorem noteVector_reads (s : Srp) {v : VectorAttribute} {read : MsrpVector}
    (h : MsrpPdu.Reads v read) : noteVector s read = noteVector s v.received := by
  have htype : read.attrType = v.received.attrType := h.attrType
  have hlen : read.attrLen = v.received.attrLen := h.attrLen
  have hdomain : isDomain read = isDomain v.received := by rw [isDomain, isDomain, htype, hlen]
  have htalker : isTalkerAdvertise read = isTalkerAdvertise v.received := by
    rw [isTalkerAdvertise, isTalkerAdvertise, htype, hlen]
  unfold noteVector
  rw [hdomain, htalker, htype]
  by_cases hd : isDomain v.received
  · have hvalue (i : Nat) (hi : i < 4) : read.value i = v.received.value i := by
      refine h.byte (Nat.lt_of_lt_of_le hi ?_)
      exact of_decide_eq_true (Bool.and_eq_true_iff.mp hd).2
    have hvid : getBe16 (read.value.offset 2) = getBe16 (v.received.value.offset 2) :=
      getBe16_congr fun i hi => hvalue (2 + i) (by omega)
    rw [if_pos hd, if_pos hd, hvalue 0 (by decide), hvalue 1 (by decide), hvid]
  · rw [if_neg hd, if_neg hd]

/-- The parser takes in the FirstValue. -/
theorem srpVector_reads (nowMs : UInt32) (fw : Firmware) {v : VectorAttribute} {read : MsrpVector}
    (h : MsrpPdu.Reads v read) :
    srpVector nowMs fw read =
      if v.type = .talkerAdvertise then
        talkerAdvertised nowMs { fw with srp := noteVector fw.srp v.received }
          (Buffer.ofList v.firstValue)
      else { fw with srp := noteVector fw.srp v.received } := by
  have hadvertise : isTalkerAdvertise read ↔ v.type = .talkerAdvertise := by
    rw [isTalkerAdvertise, h.attrType, h.attrLen]
    cases v.type <;> decide
  rw [srpVector, noteVector_reads _ h]
  by_cases htype : v.type = .talkerAdvertise
  · rw [if_pos (hadvertise.mpr htype), if_pos htype]
    refine talkerAdvertised_congr nowMs _ fun i hi => h.byte ?_
    rw [htype]
    exact hi
  · rw [if_neg (mt hadvertise.mp htype), if_neg htype]

theorem parsed_full (pdu : MsrpPdu) (fw : Firmware) (memory : Buffer) (nowMs : UInt32) :
    srpProcessRx fw (memory.copy 0 pdu.bytes) pdu.bytes.length nowMs =
      parsed pdu fw memory nowMs pdu.vectors.length := by
  have hholds := Buffer.holds_copy memory pdu.bytes
  rw [srpProcessRx, if_pos (pdu.isMsrpPdu hholds), parsed,
    (pdu.msrpVectors_reads hholds).length_eq, List.take_length]
  rfl

-- ---------------------------------------------------------------------------
-- First values only
-- ---------------------------------------------------------------------------

theorem register_first {nowMs : UInt32} {fw : Firmware} {v : VectorAttribute} {read : MsrpVector}
    (hread : MsrpPdu.Reads v read) (h : v.type = .talkerAdvertise → Mrp.FirstOnly v.events) :
    srpVector nowMs fw read = register nowMs fw v := by
  rw [srpVector_reads nowMs fw hread, register, declaredTalkers]
  by_cases htype : v.type = .talkerAdvertise
  · rw [if_pos htype, if_pos htype, (h htype).declared, nthTalker_zero]
    rfl
  · rw [if_neg htype, if_neg htype]
    rfl

theorem parsed_of_first {pdu : MsrpPdu} (h : DeclaresFirstValues pdu) (fw : Firmware)
    (memory : Buffer) (nowMs : UInt32) (k : Nat) :
    parsed pdu fw memory nowMs k = declared pdu fw nowMs k := by
  have hreads := pdu.msrpVectors_reads (Buffer.holds_copy memory pdu.bytes)
  have hfirst : ∀ v ∈ pdu.vectors.take k, v.type = .talkerAdvertise → Mrp.FirstOnly v.events :=
    fun v hv => h v (List.mem_of_mem_take hv)
  have htake := List.forall₂_take k hreads
  rw [parsed, declared]
  generalize counted fw = fw'
  generalize pdu.vectors.take k = vectors at hfirst htake ⊢
  generalize (msrpVectors _ _).take k = reads at htake ⊢
  induction htake generalizing fw' with
  | nil => rfl
  | cons hread _ ih =>
    obtain ⟨hv, hrest⟩ := List.forall_mem_cons.mp hfirst
    rw [List.foldl_cons, List.foldl_cons, register_first hread hv]
    exact ih _ hrest

theorem registers_of_first {pdu : MsrpPdu} (h : DeclaresFirstValues pdu) :
    RegistersDeclared pdu where
  vectors := parsed_of_first h
  whole _ _ _ := (parsed_full ..).trans (parsed_of_first h ..)

-- ---------------------------------------------------------------------------
-- A listener as witness
-- ---------------------------------------------------------------------------

/-- No connect is pending, and the listener waits for this stream. -/
structure Listens (sid : StreamId) (fw : Firmware) : Prop where
  pending : ∀ u, (fw.pendingListeners u).active = false
  enabled : fw.srp.listenerEnabled
  streamId : fw.srp.listenerStreamId = sid

theorem listens_advertise {sid : StreamId} {fw : Firmware} (h : Listens sid fw) (nowMs : UInt32)
    (streamId : StreamId) (destMac : MacAddr) :
    onTalkerAdvertise fw streamId destMac nowMs = fw := by
  have hpending (i : ListenerUid) : completePending fw i streamId destMac nowMs = fw := by
    refine if_neg fun hactive => ?_
    exact Bool.false_ne_true ((h.pending i).symm.trans hactive.1)
  rw [onTalkerAdvertise, hpending, hpending]

/-- The part of the state the listener's match is made of. -/
def matching (s : Srp) : Bool × StreamId × UInt32 :=
  (s.listenerEnabled, s.listenerStreamId, s.rxMatchCount)

theorem noteVector_matching (s : Srp) (v : MsrpVector) : matching (noteVector s v) = matching s := by
  obtain ⟨_, _, _, _, _, _, _, _, hwrites⟩ := noteVector_writes s v
  rw [hwrites]
  rfl

theorem listens_note {sid : StreamId} {fw : Firmware} (h : Listens sid fw) (v : MsrpVector) :
    Listens sid { fw with srp := noteVector fw.srp v } where
  pending := h.pending
  enabled := (congrArg Prod.fst (noteVector_matching fw.srp v)).trans h.enabled
  streamId := (congrArg (·.2.1) (noteVector_matching fw.srp v)).trans h.streamId

/-- An advertisement is counted as a match if it is of that stream. -/
theorem listens_value {sid : StreamId} {fw : Firmware} (h : Listens sid fw) (nowMs : UInt32)
    (value : List UInt8) :
    Listens sid (talkerAdvertised nowMs fw (Buffer.ofList value)) ∧
      (talkerAdvertised nowMs fw (Buffer.ofList value)).srp.rxMatchCount =
        fw.srp.rxMatchCount + if streamIdOf value = sid then 1 else 0 := by
  have hupsert : Listens sid { fw with srp := upsertTalker fw.srp (Buffer.ofList value) nowMs } :=
    ⟨h.pending, h.enabled, h.streamId⟩
  rw [talkerAdvertised, listens_advertise hupsert, matchListener]
  dsimp only
  by_cases hmatch : streamIdOf value = sid
  · have hours : (upsertTalker fw.srp (Buffer.ofList value) nowMs).listenerEnabled ∧
        (Buffer.ofList value).bytes 8 =
          (upsertTalker fw.srp (Buffer.ofList value) nowMs).listenerStreamId :=
      ⟨h.enabled, hmatch.trans h.streamId.symm⟩
    rw [if_pos hmatch, if_pos hours]
    exact ⟨⟨h.pending, h.enabled, h.streamId⟩, rfl⟩
  · rw [if_neg hmatch, if_neg fun hours => hmatch (hours.2.trans h.streamId)]
    exact ⟨hupsert, (UInt32.add_zero _).symm⟩

theorem listens_values {sid : StreamId} {fw : Firmware} (h : Listens sid fw) (nowMs : UInt32)
    (values : List (List UInt8)) :
    let fw' := values.foldl (fun fw value => talkerAdvertised nowMs fw (Buffer.ofList value)) fw
    Listens sid fw' ∧ fw'.srp.rxMatchCount =
      fw.srp.rxMatchCount + UInt32.ofNat (values.countP fun value => streamIdOf value == sid) := by
  induction values generalizing fw with
  | nil => exact ⟨h, (UInt32.add_zero _).symm⟩
  | cons value rest ih =>
    obtain ⟨hvalue, hcount⟩ := listens_value h nowMs value
    obtain ⟨hrest, hmore⟩ := ih hvalue
    refine ⟨hrest, hmore.trans ?_⟩
    rw [hcount, List.countP_cons, UInt32.ofNat_add, UInt32.add_assoc,
      UInt32.add_comm (UInt32.ofNat _)]
    congr 2
    by_cases hmatch : streamIdOf value = sid
    · rw [if_pos hmatch, if_pos (beq_iff_eq.mpr hmatch)]
      rfl
    · rw [if_neg hmatch, if_neg (by simpa using hmatch)]
      rfl

theorem listens_register {sid : StreamId} {fw : Firmware} (h : Listens sid fw) (nowMs : UInt32)
    (v : VectorAttribute) :
    Listens sid (register nowMs fw v) ∧ (register nowMs fw v).srp.rxMatchCount =
      fw.srp.rxMatchCount +
        UInt32.ofNat ((declaredTalkers v).countP fun value => streamIdOf value == sid) := by
  obtain ⟨hlistens, hcount⟩ := listens_values (listens_note h v.received) nowMs (declaredTalkers v)
  refine ⟨hlistens, hcount.trans ?_⟩
  have hnote : (noteVector fw.srp v.received).rxMatchCount = fw.srp.rxMatchCount :=
    congrArg (·.2.2) (noteVector_matching fw.srp v.received)
  rw [← hnote]

theorem listens_declared {sid : StreamId} {fw : Firmware} (h : Listens sid fw) (pdu : MsrpPdu)
    (nowMs : UInt32) (k : Nat) : Listens sid (declared pdu fw nowMs k) := by
  have hcounted : Listens sid (counted fw) := ⟨h.pending, h.enabled, h.streamId⟩
  rw [declared]
  generalize pdu.vectors.take k = vectors
  generalize counted fw = fw' at hcounted
  induction vectors generalizing fw' with
  | nil => exact hcounted
  | cons v rest ih => exact ih _ (listens_register hcounted nowMs v).1

/-- Where the parser and the declarations agree before and after a vector,
they do the same with it. -/
theorem RegistersDeclared.step {pdu : MsrpPdu} (h : RegistersDeclared pdu)
    {first rest : List VectorAttribute} {v : VectorAttribute}
    (hvectors : pdu.vectors = first ++ v :: rest) (fw : Firmware) (nowMs : UInt32) :
    ∃ read, MsrpPdu.Reads v read ∧
      srpVector nowMs (declared pdu fw nowMs first.length) read =
        register nowMs (declared pdu fw nowMs first.length) v := by
  have hreads := pdu.msrpVectors_reads (Buffer.holds_copy (fun _ => 0) pdu.bytes)
  have hbefore := h.vectors fw (fun _ => 0) nowMs first.length
  have hafter := h.vectors fw (fun _ => 0) nowMs (first.length + 1)
  have hdrop := List.forall₂_drop first.length hreads
  rw [parsed] at hbefore hafter
  generalize msrpVectors _ _ = reads at hreads hbefore hafter hdrop
  rw [hvectors, List.drop_left] at hdrop
  cases hrest : reads.drop first.length with
  | nil =>
    rw [hrest] at hdrop
    cases hdrop
  | cons read more =>
    rw [hrest] at hdrop
    cases hdrop with
    | cons hread _ =>
      refine ⟨read, hread, ?_⟩
      have hone : reads.take (first.length + 1) = reads.take first.length ++ [read] := by
        rw [List.take_add, hrest, List.take_succ_cons, List.take_zero]
      rw [hone, List.foldl_append, hbefore] at hafter
      refine hafter.trans ?_
      rw [declared, declared, hvectors, List.take_add, List.drop_left, List.take_left,
        List.foldl_append]
      rfl

theorem declaredTalkers_count (v : VectorAttribute) (sid : StreamId) :
    (declaredTalkers v).countP (fun value => streamIdOf value == sid) < 2 ^ 32 := by
  have hlength : (declaredTalkers v).length ≤ v.events.length := by
    rw [declaredTalkers]
    split
    · exact Mrp.length_declaredFrom_le ..
    · exact Nat.zero_le _
  have := v.events_length
  have := List.countP_le_length (p := fun value => streamIdOf value == sid) (l := declaredTalkers v)
  omega

/-- As many of the values declared are of a stream as the FirstValue is. -/
theorem RegistersDeclared.count {pdu : MsrpPdu} (h : RegistersDeclared pdu) {v : VectorAttribute}
    (hv : v ∈ pdu.vectors) (htype : v.type = .talkerAdvertise) (sid : StreamId) :
    (declaredTalkers v).countP (fun value => streamIdOf value == sid) =
      if streamIdOf v.firstValue = sid then 1 else 0 := by
  obtain ⟨first, rest, hvectors⟩ := List.append_of_mem hv
  let fw : Firmware := { boot with
    srp := { boot.srp with listenerEnabled := true, listenerStreamId := sid } }
  have hlistens : Listens sid fw := ⟨fun _ => rfl, rfl, rfl⟩
  obtain ⟨read, hread, hsame⟩ := h.step hvectors fw 0
  have hat := listens_declared hlistens pdu 0 first.length
  generalize declared pdu fw 0 first.length = fw' at hat hsame
  have hregister := (listens_register hat 0 v).2
  have hnote : (noteVector fw'.srp v.received).rxMatchCount = fw'.srp.rxMatchCount :=
    congrArg (·.2.2) (noteVector_matching fw'.srp v.received)
  rw [← hsame, srpVector_reads 0 fw' hread, if_pos htype,
    (listens_value (listens_note hat v.received) 0 v.firstValue).2] at hregister
  dsimp only at hregister
  rw [hnote] at hregister
  have hcount := congrArg UInt32.toNat ((UInt32.add_right_inj _).mp hregister)
  rw [UInt32.toNat_ofNat', Nat.mod_eq_of_lt (declaredTalkers_count v sid)] at hcount
  rw [← hcount]
  split <;> rfl

theorem first_of_registers {pdu : MsrpPdu} (h : RegistersDeclared pdu) :
    DeclaresFirstValues pdu := by
  intro v hv htype
  have hlength : v.firstValue.length = 25 := by
    rw [v.firstValue_length, htype]
    rfl
  have hevents := v.events_length
  have hcount (i : Nat) := h.count hv htype (streamIdOf (nthTalker v.firstValue i))
  have hmem {value : List UInt8} : value ∈ declaredTalkers v ↔
      ∃ j event, v.events[j]? = some event ∧ event.joins ∧ value = nthTalker v.firstValue j := by
    rw [declaredTalkers, if_pos htype, Mrp.declared, Mrp.mem_declaredFrom]
    simp only [Nat.zero_add]
  have hindex {j : Nat} {event : Mrp.Event} (hj : v.events[j]? = some event) : j < 8192 := by
    have := (List.getElem?_eq_some_iff.mp hj).1
    omega
  -- some value declared is of the FirstValue's stream, so it is the FirstValue
  have hfirst : 0 < (declaredTalkers v).countP
      fun value => streamIdOf value == streamIdOf (nthTalker v.firstValue 0) := by
    rw [hcount 0, nthTalker_zero, if_pos rfl]
    exact Nat.one_pos
  obtain ⟨value, hvalue, hsid⟩ := List.countP_pos_iff.mp hfirst
  obtain ⟨j, event, hj, hjoins, rfl⟩ := hmem.mp hvalue
  obtain rfl := streamIdOf_inj hlength (hindex hj) (by decide) (eq_of_beq hsid)
  cases hall : v.events with
  | nil =>
    rw [hall] at hj
    cases hj
  | cons e rest =>
    rw [hall] at hj
    obtain rfl : e = event := Option.some.inj hj
    refine ⟨e, rest, rfl, hjoins, fun e' he' => Bool.eq_false_iff.mpr fun hjoins' => ?_⟩
    -- another value declared would be counted, and its stream is not the FirstValue's
    obtain ⟨i, hi⟩ := List.getElem?_of_mem he'
    have hi' : v.events[i + 1]? = some e' := by rw [hall]; exact hi
    have hne : streamIdOf v.firstValue ≠ streamIdOf (nthTalker v.firstValue (i + 1)) := by
      intro heq
      have heq' := (congrArg streamIdOf (nthTalker_zero v.firstValue)).trans heq
      have := streamIdOf_inj hlength (by decide) (hindex hi') heq'
      omega
    have hother := hcount (i + 1)
    rw [if_neg hne] at hother
    have hpos := List.countP_eq_zero.mp hother _ (hmem.mpr ⟨i + 1, e', hi', hjoins', rfl⟩)
    exact hpos (beq_self_eq_true _)

/-- The parser registers what a PDU declares if and only if each of its
TalkerAdvertise vectors declares its FirstValue and no other value. -/
theorem registersDeclared_iff (pdu : MsrpPdu) : RegistersDeclared pdu ↔ DeclaresFirstValues pdu :=
  ⟨first_of_registers, registers_of_first⟩

-- ---------------------------------------------------------------------------
-- A talker that leaves
-- ---------------------------------------------------------------------------

/-- One value, with the event Lv. -/
theorem leaving : OneVector .talkerAdvertise (talkerFirstValue {}) [.lv] where
  notListener := by decide
  firstValue_length := rfl
  events_length := by decide
  nonempty := by decide
  short := by decide

theorem leaving_registered : ¬ RegistersDeclared leaving.pdu := by
  rw [registersDeclared_iff]
  intro h
  obtain ⟨event, rest, hevents, hjoins, -⟩ := h leaving.vector List.mem_cons_self rfl
  obtain rfl : Mrp.Event.lv = event := (List.cons.inj hevents).1
  exact Bool.false_ne_true hjoins

end AvbAes3.TalkerRegistrar
