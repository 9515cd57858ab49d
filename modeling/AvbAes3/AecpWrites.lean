import AvbAes3.AecpFrames
import AvbAes3.Lib.Overwrites

/-!
# What an AECP response overwrites

Each response builder as a function of the slot memory it is given: which
bytes it overwrites, what its header holds, and the length it is sent with.
Every answer to a known command overwrites its bytes up to the end its
control data length says; the two echoes of unknown commands depend on the
length the command claims to have.
-/

namespace AvbAes3

-- ---------------------------------------------------------------------------
-- Writes
-- ---------------------------------------------------------------------------

theorem overwrites_copy (at_ : Nat) (bytes : List UInt8) :
    Overwrites (fun b : Buffer => b.copy at_ bytes) (Set.Ico at_ (at_ + bytes.length)) where
  own b b' i hi := by
    obtain ⟨hat, hlt⟩ := hi
    have hget : i - at_ < bytes.length := by omega
    simp [Buffer.copy, hat, List.getElem?_eq_getElem hget]
  rest b i hi := by
    rw [Set.mem_Ico, not_and_or, Nat.not_le, Nat.not_lt] at hi
    exact Buffer.copy_outside hi

theorem overwrites_putPdu (off : Nat) (bytes : List UInt8) :
    Overwrites (fun b => putPdu b off bytes) (Set.Ico (14 + off) (14 + off + bytes.length)) :=
  overwrites_copy (14 + off) bytes

/-- The fields cover the `n` bytes from `off` on and nothing else. -/
def Fills (off n : Nat) (fields : List (Nat × List UInt8)) : Prop :=
  ∀ i, (∃ f ∈ fields, f.1 ≤ i ∧ i < f.1 + f.2.length) ↔ off ≤ i ∧ i < off + n

theorem fills_contiguous {off : Nat} {fields : List (Nat × List UInt8)}
    (h : Contiguous off fields) : Fills off (fields.flatMap Prod.snd).length fields := by
  induction fields generalizing off with
  | nil =>
    intro i
    simp
  | cons f rest ih =>
    obtain ⟨rfl, hrest⟩ := h
    intro i
    rw [List.flatMap_cons, List.length_append, List.exists_mem_cons_iff, ih hrest i]
    omega

theorem overwrites_fields (fields : List (Nat × List UInt8)) :
    Overwrites (fun b => fields.foldl (fun b field => putPdu b field.1 field.2) b)
      {i | ∃ f ∈ fields, 14 + f.1 ≤ i ∧ i < 14 + f.1 + f.2.length} := by
  induction fields with
  | nil =>
    refine Overwrites.nothing.of_eq ?_
    ext i
    simp
  | cons f rest ih =>
    refine ((overwrites_putPdu f.1 f.2).comp ih).of_eq ?_
    ext i
    simp

theorem Fills.overwrites {off n : Nat} {fields : List (Nat × List UInt8)} (h : Fills off n fields) :
    Overwrites (fun b => fields.foldl (fun b field => putPdu b field.1 field.2) b)
      (Set.Ico (14 + off) (14 + off + n)) := by
  refine (overwrites_fields fields).of_eq ?_
  ext i
  rw [Set.mem_ofPred_eq, Set.mem_Ico]
  constructor
  · rintro ⟨f, hf, hle, hlt⟩
    have hi := (h (i - 14)).mp ⟨f, hf, by omega, by omega⟩
    omega
  · rintro ⟨hle, hlt⟩
    obtain ⟨f, hf, hfle, hflt⟩ := (h (i - 14)).mpr ⟨by omega, by omega⟩
    exact ⟨f, hf, by omega, by omega⟩

theorem overwrites_unicastHeader (srcMac : MacAddr) (rxFrame : Buffer) :
    Overwrites (fun slot => unicastHeader slot srcMac rxFrame) (Set.Iio 14) := by
  refine (((overwrites_copy 0 ((rxFrame.offset 6).take 6)).comp
    (overwrites_copy 6 srcMac.toList)).comp (overwrites_copy 12 (be16 avtpEthertype))).of_eq ?_
  ext i
  simp only [Buffer.length_take, Vector.length_toList, be16_length, Set.mem_union, Set.mem_Ico,
    Set.mem_Iio]
  omega

/-- Everything up to the end of the header but for status and length. -/
theorem overwrites_aecpBeginResponse (srcMac : MacAddr) (rxFrame : Buffer) :
    Overwrites (fun slot => aecpBeginResponse slot srcMac rxFrame)
      (Set.Iio 16 ∪ Set.Ico 18 38) := by
  refine (((overwrites_unicastHeader srcMac rxFrame).comp (overwrites_putPdu 0
    [avtpSubtypeAecp, aecpMsgAemResponse])).comp (overwrites_putPdu 4
      ((rxFrame.offset (14 + 4)).take 20))).of_eq ?_
  ext i
  simp only [Buffer.length_take, List.length_cons, List.length_nil, Set.mem_union, Set.mem_Ico,
    Set.mem_Iio]
  omega

theorem overwrites_aecpSetStatusCdl (status : UInt8) (cdl : UInt16) :
    Overwrites (fun b => aecpSetStatusCdl b status cdl) (Set.Ico 16 18) :=
  overwrites_putPdu 2 (be16 (statusCdl status (cdl &&& 0x7FF)))

-- ---------------------------------------------------------------------------
-- Headers
-- ---------------------------------------------------------------------------

/-- The status a response states. -/
def responseStatus (response : Buffer) : UInt8 := response 16 >>> 3

/-- The control data length a response states. -/
def responseCdl (response : Buffer) : Nat := (getBe16 (response.offset 16) &&& 0x7FF).toNat

/-- A response to the requester that echoes the command: its type, behind a
flag, is at `cmdOff`. -/
structure Echoes (c : AecpCommand) (msgType : UInt8) (cmdOff : Nat) (response : Buffer) : Prop where
  requester : response.bytes 6 = (c.frame.offset 6).bytes 6
  msgType : response 15 &&& 0x0F = msgType
  targetId : ((response.offset 14).offset aecpOffTargetId).bytes 8 =
    (c.pdu.offset aecpOffTargetId).bytes 8
  controllerId : ((response.offset 14).offset aecpOffControllerId).bytes 8 =
    (c.pdu.offset aecpOffControllerId).bytes 8
  sequenceId : getBe16 ((response.offset 14).offset 20) = c.field 20
  cmdType : getBe16 ((response.offset 14).offset cmdOff) &&& 0x7FFF = c.field cmdOff &&& 0x7FFF

theorem statusCdl_cdl (status : UInt8) (cdl : UInt16) :
    statusCdl status (cdl &&& 0x7FF) &&& 0x7FF = cdl &&& 0x7FF := by
  unfold statusCdl
  apply UInt16.toBitVec_inj.mp
  ext i hi
  have hmem : i ∈ Finset.range 16 := Finset.mem_range.mpr hi
  fin_cases hmem <;> simp

theorem getBe16_cmdType (p : Buffer) :
    getBe16 p &&& (0x7FFF : UInt16) =
      (p 0 &&& (0x7F : UInt8)).toUInt16 <<< 8 ||| (p 1).toUInt16 := by
  unfold getBe16
  apply UInt16.toBitVec_inj.mp
  ext i hi
  have hmem : i ∈ Finset.range 16 := Finset.mem_range.mpr hi
  fin_cases hmem <;> simp

theorem low_byte (a b : UInt8) : (a.toUInt16 <<< 8 ||| b.toUInt16).toUInt8 = b := by
  apply UInt8.toBitVec_inj.mp
  ext i hi
  simp

theorem high_byte (a b : UInt8) : ((a.toUInt16 <<< 8 ||| b.toUInt16) >>> 8).toUInt8 = a := by
  apply UInt8.toBitVec_inj.mp
  ext i hi
  have hmem : i ∈ Finset.range 8 := Finset.mem_range.mpr hi
  fin_cases hmem <;> simp

/-- The command type is fifteen bits of two bytes. -/
theorem cmdType_eq_iff {p q : Buffer} : getBe16 p &&& 0x7FFF = getBe16 q &&& 0x7FFF ↔
    p 0 &&& 0x7F = q 0 &&& 0x7F ∧ p 1 = q 1 := by
  rw [getBe16_cmdType, getBe16_cmdType]
  constructor
  · intro h
    constructor
    · rw [← high_byte (p 0 &&& 0x7F) (p 1), h, high_byte]
    · rw [← low_byte (p 0 &&& 0x7F) (p 1), h, low_byte]
  · rintro ⟨hhigh, hlow⟩
    rw [hhigh, hlow]

theorem responseCdl_aecpSetStatusCdl (b : Buffer) (status : UInt8) (cdl : UInt16) :
    responseCdl (aecpSetStatusCdl b status cdl) = (cdl &&& 0x7FF).toNat := by
  have hholds : (aecpSetStatusCdl b status cdl).Holds 16
      (be16 (statusCdl status (cdl &&& 0x7FF))) := Buffer.holds_copy_at b 16 _
  rw [responseCdl, hholds.getBe16, statusCdl_cdl]

theorem statusCdl_status (status : UInt8) (cdl : UInt16) :
    (statusCdl status (cdl &&& 0x7FF) >>> 8).toUInt8 >>> 3 = status &&& 0x1F := by
  unfold statusCdl
  apply UInt8.toBitVec_inj.mp
  ext i hi
  have hmem : i ∈ Finset.range 8 := Finset.mem_range.mpr hi
  fin_cases hmem <;> simp

theorem responseStatus_aecpSetStatusCdl (b : Buffer) (status : UInt8) (cdl : UInt16) :
    responseStatus (aecpSetStatusCdl b status cdl) = status &&& 0x1F := by
  have hholds : (aecpSetStatusCdl b status cdl).Holds 16
      (be16 (statusCdl status (cdl &&& 0x7FF))) := Buffer.holds_copy_at b 16 _
  have hbyte : aecpSetStatusCdl b status cdl 16 =
      (statusCdl status (cdl &&& 0x7FF) >>> 8).toUInt8 := hholds 0 Nat.two_pos
  rw [responseStatus, hbyte, statusCdl_status]

theorem unicastHeader_requester (slot : Buffer) (srcMac : MacAddr) (rxFrame : Buffer) {i : Nat}
    (h : i < 6) : unicastHeader slot srcMac rxFrame i = rxFrame (6 + i) := by
  rw [unicastHeader, Buffer.copy_outside (.inl (by omega)), Buffer.copy_outside (.inl h)]
  simp [Buffer.copy, Buffer.take, h]

theorem aecpBeginResponse_requester (slot : Buffer) (srcMac : MacAddr) (rxFrame : Buffer) {i : Nat}
    (h : i < 6) : aecpBeginResponse slot srcMac rxFrame i = rxFrame (6 + i) := by
  rw [aecpBeginResponse, putPdu, putPdu, Buffer.copy_outside (.inl (by omega)),
    Buffer.copy_outside (.inl (by omega))]
  exact unicastHeader_requester slot srcMac rxFrame h

theorem aecpBeginResponse_msgType (slot : Buffer) (srcMac : MacAddr) (rxFrame : Buffer) :
    aecpBeginResponse slot srcMac rxFrame 15 = aecpMsgAemResponse := rfl

theorem aecpBeginResponse_header (slot : Buffer) (srcMac : MacAddr) (rxFrame : Buffer) {i : Nat}
    (hle : 18 ≤ i) (hlt : i < 38) : aecpBeginResponse slot srcMac rxFrame i = rxFrame i := by
  have hget : i - 18 < 20 := by omega
  have hi : 18 + (i - 18) = i := by omega
  simp [aecpBeginResponse, putPdu, Buffer.copy, Buffer.take, hle, hget, hi]

/-- A response that holds the command's header. -/
theorem echoes_of_header {c : AecpCommand} {msgType : UInt8} {cmdOff : Nat} {response : Buffer}
    (hrequester : ∀ i < 6, response i = c.frame (6 + i)) (hmsgType : response 15 &&& 0x0F = msgType)
    (hheader : ∀ i, 18 ≤ i → i < 36 → response i = c.frame i)
    (hcmdType : getBe16 ((response.offset 14).offset cmdOff) &&& 0x7FFF = c.field cmdOff &&& 0x7FFF) :
    Echoes c msgType cmdOff response where
  requester := Buffer.bytes_congr hrequester
  msgType := hmsgType
  targetId := Buffer.bytes_congr fun i hi => hheader (14 + (aecpOffTargetId + i))
    (by unfold aecpOffTargetId; omega) (by unfold aecpOffTargetId; omega)
  controllerId := Buffer.bytes_congr fun i hi => hheader
    (14 + (aecpOffControllerId + i)) (by unfold aecpOffControllerId; omega)
    (by unfold aecpOffControllerId; omega)
  sequenceId := getBe16_congr fun i hi => hheader (14 + (20 + i)) (by omega) (by omega)
  cmdType := hcmdType

-- ---------------------------------------------------------------------------
-- Answers
-- ---------------------------------------------------------------------------

def AecpCommand.withSlot (c : AecpCommand) (slot : Buffer) : AecpCommand := { c with slot := slot }

section WithSlot

variable (c : AecpCommand) (slot : Buffer)

@[simp] theorem withSlot_pduLen : (c.withSlot slot).pduLen = c.pduLen := rfl
@[simp] theorem withSlot_gptp : (c.withSlot slot).gptp = c.gptp := rfl
@[simp] theorem withSlot_srp : (c.withSlot slot).srp = c.srp := rfl
@[simp] theorem withSlot_frame : (c.withSlot slot).frame = c.frame := rfl
@[simp] theorem withSlot_slot : (c.withSlot slot).slot = slot := rfl
@[simp] theorem withSlot_pdu : (c.withSlot slot).pdu = c.pdu := rfl
@[simp] theorem withSlot_echo (off n : Nat) : (c.withSlot slot).echo off n = c.echo off n := rfl
@[simp] theorem withSlot_field (off : Nat) : (c.withSlot slot).field off = c.field off := rfl

end WithSlot

@[simp] theorem echo_length (c : AecpCommand) (off n : Nat) : (c.echo off n).length = n :=
  Buffer.length_take ..

/-- A response with a header of the command's own, which overwrites exactly
the bytes up to the end it states, and the length it is sent with. -/
structure Answers (c : AecpCommand) (msgType : UInt8) (cmdOff cdl : Nat)
    (build : Buffer → Buffer) : Prop where
  overwrites : Overwrites build (Set.Iio (26 + cdl))
  states : ∀ slot, responseCdl (build slot) = cdl
  echoes : ∀ slot, Echoes c msgType cmdOff (build slot)

/-- Whatever the slot held, this is the answer. -/
def Answered (c : AecpCommand) (cdl len : Nat) (reply : Buffer → AecpReply) : Prop :=
  ∃ build, (∀ slot, reply slot = some (build slot, len)) ∧
    Answers c aecpMsgAemResponse aecpOffCmdType cdl build

theorem aecpRespond_answered (s : Avdecc) (c : AecpCommand) {fields : List (Nat × List UInt8)}
    {status : UInt8} {cdl : UInt16} {n : Nat} (len : Nat) (hfields : Fills 24 n fields)
    (hcdl : (cdl &&& 0x7FF).toNat = 12 + n) :
    Answered c (12 + n) len fun slot => aecpRespond s (c.withSlot slot) fields status cdl len := by
  have hbody := (overwrites_aecpBeginResponse s.srcMac c.frame).comp hfields.overwrites
  have hkept (slot : Buffer) {i : Nat} (hi : i < 38) (hstatus : i < 16 ∨ 18 ≤ i) :
      aecpSetStatusCdl (fields.foldl (fun b field => putPdu b field.1 field.2)
        (aecpBeginResponse slot s.srcMac c.frame)) status cdl i =
          aecpBeginResponse slot s.srcMac c.frame i := by
    rw [(overwrites_aecpSetStatusCdl status cdl).rest _ i (by rw [Set.mem_Ico]; omega),
      hfields.overwrites.rest _ i (by rw [Set.mem_Ico]; omega)]
  refine ⟨_, fun slot => rfl, ?_, fun slot => ?_, fun slot => ?_⟩
  · refine (hbody.comp (overwrites_aecpSetStatusCdl status cdl)).of_eq ?_
    ext i
    simp only [Set.mem_union, Set.mem_Ico, Set.mem_Iio]
    omega
  · exact (responseCdl_aecpSetStatusCdl ..).trans hcdl
  · refine echoes_of_header (fun i hi => ?_) ?_ (fun i hle hlt => ?_) ?_
    · exact (hkept slot (by omega) (by omega)).trans (aecpBeginResponse_requester _ _ _ hi)
    · exact congrArg (· &&& 0x0F) ((hkept slot (i := 15) (by omega) (by omega)).trans
        (aecpBeginResponse_msgType ..))
    · exact (hkept slot (by omega) (by omega)).trans
        (aecpBeginResponse_header _ _ _ (by omega) (by omega))
    · refine congrArg (· &&& 0x7FFF) (getBe16_congr fun i hi => ?_)
      exact (hkept slot (i := 14 + (22 + i)) (by omega) (by omega)).trans
        (aecpBeginResponse_header _ _ _ (by omega) (by omega))

/-- A command that is long enough is answered, another is not. -/
def Replies (c : AecpCommand) (minLen cdl len : Nat) (reply : Buffer → AecpReply) : Prop :=
  (minLen ≤ c.pduLen → Answered c cdl len reply) ∧ (c.pduLen < minLen → ∀ slot, reply slot = none)

theorem replies_of_answered {c : AecpCommand} {minLen cdl len : Nat} {reply : Buffer → AecpReply}
    (h : Answered c cdl len reply) :
    Replies c minLen cdl len fun slot => if c.pduLen < minLen then none else reply slot := by
  constructor
  · intro hlen
    simp only [if_neg (Nat.not_lt.mpr hlen)]
    exact h
  · intro hlen slot
    exact if_pos hlen

/-- The fields of a response follow each other. -/
theorem replies_contiguous (s : Avdecc) (c : AecpCommand) {fields : List (Nat × List UInt8)}
    {status : UInt8} {cdl : UInt16} {minLen n len : Nat} (hfields : Contiguous 24 fields)
    (hn : (fields.flatMap Prod.snd).length = n) (hcdl : (cdl &&& 0x7FF).toNat = 12 + n) :
    Replies c minLen (12 + n) len fun slot =>
      if c.pduLen < minLen then none
      else aecpRespond s (c.withSlot slot) fields status cdl len :=
  replies_of_answered (aecpRespond_answered s c len (hn ▸ fills_contiguous hfields) hcdl)

-- ---------------------------------------------------------------------------
-- The AEM commands
-- ---------------------------------------------------------------------------

section Commands

variable (s : Avdecc) (c : AecpCommand)

@[simp] theorem withSlot_clockDomainStatus (slot : Buffer) :
    clockDomainStatus (c.withSlot slot) = clockDomainStatus c := rfl

@[simp] theorem withSlot_setClockSourceStatus (slot : Buffer) :
    setClockSourceStatus (c.withSlot slot) = setClockSourceStatus c := rfl

/-- The controller's id is written over a part of the echo. -/
theorem aemAcquireOrLock_replies (releaseFlag : UInt32) :
    Replies c 40 28 64 fun slot => aemAcquireOrLock s (c.withSlot slot) releaseFlag := by
  dsimp +instances only [aemAcquireOrLock, withSlot_pduLen, withSlot_echo, withSlot_pdu]
  refine replies_of_answered (aecpRespond_answered s c 64 (n := 16) ?_ rfl)
  intro i
  split
  all_goals
    simp
    omega

theorem aemSetStreamFormat_replies :
    Replies c 36 24 64 fun slot => aemSetStreamFormat s (c.withSlot slot) := by
  simp only [aemSetStreamFormat, withSlot_pduLen, withSlot_echo, withSlot_field]
  refine replies_contiguous s c (n := 12) ?_ ?_ rfl
  · simp [Contiguous]
  · simp

theorem aemGetClockSource_replies :
    Replies c 28 20 64 fun slot => aemGetClockSource s (c.withSlot slot) := by
  simp only [aemGetClockSource, withSlot_pduLen, withSlot_echo, withSlot_clockDomainStatus]
  refine replies_contiguous s c (n := 8) ?_ ?_ rfl
  · simp [Contiguous]
  · simp

theorem aemGetAsPath_replies :
    Replies c 26 24 64 fun slot => aemGetAsPath s (c.withSlot slot) := by
  simp only [aemGetAsPath, withSlot_pduLen, withSlot_field, withSlot_gptp]
  refine replies_contiguous s c (n := 12) ?_ ?_ rfl
  · simp [Contiguous]
  · simp

theorem aemGetAvbInfo_replies :
    Replies c 28 36 68 fun slot => aemGetAvbInfo s (c.withSlot slot) := by
  dsimp +instances only [aemGetAvbInfo, withSlot_pduLen, withSlot_field, withSlot_gptp, withSlot_srp]
  refine replies_contiguous s c (n := 24) ?_ ?_ rfl
  · simp [Contiguous]
  · simp

theorem aemGetAudioMap_replies :
    Replies c 30 24 64 fun slot => aemGetAudioMap s (c.withSlot slot) := by
  simp only [aemGetAudioMap, withSlot_pduLen, withSlot_field]
  refine replies_contiguous s c (n := 12) ?_ ?_ rfl
  · simp [Contiguous]
  · simp

theorem aemGetMaxTransitTime_replies :
    Replies c 28 24 64 fun slot => aemGetMaxTransitTime s (c.withSlot slot) := by
  dsimp +instances only [aemGetMaxTransitTime, withSlot_pduLen, withSlot_field]
  refine replies_contiguous s c (n := 12) ?_ ?_ rfl
  · simp [Contiguous]
  · simp

theorem aemGetCounters_replies :
    Replies c 28 148 174 fun slot => aemGetCounters s (c.withSlot slot) := by
  simp only [aemGetCounters, withSlot_pduLen, withSlot_field]
  refine replies_contiguous s c (n := 136) ?_ ?_ rfl
  · simp [Contiguous]
  · simp

theorem aemGetName_replies :
    Replies c 32 84 110 fun slot => aemGetName s (c.withSlot slot) := by
  dsimp +instances only [aemGetName, withSlot_pduLen, withSlot_field]
  refine replies_contiguous s c (n := 72) ?_ ?_ rfl
  · simp [Contiguous]
  · simp

theorem aemGetStreamFormat_replies :
    Replies c 28 24 64 fun slot => aemGetStreamFormat s (c.withSlot slot) := by
  simp only [aemGetStreamFormat, withSlot_pduLen, withSlot_field, withSlot_echo]
  cases descriptorFormat (c.field 24) (c.field 26) with
  | none =>
    refine replies_contiguous s c (n := 12) ?_ ?_ rfl
    · simp [Contiguous]
    · simp
  | some fmt =>
    refine replies_contiguous s c (n := 12) ?_ ?_ rfl
    · simp [Contiguous]
    · simp

theorem aemGetStreamInfo_replies :
    Replies c 28 68 94 fun slot => aemGetStreamInfo s (c.withSlot slot) := by
  simp only [aemGetStreamInfo, withSlot_pduLen, withSlot_field, withSlot_echo]
  cases solicitedStreamInfo s (c.field 24) (c.field 26) with
  | none =>
    refine replies_contiguous s c (n := 56) ?_ ?_ rfl
    · simp [Contiguous]
    · simp
  | some info =>
    refine replies_contiguous s c (n := 56) ?_ ?_ rfl
    · simp [Contiguous]
    · simp

@[simp] theorem layout_length (n : Nat) (fields : List (Nat × List UInt8)) :
    (layout n fields).length = n := Buffer.length_take ..

/-- One branch of a chain. -/
theorem of_ite_eq {α : Type} {p Q : Prop} [Decidable p] {a b x : α} (h : (if p then a else b) = x)
    (hpos : p → a = x → Q) (hneg : ¬ p → b = x → Q) : Q := by
  by_cases hp : p
  · exact hpos hp ((if_pos hp).symm.trans h)
  · exact hneg hp ((if_neg hp).symm.trans h)

theorem length_of_ite {p : Prop} [Decidable p] {bytes desc : List UInt8} {n : Nat}
    (h : (if p then none else some bytes) = some desc) (hn : bytes.length = n) :
    desc.length = n :=
  of_ite_eq h (fun _ h => nomatch h) fun _ h => by rw [← Option.some.inj h, hn]

theorem buildDescStreamInput_length {idx : UInt16} {desc : List UInt8}
    (h : buildDescStreamInput idx = some desc) : desc.length = 140 := by
  unfold buildDescStreamInput at h
  split_ifs at h
  all_goals
    rw [← Option.some.inj h]
    exact layout_length ..

theorem buildDescClockSource_length {idx : UInt16} {s : Avdecc} {desc : List UInt8}
    (h : buildDescClockSource idx s = some desc) : desc.length = 86 := by
  unfold buildDescClockSource at h
  split_ifs at h
  all_goals
    rw [← Option.some.inj h]
    exact layout_length ..

theorem stringsDescriptor_length :
    (be16 aemDescStrings ++ be16 0 ++
      ["N-Series", "AVB-AES3 Endpoint", "Audio Unit", "Media Clock Input", "Audio Input",
        "Audio Output", "Clock Domain"].flatMap name64).length = 452 := by
  simp

/-- Which builder a descriptor is from. -/
inductive Built (s : Avdecc) (g : Gptp) : UInt16 → UInt16 → List UInt8 → Prop
  | entity (h : buildDescEntity di s = some d) : Built s g aemDescEntity di d
  | configuration (h : buildDescConfiguration di = some d) : Built s g aemDescConfiguration di d
  | audioUnit (h : buildDescAudioUnit di = some d) : Built s g aemDescAudioUnit di d
  | streamInput (h : buildDescStreamInput di = some d) : Built s g aemDescStreamInput di d
  | streamOutput (h : buildDescStreamOutput di = some d) : Built s g aemDescStreamOutput di d
  | avbInterface (h : buildDescAvbInterface di s g = some d) : Built s g aemDescAvbInterface di d
  | clockSource (h : buildDescClockSource di s = some d) : Built s g aemDescClockSource di d
  | clockDomain (h : buildDescClockDomain di s = some d) : Built s g aemDescClockDomain di d
  | locale (h : buildDescLocale di = some d) : Built s g aemDescLocale di d
  | strings (h : buildDescStrings di = some d) : Built s g aemDescStrings di d
  | portInput (h : buildDescStreamPort aemDescStreamPortInput di = some d) :
    Built s g aemDescStreamPortInput di d
  | portOutput (h : buildDescStreamPort aemDescStreamPortOutput di = some d) :
    Built s g aemDescStreamPortOutput di d

section Builders

variable {s : Avdecc} {g : Gptp} {dt di : UInt16} {desc : List UInt8}

theorem buildDescriptor_built (h : buildDescriptor dt di s g = some desc) :
    Built s g dt di desc := by
  unfold buildDescriptor at h
  refine of_ite_eq h (fun hdt h => hdt ▸ .entity h) fun _ h => ?_
  refine of_ite_eq h (fun hdt h => hdt ▸ .configuration h) fun _ h => ?_
  refine of_ite_eq h (fun hdt h => hdt ▸ .audioUnit h) fun _ h => ?_
  refine of_ite_eq h (fun hdt h => hdt ▸ .streamInput h) fun _ h => ?_
  refine of_ite_eq h (fun hdt h => hdt ▸ .streamOutput h) fun _ h => ?_
  refine of_ite_eq h (fun hdt h => hdt ▸ .avbInterface h) fun _ h => ?_
  refine of_ite_eq h (fun hdt h => hdt ▸ .clockSource h) fun _ h => ?_
  refine of_ite_eq h (fun hdt h => hdt ▸ .clockDomain h) fun _ h => ?_
  refine of_ite_eq h (fun hdt h => hdt ▸ .locale h) fun _ h => ?_
  refine of_ite_eq h (fun hdt h => hdt ▸ .strings h) fun _ h => ?_
  refine of_ite_eq h (fun hdt h => ?_) fun _ h => nomatch h
  rcases hdt with rfl | rfl
  · exact .portInput h
  · exact .portOutput h

/-- Only the stream ports' descriptors are short, and none is long. -/
theorem buildDescriptor_length (h : buildDescriptor dt di s g = some desc) :
    desc.length ≤ 452 ∧ (desc.length < 22 ↔
      dt = aemDescStreamPortInput ∨ dt = aemDescStreamPortOutput) := by
  cases buildDescriptor_built h with
  | streamInput h => rw [buildDescStreamInput_length h]; decide
  | clockSource h => rw [buildDescClockSource_length h]; decide
  | strings h => rw [length_of_ite h stringsDescriptor_length]; decide
  | _ h => rw [length_of_ite h (layout_length ..)]; decide

end Builders

def readDescriptorCdl (s : Avdecc) (c : AecpCommand) : Nat :=
  16 + ((buildDescriptor (c.field 28) (c.field 30) s c.gptp).getD []).length

def readDescriptorLen (s : Avdecc) (c : AecpCommand) : Nat :=
  match buildDescriptor (c.field 28) (c.field 30) s c.gptp with
  | none => 42
  | some desc => max 64 (42 + desc.length)

theorem aemReadDescriptor_replies :
    Replies c 32 (readDescriptorCdl s c) (readDescriptorLen s c) fun slot =>
      aemReadDescriptor s (c.withSlot slot) := by
  unfold readDescriptorCdl readDescriptorLen
  simp only [aemReadDescriptor, withSlot_pduLen, withSlot_field, withSlot_gptp]
  cases hdesc : buildDescriptor (c.field 28) (c.field 30) s c.gptp with
  | none =>
    refine replies_contiguous s c (n := 4) ?_ ?_ rfl
    · simp [Contiguous]
    · simp
  | some desc =>
    obtain ⟨hmax, -⟩ := buildDescriptor_length hdesc
    have hcdl : ((16 + desc.length.toUInt16 : UInt16) &&& 0x7FF).toNat = 12 + (4 + desc.length) := by
      have hmask := Nat.and_two_pow_sub_one_eq_mod (16 + desc.length) 11
      have hsum : (16 + desc.length.toUInt16 : UInt16).toNat = 16 + desc.length := by
        have hsize : desc.length < UInt16.size := Nat.lt_of_le_of_lt hmax (by decide)
        have hsixteen : (16 : UInt16).toNat = 16 := rfl
        rw [UInt16.toNat_add, Nat.toUInt16_eq, UInt16.toNat_ofNat_of_lt' hsize, hsixteen]
        omega
      rw [UInt16.toNat_and, hsum]
      refine hmask.trans ?_
      omega
    rw [Option.getD_some, show 16 + desc.length = 12 + (4 + desc.length) by omega]
    refine replies_contiguous s c ?_ ?_ hcdl
    · simp [Contiguous]
    · simp
      omega

/-- What the register commands answer: nothing but the header. -/
theorem header_replies (s : Avdecc) : Replies c 0 12 64 fun slot =>
    aecpRespond s (c.withSlot slot) [] aecpStatusSuccess 12 64 :=
  ⟨fun _ => aecpRespond_answered s c 64 (@fills_contiguous 24 [] trivial) rfl,
    fun h => absurd h (Nat.not_lt_zero _)⟩

theorem aemRegisterUnsolicited_replies : Replies c 0 12 64 fun slot =>
    (aemRegisterUnsolicited s (c.withSlot slot)).2 :=
  header_replies c (registerUnsolicited s ((c.pdu.offset aecpOffControllerId).bytes 8)
    ((c.frame.offset 6).bytes 6))

theorem aemDeregisterUnsolicited_replies : Replies c 0 12 64 fun slot =>
    (aemDeregisterUnsolicited s (c.withSlot slot)).2 :=
  header_replies c (deregisterUnsolicited s ((c.pdu.offset aecpOffControllerId).bytes 8))

theorem aemSetClockSource_replies :
    Replies c 32 20 64 fun slot => (aemSetClockSource s (c.withSlot slot)).2 := by
  have hreply (slot : Buffer) : (aemSetClockSource s (c.withSlot slot)).2 =
      if c.pduLen < 32 then none
      else aecpRespond (if setClockSourceStatus c = aecpStatusSuccess then
          { s with currentClockSource := c.field 28 } else s) (c.withSlot slot)
        [(24, c.echo 24 4),
          (28, be16 (if setClockSourceStatus c = aecpStatusSuccess then
            { s with currentClockSource := c.field 28 } else s).currentClockSource), (30, be16 0)]
        (setClockSourceStatus c) 20 64 := by
    unfold aemSetClockSource
    rw [withSlot_pduLen]
    split <;> rfl
  simp only [hreply]
  refine replies_contiguous _ c (n := 8) ?_ ?_ rfl
  · simp [Contiguous]
  · simp

end Commands

/-- The shortest PDU a command is answered for, the control data length of
the answer and the length it is sent with. -/
structure AemShape where
  minLen : Nat
  cdl : Nat
  len : Nat

/-- Of every command the `switch` knows. -/
def aemShape (s : Avdecc) (c : AecpCommand) (cmdType : UInt16) : Option AemShape :=
  if cmdType = aemCmdReadDescriptor then some ⟨32, readDescriptorCdl s c, readDescriptorLen s c⟩
  else if cmdType = aemCmdAcquireEntity then some ⟨40, 28, 64⟩
  else if cmdType = aemCmdLockEntity then some ⟨40, 28, 64⟩
  else if cmdType = aemCmdGetStreamFormat then some ⟨28, 24, 64⟩
  else if cmdType = aemCmdSetStreamFormat then some ⟨36, 24, 64⟩
  else if cmdType = aemCmdGetClockSource then some ⟨28, 20, 64⟩
  else if cmdType = aemCmdGetAsPath then some ⟨26, 24, 64⟩
  else if cmdType = aemCmdGetAvbInfo then some ⟨28, 36, 68⟩
  else if cmdType = aemCmdGetCounters then some ⟨28, 148, 174⟩
  else if cmdType = aemCmdGetAudioMap then some ⟨30, 24, 64⟩
  else if cmdType = aemCmdRegisterUnsolicited then some ⟨0, 12, 64⟩
  else if cmdType = aemCmdDeregisterUnsolicited then some ⟨0, 12, 64⟩
  else if cmdType = aemCmdGetMaxTransitTime then some ⟨28, 24, 64⟩
  else if cmdType = aemCmdGetStreamInfo then some ⟨28, 68, 94⟩
  else if cmdType = aemCmdSetClockSource then some ⟨32, 20, 64⟩
  else if cmdType = aemCmdGetName then some ⟨32, 84, 110⟩
  else none

section Switch

variable {c : AecpCommand} {p : Prop} [Decidable p] {a : AemShape} {rest : Option AemShape}

theorem replies_ite {reply next : Buffer → Avdecc × AecpReply}
    (h : Replies c a.minLen a.cdl a.len fun slot => (reply slot).2)
    (hnext : ∀ shape ∈ rest, Replies c shape.minLen shape.cdl shape.len fun slot => (next slot).2) :
    ∀ shape ∈ if p then some a else rest, Replies c shape.minLen shape.cdl shape.len fun slot =>
      (if p then reply slot else next slot).2 := by
  intro shape hshape
  by_cases hp : p
  · rw [if_pos hp] at hshape
    obtain rfl := Option.some.inj hshape
    simpa only [if_pos hp] using h
  · rw [if_neg hp] at hshape
    simpa only [if_neg hp] using hnext shape hshape

theorem unknown_ite {reply next : Avdecc × AecpReply} (h : (if p then some a else rest) = none) :
    rest = none ∧ (if p then reply else next) = next := by
  by_cases hp : p
  · rw [if_pos hp] at h
    cases h
  · rw [if_neg hp] at h
    exact ⟨h, if_neg hp⟩

theorem len_ite (h : 26 + a.cdl ≤ a.len) (hrest : ∀ shape ∈ rest, 26 + shape.cdl ≤ shape.len) :
    ∀ shape ∈ if p then some a else rest, 26 + shape.cdl ≤ shape.len := by
  intro shape hshape
  split at hshape
  · obtain rfl := Option.some.inj hshape
    exact h
  · exact hrest shape hshape

end Switch

theorem aemCommand_replies (s : Avdecc) (c : AecpCommand) (cmdType : UInt16) :
    ∀ shape ∈ aemShape s c cmdType, Replies c shape.minLen shape.cdl shape.len fun slot =>
      (aemCommand s (c.withSlot slot) cmdType).2 := by
  unfold aemShape aemCommand
  refine replies_ite (aemReadDescriptor_replies s c) ?_
  refine replies_ite (aemAcquireOrLock_replies s c 0x80000000) ?_
  refine replies_ite (aemAcquireOrLock_replies s c 0x00000001) ?_
  refine replies_ite (aemGetStreamFormat_replies s c) ?_
  refine replies_ite (aemSetStreamFormat_replies s c) ?_
  refine replies_ite (aemGetClockSource_replies s c) ?_
  refine replies_ite (aemGetAsPath_replies s c) ?_
  refine replies_ite (aemGetAvbInfo_replies s c) ?_
  refine replies_ite (aemGetCounters_replies s c) ?_
  refine replies_ite (aemGetAudioMap_replies s c) ?_
  refine replies_ite (aemRegisterUnsolicited_replies s c) ?_
  refine replies_ite (aemDeregisterUnsolicited_replies s c) ?_
  refine replies_ite (aemGetMaxTransitTime_replies s c) ?_
  refine replies_ite (aemGetStreamInfo_replies s c) ?_
  refine replies_ite (aemSetClockSource_replies s c) ?_
  refine replies_ite (aemGetName_replies s c) ?_
  rintro shape ⟨⟩

theorem aemCommand_unknown (s : Avdecc) (c : AecpCommand) {cmdType : UInt16}
    (h : aemShape s c cmdType = none) : aemCommand s c cmdType = (s, aemNotImplemented s c) := by
  unfold aemShape at h
  unfold aemCommand
  iterate 16
    obtain ⟨hrest, heq⟩ := unknown_ite h
    refine heq.trans ?_
    clear h heq
    rename' hrest => h
  rfl

/-- A response to a known command is as long as it says. -/
theorem aemShape_len (s : Avdecc) (c : AecpCommand) (cmdType : UInt16) :
    ∀ shape ∈ aemShape s c cmdType, 26 + shape.cdl ≤ shape.len := by
  have hread : 26 + readDescriptorCdl s c ≤ readDescriptorLen s c := by
    unfold readDescriptorCdl readDescriptorLen
    split
    · rename_i hnone
      rw [hnone]
      decide
    · rename_i hsome
      rw [hsome, Option.getD_some]
      omega
  unfold aemShape
  refine len_ite hread ?_
  iterate 15 refine len_ite (by decide) ?_
  rintro shape ⟨⟩

-- ---------------------------------------------------------------------------
-- Unknown AEM commands
-- ---------------------------------------------------------------------------

/-- The control data length a command claims. -/
def AecpCommand.cdl (c : AecpCommand) : Nat := (c.field 2 &&& 0x7FF).toNat

/-- What an unknown command is echoed into. -/
def aemEcho (s : Avdecc) (c : AecpCommand) (slot : Buffer) : Buffer :=
  aecpSetStatusCdl (putPdu (putPdu (unicastHeader slot s.srcMac c.frame) 0
    (c.echo 0 (min 500 (12 + c.cdl)))) 0 [avtpSubtypeAecp, aecpMsgAemResponse])
    aecpStatusNotImplemented (c.field 2 &&& 0x7FF)

theorem aemNotImplemented_eq (s : Avdecc) (c : AecpCommand) (slot : Buffer) :
    aemNotImplemented s (c.withSlot slot) =
      some (aemEcho s c slot, max 64 (14 + min 500 (12 + c.cdl))) := rfl

section Echo

variable (s : Avdecc) (c : AecpCommand)

theorem aemEcho_overwrites :
    Overwrites (aemEcho s c) (Set.Iio (14 + min 500 (12 + c.cdl))) := by
  refine ((((overwrites_unicastHeader s.srcMac c.frame).comp (overwrites_putPdu 0
    (c.echo 0 (min 500 (12 + c.cdl))))).comp (overwrites_putPdu 0
      [avtpSubtypeAecp, aecpMsgAemResponse])).comp (overwrites_aecpSetStatusCdl
        aecpStatusNotImplemented (c.field 2 &&& 0x7FF))).of_eq ?_
  ext i
  simp only [echo_length, List.length_cons, List.length_nil, Set.mem_union, Set.mem_Ico,
    Set.mem_Iio]
  omega

theorem aemEcho_cdl (slot : Buffer) : responseCdl (aemEcho s c slot) = c.cdl := by
  rw [aemEcho, responseCdl_aecpSetStatusCdl, UInt16.and_assoc]
  rfl

theorem aemEcho_requester (slot : Buffer) {i : Nat} (h : i < 6) :
    aemEcho s c slot i = c.frame (6 + i) := by
  rw [aemEcho, aecpSetStatusCdl, putPdu, putPdu, putPdu, Buffer.copy_outside (.inl (by omega)),
    Buffer.copy_outside (.inl (by omega)), Buffer.copy_outside (.inl (by omega))]
  exact unicastHeader_requester slot s.srcMac c.frame h

theorem aemEcho_msgType (slot : Buffer) : aemEcho s c slot 15 = aecpMsgAemResponse := by
  rw [aemEcho, aecpSetStatusCdl, putPdu, putPdu, Buffer.copy_outside (.inl (by decide))]
  rfl

theorem aemEcho_body (slot : Buffer) {i : Nat} (hle : 18 ≤ i)
    (hlt : i < 14 + min 500 (12 + c.cdl)) : aemEcho s c slot i = c.frame i := by
  rw [aemEcho, aecpSetStatusCdl, putPdu, putPdu, putPdu,
    Buffer.copy_outside (.inr (by rw [be16_length]; omega)),
    Buffer.copy_outside (.inr (by simp; omega))]
  have hget : i - 14 < min 500 (12 + c.cdl) := by omega
  have hi : 14 + (i - 14) = i := by omega
  have hat : 14 ≤ i := by omega
  simp [Buffer.copy, AecpCommand.echo, Buffer.take, AecpCommand.pdu, hat, hget, hi]

theorem aemEcho_beyond (slot : Buffer) {i : Nat} (h : 14 + min 500 (12 + c.cdl) ≤ i) :
    aemEcho s c slot i = slot i :=
  (aemEcho_overwrites s c).rest slot i (Nat.not_lt.mpr h)

end Echo

-- ---------------------------------------------------------------------------
-- Milan vendor-unique commands
-- ---------------------------------------------------------------------------

section Milan

variable (s : Avdecc) (c : AecpCommand)

/-- The command type of a vendor-unique command. -/
def mvuCmdType : UInt16 := c.field 28 &&& 0x7FFF

def mvuBegin (slot : Buffer) : Buffer := mvuHeader s (c.withSlot slot) (mvuCmdType c)

theorem mvuBegin_overwrites : Overwrites (mvuBegin s c) (Set.Iio 44) := by
  refine ((((overwrites_unicastHeader s.srcMac c.frame).comp (overwrites_putPdu 0
    (c.echo 0 30))).comp (overwrites_putPdu 1 [aecpMsgVendorUniqueResponse])).comp
      (overwrites_putPdu 28 (be16 (mvuCmdType c)))).of_eq ?_
  ext i
  simp only [echo_length, be16_length, List.length_cons, List.length_nil, Set.mem_union,
    Set.mem_Ico, Set.mem_Iio]
  omega

theorem mvuBegin_requester (slot : Buffer) {i : Nat} (h : i < 6) :
    mvuBegin s c slot i = c.frame (6 + i) := by
  rw [mvuBegin, mvuHeader, putPdu, putPdu, putPdu, Buffer.copy_outside (.inl (by omega)),
    Buffer.copy_outside (.inl (by omega)), Buffer.copy_outside (.inl (by omega))]
  exact unicastHeader_requester slot s.srcMac c.frame h

theorem mvuBegin_msgType (slot : Buffer) :
    mvuBegin s c slot 15 = aecpMsgVendorUniqueResponse := rfl

theorem mvuBegin_header (slot : Buffer) {i : Nat} (hle : 18 ≤ i) (hlt : i < 42) :
    mvuBegin s c slot i = c.frame i := by
  rw [mvuBegin, mvuHeader, putPdu, putPdu, putPdu, Buffer.copy_outside (.inl (by omega)),
    Buffer.copy_outside (.inr (by simp; omega))]
  have hget : i - 14 < 30 := by omega
  have hi : 14 + (i - 14) = i := by omega
  have hat : 14 ≤ i := by omega
  simp [Buffer.copy, AecpCommand.echo, Buffer.take, AecpCommand.pdu, hat, hget, hi]

theorem mvuBegin_cmdType (slot : Buffer) :
    getBe16 (((mvuBegin s c slot).offset 14).offset 28) &&& 0x7FFF = mvuCmdType c := by
  have hholds : (mvuBegin s c slot).Holds 42 (be16 (mvuCmdType c)) :=
    Buffer.holds_copy_at _ 42 _
  have hcmd : getBe16 (((mvuBegin s c slot).offset 14).offset 28) = mvuCmdType c := by
    refine Eq.trans (getBe16_congr fun i hi => ?_) hholds.getBe16
    exact congrArg (mvuBegin s c slot) (by omega)
  rw [hcmd, mvuCmdType, UInt16.and_assoc]
  rfl

/-- What is written behind the header keeps it. -/
theorem mvuBegin_echoes {slot response : Buffer}
    (hkept : ∀ i < 44, i < 16 ∨ 18 ≤ i → response i = mvuBegin s c slot i) :
    Echoes c aecpMsgVendorUniqueResponse 28 response := by
  refine echoes_of_header (fun i hi => ?_) ?_ (fun i hle hlt => ?_) ?_
  · exact (hkept i (by omega) (by omega)).trans (mvuBegin_requester s c slot hi)
  · exact congrArg (· &&& 0x0F) ((hkept 15 (by omega) (by omega)).trans
      (mvuBegin_msgType s c slot))
  · exact (hkept i (by omega) (by omega)).trans (mvuBegin_header s c slot hle (by omega))
  · refine Eq.trans (congrArg (· &&& 0x7FFF) (getBe16_congr fun i hi => ?_))
      (mvuBegin_cmdType s c slot)
    exact hkept (14 + (28 + i)) (by omega) (by omega)

theorem mvuMilanInfo_answers : Answers c aecpMsgVendorUniqueResponse 28 32 fun slot =>
    mvuMilanInfo (mvuBegin s c slot) := by
  have hfields := (((overwrites_putPdu 30 (be16 0)).comp (overwrites_putPdu 32 (be32 1))).comp
    (overwrites_putPdu 36 (be32 0))).comp (overwrites_putPdu 40 (be32 0x01020000))
  have hall := hfields.comp (overwrites_aecpSetStatusCdl aecpStatusSuccess 32)
  refine ⟨((mvuBegin_overwrites s c).comp hall).of_eq ?_, fun slot => ?_, fun slot => ?_⟩
  · ext i
    simp only [be16_length, be32_length, Set.mem_union, Set.mem_Ico, Set.mem_Iio]
    omega
  · exact responseCdl_aecpSetStatusCdl ..
  · refine mvuBegin_echoes s c fun i hi hstatus => hall.rest _ i ?_
    simp only [be16_length, be32_length, Set.mem_union, Set.mem_Ico]
    omega

/-- The talker of a stream input, and how far the input has come. -/
def mvuTalker (s : Avdecc) (dt di : UInt16) : List UInt8 × UInt8 :=
  match if dt = aemDescStreamInput then listenerUid? di else none with
  | some uid =>
    let l := s.listeners uid
    if l.connected then (l.talkerId.toList ++ be16 l.talkerUid, 3) else (zeros 10, 0)
  | none => (zeros 10, 0)

theorem mvuTalker_length (dt di : UInt16) : (mvuTalker s dt di).1.length = 10 := by
  unfold mvuTalker
  split
  · dsimp only
    split
    · simp
    · simp
  · simp

theorem mvuStreamInputInfoEx_answers : Answers c aecpMsgVendorUniqueResponse 28 36 fun slot =>
    mvuStreamInputInfoEx s (c.withSlot slot) (mvuBegin s c slot) := by
  have htalker := mvuTalker_length s (c.field 30) (c.field 32)
  have hfields := (((((overwrites_putPdu 30 (be16 0)).comp
    (overwrites_putPdu 32 (be16 (c.field 30)))).comp
      (overwrites_putPdu 34 (be16 (c.field 32)))).comp
        (overwrites_putPdu 36 (mvuTalker s (c.field 30) (c.field 32)).1)).comp
          (overwrites_putPdu 46 [((mvuTalker s (c.field 30) (c.field 32)).2 &&& 0x07) <<< 5])).comp
            (overwrites_putPdu 47 [0])
  have hall := hfields.comp (overwrites_aecpSetStatusCdl aecpStatusSuccess 36)
  refine ⟨((mvuBegin_overwrites s c).comp hall).of_eq ?_, fun slot => ?_, fun slot => ?_⟩
  · ext i
    simp only [htalker, be16_length, List.length_cons, List.length_nil, Set.mem_union,
      Set.mem_Ico, Set.mem_Iio]
    omega
  · exact responseCdl_aecpSetStatusCdl ..
  · refine mvuBegin_echoes s c fun i hi hstatus => hall.rest _ i ?_
    simp only [htalker, be16_length, List.length_cons, List.length_nil, Set.mem_union, Set.mem_Ico]
    omega

/-- How much of an unknown command is echoed. -/
def mvuEchoLen : Nat := min c.pduLen (min 500 (12 + c.cdl))

def mvuEcho (slot : Buffer) : Buffer :=
  aecpSetStatusCdl (putPdu (putPdu (mvuBegin s c slot) 0 (c.echo 0 (mvuEchoLen c))) 1
    [aecpMsgVendorUniqueResponse]) aecpStatusNotImplemented (c.field 2 &&& 0x7FF)

theorem mvuEcho_overwrites :
    Overwrites (mvuEcho s c) (Set.Iio (14 + max 30 (mvuEchoLen c))) := by
  refine ((((mvuBegin_overwrites s c).comp (overwrites_putPdu 0 (c.echo 0 (mvuEchoLen c)))).comp
    (overwrites_putPdu 1 [aecpMsgVendorUniqueResponse])).comp (overwrites_aecpSetStatusCdl
      aecpStatusNotImplemented (c.field 2 &&& 0x7FF))).of_eq ?_
  ext i
  simp only [echo_length, List.length_cons, List.length_nil, Set.mem_union, Set.mem_Ico,
    Set.mem_Iio]
  omega

theorem mvuEcho_cdl (slot : Buffer) : responseCdl (mvuEcho s c slot) = c.cdl := by
  rw [mvuEcho, responseCdl_aecpSetStatusCdl, UInt16.and_assoc]
  rfl

/-- A byte of the header is the header's or the request's. -/
theorem mvuEcho_header (slot : Buffer) {i : Nat} (h : i ≠ 15) (hstatus : i < 16 ∨ 18 ≤ i) :
    mvuEcho s c slot i = mvuBegin s c slot i ∨ 14 ≤ i ∧ mvuEcho s c slot i = c.frame i := by
  rw [mvuEcho, aecpSetStatusCdl, putPdu, putPdu, putPdu,
    Buffer.copy_outside (by rw [be16_length]; omega), Buffer.copy_outside (by simp; omega)]
  by_cases hecho : 14 ≤ i ∧ i < 14 + mvuEchoLen c
  · have hget : i - 14 < mvuEchoLen c := by omega
    have hi : 14 + (i - 14) = i := by omega
    right
    refine ⟨hecho.1, ?_⟩
    simp [Buffer.copy, AecpCommand.echo, Buffer.take, AecpCommand.pdu, hecho.1, hget, hi]
  · left
    refine Buffer.copy_outside ?_
    rw [echo_length]
    omega

theorem mvuEcho_echoes (slot : Buffer) :
    Echoes c aecpMsgVendorUniqueResponse 28 (mvuEcho s c slot) := by
  have hmsgType : mvuEcho s c slot 15 = aecpMsgVendorUniqueResponse := rfl
  refine echoes_of_header (fun i hi => ?_) (congrArg (· &&& 0x0F) hmsgType)
    (fun i hle hlt => ?_) ?_
  · rcases mvuEcho_header s c slot (i := i) (by omega) (by omega) with hbegin | ⟨hat, -⟩
    · exact hbegin.trans (mvuBegin_requester s c slot hi)
    · omega
  · rcases mvuEcho_header s c slot (i := i) (by omega) (by omega) with hbegin | ⟨-, hframe⟩
    · exact hbegin.trans (mvuBegin_header s c slot hle (by omega))
    · exact hframe
  · have hbegin := cmdType_eq_iff.mp (mvuBegin_cmdType s c slot)
    refine cmdType_eq_iff.mpr ⟨?_, ?_⟩
    · rcases mvuEcho_header s c slot (i := 42) (by omega) (by omega) with h | ⟨-, h⟩
      · exact (congrArg (· &&& 0x7F) h).trans hbegin.1
      · exact congrArg (· &&& 0x7F) h
    · rcases mvuEcho_header s c slot (i := 43) (by omega) (by omega) with h | ⟨-, h⟩
      · exact h.trans hbegin.2
      · exact h

end Milan

end AvbAes3
