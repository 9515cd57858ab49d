import AvbAes3.AecpReceived

/-!
# What an AECP response reveals

A command is handled over memory that older frames have left in the receive
buffer behind it and in the transmit slot. This says of every command when
neither is seen: in the response, in whether there is one, or in the state.
-/

namespace AvbAes3

open AecpResponses

def AecpCommand.withFrame (c : AecpCommand) (frame : Buffer) : AecpCommand :=
  { c with frame := frame }

namespace AecpLeaks

/-- The same state, and the same bytes sent. -/
structure SameOutcome (o o' : AecpOutcome) : Prop where
  state : o'.state = o.state
  sent : o'.sent = o.sent
  bytes : ∀ n, o.sent = some n → ∀ i < n, o'.slot i = o.slot i

/-- The same as far as it was received. -/
def Agrees (c : AecpCommand) (frame : Buffer) : Prop := ∀ i < 14 + c.pduLen, frame i = c.frame i

/-- Whatever is behind the received bytes and in the transmit slot. -/
def LeaksNothing (s : Avdecc) (c : AecpCommand) : Prop :=
  ∀ frame slot, Agrees c frame →
    SameOutcome (aecpHandle s c) (aecpHandle s ((c.withFrame frame).withSlot slot))

/-- What was received of the target is not our entity. -/
def NotForUs (s : Avdecc) (c : AecpCommand) : Prop :=
  ∃ i < 8, aecpOffTargetId + i < c.pduLen ∧ c.pdu (aecpOffTargetId + i) ≠ byteAt s.entityId i

/-- The shortest PDU a known command is answered for. -/
def aemMinLen (cmdType : UInt16) : Nat :=
  if cmdType ∈ [aemCmdReadDescriptor, aemCmdSetClockSource, aemCmdGetName] then 32
  else if cmdType ∈ [aemCmdAcquireEntity, aemCmdLockEntity] then 40
  else if cmdType = aemCmdSetStreamFormat then 36
  else if cmdType = aemCmdGetAudioMap then 30
  else if cmdType = aemCmdGetAsPath then 26
  else if cmdType ∈ [aemCmdRegisterUnsolicited, aemCmdDeregisterUnsolicited] then 0
  else 28

/-- READ_DESCRIPTOR for a stream port, the only short descriptor. -/
def ReadsStreamPort (c : AecpCommand) : Prop :=
  (c.field 28 = aemDescStreamPortInput ∨ c.field 28 = aemDescStreamPortOutput) ∧ c.field 30 = 0

/-- The commands whose answers are not padded. -/
def Unpadded (c : AecpCommand) (cmdType : UInt16) : Prop :=
  cmdType ∈ [aemCmdGetCounters, aemCmdGetStreamInfo, aemCmdGetName] ∨
    cmdType = aemCmdReadDescriptor ∧ ¬ ReadsStreamPort c

/-- An AEM command is seen not to be for us, or is long enough to be read
and not answered, answered without padding, or echoed as far as it was
received and without padding. -/
def AemContained (s : Avdecc) (c : AecpCommand) : Prop :=
  NotForUs s c ∨ 24 ≤ c.pduLen ∧
    if aemCmdType c ∈ aemCommands then
      c.pduLen < aemMinLen (aemCmdType c) ∨ Unpadded c (aemCmdType c)
    else 50 ≤ 12 + c.cdl ∧ min 500 (12 + c.cdl) ≤ c.pduLen

/-- The answers to the Milan commands are padded. -/
def MvuContained (s : Avdecc) (c : AecpCommand) : Prop :=
  mvuAccepts s c → mvuCmdType c ≠ mvuCmdGetMilanInfo ∧
    if mvuCmdType c = mvuCmdGetStreamInputInfoEx then c.pduLen < 34
    else 50 ≤ c.pduLen ∧ 50 ≤ 12 + c.cdl

def Contained (s : Avdecc) (c : AecpCommand) : Prop :=
  (c.pdu 1 &&& 0x0F = aecpMsgVendorUniqueCommand → MvuContained s c) ∧
    (c.pdu 1 &&& 0x0F = aecpMsgAemCommand → AemContained s c)

-- ---------------------------------------------------------------------------
-- Outcomes
-- ---------------------------------------------------------------------------

theorem Agrees.received {c : AecpCommand} {frame : Buffer} (h : Agrees c frame) (slot : Buffer) :
    AgreesOnReceived (c.withSlot slot) ((c.withFrame frame).withSlot slot) :=
  ⟨rfl, rfl, rfl, rfl, h⟩

theorem Agrees.refl (c : AecpCommand) : Agrees c c.frame := fun _ _ => rfl

theorem SameOutcome.symm {o o' : AecpOutcome} (h : SameOutcome o o') : SameOutcome o' o :=
  ⟨h.state.symm, h.sent.symm, fun n hn i hi => (h.bytes n (h.sent ▸ hn) i hi).symm⟩

theorem SameOutcome.trans {o o' o'' : AecpOutcome} (h : SameOutcome o o')
    (h' : SameOutcome o' o'') : SameOutcome o o'' :=
  ⟨h'.state.trans h.state, h'.sent.trans h.sent, fun n hn i hi =>
    (h'.bytes n (h.sent.trans hn) i hi).trans (h.bytes n hn i hi)⟩

section Outcomes

variable {s : Avdecc} {c : AecpCommand}

/-- Any two runs, not only those over the command's own memory. -/
theorem LeaksNothing.between (h : LeaksNothing s c) {frame frame' : Buffer}
    (hframe : Agrees c frame) (hframe' : Agrees c frame') (slot slot' : Buffer) :
    SameOutcome (aecpHandle s ((c.withFrame frame).withSlot slot))
      (aecpHandle s ((c.withFrame frame').withSlot slot')) :=
  (h frame slot hframe).symm.trans (h frame' slot' hframe')

theorem leaksNothing_silent (state : Avdecc) (h : ∀ frame slot, Agrees c frame →
    (aecpHandle s ((c.withFrame frame).withSlot slot)).state = state ∧
      (aecpHandle s ((c.withFrame frame).withSlot slot)).sent = none) : LeaksNothing s c := by
  intro frame slot hframe
  obtain ⟨hstate, hsent⟩ := h c.frame c.slot (.refl c)
  obtain ⟨hstate', hsent'⟩ := h frame slot hframe
  refine ⟨hstate'.trans hstate.symm, hsent'.trans hsent.symm, fun n hn => ?_⟩
  rw [show aecpHandle s c = aecpHandle s ((c.withFrame c.frame).withSlot c.slot) from rfl,
    hsent] at hn
  cases hn

/-- Of a response that is built alike from what was received, what the slot
held is seen where it is not overwritten. -/
theorem leaksNothing_iff {build : Buffer → Buffer} {w : Nat} (state : Avdecc) (len : Nat)
    (h : ∀ frame slot, Agrees c frame →
      aecpHandle s ((c.withFrame frame).withSlot slot) = ⟨state, build slot, some len⟩)
    (hw : Overwrites build (Set.Iio w)) : LeaksNothing s c ↔ len ≤ w := by
  constructor
  · intro hleaks
    by_contra hlt
    have hbytes := (hleaks.between (.refl c) (.refl c) (fun _ => 0) fun _ => 1).bytes len
    rw [h _ _ (.refl c), h _ _ (.refl c)] at hbytes
    have hbyte := hbytes rfl w (Nat.not_le.mp hlt)
    dsimp only at hbyte
    rw [hw.rest _ w (by simp), hw.rest _ w (by simp)] at hbyte
    exact absurd hbyte (by decide)
  · intro hle frame slot hframe
    have hown := h c.frame c.slot (.refl c)
    rw [show aecpHandle s c = aecpHandle s ((c.withFrame c.frame).withSlot c.slot) from rfl, hown,
      h frame slot hframe]
    refine ⟨rfl, rfl, fun n hn i hi => ?_⟩
    obtain rfl := Option.some.inj hn
    exact hw.own _ _ i (Set.mem_Iio.mpr (Nat.lt_of_lt_of_le hi hle))

end Outcomes

-- ---------------------------------------------------------------------------
-- AEM commands that were received
-- ---------------------------------------------------------------------------

/-- What the state becomes does not depend on the slot. -/
theorem aemCommand_state (s : Avdecc) (c : AecpCommand) (slot : Buffer) (cmdType : UInt16) :
    (aemCommand s (c.withSlot slot) cmdType).1 = (aemCommand s c cmdType).1 := by
  have hite {p : Prop} [Decidable p] {a a' b b' : Avdecc × AecpReply} (ha : a'.1 = a.1)
      (hb : b'.1 = b.1) : (if p then a' else b').1 = (if p then a else b).1 := by
    split
    · exact ha
    · exact hb
  have hclock : (aemSetClockSource s (c.withSlot slot)).1 = (aemSetClockSource s c).1 := by
    unfold aemSetClockSource
    rw [withSlot_pduLen]
    split <;> rfl
  unfold aemCommand
  iterate 14 refine hite rfl ?_
  exact hite hclock (hite rfl rfl)

section Aem

variable {s : Avdecc} {c : AecpCommand}

theorem target_congr {frame : Buffer} (hframe : Agrees c frame) (hlen : 24 ≤ c.pduLen) :
    targetsUs s (c.withFrame frame) = targetsUs s c := by
  have hid : ((c.withFrame frame).pdu.offset aecpOffTargetId).bytes 8 =
      (c.pdu.offset aecpOffTargetId).bytes 8 :=
    (hframe.received c.slot).id aecpOffTargetId (by
      rw [withSlot_pduLen]
      unfold aecpOffTargetId
      omega)
  rw [targetsUs, targetsUs, hid]

theorem message_congr {frame : Buffer} (hframe : Agrees c frame) (hlen : 4 ≤ c.pduLen) :
    (c.withFrame frame).pdu 1 = c.pdu 1 := (hframe.received c.slot).pdu (i := 1) (by
  rw [withSlot_pduLen]
  omega)

theorem cdl_congr {frame : Buffer} (hframe : Agrees c frame) (hlen : 4 ≤ c.pduLen) :
    (c.withFrame frame).cdl = c.cdl :=
  congrArg (fun field => (field &&& 0x7FF).toNat) ((hframe.received c.slot).field 2 hlen)

theorem cmdType_congr {frame : Buffer} (hframe : Agrees c frame) (hlen : 24 ≤ c.pduLen) :
    aemCmdType (c.withFrame frame) = aemCmdType c :=
  congrArg (· &&& 0x7FFF) ((hframe.received c.slot).field aecpOffCmdType (by
    rw [withSlot_pduLen]
    exact hlen))

variable (hmessage : c.pdu 1 &&& 0x0F = aecpMsgAemCommand) (htarget : targetsUs s c)
  (hlen : 24 ≤ c.pduLen)

include hmessage htarget hlen

theorem known_leaksNothing_iff {shape : AemShape}
    (hshape : aemShape (counted s) c (aemCmdType c) = some shape) :
    LeaksNothing s c ↔ c.pduLen < shape.minLen ∨ shape.len ≤ 26 + shape.cdl := by
  have hknown : aemCmdType c ∈ aemCommands := by
    by_contra hunknown
    rw [(aemShape_none_iff (counted s) c (aemCmdType c)).mpr hunknown] at hshape
    cases hshape
  have hreply (frame slot : Buffer) (hframe : Agrees c frame) :
      aecpHandle s ((c.withFrame frame).withSlot slot) = sentOutcome (aemReply s c slot) slot := by
    have hmessage' : (c.withFrame frame).pdu 1 &&& 0x0F = aecpMsgAemCommand := by
      rw [message_congr hframe (by omega), hmessage]
    have htarget' := (target_congr hframe hlen).trans htarget
    rw [aecpHandle_aem hmessage' htarget', aemReply, cmdType_congr hframe hlen,
      aemCommand_congr (hframe.received slot) hlen _ hknown, aemReply]
  obtain ⟨hanswered, hsilent⟩ := aemCommand_replies (counted s) c _ shape hshape
  have hstate (slot : Buffer) : (aemReply s c slot).1 = (aemReply s c c.slot).1 := by
    rw [aemReply, aemCommand_state, aemReply, aemCommand_state]
  by_cases hmin : c.pduLen < shape.minLen
  · refine iff_of_true (leaksNothing_silent (aemReply s c c.slot).1 fun frame slot hframe => ?_)
      (.inl hmin)
    rw [hreply frame slot hframe, sentOutcome_none (r := aemReply s c slot) (hsilent hmin slot)]
    exact ⟨hstate slot, rfl⟩
  · obtain ⟨build, hbuild, hanswers⟩ := hanswered (Nat.not_lt.mp hmin)
    rw [or_iff_right hmin]
    refine leaksNothing_iff { (aemReply s c c.slot).1 with
      aecpTxCount := (aemReply s c c.slot).1.aecpTxCount + 1 } shape.len
      (fun frame slot hframe => ?_) hanswers.overwrites
    have hsome : (aemReply s c slot).2 = some (build slot, shape.len) := hbuild slot
    rw [hreply frame slot hframe, sentOutcome, hsome]
    dsimp only
    rw [hstate slot]

/-- An unknown command is echoed without more where the echo was received
and is not padded. -/
theorem unknown_leaksNothing (hunknown : aemCmdType c ∉ aemCommands) (hpad : 50 ≤ 12 + c.cdl)
    (hecho : min 500 (12 + c.cdl) ≤ c.pduLen) : LeaksNothing s c := by
  refine (leaksNothing_iff { counted s with aecpTxCount := s.aecpTxCount + 1 }
    (max 64 (14 + min 500 (12 + c.cdl))) (fun frame slot hframe => ?_)
    (aemEcho_overwrites (counted s) c)).mpr (by omega)
  have hmessage' : (c.withFrame frame).pdu 1 &&& 0x0F = aecpMsgAemCommand := by
    rw [message_congr hframe (by omega), hmessage]
  have htarget' := (target_congr hframe hlen).trans htarget
  have hreceived := hframe.received slot
  have hfield : (c.withFrame frame).field 2 = c.field 2 :=
    hreceived.field 2 (by rw [withSlot_pduLen]; omega)
  have hcdl := cdl_congr hframe (by omega)
  have hcopy : (c.withFrame frame).echo 0 (min 500 (12 + c.cdl)) =
      c.echo 0 (min 500 (12 + c.cdl)) :=
    hreceived.echo 0 _ (by rw [withSlot_pduLen]; omega)
  have hheader := hreceived.unicastHeader slot (counted s).srcMac
  have hbuild : aemEcho (counted s) (c.withFrame frame) slot = aemEcho (counted s) c slot := by
    rw [aemEcho, hcdl, hcopy, hfield, aemEcho]
    exact congrArg (fun b => aecpSetStatusCdl (putPdu (putPdu b 0 _) 0 _) _ _) hheader
  have hshape : aemShape (counted s) ((c.withFrame frame).withSlot slot) (aemCmdType c) = none :=
    (aemShape_none_iff _ _ _).mpr hunknown
  rw [aecpHandle_aem hmessage' htarget', aemReply, cmdType_congr hframe hlen,
    aemCommand_unknown _ _ hshape, aemNotImplemented_eq, hbuild, hcdl]
  rfl

end Aem

-- ---------------------------------------------------------------------------
-- Unknown AEM commands
-- ---------------------------------------------------------------------------

section Unknown

variable {s : Avdecc} {c : AecpCommand} (hlen : 4 ≤ c.pduLen)
  (hmessage : c.pdu 1 &&& 0x0F = aecpMsgAemCommand)

include hlen hmessage

theorem unknown_outcome {frame : Buffer} (hframe : Agrees c frame)
    (htarget : targetsUs s (c.withFrame frame))
    (hunknown : aemCmdType (c.withFrame frame) ∉ aemCommands) (slot : Buffer) :
    (aecpHandle s ((c.withFrame frame).withSlot slot)).sent =
        some (max 64 (14 + min 500 (12 + c.cdl))) ∧
      (aecpHandle s ((c.withFrame frame).withSlot slot)).slot =
        aemEcho (counted s) (c.withFrame frame) slot := by
  have hmessage' : (c.withFrame frame).pdu 1 &&& 0x0F = aecpMsgAemCommand := by
    rw [message_congr hframe hlen, hmessage]
  have hshape : aemShape (counted s) ((c.withFrame frame).withSlot slot)
      (aemCmdType (c.withFrame frame)) = none := (aemShape_none_iff _ _ _).mpr hunknown
  rw [aecpHandle_aem hmessage' htarget, aemReply, aemCommand_unknown _ _ hshape,
    aemNotImplemented_eq, cdl_congr hframe hlen]
  exact ⟨rfl, rfl⟩

/-- Padding shows the slot, an echo past the received bytes the buffer. -/
theorem unknown_leaks (h : ∀ frame, Agrees c frame → targetsUs s (c.withFrame frame) ∧
      aemCmdType (c.withFrame frame) ∉ aemCommands)
    (hleaks : LeaksNothing s c) : 50 ≤ 12 + c.cdl ∧ min 500 (12 + c.cdl) ≤ c.pduLen := by
  have hcdl {frame : Buffer} (hframe : Agrees c frame) := cdl_congr hframe hlen
  have hbyte {frame frame' : Buffer} (hframe : Agrees c frame) (hframe' : Agrees c frame')
      (slot slot' : Buffer) (i : Nat) (hi : i < max 64 (14 + min 500 (12 + c.cdl))) :
      aemEcho (counted s) (c.withFrame frame') slot' i =
        aemEcho (counted s) (c.withFrame frame) slot i := by
    obtain ⟨hsent, hslot⟩ :=
      unknown_outcome hlen hmessage hframe (h _ hframe).1 (h _ hframe).2 slot
    obtain ⟨-, hslot'⟩ :=
      unknown_outcome hlen hmessage hframe' (h _ hframe').1 (h _ hframe').2 slot'
    rw [← hslot, ← hslot']
    exact (hleaks.between hframe hframe' slot slot').bytes _ hsent i hi
  refine ⟨?_, ?_⟩
  · by_contra hpad
    have hown := Agrees.refl c
    have hpadding := hbyte hown hown (fun _ => 0) (fun _ => 1) (14 + min 500 (12 + c.cdl))
      (by omega)
    rw [aemEcho_beyond _ _ _ (by rw [hcdl hown]), aemEcho_beyond _ _ _ (by rw [hcdl hown])]
      at hpadding
    exact absurd hpadding (by decide)
  · by_contra hecho
    let other : Buffer := fun i => if i < 14 + c.pduLen then c.frame i else c.frame i + 1
    have hother : Agrees c other := fun i hi => if_pos hi
    have hown := Agrees.refl c
    have hread := hbyte hown hother c.slot c.slot (14 + c.pduLen) (by omega)
    rw [aemEcho_body _ _ _ (by omega) (by rw [hcdl hother]; omega),
      aemEcho_body _ _ _ (by omega) (by rw [hcdl hown]; omega)] at hread
    have hstale : other (14 + c.pduLen) = c.frame (14 + c.pduLen) + 1 :=
      if_neg (Nat.lt_irrefl _)
    have hne : c.frame (14 + c.pduLen) + 1 ≠ c.frame (14 + c.pduLen) := by simp
    exact hne (hstale.symm.trans hread)

end Unknown

-- ---------------------------------------------------------------------------
-- AEM commands cut in their header
-- ---------------------------------------------------------------------------

theorem targetsUs_iff {s : Avdecc} {c : AecpCommand} :
    targetsUs s c ↔ ∀ i < 8, c.pdu (aecpOffTargetId + i) = byteAt s.entityId i := by
  rw [targetsUs, beq_iff_eq]
  constructor
  · rintro heq i hi
    rw [← heq]
    simp [byteAt, Buffer.bytes, hi]
  · intro h
    refine Vector.ext fun i hi => ?_
    have hbyte := h i hi
    rw [byteAt, Vector.getElem?_eq_getElem hi, Option.getD_some] at hbyte
    rw [← hbyte]
    simp [Buffer.bytes]

theorem notForUs_iff {s : Avdecc} {c : AecpCommand} (hlen : 12 ≤ c.pduLen) :
    NotForUs s c ↔ targetsUs s c = false := by
  rw [← Bool.not_eq_true, targetsUs_iff]
  unfold NotForUs
  push Not
  refine exists_congr fun i => and_congr_right fun hi => and_iff_right ?_
  unfold aecpOffTargetId
  omega

/-- The received bytes, then our entity as the target and a command type. -/
def completed (s : Avdecc) (c : AecpCommand) (cmd : UInt8) : Buffer := fun i =>
  if i < 14 + c.pduLen then c.frame i
  else if i < 26 then byteAt s.entityId (i - 18)
  else if i = 37 then cmd else 0

section Short

variable {s : Avdecc} {c : AecpCommand}

theorem completed_agrees (s : Avdecc) (cmd : UInt8) : Agrees c (completed s c cmd) :=
  fun _ hi => if_pos hi

theorem completed_target (hforUs : ¬ NotForUs s c) (cmd : UInt8) :
    targetsUs s (c.withFrame (completed s c cmd)) := by
  refine targetsUs_iff.mpr fun i hi => ?_
  show completed s c cmd (14 + (aecpOffTargetId + i)) = _
  unfold completed
  split
  · rename_i hreceived
    by_contra hne
    exact hforUs ⟨i, hi, by omega, hne⟩
  · unfold aecpOffTargetId
    rw [if_pos (by omega)]
    exact congrArg (byteAt s.entityId) (by omega)

theorem completed_cmdType (hshort : c.pduLen < 24) (cmd : UInt8)
    (hhigh : completed s c cmd 36 &&& 0x7F = 0) :
    aemCmdType (c.withFrame (completed s c cmd)) = cmd.toUInt16 := by
  have hlow : completed s c cmd 37 = cmd := by
    unfold completed
    rw [if_neg (by omega), if_neg (by omega), if_pos rfl]
  refine (getBe16_cmdType ((c.withFrame (completed s c cmd)).pdu.offset aecpOffCmdType)).trans ?_
  show (completed s c cmd 36 &&& 0x7F).toUInt16 <<< 8 ||| (completed s c cmd 37).toUInt16 = _
  rw [hhigh, hlow]
  simp

/-- A command of a type with a high byte is unknown. -/
theorem unknown_of_high {c : AecpCommand} (h : c.frame 36 &&& 0x7F ≠ 0) :
    aemCmdType c ∉ aemCommands := by
  intro hmem
  have hlow : aemCommands.all (fun cmd => (cmd >>> 8).toUInt8 == 0) = true := rfl
  have hhigh : (aemCmdType c >>> 8).toUInt8 = c.frame 36 &&& 0x7F := by
    rw [aemCmdType, AecpCommand.field, getBe16_cmdType, high_byte]
    rfl
  exact h (hhigh.symm.trans (eq_of_beq (List.all_eq_true.mp hlow _ hmem)))

/-- A command that may be for us and is cut in its header depends on what
follows: whether it is answered, or the end of its echo. -/
theorem short_leaks (hmin : 4 ≤ c.pduLen) (hshort : c.pduLen < 24)
    (hmessage : c.pdu 1 &&& 0x0F = aecpMsgAemCommand) (hforUs : ¬ NotForUs s c) :
    ¬ LeaksNothing s c := by
  intro hleaks
  by_cases hhigh : completed s c 0 36 &&& 0x7F = 0
  · have houtcome (cmd : UInt8) (slot : Buffer) :
        aecpHandle s ((c.withFrame (completed s c cmd)).withSlot slot) =
          sentOutcome (aemCommand (counted s) ((c.withFrame (completed s c cmd)).withSlot slot)
            cmd.toUInt16) slot := by
      have hmessage' : (c.withFrame (completed s c cmd)).pdu 1 &&& 0x0F = aecpMsgAemCommand := by
        rw [message_congr (completed_agrees s cmd) hmin, hmessage]
      rw [aecpHandle_aem hmessage' (completed_target hforUs cmd), aemReply,
        completed_cmdType hshort cmd hhigh]
    have hsent := (hleaks.between (completed_agrees s 0x04) (completed_agrees s 0x24) c.slot
      c.slot).sent
    -- READ_DESCRIPTOR is not answered, REGISTER_UNSOLICITED is
    obtain ⟨-, hread⟩ := aemCommand_replies (counted s) (c.withFrame (completed s c 0x04))
      aemCmdReadDescriptor _ rfl
    obtain ⟨hregister, -⟩ := aemCommand_replies (counted s) (c.withFrame (completed s c 0x24))
      aemCmdRegisterUnsolicited _ rfl
    obtain ⟨build, hbuild, -⟩ := hregister (Nat.zero_le _)
    rw [houtcome, houtcome] at hsent
    have hnone := hread (show c.pduLen < 32 by omega) c.slot
    have hsome := hbuild c.slot
    dsimp only at hnone hsome
    rw [show (0x04 : UInt8).toUInt16 = aemCmdReadDescriptor from rfl,
      show (0x24 : UInt8).toUInt16 = aemCmdRegisterUnsolicited from rfl,
      sentOutcome_none hnone, (sentOutcome_some hsome c.slot).1] at hsent
    cases hsent
  · have hlen : 36 < 14 + c.pduLen := by
      by_contra hbeyond
      refine hhigh ?_
      unfold completed
      rw [if_neg hbeyond, if_neg (by decide), if_neg (by decide)]
      rfl
    have htarget : targetsUs s c = true := by
      have hnot := mt (notForUs_iff (by omega)).mpr hforUs
      exact Bool.not_eq_false _ ▸ hnot
    have hreceived (frame : Buffer) (hframe : Agrees c frame) :
        targetsUs s (c.withFrame frame) ∧ aemCmdType (c.withFrame frame) ∉ aemCommands := by
      constructor
      · refine targetsUs_iff.mpr fun i hi => ?_
        refine Eq.trans (hframe _ ?_) (targetsUs_iff.mp htarget i hi)
        unfold aecpOffTargetId
        omega
      · refine unknown_of_high (c := c.withFrame frame) ?_
        have hbyte : frame 36 = completed s c 0 36 :=
          (hframe 36 hlen).trans (completed_agrees s 0 36 hlen).symm
        rw [show (c.withFrame frame).frame 36 = frame 36 from rfl, hbyte]
        exact hhigh
    obtain ⟨hpad, hecho⟩ := unknown_leaks hmin hmessage hreceived hleaks
    omega

end Short

-- ---------------------------------------------------------------------------
-- All AEM commands
-- ---------------------------------------------------------------------------

/-- Only stream port descriptors leave READ_DESCRIPTOR's answer short. -/
theorem readDescriptor_unpadded (s : Avdecc) (c : AecpCommand) :
    readDescriptorLen s c ≤ 26 + readDescriptorCdl s c ↔ ¬ ReadsStreamPort c := by
  unfold readDescriptorLen readDescriptorCdl
  cases hdesc : buildDescriptor (c.field 28) (c.field 30) s c.gptp with
  | none =>
    refine iff_of_true (by decide) ?_
    rintro ⟨hport, hindex⟩
    rw [hindex] at hdesc
    rcases hport with hport | hport <;>
    · rw [hport] at hdesc
      cases hdesc
  | some desc =>
    dsimp only
    rw [Option.getD_some]
    obtain ⟨-, hshort⟩ := buildDescriptor_length hdesc
    have hindex : c.field 28 = aemDescStreamPortInput ∨ c.field 28 = aemDescStreamPortOutput →
        c.field 30 = 0 := by
      intro hport
      by_contra hne
      have hdesc' : buildDescStreamPort (c.field 28) (c.field 30) = some desc := by
        rcases hport with hport | hport <;>
        · rw [hport] at hdesc ⊢
          exact hdesc
      rw [buildDescStreamPort, if_pos hne] at hdesc'
      cases hdesc'
    constructor
    · rintro hlen ⟨hport, -⟩
      have := hshort.mpr hport
      omega
    · intro hreads
      have hlong : ¬ desc.length < 22 := fun hlt =>
        hreads ⟨hshort.mp hlt, hindex (hshort.mp hlt)⟩
      omega

theorem unpadded_iff {c : AecpCommand} {cmdType : UInt16} (h : cmdType ≠ aemCmdReadDescriptor) :
    Unpadded c cmdType ↔ cmdType ∈ [aemCmdGetCounters, aemCmdGetStreamInfo, aemCmdGetName] :=
  or_iff_left fun hread => h hread.1

/-- What the answer's lengths come to. -/
structure ShapeSpec (c : AecpCommand) (cmdType : UInt16) (shape : AemShape) : Prop where
  minLen : shape.minLen = aemMinLen cmdType
  unpadded : shape.len ≤ 26 + shape.cdl ↔ Unpadded c cmdType

theorem shapeSpec_ite {c : AecpCommand} {cmdType cmd : UInt16} {a : AemShape}
    {rest : Option AemShape} (h : ShapeSpec c cmd a)
    (hrest : ∀ shape ∈ rest, ShapeSpec c cmdType shape) :
    ∀ shape ∈ if cmdType = cmd then some a else rest, ShapeSpec c cmdType shape := by
  intro shape hshape
  by_cases hcmd : cmdType = cmd
  · rw [if_pos hcmd] at hshape
    obtain rfl := Option.some.inj hshape
    rw [hcmd]
    exact h
  · rw [if_neg hcmd] at hshape
    exact hrest shape hshape

theorem shapeSpec_fixed {c : AecpCommand} {cmdType : UInt16} {shape : AemShape}
    (hcmd : cmdType ≠ aemCmdReadDescriptor) (hminLen : shape.minLen = aemMinLen cmdType)
    (hunpadded : shape.len ≤ 26 + shape.cdl ↔
      cmdType ∈ [aemCmdGetCounters, aemCmdGetStreamInfo, aemCmdGetName]) :
    ShapeSpec c cmdType shape := ⟨hminLen, hunpadded.trans (unpadded_iff hcmd).symm⟩

theorem aemShape_spec (s : Avdecc) (c : AecpCommand) (cmdType : UInt16) :
    ∀ shape ∈ aemShape s c cmdType, ShapeSpec c cmdType shape := by
  have hread : ¬ ReadsStreamPort c ↔ Unpadded c aemCmdReadDescriptor := by
    constructor
    · exact fun h => .inr ⟨rfl, h⟩
    · rintro (h | ⟨-, h⟩)
      · exact absurd h (by decide)
      · exact h
  have hminLen : aemMinLen aemCmdReadDescriptor = 32 := by decide
  unfold aemShape
  refine shapeSpec_ite ⟨hminLen.symm, (readDescriptor_unpadded s c).trans hread⟩ ?_
  iterate 15 refine shapeSpec_ite (shapeSpec_fixed (by decide) (by decide) (by decide)) ?_
  rintro shape ⟨⟩

theorem aem_leaksNothing_iff {s : Avdecc} {c : AecpCommand} (hmin : 4 ≤ c.pduLen)
    (hmessage : c.pdu 1 &&& 0x0F = aecpMsgAemCommand) : LeaksNothing s c ↔ AemContained s c := by
  by_cases hforUs : NotForUs s c
  · refine iff_of_true (leaksNothing_silent s fun frame slot hframe => ?_) (.inl hforUs)
    obtain ⟨i, hi, hreceived, hne⟩ := hforUs
    have htarget : targetsUs s ((c.withFrame frame).withSlot slot) = false := by
      refine Bool.eq_false_iff.mpr fun htrue => ?_
      have hbyte := targetsUs_iff.mp htrue i hi
      exact hne ((hframe (14 + (aecpOffTargetId + i)) (by omega)).symm.trans hbyte)
    have hmessage' : ((c.withFrame frame).withSlot slot).pdu 1 &&& 0x0F = aecpMsgAemCommand :=
      (congrArg (· &&& 0x0F) (message_congr hframe hmin)).trans hmessage
    unfold aecpHandle
    dsimp only
    rw [hmessage', if_neg (by decide), if_neg (by decide), if_pos (by rw [htarget]; rfl)]
    exact ⟨rfl, rfl⟩
  · by_cases hlen : 24 ≤ c.pduLen
    · have htarget : targetsUs s c = true := by
        have hnot := mt (notForUs_iff (by omega)).mpr hforUs
        exact Bool.not_eq_false _ ▸ hnot
      rw [AemContained, or_iff_right hforUs, and_iff_right hlen]
      by_cases hknown : aemCmdType c ∈ aemCommands
      · rw [if_pos hknown]
        cases hshape : aemShape (counted s) c (aemCmdType c) with
        | none => exact absurd hknown ((aemShape_none_iff ..).mp hshape)
        | some shape =>
          obtain ⟨hminLen, hunpadded⟩ := aemShape_spec (counted s) c _ shape hshape
          rw [known_leaksNothing_iff hmessage htarget hlen hshape, hminLen, hunpadded]
      · rw [if_neg hknown]
        constructor
        · refine unknown_leaks hmin hmessage fun frame hframe => ?_
          rw [target_congr hframe hlen, cmdType_congr hframe hlen]
          exact ⟨htarget, hknown⟩
        · rintro ⟨hpad, hecho⟩
          exact unknown_leaksNothing hmessage htarget hlen hknown hpad hecho
    · refine iff_of_false (short_leaks hmin (Nat.not_le.mp hlen) hmessage hforUs) ?_
      rintro (hnot | ⟨hle, -⟩)
      · exact hforUs hnot
      · exact hlen hle

-- ---------------------------------------------------------------------------
-- Milan commands
-- ---------------------------------------------------------------------------

section Milan

variable {s : Avdecc} {c : AecpCommand} {frame : Buffer} (hframe : Agrees c frame)

include hframe

theorem mvuAccepts_congr : mvuAccepts s (c.withFrame frame) = mvuAccepts s c := by
  have hpduLen : (c.withFrame frame).pduLen = c.pduLen := rfl
  rw [mvuAccepts, mvuAccepts, hpduLen]
  by_cases hlen : 30 ≤ c.pduLen
  · have hpid : ((c.withFrame frame).pdu.offset 22).bytes 6 = (c.pdu.offset 22).bytes 6 :=
      Buffer.bytes_congr fun i hi => hframe (14 + (22 + i)) (by omega)
    rw [target_congr hframe (by omega), hpid]
  · rw [decide_eq_false hlen, Bool.false_and, Bool.false_and, Bool.false_and, Bool.false_and]

variable (hlen : 30 ≤ c.pduLen)

include hlen

theorem mvuCmdType_congr : mvuCmdType (c.withFrame frame) = mvuCmdType c :=
  congrArg (· &&& 0x7FFF) ((hframe.received c.slot).field 28 hlen)

theorem mvuBegin_congr (slot : Buffer) :
    mvuBegin s (c.withFrame frame) slot = mvuBegin s c slot := by
  have hecho : (c.withFrame frame).echo 0 30 = c.echo 0 30 :=
    (hframe.received slot).echo 0 30 (by rw [withSlot_pduLen]; omega)
  unfold mvuBegin mvuHeader
  rw [withSlot_echo, hecho, withSlot_echo, mvuCmdType_congr hframe hlen]
  exact congrArg (fun b => putPdu (putPdu (putPdu b 0 _) 1 _) 28 _)
    ((hframe.received slot).unicastHeader slot s.srcMac)

theorem mvuEchoLen_congr : mvuEchoLen (c.withFrame frame) = mvuEchoLen c := by
  rw [mvuEchoLen, cdl_congr hframe (by omega)]
  rfl

theorem mvuEcho_congr (slot : Buffer) : mvuEcho s (c.withFrame frame) slot = mvuEcho s c slot := by
  have hfield : (c.withFrame frame).field 2 = c.field 2 :=
    (hframe.received slot).field 2 (by rw [withSlot_pduLen]; omega)
  have hecho : (c.withFrame frame).echo 0 (mvuEchoLen c) = c.echo 0 (mvuEchoLen c) :=
    (hframe.received slot).echo 0 _ (by rw [withSlot_pduLen, mvuEchoLen]; omega)
  rw [mvuEcho, hfield, mvuEchoLen_congr hframe hlen, hecho, mvuBegin_congr hframe hlen, mvuEcho]

theorem mvuStreamInputInfoEx_congr (hex : 34 ≤ c.pduLen) (slot : Buffer) :
    mvuStreamInputInfoEx s ((c.withFrame frame).withSlot slot)
        (mvuBegin s (c.withFrame frame) slot) =
      mvuStreamInputInfoEx s (c.withSlot slot) (mvuBegin s c slot) := by
  have htype : ((c.withFrame frame).withSlot slot).field 30 = (c.withSlot slot).field 30 :=
    (hframe.received slot).field 30 (by rw [withSlot_pduLen]; omega)
  have hindex : ((c.withFrame frame).withSlot slot).field 32 = (c.withSlot slot).field 32 :=
    (hframe.received slot).field 32 (by rw [withSlot_pduLen]; omega)
  rw [mvuBegin_congr hframe hlen, mvuStreamInputInfoEx, htype, hindex, mvuStreamInputInfoEx]

/-- A Milan command is read no further than it was received. -/
theorem aecpHandle_mvu_congr (h : MvuForUs s c) (slot : Buffer) :
    aecpHandle s ((c.withFrame frame).withSlot slot) = aecpHandle s (c.withSlot slot) := by
  have h' : MvuForUs s (c.withFrame frame) :=
    ⟨(congrArg (· &&& 0x0F) (message_congr hframe (by omega))).trans h.message,
      (mvuAccepts_congr hframe).trans h.accepted⟩
  have hpduLen : (c.withFrame frame).pduLen = c.pduLen := rfl
  rw [aecpHandle_mvu h', aecpHandle_mvu h, mvuCmdType_congr hframe hlen,
    mvuBegin_congr hframe hlen, mvuEchoLen_congr hframe hlen, hpduLen, mvuEcho_congr hframe hlen]
  by_cases hex : c.pduLen < 34
  · rw [if_pos hex, if_pos hex]
  · have hinfo := mvuStreamInputInfoEx_congr (s := counted s) hframe hlen (by omega) slot
    rw [mvuBegin_congr hframe hlen] at hinfo
    rw [if_neg hex, if_neg hex, hinfo]

end Milan

section MilanCommands

variable {s : Avdecc} {c : AecpCommand} (h : MvuForUs s c) (hlen : 30 ≤ c.pduLen)

include h hlen

theorem milanInfo_leaks (hcmd : mvuCmdType c = mvuCmdGetMilanInfo) : ¬ LeaksNothing s c := by
  rw [leaksNothing_iff { counted s with aecpTxCount := s.aecpTxCount + 1 } 64
    (fun frame slot hframe => ?_) (mvuMilanInfo_answers (counted s) c).overwrites]
  · decide
  · rw [aecpHandle_mvu_congr hframe hlen h, aecpHandle_mvu h, if_pos hcmd]

theorem streamInputInfoEx_leaksNothing_iff (hcmd : mvuCmdType c = mvuCmdGetStreamInputInfoEx) :
    LeaksNothing s c ↔ c.pduLen < 34 := by
  have hmilan : mvuCmdType c ≠ mvuCmdGetMilanInfo := by
    rw [hcmd]
    decide
  by_cases hex : c.pduLen < 34
  · refine iff_of_true (leaksNothing_silent (counted s) fun frame slot hframe => ?_) hex
    rw [aecpHandle_mvu_congr hframe hlen h, aecpHandle_mvu h, if_neg hmilan, if_pos hcmd,
      if_pos hex]
    exact ⟨rfl, rfl⟩
  · refine iff_of_false ?_ hex
    rw [leaksNothing_iff { counted s with aecpTxCount := s.aecpTxCount + 1 } 64
      (fun frame slot hframe => ?_) (mvuStreamInputInfoEx_answers (counted s) c).overwrites]
    · decide
    · rw [aecpHandle_mvu_congr hframe hlen h, aecpHandle_mvu h, if_neg hmilan, if_pos hcmd,
        if_neg hex]

/-- Of an unknown Milan command only what was received is echoed. -/
theorem unknownMilan_leaksNothing_iff (hmilan : mvuCmdType c ≠ mvuCmdGetMilanInfo)
    (hex : mvuCmdType c ≠ mvuCmdGetStreamInputInfoEx) :
    LeaksNothing s c ↔ 50 ≤ c.pduLen ∧ 50 ≤ 12 + c.cdl := by
  rw [leaksNothing_iff { counted s with aecpTxCount := s.aecpTxCount + 1 }
    (max 64 (14 + mvuEchoLen c)) (fun frame slot hframe => ?_) (mvuEcho_overwrites (counted s) c)]
  · rw [mvuEchoLen]
    omega
  · rw [aecpHandle_mvu_congr hframe hlen h, aecpHandle_mvu h, if_neg hmilan, if_neg hex]

end MilanCommands

theorem mvu_leaksNothing_iff {s : Avdecc} {c : AecpCommand} (hmin : 4 ≤ c.pduLen)
    (hmessage : c.pdu 1 &&& 0x0F = aecpMsgVendorUniqueCommand) :
    LeaksNothing s c ↔ MvuContained s c := by
  by_cases haccepts : mvuAccepts s c = true
  · have hlen : 30 ≤ c.pduLen := by
      rw [mvuAccepts, Bool.and_eq_true, Bool.and_eq_true] at haccepts
      exact of_decide_eq_true haccepts.1.1
    have h : MvuForUs s c := ⟨hmessage, haccepts⟩
    rw [MvuContained, forall_prop_of_true haccepts]
    by_cases hmilan : mvuCmdType c = mvuCmdGetMilanInfo
    · exact iff_of_false (milanInfo_leaks h hlen hmilan) fun hcontained => hcontained.1 hmilan
    · rw [and_iff_right hmilan]
      by_cases hex : mvuCmdType c = mvuCmdGetStreamInputInfoEx
      · rw [if_pos hex]
        exact streamInputInfoEx_leaksNothing_iff h hlen hex
      · rw [if_neg hex]
        exact unknownMilan_leaksNothing_iff h hlen hmilan hex
  · refine iff_of_true (leaksNothing_silent s fun frame slot hframe => ?_)
      fun h => absurd h haccepts
    have haccepts' : mvuAccepts s ((c.withFrame frame).withSlot slot) = false :=
      (mvuAccepts_congr hframe).trans (Bool.eq_false_iff.mpr haccepts)
    have hmessage' : ((c.withFrame frame).withSlot slot).pdu 1 &&& 0x0F =
        aecpMsgVendorUniqueCommand :=
      (congrArg (· &&& 0x0F) (message_congr hframe hmin)).trans hmessage
    unfold aecpHandle
    dsimp only
    rw [hmessage', if_pos rfl, mvuHandle, if_pos (by rw [haccepts']; rfl)]
    exact ⟨rfl, rfl⟩

-- ---------------------------------------------------------------------------
-- All commands
-- ---------------------------------------------------------------------------

theorem leaksNothing_iff_contained {s : Avdecc} {c : AecpCommand} (hmin : 4 ≤ c.pduLen) :
    LeaksNothing s c ↔ Contained s c := by
  by_cases hmvu : c.pdu 1 &&& 0x0F = aecpMsgVendorUniqueCommand
  · have haem : c.pdu 1 &&& 0x0F ≠ aecpMsgAemCommand := by
      rw [hmvu]
      decide
    rw [Contained, forall_prop_of_true hmvu, and_iff_left fun h => absurd h haem]
    exact mvu_leaksNothing_iff hmin hmvu
  rw [Contained, and_iff_right fun h => absurd h hmvu]
  by_cases haem : c.pdu 1 &&& 0x0F = aecpMsgAemCommand
  · rw [forall_prop_of_true haem]
    exact aem_leaksNothing_iff hmin haem
  · refine iff_of_true (leaksNothing_silent s fun frame slot hframe => ?_) fun h => absurd h haem
    have hmessage : ((c.withFrame frame).withSlot slot).pdu 1 = c.pdu 1 :=
      message_congr hframe hmin
    unfold aecpHandle
    dsimp only
    rw [hmessage, if_neg hmvu, if_pos haem]
    exact ⟨rfl, rfl⟩

end AecpLeaks

end AvbAes3
