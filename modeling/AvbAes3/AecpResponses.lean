import AvbAes3.AecpWrites

/-!
# AECP responses are complete

Every AEM and Milan command for us is answered, if at all, with a frame to
the requester that echoes the command and reaches to the end of the control
data it states, all of it written by the handler. The echo of an unknown
command is cut at 500 bytes and at what was received while it goes on to
state the length the command claims, so there it holds exactly of commands
whose claim fits.
-/

namespace AvbAes3.AecpResponses

def aemCmdType (c : AecpCommand) : UInt16 := c.field aecpOffCmdType &&& 0x7FFF

/-- An AEM command for us that holds the common header. -/
structure AemForUs (s : Avdecc) (c : AecpCommand) : Prop where
  message : c.pdu 1 &&& 0x0F = aecpMsgAemCommand
  target : targetsUs s c
  length : 24 ≤ c.pduLen

/-- A Milan vendor-unique command for us that holds its header. -/
structure MvuForUs (s : Avdecc) (c : AecpCommand) : Prop where
  message : c.pdu 1 &&& 0x0F = aecpMsgVendorUniqueCommand
  accepted : mvuAccepts s c

/-- Whatever the slot held, a response echoes the command, is sent with a
length that reaches to the end of the control data it states, and none of
its bytes up to there is what the slot held. -/
def WellFormed (s : Avdecc) (c : AecpCommand) (msgType : UInt8) (cmdOff : Nat) : Prop :=
  ∀ slot len, (aecpHandle s (c.withSlot slot)).sent = some len →
    Echoes c msgType cmdOff (aecpHandle s (c.withSlot slot)).slot ∧
    26 + responseCdl (aecpHandle s (c.withSlot slot)).slot ≤ len ∧
    ∀ slot' i, i < 26 + responseCdl (aecpHandle s (c.withSlot slot)).slot →
      (aecpHandle s (c.withSlot slot')).slot i = (aecpHandle s (c.withSlot slot)).slot i

def RespondsWell (s : Avdecc) (c : AecpCommand) : Prop :=
  (AemForUs s c → WellFormed s c aecpMsgAemResponse aecpOffCmdType) ∧
    (MvuForUs s c → WellFormed s c aecpMsgVendorUniqueResponse 28)

/-- The commands the `switch` knows. -/
def aemCommands : List UInt16 :=
  [aemCmdReadDescriptor, aemCmdAcquireEntity, aemCmdLockEntity, aemCmdGetStreamFormat,
    aemCmdSetStreamFormat, aemCmdGetClockSource, aemCmdGetAsPath, aemCmdGetAvbInfo,
    aemCmdGetCounters, aemCmdGetAudioMap, aemCmdRegisterUnsolicited, aemCmdDeregisterUnsolicited,
    aemCmdGetMaxTransitTime, aemCmdGetStreamInfo, aemCmdSetClockSource, aemCmdGetName]

/-- The length an unknown command claims covers the header, and what is
echoed covers the length; the vendor-unique header is echoed in any case. -/
def ClaimsServed (s : Avdecc) (c : AecpCommand) : Prop :=
  (AemForUs s c → aemCmdType c ∉ aemCommands → 12 ≤ c.cdl ∧ 12 + c.cdl ≤ 500) ∧
    (MvuForUs s c → mvuCmdType c ≠ mvuCmdGetMilanInfo →
      mvuCmdType c ≠ mvuCmdGetStreamInputInfoEx → 12 + c.cdl ≤ min 500 c.pduLen)

-- ---------------------------------------------------------------------------
-- What is sent
-- ---------------------------------------------------------------------------

section Sent

variable {s : Avdecc} {c : AecpCommand} {msgType : UInt8} {cmdOff : Nat}

theorem wellFormed_silent (h : ∀ slot, (aecpHandle s (c.withSlot slot)).sent = none) :
    WellFormed s c msgType cmdOff := by
  intro slot len hsent
  rw [h slot] at hsent
  cases hsent

/-- What a command is answered with. -/
structure Builds (s : Avdecc) (c : AecpCommand) (build : Buffer → Buffer) (len : Nat) : Prop where
  sent : ∀ slot, (aecpHandle s (c.withSlot slot)).sent = some len
  slot : ∀ slot, (aecpHandle s (c.withSlot slot)).slot = build slot

variable {build : Buffer → Buffer} {len cdl : Nat}

theorem Builds.wellFormed (h : Builds s c build len) {w : Set Nat} (hw : Overwrites build w)
    (hcover : ∀ i < 26 + cdl, i ∈ w) (hstates : ∀ slot, responseCdl (build slot) = cdl)
    (hechoes : ∀ slot, Echoes c msgType cmdOff (build slot)) (hlen : 26 + cdl ≤ len) :
    WellFormed s c msgType cmdOff := by
  intro slot len' hsent
  obtain rfl : len = len' := Option.some.inj ((h.sent slot).symm.trans hsent)
  rw [h.slot, hstates]
  refine ⟨hechoes slot, hlen, fun slot' i hi => ?_⟩
  rw [h.slot]
  exact hw.own slot' slot i (hcover i hi)

theorem Builds.wellFormed_of_answers (h : Builds s c build len)
    (hanswers : Answers c msgType cmdOff cdl build) (hlen : 26 + cdl ≤ len) :
    WellFormed s c msgType cmdOff :=
  h.wellFormed hanswers.overwrites (fun _ hi => hi) hanswers.states hanswers.echoes hlen

/-- What a well-formed answer says of the way it is built. -/
theorem WellFormed.builds (hwell : WellFormed s c msgType cmdOff) (h : Builds s c build len)
    (slot : Buffer) : Echoes c msgType cmdOff (build slot) ∧ 26 + responseCdl (build slot) ≤ len ∧
      ∀ slot' i, i < 26 + responseCdl (build slot) → build slot' i = build slot i := by
  have hslot := hwell slot len (h.sent slot)
  simpa only [h.slot] using hslot

end Sent

-- ---------------------------------------------------------------------------
-- AEM commands
-- ---------------------------------------------------------------------------

section Aem

variable {s : Avdecc} {c : AecpCommand}

def counted (s : Avdecc) : Avdecc := { s with aecpRxCount := s.aecpRxCount + 1 }

/-- The command's handler, with the message counted. -/
def aemReply (s : Avdecc) (c : AecpCommand) (slot : Buffer) : Avdecc × AecpReply :=
  aemCommand (counted s) (c.withSlot slot) (aemCmdType c)

def sentOutcome (r : Avdecc × AecpReply) (slot : Buffer) : AecpOutcome :=
  match r.2 with
  | none => ⟨r.1, slot, none⟩
  | some (b, len) => ⟨{ r.1 with aecpTxCount := r.1.aecpTxCount + 1 }, b, some len⟩

theorem sentOutcome_none {r : Avdecc × AecpReply} (h : r.2 = none) (slot : Buffer) :
    sentOutcome r slot = ⟨r.1, slot, none⟩ := by
  rw [sentOutcome, h]

theorem sentOutcome_some {r : Avdecc × AecpReply} (h : r.2 = some (b, len)) (slot : Buffer) :
    (sentOutcome r slot).sent = some len ∧ (sentOutcome r slot).slot = b := by
  rw [sentOutcome, h]
  exact ⟨rfl, rfl⟩

theorem aecpHandle_aem (hmessage : c.pdu 1 &&& 0x0F = aecpMsgAemCommand) (htarget : targetsUs s c)
    (slot : Buffer) : aecpHandle s (c.withSlot slot) = sentOutcome (aemReply s c slot) slot := by
  have hmessage' : (c.withSlot slot).pdu 1 &&& 0x0F = aecpMsgAemCommand := hmessage
  have htarget' : targetsUs s (c.withSlot slot) = true := htarget
  unfold aecpHandle aemReply aemCmdType
  generalize hr : aemCommand _ _ (c.field aecpOffCmdType &&& 0x7FFF) = r
  have hr' : aemCommand (counted s) (c.withSlot slot)
      ((c.withSlot slot).field aecpOffCmdType &&& 0x7FFF) = r := hr
  rw [← counted]
  dsimp only
  rw [hmessage', if_neg (by decide), if_neg (by decide), if_neg (by rw [htarget']; decide), hr']
  obtain ⟨s', reply⟩ := r
  rfl

theorem builds_of_reply (h : AemForUs s c) {build : Buffer → Buffer} {len : Nat}
    (hreply : ∀ slot, (aemReply s c slot).2 = some (build slot, len)) : Builds s c build len where
  sent slot := by
    rw [aecpHandle_aem h.message h.target]
    exact (sentOutcome_some (hreply slot) slot).1
  slot slot := by
    rw [aecpHandle_aem h.message h.target]
    exact (sentOutcome_some (hreply slot) slot).2

/-- A known command's answer is built over any slot, or there is none. -/
theorem known_wellFormed (h : AemForUs s c) {shape : AemShape}
    (hshape : aemShape (counted s) c (aemCmdType c) = some shape) :
    WellFormed s c aecpMsgAemResponse aecpOffCmdType := by
  obtain ⟨hanswered, hsilent⟩ := aemCommand_replies _ c _ shape hshape
  by_cases hlen : shape.minLen ≤ c.pduLen
  · obtain ⟨build, hbuild, hanswers⟩ := hanswered hlen
    have hbuilds : Builds s c build shape.len := builds_of_reply h hbuild
    exact hbuilds.wellFormed_of_answers hanswers (aemShape_len _ c _ shape hshape)
  · refine wellFormed_silent fun slot => ?_
    rw [aecpHandle_aem h.message h.target,
      sentOutcome_none (r := aemReply s c slot) (hsilent (Nat.not_le.mp hlen) slot)]

theorem unknown_builds (h : AemForUs s c)
    (hunknown : aemShape (counted s) c (aemCmdType c) = none) :
    Builds s c (aemEcho s c) (max 64 (14 + min 500 (12 + c.cdl))) := by
  refine builds_of_reply h fun slot => ?_
  have hunknown' : aemShape (counted s) (c.withSlot slot) (aemCmdType c) = none := hunknown
  rw [aemReply, aemCommand_unknown _ _ hunknown']
  exact aemNotImplemented_eq (counted s) c slot

/-- The echo of an unknown command is complete where its claim is served. -/
theorem unknown_wellFormed_iff (h : AemForUs s c)
    (hunknown : aemShape (counted s) c (aemCmdType c) = none) :
    WellFormed s c aecpMsgAemResponse aecpOffCmdType ↔ 12 ≤ c.cdl ∧ 12 + c.cdl ≤ 500 := by
  have hbuilds := unknown_builds h hunknown
  constructor
  · intro hwell
    -- a slot whose byte at the end of the command type is not the request's
    obtain ⟨hechoes, hlen, -⟩ := hwell.builds hbuilds fun i => c.frame i + 1
    rw [aemEcho_cdl] at hlen
    refine ⟨?_, by omega⟩
    by_contra hshort
    have hstale : aemEcho s c (fun i => c.frame i + 1) 37 = c.frame 37 + 1 :=
      aemEcho_beyond s c _ (by omega)
    have hecho := (cmdType_eq_iff.mp hechoes.cmdType).2
    rw [show ((aemEcho s c fun i => c.frame i + 1).offset 14).offset aecpOffCmdType 1 =
      aemEcho s c (fun i => c.frame i + 1) 37 from rfl, hstale] at hecho
    have hne : c.frame 37 + 1 ≠ c.frame 37 := by
      simp
    exact hne hecho
  · rintro ⟨hheader, hmax⟩
    refine hbuilds.wellFormed (aemEcho_overwrites s c) (fun i hi => ?_)
      (aemEcho_cdl s c) (fun slot => ?_) (by omega)
    · rw [Set.mem_Iio]
      omega
    · refine echoes_of_header (fun i hi => aemEcho_requester s c slot hi) ?_
        (fun i hle hlt => aemEcho_body s c slot hle (by omega)) ?_
      · exact congrArg (· &&& 0x0F) (aemEcho_msgType s c slot)
      · refine congrArg (· &&& 0x7FFF) (getBe16_congr fun i hi => ?_)
        exact aemEcho_body s c slot (i := 14 + (22 + i)) (by omega) (by omega)

end Aem

-- ---------------------------------------------------------------------------
-- Milan commands
-- ---------------------------------------------------------------------------

section Milan

variable {s : Avdecc} {c : AecpCommand}

theorem aecpHandle_mvu (h : MvuForUs s c) (slot : Buffer) :
    aecpHandle s (c.withSlot slot) =
      if mvuCmdType c = mvuCmdGetMilanInfo then
        ⟨{ counted s with aecpTxCount := s.aecpTxCount + 1 },
          mvuMilanInfo (mvuBegin (counted s) c slot), some 64⟩
      else if mvuCmdType c = mvuCmdGetStreamInputInfoEx then
        if c.pduLen < 34 then ⟨counted s, mvuBegin (counted s) c slot, none⟩
        else ⟨{ counted s with aecpTxCount := s.aecpTxCount + 1 },
          mvuStreamInputInfoEx (counted s) (c.withSlot slot) (mvuBegin (counted s) c slot), some 64⟩
      else ⟨{ counted s with aecpTxCount := s.aecpTxCount + 1 }, mvuEcho (counted s) c slot,
        some (max 64 (14 + mvuEchoLen c))⟩ := by
  have hmessage : (c.withSlot slot).pdu 1 &&& 0x0F = aecpMsgVendorUniqueCommand := h.message
  have haccepted : mvuAccepts s (c.withSlot slot) = true := h.accepted
  unfold aecpHandle
  dsimp only
  rw [hmessage, if_pos rfl]
  unfold mvuHandle
  rw [if_neg (by rw [haccepted]; decide)]
  rfl

theorem mvu_wellFormed_iff (h : MvuForUs s c) :
    WellFormed s c aecpMsgVendorUniqueResponse 28 ↔
      (mvuCmdType c ≠ mvuCmdGetMilanInfo → mvuCmdType c ≠ mvuCmdGetStreamInputInfoEx →
        12 + c.cdl ≤ min 500 c.pduLen) := by
  have hhandle := aecpHandle_mvu h
  by_cases hmilan : mvuCmdType c = mvuCmdGetMilanInfo
  · refine iff_of_true ?_ fun hne => absurd hmilan hne
    simp only [if_pos hmilan] at hhandle
    have hbuilds : Builds s c (fun slot => mvuMilanInfo (mvuBegin (counted s) c slot)) 64 :=
      ⟨fun slot => by rw [hhandle], fun slot => by rw [hhandle]⟩
    exact hbuilds.wellFormed_of_answers (mvuMilanInfo_answers (counted s) c) (by decide)
  simp only [if_neg hmilan] at hhandle
  by_cases hex : mvuCmdType c = mvuCmdGetStreamInputInfoEx
  · refine iff_of_true ?_ fun _ hne => absurd hex hne
    simp only [if_pos hex] at hhandle
    by_cases hlen : c.pduLen < 34
    · simp only [if_pos hlen] at hhandle
      exact wellFormed_silent fun slot => by rw [hhandle]
    · simp only [if_neg hlen] at hhandle
      have hbuilds : Builds s c (fun slot => mvuStreamInputInfoEx (counted s) (c.withSlot slot)
          (mvuBegin (counted s) c slot)) 64 :=
        ⟨fun slot => by rw [hhandle], fun slot => by rw [hhandle]⟩
      exact hbuilds.wellFormed_of_answers (mvuStreamInputInfoEx_answers (counted s) c) (by decide)
  simp only [if_neg hex] at hhandle
  have hbuilds : Builds s c (mvuEcho (counted s) c) (max 64 (14 + mvuEchoLen c)) :=
    ⟨fun slot => by rw [hhandle], fun slot => by rw [hhandle]⟩
  have hheader : 30 ≤ c.pduLen := by
    have haccepted := h.accepted
    rw [mvuAccepts, Bool.and_eq_true, Bool.and_eq_true] at haccepted
    exact of_decide_eq_true haccepted.1.1
  have hwrites := mvuEcho_overwrites (counted s) c
  have hechoLen : mvuEchoLen c = min c.pduLen (min 500 (12 + c.cdl)) := rfl
  constructor
  · intro hwell _ _
    -- the last byte stated is written, so it is echoed
    have hlast : 25 + c.cdl ∈ Set.Iio (14 + max 30 (mvuEchoLen c)) := by
      have : Nontrivial UInt8 := ⟨⟨0, 1, by decide⟩⟩
      refine hwrites.mem_iff.mpr fun slot slot' => ?_
      obtain ⟨-, -, hwritten⟩ := hwell.builds hbuilds slot'
      rw [mvuEcho_cdl] at hwritten
      exact hwritten slot (25 + c.cdl) (by omega)
    rw [Set.mem_Iio] at hlast
    omega
  · intro hserved
    have hcdl := hserved hmilan hex
    refine hbuilds.wellFormed hwrites (fun i hi => ?_) (mvuEcho_cdl (counted s) c)
      (mvuEcho_echoes (counted s) c) (by omega)
    rw [Set.mem_Iio]
    omega

end Milan

-- ---------------------------------------------------------------------------
-- All commands
-- ---------------------------------------------------------------------------

theorem none_ite_iff {cmdType cmd : UInt16} {cmds : List UInt16} {shape : AemShape}
    {rest : Option AemShape} (h : rest = none ↔ cmdType ∉ cmds) :
    (if cmdType = cmd then some shape else rest) = none ↔ cmdType ∉ cmd :: cmds := by
  by_cases hcmd : cmdType = cmd
  · simp [hcmd]
  · simp [hcmd, h]

theorem aemShape_none_iff (s : Avdecc) (c : AecpCommand) (cmdType : UInt16) :
    aemShape s c cmdType = none ↔ cmdType ∉ aemCommands := by
  unfold aemShape aemCommands
  iterate 16 refine none_ite_iff ?_
  exact iff_of_true rfl List.not_mem_nil

/-- Every response to a command for us is well formed exactly when the
length an unknown command claims is served. -/
theorem respondsWell_iff (s : Avdecc) (c : AecpCommand) :
    RespondsWell s c ↔ ClaimsServed s c := by
  refine and_congr (forall_congr' fun h => ?_) (forall_congr' mvu_wellFormed_iff)
  cases hshape : aemShape (counted s) c (aemCmdType c) with
  | none =>
    have hunknown := (aemShape_none_iff (counted s) c (aemCmdType c)).mp hshape
    rw [unknown_wellFormed_iff h hshape]
    exact ⟨fun hserved _ => hserved, fun hserved => hserved hunknown⟩
  | some shape =>
    refine iff_of_true (known_wellFormed h hshape) fun hunknown => ?_
    rw [(aemShape_none_iff (counted s) c (aemCmdType c)).mpr hunknown] at hshape
    cases hshape

/-- An unknown command with 489 bytes of control data. -/
def longCommand : AecpCommand where
  frame := Buffer.ofList (zeros 14 ++ ([avtpSubtypeAecp, aecpMsgAemCommand] ++ be16 489 ++
    (avdeccInit boardMac).entityId.toList ++ zeros 10 ++ be16 0x0052))
  pduLen := 501
  slot _ := 0
  gptp := (gptpInit boardMac).1
  srp := srpInit boardMac

/-- The response states 489 bytes and is sent without the last one. -/
theorem longCommand_cut : ¬ RespondsWell (avdeccInit boardMac) longCommand := by
  intro h
  have hforUs : AemForUs (avdeccInit boardMac) longCommand :=
    ⟨by decide +kernel, by decide +kernel, by decide⟩
  have hsent : (aecpHandle (avdeccInit boardMac) (longCommand.withSlot fun _ => 0)).sent =
      some 514 := by
    decide +kernel
  have hcdl : responseCdl (aecpHandle (avdeccInit boardMac)
      (longCommand.withSlot fun _ => 0)).slot = 489 := by
    decide +kernel
  obtain ⟨-, hlen, -⟩ := h.1 hforUs (fun _ => 0) 514 hsent
  rw [hcdl] at hlen
  exact absurd hlen (by decide)

end AvbAes3.AecpResponses
