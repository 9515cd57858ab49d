import AvbAes3.MainLoop

/-!
# Messages for other entities

AVDECC is multicast, and the address of a message is checked in five places:
for each ACMP command before its handler is called, for the one ACMP response
taken in inside its handler, for AEM commands, and for the Milan commands
inside theirs. A message that passes none of them is counted if it is ACMP,
and does nothing else.
-/

namespace AvbAes3.OtherEntities

/-- The commands a talker answers, and the messages a listener takes in. -/
def talkerMessages : List UInt8 :=
  [acmpMsgConnectTxCommand, acmpMsgDisconnectTxCommand, acmpMsgGetTxStateCommand]

def listenerMessages : List UInt8 :=
  [acmpMsgConnectTxResponse, acmpMsgConnectRxCommand, acmpMsgDisconnectRxCommand,
    acmpMsgGetRxStateCommand]

def aecpCommands : List UInt8 := [aecpMsgAemCommand, aecpMsgVendorUniqueCommand]

structure AcmpElsewhere (s : Avdecc) (pdu : Buffer) : Prop where
  talker : pdu 1 &&& 0x0F ∈ talkerMessages → pduTalkerId pdu ≠ s.entityId
  listener : pdu 1 &&& 0x0F ∈ listenerMessages → pduListenerId pdu ≠ s.entityId

structure AecpElsewhere (s : Avdecc) (pdu : Buffer) : Prop where
  target : pdu 1 &&& 0x0F ∈ aecpCommands → (pdu.offset aecpOffTargetId).bytes 8 ≠ s.entityId

/-- A message that is not addressed to us, or of a type nobody addresses to
an entity like us, with the ids it is addressed by. -/
inductive Elsewhere (s : Avdecc) (frame : Buffer) (len : Nat) : Prop
  | adp (subtype : frame 14 = avtpSubtypeAdp)
  | acmp (subtype : frame 14 = avtpSubtypeAcmp) (long : 70 ≤ len)
    (address : AcmpElsewhere s (frame.offset 14))
  | aecp (subtype : frame 14 = avtpSubtypeAecp) (long : 26 ≤ len)
    (address : AecpElsewhere s (frame.offset 14))

-- ---------------------------------------------------------------------------
-- ACMP
-- ---------------------------------------------------------------------------

/-- What is called for a message for another entity is at most the handler
of the talker's response. -/
theorem acmpHandler_elsewhere {s : Avdecc} {pdu : Buffer} (h : AcmpElsewhere s pdu)
    {handler : AcmpHandler} (hcalled : acmpHandler s pdu = some handler) :
    handler = .connectTxResponse ∧ pduListenerId pdu ≠ s.entityId := by
  obtain ⟨htalker, hlistener⟩ := h
  unfold acmpHandler at hcalled
  dsimp only at hcalled
  have hmember (msgs : List UInt8) (msg : UInt8) (hmsg : msg ∈ msgs) (heq : pdu 1 &&& 0x0F = msg) :
      pdu 1 &&& 0x0F ∈ msgs := heq ▸ hmsg
  split_ifs at hcalled with h0 hours h1 h2 hours h4 hours h6 hours h8 hours h10 hours
  · exact absurd hours (htalker (hmember _ _ (by decide) h0))
  · exact ⟨(Option.some.inj hcalled).symm, hlistener (hmember _ _ (by decide) h1)⟩
  · exact absurd hours (htalker (hmember _ _ (by decide) h2))
  · exact absurd hours (htalker (hmember _ _ (by decide) h4))
  · exact absurd hours (hlistener (hmember _ _ (by decide) h6))
  · exact absurd hours (hlistener (hmember _ _ (by decide) h8))
  · exact absurd hours (hlistener (hmember _ _ (by decide) h10))

/-- The response to another listener's question answers none of ours. -/
theorem connectTxResponse_elsewhere (fw : Firmware) {pdu : Buffer}
    (h : pduListenerId pdu ≠ fw.avdecc.entityId) (nowMs : UInt32) :
    acmpHandleConnectTxResponse fw pdu nowMs = fw := by
  unfold acmpHandleConnectTxResponse answeredResolve
  rw [if_pos h]

-- ---------------------------------------------------------------------------
-- AECP
-- ---------------------------------------------------------------------------

theorem fill_own (mac : EthMac) (p : Producer) : mac.fill p (mac.buf p) = mac := by
  rw [EthMac.fill, EthMac.buf, Function.update_eq_self]

theorem aecpHandle_elsewhere {s : Avdecc} {c : AecpCommand} (h : AecpElsewhere s c.pdu) :
    aecpHandle s c = ⟨s, c.slot, none⟩ := by
  have htargets : c.pdu 1 &&& 0x0F ∈ aecpCommands → targetsUs s c = false := fun hcommand =>
    beq_eq_false_iff_ne.mpr (h.target hcommand)
  unfold aecpHandle
  dsimp only
  split
  · rename_i hmvu
    have hmember : c.pdu 1 &&& 0x0F ∈ aecpCommands := hmvu ▸ by decide
    rw [mvuHandle, mvuAccepts, htargets hmember, Bool.and_false, Bool.false_and]
    rfl
  split
  · rfl
  · rename_i haem
    have hmember : c.pdu 1 &&& 0x0F ∈ aecpCommands := by
      rw [not_not.mp haem]
      decide
    rw [htargets hmember]
    rfl

theorem aecp_elsewhere {fw : Firmware} {frame : Buffer} (len : Nat)
    (h : AecpElsewhere fw.avdecc (frame.offset 14)) : fw.aecp frame len = fw := by
  unfold Firmware.aecp
  dsimp only
  rw [aecpHandle_elsewhere h]
  dsimp only
  rw [fill_own]

-- ---------------------------------------------------------------------------
-- The dispatch
-- ---------------------------------------------------------------------------

def setAcmpRxCount (fw : Firmware) (count : UInt32) : Firmware :=
  { fw with avdecc := { fw.avdecc with acmpRxCount := count } }

/-- A message for another entity changes one counter, if it is ACMP, and
nothing else: no frame is sent, nothing is called back, no record touched. -/
theorem avdeccProcessRx_elsewhere {fw : Firmware} {frame : Buffer} {len : Nat} (r : Readings)
    (h : Elsewhere fw.avdecc frame len) :
    avdeccProcessRx fw frame len r =
      setAcmpRxCount fw (if frame 14 = avtpSubtypeAcmp then fw.avdecc.acmpRxCount + 1
        else fw.avdecc.acmpRxCount) := by
  unfold avdeccProcessRx
  cases h with
  | adp hsubtype =>
    have hacmp : frame 14 ≠ avtpSubtypeAcmp := hsubtype ▸ by decide
    have haecp : frame 14 ≠ avtpSubtypeAecp := hsubtype ▸ by decide
    simp only [if_neg hacmp, if_neg haecp, ite_self]
    rfl
  | acmp hsubtype hlong haddress =>
    have hacmp : isAcmp frame len := by
      rw [isAcmp, hsubtype, decide_eq_true (by unfold acmpduLen; omega)]
      rfl
    rw [if_neg (by omega), if_pos hsubtype, if_pos hacmp, if_pos hsubtype]
    dsimp only
    split
    · rename_i handler hcalled
      obtain ⟨rfl, hother⟩ := acmpHandler_elsewhere ⟨haddress.talker, haddress.listener⟩ hcalled
      exact connectTxResponse_elsewhere (setAcmpRxCount fw (fw.avdecc.acmpRxCount + 1)) hother
        r.nowMs
    · rfl
  | aecp hsubtype hlong haddress =>
    have hacmp : frame 14 ≠ avtpSubtypeAcmp := hsubtype ▸ by decide
    have hlen : ¬ len < 14 + 4 := by omega
    simp only [if_neg hlen, if_neg hacmp, if_pos hsubtype]
    exact aecp_elsewhere len haddress

/-- A CONNECT_RX_COMMAND for the listener of another entity. -/
def otherCommand : List UInt8 :=
  avdeccEthHdr (zeroBytes 6) ++ Acmpdu.bytes
    { msgType := acmpMsgConnectRxCommand
      controllerId := zeroBytes 8
      talkerId := eightBytes 0x00 0x1B 0x21 0xFF 0xFE 0x00 0x00 0x0A
      listenerId := eightBytes 0x00 0x1B 0x21 0xFF 0xFE 0x00 0x00 0x0B
      talkerUid := 0
      listenerUid := 0
      seqId := 0 }

theorem otherCommand_counted :
    Elsewhere boot.avdecc (Buffer.ofList otherCommand) 70 ∧
      (avdeccProcessRx boot (Buffer.ofList otherCommand) 70 {}).avdecc.acmpRxCount = 1 := by
  have helsewhere : Elsewhere boot.avdecc (Buffer.ofList otherCommand) 70 :=
    .acmp (by decide +kernel) (by decide) ⟨by decide +kernel, by decide +kernel⟩
  refine ⟨helsewhere, ?_⟩
  rw [avdeccProcessRx_elsewhere {} helsewhere]
  decide +kernel

end AvbAes3.OtherEntities
