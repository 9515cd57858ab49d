import AvbAes3.ConnectAnswers

/-!
# Commands with unknown stream ids

Each of the six ACMP commands treats a stream id out of range in its own
way: the connects check it and answer with its error, the disconnects only
skip the update of the record, and the state queries leave it to the
response builder, which fills nothing in. None of them has an effect, but
only the connects are refused: the other four are answered with SUCCESS.
-/

namespace AvbAes3.UnknownUids

open ConnectAnswers (frame_pdu)

-- ---------------------------------------------------------------------------
-- Commands
-- ---------------------------------------------------------------------------

inductive Command
  | connectTx | disconnectTx | getTxState | connectRx | disconnectRx | getRxState
  deriving DecidableEq, Repr

/-- A command to the talker, with a talker unique id. -/
def Command.toTalker : Command → Bool
  | .connectTx | .disconnectTx | .getTxState => true
  | .connectRx | .disconnectRx | .getRxState => false

def Command.msgType : Command → UInt8
  | .connectTx => acmpMsgConnectTxCommand
  | .disconnectTx => acmpMsgDisconnectTxCommand
  | .getTxState => acmpMsgGetTxStateCommand
  | .connectRx => acmpMsgConnectRxCommand
  | .disconnectRx => acmpMsgDisconnectRxCommand
  | .getRxState => acmpMsgGetRxStateCommand

def Command.response : Command → UInt8
  | .connectTx => acmpMsgConnectTxResponse
  | .disconnectTx => acmpMsgDisconnectTxResponse
  | .getTxState => acmpMsgGetTxStateResponse
  | .connectRx => acmpMsgConnectRxResponse
  | .disconnectRx => acmpMsgDisconnectRxResponse
  | .getRxState => acmpMsgGetRxStateResponse

/-- The command, addressed to us, for a stream we do not have. -/
structure Unknown (s : Avdecc) (frame : Buffer) (len : Nat) (c : Command) : Prop where
  acmp : isAcmp frame len
  msgType : frame.offset 14 1 &&& 0x0F = c.msgType
  ours : (if c.toTalker then pduTalkerId (frame.offset 14) else pduListenerId (frame.offset 14)) =
    s.entityId
  uid : if c.toTalker then avdeccMaxTalkers ≤ (pduTalkerUid (frame.offset 14)).toNat
    else avdeccMaxListeners ≤ (pduListenerUid (frame.offset 14)).toNat

def responseStatus (response : List UInt8) : UInt8 := pduStatus ((Buffer.ofList response).offset 14)

/-- The firmware with one message more received and one more sent. -/
def counted (fw : Firmware) : Firmware :=
  { fw with avdecc := { fw.avdecc with
      acmpRxCount := fw.avdecc.acmpRxCount + 1
      acmpTxCount := fw.avdecc.acmpTxCount + 1 } }

/-- All that has happened is that the command's response was sent. -/
structure OnlyResponds (c : Command) (fw fw' : Firmware) (response : List UInt8) : Prop where
  msgType : Buffer.ofList response 15 = c.response
  sent : fw' = (counted fw).sendAll .avdecc [response]

def Refused (c : Command) (fw fw' : Firmware) : Prop :=
  ∃ response, OnlyResponds c fw fw' response ∧ responseStatus response ≠ acmpStatusSuccess

-- ---------------------------------------------------------------------------
-- The response
-- ---------------------------------------------------------------------------

/-- The status each handler gives. -/
def Command.unknownStatus : Command → UInt8
  | .connectTx => acmpStatusTalkerUnknownId
  | .connectRx => acmpStatusListenerUnknownId
  | _ => acmpStatusSuccess

def Command.handler : Command → AcmpHandler
  | .connectTx => .connectTx
  | .disconnectTx => .disconnectTx
  | .getTxState => .getTxState
  | .connectRx => .connectRx
  | .disconnectRx => .disconnectRx
  | .getRxState => .getRxState

variable {s : Avdecc} {frame : Buffer} {len : Nat} {c : Command}

theorem Unknown.called (h : Unknown s frame len c) :
    acmpHandler s (frame.offset 14) = some c.handler := by
  have hours := h.ours
  rw [acmpHandler, h.msgType]
  cases c <;>
    simpa [Command.msgType, Command.handler, Command.toTalker, acmpMsgConnectTxCommand,
      acmpMsgConnectTxResponse, acmpMsgDisconnectTxCommand, acmpMsgGetTxStateCommand,
      acmpMsgConnectRxCommand, acmpMsgDisconnectRxCommand, acmpMsgGetRxStateCommand] using hours

theorem Unknown.talkerUid (h : Unknown s frame len c) (hc : c.toTalker) :
    talkerUid? (pduTalkerUid (frame.offset 14)) = none := by
  have huid := h.uid
  rw [if_pos hc] at huid
  exact dif_neg (Nat.not_lt.mpr huid)

theorem Unknown.listenerUid (h : Unknown s frame len c) (hc : c.toTalker = false) :
    listenerUid? (pduListenerUid (frame.offset 14)) = none := by
  have huid := h.uid
  rw [if_neg (ne_true_of_eq_false hc)] at huid
  exact dif_neg (Nat.not_lt.mpr huid)

/-- Every handler comes to its response. -/
theorem Unknown.handled {fw : Firmware} (h : Unknown fw.avdecc frame len c) (r : Readings) :
    avdeccProcessRx fw frame len r = Firmware.respond
      { fw with avdecc := { fw.avdecc with acmpRxCount := fw.avdecc.acmpRxCount + 1 } }
      c.response c.unknownStatus (frame.offset 14) := by
  rw [avdeccProcessRx_acmp r h.acmp h.called]
  cases c with
  | connectTx => rw [Command.handler, acmpHandle, acmpHandleConnectTx, h.talkerUid rfl]; rfl
  | disconnectTx => rw [Command.handler, acmpHandle, acmpHandleDisconnectTx, h.talkerUid rfl]; rfl
  | getTxState => rfl
  | connectRx => rw [Command.handler, acmpHandle, acmpHandleConnectRx, h.listenerUid rfl]; rfl
  | disconnectRx =>
    rw [Command.handler, acmpHandle, acmpHandleDisconnectRx, h.listenerUid rfl]; rfl
  | getRxState => rfl

/-- The received ACMPDU with the header of a response. -/
def edited (pdu : Buffer) (msgType status : UInt8) : Buffer :=
  (pdu.copy 0 [avtpSubtypeAcmp, msgType &&& 0x0F]).copy 2 (be16 (statusCdl status acmpControlDataLen))

theorem edited_kept (pdu : Buffer) (msgType status : UInt8) {i : Nat} (h : 4 ≤ i) :
    edited pdu msgType status i = pdu i := by
  unfold edited
  rw [Buffer.copy_outside (by simp only [be16, List.length_cons, List.length_nil]; omega),
    Buffer.copy_outside (by simp only [List.length_cons, List.length_nil]; omega)]

theorem edited_talkerUid (pdu : Buffer) (msgType status : UInt8) :
    pduTalkerUid (edited pdu msgType status) = pduTalkerUid pdu :=
  getBe16_congr fun _ _ => edited_kept pdu msgType status (by unfold acmpOffTalkerUid; omega)

theorem edited_listenerUid (pdu : Buffer) (msgType status : UInt8) :
    pduListenerUid (edited pdu msgType status) = pduListenerUid pdu :=
  getBe16_congr fun _ _ => edited_kept pdu msgType status (by unfold acmpOffListenerUid; omega)

theorem response_talker (c : Command) :
    (c.response = acmpMsgConnectTxResponse ∨ c.response = acmpMsgGetTxStateResponse ∨
      c.response = acmpMsgDisconnectTxResponse) ↔ c.toTalker := by
  cases c <;> decide

theorem response_listener (c : Command) :
    (c.response = acmpMsgConnectRxResponse ∨ c.response = acmpMsgGetRxStateResponse ∨
      c.response = acmpMsgDisconnectRxResponse) ↔ ¬ c.toTalker := by
  cases c <;> decide

/-- For a stream we do not have, nothing more is filled in. -/
theorem Unknown.edited (h : Unknown s frame len c) (t : Avdecc) (status : UInt8) :
    acmpSendResponse t c.response status (frame.offset 14) =
      ({ t with acmpTxCount := t.acmpTxCount + 1 },
        [avdeccEthHdr t.srcMac ++
          (UnknownUids.edited (frame.offset 14) c.response status).take acmpduLen]) := by
  have htalker (hc : c.toTalker) (msgType : UInt8) : fillTalkerResponse t msgType
      (UnknownUids.edited (frame.offset 14) c.response status) =
        UnknownUids.edited (frame.offset 14) c.response status := by
    have huid := h.talkerUid hc
    rw [← edited_talkerUid (frame.offset 14) c.response status, pduTalkerUid] at huid
    rw [fillTalkerResponse, huid]
  have hlistener (hc : c.toTalker = false) : fillListenerResponse t
      (UnknownUids.edited (frame.offset 14) c.response status) =
        UnknownUids.edited (frame.offset 14) c.response status := by
    have huid := h.listenerUid hc
    rw [← edited_listenerUid (frame.offset 14) c.response status, pduListenerUid] at huid
    rw [fillListenerResponse, huid]
  unfold acmpSendResponse
  dsimp only
  rw [← UnknownUids.edited]
  by_cases hc : c.toTalker
  · rw [if_pos ((response_talker c).mpr hc), if_neg fun hl => (response_listener c).mp hl hc,
      htalker hc]
  · rw [if_neg fun ht => hc ((response_talker c).mp ht), if_pos ((response_listener c).mpr hc),
      hlistener (eq_false_of_ne_true hc)]

/-- What is read of the response sent. -/
theorem edited_read (srcMac : MacAddr) (pdu : Buffer) (msgType status : UInt8) :
    let response := avdeccEthHdr srcMac ++ (edited pdu msgType status).take acmpduLen
    Buffer.ofList response 15 = msgType &&& 0x0F ∧
      responseStatus response = (statusCdl status acmpControlDataLen >>> 8).toUInt8 >>> 3 &&& 0x1F := by
  constructor
  · rw [frame_pdu srcMac _ (show 1 < acmpduLen by decide), edited, Buffer.copy_outside (by simp)]
    rfl
  · have hbyte := frame_pdu srcMac (edited pdu msgType status) (show 2 < acmpduLen by decide)
    rw [responseStatus, pduStatus, Buffer.offset_apply, hbyte]
    rfl

-- ---------------------------------------------------------------------------
-- Refusals
-- ---------------------------------------------------------------------------

theorem OnlyResponds.unique {fw fw' : Firmware} {response response' : List UInt8}
    (h : OnlyResponds c fw fw' response) (h' : OnlyResponds c fw fw' response') :
    response = response' := by
  have hsent := congrArg Firmware.sent (h.sent.symm.trans h'.sent)
  rw [sendAll_sent, sendAll_sent] at hsent
  simpa using hsent

/-- No command has an effect; its response carries the handler's status. -/
theorem Unknown.responds {fw : Firmware} (h : Unknown fw.avdecc frame len c) (r : Readings) :
    ∃ response, OnlyResponds c fw (avdeccProcessRx fw frame len r) response ∧
      responseStatus response = c.unknownStatus := by
  obtain ⟨htype, hstatus⟩ := edited_read fw.avdecc.srcMac (frame.offset 14) c.response
    c.unknownStatus
  refine ⟨_, ⟨htype.trans ?_, ?_⟩, hstatus.trans ?_⟩
  · cases c <;> decide
  · rw [h.handled r, Firmware.respond, h.edited]
    rfl
  · cases c <;> decide

/-- Only the connects are refused. -/
theorem refused_iff {fw : Firmware} (h : Unknown fw.avdecc frame len c) (r : Readings) :
    Refused c fw (avdeccProcessRx fw frame len r) ↔ c = .connectTx ∨ c = .connectRx := by
  obtain ⟨response, hresponds, hstatus⟩ := h.responds r
  have hrefuses : c.unknownStatus ≠ acmpStatusSuccess ↔ c = .connectTx ∨ c = .connectRx := by
    cases c <;> decide
  rw [← hrefuses, ← hstatus]
  constructor
  · rintro ⟨response', hresponds', hrefused⟩
    rwa [hresponds.unique hresponds']
  · exact fun hrefused => ⟨response, hresponds, hrefused⟩

/-- A command to us for streams 9. -/
def commandFor (msgType : UInt8) : Buffer :=
  Buffer.ofList (avdeccEthHdr (zeroBytes 6) ++ Acmpdu.bytes
    { msgType := msgType
      controllerId := zeroBytes 8
      talkerId := (avdeccInit boardMac).entityId
      listenerId := (avdeccInit boardMac).entityId
      talkerUid := 9
      listenerUid := 9
      seqId := 0 })

theorem connectTx_refused :
    Refused .connectTx boot (avdeccProcessRx boot (commandFor acmpMsgConnectTxCommand) 70 {}) :=
  (refused_iff ⟨by decide +kernel, by decide +kernel, by decide +kernel, by decide +kernel⟩ {}).mpr
    (.inl rfl)

/-- A stream that does not exist is disconnected with SUCCESS. -/
theorem disconnectTx_not_refused :
    ¬ Refused .disconnectTx boot
      (avdeccProcessRx boot (commandFor acmpMsgDisconnectTxCommand) 70 {}) := by
  have hunknown : Unknown boot.avdecc (commandFor acmpMsgDisconnectTxCommand) 70 .disconnectTx :=
    ⟨by decide +kernel, by decide +kernel, by decide +kernel, by decide +kernel⟩
  obtain ⟨response, hresponds, hstatus⟩ := hunknown.responds {}
  rintro ⟨response', hresponds', hrefused⟩
  rw [← hresponds.unique hresponds', hstatus] at hrefused
  exact hrefused rfl

end AvbAes3.UnknownUids
