import AvbAes3.AecpResponses

/-!
# The bytes an AECP command is read of

Two commands whose frames agree up to the end of the received PDU are
handled alike where a handler reads no further. Every handler of a known AEM
command checks the length before it reads past the common header.
-/

namespace AvbAes3

open AecpResponses (aemCommands none_ite_iff)

/-- The same command as far as it was received, handled in the same place. -/
structure AgreesOnReceived (c c' : AecpCommand) : Prop where
  pduLen : c'.pduLen = c.pduLen
  slot : c'.slot = c.slot
  gptp : c'.gptp = c.gptp
  srp : c'.srp = c.srp
  frame : ∀ i < 14 + c.pduLen, c'.frame i = c.frame i

namespace AgreesOnReceived

variable {c c' : AecpCommand} (h : AgreesOnReceived c c')

include h

theorem pdu {i : Nat} (hi : i < c.pduLen) : c'.pdu i = c.pdu i := h.frame (14 + i) (by omega)

theorem field (off : Nat) (hoff : off + 2 ≤ c.pduLen) : c'.field off = c.field off :=
  getBe16_congr fun i hi => h.pdu (i := off + i) (by omega)

theorem echo (off n : Nat) (hlen : off + n ≤ c.pduLen) : c'.echo off n = c.echo off n :=
  Buffer.take_congr fun i hi => h.pdu (i := off + i) (by omega)

theorem word (off : Nat) (hoff : off + 4 ≤ c.pduLen) :
    getBe32 (c'.pdu.offset off) = getBe32 (c.pdu.offset off) :=
  getBe32_congr fun i hi => h.pdu (i := off + i) (by omega)

theorem id (off : Nat) (hoff : off + 8 ≤ c.pduLen) :
    (c'.pdu.offset off).bytes 8 = (c.pdu.offset off).bytes 8 :=
  Buffer.bytes_congr fun i hi => h.pdu (i := off + i) (by omega)

theorem requester : (c'.frame.offset 6).bytes 6 = (c.frame.offset 6).bytes 6 :=
  Buffer.bytes_congr fun i hi => h.frame (6 + i) (by omega)

theorem unicastHeader (slot : Buffer) (srcMac : MacAddr) :
    unicastHeader slot srcMac c'.frame = AvbAes3.unicastHeader slot srcMac c.frame := by
  have htake : (c'.frame.offset 6).take 6 = (c.frame.offset 6).take 6 :=
    Buffer.take_congr fun i hi => h.frame (6 + i) (by omega)
  rw [AvbAes3.unicastHeader, AvbAes3.unicastHeader, htake]

theorem respond (hlen : 24 ≤ c.pduLen) (s : Avdecc) (fields : List (Nat × List UInt8))
    (status : UInt8) (cdl : UInt16) (len : Nat) :
    aecpRespond s c' fields status cdl len = aecpRespond s c fields status cdl len := by
  have htake : (c'.frame.offset (14 + 4)).take 20 = (c.frame.offset (14 + 4)).take 20 :=
    Buffer.take_congr fun i hi => h.frame (14 + 4 + i) (by omega)
  rw [aecpRespond, aecpRespond, aecpBeginResponse, aecpBeginResponse, h.unicastHeader, htake, h.slot]

end AgreesOnReceived

-- ---------------------------------------------------------------------------
-- Known commands
-- ---------------------------------------------------------------------------

section Known

variable {c c' : AecpCommand} (h : AgreesOnReceived c c')

include h

theorem answered_congr {minLen : Nat} {reply reply' : AecpReply}
    (heq : minLen ≤ c.pduLen → reply' = reply) :
    (if c'.pduLen < minLen then none else reply') =
      if c.pduLen < minLen then none else reply := by
  rw [h.pduLen]
  split
  · rfl
  · exact heq (Nat.not_lt.mp ‹_›)

variable (hlen : 24 ≤ c.pduLen) (s : Avdecc)

include hlen

theorem aemReadDescriptor_congr : aemReadDescriptor s c' = aemReadDescriptor s c := by
  refine answered_congr h fun hmin => ?_
  dsimp only
  rw [h.field 24 (by omega), h.field 28 (by omega), h.field 30 (by omega), h.gptp]
  cases buildDescriptor (c.field 28) (c.field 30) s c.gptp with
  | none => exact h.respond hlen ..
  | some desc => exact h.respond hlen ..

theorem aemAcquireOrLock_congr (releaseFlag : UInt32) :
    aemAcquireOrLock s c' releaseFlag = aemAcquireOrLock s c releaseFlag := by
  refine answered_congr h fun hmin => ?_
  dsimp only
  rw [h.echo 24 16 (by omega), h.echo aecpOffControllerId 8
    (by unfold aecpOffControllerId; omega), h.word 24 (by omega)]
  exact h.respond hlen ..

theorem aemGetStreamFormat_congr : aemGetStreamFormat s c' = aemGetStreamFormat s c := by
  refine answered_congr h fun hmin => ?_
  rw [h.field 24 (by omega), h.field 26 (by omega), h.echo 24 4 (by omega)]
  cases descriptorFormat (c.field 24) (c.field 26) with
  | none => exact h.respond hlen ..
  | some fmt => exact h.respond hlen ..

theorem aemSetStreamFormat_congr : aemSetStreamFormat s c' = aemSetStreamFormat s c := by
  refine answered_congr h fun hmin => ?_
  rw [h.field 24 (by omega), h.field 26 (by omega), h.echo 24 12 (by omega),
    h.echo 28 8 (by omega)]
  exact h.respond hlen ..

theorem aemGetClockSource_congr : aemGetClockSource s c' = aemGetClockSource s c := by
  refine answered_congr h fun hmin => ?_
  rw [clockDomainStatus, clockDomainStatus, h.field 24 (by omega), h.field 26 (by omega),
    h.echo 24 4 (by omega)]
  exact h.respond hlen ..

theorem aemGetAsPath_congr : aemGetAsPath s c' = aemGetAsPath s c := by
  refine answered_congr h fun hmin => ?_
  rw [h.field 24 (by omega), h.gptp]
  exact h.respond hlen ..

theorem aemGetAvbInfo_congr : aemGetAvbInfo s c' = aemGetAvbInfo s c := by
  refine answered_congr h fun hmin => ?_
  dsimp only
  rw [h.field 24 (by omega), h.field 26 (by omega), h.gptp, h.srp]
  exact h.respond hlen ..

theorem aemGetCounters_congr : aemGetCounters s c' = aemGetCounters s c := by
  refine answered_congr h fun hmin => ?_
  dsimp only
  rw [h.field 24 (by omega), h.field 26 (by omega)]
  exact h.respond hlen ..

theorem aemGetAudioMap_congr : aemGetAudioMap s c' = aemGetAudioMap s c := by
  refine answered_congr h fun hmin => ?_
  rw [h.field 24 (by omega), h.field 26 (by omega), h.field 28 (by omega)]
  exact h.respond hlen ..

theorem aemGetMaxTransitTime_congr : aemGetMaxTransitTime s c' = aemGetMaxTransitTime s c := by
  refine answered_congr h fun hmin => ?_
  dsimp only
  rw [h.field 24 (by omega), h.field 26 (by omega)]
  exact h.respond hlen ..

theorem aemGetStreamInfo_congr : aemGetStreamInfo s c' = aemGetStreamInfo s c := by
  refine answered_congr h fun hmin => ?_
  rw [h.field 24 (by omega), h.field 26 (by omega), h.echo 24 4 (by omega)]
  cases solicitedStreamInfo s (c.field 24) (c.field 26) with
  | none => exact h.respond hlen ..
  | some info => exact h.respond hlen ..

theorem aemGetName_congr : aemGetName s c' = aemGetName s c := by
  refine answered_congr h fun hmin => ?_
  dsimp only
  rw [h.field 24 (by omega), h.field 26 (by omega), h.field 28 (by omega), h.field 30 (by omega)]
  exact h.respond hlen ..

theorem aemRegisterUnsolicited_congr :
    aemRegisterUnsolicited s c' = aemRegisterUnsolicited s c := by
  rw [aemRegisterUnsolicited, aemRegisterUnsolicited, h.requester,
    h.id aecpOffControllerId (by unfold aecpOffControllerId; omega)]
  exact congrArg (Prod.mk _) (h.respond hlen ..)

theorem aemDeregisterUnsolicited_congr :
    aemDeregisterUnsolicited s c' = aemDeregisterUnsolicited s c := by
  rw [aemDeregisterUnsolicited, aemDeregisterUnsolicited,
    h.id aecpOffControllerId (by unfold aecpOffControllerId; omega)]
  exact congrArg (Prod.mk _) (h.respond hlen ..)

theorem aemSetClockSource_congr : aemSetClockSource s c' = aemSetClockSource s c := by
  unfold aemSetClockSource
  rw [h.pduLen]
  by_cases hmin : c.pduLen < 32
  · rw [if_pos hmin, if_pos hmin]
  · have hstatus : setClockSourceStatus c' = setClockSourceStatus c := by
      rw [setClockSourceStatus, setClockSourceStatus, h.field 24 (by omega),
        h.field 26 (by omega), h.field 28 (by omega)]
    rw [if_neg hmin, if_neg hmin, hstatus, h.field 28 (by omega), h.echo 24 4 (by omega)]
    exact congrArg (Prod.mk _) (h.respond hlen ..)

theorem aemCommand_congr {cmdType : UInt16} (hknown : cmdType ∈ aemCommands) :
    aemCommand s c' cmdType = aemCommand s c cmdType := by
  unfold aemCommand
  refine ite_congr rfl (fun _ => congrArg (Prod.mk s) (aemReadDescriptor_congr h hlen s)) fun h0 => ?_
  refine ite_congr rfl (fun _ => congrArg (Prod.mk s) (aemAcquireOrLock_congr h hlen s _)) fun h1 => ?_
  refine ite_congr rfl (fun _ => congrArg (Prod.mk s) (aemAcquireOrLock_congr h hlen s _)) fun h2 => ?_
  refine ite_congr rfl (fun _ => congrArg (Prod.mk s) (aemGetStreamFormat_congr h hlen s)) fun h3 => ?_
  refine ite_congr rfl (fun _ => congrArg (Prod.mk s) (aemSetStreamFormat_congr h hlen s)) fun h4 => ?_
  refine ite_congr rfl (fun _ => congrArg (Prod.mk s) (aemGetClockSource_congr h hlen s)) fun h5 => ?_
  refine ite_congr rfl (fun _ => congrArg (Prod.mk s) (aemGetAsPath_congr h hlen s)) fun h6 => ?_
  refine ite_congr rfl (fun _ => congrArg (Prod.mk s) (aemGetAvbInfo_congr h hlen s)) fun h7 => ?_
  refine ite_congr rfl (fun _ => congrArg (Prod.mk s) (aemGetCounters_congr h hlen s)) fun h8 => ?_
  refine ite_congr rfl (fun _ => congrArg (Prod.mk s) (aemGetAudioMap_congr h hlen s)) fun h9 => ?_
  refine ite_congr rfl (fun _ => aemRegisterUnsolicited_congr h hlen s) fun h10 => ?_
  refine ite_congr rfl (fun _ => aemDeregisterUnsolicited_congr h hlen s) fun h11 => ?_
  refine ite_congr rfl (fun _ => congrArg (Prod.mk s) (aemGetMaxTransitTime_congr h hlen s)) fun h12 => ?_
  refine ite_congr rfl (fun _ => congrArg (Prod.mk s) (aemGetStreamInfo_congr h hlen s)) fun h13 => ?_
  refine ite_congr rfl (fun _ => aemSetClockSource_congr h hlen s) fun h14 => ?_
  refine ite_congr rfl (fun _ => congrArg (Prod.mk s) (aemGetName_congr h hlen s)) fun h15 => ?_
  simp [aemCommands, *] at hknown

end Known

end AvbAes3
