import AvbAes3.GptpRun

/-!
# The bytes a gPTP message is read of

The receive buffer keeps what longer frames left behind the received bytes,
and the length check of `gptp_process_rx` covers the headers only. Of each
message that is taken, this says how far its body is read: nothing but
received bytes is used exactly when the frame reaches that far.
-/

namespace AvbAes3.GptpReceived

/-- Whatever the buffer holds behind the frame, the call ends in the same
state, with the same frames sent and the same register writes. -/
def UsesReceived (g : Gptp) (frame : Buffer) (len : Nat) : Prop :=
  ∀ (tsu : Tsu) (frame' : Buffer), (∀ i < len, frame' i = frame i) →
    gptpProcessRx g frame' len tsu = gptpProcessRx g frame len tsu

/-- Where the reads of a message end, from its header on. `process_announce`
looks at the length itself. -/
def readEnd : PtpMessage → Nat
  | .followUp | .pdelayRespFup => ptpHeaderLen + 10
  | .pdelayResp => ptpHeaderLen + 18
  | _ => ptpHeaderLen

/-- The guards before the body is read, as far as received bytes decide. -/
def Taken (g : Gptp) (ptp : Buffer) (ptpLen : Nat) : PtpMessage → Prop
  | .followUp => followUpMatches g ptp
  | .pdelayResp => getBe16 (ptp.offset ptpOffSeqId) = g.pdelaySeqId ∧
      ∀ i < 8, ptpHeaderLen + 10 + i < ptpLen → ptp (ptpHeaderLen + 10 + i) = byteAt g.clockId i
  | .pdelayRespFup => pdelayRespFupMatches g ptp
  | _ => True

/-- A message that is taken was received up to the end of what is read. -/
def BodyReceived (g : Gptp) (frame : Buffer) (len : Nat) : Prop :=
  ∀ msg ∈ ptpMessage frame len,
    Taken g (frame.offset ethHeaderLen) (len - ethHeaderLen) msg →
      readEnd msg ≤ len - ethHeaderLen

-- ---------------------------------------------------------------------------
-- The headers
-- ---------------------------------------------------------------------------

theorem headers_received (h : ptpMessage frame len = some msg) :
    ethHeaderLen + ptpHeaderLen ≤ len := by
  by_contra hshort
  rw [ptpMessage, if_pos (.inl (Nat.not_le.mp hshort))] at h
  cases h

theorem header_congr {frame frame' : Buffer} (h : ∀ i < len, frame' i = frame i)
    (rx : RxCounters) :
    ptpMessage frame' len = ptpMessage frame len ∧ countRx rx frame' len = countRx rx frame len := by
  by_cases hlen : len < ethHeaderLen + ptpHeaderLen
  · rw [ptpMessage, ptpMessage, countRx, countRx, if_pos (.inl hlen), if_pos (.inl hlen),
      if_pos hlen, if_pos hlen]
    exact ⟨rfl, rfl⟩
  rw [ethHeaderLen, ptpHeaderLen, Nat.not_lt] at hlen
  have htype : getBe16 (frame'.offset 12) = getBe16 (frame.offset 12) :=
    getBe16_congr fun i hi => h _ (by omega)
  have hmsgType : frame'.offset ethHeaderLen ptpOffMsgType =
      frame.offset ethHeaderLen ptpOffMsgType := h _ (by rw [ethHeaderLen, ptpOffMsgType]; omega)
  have hdomain : frame'.offset ethHeaderLen ptpOffDomain =
      frame.offset ethHeaderLen ptpOffDomain := h _ (by rw [ethHeaderLen, ptpOffDomain]; omega)
  simp only [ptpMessage, countRx, htype, hmsgType, hdomain]
  exact ⟨trivial, trivial⟩

theorem getBe64Signed_congr {p p' : Buffer} (h : ∀ i < 8, p' i = p i) :
    getBe64Signed p' = getBe64Signed p := by
  rw [getBe64Signed, getBe64Signed, getBe64_congr h]

theorem getPtpTs_congr {p p' : Buffer} (h : ∀ i < 10, p' i = p i) : getPtpTs p' = getPtpTs p := by
  have hseconds : getBe48 p' = getBe48 p := getBe48_congr fun i hi => h i (by omega)
  have hnanoseconds : getBe32 (p'.offset 6) = getBe32 (p.offset 6) :=
    getBe32_congr fun i hi => h (6 + i) (by omega)
  rw [getPtpTs, getPtpTs, hseconds, hnanoseconds]

-- ---------------------------------------------------------------------------
-- Each message reads up to its end
-- ---------------------------------------------------------------------------

section
variable {ptp ptp' : Buffer}

theorem seqId_congr (hheader : ∀ i < ptpHeaderLen, ptp' i = ptp i) :
    getBe16 (ptp'.offset ptpOffSeqId) = getBe16 (ptp.offset ptpOffSeqId) :=
  getBe16_congr fun i hi => hheader _ (by rw [ptpOffSeqId, ptpHeaderLen]; omega)

theorem correction_congr (hheader : ∀ i < ptpHeaderLen, ptp' i = ptp i) :
    getBe64Signed (ptp'.offset ptpOffCorrection) = getBe64Signed (ptp.offset ptpOffCorrection) :=
  getBe64Signed_congr fun i hi => hheader _ (by rw [ptpOffCorrection, ptpHeaderLen]; omega)

theorem followUpMatches_congr (g : Gptp) (hheader : ∀ i < ptpHeaderLen, ptp' i = ptp i) :
    followUpMatches g ptp' = followUpMatches g ptp := by
  rw [followUpMatches, followUpMatches, seqId_congr hheader]

theorem pdelayRespFupMatches_congr (g : Gptp) (hheader : ∀ i < ptpHeaderLen, ptp' i = ptp i) :
    pdelayRespFupMatches g ptp' = pdelayRespFupMatches g ptp := by
  rw [pdelayRespFupMatches, pdelayRespFupMatches, seqId_congr hheader]

theorem processFollowUp_congr (g : Gptp) (tsu : Tsu) (hheader : ∀ i < ptpHeaderLen, ptp' i = ptp i)
    (hbody : followUpMatches g ptp → ∀ i < readEnd .followUp, ptp' i = ptp i) :
    processFollowUp g ptp' tsu = processFollowUp g ptp tsu := by
  rw [processFollowUp, processFollowUp, followUpMatches_congr g hheader]
  split
  · rename_i hmatch
    have hts : getPtpTs (ptp'.offset ptpHeaderLen) = getPtpTs (ptp.offset ptpHeaderLen) :=
      getPtpTs_congr fun i hi => hbody hmatch _ (by rw [readEnd]; omega)
    have hraw : rawOffset g ptp' = rawOffset g ptp := by
      rw [rawOffset, rawOffset, hts, correction_congr hheader]
    rw [followUpOffset, followUpOffset, hts, hraw]
  · rfl

theorem processPdelayResp_congr (g : Gptp) (tsu : Tsu)
    (hheader : ∀ i < ptpHeaderLen, ptp' i = ptp i)
    (hbody : Taken g ptp ptpLen .pdelayResp → ∀ i < readEnd .pdelayResp, ptp' i = ptp i)
    (hreceived : ∀ i < ptpLen, ptp' i = ptp i) :
    processPdelayResp g ptp' tsu = processPdelayResp g ptp tsu := by
  have hseq := seqId_congr hheader
  by_cases htaken : Taken g ptp ptpLen .pdelayResp
  · have hts : getPtpTs (ptp'.offset ptpHeaderLen) = getPtpTs (ptp.offset ptpHeaderLen) :=
      getPtpTs_congr fun i hi => hbody htaken _ (by rw [readEnd]; omega)
    have hid : (ptp'.offset (ptpHeaderLen + 10)).bytes 8 =
        (ptp.offset (ptpHeaderLen + 10)).bytes 8 :=
      Buffer.bytes_congr fun i hi => hbody htaken _ (by rw [readEnd]; omega)
    rw [processPdelayResp, processPdelayResp, pdelayRespMatches, pdelayRespMatches, hseq, hid, hts]
  · -- a received byte tells that the message is not for us, in both buffers
    have hmatches (p : Buffer) (hp : ∀ i < ptpLen, p i = ptp i)
        (hpseq : getBe16 (p.offset ptpOffSeqId) = getBe16 (ptp.offset ptpOffSeqId)) :
        pdelayRespMatches g p = false := by
      rw [pdelayRespMatches, Bool.eq_false_iff]
      intro hmatch
      rw [Bool.and_eq_true, beq_iff_eq, beq_iff_eq] at hmatch
      refine htaken ⟨hpseq ▸ hmatch.1, fun i hi hlt => ?_⟩
      rw [← hp _ hlt, ← hmatch.2]
      simp [byteAt, Buffer.bytes, hi]
    rw [processPdelayResp, processPdelayResp, hmatches ptp' hreceived hseq,
      hmatches ptp (fun _ _ => rfl) rfl, if_neg Bool.false_ne_true, if_neg Bool.false_ne_true]

theorem processPdelayRespFup_congr (g : Gptp) (hheader : ∀ i < ptpHeaderLen, ptp' i = ptp i)
    (hbody : pdelayRespFupMatches g ptp → ∀ i < readEnd .pdelayRespFup, ptp' i = ptp i) :
    processPdelayRespFup g ptp' = processPdelayRespFup g ptp := by
  rw [processPdelayRespFup, processPdelayRespFup, pdelayRespFupMatches_congr g hheader]
  split
  · rename_i hmatch
    have hts : getPtpTs (ptp'.offset ptpHeaderLen) = getPtpTs (ptp.offset ptpHeaderLen) :=
      getPtpTs_congr fun i hi => hbody hmatch _ (by rw [readEnd]; omega)
    rw [hts]
  · rfl

theorem processSync_congr (g : Gptp) (tsu : Tsu) (hheader : ∀ i < ptpHeaderLen, ptp' i = ptp i) :
    processSync g ptp' tsu = processSync g ptp tsu := by
  have hport : getBe16 (ptp'.offset (ptpOffSrcPortId + 8)) =
      getBe16 (ptp.offset (ptpOffSrcPortId + 8)) :=
    getBe16_congr fun i hi => hheader _ (by rw [ptpOffSrcPortId, ptpHeaderLen]; omega)
  have hid : (ptp'.offset ptpOffSrcPortId).bytes 8 = (ptp.offset ptpOffSrcPortId).bytes 8 :=
    Buffer.bytes_congr fun i hi => hheader _ (by rw [ptpOffSrcPortId, ptpHeaderLen]; omega)
  rw [processSync, processSync, seqId_congr hheader, correction_congr hheader, hport, hid]

theorem processPdelayReq_congr (g : Gptp) (tsu : Tsu)
    (hheader : ∀ i < ptpHeaderLen, ptp' i = ptp i) :
    processPdelayReq g ptp' tsu = processPdelayReq g ptp tsu := by
  have hanswer (msgType : UInt8) (ts : PtpTimestamp) :
      gptpSendAnswer msgType g ptp' ts = gptpSendAnswer msgType g ptp ts := by
    have hport : (ptp'.offset ptpOffSrcPortId).take 10 = (ptp.offset ptpOffSrcPortId).take 10 :=
      Buffer.take_congr fun i hi => hheader _ (by rw [ptpOffSrcPortId, ptpHeaderLen]; omega)
    rw [gptpSendAnswer, gptpSendAnswer, seqId_congr hheader, hport]
  rw [processPdelayReq, processPdelayReq, gptpSendPdelayResp, gptpSendPdelayRespFup, hanswer,
    hanswer]

theorem processAnnounce_congr (g : Gptp) (hreceived : ∀ i < ptpLen, ptp' i = ptp i) :
    processAnnounce g ptp' ptpLen = processAnnounce g ptp ptpLen := by
  rw [processAnnounce, processAnnounce]
  split
  · rename_i hlen
    rw [ptpHeaderLen] at hlen
    have hbyte (n : Nat) (hn : n < 30) :
        (ptp'.offset ptpHeaderLen) n = (ptp.offset ptpHeaderLen) n :=
      hreceived _ (by rw [ptpHeaderLen]; omega)
    have hvariance : getBe16 ((ptp'.offset ptpHeaderLen).offset 16) =
        getBe16 ((ptp.offset ptpHeaderLen).offset 16) :=
      getBe16_congr fun i hi => hbyte _ (by omega)
    have hid : ((ptp'.offset ptpHeaderLen).offset 19).bytes 8 =
        ((ptp.offset ptpHeaderLen).offset 19).bytes 8 :=
      Buffer.bytes_congr fun i hi => hbyte _ (by omega)
    dsimp only
    rw [hbyte 13 (by decide), hbyte 14 (by decide), hbyte 15 (by decide), hbyte 18 (by decide),
      hvariance, hid]
  · rfl

end

theorem usesReceived (h : BodyReceived g frame len) : UsesReceived g frame len := by
  intro tsu frame' hagree
  obtain ⟨hmessage, hcount⟩ := header_congr hagree g.rx
  rw [gptpProcessRx_counted, gptpProcessRx_counted, hmessage, hcount]
  generalize countRx g.rx frame len = rx
  cases hmsg : ptpMessage frame len with
  | none => rfl
  | some msg =>
    have hlen := headers_received hmsg
    have hreceived (i : Nat) (hi : i < len - ethHeaderLen) :
        frame'.offset ethHeaderLen i = frame.offset ethHeaderLen i := hagree _ (by omega)
    have hheader (i : Nat) (hi : i < ptpHeaderLen) :
        frame'.offset ethHeaderLen i = frame.offset ethHeaderLen i := hreceived i (by omega)
    have hbody (htaken : Taken g (frame.offset ethHeaderLen) (len - ethHeaderLen) msg) (i : Nat)
        (hi : i < readEnd msg) : frame'.offset ethHeaderLen i = frame.offset ethHeaderLen i :=
      hreceived i (Nat.lt_of_lt_of_le hi (h msg hmsg htaken))
    cases msg with
    | sync => exact congrArg (·, []) (processSync_congr _ tsu hheader)
    | followUp => exact processFollowUp_congr _ tsu hheader hbody
    | pdelayReq => exact processPdelayReq_congr _ tsu hheader
    | pdelayResp => exact congrArg (·, []) (processPdelayResp_congr _ tsu hheader hbody hreceived)
    | pdelayRespFup => exact congrArg (·, []) (processPdelayRespFup_congr _ hheader hbody)
    | announce => exact congrArg (·, []) (processAnnounce_congr _ hreceived)

-- ---------------------------------------------------------------------------
-- A shorter frame uses what the buffer held
-- ---------------------------------------------------------------------------

theorem getPtpTs_last {p p' : Buffer} (h : getPtpTs p' = getPtpTs p) : p' 9 = p 9 := by
  have hnanoseconds : getBe32 (p'.offset 6) = getBe32 (p.offset 6) :=
    congrArg PtpTimestamp.nanoseconds h
  have hbytes := congrArg be32 hnanoseconds
  simp only [getBe32, be32_ofBytes, List.cons.injEq] at hbytes
  exact hbytes.2.2.2.1

/-- Two buffers with the frame received, and two timestamps in them. -/
theorem stale_timestamp (frame : Buffer) (hlen : ethHeaderLen + ptpHeaderLen ≤ len)
    (hshort : len - ethHeaderLen < ptpHeaderLen + 10) :
    ∃ frame' : Buffer, (∀ i < len, frame' i = frame i) ∧
      getPtpTs ((frame'.offset ethHeaderLen).offset ptpHeaderLen) ≠
        getPtpTs ((frame.offset ethHeaderLen).offset ptpHeaderLen) := by
  rw [ethHeaderLen, ptpHeaderLen] at *
  refine ⟨frame.store 57 (frame 57 + 1), fun i hi => if_neg (by omega), fun hts => ?_⟩
  have hlast : frame 57 + 1 = frame 57 := getPtpTs_last hts
  simp at hlast

theorem gptpServoUpdate_syncOriginTs (g : Gptp) (uptimeMs : UInt32) :
    (gptpServoUpdate g uptimeMs).1.syncOriginTs = g.syncOriginTs := by
  obtain ⟨_, hwrites⟩ := gptpServoUpdate_writes g uptimeMs
  rw [hwrites]
  rfl

theorem processFollowUp_syncOriginTs {ptp : Buffer} (h : followUpMatches g ptp) (tsu : Tsu) :
    (processFollowUp g ptp tsu).1.syncOriginTs = getPtpTs (ptp.offset ptpHeaderLen) := by
  rw [processFollowUp, if_pos h, gptpServoUpdate_syncOriginTs]
  rfl

theorem processPdelayRespFup_pdelayT3 {ptp : Buffer} (h : pdelayRespFupMatches g ptp) :
    (processPdelayRespFup g ptp).pdelayT3 = getPtpTs (ptp.offset ptpHeaderLen) := by
  rw [processPdelayRespFup, if_pos h]

theorem processPdelayResp_pdelayT4 (g : Gptp) (ptp : Buffer) (tsu : Tsu) :
    (processPdelayResp g ptp tsu).pdelayT4 =
      if pdelayRespMatches g ptp then tsu.rxTs else g.pdelayT4 := by
  rw [processPdelayResp]
  split <;> rfl

/-- The frame received over memory that reads as our identity but for its last byte. -/
def held (g : Gptp) (frame : Buffer) (len : Nat) (last : UInt8) : Buffer := fun i =>
  if i < len then frame i else if i = 65 then last else byteAt g.clockId (i - 58)

theorem pdelayRespMatches_held {frame : Buffer} (hlen : ethHeaderLen + ptpHeaderLen ≤ len)
    (hshort : len - ethHeaderLen < readEnd .pdelayResp)
    (htaken : Taken g (frame.offset ethHeaderLen) (len - ethHeaderLen) .pdelayResp)
    (last : UInt8) :
    pdelayRespMatches g ((held g frame len last).offset ethHeaderLen) ↔
      last = byteAt g.clockId 7 := by
  obtain ⟨hseq, hid⟩ := htaken
  rw [readEnd] at hshort
  rw [ethHeaderLen, ptpHeaderLen] at *
  have hseq' : getBe16 (((held g frame len last).offset 14).offset ptpOffSeqId) = g.pdelaySeqId := by
    rw [← hseq]
    exact getBe16_congr fun i hi => if_pos (by rw [ptpOffSeqId]; omega)
  have hlast : held g frame len last 65 = last := by rw [held, if_neg (by omega), if_pos rfl]
  have hbyte (i : Nat) (hi : i < 7) : held g frame len last (58 + i) = byteAt g.clockId i := by
    rw [held]
    split
    · rename_i hreceived
      have := hid i (by omega) (by omega)
      rwa [Buffer.offset_apply, ← Nat.add_assoc] at this
    · rw [if_neg (by omega), Nat.add_sub_cancel_left]
  rw [pdelayRespMatches, Bool.and_eq_true, beq_iff_eq, beq_iff_eq, ptpHeaderLen, hseq']
  constructor
  · rintro ⟨-, hmatch⟩
    rw [← hmatch, byteAt]
    simpa [Buffer.bytes] using hlast.symm
  · rintro rfl
    refine ⟨rfl, Vector.ext fun i hi => ?_⟩
    have hown : byteAt g.clockId i = g.clockId[i] := by simp [byteAt, hi]
    rw [Buffer.bytes, Vector.getElem_ofFn, ← hown]
    show held g frame len _ (14 + (44 + i)) = byteAt g.clockId i
    rw [← Nat.add_assoc]
    rcases Nat.lt_succ_iff_lt_or_eq.mp hi with hlt | rfl
    · exact hbyte i hlt
    · exact hlast

theorem bodyReceived (h : UsesReceived g frame len) : BodyReceived g frame len := by
  intro msg hmsg htaken
  by_contra hshort
  rw [Nat.not_le] at hshort
  have hlen := headers_received hmsg
  have hsame (tsu : Tsu) (frame' : Buffer) (hagree : ∀ i < len, frame' i = frame i) :
      processPtp { g with rx := countRx g.rx frame len } (frame'.offset ethHeaderLen)
          (len - ethHeaderLen) tsu (some msg) =
        processPtp { g with rx := countRx g.rx frame len } (frame.offset ethHeaderLen)
          (len - ethHeaderLen) tsu (some msg) := by
    obtain ⟨hmessage, hcount⟩ := header_congr hagree g.rx
    have := h tsu frame' hagree
    rwa [gptpProcessRx_counted, gptpProcessRx_counted, hmessage, hcount, hmsg] at this
  generalize countRx g.rx frame len = rx at hsame
  cases msg with
  | sync | pdelayReq | announce =>
    have : len - ethHeaderLen < ptpHeaderLen := hshort
    omega
  | followUp =>
    obtain ⟨frame', hagree, hstale⟩ := stale_timestamp frame hlen hshort
    have hmatch : followUpMatches { g with rx := rx } (frame'.offset ethHeaderLen) :=
      (followUpMatches_congr g fun i hi => hagree _ (by omega)).trans htaken
    have hts := congrArg (fun result => result.1.syncOriginTs) (hsame {} frame' hagree)
    have htaken' : followUpMatches { g with rx := rx } (frame.offset ethHeaderLen) := htaken
    dsimp only [processPtp] at hts
    rw [processFollowUp_syncOriginTs hmatch, processFollowUp_syncOriginTs htaken'] at hts
    exact hstale hts
  | pdelayRespFup =>
    obtain ⟨frame', hagree, hstale⟩ := stale_timestamp frame hlen hshort
    have hmatch : pdelayRespFupMatches { g with rx := rx } (frame'.offset ethHeaderLen) :=
      (pdelayRespFupMatches_congr g fun i hi => hagree _ (by omega)).trans htaken
    have hts := congrArg (fun result => result.1.pdelayT3) (hsame {} frame' hagree)
    have htaken' : pdelayRespFupMatches { g with rx := rx } (frame.offset ethHeaderLen) := htaken
    dsimp only [processPtp] at hts
    rw [processPdelayRespFup_pdelayT3 hmatch, processPdelayRespFup_pdelayT3 htaken'] at hts
    exact hstale hts
  | pdelayResp =>
    have hheld (last : UInt8) : ∀ i < len, held g frame len last i = frame i :=
      fun i hi => if_pos hi
    have hours := (pdelayRespMatches_held hlen hshort htaken (byteAt g.clockId 7)).mpr rfl
    have hother : ¬ pdelayRespMatches g
        ((held g frame len (byteAt g.clockId 7 + 1)).offset ethHeaderLen) := by
      rw [pdelayRespMatches_held hlen hshort htaken]
      simp
    -- the receive timestamp is kept for one of the two buffers only
    let tsu : Tsu := { rxTs := { seconds := g.pdelayT4.seconds + 1 } }
    have hboth := (hsame tsu _ (hheld (byteAt g.clockId 7))).trans
      (hsame tsu _ (hheld (byteAt g.clockId 7 + 1))).symm
    have ht4 := congrArg (fun result => result.1.pdelayT4) hboth
    have hrx (p : Buffer) : pdelayRespMatches { g with rx := rx } p = pdelayRespMatches g p := rfl
    dsimp only [processPtp] at ht4
    rw [processPdelayResp_pdelayT4, processPdelayResp_pdelayT4, hrx, hrx, if_pos hours,
      if_neg hother] at ht4
    have hseconds := congrArg PtpTimestamp.seconds ht4
    simp [tsu] at hseconds

-- ---------------------------------------------------------------------------
-- The law, and a truncated Pdelay_Resp
-- ---------------------------------------------------------------------------

/-- gPTP uses nothing but received bytes exactly when the frame reaches to
the end of what is read of it. -/
theorem usesReceived_iff (g : Gptp) (frame : Buffer) (len : Nat) :
    UsesReceived g frame len ↔ BodyReceived g frame len :=
  ⟨bodyReceived, usesReceived⟩

/-- The bytes of a Pdelay_Resp for our first Pdelay_Req. -/
def pdelayRespBytes : List UInt8 :=
  ptpFrame (gptpInit grandmaster).1 ptpMsgPdelayResp 0
    (putPtpTs {} ++ (gptpClockId boardMac).toList ++ be16 1)

/-- Cut to 60 bytes, it lacks six bytes of the identity, which are taken from
the buffer. -/
theorem shortPdelayResp_stale :
    ¬ UsesReceived (gptpInit boardMac).1 (Buffer.ofList (pdelayRespBytes.take 60)) 60 := by
  intro h
  have hagree (i : Nat) (hi : i < 60) :
      Buffer.ofList pdelayRespBytes i = Buffer.ofList (pdelayRespBytes.take 60) i := by
    rw [Buffer.ofList, Buffer.ofList, List.getElem?_take_of_lt hi]
  have hstate := congrArg (fun result => result.1.pdelayRespReceived) (h {} _ hagree)
  revert hstate
  decide +kernel

end AvbAes3.GptpReceived
