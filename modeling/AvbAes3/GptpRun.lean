import AvbAes3.Gptp
import AvbAes3.Lib.Machine

/-!
# Runs of the gPTP port

The main loop hands the port its frames and polls it. What a frame makes the
port do depends on the message it carries: `gptpProcessRx_eq` says so once,
with the receive counters, which nothing else reads, put aside.
-/

namespace AvbAes3

inductive GptpEvent
  | rx (frame : Buffer) (len : Nat) (tsu : Tsu)
  | poll (tsu : Tsu)

def gptpStep (g : Gptp) : GptpEvent → Gptp × List GptpEffect
  | .rx frame len tsu => gptpProcessRx g frame len tsu
  | .poll tsu => gptpPoll g tsu

inductive PtpMessage
  | sync | followUp | pdelayReq | pdelayResp | pdelayRespFup | announce
  deriving DecidableEq, Repr

/-- The message of a frame that passes the checks of `gptp_process_rx`. -/
def ptpMessage (frame : Buffer) (len : Nat) : Option PtpMessage :=
  let ptp := frame.offset ethHeaderLen
  if len < ethHeaderLen + ptpHeaderLen ∨ getBe16 (frame.offset 12) ≠ ptpEthertype ∨
      ptp ptpOffMsgType >>> 4 ≠ 0x1 ∨ ptp ptpOffDomain ≠ gptpDomain then none
  else
    let msgType := ptp ptpOffMsgType &&& 0x0F
    if msgType = ptpMsgSync then some .sync
    else if msgType = ptpMsgFollowUp then some .followUp
    else if msgType = ptpMsgPdelayReq then some .pdelayReq
    else if msgType = ptpMsgPdelayResp then some .pdelayResp
    else if msgType = ptpMsgPdelayRespFup then some .pdelayRespFup
    else if msgType = ptpMsgAnnounce then some .announce
    else none

/-- What the port does with a frame, by its message. -/
def processPtp (g : Gptp) (ptp : Buffer) (ptpLen : Nat) (tsu : Tsu) :
    Option PtpMessage → Gptp × List GptpEffect
  | none => (g, [])
  | some .sync => (processSync g ptp tsu, [])
  | some .followUp => processFollowUp g ptp tsu
  | some .pdelayReq => processPdelayReq g ptp tsu
  | some .pdelayResp => (processPdelayResp g ptp tsu, [])
  | some .pdelayRespFup => (processPdelayRespFup g ptp, [])
  | some .announce => (processAnnounce g ptp ptpLen, [])

/-- The counters of a message in our domain. -/
def countMessage (rx : RxCounters) (msgType : UInt8) : RxCounters :=
  if msgType = ptpMsgSync then { rx with syncCount := rx.syncCount + 1 }
  else if msgType = ptpMsgFollowUp then { rx with followupCount := rx.followupCount + 1 }
  else if msgType = ptpMsgPdelayReq then { rx with pdelayReqCount := rx.pdelayReqCount + 1 }
  else if msgType = ptpMsgPdelayResp then { rx with pdelayRespCount := rx.pdelayRespCount + 1 }
  else if msgType = ptpMsgPdelayRespFup then
    { rx with pdelayRespFupCount := rx.pdelayRespFupCount + 1 }
  else if msgType = ptpMsgAnnounce then { rx with announceCount := rx.announceCount + 1 }
  else { rx with otherCount := rx.otherCount + 1 }

/-- The counters of a frame. -/
def countRx (rx : RxCounters) (frame : Buffer) (len : Nat) : RxCounters :=
  let ptp := frame.offset ethHeaderLen
  let msgType := ptp ptpOffMsgType &&& 0x0F
  if len < ethHeaderLen + ptpHeaderLen then rx
  else if getBe16 (frame.offset 12) ≠ ptpEthertype then rx
  else if ptp ptpOffMsgType >>> 4 ≠ 0x1 then { rx with otherCount := rx.otherCount + 1 }
  else
    let rx := { rx with lastMsgType := msgType, lastDomain := ptp ptpOffDomain }
    if ptp ptpOffDomain ≠ gptpDomain then { rx with wrongDomainCount := rx.wrongDomainCount + 1 }
    else countMessage rx msgType

theorem gptpProcessRx_counted (g : Gptp) (frame : Buffer) (len : Nat) (tsu : Tsu) :
    gptpProcessRx g frame len tsu =
      processPtp { g with rx := countRx g.rx frame len } (frame.offset ethHeaderLen)
        (len - ethHeaderLen) tsu (ptpMessage frame len) := by
  rw [gptpProcessRx]
  by_cases hlen : len < ethHeaderLen + ptpHeaderLen
  · rw [if_pos hlen, ptpMessage, if_pos (.inl hlen), countRx, if_pos hlen]
    rfl
  rw [if_neg hlen]
  by_cases htype : getBe16 (frame.offset 12) ≠ ptpEthertype
  · rw [if_pos htype, ptpMessage, if_pos (.inr (.inl htype)), countRx, if_neg hlen, if_pos htype]
    rfl
  rw [if_neg htype]
  by_cases hts : frame.offset ethHeaderLen ptpOffMsgType >>> 4 ≠ 0x1
  · dsimp only
    rw [if_pos hts, ptpMessage, if_pos (.inr (.inr (.inl hts))), countRx, if_neg hlen,
      if_neg htype, if_pos hts]
    rfl
  dsimp only
  rw [if_neg hts]
  by_cases hdom : frame.offset ethHeaderLen ptpOffDomain ≠ gptpDomain
  · rw [if_pos hdom, ptpMessage, if_pos (.inr (.inr (.inr hdom))), countRx, if_neg hlen,
      if_neg htype, if_neg hts, if_pos hdom]
    rfl
  rw [if_neg hdom, ptpMessage,
    if_neg fun h => h.elim hlen fun h => h.elim htype fun h => h.elim hts hdom, countRx,
    if_neg hlen, if_neg htype, if_neg hts, if_neg hdom, processMessage, countMessage]
  dsimp only
  split_ifs <;> rfl

theorem gptpProcessRx_eq (g : Gptp) (frame : Buffer) (len : Nat) (tsu : Tsu) :
    ∃ rx, gptpProcessRx g frame len tsu =
      processPtp { g with rx := rx } (frame.offset ethHeaderLen) (len - ethHeaderLen) tsu
        (ptpMessage frame len) :=
  ⟨_, gptpProcessRx_counted g frame len tsu⟩

-- ---------------------------------------------------------------------------
-- The servo's input
-- ---------------------------------------------------------------------------

/-- The Follow_Up an event delivers, if it matches the Sync held, and the
uptime read when it is handled. -/
def acceptedFollowUp (g : Gptp) : GptpEvent → Option (Buffer × UInt32)
  | .rx frame len tsu =>
    let ptp := frame.offset ethHeaderLen
    if ptpMessage frame len = some .followUp ∧ followUpMatches g ptp then
      some (ptp, tsu.uptimeMs)
    else none
  | .poll _ => none

theorem gptpStep_followUp (h : acceptedFollowUp g e = some (ptp, uptimeMs)) :
    ∃ rx, gptpStep g e = gptpServoUpdate { followUpOffset g ptp with rx := rx } uptimeMs := by
  cases e with
  | poll tsu => simp [acceptedFollowUp] at h
  | rx frame len tsu =>
    simp only [acceptedFollowUp, Option.ite_none_right_eq_some, Option.some.injEq,
      Prod.mk.injEq] at h
    obtain ⟨⟨hmsg, hmatch⟩, rfl, rfl⟩ := h
    obtain ⟨rx, hrx⟩ := gptpProcessRx_eq g frame len tsu
    refine ⟨rx, ?_⟩
    rw [gptpStep, hrx, hmsg]
    exact if_pos hmatch

theorem servoLock_eq (g : Gptp) : ∃ locked samples,
    servoLock g = { g with servoLocked := locked, lockSampleCount := samples } := by
  unfold servoLock
  dsimp only
  split_ifs <;> exact ⟨_, _, rfl⟩

theorem servoStats_eq (g : Gptp) (now : UInt32) : ∃ sum absSum count start avg absAvg avgCount,
    servoStats g now =
      { g with
        offSumNsWin := sum
        offAbsSumNsWin := absSum
        offCountWin := count
        offWinStartMs := start
        offAvgNsLast := avg
        offAbsAvgNsLast := absAvg
        offAvgCountLast := avgCount } := by
  unfold servoStats
  dsimp only
  split_ifs <;> exact ⟨_, _, _, _, _, _, _, rfl⟩

/-- What the servo may write. -/
structure ServoWrites where
  freqIntegral : Int64
  currentAddendFull : UInt64
  servoLocked : Bool
  lockSampleCount : UInt8
  servoStepCount : UInt32
  lastSyncTimeMs : UInt32
  lastPdelayTimeMs : UInt32
  offSumNsWin : Int64
  offAbsSumNsWin : Int64
  offCountWin : UInt32
  offWinStartMs : UInt32
  offAvgNsLast : Int64
  offAbsAvgNsLast : Int64
  offAvgCountLast : UInt32

def Gptp.servoWrite (g : Gptp) (w : ServoWrites) : Gptp :=
  { g with
    freqIntegral := w.freqIntegral
    currentAddendFull := w.currentAddendFull
    servoLocked := w.servoLocked
    lockSampleCount := w.lockSampleCount
    servoStepCount := w.servoStepCount
    lastSyncTimeMs := w.lastSyncTimeMs
    lastPdelayTimeMs := w.lastPdelayTimeMs
    offSumNsWin := w.offSumNsWin
    offAbsSumNsWin := w.offAbsSumNsWin
    offCountWin := w.offCountWin
    offWinStartMs := w.offWinStartMs
    offAvgNsLast := w.offAvgNsLast
    offAbsAvgNsLast := w.offAbsAvgNsLast
    offAvgCountLast := w.offAvgCountLast }

theorem gptpServoUpdate_writes (g : Gptp) (now : UInt32) :
    ∃ w, (gptpServoUpdate g now).1 = g.servoWrite w := by
  unfold gptpServoUpdate
  split
  · exact ⟨⟨_, _, g.servoLocked, g.lockSampleCount, _, _, _, g.offSumNsWin, g.offAbsSumNsWin,
      g.offCountWin, g.offWinStartMs, g.offAvgNsLast, g.offAbsAvgNsLast, g.offAvgCountLast⟩, rfl⟩
  · obtain ⟨locked, samples, hlock⟩ := servoLock_eq (servoPi g).1
    obtain ⟨sum, absSum, count, start, avg, absAvg, avgCount, hstats⟩ :=
      servoStats_eq (servoLock (servoPi g).1) now
    refine ⟨⟨(servoPi g).1.freqIntegral, (servoPi g).1.currentAddendFull, locked, samples,
      (servoPi g).1.servoStepCount, g.lastSyncTimeMs, g.lastPdelayTimeMs, sum, absSum, count, start,
      avg, absAvg, avgCount⟩, ?_⟩
    dsimp only
    rw [hstats, hlock]
    rfl

/-- The part of the state that only an accepted Follow_Up changes. -/
structure ServoState where
  offMedianBuf : Vector Int64 5
  offMedianIdx : Fin 5
  offMedianFilled : Fin 6
  servoStepCount : UInt32

def Gptp.servoState (g : Gptp) : ServoState :=
  ⟨g.offMedianBuf, g.offMedianIdx, g.offMedianFilled, g.servoStepCount⟩

/-- A frame that is no accepted Follow_Up leaves the servo alone. -/
theorem gptpStep_rx_servo (h : acceptedFollowUp g (.rx frame len tsu) = none) :
    (gptpStep g (.rx frame len tsu)).1.servoState = g.servoState ∧
      (gptpStep g (.rx frame len tsu)).1.servoLocked = g.servoLocked ∧
      (gptpStep g (.rx frame len tsu)).1.lockSampleCount = g.lockSampleCount ∧
      (gptpStep g (.rx frame len tsu)).1.offsetFromMasterNs = g.offsetFromMasterNs := by
  obtain ⟨rx, hrx⟩ := gptpProcessRx_eq g frame len tsu
  rw [gptpStep, hrx]
  cases hmsg : ptpMessage frame len with
  | none => exact ⟨rfl, rfl, rfl, rfl⟩
  | some msg =>
    cases msg with
    | followUp =>
      have hno : ¬ followUpMatches g (frame.offset ethHeaderLen) := by
        simpa [acceptedFollowUp, hmsg] using h
      have hproc : processFollowUp { g with rx := rx } (frame.offset ethHeaderLen) tsu =
          ({ g with rx := rx }, []) := if_neg hno
      rw [processPtp, hproc]
      exact ⟨rfl, rfl, rfl, rfl⟩
    | sync => exact ⟨rfl, rfl, rfl, rfl⟩
    | pdelayReq => exact ⟨rfl, rfl, rfl, rfl⟩
    | pdelayResp =>
      simp only [processPtp, processPdelayResp]
      split <;> exact ⟨rfl, rfl, rfl, rfl⟩
    | pdelayRespFup =>
      simp only [processPtp, processPdelayRespFup]
      split <;> exact ⟨rfl, rfl, rfl, rfl⟩
    | announce =>
      simp only [processPtp, processAnnounce]
      split <;> exact ⟨rfl, rfl, rfl, rfl⟩

/-- Only an accepted Follow_Up touches the ring and the offset. -/
theorem gptpStep_other (h : acceptedFollowUp g e = none) :
    (gptpStep g e).1.servoState = g.servoState ∧
      (gptpStep g e).1.offsetFromMasterNs = g.offsetFromMasterNs := by
  cases e with
  | poll tsu =>
    simp only [gptpStep, gptpPoll, pdelayLost, syncTimeout, gptpSendPdelayReq]
    split_ifs <;> exact ⟨rfl, rfl⟩
  | rx frame len tsu =>
    obtain ⟨hservo, -, -, hoffset⟩ := gptpStep_rx_servo h
    exact ⟨hservo, hoffset⟩

-- ---------------------------------------------------------------------------
-- A peer's frames
-- ---------------------------------------------------------------------------

/-- The frame a peer of the same make sends. -/
def peerFrame (peer : MacAddr) (msgType : UInt8) (seqId : UInt16) (body : List UInt8) : Buffer :=
  .ofList (ptpFrame (gptpInit peer).1 msgType seqId body)

def grandmaster : MacAddr := sixBytes 0x00 0x00 0x00 0x00 0x00 0x01

/-- A Sync received at `rxTs` and its Follow_Up with origin time zero: a raw
offset of `rxTs`. -/
def syncPair (rxTs : PtpTimestamp) : List GptpEvent :=
  let body := List.replicate 20 0
  [.rx (peerFrame grandmaster ptpMsgSync 0 body) 68 { rxTs := rxTs },
    .rx (peerFrame grandmaster ptpMsgFollowUp 0 body) 68 {}]

end AvbAes3
