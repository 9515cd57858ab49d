import AvbAes3.Bytes
import AvbAes3.Lib.Median

/-!
# gptp.c

The gPTP slave: Sync and Follow_Up, the peer delay exchange, the PI servo
and the poll loop. Hardware registers are read through `Tsu`, which holds
what they give during one call; frames and register writes come out as
`GptpEffect`s in the order the code makes them. Signed 64-bit arithmetic
wraps, as it does on the target. Prints and their static counters are left
out.
-/

namespace AvbAes3

/-- Comparison of `int64_t`, as a linear order. -/
instance int64LinearOrder : LinearOrder Int64 where
  le_refl a := by grind
  le_trans a b c := by grind
  le_antisymm a b := by grind
  le_total a b := by grind
  lt_iff_le_not_ge a b := by grind
  toDecidableLE := inferInstance
  toDecidableLT := inferInstance
  toDecidableEq := inferInstance

-- ---------------------------------------------------------------------------
-- Constants
-- ---------------------------------------------------------------------------

def ptpEthertype : UInt16 := 0x88F7
def gptpMcastAddr : MacAddr := sixBytes 0x01 0x80 0xC2 0x00 0x00 0x0E

def ptpMsgSync : UInt8 := 0x0
def ptpMsgPdelayReq : UInt8 := 0x2
def ptpMsgPdelayResp : UInt8 := 0x3
def ptpMsgFollowUp : UInt8 := 0x8
def ptpMsgPdelayRespFup : UInt8 := 0xA
def ptpMsgAnnounce : UInt8 := 0xB

def ptpFlagTwoStep : UInt16 := 0x0200
def ptpFlagPtpTimescale : UInt16 := 0x0008

def ptpHeaderLen : Nat := 34
def ethHeaderLen : Nat := 14
def gptpDomain : UInt8 := 0
def logPdelayReqInterval : Int8 := 0

def servoKpNum : Int64 := 72
def servoKpDen : Int64 := 1000
def servoKiNum : Int64 := 3600
def servoKiDen : Int64 := 1000000
def servoIntegralClampNs : Int64 := 100000000

/-- 2^52: the addend register pair is 52 bits wide. -/
def addendFullEnd : Int64 := 0x10000000000000

/-- `CONFIG_CLOCK_FREQUENCY`: avb_soc.py's `sys_clk_freq`. -/
def configClockFrequency : UInt32 := 50000000

def ptpOffMsgType : Nat := 0
def ptpOffDomain : Nat := 4
def ptpOffCorrection : Nat := 8
def ptpOffSrcPortId : Nat := 20
def ptpOffSeqId : Nat := 30

-- ---------------------------------------------------------------------------
-- State
-- ---------------------------------------------------------------------------

/-- `ptp_timestamp_t`; `{}` is `(ptp_timestamp_t){0, 0}`. -/
structure PtpTimestamp where
  seconds : UInt64 := 0
  nanoseconds : UInt32 := 0
  deriving DecidableEq, Repr, Inhabited

inductive GptpState
  | init | listening | slave
  deriving DecidableEq, Repr

/-- The receive counters of `gptp_t`. -/
structure RxCounters where
  syncCount : UInt32 := 0
  followupCount : UInt32 := 0
  pdelayReqCount : UInt32 := 0
  pdelayRespCount : UInt32 := 0
  pdelayRespFupCount : UInt32 := 0
  announceCount : UInt32 := 0
  otherCount : UInt32 := 0
  wrongDomainCount : UInt32 := 0
  lastMsgType : UInt8 := 0
  lastDomain : UInt8 := 0

/-- `gptp_t`. -/
structure Gptp where
  state : GptpState := .init
  ourMac : MacAddr := zeroBytes 6
  clockId : ClockId := zeroBytes 8
  portNumber : UInt16 := 0
  masterClockId : ClockId := zeroBytes 8
  masterPortNumber : UInt16 := 0
  gmClockId : ClockId := zeroBytes 8
  gmPriority1 : UInt8 := 0
  gmClockClass : UInt8 := 0
  gmClockAccuracy : UInt8 := 0
  gmOffsetScaledLogVariance : UInt16 := 0
  gmPriority2 : UInt8 := 0
  gmValid : Bool := false
  pdelaySeqId : UInt16 := 0
  pdelayT1 : PtpTimestamp := {}
  pdelayT2 : PtpTimestamp := {}
  pdelayT3 : PtpTimestamp := {}
  pdelayT4 : PtpTimestamp := {}
  meanPathDelayNs : Int64 := 0
  pdelayLostCount : Int32 := 0
  pdelayRespReceived : Bool := false
  pdelayFupReceived : Bool := false
  syncSeqId : UInt16 := 0
  syncRxTs : PtpTimestamp := {}
  syncOriginTs : PtpTimestamp := {}
  syncCorrection : Int64 := 0
  syncReceived : Bool := false
  offsetFromMasterNs : Int64 := 0
  freqIntegral : Int64 := 0
  baseAddendFull : UInt64 := 0
  currentAddendFull : UInt64 := 0
  servoLocked : Bool := false
  servoStepCount : UInt32 := 0
  offSumNsWin : Int64 := 0
  offAbsSumNsWin : Int64 := 0
  offCountWin : UInt32 := 0
  offWinStartMs : UInt32 := 0
  offAvgNsLast : Int64 := 0
  offAbsAvgNsLast : Int64 := 0
  offAvgCountLast : UInt32 := 0
  prevT3Ns : Int64 := 0
  prevT4Ns : Int64 := 0
  nrrPpb : Int32 := 0
  pdelayPairCount : UInt32 := 0
  pdelayOutlierCount : UInt32 := 0
  offMedianBuf : Vector Int64 5 := .replicate 5 0
  offMedianIdx : Fin 5 := 0
  offMedianFilled : Fin 6 := 0
  lastPdelayTimeMs : UInt32 := 0
  lastSyncTimeMs : UInt32 := 0
  lockSampleCount : UInt8 := 0
  pdelayIntervalMs : UInt32 := 0
  syncCount : UInt32 := 0
  pdelayCount : UInt32 := 0
  pdelayTimeoutCount : UInt32 := 0
  rx : RxCounters := {}

/-- What the registers read during one call: the receive timestamp popped
for the frame, the transmit timestamp after the call's first frame, and
`gptp_uptime_ms()` at its first and at a later reading. -/
structure Tsu where
  rxTs : PtpTimestamp := {}
  txTs : PtpTimestamp := {}
  uptimeMs : UInt32 := 0
  laterUptimeMs : UInt32 := 0
  deriving DecidableEq, Repr

/-- What the code makes the hardware do. -/
inductive GptpEffect
  | send (frame : List UInt8)
  | setAddendFull (addendFull : UInt64)
  | stepTime (t : PtpTimestamp)
  deriving DecidableEq, Repr

-- ---------------------------------------------------------------------------
-- Timestamps
-- ---------------------------------------------------------------------------

def getPtpTs (p : Buffer) : PtpTimestamp := ⟨getBe48 p, getBe32 (p.offset 6)⟩

def putPtpTs (ts : PtpTimestamp) : List UInt8 := be48 ts.seconds ++ be32 ts.nanoseconds

def gptpTsDiffNs (a b : PtpTimestamp) : Int64 :=
  let secDiff := a.seconds.toInt64 - b.seconds.toInt64
  let nsDiff := a.nanoseconds.toUInt64.toInt64 - b.nanoseconds.toUInt64.toInt64
  secDiff * 1000000000 + nsDiff

-- ---------------------------------------------------------------------------
-- Frames
-- ---------------------------------------------------------------------------

def buildEthHeader (srcMac : MacAddr) : List UInt8 :=
  gptpMcastAddr.toList ++ srcMac.toList ++ be16 ptpEthertype

/-- The deprecated control field. -/
def ptpControl (msgType : UInt8) : UInt8 :=
  if msgType = ptpMsgSync then 0x00
  else if msgType = ptpMsgFollowUp then 0x02
  else 0x05

def buildPtpHeader (msgType : UInt8) (msgLen : UInt16) (clockId : ClockId) (portNum : UInt16)
    (seqId : UInt16) (logInterval : Int8) : List UInt8 :=
  let flags := if msgType = ptpMsgPdelayResp then ptpFlagPtpTimescale ||| ptpFlagTwoStep
    else ptpFlagPtpTimescale
  [0x10 ||| (msgType &&& 0x0F), 0x02] ++ be16 msgLen ++ [gptpDomain, 0] ++ be16 flags ++
    List.replicate 12 0 ++ clockId.toList ++ be16 portNum ++ be16 seqId ++
    [ptpControl msgType, logInterval.toUInt8]

/-- A whole frame with a 54-byte message: headers and 20 bytes of body. -/
def ptpFrame (g : Gptp) (msgType : UInt8) (seqId : UInt16) (body : List UInt8) : List UInt8 :=
  buildEthHeader g.ourMac ++
    buildPtpHeader msgType 54 g.clockId g.portNumber seqId logPdelayReqInterval ++ body

def gptpSendPdelayReq (g : Gptp) (tsu : Tsu) : Gptp × List GptpEffect :=
  let frame := ptpFrame g ptpMsgPdelayReq g.pdelaySeqId (List.replicate 20 0)
  ({ g with
      pdelayRespReceived := false
      pdelayFupReceived := false
      pdelayT1 := tsu.txTs
      lastPdelayTimeMs := tsu.laterUptimeMs
      pdelayCount := g.pdelayCount + 1 },
    [.send frame])

/-- `gptp_send_pdelay_resp` and `gptp_send_pdelay_resp_fup`: they differ in
the message type. -/
def gptpSendAnswer (msgType : UInt8) (g : Gptp) (reqPtp : Buffer) (ts : PtpTimestamp) :
    GptpEffect :=
  let reqSeq := getBe16 (reqPtp.offset ptpOffSeqId)
  .send (ptpFrame g msgType reqSeq (putPtpTs ts ++ (reqPtp.offset ptpOffSrcPortId).take 10))

def gptpSendPdelayResp := gptpSendAnswer ptpMsgPdelayResp
def gptpSendPdelayRespFup := gptpSendAnswer ptpMsgPdelayRespFup

-- ---------------------------------------------------------------------------
-- Clock servo
-- ---------------------------------------------------------------------------

def bigThresh : Int64 := 500000000

/-- The guard of the coarse step. -/
def Gptp.stepsTime (g : Gptp) : Prop :=
  g.servoStepCount = 0 ∨ g.offsetFromMasterNs > bigThresh ∨ g.offsetFromMasterNs < -bigThresh

instance (g : Gptp) : Decidable g.stepsTime := by unfold Gptp.stepsTime; infer_instance

def absOff (offset : Int64) : Int64 := if offset < 0 then -offset else offset

/-- The time the coarse step writes. -/
def stepTarget (g : Gptp) : PtpTimestamp :=
  let addNs := g.syncOriginTs.nanoseconds.toUInt64 + g.meanPathDelayNs.toUInt64
  if addNs ≥ 1000000000 then
    ⟨g.syncOriginTs.seconds + addNs / 1000000000, (addNs % 1000000000).toUInt32⟩
  else ⟨g.syncOriginTs.seconds, addNs.toUInt32⟩

/-- The coarse step, which returns before the lock is looked at. -/
def servoStep (g : Gptp) (nowMsPostStep : UInt32) : Gptp × List GptpEffect :=
  ({ g with
      servoStepCount := 1
      freqIntegral := 0
      currentAddendFull := g.baseAddendFull
      lastSyncTimeMs := nowMsPostStep
      lastPdelayTimeMs := nowMsPostStep },
    [.stepTime (stepTarget g), .setAddendFull g.baseAddendFull])

/-- The PI controller on the 52-bit addend. -/
def servoPi (g : Gptp) : Gptp × List GptpEffect :=
  let offset := g.offsetFromMasterNs
  let integral := g.freqIntegral + offset
  let integral := if integral > servoIntegralClampNs then servoIntegralClampNs else integral
  let integral := if integral < -servoIntegralClampNs then -servoIntegralClampNs else integral
  let (kpNum, kpDen) := if absOff offset > 1000 then ((200 : Int64), (1000 : Int64))
    else (servoKpNum, servoKpDen)
  let kpTerm := (offset * kpNum) / kpDen
  let kiTerm := (integral * servoKiNum) / servoKiDen
  let addendNew := g.baseAddendFull.toInt64 + -(kpTerm + kiTerm)
  let addendNew := if addendNew < 1 then 1 else addendNew
  let addendNew := if addendNew ≥ addendFullEnd then addendFullEnd - 1 else addendNew
  ({ g with
      freqIntegral := integral
      currentAddendFull := addendNew.toUInt64
      servoStepCount := g.servoStepCount + 1 },
    [.setAddendFull addendNew.toUInt64])

/-- Lock with hysteresis. -/
def servoLock (g : Gptp) : Gptp :=
  let abs := absOff g.offsetFromMasterNs
  if !g.servoLocked then
    if abs < 500 then
      if g.lockSampleCount < 8 then { g with lockSampleCount := g.lockSampleCount + 1 }
      else { g with servoLocked := true }
    else { g with lockSampleCount := 0 }
  else if abs > 2000 then { g with servoLocked := false, lockSampleCount := 0 }
  else g

/-- The 30 s statistics window. -/
def servoStats (g : Gptp) (nowMs : UInt32) : Gptp :=
  let offset := g.offsetFromMasterNs
  let g := if g.offWinStartMs = 0 then { g with offWinStartMs := nowMs } else g
  let g := { g with
    offSumNsWin := g.offSumNsWin + offset
    offAbsSumNsWin := g.offAbsSumNsWin + absOff offset
    offCountWin := g.offCountWin + 1 }
  if nowMs - g.offWinStartMs ≥ 30000 then
    let g := if g.offCountWin > 0 then
      { g with
        offAvgNsLast := g.offSumNsWin / g.offCountWin.toUInt64.toInt64
        offAbsAvgNsLast := g.offAbsSumNsWin / g.offCountWin.toUInt64.toInt64
        offAvgCountLast := g.offCountWin }
      else g
    { g with offSumNsWin := 0, offAbsSumNsWin := 0, offCountWin := 0, offWinStartMs := nowMs }
  else g

def gptpServoUpdate (g : Gptp) (uptimeMs : UInt32) : Gptp × List GptpEffect :=
  if g.stepsTime then servoStep g uptimeMs
  else
    let (g, effects) := servoPi g
    (servoStats (servoLock g) uptimeMs, effects)

-- ---------------------------------------------------------------------------
-- Received messages
-- ---------------------------------------------------------------------------

def processSync (g : Gptp) (ptp : Buffer) (tsu : Tsu) : Gptp :=
  { g with
    syncSeqId := getBe16 (ptp.offset ptpOffSeqId)
    syncCorrection := getBe64Signed (ptp.offset ptpOffCorrection)
    syncRxTs := tsu.rxTs
    syncReceived := true
    masterClockId := (ptp.offset ptpOffSrcPortId).bytes 8
    masterPortNumber := getBe16 (ptp.offset (ptpOffSrcPortId + 8))
    lastSyncTimeMs := tsu.uptimeMs
    state := if g.state = .listening then .slave else g.state }

/-- The Follow_Up matches the last Sync. -/
def followUpMatches (g : Gptp) (ptp : Buffer) : Bool :=
  g.syncReceived && getBe16 (ptp.offset ptpOffSeqId) == g.syncSeqId

/-- `raw_offset`, in nanoseconds; the correction field is in units of
2^-16 ns. -/
def rawOffset (g : Gptp) (ptp : Buffer) : Int64 :=
  let rxNs := gptpTsDiffNs g.syncRxTs {}
  let origNs := gptpTsDiffNs (getPtpTs (ptp.offset ptpHeaderLen)) {}
  let corrNs := getBe64Signed (ptp.offset ptpOffCorrection) >>> 16
  rxNs - origNs - corrNs - g.meanPathDelayNs

/-- A sample written into the median ring. -/
def Gptp.pushOffset (g : Gptp) (raw : Int64) : Gptp :=
  { g with
    offMedianBuf := g.offMedianBuf.set g.offMedianIdx raw
    offMedianIdx := g.offMedianIdx + 1
    offMedianFilled := if g.offMedianFilled < 5 then g.offMedianFilled + 1 else g.offMedianFilled }

/-- The samples the median is taken of. -/
def Gptp.offWindow (g : Gptp) : List Int64 := g.offMedianBuf.toList.take g.offMedianFilled

/-- The state `gptp_servo_update` is called in for a matching Follow_Up. -/
def followUpOffset (g : Gptp) (ptp : Buffer) : Gptp :=
  let pushed := g.pushOffset (rawOffset g ptp)
  { pushed with
    syncOriginTs := getPtpTs (ptp.offset ptpHeaderLen)
    offsetFromMasterNs := Median.upperMedian pushed.offWindow
    syncReceived := false
    syncCount := g.syncCount + 1 }

def processFollowUp (g : Gptp) (ptp : Buffer) (tsu : Tsu) : Gptp × List GptpEffect :=
  if followUpMatches g ptp then gptpServoUpdate (followUpOffset g ptp) tsu.uptimeMs else (g, [])

def processPdelayReq (g : Gptp) (ptp : Buffer) (tsu : Tsu) : Gptp × List GptpEffect :=
  (g, [gptpSendPdelayResp g ptp tsu.rxTs, gptpSendPdelayRespFup g ptp tsu.txTs])

/-- Sequence id and requesting clock identity are ours. -/
def pdelayRespMatches (g : Gptp) (ptp : Buffer) : Bool :=
  getBe16 (ptp.offset ptpOffSeqId) == g.pdelaySeqId &&
    (ptp.offset (ptpHeaderLen + 10)).bytes 8 == g.clockId

def processPdelayResp (g : Gptp) (ptp : Buffer) (tsu : Tsu) : Gptp :=
  if pdelayRespMatches g ptp then
    { g with
      pdelayT4 := tsu.rxTs
      pdelayT2 := getPtpTs (ptp.offset ptpHeaderLen)
      pdelayRespReceived := true }
  else g

def pdelayRespFupMatches (g : Gptp) (ptp : Buffer) : Bool :=
  getBe16 (ptp.offset ptpOffSeqId) == g.pdelaySeqId && g.pdelayRespReceived

/-- The neighbor rate ratio after a sample: smoothed, clamped to 10 000 ppb,
and left alone when the clock hardly moved. -/
def nextNrrPpb (g : Gptp) (t3Ns t4Ns : Int64) : Int32 :=
  let dt3 := t3Ns - g.prevT3Ns
  let dt4 := t4Ns - g.prevT4Ns
  let nrrInst := ((dt3 - dt4) * 1000000000 / dt4).toInt32
  if g.pdelayPairCount > 0 ∧ dt4 > 100000 ∧ nrrInst > -10000 ∧ nrrInst < 10000 then
    (g.nrrPpb * 7 + nrrInst) / 8
  else g.nrrPpb

/-- The path delay of one measurement. -/
def pdelayNs (t1Ns t2Ns t3Ns t4Ns : Int64) (nrrPpb : Int32) : Int64 :=
  let roundTrip := t4Ns - t1Ns
  let rtCorrected := roundTrip + roundTrip * nrrPpb.toInt64 / 1000000000
  (rtCorrected - (t3Ns - t2Ns)) / 2

def processPdelayRespFup (g : Gptp) (ptp : Buffer) : Gptp :=
  if pdelayRespFupMatches g ptp then
    let t3 := getPtpTs (ptp.offset ptpHeaderLen)
    let t1Ns := gptpTsDiffNs g.pdelayT1 {}
    let t2Ns := gptpTsDiffNs g.pdelayT2 {}
    let t3Ns := gptpTsDiffNs t3 {}
    let t4Ns := gptpTsDiffNs g.pdelayT4 {}
    let nrrPpb := nextNrrPpb g t3Ns t4Ns
    let delay := pdelayNs t1Ns t2Ns t3Ns t4Ns nrrPpb
    let accepted := delay ≥ 0 ∧ delay < 20000
    { g with
      pdelayT3 := t3
      pdelayFupReceived := true
      nrrPpb := nrrPpb
      prevT3Ns := t3Ns
      prevT4Ns := t4Ns
      pdelayPairCount := g.pdelayPairCount + 1
      meanPathDelayNs :=
        if accepted then
          if g.meanPathDelayNs = 0 then delay else (g.meanPathDelayNs * 7 + delay) / 8
        else g.meanPathDelayNs
      pdelayOutlierCount :=
        if accepted then g.pdelayOutlierCount else g.pdelayOutlierCount + 1
      pdelayLostCount := 0
      pdelaySeqId := g.pdelaySeqId + 1 }
  else g

def processAnnounce (g : Gptp) (ptp : Buffer) (ptpLen : Nat) : Gptp :=
  if ptpLen ≥ ptpHeaderLen + 30 then
    let body := ptp.offset ptpHeaderLen
    { g with
      gmPriority1 := body 13
      gmClockClass := body 14
      gmClockAccuracy := body 15
      gmOffsetScaledLogVariance := getBe16 (body.offset 16)
      gmPriority2 := body 18
      gmClockId := (body.offset 19).bytes 8
      gmValid := true }
  else g

/-- The `switch` on the message type. -/
def processMessage (g : Gptp) (ptp : Buffer) (ptpLen : Nat) (tsu : Tsu) :
    Gptp × List GptpEffect :=
  let msgType := ptp ptpOffMsgType &&& 0x0F
  if msgType = ptpMsgSync then
    (processSync { g with rx.syncCount := g.rx.syncCount + 1 } ptp tsu, [])
  else if msgType = ptpMsgFollowUp then
    processFollowUp { g with rx.followupCount := g.rx.followupCount + 1 } ptp tsu
  else if msgType = ptpMsgPdelayReq then
    processPdelayReq { g with rx.pdelayReqCount := g.rx.pdelayReqCount + 1 } ptp tsu
  else if msgType = ptpMsgPdelayResp then
    (processPdelayResp { g with rx.pdelayRespCount := g.rx.pdelayRespCount + 1 } ptp tsu, [])
  else if msgType = ptpMsgPdelayRespFup then
    (processPdelayRespFup { g with rx.pdelayRespFupCount := g.rx.pdelayRespFupCount + 1 } ptp, [])
  else if msgType = ptpMsgAnnounce then
    (processAnnounce { g with rx.announceCount := g.rx.announceCount + 1 } ptp ptpLen, [])
  else ({ g with rx.otherCount := g.rx.otherCount + 1 }, [])

def gptpProcessRx (g : Gptp) (frame : Buffer) (len : Nat) (tsu : Tsu) : Gptp × List GptpEffect :=
  if len < ethHeaderLen + ptpHeaderLen then (g, [])
  else if getBe16 (frame.offset 12) ≠ ptpEthertype then (g, [])
  else
    let ptp := frame.offset ethHeaderLen
    -- transportSpecific is the high nibble
    if ptp ptpOffMsgType >>> 4 ≠ 0x1 then ({ g with rx.otherCount := g.rx.otherCount + 1 }, [])
    else
      let g := { g with
        rx.lastMsgType := ptp ptpOffMsgType &&& 0x0F
        rx.lastDomain := ptp ptpOffDomain }
      if ptp ptpOffDomain ≠ gptpDomain then
        ({ g with rx.wrongDomainCount := g.rx.wrongDomainCount + 1 }, [])
      else processMessage g ptp (len - ethHeaderLen) tsu

-- ---------------------------------------------------------------------------
-- Init and poll
-- ---------------------------------------------------------------------------

/-- The clock identity: the MAC address with FF:FE inserted. -/
def gptpClockId (mac : MacAddr) : ClockId :=
  eightBytes (byteAt mac 0) (byteAt mac 1) (byteAt mac 2) 0xFF 0xFE (byteAt mac 3) (byteAt mac 4)
    (byteAt mac 5)

/-- The nominal 52-bit addend, 2^52 / clk_freq to the nearest. -/
def nominalAddendFull (clkFreq : UInt32) : UInt64 :=
  addendFullEnd.toUInt64 / clkFreq.toUInt64 +
    if addendFullEnd.toUInt64 % clkFreq.toUInt64 > (clkFreq / 2).toUInt64 then 1 else 0

def gptpInit (mac : MacAddr) : Gptp × List GptpEffect :=
  let addend := nominalAddendFull configClockFrequency
  ({ ourMac := mac
     clockId := gptpClockId mac
     portNumber := 1
     state := .listening
     baseAddendFull := addend
     currentAddendFull := addend
     pdelayIntervalMs := 1000 },
    [.setAddendFull addend])

/-- The guard of the periodic Pdelay_Req. -/
def pdelayDue (g : Gptp) (tsu : Tsu) : Prop :=
  tsu.uptimeMs - g.lastPdelayTimeMs ≥ g.pdelayIntervalMs

instance (g : Gptp) (tsu : Tsu) : Decidable (pdelayDue g tsu) := by
  unfold pdelayDue; infer_instance

/-- The previous exchange counts as lost when it has not completed. -/
def pdelayLost (g : Gptp) : Gptp :=
  if g.pdelayCount > 0 ∧ ¬ g.pdelayFupReceived then
    { g with
      pdelayLostCount := g.pdelayLostCount + 1
      pdelayTimeoutCount := g.pdelayTimeoutCount + 1 }
  else g

def syncTimeout (g : Gptp) (uptimeMs : UInt32) : Gptp :=
  if g.state = .slave ∧ uptimeMs - g.lastSyncTimeMs > 3000 then
    { g with state := .listening, servoLocked := false }
  else g

def gptpPoll (g : Gptp) (tsu : Tsu) : Gptp × List GptpEffect :=
  let (g, effects) := if pdelayDue g tsu then gptpSendPdelayReq (pdelayLost g) tsu else (g, [])
  (syncTimeout g tsu.uptimeMs, effects)

end AvbAes3
