import AvbAes3.Gptp

/-!
# mcr.c

Media clock recovery: a CRF stream is bound, its packets (from the MAC's
slots, or as timestamp pairs from the gateware's FIFO) are turned into
offset samples, and a PI servo steers the NCO with them. `McrRegs` are the
registers the module writes. Signed 64-bit arithmetic wraps, as it does on
the target; division truncates. Prints are left out.
-/

namespace AvbAes3

def avtpEthertype : UInt16 := 0x22F0
def avtpSubtypeAaf : UInt8 := 0x02
def avtpSubtypeCrf : UInt8 := 0x04

def crfTypeAudioSample : UInt8 := 1
def crfHdrLen : Nat := 20

def mcrKpNum : Int64 := 1
def mcrKpDen : Int64 := 1
def mcrKiNum : Int64 := 1
def mcrKiDen : Int64 := 32
def mcrIntegralClamp : Int64 := 1000000
/-- `1 << 24` -/
def mcrIncrementMaxDelta : Int64 := 16777216

def mcrStaleThresholdMs : UInt32 := 1000

def mcrLockEnterNs : Int64 := 2000
def mcrLockExitNs : Int64 := 10000
def mcrLockEnterStreak : UInt8 := 1
def mcrLockExitStreak : UInt8 := 4

/-- `mcr_state_t`. -/
structure Mcr where
  bound : Bool := false
  streamId : StreamId := zeroBytes 8
  baseFrequency : UInt32 := 0
  pull : UInt8 := 0
  type : UInt8 := 0
  timestampInterval : UInt16 := 0
  timestampsPerPdu : UInt8 := 0
  latestAvtpTs : UInt64 := 0
  latestLocalTs : UInt64 := 0
  latestOffsetNs : Int64 := 0
  haveLatest : Bool := false
  servoConsumed : Bool := false
  prevOffsetNs : Int64 := 0
  havePrev : Bool := false
  servoIntegral : Int64 := 0
  baseIncrement : UInt32 := 0
  currentIncrement : UInt32 := 0
  servoLocked : Bool := false
  lockStreak : UInt8 := 0
  servoStepCount : UInt32 := 0
  deltaMaxAbs : Int64 := 0
  deltaSumAbs : Int64 := 0
  deltaWindowCount : UInt32 := 0
  rxCount : UInt32 := 0
  hwRxCount : UInt32 := 0
  rxOtherCount : UInt32 := 0
  badTypeCount : UInt32 := 0
  seqErrors : UInt32 := 0
  lastSeq : UInt8 := 0
  haveLastSeq : Bool := false
  lastRxCountSnapshot : UInt32 := 0
  lastRxCheckMs : UInt32 := 0
  watchdogResetActive : Bool := false

/-- `mcr_increment` and the `crf_ts` registers of the CRF extractor. -/
structure McrRegs where
  increment : UInt32 := 0
  crfStreamIdHi : UInt32 := 0
  crfStreamIdLo : UInt32 := 0
  crfEnabled : Bool := false

/-- The first four bytes of a stream id, as its register takes them. -/
def streamIdHi (sid : StreamId) : UInt32 :=
  (byteAt sid 0).toUInt32 <<< 24 ||| (byteAt sid 1).toUInt32 <<< 16 |||
    (byteAt sid 2).toUInt32 <<< 8 ||| (byteAt sid 3).toUInt32

def streamIdLo (sid : StreamId) : UInt32 :=
  (byteAt sid 4).toUInt32 <<< 24 ||| (byteAt sid 5).toUInt32 <<< 16 |||
    (byteAt sid 6).toUInt32 <<< 8 ||| (byteAt sid 7).toUInt32

-- ---------------------------------------------------------------------------
-- Init, bind and unbind
-- ---------------------------------------------------------------------------

/-- fs * 2^32 / sys_clk_freq to the nearest. -/
def nominalIncrement (sysClkFreq fs : UInt32) : UInt64 :=
  fs.toUInt64 <<< 32 / sysClkFreq.toUInt64 +
    if fs.toUInt64 <<< 32 % sysClkFreq.toUInt64 > (sysClkFreq / 2).toUInt64 then 1 else 0

def mcrInit (sysClkFreq fs : UInt32) : Mcr × McrRegs :=
  let inc := (nominalIncrement sysClkFreq fs).toUInt32
  ({ baseIncrement := inc, currentIncrement := inc, watchdogResetActive := true },
    { increment := inc })

def mcrBind (m : Mcr) (regs : McrRegs) (streamId : StreamId) : Mcr × McrRegs :=
  ({ m with
      streamId := streamId
      bound := true
      rxCount := 0
      rxOtherCount := 0
      badTypeCount := 0
      seqErrors := 0
      haveLastSeq := false
      haveLatest := false
      havePrev := false
      servoConsumed := true
      servoIntegral := 0
      servoLocked := false
      servoStepCount := 0
      hwRxCount := 0 },
    { regs with
      crfStreamIdHi := streamIdHi streamId
      crfStreamIdLo := streamIdLo streamId
      crfEnabled := true })

def mcrUnbind (m : Mcr) (regs : McrRegs) : Mcr × McrRegs :=
  ({ m with
      bound := false
      servoLocked := false
      lockStreak := 0
      haveLatest := false
      servoConsumed := true
      currentIncrement := m.baseIncrement
      watchdogResetActive := true },
    { regs with increment := m.baseIncrement, crfEnabled := false })

-- ---------------------------------------------------------------------------
-- Servo
-- ---------------------------------------------------------------------------

def clampInt64 (lo hi x : Int64) : Int64 :=
  let x := if x > hi then hi else x
  if x < lo then lo else x

/-- The PI controller's integral and increment for a rate error. -/
def mcrPi (m : Mcr) (delta : Int64) : Int64 × UInt32 :=
  let integral := clampInt64 (-mcrIntegralClamp) mcrIntegralClamp (m.servoIntegral + delta)
  let pTerm := delta * mcrKpNum / mcrKpDen
  let iTerm := integral * mcrKiNum / mcrKiDen
  let correction := clampInt64 (-mcrIncrementMaxDelta) mcrIncrementMaxDelta (-(pTerm + iTerm))
  let inc := m.baseIncrement.toUInt64.toInt64 + correction
  let inc := if inc < 1 then 1 else inc
  let inc := if inc > 0xFFFFFFFF then 0xFFFFFFFF else inc
  (integral, inc.toUInt64.toUInt32)

/-- Lock on one good sample, unlock on four bad ones. -/
def mcrLock (m : Mcr) (absDelta : Int64) : Mcr :=
  if m.servoLocked then
    if absDelta > mcrLockExitNs then
      let streak := if m.lockStreak < mcrLockExitStreak then m.lockStreak + 1 else m.lockStreak
      if streak ≥ mcrLockExitStreak then { m with servoLocked := false, lockStreak := 0 }
      else { m with lockStreak := streak }
    else { m with lockStreak := 0 }
  else if absDelta < mcrLockEnterNs then
    let streak := if m.lockStreak < mcrLockEnterStreak then m.lockStreak + 1 else m.lockStreak
    if streak ≥ mcrLockEnterStreak then { m with servoLocked := true, lockStreak := 0 }
    else { m with lockStreak := streak }
  else { m with lockStreak := 0 }

/-- The statistics window, which nothing here resets. -/
def mcrStats (m : Mcr) (absDelta : Int64) : Mcr :=
  { m with
    deltaMaxAbs := if absDelta > m.deltaMaxAbs then absDelta else m.deltaMaxAbs
    deltaSumAbs := m.deltaSumAbs + absDelta
    deltaWindowCount := m.deltaWindowCount + 1 }

def mcrServoUpdate (m : Mcr) (regs : McrRegs) : Mcr × McrRegs :=
  if !m.bound || m.servoConsumed then (m, regs)
  else
    let m := { m with servoConsumed := true }
    let off := m.latestOffsetNs
    if !m.havePrev then ({ m with prevOffsetNs := off, havePrev := true }, regs)
    else
      let delta := off - m.prevOffsetNs
      let (integral, inc) := mcrPi m delta
      let m := { m with prevOffsetNs := off, servoIntegral := integral, currentIncrement := inc }
      let absDelta := if delta < 0 then -delta else delta
      let m := mcrLock (mcrStats m absDelta) absDelta
      ({ m with servoStepCount := m.servoStepCount + 1 }, { regs with increment := inc })

-- ---------------------------------------------------------------------------
-- Samples
-- ---------------------------------------------------------------------------

/-- `seconds * 10^9 + nanoseconds` in 64 bits. -/
def timestampNs (ts : PtpTimestamp) : UInt64 :=
  ts.seconds * 1000000000 + ts.nanoseconds.toUInt64

/-- The header fields of a packet of the bound stream. -/
def noteCrfHeader (m : Mcr) (pdu : Buffer) : Mcr :=
  let seq := pdu 2
  let pb := getBe32 (pdu.offset 12)
  { m with
    seqErrors := if m.haveLastSeq ∧ seq ≠ m.lastSeq + 1 then m.seqErrors + 1 else m.seqErrors
    lastSeq := seq
    haveLastSeq := true
    badTypeCount := if pdu 3 ≠ crfTypeAudioSample then m.badTypeCount + 1 else m.badTypeCount
    pull := ((pb >>> 29) &&& 0x7).toUInt8
    baseFrequency := pb &&& 0x1FFFFFFF
    type := pdu 3
    timestampInterval := getBe16 (pdu.offset 18) }

/-- The timestamps of the packet, capped at those the frame has room for. -/
def crfTsCount (pdu : Buffer) (len : Nat) : Nat :=
  let bytesAvail := len - (14 + crfHdrLen)
  let tsCount := (getBe16 (pdu.offset 16)).toNat / 8
  if tsCount * 8 > bytesAvail then bytesAvail / 8 else tsCount

def mcrProcessRx (m : Mcr) (frame : Buffer) (len : Nat) (rxTs : PtpTimestamp) : Mcr :=
  let pdu := frame.offset 14
  if !m.bound then m
  else if len < 14 + crfHdrLen then m
  else if pdu 0 ≠ avtpSubtypeCrf then m
  else if (pdu.offset 4).bytes 8 ≠ m.streamId then { m with rxOtherCount := m.rxOtherCount + 1 }
  else
    let m := noteCrfHeader m pdu
    let tsCount := crfTsCount pdu len
    if tsCount = 0 then m
    else
      -- the last timestamp is the closest to the packet's arrival
      let avtpTs := getBe64 (pdu.offset (crfHdrLen + 8 * (tsCount - 1)))
      let localTs := timestampNs rxTs
      { m with
        timestampsPerPdu := if tsCount > 0xFF then 0xFF else tsCount.toUInt8
        latestAvtpTs := avtpTs
        latestLocalTs := localTs
        latestOffsetNs := (avtpTs - localTs).toInt64
        haveLatest := true
        servoConsumed := false
        rxCount := m.rxCount + 1 }

/-- An entry of the extractor's FIFO. -/
structure CrfSample where
  avtpTs : UInt64
  localTs : PtpTimestamp
  deriving DecidableEq, Repr

/-- One turn of the drain. -/
def mcrTakeSample (m : Mcr) (regs : McrRegs) (sample : CrfSample) : Mcr × McrRegs :=
  mcrServoUpdate
    { m with
      latestOffsetNs := (sample.avtpTs - timestampNs sample.localTs).toInt64
      haveLatest := true
      servoConsumed := false
      hwRxCount := m.hwRxCount + 1
      rxCount := m.rxCount + 1 } regs

/-- Drains the FIFO's entries, at most 64 in a call. -/
def mcrPumpHw (m : Mcr) (regs : McrRegs) (fifo : List CrfSample) : Mcr × McrRegs :=
  if !m.bound then (m, regs)
  else (fifo.take 64).foldl (fun mr sample => mcrTakeSample mr.1 mr.2 sample) (m, regs)

-- ---------------------------------------------------------------------------
-- Watchdog
-- ---------------------------------------------------------------------------

/-- Without a stream the increment goes back to the nominal one. -/
def watchdogUnbound (m : Mcr) (regs : McrRegs) : Mcr × McrRegs :=
  if m.watchdogResetActive then (m, regs)
  else ({ m with currentIncrement := m.baseIncrement, watchdogResetActive := true },
    { regs with increment := m.baseIncrement })

def watchdogStale (m : Mcr) (regs : McrRegs) : Mcr × McrRegs :=
  if m.watchdogResetActive then (m, regs)
  else
    ({ m with
        currentIncrement := m.baseIncrement
        servoIntegral := 0
        havePrev := false
        servoLocked := false
        lockStreak := 0
        watchdogResetActive := true },
      { regs with increment := m.baseIncrement })

def mcrWatchdogTick (m : Mcr) (regs : McrRegs) (nowMs : UInt32) : Mcr × McrRegs :=
  if !m.bound then watchdogUnbound m regs
  else if m.rxCount ≠ m.lastRxCountSnapshot then
    ({ m with
        lastRxCountSnapshot := m.rxCount
        lastRxCheckMs := nowMs
        watchdogResetActive := false }, regs)
  else if nowMs - m.lastRxCheckMs > mcrStaleThresholdMs then watchdogStale m regs
  else (m, regs)

-- ---------------------------------------------------------------------------
-- What the bound stream depends on
-- ---------------------------------------------------------------------------

/-- The stream the servo listens to, if any. -/
def Mcr.binding (m : Mcr) : Option StreamId := if m.bound then some m.streamId else none

theorem Mcr.binding_eq_some {m : Mcr} {streamId : StreamId} :
    m.binding = some streamId ↔ m.bound ∧ m.streamId = streamId := by
  cases h : m.bound <;> simp [Mcr.binding, h]

theorem Mcr.binding_eq_none {m : Mcr} : m.binding = none ↔ m.bound = false := by
  cases h : m.bound <;> simp [Mcr.binding, h]

@[simp] theorem mcrBind_binding (m : Mcr) (regs : McrRegs) (sid : StreamId) :
    (mcrBind m regs sid).1.binding = some sid := rfl

@[simp] theorem mcrUnbind_binding (m : Mcr) (regs : McrRegs) :
    (mcrUnbind m regs).1.binding = none := rfl

theorem mcrLock_writes (m : Mcr) (absDelta : Int64) : ∃ locked streak,
    mcrLock m absDelta = { m with servoLocked := locked, lockStreak := streak } := by
  unfold mcrLock
  dsimp only
  split_ifs <;> exact ⟨_, _, rfl⟩

/-- The fields that the servo writes. -/
theorem mcrServoUpdate_writes (m : Mcr) (regs : McrRegs) :
    ∃ consumed offset havePrev integral increment locked streak steps maxAbs sumAbs count,
      (mcrServoUpdate m regs).1 = { m with
        servoConsumed := consumed
        prevOffsetNs := offset
        havePrev := havePrev
        servoIntegral := integral
        currentIncrement := increment
        servoLocked := locked
        lockStreak := streak
        servoStepCount := steps
        deltaMaxAbs := maxAbs
        deltaSumAbs := sumAbs
        deltaWindowCount := count } := by
  rw [mcrServoUpdate]
  split
  · exact ⟨_, _, _, _, _, _, _, _, _, _, _, rfl⟩
  dsimp only
  split
  · exact ⟨_, _, _, _, _, _, _, _, _, _, _, rfl⟩
  · generalize mcrPi _ _ = pi
    dsimp only
    obtain ⟨_, _, hlock⟩ := mcrLock_writes (mcrStats _ _) _
    rw [hlock, mcrStats]
    exact ⟨_, _, _, _, _, _, _, _, _, _, _, rfl⟩

@[simp] theorem mcrServoUpdate_binding (m : Mcr) (regs : McrRegs) :
    (mcrServoUpdate m regs).1.binding = m.binding := by
  obtain ⟨_, _, _, _, _, _, _, _, _, _, _, hwrites⟩ := mcrServoUpdate_writes m regs
  rw [hwrites]
  rfl

@[simp] theorem mcrTakeSample_binding (m : Mcr) (regs : McrRegs) (sample : CrfSample) :
    (mcrTakeSample m regs sample).1.binding = m.binding := by
  rw [mcrTakeSample, mcrServoUpdate_binding]
  simp only [Mcr.binding]

theorem mcrTakeSamples_binding (samples : List CrfSample) (m : Mcr) (regs : McrRegs) :
    (samples.foldl (fun mr sample => mcrTakeSample mr.1 mr.2 sample) (m, regs)).1.binding =
      m.binding := by
  induction samples generalizing m regs with
  | nil => rfl
  | cons sample rest ih =>
    rw [List.foldl_cons, ih, mcrTakeSample_binding]

/-- One entry is one turn of the drain. -/
theorem mcrPumpHw_sample {m : Mcr} (hbound : m.bound) (regs : McrRegs) (sample : CrfSample) :
    mcrPumpHw m regs [sample] = mcrTakeSample m regs sample := by
  simp [mcrPumpHw, hbound]

@[simp] theorem mcrPumpHw_binding (m : Mcr) (regs : McrRegs) (fifo : List CrfSample) :
    (mcrPumpHw m regs fifo).1.binding = m.binding := by
  unfold mcrPumpHw
  split
  · rfl
  · exact mcrTakeSamples_binding ..

@[simp] theorem mcrProcessRx_binding (m : Mcr) (frame : Buffer) (len : Nat) (rxTs : PtpTimestamp) :
    (mcrProcessRx m frame len rxTs).binding = m.binding := by
  unfold mcrProcessRx
  dsimp only
  split_ifs <;> rfl

/-- The increments and the lock, which only the servo and the watchdog move. -/
def Mcr.nco (m : Mcr) : UInt32 × UInt32 × Bool :=
  (m.baseIncrement, m.currentIncrement, m.servoLocked)

theorem mcrProcessRx_nco (m : Mcr) (frame : Buffer) (len : Nat) (rxTs : PtpTimestamp) :
    (mcrProcessRx m frame len rxTs).nco = m.nco := by
  unfold mcrProcessRx
  dsimp only
  split_ifs <;> rfl

@[simp] theorem mcrWatchdogTick_binding (m : Mcr) (regs : McrRegs) (nowMs : UInt32) :
    (mcrWatchdogTick m regs nowMs).1.binding = m.binding := by
  unfold mcrWatchdogTick watchdogUnbound watchdogStale
  split_ifs <;> rfl

end AvbAes3
