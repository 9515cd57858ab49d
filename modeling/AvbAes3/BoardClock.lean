import AvbAes3.BindingCoherence
import AvbAes3.ClockWrites
import AvbAes3.PacketFrames
import AvbAes3.TalkerRestart
import AvbAes3.UsbFrames

/-!
# The packetizer under its firmware

The NCO adds what the firmware has written to the increment's register. The
servo writes it, and where the stream goes the watchdog and `mcr_unbind` do;
whatever the main loop takes in, none writes more than the servo's clamp lets
through. A board is the main loop and the gateware side by side, the gateware
with the increment that the register has: what has been proved of the
packetizer for increments within the clamp holds on a board as it is.

`board_carries`, `board_audio` and `board_restarts`: the words popped, the
host's audio in the frames, and what is sent after a transition.
-/

namespace AvbAes3.BoardClock

open BindingCoherence (fastConnectTo talkerStream)
open UsbAudio (maxIncrement)

-- ---------------------------------------------------------------------------
-- What media clock recovery writes
-- ---------------------------------------------------------------------------

/-- The servo works around the nominal increment, and the register is within
its clamp. -/
structure InClamp (m : Mcr) (regs : McrRegs) : Prop where
  base : m.baseIncrement = (mcrInit configClockFrequency 48000).1.baseIncrement
  increment : regs.increment.toNat ≤ maxIncrement

variable {m : Mcr} {regs : McrRegs}

theorem InClamp.nominal (h : InClamp m regs) : m.baseIncrement.toNat ≤ maxIncrement := by
  rw [h.base, maxIncrement]
  exact Nat.le_add_right ..

theorem InClamp.bind (h : InClamp m regs) (streamId : StreamId) :
    InClamp (mcrBind m regs streamId).1 (mcrBind m regs streamId).2 := ⟨h.base, h.increment⟩

theorem InClamp.unbind (h : InClamp m regs) :
    InClamp (mcrUnbind m regs).1 (mcrUnbind m regs).2 := ⟨h.base, h.nominal⟩

theorem mcrServoUpdate_base (m : Mcr) (regs : McrRegs) :
    (mcrServoUpdate m regs).1.baseIncrement = m.baseIncrement := by
  by_cases hacts : m.bound = true ∧ m.servoConsumed = false ∧ m.havePrev = true
  · exact (ClockSource.mcrServoUpdate_acts hacts.1 hacts.2.1 hacts.2.2 regs).1
  · exact (ClockSource.mcrServoUpdate_waits hacts regs).1

theorem InClamp.servoUpdate (h : InClamp m regs) :
    InClamp (mcrServoUpdate m regs).1 (mcrServoUpdate m regs).2 :=
  ⟨(mcrServoUpdate_base m regs).trans h.base, UsbAudio.mcrServoUpdate_clamped h.base h.increment⟩

theorem InClamp.takeSample (h : InClamp m regs) (sample : CrfSample) :
    InClamp (mcrTakeSample m regs sample).1 (mcrTakeSample m regs sample).2 :=
  InClamp.servoUpdate ⟨h.base, h.increment⟩

theorem InClamp.pumpHw (h : InClamp m regs) (fifo : List CrfSample) :
    InClamp (mcrPumpHw m regs fifo).1 (mcrPumpHw m regs fifo).2 := by
  rw [mcrPumpHw]
  split
  · exact h
  · generalize fifo.take 64 = samples
    clear * - h
    induction samples generalizing m regs with
    | nil => exact h
    | cons sample rest ih => exact ih (h.takeSample sample)

theorem InClamp.watchdogTick (h : InClamp m regs) (nowMs : UInt32) :
    InClamp (mcrWatchdogTick m regs nowMs).1 (mcrWatchdogTick m regs nowMs).2 := by
  unfold mcrWatchdogTick watchdogUnbound watchdogStale
  split_ifs
  · exact h
  · exact ⟨h.base, h.nominal⟩
  · exact ⟨h.base, h.increment⟩
  · exact h
  · exact ⟨h.base, h.nominal⟩
  · exact h

theorem mcrProcessRx_base (m : Mcr) (frame : Buffer) (len : Nat) (rxTs : PtpTimestamp) :
    (mcrProcessRx m frame len rxTs).baseIncrement = m.baseIncrement := by
  unfold mcrProcessRx
  dsimp only
  split_ifs <;> rfl

-- ---------------------------------------------------------------------------
-- What the main loop writes
-- ---------------------------------------------------------------------------

def Clamped (fw : Firmware) : Prop := InClamp fw.mcr fw.mcrRegs

theorem clamped_same {fw fw' : Firmware} (h : Clamped fw)
    (hsame : (fw'.mcr, fw'.mcrRegs) = (fw.mcr, fw.mcrRegs)) : Clamped fw' := by
  obtain ⟨hmcr, hregs⟩ := Prod.mk.inj hsame
  rw [Clamped, hmcr, hregs]
  exact h

theorem clockInvariant_clamped : ClockInvariant Clamped where
  same h hclocks := clamped_same h (congrArg Prod.snd hclocks)
  bind streamId h := InClamp.bind h streamId
  unbind h := InClamp.unbind h

theorem clamped_putGptp {fw : Firmware} (h : Clamped fw) (r : Gptp × List GptpEffect) :
    Clamped (fw.putGptp r) :=
  clamped_same h (putGptp_same (fun fw => (fw.mcr, fw.mcrRegs)) (fun _ _ _ _ _ => rfl) fw r)

theorem clamped_rxHandle {fw : Firmware} (h : Clamped fw) (frame : Buffer) (len : Nat) (r : Readings)
    (handler : RxHandler) : Clamped (rxHandle fw frame len r handler) := by
  have hother (hgptp : handler ≠ .gptp) (hcrf : handler ≠ .crf) :=
    clockInvariant_clamped.rxHandle h frame len r hgptp hcrf
  cases handler with
  | gptp => exact clamped_putGptp h _
  | crf => exact ⟨(mcrProcessRx_base ..).trans h.base, h.increment⟩
  | _ => exact hother (by decide) (by decide)

theorem clamped_step {fw : Firmware} (h : Clamped fw) (step : LoopStep) :
    Clamped (mainLoopStep fw step) := by
  have hcleared : Clamped { fw with sent := [], tsuWrites := [] } := h
  by_cases hleaves : step.leavesClocks = true
  · exact clockInvariant_clamped.same hcleared (loopStep_clocks _ hleaves)
  · cases step with
    | dispatchRx slot len r =>
      rw [mainLoopStep, loopStep, dispatchRx]
      dsimp only
      split
      · refine clamped_rxHandle ?_ ..
        exact hcleared
      · exact hcleared
    | gptpPoll r => exact clamped_putGptp hcleared _
    | mcrPumpHw fifo => exact InClamp.pumpHw h fifo
    | mcrServoUpdate => exact InClamp.servoUpdate h
    | mcrWatchdogTick r => exact InClamp.watchdogTick h r.nowMs
    | _ => exact absurd rfl hleaves

theorem clamped_boot : Clamped boot := by
  refine ⟨rfl, ?_⟩
  rw [maxIncrement]
  exact Nat.le_add_right ..

/-- Whatever comes in and however the timers run. -/
theorem clamped_run (steps : List LoopStep) : Clamped (mainLoop.run steps) :=
  Machine.run_invariant (I := Clamped) clamped_boot (fun _ step h => clamped_step h step) steps

-- ---------------------------------------------------------------------------
-- A board
-- ---------------------------------------------------------------------------

/-- The main loop, and a part of the gateware that `steer` gives an increment:
at every input it has the one in the register. A pass writes it once at most;
a drain of several samples is as many passes where cycles come in between.
What `mcr_init` has written there is the register's reset value, so the clocks
may run before the loop does. -/
def board (gateware : Machine σ ι) (steer : UInt32 → ι → ι) :
    Machine (Firmware × σ) (LoopStep ⊕ ι) :=
  mainLoop.feeds gateware fun fw => steer fw.mcrRegs.increment

/-- What the gateware takes in. -/
def inputs (gateware : Machine σ ι) (steer : UInt32 → ι → ι) (events : List (LoopStep ⊕ ι)) :
    List ι :=
  mainLoop.fed gateware (fun fw => steer fw.mcrRegs.increment) events

section Board

variable {gateware : Machine σ ι} {steer : UInt32 → ι → ι} {events : List (LoopStep ⊕ ι)}

theorem board_run (events : List (LoopStep ⊕ ι)) :
    ((board gateware steer).run events).2 = gateware.run (inputs gateware steer events) :=
  Machine.feeds_run events

theorem board_clamped (events : List (LoopStep ⊕ ι)) :
    Clamped ((board gateware steer).run events).1 := by
  rw [board, Machine.feeds_fst]
  exact clamped_run _

/-- A condition that an increment within the clamp sees to is met by all that
the gateware takes in. -/
theorem board_steps {H : Firmware × σ → LoopStep ⊕ ι → Prop} {P : σ → ι → Prop}
    (hsteer : ∀ fw s i, fw.mcrRegs.increment.toNat ≤ maxIncrement → H (fw, s) (.inr i) →
      P s (steer fw.mcrRegs.increment i))
    (h : (board gateware steer).Steps H events) :
    gateware.Steps P (inputs gateware steer events) :=
  h.fed clamped_boot (fun _ step hclamped => clamped_step hclamped step)
    fun fw s i hclamped => hsteer fw s i hclamped.increment

end Board

-- ---------------------------------------------------------------------------
-- The packetizer and the FIFO
-- ---------------------------------------------------------------------------

def steerEdge (increment : UInt32) : UsbBridge.Edge → UsbBridge.Edge
  | .usb wData => .usb wData
  | .clk c => .clk { c with increment := increment }
  | .both wData c consumeSeen produceSeen =>
    .both wData { c with increment := increment } consumeSeen produceSeen

theorem steerEdge_cycle (increment : UInt32) (e : UsbBridge.Edge) :
    (steerEdge increment e).cycle = e.cycle.map fun c => { c with increment := increment } := by
  cases e <;> rfl

theorem steerEdge_clamped {increment : UInt32} (h : increment.toNat ≤ maxIncrement)
    (s : UsbBridge.Bridge × UsbBridge.Log) (e : UsbBridge.Edge) :
    UsbBridge.Clamped s (steerEdge increment e) := by
  intro c hc
  rw [steerEdge_cycle] at hc
  obtain ⟨c, -, rfl⟩ := Option.map_eq_some_iff.mp hc
  exact h

abbrev Event := LoopStep ⊕ UsbBridge.Edge

def bridgeBoard : Machine (Firmware × UsbBridge.Bridge × UsbBridge.Log) Event :=
  board UsbBridge.logged steerEdge

theorem sound_run (events : List Event) : UsbBridge.Sound (bridgeBoard.run events).2 := by
  have hclamped : UsbBridge.logged.Steps UsbBridge.Clamped
      (inputs UsbBridge.logged steerEdge events) :=
    board_steps (H := fun _ _ => True) (fun _ s e h _ => steerEdge_clamped h s e)
      (Machine.stepsFrom_of_forall (fun _ _ => trivial) _ events)
  rw [bridgeBoard, board_run]
  exact UsbBridge.sound_run hclamped

/-- Whatever comes in from the network, however the timers run, and whatever
the two clocks do and whoever pops. -/
theorem board_carries (events : List Event) :
    (bridgeBoard.run events).1.mcrRegs.increment.toNat ≤ maxIncrement ∧
      UsbBridge.Carries (bridgeBoard.run events).2 :=
  ⟨(board_clamped events).increment, (sound_run events).carries⟩

-- ---------------------------------------------------------------------------
-- Its frames
-- ---------------------------------------------------------------------------

def frameBoard : Machine (Firmware × (UsbBridge.Bridge × UsbBridge.Log) × List UInt32) Event :=
  board PacketFrames.stamped steerEdge

/-- The packetizer's registers hold this binding. -/
def Holds (binding : AafPktRegs) (_ : Firmware × (UsbBridge.Bridge × UsbBridge.Log) × List UInt32) :
    Event → Prop
  | .inl _ => True
  | .inr e => ∀ c ∈ e.cycle, PacketFrames.Held binding c.regs

instance (binding : AafPktRegs)
    (s : Firmware × (UsbBridge.Bridge × UsbBridge.Log) × List UInt32) (e : Event) :
    Decidable (Holds binding s e) :=
  match e with
  | .inl _ => .isTrue trivial
  | .inr e => inferInstanceAs (Decidable (∀ c ∈ e.cycle, PacketFrames.Held binding c.regs))

/-- The CRF listener is connected, and the servo sees the stream drift as far
as its clamp reaches. -/
def drifting : List LoopStep :=
  [fastConnectTo talkerStream 0, .mcrPumpHw [⟨20000000, {}⟩, ⟨0, {}⟩]]

def boardRun : List Event := drifting.map .inl ++ UsbFrames.hostRun.map .inr

theorem boardRun_increment : (mainLoop.run drifting).mcrRegs.increment = 20900385 := by
  decide +kernel

/-- The edges of the run have that increment as they are. -/
theorem boardRun_run :
    (frameBoard.run boardRun).2.1 = UsbBridge.logged.run UsbFrames.hostRun := by
  have hsame : UsbFrames.hostRun.map (steerEdge 20900385) = UsbFrames.hostRun := by
    rw [UsbFrames.hostRun, List.map_append, List.map_map, List.map_replicate]
    rfl
  rw [boardRun, frameBoard, board, Machine.feeds_run_apart, boardRun_increment, hsame]
  exact Machine.withHistory_fst ..

def steerRestart (increment : UInt32) (c : TalkerRestart.RestartCycle) : TalkerRestart.RestartCycle :=
  { c with cycle := { c.cycle with increment := increment } }

/-- A talker that is enabled again is clean. -/
def RisesClean (s : Firmware × TalkerRestart.Restart × TalkerRestart.Since) :
    LoopStep ⊕ TalkerRestart.RestartCycle → Prop
  | .inl _ => True
  | .inr c => TalkerRestart.Rises s.2.1 c → TalkerRestart.Clean s.2.1.talker

theorem board_restarts {events : List (LoopStep ⊕ TalkerRestart.RestartCycle)}
    (hrises : (board TalkerRestart.restart steerRestart).Steps RisesClean events) :
    TalkerRestart.RestartsClean (inputs TalkerRestart.restart steerRestart events) := by
  have hclean : TalkerRestart.restart.Steps TalkerRestart.StartsClean
      (inputs TalkerRestart.restart steerRestart events) :=
    board_steps (fun _ _ _ hclamped h => ⟨hclamped, h⟩) hrises
  rintro before c after hsplit hrises
  exact TalkerRestart.onlySince_from (hsplit ▸ hclean) hrises

end AvbAes3.BoardClock
