import AvbAes3.ClockWrites
import AvbAes3.CrfParsers

/-!
# The two paths of a CRF packet

Every packet of the bound stream is written to a MAC slot and queued by the
extractor, and the main loop comes to the slot and to the FIFO when it does.
`mcr_pump_hw` counts it, and so does `mcr_process_rx` if it has a timestamp:
whatever the order, once such a packet has passed both, `rx_count` has grown
by two.
-/

namespace AvbAes3.CrfPaths

open CrfParsers

-- ---------------------------------------------------------------------------
-- Packets on their way
-- ---------------------------------------------------------------------------

/-- A CRF packet of the stream. -/
structure StreamPdu (streamId : StreamId) where
  frame : Received
  ethertype : frame.ethertype = avtpEthertype
  subtype : frame.pdu 0 = avtpSubtypeCrf
  streamId : (frame.pdu.offset 4).bytes 8 = streamId

variable {streamId : StreamId}

/-- The pair the extractor queues. -/
def StreamPdu.pair (pdu : StreamPdu streamId) : CrfSample :=
  CrfExtractor.pairOf pdu.frame.slot pdu.frame.time

/-- Its `crf_data_length` has room for a timestamp. -/
def StreamPdu.hasTimestamp (pdu : StreamPdu streamId) : Bool := decide (8 ≤ pdu.frame.dataLength)

/-- How many of them have one. -/
def timed (pdus : List (StreamPdu streamId)) : Nat := pdus.countP StreamPdu.hasTimestamp

theorem timed_cons (pdu : StreamPdu streamId) (rest : List (StreamPdu streamId)) :
    timed (pdu :: rest) = timed rest + pdu.hasTimestamp.toNat := by
  rw [timed, List.countP_cons, ← timed]
  cases pdu.hasTimestamp <;> rfl

/-- The firmware, the filled slots and the FIFO. -/
structure Paths (streamId : StreamId) where
  fw : Firmware
  slots : List (StreamPdu streamId) := []
  fifo : List CrfSample := []

/-- A step of the main loop that comes to neither queue. -/
def takesNone : LoopStep → Bool
  | .dispatchRx .. | .mcrPumpHw _ => false
  | _ => true

inductive Event (streamId : StreamId)
  | slotFilled (pdu : StreamPdu streamId)
  | pairQueued (pdu : StreamPdu streamId)
  | dispatchRx (r : Readings)
  | mcrPumpHw
  | other (step : LoopStep) (takesNone : takesNone step)

namespace Paths

def step (s : Paths streamId) : Event streamId → Paths streamId
  | .slotFilled pdu => { s with slots := s.slots ++ [pdu] }
  | .pairQueued pdu => { s with fifo := s.fifo ++ [pdu.pair] }
  | .dispatchRx r =>
    match s.slots with
    | [] => s
    | pdu :: rest =>
      { s with
        fw := mainLoopStep s.fw (.dispatchRx pdu.frame.slot pdu.frame.len r)
        slots := rest }
  | .mcrPumpHw =>
    { s with
      fw := mainLoopStep s.fw (.mcrPumpHw s.fifo)
      fifo := if s.fw.mcr.bound then s.fifo.drop 64 else s.fifo }
  | .other step _ => { s with fw := mainLoopStep s.fw step }

-- ---------------------------------------------------------------------------
-- What is counted
-- ---------------------------------------------------------------------------

/-- The samples a call of `mcr_servo_update` consumes. -/
def servoConsumes (m : Mcr) : Nat := if !m.bound || m.servoConsumed then 0 else 1

/-- Those its calls in the drain consume. -/
def drainConsumes : Mcr → McrRegs → List CrfSample → Nat
  | _, _, [] => 0
  | m, regs, sample :: rest =>
    servoConsumes { m with servoConsumed := false } +
      drainConsumes (mcrTakeSample m regs sample).1 (mcrTakeSample m regs sample).2 rest

def consumes (s : Paths streamId) : Event streamId → Nat
  | .mcrPumpHw =>
    if s.fw.mcr.bound then drainConsumes s.fw.mcr s.fw.mcrRegs (s.fifo.take 64) else 0
  | .other .mcrServoUpdate _ => servoConsumes s.fw.mcr
  | _ => 0

/-- The packets that have reached each path, by how much `rx_count` has grown
and how many samples the servo has consumed. -/
structure Ledger (streamId : StreamId) where
  filled : List (StreamPdu streamId) := []
  queued : List (StreamPdu streamId) := []
  grown : Nat := 0
  consumed : Nat := 0

def note (l : Ledger streamId) (s : Paths streamId) (e : Event streamId) : Ledger streamId where
  filled :=
    match e with
    | .slotFilled pdu => l.filled ++ [pdu]
    | _ => l.filled
  queued :=
    match e with
    | .pairQueued pdu => l.queued ++ [pdu]
    | _ => l.queued
  grown := l.grown + ((s.step e).fw.mcr.rxCount - s.fw.mcr.rxCount).toNat
  consumed := l.consumed + s.consumes e

/-- From the binding on. -/
def bound (fw : Firmware) (streamId : StreamId) :
    Machine (Paths streamId × Ledger streamId) (Event streamId) :=
  Machine.withHistory ⟨⟨fw.putMcr (mcrBind fw.mcr fw.mcrRegs streamId), [], []⟩, step⟩ {} note

/-- Every packet has reached both paths and has been taken from both. -/
structure Delivered (s : Paths streamId × Ledger streamId) : Prop where
  both : s.2.filled = s.2.queued
  slots : s.1.slots = []
  fifo : s.1.fifo = []

/-- `rx_count` has grown by one for each packet, and the servo has consumed
at most one sample for each. -/
def OncePerPdu (l : Ledger streamId) : Prop :=
  l.grown = l.filled.length ∧ l.consumed ≤ l.filled.length

end Paths

-- ---------------------------------------------------------------------------
-- The other steps
-- ---------------------------------------------------------------------------

/-- The calls to media clock recovery in a step that comes to no queue. -/
theorem other_mcr (fw : Firmware) {step : LoopStep} (h : takesNone step) :
    (mainLoopStep fw step).mcr =
      match step with
      | .mcrServoUpdate => (mcrServoUpdate fw.mcr fw.mcrRegs).1
      | .mcrWatchdogTick r => (mcrWatchdogTick fw.mcr fw.mcrRegs r.nowMs).1
      | _ => fw.mcr := by
  have hleft {step : LoopStep} (hleaves : step.leavesClocks) :
      (mainLoopStep fw step).mcr = fw.mcr := congrArg (·.2.1) (loopStep_clocks _ hleaves)
  cases step with
  | dispatchRx slot len r => cases h
  | mcrPumpHw fifo => cases h
  | gptpPoll r => exact putGptp_same Firmware.mcr (fun _ _ _ _ _ => rfl) ..
  | mcrServoUpdate => rfl
  | mcrWatchdogTick r => rfl
  | _ => exact hleft rfl

-- ---------------------------------------------------------------------------
-- The samples
-- ---------------------------------------------------------------------------

/-- A sample waits for the servo. -/
def pending (m : Mcr) : Nat := if m.servoConsumed then 0 else 1

theorem mcrServoUpdate_consumed {m : Mcr} (hbound : m.bound) (regs : McrRegs) :
    (mcrServoUpdate m regs).1.servoConsumed := by
  unfold mcrServoUpdate
  split
  · rename_i h
    rw [hbound] at h
    exact h
  dsimp only
  split
  · rfl
  · obtain ⟨_, _, hlock⟩ := mcrLock_writes (mcrStats _ _) _
    rw [hlock]
    rfl

theorem mcrTakeSample_consumed {m : Mcr} (hbound : m.bound) (regs : McrRegs) (sample : CrfSample) :
    (mcrTakeSample m regs sample).1.servoConsumed := by
  refine mcrServoUpdate_consumed ?_ regs
  exact hbound

theorem servoConsumes_le (m : Mcr) : Paths.servoConsumes m ≤ 1 := by
  rw [Paths.servoConsumes]
  split <;> decide

theorem drainConsumes_le (samples : List CrfSample) (m : Mcr) (regs : McrRegs) :
    Paths.drainConsumes m regs samples ≤ samples.length := by
  induction samples generalizing m regs with
  | nil => exact Nat.le_refl _
  | cons sample rest ih =>
    rw [Paths.drainConsumes, List.length_cons, Nat.add_comm]
    exact Nat.add_le_add (ih ..) (servoConsumes_le _)

/-- What a drain does to the counts. -/
structure Drained (m m' : Mcr) (n : Nat) : Prop where
  rxCount : m'.rxCount = m.rxCount + n.toUInt32
  pending : pending m' ≤ pending m

theorem drained (samples : List CrfSample) {m : Mcr} (hbound : m.bound) (regs : McrRegs) :
    Drained m (samples.foldl (fun mr sample => mcrTakeSample mr.1 mr.2 sample) (m, regs)).1
      samples.length := by
  induction samples generalizing m regs with
  | nil => exact ⟨(UInt32.add_zero _).symm, Nat.le_refl _⟩
  | cons sample rest ih =>
    have hconsumed : (mcrTakeSample m regs sample).1.servoConsumed := by
      refine mcrServoUpdate_consumed ?_ regs
      exact hbound
    have hstays : (mcrTakeSample m regs sample).1.bound := by
      have hbinding := mcrTakeSample_binding m regs sample
      have hsome : m.binding = some m.streamId := Mcr.binding_eq_some.mpr ⟨hbound, rfl⟩
      exact (Mcr.binding_eq_some.mp (hbinding.trans hsome)).1
    have hrest := ih hstays (mcrTakeSample m regs sample).2
    constructor
    · rw [List.foldl_cons, hrest.rxCount, (mcrTakeSample_sample ..).2, List.length_cons,
        UInt32.add_assoc, UInt32.add_comm 1]
      congr 1
      exact (UInt32.ofNat_add rest.length 1).symm
    · refine hrest.pending.trans ?_
      rw [CrfPaths.pending, if_pos hconsumed]
      exact Nat.zero_le _

/-- A call takes in one sample at most. -/
theorem processRx_counts (m : Mcr) (frame : Buffer) (len : Nat) (time : PtpTimestamp) :
    (mcrProcessRx m frame len time).rxCount = m.rxCount ∨
      (mcrProcessRx m frame len time).rxCount = m.rxCount + 1 := by
  unfold mcrProcessRx
  dsimp only
  split_ifs
  all_goals first
    | exact .inl rfl
    | exact .inr rfl

/-- A call that counts takes a packet of the stream, for the servo. -/
theorem processRx_counted {m : Mcr} {frame : Buffer} {len : Nat} {time : PtpTimestamp}
    (h : (mcrProcessRx m frame len time).rxCount ≠ m.rxCount) :
    m.bound ∧ ((frame.offset 14).offset 4).bytes 8 = m.streamId := by
  unfold mcrProcessRx at h
  dsimp only at h
  split_ifs at h with hbound _ _ hstream
  all_goals first
    | exact absurd rfl h
    | exact ⟨by simpa using hbound, not_not.mp hstream⟩

/-- One that does not leaves nothing for it. -/
theorem processRx_uncounted {m : Mcr} {frame : Buffer} {len : Nat} {time : PtpTimestamp}
    (h : (mcrProcessRx m frame len time).rxCount = m.rxCount) :
    (mcrProcessRx m frame len time).servoConsumed = m.servoConsumed := by
  unfold mcrProcessRx at h ⊢
  dsimp only at h ⊢
  split_ifs at h ⊢
  all_goals first
    | rfl
    | (exfalso
       have hcount : m.rxCount + 1 = m.rxCount := h
       exact absurd (UInt32.add_eq_left.mp hcount) (by decide))

theorem dispatchRx_mcr (fw : Firmware) (pdu : StreamPdu streamId) (r : Readings) :
    (mainLoopStep fw (.dispatchRx pdu.frame.slot pdu.frame.len r)).mcr =
      mcrProcessRx fw.mcr (rxFrame pdu.frame.slot pdu.frame.len fw.scratch).frame
        (rxFrame pdu.frame.slot pdu.frame.len fw.scratch).len r.tsu.rxTs := by
  have hhandler := (slot_handler fw.scratch pdu.frame).mpr ⟨pdu.ethertype, pdu.subtype⟩
  exact dispatchRx_crf { fw with sent := [], tsuWrites := [] } _ _ r hhandler

theorem dispatchRx_binding (fw : Firmware) (pdu : StreamPdu streamId) (r : Readings) :
    (mainLoopStep fw (.dispatchRx pdu.frame.slot pdu.frame.len r)).mcr.binding =
      fw.mcr.binding := by
  rw [dispatchRx_mcr, mcrProcessRx_binding]

/-- A packet of the stream is a sample if it has a timestamp. -/
theorem dispatchRx_rxCount {fw : Firmware} (hbound : fw.mcr.binding = some streamId)
    {pdu : StreamPdu streamId} (htimed : pdu.hasTimestamp) (r : Readings) :
    (mainLoopStep fw (.dispatchRx pdu.frame.slot pdu.frame.len r)).mcr.rxCount =
      fw.mcr.rxCount + 1 := by
  have htaken := taken_slot hbound fw.scratch pdu.ethertype pdu.subtype r.tsu.rxTs
  rw [if_pos ⟨pdu.streamId, of_decide_eq_true htimed⟩, taken] at htaken
  rw [dispatchRx_mcr]
  rcases processRx_counts fw.mcr _ _ r.tsu.rxTs with hsame | hcounted
  · rw [if_pos hsame] at htaken
    cases htaken
  · exact hcounted

/-- Without one it is not counted, and leaves nothing for the servo. -/
theorem dispatchRx_untimed {fw : Firmware} (hbound : fw.mcr.binding = some streamId)
    {pdu : StreamPdu streamId} (huntimed : pdu.hasTimestamp = false) (r : Readings) :
    let after := (mainLoopStep fw (.dispatchRx pdu.frame.slot pdu.frame.len r)).mcr
    after.rxCount = fw.mcr.rxCount ∧ after.servoConsumed = fw.mcr.servoConsumed := by
  have htaken := taken_slot hbound fw.scratch pdu.ethertype pdu.subtype r.tsu.rxTs
  rw [if_neg fun h => of_decide_eq_false huntimed h.2, taken] at htaken
  rw [dispatchRx_mcr]
  have hsame : (mcrProcessRx fw.mcr (rxFrame pdu.frame.slot pdu.frame.len fw.scratch).frame
      (rxFrame pdu.frame.slot pdu.frame.len fw.scratch).len r.tsu.rxTs).rxCount =
        fw.mcr.rxCount := by
    by_contra hcounted
    rw [if_neg hcounted] at htaken
    cases htaken
  exact ⟨hsame, processRx_uncounted hsame⟩

-- ---------------------------------------------------------------------------
-- The balance
-- ---------------------------------------------------------------------------

/-- Each pair, and each packet with a timestamp, that is taken from its queue
is one count, and each sample left for the servo, or consumed, came from one. -/
structure Balanced (s : Paths streamId × Paths.Ledger streamId) : Prop where
  bound : s.1.fw.mcr.binding = some streamId
  grown : s.2.grown + timed s.1.slots + s.1.fifo.length = timed s.2.filled + s.2.queued.length
  consumed : s.2.consumed + pending s.1.fw.mcr + timed s.1.slots + s.1.fifo.length ≤
    timed s.2.filled + s.2.queued.length

/-- What an event does to the counts. -/
structure Counted (s : Paths streamId) (e : Event streamId) (taken : Nat) : Prop where
  binding : (s.step e).fw.mcr.binding = s.fw.mcr.binding
  grown : ((s.step e).fw.mcr.rxCount - s.fw.mcr.rxCount).toNat = taken
  consumed : s.consumes e + pending (s.step e).fw.mcr ≤ pending s.fw.mcr + taken

theorem pending_le (m : Mcr) : pending m ≤ 1 := by
  rw [pending]
  split <;> decide

theorem Counted.same {s : Paths streamId} {e : Event streamId}
    (hmcr : (s.step e).fw.mcr = s.fw.mcr) (hnone : s.consumes e = 0) : Counted s e 0 where
  binding := by rw [hmcr]
  grown := by rw [hmcr, UInt32.sub_self]; rfl
  consumed := by rw [hmcr, hnone]; omega

theorem counted_dispatchRx {s : Paths streamId} (hbound : s.fw.mcr.binding = some streamId)
    (r : Readings) {pdu : StreamPdu streamId} {rest : List (StreamPdu streamId)}
    (hslots : s.slots = pdu :: rest) : Counted s (.dispatchRx r) pdu.hasTimestamp.toNat := by
  have hstep : (s.step (.dispatchRx r)).fw =
      mainLoopStep s.fw (.dispatchRx pdu.frame.slot pdu.frame.len r) := by
    rw [Paths.step, hslots]
  have hnone : s.consumes (.dispatchRx r) = 0 := rfl
  have hbinding : (s.step (.dispatchRx r)).fw.mcr.binding = s.fw.mcr.binding := by
    rw [hstep, dispatchRx_binding]
  cases htimed : pdu.hasTimestamp with
  | true =>
    refine ⟨hbinding, ?_, ?_⟩
    · rw [hstep, dispatchRx_rxCount hbound htimed, UInt32.add_comm, UInt32.add_sub_cancel]
      rfl
    · rw [hnone, Nat.zero_add]
      exact (pending_le _).trans (Nat.le_add_left ..)
  | false =>
    obtain ⟨hcount, hconsumed⟩ := dispatchRx_untimed hbound htimed r
    refine ⟨hbinding, ?_, ?_⟩
    · rw [hstep, hcount, UInt32.sub_self]
      rfl
    · rw [hnone, hstep, pending, hconsumed, pending]
      exact Nat.le_of_eq (Nat.zero_add _)

theorem counted_pumpHw {s : Paths streamId} (hbound : s.fw.mcr.bound) :
    Counted s .mcrPumpHw (s.fifo.take 64).length := by
  have hstep : (s.step .mcrPumpHw).fw.mcr = (mcrPumpHw s.fw.mcr s.fw.mcrRegs s.fifo).1 := rfl
  have hdrained := drained (s.fifo.take 64) hbound s.fw.mcrRegs
  have hpump : mcrPumpHw s.fw.mcr s.fw.mcrRegs s.fifo =
      (s.fifo.take 64).foldl (fun mr sample => mcrTakeSample mr.1 mr.2 sample)
        (s.fw.mcr, s.fw.mcrRegs) := by
    rw [mcrPumpHw, hbound, Bool.not_true, if_neg Bool.false_ne_true]
  have hshort : (s.fifo.take 64).length ≤ 64 := by
    rw [List.length_take]
    exact Nat.min_le_left ..
  constructor
  · rw [hstep, mcrPumpHw_binding]
  · rw [hstep, hpump, hdrained.rxCount, UInt32.add_comm, UInt32.add_sub_cancel]
    exact UInt32.toNat_ofNat_of_lt' (by rw [UInt32.size]; omega)
  · have hconsumes := drainConsumes_le (s.fifo.take 64) s.fw.mcr s.fw.mcrRegs
    have hpending := hdrained.pending
    rw [hstep, hpump, Paths.consumes, if_pos hbound]
    omega

theorem counted_other {s : Paths streamId} (hbound : s.fw.mcr.bound) {step : LoopStep}
    (h : takesNone step) : Counted s (.other step h) 0 := by
  have hmcr : (s.step (.other step h)).fw.mcr = _ := other_mcr s.fw h
  cases step with
  | mcrServoUpdate =>
    constructor
    · rw [hmcr]
      exact mcrServoUpdate_binding ..
    · rw [hmcr]
      dsimp only
      rw [(mcrServoUpdate_sample ..).2, UInt32.sub_self]
      rfl
    · rw [hmcr]
      dsimp only
      rw [Paths.consumes, Paths.servoConsumes, hbound, Bool.not_true, Bool.false_or, pending,
        if_pos (mcrServoUpdate_consumed hbound _), pending]
  | mcrWatchdogTick r =>
    have hwatchdog : (mcrWatchdogTick s.fw.mcr s.fw.mcrRegs r.nowMs).1.rxCount = s.fw.mcr.rxCount ∧
        (mcrWatchdogTick s.fw.mcr s.fw.mcrRegs r.nowMs).1.servoConsumed =
          s.fw.mcr.servoConsumed := by
      unfold mcrWatchdogTick watchdogUnbound watchdogStale
      split_ifs <;> exact ⟨rfl, rfl⟩
    constructor
    · rw [hmcr]
      exact mcrWatchdogTick_binding ..
    · rw [hmcr]
      dsimp only
      rw [hwatchdog.1, UInt32.sub_self]
      rfl
    · have hnone : s.consumes (.other (.mcrWatchdogTick r) h) = 0 := rfl
      rw [hmcr, hnone, Nat.zero_add]
      dsimp only
      rw [pending, hwatchdog.2]
      exact Nat.le_refl _
  | dispatchRx slot len r => cases h
  | mcrPumpHw fifo => cases h
  | _ => exact Counted.same hmcr rfl

theorem Balanced.step {s : Paths streamId × Paths.Ledger streamId} (h : Balanced s)
    (e : Event streamId) : Balanced (s.1.step e, Paths.note s.2 s.1 e) := by
  obtain ⟨hbinding, hgrown, hconsumed⟩ := h
  have hbound : s.1.fw.mcr.bound := (Mcr.binding_eq_some.mp hbinding).1
  -- an event that takes `taken` entries keeps the balance
  have hkeep {taken : Nat} (hcounted : Counted s.1 e taken)
      (hqueues : timed (s.1.step e).slots + (s.1.step e).fifo.length + taken +
          timed s.2.filled + s.2.queued.length =
        timed s.1.slots + s.1.fifo.length + timed (Paths.note s.2 s.1 e).filled +
          (Paths.note s.2 s.1 e).queued.length) :
      Balanced (s.1.step e, Paths.note s.2 s.1 e) := by
    have hledger : (Paths.note s.2 s.1 e).grown = s.2.grown + taken :=
      congrArg (s.2.grown + ·) hcounted.grown
    have hserved : (Paths.note s.2 s.1 e).consumed = s.2.consumed + s.1.consumes e := rfl
    have hsamples := hcounted.consumed
    refine ⟨hcounted.binding.trans hbinding, ?_, ?_⟩
    · dsimp only
      omega
    · dsimp only
      omega
  cases e with
  | slotFilled pdu =>
    refine hkeep (Counted.same rfl rfl) ?_
    simp only [Paths.step, Paths.note, timed, List.countP_append]
    omega
  | pairQueued pdu =>
    refine hkeep (Counted.same rfl rfl) ?_
    simp only [Paths.step, Paths.note, List.length_append, List.length_singleton]
    omega
  | dispatchRx r =>
    cases hslots : s.1.slots with
    | nil =>
      have hstep : s.1.step (.dispatchRx r) = s.1 := by rw [Paths.step, hslots]
      refine hkeep (Counted.same (by rw [hstep]) rfl) ?_
      simp only [hstep, Paths.note]
      omega
    | cons pdu rest =>
      refine hkeep (counted_dispatchRx hbinding r hslots) ?_
      simp only [Paths.step, Paths.note, hslots, timed_cons]
      omega
  | mcrPumpHw =>
    refine hkeep (counted_pumpHw hbound) ?_
    simp only [Paths.step, Paths.note, if_pos hbound, List.length_take, List.length_drop]
    omega
  | other step hnone =>
    exact hkeep (counted_other hbound hnone) rfl

theorem balanced_init (fw : Firmware) : Balanced (Paths.bound fw streamId).init where
  bound := mcrBind_binding fw.mcr fw.mcrRegs streamId
  grown := rfl
  consumed := Nat.le_refl _

/-- After any events in which every packet passes both paths, each has been
counted once, with one sample at most, if and only if none has a timestamp. -/
theorem oncePerPdu_iff (fw : Firmware) (events : List (Event streamId))
    (h : Paths.Delivered ((Paths.bound fw streamId).run events)) :
    Paths.OncePerPdu ((Paths.bound fw streamId).run events).2 ↔
      ∀ pdu ∈ ((Paths.bound fw streamId).run events).2.filled, pdu.hasTimestamp = false := by
  have hbalanced : Balanced ((Paths.bound fw streamId).run events) :=
    Machine.run_invariant (balanced_init fw) (fun _ e hs => hs.step e) events
  generalize (Paths.bound fw streamId).run events = s at h hbalanced
  obtain ⟨hboth, hslots, hfifo⟩ := h
  obtain ⟨-, hgrown, hconsumed⟩ := hbalanced
  have hnone : timed s.2.filled = 0 ↔ ∀ pdu ∈ s.2.filled, pdu.hasTimestamp = false := by
    simp only [timed, List.countP_eq_zero, Bool.not_eq_true]
  rw [hslots, hfifo, ← hboth] at hgrown hconsumed
  simp only [timed, List.countP_nil, List.length_nil, Nat.add_zero] at hgrown hconsumed
  rw [← hnone, timed, Paths.OncePerPdu]
  constructor
  · rintro ⟨honce, -⟩
    omega
  · intro hzero
    omega

-- ---------------------------------------------------------------------------
-- One packet
-- ---------------------------------------------------------------------------

theorem received_stream : received.ethertype = avtpEthertype ∧ received.pdu 0 = avtpSubtypeCrf ∧
    (received.pdu.offset 4).bytes 8 = crfStream := by
  decide +kernel

def onePdu : StreamPdu crfStream :=
  ⟨received, received_stream.1, received_stream.2.1, received_stream.2.2⟩

/-- The packet arrives between `dispatch_rx` and the drain, and is taken from
its slot in the next pass. -/
def betweenPasses : List (Event crfStream) :=
  [.slotFilled onePdu, .pairQueued onePdu, .mcrPumpHw, .dispatchRx {}, .other .mcrServoUpdate rfl]

theorem betweenPasses_delivered : Paths.Delivered ((Paths.bound boot crfStream).run betweenPasses) :=
  ⟨rfl, rfl, rfl⟩

theorem oncePerPdu_betweenPasses :
    Paths.OncePerPdu ((Paths.bound boot crfStream).run betweenPasses).2 ↔
      ∀ pdu ∈ ((Paths.bound boot crfStream).run betweenPasses).2.filled,
        pdu.hasTimestamp = false :=
  oncePerPdu_iff boot betweenPasses betweenPasses_delivered

theorem counted_twice : Paths.Delivered ((Paths.bound boot crfStream).run betweenPasses) ∧
    ¬ Paths.OncePerPdu ((Paths.bound boot crfStream).run betweenPasses).2 := by
  refine ⟨betweenPasses_delivered, ?_⟩
  rw [oncePerPdu_iff boot betweenPasses betweenPasses_delivered]
  intro hnone
  have htimed : onePdu.hasTimestamp = true := by decide +kernel
  exact Bool.false_ne_true ((hnone onePdu List.mem_cons_self).symm.trans htimed)

end AvbAes3.CrfPaths
