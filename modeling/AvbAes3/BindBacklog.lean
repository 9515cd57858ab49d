import AvbAes3.CrfPaths

/-!
# Pairs of an earlier stream

`mcr_bind` drops the sample the slot path may have left and rewrites the
stream id of the extractor, one half after the other. It does not empty the
extractor's FIFO: pairs of an earlier stream that are still queued, or that
match the halves of two stream ids, reach the servo of the new one.

`ownStream_of_ownBacklog`: that does not happen in any run in which `mcr_bind`
finds no pair of another stream queued, and none is queued between its writes.
-/

namespace AvbAes3.BindBacklog

-- ---------------------------------------------------------------------------
-- The firmware and the extractor
-- ---------------------------------------------------------------------------

/-- Where `mcr_bind` is with its writes of the extractor's registers. -/
inductive Writes
  | done
  | lo
  | enable
  deriving DecidableEq

structure Clock where
  mcr : Mcr
  regs : McrRegs
  ext : CrfExtractor := {}
  writes : Writes := .done

/-- `cycle` is a clock cycle without an access to the FIFO. The firmware does
nothing else until `mcr_bind` has written its registers. -/
inductive Event
  | cycle (beat : Beat UInt32) (time : PtpTimestamp)
  | bindHi (streamId : StreamId)
  | bindLo
  | bindEnable
  | unbind
  | packet (frame : Buffer) (len : Nat) (rxTs : PtpTimestamp)
  | drain (beat : Beat UInt32) (time : PtpTimestamp)
  | servoUpdate
  | watchdogTick (nowMs : UInt32)

def putMcr (s : Clock) (r : Mcr × McrRegs) : Clock := { s with mcr := r.1, regs := r.2 }

/-- One turn of the drain: the head is read, and popped in the cycle given. -/
def drain (s : Clock) (beat : Beat UInt32) (time : PtpTimestamp) : Clock :=
  match s.ext.fifo with
  | [] => s
  | sample :: _ =>
    if !s.mcr.bound then s
    else
      putMcr { s with ext := s.ext.step s.regs ⟨beat, time, true⟩ }
        (mcrTakeSample s.mcr s.regs sample)

/-- The calls of the main loop. -/
def call (s : Clock) : Event → Clock
  | .bindHi streamId =>
    { s with
      mcr := (mcrBind s.mcr s.regs streamId).1
      regs.crfStreamIdHi := streamIdHi streamId
      writes := .lo }
  | .unbind => putMcr s (mcrUnbind s.mcr s.regs)
  | .packet frame len rxTs => { s with mcr := mcrProcessRx s.mcr frame len rxTs }
  | .drain beat time => drain s beat time
  | .servoUpdate => putMcr s (mcrServoUpdate s.mcr s.regs)
  | .watchdogTick nowMs => putMcr s (mcrWatchdogTick s.mcr s.regs nowMs)
  | _ => s

def Event.isCall : Event → Bool
  | .cycle .. | .bindLo | .bindEnable => false
  | _ => true

def step (s : Clock) : Event → Clock
  | .cycle beat time => { s with ext := s.ext.step s.regs ⟨beat, time, false⟩ }
  | .bindLo =>
    if s.writes = .lo then
      { s with regs.crfStreamIdLo := streamIdLo s.mcr.streamId, writes := .enable }
    else s
  | .bindEnable =>
    if s.writes = .enable then { s with regs.crfEnabled := true, writes := .done } else s
  | e => if s.writes = .done then call s e else s

-- ---------------------------------------------------------------------------
-- Where the pairs come from
-- ---------------------------------------------------------------------------

/-- The stream id of the frame whose header the extractor holds. -/
def frameStreamId (e : CrfExtractor) : StreamId :=
  (if e.vlan then e.header.offset 22 else e.header.offset 18).bytes 8

/-- A cycle in which a pair is queued. -/
def queues (s : Clock) : Bool :=
  s.ext.matched s.regs && decide (s.ext.fifo.length < CrfExtractor.fifoDepth)

/-- The pairs of the FIFO with the stream id of the PDU each was extracted
from, and that of the latest sample given to the servo. -/
structure Origins where
  queued : List (StreamId × CrfSample) := []
  latest : StreamId := zeroBytes 8

def queue (o : Origins) (s : Clock) : Origins :=
  if queues s then
    { o with
      queued := o.queued ++
        [(frameStreamId s.ext, ⟨s.ext.avtpTs, CrfExtractor.localTs s.ext.localTsCap⟩)] }
  else o

def note (o : Origins) (s : Clock) (e : Event) : Origins :=
  match e with
  | .cycle .. => queue o s
  | .packet frame len rxTs =>
    if s.writes = .done ∧ (mcrProcessRx s.mcr frame len rxTs).rxCount ≠ s.mcr.rxCount then
      { o with latest := ((frame.offset 14).offset 4).bytes 8 }
    else o
  | .drain .. =>
    match o.queued with
    | [] => o
    | (streamId, _) :: rest =>
      if s.writes = .done ∧ s.mcr.bound then queue { queued := rest, latest := streamId } s
      else o
  | _ => o

def clocked (sysClkFreq fs : UInt32) : Machine (Clock × Origins) Event :=
  Machine.withHistory
    ⟨⟨(mcrInit sysClkFreq fs).1, (mcrInit sysClkFreq fs).2, {}, .done⟩, step⟩ {} note

/-- The stream id of the pair that `mcr_servo_update` consumes in the step. -/
def consumed (s : Clock × Origins) : Event → Option StreamId
  | .drain .. =>
    if s.1.writes = .done ∧ s.1.mcr.bound then s.2.queued.head?.map Prod.fst else none
  | .servoUpdate =>
    if s.1.writes = .done ∧ s.1.mcr.bound ∧ s.1.mcr.servoConsumed = false then some s.2.latest
    else none
  | _ => none

def OwnStream (s : Clock × Origins) (e : Event) : Prop :=
  ∀ streamId ∈ consumed s e, s.1.mcr.binding = some streamId

/-- `mcr_bind` finds no pair of another stream, and none is queued between
its writes of the two halves. -/
def OwnBacklog (s : Clock × Origins) : Event → Prop
  | .bindHi streamId => s.1.writes = .done → ∀ q ∈ s.2.queued, q.1 = streamId
  | .cycle .. => s.1.writes = .lo → queues s.1 → frameStreamId s.1.ext = s.1.mcr.streamId
  | _ => True

instance (s : Clock × Origins) : DecidablePred (OwnStream s) := fun e =>
  Option.decidableForallMem (consumed s e)

instance (s : Clock × Origins) : DecidablePred (OwnBacklog s) := fun e => by
  unfold OwnBacklog; split <;> infer_instance

theorem step_done {s : Clock} (h : s.writes = .done) {e : Event} (he : e.isCall) :
    step s e = call s e := by
  cases e <;> first | exact if_pos h | cases he

theorem step_busy {s : Clock} (h : s.writes ≠ .done) {e : Event} (he : e.isCall) :
    step s e = s := by
  cases e <;> first | exact if_neg h | cases he

/-- A turn takes the head as `mcr_pump_hw` does. -/
theorem drain_pumpHw {s : Clock} {sample : CrfSample} {rest : List CrfSample}
    (h : s.ext.fifo = sample :: rest) (beat : Beat UInt32) (time : PtpTimestamp) :
    ((drain s beat time).mcr, (drain s beat time).regs) = mcrPumpHw s.mcr s.regs [sample] := by
  unfold drain
  rw [h, mcrPumpHw]
  cases hbound : s.mcr.bound <;> rfl

-- ---------------------------------------------------------------------------
-- The queue
-- ---------------------------------------------------------------------------

/-- What the extractor matches against whole registers is of their stream. -/
theorem matched_own {e : CrfExtractor} {regs : McrRegs} {streamId : StreamId}
    (h : e.matched regs) (hhi : regs.crfStreamIdHi = streamIdHi streamId)
    (hlo : regs.crfStreamIdLo = streamIdLo streamId) : frameStreamId e = streamId := by
  rw [CrfExtractor.matched, Bool.and_eq_true, beq_iff_eq] at h
  have hsid : getBe64 (if e.vlan then e.header.offset 22 else e.header.offset 18) =
      CrfExtractor.cfgSid regs := by
    rw [← h.2, CrfExtractor.sid]
    split <;> rfl
  exact (CrfParsers.cfgSid_holds hhi hlo _).mp hsid

/-- The pairs noted are those of the FIFO, in its order. -/
theorem queue_fifo {s : Clock} {o : Origins} {fifo : List CrfSample} {pop : Bool}
    (h : o.queued.map Prod.snd = fifo) (hpop : (if pop then s.ext.fifo.tail else s.ext.fifo) = fifo)
    (beat : Beat UInt32) (time : PtpTimestamp) :
    (queue o s).queued.map Prod.snd = (s.ext.step s.regs ⟨beat, time, pop⟩).fifo := by
  rw [CrfExtractor.step]
  dsimp only
  rw [hpop, ← h]
  by_cases hq : queues s
  · rw [queue, if_pos hq, if_pos (by simpa [queues] using hq), List.map_append]
    rfl
  · rw [queue, if_neg hq, if_neg (by simpa [queues] using hq)]

theorem mem_queue {o : Origins} {s : Clock} {q : StreamId × CrfSample}
    (h : q ∈ (queue o s).queued) : q ∈ o.queued ∨ queues s ∧ q.1 = frameStreamId s.ext := by
  unfold queue at h
  split at h
  · rename_i hq
    rcases List.mem_append.mp h with hold | hnew
    · exact .inl hold
    · exact .inr ⟨hq, by rw [List.mem_singleton.mp hnew]⟩
  · exact .inl h

@[simp] theorem queue_latest (o : Origins) (s : Clock) : (queue o s).latest = o.latest := by
  unfold queue
  split <;> rfl

-- ---------------------------------------------------------------------------
-- Runs
-- ---------------------------------------------------------------------------

/-- While bound: every pair queued, and the latest sample the servo has not
consumed, are of the stream; so are the registers, as far as written. -/
structure Own (s : Clock × Origins) : Prop where
  fifo : s.2.queued.map Prod.snd = s.1.ext.fifo
  queued : ∀ streamId, s.1.mcr.binding = some streamId → ∀ q ∈ s.2.queued, q.1 = streamId
  hi : ∀ streamId, s.1.mcr.binding = some streamId →
    s.1.regs.crfStreamIdHi = streamIdHi streamId
  lo : ∀ streamId, s.1.mcr.binding = some streamId → s.1.writes ≠ .lo →
    s.1.regs.crfStreamIdLo = streamIdLo streamId
  latest : ∀ streamId, s.1.mcr.binding = some streamId → s.1.mcr.servoConsumed = false →
    s.2.latest = streamId

/-- A step of the firmware that moves neither the registers nor the queue. -/
theorem Own.putMcr {s : Clock × Origins} (h : Own s) {r : Mcr × McrRegs} {o : Origins}
    (hbinding : r.1.binding = s.1.mcr.binding)
    (hregs : r.2.crfStreamIdHi = s.1.regs.crfStreamIdHi ∧
      r.2.crfStreamIdLo = s.1.regs.crfStreamIdLo)
    (hqueued : o.queued = s.2.queued)
    (hlatest : ∀ streamId, r.1.binding = some streamId → r.1.servoConsumed = false →
      o.latest = streamId) : Own (BindBacklog.putMcr s.1 r, o) where
  fifo := by
    rw [hqueued]
    exact h.fifo
  queued streamId hb := by
    rw [hqueued]
    exact h.queued streamId (hbinding ▸ hb)
  hi streamId hb := hregs.1.trans (h.hi streamId (hbinding ▸ hb))
  lo streamId hb := fun hw => hregs.2.trans (h.lo streamId (hbinding ▸ hb) hw)
  latest := hlatest

/-- A cycle of the extractor, with a pop or without. -/
theorem Own.extStep {s : Clock × Origins} (h : Own s) {o : Origins} {pop : Bool}
    (hsub : ∀ q ∈ o.queued, q ∈ s.2.queued)
    (hmap : o.queued.map Prod.snd = if pop then s.1.ext.fifo.tail else s.1.ext.fifo)
    (hlatest : ∀ streamId, s.1.mcr.binding = some streamId → s.1.mcr.servoConsumed = false →
      o.latest = streamId)
    (hbetween : s.1.writes = .lo → queues s.1 → frameStreamId s.1.ext = s.1.mcr.streamId)
    (beat : Beat UInt32) (time : PtpTimestamp) :
    Own ({ s.1 with ext := s.1.ext.step s.1.regs ⟨beat, time, pop⟩ }, queue o s.1) where
  fifo := queue_fifo hmap rfl beat time
  queued streamId hb q hq := by
    rcases mem_queue hq with hold | ⟨hqueues, hnew⟩
    · exact h.queued streamId hb q (hsub q hold)
    · rw [hnew]
      by_cases hw : s.1.writes = .lo
      · rw [hbetween hw hqueues]
        exact (Mcr.binding_eq_some.mp hb).2
      · rw [queues, Bool.and_eq_true] at hqueues
        exact matched_own hqueues.1 (h.hi streamId hb) (h.lo streamId hb hw)
  hi := h.hi
  lo := h.lo
  latest streamId hb hc := by
    rw [queue_latest]
    exact hlatest streamId hb hc

theorem mcrServoUpdate_crfRegs (m : Mcr) (regs : McrRegs) :
    (mcrServoUpdate m regs).2.crfStreamIdHi = regs.crfStreamIdHi ∧
      (mcrServoUpdate m regs).2.crfStreamIdLo = regs.crfStreamIdLo := by
  unfold mcrServoUpdate
  split
  · exact ⟨rfl, rfl⟩
  dsimp only
  split <;> exact ⟨rfl, rfl⟩

theorem mcrWatchdogTick_crfRegs (m : Mcr) (regs : McrRegs) (nowMs : UInt32) :
    (mcrWatchdogTick m regs nowMs).2.crfStreamIdHi = regs.crfStreamIdHi ∧
      (mcrWatchdogTick m regs nowMs).2.crfStreamIdLo = regs.crfStreamIdLo := by
  unfold mcrWatchdogTick watchdogUnbound watchdogStale
  split_ifs <;> exact ⟨rfl, rfl⟩

theorem mcrWatchdogTick_servoConsumed (m : Mcr) (regs : McrRegs) (nowMs : UInt32) :
    (mcrWatchdogTick m regs nowMs).1.servoConsumed = m.servoConsumed := by
  unfold mcrWatchdogTick watchdogUnbound watchdogStale
  split_ifs <;> rfl

theorem Own.drain {s : Clock × Origins} (h : Own s) (hdone : s.1.writes = .done)
    (beat : Beat UInt32) (time : PtpTimestamp) :
    Own (BindBacklog.drain s.1 beat time, note s.2 s.1 (.drain beat time)) := by
  have hfifo := h.fifo
  unfold BindBacklog.drain note
  cases hqueued : s.2.queued with
  | nil =>
    rw [hqueued] at hfifo
    rw [← hfifo]
    exact h
  | cons q rest =>
    obtain ⟨streamId, sample⟩ := q
    rw [hqueued] at hfifo
    rw [← hfifo, List.map_cons]
    dsimp only
    cases hbound : s.1.mcr.bound with
    | false =>
      rw [if_pos (by rfl), if_neg (fun hb => absurd hb.2 Bool.false_ne_true)]
      exact h
    | true =>
      rw [Bool.not_true, if_neg Bool.false_ne_true, if_pos ⟨hdone, rfl⟩]
      have hhead (sid : StreamId) (hb : s.1.mcr.binding = some sid) : streamId = sid :=
        h.queued sid hb _ (hqueued ▸ List.mem_cons_self)
      have hpopped : Own ({ s.1 with ext := s.1.ext.step s.1.regs ⟨beat, time, true⟩ },
          queue { queued := rest, latest := streamId } s.1) := by
        refine h.extStep (fun q hq => ?_) ?_ (fun sid hb _ => hhead sid hb) ?_ beat time
        · exact hqueued ▸ List.mem_cons_of_mem _ hq
        · rw [← hfifo]
          rfl
        · intro hw
          rw [hdone] at hw
          cases hw
      refine hpopped.putMcr (mcrTakeSample_binding ..) (mcrServoUpdate_crfRegs ..) rfl ?_
      intro sid _ hconsumed
      rw [CrfPaths.mcrTakeSample_consumed hbound] at hconsumed
      cases hconsumed

theorem Own.packet {s : Clock × Origins} (h : Own s) (hdone : s.1.writes = .done)
    (frame : Buffer) (len : Nat) (rxTs : PtpTimestamp) :
    Own ({ s.1 with mcr := mcrProcessRx s.1.mcr frame len rxTs },
      note s.2 s.1 (.packet frame len rxTs)) := by
  have hput (o : Origins) (hqueued : o.queued = s.2.queued) := h.putMcr (o := o)
    (r := (mcrProcessRx s.1.mcr frame len rxTs, s.1.regs)) (mcrProcessRx_binding ..) ⟨rfl, rfl⟩
    hqueued
  unfold note
  dsimp only
  split
  · rename_i hcounted
    refine hput _ rfl fun sid hb _ => ?_
    rw [(CrfPaths.processRx_counted hcounted.2).2]
    rw [mcrProcessRx_binding] at hb
    exact (Mcr.binding_eq_some.mp hb).2
  · rename_i hcounted
    have hsame := not_not.mp fun hne => hcounted ⟨hdone, hne⟩
    refine hput _ rfl fun sid hb hconsumed => ?_
    rw [mcrProcessRx_binding] at hb
    exact h.latest sid hb ((CrfPaths.processRx_uncounted hsame).symm.trans hconsumed)

theorem Own.step {s : Clock × Origins} (h : Own s) {e : Event} (hown : OwnBacklog s e) :
    Own (BindBacklog.step s.1 e, note s.2 s.1 e) := by
  cases e with
  | cycle beat time =>
    show Own ({ s.1 with ext := s.1.ext.step s.1.regs ⟨beat, time, false⟩ }, queue s.2 s.1)
    refine h.extStep (fun _ hq => hq) ?_ h.latest hown beat time
    exact h.fifo
  | bindLo =>
    rw [BindBacklog.step]
    split
    · exact { h with lo := fun sid hb _ => congrArg streamIdLo (Mcr.binding_eq_some.mp hb).2 }
    · exact h
  | bindEnable =>
    rw [BindBacklog.step]
    split
    · rename_i hw
      refine { h with lo := fun sid hb _ => h.lo sid hb ?_ }
      rw [hw]
      exact fun hne => nomatch hne
    · exact h
  | bindHi streamId =>
    by_cases hdone : s.1.writes = .done
    · rw [step_done hdone (by rfl)]
      refine ⟨h.fifo, ?_, ?_, fun _ _ hw => absurd rfl hw, fun _ _ hc => nomatch hc⟩
      · rintro sid ⟨⟩ q hq
        exact hown hdone q hq
      · rintro sid ⟨⟩
        rfl
    · rw [step_busy hdone (by rfl)]
      exact h
  | unbind =>
    by_cases hdone : s.1.writes = .done
    · rw [step_done hdone (by rfl)]
      exact ⟨h.fifo, by rintro _ ⟨⟩, by rintro _ ⟨⟩, by rintro _ ⟨⟩, by rintro _ ⟨⟩⟩
    · rw [step_busy hdone (by rfl)]
      exact h
  | packet frame len rxTs =>
    by_cases hdone : s.1.writes = .done
    · rw [step_done hdone (by rfl)]
      exact h.packet hdone frame len rxTs
    · rw [step_busy hdone (by rfl), note, if_neg fun hc => hdone hc.1]
      exact h
  | drain beat time =>
    by_cases hdone : s.1.writes = .done
    · rw [step_done hdone (by rfl)]
      exact h.drain hdone beat time
    · have hnote : note s.2 s.1 (.drain beat time) = s.2 := by
        unfold note
        dsimp only
        split
        · rfl
        · exact if_neg fun hc => hdone hc.1
      rw [step_busy hdone (by rfl), hnote]
      exact h
  | servoUpdate =>
    by_cases hdone : s.1.writes = .done
    · rw [step_done hdone (by rfl)]
      refine h.putMcr (mcrServoUpdate_binding ..) (mcrServoUpdate_crfRegs ..) rfl ?_
      intro sid hb hconsumed
      rw [mcrServoUpdate_binding] at hb
      rw [CrfPaths.mcrServoUpdate_consumed (Mcr.binding_eq_some.mp hb).1] at hconsumed
      cases hconsumed
    · rw [step_busy hdone (by rfl)]
      exact h
  | watchdogTick nowMs =>
    by_cases hdone : s.1.writes = .done
    · rw [step_done hdone (by rfl)]
      refine h.putMcr (mcrWatchdogTick_binding ..) (mcrWatchdogTick_crfRegs ..) rfl ?_
      intro sid hb hconsumed
      rw [mcrWatchdogTick_binding] at hb
      rw [mcrWatchdogTick_servoConsumed] at hconsumed
      exact h.latest sid hb hconsumed
    · rw [step_busy hdone (by rfl)]
      exact h

theorem Own.ownStream {s : Clock × Origins} (h : Own s) (e : Event) : OwnStream s e := by
  have hbinding (hb : s.1.mcr.bound) : s.1.mcr.binding = some s.1.mcr.streamId :=
    Mcr.binding_eq_some.mpr ⟨hb, rfl⟩
  intro streamId hsid
  cases e with
  | drain beat time =>
    rw [consumed] at hsid
    split at hsid
    · rename_i hc
      obtain ⟨q, hq, rfl⟩ := Option.map_eq_some_iff.mp hsid
      rw [hbinding hc.2, h.queued _ (hbinding hc.2) q (List.mem_of_mem_head? hq)]
    · cases hsid
  | servoUpdate =>
    rw [consumed] at hsid
    split at hsid
    · rename_i hc
      cases hsid
      rw [hbinding hc.2.1, h.latest _ (hbinding hc.2.1) hc.2.2]
    · cases hsid
  | _ => cases hsid

theorem ownStream_of_ownBacklog (sysClkFreq fs : UInt32) (events : List Event)
    (h : (clocked sysClkFreq fs).Steps OwnBacklog events) :
    (clocked sysClkFreq fs).Steps OwnStream events := by
  refine h.of_invariant Own ?_ (fun _ _ hown he => hown.step he) (fun _ e hown _ => hown.ownStream e)
  exact ⟨rfl, by rintro _ ⟨⟩, by rintro _ ⟨⟩, by rintro _ ⟨⟩, by rintro _ ⟨⟩⟩

-- ---------------------------------------------------------------------------
-- A backlog
-- ---------------------------------------------------------------------------

def bind (streamId : StreamId) : List Event := [.bindHi streamId, .bindLo, .bindEnable]

/-- The cycles of a frame, and the one in which its pair is queued. -/
def arrive (r : CrfParsers.Received) : List Event :=
  (r.cycles ++ [r.final, r.next]).map fun c => .cycle c.beat c.time

/-- Undisturbed, the three writes are those of `mcr_bind`. -/
theorem bind_eq (sysClkFreq fs : UInt32) (streamId : StreamId) (s : Clock × Origins)
    (h : s.1.writes = .done) :
    (clocked sysClkFreq fs).runFrom s (bind streamId) =
      (putMcr s.1 (mcrBind s.1.mcr s.1.regs streamId), s.2) := by
  obtain ⟨⟨mcr, regs, ext, writes⟩, o⟩ := s
  cases h
  rfl

def idle : Event := .drain ⟨false, false, 0⟩ {}

theorem ownStream_bound : (clocked configClockFrequency 48000).Steps OwnStream
    (bind CrfParsers.crfStream ++ arrive CrfParsers.received ++ [idle]) :=
  ownStream_of_ownBacklog _ _ _ (by decide +kernel)

/-- A packet of one stream is queued, and the stream is changed. -/
theorem backlog_consumed : ¬ (clocked configClockFrequency 48000).Steps OwnStream
    (bind CrfParsers.crfStream ++ arrive CrfParsers.received ++
      [.unbind] ++ bind (zeroBytes 8) ++ [idle]) := by
  decide +kernel

end AvbAes3.BindBacklog
