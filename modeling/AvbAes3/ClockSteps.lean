import AvbAes3.ClockWrites
import AvbAes3.ConnectAnswers
import AvbAes3.Stamps
import AvbAes3.TimeBase

/-!
# Timeouts across clock steps

The stamps are readings of the PTP clock, which a coarse step of the gPTP
servo sets to another time. Here the real time runs beside the main loop, and
every stamp has the moment it was taken at. A step forward makes a stamp look
as old as the step is long: the guards against a clock that has gone back
stop only ages over 2000000000 ms, and the media clock's watchdog has none.
-/

namespace AvbAes3.ClockSteps

open ConnectAnswers (frame_pdu ethHdr_length acmpdu_bytes slowCommand)

-- ---------------------------------------------------------------------------
-- Time
-- ---------------------------------------------------------------------------

/-- The real milliseconds since boot, and what the uptime has beside them. -/
structure Moment where
  realMs : Nat
  offset : UInt32
  deriving DecidableEq

def Moment.uptime (m : Moment) : UInt32 := m.realMs.toUInt32 + m.offset

/-- What the uptime makes of the time since. -/
def Moment.lapse (m now : Moment) : UInt32 := now.uptime - m.uptime

def Moment.elapsed (m now : Moment) : Nat := now.realMs - m.realMs

/-- The uptime says that the timeout has passed, and the guard that it has
not gone back. -/
def Moment.looksAged (m now : Moment) (timeoutMs : UInt32) : Prop :=
  timeoutMs ≤ m.lapse now ∧ m.lapse now ≤ 2000000000

/-- The uptime the step reads. -/
def readAt (now : UInt32) : LoopStep → LoopStep
  | .dispatchRx slot len r =>
    .dispatchRx slot len { r with tsu := { r.tsu with uptimeMs := now } }
  | .gptpPoll r => .gptpPoll { r with tsu := { r.tsu with uptimeMs := now } }
  | .srpPoll r => .srpPoll { r with tsu := { r.tsu with uptimeMs := now } }
  | .avdeccPoll r => .avdeccPoll { r with tsu := { r.tsu with uptimeMs := now } }
  | .mcrWatchdogTick r => .mcrWatchdogTick { r with tsu := { r.tsu with uptimeMs := now } }
  | .crfFlowWatchdog r => .crfFlowWatchdog { r with tsu := { r.tsu with uptimeMs := now } }
  | step => step

/-- A step of the main loop, the real time since the one before, and the
offset that a coarse step in it leaves. -/
structure TimedStep where
  step : LoopStep
  waitedMs : Nat
  offset : UInt32

def stepsTime (fw : Firmware) : Bool := TimeBase.steps fw.tsuWrites

/-- The step takes in a Follow_Up that makes the servo set the time. -/
def setsTime (fw : Firmware) : LoopStep → Bool
  | .dispatchRx slot len r =>
    let rx := rxFrame slot len fw.scratch
    rxHandler rx.frame rx.len == some .gptp &&
      (acceptedFollowUp fw.gptp (.rx rx.frame rx.len r.tsu)).any fun followUp =>
        decide (followUpOffset fw.gptp followUp.1).stepsTime
  | _ => false

-- ---------------------------------------------------------------------------
-- What happens when
-- ---------------------------------------------------------------------------

/-- The streams advertised in the frame a step takes in. -/
def advertisedIn (fw : Firmware) : LoopStep → List StreamId
  | .dispatchRx slot len _ =>
    let rx := rxFrame slot len fw.scratch
    if rxHandler rx.frame rx.len = some .msrp ∧ isMsrpPdu rx.frame rx.len then
      ((msrpVectors rx.frame rx.len).filter isTalkerAdvertise).map fun v => v.value.bytes 8
    else []
  | _ => []

/-- A CRF sample of the bound stream is taken in. -/
def takesSample (fw : Firmware) : LoopStep → Bool
  | .dispatchRx slot len r =>
    let rx := rxFrame slot len fw.scratch
    rxHandler rx.frame rx.len == some .crf &&
      (mcrProcessRx fw.mcr rx.frame rx.len r.tsu.rxTs).rxCount != fw.mcr.rxCount
  | .mcrPumpHw fifo => fw.mcr.bound && !fifo.isEmpty
  | _ => false

/-- The media clock's watchdog sees the count move. -/
def seesCount (fw : Firmware) : LoopStep → Bool
  | .mcrWatchdogTick _ => fw.mcr.bound && fw.mcr.rxCount != fw.mcr.lastRxCountSnapshot
  | _ => false

/-- The flow watchdog starts to measure anew. -/
def restartsFlow (fw : Firmware) : LoopStep → Bool
  | .crfFlowWatchdog r =>
    (fw.avdecc.listeners listenerUidCrf).connected &&
      (!fw.avdecc.crfWdInit || fw.mcr.rxCount != fw.avdecc.crfWdRxSnapshot ||
        decide (r.nowMs - fw.avdecc.crfWdFlowMs > 2000000000))
  | _ => false

/-- When each stream was advertised last, each resolve started, and the last
CRF sample, count and flow seen. -/
structure Moments where
  advertised : StreamId → Moment
  started : ListenerUid → Moment
  sampled : Moment
  checked : Moment
  flowed : Moment

def Moments.note (g : Moments) (fw : Firmware) (now : Moment) (step : LoopStep) : Moments where
  advertised sid := if sid ∈ advertisedIn fw step then now else g.advertised sid
  started u := if startedBy fw step = some u then now else g.started u
  sampled := if takesSample fw step then now else g.sampled
  checked := if seesCount fw step then now else g.checked
  flowed := if restartsFlow fw step then now else g.flowed

structure Clocked where
  fw : Firmware
  now : Moment
  moments : Moments

namespace Clocked

/-- The moment of the next step's readings. A coarse step comes before the
one reading of the uptime there is in its call. -/
def next (s : Clocked) (i : TimedStep) : Moment where
  realMs := s.now.realMs + i.waitedMs
  offset := if setsTime s.fw i.step then i.offset else s.now.offset

def step (s : Clocked) (i : TimedStep) : Clocked :=
  let step := readAt (s.next i).uptime i.step
  { fw := mainLoopStep s.fw step
    now := s.next i
    moments := s.moments.note s.fw (s.next i) step }

end Clocked

/-- From boot, with any offset. -/
def clocked (offset : UInt32) : Machine Clocked TimedStep where
  init := ⟨boot, ⟨0, offset⟩, ⟨fun _ => ⟨0, offset⟩, fun _ => ⟨0, offset⟩, ⟨0, offset⟩,
    ⟨0, offset⟩, ⟨0, offset⟩⟩⟩
  step := Clocked.step

-- ---------------------------------------------------------------------------
-- Timeouts
-- ---------------------------------------------------------------------------

/-- An ACMP DISCONNECT_TX_COMMAND. -/
def isDisconnectTx (f : WireFrame) : Bool :=
  isAcmp (Buffer.ofList f.bytes) f.bytes.length &&
    (Buffer.ofList f.bytes 15 &&& 0x0F) == acmpMsgDisconnectTxCommand

/-- Whatever times out in a step has had its time. -/
structure NoneEarly (s : Clocked) (i : TimedStep) : Prop where
  talkers : ∀ r k, i.step = .srpPoll r → (s.fw.srp.remoteTalkers k).valid →
    ((s.step i).fw.srp.remoteTalkers k).valid = false →
    30000 ≤ (s.moments.advertised (s.fw.srp.remoteTalkers k).streamId).elapsed (s.next i)
  resolves : ∀ r u, i.step = .avdeccPoll r → (s.fw.avdecc.resolves u).active →
    ((s.step i).fw.avdecc.resolves u).active = false →
    1500 ≤ (s.moments.started u).elapsed (s.next i)
  snap : ∀ r, i.step = .mcrWatchdogTick r → s.fw.mcr.watchdogResetActive = false →
    (s.step i).fw.mcr.watchdogResetActive → 1000 < s.moments.sampled.elapsed (s.next i)
  disconnectTx : ∀ r, i.step = .crfFlowWatchdog r → (∃ f ∈ (s.step i).fw.sent, isDisconnectTx f) →
    3000 ≤ s.moments.sampled.elapsed (s.next i)

/-- The uptime has not been moved such that a stamp looks old enough before
its time, and the CRF watchdogs have not missed a sample for as long. -/
structure UptimeFair (s : Clocked) (i : TimedStep) : Prop where
  talkers : ∀ r k, i.step = .srpPoll r → (s.fw.srp.remoteTalkers k).valid →
    let heard := s.moments.advertised (s.fw.srp.remoteTalkers k).streamId
    heard.elapsed (s.next i) < 30000 → ¬ heard.looksAged (s.next i) 30000
  resolves : ∀ r u, i.step = .avdeccPoll r → (s.fw.avdecc.resolves u).active →
    (s.moments.started u).elapsed (s.next i) < 1500 →
    ¬ (s.moments.started u).looksAged (s.next i) 1500
  snap : ∀ r, i.step = .mcrWatchdogTick r → s.fw.mcr.watchdogResetActive = false →
    s.fw.mcr.rxCount = s.fw.mcr.lastRxCountSnapshot →
    s.moments.sampled.elapsed (s.next i) ≤ 1000 → s.moments.checked.lapse (s.next i) ≤ 1000
  disconnectTx : ∀ r, i.step = .crfFlowWatchdog r →
    (s.fw.avdecc.listeners listenerUidCrf).connected → s.fw.avdecc.crfWdInit →
    s.fw.avdecc.crfWdRecovery = false → s.fw.mcr.rxCount = s.fw.avdecc.crfWdRxSnapshot →
    s.moments.sampled.elapsed (s.next i) < 3000 → ¬ s.moments.flowed.looksAged (s.next i) 3000

-- ---------------------------------------------------------------------------
-- Who sets the time
-- ---------------------------------------------------------------------------

theorem putGptp_stepsTime (fw : Firmware) (r : Gptp × List GptpEffect) :
    stepsTime (fw.putGptp r) = (stepsTime fw || TimeBase.steps r.2) := by
  obtain ⟨g, effects⟩ := r
  suffices ∀ fw : Firmware, stepsTime (effects.foldl gptpEffect fw) =
      (stepsTime fw || TimeBase.steps effects) from this { fw with gptp := g }
  induction effects with
  | nil => exact fun _ => (Bool.or_false _).symm
  | cons effect rest ih =>
    intro fw
    have heffect : stepsTime (gptpEffect fw effect) = (stepsTime fw || TimeBase.steps [effect]) := by
      cases effect with
      | send frame => exact (Bool.or_false _).symm
      | _ => exact List.any_append
    rw [List.foldl_cons, ih, heffect, Bool.or_assoc]
    exact congrArg _ List.any_append.symm

theorem gptpProcessRx_steps (g : Gptp) (frame : Buffer) (len : Nat) (tsu : Tsu) :
    TimeBase.steps (gptpProcessRx g frame len tsu).2 =
      (acceptedFollowUp g (.rx frame len tsu)).any fun followUp =>
        decide (followUpOffset g followUp.1).stepsTime := by
  obtain ⟨rx, hrx⟩ := gptpProcessRx_eq g frame len tsu
  rw [hrx, acceptedFollowUp]
  by_cases hmessage : ptpMessage frame len = some .followUp
  · have hprocess : processPtp { g with rx := rx } (frame.offset ethHeaderLen)
        (len - ethHeaderLen) tsu (some .followUp) =
        if followUpMatches g (frame.offset ethHeaderLen) then
          gptpServoUpdate { followUpOffset g (frame.offset ethHeaderLen) with rx := rx }
            tsu.uptimeMs
        else ({ g with rx := rx }, []) := rfl
    rw [hmessage, hprocess]
    cases followUpMatches g (frame.offset ethHeaderLen) with
    | false => rfl
    | true =>
      rw [if_pos rfl, if_pos ⟨rfl, rfl⟩, Option.any_some, Bool.eq_iff_iff,
        TimeBase.steps_gptpServoUpdate, decide_eq_true_iff]
      rfl
  · rw [if_neg fun h => hmessage h.1]
    cases hother : ptpMessage frame len with
    | none => rfl
    | some message =>
      cases message with
      | followUp => exact absurd hother hmessage
      | _ => rfl

theorem gptpPoll_steps (g : Gptp) (tsu : Tsu) : TimeBase.steps (gptpPoll g tsu).2 = false := by
  rw [gptpPoll]
  dsimp only
  split <;> rfl

theorem tsuWrites_invariant (writes : List GptpEffect) :
    ClockInvariant fun fw => fw.tsuWrites = writes where
  same h hclocks := (congrArg Prod.fst hclocks).trans h
  bind _ h := h
  unbind h := h

/-- A step sets the time if it takes in such a Follow_Up, whatever uptime is
read in it, and no other does. -/
theorem stepsTime_mainLoopStep (fw : Firmware) (step : LoopStep) :
    stepsTime (mainLoopStep fw step) = setsTime fw step := by
  have hnone {fw : Firmware} (h : fw.tsuWrites = []) : stepsTime fw = false := by
    rw [stepsTime, h]
    rfl
  by_cases hleaves : step.leavesClocks
  · have hclocks := loopStep_clocks { fw with sent := [], tsuWrites := [] } hleaves
    rw [mainLoopStep, hnone (congrArg Prod.fst hclocks)]
    cases step with
    | dispatchRx slot len r => cases hleaves
    | _ => rfl
  cases step with
  | dispatchRx slot len r =>
    rw [mainLoopStep, loopStep, dispatchRx, setsTime]
    dsimp only
    cases hhandler : rxHandler (rxFrame slot len fw.scratch).frame
        (rxFrame slot len fw.scratch).len with
    | none => rfl
    | some handler =>
      by_cases hgptp : handler = .gptp
      · subst hgptp
        exact (putGptp_stepsTime ..).trans (congrArg _ (gptpProcessRx_steps ..))
      · have hother : (some handler == some RxHandler.gptp) = false :=
          beq_eq_false_iff_ne.mpr fun h => hgptp (Option.some.inj h)
        rw [hother, Bool.false_and]
        refine hnone ?_
        by_cases hcrf : handler = .crf
        · rw [hcrf]
          rfl
        · exact (tsuWrites_invariant []).rxHandle rfl _ _ r hgptp hcrf
  | gptpPoll r =>
    rw [mainLoopStep, loopStep, putGptp_stepsTime, gptpPoll_steps]
    rfl
  | mcrPumpHw fifo => rfl
  | mcrServoUpdate => rfl
  | mcrWatchdogTick r => rfl
  | _ => exact absurd rfl hleaves

-- ---------------------------------------------------------------------------
-- Every stamp is the uptime of its moment
-- ---------------------------------------------------------------------------

structure Stamped (t : Stamps) (g : Moments) : Prop where
  unique : ∀ j k, (t.remoteTalkers j).valid → (t.remoteTalkers k).valid →
    (t.remoteTalkers j).streamId = (t.remoteTalkers k).streamId → j = k
  advertised : ∀ k, (t.remoteTalkers k).valid →
    (t.remoteTalkers k).lastSeenMs = (g.advertised (t.remoteTalkers k).streamId).uptime
  started : ∀ u, (t.resolves u).active → (t.resolves u).startMs = (g.started u).uptime
  checked : t.crfCheck.2.1 = false → t.crfCheck.1 ∧ t.crfCheck.2.2 = g.checked.uptime
  flowed : t.crfFlow.1 → t.crfFlow.2 = g.flowed.uptime

theorem Stamped.kept {t t' : Stamps} {g : Moments} (h : Stamped t g) (hkept : t.Kept t') :
    Stamped t' g where
  unique j k hj hk hid := by
    rcases hkept.remoteTalkers j with hj' | hj'
    · rcases hkept.remoteTalkers k with hk' | hk'
      · rw [hj'] at hj hid
        rw [hk'] at hk hid
        exact h.unique j k hj hk hid
      · exact absurd hk' (ne_false_of_eq_true hk)
    · exact absurd hj' (ne_false_of_eq_true hj)
  advertised k hk := by
    rcases hkept.remoteTalkers k with hk' | hk'
    · rw [hk'] at hk ⊢
      exact h.advertised k hk
    · exact absurd hk' (ne_false_of_eq_true hk)
  started u hu := by
    rcases hkept.resolves u with hu' | hu'
    · rw [hu'] at hu ⊢
      exact h.started u hu
    · exact absurd hu' (ne_false_of_eq_true hu)
  checked hreset := by
    rcases hkept.crfCheck with hreset' | ⟨heq, hbound⟩
    · exact absurd hreset (ne_false_of_eq_true hreset')
    · rw [heq] at hreset ⊢
      obtain ⟨hb, hms⟩ := h.checked hreset
      exact ⟨hbound hb, hms⟩
  flowed hinit := by
    rcases hkept.crfFlow with heq | hidle
    · rw [heq] at hinit ⊢
      exact h.flowed hinit
    · exact absurd hidle (ne_false_of_eq_true hinit)

/-- The moment of the last sample is not read. -/
theorem Stamped.congr {t : Stamps} {g g' : Moments} (h : Stamped t g)
    (hadvertised : g'.advertised = g.advertised) (hstarted : g'.started = g.started)
    (hchecked : g'.checked = g.checked) (hflowed : g'.flowed = g.flowed) : Stamped t g' where
  unique := h.unique
  advertised := by
    rw [hadvertised]
    exact h.advertised
  started := by
    rw [hstarted]
    exact h.started
  checked := by
    rw [hchecked]
    exact h.checked
  flowed := by
    rw [hflowed]
    exact h.flowed

/-- If the stream has an entry, that is the one written. -/
theorem upsertSlot_found {talkers : RemoteTalkers} {streamId : StreamId}
    {slots : List (Fin srpMaxRemoteTalkers)} {scan : SlotScan}
    (h : ∃ j ∈ slots, (talkers j).valid ∧ (talkers j).streamId = streamId) :
    (talkers (upsertSlot talkers streamId slots scan)).valid ∧
      (talkers (upsertSlot talkers streamId slots scan)).streamId = streamId := by
  induction slots generalizing scan with
  | nil =>
    obtain ⟨j, hj, -⟩ := h
    exact absurd hj List.not_mem_nil
  | cons i rest ih =>
    obtain ⟨j, hj, hvalid, hid⟩ := h
    rw [upsertSlot]
    by_cases hi : (talkers i).valid ∧ (talkers i).streamId = streamId
    · rw [if_pos hi.1, if_pos hi.2]
      exact hi
    · have hrest : ∃ j ∈ rest, (talkers j).valid ∧ (talkers j).streamId = streamId := by
        rcases List.mem_cons.mp hj with rfl | hj
        · exact absurd ⟨hvalid, hid⟩ hi
        · exact ⟨j, hj, hvalid, hid⟩
      split
      · rename_i hvalid'
        rw [if_neg fun hid' => hi ⟨hvalid', hid'⟩]
        split <;> exact ih hrest
      · split <;> exact ih hrest

def Moments.hear (g : Moments) (streamIds : List StreamId) (now : Moment) : Moments :=
  { g with advertised := fun sid => if sid ∈ streamIds then now else g.advertised sid }

@[simp] theorem Moments.hear_nil (g : Moments) (now : Moment) : g.hear [] now = g := by
  simp [Moments.hear]

theorem Moments.hear_cons (g : Moments) (streamId : StreamId) (rest : List StreamId)
    (now : Moment) : g.hear (streamId :: rest) now = (g.hear [streamId] now).hear rest now := by
  simp only [Moments.hear, Moments.mk.injEq, and_true]
  funext sid
  by_cases hrest : sid ∈ rest <;> simp [hrest]

theorem Stamped.upsert {t : Stamps} {g : Moments} (h : Stamped t g) {s : Srp}
    (hs : s.remoteTalkers = t.remoteTalkers) (value : Buffer) (now : Moment) :
    Stamped { t with remoteTalkers := (upsertTalker s value now.uptime).remoteTalkers }
      (g.hear [value.bytes 8] now) := by
  rw [upsertTalker]
  dsimp only
  rw [hs]
  have hfound : ∀ j, (t.remoteTalkers j).valid → (t.remoteTalkers j).streamId = value.bytes 8 →
      upsertSlot t.remoteTalkers (value.bytes 8) (List.finRange srpMaxRemoteTalkers)
        { oldest := ⟨0, by decide⟩ } = j := by
    intro j hvalid hid
    obtain ⟨hvalid', hid'⟩ := @upsertSlot_found _ _ _ { oldest := ⟨0, by decide⟩ }
      ⟨j, List.mem_finRange j, hvalid, hid⟩
    exact h.unique _ _ hvalid' hvalid (hid'.trans hid.symm)
  generalize upsertSlot t.remoteTalkers (value.bytes 8) (List.finRange srpMaxRemoteTalkers)
    { oldest := ⟨0, by decide⟩ } = slot at hfound
  have hother {k} (hk : k ≠ slot) (hvalid : (t.remoteTalkers k).valid) :
      (t.remoteTalkers k).streamId ≠ value.bytes 8 :=
    fun hid => hk (hfound k hvalid hid).symm
  refine ⟨?_, ?_, h.started, h.checked, h.flowed⟩
  · intro j k hj hk hid
    dsimp only at hj hk hid
    by_cases hjslot : j = slot
    · by_cases hkslot : k = slot
      · rw [hjslot, hkslot]
      · rw [Function.update_of_ne hkslot] at hk hid
        rw [hjslot, Function.update_self] at hid
        exact absurd hid.symm (hother hkslot hk)
    · rw [Function.update_of_ne hjslot] at hj hid
      by_cases hkslot : k = slot
      · rw [hkslot, Function.update_self] at hid
        exact absurd hid (hother hjslot hj)
      · rw [Function.update_of_ne hkslot] at hk hid
        exact h.unique j k hj hk hid
  · intro k hk
    dsimp only at hk ⊢
    by_cases hkslot : k = slot
    · rw [hkslot, Function.update_self, Moments.hear]
      dsimp only
      have hid : (remoteTalkerOf value now.uptime).streamId = value.bytes 8 := rfl
      rw [hid, if_pos (List.mem_singleton.mpr rfl)]
      rfl
    · rw [Function.update_of_ne hkslot] at hk ⊢
      rw [Moments.hear]
      dsimp only
      rw [if_neg fun hmem => hother hkslot hk (List.mem_singleton.mp hmem)]
      exact h.advertised k hk

theorem Stamped.vectors {fw : Firmware} {g : Moments} (h : Stamped fw.stamps g)
    (vectors : List MsrpVector) (now : Moment) :
    Stamped (vectors.foldl (srpVector now.uptime) fw).stamps
      (g.hear ((vectors.filter isTalkerAdvertise).map fun v => v.value.bytes 8) now) := by
  induction vectors generalizing fw g with
  | nil =>
    rw [List.filter_nil, List.map_nil, Moments.hear_nil]
    exact h
  | cons v rest ih =>
    rw [List.foldl_cons]
    have hkept := srpVector_kept now.uptime fw v
    by_cases hv : isTalkerAdvertise v
    · rw [if_pos hv] at hkept
      rw [List.filter_cons_of_pos hv, List.map_cons, Moments.hear_cons]
      exact ih ((h.upsert rfl v.value now).kept hkept)
    · rw [if_neg hv] at hkept
      rw [List.filter_cons_of_neg hv]
      exact ih (h.kept hkept)

-- ---------------------------------------------------------------------------
-- Every step keeps this
-- ---------------------------------------------------------------------------

theorem note_unheard (g : Moments) {fw : Firmware} (now : Moment) {step : LoopStep}
    (h : advertisedIn fw step = []) : (g.note fw now step).advertised = g.advertised := by
  simp only [Moments.note, h, List.not_mem_nil, if_false]

theorem note_quiet (g : Moments) (fw : Firmware) (now : Moment) {step : LoopStep}
    (h : keepsStamps step) :
    (g.note fw now step).advertised = g.advertised ∧ (g.note fw now step).started = g.started ∧
      (g.note fw now step).checked = g.checked ∧ (g.note fw now step).flowed = g.flowed := by
  cases step with
  | dispatchRx slot len r => cases h
  | mcrWatchdogTick r => cases h
  | crfFlowWatchdog r => cases h
  | _ => exact ⟨note_unheard g now rfl, rfl, rfl, rfl⟩

theorem Stamped.quiet {fw : Firmware} {g : Moments} (h : Stamped fw.stamps g) (now : Moment)
    {step : LoopStep} (hquiet : keepsStamps step) :
    Stamped (mainLoopStep fw step).stamps (g.note fw now step) := by
  obtain ⟨hadvertised, hstarted, hchecked, hflowed⟩ := note_quiet g fw now hquiet
  exact (h.kept (step_kept fw hquiet)).congr hadvertised hstarted hchecked hflowed

theorem Stamped.start {t : Stamps} {g : Moments} (h : Stamped t g) (u : ListenerUid)
    {resolve : AvdeccResolve} (now : Moment) (hstart : resolve.startMs = now.uptime) :
    Stamped { t with resolves := Function.update t.resolves u resolve }
      { g with started := fun u' => if some u = some u' then now else g.started u' } := by
  refine ⟨h.unique, h.advertised, ?_, h.checked, h.flowed⟩
  intro u' hu
  dsimp only at hu ⊢
  by_cases hne : u' = u
  · rw [hne, Function.update_self, if_pos rfl]
    exact hstart
  · rw [Function.update_of_ne hne] at hu ⊢
    rw [if_neg fun heq => hne (Option.some.inj heq).symm]
    exact h.started u' hu

theorem Stamped.dispatch {fw : Firmware} {g : Moments} (h : Stamped fw.stamps g) (now : Moment)
    {slot : Buffer} {len : Nat} {r : Readings} (hr : r.nowMs = now.uptime) :
    Stamped (mainLoopStep fw (.dispatchRx slot len r)).stamps
      (g.note fw now (.dispatchRx slot len r)) := by
  by_cases hmsrp : rxHandler (rxFrame slot len fw.scratch).frame (rxFrame slot len fw.scratch).len =
      some .msrp
  · have hstart : startedBy fw (.dispatchRx slot len r) = none := by
      rw [startedBy, acmpCall, if_neg fun hacmp => absurd (hmsrp.symm.trans hacmp.1) (by decide)]
      rfl
    rw [mainLoopStep, loopStep, dispatchRx]
    dsimp only
    rw [hmsrp]
    dsimp only
    rw [rxHandle, srpProcessRx, hr]
    split
    · rename_i hpdu
      refine (@Stamped.vectors { fw with
        sent := []
        tsuWrites := []
        scratch := (rxFrame slot len fw.scratch).scratch
        srp := { fw.srp with rxPduCount := fw.srp.rxPduCount + 1 } } g h _ now).congr
          ?_ ?_ rfl rfl
      · simp only [Moments.note, Moments.hear, advertisedIn, hmsrp, hpdu, and_self, if_true]
      · simp only [Moments.note, Moments.hear, hstart, reduceCtorEq, if_false]
    · rename_i hpdu
      refine h.congr ?_ ?_ rfl rfl
      · refine note_unheard g now ?_
        rw [advertisedIn]
        exact if_neg fun hmem => hpdu hmem.2
      · simp only [Moments.note, hstart, reduceCtorEq, if_false]
  · have hheard : (g.note fw now (.dispatchRx slot len r)).advertised = g.advertised := by
      refine note_unheard g now ?_
      simp only [advertisedIn, hmsrp, false_and, if_false]
    cases hstart : startedBy fw (.dispatchRx slot len r) with
    | none =>
      refine (h.kept (dispatchRx_kept hmsrp hstart)).congr hheard ?_ rfl rfl
      simp only [Moments.note, hstart, reduceCtorEq, if_false]
    | some u =>
      obtain ⟨resolve, hms, hstamps⟩ := dispatchRx_started hstart
      rw [hstamps]
      refine (h.start u now (hms.trans hr)).congr hheard ?_ rfl rfl
      simp only [Moments.note, hstart]

theorem mcrWatchdogTick_crfCheck (m : Mcr) (regs : McrRegs) (nowMs : UInt32) :
    (mcrWatchdogTick m regs nowMs).1.crfCheck =
      if m.bound = false then (false, true, m.lastRxCheckMs)
      else if m.rxCount ≠ m.lastRxCountSnapshot then (true, false, nowMs)
      else if nowMs - m.lastRxCheckMs > mcrStaleThresholdMs then (true, true, m.lastRxCheckMs)
      else m.crfCheck := by
  rw [mcrWatchdogTick]
  cases hbound : m.bound with
  | false =>
    rw [if_pos (show (!false) = true from rfl), if_pos (Eq.refl false), watchdogUnbound]
    split
    · rename_i hreset
      rw [Mcr.crfCheck, hbound, hreset]
    · simp only [Mcr.crfCheck, hbound]
  | true =>
    rw [if_neg (show ¬(!true) = true by decide), if_neg (show ¬true = false by decide)]
    split
    · simp only [Mcr.crfCheck]
    split
    · rw [watchdogStale]
      split
      · rename_i hreset
        rw [Mcr.crfCheck, hbound, hreset]
      · simp only [Mcr.crfCheck, hbound]
    · rfl

theorem Stamped.tick {fw : Firmware} {g : Moments} (h : Stamped fw.stamps g) (now : Moment)
    {r : Readings} (hr : r.nowMs = now.uptime) :
    Stamped (mainLoopStep fw (.mcrWatchdogTick r)).stamps (g.note fw now (.mcrWatchdogTick r)) := by
  have hstamps : (mainLoopStep fw (.mcrWatchdogTick r)).stamps =
      { fw.stamps with crfCheck := (mcrWatchdogTick fw.mcr fw.mcrRegs r.nowMs).1.crfCheck } := rfl
  rw [hstamps, mcrWatchdogTick_crfCheck, hr]
  refine ⟨h.unique, ?_, h.started, ?_, h.flowed⟩
  · rw [note_unheard g now rfl]
    exact h.advertised
  · intro hreset
    dsimp only at hreset ⊢
    rw [Moments.note, seesCount]
    dsimp only
    split at hreset
    · cases hreset
    · rename_i hbound
      have hbound := Bool.eq_true_of_not_eq_false hbound
      split at hreset
      · rename_i hmoved
        rw [if_neg (ne_false_of_eq_true hbound), if_pos hmoved, hbound, Bool.true_and,
          if_pos (bne_iff_ne.mpr hmoved)]
        exact ⟨rfl, rfl⟩
      · rename_i hstill
        split at hreset
        · cases hreset
        · rename_i hfresh
          rw [if_neg (ne_false_of_eq_true hbound), if_neg hstill, if_neg hfresh,
            if_neg fun hsees => hstill (bne_iff_ne.mp (Bool.and_eq_true_iff.mp hsees).2)]
          exact h.checked hreset

theorem crfRebootstrap_stamps (s : Avdecc) (luid : ListenerUid) (nowMs : UInt32) :
    (crfRebootstrap s luid nowMs).1.stamps = s.stamps := by
  unfold crfRebootstrap
  dsimp only
  split
  · rfl
  split <;> rfl

theorem crfFlowWatchdog_stamps (s : Avdecc) (luid : ListenerUid) (rxCount nowMs : UInt32) :
    (avdeccCrfFlowWatchdog s luid rxCount nowMs).1.stamps =
      (s.resolves,
        if (s.listeners luid).connected = false then (false, s.crfWdFlowMs)
        else if (s.listeners luid).connected && (!s.crfWdInit || rxCount != s.crfWdRxSnapshot ||
            decide (nowMs - s.crfWdFlowMs > 2000000000)) then (true, nowMs)
        else (s.crfWdInit, s.crfWdFlowMs)) := by
  rw [avdeccCrfFlowWatchdog]
  cases (s.listeners luid).connected with
  | false => rfl
  | true =>
    cases hinit : s.crfWdInit with
    | false => rfl
    | true =>
      by_cases hmoved : rxCount = s.crfWdRxSnapshot
      · by_cases hback : nowMs - s.crfWdFlowMs > 2000000000
        · simp [hmoved, hback, Avdecc.stamps]
        · have hkept := crfRebootstrap_stamps s luid nowMs
          simp only [Avdecc.stamps, hinit] at hkept
          by_cases hstall : nowMs - s.crfWdFlowMs < crfWdStallMs
          · simp [hmoved, hback, hstall, Avdecc.stamps, hinit]
          · simpa [hmoved, hback, hstall, Avdecc.stamps] using hkept
      · simp [hmoved, Avdecc.stamps]

theorem Stamped.flow {fw : Firmware} {g : Moments} (h : Stamped fw.stamps g) (now : Moment)
    {r : Readings} (hr : r.nowMs = now.uptime) :
    Stamped (mainLoopStep fw (.crfFlowWatchdog r)).stamps (g.note fw now (.crfFlowWatchdog r)) := by
  have hstamps : (mainLoopStep fw (.crfFlowWatchdog r)).stamps = { fw.stamps with
      resolves := fw.avdecc.resolves
      crfFlow :=
        if (fw.avdecc.listeners listenerUidCrf).connected = false then
          (false, fw.avdecc.crfWdFlowMs)
        else if restartsFlow fw (.crfFlowWatchdog r) then (true, r.nowMs)
        else (fw.avdecc.crfWdInit, fw.avdecc.crfWdFlowMs) } := by
    rw [mainLoopStep, loopStep, Firmware.putAvdecc, sendAll_stamps]
    exact congrArg (fun x : (ListenerUid → AvdeccResolve) × Bool × UInt32 =>
      { fw.stamps with resolves := x.1, crfFlow := x.2 })
      (crfFlowWatchdog_stamps fw.avdecc listenerUidCrf fw.mcr.rxCount r.nowMs)
  rw [hstamps]
  refine ⟨h.unique, ?_, h.started, h.checked, ?_⟩
  · rw [note_unheard g now rfl]
    exact h.advertised
  · intro hinit
    dsimp only at hinit ⊢
    rw [Moments.note]
    dsimp only
    split at hinit
    · cases hinit
    · rename_i hconnected
      rw [if_neg hconnected]
      split
      · exact hr
      · rename_i hkept
        rw [if_neg hkept] at hinit
        exact h.flowed hinit

theorem stamped_step {s : Clocked} (h : Stamped s.fw.stamps s.moments) (i : TimedStep) :
    Stamped (s.step i).fw.stamps (s.step i).moments := by
  obtain ⟨step, waitedMs, offset⟩ := i
  cases step with
  | dispatchRx slot len r => exact h.dispatch _ rfl
  | mcrWatchdogTick r => exact h.tick _ rfl
  | crfFlowWatchdog r => exact h.flow _ rfl
  | _ => exact h.quiet _ rfl

theorem stamped_boot (g : Moments) : Stamped boot.stamps g where
  unique _ _ h := absurd h Bool.false_ne_true
  advertised _ h := absurd h Bool.false_ne_true
  started _ h := absurd h Bool.false_ne_true
  checked h := absurd h.symm Bool.false_ne_true
  flowed h := absurd h Bool.false_ne_true

-- ---------------------------------------------------------------------------
-- What times out
-- ---------------------------------------------------------------------------

theorem aged_iff {m now : Moment} {timeoutMs : UInt32} (h : 0 < timeoutMs) :
    elapsedMs now.uptime m.uptime 0 ≥ timeoutMs ↔ m.looksAged now timeoutMs := by
  rw [elapsedMs, Moment.looksAged, Moment.lapse]
  split
  · rename_i hback
    exact ⟨fun hle => absurd h (UInt32.not_lt.mpr hle),
      fun hle => absurd hback (UInt32.not_lt.mpr hle.2)⟩
  · rename_i hback
    exact ⟨fun hle => ⟨hle, UInt32.not_lt.mp hback⟩, fun hle => hle.1⟩

theorem acmpSend_isDisconnectTx (s : Avdecc) (a : Acmpdu) :
    ∀ bytes ∈ (acmpSend s a).2, isDisconnectTx ⟨.firmware .avdecc, bytes⟩ =
      (a.msgType &&& 0x0F == acmpMsgDisconnectTxCommand) := by
  intro bytes hbytes
  rw [List.mem_singleton.mp hbytes]
  obtain ⟨hbytes, hsubtype, htype, -⟩ := acmpdu_bytes a
  rw [hbytes, isDisconnectTx, isAcmp]
  dsimp only
  rw [frame_pdu s.srcMac _ (show 1 < acmpduLen by decide), htype,
    frame_pdu s.srcMac _ (show 0 < acmpduLen by decide), hsubtype, List.length_append,
    ethHdr_length, Buffer.length_take]
  simp

theorem crfRebootstrap_disconnects (s : Avdecc) (luid : ListenerUid) (nowMs : UInt32) :
    (∃ bytes ∈ (crfRebootstrap s luid nowMs).2, isDisconnectTx ⟨.firmware .avdecc, bytes⟩) ↔
      s.crfWdRecovery = false := by
  rw [crfRebootstrap]
  dsimp only
  cases s.crfWdRecovery with
  | false =>
    rw [if_pos (show (!false) = true from rfl)]
    refine ⟨fun _ => rfl, fun _ => ⟨_, List.mem_singleton.mpr rfl, ?_⟩⟩
    exact (acmpSend_isDisconnectTx _ _ _ (List.mem_singleton.mpr rfl)).trans
      (show (acmpMsgDisconnectTxCommand &&& 0x0F == acmpMsgDisconnectTxCommand) = true by decide)
  | true =>
    rw [if_neg (show ¬(!true) = true by decide)]
    refine ⟨fun ⟨bytes, hbytes, hdisconnect⟩ => ?_, fun hf => absurd hf.symm Bool.false_ne_true⟩
    split at hbytes
    · rw [acmpSend_isDisconnectTx _ _ bytes hbytes] at hdisconnect
      exact absurd hdisconnect (show ¬(acmpMsgConnectTxCommand &&& 0x0F ==
        acmpMsgDisconnectTxCommand) = true by decide)
    · exact absurd hbytes List.not_mem_nil

theorem crfFlowWatchdog_disconnects (s : Avdecc) (luid : ListenerUid) (rxCount nowMs : UInt32) :
    (∃ bytes ∈ (avdeccCrfFlowWatchdog s luid rxCount nowMs).2,
        isDisconnectTx ⟨.firmware .avdecc, bytes⟩) ↔
      (s.listeners luid).connected ∧ s.crfWdInit ∧ s.crfWdRecovery = false ∧
        rxCount = s.crfWdRxSnapshot ∧
        (3000 ≤ nowMs - s.crfWdFlowMs ∧ nowMs - s.crfWdFlowMs ≤ 2000000000) := by
  have hsilent : ¬∃ bytes ∈ ([] : List (List UInt8)),
      isDisconnectTx ⟨.firmware .avdecc, bytes⟩ = true :=
    fun ⟨_, hbytes, _⟩ => absurd hbytes List.not_mem_nil
  rw [avdeccCrfFlowWatchdog]
  split
  · rename_i hidle
    exact iff_of_false hsilent fun h => absurd h.1 (by simpa using hidle)
  split
  · rename_i hinit
    exact iff_of_false hsilent fun h => absurd h.2.1 (by simpa using hinit)
  split
  · rename_i hmoved
    exact iff_of_false hsilent fun h => hmoved h.2.2.2.1
  split
  · rename_i hback
    exact iff_of_false hsilent fun h => absurd hback (UInt32.not_lt.mpr h.2.2.2.2.2)
  split
  · rename_i hflows
    exact iff_of_false hsilent fun h => absurd h.2.2.2.2.1 (UInt32.not_le.mpr hflows)
  · rename_i hconnected hinit hstill hback hstall
    rw [crfRebootstrap_disconnects]
    refine ⟨fun hrecovery => ?_, fun h => h.2.2.1⟩
    exact ⟨by simpa using hconnected, by simpa using hinit, hrecovery, not_not.mp hstill,
      UInt32.not_lt.mp hstall, UInt32.not_lt.mp hback⟩

variable {s : Clocked}

theorem talkers_iff (h : Stamped s.fw.stamps s.moments) {i : TimedStep} {r : Readings}
    (hstep : i.step = .srpPoll r) {k : Fin srpMaxRemoteTalkers}
    (hvalid : (s.fw.srp.remoteTalkers k).valid) :
    ((s.step i).fw.srp.remoteTalkers k).valid = false ↔
      (s.moments.advertised (s.fw.srp.remoteTalkers k).streamId).looksAged (s.next i) 30000 := by
  obtain ⟨step, waitedMs, offset⟩ := i
  subst hstep
  have hafter : (s.step ⟨.srpPoll r, waitedMs, offset⟩).fw.srp.remoteTalkers k =
      (srpPoll s.fw.srp (s.next ⟨.srpPoll r, waitedMs, offset⟩).uptime).1.remoteTalkers k :=
    congrArg (fun t : Stamps => t.remoteTalkers k) (sendAll_stamps ..)
  have hseen : (s.fw.srp.remoteTalkers k).lastSeenMs = _ := h.advertised k hvalid
  rw [hafter, srpPoll_remoteTalkers, srpAge]
  dsimp only
  rw [hvalid, Bool.true_and, hseen, ← aged_iff (by decide)]
  unfold talkerAgedOut
  split
  · rename_i haged
    exact ⟨fun _ => of_decide_eq_true haged, fun _ => rfl⟩
  · rename_i hyoung
    rw [hvalid]
    exact ⟨fun hf => absurd hf.symm Bool.false_ne_true,
      fun haged => absurd (decide_eq_true haged) hyoung⟩

theorem resolves_iff (h : Stamped s.fw.stamps s.moments) {i : TimedStep} {r : Readings}
    (hstep : i.step = .avdeccPoll r) {u : ListenerUid} (hactive : (s.fw.avdecc.resolves u).active) :
    ((s.step i).fw.avdecc.resolves u).active = false ↔
      (s.moments.started u).looksAged (s.next i) 1500 := by
  obtain ⟨step, waitedMs, offset⟩ := i
  subst hstep
  have hafter : (s.step ⟨.avdeccPoll r, waitedMs, offset⟩).fw.avdecc.resolves u =
      (avdeccPoll s.fw.avdecc s.fw.gptp s.fw.mcr
        (s.next ⟨.avdeccPoll r, waitedMs, offset⟩).uptime).1.resolves u :=
    congrArg (fun t : Stamps => t.resolves u) (sendAll_stamps ..)
  have hstart : (s.fw.avdecc.resolves u).startMs = _ := h.started u hactive
  rw [hafter, (avdeccPoll_stamps ..).1, resolveTimedOut, hactive, Bool.true_and, hstart,
    ← aged_iff (by decide)]
  split
  · rename_i haged
    exact ⟨fun _ => of_decide_eq_true haged, fun _ => rfl⟩
  · rename_i hyoung
    rw [hactive]
    exact ⟨fun hf => absurd hf.symm Bool.false_ne_true,
      fun haged => absurd (decide_eq_true haged) hyoung⟩

theorem snap_iff (h : Stamped s.fw.stamps s.moments) {i : TimedStep} {r : Readings}
    (hstep : i.step = .mcrWatchdogTick r) (hreset : s.fw.mcr.watchdogResetActive = false) :
    (s.step i).fw.mcr.watchdogResetActive ↔
      s.fw.mcr.rxCount = s.fw.mcr.lastRxCountSnapshot ∧
        1000 < s.moments.checked.lapse (s.next i) := by
  obtain ⟨step, waitedMs, offset⟩ := i
  subst hstep
  have hafter : (s.step ⟨.mcrWatchdogTick r, waitedMs, offset⟩).fw.mcr.watchdogResetActive =
      (mcrWatchdogTick s.fw.mcr s.fw.mcrRegs
        (s.next ⟨.mcrWatchdogTick r, waitedMs, offset⟩).uptime).1.crfCheck.2.1 := rfl
  obtain ⟨hbound, hms⟩ := h.checked hreset
  have hbound : s.fw.mcr.bound = true := hbound
  have hms : s.fw.mcr.lastRxCheckMs = s.moments.checked.uptime := hms
  rw [hafter, mcrWatchdogTick_crfCheck, hbound, if_neg (show ¬true = false by decide), hms]
  split
  · rename_i hmoved
    exact ⟨fun hf => absurd hf Bool.false_ne_true, fun hstale => absurd hstale.1 hmoved⟩
  · rename_i hstill
    split
    · rename_i hstale
      exact ⟨fun _ => ⟨not_not.mp hstill, hstale⟩, fun _ => rfl⟩
    · rename_i hfresh
      rw [Mcr.crfCheck, hreset]
      exact ⟨fun hf => absurd hf Bool.false_ne_true, fun hstale => absurd hstale.2 hfresh⟩

theorem disconnectTx_iff (h : Stamped s.fw.stamps s.moments) {i : TimedStep} {r : Readings}
    (hstep : i.step = .crfFlowWatchdog r) :
    (∃ f ∈ (s.step i).fw.sent, isDisconnectTx f) ↔
      (s.fw.avdecc.listeners listenerUidCrf).connected ∧ s.fw.avdecc.crfWdInit ∧
        s.fw.avdecc.crfWdRecovery = false ∧ s.fw.mcr.rxCount = s.fw.avdecc.crfWdRxSnapshot ∧
        s.moments.flowed.looksAged (s.next i) 3000 := by
  obtain ⟨step, waitedMs, offset⟩ := i
  subst hstep
  have hsent : (s.step ⟨.crfFlowWatchdog r, waitedMs, offset⟩).fw.sent =
      (avdeccCrfFlowWatchdog s.fw.avdecc listenerUidCrf s.fw.mcr.rxCount
        (s.next ⟨.crfFlowWatchdog r, waitedMs, offset⟩).uptime).2.map
          fun bytes => ⟨.firmware .avdecc, bytes⟩ := sendAll_sent ..
  have hflow : s.fw.avdecc.crfWdInit → s.fw.avdecc.crfWdFlowMs = s.moments.flowed.uptime := h.flowed
  rw [hsent]
  refine Iff.trans ?_ ((crfFlowWatchdog_disconnects s.fw.avdecc listenerUidCrf s.fw.mcr.rxCount
    (s.next ⟨.crfFlowWatchdog r, waitedMs, offset⟩).uptime).trans ?_)
  · constructor
    · rintro ⟨f, hf, hdisconnect⟩
      obtain ⟨bytes, hbytes, rfl⟩ := List.mem_map.mp hf
      exact ⟨bytes, hbytes, hdisconnect⟩
    · rintro ⟨bytes, hbytes, hdisconnect⟩
      exact ⟨_, List.mem_map.mpr ⟨bytes, hbytes, rfl⟩, hdisconnect⟩
  · refine and_congr_right fun _ => and_congr_right fun hinit => ?_
    rw [hflow hinit]
    rfl

-- ---------------------------------------------------------------------------
-- Runs
-- ---------------------------------------------------------------------------

theorem noneEarly_step (h : Stamped s.fw.stamps s.moments) (i : TimedStep) :
    NoneEarly s i ↔ UptimeFair s i := by
  constructor
  · rintro ⟨htalkers, hresolves, hsnap, hdisconnect⟩
    refine ⟨?_, ?_, ?_, ?_⟩
    · intro r k hstep hvalid heard hearly hlooks
      have haged := htalkers r k hstep hvalid ((talkers_iff h hstep hvalid).mpr hlooks)
      exact absurd haged (Nat.not_le.mpr hearly)
    · intro r u hstep hactive hearly hlooks
      have haged := hresolves r u hstep hactive ((resolves_iff h hstep hactive).mpr hlooks)
      exact absurd haged (Nat.not_le.mpr hearly)
    · intro r hstep hreset hcount hearly
      refine UInt32.not_lt.mp fun hstale => ?_
      have hsnapped := hsnap r hstep hreset ((snap_iff h hstep hreset).mpr ⟨hcount, hstale⟩)
      exact absurd hsnapped (Nat.not_lt.mpr hearly)
    · intro r hstep hconnected hinit hrecovery hcount hearly hlooks
      have hsent := (disconnectTx_iff h hstep).mpr ⟨hconnected, hinit, hrecovery, hcount, hlooks⟩
      exact absurd (hdisconnect r hstep hsent) (Nat.not_le.mpr hearly)
  · rintro ⟨htalkers, hresolves, hsnap, hdisconnect⟩
    refine ⟨?_, ?_, ?_, ?_⟩
    · intro r k hstep hvalid hinvalid
      refine Nat.not_lt.mp fun hearly => ?_
      exact htalkers r k hstep hvalid hearly ((talkers_iff h hstep hvalid).mp hinvalid)
    · intro r u hstep hactive hinactive
      refine Nat.not_lt.mp fun hearly => ?_
      exact hresolves r u hstep hactive hearly ((resolves_iff h hstep hactive).mp hinactive)
    · intro r hstep hreset hsnapped
      obtain ⟨hcount, hstale⟩ := (snap_iff h hstep hreset).mp hsnapped
      refine Nat.not_le.mp fun hearly => ?_
      exact absurd hstale (UInt32.not_lt.mpr (hsnap r hstep hreset hcount hearly))
    · intro r hstep hsent
      obtain ⟨hconnected, hinit, hrecovery, hcount, hlooks⟩ := (disconnectTx_iff h hstep).mp hsent
      refine Nat.not_lt.mp fun hearly => ?_
      exact hdisconnect r hstep hconnected hinit hrecovery hcount hearly hlooks

/-- Over any run, with any clock steps: nothing times out before its time iff
no step has moved the uptime into the range the guards let through. -/
theorem noneEarly_iff (offset : UInt32) (steps : List TimedStep) :
    (clocked offset).Steps NoneEarly steps ↔ (clocked offset).Steps UptimeFair steps :=
  Machine.steps_congr (fun s => Stamped s.fw.stamps s.moments) (stamped_boot _)
    (fun _ i h _ => stamped_step h i) (fun _ i h => noneEarly_step h i) steps

/-- A resolve is started between the grandmaster's first Sync and its
Follow_Up, which sets the uptime forward by 40 s. -/
def resolveThenStep : List TimedStep :=
  let body := List.replicate 20 0
  [⟨.dispatchRx (peerFrame grandmaster ptpMsgSync 0 body) 68 {}, 0, 0⟩,
    ⟨slowCommand (eightBytes 0x00 0x1B 0x21 0xFF 0xFE 0x00 0x00 0x0C) 7, 10, 0⟩,
    ⟨.dispatchRx (peerFrame grandmaster ptpMsgFollowUp 0 body) 68 {}, 10, 40000⟩]

/-- The next poll, 10 ms later, gives the resolve up after 20 ms. -/
theorem resolve_early :
    ¬(clocked 0).Steps NoneEarly (resolveThenStep ++ [⟨.avdeccPoll {}, 10, 0⟩]) := by
  intro h
  have hactive : (((clocked 0).run resolveThenStep).fw.avdecc.resolves listenerUidCrf).active := by
    decide +kernel
  have hgivenUp : ((((clocked 0).run resolveThenStep).step
      ⟨.avdeccPoll {}, 10, 0⟩).fw.avdecc.resolves listenerUidCrf).active = false := by
    decide +kernel
  have hwaited := h.at.resolves {} listenerUidCrf rfl hactive hgivenUp
  exact absurd hwaited (by decide +kernel)

end AvbAes3.ClockSteps
