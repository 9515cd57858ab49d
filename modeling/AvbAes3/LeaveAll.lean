import AvbAes3.Senders
import AvbAes3.Mrpdu

/-!
# LeaveAll

`srp_poll` restarts the LeaveAll timer in the poll that finds it run out,
and sends its declarations in the polls that find the join timer run out.
That a LeaveAll is to be sent is a local of the poll: where the two timers
do not run out in one poll, the declarations that follow do not carry it,
unless the LeaveAll timer has by then run out once more.
-/

namespace AvbAes3.LeaveAll

-- ---------------------------------------------------------------------------
-- The frames
-- ---------------------------------------------------------------------------

def isMsrp (f : WireFrame) : Bool :=
  f.origin == .firmware .srp && isMsrpPdu (Buffer.ofList f.bytes) f.bytes.length

/-- The MSRP PDUs a step transmits. -/
def msrpPdus (fw : Firmware) (step : LoopStep) : List WireFrame :=
  (mainLoopStep fw step).sent.filter isMsrp

/-- The LeaveAll flag is set in every vector of the PDU. -/
def LeavesAll (f : WireFrame) : Prop :=
  ∀ v ∈ msrpVectors (Buffer.ofList f.bytes) f.bytes.length, v.lva = 1

/-- A poll sees the LeaveAll period over. -/
def expires (fw : Firmware) : LoopStep → Bool
  | .srpPoll r => decide (r.nowMs - fw.srp.lastLeaveAllMs ≥ mrpLeaveAllPeriodMs)
  | _ => false

/-- Whether an expiry has not been followed by an MSRP PDU yet. -/
def owed (before : Bool) (fw : Firmware) (step : LoopStep) : Bool :=
  (before || expires fw step) && (msrpPdus fw step).isEmpty

/-- The main loop and the expiry it owes a LeaveAll for. -/
def owing : Machine (Firmware × Bool) LoopStep := mainLoop.withHistory false owed

/-- What follows an expiry leaves all. -/
def Announces (s : Firmware × Bool) (step : LoopStep) : Prop :=
  s.2 || expires s.1 step → ∀ f ∈ msrpPdus s.1 step, LeavesAll f

-- ---------------------------------------------------------------------------
-- The timers
-- ---------------------------------------------------------------------------

/-- Whether the LeaveAll timer has run out in a poll since the join timer
did. -/
def waiting (before : Bool) (fw : Firmware) : LoopStep → Bool
  | .srpPoll r => (before || leaveAllDue fw.srp r.nowMs) && !joinDue fw.srp r.nowMs
  | _ => before

def timers : Machine (Firmware × Bool) LoopStep := mainLoop.withHistory false waiting

/-- A poll in which the join timer has run out, with a LeaveAll waiting from
an earlier one, finds the LeaveAll timer run out again. -/
def Together (s : Firmware × Bool) : LoopStep → Prop
  | .srpPoll r => s.2 → joinDue s.1.srp r.nowMs → leaveAllDue s.1.srp r.nowMs
  | _ => True

/-- A wrapped age counts as a whole period. -/
theorem leaveAllDue_iff (s : Srp) (nowMs : UInt32) :
    leaveAllDue s nowMs = decide (nowMs - s.lastLeaveAllMs ≥ mrpLeaveAllPeriodMs) := by
  unfold leaveAllDue elapsedMs
  split
  · rename_i hwrapped
    have hlong : nowMs - s.lastLeaveAllMs ≥ mrpLeaveAllPeriodMs :=
      UInt32.le_trans (by decide) (UInt32.le_of_lt hwrapped)
    rw [decide_eq_true hlong]
    rfl
  · rfl

-- ---------------------------------------------------------------------------
-- A step
-- ---------------------------------------------------------------------------

theorem sendDeclarations_leavesAll (s : Srp) (leaveAll : Bool) :
    LeavesAll ⟨.firmware .srp, (srpSendDeclarations s leaveAll).2⟩ ↔ leaveAll := by
  have hread := msrpVectors_declared s leaveAll
  have hlva {v : MsrpVector} {a : MsrpAttribute} (h : a.Read leaveAll v) :
      v.lva = 1 ↔ leaveAll := by
    rw [MsrpVector.lva, h.vecHdr]
    cases leaveAll <;> decide
  constructor
  · intro h
    have hdomain : s.domainAttribute ∈ s.attributes :=
      List.mem_append_left _ (List.mem_append_left _ (List.mem_singleton_self _))
    obtain ⟨v, hv, hr⟩ := forall₂_exists hread hdomain
    exact (hlva hr).mp (h v hv)
  · intro h v hv
    obtain ⟨a, -, hr⟩ := forall₂_exists hread.flip hv
    exact (hlva hr).mpr h

theorem isMsrp_srp (bytes : List UInt8) :
    isMsrp ⟨.firmware .srp, bytes⟩ = isMsrpPdu (Buffer.ofList bytes) bytes.length := rfl

/-- A poll transmits an MSRP PDU when the join timer has run out. -/
theorem msrpPdus_poll (fw : Firmware) (r : Readings) :
    msrpPdus fw (.srpPoll r) = if joinDue fw.srp r.nowMs then
      [⟨.firmware .srp, (srpSendDeclarations (srpAge fw.srp r.nowMs)
        (leaveAllDue fw.srp r.nowMs)).2⟩] else [] := by
  rw [msrpPdus, mainLoopStep, srpPoll_sent _ _ rfl, srpPoll]
  dsimp only
  split
  · generalize srpAge fw.srp r.nowMs = aged, leaveAllDue fw.srp r.nowMs = due
    have hmsrp : isMsrp ⟨.firmware .srp, (srpSendDeclarations aged due).2⟩ := by
      rw [isMsrp_srp]
      exact sendDeclarations_isMsrp aged due
    have hmvrp (s : Srp) (event : UInt8) :
        isMsrp ⟨.firmware .srp, mvrpSendJoinVid s srClassAVid event⟩ = false := by
      rw [isMsrp_srp]
      exact mvrp_not_msrp s srClassAVid event _
    rw [List.map_cons, List.filter_cons_of_pos hmsrp, List.map_singleton,
      List.filter_cons_of_neg (by rw [hmvrp]; decide)]
    rfl
  · rfl

theorem msrpPdus_other (fw : Firmware) (step : LoopStep) (h : ∀ r, step ≠ .srpPoll r) :
    msrpPdus fw step = [] := by
  have hsent : ∀ f ∈ (mainLoopStep fw step).sent, ¬ SentBy .srp f :=
    (loopStep_adds_others { fw with sent := [], tsuWrites := [] } step h).all
  rw [msrpPdus, List.filter_eq_nil_iff]
  intro f hf hmsrp
  exact hsent f hf (eq_of_beq (Bool.and_eq_true_iff.mp hmsrp).1)

theorem owed_eq_waiting : owed = waiting := by
  funext before fw step
  cases step with
  | srpPoll r =>
    rw [owed, waiting, expires, msrpPdus_poll, leaveAllDue_iff]
    split <;> rename_i hjoin <;> simp [hjoin]
  | _ =>
    rw [owed, msrpPdus_other _ _ (fun r h => by cases h)]
    simp [expires, waiting]

theorem announces_iff (s : Firmware × Bool) (step : LoopStep) :
    Announces s step ↔ Together s step := by
  cases step with
  | srpPoll r =>
    rw [Announces, Together, msrpPdus_poll, expires, ← leaveAllDue_iff]
    cases hjoin : joinDue s.1.srp r.nowMs
    · exact iff_of_true (fun _ f hf => by cases hf) fun _ h => by cases h
    · simp only [if_true, List.forall_mem_singleton, sendDeclarations_leavesAll, Bool.or_eq_true]
      constructor
      · exact fun h hwaits _ => h (.inl hwaits)
      · exact fun h => Or.rec (fun hwaits => h hwaits trivial) id
  | _ =>
    rw [Announces, msrpPdus_other _ _ (fun r h => by cases h)]
    exact iff_of_true (fun _ f hf => by cases hf) trivial

/-- Over every run of the main loop: each LeaveAll expiry is announced in the
next PDU if and only if no join finds an earlier expiry waiting that the
timer has not come round to again. -/
theorem leaveAll_announced_iff (inputs : List LoopStep) :
    owing.Steps Announces inputs ↔ timers.Steps Together inputs := by
  rw [owing, owed_eq_waiting, ← timers]
  exact Machine.steps_congr (fun _ => True) trivial (fun _ _ _ _ => trivial)
    (fun s step _ => announces_iff s step) inputs

-- ---------------------------------------------------------------------------
-- A run
-- ---------------------------------------------------------------------------

instance decidableTogether (s : Firmware × Bool) : (step : LoopStep) → Decidable (Together s step)
  | .srpPoll r => inferInstanceAs
      (Decidable (s.2 → joinDue s.1.srp r.nowMs → leaveAllDue s.1.srp r.nowMs))
  | .dispatchRx .. | .gptpPoll _ | .trackLocks | .syncVlan | .avdeccPoll _ | .mcrPumpHw _
  | .mcrServoUpdate | .mcrWatchdogTick _ | .crfFlowWatchdog _ | .usbAafDrain _ | .aafTxPoll ..
  | .packetizerFrame .. => .isTrue trivial

def pollAt (ms : UInt32) : LoopStep := .srpPoll { tsu := { uptimeMs := ms } }

/-- The join timer runs out at 9.001 s and the LeaveAll timer at 10 s. -/
def polls : List LoopStep := [pollAt 9001, pollAt 10000, pollAt 10001]

theorem leaveAll_lost : ¬ owing.Steps Announces polls := by
  rw [leaveAll_announced_iff]
  unfold timers polls
  decide +kernel

end AvbAes3.LeaveAll
