import AvbAes3.UnsolTable

/-!
# Registrations that are answered with success

REGISTER_UNSOLICITED is answered with SUCCESS whether or not an entry was
left to hold the controller. Where one is, the controller is sent one
notification with each push until it deregisters, at the address it
registered from.
-/

namespace AvbAes3.Registrations

open UnsolTable
open AecpResponses (aemReply sentOutcome_some counted aecpHandle_aem)

/-- The status a message is answered with, if it is answered. -/
def answeredStatus (s : Avdecc) (c : AecpCommand) : Option UInt8 :=
  (aecpHandle s c).sent.map fun _ => responseStatus (aecpHandle s c).slot

/-- The controllers that were answered with SUCCESS and have not deregistered
since, with the address they registered from. -/
abbrev Subscribed := EntityId → Option MacAddr

def setSubscribed (sub : Subscribed) (e : EntityId) (mac : Option MacAddr) : Subscribed :=
  fun e' => if e' == e then mac else sub e'

def subscribe (sub : Subscribed) (s : Avdecc) : Call → Subscribed
  | .aecp c =>
    if commands s c aemCmdRegisterUnsolicited && answeredStatus s c == some aecpStatusSuccess then
      setSubscribed sub (controllerOf c) (some (senderOf c))
    else if commands s c aemCmdDeregisterUnsolicited then
      setSubscribed sub (controllerOf c) none
    else sub
  | .pushCounters .. | .pushStreamInfo .. | .other _ => sub

def subscribing (mac : MacAddr) : Machine (Avdecc × Subscribed) Call :=
  (machine mac).withHistory (fun _ => none) subscribe

/-- The controller is active, with the address. -/
def Stored (t : Table) (e : EntityId) (mac : MacAddr) : Prop :=
  ∃ i, EntryOf t e i ∧ (t i).mac = mac

def IsPush : Call → Prop
  | .pushCounters .. | .pushStreamInfo .. => True
  | .aecp _ | .other _ => False

/-- A registration that is answered with SUCCESS is stored, and each push
sends each subscribed controller one notification, to its address. -/
structure Real (x : Avdecc × Subscribed) (call : Call) : Prop where
  stored : ∀ c, call = .aecp c → commands x.1 c aemCmdRegisterUnsolicited →
    answeredStatus x.1 c = some aecpStatusSuccess →
      Stored (step x.1 call).unsolCtrl (controllerOf c) (senderOf c)
  notified : IsPush call → ∀ e mac, x.2 e = some mac →
    ∃ seqId, noticesTo e (notices x.1 call) = [⟨mac, e, seqId⟩]

/-- A controller that registers is active already or finds a free entry. -/
def FindsRoom (x : Avdecc × Subscribed) (call : Call) : Prop :=
  ∀ c, call = .aecp c → commands x.1 c aemCmdRegisterUnsolicited →
    registered x.1 (controllerOf c) ∨ ∃ i, (x.1.unsolCtrl i).active = false

-- ---------------------------------------------------------------------------
-- The answer
-- ---------------------------------------------------------------------------

/-- The status does not depend on the table. -/
theorem answeredStatus_register {s : Avdecc} {c : AecpCommand}
    (h : commands s c aemCmdRegisterUnsolicited) :
    answeredStatus s c = some aecpStatusSuccess := by
  obtain ⟨hmessage, htarget, hcmd⟩ := (commands_iff s c).mp h
  obtain ⟨reply, hreply, hstatus⟩ : ∃ b,
      aecpRespond (registerUnsolicited (counted s) (controllerOf c) (senderOf c)) c []
        aecpStatusSuccess 12 64 = some (b, 64) ∧ responseStatus b = aecpStatusSuccess :=
    ⟨_, rfl, responseStatus_aecpSetStatusCdl ..⟩
  have hcommand : (aemReply s c c.slot).2 = some (reply, 64) := by
    rw [aemReply, hcmd]
    exact hreply
  have hhandled := aecpHandle_aem hmessage htarget c.slot
  obtain ⟨hsent, hslot⟩ := sentOutcome_some hcommand c.slot
  have hsent' : (aecpHandle s c).sent = some 64 := (congrArg AecpOutcome.sent hhandled).trans hsent
  have hslot' : (aecpHandle s c).slot = reply := (congrArg AecpOutcome.slot hhandled).trans hslot
  rw [answeredStatus, hsent', hslot', Option.map_some, hstatus]

-- ---------------------------------------------------------------------------
-- The table
-- ---------------------------------------------------------------------------

section Table

variable {s : Avdecc} {e : EntityId} {mac : MacAddr}

/-- A registration takes over the controller's own entry or a free one. -/
theorem registerUnsolicited_stores (mac : MacAddr)
    (h : registered s e ∨ ∃ i, (s.unsolCtrl i).active = false) :
    ∃ i u, (registerUnsolicited s e mac).unsolCtrl = Function.update s.unsolCtrl i u ∧
      u.active ∧ u.controllerEid = e ∧ u.mac = mac ∧
      (EntryOf s.unsolCtrl e i ∨ (s.unsolCtrl i).active = false) := by
  unfold registerUnsolicited
  cases hslot : unsolSlot s e with
  | some i => exact ⟨i, _, rfl, rfl, rfl, rfl, .inl (entryOf_of_unsolSlot hslot)⟩
  | none =>
    cases hfree : unsolFreeSlot s with
    | some i => exact ⟨i, _, rfl, rfl, rfl, rfl, .inr (inactive_of_unsolFreeSlot hfree)⟩
    | none =>
      exfalso
      rcases h with hregistered | ⟨i, hi⟩
      · rw [registered, hslot] at hregistered
        cases hregistered
      · exact Bool.false_ne_true (hi.symm.trans (active_of_unsolFreeSlot hfree))

theorem registerUnsolicited_full (mac : MacAddr)
    (h : ¬ (registered s e ∨ ∃ i, (s.unsolCtrl i).active = false)) :
    registerUnsolicited s e mac = s := by
  unfold registerUnsolicited
  cases hslot : unsolSlot s e with
  | some i => exact absurd (.inl (registered_iff.mpr ⟨i, entryOf_of_unsolSlot hslot⟩)) h
  | none =>
    cases hfree : unsolFreeSlot s with
    | some i => exact absurd (.inr ⟨i, inactive_of_unsolFreeSlot hfree⟩) h
    | none => rfl

/-- Another controller's entry stays as it is. -/
theorem Stored.update_other {t : Table} {i : Fin avdeccMaxUnsolCtrl} {u : UnsolCtrl}
    {e' : EntityId} (h : Stored t e' mac) (hne : e' ≠ e)
    (hi : EntryOf t e i ∨ (t i).active = false) : Stored (Function.update t i u) e' mac := by
  obtain ⟨j, hj, hmac⟩ := h
  have hji : j ≠ i := by
    rintro rfl
    rcases hi with hi | hi
    · exact hne (hj.2.symm.trans hi.2)
    · exact Bool.false_ne_true (hi.symm.trans hj.1)
  refine ⟨j, ?_⟩
  rw [EntryOf, Function.update_of_ne hji]
  exact ⟨hj, hmac⟩

theorem Stored.deregister {e' : EntityId} (h : Stored s.unsolCtrl e' mac) (hne : e' ≠ e) :
    Stored (deregisterUnsolicited s e).unsolCtrl e' mac := by
  unfold deregisterUnsolicited
  cases hslot : unsolSlot s e with
  | some i => exact h.update_other hne (.inl (entryOf_of_unsolSlot hslot))
  | none => exact h

theorem Stored.push {t : Table} (h : Stored t e mac) :
    Stored (fun i => nextSeq (t i)) e mac := by
  obtain ⟨i, hi, hmac⟩ := h
  refine ⟨i, entryOf_push.mpr hi, ?_⟩
  exact (congrArg UnsolCtrl.mac (nextSeq_active hi.1)).trans hmac

end Table

-- ---------------------------------------------------------------------------
-- Runs
-- ---------------------------------------------------------------------------

/-- Every subscribed controller is stored. -/
structure Kept (x : Avdecc × Subscribed) : Prop where
  unique : Unique x.1.unsolCtrl
  stored : ∀ e mac, x.2 e = some mac → Stored x.1.unsolCtrl e mac

section Step

variable {x : Avdecc × Subscribed} {call : Call}

theorem register_table {s : Avdecc} {c : AecpCommand}
    (h : commands s c aemCmdRegisterUnsolicited) : (step s (.aecp c)).unsolCtrl =
      (registerUnsolicited s (controllerOf c) (senderOf c)).unsolCtrl :=
  (aecpHandle_table s c).trans (if_pos h)

theorem FindsRoom.stored (h : FindsRoom x call) {c : AecpCommand} (hcall : call = .aecp c)
    (hcommand : commands x.1 c aemCmdRegisterUnsolicited) :
    Stored (step x.1 call).unsolCtrl (controllerOf c) (senderOf c) := by
  subst hcall
  obtain ⟨i, u, htable, hactive, heid, hmac, -⟩ :=
    registerUnsolicited_stores (senderOf c) (h c rfl hcommand)
  rw [register_table hcommand, htable]
  refine ⟨i, ?_, ?_⟩
  · rw [EntryOf, Function.update_self]
    exact ⟨hactive, heid⟩
  · rw [Function.update_self]
    exact hmac

theorem Kept.aecp (h : Kept x) {c : AecpCommand} (hroom : FindsRoom x (.aecp c)) (e : EntityId)
    (mac : MacAddr) (he : subscribe x.2 x.1 (.aecp c) e = some mac) :
    Stored (step x.1 (.aecp c)).unsolCtrl e mac := by
  unfold subscribe setSubscribed at he
  dsimp only at he
  by_cases hregister : commands x.1 c aemCmdRegisterUnsolicited
  · have hanswered : (commands x.1 c aemCmdRegisterUnsolicited &&
        answeredStatus x.1 c == some aecpStatusSuccess) = true := by
      rw [hregister, answeredStatus_register hregister]
      rfl
    rw [if_pos hanswered] at he
    by_cases hown : e = controllerOf c
    · rw [if_pos (beq_iff_eq.mpr hown)] at he
      obtain rfl := Option.some.inj he
      rw [hown]
      exact hroom.stored rfl hregister
    · rw [if_neg (by rw [beq_iff_eq]; exact hown)] at he
      obtain ⟨i, u, htable, -, -, -, hi⟩ :=
        registerUnsolicited_stores (senderOf c) (hroom c rfl hregister)
      rw [register_table hregister, htable]
      exact (h.stored e mac he).update_other hown hi
  · rw [if_neg (by rw [Bool.and_eq_true]; exact fun hand => hregister hand.1)] at he
    have htable := aecpHandle_table x.1 c
    rw [if_neg hregister] at htable
    show Stored (aecpHandle x.1 c).state.unsolCtrl e mac
    rw [htable]
    by_cases hderegister : commands x.1 c aemCmdDeregisterUnsolicited
    · rw [if_pos hderegister] at he ⊢
      by_cases hown : e = controllerOf c
      · rw [if_pos (beq_iff_eq.mpr hown)] at he
        cases he
      · rw [if_neg (by rw [beq_iff_eq]; exact hown)] at he
        exact (h.stored e mac he).deregister hown
    · rw [if_neg hderegister] at he ⊢
      exact h.stored e mac he

/-- What a push does to the table and sends. -/
theorem push_spec (s : Avdecc) (call : Call) (hpush : IsPush call) :
    (step s call).unsolCtrl = (fun i => nextSeq (s.unsolCtrl i)) ∧
      notices s call = pushNotices s.unsolCtrl := by
  cases call with
  | aecp c => cases hpush
  | pushCounters dt di valid counters => exact pushAll_spec ..
  | pushStreamInfo dt di => exact pushAll_spec ..
  | other rest => cases hpush

theorem Kept.step (h : Kept x) (hroom : FindsRoom x call) :
    Kept ((subscribing mac).step x call) where
  unique := h.unique.change (step_change x.1 call)
  stored e mac he := by
    cases call with
    | aecp c => exact h.aecp hroom e mac he
    | other rest => exact h.stored e mac he
    | pushCounters dt di valid counters =>
      have htable := (push_spec x.1 (.pushCounters dt di valid counters) trivial).1
      show Stored (UnsolTable.step x.1 _).unsolCtrl e mac
      rw [htable]
      exact (h.stored e mac he).push
    | pushStreamInfo dt di =>
      have htable := (push_spec x.1 (.pushStreamInfo dt di) trivial).1
      show Stored (UnsolTable.step x.1 _).unsolCtrl e mac
      rw [htable]
      exact (h.stored e mac he).push

theorem Kept.notified (h : Kept x) (hpush : IsPush call) (e : EntityId) (mac : MacAddr)
    (he : x.2 e = some mac) : ∃ seqId, noticesTo e (notices x.1 call) = [⟨mac, e, seqId⟩] := by
  obtain ⟨i, hi, hmac⟩ := h.stored e mac he
  refine ⟨(x.1.unsolCtrl i).unsolSeqId, ?_⟩
  rw [(push_spec x.1 call hpush).2, noticesTo_registered h.unique hi, entryNotice, hmac, hi.2]

/-- In a state where the subscribed controllers are stored. -/
theorem Kept.real_iff (h : Kept x) : Real x call ↔ FindsRoom x call := by
  constructor
  · rintro ⟨hstored, -⟩ c hcall hcommand
    by_contra hfull
    obtain ⟨i, hi, -⟩ := hstored c hcall hcommand (answeredStatus_register hcommand)
    subst hcall
    rw [register_table hcommand, registerUnsolicited_full _ hfull] at hi
    exact hfull (.inl (registered_iff.mpr ⟨i, hi⟩))
  · intro hroom
    exact ⟨fun c hcall hcommand _ => hroom.stored hcall hcommand, h.notified⟩

end Step

/-- In a run, registrations answered with SUCCESS are stored and notified of
every push if and only if each finds its controller active or an entry
free. -/
theorem registrations_real_iff (mac : MacAddr) (run : List Call) :
    (subscribing mac).Steps Real run ↔ (subscribing mac).Steps FindsRoom run := by
  refine (Machine.steps_congr Kept ?_ (fun _ _ h => h.step) (fun _ _ h => h.real_iff.symm) run).symm
  exact ⟨fun _ _ _ hi => Bool.noConfusion hi.1, fun _ _ he => by cases he⟩

-- ---------------------------------------------------------------------------
-- A run
-- ---------------------------------------------------------------------------

def controllerEid (last : UInt8) : EntityId := eightBytes 0x00 0x1B 0x21 0xFF 0xFE 0x00 0x00 last

/-- A controller registers. -/
def register (last : UInt8) : Call :=
  .aecp
    { frame := Buffer.ofList (zeros 6 ++ (sixBytes 0x00 0x1B 0x21 0x00 0x00 last).toList ++
        be16 avtpEthertype ++ [avtpSubtypeAecp, aecpMsgAemCommand, 0, 12] ++
        (avdeccInit boardMac).entityId.toList ++ (controllerEid last).toList ++ be16 1 ++
        be16 aemCmdRegisterUnsolicited)
      pduLen := 24
      slot := fun _ => 0
      gptp := (gptpInit boardMac).1
      srp := srpInit boardMac }

def firstFour : List Call := [register 1, register 2, register 3, register 4]

/-- The fifth controller is answered with SUCCESS and not stored. -/
theorem fifth_unstored : ¬ (subscribing boardMac).Steps Real (firstFour ++ [register 5]) := by
  rw [registrations_real_iff]
  intro h
  rcases h.at _ rfl (by decide +kernel) with hregistered | ⟨i, hfree⟩
  · revert hregistered
    decide +kernel
  · revert i
    decide +kernel

end AvbAes3.Registrations
