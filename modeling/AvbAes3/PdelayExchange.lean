import AvbAes3.GptpRun

/-!
# The peer delay exchange

Pdelay_Req, Pdelay_Resp and Pdelay_Resp_Follow_Up meet by sequence id alone,
and the id moves on only when a measurement completes. An `Exchange` is the
port with the history that says which messages belong together: the requests
sent are numbered, with their egress times, and every message of a responder
is known by the request and the Pdelay_Resp it belongs to, if it belongs to
any of this port's.

`pdelay_integrity`: while no answer to an earlier request, and no second
Pdelay_Resp to the same one, is let in by the sequence id, each measurement
is taken from one request, one Pdelay_Resp to it and its Follow_Up, and from
each request at most one.
-/

namespace AvbAes3.PdelayExchange

/-- A Pdelay_Req as it left the port. -/
structure Request where
  seqId : UInt16
  egress : PtpTimestamp
  deriving DecidableEq, Repr

/-- What a responder's message belongs to: a request of this port, and one
Pdelay_Resp to it among those of all responders. -/
structure Answer where
  request : Nat
  response : Nat
  deriving DecidableEq, Repr

/-- The Pdelay_Resp accepted last since the last request. -/
structure Held where
  answer : Option Answer
  t2 : PtpTimestamp
  t4 : PtpTimestamp
  deriving DecidableEq, Repr

structure Exchange where
  g : Gptp
  requests : List Request
  held : Option Held
  /-- The requests that have given a measurement. -/
  completed : List Nat

inductive Event
  /-- `gptp_poll`; if it sends a request, that leaves the port at `egress`. -/
  | poll (tsu : Tsu) (egress : PtpTimestamp)
  /-- A frame, delivered late, twice or out of order as may be. -/
  | rx (frame : Buffer) (len : Nat) (tsu : Tsu) (answer : Option Answer)

/-- A Pdelay_Resp that `process_pdelay_resp` takes. -/
def takesResp (g : Gptp) (frame : Buffer) (len : Nat) : Bool :=
  ptpMessage frame len == some .pdelayResp && pdelayRespMatches g (frame.offset ethHeaderLen)

/-- A Follow_Up that completes a measurement. -/
def takesFup (g : Gptp) (frame : Buffer) (len : Nat) : Bool :=
  ptpMessage frame len == some .pdelayRespFup && pdelayRespFupMatches g (frame.offset ethHeaderLen)

def bodyTs (frame : Buffer) : PtpTimestamp :=
  getPtpTs ((frame.offset ethHeaderLen).offset ptpHeaderLen)

def Exchange.step (s : Exchange) : Event → Exchange
  | .poll tsu egress =>
    let g := (gptpPoll s.g tsu).1
    if pdelayDue s.g tsu then
      { s with g := g, requests := s.requests ++ [⟨s.g.pdelaySeqId, egress⟩], held := none }
    else { s with g := g }
  | .rx frame len tsu answer =>
    let g := (gptpProcessRx s.g frame len tsu).1
    if takesResp s.g frame len then
      { s with g := g, held := some ⟨answer, bodyTs frame, tsu.rxTs⟩ }
    else if takesFup s.g frame len then
      { s with g := g, completed := s.completed ++ (answer.map (·.request)).toList }
    else { s with g := g }

def machine (mac : MacAddr) : Machine Exchange Event where
  init := ⟨(gptpInit mac).1, [], none, []⟩
  step := Exchange.step

/-- The requesting port identity of a message is the port's own. -/
def ToPort (g : Gptp) (frame : Buffer) : Prop :=
  let id := (frame.offset ethHeaderLen).offset (ptpHeaderLen + 10)
  id.bytes 8 = g.clockId ∧ getBe16 (id.offset 8) = g.portNumber

instance (g : Gptp) (frame : Buffer) : Decidable (ToPort g frame) := by
  unfold ToPort; infer_instance

/-- Integrity of a step: if it completes a measurement, t1 is the egress of
the request that the Pdelay_Resp held answers, t2 and t4 are of that
Pdelay_Resp, t3 is of its Follow_Up, sent to this port, and the request has
given no measurement before. -/
def Integrity (s : Exchange) (e : Event) : Prop :=
  match e with
  | .poll .. => True
  | .rx frame len _ answer =>
    takesFup s.g frame len →
      ∃ h ∈ s.held, ∃ a ∈ h.answer, ∃ r ∈ s.requests[a.request]?,
        (s.step e).g.pdelayT1 = r.egress ∧ (s.step e).g.pdelayT2 = h.t2 ∧
          (s.step e).g.pdelayT4 = h.t4 ∧ (s.step e).g.pdelayT3 = bodyTs frame ∧
          answer = some a ∧ ToPort s.g frame ∧ a.request ∉ s.completed

/-- The message answers the last request, in the one Pdelay_Resp that
answers it, and copies its sequence id and port identity. -/
def AnswersLast (respOf : Nat → Nat) (s : Exchange) (frame : Buffer) (answer : Option Answer) :
    Prop :=
  ∃ r ∈ s.requests.getLast?,
    answer = some ⟨s.requests.length - 1, respOf (s.requests.length - 1)⟩ ∧
      getBe16 ((frame.offset ethHeaderLen).offset ptpOffSeqId) = r.seqId ∧ ToPort s.g frame

/-- The transmit timestamp is the request's own, and what the sequence id
lets in answers the last request. -/
def Clean (respOf : Nat → Nat) (s : Exchange) : Event → Prop
  | .poll tsu egress => pdelayDue s.g tsu → tsu.txTs = egress
  | .rx frame len _ answer =>
    takesResp s.g frame len ∨ takesFup s.g frame len → AnswersLast respOf s frame answer

instance (s : Exchange) : DecidablePred (Integrity s) := fun e => by
  cases e <;> unfold Integrity <;> infer_instance

instance (respOf : Nat → Nat) (s : Exchange) : DecidablePred (Clean respOf s) := fun e => by
  cases e <;> unfold Clean <;> (try unfold AnswersLast) <;> infer_instance

-- ---------------------------------------------------------------------------
-- The port's side of an exchange
-- ---------------------------------------------------------------------------

/-- The part of the port that the exchange is about. -/
structure Pdelay where
  seqId : UInt16
  t1 : PtpTimestamp
  t2 : PtpTimestamp
  t4 : PtpTimestamp
  respReceived : Bool
  clockId : ClockId
  portNumber : UInt16

def pdelay (g : Gptp) : Pdelay :=
  ⟨g.pdelaySeqId, g.pdelayT1, g.pdelayT2, g.pdelayT4, g.pdelayRespReceived, g.clockId,
    g.portNumber⟩

theorem pdelay_gptpServoUpdate (g : Gptp) (now : UInt32) :
    pdelay (gptpServoUpdate g now).1 = pdelay g := by
  obtain ⟨_, hwrites⟩ := gptpServoUpdate_writes g now
  rw [hwrites]
  rfl

theorem pdelay_pdelayLost (g : Gptp) : pdelay (pdelayLost g) = pdelay g := by
  unfold pdelayLost
  split <;> rfl

theorem pdelay_syncTimeout (g : Gptp) (now : UInt32) : pdelay (syncTimeout g now) = pdelay g := by
  unfold syncTimeout
  split <;> rfl

theorem pdelay_gptpPoll (g : Gptp) (tsu : Tsu) :
    pdelay (gptpPoll g tsu).1 =
      if pdelayDue g tsu then { pdelay g with t1 := tsu.txTs, respReceived := false }
      else pdelay g := by
  by_cases hd : pdelayDue g tsu
  · simp only [gptpPoll, if_pos hd, pdelay_syncTimeout]
    rw [← pdelay_pdelayLost g]
    rfl
  · simp only [gptpPoll, if_neg hd, pdelay_syncTimeout]

theorem pdelay_processPtp_resp (h : pdelayRespMatches g ptp) :
    pdelay (processPtp g ptp len tsu (some .pdelayResp)).1 =
      { pdelay g with
        t2 := getPtpTs (ptp.offset ptpHeaderLen), t4 := tsu.rxTs, respReceived := true } := by
  simp only [processPtp, processPdelayResp, if_pos h]
  rfl

theorem pdelay_processPtp_fup (h : pdelayRespFupMatches g ptp) :
    pdelay (processPtp g ptp len tsu (some .pdelayRespFup)).1 =
        { pdelay g with seqId := g.pdelaySeqId + 1 } ∧
      (processPtp g ptp len tsu (some .pdelayRespFup)).1.pdelayT3 =
        getPtpTs (ptp.offset ptpHeaderLen) := by
  simp only [processPtp, processPdelayRespFup, if_pos h]
  exact ⟨rfl, trivial⟩

/-- Every other message leaves the exchange alone. -/
theorem pdelay_processPtp_other (hr : msg = some .pdelayResp → ¬ pdelayRespMatches g ptp)
    (hf : msg = some .pdelayRespFup → ¬ pdelayRespFupMatches g ptp) :
    pdelay (processPtp g ptp len tsu msg).1 = pdelay g := by
  cases msg with
  | none => rfl
  | some msg =>
    cases msg with
    | sync => rfl
    | followUp =>
      simp only [processPtp, processFollowUp]
      split
      · exact pdelay_gptpServoUpdate _ _
      · rfl
    | pdelayReq => rfl
    | pdelayResp => simp only [processPtp, processPdelayResp, if_neg (hr rfl)]
    | pdelayRespFup => simp only [processPtp, processPdelayRespFup, if_neg (hf rfl)]
    | announce =>
      simp only [processPtp, processAnnounce]
      split <;> rfl

-- ---------------------------------------------------------------------------
-- What a step does to the exchange
-- ---------------------------------------------------------------------------

variable {s : Exchange}

theorem step_resp (h : takesResp s.g frame len) (answer : Option Answer) :
    let s' := s.step (.rx frame len tsu answer)
    s'.requests = s.requests ∧ s'.completed = s.completed ∧
      s'.held = some ⟨answer, bodyTs frame, tsu.rxTs⟩ ∧
      pdelay s'.g =
        { pdelay s.g with t2 := bodyTs frame, t4 := tsu.rxTs, respReceived := true } := by
  obtain ⟨rx, hrx⟩ := gptpProcessRx_eq s.g frame len tsu
  have hmsg := h
  simp only [takesResp, Bool.and_eq_true, beq_iff_eq] at hmsg
  simp only [Exchange.step, if_pos h, hrx, hmsg.1]
  exact ⟨trivial, trivial, trivial, pdelay_processPtp_resp hmsg.2⟩

theorem not_takesResp_of_takesFup (h : takesFup g frame len) : ¬ takesResp g frame len := by
  simp only [takesFup, takesResp, Bool.and_eq_true, beq_iff_eq] at h ⊢
  simp [h.1]

theorem step_fup (h : takesFup s.g frame len) (answer : Option Answer) :
    let s' := s.step (.rx frame len tsu answer)
    s'.requests = s.requests ∧ s'.held = s.held ∧
      s'.completed = s.completed ++ (answer.map (·.request)).toList ∧
      pdelay s'.g = { pdelay s.g with seqId := s.g.pdelaySeqId + 1 } ∧
      s'.g.pdelayT3 = bodyTs frame := by
  obtain ⟨rx, hrx⟩ := gptpProcessRx_eq s.g frame len tsu
  have hmsg := h
  simp only [takesFup, Bool.and_eq_true, beq_iff_eq] at hmsg
  simp only [Exchange.step, if_neg (not_takesResp_of_takesFup h), if_pos h, hrx, hmsg.1]
  exact ⟨trivial, trivial, trivial, pdelay_processPtp_fup hmsg.2⟩

theorem step_other (hr : ¬ takesResp s.g frame len) (hf : ¬ takesFup s.g frame len)
    (answer : Option Answer) :
    let s' := s.step (.rx frame len tsu answer)
    s'.requests = s.requests ∧ s'.held = s.held ∧ s'.completed = s.completed ∧
      pdelay s'.g = pdelay s.g := by
  obtain ⟨rx, hrx⟩ := gptpProcessRx_eq s.g frame len tsu
  simp only [Exchange.step, if_neg hr, if_neg hf, hrx]
  simp only [takesResp, takesFup, Bool.and_eq_true, beq_iff_eq, not_and] at hr hf
  exact ⟨trivial, trivial, trivial, pdelay_processPtp_other hr hf⟩

-- ---------------------------------------------------------------------------
-- The invariant of clean runs
-- ---------------------------------------------------------------------------

/-- t1 is the egress of the last request; the sequence id is still the
request's until it has given its measurement, and the next one after; and a
Pdelay_Resp that is held is the one that answers it. -/
structure Coherent (respOf : Nat → Nat) (s : Exchange) : Prop where
  t1 : ∀ r ∈ s.requests.getLast?, s.g.pdelayT1 = r.egress
  pending : ∀ r ∈ s.requests.getLast?, s.g.pdelaySeqId = r.seqId →
    s.requests.length - 1 ∉ s.completed
  sent : ∀ k ∈ s.completed, k < s.requests.length
  held : s.g.pdelayRespReceived →
    s.held = some ⟨some ⟨s.requests.length - 1, respOf (s.requests.length - 1)⟩,
      s.g.pdelayT2, s.g.pdelayT4⟩

/-- What the invariant says depends on the port through `pdelay` only. -/
theorem Coherent.of_pdelay (h : Coherent respOf s) (hreq : s'.requests = s.requests)
    (hheld : s'.held = s.held) (hcomp : s'.completed = s.completed)
    (hg : pdelay s'.g = pdelay s.g) : Coherent respOf s' := by
  simp only [pdelay, Pdelay.mk.injEq] at hg
  obtain ⟨hseq, ht1, ht2, ht4, hresp, -, -⟩ := hg
  constructor
  · rw [hreq, ht1]
    exact h.t1
  · rw [hreq, hseq, hcomp]
    exact h.pending
  · rw [hreq, hcomp]
    exact h.sent
  · rw [hreq, hheld, ht2, ht4, hresp]
    exact h.held

theorem coherent_poll (h : Coherent respOf s) (hc : pdelayDue s.g tsu → tsu.txTs = egress) :
    Coherent respOf (s.step (.poll tsu egress)) := by
  have hg := pdelay_gptpPoll s.g tsu
  by_cases hd : pdelayDue s.g tsu
  · rw [if_pos hd] at hg
    simp only [pdelay, Pdelay.mk.injEq] at hg
    obtain ⟨hseq, ht1, -, -, hresp, -, -⟩ := hg
    simp only [Exchange.step, if_pos hd]
    refine ⟨?_, ?_, ?_, ?_⟩
    · simp [ht1, hc hd]
    · -- the new request has a number that none of the completed has
      intro _ _ _ hk
      have hlt := h.sent _ hk
      simp at hlt
    · intro k hk
      have hlt := h.sent k hk
      simp only [List.length_append, List.length_singleton]
      omega
    · simp [hresp]
  · rw [if_neg hd] at hg
    refine h.of_pdelay ?_ ?_ ?_ ?_ <;> simp only [Exchange.step, if_neg hd, hg]

theorem coherent_resp (h : Coherent respOf s) (ht : takesResp s.g frame len)
    (ha : AnswersLast respOf s frame answer) :
    Coherent respOf (s.step (.rx frame len tsu answer)) := by
  obtain ⟨r, -, rfl, -, -⟩ := ha
  obtain ⟨hreq, hcomp, hheld, hg⟩ := step_resp ht _
  simp only [pdelay, Pdelay.mk.injEq] at hg
  obtain ⟨hseq, ht1, ht2, ht4, -, -, -⟩ := hg
  constructor
  · rw [hreq, ht1]
    exact h.t1
  · rw [hreq, hseq, hcomp]
    exact h.pending
  · rw [hreq, hcomp]
    exact h.sent
  · rw [hreq, hheld, ht2, ht4]
    exact fun _ => rfl

theorem coherent_fup (h : Coherent respOf s) (ht : takesFup s.g frame len)
    (ha : AnswersLast respOf s frame answer) :
    Coherent respOf (s.step (.rx frame len tsu answer)) := by
  obtain ⟨r, hr, rfl, hseq, -⟩ := ha
  obtain ⟨hreq, hheld, hcomp, hg, -⟩ := step_fup ht _
  simp only [pdelay, Pdelay.mk.injEq] at hg
  obtain ⟨hseq', ht1, ht2, ht4, hresp, -, -⟩ := hg
  have hpos : 0 < s.requests.length := by
    cases hreqs : s.requests with
    | nil => simp [hreqs] at hr
    | cons => simp
  constructor
  · rw [hreq, ht1]
    exact h.t1
  · -- the sequence id has moved on
    intro r' hr' hid
    rw [hreq] at hr'
    obtain rfl : r' = r := Option.mem_unique hr' hr
    simp only [takesFup, pdelayRespFupMatches, Bool.and_eq_true, beq_iff_eq] at ht
    rw [hseq', ← ht.2.1, hseq] at hid
    exact absurd hid (by grind)
  · intro k hk
    rw [hcomp] at hk
    rw [hreq]
    rcases List.mem_append.mp hk with hk | hk
    · exact h.sent k hk
    · simp only [Option.map_some, Option.toList_some, List.mem_singleton] at hk
      omega
  · rw [hreq, hheld, ht2, ht4, hresp]
    exact h.held

theorem coherent_step (h : Coherent respOf s) (hc : Clean respOf s e) :
    Coherent respOf (s.step e) := by
  cases e with
  | poll tsu egress => exact coherent_poll h hc
  | rx frame len tsu answer =>
    by_cases hr : takesResp s.g frame len
    · exact coherent_resp h hr (hc (.inl hr))
    by_cases hf : takesFup s.g frame len
    · exact coherent_fup h hf (hc (.inr hf))
    obtain ⟨hreq, hheld, hcomp, hg⟩ := step_other hr hf answer
    exact h.of_pdelay hreq hheld hcomp hg

/-- A Follow_Up let in by a clean step meets the Pdelay_Resp it follows. -/
theorem coherent_integrity (h : Coherent respOf s) (hc : Clean respOf s e) : Integrity s e := by
  cases e with
  | poll => trivial
  | rx frame len tsu answer =>
    intro hf
    obtain ⟨r, hr, rfl, hseq, hport⟩ := hc (.inr hf)
    obtain ⟨-, -, -, hg, ht3⟩ := step_fup hf _
    simp only [pdelay, Pdelay.mk.injEq] at hg
    obtain ⟨-, ht1, ht2, ht4, -, -, -⟩ := hg
    simp only [takesFup, pdelayRespFupMatches, Bool.and_eq_true, beq_iff_eq] at hf
    obtain ⟨-, hid, hflag⟩ := hf
    refine ⟨_, h.held hflag, _, rfl, r, ?_, ?_, ht2, ht4, ht3, rfl, hport, ?_⟩
    · rw [Option.mem_def, ← hr, List.getLast?_eq_getElem?]
    · rw [ht1]
      exact h.t1 r hr
    · exact h.pending r hr (by rw [← hid, hseq])

-- ---------------------------------------------------------------------------
-- Runs
-- ---------------------------------------------------------------------------

theorem pdelay_integrity (mac : MacAddr) (respOf : Nat → Nat) (events : List Event)
    (h : (machine mac).Steps (Clean respOf) events) : (machine mac).Steps Integrity events := by
  have hinit : Coherent respOf (machine mac).init :=
    ⟨by simp [machine], by simp [machine], by simp [machine], fun hf => nomatch hf⟩
  exact h.of_invariant (Coherent respOf) hinit (fun _ _ => coherent_step)
    fun _ _ => coherent_integrity

def responder : MacAddr := sixBytes 0x00 0x00 0x00 0x00 0x00 0x02

/-- The port sends a request at second `n`. -/
def request (n : Nat) : Event :=
  let ts : PtpTimestamp := { seconds := n.toUInt64 }
  let ms := 1000 * n.toUInt32
  .poll { txTs := ts, uptimeMs := ms, laterUptimeMs := ms } ts

/-- The responder's messages to the request with sequence id zero. -/
def answers (answer : Answer) : List Event :=
  let port := (gptpClockId boardMac).toList ++ be16 1
  [.rx (peerFrame responder ptpMsgPdelayResp 0 (putPtpTs { seconds := 10 } ++ port)) 68
      { rxTs := { seconds := 11 } } (some answer),
    .rx (peerFrame responder ptpMsgPdelayRespFup 0 (putPtpTs { seconds := 12 } ++ port)) 68
      {} (some answer)]

def oneExchange : List Event := request 1 :: answers ⟨0, 0⟩

theorem pdelay_integrity_oneExchange :
    (machine boardMac).Steps Integrity oneExchange ∧
      ((machine boardMac).run oneExchange).completed = [0] :=
  ⟨pdelay_integrity boardMac (fun _ => 0) oneExchange (by decide +kernel), by decide +kernel⟩

/-- The first request is taken for lost and sent again, with the sequence id
it had; then the answer to the first one arrives. -/
def lateAnswer : List Event := request 1 :: request 2 :: answers ⟨0, 0⟩

theorem pdelay_lateAnswer :
    ¬ (machine boardMac).Steps Integrity lateAnswer ∧
      ((machine boardMac).run lateAnswer).completed = [0] ∧
      ((machine boardMac).run lateAnswer).g.pdelayT1 = { seconds := 2 } := by
  decide +kernel

end AvbAes3.PdelayExchange
