import AvbAes3.AecpFrames
import AvbAes3.GptpRun

/-!
# The path delay of two ports

Two ports of this code, their clocks a constant offset apart, on a link that
delays every frame alike. Requester and responder are run against each other
on the frames they send: each exchange that a poll starts is answered and
accepted, and its sample is the link's delay, whatever the offset and the
turnaround, past the wrap of the sequence id.
-/

namespace AvbAes3.PathDelay

/-- The delay in nanoseconds, and how far the responder's clock is ahead. -/
structure Link where
  delay : Nat
  offset : Int

/-- A clock's reading. -/
def stamp (ns : Nat) : PtpTimestamp :=
  ⟨(ns / 1000000000).toUInt64, (ns % 1000000000).toUInt32⟩

/-- What the responder's clock reads when the requester's reads `ns`. -/
def Link.theirs (l : Link) (ns : Nat) : Nat := (ns + l.offset).toNat

/-- A poll at which a request leaves at `t1` by the requester's clock, if one
is due, with all that is read besides and what the slots held before. -/
structure Exchange where
  t1 : Nat
  turnaround : Nat
  pollTsu : Tsu
  requestTsu : Tsu
  responseTsu : Tsu
  followUpTsu : Tsu
  requestSlot : Buffer
  responseSlot : Buffer
  followUpSlot : Buffer

section Times

variable (l : Link) (x : Exchange)

/-- When the request arrives, when it is answered and when the answer
arrives, by the requester's clock. -/
def Exchange.arrival : Nat := x.t1 + l.delay
def Exchange.answer : Nat := x.arrival l + x.turnaround
def Exchange.t4 : Nat := x.answer l + l.delay

def Exchange.poll : Tsu := { x.pollTsu with txTs := stamp x.t1 }

def Exchange.request : Tsu :=
  { x.requestTsu with
    rxTs := stamp (l.theirs (x.arrival l))
    txTs := stamp (l.theirs (x.answer l)) }

def Exchange.response : Tsu := { x.responseTsu with rxTs := stamp (x.t4 l) }

/-- Both clocks read less than 2^33 seconds throughout. -/
structure InTime : Prop where
  requester : x.t4 l < 8589934592 * 1000000000
  started : 0 ≤ x.arrival l + l.offset
  responder : x.answer l + l.offset < 8589934592 * 1000000000

end Times

structure Ports where
  requester : Gptp
  responder : Gptp

/-- The frames among the effects. -/
def sends (effects : List GptpEffect) : List (List UInt8) :=
  effects.filterMap fun
    | .send frame => some frame
    | .setAddendFull _ | .stepTime _ => none

/-- Take in a frame that the MAC has written over what its slot held. -/
def receive (g : Gptp) (slot : Buffer) (frame : List UInt8) (tsu : Tsu) :
    Gptp × List GptpEffect :=
  gptpProcessRx g (slot.copy 0 frame) frame.length tsu

/-- The request is delivered, and then its answers, in order. -/
def answerRequest (l : Link) (p : Ports) (x : Exchange) (request : List UInt8) : Ports :=
  let answered := receive p.responder x.requestSlot request (x.request l)
  match sends answered.2 with
  | [response, followUp] =>
    let g := (receive p.requester x.responseSlot response (x.response l)).1
    ⟨(receive g x.followUpSlot followUp x.followUpTsu).1, answered.1⟩
  | _ => ⟨p.requester, answered.1⟩

def step (l : Link) (p : Ports) (x : Exchange) : Ports :=
  let polled := gptpPoll p.requester x.poll
  match sends polled.2 with
  | [request] => answerRequest l ⟨polled.1, p.responder⟩ x request
  | _ => ⟨polled.1, p.responder⟩

def machine (l : Link) (requester responder : MacAddr) : Machine Ports Exchange where
  init := ⟨(gptpInit requester).1, (gptpInit responder).1⟩
  step := step l

/-- The sample a measurement was taken from. -/
def sample (g : Gptp) : Int64 :=
  pdelayNs (gptpTsDiffNs g.pdelayT1 {}) (gptpTsDiffNs g.pdelayT2 {}) (gptpTsDiffNs g.pdelayT3 {})
    (gptpTsDiffNs g.pdelayT4 {}) g.nrrPpb

/-- The exchange between the states is accepted, and its sample exact. -/
structure Measures (l : Link) (g g' : Gptp) : Prop where
  accepted : g'.pdelayFupReceived ∧ g'.pdelayPairCount = g.pdelayPairCount + 1 ∧
    g'.pdelaySeqId = g.pdelaySeqId + 1
  sample : sample g' = Int64.ofNat l.delay
  mean : g'.meanPathDelayNs = Int64.ofNat l.delay
  outliers : g'.pdelayOutlierCount = g.pdelayOutlierCount
  nrr : g'.nrrPpb = 0

/-- Every poll that a request is due at. -/
def Exact (l : Link) (p : Ports) (x : Exchange) : Prop :=
  pdelayDue p.requester x.poll → Measures l p.requester (step l p x).requester

-- ---------------------------------------------------------------------------
-- Frames
-- ---------------------------------------------------------------------------

/-- What is read of a message. -/
structure Carries (frame : Buffer) (g : Gptp) (msgType : UInt8) (seqId : UInt16)
    (body : List UInt8) : Prop where
  ethertype : getBe16 (frame.offset 12) = ptpEthertype
  msgType : frame 14 = 0x10 ||| (msgType &&& 0x0F)
  domain : frame 18 = gptpDomain
  port : frame.Holds 34 (g.clockId.toList ++ be16 g.portNumber)
  seqId : getBe16 (frame.offset 44) = seqId
  body : frame.Holds 48 body

theorem ptpFrame_carries (slot : Buffer) (g : Gptp) (msgType : UInt8) (seqId : UInt16)
    (body : List UInt8) :
    Carries (slot.copy 0 (ptpFrame g msgType seqId body)) g msgType seqId body := by
  have hholds := Buffer.holds_copy slot (ptpFrame g msgType seqId body)
  generalize slot.copy 0 (ptpFrame g msgType seqId body) = b at hholds ⊢
  unfold ptpFrame buildEthHeader buildPtpHeader at hholds
  simp only [Buffer.holds_append, List.length_append, Vector.length_toList, be16_length,
    List.length_cons, List.length_nil, List.length_replicate] at hholds
  obtain ⟨⟨⟨⟨-, -⟩, htype⟩, ⟨⟨⟨⟨⟨⟨⟨hmsg, -⟩, hdomain⟩, -⟩, -⟩, hclock⟩, hport⟩, hseq⟩, -⟩, hbody⟩ :=
    hholds
  refine ⟨htype.getBe16, hmsg 0 Nat.two_pos, hdomain 0 Nat.two_pos, ?_, hseq.getBe16, hbody⟩
  rw [Buffer.holds_append, Vector.length_toList]
  exact ⟨hclock, hport⟩

theorem ptpFrame_length (g : Gptp) (msgType : UInt8) (seqId : UInt16) {body : List UInt8}
    (h : body.length = 20) : (ptpFrame g msgType seqId body).length = 68 := by
  simp only [ptpFrame, buildEthHeader, buildPtpHeader, List.length_append, Vector.length_toList,
    be16_length, List.length_cons, List.length_nil, List.length_replicate, h]

section Message

variable {frame : Buffer} {g : Gptp} {seqId : UInt16} {body : List UInt8}

theorem Carries.sequence {msgType : UInt8} (h : Carries frame g msgType seqId body) :
    getBe16 ((frame.offset ethHeaderLen).offset ptpOffSeqId) = seqId := h.seqId

/-- The checks of `gptp_process_rx` pass. -/
theorem Carries.checked {msgType : UInt8} (h : Carries frame g msgType seqId body)
    (htype : (0x10 ||| (msgType &&& 0x0F)) >>> 4 = 0x1) :
    ¬ (68 < ethHeaderLen + ptpHeaderLen ∨ getBe16 (frame.offset 12) ≠ ptpEthertype ∨
      (frame.offset ethHeaderLen) ptpOffMsgType >>> 4 ≠ 0x1 ∨
      (frame.offset ethHeaderLen) ptpOffDomain ≠ gptpDomain) := by
  have hmsg : (frame.offset ethHeaderLen) ptpOffMsgType = 0x10 ||| (msgType &&& 0x0F) := h.msgType
  have hdomain : (frame.offset ethHeaderLen) ptpOffDomain = gptpDomain := h.domain
  rw [h.ethertype, hmsg, htype, hdomain]
  decide

theorem Carries.request (h : Carries frame g ptpMsgPdelayReq seqId body) :
    ptpMessage frame 68 = some .pdelayReq := by
  have hmsg : (frame.offset ethHeaderLen) ptpOffMsgType = _ := h.msgType
  unfold ptpMessage
  dsimp only
  rw [if_neg (h.checked (by decide)), hmsg]
  rfl

theorem Carries.response (h : Carries frame g ptpMsgPdelayResp seqId body) :
    ptpMessage frame 68 = some .pdelayResp := by
  have hmsg : (frame.offset ethHeaderLen) ptpOffMsgType = _ := h.msgType
  unfold ptpMessage
  dsimp only
  rw [if_neg (h.checked (by decide)), hmsg]
  rfl

theorem Carries.followUp (h : Carries frame g ptpMsgPdelayRespFup seqId body) :
    ptpMessage frame 68 = some .pdelayRespFup := by
  have hmsg : (frame.offset ethHeaderLen) ptpOffMsgType = _ := h.msgType
  unfold ptpMessage
  dsimp only
  rw [if_neg (h.checked (by decide)), hmsg]
  rfl

/-- The timestamp at the head of a body, of a clock below 2^48 seconds. -/
theorem Carries.timestamp {msgType : UInt8} {ts : PtpTimestamp} {rest : List UInt8}
    (h : Carries frame g msgType seqId (putPtpTs ts ++ rest)) (hts : ts.seconds.toNat < 2 ^ 48) :
    getPtpTs ((frame.offset ethHeaderLen).offset ptpHeaderLen) = ts := by
  have hbody := h.body
  rw [putPtpTs, List.append_assoc, Buffer.holds_append, Buffer.holds_append] at hbody
  obtain ⟨hseconds, hnanoseconds, -⟩ := hbody
  have hsec : getBe48 ((frame.offset ethHeaderLen).offset ptpHeaderLen) = ts.seconds :=
    hseconds.getBe48 hts
  have hns : getBe32 (((frame.offset ethHeaderLen).offset ptpHeaderLen).offset 6) =
      ts.nanoseconds := hnanoseconds.getBe32
  rw [getPtpTs, hsec, hns]

end Message

-- ---------------------------------------------------------------------------
-- Messages
-- ---------------------------------------------------------------------------

/-- What measurements leave behind for later ones. -/
structure History where
  nrrPpb : Int32
  meanPathDelayNs : Int64
  prevT3Ns : Int64
  prevT4Ns : Int64
  pdelayPairCount : UInt32
  pdelayOutlierCount : UInt32

def history (g : Gptp) : History :=
  ⟨g.nrrPpb, g.meanPathDelayNs, g.prevT3Ns, g.prevT4Ns, g.pdelayPairCount, g.pdelayOutlierCount⟩

/-- A port that has sent its request. -/
structure Requested (g g' : Gptp) (t1 : PtpTimestamp) : Prop where
  t1 : g'.pdelayT1 = t1
  seqId : g'.pdelaySeqId = g.pdelaySeqId
  clockId : g'.clockId = g.clockId
  history : history g' = history g

theorem poll_due {g : Gptp} {tsu : Tsu} (h : pdelayDue g tsu) :
    Requested g (gptpPoll g tsu).1 tsu.txTs ∧ (gptpPoll g tsu).2 =
      [.send (ptpFrame g ptpMsgPdelayReq g.pdelaySeqId (List.replicate 20 0))] := by
  have hpoll : gptpPoll g tsu = (syncTimeout (gptpSendPdelayReq (pdelayLost g) tsu).1 tsu.uptimeMs,
      (gptpSendPdelayReq (pdelayLost g) tsu).2) := by
    rw [gptpPoll, if_pos h]
  rw [hpoll]
  unfold syncTimeout pdelayLost
  constructor
  · split <;> split <;> exact ⟨rfl, rfl, rfl, rfl⟩
  · split <;> rfl

theorem poll_idle {g : Gptp} {tsu : Tsu} (h : ¬ pdelayDue g tsu) :
    history (gptpPoll g tsu).1 = history g ∧ (gptpPoll g tsu).2 = [] := by
  have hpoll : gptpPoll g tsu = (syncTimeout g tsu.uptimeMs, []) := by
    rw [gptpPoll, if_neg h]
  rw [hpoll]
  unfold syncTimeout
  split <;> exact ⟨rfl, rfl⟩

/-- The body that answers a request: a time and the port that asked. -/
def answerBody (g : Gptp) (ts : PtpTimestamp) : List UInt8 :=
  putPtpTs ts ++ (g.clockId.toList ++ be16 g.portNumber)

theorem answerBody_length (g : Gptp) (ts : PtpTimestamp) : (answerBody g ts).length = 20 := by
  simp only [answerBody, putPtpTs, List.length_append, Vector.length_toList, be16_length,
    be32_length]
  rfl

/-- A request is answered with its arrival and with the response's egress. -/
theorem receive_request (g r : Gptp) (slot : Buffer) (seqId : UInt16) (tsu : Tsu) :
    (receive r slot (ptpFrame g ptpMsgPdelayReq seqId (List.replicate 20 0)) tsu).2 =
      [.send (ptpFrame r ptpMsgPdelayResp seqId (answerBody g tsu.rxTs)),
        .send (ptpFrame r ptpMsgPdelayRespFup seqId (answerBody g tsu.txTs))] := by
  have hcarries := ptpFrame_carries slot g ptpMsgPdelayReq seqId (List.replicate 20 0)
  rw [receive, ptpFrame_length _ _ _ List.length_replicate]
  generalize slot.copy 0 _ = frame at hcarries ⊢
  obtain ⟨rx, hrx⟩ := gptpProcessRx_eq r frame 68 tsu
  rw [hrx, hcarries.request, processPtp, processPdelayReq, gptpSendPdelayResp,
    gptpSendPdelayRespFup, gptpSendAnswer, gptpSendAnswer, hcarries.sequence]
  have hport : ((frame.offset ethHeaderLen).offset ptpOffSrcPortId).take 10 =
      g.clockId.toList ++ be16 g.portNumber := by
    have hholds : (frame.offset ethHeaderLen).Holds ptpOffSrcPortId
        (g.clockId.toList ++ be16 g.portNumber) := Buffer.holds_offset.mpr hcarries.port
    have htake := hholds.take
    rwa [List.length_append, Vector.length_toList, be16_length] at htake
  rw [hport]
  rfl

/-- A port that has taken in the response to its request. -/
def holdResponse (g : Gptp) (t2 t4 : PtpTimestamp) (rx : RxCounters) : Gptp :=
  { g with pdelayT4 := t4, pdelayT2 := t2, pdelayRespReceived := true, rx := rx }

/-- The response to the port's own request is taken in. -/
theorem receive_response {g asker : Gptp} (r : Gptp) (slot : Buffer) {t2 : PtpTimestamp}
    (tsu : Tsu) (hclockId : asker.clockId = g.clockId) (ht2 : t2.seconds.toNat < 2 ^ 48) :
    ∃ rx, (receive g slot
        (ptpFrame r ptpMsgPdelayResp g.pdelaySeqId (answerBody asker t2)) tsu).1 =
      holdResponse g t2 tsu.rxTs rx := by
  have hcarries := ptpFrame_carries slot r ptpMsgPdelayResp g.pdelaySeqId (answerBody asker t2)
  rw [receive, ptpFrame_length _ _ _ (answerBody_length asker t2)]
  generalize slot.copy 0 _ = frame at hcarries ⊢
  obtain ⟨rx, hrx⟩ := gptpProcessRx_eq g frame 68 tsu
  refine ⟨rx, ?_⟩
  have hclock : ((frame.offset ethHeaderLen).offset (ptpHeaderLen + 10)).bytes 8 = g.clockId := by
    have hbody := hcarries.body
    rw [answerBody, hclockId, Buffer.holds_append, Buffer.holds_append] at hbody
    exact Buffer.Holds.bytes (Buffer.holds_offset.mpr (Buffer.holds_offset.mpr hbody.2.1))
  have hmatches : pdelayRespMatches { g with rx := rx } (frame.offset ethHeaderLen) = true := by
    rw [pdelayRespMatches, hcarries.sequence, hclock, beq_self_eq_true, beq_self_eq_true]
    rfl
  rw [hrx, hcarries.response, processPtp, processPdelayResp, if_pos hmatches,
    hcarries.timestamp ht2]
  rfl

/-- The Follow_Up of the response held completes the measurement. -/
theorem receive_followUp {g : Gptp} (r : Gptp) (slot : Buffer) {t3 : PtpTimestamp}
    (asker : Gptp) (tsu : Tsu) (hreceived : g.pdelayRespReceived)
    (ht3 : t3.seconds.toNat < 2 ^ 48) :
    ∃ rx ptp, getPtpTs (ptp.offset ptpHeaderLen) = t3 ∧
      pdelayRespFupMatches { g with rx := rx } ptp ∧
      (receive g slot (ptpFrame r ptpMsgPdelayRespFup g.pdelaySeqId (answerBody asker t3)) tsu).1 =
        processPdelayRespFup { g with rx := rx } ptp := by
  have hcarries := ptpFrame_carries slot r ptpMsgPdelayRespFup g.pdelaySeqId (answerBody asker t3)
  rw [receive, ptpFrame_length _ _ _ (answerBody_length asker t3)]
  generalize slot.copy 0 _ = frame at hcarries ⊢
  obtain ⟨rx, hrx⟩ := gptpProcessRx_eq g frame 68 tsu
  refine ⟨rx, frame.offset ethHeaderLen, hcarries.timestamp ht3, ?_, ?_⟩
  · have hreceived' : ({ g with rx := rx } : Gptp).pdelayRespReceived = true := hreceived
    rw [pdelayRespFupMatches, hcarries.sequence, beq_self_eq_true, hreceived']
    rfl
  · rw [hrx, hcarries.followUp, processPtp]

-- ---------------------------------------------------------------------------
-- The measurement
-- ---------------------------------------------------------------------------

theorem stamp_ns (ns : Nat) : gptpTsDiffNs (stamp ns) {} = Int64.ofNat ns := by
  have hlt : ns % 1000000000 < UInt32.size :=
    Nat.lt_trans (Nat.mod_lt _ (by decide)) (by decide)
  have hns : (stamp ns).nanoseconds.toUInt64.toInt64 = Int64.ofNat (ns % 1000000000) := by
    show (UInt32.ofNat (ns % 1000000000)).toUInt64.toInt64 = _
    rw [UInt32.toUInt64_ofNat' hlt]
    rfl
  have hsec : (stamp ns).seconds.toInt64 = Int64.ofNat (ns / 1000000000) := rfl
  have hsplit : Int64.ofNat ns =
      Int64.ofNat (ns / 1000000000) * 1000000000 + Int64.ofNat (ns % 1000000000) := by
    conv_lhs => rw [← Nat.div_add_mod' ns 1000000000, Int64.ofNat_add, Int64.ofNat_mul]
    rfl
  have hzero : gptpTsDiffNs (stamp ns) {} = (Int64.ofNat (ns / 1000000000) - 0) * 1000000000 +
      (Int64.ofNat (ns % 1000000000) - 0) := by
    rw [← hns, ← hsec]
    rfl
  rw [hzero, Int64.sub_zero, Int64.sub_zero, hsplit]

theorem stamp_seconds {ns : Nat} (h : ns < 8589934592 * 1000000000) :
    (stamp ns).seconds.toNat < 2 ^ 48 := by
  have hdiv : ns / 1000000000 < 8589934592 := Nat.div_lt_of_lt_mul (by omega)
  show (UInt64.ofNat (ns / 1000000000)).toNat < 2 ^ 48
  rw [UInt64.toNat_ofNat', Nat.mod_eq_of_lt (by omega)]
  omega

/-- The responder's reading as an integer. -/
theorem theirs_ns {l : Link} {ns : Nat} (h : 0 ≤ ns + l.offset) :
    Int64.ofNat (l.theirs ns) = Int64.ofInt (ns + l.offset) := by
  rw [← Int64.ofInt_eq_ofNat, Link.theirs, Int.toNat_of_nonneg h]

/-- The history of exact measurements: the times of the last one are as far
apart as those of any other. -/
structure Settled (l : Link) (h : History) : Prop where
  nrr : h.nrrPpb = 0
  mean : h.meanPathDelayNs = 0 ∨ h.meanPathDelayNs = Int64.ofNat l.delay
  paired : h.pdelayPairCount = 0 ∨
    h.prevT4Ns - h.prevT3Ns = Int64.ofInt (l.delay - l.offset)

theorem half_delay {d : Nat} (h : d < 20000) : Int64.ofInt (2 * d) / 2 = Int64.ofNat d := by
  have hdouble : Int64.ofInt (2 * d) = Int64.ofNat (2 * d) := Int64.ofInt_eq_ofNat (n := 2 * d)
  have hdiv := Int64.ofNat_div (a := 2 * d) (b := 2) (by omega) (by decide)
  rw [hdouble, ← Nat.mul_div_cancel_left d (n := 2) (by decide), hdiv, Nat.mul_div_cancel_left]
  · rfl
  · decide

/-- The mean of the delay and the delay. -/
theorem mean_delay {d : Nat} (h : d < 20000) :
    (Int64.ofNat d * 7 + Int64.ofNat d) / 8 = Int64.ofNat d := by
  have hsum : Int64.ofNat d * 7 + Int64.ofNat d = Int64.ofNat (8 * d) := by
    rw [Int64.ofNat_mul]
    have height : Int64.ofNat 8 = 8 := rfl
    rw [height]
    grind
  have hdiv := Int64.ofNat_div (a := 8 * d) (b := 8) (by omega) (by decide)
  rw [hsum]
  rw [Nat.mul_div_cancel_left d (by decide)] at hdiv
  exact hdiv.symm

section Measurement

variable {l : Link} {x : Exchange}

/-- The four times of an exchange. -/
theorem InTime.times (h : InTime l x) :
    Int64.ofNat (x.t4 l) - Int64.ofNat x.t1 -
        (Int64.ofNat (l.theirs (x.answer l)) - Int64.ofNat (l.theirs (x.arrival l))) =
      Int64.ofInt (2 * l.delay) ∧
    Int64.ofNat (x.t4 l) - Int64.ofNat (l.theirs (x.answer l)) =
      Int64.ofInt (l.delay - l.offset) := by
  have hstarted := h.started
  have hanswer : (0 : Int) ≤ x.answer l + l.offset := by
    unfold Exchange.answer
    omega
  rw [theirs_ns hstarted, theirs_ns hanswer, ← Int64.ofInt_eq_ofNat, ← Int64.ofInt_eq_ofNat,
    ← Int64.ofInt_sub, ← Int64.ofInt_sub, ← Int64.ofInt_sub, ← Int64.ofInt_sub]
  constructor
  · refine congrArg Int64.ofInt ?_
    unfold Exchange.t4 Exchange.answer Exchange.arrival
    push_cast
    ring
  · refine congrArg Int64.ofInt ?_
    unfold Exchange.t4
    push_cast
    ring

/-- Both clocks have run alike since the last measurement. -/
theorem nextNrrPpb_settled {g : Gptp} (h : Settled l (history g)) {t3Ns t4Ns : Int64}
    (htimes : t4Ns - t3Ns = Int64.ofInt (l.delay - l.offset)) : nextNrrPpb g t3Ns t4Ns = 0 := by
  have hnrr : g.nrrPpb = 0 := h.nrr
  unfold nextNrrPpb
  dsimp only
  split
  · rename_i hpaired
    have hcount : g.pdelayPairCount ≠ 0 := fun hzero => by
      rw [hzero] at hpaired
      exact absurd hpaired.1 (by decide)
    have hprev : g.prevT4Ns - g.prevT3Ns = Int64.ofInt (l.delay - l.offset) :=
      h.paired.resolve_left hcount
    have hsame : t3Ns - g.prevT3Ns - (t4Ns - g.prevT4Ns) = 0 := by
      rw [← hprev] at htimes
      grind
    rw [hsame, hnrr, Int64.zero_mul, Int64.zero_div]
    rfl
  · exact hnrr

theorem pdelayNs_settled (hd : l.delay < 20000) {t1Ns t2Ns t3Ns t4Ns : Int64}
    (h : t4Ns - t1Ns - (t3Ns - t2Ns) = Int64.ofInt (2 * l.delay)) :
    pdelayNs t1Ns t2Ns t3Ns t4Ns 0 = Int64.ofNat l.delay := by
  have hzero : (t4Ns - t1Ns) * (0 : Int32).toInt64 / 1000000000 = 0 := by simp
  rw [pdelayNs, hzero, Int64.add_zero, h, half_delay hd]

/-- The times of the exchange, as the port holds them when the Follow_Up
arrives. -/
structure Timed (l : Link) (x : Exchange) (g : Gptp) : Prop where
  t1 : g.pdelayT1 = stamp x.t1
  t2 : g.pdelayT2 = stamp (l.theirs (x.arrival l))
  t4 : g.pdelayT4 = stamp (x.t4 l)

theorem delay_accepted (hd : l.delay < 20000) :
    Int64.ofNat l.delay ≥ 0 ∧ Int64.ofNat l.delay < 20000 := by
  have htoInt : (Int64.ofNat l.delay).toInt = l.delay :=
    Int64.toInt_ofNat_of_lt (Nat.lt_trans hd (by decide))
  constructor
  · rw [ge_iff_le, Int64.le_iff_toInt_le, htoInt]
    exact Int.natCast_nonneg _
  · rw [Int64.lt_iff_toInt_lt, htoInt]
    exact Int.ofNat_lt.mpr hd

/-- A completed exchange measures the delay and leaves the history settled. -/
theorem measured (hd : l.delay < 20000) (htime : InTime l x) {g : Gptp} {ptp : Buffer}
    (htimed : Timed l x g) (hmatches : pdelayRespFupMatches g ptp)
    (ht3 : getPtpTs (ptp.offset ptpHeaderLen) = stamp (l.theirs (x.answer l)))
    (h : Settled l (history g)) :
    Measures l g (processPdelayRespFup g ptp) ∧ Settled l (history (processPdelayRespFup g ptp)) := by
  obtain ⟨hsample, hapart⟩ := htime.times
  have hnrr : nextNrrPpb g (gptpTsDiffNs (getPtpTs (ptp.offset ptpHeaderLen)) {})
      (gptpTsDiffNs g.pdelayT4 {}) = 0 := by
    rw [ht3, htimed.t4, stamp_ns, stamp_ns]
    exact nextNrrPpb_settled h hapart
  have hdelay : pdelayNs (gptpTsDiffNs g.pdelayT1 {}) (gptpTsDiffNs g.pdelayT2 {})
      (gptpTsDiffNs (getPtpTs (ptp.offset ptpHeaderLen)) {}) (gptpTsDiffNs g.pdelayT4 {}) 0 =
        Int64.ofNat l.delay := by
    rw [htimed.t1, htimed.t2, ht3, htimed.t4, stamp_ns, stamp_ns, stamp_ns, stamp_ns]
    exact pdelayNs_settled hd hsample
  have hmean : (if g.meanPathDelayNs = 0 then Int64.ofNat l.delay
      else (g.meanPathDelayNs * 7 + Int64.ofNat l.delay) / 8) = Int64.ofNat l.delay := by
    split
    · rfl
    · rename_i hnonzero
      have hheld : g.meanPathDelayNs = Int64.ofNat l.delay := h.mean.resolve_left hnonzero
      rw [hheld, mean_delay hd]
  have hfields : (processPdelayRespFup g ptp).nrrPpb = 0 ∧
      (processPdelayRespFup g ptp).meanPathDelayNs = Int64.ofNat l.delay ∧
      (processPdelayRespFup g ptp).pdelayOutlierCount = g.pdelayOutlierCount := by
    rw [processPdelayRespFup, if_pos hmatches]
    dsimp only
    rw [hnrr, hdelay, if_pos (delay_accepted hd), if_pos (delay_accepted hd), hmean]
    exact ⟨rfl, rfl, rfl⟩
  have hwritten : sample (processPdelayRespFup g ptp) =
        pdelayNs (gptpTsDiffNs g.pdelayT1 {}) (gptpTsDiffNs g.pdelayT2 {})
          (gptpTsDiffNs (getPtpTs (ptp.offset ptpHeaderLen)) {}) (gptpTsDiffNs g.pdelayT4 {})
          (processPdelayRespFup g ptp).nrrPpb ∧
      (processPdelayRespFup g ptp).pdelayFupReceived = true ∧
      (processPdelayRespFup g ptp).pdelayPairCount = g.pdelayPairCount + 1 ∧
      (processPdelayRespFup g ptp).pdelaySeqId = g.pdelaySeqId + 1 ∧
      (processPdelayRespFup g ptp).prevT4Ns - (processPdelayRespFup g ptp).prevT3Ns =
        gptpTsDiffNs g.pdelayT4 {} - gptpTsDiffNs (getPtpTs (ptp.offset ptpHeaderLen)) {} := by
    rw [processPdelayRespFup, if_pos hmatches]
    exact ⟨rfl, rfl, rfl, rfl, rfl⟩
  obtain ⟨hnrr', hmean', houtliers⟩ := hfields
  obtain ⟨hsample', hfup, hpairs, hseq, hprev⟩ := hwritten
  constructor
  · refine ⟨⟨hfup, hpairs, hseq⟩, ?_, hmean', houtliers, hnrr'⟩
    rw [hsample', hnrr', hdelay]
  · refine ⟨hnrr', .inr hmean', .inr (hprev.trans ?_)⟩
    rw [ht3, htimed.t4, stamp_ns, stamp_ns]
    exact hapart

end Measurement

-- ---------------------------------------------------------------------------
-- Exchanges
-- ---------------------------------------------------------------------------

theorem Settled.congr {l : Link} {h h' : History} (hs : Settled l h) (heq : h' = h) :
    Settled l h' := heq ▸ hs

theorem InTime.theirs_lt {l : Link} {x : Exchange} (h : InTime l x) :
    l.theirs (x.arrival l) < 8589934592 * 1000000000 ∧
      l.theirs (x.answer l) < 8589934592 * 1000000000 := by
  have hresponder := h.responder
  unfold Link.theirs Exchange.answer at *
  omega

/-- The port once it has sent its request: both answers arrive. -/
theorem answered {l : Link} {x : Exchange} (hd : l.delay < 20000) (htime : InTime l x)
    {g asker : Gptp} (r : Gptp) (ht1 : g.pdelayT1 = stamp x.t1) (hclockId : asker.clockId = g.clockId)
    (h : Settled l (history g)) :
    let p := answerRequest l ⟨g, r⟩ x
      (ptpFrame asker ptpMsgPdelayReq g.pdelaySeqId (List.replicate 20 0))
    Measures l g p.requester ∧ Settled l (history p.requester) := by
  obtain ⟨harrival, hanswer⟩ := htime.theirs_lt
  intro p
  obtain ⟨rx, hresponse⟩ := receive_response r x.responseSlot (x.response l) hclockId
    (stamp_seconds harrival)
  obtain ⟨rx', ptp, ht3, hmatches, hfollowUp⟩ := receive_followUp
    (g := holdResponse g (stamp (l.theirs (x.arrival l))) (x.response l).rxTs rx) r x.followUpSlot
    asker x.followUpTsu rfl (stamp_seconds hanswer)
  have hp : p.requester = (receive (receive g x.responseSlot
      (ptpFrame r ptpMsgPdelayResp g.pdelaySeqId
        (answerBody asker (stamp (l.theirs (x.arrival l))))) (x.response l)).1 x.followUpSlot
      (ptpFrame r ptpMsgPdelayRespFup g.pdelaySeqId
        (answerBody asker (stamp (l.theirs (x.answer l))))) x.followUpTsu).1 := by
    show (answerRequest l ⟨g, r⟩ x _).requester = _
    rw [answerRequest]
    dsimp only
    rw [receive_request]
    rfl
  have hboth := congrArg (fun q => (receive q x.followUpSlot
    (ptpFrame r ptpMsgPdelayRespFup g.pdelaySeqId
      (answerBody asker (stamp (l.theirs (x.answer l))))) x.followUpTsu).1) hresponse
  have hmeasured := hp.trans (hboth.trans hfollowUp)
  have htimed : Timed l x { holdResponse g (stamp (l.theirs (x.arrival l)))
      (x.response l).rxTs rx with rx := rx' } := ⟨ht1, rfl, rfl⟩
  obtain ⟨hmeasures, hsettled⟩ := measured hd htime htimed hmatches ht3 (h.congr rfl)
  rw [hmeasured]
  exact ⟨⟨hmeasures.accepted, hmeasures.sample, hmeasures.mean, hmeasures.outliers,
    hmeasures.nrr⟩, hsettled⟩

/-- A poll that starts no exchange leaves the history as it is. -/
theorem step_idle {l : Link} {p : Ports} {x : Exchange} (h : ¬ pdelayDue p.requester x.poll) :
    history (step l p x).requester = history p.requester := by
  obtain ⟨hhistory, hsent⟩ := poll_idle h
  unfold step
  dsimp only
  rw [hsent]
  exact hhistory

theorem Measures.congr {l : Link} {g₀ g g' : Gptp} (h : Measures l g g')
    (hpairs : g.pdelayPairCount = g₀.pdelayPairCount) (hseqId : g.pdelaySeqId = g₀.pdelaySeqId)
    (houtliers : g.pdelayOutlierCount = g₀.pdelayOutlierCount) : Measures l g₀ g' := by
  obtain ⟨⟨hfup, hpaired, hnext⟩, hsample, hmean, hrejected, hnrr⟩ := h
  rw [hpairs] at hpaired
  rw [hseqId] at hnext
  rw [houtliers] at hrejected
  exact ⟨⟨hfup, hpaired, hnext⟩, hsample, hmean, hrejected, hnrr⟩

/-- A poll that a request is due at starts an exchange, which is measured. -/
theorem step_due {l : Link} {p : Ports} {x : Exchange} (hd : l.delay < 20000)
    (htime : InTime l x) (h : Settled l (history p.requester))
    (hdue : pdelayDue p.requester x.poll) :
    Measures l p.requester (step l p x).requester ∧
      Settled l (history (step l p x).requester) := by
  obtain ⟨hrequested, hsent⟩ := poll_due hdue
  have hstep : step l p x = answerRequest l ⟨(gptpPoll p.requester x.poll).1, p.responder⟩ x
      (ptpFrame p.requester ptpMsgPdelayReq p.requester.pdelaySeqId (List.replicate 20 0)) := by
    rw [step, hsent]
    rfl
  rw [hstep]
  generalize (gptpPoll p.requester x.poll).1 = g at hrequested
  obtain ⟨ht1, hseqId, hclockId, hhistory⟩ := hrequested
  obtain ⟨hmeasures, hsettled⟩ :=
    answered hd htime p.responder ht1 hclockId.symm (h.congr hhistory)
  rw [hseqId] at hmeasures hsettled
  exact ⟨hmeasures.congr (congrArg History.pdelayPairCount hhistory) hseqId
    (congrArg History.pdelayOutlierCount hhistory), hsettled⟩

/-- In every run of exchanges, each is accepted and measures exactly the
delay. -/
theorem exchanges_exact (l : Link) (hd : l.delay < 20000) (requester responder : MacAddr)
    (run : List Exchange) (h : ∀ x ∈ run, InTime l x) :
    (machine l requester responder).Steps (Exact l) run := by
  have hsteps : (machine l requester responder).Steps (fun _ x => InTime l x) run :=
    Machine.steps_of_mem h
  refine hsteps.of_invariant (fun p => Settled l (history p.requester)) ?_ ?_ ?_
  · exact ⟨rfl, .inl rfl, .inl rfl⟩
  · intro p x hsettled htime
    by_cases hdue : pdelayDue p.requester x.poll
    · exact (step_due hd htime hsettled hdue).2
    · exact hsettled.congr (step_idle hdue)
  · exact fun p x hsettled htime hdue => (step_due hd htime hsettled hdue).1

/-- 100 ns, to a responder that is five seconds behind. -/
def shortLink : Link := ⟨100, -5000000000⟩

/-- Requests at 7 s and 8 s, answered in 300 µs. -/
def exchangeAt (seconds : Nat) : Exchange where
  t1 := seconds * 1000000000
  turnaround := 300000
  pollTsu := { uptimeMs := 1000 * seconds.toUInt32, laterUptimeMs := 1000 * seconds.toUInt32 }
  requestTsu := {}
  responseTsu := {}
  followUpTsu := {}
  requestSlot := fun _ => 0
  responseSlot := fun _ => 0
  followUpSlot := fun _ => 0

def twoExchanges : List Exchange := [exchangeAt 7, exchangeAt 8]

theorem twoExchanges_exact :
    (machine shortLink boardMac grandmaster).Steps (Exact shortLink) twoExchanges ∧
      ((machine shortLink boardMac grandmaster).run twoExchanges).requester.meanPathDelayNs = 100 ∧
      ((machine shortLink boardMac grandmaster).run twoExchanges).requester.pdelayPairCount = 2 := by
  refine ⟨exchanges_exact shortLink (by decide) boardMac grandmaster twoExchanges ?_,
    by decide +kernel, by decide +kernel⟩
  intro x hx
  rcases List.mem_pair.mp hx with rfl | rfl
  · exact ⟨by decide, by decide, by decide⟩
  · exact ⟨by decide, by decide, by decide⟩

end AvbAes3.PathDelay
