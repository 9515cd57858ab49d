import AvbAes3.GptpRun
import AvbAes3.EthMac
import AvbAes3.TxFrameArbiter

/-!
# Egress timestamps

The firmware starts a Pdelay_Req or Pdelay_Resp and then reads the TSU's
transmit timestamp, a register that is written when the frame's first beat
has passed the arbiter. An `Egress` is the path between the two in a clock
cycle: the SRAM reader's FIFO, the arbiter, the `tx_sof` registers and the
register, which here also knows the frame it was latched for.

`egress_own_iff`: every timestamp read is that of the frame just sent, whole,
exactly in the runs in which the CPU comes to each reading no earlier than
two cycles after the frame's first beat was accepted. Nothing in the code
waits for that.
-/

namespace AvbAes3.EgressStamp

/-- A frame has an Ethernet header at least. -/
abbrev FrameLength := { length : Nat // ethHeaderLen ≤ length }

/-- The 32-bit beats of a frame. -/
def beats (length : FrameLength) : Nat := (length.val + 3) / 4

/-- `ETH_HEADER_LEN + msg_len` of the peer delay messages. -/
def pdelayLength : FrameLength := ⟨68, by decide⟩

/-- A command of the SRAM reader: the frame's number, and its beats. -/
structure Command where
  frame : Nat
  length : FrameLength
  sent : Nat
  deriving DecidableEq

/-- The transmit timestamp, with the frame it was latched for. -/
structure TxTs where
  time : PtpTimestamp
  frame : Option Nat
  deriving DecidableEq

/-- Where the firmware is: outside `gptp_read_tx_timestamp`, or at one of the
register reads in it. -/
inductive Cpu
  | outside
  | secondsHi
  | secondsLo (hi : UInt32)
  | nsec (seconds : UInt64)
  deriving DecidableEq

/-- What the CPU does on the bus in a cycle. -/
inductive Access
  | idle
  /-- `eth_send` comes to write the start bit. -/
  | start (length : FrameLength)
  /-- The same in `gptp_send_pdelay_req` or `gptp_send_pdelay_resp`, after
  which the timestamp is read. -/
  | startPdelay
  /-- The next register read of `gptp_read_tx_timestamp`. -/
  | read
  deriving DecidableEq

/-- The inputs of one cycle: the bus access, whether the SRAM reader presents
a beat of its oldest frame, what the AAF packetizer offers, the MAC core's
ready and the TSU's time. -/
structure Cycle where
  access : Access
  present : Bool
  aaf : Beat Unit
  ready : Bool
  time : PtpTimestamp

structure Egress where
  arbiter : TxFrameArbiter 2
  txSof : TxSof
  queue : List Command
  txTs : TxTs
  cpu : Cpu
  /-- The number of this cycle. -/
  now : Nat
  /-- The number of frames started. -/
  started : Nat
  /-- The cycle in which the first beat of the last frame was accepted. -/
  began : Option Nat

def Egress.init : Egress where
  arbiter := .init
  txSof := ⟨false, false⟩
  queue := []
  txTs := ⟨{}, none⟩
  cpu := .outside
  now := 0
  started := 0
  began := none

-- ---------------------------------------------------------------------------
-- One clock cycle
-- ---------------------------------------------------------------------------

/-- The SRAM reader's endpoint. -/
def Egress.readerBeat (s : Egress) (present : Bool) : Beat Unit :=
  match s.queue with
  | [] => ⟨false, false, ()⟩
  | c :: _ => ⟨present, c.sent + 1 == beats c.length, ()⟩

/-- `[mac.interface.source, aaf_pkt.source]` -/
def Egress.sources (s : Egress) (c : Cycle) : Fin 2 → Beat Unit := ![s.readerBeat c.present, c.aaf]

/-- The arbiter takes a beat of the oldest frame. -/
def Egress.takes (s : Egress) (c : Cycle) : Bool := s.arbiter.accepts (s.sources c) c.ready 0

/-- `tx_sof & firmware_granted` -/
def Egress.txLatch (s : Egress) : Bool := s.txSof.sof && s.arbiter.firmwareGranted

/-- The reader's queue once its beat is taken or not. -/
def Egress.served (s : Egress) (c : Cycle) : List Command :=
  match s.queue with
  | [] => []
  | f :: rest =>
    if s.takes c then
      if f.sent + 1 == beats f.length then rest else { f with sent := f.sent + 1 } :: rest
    else f :: rest

/-- The length of the frame that the bus access starts; `eth_send` waits
while the reader's FIFO is full. -/
def Egress.starts (s : Egress) (c : Cycle) : Option FrameLength :=
  if s.cpu = .outside ∧ s.queue.length < ethmacTxSlots then
    match c.access with
    | .start length => some length
    | .startPdelay => some pdelayLength
    | _ => none
  else none

def Egress.nextCpu (s : Egress) (c : Cycle) : Cpu :=
  match s.cpu, c.access with
  | .outside, .startPdelay => if s.queue.length < ethmacTxSlots then .secondsHi else .outside
  | .secondsHi, .read => .secondsLo (s.txTs.time.seconds >>> 32).toUInt32
  | .secondsLo hi, .read =>
    .nsec (hi.toUInt64 <<< 32 ||| s.txTs.time.seconds.toUInt32.toUInt64)
  | .nsec _, .read => .outside
  | cpu, _ => cpu

/-- The last frame's first beat is accepted in this cycle. -/
def Egress.begins (s : Egress) (c : Cycle) : Bool :=
  s.takes c && s.queue.length == 1 && s.queue.all (·.sent == 0)

def Egress.step (s : Egress) (c : Cycle) : Egress where
  arbiter := s.arbiter.step (s.sources c) c.ready
  txSof := s.txSof.step (s.arbiter.fires (s.sources c) c.ready) (s.sources c s.arbiter.sel).last
  queue := s.served c ++ (s.starts c).toList.map fun length => ⟨s.started, length, 0⟩
  txTs := if s.txLatch then ⟨c.time, s.queue.head?.map (·.frame)⟩ else s.txTs
  cpu := s.nextCpu c
  now := s.now + 1
  started := if (s.starts c).isSome then s.started + 1 else s.started
  began := if (s.starts c).isSome then none else if s.begins c then some s.now else s.began

def machine : Machine Egress Cycle where
  init := .init
  step := Egress.step

/-- The frame started last is the one whose time the register holds. -/
def Egress.own (s : Egress) : Prop := s.txTs.frame = some (s.started - 1)

/-- Each reading of the register gives the time latched for the frame just
sent; at the last of the three, what `gptp_send_pdelay_req` stores and what
goes into the Pdelay_Resp_Follow_Up is that time. -/
def Own (s : Egress) (c : Cycle) : Prop :=
  c.access = .read →
    match s.cpu with
    | .outside => True
    | .secondsHi => s.own
    | .secondsLo _ => s.own
    | .nsec seconds => s.own ∧
      ∀ g ptp tsu, tsu.txTs = ⟨seconds, s.txTs.time.nanoseconds⟩ →
        (gptpSendPdelayReq g tsu).1.pdelayT1 = s.txTs.time ∧
          (processPdelayReq g ptp tsu).2[1]? = some (gptpSendPdelayRespFup g ptp s.txTs.time)

/-- The first beat of the frame just sent was accepted two cycles ago or
more. -/
def Egress.settled (s : Egress) : Prop := ∃ cycle ∈ s.began, cycle + 2 ≤ s.now

/-- The CPU reads the timestamp no sooner than that. -/
def Waited (s : Egress) (c : Cycle) : Prop := c.access = .read → s.cpu ≠ .outside → s.settled

instance (s : Egress) : DecidablePred (Waited s) := fun c => by
  unfold Waited Egress.settled; infer_instance

-- ---------------------------------------------------------------------------
-- What a cycle does to the frames
-- ---------------------------------------------------------------------------

variable {s : Egress} {c : Cycle}

/-- The outcomes of a cycle for the arbiter, `tx_sof` and the oldest frame. -/
inductive PortStep (s : Egress) (c : Cycle) : Prop
  | beat (f : Command) (rest : List Command) (hq : s.queue = f :: rest)
      (hg : s.arbiter.grants 0 = true) (htakes : s.takes c = true)
      (hserved : s.served c = { f with sent := f.sent + 1 } :: rest)
      (harb : (s.step c).arbiter = s.arbiter)
      (hmore : f.sent + 1 ≠ beats f.length)
      (hsof : (s.step c).txSof = ⟨!s.txSof.active, true⟩)
  | lastBeat (f : Command) (rest : List Command) (hq : s.queue = f :: rest)
      (hg : s.arbiter.grants 0 = true) (htakes : s.takes c = true)
      (hserved : s.served c = rest)
      (harb : (s.step c).arbiter = { s.arbiter with busy := false })
      (hdone : f.sent + 1 = beats f.length)
      (hsof : (s.step c).txSof = ⟨!s.txSof.active, false⟩)
  | hold (htakes : s.takes c = false) (hserved : s.served c = s.queue)
      (harb : (s.step c).arbiter = s.arbiter) (hsof : (s.step c).txSof = ⟨false, s.txSof.active⟩)
  | grant (hfree : s.arbiter.busy = false) (htakes : s.takes c = false)
      (hserved : s.served c = s.queue) (hsof : (s.step c).txSof = ⟨false, s.txSof.active⟩)
  | other (hg : s.arbiter.grants 0 = false) (hbusy : s.arbiter.busy = true)
      (htakes : s.takes c = false) (hserved : s.served c = s.queue)
      (harb : (s.step c).arbiter = s.arbiter ∧ (s.step c).txSof.active = true ∨
        (s.step c).arbiter = { s.arbiter with busy := false } ∧
          (s.step c).txSof.active = false)

theorem served_of_not_takes (h : s.takes c = false) : s.served c = s.queue := by
  unfold Egress.served
  split <;> simp_all

theorem portStep (s : Egress) (c : Cycle) : PortStep s c := by
  by_cases htakes : s.takes c = true
  · -- the oldest frame's beat is taken
    obtain ⟨hbusy, hsel, hfires⟩ := TxFrameArbiter.fires_of_accepts htakes
    cases hq : s.queue with
    | nil =>
      simp [Egress.takes, TxFrameArbiter.accepts, Egress.sources, Egress.readerBeat, hq] at htakes
    | cons f rest =>
      have hg : s.arbiter.grants 0 = true := by simp [TxFrameArbiter.grants, hbusy, hsel]
      have hlast : (s.sources c s.arbiter.sel).last = (f.sent + 1 == beats f.length) := by
        simp [hsel, Egress.sources, Egress.readerBeat, hq]
      by_cases hdone : f.sent + 1 = beats f.length
      · refine .lastBeat f rest hq hg htakes ?_ ?_ hdone ?_
        · simp [Egress.served, hq, htakes, hdone]
        · exact TxFrameArbiter.step_last hbusy (by simp [hfires, hlast, hdone])
        · simp [Egress.step, TxSof.step, hfires, hlast, hdone]
      · refine .beat f rest hq hg htakes ?_ ?_ hdone ?_
        · simp [Egress.served, hq, htakes, hdone]
        · exact TxFrameArbiter.step_busy hbusy (by simp [hfires, hlast, hdone])
        · simp [Egress.step, TxSof.step, hfires, hlast, hdone]
  · have htakes : s.takes c = false := by simpa using htakes
    have hserved := served_of_not_takes htakes
    cases hbusy : s.arbiter.busy with
    | false =>
      refine .grant hbusy htakes hserved ?_
      simp [Egress.step, TxSof.step, TxFrameArbiter.fires, hbusy]
    | true =>
      cases hfires : s.arbiter.fires (s.sources c) c.ready with
      | false =>
        refine .hold htakes hserved ?_ ?_
        · exact TxFrameArbiter.step_busy hbusy (by simp [hfires])
        · simp [Egress.step, TxSof.step, hfires]
      | true =>
        -- a beat is accepted, but not from the reader
        have hg : s.arbiter.grants 0 = false := by
          by_contra hg
          simp only [TxFrameArbiter.grants, Bool.and_eq_true, beq_iff_eq, Bool.not_eq_false] at hg
          simp [Egress.takes, TxFrameArbiter.accepts, TxFrameArbiter.grants,
            TxFrameArbiter.fires, hg.1, hg.2] at htakes hfires
          simp_all
        refine .other hg hbusy htakes hserved ?_
        cases hlast : (s.sources c s.arbiter.sel).last with
        | true =>
          refine .inr ⟨TxFrameArbiter.step_last hbusy (by simp [hfires, hlast]), ?_⟩
          simp [Egress.step, TxSof.step, hfires, hlast]
        | false =>
          refine .inl ⟨TxFrameArbiter.step_busy hbusy (by simp [hlast]), ?_⟩
          simp [Egress.step, TxSof.step, hfires, hlast]

-- ---------------------------------------------------------------------------
-- The frames in the reader
-- ---------------------------------------------------------------------------

/-- Only the oldest frame is under way, and it is exactly while the arbiter
grants the reader with `tx_active` set. -/
structure Framed (s : Egress) : Prop where
  free : s.arbiter.busy = false → s.txSof.active = false
  sending : ∀ f ∈ s.queue.head?, 0 < f.sent →
    s.arbiter.grants 0 = true ∧ s.txSof.active = true
  active : s.arbiter.grants 0 = true → s.txSof.active = true → ∃ f ∈ s.queue.head?, 0 < f.sent
  waiting : ∀ f ∈ s.queue.tail, f.sent = 0
  unfinished : ∀ f ∈ s.queue, f.sent < beats f.length
  sof : s.txLatch = true → ∃ f ∈ s.queue.head?, f.sent = 1

theorem four_le_beats (length : FrameLength) : 4 ≤ beats length := by
  have h : 14 ≤ length.val := length.property
  unfold beats
  omega

/-- The frames the cycle adds to the queue. -/
def Egress.new (s : Egress) (c : Cycle) : List Command :=
  (s.starts c).toList.map fun length => ⟨s.started, length, 0⟩

theorem step_queue (s : Egress) (c : Cycle) : (s.step c).queue = s.served c ++ s.new c := rfl

theorem new_sent (h : f ∈ s.new c) : f.sent = 0 := by
  simp only [Egress.new, List.mem_map] at h
  obtain ⟨_, -, rfl⟩ := h
  rfl

theorem new_eq_nil (h : (s.starts c).isSome = false) : s.new c = [] := by
  simp only [Option.isSome_eq_false_iff, Option.isNone_iff_eq_none] at h
  simp [Egress.new, h]

theorem mem_step_queue (h : f ∈ (s.step c).queue) (hs : ∀ f ∈ s.served c, f.sent < beats f.length) :
    f.sent < beats f.length := by
  rw [step_queue] at h
  rcases List.mem_append.mp h with h | h
  · exact hs f h
  · rw [new_sent h]
    exact lt_of_lt_of_le (by decide) (four_le_beats f.length)

theorem mem_tail_append {l new : List Command} {f : Command} (h : f ∈ (l ++ new).tail)
    (hl : ∀ f ∈ l.tail, f.sent = 0) (hnew : ∀ f ∈ new, f.sent = 0) : f.sent = 0 := by
  cases l with
  | nil => exact hnew f (List.mem_of_mem_tail h)
  | cons _ rest =>
    rcases List.mem_append.mp h with h | h
    · exact hl f h
    · exact hnew f h

/-- The oldest frame after the cycle is that of the queue served, or a new
one. -/
theorem head_step_queue (h : f ∈ (s.step c).queue.head?) (hsent : f.sent ≠ 0) :
    f ∈ (s.served c).head? := by
  rw [step_queue] at h
  cases hserved : s.served c with
  | nil =>
    rw [hserved, List.nil_append] at h
    exact absurd (new_sent (List.mem_of_mem_head? h)) hsent
  | cons g rest => simpa [hserved] using h

theorem head_step_queue_of_served (h : f ∈ (s.served c).head?) : f ∈ (s.step c).queue.head? := by
  rw [step_queue]
  cases hserved : s.served c with
  | nil => simp [hserved] at h
  | cons g rest => simpa [hserved] using h

-- A cycle in which the reader's beat is not taken leaves the frames as they
-- were, behind them the new ones.

theorem Framed.waiting_kept (h : Framed s) (hserved : s.served c = s.queue) :
    ∀ f ∈ (s.step c).queue.tail, f.sent = 0 := by
  intro f hmem
  rw [step_queue, hserved] at hmem
  exact mem_tail_append hmem h.waiting fun _ => new_sent

theorem Framed.unfinished_kept (h : Framed s) (hserved : s.served c = s.queue) :
    ∀ f ∈ (s.step c).queue, f.sent < beats f.length :=
  fun _ hmem => mem_step_queue hmem (hserved.symm ▸ h.unfinished)

theorem unsent_kept (hserved : s.served c = s.queue) (hsent : ∀ f ∈ s.queue.head?, ¬ 0 < f.sent) :
    ∀ f ∈ (s.step c).queue.head?, ¬ 0 < f.sent := by
  intro f hmem hpos
  exact hsent f (hserved ▸ head_step_queue hmem (Nat.pos_iff_ne_zero.mp hpos)) hpos

theorem framed_step (h : Framed s) (c : Cycle) : Framed (s.step c) := by
  have hnew : ∀ f ∈ s.new c, f.sent = 0 := fun f => new_sent
  cases portStep s c with
  | beat f rest hq hg htakes hserved harb hmore hsof =>
    have hf : f.sent < beats f.length := h.unfinished f (by simp [hq])
    have hhead : (⟨f.frame, f.length, f.sent + 1⟩ : Command) ∈ (s.step c).queue.head? :=
      head_step_queue_of_served (by simp [hserved])
    refine ⟨?_, ?_, ?_, ?_, ?_, ?_⟩
    · intro hb
      rw [harb] at hb
      simp [TxFrameArbiter.grants, hb] at hg
    · intro _ _ _
      rw [harb, hsof]
      exact ⟨hg, rfl⟩
    · exact fun _ _ => ⟨_, hhead, Nat.succ_pos _⟩
    · intro g hmem
      rw [step_queue, hserved] at hmem
      exact mem_tail_append hmem (fun k hk => h.waiting k (by simpa [hq] using hk)) hnew
    · intro g hmem
      refine mem_step_queue hmem fun k hk => ?_
      rw [hserved] at hk
      rcases List.mem_cons.mp hk with rfl | hk
      · exact Nat.lt_of_le_of_ne hf hmore
      · exact h.unfinished k (by simp [hq, hk])
    · -- `tx_sof` is set when the frame was not under way
      intro hl
      refine ⟨_, hhead, ?_⟩
      simp only [Egress.txLatch, hsof, Bool.and_eq_true, Bool.not_eq_true'] at hl
      have hzero : ¬ 0 < f.sent := fun hpos => by
        have hact := (h.sending f (by simp [hq]) hpos).2
        rw [hl.1] at hact
        cases hact
      simpa using hzero
  | lastBeat f rest hq hg htakes hserved harb hdone hsof =>
    refine ⟨?_, ?_, ?_, ?_, ?_, ?_⟩
    · exact fun _ => by rw [hsof]
    · intro g hmem hpos
      have hmem' := head_step_queue hmem (Nat.pos_iff_ne_zero.mp hpos)
      rw [hserved] at hmem'
      have hz := h.waiting g (by simpa [hq] using List.mem_of_mem_head? hmem')
      omega
    · intro hg'
      simp [harb, TxFrameArbiter.grants] at hg'
    · intro g hmem
      rw [step_queue, hserved] at hmem
      refine mem_tail_append hmem (fun k hk => ?_) hnew
      exact h.waiting k (by simpa [hq] using List.mem_of_mem_tail hk)
    · intro g hmem
      refine mem_step_queue hmem fun k hk => h.unfinished k ?_
      rw [hserved] at hk
      simp [hq, hk]
    · intro hl
      simp [Egress.txLatch, TxFrameArbiter.firmwareGranted, harb, TxFrameArbiter.grants] at hl
  | hold htakes hserved harb hsof =>
    refine ⟨?_, ?_, ?_, ?_, ?_, ?_⟩
    · rw [harb, hsof]
      exact h.free
    · intro f hmem hpos
      rw [harb, hsof]
      exact h.sending f (hserved ▸ head_step_queue hmem (Nat.pos_iff_ne_zero.mp hpos)) hpos
    · intro hg hact
      rw [harb] at hg
      rw [hsof] at hact
      obtain ⟨f, hf, hpos⟩ := h.active hg hact
      exact ⟨f, head_step_queue_of_served (hserved.symm ▸ hf), hpos⟩
    · exact h.waiting_kept hserved
    · exact h.unfinished_kept hserved
    · intro hl
      simp [Egress.txLatch, hsof] at hl
  | grant hfree htakes hserved hsof =>
    have hact : s.txSof.active = false := h.free hfree
    have hsent : ∀ f ∈ s.queue.head?, ¬ 0 < f.sent := fun f hf hpos => by
      have hg := (h.sending f hf hpos).2
      rw [hact] at hg
      cases hg
    refine ⟨?_, ?_, ?_, ?_, ?_, ?_⟩
    · exact fun _ => by rw [hsof, hact]
    · exact fun f hmem hpos => absurd hpos (unsent_kept hserved hsent f hmem)
    · intro _ ha
      rw [hsof, hact] at ha
      cases ha
    · exact h.waiting_kept hserved
    · exact h.unfinished_kept hserved
    · intro hl
      simp [Egress.txLatch, hsof] at hl
  | other hg hbusy htakes hserved harb =>
    have hsent : ∀ f ∈ s.queue.head?, ¬ 0 < f.sent := fun f hf hpos => by
      have hg' := (h.sending f hf hpos).1
      rw [hg] at hg'
      cases hg'
    have hg' : (s.step c).arbiter.grants 0 = false := by
      rcases harb with ⟨harb, -⟩ | ⟨harb, -⟩
      · rw [harb, hg]
      · simp [harb, TxFrameArbiter.grants]
    refine ⟨?_, ?_, ?_, ?_, ?_, ?_⟩
    · intro hb
      rcases harb with ⟨harb, -⟩ | ⟨-, hact⟩
      · rw [harb, hbusy] at hb
        cases hb
      · exact hact
    · exact fun f hmem hpos => absurd hpos (unsent_kept hserved hsent f hmem)
    · intro ha
      rw [hg'] at ha
      cases ha
    · exact h.waiting_kept hserved
    · exact h.unfinished_kept hserved
    · intro hl
      simp [Egress.txLatch, TxFrameArbiter.firmwareGranted, hg'] at hl

-- ---------------------------------------------------------------------------
-- The last frame and the register
-- ---------------------------------------------------------------------------

/-- The queue holds the frames started last, in order. -/
def Numbered : List Command → Nat → Prop
  | [], _ => True
  | f :: rest, started => f.frame + rest.length + 1 = started ∧ Numbered rest started

theorem numbered_append {l : List Command} (h : Numbered l n) (hf : f.frame = n) :
    Numbered (l ++ [f]) (n + 1) := by
  induction l with
  | nil => exact ⟨by simp [hf], trivial⟩
  | cons g rest ih =>
    refine ⟨?_, ih h.2⟩
    have hg := h.1
    show g.frame + (rest ++ [f]).length + 1 = n + 1
    rw [List.length_append, List.length_singleton]
    omega

theorem numbered_served (h : Numbered s.queue n) (c : Cycle) : Numbered (s.served c) n := by
  cases portStep s c with
  | beat f rest hq hg htakes hserved =>
    rw [hq] at h
    rw [hserved]
    exact h
  | lastBeat f rest hq hg htakes hserved =>
    rw [hq] at h
    rw [hserved]
    exact h.2
  | hold htakes hserved => rwa [hserved]
  | grant hfree htakes hserved => rwa [hserved]
  | other hg hbusy htakes hserved => rwa [hserved]

/-- Until its first beat is accepted, the last frame waits and the register
is not its own; the latch comes in the next cycle, and from the one after
that the register is. -/
structure Known (s : Egress) : Prop where
  numbered : Numbered s.queue s.started
  stamped : ∀ k ∈ s.txTs.frame, k < s.started
  notBegun : s.began = none → 0 < s.started →
    ¬ s.own ∧ ∃ f rest, s.queue = f :: rest ∧ (rest = [] → f.sent = 0)
  begun : ∀ cycle ∈ s.began, 0 < s.started ∧ cycle < s.now ∧
    (s.queue = [] ∨ ∃ f, s.queue = [f] ∧ 0 < f.sent)
  own : ∀ cycle ∈ s.began, s.own ↔ cycle + 2 ≤ s.now
  latch : ∀ cycle ∈ s.began, s.txLatch = true ↔ cycle + 1 = s.now

theorem stamped_step (h : Known s) (c : Cycle) : ∀ k ∈ (s.step c).txTs.frame, k < s.started := by
  intro k hk
  simp only [Egress.step] at hk
  split at hk
  · cases hq : s.queue with
    | nil => simp [hq] at hk
    | cons f rest =>
      have hn := h.numbered
      rw [hq] at hn
      obtain rfl : f.frame = k := by simpa [hq] using hk
      have hf := hn.1
      omega
  · exact h.stamped k hk

theorem txTs_held (hl : s.txLatch = false) : (s.step c).txTs = s.txTs := by
  simp [Egress.step, hl]

theorem txTs_latched (hl : s.txLatch = true) :
    (s.step c).txTs.frame = s.queue.head?.map (·.frame) := by
  simp [Egress.step, hl]

theorem started_wait (hs : s.starts c = none) : (s.step c).started = s.started := by
  simp [Egress.step, hs]

theorem began_wait (hs : s.starts c = none) (hb : s.begins c = false) :
    (s.step c).began = s.began := by
  simp [Egress.step, hs, hb]

theorem queue_wait (hs : s.starts c = none) : (s.step c).queue = s.served c := by
  simp [step_queue, new_eq_nil, hs]

theorem known_start (h : Known s) (hs : s.starts c = some length) : Known (s.step c) := by
  have hqueue : (s.step c).queue = s.served c ++ [⟨s.started, length, 0⟩] := by
    simp [Egress.step, hs]
  have hstarted : (s.step c).started = s.started + 1 := by simp [Egress.step, hs]
  have hbegan : (s.step c).began = none := by simp [Egress.step, hs]
  refine ⟨?_, ?_, ?_, ?_, ?_, ?_⟩
  · rw [hqueue, hstarted]
    exact numbered_append (numbered_served h.numbered c) rfl
  · intro k hk
    rw [hstarted]
    exact Nat.lt_succ_of_lt (stamped_step h c k hk)
  · refine fun _ _ => ⟨fun ho => ?_, ?_⟩
    · rw [Egress.own, hstarted] at ho
      exact absurd (stamped_step h c _ ho) (by simp)
    · rw [hqueue]
      cases s.served c with
      | nil => exact ⟨_, [], rfl, fun _ => rfl⟩
      | cons f rest => exact ⟨f, rest ++ [_], rfl, by simp⟩
  all_goals rw [hbegan]; rintro _ ⟨⟩

/-- A frame that is under way has `tx_active` set, so that `tx_sof` is not
set again. -/
theorem not_latch_of_sent (h : Framed s) (hq : ∀ f ∈ s.queue.head?, 0 < f.sent) :
    (s.step c).txLatch = false := by
  have hact : ∀ f ∈ s.queue.head?, s.txSof.active = true := fun f hf =>
    (h.sending f hf (hq f hf)).2
  cases portStep s c with
  | beat f rest hq' _ _ _ _ _ hsof => simp [Egress.txLatch, hsof, hact f (by simp [hq'])]
  | lastBeat f rest hq' _ _ _ _ _ hsof => simp [Egress.txLatch, hsof, hact f (by simp [hq'])]
  | hold _ _ _ hsof => simp [Egress.txLatch, hsof]
  | grant _ _ _ hsof => simp [Egress.txLatch, hsof]
  | other hg _ _ _ harb =>
    rcases harb with ⟨harb, -⟩ | ⟨harb, -⟩
    · simp [Egress.txLatch, TxFrameArbiter.firmwareGranted, harb, hg]
    · simp [Egress.txLatch, TxFrameArbiter.firmwareGranted, harb, TxFrameArbiter.grants]

theorem known_begins (hF : Framed s) (h : Known s) (hs : s.starts c = none)
    (hb : s.begins c = true) : Known (s.step c) := by
  simp only [Egress.begins, Bool.and_eq_true, beq_iff_eq] at hb
  obtain ⟨⟨htakes, hlen⟩, hzero⟩ := hb
  obtain ⟨f, hq⟩ := List.length_eq_one_iff.mp hlen
  have hf : f.sent = 0 := by simpa [hq] using hzero
  have hstarted := started_wait hs
  have hbegan : (s.step c).began = some s.now := by
    simp [Egress.step, hs, Egress.begins, htakes, hlen, hzero]
  have hpos : f.frame + 1 = s.started := by
    have hn := h.numbered
    rw [hq] at hn
    exact hn.1
  -- the frame was waiting, so the register was not its own and is not latched
  have hnone : s.began = none := by
    cases hbeg : s.began with
    | none => rfl
    | some cycle =>
      obtain ⟨-, -, hq' | ⟨g, hq', hg⟩⟩ := h.begun cycle hbeg
      · simp [hq] at hq'
      · obtain rfl : f = g := by simpa [hq] using hq'
        omega
  have hlatch : s.txLatch = false := by
    by_contra hl
    obtain ⟨g, hg, hone⟩ := hF.sof (by simpa using hl)
    obtain rfl : f = g := by simpa [hq] using hg
    omega
  have hown : ¬ (s.step c).own := by
    have ho := (h.notBegun hnone (by omega)).1
    rwa [Egress.own, hstarted, txTs_held hlatch]
  have hport : (s.step c).queue = [⟨f.frame, f.length, 1⟩] ∧ (s.step c).txLatch = true := by
    cases portStep s c with
    | beat g rest hq' hg _ hserved harb _ hsof =>
      obtain ⟨rfl, rfl⟩ : f = g ∧ [] = rest := by simpa [hq] using hq'
      refine ⟨by simp [step_queue, hserved, new_eq_nil, hs, hf], ?_⟩
      have hact : s.txSof.active = false := by
        by_contra ha
        obtain ⟨k, hk, hkpos⟩ := hF.active hg (by simpa using ha)
        obtain rfl : f = k := by simpa [hq] using hk
        omega
      simp [Egress.txLatch, TxFrameArbiter.firmwareGranted, harb, hsof, hact, hg]
    | lastBeat g rest hq' _ _ _ _ hdone =>
      obtain ⟨rfl, rfl⟩ : f = g ∧ [] = rest := by simpa [hq] using hq'
      have hfour := four_le_beats f.length
      omega
    | hold ht => simp [ht] at htakes
    | grant _ ht => simp [ht] at htakes
    | other _ _ ht => simp [ht] at htakes
  refine ⟨?_, ?_, ?_, ?_, ?_, ?_⟩
  · rw [hport.1, hstarted]
    exact ⟨hpos, trivial⟩
  · rw [hstarted]
    exact stamped_step h c
  · intro hn
    rw [hbegan] at hn
    cases hn
  · rintro cycle hc
    obtain rfl : s.now = cycle := by simpa [hbegan] using hc
    refine ⟨by omega, Nat.lt_succ_self _, .inr ⟨_, hport.1, Nat.one_pos⟩⟩
  · rintro cycle hc
    obtain rfl : s.now = cycle := by simpa [hbegan] using hc
    exact ⟨fun ho => absurd ho hown, fun hle => by
      simp only [Egress.step] at hle
      omega⟩
  · rintro cycle hc
    obtain rfl : s.now = cycle := by simpa [hbegan] using hc
    exact ⟨fun _ => rfl, fun _ => hport.2⟩

/-- While the last frame waits, what is latched is an earlier one's time. -/
theorem own_notBegun (hF : Framed s) (h : Known s) (hs : s.starts c = none) {f : Command}
    {rest : List Command} (hown : ¬ s.own) (hq : s.queue = f :: rest)
    (hlast : rest = [] → f.sent = 0) : ¬ (s.step c).own := by
  intro ho
  have hnum := h.numbered
  rw [hq] at hnum
  rw [Egress.own, started_wait hs] at ho
  cases hl : s.txLatch with
  | false => exact hown (by rwa [txTs_held hl] at ho)
  | true =>
    obtain ⟨g, hg, hone⟩ := hF.sof hl
    obtain rfl : f = g := by simpa [hq] using hg
    rw [txTs_latched hl, hq] at ho
    have hf : f.frame = s.started - 1 := by simpa using ho
    cases rest with
    | nil => exact absurd (hlast rfl) (by omega)
    | cons k ks =>
      have hlen := hnum.1
      simp only [List.length_cons] at hlen
      omega

/-- The last frame still waits, unless its first beat is taken. -/
theorem queue_notBegun (hF : Framed s) (hs : s.starts c = none) (hb : s.begins c = false)
    {f : Command} {rest : List Command} (hq : s.queue = f :: rest)
    (hlast : rest = [] → f.sent = 0) :
    ∃ f rest, (s.step c).queue = f :: rest ∧ (rest = [] → f.sent = 0) := by
  rw [queue_wait hs]
  have hrest : s.takes c = true → rest ≠ [] := by
    rintro htakes rfl
    have hsent : f.sent = 0 := hlast rfl
    simp [Egress.begins, htakes, hq, hsent] at hb
  cases portStep s c with
  | beat g rest' hq' _ htakes hserved =>
    obtain ⟨rfl, rfl⟩ : f = g ∧ rest = rest' := by simpa [hq] using hq'
    exact ⟨_, rest, hserved, fun hr => absurd hr (hrest htakes)⟩
  | lastBeat g rest' hq' _ htakes hserved =>
    obtain ⟨rfl, rfl⟩ : f = g ∧ rest = rest' := by simpa [hq] using hq'
    cases rest with
    | nil => exact absurd rfl (hrest htakes)
    | cons k ks =>
      exact ⟨k, ks, hserved, fun _ => hF.waiting k (by simp [hq])⟩
  | hold _ hserved => exact ⟨f, rest, hserved.trans hq, hlast⟩
  | grant _ _ hserved => exact ⟨f, rest, hserved.trans hq, hlast⟩
  | other _ _ _ hserved => exact ⟨f, rest, hserved.trans hq, hlast⟩

/-- Once it has begun, the last frame is alone until it is sent. -/
theorem queue_begun (hs : s.starts c = none)
    (hq : s.queue = [] ∨ ∃ f, s.queue = [f] ∧ 0 < f.sent) :
    (s.step c).queue = [] ∨ ∃ f, (s.step c).queue = [f] ∧ 0 < f.sent := by
  rw [queue_wait hs]
  cases portStep s c with
  | beat g rest hq' _ _ hserved =>
    obtain hq | ⟨f, hq, -⟩ := hq
    · simp [hq'] at hq
    · obtain ⟨rfl, rfl⟩ : g = f ∧ rest = [] := by simpa [hq'] using hq
      exact .inr ⟨_, hserved, Nat.succ_pos _⟩
  | lastBeat g rest hq' _ _ hserved =>
    obtain hq | ⟨f, hq, -⟩ := hq
    · simp [hq'] at hq
    · obtain ⟨rfl, rfl⟩ : g = f ∧ rest = [] := by simpa [hq'] using hq
      exact .inl hserved
  | hold _ hserved => rwa [hserved]
  | grant _ _ hserved => rwa [hserved]
  | other _ _ _ hserved => rwa [hserved]

/-- Once it has begun, its time stays. -/
theorem own_begun (hF : Framed s) (h : Known s) (hs : s.starts c = none) {cycle : Nat}
    (hc : cycle ∈ s.began) : (s.step c).own := by
  obtain ⟨hpos, hlt, hq⟩ := h.begun cycle hc
  rw [Egress.own, started_wait hs]
  cases hl : s.txLatch with
  | false =>
    have hne : cycle + 1 ≠ s.now := fun he => by
      rw [(h.latch cycle hc).mpr he] at hl
      cases hl
    rw [txTs_held hl]
    exact (h.own cycle hc).mpr (by omega)
  | true =>
    obtain ⟨g, hg, -⟩ := hF.sof hl
    obtain hq | ⟨f, hq, -⟩ := hq
    · simp [hq] at hg
    · have hnum := h.numbered
      rw [hq] at hnum
      have hf : f.frame = s.started - 1 := by
        have hlen := hnum.1
        simp only [List.length_nil] at hlen
        omega
      rw [txTs_latched hl, hq]
      simp [hf]

theorem latch_begun (hF : Framed s) (hq : s.queue = [] ∨ ∃ f, s.queue = [f] ∧ 0 < f.sent) :
    (s.step c).txLatch = false := by
  refine not_latch_of_sent hF fun f hf => ?_
  obtain hq | ⟨g, hq, hg⟩ := hq
  · simp [hq] at hf
  · obtain rfl : g = f := by simpa [hq] using hf
    exact hg

theorem known_wait (hF : Framed s) (h : Known s) (hs : s.starts c = none)
    (hb : s.begins c = false) : Known (s.step c) := by
  have hstarted := started_wait hs
  have hbegan := began_wait hs hb
  refine ⟨?_, ?_, ?_, ?_, ?_, ?_⟩
  · rw [queue_wait hs, hstarted]
    exact numbered_served h.numbered c
  · rw [hstarted]
    exact stamped_step h c
  · intro hn hpos
    rw [hbegan] at hn
    rw [hstarted] at hpos
    obtain ⟨hown, f, rest, hq, hlast⟩ := h.notBegun hn hpos
    exact ⟨own_notBegun hF h hs hown hq hlast, queue_notBegun hF hs hb hq hlast⟩
  · intro cycle hc
    rw [hbegan] at hc
    obtain ⟨hpos, hlt, hq⟩ := h.begun cycle hc
    exact ⟨hstarted ▸ hpos, Nat.lt_succ_of_lt hlt, queue_begun hs hq⟩
  · intro cycle hc
    rw [hbegan] at hc
    obtain ⟨-, hlt, -⟩ := h.begun cycle hc
    have hnow : cycle + 2 ≤ (s.step c).now := Nat.succ_le_succ hlt
    exact ⟨fun _ => hnow, fun _ => own_begun hF h hs hc⟩
  · intro cycle hc
    rw [hbegan] at hc
    obtain ⟨-, hlt, hq⟩ := h.begun cycle hc
    rw [latch_begun hF hq]
    refine ⟨fun hl => absurd hl Bool.false_ne_true, fun he => ?_⟩
    have hnow : cycle + 1 = s.now + 1 := he
    omega

theorem known_step (hF : Framed s) (h : Known s) (c : Cycle) : Known (s.step c) := by
  cases hs : s.starts c with
  | some length => exact known_start h hs
  | none =>
    cases hb : s.begins c with
    | true => exact known_begins hF h hs hb
    | false => exact known_wait hF h hs hb

-- ---------------------------------------------------------------------------
-- Reading the register
-- ---------------------------------------------------------------------------

/-- Halfway through a reading, the register is settled, and what has been
read of it is still in it. -/
structure Reading (s : Egress) : Prop where
  started : s.cpu ≠ .outside → 0 < s.started
  secondsLo : ∀ hi, s.cpu = .secondsLo hi →
    s.settled ∧ hi = (s.txTs.time.seconds >>> 32).toUInt32
  nsec : ∀ seconds, s.cpu = .nsec seconds → s.settled ∧ seconds = s.txTs.time.seconds

theorem own_iff_settled (h : Known s) (hpos : 0 < s.started) : s.own ↔ s.settled := by
  cases hb : s.began with
  | none => simp [(h.notBegun hb hpos).1, Egress.settled, hb]
  | some cycle => simp [h.own cycle hb, Egress.settled, hb]

theorem settled_step (h : Known s) (hs : s.starts c = none) (hset : s.settled) :
    (s.step c).settled ∧ (s.step c).txTs = s.txTs := by
  obtain ⟨cycle, hc, hle⟩ := hset
  obtain ⟨-, -, hq⟩ := h.begun cycle hc
  have hb : s.begins c = false := by
    obtain hq | ⟨f, hq, hf⟩ := hq
    · simp [Egress.begins, hq]
    · simp [Egress.begins, hq, Nat.pos_iff_ne_zero.mp hf]
  have hl : s.txLatch = false := by
    by_contra hl
    have he := (h.latch cycle hc).mp (by simpa using hl)
    omega
  refine ⟨⟨cycle, ?_, Nat.le_succ_of_le hle⟩, by simp [Egress.step, hl]⟩
  simpa [Egress.step, hs, hb] using hc

/-- The two bus words of the seconds register. -/
theorem seconds_words (x : UInt64) :
    (x >>> 32).toUInt32.toUInt64 <<< 32 ||| x.toUInt32.toUInt64 = x := by
  have hlt : x.toNat < 2 ^ 64 := x.toNat_lt
  apply UInt64.toNat_inj.mp
  have hhi : ((x >>> 32).toUInt32.toUInt64 <<< 32).toNat = (x.toNat / 2 ^ 32) <<< 32 := by
    simp [Nat.shiftLeft_eq, Nat.shiftRight_eq_div_pow]
    omega
  have hlo : x.toUInt32.toUInt64.toNat = x.toNat % 2 ^ 32 := by simp
  rw [UInt64.toNat_or, hhi, hlo, ← Nat.shiftLeft_add_eq_or_of_lt (Nat.mod_lt _ (by decide)),
    Nat.shiftLeft_eq]
  omega

theorem starts_of_cpu (h : s.cpu ≠ .outside) (c : Cycle) : s.starts c = none := by
  simp [Egress.starts, h]

/-- The CPU stays where it is, starts a peer delay message, or makes the next
reading. -/
theorem nextCpu_cases (s : Egress) (c : Cycle) :
    s.nextCpu c = s.cpu ∨
      (s.nextCpu c = .secondsHi ∧ (s.starts c).isSome) ∨
      (c.access = .read ∧ s.cpu = .secondsHi ∧
        s.nextCpu c = .secondsLo (s.txTs.time.seconds >>> 32).toUInt32) ∨
      (∃ hi, c.access = .read ∧ s.cpu = .secondsLo hi ∧
        s.nextCpu c = .nsec (hi.toUInt64 <<< 32 ||| s.txTs.time.seconds.toUInt32.toUInt64)) ∨
      s.nextCpu c = .outside := by
  cases hcpu : s.cpu <;> cases hacc : c.access <;> simp [Egress.nextCpu, hcpu, hacc]
  · by_cases hlen : s.queue.length < ethmacTxSlots
    · simp [Egress.starts, hcpu, hacc, hlen]
    · exact .inr (.inr (Nat.le_of_not_lt hlen))

theorem reading_step (hK : Known s) (h : Reading s) (hw : Waited s c) : Reading (s.step c) := by
  have hcpu : (s.step c).cpu = s.nextCpu c := rfl
  have hkeep : s.cpu ≠ .outside → s.settled →
      (s.step c).settled ∧ (s.step c).txTs = s.txTs := fun hne =>
    settled_step hK (starts_of_cpu hne c)
  have hstarted : s.cpu ≠ .outside → 0 < (s.step c).started := fun hne => by
    simpa [Egress.step, starts_of_cpu hne c] using h.started hne
  rcases nextCpu_cases s c with hn | ⟨hn, hs⟩ | ⟨hr, hat_, hn⟩ | ⟨hi, hr, hat_, hn⟩ | hn
  · -- no progress
    refine ⟨fun hne => hstarted (by rwa [hcpu, hn] at hne), fun hi he => ?_, fun sec he => ?_⟩
    · rw [hcpu, hn] at he
      obtain ⟨hset, hhi⟩ := h.secondsLo hi he
      obtain ⟨hset', htx⟩ := hkeep (by simp [he]) hset
      exact ⟨hset', htx ▸ hhi⟩
    · rw [hcpu, hn] at he
      obtain ⟨hset, hsec⟩ := h.nsec sec he
      obtain ⟨hset', htx⟩ := hkeep (by simp [he]) hset
      exact ⟨hset', htx ▸ hsec⟩
  · refine ⟨fun _ => by simp [Egress.step, hs], fun hi he => ?_, fun sec he => ?_⟩
    · rw [hcpu, hn] at he
      cases he
    · rw [hcpu, hn] at he
      cases he
  · have hne : s.cpu ≠ .outside := by simp [hat_]
    obtain ⟨hset', htx⟩ := hkeep hne (hw hr hne)
    refine ⟨fun _ => hstarted hne, fun hi he => ?_, fun sec he => ?_⟩
    · rw [hcpu, hn] at he
      exact ⟨hset', by rw [htx]; injection he with he; exact he.symm⟩
    · rw [hcpu, hn] at he
      cases he
  · have hne : s.cpu ≠ .outside := by simp [hat_]
    obtain ⟨hset, rfl⟩ := h.secondsLo hi hat_
    obtain ⟨hset', htx⟩ := hkeep hne hset
    refine ⟨fun _ => hstarted hne, fun hi he => ?_, fun sec he => ?_⟩
    · rw [hcpu, hn] at he
      cases he
    · rw [hcpu, hn, seconds_words] at he
      exact ⟨hset', by rw [htx]; injection he with he; exact he.symm⟩
  · refine ⟨fun hne => absurd (hcpu.trans hn) hne, fun hi he => ?_, fun sec he => ?_⟩
    · rw [hcpu, hn] at he
      cases he
    · rw [hcpu, hn] at he
      cases he

theorem waited_iff_own (hK : Known s) (h : Reading s) (c : Cycle) : Waited s c ↔ Own s c := by
  unfold Waited Own
  refine imp_congr_right fun _ => ?_
  cases hcpu : s.cpu with
  | outside => simp
  | secondsHi => simp [own_iff_settled hK (h.started (by simp [hcpu]))]
  | secondsLo hi => simp [own_iff_settled hK (h.started (by simp [hcpu]))]
  | nsec seconds =>
    obtain ⟨hset, rfl⟩ := h.nsec seconds hcpu
    refine ⟨fun _ => ⟨(own_iff_settled hK (h.started (by simp [hcpu]))).mpr hset, ?_⟩,
      fun _ _ => hset⟩
    rintro g ptp tsu htsu
    refine ⟨htsu, ?_⟩
    rw [processPdelayReq, htsu]
    rfl

-- ---------------------------------------------------------------------------
-- Runs
-- ---------------------------------------------------------------------------

theorem framed_init : Framed .init where
  free _ := rfl
  sending := by simp [Egress.init]
  active := by simp [Egress.init]
  waiting := by simp [Egress.init]
  unfinished := by simp [Egress.init]
  sof := by simp [Egress.init, Egress.txLatch]

theorem known_init : Known .init where
  numbered := trivial
  stamped := by simp [Egress.init]
  notBegun := by simp [Egress.init]
  begun := by simp [Egress.init]
  own := by simp [Egress.init]
  latch := by simp [Egress.init]

theorem reading_init : Reading .init where
  started h := absurd rfl h
  secondsLo := by simp [Egress.init]
  nsec := by simp [Egress.init]

theorem egress_own_iff (cycles : List Cycle) :
    machine.Steps Own cycles ↔ machine.Steps Waited cycles :=
  (Machine.steps_congr (fun s => Framed s ∧ Known s ∧ Reading s)
    ⟨framed_init, known_init, reading_init⟩
    (fun _ c h hw => ⟨framed_step h.1 c, known_step h.1 h.2.1 c, reading_step h.2.1 h.2.2 hw⟩)
    (fun _ c h => waited_iff_own h.2.1 h.2.2 c) cycles).symm

/-- A cycle in which only the bus access happens. -/
def access (a : Access) : Cycle := ⟨a, false, ⟨false, false, ()⟩, false, {}⟩

/-- The reader presents a beat and the MAC core takes it. -/
def stream (seconds : Nat) : Cycle :=
  ⟨.idle, true, ⟨false, false, ()⟩, true, { seconds := seconds.toUInt64 }⟩

/-- A Pdelay_Req goes out and is stamped; the next one is read in the cycle
after its start. -/
def readEarly : List Cycle :=
  access .startPdelay :: (List.range 20).map stream ++
    [access .read, access .read, access .read, access .startPdelay, access .read]

theorem egress_readEarly :
    ¬ machine.Steps Own readEarly ∧
      (machine.run readEarly).cpu = .secondsLo 0 ∧ (machine.run readEarly).started = 2 ∧
      (machine.run readEarly).txTs = ⟨{ seconds := 2 }, some 0⟩ := by
  refine ⟨fun h => ?_, by decide +kernel⟩
  exact absurd ((egress_own_iff readEarly).mp h) (by decide +kernel)

end AvbAes3.EgressStamp
