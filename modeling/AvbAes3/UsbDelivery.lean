import AvbAes3.UsbOutEndpoint

/-!
# From the bus to the endpoint's reader

The receiver and the isochronous OUT endpoint together. A packet is passed on
while it comes in, closed by the boundary detector, written to the FIFO,
committed or discarded; `Carries` says where it is. The maximum packet size
is the room the endpoint asks for before each byte, and a reader that takes a
word in every cycle keeps that much free.

`bytes_delivered`: with such a reader and packets no longer than the maximum,
the reader gets the payloads of the right data packets for the endpoint, each
whole and with its ends marked, in order, and nothing else.
-/

namespace AvbAes3.UsbOutEndpoint

open UsbReceiver

-- ---------------------------------------------------------------------------
-- The receiver and the endpoint
-- ---------------------------------------------------------------------------

/-- `targeted` is what the token detector shows, `ready` the reader. -/
structure Input where
  line : Cycle
  targeted : Bool
  ready : Bool

def shown (s : Regs) (c : Cycle) : Shown :=
  ⟨decide (s.rx.fsm = .receiveAndEmit), s.rx.emits c, s.rx.packetComplete, s.rx.crcMismatch⟩

def device : Machine (Regs × Endpoint) Input where
  init := (UsbReceiver.reset, reset)
  step s i := (UsbReceiver.step s.1 i.line, s.2.step (shown s.1 i.line) i.targeted i.ready)

/-- The payloads that are due to the reader, and the words it has taken. -/
structure Ledger where
  target : Bool
  due : List (List Byte)
  taken : List Word

/-- The payload that becomes due when a packet is over. -/
def owed (b : Bus) (i : Input) : Option (List Byte) :=
  match b.packet with
  | none => none
  | some bytes => if !i.line.rxActive && i.targeted then right bytes else none

def Ledger.note (l : Ledger) (b : Bus) (e : Endpoint) (i : Input) : Ledger where
  target := i.targeted
  due := l.due ++ (owed b i).toList
  taken := l.taken ++ (e.taken i.ready).toList

structure History where
  bus : Bus
  log : Log
  ledger : Ledger

def History.note (h : History) (s : Regs × Endpoint) (i : Input) : History where
  bus := h.bus.add i.line
  log := h.log.note s.1 i.line
  ledger := h.ledger.note h.bus s.2 i

def logged : Machine ((Regs × Endpoint) × History) Input :=
  device.withHistory ⟨bus.init, ⟨[], [], []⟩, ⟨false, [], []⟩⟩ History.note

def Endpoint.resting (e : Endpoint) : Bool :=
  decide (e.boundary.fsm = .waitForFirstByte) && !e.boundary.next && !e.boundary.completeOut &&
    !e.boundary.invalidOut

/-- The reader is always ready, no packet is longer than the endpoint's
maximum, and the token stays while the endpoint is at work on a packet. -/
structure Fed (s : (Regs × Endpoint) × History) (i : Input) : Prop where
  timed : Timed (s.1.1, s.2.bus, s.2.log) i.line
  ready : i.ready = true
  small : ∀ bytes ∈ s.2.bus.packet, bytes.length ≤ maxPacketSize + 3
  held : s.1.2.resting = false → i.targeted = s.2.ledger.target

instance (s : (Regs × Endpoint) × History) (i : Input) : Decidable (Fed s i) :=
  decidable_of_iff
    (Timed (s.1.1, s.2.bus, s.2.log) i.line ∧ i.ready = true ∧
      (∀ bytes ∈ s.2.bus.packet, bytes.length ≤ maxPacketSize + 3) ∧
      (s.1.2.resting = false → i.targeted = s.2.ledger.target))
    ⟨fun ⟨htimed, hready, hsmall, hheld⟩ => ⟨htimed, hready, hsmall, hheld⟩,
      fun h => ⟨h.timed, h.ready, h.small, h.held⟩⟩

/-- What becomes due is seen on the bus. -/
def addressed : Machine (Bus × List (List Byte)) Input where
  init := (bus.init, [])
  step b i := (b.1.add i.line, b.2 ++ (owed b.1 i).toList)

/-- The payloads of the right data packets for the endpoint. -/
def payloads (inputs : List Input) : List (List Byte) := (addressed.run inputs).2

/-- A payload as the words of its bytes, with the ends marked. -/
def marked (payload : List Byte) : List Word :=
  payload.mapIdx fun k d => ⟨decide (k = 0), decide (k + 1 = payload.length), d⟩

/-- The words before the last. -/
def opened (bytes : List Byte) : List Word := bytes.mapIdx fun k d => ⟨decide (k = 0), false, d⟩

@[simp] theorem length_opened (bytes : List Byte) : (opened bytes).length = bytes.length := by
  simp [opened]

@[simp] theorem length_marked (bytes : List Byte) : (marked bytes).length = bytes.length := by
  simp [marked]

theorem opened_concat (bytes : List Byte) (d : Byte) :
    opened (bytes ++ [d]) = opened bytes ++ [⟨decide (bytes = []), false, d⟩] := by
  simp [opened, List.mapIdx_append, List.length_eq_zero_iff]

theorem marked_concat (bytes : List Byte) (d : Byte) :
    marked (bytes ++ [d]) = opened bytes ++ [⟨decide (bytes = []), true, d⟩] := by
  rw [marked, List.mapIdx_append]
  congr 1
  · refine List.ext_getElem (by simp [opened]) fun k hk _ => ?_
    have hlt : k < bytes.length := by simpa using hk
    simp [opened, Nat.ne_of_lt hlt]
  · simp [List.length_eq_zero_iff]

-- ---------------------------------------------------------------------------
-- A packet in the endpoint
-- ---------------------------------------------------------------------------

/-- The boundary detector has taken `bytes` and holds one more; the last of
them may be on its way to the FIFO. -/
structure Taking (b : Boundary) (target : Bool) (bytes : List Byte) (pending : List Word) :
    Prop where
  fsm : b.fsm = .receiveAndTransmit
  first : b.isFirstByte = decide (bytes = [])
  notLast : b.out.last = false
  complete : b.completeOut = false
  invalid : b.invalidOut = false
  out : (b.next = false ∧ pending = if target then opened bytes else []) ∨
    (b.next = true ∧ b.valid = true ∧ ∃ before, bytes = before ++ [b.out.payload] ∧
      b.out.first = decide (before = []) ∧ pending = if target then opened before else [])

/-- Where a packet is: `passed` has come from the receiver, `pending` is in
the FIFO, and `coming` is what will be committed of it. -/
inductive Carries (s : Regs) (b : Boundary) (target : Bool) :
    List Byte → List Word → List Word → Prop
  | resting (fsm : b.fsm = .waitForFirstByte) (next : b.next = false)
    (complete : b.completeOut = false) (invalid : b.invalidOut = false) :
    Carries s b target [] [] []
  | receiving (bytes : List Byte) (pending : List Word) (rx : s.rx.fsm = .receiveAndEmit)
    (strobes : s.rx.packetComplete = false ∧ s.rx.crcMismatch = false)
    (taking : Taking b target bytes pending) (complete : b.bufferedComplete = false)
    (invalid : b.bufferedInvalid = false) :
    Carries s b target (bytes ++ [b.bufferedByte]) pending []
  | closing (bytes : List Byte) (pending : List Word) (ok : Bool)
    (rx : s.rx.fsm = .idle ∨ s.rx.fsm = .interpacketDelay)
    (strobes : s.rx.packetComplete = ok ∧ s.rx.crcMismatch = !ok)
    (taking : Taking b target bytes pending) (complete : b.bufferedComplete = false)
    (invalid : b.bufferedInvalid = false) (small : bytes.length < maxPacketSize) :
    Carries s b target [] pending (if target && ok then marked (bytes ++ [b.bufferedByte]) else [])
  | writing (bytes : List Byte) (ok : Bool)
    (rx : s.rx.fsm = .idle ∨ s.rx.fsm = .interpacketDelay ∨ s.rx.fsm = .readPid)
    (fsm : b.fsm = .outputStrobes) (next : b.next = true) (valid : b.valid = true)
    (ends : b.out.first = decide (bytes = []) ∧ b.out.last = true)
    (buffered : b.bufferedComplete = ok ∧ b.bufferedInvalid = !ok)
    (complete : b.completeOut = false) (invalid : b.invalidOut = false)
    (small : bytes.length < maxPacketSize) :
    Carries s b target [] (if target then opened bytes else [])
      (if target && ok then marked (bytes ++ [b.out.payload]) else [])
  | committing (bytes : List Byte) (ok : Bool) (rx : s.rx.fsm ≠ .receiveAndEmit)
    (fsm : b.fsm = .waitForFirstByte) (next : b.next = false)
    (strobes : b.completeOut = ok ∧ b.invalidOut = !ok) (small : bytes.length ≤ maxPacketSize) :
    Carries s b target [] (if target then marked bytes else [])
      (if target && ok then marked bytes else [])

/-- There is room for a packet while one comes in. -/
def Room (resting : Bool) (committed pending : List Word) (lag : Nat) : Prop :=
  if resting then committed.length ≤ maxPacketSize
  else lag + committed.length + pending.length ≤ maxPacketSize ∧
    (committed = [] ∨ committed.length + pending.length < maxPacketSize)

structure Whole (s : (Regs × Endpoint) × History) (committed pending coming : List Word)
    (lag : Nat) : Prop where
  held : Held s.1.2.fifo committed pending lag
  carries : Carries s.1.1 s.1.2.boundary s.2.ledger.target s.2.log.open_ pending coming
  due : s.2.ledger.due.flatMap marked = s.2.ledger.taken ++ (committed ++ coming)
  room : Room s.1.2.resting committed pending lag

-- ---------------------------------------------------------------------------
-- The receiver's part of a cycle
-- ---------------------------------------------------------------------------

section Cycle

variable {s : Regs} {h : History} {i : Input}

/-- While the receiver passes nothing on, nothing becomes due. -/
theorem quiet_cycle (hsound : Sound (s, h.bus, h.log))
    (hrx : s.rx.fsm ≠ .receiveAndEmit) :
    s.rx.emits i.line = none ∧ h.log.open_ = [] ∧ (h.log.note s i.line).open_ = [] ∧
      owed h.bus i = none := by
  have hemits : s.rx.emits i.line = none := by simp [Receiver.emits, hrx]
  have htracks := hsound.tracks
  have hopen : h.log.open_ = [] := by
    generalize h.bus.packet = packet, h.log.open_ = passed at htracks
    cases htracks with
    | emitting fsm => exact absurd fsm hrx
    | _ => rfl
  have hnote : (h.log.note s i.line).open_ = [] := by
    unfold Log.note
    rw [hemits, hopen]
    split
    · rfl
    · split <;> rfl
  refine ⟨hemits, hopen, hnote, ?_⟩
  unfold owed
  generalize h.bus.packet = packet, h.log.open_ = passed at htracks
  have hright (bytes : List Byte) (hdata : dataOf bytes = none) : right bytes = none := by
    rw [right, hdata]
    rfl
  cases htracks with
  | away => rfl
  | begun => simp [hright [] rfl]
  | other fsm pid bytes hpid => simp [hright _ (dataOf_other hpid bytes)]
  | pid fsm pid hpid => simp [hright [pid] (dataOf_short pid (by simp))]
  | first fsm pid hpid b1 => simp [hright [pid, b1] (dataOf_short pid (by simp))]
  | emitting fsm => exact absurd fsm hrx

theorem emitting_packet (hsound : Sound (s, h.bus, h.log)) (hrx : s.rx.fsm = .receiveAndEmit) :
    ∃ pid b1 b2, isData pid = true ∧ h.bus.packet = some (pid :: (h.log.open_ ++ [b1, b2])) := by
  have htracks := hsound.tracks
  generalize h.bus.packet = packet, h.log.open_ = passed at htracks
  cases htracks with
  | emitting fsm pid hpid payload b1 b2 => exact ⟨pid, b1, b2, hpid, rfl⟩
  | away fsm => rcases fsm with fsm | fsm <;> rw [fsm] at hrx <;> cases hrx
  | begun fsm | other fsm | pid fsm | first fsm => rw [fsm] at hrx; cases hrx

theorem active_cycle (hsound : Sound (s, h.bus, h.log)) (hrx : s.rx.fsm = .receiveAndEmit)
    (hactive : i.line.rxActive = true) :
    (UsbReceiver.step s i.line).rx.fsm = .receiveAndEmit ∧
      ((UsbReceiver.step s i.line).rx.packetComplete = false ∧
        (UsbReceiver.step s i.line).rx.crcMismatch = false) ∧
      (h.log.note s i.line).open_ = h.log.open_ ++ (s.rx.emits i.line).toList ∧
      owed h.bus i = none := by
  obtain ⟨pid, b1, b2, -, hpacket⟩ := emitting_packet hsound hrx
  have htracks := hsound.tracks
  rw [hpacket] at htracks
  obtain ⟨hcomplete, hmismatch⟩ := htracks.open_ hactive
  refine ⟨?_, ⟨hcomplete, hmismatch⟩, ?_, ?_⟩
  · cases hd : i.line.rx <;>
      simp [UsbReceiver.step, Receiver.next, hrx, hactive, hd, Receiver.quiet, Receiver.shift]
  · rw [Log.note_open h.log hcomplete hmismatch]
  · simp [owed, hpacket, hactive]

/-- A packet that has been passed on ends, right or wrong. -/
theorem ending_cycle (hsound : Sound (s, h.bus, h.log)) (htimed : Timed (s, h.bus, h.log) i.line)
    (hrx : s.rx.fsm = .receiveAndEmit) (hend : i.line.rxActive = false) :
    s.rx.emits i.line = none ∧ (h.log.note s i.line).open_ = [] ∧
      ((UsbReceiver.step s i.line).rx.fsm = .idle ∨
        (UsbReceiver.step s i.line).rx.fsm = .interpacketDelay) ∧
      ∃ ok, (UsbReceiver.step s i.line).rx.packetComplete = ok ∧
        (UsbReceiver.step s i.line).rx.crcMismatch = !ok ∧
        owed h.bus i = if i.targeted && ok then some h.log.open_ else none := by
  obtain ⟨pid, b1, b2, hpid, hpacket⟩ := emitting_packet hsound hrx
  have htracks := hsound.tracks
  rw [hpacket] at htracks
  have hd := htimed.no_byte hend
  have hemits : s.rx.emits i.line = none := by simp [Receiver.emits, hd]
  obtain ⟨hcloses, htracks'⟩ := htracks.closes hend hd
  refine ⟨hemits, by rw [hcloses.note hemits], ?_, ?_⟩
  · cases htracks' with
    | away fsm => exact fsm
  · have hdata := dataOf_data hpid h.log.open_ b1 b2
    refine ⟨decide (RightCrc (h.log.open_ ++ [b1, b2])), ?_, ?_, ?_⟩
    · rw [hcloses.complete]
      by_cases hright : RightCrc (h.log.open_ ++ [b1, b2]) <;> simp [right, hdata, hright]
    · rw [hcloses.mismatch]
      by_cases hright : RightCrc (h.log.open_ ++ [b1, b2]) <;> simp [wrong, hdata, hright]
    · by_cases hright : RightCrc (h.log.open_ ++ [b1, b2]) <;>
        cases htarget : i.targeted <;>
          simp [htarget, owed, hpacket, hend, right, hdata, hright, payloadOf_append]

end Cycle

-- ---------------------------------------------------------------------------
-- The reader and the room
-- ---------------------------------------------------------------------------

section Words

variable {e : Endpoint} {committed pending : List Word} {lag : Nat} {resting : Bool}

theorem taken_tail (h : Held e.fifo committed pending lag) :
    (e.taken true).toList ++ committed.tail = committed := by
  rw [Endpoint.taken, h.empty]
  cases committed with
  | nil => simp
  | cons x rest => simp [h.head rfl]

theorem write_eq (h : Held e.fifo committed pending lag)
    (hroom : lag + committed.length + pending.length ≤ maxPacketSize) (target : Bool) :
    e.write target =
      if target && (e.boundary.next && e.boundary.valid) then some e.boundary.out else none := by
  have hspace : maxPacketSize ≤ e.fifo.spaceAvailable := by
    rw [h.space]
    unfold maxPacketSize at hroom ⊢
    omega
  rw [Endpoint.write, decide_eq_true hspace, Bool.and_true, Bool.and_assoc]

theorem write_quiet (hnext : e.boundary.next = false) (target : Bool) : e.write target = none := by
  simp [Endpoint.write, hnext]

theorem Room.step (h : Room resting committed pending lag) (hrest : resting = true → pending = [])
    {write : Option Word} (hwrite : write.isSome = true → resting = false)
    (hsmall : pending.length + write.toList.length ≤ maxPacketSize) :
    Room false committed.tail (pending ++ write.toList) (if committed = [] then 0 else 1) := by
  have hone : write.toList.length ≤ 1 := by cases write <;> simp
  rw [Room, if_neg Bool.false_ne_true, List.length_append]
  rw [Room] at h
  cases committed with
  | nil => simpa using hsmall
  | cons x rest =>
    simp only [List.length_cons, reduceCtorEq, false_or, if_false, List.tail_cons] at h ⊢
    cases resting with
    | true =>
      have hnone : write = none := by
        cases write with
        | none => rfl
        | some y => cases hwrite rfl
      subst hnone
      rw [hrest rfl]
      simp only [if_true] at h
      simp only [Option.toList_none, List.length_nil]
      omega
    | false =>
      simp only [Bool.false_eq_true, if_false] at h
      omega

theorem Room.rests (h : Room resting committed pending lag) (hrest : resting = true → pending = [])
    (hsmall : pending.length ≤ maxPacketSize) (commit : Bool) (lag' : Nat) :
    Room true (committed.tail ++ if commit then pending else []) [] lag' := by
  rw [Room, if_pos rfl, List.length_append]
  have hle : (if commit then pending else []).length ≤ pending.length := by split <;> simp
  rw [Room] at h
  cases committed with
  | nil => simpa using Nat.le_trans hle hsmall
  | cons x rest =>
    simp only [List.length_cons, reduceCtorEq, false_or, List.tail_cons] at h ⊢
    cases resting with
    | true =>
      rw [hrest rfl] at hle ⊢
      simp only [if_true] at h
      simp only [List.length_nil] at hle
      omega
    | false =>
      simp only [Bool.false_eq_true, if_false] at h
      omega

end Words

-- ---------------------------------------------------------------------------
-- A cycle
-- ---------------------------------------------------------------------------

section Step

variable {s : Regs} {e : Endpoint} {h : History} {line : Cycle} {targeted : Bool}
  {committed pending coming : List Word} {lag : Nat}

theorem Taking.not_resting {bytes : List Byte} (h : Taking e.boundary targeted bytes pending) :
    e.resting = false := by
  simp [Endpoint.resting, h.fsm]

/-- The FIFO while bytes are taken: the one on its way is written. -/
theorem Taking.fifo {bytes : List Byte} (h : Taking e.boundary targeted bytes pending)
    (hheld : Held e.fifo committed pending lag) (hroom : Room e.resting committed pending lag)
    (hsmall : bytes.length ≤ maxPacketSize) (x : Shown) :
    Held (e.step x targeted true).fifo committed.tail (if targeted then opened bytes else [])
        (if committed = [] then 0 else 1) ∧
      Room false committed.tail (if targeted then opened bytes else [])
        (if committed = [] then 0 else 1) := by
  have hspace := hroom
  rw [h.not_resting, Room, if_neg Bool.false_ne_true] at hspace
  have hwrite := write_eq hheld hspace.1 targeted
  have hfifo : (e.step x targeted true).fifo = e.fifo.step (e.write targeted) false false true := by
    simp [Endpoint.step, h.complete, h.invalid]
  rw [hfifo]
  have hrest : e.resting = true → pending = [] := by
    rw [h.not_resting]
    intro hfalse
    cases hfalse
  rcases h.out with ⟨hnext, rfl⟩ | ⟨hnext, hvalid, before, rfl, hfirst, rfl⟩
  · rw [hwrite, hnext, Bool.false_and, Bool.and_false, if_neg Bool.false_ne_true]
    refine ⟨hheld.reads, ?_⟩
    have hstep := @Room.step committed _ lag e.resting hroom hrest none (by simp)
      (by cases targeted <;> simp [hsmall])
    simpa using hstep
  · rw [hwrite, hnext, hvalid]
    cases targeted with
    | false =>
      refine ⟨by simpa using hheld.reads, ?_⟩
      have hstep := @Room.step committed _ lag e.resting hroom hrest none (by simp) (by simp)
      simpa using hstep
    | true =>
      have hword : e.boundary.out = ⟨decide (before = []), false, e.boundary.out.payload⟩ := by
        rw [← hfirst, ← h.notLast]
      have hlt : lag + committed.length + (opened before).length < 448 := by
        have hle := hspace.1
        simp only [if_true, maxPacketSize] at hle
        omega
      simp only [Bool.and_true, if_true]
      rw [opened_concat, ← hword]
      refine ⟨hheld.writes hlt e.boundary.out, ?_⟩
      have hstep := @Room.step committed _ lag e.resting hroom hrest (some e.boundary.out)
        (fun _ => h.not_resting) (by simpa using hsmall)
      simpa using hstep

/-- A cycle without a byte: nothing more is on its way to the FIFO. -/
theorem Taking.waits {b : Boundary} {x : Shown} {bytes : List Byte}
    (h : Taking b targeted bytes pending) (hvalid : x.valid = true) (hpayload : x.payload = none)
    (hquiet : x.complete = false ∧ x.invalid = false) (hcomplete : b.bufferedComplete = false)
    (hinvalid : b.bufferedInvalid = false) :
    b.step x = { b with valid := true, next := false } ∧
      Taking (b.step x) targeted bytes (if targeted then opened bytes else []) := by
  have hstep : b.step x = { b with valid := true, next := false } := by
    simp [Boundary.step, h.fsm, hvalid, hpayload, hquiet, hcomplete, hinvalid]
  refine ⟨hstep, ?_⟩
  rw [hstep]
  exact ⟨h.fsm, h.first, h.notLast, h.complete, h.invalid, .inl ⟨rfl, rfl⟩⟩

theorem boundary_waits {b : Boundary} {x : Shown} (hfsm : b.fsm = .waitForFirstByte)
    (hx : x.payload = none) :
    (b.step x).fsm = .waitForFirstByte ∧ (b.step x).next = false ∧
      (b.step x).completeOut = false ∧ (b.step x).invalidOut = false := by
  cases hvalid : x.valid <;> simp [Boundary.step, hfsm, hx, hvalid]

theorem resting_of (hfsm : e.boundary.fsm = .waitForFirstByte) (hnext : e.boundary.next = false)
    (hcomplete : e.boundary.completeOut = false) (hinvalid : e.boundary.invalidOut = false) :
    e.resting = true := by
  simp [Endpoint.resting, hfsm, hnext, hcomplete, hinvalid]

theorem due_read (hheld : Held e.fifo committed pending lag)
    (hdue : h.ledger.due.flatMap marked = h.ledger.taken ++ (committed ++ coming))
    (howed : (owed h.bus ⟨line, targeted, true⟩).toList.flatMap marked = more) :
    (h.note (s, e) ⟨line, targeted, true⟩).ledger.due.flatMap marked =
      (h.note (s, e) ⟨line, targeted, true⟩).ledger.taken ++
        (committed.tail ++ (coming ++ more)) := by
  have htail := taken_tail hheld
  simp only [History.note, Ledger.note, List.flatMap_append, hdue, howed]
  conv_lhs => rw [← htail]
  simp only [List.append_assoc]

theorem early_fsm {s : Regs} {c : Cycle} (h : s.rx.fsm = .idle ∨ s.rx.fsm = .interpacketDelay) :
    (UsbReceiver.step s c).rx.fsm = .idle ∨ (UsbReceiver.step s c).rx.fsm = .interpacketDelay ∨
      (UsbReceiver.step s c).rx.fsm = .readPid := by
  rcases h with h | h
  · cases hactive : c.rxActive <;>
      simp [UsbReceiver.step, Receiver.next, h, hactive, Receiver.quiet]
  · cases hallowed : c.txAllowed <;>
      simp [UsbReceiver.step, Receiver.next, h, hallowed, Receiver.quiet]

theorem second_fsm {s : Regs} {c : Cycle}
    (h : s.rx.fsm = .idle ∨ s.rx.fsm = .interpacketDelay ∨ s.rx.fsm = .readPid) :
    (UsbReceiver.step s c).rx.fsm ≠ .receiveAndEmit := by
  rcases h with h | h | h
  · cases hactive : c.rxActive <;>
      simp [UsbReceiver.step, Receiver.next, h, hactive, Receiver.quiet]
  · cases hallowed : c.txAllowed <;>
      simp [UsbReceiver.step, Receiver.next, h, hallowed, Receiver.quiet]
  · cases hactive : c.rxActive with
    | false => simp [UsbReceiver.step, Receiver.next, h, hactive]
    | true =>
      cases hd : c.rx with
      | none => simp [UsbReceiver.step, Receiver.next, h, hactive, hd, Receiver.quiet]
      | some d => cases hpid : isData d <;>
          simp [UsbReceiver.step, Receiver.next, h, hactive, hd, hpid]

/-- The endpoint stays at rest, or comes to rest. -/
theorem rests (hheld : Held e.fifo committed pending lag)
    (hdue : h.ledger.due.flatMap marked = h.ledger.taken ++ (committed ++ coming))
    (hroom : Room e.resting committed pending lag)
    (hfsm : e.boundary.fsm = .waitForFirstByte) (hemits : s.rx.emits line = none)
    (hopen : (h.log.note s line).open_ = [])
    (howed : (owed h.bus ⟨line, targeted, true⟩).toList.flatMap marked = [])
    (hrest : e.resting = true → pending = []) (hsmall : pending.length ≤ maxPacketSize)
    (commit : Bool)
    (hfifo : Held (e.step (shown s line) targeted true).fifo
      (committed.tail ++ if commit then pending else []) [] (if committed = [] then 0 else 1))
    (hcoming : coming = if commit then pending else []) :
    Whole (logged.step ((s, e), h) ⟨line, targeted, true⟩)
      (committed.tail ++ if commit then pending else []) [] []
      (if committed = [] then 0 else 1) := by
  obtain ⟨hfsm', hnext', hcomplete', hinvalid'⟩ :=
    boundary_waits (x := shown s line) hfsm (by simp [shown, hemits])
  have hresting : (e.step (shown s line) targeted true).resting = true :=
    resting_of hfsm' hnext' hcomplete' hinvalid'
  refine ⟨hfifo, ?_, ?_, ?_⟩
  · change Carries _ _ targeted (h.log.note s line).open_ _ _
    rw [hopen]
    exact .resting hfsm' hnext' hcomplete' hinvalid'
  · have hread := due_read (s := s) hheld hdue howed
    rw [hcoming, List.append_nil] at hread
    rw [List.append_nil]
    exact hread
  · have hrests := hroom.rests hrest hsmall commit (if committed = [] then 0 else 1)
    change Room (e.step (shown s line) targeted true).resting _ _ _
    rw [hresting]
    exact hrests

/-- What is held after a cycle that neither begins nor ends at rest. -/
theorem goes_on {bytes : List Byte} {coming' more : List Word}
    (hheld : Held e.fifo committed pending lag)
    (hdue : h.ledger.due.flatMap marked = h.ledger.taken ++ (committed ++ coming))
    (htaking : Taking e.boundary targeted bytes pending)
    (hroom : Room e.resting committed pending lag) (hsmall : bytes.length ≤ maxPacketSize)
    (howed : (owed h.bus ⟨line, targeted, true⟩).toList.flatMap marked = more)
    (hcoming : coming' = coming ++ more)
    (hcarries : Carries (UsbReceiver.step s line) (e.boundary.step (shown s line)) targeted
      (h.log.note s line).open_ (if targeted then opened bytes else []) coming')
    (hresting : (e.step (shown s line) targeted true).resting = false) :
    Whole (logged.step ((s, e), h) ⟨line, targeted, true⟩) committed.tail
      (if targeted then opened bytes else []) coming' (if committed = [] then 0 else 1) := by
  obtain ⟨hheld', hroom'⟩ := htaking.fifo hheld hroom hsmall (shown s line)
  refine ⟨hheld', hcarries, ?_, ?_⟩
  · rw [hcoming]
    exact due_read (s := s) hheld hdue howed
  · change Room (e.step (shown s line) targeted true).resting _ _ _
    rw [hresting]
    exact hroom'

/-- What is held after the cycle. -/
def Goes (s : Regs) (e : Endpoint) (h : History) (line : Cycle) (targeted : Bool) : Prop :=
  ∃ committed pending coming lag,
    Whole (logged.step ((s, e), h) ⟨line, targeted, true⟩) committed pending coming lag

theorem resting_step (hheld : Held e.fifo committed [] lag)
    (hdue : h.ledger.due.flatMap marked = h.ledger.taken ++ (committed ++ []))
    (hroom : Room e.resting committed [] lag) (hsound : Sound (s, h.bus, h.log))
    (htimed : Timed (s, h.bus, h.log) line) (hpassed : h.log.open_ = [])
    (fsm : e.boundary.fsm = .waitForFirstByte) (next : e.boundary.next = false)
    (complete : e.boundary.completeOut = false) (invalid : e.boundary.invalidOut = false) :
    Goes s e h line targeted := by
  have hreads : (e.step (shown s line) targeted true).fifo =
      e.fifo.step none false false true := by
    simp [Endpoint.step, write_quiet next, complete, invalid]
  have hfifo : Held (e.step (shown s line) targeted true).fifo
      (committed.tail ++ if false then [] else []) [] (if committed = [] then 0 else 1) := by
    rw [hreads]
    simpa using hheld.reads
  by_cases hrx : s.rx.fsm = .receiveAndEmit
  · cases hactive : line.rxActive with
    | false =>
      obtain ⟨hemits, hopen, -, ok, -, -, howed⟩ :=
        ending_cycle (i := ⟨line, targeted, true⟩) hsound htimed hrx hactive
      refine ⟨_, _, _, _, rests hheld hdue hroom fsm hemits hopen ?_ (fun _ => rfl) (by simp) false
        hfifo rfl⟩
      rw [howed, hpassed]
      split <;> simp [marked]
    | true =>
      obtain ⟨hrx', hstrobes, hopen, howed⟩ :=
        active_cycle (i := ⟨line, targeted, true⟩) hsound hrx hactive
      cases hemits : s.rx.emits line with
      | none =>
        rw [hpassed, hemits] at hopen
        exact ⟨_, _, _, _, rests hheld hdue hroom fsm hemits hopen (by rw [howed]; rfl)
          (fun _ => rfl) (by simp) false hfifo rfl⟩
      | some d =>
        rw [hpassed, hemits] at hopen
        have hboundary : e.boundary.step (shown s line) =
            { e.boundary with
              fsm := .receiveAndTransmit
              valid := false, next := false
              out := { e.boundary.out with first := false, last := false }
              bufferedByte := d, isFirstByte := true
              bufferedComplete := false, bufferedInvalid := false
              completeOut := false, invalidOut := false } := by
          simp [Boundary.step, fsm, shown, hrx, hemits]
        have htaking : Taking (e.boundary.step (shown s line)) targeted [] [] := by
          rw [hboundary]
          exact ⟨rfl, rfl, rfl, rfl, rfl, .inl ⟨rfl, by simp [opened]⟩⟩
        have hcarries' := Carries.receiving [] [] hrx' hstrobes htaking
          (by rw [hboundary]) (by rw [hboundary])
        have hbyte : (e.boundary.step (shown s line)).bufferedByte = d := by rw [hboundary]
        rw [hbyte] at hcarries'
        refine ⟨committed.tail, [], [], if committed = [] then 0 else 1, ?_, ?_, ?_, ?_⟩
        · change Held (e.step (shown s line) targeted true).fifo _ _ _
          simpa using hfifo
        · have hopen' : (h.log.note s line).open_ = [] ++ [d] := hopen
          rw [← hopen'] at hcarries'
          exact hcarries'
        · exact due_read hheld hdue (by rw [howed]; rfl)
        · have hstep := @Room.step committed _ lag e.resting hroom (fun _ => rfl) none (by simp)
            (by simp)
          have hresting : (e.step (shown s line) targeted true).resting = false :=
            htaking.not_resting
          change Room (e.step (shown s line) targeted true).resting _ _ _
          rw [hresting]
          simpa using hstep
  · obtain ⟨hemits, -, hopen, howed⟩ := quiet_cycle (i := ⟨line, targeted, true⟩) hsound hrx
    exact ⟨_, _, _, _, rests hheld hdue hroom fsm hemits hopen (by rw [howed]; rfl)
      (fun _ => rfl) (by simp) false hfifo rfl⟩

theorem receiving_step {bytes : List Byte} (hheld : Held e.fifo committed pending lag)
    (hdue : h.ledger.due.flatMap marked = h.ledger.taken ++ (committed ++ []))
    (hroom : Room e.resting committed pending lag) (hsound : Sound (s, h.bus, h.log))
    (htimed : Timed (s, h.bus, h.log) line)
    (hsmall : ∀ packet ∈ h.bus.packet, packet.length ≤ maxPacketSize + 3)
    (hpassed : h.log.open_ = bytes ++ [e.boundary.bufferedByte])
    (rx : s.rx.fsm = .receiveAndEmit)
    (strobes : s.rx.packetComplete = false ∧ s.rx.crcMismatch = false)
    (taking : Taking e.boundary targeted bytes pending)
    (complete : e.boundary.bufferedComplete = false)
    (invalid : e.boundary.bufferedInvalid = false) : Goes s e h line targeted := by
  obtain ⟨pid, b1, b2, -, hpacket⟩ := emitting_packet hsound rx
  have hlength : bytes.length < maxPacketSize := by
    have hle := hsmall _ hpacket
    rw [hpassed] at hle
    simp at hle
    omega
  cases hactive : line.rxActive with
  | true =>
    obtain ⟨hrx', hstrobes, hopen, howed⟩ :=
      active_cycle (i := ⟨line, targeted, true⟩) hsound rx hactive
    cases hemits : s.rx.emits line with
    | none =>
      rw [hpassed, hemits, Option.toList_none, List.append_nil] at hopen
      obtain ⟨hboundary, htaking⟩ :=
        taking.waits (x := shown s line) (by simp [shown, rx]) hemits strobes complete invalid
      have hcarries' := Carries.receiving bytes _ hrx' hstrobes htaking
        (by rw [hboundary]; exact complete) (by rw [hboundary]; exact invalid)
      have hbyte : (e.boundary.step (shown s line)).bufferedByte = e.boundary.bufferedByte := by
        rw [hboundary]
      rw [hbyte, ← hopen] at hcarries'
      exact ⟨_, _, _, _, goes_on hheld hdue taking hroom (Nat.le_of_lt hlength)
        (by rw [howed]; rfl) (List.append_nil _).symm hcarries' htaking.not_resting⟩
    | some d =>
      rw [hpassed, hemits, Option.toList_some] at hopen
      have hboundary : e.boundary.step (shown s line) =
          { e.boundary with
            valid := true, next := true
            out := { e.boundary.out with
              payload := e.boundary.bufferedByte, first := e.boundary.isFirstByte }
            bufferedByte := d, isFirstByte := false } := by
        simp [Boundary.step, taking.fsm, shown, rx, hemits, strobes, complete, invalid]
      have htaking : Taking (e.boundary.step (shown s line)) targeted
          (bytes ++ [e.boundary.bufferedByte])
          (if targeted then opened bytes else []) := by
        rw [hboundary]
        exact ⟨taking.fsm, by simp, taking.notLast, taking.complete, taking.invalid,
          .inr ⟨rfl, rfl, bytes, rfl, taking.first, rfl⟩⟩
      have hcarries' := Carries.receiving (bytes ++ [e.boundary.bufferedByte]) _ hrx' hstrobes
        htaking (by rw [hboundary]; exact complete) (by rw [hboundary]; exact invalid)
      have hbyte : (e.boundary.step (shown s line)).bufferedByte = d := by rw [hboundary]
      rw [hbyte, ← hopen] at hcarries'
      exact ⟨_, _, _, _, goes_on hheld hdue taking hroom (Nat.le_of_lt hlength)
        (by rw [howed]; rfl) (List.append_nil _).symm hcarries' htaking.not_resting⟩
  | false =>
    obtain ⟨hemits, hopen, hrx', ok, hcomplete', hmismatch', howed⟩ :=
      ending_cycle (i := ⟨line, targeted, true⟩) hsound htimed rx hactive
    obtain ⟨hboundary, htaking⟩ :=
      taking.waits (x := shown s line) (by simp [shown, rx]) hemits strobes complete invalid
    have hcarries' := Carries.closing bytes _ ok hrx' ⟨hcomplete', hmismatch'⟩ htaking
      (by rw [hboundary]; exact complete) (by rw [hboundary]; exact invalid) hlength
    have hbyte : (e.boundary.step (shown s line)).bufferedByte = e.boundary.bufferedByte := by
      rw [hboundary]
    rw [hbyte] at hcarries'
    dsimp only at hopen
    refine ⟨_, _, _, _, goes_on hheld hdue taking hroom (Nat.le_of_lt hlength) rfl ?_
      (by rw [hopen]; exact hcarries') htaking.not_resting⟩
    rw [howed, hpassed]
    dsimp only
    split <;> simp

theorem closing_step {bytes : List Byte} {ok : Bool} (hheld : Held e.fifo committed pending lag)
    (hdue : h.ledger.due.flatMap marked = h.ledger.taken ++ (committed ++
      if targeted && ok then marked (bytes ++ [e.boundary.bufferedByte]) else []))
    (hroom : Room e.resting committed pending lag) (hsound : Sound (s, h.bus, h.log))
    (rx : s.rx.fsm = .idle ∨ s.rx.fsm = .interpacketDelay)
    (strobes : s.rx.packetComplete = ok ∧ s.rx.crcMismatch = !ok)
    (taking : Taking e.boundary targeted bytes pending)
    (complete : e.boundary.bufferedComplete = false)
    (invalid : e.boundary.bufferedInvalid = false) (small : bytes.length < maxPacketSize) :
    Goes s e h line targeted := by
  have hrx : s.rx.fsm ≠ .receiveAndEmit := by rcases rx with rx | rx <;> simp [rx]
  obtain ⟨hemits, -, hopen, howed⟩ :=
    quiet_cycle (i := ⟨line, targeted, true⟩) hsound hrx
  have hboundary : e.boundary.step (shown s line) =
      { e.boundary with
        fsm := .outputStrobes
        valid := true, next := true
        out := ⟨e.boundary.isFirstByte, true, e.boundary.bufferedByte⟩
        bufferedComplete := ok, bufferedInvalid := !ok } := by
    simp [Boundary.step, taking.fsm, shown, hrx, hemits, strobes, complete, invalid]
  have hcarries' : Carries (UsbReceiver.step s line) (e.boundary.step (shown s line))
      targeted [] (if targeted then opened bytes else [])
      (if targeted && ok then marked (bytes ++ [e.boundary.bufferedByte]) else []) := by
    have hbyte : (e.boundary.step (shown s line)).out.payload = e.boundary.bufferedByte := by
      rw [hboundary]
    rw [← hbyte]
    exact .writing bytes ok (early_fsm rx) (by rw [hboundary]) (by rw [hboundary])
      (by rw [hboundary]) (by rw [hboundary]; exact ⟨taking.first, rfl⟩)
      (by rw [hboundary]; exact ⟨rfl, rfl⟩) (by rw [hboundary]; exact taking.complete)
      (by rw [hboundary]; exact taking.invalid) small
  have hresting : (e.step (shown s line) targeted true).resting = false := by
    simp [Endpoint.resting, Endpoint.step, hboundary]
  dsimp only at hopen
  exact ⟨_, _, _, _, goes_on hheld hdue taking hroom (Nat.le_of_lt small)
    (by rw [howed]; rfl) (List.append_nil _).symm (by rw [hopen]; exact hcarries') hresting⟩

theorem writing_step {bytes : List Byte} {ok : Bool}
    (hheld : Held e.fifo committed (if targeted then opened bytes else []) lag)
    (hdue : h.ledger.due.flatMap marked = h.ledger.taken ++ (committed ++
      if targeted && ok then marked (bytes ++ [e.boundary.out.payload]) else []))
    (hroom : Room e.resting committed (if targeted then opened bytes else []) lag)
    (hsound : Sound (s, h.bus, h.log))
    (rx : s.rx.fsm = .idle ∨ s.rx.fsm = .interpacketDelay ∨ s.rx.fsm = .readPid)
    (fsm : e.boundary.fsm = .outputStrobes) (next : e.boundary.next = true)
    (valid : e.boundary.valid = true)
    (ends : e.boundary.out.first = decide (bytes = []) ∧ e.boundary.out.last = true)
    (buffered : e.boundary.bufferedComplete = ok ∧ e.boundary.bufferedInvalid = !ok)
    (complete : e.boundary.completeOut = false) (invalid : e.boundary.invalidOut = false)
    (small : bytes.length < maxPacketSize) : Goes s e h line targeted := by
  have hwas : e.resting = false := by simp [Endpoint.resting, fsm]
  have hrx : s.rx.fsm ≠ .receiveAndEmit := by rcases rx with rx | rx | rx <;> simp [rx]
  obtain ⟨hemits, -, hopen, howed⟩ :=
    quiet_cycle (i := ⟨line, targeted, true⟩) hsound hrx
  dsimp only at hopen
  have hboundary : e.boundary.step (shown s line) =
      { e.boundary with
        fsm := .waitForFirstByte
        next := false, out := { e.boundary.out with first := false, last := false }
        completeOut := ok, invalidOut := !ok } := by
    simp [Boundary.step, fsm, buffered]
  have hresting : (e.step (shown s line) targeted true).resting = false := by
    cases ok <;> simp [Endpoint.resting, Endpoint.step, hboundary]
  have hspace := hroom
  rw [hwas, Room, if_neg Bool.false_ne_true] at hspace
  have hwrite := write_eq hheld hspace.1 targeted
  rw [next, valid] at hwrite
  have hword : e.boundary.out = ⟨decide (bytes = []), true, e.boundary.out.payload⟩ := by
    rw [← ends.1, ← ends.2]
  have hfifo : (e.step (shown s line) targeted true).fifo =
      e.fifo.step (e.write targeted) false false true := by
    simp [Endpoint.step, complete, invalid]
  have hpending : (if targeted then opened bytes else []) ++
      (e.write targeted).toList =
      if targeted then marked (bytes ++ [e.boundary.out.payload]) else [] := by
    rw [hwrite, marked_concat, ← hword]
    cases targeted <;> rfl
  have hroom' := @Room.step committed _ lag e.resting hroom (fun hrest => by
    rw [hwas] at hrest
    cases hrest) (e.write targeted) (fun _ => hwas) (by
    rw [← List.length_append, hpending]
    split
    · simpa using small
    · simp)
  have hheld' : Held (e.step (shown s line) targeted true).fifo committed.tail
      ((if targeted then opened bytes else []) ++ (e.write targeted).toList)
      (if committed = [] then 0 else 1) := by
    rw [hfifo]
    cases hw : e.write targeted with
    | none => simpa using hheld.reads
    | some x =>
      refine hheld.writes ?_ x
      have hle := hspace.1
      unfold maxPacketSize at hle
      omega
  rw [hpending] at hroom' hheld'
  refine ⟨_, _, if targeted && ok then marked (bytes ++ [e.boundary.out.payload]) else [], _,
    hheld', ?_, ?_, ?_⟩
  · change Carries _ (e.boundary.step (shown s line)) _ (h.log.note s line).open_ _ _
    rw [hopen]
    exact .committing (bytes ++ [e.boundary.out.payload]) ok (second_fsm rx) (by rw [hboundary])
      (by rw [hboundary]) (by rw [hboundary]; exact ⟨rfl, rfl⟩) (by simpa using small)
  · have hnone : (owed h.bus ⟨line, targeted, true⟩).toList.flatMap marked = [] := by
      rw [howed]
      rfl
    have hread := due_read (s := s) hheld hdue hnone
    rw [List.append_nil] at hread
    exact hread
  · change Room (e.step (shown s line) targeted true).resting _ _ _
    rw [hresting]
    exact hroom'

theorem committing_step {bytes : List Byte} {ok : Bool}
    (hheld : Held e.fifo committed (if targeted then marked bytes else []) lag)
    (hdue : h.ledger.due.flatMap marked = h.ledger.taken ++ (committed ++
      if targeted && ok then marked bytes else []))
    (hroom : Room e.resting committed (if targeted then marked bytes else []) lag)
    (hsound : Sound (s, h.bus, h.log)) (rx : s.rx.fsm ≠ .receiveAndEmit)
    (fsm : e.boundary.fsm = .waitForFirstByte) (next : e.boundary.next = false)
    (strobes : e.boundary.completeOut = ok ∧ e.boundary.invalidOut = !ok)
    (small : bytes.length ≤ maxPacketSize) : Goes s e h line targeted := by
  have hwas : e.resting = false := by cases ok <;> simp [Endpoint.resting, strobes]
  obtain ⟨hemits, -, hopen, howed⟩ :=
    quiet_cycle (i := ⟨line, targeted, true⟩) hsound rx
  have hfifo : Held (e.step (shown s line) targeted true).fifo
      (committed.tail ++ if ok then (if targeted then marked bytes else []) else []) []
      (if committed = [] then 0 else 1) := by
    have hstep : (e.step (shown s line) targeted true).fifo =
        e.fifo.step none (targeted && ok) (targeted && !ok) true := by
      simp [Endpoint.step, write_quiet next, strobes]
    rw [hstep]
    cases htarget : targeted with
    | false =>
      rw [htarget] at hheld
      simpa using hheld.reads
    | true =>
      rw [htarget] at hheld
      cases ok with
      | false => simpa using hheld.discards
      | true => simpa using hheld.commits
  refine ⟨_, _, _, _, rests hheld hdue hroom fsm hemits hopen (by rw [howed]; rfl) ?_ ?_ ok hfifo
    ?_⟩
  · intro hrest
    rw [hwas] at hrest
    cases hrest
  · split
    · simpa using small
    · simp
  · cases targeted <;> cases ok <;> rfl

theorem Whole.step {i : Input} (hwhole : Whole ((s, e), h) committed pending coming lag)
    (hsound : Sound (s, h.bus, h.log)) (hfed : Fed ((s, e), h) i) :
    Goes s e h i.line i.targeted := by
  obtain ⟨line, targeted, ready⟩ := i
  obtain ⟨htimed, -, hsmall, hkept⟩ := hfed
  obtain ⟨hheld, hcarries, hdue, hroom⟩ := hwhole
  dsimp only at htimed hsmall hkept hheld hcarries hdue hroom ⊢
  generalize hpassed : h.log.open_ = passed at hcarries
  cases hcarries with
  | resting fsm next complete invalid =>
    exact resting_step hheld hdue hroom hsound htimed hpassed fsm next complete invalid
  | receiving bytes pending rx strobes taking complete invalid =>
    obtain rfl : targeted = h.ledger.target := hkept taking.not_resting
    exact receiving_step hheld hdue hroom hsound htimed hsmall hpassed rx strobes taking complete
      invalid
  | closing bytes pending ok rx strobes taking complete invalid small =>
    obtain rfl : targeted = h.ledger.target := hkept taking.not_resting
    exact closing_step hheld hdue hroom hsound rx strobes taking complete invalid small
  | writing bytes ok rx fsm next valid ends buffered complete invalid small =>
    obtain rfl : targeted = h.ledger.target := hkept (by simp [Endpoint.resting, fsm])
    exact writing_step hheld hdue hroom hsound rx fsm next valid ends buffered complete invalid
      small
  | committing bytes ok rx fsm next strobes small =>
    obtain rfl : targeted = h.ledger.target := hkept (by
      cases ok <;> simp [Endpoint.resting, strobes])
    exact committing_step hheld hdue hroom hsound rx fsm next strobes small

end Step

-- ---------------------------------------------------------------------------
-- Every run
-- ---------------------------------------------------------------------------

theorem run_due (inputs : List Input) : (logged.run inputs).2.ledger.due = payloads inputs := by
  have hsimulates : Machine.Simulates logged addressed fun s b =>
      s.2.bus = b.1 ∧ s.2.ledger.due = b.2 := by
    refine ⟨⟨rfl, rfl⟩, ?_⟩
    rintro s b i ⟨hbus, hdue⟩
    refine ⟨congrArg (Bus.add · i.line) hbus, ?_⟩
    change s.2.ledger.due ++ (owed s.2.bus i).toList = b.2 ++ (owed b.1 i).toList
    rw [hbus, hdue]
  exact (hsimulates.run inputs).2

/-- The receiver and the endpoint, wherever a packet is. -/
def Kept (s : (Regs × Endpoint) × History) : Prop :=
  Sound (s.1.1, s.2.bus, s.2.log) ∧
    ∃ committed pending coming lag, Whole s committed pending coming lag

theorem kept_reset : Kept logged.init := by
  refine ⟨sound_reset, [], [], [], 0, ?_, .resting rfl rfl rfl rfl, rfl, Nat.zero_le _⟩
  refine ⟨?_, rfl, by decide, by decide, rfl, rfl, by decide⟩
  intro k x hx
  cases hx

theorem kept_run {inputs : List Input} (hfed : logged.Steps Fed inputs) :
    Kept (logged.run inputs) := by
  refine hfed.invariant kept_reset ?_
  rintro ⟨⟨s, e⟩, h⟩ ⟨line, targeted, ready⟩ ⟨hsound, committed, pending, coming, lag, hwhole⟩ hfed
  refine ⟨hsound.step hfed.timed, ?_⟩
  obtain rfl : ready = true := hfed.ready
  exact hwhole.step hsound hfed

/-- No packet is in the endpoint. -/
def Endpoint.drained (e : Endpoint) : Bool := e.resting && e.fifo.empty

theorem Kept.words {s : (Regs × Endpoint) × History} (h : Kept s) :
    s.2.ledger.taken <+: s.2.ledger.due.flatMap marked ∧
      (s.1.2.drained = true → s.2.ledger.taken = s.2.ledger.due.flatMap marked) := by
  obtain ⟨-, committed, pending, coming, lag, hheld, hcarries, hdue, -⟩ := h
  refine ⟨hdue ▸ List.prefix_append .., ?_⟩
  intro hdrained
  obtain ⟨hresting, hempty⟩ := Bool.and_eq_true_iff.mp hdrained
  have hcommitted : committed = [] := by simpa [hheld.empty] using hempty
  have hcoming : coming = [] := by
    generalize s.2.log.open_ = passed at hcarries
    cases hcarries with
    | resting => rfl
    | receiving bytes pending rx strobes taking => rfl
    | closing bytes pending ok rx strobes taking =>
      rw [taking.not_resting] at hresting
      cases hresting
    | writing bytes ok rx fsm => simp [Endpoint.resting, fsm] at hresting
    | committing bytes ok rx fsm next strobes =>
      cases ok <;> simp [Endpoint.resting, strobes] at hresting
  rw [hdue, hcommitted, hcoming, List.append_nil, List.append_nil]

/-- The reader gets the payloads, whole and in order, and no other byte; when
no packet is in the endpoint it has them all. -/
theorem bytes_delivered {inputs : List Input} (hfed : logged.Steps Fed inputs) :
    (logged.run inputs).2.ledger.taken <+: (payloads inputs).flatMap marked ∧
      ((logged.run inputs).1.2.drained = true →
        (logged.run inputs).2.ledger.taken = (payloads inputs).flatMap marked) := by
  rw [← run_due]
  exact (kept_run hfed).words

-- ---------------------------------------------------------------------------
-- A packet for the endpoint
-- ---------------------------------------------------------------------------

/-- One subslot, and its CRC. -/
def samplePacket : List Byte := [0xc3#8, 0x00#8, 0x11#8, 0x22#8, 0x33#8, 0xf7#8, 0x6b#8]

/-- A packet, one with errors, and time to read what is left. -/
def delivery : List Input :=
  (comingIn samplePacket ++ [lineCycle false none, lineCycle false none] ++ comingIn burstPacket ++
    List.replicate 8 (lineCycle false none)).map fun c => ⟨c, true, true⟩

theorem delivery_delivered :
    (logged.run delivery).2.ledger.taken <+: (payloads delivery).flatMap marked ∧
      ((logged.run delivery).1.2.drained = true →
        (logged.run delivery).2.ledger.taken = (payloads delivery).flatMap marked) :=
  bytes_delivered (by decide +kernel)

example : payloads delivery = [[0x00#8, 0x11#8, 0x22#8, 0x33#8]] ∧
    (logged.run delivery).1.2.drained = true := by
  decide +kernel

end AvbAes3.UsbOutEndpoint
