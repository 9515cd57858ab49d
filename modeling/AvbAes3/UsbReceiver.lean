import AvbAes3.Lib.Crc
import AvbAes3.Lib.Machine

/-!
# The receiver of USB packets

The receiver takes the bytes of a packet from the PHY and passes on the
payload of data packets, two bytes late, so that the CRC at a packet's end is
held back. Whether a packet was good is known when it is over. `data_crc`
takes a byte at a time by a network of exclusive or, which is the bit by bit
CRC of the polynomial 0x8005 (`crcNetwork_eq`).

`packets_received`: of the packets on the bus, the data packets whose CRC is
right are completed, with their payloads, the others that have one are marked
as mismatched, and nothing is said of the rest. `burst_mismatched`: a data
packet that differs from a right one in a stretch of up to sixteen bits is
not completed.
-/

namespace AvbAes3.UsbReceiver

open Crc

abbrev Byte := BitVec 8

-- ---------------------------------------------------------------------------
-- data_crc
-- ---------------------------------------------------------------------------

/-- The exclusive or of the bits. -/
def parity (x : BitVec n) : Bool := (lsbFirst x).foldl xor false

/-- The register after a byte. -/
def crcNetwork (crc : BitVec 16) (d : Byte) : BitVec 16 :=
  BitVec.ofBoolListBE
    [parity d ^^ parity (crc.extractLsb' 7 9),
      crc.getLsbD 6, crc.getLsbD 5, crc.getLsbD 4, crc.getLsbD 3, crc.getLsbD 2,
      (d.getLsbD 0 ^^ crc.getLsbD 1) ^^ crc.getLsbD 15,
      ((d.getLsbD 0 ^^ d.getLsbD 1) ^^ (crc.getLsbD 14 ^^ crc.getLsbD 15)) ^^ crc.getLsbD 0,
      (d.getLsbD 1 ^^ d.getLsbD 2) ^^ (crc.getLsbD 13 ^^ crc.getLsbD 14),
      (d.getLsbD 2 ^^ d.getLsbD 3) ^^ (crc.getLsbD 12 ^^ crc.getLsbD 13),
      (d.getLsbD 3 ^^ d.getLsbD 4) ^^ (crc.getLsbD 11 ^^ crc.getLsbD 12),
      (d.getLsbD 4 ^^ d.getLsbD 5) ^^ (crc.getLsbD 10 ^^ crc.getLsbD 11),
      (d.getLsbD 5 ^^ d.getLsbD 6) ^^ (crc.getLsbD 9 ^^ crc.getLsbD 10),
      (d.getLsbD 6 ^^ d.getLsbD 7) ^^ (crc.getLsbD 8 ^^ crc.getLsbD 9),
      parity (d.extractLsb' 0 7) ^^ parity (crc.extractLsb' 9 7),
      parity d ^^ parity (crc.extractLsb' 8 8)]

/-- `output_crc`, in the order the bytes have on the bus. -/
def outputCrc (crc : BitVec 16) : BitVec 16 := ~~~crc.reverse

/-- A cycle: the lines of the PHY, and what else reaches the receiver and the
CRC, which the transmitter and the decoder of SETUP packets start too. -/
structure Cycle where
  rxActive : Bool
  rx : Option Byte
  tx : Option Byte
  otherStart : Bool
  txAllowed : Bool

def nextCrc (crc : BitVec 16) (start : Bool) (c : Cycle) : BitVec 16 :=
  if start || c.otherStart then 0xffff#16
  else
    match c.rx, c.tx with
    | some d, _ => crcNetwork crc d
    | none, some d => crcNetwork crc d
    | none, none => crc

-- ---------------------------------------------------------------------------
-- The network is the CRC
-- ---------------------------------------------------------------------------

theorem foldl_xor (p q : Bool) {xs ys : List Bool} (hlen : xs.length = ys.length) :
    (List.zipWith xor xs ys).foldl xor (p ^^ q) = (xs.foldl xor p ^^ ys.foldl xor q) := by
  induction xs generalizing ys p q with
  | nil =>
    cases List.length_eq_zero_iff.mp hlen.symm
    rfl
  | cons x xs ih =>
    cases ys with
    | nil => cases hlen
    | cons y ys =>
      have hfirst : ((p ^^ q) ^^ (x ^^ y)) = ((p ^^ x) ^^ (q ^^ y)) := by
        cases p <;> cases q <;> cases x <;> cases y <;> rfl
      rw [List.zipWith_cons_cons, List.foldl_cons, hfirst, ih _ _ (Nat.succ.inj hlen)]
      rfl

theorem parity_xor (x y : BitVec n) : parity (x ^^^ y) = (parity x ^^ parity y) := by
  rw [parity, lsbFirst_xor]
  exact foldl_xor false false (by simp)

theorem crcNetwork_xor (a b : BitVec 16) (d e : Byte) :
    crcNetwork (a ^^^ b) (d ^^^ e) = crcNetwork a d ^^^ crcNetwork b e := by
  simp only [crcNetwork, BitVec.ofBoolListBE, BitVec.cons_xor_cons, BitVec.extractLsb'_xor,
    parity_xor, BitVec.getLsbD_xor]
  simp only [Bool.xor_assoc, Bool.xor_comm, Bool.xor_left_comm, BitVec.xor_self]

theorem feed_byte_xor (poly a b : BitVec w) (d e : Byte) :
    feed poly (a ^^^ b) (lsbFirst (d ^^^ e)) =
      feed poly a (lsbFirst d) ^^^ feed poly b (lsbFirst e) := by
  rw [lsbFirst_xor]
  exact feed_xor (by simp)

/-- The eight bits of a byte at once, lowest first. -/
theorem crcNetwork_eq (crc : BitVec 16) (d : Byte) :
    crcNetwork crc d = feed 0x8005#16 crc (lsbFirst d) := by
  -- both are linear, so it is enough to look at each bit alone
  have hcrc : (fun crc => crcNetwork crc 0#8) = fun crc => feed 0x8005#16 crc (lsbFirst 0#8) := by
    refine Linear.ext ?_ ?_ (by decide)
    · intro a b
      exact crcNetwork_xor a b 0#8 0#8
    · intro a b
      exact feed_byte_xor 0x8005#16 a b 0#8 0#8
  have hbyte : crcNetwork 0#16 = fun d => feed 0x8005#16 0#16 (lsbFirst d) := by
    refine Linear.ext ?_ ?_ (by decide)
    · intro d e
      exact crcNetwork_xor 0#16 0#16 d e
    · intro d e
      exact feed_byte_xor 0x8005#16 0#16 0#16 d e
  calc crcNetwork crc d
    _ = crcNetwork crc 0#8 ^^^ crcNetwork 0#16 d := by
      rw [← crcNetwork_xor, BitVec.xor_zero, BitVec.zero_xor]
    _ = feed 0x8005#16 crc (lsbFirst 0#8) ^^^ feed 0x8005#16 0#16 (lsbFirst d) := by
      rw [congrFun hcrc crc, congrFun hbyte d]
    _ = feed 0x8005#16 crc (lsbFirst d) := by
      rw [← feed_byte_xor, BitVec.xor_zero, BitVec.zero_xor]

-- ---------------------------------------------------------------------------
-- receiver
-- ---------------------------------------------------------------------------

/-- `fsm_state`. -/
inductive State
  | idle
  | readPid
  | receiveFirstByte
  | receiveSecondByte
  | receiveAndEmit
  | interpacketDelay
  | irrelevant
  deriving DecidableEq

structure Receiver where
  fsm : State
  activePid : BitVec 4
  packetId : BitVec 4
  dataPipeline : BitVec 16
  lastByteCrc : BitVec 16
  lastWordCrc : BitVec 16
  packetComplete : Bool
  crcMismatch : Bool

structure Regs where
  crc : BitVec 16
  rx : Receiver

def reset : Regs :=
  ⟨0xffff#16, ⟨.idle, 0#4, 0#4, 0#16, 0#16, 0#16, false, false⟩⟩

/-- The upper half of a packet's first byte complements the lower, and it is
one of the DATA packets. -/
def isData (d : Byte) : Bool :=
  decide (d.extractLsb' 0 4 = ~~~d.extractLsb' 4 4) && decide (d.extractLsb' 0 2 = 3#2)

def Receiver.start (r : Receiver) : Bool := decide (r.fsm = .readPid)

/-- `payload` where `valid` and `next`. -/
def Receiver.emits (r : Receiver) (c : Cycle) : Option Byte :=
  if r.fsm = .receiveAndEmit ∧ c.rx.isSome then some (r.dataPipeline.extractLsb' 0 8) else none

/-- The strobes last for a cycle. -/
def Receiver.quiet (r : Receiver) : Receiver :=
  { r with packetComplete := false, crcMismatch := false }

/-- A byte enters the pipeline; `crc` is that of the bytes before it. -/
def Receiver.shift (r : Receiver) (crc : BitVec 16) (d : Byte) : Receiver :=
  { r with
    dataPipeline := d ++ r.dataPipeline.extractLsb' 8 8
    lastByteCrc := crc
    lastWordCrc := r.lastByteCrc }

/-- `crc` is what `data_crc` shows. -/
def Receiver.next (r : Receiver) (crc : BitVec 16) (c : Cycle) : Receiver :=
  match r.fsm with
  | .idle => if c.rxActive then { r.quiet with fsm := .readPid } else r.quiet
  | .readPid =>
    if !c.rxActive then { r.quiet with fsm := .idle }
    else
      match c.rx with
      | none => r.quiet
      | some d =>
        if isData d then
          { r.quiet with fsm := .receiveFirstByte, activePid := d.extractLsb' 0 4 }
        else { r.quiet with fsm := .irrelevant }
  | .receiveFirstByte =>
    let r' := match c.rx with
      | none => r.quiet
      | some d =>
        { r.quiet with
          fsm := .receiveSecondByte
          dataPipeline := d ++ r.dataPipeline.extractLsb' 0 8
          lastByteCrc := crc }
    if !c.rxActive then { r' with fsm := .idle } else r'
  | .receiveSecondByte =>
    match c.rx with
    | some d => { r.quiet.shift crc d with fsm := .receiveAndEmit }
    | none => if !c.rxActive then { r.quiet with fsm := .idle } else r.quiet
  | .receiveAndEmit =>
    let r' := match c.rx with
      | none => r.quiet
      | some d => r.quiet.shift crc d
    if c.rxActive then r'
    else if r.lastWordCrc = r.dataPipeline then
      { r' with fsm := .interpacketDelay, packetComplete := true, packetId := r.activePid }
    else { r' with fsm := .idle, crcMismatch := true }
  | .interpacketDelay => if c.txAllowed then { r.quiet with fsm := .idle } else r.quiet
  | .irrelevant => if !c.rxActive then { r.quiet with fsm := .idle } else r.quiet

def step (s : Regs) (c : Cycle) : Regs :=
  ⟨nextCrc s.crc s.rx.start c, s.rx.next (outputCrc s.crc) c⟩

def receiver : Machine Regs Cycle := ⟨reset, step⟩

-- ---------------------------------------------------------------------------
-- The packets on the bus
-- ---------------------------------------------------------------------------

/-- The packet that is coming in, and those that are over. -/
structure Bus where
  packet : Option (List Byte)
  finished : List (List Byte)

def Bus.add (b : Bus) (c : Cycle) : Bus :=
  match b.packet with
  | none => if c.rxActive then { b with packet := some [] } else b
  | some bytes =>
    if c.rxActive then { b with packet := some (bytes ++ c.rx.toList) }
    else ⟨none, b.finished ++ [bytes]⟩

def Bus.behindFirst (b : Bus) : Bool := b.packet.any fun bytes => !bytes.isEmpty

def bus : Machine Bus Cycle := ⟨⟨none, []⟩, Bus.add⟩

/-- The packets that are finished after some cycles. -/
def packets (cycles : List Cycle) : List (List Byte) := (bus.run cycles).finished

/-- The CRC at its end is right for the bytes of a packet. -/
def RightCrc (bytes : List Byte) : Prop :=
  Accepted 0x8005#16 0xffff#16 (bytes.flatMap lsbFirst)

instance (bytes : List Byte) : Decidable (RightCrc bytes) :=
  inferInstanceAs (Decidable (feed 0x8005#16 0xffff#16 (bytes.flatMap lsbFirst) = _))

/-- The bytes of a data packet behind the first. -/
def dataOf : List Byte → Option (List Byte)
  | pid :: bytes => if isData pid && decide (2 ≤ bytes.length) then some bytes else none
  | [] => none

/-- Without the CRC. -/
def payloadOf (bytes : List Byte) : List Byte := bytes.take (bytes.length - 2)

def right (packet : List Byte) : Option (List Byte) :=
  ((dataOf packet).filter fun bytes => decide (RightCrc bytes)).map payloadOf

def wrong (packet : List Byte) : Option (List Byte) :=
  ((dataOf packet).filter fun bytes => !decide (RightCrc bytes)).map payloadOf

/-- What has been passed on since the last strobe, and up to each strobe. -/
structure Log where
  open_ : List Byte
  completed : List (List Byte)
  mismatched : List (List Byte)

def Log.note (l : Log) (s : Regs) (c : Cycle) : Log :=
  let bytes := l.open_ ++ (s.rx.emits c).toList
  if (step s c).rx.packetComplete then { l with open_ := [], completed := l.completed ++ [bytes] }
  else if (step s c).rx.crcMismatch then
    { l with open_ := [], mismatched := l.mismatched ++ [bytes] }
  else { l with open_ := bytes }

def logged : Machine (Regs × Bus × Log) Cycle :=
  receiver.withHistory (bus.init, ⟨[], [], []⟩) fun h s c => (h.1.add c, h.2.note s c)

/-- The PHY gives bytes while a packet is coming in, and not as it begins; no
packet begins while the receiver leaves time for an answer; and while the
bytes of a packet come in behind the first, the CRC is left to the receiver. -/
structure Timed (s : Regs × Bus × Log) (c : Cycle) : Prop where
  bytes : c.rx.isSome → c.rxActive ∧ s.2.1.packet.isSome
  apart : c.rxActive → s.1.rx.fsm ≠ .interpacketDelay
  alone : s.2.1.behindFirst → c.otherStart = false ∧ c.tx = none

instance (s : Regs × Bus × Log) (c : Cycle) : Decidable (Timed s c) :=
  decidable_of_iff
    ((c.rx.isSome → c.rxActive ∧ s.2.1.packet.isSome) ∧
      (c.rxActive → s.1.rx.fsm ≠ .interpacketDelay) ∧
      (s.2.1.behindFirst → c.otherStart = false ∧ c.tx = none))
    ⟨fun ⟨hbytes, hapart, halone⟩ => ⟨hbytes, hapart, halone⟩,
      fun h => ⟨h.bytes, h.apart, h.alone⟩⟩

/-- No byte comes as a packet ends. -/
theorem Timed.no_byte {s : Regs × Bus × Log} {c : Cycle} (h : Timed s c)
    (hend : c.rxActive = false) : c.rx = none := by
  cases hrx : c.rx with
  | none => rfl
  | some d =>
    have hgiven := (h.bytes (by simp [hrx])).1
    rw [hend] at hgiven
    cases hgiven

-- ---------------------------------------------------------------------------
-- The check at the end
-- ---------------------------------------------------------------------------

/-- The register after bytes. -/
def register (bytes : List Byte) : BitVec 16 :=
  feed 0x8005#16 0xffff#16 (bytes.flatMap lsbFirst)

@[simp] theorem register_nil : register [] = 0xffff#16 := rfl

theorem register_concat (bytes : List Byte) (d : Byte) :
    register (bytes ++ [d]) = crcNetwork (register bytes) d := by
  rw [register, List.flatMap_append, feed_append, crcNetwork_eq, List.flatMap_singleton]
  rfl

/-- The last two bytes, lower byte first, are the CRC of those before. -/
theorem rightCrc_iff (payload : List Byte) (b1 b2 : Byte) :
    RightCrc (payload ++ [b1, b2]) ↔ outputCrc (register payload) = b2 ++ b1 := by
  have hcheck : List.flatMap lsbFirst [b1, b2] = lsbFirst (b2 ++ b1) := by
    rw [lsbFirst_append]
    simp
  have hreverse (x : BitVec 16) : (~~~x).reverse = ~~~x.reverse := by
    refine BitVec.eq_of_getLsbD_eq fun i hi => ?_
    rw [BitVec.getLsbD_reverse, BitVec.getLsbD_not, BitVec.getLsbD_reverse, BitVec.getMsbD_not]
  rw [RightCrc, List.flatMap_append, hcheck,
    accepted_append (by decide) (by decide) (length_lsbFirst _), top_lsbFirst, outputCrc,
    ← hreverse, register]
  constructor
  · intro h
    rw [← h, BitVec.reverse_reverse_eq]
  · intro h
    rw [← h, BitVec.reverse_reverse_eq]

-- ---------------------------------------------------------------------------
-- A packet coming in
-- ---------------------------------------------------------------------------

@[simp] theorem upper_pipeline (d e : Byte) : BitVec.extractLsb' (n := 16) 8 8 (d ++ e) = d :=
  BitVec.extractLsb'_append_eq_left

@[simp] theorem lower_pipeline (d e : Byte) : BitVec.extractLsb' (n := 16) 0 8 (d ++ e) = e :=
  BitVec.extractLsb'_append_eq_right

/-- The registers while bytes of a packet have come in, and what has been
passed on of it. -/
inductive Tracks (s : Regs) : Option (List Byte) → List Byte → Prop
  | away (fsm : s.rx.fsm = .idle ∨ s.rx.fsm = .interpacketDelay) : Tracks s none []
  | begun (fsm : s.rx.fsm = .readPid) : Tracks s (some []) []
  | other (fsm : s.rx.fsm = .irrelevant) (pid : Byte) (bytes : List Byte)
    (hpid : isData pid = false) : Tracks s (some (pid :: bytes)) []
  | pid (fsm : s.rx.fsm = .receiveFirstByte) (pid : Byte) (hpid : isData pid = true)
    (crc : s.crc = register []) : Tracks s (some [pid]) []
  | first (fsm : s.rx.fsm = .receiveSecondByte) (pid : Byte) (hpid : isData pid = true)
    (b1 : Byte) (pipeline : s.rx.dataPipeline.extractLsb' 8 8 = b1)
    (crc : s.crc = register [b1]) (last : s.rx.lastByteCrc = outputCrc (register [])) :
    Tracks s (some [pid, b1]) []
  | emitting (fsm : s.rx.fsm = .receiveAndEmit) (pid : Byte) (hpid : isData pid = true)
    (payload : List Byte) (b1 b2 : Byte) (pipeline : s.rx.dataPipeline = b2 ++ b1)
    (crc : s.crc = register (payload ++ [b1, b2]))
    (last : s.rx.lastByteCrc = outputCrc (register (payload ++ [b1])))
    (word : s.rx.lastWordCrc = outputCrc (register payload)) :
    Tracks s (some (pid :: (payload ++ [b1, b2]))) payload

structure Sound (s : Regs × Bus × Log) : Prop where
  tracks : Tracks s.1 s.2.1.packet s.2.2.open_
  completed : s.2.2.completed = s.2.1.finished.filterMap right
  mismatched : s.2.2.mismatched = s.2.1.finished.filterMap wrong

variable {s : Regs} {packet : Option (List Byte)} {passed : List Byte}

theorem dataOf_short (pid : Byte) {bytes : List Byte} (h : bytes.length < 2) :
    dataOf (pid :: bytes) = none := by
  simp [dataOf, Nat.not_le.mpr h]

theorem dataOf_other {pid : Byte} (hpid : isData pid = false) (bytes : List Byte) :
    dataOf (pid :: bytes) = none := by
  simp [dataOf, hpid]

theorem dataOf_data {pid : Byte} (hpid : isData pid = true) (payload : List Byte) (b1 b2 : Byte) :
    dataOf (pid :: (payload ++ [b1, b2])) = some (payload ++ [b1, b2]) := by
  simp [dataOf, hpid]

theorem payloadOf_append (payload : List Byte) (b1 b2 : Byte) :
    payloadOf (payload ++ [b1, b2]) = payload := by
  simp [payloadOf]

/-- What a packet's end adds to the log. -/
structure Closes (s : Regs) (c : Cycle) (packet passed : List Byte) : Prop where
  complete : (step s c).rx.packetComplete = (right packet).isSome
  mismatch : (step s c).rx.crcMismatch = (wrong packet).isSome
  completed : right packet = none ∨ right packet = some passed
  mismatched : wrong packet = none ∨ wrong packet = some passed
  passed : right packet = none → wrong packet = none → passed = []

theorem closes_none {c : Cycle} {bytes : List Byte} (hdata : dataOf bytes = none)
    (hcomplete : (step s c).rx.packetComplete = false)
    (hmismatch : (step s c).rx.crcMismatch = false) : Closes s c bytes [] where
  complete := by rw [hcomplete, right, hdata]; rfl
  mismatch := by rw [hmismatch, wrong, hdata]; rfl
  completed := .inl (by rw [right, hdata]; rfl)
  mismatched := .inl (by rw [wrong, hdata]; rfl)
  passed _ _ := rfl

theorem Tracks.closes (h : Tracks s (some bytes) passed) {c : Cycle} (hend : c.rxActive = false)
    (hquiet : c.rx = none) : Closes s c bytes passed ∧ Tracks (step s c) none [] := by
  cases h with
  | begun fsm =>
    refine ⟨closes_none rfl ?_ ?_, .away (.inl ?_)⟩ <;>
      simp [step, Receiver.next, fsm, hend, Receiver.quiet]
  | other fsm pid bytes hpid =>
    refine ⟨closes_none (dataOf_other hpid bytes) ?_ ?_, .away (.inl ?_)⟩ <;>
      simp [step, Receiver.next, fsm, hend, Receiver.quiet]
  | pid fsm pid hpid crc =>
    refine ⟨closes_none (dataOf_short pid (by simp)) ?_ ?_, .away (.inl ?_)⟩ <;>
      simp [step, Receiver.next, fsm, hend, hquiet, Receiver.quiet]
  | first fsm pid hpid b1 pipeline crc last =>
    refine ⟨closes_none (dataOf_short pid (by simp)) ?_ ?_, .away (.inl ?_)⟩ <;>
      simp [step, Receiver.next, fsm, hend, hquiet, Receiver.quiet]
  | emitting fsm pid hpid payload b1 b2 pipeline crc last word =>
    have hdata := dataOf_data hpid passed b1 b2
    have hcheck : s.rx.lastWordCrc = s.rx.dataPipeline ↔ RightCrc (passed ++ [b1, b2]) := by
      rw [word, pipeline, rightCrc_iff]
    by_cases hright : RightCrc (passed ++ [b1, b2])
    · have hequal := hcheck.mpr hright
      have hgood : right (pid :: (passed ++ [b1, b2])) = some passed := by
        simp [right, hdata, hright, payloadOf_append]
      have hbad : wrong (pid :: (passed ++ [b1, b2])) = none := by simp [wrong, hdata, hright]
      refine ⟨⟨?_, ?_, .inr hgood, .inl hbad, fun hnone => ?_⟩, .away (.inr ?_)⟩
      · simp [step, Receiver.next, fsm, hend, hequal, hgood]
      · simp [step, Receiver.next, fsm, hend, hequal, hbad, hquiet, Receiver.quiet]
      · rw [hgood] at hnone
        cases hnone
      · simp [step, Receiver.next, fsm, hend, hequal]
    · have hdiffer := mt hcheck.mp hright
      have hgood : right (pid :: (passed ++ [b1, b2])) = none := by simp [right, hdata, hright]
      have hbad : wrong (pid :: (passed ++ [b1, b2])) = some passed := by
        simp [wrong, hdata, hright, payloadOf_append]
      refine ⟨⟨?_, ?_, .inl hgood, .inr hbad, fun _ hnone => ?_⟩, .away (.inl ?_)⟩
      · simp [step, Receiver.next, fsm, hend, hdiffer, hgood, hquiet, Receiver.quiet]
      · simp [step, Receiver.next, fsm, hend, hdiffer, hbad]
      · rw [hbad] at hnone
        cases hnone
      · simp [step, Receiver.next, fsm, hend, hdiffer]

/-- No strobe comes within a packet. -/
theorem Tracks.open_ (h : Tracks s (some bytes) passed) {c : Cycle} (hactive : c.rxActive = true) :
    (step s c).rx.packetComplete = false ∧ (step s c).rx.crcMismatch = false := by
  cases h with
  | begun fsm =>
    cases hrx : c.rx with
    | none => simp [step, Receiver.next, fsm, hactive, hrx, Receiver.quiet]
    | some d => cases hpid : isData d <;>
        simp [step, Receiver.next, fsm, hactive, hrx, Receiver.quiet, hpid]
  | other fsm => simp [step, Receiver.next, fsm, hactive, Receiver.quiet]
  | pid fsm => cases hrx : c.rx <;> simp [step, Receiver.next, fsm, hactive, hrx, Receiver.quiet]
  | first fsm =>
    cases hrx : c.rx <;>
      simp [step, Receiver.next, fsm, hactive, hrx, Receiver.quiet, Receiver.shift]
  | emitting fsm =>
    cases hrx : c.rx <;>
      simp [step, Receiver.next, fsm, hactive, hrx, Receiver.quiet, Receiver.shift]

/-- A cycle without a byte leaves the CRC and the pipeline as they were. -/
theorem Tracks.waits (h : Tracks s (some bytes) passed) {c : Cycle} (hactive : c.rxActive = true)
    (hrx : c.rx = none) (halone : (∃ pid rest, bytes = pid :: rest) →
      c.otherStart = false ∧ c.tx = none) :
    Tracks (step s c) (some bytes) passed ∧ s.rx.emits c = none := by
  have hemits : s.rx.emits c = none := by simp [Receiver.emits, hrx]
  have hcrc (hfsm : s.rx.fsm ≠ .readPid) (hpid : ∃ pid rest, bytes = pid :: rest) :
      (step s c).crc = s.crc := by
    obtain ⟨hstart, htx⟩ := halone hpid
    simp [step, nextCrc, Receiver.start, hfsm, hstart, htx, hrx]
  refine ⟨?_, hemits⟩
  cases h with
  | begun fsm => exact .begun (by simp [step, Receiver.next, fsm, hactive, hrx, Receiver.quiet])
  | other fsm pid rest hpid =>
    exact .other (by simp [step, Receiver.next, fsm, hactive, Receiver.quiet]) pid rest hpid
  | pid fsm pid hpid crc =>
    exact .pid (by simp [step, Receiver.next, fsm, hactive, hrx, Receiver.quiet]) pid hpid
      ((hcrc (by simp [fsm]) ⟨_, _, rfl⟩).trans crc)
  | first fsm pid hpid b1 pipeline crc last =>
    have hrx' : (step s c).rx = s.rx.quiet := by simp [step, Receiver.next, fsm, hactive, hrx]
    exact .first (hrx' ▸ fsm) pid hpid b1 (hrx' ▸ pipeline)
      ((hcrc (by simp [fsm]) ⟨_, _, rfl⟩).trans crc) (hrx' ▸ last)
  | emitting fsm pid hpid payload b1 b2 pipeline crc last word =>
    have hrx' : (step s c).rx = s.rx.quiet := by simp [step, Receiver.next, fsm, hactive, hrx]
    exact .emitting (hrx' ▸ fsm) pid hpid _ b1 b2 (hrx' ▸ pipeline)
      ((hcrc (by simp [fsm]) ⟨_, _, rfl⟩).trans crc) (hrx' ▸ last) (hrx' ▸ word)

/-- A byte enters; what it pushes out of the pipeline is passed on. -/
theorem Tracks.enters (h : Tracks s (some bytes) passed) {c : Cycle} {d : Byte}
    (hactive : c.rxActive = true) (hrx : c.rx = some d)
    (halone : (∃ pid rest, bytes = pid :: rest) → c.otherStart = false ∧ c.tx = none) :
    Tracks (step s c) (some (bytes ++ [d])) (passed ++ (s.rx.emits c).toList) := by
  have hcrc (hfsm : s.rx.fsm ≠ .readPid) (hpid : ∃ pid rest, bytes = pid :: rest) :
      (step s c).crc = crcNetwork s.crc d := by
    obtain ⟨hstart, htx⟩ := halone hpid
    simp [step, nextCrc, Receiver.start, hfsm, hstart, hrx]
  have hnone (hfsm : s.rx.fsm ≠ .receiveAndEmit) : passed ++ (s.rx.emits c).toList = passed := by
    simp [Receiver.emits, hfsm]
  cases h with
  | begun fsm =>
    rw [hnone (by simp [fsm])]
    cases hpid : isData d with
    | true =>
      refine .pid ?_ d hpid ?_
      · simp [step, Receiver.next, fsm, hactive, hrx, hpid]
      · simp [step, nextCrc, Receiver.start, fsm]
    | false =>
      exact .other (by simp [step, Receiver.next, fsm, hactive, hrx, hpid]) d [] hpid
  | other fsm pid rest hpid =>
    rw [hnone (by simp [fsm])]
    refine .other ?_ pid (rest ++ [d]) hpid
    simp [step, Receiver.next, fsm, hactive, Receiver.quiet]
  | pid fsm pid hpid crc =>
    rw [hnone (by simp [fsm])]
    have hregister := register_concat [] d
    refine .first ?_ pid hpid d ?_ ?_ ?_
    · simp [step, Receiver.next, fsm, hactive, hrx]
    · simp [step, Receiver.next, fsm, hactive, hrx]
    · rw [hcrc (by simp [fsm]) ⟨_, _, rfl⟩, crc]
      exact hregister.symm
    · simp [step, Receiver.next, fsm, hactive, hrx, crc]
  | first fsm pid hpid b1 pipeline crc last =>
    rw [hnone (by simp [fsm])]
    have hregister := register_concat [b1] d
    refine .emitting ?_ pid hpid [] b1 d ?_ ?_ ?_ ?_
    · simp [step, Receiver.next, fsm, hrx]
    · simp [step, Receiver.next, fsm, hrx, Receiver.shift, Receiver.quiet, pipeline]
    · rw [hcrc (by simp [fsm]) ⟨_, _, rfl⟩, crc]
      exact hregister.symm
    · simp [step, Receiver.next, fsm, hrx, Receiver.shift, crc]
    · simp [step, Receiver.next, fsm, hrx, Receiver.shift, Receiver.quiet, last]
  | emitting fsm pid hpid payload b1 b2 pipeline crc last word =>
    have hemits : s.rx.emits c = some b1 := by
      simp [Receiver.emits, fsm, hrx, pipeline]
    have hbytes : pid :: (passed ++ [b1, b2]) ++ [d] = pid :: ((passed ++ [b1]) ++ [b2, d]) := by
      simp
    have hregister := register_concat (passed ++ [b1, b2]) d
    rw [hemits, Option.toList_some, hbytes]
    refine .emitting ?_ pid hpid (passed ++ [b1]) b2 d ?_ ?_ ?_ ?_
    · simp [step, Receiver.next, fsm, hactive, hrx, Receiver.shift, Receiver.quiet]
    · simp [step, Receiver.next, fsm, hactive, hrx, Receiver.shift, Receiver.quiet, pipeline]
    · rw [hcrc (by simp [fsm]) ⟨_, _, rfl⟩, crc, ← hregister]
      simp
    · simp [step, Receiver.next, fsm, hactive, hrx, Receiver.shift, crc]
    · simp [step, Receiver.next, fsm, hactive, hrx, Receiver.shift, Receiver.quiet, last]

theorem Tracks.idles (h : Tracks s none passed) {c : Cycle}
    (hrx : c.rx = none) (hapart : c.rxActive = true → s.rx.fsm ≠ .interpacketDelay) :
    Tracks (step s c) (Bus.add ⟨none, []⟩ c).packet passed ∧ s.rx.emits c = none ∧
      (step s c).rx.packetComplete = false ∧ (step s c).rx.crcMismatch = false := by
  have hemits : s.rx.emits c = none := by simp [Receiver.emits, hrx]
  cases h with
  | away fsm =>
    cases hactive : c.rxActive with
    | true =>
      have hidle := fsm.resolve_right (hapart hactive)
      refine ⟨?_, hemits, ?_, ?_⟩
      · simp only [Bus.add, hactive, if_true]
        exact .begun (by simp [step, Receiver.next, hidle, hactive])
      · simp [step, Receiver.next, hidle, hactive, Receiver.quiet]
      · simp [step, Receiver.next, hidle, hactive, Receiver.quiet]
    | false =>
      simp only [Bus.add, hactive, Bool.false_eq_true, if_false]
      rcases fsm with hidle | hdelay
      · refine ⟨.away (.inl ?_), hemits, ?_, ?_⟩ <;>
          simp [step, Receiver.next, hidle, hactive, Receiver.quiet]
      · cases hallowed : c.txAllowed with
        | true =>
          refine ⟨.away (.inl ?_), hemits, ?_, ?_⟩ <;>
            simp [step, Receiver.next, hdelay, hallowed, Receiver.quiet]
        | false =>
          refine ⟨.away (.inr ?_), hemits, ?_, ?_⟩ <;>
            simp [step, Receiver.next, hdelay, hallowed, Receiver.quiet]

-- ---------------------------------------------------------------------------
-- Every run
-- ---------------------------------------------------------------------------

theorem Log.note_open (l : Log) {s : Regs} {c : Cycle}
    (hcomplete : (step s c).rx.packetComplete = false)
    (hmismatch : (step s c).rx.crcMismatch = false) :
    l.note s c = { l with open_ := l.open_ ++ (s.rx.emits c).toList } := by
  simp [Log.note, hcomplete, hmismatch]

theorem Closes.note {s : Regs} {c : Cycle} {bytes : List Byte} {l : Log}
    (h : Closes s c bytes l.open_) (hemits : s.rx.emits c = none) :
    l.note s c =
      ⟨[], l.completed ++ (right bytes).toList, l.mismatched ++ (wrong bytes).toList⟩ := by
  have hnot : right bytes = none ∨ wrong bytes = none := by
    cases hdata : dataOf bytes with
    | none => exact .inl (by rw [right, hdata]; rfl)
    | some data =>
      by_cases hright : RightCrc data
      · exact .inr (by simp [wrong, hdata, hright])
      · exact .inl (by simp [right, hdata, hright])
  unfold Log.note
  rw [h.complete, h.mismatch, hemits, Option.toList_none, List.append_nil]
  rcases h.completed with hgood | hgood
  · rcases h.mismatched with hbad | hbad
    · rw [hgood, hbad, h.passed hgood hbad]
      simp
    · rw [hgood, hbad]
      simp
  · have hbad := hnot.resolve_left (by rw [hgood]; simp)
    rw [hgood, hbad]
    simp

theorem Sound.step {h : Bus × Log} (hsound : Sound (s, h)) {c : Cycle} (htimed : Timed (s, h) c) :
    Sound (step s c, h.1.add c, h.2.note s c) := by
  obtain ⟨⟨packet, finished⟩, log⟩ := h
  obtain ⟨htracks, hcompleted, hmismatched⟩ := hsound
  have hbytes := htimed.bytes
  have hapart := htimed.apart
  have halone := htimed.alone
  cases packet with
  | none =>
    have hrx : c.rx = none := by
      cases hrx : c.rx with
      | none => rfl
      | some d => cases (hbytes (by simp [hrx])).2
    obtain ⟨htracks', hemits, hcomplete, hmismatch⟩ := htracks.idles hrx hapart
    rw [Log.note_open log hcomplete hmismatch, hemits, Option.toList_none, List.append_nil]
    have hadd : (Bus.add ⟨none, finished⟩ c).finished = finished ∧
        (Bus.add ⟨none, finished⟩ c).packet = (Bus.add ⟨none, []⟩ c).packet := by
      cases hactive : c.rxActive <;> simp [Bus.add, hactive]
    refine ⟨?_, ?_, ?_⟩
    · rw [hadd.2]
      exact htracks'
    · rw [hadd.1]
      exact hcompleted
    · rw [hadd.1]
      exact hmismatched
  | some bytes =>
    have hbehind : (∃ pid rest, bytes = pid :: rest) → c.otherStart = false ∧ c.tx = none := by
      rintro ⟨pid, rest, rfl⟩
      exact halone rfl
    cases hactive : c.rxActive with
    | true =>
      obtain ⟨hcomplete, hmismatch⟩ := htracks.open_ hactive
      rw [Log.note_open log hcomplete hmismatch]
      refine ⟨?_, ?_, ?_⟩
      · cases hrx : c.rx with
        | none =>
          obtain ⟨htracks', hemits⟩ := htracks.waits hactive hrx hbehind
          simpa [Bus.add, hactive, hrx, hemits] using htracks'
        | some d =>
          have htracks' := htracks.enters hactive hrx hbehind
          simpa [Bus.add, hactive, hrx] using htracks'
      · simpa [Bus.add, hactive] using hcompleted
      · simpa [Bus.add, hactive] using hmismatched
    | false =>
      have hrx := htimed.no_byte hactive
      obtain ⟨hcloses, htracks'⟩ := htracks.closes hactive hrx
      rw [hcloses.note (by simp [Receiver.emits, hrx])]
      refine ⟨?_, ?_, ?_⟩
      · simpa [Bus.add, hactive] using htracks'
      · have hcompleted : log.completed = finished.filterMap right := hcompleted
        simp [Bus.add, hactive, hcompleted, List.filterMap_append, List.filterMap_cons]
        cases right bytes <;> rfl
      · have hmismatched : log.mismatched = finished.filterMap wrong := hmismatched
        simp [Bus.add, hactive, hmismatched, List.filterMap_append, List.filterMap_cons]
        cases wrong bytes <;> rfl

theorem sound_reset : Sound logged.init := ⟨.away (.inl rfl), rfl, rfl⟩

theorem sound_run {cycles : List Cycle} (htimed : logged.Steps Timed cycles) :
    Sound (logged.run cycles) :=
  htimed.invariant sound_reset fun _ _ h hc => h.step hc

theorem run_bus (cycles : List Cycle) : (logged.run cycles).2.1 = bus.run cycles := by
  have hsimulates : Machine.Simulates logged bus fun s b => s.2.1 = b :=
    ⟨rfl, fun s b c h => congrArg (Bus.add · c) h⟩
  exact hsimulates.run cycles

theorem run_receiver (cycles : List Cycle) : (logged.run cycles).1 = receiver.run cycles :=
  Machine.withHistory_fst ..

/-- The data packets with the right CRC are completed, with their payloads,
those with a wrong one are marked, and that is all. -/
theorem packets_received {cycles : List Cycle} (htimed : logged.Steps Timed cycles) :
    (logged.run cycles).2.2.completed = (packets cycles).filterMap right ∧
      (logged.run cycles).2.2.mismatched = (packets cycles).filterMap wrong := by
  have hsound := sound_run htimed
  rw [packets, ← run_bus]
  exact ⟨hsound.completed, hsound.mismatched⟩

-- ---------------------------------------------------------------------------
-- Errors on the line
-- ---------------------------------------------------------------------------

/-- The bytes of two packets behind the first differ in a stretch of up to
sixteen bits only. -/
structure Burst (sent came : List Byte) : Prop where
  length : came.length = sent.length
  differ : ∃ before stretch other after : List Bool,
    sent.flatMap lsbFirst = before ++ (stretch ++ after) ∧
      came.flatMap lsbFirst = before ++ (other ++ after) ∧
      stretch.length = other.length ∧ stretch.length ≤ 16 ∧ stretch ≠ other

theorem Burst.wrongCrc {sent came : List Byte} (h : Burst sent came) (hsent : RightCrc sent) :
    ¬ RightCrc came := by
  obtain ⟨before, stretch, other, after, hbits, hbits', hlen, hle, hne⟩ := h.differ
  intro hcame
  rw [RightCrc, hbits] at hsent
  rw [RightCrc, hbits'] at hcame
  exact hne (burst (by decide) (by decide) hlen hle hsent hcame)

theorem right_isSome {pid : Byte} {bytes : List Byte} :
    (right (pid :: bytes)).isSome = true ↔
      isData pid = true ∧ 2 ≤ bytes.length ∧ RightCrc bytes := by
  by_cases hdata : isData pid = true ∧ 2 ≤ bytes.length
  · simp [right, dataOf, hdata]
  · have hnone : dataOf (pid :: bytes) = none := by
      simp only [dataOf, Bool.and_eq_true, decide_eq_true_iff, hdata, if_false]
    constructor
    · intro h
      rw [right, hnone] at h
      cases h
    · rintro ⟨hpid, htwo, -⟩
      exact absurd ⟨hpid, htwo⟩ hdata

theorem Burst.wrong {pid : Byte} {sent came : List Byte} (h : Burst sent came)
    (hsent : (right (pid :: sent)).isSome) :
    right (pid :: came) = none ∧ (UsbReceiver.wrong (pid :: came)).isSome = true := by
  obtain ⟨hpid, htwo, hright⟩ := right_isSome.mp hsent
  have hcrc := h.wrongCrc hright
  rw [← h.length] at htwo
  constructor <;> simp [right, UsbReceiver.wrong, dataOf, hpid, htwo, hcrc]

/-- A right data packet that came with a burst of errors is not completed
when it is over, but marked. -/
theorem burst_mismatched {cycles : List Cycle} {c : Cycle}
    (htimed : logged.Steps Timed (cycles ++ [c])) {pid : Byte} {sent came : List Byte}
    (hpacket : (bus.run cycles).packet = some (pid :: came)) (hend : c.rxActive = false)
    (hsent : (right (pid :: sent)).isSome) (hburst : Burst sent came) :
    (receiver.run (cycles ++ [c])).rx.packetComplete = false ∧
      (receiver.run (cycles ++ [c])).rx.crcMismatch = true := by
  have hsound := sound_run htimed.before
  have htracks := hsound.tracks
  rw [run_bus, hpacket] at htracks
  obtain ⟨hcloses, -⟩ := htracks.closes hend (htimed.at.no_byte hend)
  obtain ⟨hgood, hbad⟩ := hburst.wrong hsent
  rw [Machine.run_concat, ← run_receiver]
  refine ⟨?_, ?_⟩
  · exact hcloses.complete.trans (by rw [hgood]; rfl)
  · exact hcloses.mismatch.trans hbad

-- ---------------------------------------------------------------------------
-- A run
-- ---------------------------------------------------------------------------

def lineCycle (active : Bool) (rx : Option Byte) : Cycle where
  rxActive := active
  rx := rx
  tx := none
  otherStart := false
  txAllowed := true

/-- A packet begins, and its bytes come in. -/
def comingIn (bytes : List Byte) : List Cycle :=
  lineCycle true none :: bytes.map fun d => lineCycle true (some d)

def rightPacket : List Byte := [0xc3#8, 0x05#8, 0x17#8, 0xbd#8, 0x11#8]

/-- The same with an error in the payload and one in the CRC. -/
def burstPacket : List Byte := [0xc3#8, 0x05#8, 0x16#8, 0xbc#8, 0x11#8]

/-- The right packet has ended. -/
def untilBurst : List Cycle :=
  comingIn rightPacket ++ [lineCycle false none, lineCycle false none] ++ comingIn burstPacket

theorem twoPackets_received :
    (logged.run (untilBurst ++ [lineCycle false none])).2.2.completed =
        (packets (untilBurst ++ [lineCycle false none])).filterMap right ∧
      (logged.run (untilBurst ++ [lineCycle false none])).2.2.mismatched =
        (packets (untilBurst ++ [lineCycle false none])).filterMap wrong :=
  packets_received (by decide +kernel)

example : (packets (untilBurst ++ [lineCycle false none])).filterMap right = [[0x05#8, 0x17#8]] ∧
    (packets (untilBurst ++ [lineCycle false none])).filterMap wrong = [[0x05#8, 0x16#8]] := by
  decide +kernel

theorem burstPacket_mismatched :
    (receiver.run (untilBurst ++ [lineCycle false none])).rx.packetComplete = false ∧
      (receiver.run (untilBurst ++ [lineCycle false none])).rx.crcMismatch = true :=
  burst_mismatched (by decide +kernel)
    (show (bus.run untilBurst).packet = some burstPacket by decide +kernel) rfl
    (show (right rightPacket).isSome = true by decide +kernel)
    ⟨rfl, lsbFirst 0x05#8, lsbFirst 0x17#8 ++ lsbFirst 0xbd#8, lsbFirst 0x16#8 ++ lsbFirst 0xbc#8,
      lsbFirst 0x11#8, by decide +kernel⟩

end AvbAes3.UsbReceiver
