import AvbAes3.Gptp
import AvbAes3.Lib.Machine
import AvbAes3.Lib.SyncFifo
import AvbAes3.TxFrameArbiter

/-!
# The receive timestamp ring

The TSU's time at a frame's first beat goes into a ring when the MAC commits
the frame to a slot, and the firmware pops the ring once for every slot it
takes in. An `Rx` holds the ring and, of the MAC, the frame on its way in
and the frames that wait in the slots. `stamps_own`: while a slot is handled,
what was popped is the time of the frame in it, provided nothing waits when
`gptp_init` acknowledges the MAC, which releases a slot and pops nothing.
-/

namespace AvbAes3.StampRing

-- ---------------------------------------------------------------------------
-- Timestamps
-- ---------------------------------------------------------------------------

/-- `tsu.seconds` and `tsu.nanoseconds` -/
structure TsuTime where
  seconds : BitVec 48
  nanoseconds : BitVec 32
  deriving DecidableEq

/-- `Cat(tsu.nanoseconds, tsu.seconds)` -/
def TsuTime.timestamp (t : TsuTime) : BitVec 80 := t.seconds ++ t.nanoseconds

def TsuTime.ptp (t : TsuTime) : PtpTimestamp :=
  ⟨⟨t.seconds.setWidth 64⟩, ⟨t.nanoseconds⟩⟩

def rxTsPopLo (popped : BitVec 80) : UInt32 := ⟨popped.extractLsb' 0 32⟩
def rxTsPopMid (popped : BitVec 80) : UInt32 := ⟨popped.extractLsb' 32 32⟩
def rxTsPopHi (popped : BitVec 80) : UInt32 := ⟨(popped.extractLsb' 64 16).setWidth 32⟩

/-- What `gptp_read_rx_timestamp` makes of the registers. -/
def rxTimestamp (hi mid lo : UInt32) : PtpTimestamp :=
  ⟨hi.toUInt64 <<< 32 ||| mid.toUInt64, lo⟩

theorem timestamp_getLsbD (t : TsuTime) (i : Nat) :
    t.timestamp.getLsbD i =
      if i < 32 then t.nanoseconds.getLsbD i else t.seconds.getLsbD (i - 32) :=
  (BitVec.getLsbD_append ..).trans (by cases decide (i < 32) <;> simp_all)

/-- The three registers hold the whole time. -/
theorem rxTimestamp_timestamp (t : TsuTime) :
    rxTimestamp (rxTsPopHi t.timestamp) (rxTsPopMid t.timestamp) (rxTsPopLo t.timestamp) =
      t.ptp := by
  have hlo : rxTsPopLo t.timestamp = ⟨t.nanoseconds⟩ := by
    refine congrArg UInt32.ofBitVec (BitVec.eq_of_getLsbD_eq fun i hi => ?_)
    simp [timestamp_getLsbD, hi]
  have hseconds : (rxTsPopHi t.timestamp).toUInt64 <<< 32 ||| (rxTsPopMid t.timestamp).toUInt64 =
      ⟨t.seconds.setWidth 64⟩ := by
    refine UInt64.toBitVec_inj.mp (BitVec.eq_of_getLsbD_eq fun i hi => ?_)
    by_cases hlow : i < 32
    · simp [rxTsPopHi, rxTsPopMid, timestamp_getLsbD, hi, hlow]
    · -- the upper 16 bits, and zeros beyond the 48
      have hindex : 64 + (i - 32) - 32 = i := by omega
      have hhigh : ¬ 64 + (i - 32) < 32 := by omega
      by_cases hin : i < 48
      · have hwidth : i - 32 < 16 := by omega
        simp [rxTsPopHi, rxTsPopMid, timestamp_getLsbD, hi, hlow, hindex, hhigh, hwidth]
      · have hwidth : ¬ i - 32 < 16 := by omega
        have hbeyond : t.seconds.getLsbD i = false :=
          BitVec.getLsbD_of_ge _ _ (Nat.not_lt.mp hin)
        simp [rxTsPopHi, rxTsPopMid, timestamp_getLsbD, hi, hlow, hwidth, hbeyond]
  rw [rxTimestamp, hlo, hseconds]
  rfl

-- ---------------------------------------------------------------------------
-- State
-- ---------------------------------------------------------------------------

/-- avb_soc.py builds the MAC with `nrxslots = 2`. -/
def nRxSlots : Nat := 2

def ringDepth : Nat := 8

/-- The MAC's view of the wire: a frame is named by the time of its first
beat. One that is complete waits to be committed; if the next one begins, it
has been discarded. -/
inductive Incoming
  | none
  | receiving (first : TsuTime)
  | complete (first : TsuTime)
  deriving DecidableEq

def Incoming.isComplete : Incoming → Bool
  | .complete _ => true
  | _ => false

/-- Where the firmware is: outside the handling of a slot, in it, or at one
of the register reads of `gptp_read_rx_timestamp` there. -/
inductive Cpu
  | outside
  | handling
  | readMid (hi : UInt32)
  | readLo (hi mid : UInt32)
  deriving DecidableEq

/-- What the CPU does on the bus in a cycle. -/
inductive Access
  | idle
  /-- `dispatch_rx` has seen a slot pending and writes `main_rx_ts_pop`. -/
  | pop
  /-- The next register read of `gptp_read_rx_timestamp`. -/
  | read
  /-- `dispatch_rx` acknowledges the slot. -/
  | ack
  /-- `gptp_init` clears the MAC's events. -/
  | clear
  deriving DecidableEq

/-- The inputs of a cycle: `mac.core.source`, the TSU's time,
`stat_fifo.sink.valid` and the bus access. -/
structure Cycle where
  valid : Bool
  ready : Bool
  last : Bool
  time : TsuTime
  commit : Bool
  access : Access

structure Rx where
  rxActive : Bool
  capturedRxTs : BitVec 80
  rxTsFifo : List (BitVec 80)
  popped : BitVec 80
  overflowCnt : UInt32
  commitCnt : UInt32
  incoming : Incoming
  /-- The committed frames, in the order they are presented to the CPU. -/
  slots : List TsuTime
  cpu : Cpu

def Rx.init : Rx where
  rxActive := false
  capturedRxTs := 0
  rxTsFifo := []
  popped := 0
  overflowCnt := 0
  commitCnt := 0
  incoming := .none
  slots := []
  cpu := .outside

-- ---------------------------------------------------------------------------
-- One clock cycle
-- ---------------------------------------------------------------------------

def Cycle.beat (c : Cycle) : Bool := c.valid && c.ready

namespace Rx

def rxFirstBeat (s : Rx) (c : Cycle) : Bool := c.beat && !s.rxActive

/-- `dispatch_rx` takes in a slot: `rx_ts_pop.re`. -/
def takes (s : Rx) (c : Cycle) : Bool :=
  decide (c.access = .pop ∧ s.cpu = .outside ∧ s.slots ≠ [])

/-- The MAC's event is acknowledged, at the end of the handling or by
`gptp_init`. -/
def releases (s : Rx) (c : Cycle) : Bool :=
  decide (c.access = .ack ∧ s.cpu = .handling ∨ c.access = .clear ∧ s.cpu = .outside)

def writable (s : Rx) : Bool := decide (s.rxTsFifo.length < ringDepth)

/-- The MAC's frame once it is committed or not, and the beat taken in. -/
def nextIncoming (s : Rx) (c : Cycle) : Incoming :=
  let begin_ := if c.last then .complete c.time else .receiving c.time
  match s.incoming with
  | .receiving first => if c.beat && c.last then .complete first else .receiving first
  | .complete first =>
    if c.beat then begin_ else if c.commit then .none else .complete first
  | .none => if c.beat then begin_ else .none

/-- The frame that a commit puts into a slot. -/
def committed (s : Rx) (c : Cycle) : List TsuTime :=
  match s.incoming with
  | .complete first => if c.commit then [first] else []
  | _ => []

def nextCpu (s : Rx) (c : Cycle) : Cpu :=
  match s.cpu, c.access with
  | .outside, .pop => if s.slots = [] then .outside else .handling
  | .handling, .read => .readMid (rxTsPopHi s.popped)
  | .readMid hi, .read => .readLo hi (rxTsPopMid s.popped)
  | .readLo .., .read => .handling
  | .handling, .ack => .outside
  | cpu, _ => cpu

def step (s : Rx) (c : Cycle) : Rx where
  rxActive := if c.beat then !c.last else s.rxActive
  capturedRxTs := if s.rxFirstBeat c then c.time.timestamp else s.capturedRxTs
  rxTsFifo := SyncFifo.next ringDepth s.rxTsFifo
    (if c.commit then some s.capturedRxTs else none) (s.takes c)
  popped := if s.takes c then s.rxTsFifo.headD s.popped else s.popped
  overflowCnt := if c.commit && !s.writable then s.overflowCnt + 1 else s.overflowCnt
  commitCnt := if c.commit then s.commitCnt + 1 else s.commitCnt
  incoming := s.nextIncoming c
  slots := (if s.releases c then s.slots.tail else s.slots) ++ s.committed c
  cpu := s.nextCpu c

end Rx

def machine : Machine Rx Cycle := ⟨.init, Rx.step⟩

/-- The MAC commits a complete frame before the next one begins, and only
while there is a slot for it. -/
def MacKeeps (s : Rx) (c : Cycle) : Prop :=
  (c.commit → s.incoming.isComplete) ∧ (s.step c).slots.length ≤ nRxSlots

instance (s : Rx) : DecidablePred (MacKeeps s) := fun c => by
  unfold MacKeeps; infer_instance

/-- While a slot is handled, the register holds the time of the frame in it,
and `gptp_read_rx_timestamp` returns that time. -/
def Own (s : Rx) (c : Cycle) : Prop :=
  ((s.step c).cpu ≠ .outside →
    ∃ first ∈ (s.step c).slots.head?, (s.step c).popped = first.timestamp) ∧
  ∀ hi mid, s.cpu = .readLo hi mid → c.access = .read →
    ∃ first ∈ s.slots.head?, rxTimestamp hi mid (rxTsPopLo s.popped) = first.ptp

/-- No frame waits when `gptp_init` clears the MAC's events. -/
def ClearsNone (s : Rx) (c : Cycle) : Prop := c.access = .clear → s.cpu = .outside → s.slots = []

instance (s : Rx) : DecidablePred (ClearsNone s) := fun c => by
  unfold ClearsNone; infer_instance

-- ---------------------------------------------------------------------------
-- What a cycle does
-- ---------------------------------------------------------------------------

variable {s : Rx} {c : Cycle}

/-- The outcomes of a cycle for the CPU. -/
inductive CpuStep (s : Rx) (c : Cycle) : Prop
  | takes (hcpu : s.cpu = .outside) (hslots : s.slots ≠ []) (htakes : s.takes c = true)
      (hreleases : s.releases c = false) (hnext : s.nextCpu c = .handling)
  | acks (hcpu : s.cpu = .handling) (htakes : s.takes c = false)
      (hreleases : s.releases c = true) (hnext : s.nextCpu c = .outside)
  | clears (hcpu : s.cpu = .outside) (hclear : c.access = .clear) (htakes : s.takes c = false)
      (hreleases : s.releases c = true) (hnext : s.nextCpu c = .outside)
  | waits (hcpu : s.cpu = .outside) (htakes : s.takes c = false)
      (hreleases : s.releases c = false) (hnext : s.nextCpu c = .outside)
  | handles (hcpu : s.cpu ≠ .outside) (htakes : s.takes c = false)
      (hreleases : s.releases c = false) (hnext : s.nextCpu c ≠ .outside)

theorem cpuStep (s : Rx) (c : Cycle) : CpuStep s c := by
  cases hcpu : s.cpu with
  | outside =>
    cases haccess : c.access with
    | pop =>
      by_cases hslots : s.slots = []
      · exact .waits hcpu (by simp [Rx.takes, hslots]) (by simp [Rx.releases, haccess])
          (by simp [Rx.nextCpu, hcpu, haccess, hslots])
      · exact .takes hcpu hslots (by simp [Rx.takes, haccess, hcpu, hslots])
          (by simp [Rx.releases, haccess]) (by simp [Rx.nextCpu, hcpu, haccess, hslots])
    | clear =>
      exact .clears hcpu haccess (by simp [Rx.takes, haccess])
        (by simp [Rx.releases, haccess, hcpu]) (by simp [Rx.nextCpu, hcpu, haccess])
    | idle | read | ack =>
      exact .waits hcpu (by simp [Rx.takes, haccess]) (by simp [Rx.releases, haccess, hcpu])
        (by simp [Rx.nextCpu, hcpu, haccess])
  | handling =>
    have htakes : s.takes c = false := by simp [Rx.takes, hcpu]
    cases haccess : c.access with
    | ack =>
      exact .acks hcpu htakes (by simp [Rx.releases, haccess, hcpu])
        (by simp [Rx.nextCpu, hcpu, haccess])
    | idle | pop | read | clear =>
      exact .handles (by simp [hcpu]) htakes (by simp [Rx.releases, haccess, hcpu])
        (by simp [Rx.nextCpu, hcpu, haccess])
  | readMid hi | readLo hi mid =>
    refine .handles (by simp [hcpu]) (by simp [Rx.takes, hcpu]) (by simp [Rx.releases, hcpu]) ?_
    cases haccess : c.access <;> simp [Rx.nextCpu, hcpu, haccess]

/-- What the register reads so far have given. -/
def ReadSoFar (popped : BitVec 80) : Cpu → Prop
  | .readMid hi => hi = rxTsPopHi popped
  | .readLo hi mid => hi = rxTsPopHi popped ∧ mid = rxTsPopMid popped
  | _ => True

/-- The ring is the slots' times, without that of the slot being handled. -/
structure Aligned (s : Rx) : Prop where
  active : s.rxActive = true ↔ ∃ first, s.incoming = .receiving first
  captured : ∀ first, s.incoming = .receiving first ∨ s.incoming = .complete first →
    s.capturedRxTs = first.timestamp
  ring : s.rxTsFifo =
    (if s.cpu = .outside then s.slots else s.slots.tail).map TsuTime.timestamp
  popped : s.cpu ≠ .outside → ∃ first ∈ s.slots.head?, s.popped = first.timestamp
  readSoFar : ReadSoFar s.popped s.cpu
  room : s.slots.length ≤ nRxSlots

theorem aligned_init : Aligned .init where
  active := by simp [Rx.init]
  captured _ h := by rcases h with h | h <;> cases h
  ring := rfl
  popped h := absurd rfl h
  readSoFar := trivial
  room := Nat.zero_le _

/-- What goes into the ring is the time of the frame that goes into a slot. -/
theorem Aligned.pushed (h : Aligned s) (hmac : MacKeeps s c) :
    (if c.commit then some s.capturedRxTs else none).toList =
      (s.committed c).map TsuTime.timestamp := by
  by_cases hcommit : c.commit
  · have hcomplete := hmac.1 hcommit
    cases hincoming : s.incoming with
    | complete first =>
      simp [Rx.committed, hincoming, hcommit, h.captured first (.inr hincoming)]
    | none | receiving first =>
      rw [hincoming] at hcomplete
      cases hcomplete
  · unfold Rx.committed
    cases s.incoming <;> simp [hcommit]

/-- There is always room in the ring. -/
theorem Aligned.fifo (h : Aligned s) (hmac : MacKeeps s c) :
    (s.step c).rxTsFifo = (if s.takes c then s.rxTsFifo.tail else s.rxTsFifo) ++
      (s.committed c).map TsuTime.timestamp := by
  have hlen : s.rxTsFifo.length ≤ s.slots.length := by
    rw [h.ring, List.length_map]
    split
    · exact Nat.le_refl _
    · exact (List.length_tail ..).trans_le (Nat.sub_le ..)
  have hroom : s.rxTsFifo.length < ringDepth :=
    Nat.lt_of_le_of_lt (hlen.trans h.room) (by decide)
  show SyncFifo.next ringDepth _ _ _ = _
  rw [SyncFifo.next_room hroom, h.pushed hmac]

theorem step_active (h : Aligned s) :
    (s.step c).rxActive = true ↔ ∃ first, (s.step c).incoming = .receiving first := by
  have hactive := h.active
  show (if c.beat then !c.last else s.rxActive) = true ↔ ∃ first, s.nextIncoming c = .receiving first
  unfold Rx.nextIncoming
  cases hincoming : s.incoming with
  | none =>
    rw [hincoming] at hactive
    cases c.beat <;> cases c.last <;> simp_all
  | receiving first =>
    rw [hincoming] at hactive
    cases c.beat <;> cases c.last <;> simp_all
  | complete first =>
    rw [hincoming] at hactive
    cases c.beat <;> cases c.last <;> cases c.commit <;> simp_all

/-- A frame's first beat is latched, and kept until the next one's. -/
theorem step_captured (h : Aligned s) (first : TsuTime) :
    (s.step c).incoming = .receiving first ∨ (s.step c).incoming = .complete first →
      (s.step c).capturedRxTs = first.timestamp := by
  have hactive := h.active
  show s.nextIncoming c = .receiving first ∨ s.nextIncoming c = .complete first →
    (if s.rxFirstBeat c then c.time.timestamp else s.capturedRxTs) = first.timestamp
  unfold Rx.nextIncoming Rx.rxFirstBeat
  cases hincoming : s.incoming with
  | none =>
    rw [hincoming] at hactive
    cases c.beat <;> cases c.last <;> simp_all
  | receiving f =>
    rw [hincoming] at hactive
    have hkept := h.captured f (.inl hincoming)
    cases c.beat <;> cases c.last <;> simp_all
  | complete f =>
    rw [hincoming] at hactive
    have hkept := h.captured f (.inr hincoming)
    cases c.beat <;> cases c.last <;> cases c.commit <;> simp_all

theorem step_readSoFar (h : Aligned s) : ReadSoFar (s.step c).popped (s.step c).cpu := by
  have hread := h.readSoFar
  show ReadSoFar (if s.takes c then s.rxTsFifo.headD s.popped else s.popped) (s.nextCpu c)
  cases hcpu : s.cpu with
  | outside =>
    cases haccess : c.access with
    | pop => by_cases hslots : s.slots = [] <;> simp [Rx.nextCpu, hcpu, haccess, hslots, ReadSoFar]
    | _ => simp [Rx.nextCpu, hcpu, haccess, ReadSoFar]
  | handling | readMid hi | readLo hi mid =>
    rw [hcpu] at hread
    have htakes : s.takes c = false := by simp [Rx.takes, hcpu]
    rw [htakes]
    cases haccess : c.access <;> simp_all [Rx.nextCpu, ReadSoFar]

/-- The ring and the slots are pushed together and popped in turn. -/
theorem Aligned.step (h : Aligned s) (hmac : MacKeeps s c) (hclear : ClearsNone s c) :
    Aligned (s.step c) := by
  have hring := h.ring
  have hfifo := h.fifo hmac
  have hslots : (s.step c).slots =
      (if s.releases c then s.slots.tail else s.slots) ++ s.committed c := rfl
  have hcpu' : (s.step c).cpu = s.nextCpu c := rfl
  have hpopped' : (s.step c).popped =
      if s.takes c then s.rxTsFifo.headD s.popped else s.popped := rfl
  refine ⟨step_active h, step_captured h, ?_, ?_, step_readSoFar h, hmac.2⟩
  · rw [hfifo, hslots, hcpu']
    cases cpuStep s c with
    | takes hcpu hsome htakes hreleases hnext =>
      obtain ⟨first, rest, hq⟩ := List.exists_cons_of_ne_nil hsome
      rw [hcpu, if_pos rfl, hq] at hring
      rw [htakes, hreleases, hnext, hring, hq]
      simp
    | acks hcpu htakes hreleases hnext =>
      rw [hcpu, if_neg (by simp)] at hring
      rw [htakes, hreleases, hnext, hring]
      simp
    | clears hcpu haccess htakes hreleases hnext =>
      -- the acknowledgement finds no slot to release
      have hempty := hclear haccess hcpu
      rw [hcpu, if_pos rfl, hempty] at hring
      rw [htakes, hreleases, hnext, hring, hempty]
      simp
    | waits hcpu htakes hreleases hnext =>
      rw [hcpu, if_pos rfl] at hring
      rw [htakes, hreleases, hnext, hring]
      simp
    | handles hcpu htakes hreleases hnext =>
      obtain ⟨first, hfirst, -⟩ := h.popped hcpu
      obtain ⟨rest, hq⟩ := List.head?_eq_some_iff.mp hfirst
      rw [if_neg hcpu, hq] at hring
      rw [htakes, hreleases, if_neg hnext, hring, hq]
      simp
  · rw [hslots, hcpu', hpopped']
    cases cpuStep s c with
    | takes hcpu hsome htakes hreleases hnext =>
      obtain ⟨first, rest, hq⟩ := List.exists_cons_of_ne_nil hsome
      rw [hcpu, if_pos rfl, hq] at hring
      rw [htakes, hreleases, hring, hq]
      exact fun _ => ⟨first, rfl, rfl⟩
    | acks hcpu htakes hreleases hnext => exact fun hne => absurd hnext hne
    | clears hcpu haccess htakes hreleases hnext => exact fun hne => absurd hnext hne
    | waits hcpu htakes hreleases hnext => exact fun hne => absurd hnext hne
    | handles hcpu htakes hreleases hnext =>
      obtain ⟨first, hfirst, hpopped⟩ := h.popped hcpu
      obtain ⟨rest, hq⟩ := List.head?_eq_some_iff.mp hfirst
      rw [htakes, hreleases, hq]
      exact fun _ => ⟨first, rfl, hpopped⟩

/-- What the firmware makes of the registers is the frame's time. -/
theorem Aligned.read (h : Aligned s) {hi mid : UInt32} (hcpu : s.cpu = .readLo hi mid) :
    ∃ first ∈ s.slots.head?, rxTimestamp hi mid (rxTsPopLo s.popped) = first.ptp := by
  obtain ⟨first, hfirst, hpopped⟩ := h.popped (by simp [hcpu])
  have hread := h.readSoFar
  rw [hcpu] at hread
  obtain ⟨rfl, rfl⟩ := hread
  refine ⟨first, hfirst, ?_⟩
  rw [hpopped]
  exact rxTimestamp_timestamp first

/-- In a run in which the MAC keeps to its order and nothing waits when its
events are cleared, what is popped for a slot is the time of the first beat
of the frame in it. -/
theorem stamps_own (run : List Cycle) (hmac : machine.Steps MacKeeps run)
    (hclear : machine.Steps ClearsNone run) : machine.Steps Own run := by
  refine (hmac.and hclear).of_invariant Aligned aligned_init
    (fun _ _ h hstep => h.step hstep.1 hstep.2) ?_
  intro s c h hstep
  exact ⟨(h.step hstep.1 hstep.2).popped, fun hi mid hcpu _ => h.read hcpu⟩

-- ---------------------------------------------------------------------------
-- Runs
-- ---------------------------------------------------------------------------

/-- A frame of one beat at this time, and its commit. -/
def arrives (time : TsuTime) : List Cycle :=
  [⟨true, true, true, time, false, .idle⟩, ⟨false, true, false, time, true, .idle⟩]

def cpuCycle (access : Access) : Cycle := ⟨false, true, false, ⟨0, 0⟩, false, access⟩

def first : TsuTime := ⟨0, 100⟩
def second : TsuTime := ⟨0, 200⟩

/-- Two frames wait; the first is handled and its time read, then the
second. -/
def bothHandled : List Cycle :=
  cpuCycle .clear :: arrives first ++ arrives second ++
    [cpuCycle .pop, cpuCycle .read, cpuCycle .read, cpuCycle .read, cpuCycle .ack, cpuCycle .pop]

theorem bothHandled_own : machine.Steps Own bothHandled :=
  stamps_own bothHandled (by decide +kernel) (by decide +kernel)

/-- A frame waits when the events are cleared, and another comes. -/
def clearedEarly : List Cycle := arrives first ++ cpuCycle .clear :: arrives second

/-- The time popped for the second frame is the first one's. -/
theorem clearedEarly_shifts :
    machine.Steps MacKeeps (clearedEarly ++ [cpuCycle .pop]) ∧
      ¬ machine.Steps Own (clearedEarly ++ [cpuCycle .pop]) := by
  refine ⟨by decide +kernel, fun h => ?_⟩
  obtain ⟨f, hf, hpopped⟩ := h.at.1 (by decide +kernel)
  have hslot : ((machine.run clearedEarly).step (cpuCycle .pop)).slots.head? = some second := by
    decide +kernel
  have hshifted : ((machine.run clearedEarly).step (cpuCycle .pop)).popped ≠ second.timestamp := by
    decide +kernel
  obtain rfl := Option.some.inj (hslot.symm.trans hf)
  exact hshifted hpopped

end AvbAes3.StampRing
