import AvbAes3.EthMac
import AvbAes3.Lib.Machine

/-!
# Transmit slots against the reader

The LiteEth SRAM reader queues (slot, length) commands in a FIFO of
`ETHMAC_TX_SLOTS` entries and reads the slot memory later, at any pace, in
FIFO order. The modules fill a slot before they wait for the FIFO to have
room, and each rotates its own counter over the same slots, so a module can
write into a slot whose frame is still queued.

`txSlots_intact_iff`: frames reach the wire as they were when `start` was
written, and no queued slot is written, in exactly the runs whose schedule
is `ParityFree`: whenever a module writes into its frame number `n`, every
frame still queued has a number of the other parity, frames being numbered
by each module on its own.
-/

namespace AvbAes3.TxSlots

/-- One command of the reader's FIFO. `atStart` is what the slot held when
`start` was written, `sent` what has been put on the wire of it so far. -/
structure Command where
  slot : Slot
  length : Nat
  atStart : List UInt8
  sent : List UInt8
  deriving DecidableEq, Repr

/-- The slots, the reader's FIFO with the command being sent at its head, and
the commands completed. -/
structure TxPath where
  mac : EthMac
  queue : List Command
  wire : List Command

inductive Event
  /-- The module writes a byte of the frame it is building. -/
  | store (p : Producer) (at_ : Nat) (v : UInt8)
  /-- The module polls `ready` once and, if it is set, starts its frame. -/
  | send (p : Producer) (length : Nat)
  /-- The reader puts one more byte of the oldest command on the wire, or
  ends it. -/
  | read
  deriving DecidableEq, Repr

/-- `ethmac_sram_reader_ready_read()`: the FIFO is not full. -/
def TxPath.ready (t : TxPath) : Bool := t.queue.length < ethmacTxSlots

def TxPath.store (t : TxPath) (p : Producer) (at_ : Nat) (v : UInt8) : TxPath :=
  { t with mac := t.mac.fill p ((t.mac.buf p).store at_ v) }

/-- The slot, length and start registers, then the counter. While the reader
is not ready the module spins. -/
def TxPath.ethSend (t : TxPath) (p : Producer) (length : Nat) : TxPath :=
  if t.ready then
    { t with
      mac := t.mac.rotate p
      queue := t.queue ++ [⟨t.mac.txslot p, length, (t.mac.buf p).take length, []⟩] }
  else t

def TxPath.read (t : TxPath) : TxPath :=
  match t.queue with
  | [] => t
  | c :: rest =>
    if c.sent.length < c.length then
      { t with queue := { c with sent := c.sent ++ [t.mac.slots c.slot c.sent.length] } :: rest }
    else { t with queue := rest, wire := t.wire ++ [c] }

def TxPath.step (t : TxPath) : Event → TxPath
  | .store p at_ v => t.store p at_ v
  | .send p length => t.ethSend p length
  | .read => t.read

def machine : Machine TxPath Event where
  init := ⟨.init, [], []⟩
  step := TxPath.step

/-- No module writes into a slot that is queued or being sent. -/
def Unqueued (t : TxPath) : Event → Prop
  | .store p _ _ => ∀ c ∈ t.queue, c.slot ≠ t.mac.txslot p
  | _ => True

instance (t : TxPath) : DecidablePred (Unqueued t) := fun e => by
  cases e <;> unfold Unqueued <;> infer_instance

/-- What is on the wire is what was in the slot when `start` was written. -/
structure TxPath.Exact (t : TxPath) : Prop where
  queue : ∀ c ∈ t.queue, c.sent <+: c.atStart
  wire : ∀ c ∈ t.wire, c.sent = c.atStart

/-- Slot integrity of a step: no queued slot is written, and the wire is
exact after it. -/
def Intact (t : TxPath) (e : Event) : Prop := Unqueued t e ∧ (t.step e).Exact

-- ---------------------------------------------------------------------------
-- The schedule alone
-- ---------------------------------------------------------------------------

/-- A run without its bytes: how many frames each module has sent, and of
each frame queued its number and how much of it is left to send. -/
structure Schedule where
  count : Producer → Nat
  queued : List (Nat × Nat)

def Schedule.step (s : Schedule) : Event → Schedule
  | .store .. => s
  | .send p length =>
    if s.queued.length < ethmacTxSlots then
      ⟨Function.update s.count p (s.count p + 1), s.queued ++ [(s.count p, length)]⟩
    else s
  | .read =>
    match s.queued with
    | [] => s
    | (number, left) :: rest =>
      if 0 < left then { s with queued := (number, left - 1) :: rest }
      else { s with queued := rest }

def schedule : Machine Schedule Event where
  init := ⟨fun _ => 0, []⟩
  step := Schedule.step

/-- The frame a module writes into has another parity than every frame still
queued. -/
def ParityFree (s : Schedule) : Event → Prop
  | .store p _ _ => ∀ f ∈ s.queued, f.1 % 2 ≠ s.count p % 2
  | _ => True

instance (s : Schedule) : DecidablePred (ParityFree s) := fun e => by
  cases e <;> unfold ParityFree <;> infer_instance

/-- A run and its schedule: the counters are the frame counts modulo the
number of slots, and the queues agree on slot and on what is left. -/
structure Follows (t : TxPath) (s : Schedule) : Prop where
  txslot : ∀ p, (t.mac.txslot p).val = s.count p % 2
  queue : t.queue.map (fun c => (c.slot.val, c.length - c.sent.length)) =
    s.queued.map (fun f => (f.1 % 2, f.2))

theorem Slot.next_val (s : Slot) : (Slot.next s).val = (s.val + 1) % 2 := rfl

theorem follows_send (h : Follows t s) (p : Producer) (length : Nat) :
    Follows (t.ethSend p length) (s.step (.send p length)) := by
  have hlen : t.queue.length = s.queued.length := by
    simpa using congrArg List.length h.queue
  simp only [TxPath.ethSend, TxPath.ready, Schedule.step, hlen, decide_eq_true_eq]
  split
  · refine ⟨fun q => ?_, ?_⟩
    · by_cases hq : q = p
      · subst hq
        simp [EthMac.rotate, Slot.next_val, h.txslot, Nat.add_mod]
      · simp [EthMac.rotate, hq, h.txslot]
    · simp [h.queue, h.txslot]
  · exact h

theorem follows_read (h : Follows t s) : Follows t.read (s.step .read) := by
  have hq := h.queue
  unfold TxPath.read
  cases hc : t.queue with
  | nil =>
    have hs : s.queued = [] := by simpa [hc] using hq
    simpa [Schedule.step, hs] using h
  | cons c rest =>
    cases hf : s.queued with
    | nil => simp [hc, hf] at hq
    | cons f fs =>
      obtain ⟨number, left⟩ := f
      simp only [hc, hf, List.map_cons, List.cons.injEq, Prod.mk.injEq] at hq
      obtain ⟨⟨hslot, hleft⟩, hrest⟩ := hq
      have hiff : c.sent.length < c.length ↔ 0 < left := by omega
      simp only [Schedule.step, hf, hiff]
      split
      · refine ⟨h.txslot, ?_⟩
        simp only [List.map_cons, List.length_append, List.length_singleton, hrest]
        rw [hslot, show c.length - (c.sent.length + 1) = left - 1 by omega]
      · exact ⟨h.txslot, hrest⟩

theorem schedule_simulates : Machine.Simulates machine schedule Follows where
  init := ⟨fun _ => rfl, rfl⟩
  step t s e h := by
    cases e with
    | store p at_ v => exact ⟨h.txslot, h.queue⟩
    | send p length => exact follows_send h p length
    | read => exact follows_read h

theorem unqueued_iff_parityFree (h : Follows t s) (e : Event) :
    Unqueued t e ↔ ParityFree s e := by
  cases e with
  | store p at_ v =>
    have hmem : (∀ c ∈ t.queue, c.slot ≠ t.mac.txslot p) ↔
        ∀ x ∈ t.queue.map (fun c => (c.slot.val, c.length - c.sent.length)),
          x.1 ≠ (t.mac.txslot p).val := by
      simp [Fin.ext_iff]
    simp only [Unqueued, ParityFree, hmem, h.queue, h.txslot, List.forall_mem_map]
  | _ => exact Iff.rfl

-- ---------------------------------------------------------------------------
-- Queued slots hold what was started
-- ---------------------------------------------------------------------------

/-- A queued command's slot still holds the bytes it was started with, and
what was sent of it is their beginning. -/
structure Held (slots : Slot → Buffer) (c : Command) : Prop where
  start : c.atStart = (slots c.slot).take c.length
  sent : c.sent = (slots c.slot).take c.sent.length
  bound : c.sent.length ≤ c.length

theorem take_isPrefix (b : Buffer) (h : m ≤ n) : b.take m <+: b.take n := by
  obtain ⟨k, rfl⟩ := Nat.le.dest h
  rw [Buffer.take, Buffer.take, List.range_add, List.map_append]
  exact List.prefix_append ..

theorem Held.begins (h : Held slots c) : c.sent <+: c.atStart := by
  rw [h.start, h.sent]
  exact take_isPrefix _ (by simpa using h.bound)

theorem Held.done (h : Held slots c) (hn : ¬ c.sent.length < c.length) :
    c.sent = c.atStart := by
  have hlen : c.sent.length = c.length := Nat.le_antisymm h.bound (Nat.le_of_not_lt hn)
  rw [h.sent, h.start, hlen]

/-- The invariant: every queued command is held, and the wire is exact. -/
structure TxPath.Good (t : TxPath) : Prop where
  queue : ∀ c ∈ t.queue, Held t.mac.slots c
  wire : ∀ c ∈ t.wire, c.sent = c.atStart

theorem TxPath.Good.exact (h : TxPath.Good t) : TxPath.Exact t :=
  ⟨fun c hc => (h.queue c hc).begins, h.wire⟩

theorem good_store (h : TxPath.Good t) (hu : Unqueued t (.store p at_ v)) :
    (t.store p at_ v).Good where
  queue c hc := by
    have hslot : (t.store p at_ v).mac.slots c.slot = t.mac.slots c.slot :=
      Function.update_of_ne (hu c hc) _ _
    obtain ⟨h1, h2, h3⟩ := h.queue c hc
    exact ⟨by rw [hslot]; exact h1, by rw [hslot]; exact h2, h3⟩
  wire := h.wire

theorem good_send (h : TxPath.Good t) (p : Producer) (length : Nat) : (t.ethSend p length).Good := by
  unfold TxPath.ethSend
  split
  · refine ⟨fun c hc => ?_, h.wire⟩
    rcases List.mem_append.mp hc with hc | hc
    · exact h.queue c hc
    · obtain rfl := List.mem_singleton.mp hc
      exact ⟨rfl, rfl, Nat.zero_le _⟩
  · exact h

theorem good_read (h : TxPath.Good t) : t.read.Good := by
  unfold TxPath.read
  split
  · exact h
  · rename_i c rest hq
    have hc : Held t.mac.slots c := h.queue c (by simp [hq])
    have hrest : ∀ d ∈ rest, Held t.mac.slots d := fun d hd => h.queue d (by simp [hq, hd])
    split
    · rename_i hlt
      refine ⟨fun d hd => ?_, h.wire⟩
      rcases List.mem_cons.mp hd with rfl | hd
      · refine ⟨hc.start, ?_, by simpa using hlt⟩
        simp only [List.length_append, List.length_singleton, Buffer.take_succ]
        rw [← hc.sent]
      · exact hrest d hd
    · rename_i hdone
      refine ⟨hrest, fun d hd => ?_⟩
      rcases List.mem_append.mp hd with hd | hd
      · exact h.wire d hd
      · obtain rfl := List.mem_singleton.mp hd
        exact hc.done hdone

theorem good_step (h : TxPath.Good t) (hu : Unqueued t e) : (t.step e).Good := by
  cases e with
  | store p at_ v => exact good_store h hu
  | send p length => exact good_send h p length
  | read => exact good_read h

-- ---------------------------------------------------------------------------
-- Slot integrity
-- ---------------------------------------------------------------------------

theorem unqueued_iff_intact (h : TxPath.Good t) (e : Event) : Unqueued t e ↔ Intact t e :=
  ⟨fun hu => ⟨hu, (good_step h hu).exact⟩, And.left⟩

/-- Slot integrity holds along a run exactly when its schedule never has a
module write into a frame whose number has the parity of a frame still
queued. -/
theorem txSlots_intact_iff (events : List Event) :
    machine.Steps Intact events ↔ schedule.Steps ParityFree events := by
  have hgood : TxPath.Good machine.init := ⟨by simp [machine], by simp [machine]⟩
  rw [← Machine.steps_congr TxPath.Good hgood (fun t e h hu => good_step h hu)
    fun t e h => unqueued_iff_intact h e]
  exact schedule_simulates.steps_iff (fun t s e h => unqueued_iff_parityFree h e) events

/-- gPTP starts a one-byte frame `01`; before the reader fetches it, SRP
builds its own first frame in the same slot, and `02` is what goes out. -/
def overwritten : List Event :=
  [.store .gptp 0 1, .send .gptp 1, .store .srp 0 2, .read, .read]

theorem txSlots_overwritten :
    ¬ machine.Steps Intact overwritten ∧
      ∃ c ∈ (machine.run overwritten).wire, c.atStart = [1] ∧ c.sent = [2] := by
  refine ⟨fun h => ?_, by decide +kernel⟩
  exact absurd ((txSlots_intact_iff overwritten).mp h) (by decide)

end AvbAes3.TxSlots
