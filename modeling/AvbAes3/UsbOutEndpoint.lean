import AvbAes3.Lib.Ring
import AvbAes3.UsbReceiver

/-!
# The isochronous OUT endpoint

The boundary detector holds a byte back, so that the last one of a packet can
be marked, and tells two cycles behind it whether the packet was right. The
FIFO takes the bytes of a packet as they come, and shows them to its reader
when the packet is committed; if it was not right they are discarded.
-/

namespace AvbAes3.UsbOutEndpoint

open UsbReceiver (Byte)

-- ---------------------------------------------------------------------------
-- boundary_detector
-- ---------------------------------------------------------------------------

/-- `fsm_state`. -/
inductive Phase
  | waitForFirstByte
  | receiveAndTransmit
  | outputStrobes
  deriving DecidableEq

/-- `write_data`. -/
structure Word where
  first : Bool
  last : Bool
  payload : Byte
  deriving DecidableEq

structure Boundary where
  fsm : Phase
  bufferedByte : Byte
  bufferedComplete : Bool
  bufferedInvalid : Bool
  isFirstByte : Bool
  out : Word
  next : Bool
  valid : Bool
  completeOut : Bool
  invalidOut : Bool

/-- What the receiver shows: `payload` where `next`. -/
structure Shown where
  valid : Bool
  payload : Option Byte
  complete : Bool
  invalid : Bool

def Boundary.step (b : Boundary) (x : Shown) : Boundary :=
  match b.fsm with
  | .waitForFirstByte =>
    let b' := { b with
      valid := false, next := false, out := { b.out with first := false, last := false }
      bufferedComplete := false, bufferedInvalid := false
      completeOut := false, invalidOut := false }
    match x.valid, x.payload with
    | true, some d =>
      { b' with fsm := .receiveAndTransmit, bufferedByte := d, isFirstByte := true }
    | _, _ => b'
  | .receiveAndTransmit =>
    let b' := { b with
      valid := true
      bufferedComplete := b.bufferedComplete || x.complete
      bufferedInvalid := b.bufferedInvalid || x.invalid }
    match x.valid, x.payload with
    | true, some d =>
      { b' with
        next := true
        out := { b.out with payload := b.bufferedByte, first := b.isFirstByte }
        bufferedByte := d, isFirstByte := false }
    | true, none => { b' with next := false }
    | false, _ =>
      { b' with
        fsm := .outputStrobes
        next := true
        out := ⟨b.isFirstByte, true, b.bufferedByte⟩ }
  | .outputStrobes =>
    { b with
      fsm := .waitForFirstByte
      next := false, out := { b.out with first := false, last := false }
      completeOut := b.bufferedComplete, invalidOut := b.bufferedInvalid }

-- ---------------------------------------------------------------------------
-- fifo
-- ---------------------------------------------------------------------------

/-- One cell is always free. -/
def cells : Nat := 449

structure Fifo where
  readPort : Nat → Word
  readData : Word
  currentWrite : Nat
  committedWrite : Nat
  currentRead : Nat
  committedRead : Nat

def nextPointer (pointer : Nat) : Nat := if pointer = 448 then 0 else pointer + 1

def Fifo.full (f : Fifo) : Bool := decide (nextPointer f.currentWrite = f.committedRead)
def Fifo.empty (f : Fifo) : Bool := decide (f.currentRead = f.committedWrite)

def Fifo.spaceAvailable (f : Fifo) : Nat :=
  if f.full then 0
  else if f.committedRead ≤ f.currentWrite then 448 - (f.currentWrite - f.committedRead)
  else f.committedRead - f.currentWrite - 1

/-- `read_commit` is tied to 1; the read port follows the read pointer. -/
def Fifo.step (f : Fifo) (write : Option Word) (commit discard readEn : Bool) : Fifo :=
  let writeEn := write.isSome && !f.full
  let readPort := match write with
    | some x => if f.full then f.readPort else Function.update f.readPort f.currentWrite x
    | none => f.readPort
  let currentRead := if readEn && !f.empty then nextPointer f.currentRead else f.currentRead
  { readPort
    readData := readPort currentRead
    currentWrite :=
      if discard then f.committedWrite
      else if writeEn then nextPointer f.currentWrite else f.currentWrite
    committedWrite := if commit then f.currentWrite else f.committedWrite
    currentRead
    committedRead := f.currentRead }

-- ---------------------------------------------------------------------------
-- USBIsochronousOutStreamEndpoint
-- ---------------------------------------------------------------------------

structure Endpoint where
  boundary : Boundary
  fifo : Fifo

def reset : Endpoint where
  boundary := ⟨.waitForFirstByte, 0#8, false, false, false, ⟨false, false, 0#8⟩, false, false,
    false, false⟩
  fifo := ⟨fun _ => ⟨false, false, 0#8⟩, ⟨false, false, 0#8⟩, 0, 0, 0, 0⟩

/-- The maximum packet size. -/
def maxPacketSize : Nat := 224

/-- `targeted`: the last token was an OUT for endpoint 1. -/
def Endpoint.write (e : Endpoint) (targeted : Bool) : Option Word :=
  if targeted && decide (maxPacketSize ≤ e.fifo.spaceAvailable) && e.boundary.next &&
    e.boundary.valid then some e.boundary.out else none

def Endpoint.step (e : Endpoint) (x : Shown) (targeted ready : Bool) : Endpoint where
  boundary := e.boundary.step x
  fifo := e.fifo.step (e.write targeted) (targeted && e.boundary.completeOut)
    (targeted && e.boundary.invalidOut) ready

/-- The word the reader takes. -/
def Endpoint.taken (e : Endpoint) (ready : Bool) : Option Word :=
  if !e.fifo.empty && ready then some e.fifo.readData else none

-- ---------------------------------------------------------------------------
-- What the FIFO holds
-- ---------------------------------------------------------------------------

/-- The words its reader may take, and those of a packet not committed yet;
the committed read pointer is up to a word behind. -/
structure Held (f : Fifo) (committed pending : List Word) (lag : Nat) : Prop where
  stored : Ring.Holds cells f.readPort f.currentRead (committed ++ pending)
  shown : f.readData = f.readPort f.currentRead
  read : f.currentRead < cells
  behind : f.committedRead < cells ∧ (f.committedRead + lag) % cells = f.currentRead
  committedWrite : f.committedWrite = (f.currentRead + committed.length) % cells
  currentWrite : f.currentWrite = (f.currentRead + (committed.length + pending.length)) % cells
  room : lag + committed.length + pending.length < cells

section Held

variable {f : Fifo} {committed pending : List Word} {lag : Nat}

theorem nextPointer_eq {pointer : Nat} (h : pointer < cells) :
    nextPointer pointer = (pointer + 1) % cells := by
  unfold nextPointer
  unfold cells at h ⊢
  split <;> omega

theorem Held.empty (h : Held f committed pending lag) : f.empty = decide (committed = []) := by
  have hread := h.read
  have hroom := h.room
  rw [Fifo.empty, h.committedWrite, decide_eq_decide]
  unfold cells at hread hroom ⊢
  cases committed with
  | nil => simp only [List.length_nil, Nat.add_zero, iff_true]; omega
  | cons x rest => simp only [List.length_cons] at hroom ⊢; simp; omega

theorem Held.space (h : Held f committed pending lag) :
    f.spaceAvailable = 448 - (lag + committed.length + pending.length) := by
  obtain ⟨hbehind, hlag⟩ := h.behind
  have hread := h.read
  have hroom := h.room
  have hwrite := h.currentWrite
  have hnext : nextPointer f.currentWrite = (f.currentWrite + 1) % cells :=
    nextPointer_eq (by rw [hwrite]; exact Nat.mod_lt _ (by decide))
  unfold cells at hbehind hlag hread hroom hwrite hnext
  simp only [Fifo.spaceAvailable, Fifo.full, hnext, decide_eq_true_eq]
  split
  · omega
  · split <;> omega

theorem Held.not_full (h : Held f committed pending lag)
    (hroom : lag + committed.length + pending.length < 448) : f.full = false := by
  have hspace := h.space
  rw [Fifo.spaceAvailable] at hspace
  cases hfull : f.full with
  | false => rfl
  | true =>
    rw [hfull, if_pos rfl] at hspace
    omega

theorem Held.head (h : Held f committed pending lag) {x : Word} (hx : committed.head? = some x) :
    f.readData = x := by
  rw [h.shown]
  refine h.stored.head h.read ?_
  cases committed with
  | nil => cases hx
  | cons y rest => exact hx

/-- A word is taken off, and one is written, or the packet is committed or
discarded. -/
theorem Held.step (h : Held f committed pending lag) {write : Option Word} {commit discard : Bool}
    (hwrite : write.isSome = true → lag + committed.length + pending.length < 448 ∧
      commit = false ∧ discard = false)
    (hone : commit = true → discard = false) :
    Held (f.step write commit discard true)
      (committed.tail ++ if commit then pending else [])
      (if commit || discard then [] else pending ++ write.toList)
      (if committed = [] then 0 else 1) := by
  have hread := h.read
  have hroom := h.room
  have hnext := nextPointer_eq hread
  have hcurrent := h.currentWrite
  have hcommitted := h.committedWrite
  -- the pointer and the cells after the read
  have hstep : (f.step write commit discard true).currentRead =
      (f.currentRead + if committed = [] then 0 else 1) % cells := by
    simp only [Fifo.step, h.empty, Bool.true_and]
    cases committed with
    | nil => simp [Nat.mod_eq_of_lt hread]
    | cons x rest => simp [hnext]
  have hcells : Ring.Holds cells (f.step write commit discard true).readPort f.currentRead
      (committed ++ (pending ++ write.toList)) := by
    cases write with
    | none => simpa [Fifo.step] using h.stored
    | some x =>
      have hfull := h.not_full (hwrite rfl).1
      have hpush := h.stored.push (by rw [List.length_append]; omega) x
      rw [List.length_append, ← hcurrent] at hpush
      simpa [Fifo.step, hfull, List.append_assoc] using hpush
  have htail : Ring.Holds cells (f.step write commit discard true).readPort
      (f.step write commit discard true).currentRead
      (committed.tail ++ (pending ++ write.toList)) := by
    rw [hstep]
    cases committed with
    | nil => simpa [Nat.mod_eq_of_lt hread] using hcells
    | cons x rest => simpa using hcells.tail
  have hlength : committed.tail.length + (if committed = [] then 0 else 1) = committed.length := by
    cases committed <;> simp
  have hlag : (if committed = [] then 0 else 1) ≤ 1 := by split <;> omega
  generalize (if committed = [] then 0 else 1) = lag' at hstep hlength hlag ⊢
  have hcurrentRead : (f.step write commit discard true).currentRead < cells := by
    rw [hstep]
    exact Nat.mod_lt _ (by decide)
  have hcommittedWrite : (f.step write commit discard true).committedWrite =
      if commit then f.currentWrite else f.committedWrite := rfl
  have hcurrentWrite : (f.step write commit discard true).currentWrite =
      if discard then f.committedWrite
      else if write.isSome && !f.full then nextPointer f.currentWrite else f.currentWrite := rfl
  have hbehind : (f.step write commit discard true).committedRead < cells ∧
      ((f.step write commit discard true).committedRead + lag') % cells =
        (f.step write commit discard true).currentRead := ⟨hread, hstep.symm⟩
  cases hw : write with
  | some x =>
    subst hw
    obtain ⟨hspace, rfl, rfl⟩ := hwrite rfl
    have hfull := h.not_full hspace
    have hnextWrite : nextPointer f.currentWrite = (f.currentWrite + 1) % cells :=
      nextPointer_eq (by rw [hcurrent]; exact Nat.mod_lt _ (by decide))
    simp only [Option.isSome_some, hfull, Bool.not_false, Bool.and_true, if_true,
      Bool.false_eq_true, if_false, hnextWrite] at hcurrentWrite hcommittedWrite
    refine ⟨by simpa using htail, rfl, hcurrentRead, hbehind, ?_, ?_, ?_⟩
    · rw [hcommittedWrite, hcommitted, hstep]
      simp only [Bool.false_eq_true, if_false, List.append_nil]
      unfold cells
      omega
    · rw [hcurrentWrite, hcurrent, hstep]
      simp only [Bool.false_eq_true, if_false, List.append_nil, Bool.or_self, List.length_append,
        Option.toList_some, List.length_singleton]
      unfold cells
      omega
    · simp only [Bool.false_eq_true, if_false, List.append_nil, Bool.or_self, List.length_append,
        Option.toList_some, List.length_singleton]
      unfold cells
      omega
  | none =>
    subst hw
    rw [Option.toList_none, List.append_nil] at htail
    cases commit with
    | true =>
      obtain rfl := hone rfl
      refine ⟨by simpa using htail, rfl, hcurrentRead, hbehind, ?_, ?_, ?_⟩
      · rw [hcommittedWrite, if_pos rfl, hcurrent, hstep, if_pos rfl, List.length_append]
        unfold cells
        omega
      · rw [hcurrentWrite, hstep, if_pos rfl]
        simp only [Bool.false_eq_true, if_false, Option.isSome_none, Bool.false_and, hcurrent,
          Bool.true_or, if_true, List.length_append, List.length_nil]
        unfold cells
        omega
      · simp only [if_true, Bool.true_or, List.length_append, List.length_nil]
        unfold cells at hroom ⊢
        omega
    | false =>
      rw [if_neg Bool.false_ne_true] at hcommittedWrite ⊢
      rw [List.append_nil]
      cases discard with
      | true =>
        refine ⟨by simpa using htail.left, rfl, hcurrentRead, hbehind, ?_, ?_, ?_⟩
        · rw [hcommittedWrite, hcommitted, hstep]
          unfold cells
          omega
        · rw [hcurrentWrite, if_pos rfl, hcommitted, hstep]
          simp only [Bool.false_or, if_true, List.length_nil, Nat.add_zero]
          unfold cells
          omega
        · simp only [Bool.false_or, if_true, List.length_nil]
          unfold cells at hroom ⊢
          omega
      | false =>
        refine ⟨by simpa using htail, rfl, hcurrentRead, hbehind, ?_, ?_, ?_⟩
        · rw [hcommittedWrite, hcommitted, hstep]
          unfold cells
          omega
        · rw [hcurrentWrite, hstep]
          simp only [Bool.false_eq_true, if_false, Option.isSome_none, Bool.false_and, hcurrent,
            Bool.or_self, Option.toList_none, List.append_nil]
          unfold cells
          omega
        · simp only [Bool.false_eq_true, if_false, Bool.or_self, Option.toList_none,
            List.append_nil]
          unfold cells at hroom ⊢
          omega

theorem Held.reads (h : Held f committed pending lag) :
    Held (f.step none false false true) committed.tail pending
      (if committed = [] then 0 else 1) := by
  simpa using @Held.step f committed pending lag h none false false (by simp) (by simp)

theorem Held.writes (h : Held f committed pending lag)
    (hroom : lag + committed.length + pending.length < 448) (x : Word) :
    Held (f.step (some x) false false true) committed.tail (pending ++ [x])
      (if committed = [] then 0 else 1) := by
  simpa using @Held.step f committed pending lag h (some x) false false (by simp [hroom]) (by simp)

theorem Held.commits (h : Held f committed pending lag) :
    Held (f.step none true false true) (committed.tail ++ pending) []
      (if committed = [] then 0 else 1) := by
  simpa using @Held.step f committed pending lag h none true false (by simp) (by simp)

theorem Held.discards (h : Held f committed pending lag) :
    Held (f.step none false true true) committed.tail [] (if committed = [] then 0 else 1) := by
  simpa using @Held.step f committed pending lag h none false true (by simp) (by simp)

end Held

end AvbAes3.UsbOutEndpoint
