import AvbAes3.Lib.Machine
import AvbAes3.Lib.SyncFifo

/-!
# ulpi_wrapper

The link between the USB device's UTMI and the PHY's ULPI bus. While the PHY
leaves it the bus, the wrapper sends the bytes that wait in a buffer of two,
or writes one of two registers of the PHY when the UTMI mode has changed.
-/

namespace AvbAes3.UlpiWrapper

abbrev Byte := BitVec 8

-- ---------------------------------------------------------------------------
-- The registers
-- ---------------------------------------------------------------------------

inductive LinkState
  | idle | cmd | data | reg
  deriving DecidableEq, Repr

def regFuncCtrl : Byte := 0x84#8
def regOtgCtrl : Byte := 0x8a#8
def regTransmit : Byte := 0x40#8

/-- The UTMI mode as it was in the cycle before, and whether a change waits
to be written. -/
structure Mode where
  update : Bool
  xcvrselect : BitVec 2
  termselect : Bool
  opmode : BitVec 2
  phyReset : Bool
  deriving DecidableEq, Repr

/-- The pull-downs, likewise. -/
structure Otg where
  update : Bool
  dppulldown : Bool
  dmpulldown : Bool
  deriving DecidableEq, Repr

/-- `tx_buffer_q`, `tx_valid_q` and the indices. -/
structure TxBuffer where
  buffer : Bool → Byte
  valid : Bool → Bool
  wrIdx : Bool
  rdIdx : Bool

/-- What the implementation's block drives. -/
structure Link where
  state : LinkState
  ulpiData : Byte
  data : Byte
  ulpiStp : Bool
  rxvalid : Bool
  rxerror : Bool
  rxactive : Bool
  linestate : BitVec 2
  rxData : Byte
  modeWrite : Bool
  otgWrite : Bool
  deriving DecidableEq, Repr

structure Wrapper where
  mode : Mode
  otg : Otg
  dir : Bool
  txDelay : BitVec 3
  tx : TxBuffer
  link : Link

def reset : Wrapper where
  mode := ⟨false, 0#2, false, 3#2, true⟩
  otg := ⟨false, true, true⟩
  dir := false
  txDelay := 0#3
  tx := ⟨fun _ => 0#8, fun _ => false, false, false⟩
  link := ⟨.idle, 0#8, 0#8, true, false, false, false, 0#2, 0#8, false, false⟩

/-- The inputs of a cycle: the PHY's, then the device's. -/
structure Cycle where
  dataOut : Byte
  dir : Bool
  nxt : Bool
  utmiData : Byte
  txvalid : Bool
  opMode : BitVec 2
  xcvrselect : BitVec 2
  termselect : Bool
  dppulldown : Bool
  dmpulldown : Bool
  deriving DecidableEq, Repr

-- ---------------------------------------------------------------------------
-- Wires
-- ---------------------------------------------------------------------------

def turnaround (s : Wrapper) (c : Cycle) : Bool := s.dir ^^ c.dir

def modeComplete (s : Wrapper) (c : Cycle) : Bool :=
  decide (s.link.state = .reg) && s.link.modeWrite && c.nxt && !c.dir

def otgComplete (s : Wrapper) (c : Cycle) : Bool :=
  decide (s.link.state = .reg) && s.link.otgWrite && c.nxt && !c.dir

/-- `utmi_txready_o` -/
def txready (s : Wrapper) : Bool := !s.tx.valid s.tx.wrIdx && decide (s.txDelay = 0#3)

/-- `utmi_tx_ready_w` -/
def TxBuffer.ready (b : TxBuffer) : Bool := b.valid b.rdIdx

/-- `utmi_tx_data_w` -/
def TxBuffer.data (b : TxBuffer) : Byte := b.buffer b.rdIdx

/-- `utmi_tx_accept_w` -/
def txAccept (s : Wrapper) (c : Cycle) : Bool :=
  (decide (s.link.state = .idle) && !(s.mode.update || s.otg.update || turnaround s c) && !c.dir) ||
    (decide (s.link.state = .data) && c.nxt && !c.dir)

-- ---------------------------------------------------------------------------
-- A cycle
-- ---------------------------------------------------------------------------

def Mode.Changed (m : Mode) (c : Cycle) : Prop :=
  m.opmode ≠ c.opMode ∨ m.termselect ≠ c.termselect ∨ m.xcvrselect ≠ c.xcvrselect

instance (m : Mode) (c : Cycle) : Decidable (m.Changed c) :=
  inferInstanceAs (Decidable (_ ∨ _ ∨ _))

def Mode.next (m : Mode) (complete : Bool) (c : Cycle) : Mode where
  update := if m.update && complete then false else if m.Changed c then true else m.update
  xcvrselect := c.xcvrselect
  termselect := c.termselect
  opmode := c.opMode
  phyReset := if m.update && complete then false else m.phyReset

def Otg.Changed (o : Otg) (c : Cycle) : Prop :=
  o.dppulldown ≠ c.dppulldown ∨ o.dmpulldown ≠ c.dmpulldown

instance (o : Otg) (c : Cycle) : Decidable (o.Changed c) := inferInstanceAs (Decidable (_ ∨ _))

def Otg.next (o : Otg) (complete : Bool) (c : Cycle) : Otg where
  update := if o.update && complete then false else if o.Changed c then true else o.update
  dppulldown := c.dppulldown
  dmpulldown := c.dmpulldown

def nextTxDelay (s : Wrapper) : BitVec 3 :=
  if s.link.rxactive then 7#3 else if s.txDelay ≠ 0#3 then s.txDelay - 1#3 else s.txDelay

def TxBuffer.push (b : TxBuffer) (byte : Byte) : TxBuffer where
  buffer := Function.update b.buffer b.wrIdx byte
  valid := Function.update b.valid b.wrIdx true
  wrIdx := !b.wrIdx
  rdIdx := b.rdIdx

def TxBuffer.pop (b : TxBuffer) : TxBuffer where
  buffer := b.buffer
  valid := Function.update b.valid b.rdIdx false
  wrIdx := b.wrIdx
  rdIdx := !b.rdIdx

def nextTx (s : Wrapper) (c : Cycle) : TxBuffer :=
  let pushed := if c.txvalid && txready s then s.tx.push c.utmiData else s.tx
  if s.tx.ready && txAccept s c then pushed.pop else pushed

def funcCtrl (m : Mode) : Byte :=
  0#1 ++ 1#1 ++ BitVec.ofBool m.phyReset ++ m.opmode ++ BitVec.ofBool m.termselect ++ m.xcvrselect

def otgCtrl (o : Otg) : Byte :=
  0#5 ++ BitVec.ofBool o.dmpulldown ++ BitVec.ofBool o.dppulldown ++ 0#1

/-- `REG_TRANSMIT | {4'b0, pid[3:0]}` -/
def transmitCmd (pid : Byte) : Byte := regTransmit ||| (0#4 ++ pid.setWidth 4)

/-- What a cycle clears unless it sets it again. -/
def Link.cleared (l : Link) : Link := { l with ulpiStp := false, rxvalid := false }

/-- A register write that the PHY interrupts goes back to idle. -/
def Link.abortWrite (l : Link) : Link :=
  if l.state = .reg then { l with state := .idle, ulpiData := 0#8 } else l

/-- RX_CMD: the PHY's status. -/
def Link.rxCmd (l : Link) (status : Byte) : Link :=
  let l := { l with linestate := status.extractLsb' 0 2 }
  if status.extractLsb' 4 2 = 0#2 then { l with rxactive := false, rxerror := false }
  else if status.extractLsb' 4 2 = 1#2 then { l with rxactive := true, rxerror := false }
  else if status.extractLsb' 4 2 = 3#2 then { l with rxactive := true, rxerror := true }
  else l

def Link.output (l : Link) (s : Wrapper) (nxt : Bool) : Link :=
  if l.state = .idle ∧ s.mode.update then
    { l with
      data := funcCtrl s.mode
      ulpiData := regFuncCtrl
      otgWrite := false
      modeWrite := true
      state := .cmd }
  else if l.state = .idle ∧ s.otg.update then
    { l with
      data := otgCtrl s.otg
      ulpiData := regOtgCtrl
      otgWrite := true
      modeWrite := false
      state := .cmd }
  else if l.state = .idle ∧ s.tx.ready then
    { l with ulpiData := transmitCmd s.tx.data, state := .data }
  else if l.state = .cmd ∧ nxt then { l with state := .reg, ulpiData := l.data }
  else if l.state = .reg ∧ nxt then
    { l with
      state := .idle
      ulpiData := 0#8
      ulpiStp := true
      otgWrite := false
      modeWrite := false }
  else if l.state = .data ∧ nxt then
    if s.tx.ready then { l with ulpiData := s.tx.data }
    else { l with state := .idle, ulpiData := 0#8, ulpiStp := true }
  else l

def nextLink (s : Wrapper) (c : Cycle) : Link :=
  let l := s.link.cleared
  if turnaround s c ∧ c.dir ∧ c.nxt then { l with rxactive := true }.abortWrite
  else if turnaround s c ∧ ¬ c.dir then { l with rxactive := false }.abortWrite
  else if ¬ turnaround s c then
    if c.dir ∧ ¬ c.nxt then l.rxCmd c.dataOut
    else if c.dir ∧ c.nxt then { l with rxvalid := true, rxData := c.dataOut }
    else l.output s c.nxt
  else l

def step (s : Wrapper) (c : Cycle) : Wrapper where
  mode := s.mode.next (modeComplete s c) c
  otg := s.otg.next (otgComplete s c) c
  dir := c.dir
  txDelay := nextTxDelay s
  tx := nextTx s c
  link := nextLink s c

def ulpiWrapper : Machine Wrapper Cycle := ⟨reset, step⟩

end AvbAes3.UlpiWrapper
