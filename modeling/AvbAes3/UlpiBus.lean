import AvbAes3.UlpiWrapper

/-!
# The bus as the PHY sees it

Where the link owns the bus the PHY takes its byte with NXT: a transmit
command and the bytes after it are a packet, which STP ends, a write command
is followed by the register's value. `Aligned` says in which state of the
wrapper the PHY is where.
-/

namespace AvbAes3.UlpiWrapper

-- ---------------------------------------------------------------------------
-- The buffer
-- ---------------------------------------------------------------------------

/-- The bytes that wait, in order. -/
def TxBuffer.waiting (b : TxBuffer) : List Byte :=
  if b.valid b.rdIdx then
    b.buffer b.rdIdx :: if b.valid (!b.rdIdx) then [b.buffer (!b.rdIdx)] else []
  else []

/-- The buffer holds these bytes. -/
inductive TxBuffer.Holds (b : TxBuffer) : List Byte → Prop
  | empty (first : b.valid b.rdIdx = false) (second : b.valid (!b.rdIdx) = false)
    (write : b.wrIdx = b.rdIdx) : b.Holds []
  | one (first : b.valid b.rdIdx = true) (second : b.valid (!b.rdIdx) = false)
    (write : b.wrIdx = !b.rdIdx) : b.Holds [b.buffer b.rdIdx]
  | two (first : b.valid b.rdIdx = true) (second : b.valid (!b.rdIdx) = true)
    (write : b.wrIdx = b.rdIdx) : b.Holds [b.buffer b.rdIdx, b.buffer (!b.rdIdx)]

section Holds

variable {b : TxBuffer} {bytes : List Byte}

theorem TxBuffer.Holds.waiting (h : b.Holds bytes) : b.waiting = bytes := by
  unfold TxBuffer.waiting
  cases h with
  | empty first second write => rw [first, if_neg Bool.false_ne_true]
  | one first second write => rw [first, second, if_pos rfl, if_neg Bool.false_ne_true]
  | two first second write => rw [first, second, if_pos rfl, if_pos rfl]

theorem TxBuffer.Holds.ready (h : b.Holds bytes) : b.ready = !bytes.isEmpty := by
  cases h with
  | empty first second write => exact first
  | one first second write => exact first
  | two first second write => exact first

theorem TxBuffer.Holds.data {byte : Byte} {rest : List Byte} (h : b.Holds (byte :: rest)) :
    b.data = byte := by
  cases h <;> rfl

/-- There is room unless two bytes wait. -/
theorem TxBuffer.Holds.room (h : b.Holds bytes) :
    b.valid b.wrIdx = !decide (bytes.length < 2) := by
  cases h with
  | empty first second write => rw [write, first]; rfl
  | one first second write => rw [write, second]; rfl
  | two first second write => rw [write, first]; rfl

theorem TxBuffer.Holds.push (h : b.Holds bytes) (hroom : bytes.length < 2) (byte : Byte) :
    (b.push byte).Holds (bytes ++ [byte]) := by
  cases h with
  | empty first second write =>
    have hone : (b.push byte).Holds [(b.push byte).buffer b.rdIdx] := by
      refine .one ?_ ?_ ?_ <;> simp [TxBuffer.push, write, second]
    simpa [TxBuffer.push, write] using hone
  | one first second write =>
    have htwo : (b.push byte).Holds
        [(b.push byte).buffer b.rdIdx, (b.push byte).buffer (!b.rdIdx)] := by
      refine .two ?_ ?_ ?_ <;> simp [TxBuffer.push, write, first]
    simpa [TxBuffer.push, write] using htwo
  | two first second write => exact absurd hroom (Nat.lt_irrefl 2)

theorem TxBuffer.Holds.pop {byte : Byte} {rest : List Byte} (h : b.Holds (byte :: rest)) :
    b.pop.Holds rest := by
  cases h with
  | one first second write => refine .empty ?_ ?_ ?_ <;> simp [TxBuffer.pop, write, second]
  | two first second write =>
    have hone : b.pop.Holds [b.pop.buffer b.pop.rdIdx] := by
      refine .one ?_ ?_ ?_ <;> simp [TxBuffer.pop, write, second]
    exact hone

end Holds

/-- The byte the wrapper accepts from the device. -/
def accepted (s : Wrapper) (c : Cycle) : Option Byte :=
  if c.txvalid && txready s then some c.utmiData else none

theorem accepted_room {s : Wrapper} {c : Cycle} {bytes : List Byte} (h : s.tx.Holds bytes)
    {byte : Byte} (haccepted : accepted s c = some byte) : bytes.length < 2 := by
  simp only [accepted, txready, h.room, Bool.not_not] at haccepted
  grind

/-- The bytes that wait after a cycle. -/
def nextBytes (s : Wrapper) (c : Cycle) (bytes : List Byte) : List Byte :=
  SyncFifo.next 2 bytes (accepted s c) (txAccept s c)

theorem nextBytes_eq {s : Wrapper} {bytes : List Byte} (h : s.tx.Holds bytes) (c : Cycle) :
    nextBytes s c bytes =
      (if txAccept s c then bytes.tail else bytes) ++ (accepted s c).toList := by
  unfold nextBytes
  cases haccepted : accepted s c with
  | none => simp
  | some byte => rw [SyncFifo.next_room (accepted_room h haccepted)]

/-- The buffer is a FIFO of two bytes. -/
theorem nextTx_holds {s : Wrapper} {bytes : List Byte} (h : s.tx.Holds bytes) (c : Cycle) :
    (nextTx s c).Holds (nextBytes s c bytes) := by
  have hpushed : (if c.txvalid && txready s then s.tx.push c.utmiData else s.tx).Holds
      (bytes ++ (accepted s c).toList) := by
    unfold accepted
    split
    · rename_i haccepted
      exact h.push (accepted_room (c := c) h (if_pos haccepted)) c.utmiData
    · rwa [Option.toList_none, List.append_nil]
  rw [nextTx, nextBytes_eq h, h.ready]
  cases bytes with
  | nil => simpa using hpushed
  | cons byte rest =>
    cases txAccept s c with
    | false => simpa using hpushed
    | true => exact hpushed.pop

-- ---------------------------------------------------------------------------
-- The PHY
-- ---------------------------------------------------------------------------

/-- The bytes of the packet so far, or the register that is being written. -/
inductive Phy
  | idle
  | packet (bytes : List Byte)
  | write (address : BitVec 6)
  deriving DecidableEq, Repr

inductive Seen
  | packet (bytes : List Byte)
  | write (address : BitVec 6) (value : Byte)
  deriving DecidableEq, Repr

/-- No turnaround, and the PHY is not driving the bus. -/
def linkOwns (s : Wrapper) (c : Cycle) : Bool := !s.dir && !c.dir

def taken (s : Wrapper) (c : Cycle) : Bool := linkOwns s c && c.nxt

/-- The two highest bits of a command tell what it is. -/
def Phy.command (byte : Byte) : Phy :=
  if byte.extractLsb' 6 2 = 1#2 then .packet [byte]
  else if byte.extractLsb' 6 2 = 2#2 then .write (byte.setWidth 6)
  else .idle

def Phy.next (s : Wrapper) (c : Cycle) : Phy → Phy
  | .idle => if taken s c then Phy.command s.link.ulpiData else .idle
  | .packet bytes =>
    if s.link.ulpiStp then .idle
    else if taken s c then .packet (bytes ++ [s.link.ulpiData])
    else .packet bytes
  | .write address => if linkOwns s c && !c.nxt then .write address else .idle

def Phy.seen (s : Wrapper) (c : Cycle) : Phy → Option Seen
  | .idle => none
  | .packet bytes => if s.link.ulpiStp then some (.packet bytes) else none
  | .write address => if taken s c then some (.write address s.link.ulpiData) else none

-- ---------------------------------------------------------------------------
-- A cycle of the link
-- ---------------------------------------------------------------------------

section Cycle

variable {s : Wrapper} {c : Cycle}

/-- While the PHY has the bus, and when it is handed over, the link keeps
what it is at, but for a register write that is given up. -/
structure Suspended (l l' : Link) (dir : Bool) : Prop where
  stp : l'.ulpiStp = false
  data : l'.data = l.data
  modeWrite : l'.modeWrite = l.modeWrite
  otgWrite : l'.otgWrite = l.otgWrite
  kept : l'.state = l.state ∧ l'.ulpiData = l.ulpiData ∧ (l.state = .reg → dir = true) ∨
    l.state = .reg ∧ l'.state = .idle ∧ l'.ulpiData = 0#8

theorem Link.abortWrite_suspended {l l' : Link} (hstp : l'.ulpiStp = false)
    (hdata : l'.data = l.data) (hmode : l'.modeWrite = l.modeWrite)
    (hotg : l'.otgWrite = l.otgWrite) (hstate : l'.state = l.state)
    (hulpi : l'.ulpiData = l.ulpiData) (dir : Bool) : Suspended l l'.abortWrite dir := by
  unfold Link.abortWrite
  split
  · rename_i hreg
    exact ⟨hstp, hdata, hmode, hotg, .inr ⟨hstate.symm.trans hreg, rfl, rfl⟩⟩
  · rename_i hreg
    exact ⟨hstp, hdata, hmode, hotg, .inl ⟨hstate, hulpi, fun h => absurd (hstate.trans h) hreg⟩⟩

theorem Link.rxCmd_suspended {l l' : Link} (hstp : l'.ulpiStp = false)
    (hdata : l'.data = l.data) (hmode : l'.modeWrite = l.modeWrite)
    (hotg : l'.otgWrite = l.otgWrite) (hstate : l'.state = l.state)
    (hulpi : l'.ulpiData = l.ulpiData) (status : Byte) : Suspended l (l'.rxCmd status) true := by
  unfold Link.rxCmd
  dsimp only
  split_ifs <;> exact ⟨hstp, hdata, hmode, hotg, .inl ⟨hstate, hulpi, fun _ => rfl⟩⟩

theorem nextLink_suspended (h : linkOwns s c = false) :
    Suspended s.link (nextLink s c) c.dir := by
  have hturn : turnaround s c = (s.dir ^^ c.dir) := rfl
  unfold nextLink
  dsimp only
  cases hbefore : s.dir with
  | false =>
    have hdir : c.dir = true := by simpa [linkOwns, hbefore] using h
    rw [hturn, hbefore, hdir]
    cases c.nxt with
    | true =>
      rw [if_pos ⟨rfl, rfl, rfl⟩]
      apply Link.abortWrite_suspended <;> rfl
    | false => exact ⟨rfl, rfl, rfl, rfl, .inl ⟨rfl, rfl, fun _ => rfl⟩⟩
  | true =>
    rw [hturn, hbefore]
    cases c.dir with
    | false =>
      rw [if_neg (by simp), if_pos ⟨rfl, Bool.false_ne_true⟩]
      apply Link.abortWrite_suspended <;> rfl
    | true =>
      cases c.nxt with
      | true => exact ⟨rfl, rfl, rfl, rfl, .inl ⟨rfl, rfl, fun _ => rfl⟩⟩
      | false =>
        rw [if_neg (by simp), if_neg (by simp), if_pos (by simp), if_pos ⟨rfl, by simp⟩]
        apply Link.rxCmd_suspended <;> rfl

theorem nextLink_owned (h : linkOwns s c = true) :
    nextLink s c = s.link.cleared.output s c.nxt := by
  obtain ⟨hbefore, hdir⟩ : s.dir = false ∧ c.dir = false := by
    simpa [linkOwns] using h
  unfold nextLink
  dsimp only
  rw [turnaround, hbefore, hdir]
  rfl

-- What `output` does in each state.

variable {l : Link}

theorem output_idle (h : l.state = .idle) (s : Wrapper) (nxt : Bool) :
    l.output s nxt =
      if s.mode.update then
        { l with
          data := funcCtrl s.mode
          ulpiData := regFuncCtrl
          otgWrite := false
          modeWrite := true
          state := .cmd }
      else if s.otg.update then
        { l with
          data := otgCtrl s.otg
          ulpiData := regOtgCtrl
          otgWrite := true
          modeWrite := false
          state := .cmd }
      else if s.tx.ready then { l with ulpiData := transmitCmd s.tx.data, state := .data }
      else l := by
  simp [Link.output, h]

theorem output_cmd (h : l.state = .cmd) (s : Wrapper) (nxt : Bool) :
    l.output s nxt = if nxt then { l with state := .reg, ulpiData := l.data } else l := by
  simp [Link.output, h]

theorem output_reg (h : l.state = .reg) (s : Wrapper) (nxt : Bool) :
    l.output s nxt =
      if nxt then
        { l with
          state := .idle
          ulpiData := 0#8
          ulpiStp := true
          otgWrite := false
          modeWrite := false }
      else l := by
  simp [Link.output, h]

theorem output_data (h : l.state = .data) (s : Wrapper) (nxt : Bool) :
    l.output s nxt =
      if nxt then
        if s.tx.ready then { l with ulpiData := s.tx.data }
        else { l with state := .idle, ulpiData := 0#8, ulpiStp := true }
      else l := by
  simp [Link.output, h]

end Cycle

-- ---------------------------------------------------------------------------
-- The wrapper and the PHY
-- ---------------------------------------------------------------------------

/-- The write command that is on the bus, or has been. -/
def Link.register (l : Link) : Byte := if l.modeWrite then regFuncCtrl else regOtgCtrl

inductive Aligned (dir : Bool) (l : Link) : Phy → Prop
  | idle (state : l.state = .idle) (data : l.ulpiData = 0#8) : Aligned dir l .idle
  | stop {bytes : List Byte} (state : l.state = .idle) (data : l.ulpiData = 0#8)
    (stp : l.ulpiStp = true) : Aligned dir l (.packet bytes)
  | cmd (state : l.state = .cmd) (data : l.ulpiData = l.register) : Aligned dir l .idle
  | reg (state : l.state = .reg) (owned : dir = false) (data : l.ulpiData = l.data) :
    Aligned dir l (.write (l.register.setWidth 6))
  | interrupted (state : l.state = .reg) (busy : dir = true) : Aligned dir l .idle
  | start {pid : Byte} (state : l.state = .data) (data : l.ulpiData = transmitCmd pid) :
    Aligned dir l .idle
  | sending {bytes : List Byte} (state : l.state = .data) (stp : l.ulpiStp = false) :
    Aligned dir l (.packet bytes)

theorem command_transmit (pid : Byte) :
    Phy.command (transmitCmd pid) = .packet [transmitCmd pid] := by
  have hcommand : (transmitCmd pid).extractLsb' 6 2 = 1#2 := by
    revert pid
    decide
  exact if_pos hcommand

theorem command_register (l : Link) :
    Phy.command l.register = .write (l.register.setWidth 6) := by
  unfold Link.register
  cases l.modeWrite <;> rfl

theorem command_zero : Phy.command 0#8 = .idle := rfl

section Step

variable {s : Wrapper} {c : Cycle} {p : Phy}

theorem Aligned.suspended (h : Aligned s.dir s.link p) (howns : linkOwns s c = false) :
    Aligned c.dir (nextLink s c) (p.next s c) := by
  have htaken : taken s c = false := by rw [taken, howns, Bool.false_and]
  have hlink := nextLink_suspended (s := s) (c := c) howns
  have hregister : (nextLink s c).register = s.link.register := by
    rw [Link.register, Link.register, hlink.modeWrite]
  obtain ⟨hstate, hdata, hbusy⟩ | ⟨hreg, hstate, hdata⟩ := hlink.kept
  · cases h with
    | idle state data =>
      simp only [Phy.next, htaken, if_neg Bool.false_ne_true]
      exact .idle (hstate.trans state) (hdata.trans data)
    | stop state data stp =>
      simp only [Phy.next, stp, if_true]
      exact .idle (hstate.trans state) (hdata.trans data)
    | cmd state data =>
      simp only [Phy.next, htaken, if_neg Bool.false_ne_true]
      exact .cmd (hstate.trans state) (hdata.trans (data.trans hregister.symm))
    | reg state owned data =>
      simp only [Phy.next, howns, Bool.false_and, if_neg Bool.false_ne_true]
      exact .interrupted (hstate.trans state) (hbusy state)
    | interrupted state busy =>
      simp only [Phy.next, htaken, if_neg Bool.false_ne_true]
      exact .interrupted (hstate.trans state) (hbusy state)
    | start state data =>
      simp only [Phy.next, htaken, if_neg Bool.false_ne_true]
      exact .start (hstate.trans state) (hdata.trans data)
    | sending state stp =>
      simp only [Phy.next, stp, htaken, if_neg Bool.false_ne_true]
      exact .sending (hstate.trans state) hlink.stp
  · have hidle : p.next s c = .idle := by
      cases h with
      | reg state owned data => simp [Phy.next, howns]
      | interrupted state busy => simp [Phy.next, htaken]
      | _ => simp_all
    rw [hidle]
    exact .idle hstate hdata

/-- From idle the link writes the mode, the pull-downs, starts a packet or
waits. -/
theorem Aligned.leaves_idle {l : Link} (state : l.state = .idle) (data : l.ulpiData = 0#8)
    (s : Wrapper) (nxt : Bool) (dir : Bool) : Aligned dir (l.output s nxt) .idle := by
  rw [output_idle state]
  split_ifs
  · exact .cmd rfl rfl
  · exact .cmd rfl rfl
  · exact .start rfl rfl
  · exact .idle state data

theorem Aligned.owned (h : Aligned s.dir s.link p) (howns : linkOwns s c = true) :
    Aligned c.dir (nextLink s c) (p.next s c) := by
  obtain ⟨hbefore, hdir⟩ : s.dir = false ∧ c.dir = false := by simpa [linkOwns] using howns
  have htaken : taken s c = c.nxt := by rw [taken, howns, Bool.true_and]
  rw [nextLink_owned howns]
  cases h with
  | idle state data =>
    have hphy : Phy.next s c .idle = .idle := by simp [Phy.next, data, command_zero]
    rw [hphy]
    exact Aligned.leaves_idle (l := s.link.cleared) state data s c.nxt c.dir
  | stop state data stp =>
    simp only [Phy.next, stp, if_true]
    exact Aligned.leaves_idle (l := s.link.cleared) state data s c.nxt c.dir
  | cmd state data =>
    rw [output_cmd (l := s.link.cleared) state]
    cases hnxt : c.nxt with
    | false =>
      simp only [Phy.next, htaken, hnxt, if_neg Bool.false_ne_true]
      exact .cmd state data
    | true =>
      simp only [Phy.next, htaken, hnxt, if_true, data, command_register]
      exact .reg rfl hdir rfl
  | reg state owned data =>
    rw [output_reg (l := s.link.cleared) state]
    cases hnxt : c.nxt with
    | false =>
      simp only [Phy.next, howns, hnxt, Bool.not_false, Bool.and_self, if_true,
        if_neg Bool.false_ne_true]
      exact .reg state hdir data
    | true =>
      simp only [Phy.next, howns, hnxt, Bool.not_true, Bool.and_false, if_true,
        if_neg Bool.false_ne_true]
      exact .idle rfl rfl
  | interrupted state busy => exact absurd (hbefore.symm.trans busy) Bool.false_ne_true
  | start state data =>
    rw [output_data (l := s.link.cleared) state]
    cases hnxt : c.nxt with
    | false =>
      simp only [Phy.next, htaken, hnxt, if_neg Bool.false_ne_true]
      exact .start state data
    | true =>
      simp only [Phy.next, htaken, hnxt, if_true, data, command_transmit]
      split_ifs
      · exact .sending state rfl
      · exact .stop rfl rfl rfl
  | sending state stp =>
    rw [output_data (l := s.link.cleared) state]
    cases hnxt : c.nxt with
    | false =>
      simp only [Phy.next, stp, htaken, hnxt, if_neg Bool.false_ne_true]
      exact .sending state rfl
    | true =>
      simp only [Phy.next, stp, htaken, hnxt, if_true, if_neg Bool.false_ne_true]
      split_ifs
      · exact .sending state rfl
      · exact .stop rfl rfl rfl

theorem Aligned.next (h : Aligned s.dir s.link p) (c : Cycle) :
    Aligned (step s c).dir (step s c).link (p.next s c) := by
  cases howns : linkOwns s c with
  | false => exact h.suspended howns
  | true => exact h.owned howns

end Step

end AvbAes3.UlpiWrapper
