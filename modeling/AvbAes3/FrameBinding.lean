import AvbAes3.AafPacketizer
import AvbAes3.Lib.Machine

/-!
# One frame, one binding

`aaf_gw_push_binding` writes seven registers, one after the other, while the
builder reads them live, a byte a cycle. A frame's header is that of the
binding that was complete when the frame was begun if each byte still reads
as it did in that binding.
-/

namespace AvbAes3.FrameBinding

open AafPacketizer

-- ---------------------------------------------------------------------------
-- The CPU's writes
-- ---------------------------------------------------------------------------

inductive PktRegister
  | srcMacHi
  | srcMacLo
  | dstMacHi
  | dstMacLo
  | streamIdHi
  | streamIdLo
  | vlanTci
  deriving DecidableEq

structure RegWrite where
  register : PktRegister
  value : UInt32
  deriving DecidableEq

def RegWrite.apply (regs : AafPktRegs) (w : RegWrite) : AafPktRegs :=
  match w.register with
  | .srcMacHi => { regs with srcMacHi := w.value }
  | .srcMacLo => { regs with srcMacLo := w.value }
  | .dstMacHi => { regs with dstMacHi := w.value }
  | .dstMacLo => { regs with dstMacLo := w.value }
  | .streamIdHi => { regs with streamIdHi := w.value }
  | .streamIdLo => { regs with streamIdLo := w.value }
  | .vlanTci => { regs with vlanTci := w.value.toUInt16 }

/-- The writes of `aaf_gw_push_binding`, in its order. -/
def bindingWrites (a : Aaf) : List RegWrite :=
  [⟨.srcMacHi, macHi a.srcMac⟩, ⟨.srcMacLo, macLo a.srcMac⟩, ⟨.dstMacHi, macHi a.destMac⟩,
    ⟨.dstMacLo, macLo a.destMac⟩, ⟨.streamIdHi, streamIdHi a.streamId⟩,
    ⟨.streamIdLo, streamIdLo a.streamId⟩, ⟨.vlanTci, (vlanTci a.txPcp a.txVid).toUInt32⟩]

/-- The writes of a call make the registers that the main loop's pass makes
in one step. -/
theorem bindingWrites_apply (fw : Firmware) :
    (bindingWrites fw.aaf).foldl RegWrite.apply fw.aafPkt = (aafGwPushBinding fw).aafPkt := by
  have htci : (vlanTci fw.aaf.txPcp fw.aaf.txVid).toUInt32.toUInt16 =
      vlanTci fw.aaf.txPcp fw.aaf.txVid := UInt16.toUInt16_toUInt32 _
  rw [aafGwPushBinding, ← htci]
  rfl

-- ---------------------------------------------------------------------------
-- CPU and builder
-- ---------------------------------------------------------------------------

/-- What the CPU does in a cycle: `aaf_gw_push_binding` is called, its next
write reaches the registers, or neither. -/
inductive CpuMove
  | none
  | call (a : Aaf)
  | write

structure BindCycle where
  cpu : CpuMove
  sendReq : Bool
  tsu : PtpTimestamp
  presOffset : UInt32
  half : Nat → Block
  ready : Bool

/-- `left` are the writes of the call under way that are still to come. -/
structure Bound where
  regs : AafPktRegs := {}
  left : List RegWrite := []
  builder : Builder := {}

def Bound.seen (s : Bound) (c : BindCycle) : Seen :=
  ⟨c.sendReq, c.tsu, s.regs, c.presOffset, c.half, c.ready⟩

/-- The registers after the cycle. -/
def Bound.written (s : Bound) (c : BindCycle) : AafPktRegs :=
  match c.cpu, s.left with
  | .write, w :: _ => w.apply s.regs
  | _, _ => s.regs

def Bound.leftAfter (s : Bound) (c : BindCycle) : List RegWrite :=
  match c.cpu with
  | .none => s.left
  | .call a => if s.left.isEmpty then bindingWrites a else s.left
  | .write => s.left.tail

def boundStep (s : Bound) (c : BindCycle) : Bound where
  regs := s.written c
  left := s.leftAfter c
  builder := s.builder.step (s.seen c)

/-- The bindings that have been complete, the last of them, and of the frame
in the builder the binding that was complete when it was begun, and its
number and time. -/
structure BindTrace where
  complete : AafPktRegs := {}
  bindings : List AafPktRegs := [{}]
  begun : AafPktRegs := {}
  seq : UInt8 := 0
  pres : UInt32 := 0

/-- The last write of a call completes its binding. -/
def Bound.completes (s : Bound) (c : BindCycle) : Bool :=
  match c.cpu with
  | .write => s.left.length == 1
  | _ => false

/-- `send_req` finds the builder idle. -/
def Bound.begins (s : Bound) (c : BindCycle) : Bool := s.builder.fsm == .idle && c.sendReq

def completed (t : BindTrace) (s : Bound) (c : BindCycle) : AafPktRegs :=
  if s.completes c then s.written c else t.complete

def boundNote (t : BindTrace) (s : Bound) (c : BindCycle) : BindTrace where
  complete := completed t s c
  bindings := if s.completes c then s.written c :: t.bindings else t.bindings
  begun := if s.begins c then completed t s c else t.begun
  seq := if s.begins c then s.builder.seq else t.seq
  pres := if s.begins c then presTime c.tsu c.presOffset else t.pres

def bound : Machine (Bound × BindTrace) BindCycle := Machine.withHistory ⟨{}, boundStep⟩ {} boundNote

/-- The header byte that the cycle lays is the one it was when the frame was
begun. -/
def Kept (s : Bound × BindTrace) (_ : BindCycle) : Prop :=
  s.1.builder.fsm = .build → s.1.builder.byteIdx < hdrLen →
    (packetizerHeader s.1.regs s.2.seq s.2.pres).getD s.1.builder.byteIdx 0 =
      (packetizerHeader s.2.begun s.2.seq s.2.pres).getD s.1.builder.byteIdx 0

instance (s : Bound × BindTrace) (c : BindCycle) : Decidable (Kept s c) :=
  inferInstanceAs (Decidable (_ → _ → _))

/-- The frame being sent has the header of one complete binding, and the
number and time it was begun with. -/
def OneBinding (s : Bound × BindTrace) : Prop :=
  s.1.builder.fsm = .stream → ∃ binding ∈ s.2.bindings,
    (frameBytes s.1.builder.frameRam).take hdrLen = packetizerHeader binding s.2.seq s.2.pres

instance (s : Bound × BindTrace) : Decidable (OneBinding s) :=
  inferInstanceAs (Decidable (_ → ∃ binding ∈ s.2.bindings, _ = _))

-- ---------------------------------------------------------------------------
-- The header laid
-- ---------------------------------------------------------------------------

theorem Builder.step_kept {b : Builder} (h : b.fsm = .build) (i : Seen) :
    (b.step i).seq = b.seq ∧ (b.step i).pres = b.pres := by
  rw [step_build h, Builder.build]
  split <;> exact ⟨rfl, rfl⟩

/-- A header byte comes from the registers. -/
theorem curByte_header {b : Builder} (h : b.byteIdx < hdrLen) (i : Seen) :
    b.curByte i = (packetizerHeader i.regs b.seq b.pres).getD b.byteIdx 0 := if_pos h

structure Headed (s : Bound × BindTrace) : Prop where
  complete : s.2.complete ∈ s.2.bindings
  begun : s.2.begun ∈ s.2.bindings
  building : s.1.builder.fsm = .build → s.1.builder.seq = s.2.seq ∧ s.1.builder.pres = s.2.pres ∧
    s.1.builder.byteIdx < total ∧ s.1.builder.laid.take hdrLen =
      (packetizerHeader s.2.begun s.2.seq s.2.pres).take s.1.builder.byteIdx
  streaming : s.1.builder.fsm = .stream → (frameBytes s.1.builder.frameRam).take hdrLen =
    packetizerHeader s.2.begun s.2.seq s.2.pres

theorem mem_completed {t : BindTrace} (h : t.complete ∈ t.bindings) (s : Bound) (c : BindCycle) :
    completed t s c ∈ (boundNote t s c).bindings := by
  show completed t s c ∈ if s.completes c then s.written c :: t.bindings else t.bindings
  rw [completed]
  split
  · exact List.mem_cons_self
  · exact h

/-- One more byte behind those laid, which is the header's while it is not
complete. -/
theorem take_header {laid header : List UInt8} {n : Nat} {byte : UInt8}
    (hlaid : laid.take hdrLen = header.take n) (hlen : laid.length = n)
    (hheader : header.length = hdrLen) (hbyte : n < hdrLen → byte = header.getD n 0) :
    (laid ++ [byte]).take hdrLen = header.take (n + 1) := by
  by_cases hlt : n < hdrLen
  · rw [List.take_of_length_le (by rw [hlen]; omega)] at hlaid
    rw [List.take_of_length_le (by rw [List.length_append, hlen]; exact hlt), hlaid, hbyte hlt,
      List.getD_eq_getElem _ _ (by rw [hheader]; exact hlt), List.take_concat_get']
  · rw [List.take_append_of_le_length (by rw [hlen]; omega), hlaid,
      List.take_of_length_le (by rw [hheader]; omega), List.take_of_length_le (by rw [hheader]; omega)]

variable {s : Bound} {t : BindTrace} {c : BindCycle}

theorem boundNote_bindings (t : BindTrace) (s : Bound) (c : BindCycle) :
    t.bindings ⊆ (boundNote t s c).bindings := by
  show t.bindings ⊆ if s.completes c then s.written c :: t.bindings else t.bindings
  split
  · exact List.subset_cons_self ..
  · exact List.Subset.refl _

/-- What is noted of a frame does not change until the next is begun. -/
theorem boundNote_same (h : s.builder.fsm ≠ .idle) :
    (boundNote t s c).begun = t.begun ∧ (boundNote t s c).seq = t.seq ∧
      (boundNote t s c).pres = t.pres := by
  have hnot : s.begins c = false := by
    rw [Bound.begins, beq_false_of_ne h]
    rfl
  rw [boundNote, hnot]
  exact ⟨rfl, rfl, rfl⟩

theorem boundNote_begins (hidle : s.builder.fsm = .idle) (hreq : c.sendReq = true) :
    (boundNote t s c).begun = completed t s c ∧ (boundNote t s c).seq = s.builder.seq ∧
      (boundNote t s c).pres = presTime c.tsu c.presOffset := by
  have hbegins : s.begins c = true := by
    rw [Bound.begins, hidle, hreq]
    rfl
  rw [boundNote, hbegins]
  exact ⟨rfl, rfl, rfl⟩

theorem Headed.begun_mem (h : Headed (s, t)) (c : BindCycle) :
    (boundNote t s c).begun ∈ (boundNote t s c).bindings := by
  by_cases hbegins : s.begins c = true
  · rw [boundNote, hbegins]
    exact mem_completed h.complete s c
  · rw [boundNote, eq_false_of_ne_true hbegins]
    exact boundNote_bindings t s c h.begun

/-- The cycle lays a byte. -/
theorem Headed.laid (h : Headed (s, t)) (hkept : Kept (s, t) c) (hbuild : s.builder.fsm = .build) :
    (s.builder.laid ++ [s.builder.curByte (s.seen c)]).take hdrLen =
      (packetizerHeader t.begun t.seq t.pres).take (s.builder.byteIdx + 1) := by
  obtain ⟨hseq, hpres, -, hlaid⟩ := h.building hbuild
  refine take_header hlaid (laid_length _) (packetizerHeader_length ..) fun hlt => ?_
  have hregs : (s.seen c).regs = s.regs := rfl
  rw [curByte_header hlt, hregs, hseq, hpres]
  exact hkept hbuild hlt

theorem Headed.step {s : Bound × BindTrace} (h : Headed s) (c : BindCycle) (hkept : Kept s c) :
    Headed (bound.step s c) := by
  obtain ⟨s, t⟩ := s
  have hstep : bound.step (s, t) c = (boundStep s c, boundNote t s c) := rfl
  rw [hstep]
  refine ⟨mem_completed h.complete s c, h.begun_mem c, fun hfsm => ?_, fun hfsm => ?_⟩
  · change (s.builder.step (s.seen c)).fsm = .build at hfsm
    show (s.builder.step (s.seen c)).seq = _ ∧ (s.builder.step (s.seen c)).pres = _ ∧
      (s.builder.step (s.seen c)).byteIdx < total ∧ (s.builder.step (s.seen c)).laid.take hdrLen =
        (packetizerHeader (boundNote t s c).begun _ _).take (s.builder.step (s.seen c)).byteIdx
    cases s.builder.step_moves (s.seen c) with
    | start idle req _ byteIdx =>
      obtain ⟨-, hseq, hpres⟩ := boundNote_begins (t := t) idle req
      have hbegun : s.builder.step (s.seen c) = { s.builder with
          fsm := .build, pres := presTime c.tsu c.presOffset, byteIdx := 0 } := by
        have hreq : c.sendReq = true := req
        simp [Builder.step, idle, Bound.seen, hreq]
      have hnil : (s.builder.step (s.seen c)).laid = [] :=
        List.eq_nil_of_length_eq_zero ((laid_length _).trans byteIdx)
      rw [hseq, hpres, hnil, byteIdx, hbegun]
      exact ⟨rfl, rfl, Nat.succ_pos 233, rfl⟩
    | lay build more _ byteIdx laid =>
      obtain ⟨hseq, hpres, hlt, -⟩ := h.building build
      obtain ⟨hseq', hpres'⟩ := Builder.step_kept build (s.seen c)
      obtain ⟨hsame, hsameSeq, hsamePres⟩ := boundNote_same (t := t) (c := c)
        (fun hidle => FsmState.noConfusion (hidle.symm.trans build))
      rw [hsame, hsameSeq, hsamePres, hseq', hpres', laid hlt, byteIdx]
      refine ⟨hseq, hpres, ?_, h.laid hkept build⟩
      change s.builder.byteIdx < total at hlt
      omega
    | wait _ _ same => exact FsmState.noConfusion (same.symm.trans hfsm)
    | last _ _ fsm => exact FsmState.noConfusion (fsm.symm.trans hfsm)
    | stall _ _ fsm => exact FsmState.noConfusion (fsm.symm.trans hfsm)
    | beat _ _ _ fsm => exact FsmState.noConfusion (fsm.symm.trans hfsm)
    | done _ _ _ fsm => exact FsmState.noConfusion (fsm.symm.trans hfsm)
  · change (s.builder.step (s.seen c)).fsm = .stream at hfsm
    show (frameBytes (s.builder.step (s.seen c)).frameRam).take hdrLen = _
    cases s.builder.step_moves (s.seen c) with
    | last build idx _ _ frame =>
      obtain ⟨hsame, hsameSeq, hsamePres⟩ := boundNote_same (t := t) (c := c)
        (fun hidle => FsmState.noConfusion (hidle.symm.trans build))
      rw [hsame, hsameSeq, hsamePres, frame, h.laid hkept build, idx, List.take_of_length_le]
      rw [packetizerHeader_length]
      decide
    | stall stream _ _ _ frame =>
      obtain ⟨hsame, hsameSeq, hsamePres⟩ := boundNote_same (t := t) (c := c)
        (fun hidle => FsmState.noConfusion (hidle.symm.trans stream))
      rw [hsame, hsameSeq, hsamePres, frame]
      exact h.streaming stream
    | beat stream _ _ _ _ frame =>
      obtain ⟨hsame, hsameSeq, hsamePres⟩ := boundNote_same (t := t) (c := c)
        (fun hidle => FsmState.noConfusion (hidle.symm.trans stream))
      rw [hsame, hsameSeq, hsamePres, frame]
      exact h.streaming stream
    | wait _ _ same => exact FsmState.noConfusion (same.symm.trans hfsm)
    | start _ _ fsm => exact FsmState.noConfusion (fsm.symm.trans hfsm)
    | lay _ _ fsm => exact FsmState.noConfusion (fsm.symm.trans hfsm)
    | done _ _ _ fsm => exact FsmState.noConfusion (fsm.symm.trans hfsm)

/-- In every run in which the header bytes are kept, every frame sent has
one binding. -/
theorem oneBinding_of_kept (cycles : List BindCycle) (h : bound.Steps Kept cycles) :
    OneBinding (bound.run cycles) := by
  have hheaded : Headed (bound.run cycles) := by
    refine h.invariant ?_ fun s c hs hc => hs.step c hc
    exact ⟨List.mem_cons_self, List.mem_cons_self, by rintro ⟨⟩, by rintro ⟨⟩⟩
  exact fun hfsm => ⟨_, hheaded.begun, hheaded.streaming hfsm⟩

-- ---------------------------------------------------------------------------
-- A VLAN change
-- ---------------------------------------------------------------------------

/-- A cycle with nothing else than the CPU's move. -/
def cpuCycle (cpu : CpuMove) : BindCycle := ⟨cpu, false, {}, 0, fun _ _ => 0, false⟩

/-- A call with a write in each of the next seven cycles. -/
def pushCycles (a : Aaf) : List BindCycle := cpuCycle (.call a) :: List.replicate 7 (cpuCycle .write)

def beginCycle : BindCycle := { cpuCycle .none with sendReq := true }

/-- A binding, and a frame begun and built with it. -/
def builtFrame : List BindCycle :=
  pushCycles boot.aaf ++ beginCycle :: List.replicate total (cpuCycle .none)

theorem oneBinding_of_kept_built :
    (bound.run builtFrame).1.builder.fsm = .stream ∧ OneBinding (bound.run builtFrame) :=
  ⟨by decide +kernel, oneBinding_of_kept builtFrame (by decide +kernel)⟩

/-- A binding, a frame begun, and a new VLAN while it is built, whose write
falls between the two bytes of the TCI. -/
def tornFrame : List BindCycle :=
  pushCycles boot.aaf ++ beginCycle :: List.replicate 7 (cpuCycle .none) ++
    pushCycles (aafSetVlan boot.aaf 5 0x123) ++ List.replicate 219 (cpuCycle .none)

theorem tornFrame_mixed : ¬ OneBinding (bound.run tornFrame) := by
  decide +kernel

end AvbAes3.FrameBinding
