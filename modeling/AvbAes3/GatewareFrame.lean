import AvbAes3.AafPacketizer

/-!
# One frame, two builders

With the binding that `aaf_gw_push_binding` writes into the registers, the
gateware lays the frame that `aaf_send_packet` builds from the same sequence
number, time and blocks, byte for byte: `frameBytes_eq_aafSendPacket`. The
registers and the half of `pay` hold still while a frame is built; what else
the builder sees of a cycle is any.
-/

namespace AvbAes3.AafPacketizer

-- ---------------------------------------------------------------------------
-- The firmware's frame
-- ---------------------------------------------------------------------------

/-- The blocks the next packet takes, silence where the ring is empty. -/
def sentBlocks (a : Aaf) : (samples : Nat) → List SampleBlock
  | 0 => []
  | samples + 1 => (aafNextBlock a).2 :: sentBlocks (aafNextBlock a).1 samples

theorem packBlocks_bytes (a : Aaf) (samples : Nat) :
    (packBlocks a samples).2 = (sentBlocks a samples).flatMap putBlock := by
  induction samples generalizing a with
  | zero => rfl
  | succ samples ih =>
    rw [sentBlocks, List.flatMap_cons, ← ih]
    rfl

/-- The ring holds these blocks, and no others. -/
structure Queued (a : Aaf) (blocks : List SampleBlock) : Prop where
  write : a.txWriteIdx = a.txReadIdx + UInt32.ofNat blocks.length
  fits : blocks.length ≤ aafBufferSize
  block : ∀ i (h : i < blocks.length), ∀ ch,
    a.txBuf ch (ringSlot (a.txReadIdx + UInt32.ofNat i)) = blocks[i] ch

theorem ringSlot_ne (idx : UInt32) {i j : Nat} (hij : i < j) (hj : j < i + aafBufferSize) :
    ringSlot (idx + UInt32.ofNat i) ≠ ringSlot (idx + UInt32.ofNat j) := by
  intro h
  have hmod := congrArg Fin.val h
  simp only [ringSlot, aafBufferSize, UInt32.toNat_add, UInt32.toNat_ofNat'] at hmod hj
  omega

theorem Queued.push {a : Aaf} {blocks : List SampleBlock} (h : Queued a blocks)
    (hroom : blocks.length < aafBufferSize) (block : SampleBlock) :
    Queued (aafTxPush a block) (blocks ++ [block]) := by
  refine ⟨?_, ?_, fun i hi ch => ?_⟩
  · show a.txWriteIdx + 1 = a.txReadIdx + UInt32.ofNat (blocks ++ [block]).length
    rw [h.write, List.length_append, List.length_singleton, UInt32.ofNat_add, UInt32.add_assoc]
    rfl
  · rw [List.length_append, List.length_singleton]
    exact hroom
  · show Function.update (a.txBuf ch) (ringSlot a.txWriteIdx) (block ch)
      (ringSlot (a.txReadIdx + UInt32.ofNat i)) = _
    rw [List.length_append, List.length_singleton] at hi
    rcases Nat.lt_succ_iff_lt_or_eq.mp hi with hlt | rfl
    · rw [h.write, Function.update_of_ne (ringSlot_ne _ hlt (by omega)), h.block i hlt,
        List.getElem_append_left hlt]
    · rw [h.write, Function.update_self, List.getElem_append_right le_rfl]
      simp

theorem Queued.pushes {a : Aaf} {before : List SampleBlock} (h : Queued a before)
    (blocks : List SampleBlock) (hfits : before.length + blocks.length ≤ aafBufferSize) :
    Queued (blocks.foldl aafTxPush a) (before ++ blocks) := by
  induction blocks generalizing a before with
  | nil =>
    rw [List.append_nil]
    exact h
  | cons block rest ih =>
    rw [List.length_cons] at hfits
    rw [List.append_cons]
    refine ih (h.push (by omega) block) ?_
    rw [List.length_append, List.length_singleton]
    omega

/-- Any blocks can be queued. -/
theorem queued_pushed {a : Aaf} (hempty : a.txWriteIdx = a.txReadIdx) {blocks : List SampleBlock}
    (hfits : blocks.length ≤ aafBufferSize) : Queued (blocks.foldl aafTxPush a) blocks := by
  have hnone : Queued a [] := ⟨hempty.trans (UInt32.add_zero _).symm, Nat.zero_le _, nofun⟩
  refine hnone.pushes blocks ?_
  rw [List.length_nil, Nat.zero_add]
  exact hfits

theorem Queued.next {a : Aaf} {block : SampleBlock} {rest : List SampleBlock}
    (h : Queued a (block :: rest)) :
    (aafNextBlock a).2 = block ∧ Queued (aafNextBlock a).1 rest := by
  have hfits := h.fits
  rw [List.length_cons, aafBufferSize] at hfits
  have hwrite : a.txWriteIdx = a.txReadIdx + 1 + UInt32.ofNat rest.length := by
    rw [h.write, List.length_cons, Nat.add_comm, UInt32.ofNat_add, UInt32.add_assoc]
    rfl
  have hmore : a.txReadIdx ≠ a.txWriteIdx := by
    intro heq
    have hnat := congrArg UInt32.toNat (heq.trans hwrite)
    simp only [UInt32.toNat_add, UInt32.toNat_ofNat', UInt32.reduceToNat] at hnat
    omega
  rw [aafNextBlock, if_neg hmore]
  refine ⟨funext fun ch => ?_, hwrite, by rw [aafBufferSize]; omega, fun i hi ch => ?_⟩
  · have hfirst := h.block 0 (Nat.succ_pos _) ch
    have hzero : a.txReadIdx + UInt32.ofNat 0 = a.txReadIdx := UInt32.add_zero _
    rw [hzero] at hfirst
    exact hfirst
  · have hidx : a.txReadIdx + UInt32.ofNat (i + 1) = a.txReadIdx + 1 + UInt32.ofNat i := by
      rw [UInt32.ofNat_add, UInt32.add_comm (UInt32.ofNat i), ← UInt32.add_assoc]
      rfl
    have hnext := h.block (i + 1) (Nat.succ_lt_succ hi) ch
    rw [hidx] at hnext
    exact hnext

theorem sentBlocks_queued {a : Aaf} {blocks : List SampleBlock} (h : Queued a blocks) :
    sentBlocks a blocks.length = blocks := by
  induction blocks generalizing a with
  | nil => rfl
  | cons block rest ih =>
    obtain ⟨hblock, hrest⟩ := h.next
    rw [List.length_cons, sentBlocks, hblock, ih hrest]

/-- The half holds the blocks that the software sends. -/
def HoldsBlocks (half : Nat → Block) (blocks : List SampleBlock) : Prop :=
  blocks.map (fun block ch => (block ch).toUInt32) = (List.range aafSamplesPerPacket).map half

theorem HoldsBlocks.payload {half : Nat → Block} {blocks : List SampleBlock}
    (h : HoldsBlocks half blocks) : payloadBytes half = blocks.flatMap putBlock := by
  rw [payloadBytes, ← List.flatMap_map, ← h, List.flatMap_map]
  rfl

theorem aafHeader_length (destMac srcMac : MacAddr) (tci : UInt16) (seq : UInt8)
    (streamId : StreamId) (presTs : UInt32) :
    (aafHeader destMac srcMac tci seq streamId presTs).length = 42 := by
  simp [aafHeader, be16, be32]

theorem aafSendPacket_bytes (a : Aaf) (now : PtpTimestamp) :
    (aafSendPacket a now).2 =
      aafHeader a.destMac a.srcMac (vlanTci a.txPcp a.txVid) a.txSeq a.streamId
        (timestampNs now + aafPresentationOffsetNs).toUInt32 ++
      (sentBlocks a aafSamplesPerPacket).flatMap putBlock := by
  rw [← packBlocks_bytes]
  unfold aafSendPacket
  generalize packBlocks a aafSamplesPerPacket = packed
  rfl

-- ---------------------------------------------------------------------------
-- Header and time
-- ---------------------------------------------------------------------------

theorem packetizerHeader_eq (fw : Firmware) (seq : UInt8) (pres : UInt32) :
    packetizerHeader (aafGwPushBinding fw).aafPkt seq pres =
      aafHeader fw.aaf.destMac fw.aaf.srcMac (vlanTci fw.aaf.txPcp fw.aaf.txVid) seq
        fw.aaf.streamId pres := by
  rw [packetizerHeader, aafHeader, aafGwPushBinding, regMac_eq, regMac_eq, regStreamId_eq]
  rfl

theorem sum_shiftLeft (x : Nat) (bits : List Nat) :
    (bits.map fun s => x <<< s).sum = x * (bits.map fun s => 2 ^ s).sum := by
  induction bits with
  | nil => rfl
  | cons s rest ih => rw [List.map_cons, List.sum_cons, ih, List.map_cons, List.sum_cons,
      Nat.shiftLeft_eq, Nat.mul_add]

theorem mul1e9Lo32_eq (x : Nat) : mul1e9Lo32 x = x * 1000000000 := by
  rw [mul1e9Lo32, sum_shiftLeft]
  rfl

theorem presTime_eq (now : PtpTimestamp) :
    presTime now presOffsetReset = (timestampNs now + aafPresentationOffsetNs).toUInt32 := by
  have hoffset : presOffsetReset.toNat = aafPresentationOffsetNs.toNat := rfl
  apply UInt32.toNat_inj.mp
  rw [presTime, mul1e9Lo32_eq, timestampNs, hoffset]
  simp only [UInt32.toNat_ofNat', UInt64.toNat_toUInt32, UInt64.toNat_add, UInt64.toNat_mul,
    UInt32.toNat_toUInt64, UInt64.reduceToNat]
  omega

-- ---------------------------------------------------------------------------
-- The frame laid
-- ---------------------------------------------------------------------------

/-- What may change from cycle to cycle while a frame is built. -/
structure Rest where
  sendReq : Bool
  tsu : PtpTimestamp
  ready : Bool

def seen (regs : AafPktRegs) (half : Nat → Block) (r : Rest) : Seen :=
  ⟨r.sendReq, r.tsu, regs, presOffsetReset, half, r.ready⟩

/-- The builder after these cycles. -/
def built (regs : AafPktRegs) (half : Nat → Block) (b : Builder) (cycles : List Rest) : Builder :=
  cycles.foldl (fun b r => b.step (seen regs half r)) b

variable {regs : AafPktRegs} {half : Nat → Block} {b : Builder} {frame : List UInt8}

/-- The frame up to `byte_idx` has been laid. -/
structure Laying (regs : AafPktRegs) (half : Nat → Block) (frame : List UInt8) (b : Builder) :
    Prop where
  fsm : b.fsm = .build
  byteIdx : b.byteIdx < total
  bytes : packetizerHeader regs b.seq b.pres ++ payloadBytes half = frame
  laid : b.laid = frame.take b.byteIdx

theorem Laying.length (h : Laying regs half frame b) : frame.length = total := by
  rw [← h.bytes, List.length_append, packetizerHeader_length, payloadBytes_length, total]

theorem Laying.curByte (h : Laying regs half frame b) (r : Rest) :
    frame.take b.byteIdx ++ [b.curByte (seen regs half r)] = frame.take (b.byteIdx + 1) := by
  have hlt : b.byteIdx < frame.length := by
    rw [h.length]
    exact h.byteIdx
  have hframe : packetizerHeader (seen regs half r).regs b.seq b.pres ++
      payloadBytes (seen regs half r).half = frame := h.bytes
  rw [curByte_eq h.byteIdx, hframe, List.getD_eq_getElem _ _ hlt,
    List.take_concat_get' frame b.byteIdx hlt]

theorem build_same (b : Builder) (cur : UInt8) :
    (b.build cur).seq = b.seq ∧ (b.build cur).pres = b.pres := by
  rw [Builder.build]
  split <;> exact ⟨rfl, rfl⟩

theorem Laying.step (h : Laying regs half frame b) (r : Rest) (hmore : b.byteIdx < total - 1) :
    Laying regs half frame (b.step (seen regs half r)) := by
  obtain ⟨hidx, hfsm, hlaid⟩ := build_laid hmore (b.curByte (seen regs half r))
  obtain ⟨hseq, hpres⟩ := build_same b (b.curByte (seen regs half r))
  rw [step_build h.fsm]
  constructor
  · exact hfsm.trans h.fsm
  · rw [hidx]
    omega
  · rw [hseq, hpres]
    exact h.bytes
  · rw [h.laid, h.curByte, ← hidx] at hlaid
    exact hlaid

theorem Laying.last (h : Laying regs half frame b) (r : Rest) (hlast : b.byteIdx = total - 1) :
    (b.step (seen regs half r)).fsm = .stream ∧
      frameBytes (b.step (seen regs half r)).frameRam = frame := by
  obtain ⟨hfsm, -, hframe⟩ := build_last hlast (b.curByte (seen regs half r))
  have hall : frame.take (b.byteIdx + 1) = frame := by
    rw [hlast, List.take_of_length_le]
    rw [h.length]
    exact Nat.le_refl _
  rw [h.laid, h.curByte, hall] at hframe
  rw [step_build h.fsm]
  exact ⟨hfsm, hframe⟩

theorem Laying.run (h : Laying regs half frame b) (cycles : List Rest)
    (hlen : b.byteIdx + cycles.length = total) :
    (built regs half b cycles).fsm = .stream ∧
      frameBytes (built regs half b cycles).frameRam = frame := by
  induction cycles generalizing b with
  | nil =>
    have := h.byteIdx
    rw [List.length_nil] at hlen
    omega
  | cons r rest ih =>
    rw [List.length_cons] at hlen
    by_cases hlast : b.byteIdx = total - 1
    · have hnil : rest = [] := List.eq_nil_of_length_eq_zero (by omega)
      rw [hnil]
      exact h.last r hlast
    · have hmore : b.byteIdx < total - 1 := by
        have := h.byteIdx
        omega
      have hidx : (b.step (seen regs half r)).byteIdx = b.byteIdx + 1 := by
        rw [step_build h.fsm]
        exact (build_laid hmore _).1
      refine ih (h.step r hmore) ?_
      show (b.step (seen regs half r)).byteIdx + rest.length = total
      rw [hidx]
      omega

/-- `send_req` finds the builder idle: a frame is begun. -/
theorem start_laying (hidle : b.fsm = .idle) (r : Rest) (hreq : r.sendReq = true) :
    Laying regs half (packetizerHeader regs b.seq (presTime r.tsu presOffsetReset) ++
      payloadBytes half) (b.step (seen regs half r)) := by
  have hstep : b.step (seen regs half r) =
      { b with fsm := .build, pres := presTime r.tsu presOffsetReset, byteIdx := 0 } := by
    simp [Builder.step, hidle, seen, hreq]
  rw [hstep]
  have hnil (b : Builder) (hidx : b.byteIdx = 0) : b.laid = [] :=
    List.eq_nil_of_length_eq_zero ((laid_length b).trans hidx)
  exact ⟨rfl, Nat.succ_pos 233, rfl, hnil _ rfl⟩

/-- The frame in the RAM when the builder has been through its bytes is the
one the firmware sends. -/
theorem frameBytes_eq_aafSendPacket (fw : Firmware) (half : Nat → Block) (b : Builder) (start : Rest)
    (cycles : List Rest) (hidle : b.fsm = .idle) (hseq : b.seq = fw.aaf.txSeq)
    (hreq : start.sendReq = true) (hlen : cycles.length = total)
    (hblocks : HoldsBlocks half (sentBlocks fw.aaf aafSamplesPerPacket)) :
    (built (aafGwPushBinding fw).aafPkt half b (start :: cycles)).fsm = .stream ∧
      frameBytes (built (aafGwPushBinding fw).aafPkt half b (start :: cycles)).frameRam =
        (aafSendPacket fw.aaf start.tsu).2 := by
  have hframe : packetizerHeader (aafGwPushBinding fw).aafPkt b.seq
      (presTime start.tsu presOffsetReset) ++ payloadBytes half =
        (aafSendPacket fw.aaf start.tsu).2 := by
    rw [packetizerHeader_eq, presTime_eq, hblocks.payload, hseq, aafSendPacket_bytes]
  rw [← hframe]
  refine (start_laying hidle start hreq).run cycles ?_
  have hidx : (b.step (seen (aafGwPushBinding fw).aafPkt half start)).byteIdx = 0 := by
    simp [Builder.step, hidle, seen, hreq]
  rw [hidx, hlen, Nat.zero_add]

/-- Six blocks of the samples 0, 1, 2 and so on. -/
def ramp : List SampleBlock := (List.range 6).map fun i ch => Int32.ofNat (8 * i + ch)

def rampTalker : Firmware := { boot with aaf := ramp.foldl aafTxPush boot.aaf }

theorem rampTalker_queued : Queued rampTalker.aaf ramp := queued_pushed rfl (by decide)

theorem frameBytes_eq_aafSendPacket_ramp :
    frameBytes (built (aafGwPushBinding rampTalker).aafPkt (fun i ch => UInt32.ofNat (8 * i + ch))
      { seq := rampTalker.aaf.txSeq }
      (⟨true, ⟨1000, 5⟩, false⟩ :: List.replicate total ⟨false, ⟨1000, 25⟩, true⟩)).frameRam =
        (aafSendPacket rampTalker.aaf ⟨1000, 5⟩).2 := by
  refine (frameBytes_eq_aafSendPacket rampTalker _ _ _ _ rfl rfl rfl List.length_replicate ?_).2
  have hsent : sentBlocks rampTalker.aaf aafSamplesPerPacket = ramp :=
    sentBlocks_queued rampTalker_queued
  rw [hsent]
  rfl

end AvbAes3.AafPacketizer
