import AvbAes3.GatewareFrame
import AvbAes3.UsbBridge

/-!
# The packets as frames

The registers hold the binding, and while a frame is built each cycle reads
them. As long as the binding stays, every packet is one whole frame of it:
the header with the number of the packet and the time its half was handed
over, then the half's six blocks.

`frames_numbered`: a packet skipped takes no number.
-/

namespace AvbAes3.PacketFrames

open UsbAudio AafPacketizer

-- ---------------------------------------------------------------------------
-- Bytes, numbers and times
-- ---------------------------------------------------------------------------

/-- The bytes of the beats' valid lanes. -/
def wireBytes (packet : List AafPacketizer.Beat) : List UInt8 :=
  (packet.flatMap fun beat => beat.data.bytes).take total

/-- How many packets were built before it. -/
def numberOf (packets : List (Option (List AafPacketizer.Beat))) (i : Nat) : Nat :=
  (packets.take i).reduceOption.length

/-- The builder begins a frame in the cycle. -/
def begins (s : UsbAudio.Packetizer) : Bool := s.builder.fsm == .idle && s.pingPong.sendReq

/-- The time that goes in it. -/
def noteTime (times : List UInt32) (s : UsbAudio.Packetizer) (c : UsbAudio.Cycle) : List UInt32 :=
  times ++ if begins s then [presTime c.tsu c.presOffset] else []

def noteEdge (times : List UInt32) (s : UsbBridge.Bridge × UsbBridge.Log) (e : UsbBridge.Edge) :
    List UInt32 :=
  match e.cycle with
  | none => times
  | some c => noteTime times s.1.found (s.1.cycle c)

def stamped : Machine ((UsbBridge.Bridge × UsbBridge.Log) × List UInt32) UsbBridge.Edge :=
  UsbBridge.logged.withHistory [] noteEdge

/-- The registers have this binding; the stream may be enabled or not. -/
def Held (binding regs : AafPktRegs) : Prop := { regs with enable := binding.enable } = binding

instance (binding regs : AafPktRegs) : Decidable (Held binding regs) :=
  inferInstanceAs (Decidable (_ = _))

/-- The increment is within the clamp, and the binding stays. -/
def Bound (binding : AafPktRegs) (s : (UsbBridge.Bridge × UsbBridge.Log) × List UInt32)
    (e : UsbBridge.Edge) : Prop :=
  UsbBridge.Clamped s.1 e ∧ ∀ c ∈ e.cycle, Held binding c.regs

instance (binding : AafPktRegs) (s : (UsbBridge.Bridge × UsbBridge.Log) × List UInt32)
    (e : UsbBridge.Edge) : Decidable (Bound binding s e) :=
  inferInstanceAs (Decidable (_ ∧ ∀ c ∈ e.cycle, Held binding c.regs))

structure Framed (binding : AafPktRegs) (l : UsbBridge.Log) (times : List UInt32) : Prop where
  frame : ∀ (i : Nat) (packet : List AafPacketizer.Beat), l.trace.packets[i]? = some (some packet) →
    ∃ pres, times[numberOf l.trace.packets i]? = some pres ∧
      wireBytes packet =
        packetizerHeader binding (UInt8.ofNat (numberOf l.trace.packets i)) pres ++
          (packetBlocks l.trace.audio i).flatMap blockBytes

-- ---------------------------------------------------------------------------
-- The header
-- ---------------------------------------------------------------------------

theorem Held.header (h : Held binding regs) (seq : UInt8) (pres : UInt32) :
    packetizerHeader regs seq pres = packetizerHeader binding seq pres := by
  rw [← h]
  rfl

/-- What the FSM does to the number and the time. -/
theorem step_seq (b : Builder) (i : Seen) :
    (b.step i).seq =
        (if b.fsm = .stream ∧ i.ready = true ∧ b.rdIdx = lastIdx then b.seq + 1 else b.seq) ∧
      (b.step i).pres =
        if b.fsm = .idle ∧ i.sendReq = true then presTime i.tsu i.presOffset else b.pres := by
  cases hfsm : b.fsm with
  | idle => cases hreq : i.sendReq <;> simp [Builder.step, hfsm, hreq]
  | build =>
    rw [step_build hfsm, Builder.build]
    split <;> simp
  | stream =>
    cases hready : i.ready with
    | false => simp [Builder.step, hfsm, hready]
    | true => by_cases hlast : b.rdIdx = lastIdx <;> simp [Builder.step, hfsm, hready, hlast]

/-- The header bytes among those laid. -/
def LaysHeader (b : Builder) (header : List UInt8) : Prop :=
  b.laid.take hdrLen = header.take b.byteIdx

theorem LaysHeader.curByte {b : Builder} {i : Seen}
    (h : LaysHeader b (packetizerHeader i.regs b.seq b.pres)) :
    (b.laid ++ [b.curByte i]).take hdrLen =
      (packetizerHeader i.regs b.seq b.pres).take (b.byteIdx + 1) := by
  have hlaid := laid_length b
  have hheader := packetizerHeader_length i.regs b.seq b.pres
  by_cases hhdr : b.byteIdx < hdrLen
  · have hlt : b.byteIdx < (packetizerHeader i.regs b.seq b.pres).length := by omega
    have hcur : b.curByte i = (packetizerHeader i.regs b.seq b.pres)[b.byteIdx] := by
      rw [Builder.curByte, if_pos hhdr, List.getD_eq_getElem _ _ hlt]
    rw [LaysHeader, List.take_of_length_le (by omega)] at h
    rw [List.take_of_length_le (by rw [List.length_append, List.length_singleton]; omega), h, hcur,
      List.take_concat_get' _ _ hlt]
  · rw [List.take_append_of_le_length (by omega), h, List.take_of_length_le (by omega),
      List.take_of_length_le (by omega)]

theorem wireBytes_beats (frameRam : Nat → Word) :
    wireBytes (beats frameRam) = frameBytes frameRam := by
  rw [wireBytes, beats, List.flatMap_map]
  rfl

-- ---------------------------------------------------------------------------
-- The invariant
-- ---------------------------------------------------------------------------

/-- The headers of the packets built, and the builder at the one that comes
next. -/
structure Numbered (binding : AafPktRegs) (s : UsbAudio.Packetizer)
    (packets : List (List AafPacketizer.Beat)) (times : List UInt32) : Prop where
  headers : ∀ (k : Nat) (packet : List AafPacketizer.Beat), packets[k]? = some packet →
    ∃ pres, times[k]? = some pres ∧
      (wireBytes packet).take hdrLen = packetizerHeader binding (UInt8.ofNat k) pres
  stamps : times.length = packets.length + (decide (s.builder.fsm = .build)).toNat
  seq : s.builder.seq + (if s.builder.fsm = .stream then 1 else 0) = UInt8.ofNat packets.length
  building : s.builder.fsm = .build → times[packets.length]? = some s.builder.pres ∧
    LaysHeader s.builder (packetizerHeader binding s.builder.seq s.builder.pres)

/-- A cycle that finishes no packet and begins none. -/
theorem Numbered.keep (h : Numbered binding s packets times) (hfsm : s'.builder.fsm = s.builder.fsm)
    (hseq : s'.builder.seq = s.builder.seq)
    (hbuilding : s.builder.fsm = .build → s'.builder.pres = s.builder.pres ∧
      LaysHeader s'.builder (packetizerHeader binding s'.builder.seq s'.builder.pres)) :
    Numbered binding s' packets times where
  headers := h.headers
  stamps := hfsm ▸ h.stamps
  seq := hfsm ▸ hseq ▸ h.seq
  building := by
    intro hbuild
    obtain ⟨hpres, hlays⟩ := hbuilding (hfsm ▸ hbuild)
    exact ⟨hpres ▸ (h.building (hfsm ▸ hbuild)).1, hlays⟩

theorem Numbered.start (h : Numbered binding s packets times) (hidle : s.builder.fsm = .idle)
    (hreq : s.pingPong.sendReq = true) (c : UsbAudio.Cycle) :
    Numbered binding (UsbAudio.step s c) packets (times ++ [presTime c.tsu c.presOffset]) := by
  have hstep : (UsbAudio.step s c).builder = { s.builder with
      fsm := .build, pres := presTime c.tsu c.presOffset, byteIdx := 0 } := by
    show s.builder.step (UsbAudio.seen s c) = _
    simp [Builder.step, hidle, UsbAudio.seen, hreq]
  have hstamps := h.stamps
  have hseq := h.seq
  simp only [hidle] at hstamps hseq
  have hlen : times.length = packets.length := by simpa using hstamps
  refine ⟨?_, ?_, ?_, ?_⟩
  · intro k packet hk
    obtain ⟨pres, hpres, hheader⟩ := h.headers k packet hk
    exact ⟨pres, List.getElem?_append_left (List.getElem?_eq_some_iff.mp hpres).1 ▸ hpres, hheader⟩
  · simp [hstep, hlen]
  · simpa [hstep] using hseq
  · rintro -
    rw [hstep, LaysHeader]
    refine ⟨by simp [← hlen], ?_⟩
    have hlaid := laid_length (UsbAudio.step s c).builder
    rw [hstep] at hlaid
    rw [List.eq_nil_of_length_eq_zero hlaid]
    rfl

theorem Numbered.last (h : Numbered binding s packets times) {c : UsbAudio.Cycle}
    (hheld : Held binding c.regs) (hbuild : s.builder.fsm = .build)
    (hidx : s.builder.byteIdx = total - 1) :
    Numbered binding (UsbAudio.step s c) (packets ++ [beats (UsbAudio.step s c).builder.frameRam])
      times := by
  obtain ⟨hpres, hlays⟩ := h.building hbuild
  rw [← hheld.header] at hlays
  have hstep : (UsbAudio.step s c).builder = {
      s.builder.build (s.builder.curByte (UsbAudio.seen s c)) with
      overruns := if s.pingPong.sendReq then s.builder.overruns + 1 else s.builder.overruns } :=
    step_build hbuild _
  obtain ⟨hfsm, -, hframe⟩ := build_last hidx (s.builder.curByte (UsbAudio.seen s c))
  obtain ⟨hseq, -⟩ := build_same s.builder (s.builder.curByte (UsbAudio.seen s c))
  have hstream : (UsbAudio.step s c).builder.fsm = .stream := hstep ▸ hfsm
  have hstamps := h.stamps
  have hnumber := h.seq
  simp only [hbuild] at hstamps hnumber
  refine ⟨?_, ?_, ?_, ?_⟩
  · intro k packet hk
    rw [List.getElem?_append] at hk
    split at hk
    · exact h.headers k packet hk
    · rename_i hlt
      obtain ⟨hzero, rfl⟩ : k - packets.length = 0 ∧
          beats (UsbAudio.step s c).builder.frameRam = packet := by
        cases hsub : k - packets.length with
        | zero => rw [hsub] at hk; exact ⟨rfl, Option.some.inj hk⟩
        | succ j => rw [hsub] at hk; simp at hk
      obtain rfl : k = packets.length := by omega
      refine ⟨_, hpres, ?_⟩
      have hcur : (s.builder.laid ++ [s.builder.curByte (UsbAudio.seen s c)]).take hdrLen =
          (packetizerHeader c.regs s.builder.seq s.builder.pres).take (s.builder.byteIdx + 1) :=
        LaysHeader.curByte hlays
      have hheader := packetizerHeader_length c.regs s.builder.seq s.builder.pres
      have hall : s.builder.byteIdx + 1 = total := by
        rw [hidx]
        rfl
      have hseq' : s.builder.seq = UInt8.ofNat packets.length := by simpa using hnumber
      rw [wireBytes_beats, hstep]
      refine (congrArg _ hframe).trans (hcur.trans ?_)
      rw [hall, List.take_of_length_le (by rw [hheader]; decide), hheld.header, hseq']
  · simp [hstream, hstamps]
  · have hseq' : (UsbAudio.step s c).builder.seq = s.builder.seq := hstep ▸ hseq
    rw [hstream, hseq', if_pos rfl, List.length_append, UInt8.ofNat_add]
    simpa using hnumber
  · intro hbuild'
    rw [hstream] at hbuild'
    cases hbuild'

theorem Numbered.done (h : Numbered binding s packets times) (hstream : s.builder.fsm = .stream)
    (hidle : s'.builder.fsm = .idle) (hseq : s'.builder.seq = s.builder.seq + 1) :
    Numbered binding s' packets times := by
  have hstamps := h.stamps
  have hnumber := h.seq
  simp only [hstream] at hstamps hnumber
  refine ⟨h.headers, ?_, ?_, ?_⟩
  · simpa [hidle] using hstamps
  · simpa [hidle, hseq] using hnumber
  · intro hbuild
    cases hidle.symm.trans hbuild

theorem begins_false {s : UsbAudio.Packetizer} (h : s.builder.fsm ≠ .idle) : begins s = false := by
  simp [begins, h]

theorem Numbered.step (h : Numbered binding s packets times) (ht : Timed s) {c : UsbAudio.Cycle}
    (hheld : Held binding c.regs) :
    Numbered binding (UsbAudio.step s c) (packets ++ (finished s c).reduceOption)
      (noteTime times s c) := by
  obtain ⟨hseq, hpres⟩ : (UsbAudio.step s c).builder.seq = _ ∧
      (UsbAudio.step s c).builder.pres = _ := step_seq s.builder (UsbAudio.seen s c)
  cases s.builder.step_moves (UsbAudio.seen s c) with
  | wait idle req same =>
    have hreq : s.pingPong.sendReq = false := req
    have hbegins : begins s = false := by simp [begins, hreq]
    rw [finished_none c (by rw [idle]; decide), noteTime, hbegins]
    simp only [List.reduceOption_nil, List.append_nil, Bool.false_eq_true, if_false]
    refine h.keep (same.trans idle.symm) ?_ ?_
    · simpa [idle] using hseq
    · intro hbuild
      cases idle.symm.trans hbuild
  | start idle req fsm _ =>
    have hreq : s.pingPong.sendReq = true := req
    have hbegins : begins s = true := by simp [begins, idle, hreq]
    rw [finished_none c (by rw [idle]; decide), noteTime, hbegins]
    simp only [List.reduceOption_nil, List.append_nil, if_true]
    exact h.start idle hreq c
  | lay build more fsm byteIdx laid =>
    rw [finished_more c more, noteTime, begins_false (by rw [build]; decide)]
    simp only [List.reduceOption_nil, List.append_nil, Bool.false_eq_true, if_false]
    have hseq' : (UsbAudio.step s c).builder.seq = s.builder.seq := by simpa [build] using hseq
    have hpres' : (UsbAudio.step s c).builder.pres = s.builder.pres := by simpa [build] using hpres
    refine h.keep (fsm.trans build.symm) hseq' ?_
    rintro -
    obtain ⟨-, hlays⟩ := h.building build
    rw [← hheld.header] at hlays
    have hcur : (s.builder.laid ++ [s.builder.curByte (UsbAudio.seen s c)]).take hdrLen =
        (packetizerHeader c.regs s.builder.seq s.builder.pres).take (s.builder.byteIdx + 1) :=
      LaysHeader.curByte hlays
    have hidx : (UsbAudio.step s c).builder.byteIdx = s.builder.byteIdx + 1 := byteIdx
    refine ⟨hpres', ?_⟩
    rw [LaysHeader, hseq', hpres', hidx, ← hheld.header, ← hcur]
    exact congrArg _ (laid (ht.build build).2.1)
  | last build idx fsm _ _ =>
    rw [finished_last c build idx, noteTime, begins_false (by rw [build]; decide)]
    simp only [Bool.false_eq_true, if_false, List.append_nil]
    exact h.last hheld build idx
  | stall stream ready fsm _ _ =>
    rw [finished_none c (by rw [stream]; decide), noteTime, begins_false (by rw [stream]; decide)]
    simp only [List.reduceOption_nil, List.append_nil, Bool.false_eq_true, if_false]
    refine h.keep (fsm.trans stream.symm) ?_ ?_
    · exact hseq.trans (if_neg fun hdone => by rw [ready] at hdone; cases hdone.2.1)
    · intro hbuild
      cases stream.symm.trans hbuild
  | beat stream ready more fsm _ _ =>
    rw [finished_none c (by rw [stream]; decide), noteTime, begins_false (by rw [stream]; decide)]
    simp only [List.reduceOption_nil, List.append_nil, Bool.false_eq_true, if_false]
    refine h.keep (fsm.trans stream.symm) ?_ ?_
    · exact hseq.trans (if_neg fun hdone => more hdone.2.2)
    · intro hbuild
      cases stream.symm.trans hbuild
  | done stream ready last fsm =>
    rw [finished_none c (by rw [stream]; decide), noteTime, begins_false (by rw [stream]; decide)]
    simp only [List.reduceOption_nil, List.append_nil, Bool.false_eq_true, if_false]
    exact h.done stream fsm (hseq.trans (if_pos ⟨stream, ready, last⟩))
-- ---------------------------------------------------------------------------
-- The run
-- ---------------------------------------------------------------------------

structure Sound (binding : AafPktRegs) (s : (UsbBridge.Bridge × UsbBridge.Log) × List UInt32) :
    Prop where
  bridge : UsbBridge.Sound s.1
  numbered : Numbered binding s.1.1.packetizer s.1.2.trace.packets.reduceOption s.2

theorem sound_init (binding : AafPktRegs) : Sound binding stamped.init where
  bridge := UsbBridge.sound_init
  numbered := by
    refine ⟨?_, rfl, rfl, ?_⟩
    · intro k packet hk
      cases hk
    · intro hbuild
      cases hbuild

theorem skipped_reduceOption (s : UsbAudio.Packetizer) : (skipped s).reduceOption = [] := by
  rw [skipped]
  split <;> rfl

theorem Sound.step (h : Sound binding s) (hbound : Bound binding s e) :
    Sound binding (stamped.step s e) := by
  obtain ⟨⟨s, l⟩, times⟩ := s
  refine ⟨h.bridge.step hbound.1, ?_⟩
  show Numbered binding (s.packetizerNext e.cycle) (l.noteCycle s e.cycle).packets.reduceOption
    (noteEdge times (s, l) e)
  have hnumbered := h.numbered
  rw [noteEdge]
  cases hc : e.cycle with
  | none => exact hnumbered
  | some c =>
    have hfound : Numbered binding s.found l.trace.packets.reduceOption times :=
      ⟨hnumbered.headers, hnumbered.stamps, hnumbered.seq, hnumbered.building⟩
    have hpacks : UsbBridge.Packs s.found l.trace := h.bridge.packs.holding _
    have hnext := hfound.step (c := s.cycle c) hpacks.timed (hbound.2 c hc)
    have hpackets : (l.noteCycle s (some c)).packets.reduceOption =
        l.trace.packets.reduceOption ++ (finished s.found (s.cycle c)).reduceOption := by
      show (l.trace.packets ++ finished s.found (s.cycle c) ++ skipped s.found).reduceOption = _
      rw [List.reduceOption_append, List.reduceOption_append, skipped_reduceOption,
        List.append_nil]
    rw [hpackets]
    exact ⟨hnext.headers, hnext.stamps, hnext.seq, hnext.building⟩
theorem sound_run {run : List UsbBridge.Edge} (hbound : stamped.Steps (Bound binding) run) :
    Sound binding (stamped.run run) :=
  hbound.invariant (I := Sound binding) (sound_init binding) fun _ _ h hc => h.step hc

theorem reduceOption_numberOf {packets : List (Option (List AafPacketizer.Beat))}
    (h : packets[i]? = some (some packet)) :
    packets.reduceOption[numberOf packets i]? = some packet := by
  obtain ⟨hlt, hi⟩ := List.getElem?_eq_some_iff.mp h
  have hsplit : packets.reduceOption =
      (packets.take i).reduceOption ++ packet :: (packets.drop (i + 1)).reduceOption := by
    rw [← List.reduceOption_cons_of_some, ← List.reduceOption_append, ← hi,
      ← List.drop_eq_getElem_cons, List.take_append_drop]
  rw [hsplit, numberOf]
  simp

theorem Sound.framed (h : Sound binding s) : Framed binding s.1.2 s.2 where
  frame := by
    intro i packet hi
    obtain ⟨pres, hpres, hheader⟩ := h.numbered.headers _ packet (reduceOption_numberOf hi)
    refine ⟨pres, hpres, ?_⟩
    rw [← hheader, ← h.bridge.carries.payload i packet hi]
    exact (List.take_append_drop hdrLen (wireBytes packet)).symm

/-- Whatever waits in the FIFO, whenever the arbiter is ready, and whoever
switches the stream on and off. -/
theorem frames_numbered {run : List UsbBridge.Edge} (hbound : stamped.Steps (Bound binding) run) :
    Framed binding (stamped.run run).1.2 (stamped.run run).2 := (sound_run hbound).framed

/-- The builder has been through a frame and sends it. -/
def oneFrame : List UsbBridge.Edge := List.replicate 1480 (.clk UsbBridge.cycle)

theorem oneFrame_numbered :
    (stamped.run oneFrame).1.1.packetizer.builder.fsm = .stream ∧
      Framed UsbBridge.cycle.regs (stamped.run oneFrame).1.2 (stamped.run oneFrame).2 :=
  ⟨by decide +kernel, frames_numbered (by decide +kernel)⟩

end AvbAes3.PacketFrames
