import AvbAes3.BridgeFifo
import AvbAes3.UsbAudio

/-!
# From the bridge FIFO to the packets

The packetizer and the words it pops from `bridge_fifo`. It sees no list of
samples, only the word the FIFO offers; what is written at edges of `usb_clk`
it sees edges of `clk` later. While it is not enabled the firmware pops the
words.

`bridge_carries`: the payloads of the packets are the blocks assembled from
the words written, in order.
-/

namespace AvbAes3.UsbBridge

open UsbAudio

-- ---------------------------------------------------------------------------
-- The two of them
-- ---------------------------------------------------------------------------

structure Bridge where
  fifo : BridgeFifo.Fifo
  packetizer : UsbAudio.Packetizer

/-- `sample_lo` and `sample_hi`. -/
def usbSample (word : BridgeFifo.Word) : UsbSample :=
  ⟨⟨word.extractLsb' 0 32⟩, ⟨word.extractLsb' 32 32⟩⟩

/-- What the packetizer sees of the FIFO. -/
def Bridge.found (s : Bridge) : UsbAudio.Packetizer :=
  { s.packetizer with asm := { s.packetizer.asm with usb := [usbSample s.fifo.read.data] } }

/-- A cycle of `clk`; `popped` is the write strobe of `usb_sample_pop`. -/
structure Cycle where
  popped : Bool
  increment : UInt32
  regs : AafPktRegs
  presOffset : UInt32
  tsu : PtpTimestamp
  ready : Bool

def Bridge.cycle (s : Bridge) (c : Cycle) : UsbAudio.Cycle where
  arrived := none
  readable := BridgeFifo.rRdy s.fifo.read
  increment := c.increment
  regs := c.regs
  presOffset := c.presOffset
  tsu := c.tsu
  ready := c.ready

/-- What the packetizer pops. -/
def Bridge.usbPop (s : Bridge) (c : Cycle) : Option UsbSample :=
  s.found.asm.pop (BridgeFifo.rRdy s.fifo.read) c.regs.enable

def Bridge.samplePop (s : Bridge) (c : Cycle) : Bool :=
  if c.regs.enable then (s.usbPop c).isSome else c.popped

/-- The edges of the FIFO's clocks, those of `clk` with the cycle they end. -/
inductive Edge
  | usb (wData : Option BridgeFifo.Word)
  | clk (c : Cycle)
  | both (wData : Option BridgeFifo.Word) (c : Cycle) (consumeSeen produceSeen : BitVec 11)

def Edge.cycle : Edge → Option Cycle
  | .usb _ => none
  | .clk c | .both _ c _ _ => some c

def Bridge.edge (s : Bridge) : Edge → BridgeFifo.Edge
  | .usb wData => .usb wData
  | .clk c => .clk (s.samplePop c)
  | .both wData c consumeSeen produceSeen => .both wData (s.samplePop c) consumeSeen produceSeen

/-- A packetizer that holds no word of the FIFO. -/
def unseen (p : UsbAudio.Packetizer) : UsbAudio.Packetizer :=
  { p with asm := { p.asm with usb := [] } }

def Bridge.packetizerNext (s : Bridge) : Option Cycle → UsbAudio.Packetizer
  | none => s.packetizer
  | some c => unseen (UsbAudio.step s.found (s.cycle c))

def step (s : Bridge) (e : Edge) : Bridge where
  fifo := BridgeFifo.step s.fifo (s.edge e)
  packetizer := s.packetizerNext e.cycle

def bridge : Machine Bridge Edge := ⟨⟨BridgeFifo.initial, {}⟩, step⟩

-- ---------------------------------------------------------------------------
-- What goes through
-- ---------------------------------------------------------------------------

/-- The words of the FIFO, those popped each with whether the packetizer was
enabled, and what the packetizer did. -/
structure Log where
  fifo : BridgeFifo.Log
  popped : List (BridgeFifo.Word × Bool)
  trace : Trace

def enabled : Option Cycle → Bool
  | none => false
  | some c => c.regs.enable

def Log.noteCycle (l : Log) (s : Bridge) : Option Cycle → Trace
  | none => l.trace
  | some c => UsbAudio.note l.trace s.found (s.cycle c)

def Log.note (l : Log) (s : Bridge) (e : Edge) : Log where
  fifo := l.fifo.note s.fifo (s.edge e)
  popped := l.popped ++
    ((BridgeFifo.popped s.fifo (s.edge e)).map fun word => (word, enabled e.cycle)).toList
  trace := l.noteCycle s e.cycle

def logged : Machine (Bridge × Log) Edge := bridge.withHistory ⟨⟨[], []⟩, [], {}⟩ Log.note

/-- The NCO's increment is within the servo's clamp. -/
def Clamped (_ : Bridge × Log) (e : Edge) : Prop :=
  ∀ c ∈ e.cycle, c.increment.toNat ≤ maxIncrement

instance (s : Bridge × Log) (e : Edge) : Decidable (Clamped s e) :=
  inferInstanceAs (Decidable (∀ c ∈ e.cycle, c.increment.toNat ≤ maxIncrement))

/-- The words the packetizer has popped. -/
def Log.taken (l : Log) : List UsbSample :=
  (l.popped.filter Prod.snd).map fun x => usbSample x.1

structure Carries (s : Bridge × Log) : Prop where
  words : ∃ waiting, s.2.fifo.written = s.2.popped.map Prod.fst ++ waiting ∧ waiting.length ≤ 1024
  audio : s.2.trace.audio = withSilence s.2.trace.strobes (assembled s.2.taken)
  strobes : s.2.trace.audio.length = s.2.trace.strobes.length
  payload : ∀ (i : Nat) (packet : List AafPacketizer.Beat),
    s.2.trace.packets[i]? = some (some packet) →
      payloadOf packet = (packetBlocks s.2.trace.audio i).flatMap AafPacketizer.blockBytes
  packets : s.2.trace.packets.length + s.1.packetizer.pending.toNat =
    s.2.trace.audio.length / aafSamplesPerPacket
  accepted : s.2.trace.accepted ++ s.1.packetizer.unsent = s.2.trace.packets.reduceOption.flatten

-- ---------------------------------------------------------------------------
-- What the packetizer sees
-- ---------------------------------------------------------------------------

/-- A packetizer and its trace as the samples in the list do not matter. -/
structure Packs (p : UsbAudio.Packetizer) (t : Trace) : Prop where
  asm : Assembling p.asm { t with arrived := t.consumed ++ p.asm.usb }
  timed : Timed p
  packed : Packed (p, t)

theorem Packs.holding (h : Packs p t) (usb : List UsbSample) :
    Packs { p with asm := { p.asm with usb := usb } } t where
  asm := ⟨rfl, h.asm.have_, h.asm.cur, h.asm.enough, h.asm.waiting⟩
  timed := ⟨h.timed.blkIdx, h.timed.phase, h.timed.request, h.timed.build⟩
  packed := ⟨h.packed.filling, h.packed.sending, h.packed.lays, h.packed.packets,
    h.packed.payload, h.packed.accepted, h.packed.rdIdx⟩

theorem Packs.step (h : Packs p t) {c : UsbAudio.Cycle} (hclamped : c.increment.toNat ≤ maxIncrement) :
    Packs (UsbAudio.step p c) (UsbAudio.note t p c) := by
  have hasm := Assembling.step
    (s := (p, { t with arrived := t.consumed ++ p.asm.usb })) h.asm c
  have hpacked : Packed (packetizer.step (p, { t with arrived := t.consumed ++ p.asm.usb }) c) := by
    refine Packed.step (s := (p, { t with arrived := t.consumed ++ p.asm.usb })) ?_ h.asm h.timed c
    exact ⟨h.packed.filling, h.packed.sending, h.packed.lays, h.packed.packets, h.packed.payload,
      h.packed.accepted, h.packed.rdIdx⟩
  exact ⟨⟨rfl, hasm.have_, hasm.cur, hasm.enough, hasm.waiting⟩, h.timed.step hclamped,
    ⟨hpacked.filling, hpacked.sending, hpacked.lays, hpacked.packets, hpacked.payload,
      hpacked.accepted, hpacked.rdIdx⟩⟩

/-- What the packetizer pops is the word the FIFO gives. -/
theorem usbPop_popped (s : Bridge) (c : Cycle) (henable : c.regs.enable = true) :
    s.usbPop c =
      (if BridgeFifo.rRdy s.fifo.read && s.samplePop c then some s.fifo.read.data
        else none).map usbSample := by
  have hpop : s.samplePop c = (s.usbPop c).isSome := if_pos henable
  rw [hpop]
  cases hsome : s.usbPop c with
  | none => simp
  | some x =>
    obtain ⟨husb, -⟩ := pop_some hsome
    have hx : usbSample s.fifo.read.data = x := (List.cons.inj husb).1
    cases hready : BridgeFifo.rRdy s.fifo.read with
    | false =>
      rw [Bridge.usbPop, Assembler.pop, hready] at hsome
      cases hsome
    | true => simp [hx]

theorem usbPop_disabled (s : Bridge) (c : Cycle) (henable : c.regs.enable = false) :
    s.usbPop c = none := by
  simp [Bridge.usbPop, Assembler.pop, henable]

-- ---------------------------------------------------------------------------
-- The invariant
-- ---------------------------------------------------------------------------

structure Sound (s : Bridge × Log) : Prop where
  fifo : BridgeFifo.Seen (s.1.fifo, s.2.fifo) 0 0
  popped : s.2.fifo.read = s.2.popped.map Prod.fst
  taken : s.2.trace.consumed = s.2.taken
  packs : Packs s.1.packetizer s.2.trace

theorem sound_init : Sound logged.init where
  fifo := ⟨⟨0, 0, 0, 0, BridgeFifo.sound_init, fun _ => Nat.le_refl 0, fun _ => Nat.le_refl 0⟩,
    Nat.zero_le _⟩
  popped := rfl
  taken := rfl
  packs := by
    refine ⟨⟨rfl, by decide, rfl, Nat.le_refl _, rfl⟩, ⟨by decide, by decide, by decide, by decide⟩,
      ⟨⟨rfl, rfl⟩, fun hp => ?_, fun hb => ?_, rfl, fun i packet hi => ?_, rfl, fun hs => ?_⟩⟩
    · cases hp
    · cases hb
    · cases hi
    · cases hs

/-- The words popped in an enabled cycle are those the packetizer consumes. -/
theorem taken_note (l : Log) (s : Bridge) (e : Edge) (h : l.trace.consumed = l.taken) :
    (l.note s e).trace.consumed = (l.note s e).taken := by
  have htaken : (l.note s e).taken = l.taken ++
      ((BridgeFifo.popped s.fifo (s.edge e)).filter fun _ => enabled e.cycle).toList.map usbSample := by
    rw [Log.taken, Log.note, List.filter_append, List.map_append]
    refine congrArg (l.taken ++ ·) ?_
    cases BridgeFifo.popped s.fifo (s.edge e) with
    | none => rfl
    | some word => cases enabled e.cycle <;> rfl
  have hcycle (c : Cycle) (hc : e.cycle = some c) :
      BridgeFifo.popped s.fifo (s.edge e) =
        if BridgeFifo.rRdy s.fifo.read && s.samplePop c then some s.fifo.read.data else none := by
    cases e <;> cases hc <;> rfl
  rw [htaken]
  cases hc : e.cycle with
  | none =>
    have hnone : (l.note s e).trace = l.trace := by rw [Log.note, hc]; rfl
    rw [hnone, h]
    simp [enabled]
  | some c =>
    have hsome : (l.note s e).trace.consumed = l.trace.consumed ++ (s.usbPop c).toList := by
      rw [Log.note, hc]
      rfl
    rw [hsome, h, hcycle c hc]
    cases henable : c.regs.enable with
    | false => simp [usbPop_disabled s c henable, enabled, henable]
    | true =>
      rw [usbPop_popped s c henable]
      split <;> simp [enabled, henable, Option.filter]

theorem Sound.step (h : Sound s) (hclamped : Clamped s e) : Sound (logged.step s e) := by
  obtain ⟨s, l⟩ := s
  have hseen := h.fifo.next (s.edge e)
  refine ⟨⟨?_, Nat.zero_le _⟩, ?_, taken_note l s e h.taken, ?_⟩
  · obtain ⟨p0, p1, c0, c1, hsound, -, -⟩ := hseen.sound
    exact ⟨p0, p1, c0, c1, hsound, fun hlt => absurd hlt (by decide), fun hlt => absurd hlt (by decide)⟩
  · show l.fifo.read ++ _ = (l.popped ++ _).map Prod.fst
    rw [List.map_append, ← h.popped]
    refine congrArg (l.fifo.read ++ ·) ?_
    cases BridgeFifo.popped s.fifo (s.edge e) <;> rfl
  · show Packs (s.packetizerNext e.cycle) (l.noteCycle s e.cycle)
    cases hc : e.cycle with
    | none => exact h.packs
    | some c =>
      have hfound : Packs s.found l.trace := h.packs.holding _
      exact (hfound.step (hclamped c hc)).holding []

theorem sound_run {run : List Edge} (hclamped : logged.Steps Clamped run) :
    Sound (logged.run run) :=
  hclamped.invariant (I := Sound) sound_init fun _ _ h hc => h.step hc

theorem Sound.carries (h : Sound s) : Carries s := by
  obtain ⟨_, _, _, _, hfifo, -, -⟩ := h.fifo.sound
  obtain ⟨waiting, horder, hlength, -⟩ := hfifo.conserved
  have hpacked := h.packs.packed
  refine ⟨⟨waiting, h.popped ▸ horder, hlength⟩, ?_, ?_, hpacked.payload, hpacked.packets,
    hpacked.accepted⟩
  · rw [Trace.audio, h.taken]
  · exact withSilence_length h.packs.asm.enough

/-- Whatever the two clocks do, and whoever pops. -/
theorem bridge_carries {run : List Edge} (hclamped : logged.Steps Clamped run) :
    Carries (logged.run run) := (sound_run hclamped).carries

/-- A cycle of the packetizer, enabled. -/
def cycle : Cycle := ⟨false, 20900385, { enable := true }, AafPacketizer.presOffsetReset, {}, true⟩

/-- Two samples of channel 0 are written and popped, the second at edges of
both clocks; then `clk` runs until a packet has been sent. -/
def twoWords : List Edge :=
  [.usb (some 0x812345600#64), .clk cycle, .both (some 0x865432100#64) cycle 0#11 0x7ff#11] ++
    List.replicate 1530 (.clk cycle)

theorem twoWords_carried :
    (logged.run twoWords).2.taken = [⟨0x12345600, 8⟩, ⟨0x65432100, 8⟩] ∧
      (logged.run twoWords).2.trace.accepted.length = 59 ∧ Carries (logged.run twoWords) :=
  ⟨by decide +kernel, by decide +kernel, bridge_carries (by decide +kernel)⟩

end AvbAes3.UsbBridge
