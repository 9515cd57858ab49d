import AvbAes3.UsbAudio

/-!
# A talker enabled again

`enable` gates what goes into the packetizer and its strobe, and resets
nothing: the assembler's block, `block_fifo`, the half being filled and the
builder keep what they hold while it is 0. What is sent after a 0-to-1
transition is of the samples popped since if nothing but silence is left in
them then.
-/

namespace AvbAes3.TalkerRestart

open AafPacketizer UsbAudio

-- ---------------------------------------------------------------------------
-- Transitions
-- ---------------------------------------------------------------------------

/-- A cycle, and what the USB FIFO has in it, which the firmware empties
while the talker is disabled. -/
structure RestartCycle where
  usb : List UsbSample
  cycle : Cycle

/-- The packetizer, and `enable` in the cycle before. -/
structure Restart where
  talker : UsbAudio.Packetizer := {}
  enabled : Bool := false

def found (s : UsbAudio.Packetizer) (usb : List UsbSample) : UsbAudio.Packetizer :=
  { s with asm := { s.asm with usb := usb } }

def restartStep (s : Restart) (c : RestartCycle) : Restart :=
  ⟨step (found s.talker c.usb) c.cycle, c.cycle.regs.enable⟩

/-- The samples popped, the packets the builder was handed, and the beats the
arbiter took, since some cycle. -/
structure Since where
  popped : List UsbSample := []
  packets : List (Option (List AafPacketizer.Beat)) := []
  accepted : List AafPacketizer.Beat := []

def sinceNote (t : Since) (s : Restart) (c : RestartCycle) : Since where
  popped := t.popped ++ ((found s.talker c.usb).asm.pop c.cycle.readable c.cycle.regs.enable).toList
  packets := t.packets ++ (finished (found s.talker c.usb) c.cycle ++ skipped (found s.talker c.usb))
  accepted := t.accepted ++ if c.cycle.ready then s.talker.builder.source.toList else []

def restart : Machine (Restart × Since) RestartCycle :=
  Machine.withHistory ⟨{}, restartStep⟩ {} sinceNote

/-- `enable` goes from 0 to 1. -/
def Rises (s : Restart) (c : RestartCycle) : Prop :=
  s.enabled = false ∧ c.cycle.regs.enable = true

instance (s : Restart) (c : RestartCycle) : Decidable (Rises s c) :=
  inferInstanceAs (Decidable (_ ∧ _))

/-- Nothing but silence is left on the way, and no packet. -/
structure Clean (s : UsbAudio.Packetizer) : Prop where
  cur : s.asm.cur = silence
  blockFifo : ∀ block ∈ s.asm.blockFifo, block = silence
  fill : ∀ i < s.pingPong.blkIdx, s.pingPong.pay s.pingPong.fillBuf i = silence
  sendReq : s.pingPong.sendReq = false
  builder : s.builder.fsm = .idle

theorem clean_iff {s : UsbAudio.Packetizer} : Clean s ↔ s.asm.cur = silence ∧
    (∀ block ∈ s.asm.blockFifo, block = silence) ∧
    (∀ i < s.pingPong.blkIdx, s.pingPong.pay s.pingPong.fillBuf i = silence) ∧
    s.pingPong.sendReq = false ∧ s.builder.fsm = .idle :=
  ⟨fun h => ⟨h.cur, h.blockFifo, h.fill, h.sendReq, h.builder⟩,
    fun ⟨cur, blockFifo, fill, sendReq, builder⟩ => ⟨cur, blockFifo, fill, sendReq, builder⟩⟩

instance (s : UsbAudio.Packetizer) : Decidable (Clean s) :=
  have := List.decidableBAll (fun block => block = silence) s.asm.blockFifo
  decidable_of_iff _ clean_iff.symm

/-- The increment is within the servo's clamp, and a talker that is enabled
again is clean. -/
def StartsClean (s : Restart × Since) (c : RestartCycle) : Prop :=
  c.cycle.increment.toNat ≤ maxIncrement ∧ (Rises s.1 c → Clean s.1.talker)

instance (s : Restart × Since) (c : RestartCycle) : Decidable (StartsClean s c) :=
  inferInstanceAs (Decidable (_ ∧ (_ → _)))

/-- A block of consecutive samples, or silence. -/
def MadeOf (popped : List UsbSample) (block : Block) : Prop :=
  ∃ frame, frame <:+: popped ∧ block = blockOf frame

/-- Every packet is of six blocks of the samples popped, and nothing else is
sent. -/
structure OnlySince (s : Restart × Since) : Prop where
  packets : ∀ packet, some packet ∈ s.2.packets → ∃ blocks : List Block,
    blocks.length = 6 ∧ payloadOf packet = blocks.flatMap blockBytes ∧
      ∀ block ∈ blocks, MadeOf s.2.popped block
  accepted : s.2.accepted ++ s.1.talker.unsent = s.2.packets.reduceOption.flatten

/-- What is sent from each transition on is of the samples popped since. -/
def RestartsClean (cycles : List RestartCycle) : Prop :=
  ∀ before c after, cycles = before ++ c :: after → Rises (restart.run before).1 c →
    OnlySince (restart.runFrom ((restart.run before).1, {}) (c :: after))

-- ---------------------------------------------------------------------------
-- Blocks
-- ---------------------------------------------------------------------------

theorem madeOf_silence (popped : List UsbSample) : MadeOf popped silence :=
  ⟨[], List.nil_infix, rfl⟩

theorem MadeOf.more {popped : List UsbSample} {block : Block} (h : MadeOf popped block)
    (more : List UsbSample) : MadeOf (popped ++ more) block := by
  obtain ⟨frame, hframe, rfl⟩ := h
  exact ⟨frame, hframe.trans (List.infix_append' [] popped more), rfl⟩

/-- The block in progress is of the last samples popped, and those that wait
are of earlier ones. -/
structure Fresh (a : Assembler) (popped : List UsbSample) : Prop where
  cur : ∃ frame, frame <:+ popped ∧ a.cur = blockOf frame
  blockFifo : ∀ block ∈ a.blockFifo, MadeOf popped block

theorem Fresh.step {a : Assembler} {popped : List UsbSample} (h : Fresh a popped)
    (readable enable : Bool) (arrived : Option UsbSample) (re : Bool) :
    Fresh (a.step readable enable arrived re) (popped ++ (a.pop readable enable).toList) := by
  obtain ⟨frame, hframe, hcur⟩ := h.cur
  constructor
  · cases hpop : a.pop readable enable with
    | none =>
      refine ⟨frame, ?_, ?_⟩
      · rw [Option.toList_none, List.append_nil]
        exact hframe
      · rw [Assembler.step, hpop]
        exact hcur
    | some x =>
      by_cases hpush : a.needPush x = true
      · refine ⟨[x], List.suffix_append popped [x], ?_⟩
        rw [Assembler.step, hpop]
        dsimp only
        rw [if_pos hpush]
        rfl
      · refine ⟨frame ++ [x], ?_, ?_⟩
        · obtain ⟨rest, rfl⟩ := hframe
          exact ⟨rest, (List.append_assoc ..).symm⟩
        · rw [Assembler.step, hpop, blockOf_snoc, ← hcur]
          dsimp only
          rw [if_neg hpush]
  · intro block hblock
    have hnext : (a.step readable enable arrived re).blockFifo =
        (if re then a.blockFifo.tail else a.blockFifo) ++
          (a.push (a.pop readable enable)).toList := next_push a readable enable re
    rw [hnext, List.mem_append] at hblock
    rcases hblock with hold | hnew
    · refine (h.blockFifo block ?_).more _
      cases re with
      | false => exact hold
      | true => exact List.mem_of_mem_tail hold
    · have hblock : block = a.cur := by
        cases hpop : a.pop readable enable with
        | none =>
          rw [hpop] at hnew
          cases hnew
        | some x =>
          rw [hpop, Assembler.push, Option.bind_some] at hnew
          by_cases hpush : a.needPush x = true
          · rw [if_pos hpush, Option.toList_some] at hnew
            exact List.mem_singleton.mp hnew
          · rw [if_neg hpush] at hnew
            cases hnew
      rw [hblock, hcur]
      exact MadeOf.more ⟨frame, hframe.isInfix, rfl⟩ _

-- ---------------------------------------------------------------------------
-- Packets
-- ---------------------------------------------------------------------------

theorem timed_found {s : UsbAudio.Packetizer} (h : Timed s) (usb : List UsbSample) :
    Timed (found s usb) :=
  ⟨h.blkIdx, h.phase, h.request, h.build⟩

/-- The audio taken since the transition, behind the silence that the half
being filled held. -/
structure Follows (s : Restart × Since) : Prop where
  timed : Timed s.1.talker
  fresh : Fresh s.1.talker.asm s.2.popped
  audio : ∃ audio, Carries s.1.talker audio s.2.packets s.2.accepted ∧
    ∀ block ∈ audio, MadeOf s.2.popped block

theorem Follows.step {s : Restart × Since} (h : Follows s) (c : RestartCycle)
    (hclamped : c.cycle.increment.toNat ≤ maxIncrement) : Follows (restart.step s c) := by
  obtain ⟨audio, hcarries, hmade⟩ := h.audio
  have htimed := timed_found h.timed c.usb
  have hfound : Carries (found s.1.talker c.usb) audio s.2.packets s.2.accepted :=
    ⟨hcarries.filling, hcarries.sending, hcarries.lays, hcarries.packets, hcarries.payload,
      hcarries.accepted, hcarries.rdIdx⟩
  have hfresh : Fresh (found s.1.talker c.usb).asm s.2.popped := ⟨h.fresh.cur, h.fresh.blockFifo⟩
  refine ⟨htimed.step hclamped, hfresh.step _ _ _ _, _, hfound.step htimed c.cycle, ?_⟩
  rintro block hblock
  suffices hold : MadeOf s.2.popped block from hold.more _
  rcases List.mem_append.mp hblock with hold | hnew
  · exact hmade block hold
  · rw [taken] at hnew
    split at hnew
    · rw [List.mem_singleton.mp hnew]
      cases hhead : (found s.1.talker c.usb).asm.blockFifo.head? with
      | none => exact madeOf_silence _
      | some head => exact hfresh.blockFifo head (List.mem_of_mem_head? hhead)
    · cases hnew

/-- A clean talker has sent nothing, and what it holds is silence. -/
theorem follows_clean {s : Restart} (htimed : Timed s.talker) (h : Clean s.talker) :
    Follows (s, {}) := by
  have hblk := htimed.blkIdx
  have hidle : s.talker.builder.fsm ≠ .build := by
    rw [h.builder]
    exact FsmState.noConfusion
  have hpending : s.talker.pending = false := (pending_other hidle).trans h.sendReq
  have hlen : (List.replicate s.talker.pingPong.blkIdx silence).length / aafSamplesPerPacket = 0 := by
    rw [List.length_replicate]
    exact Nat.div_eq_of_lt hblk
  refine ⟨htimed, ⟨⟨[], List.nil_suffix, h.cur⟩, fun block hblock => ?_⟩,
    List.replicate s.talker.pingPong.blkIdx silence, ⟨⟨?_, ?_⟩, ?_, ?_, ?_, ?_, ?_, ?_⟩, ?_⟩
  · rw [h.blockFifo block hblock]
    exact madeOf_silence _
  · rw [List.length_replicate]
    exact Nat.mod_eq_of_lt hblk
  · rw [hlen, Nat.mul_zero, List.drop_zero]
    refine List.eq_replicate_iff.mpr ⟨by rw [List.length_map, List.length_range], ?_⟩
    rintro block hblock
    obtain ⟨i, hi, rfl⟩ := List.mem_map.mp hblock
    exact h.fill i (List.mem_range.mp hi)
  · rw [hpending]
    rintro ⟨⟩
  · exact fun hbuild => absurd hbuild hidle
  · rw [hpending, hlen]
    rfl
  · rintro i packet hi
    cases hi
  · rw [UsbAudio.Packetizer.unsent, if_neg (by rw [h.builder]; exact FsmState.noConfusion)]
    rfl
  · intro hstream
    rw [h.builder] at hstream
    cases hstream
  · rintro block hblock
    rw [List.eq_of_mem_replicate hblock]
    exact madeOf_silence _

theorem Follows.onlySince {s : Restart × Since} (h : Follows s) : OnlySince s := by
  obtain ⟨audio, hcarries, hmade⟩ := h.audio
  refine ⟨fun packet hpacket => ?_, hcarries.accepted⟩
  obtain ⟨i, hi, hget⟩ := List.getElem_of_mem hpacket
  have hpackets := hcarries.packets
  rw [aafSamplesPerPacket] at hpackets
  refine ⟨packetBlocks audio i, ?_, ?_, fun block hblock => ?_⟩
  · rw [packetBlocks, aafSamplesPerPacket, List.length_take, List.length_drop]
    omega
  · exact hcarries.payload i packet (List.getElem?_eq_some_iff.mpr ⟨hi, hget⟩)
  · exact hmade block (List.mem_of_mem_drop (List.mem_of_mem_take hblock))

-- ---------------------------------------------------------------------------
-- Runs
-- ---------------------------------------------------------------------------

theorem timed_run {cycles : List RestartCycle} (h : restart.Steps StartsClean cycles) :
    Timed (restart.run cycles).1.talker := by
  refine h.invariant (I := fun s => Timed s.1.talker) ?_ fun s c hs hc =>
    (timed_found hs c.usb).step hc.1
  exact ⟨by decide, by decide, by decide, by decide⟩

/-- What the history since a cycle is does not matter to the steps. -/
theorem clamped_from {s : Restart × Since} {cycles : List RestartCycle}
    (h : restart.StepsFrom StartsClean s cycles) (t : Since) :
    restart.StepsFrom (fun _ c => c.cycle.increment.toNat ≤ maxIncrement) (s.1, t) cycles := by
  induction cycles generalizing s t with
  | nil => trivial
  | cons c rest ih => exact ⟨h.1.1, ih h.2 _⟩

theorem onlySince_from {before : List RestartCycle} {c : RestartCycle} {after : List RestartCycle}
    (h : restart.Steps StartsClean (before ++ c :: after)) (hrises : Rises (restart.run before).1 c) :
    OnlySince (restart.runFrom ((restart.run before).1, {}) (c :: after)) := by
  have hclean : Clean (restart.run before).1.talker := h.at.2 hrises
  have hfollows := follows_clean (timed_run h.before) hclean
  have hafter := ((Machine.stepsFrom_append _ _ before (c :: after)).mp h).2
  refine Follows.onlySince ?_
  exact (clamped_from hafter {}).invariant hfollows fun s c hs hc => hs.step c hc

/-- In every run whose transitions find the talker clean, what is sent from
each of them on is of the samples popped since. -/
theorem restartsClean (cycles : List RestartCycle) (h : restart.Steps StartsClean cycles) :
    RestartsClean cycles := by
  rintro before c after rfl hrises
  exact onlySince_from h hrises

def cycleWith (usb : List UsbSample) (enable : Bool) : RestartCycle :=
  ⟨usb, none, true, 20900385, { enable := enable }, presOffsetReset, {}, true⟩

def oldSample : UsbSample := ⟨0x12345600, 8⟩
def newSample : UsbSample := ⟨0x65432100, 8⟩

/-- The talker is enabled again before a sample has come. -/
def unused : List RestartCycle :=
  [cycleWith [] true, cycleWith [] false, cycleWith [oldSample] true, cycleWith [newSample] true] ++
    List.replicate 1500 (cycleWith [] true)

theorem restartsClean_unused :
    (restart.run unused).2.packets.length = 1 ∧ RestartsClean unused :=
  ⟨by decide +kernel, restartsClean unused (by decide +kernel)⟩

-- ---------------------------------------------------------------------------
-- A block left in the assembler
-- ---------------------------------------------------------------------------

/-- A sample is popped, and the talker disabled. -/
def leftover : List RestartCycle := [cycleWith [oldSample] true, cycleWith [] false]

/-- It is enabled again and the next frame begins; then the clock runs until
a packet is sent. -/
def again : List RestartCycle :=
  cycleWith [newSample] true :: List.replicate 1500 (cycleWith [] true)

def leftoverSince : Restart × Since := restart.runFrom ((restart.run leftover).1, {}) again

theorem leftoverSince_first : leftoverSince.2.popped = [newSample] ∧
    (leftoverSince.2.packets.map fun packet => (payloadOf (packet.getD [])).take 4) =
      [[0x12, 0x34, 0x56, 0x00]] := by
  decide +kernel

/-- The first sample of a packet that is only of the samples popped. -/
theorem OnlySince.first {s : Restart × Since} (h : OnlySince s)
    {packet : List AafPacketizer.Beat} (hpacket : some packet ∈ s.2.packets) :
    ∃ frame, frame <:+: s.2.popped ∧
      (payloadOf packet).take 4 = be32 (blockOf frame ⟨0, Nat.succ_pos 7⟩) := by
  obtain ⟨blocks, hsix, hpayload, hmade⟩ := h.packets packet hpacket
  cases blocks with
  | nil => cases hsix
  | cons block rest =>
    obtain ⟨frame, hframe, rfl⟩ := hmade block List.mem_cons_self
    refine ⟨frame, hframe, ?_⟩
    rw [hpayload]
    rfl

/-- The packet begins with the sample popped before. -/
theorem leftover_sent : ¬ RestartsClean (leftover ++ again) := by
  intro h
  have honly : OnlySince leftoverSince := h leftover _ _ rfl (by decide +kernel)
  obtain ⟨hpopped, hfirst⟩ := leftoverSince_first
  obtain ⟨packet, hpackets, hbytes⟩ := List.map_eq_singleton_iff.mp hfirst
  cases packet with
  | none => cases hbytes
  | some packet =>
    have hmem : some packet ∈ leftoverSince.2.packets := by
      rw [hpackets]
      exact List.mem_cons_self
    obtain ⟨frame, hframe, hsample⟩ := honly.first hmem
    rw [hpopped] at hframe
    have hold : be32 (blockOf frame ⟨0, Nat.succ_pos 7⟩) = [0x12, 0x34, 0x56, 0x00] :=
      hsample.symm.trans hbytes
    rcases List.sublist_singleton.mp hframe.sublist with rfl | rfl
    · exact absurd hold (by decide)
    · exact absurd hold (by decide)

end AvbAes3.TalkerRestart
