import AvbAes3.GatewareFrame
import AvbAes3.Lib.Machine
import AvbAes3.Lib.Queue

/-!
# The software talker's ring

`aaf_tx_push` writes a block behind the last and `aaf_tx_poll` sends six from
the front, with silence for those it does not find. The indices count on and
nothing compares them before a block is written, so the ring is a queue for
as long as every block pushed finds fewer than 512 waiting.
-/

namespace AvbAes3.TalkerQueue

open AafPacketizer (sentBlocks Queued aafHeader_length aafSendPacket_bytes)
open Queue

-- ---------------------------------------------------------------------------
-- Runs between two enables
-- ---------------------------------------------------------------------------

inductive QueueStep
  | push (block : SampleBlock)
  | poll (mcrSampleCount : UInt32) (now : PtpTimestamp)
  | disable

def queueStep (a : Aaf) : QueueStep → Aaf
  | .push block => aafTxPush a block
  | .poll count now => (aafTxPoll a count now).1
  | .disable => aafTxEnable a false 0

/-- What the packing loop takes for each of the blocks it packs. -/
def takes : Aaf → (samples : Nat) → List (Event SampleBlock)
  | _, 0 => []
  | a, samples + 1 =>
    (if a.txReadIdx = a.txWriteIdx then .silence else .sent (aafNextBlock a).2) ::
      takes (aafNextBlock a).1 samples

structure QueueTrace where
  log : List (Event SampleBlock) := []
  frames : List (List UInt8) := []

def queueNote (t : QueueTrace) (a : Aaf) : QueueStep → QueueTrace
  | .push block => { t with log := t.log ++ [.pushed block] }
  | .poll count now =>
    if (aafTxPoll a count now).2.isSome then
      { log := t.log ++ takes a aafSamplesPerPacket
        frames := t.frames ++ (aafTxPoll a count now).2.toList }
    else t
  | .disable => t

/-- The talker from one `aaf_tx_enable(1)` on. -/
def talkerQueue (a : Aaf) (mcrSampleCount : UInt32) : Machine (Aaf × QueueTrace) QueueStep :=
  Machine.withHistory ⟨aafTxEnable a true mcrSampleCount, queueStep⟩ {} queueNote

/-- A block pushed finds room: fewer than 512 wait. -/
def FindsRoom (s : Aaf × QueueTrace) : QueueStep → Prop
  | .push _ => (s.1.txWriteIdx - s.1.txReadIdx).toNat < aafBufferSize
  | _ => True

/-- The block an event puts on the wire. -/
def onWire : Event SampleBlock → Option SampleBlock
  | .pushed _ => none
  | .sent block => some block
  | .silence => some fun _ => 0

def isSilence : Event SampleBlock → Bool
  | .silence => true
  | _ => false

/-- The ring is a queue: the packets carry what it logs, and what it logs is
in order. -/
structure Fifo (s : Aaf × QueueTrace) : Prop where
  inOrder : InOrder s.2.log
  frames : s.2.frames.flatMap (fun frame => frame.drop 42) =
    (s.2.log.filterMap onWire).flatMap putBlock
  underruns : s.1.txUnderrunCount = UInt32.ofNat (s.2.log.countP isSilence)

-- ---------------------------------------------------------------------------
-- A packet's blocks
-- ---------------------------------------------------------------------------

theorem queued_empty_iff {a : Aaf} {waiting : List SampleBlock} (h : Queued a waiting) :
    a.txReadIdx = a.txWriteIdx ↔ waiting = [] := by
  have hfits := h.fits
  rw [aafBufferSize] at hfits
  constructor
  · intro heq
    have hnat := congrArg UInt32.toNat (heq.trans h.write)
    simp only [UInt32.toNat_add, UInt32.toNat_ofNat'] at hnat
    exact List.eq_nil_of_length_eq_zero (by omega)
  · rintro rfl
    exact (h.write.trans (UInt32.add_zero _)).symm

/-- One turn of the packing loop. -/
theorem next_run {a : Aaf} {waiting : List SampleBlock} (h : Queued a waiting) :
    ∃ left, Queued (aafNextBlock a).1 left ∧
      Run waiting
        [if a.txReadIdx = a.txWriteIdx then .silence else .sent (aafNextBlock a).2] left := by
  by_cases hempty : a.txReadIdx = a.txWriteIdx
  · obtain rfl := (queued_empty_iff h).mp hempty
    rw [if_pos hempty, aafNextBlock, if_pos hempty]
    exact ⟨[], ⟨h.write, h.fits, fun i hi => absurd hi (Nat.not_lt_zero i)⟩, .silence .done⟩
  · cases waiting with
    | nil => exact absurd ((queued_empty_iff h).mpr rfl) hempty
    | cons block rest =>
      obtain ⟨hblock, hrest⟩ := h.next
      rw [if_neg hempty, hblock]
      exact ⟨rest, hrest, .sent .done⟩

theorem takes_run {a : Aaf} {waiting : List SampleBlock} (h : Queued a waiting) (samples : Nat) :
    ∃ left, Queued (packBlocks a samples).1 left ∧ Run waiting (takes a samples) left := by
  induction samples generalizing a waiting with
  | zero => exact ⟨waiting, h, .done⟩
  | succ samples ih =>
    obtain ⟨next, hnext, hone⟩ := next_run h
    obtain ⟨left, hleft, hrest⟩ := ih hnext
    exact ⟨left, hleft, hone.append hrest⟩

theorem onWire_next (a : Aaf) :
    onWire (if a.txReadIdx = a.txWriteIdx then .silence else .sent (aafNextBlock a).2) =
      some (aafNextBlock a).2 := by
  by_cases hempty : a.txReadIdx = a.txWriteIdx
  · rw [if_pos hempty, aafNextBlock, if_pos hempty]
    rfl
  · rw [if_neg hempty]
    rfl

theorem takes_onWire (a : Aaf) (samples : Nat) :
    (takes a samples).filterMap onWire = sentBlocks a samples := by
  induction samples generalizing a with
  | zero => rfl
  | succ samples ih => rw [takes, List.filterMap_cons_some (onWire_next a), ih, sentBlocks]

theorem takes_underruns (a : Aaf) (samples : Nat) :
    (packBlocks a samples).1.txUnderrunCount =
      a.txUnderrunCount + UInt32.ofNat ((takes a samples).countP isSilence) := by
  induction samples generalizing a with
  | zero => exact (UInt32.add_zero _).symm
  | succ samples ih =>
    refine (ih (aafNextBlock a).1).trans ?_
    rw [takes, List.countP_cons]
    by_cases hempty : a.txReadIdx = a.txWriteIdx
    · have hcount : (aafNextBlock a).1.txUnderrunCount = a.txUnderrunCount + 1 := by
        rw [aafNextBlock, if_pos hempty]
      rw [if_pos hempty, hcount, UInt32.add_assoc, Nat.add_comm, UInt32.ofNat_add]
      rfl
    · have hcount : (aafNextBlock a).1.txUnderrunCount = a.txUnderrunCount := by
        rw [aafNextBlock, if_neg hempty]
      rw [if_neg hempty, hcount]
      rfl

-- ---------------------------------------------------------------------------
-- Polls
-- ---------------------------------------------------------------------------

/-- The blocks of a packet are behind its header. -/
theorem aafSendPacket_blocks (a : Aaf) (now : PtpTimestamp) :
    (aafSendPacket a now).2.drop 42 = (sentBlocks a aafSamplesPerPacket).flatMap putBlock := by
  rw [aafSendPacket_bytes, List.drop_left' (aafHeader_length ..)]

/-- A poll does nothing, or sends a packet of the ring it finds. -/
theorem aafTxPoll_cases (a : Aaf) (count : UInt32) (now : PtpTimestamp) :
    aafTxPoll a count now = (a, none) ∨
      ∃ last, aafTxPoll a count now =
        ((aafSendPacket { a with txLastSampleCount := last } now).1,
          some (aafSendPacket { a with txLastSampleCount := last } now).2) := by
  unfold aafTxPoll
  by_cases henabled : a.txEnabled = true
  · rw [henabled, if_neg (by decide)]
    by_cases helapsed : count - a.txLastSampleCount < aafSamplesPerPacket.toUInt32
    · rw [if_pos helapsed]
      exact .inl rfl
    · rw [if_neg helapsed]
      refine .inr ⟨a.txLastSampleCount + aafSamplesPerPacket.toUInt32, ?_⟩
      generalize aafSendPacket _ now = sent
      rfl
  · rw [eq_false_of_ne_true henabled]
    exact .inl rfl

theorem takes_clock (a : Aaf) (last : UInt32) (samples : Nat) :
    takes { a with txLastSampleCount := last } samples = takes a samples := by
  induction samples generalizing a with
  | zero => rfl
  | succ samples ih =>
    have hnext : (aafNextBlock { a with txLastSampleCount := last }).1 =
          { (aafNextBlock a).1 with txLastSampleCount := last } ∧
        (aafNextBlock { a with txLastSampleCount := last }).2 = (aafNextBlock a).2 := by
      unfold aafNextBlock
      dsimp only
      split <;> exact ⟨rfl, rfl⟩
    rw [takes, takes, hnext.1, hnext.2, ih]

-- ---------------------------------------------------------------------------
-- Runs
-- ---------------------------------------------------------------------------

/-- What waits in the ring is what a queue with the run's log holds. -/
structure Keeps (s : Aaf × QueueTrace) : Prop where
  queue : ∃ waiting, Queued s.1 waiting ∧ Run [] s.2.log waiting
  frames : s.2.frames.flatMap (fun frame => frame.drop 42) =
    (s.2.log.filterMap onWire).flatMap putBlock
  underruns : s.1.txUnderrunCount = UInt32.ofNat (s.2.log.countP isSilence)

theorem Keeps.fifo {s : Aaf × QueueTrace} (h : Keeps s) : Fifo s := by
  obtain ⟨waiting, -, hrun⟩ := h.queue
  exact ⟨hrun.ordered, h.frames, h.underruns⟩

theorem queued_backlog {a : Aaf} {waiting : List SampleBlock} (h : Queued a waiting) :
    (a.txWriteIdx - a.txReadIdx).toNat = waiting.length := by
  rw [h.write, UInt32.add_comm, UInt32.add_sub_cancel]
  exact UInt32.toNat_ofNat_of_lt (Nat.lt_of_le_of_lt h.fits (by decide))

theorem Keeps.push {a : Aaf} {t : QueueTrace} (h : Keeps (a, t)) (block : SampleBlock)
    (hroom : (a.txWriteIdx - a.txReadIdx).toNat < aafBufferSize) :
    Keeps (aafTxPush a block, { t with log := t.log ++ [.pushed block] }) := by
  obtain ⟨waiting, hqueued, hrun⟩ := h.queue
  rw [queued_backlog hqueued] at hroom
  refine ⟨⟨waiting ++ [block], hqueued.push hroom block, hrun.append (.pushed .done)⟩, ?_, ?_⟩
  · rw [List.filterMap_append]
    exact h.frames.trans (by simp [onWire])
  · rw [List.countP_append]
    exact h.underruns

theorem Keeps.send {a : Aaf} {t : QueueTrace} (h : Keeps (a, t)) (last : UInt32)
    (now : PtpTimestamp) :
    Keeps ((aafSendPacket { a with txLastSampleCount := last } now).1,
      ⟨t.log ++ takes a aafSamplesPerPacket,
        t.frames ++ [(aafSendPacket { a with txLastSampleCount := last } now).2]⟩) := by
  obtain ⟨waiting, hqueued, hrun⟩ := h.queue
  have hclock : Queued { a with txLastSampleCount := last } waiting :=
    ⟨hqueued.write, hqueued.fits, hqueued.block⟩
  obtain ⟨left, hleft, htaken⟩ := takes_run hclock aafSamplesPerPacket
  have hstate := aafSendPacket_state { a with txLastSampleCount := last } now
  have hbytes := aafSendPacket_blocks { a with txLastSampleCount := last } now
  have hunderruns := takes_underruns { a with txLastSampleCount := last } aafSamplesPerPacket
  rw [takes_clock] at htaken hunderruns
  rw [← takes_onWire, takes_clock] at hbytes
  generalize aafSendPacket { a with txLastSampleCount := last } now = sent at hstate hbytes
  generalize packBlocks { a with txLastSampleCount := last } aafSamplesPerPacket = packed at *
  refine ⟨⟨left, ?_, hrun.append htaken⟩, ?_, ?_⟩
  · rw [hstate]
    exact ⟨hleft.write, hleft.fits, hleft.block⟩
  · rw [List.flatMap_append, List.filterMap_append, List.flatMap_append, List.flatMap_singleton,
      hbytes, h.frames]
  · rw [hstate, List.countP_append, UInt32.ofNat_add, ← h.underruns]
    exact hunderruns

theorem Keeps.step {a : Aaf} {count : UInt32} {s : Aaf × QueueTrace} (h : Keeps s)
    (step : QueueStep) (hroom : FindsRoom s step) : Keeps ((talkerQueue a count).step s step) := by
  obtain ⟨a', t⟩ := s
  cases step with
  | push block => exact h.push block hroom
  | poll count' now =>
    have hstep : (talkerQueue a count).step (a', t) (.poll count' now) =
        ((aafTxPoll a' count' now).1, queueNote t a' (.poll count' now)) := rfl
    rw [hstep, queueNote]
    rcases aafTxPoll_cases a' count' now with hpoll | ⟨last, hpoll⟩
    · rw [hpoll]
      exact h
    · have hsent := h.send last now
      generalize aafSendPacket { a' with txLastSampleCount := last } now = sent at hpoll hsent
      rw [hpoll]
      exact hsent
  | disable => exact ⟨h.queue.imp fun _ hq => ⟨⟨hq.1.write, hq.1.fits, hq.1.block⟩, hq.2⟩,
      h.frames, h.underruns⟩

/-- Between two enables the ring is a queue, in every run whose blocks all
find room. -/
theorem fifo_of_room (a : Aaf) (mcrSampleCount : UInt32) (steps : List QueueStep)
    (hroom : (talkerQueue a mcrSampleCount).Steps FindsRoom steps) :
    Fifo ((talkerQueue a mcrSampleCount).run steps) := by
  refine Keeps.fifo (hroom.invariant ?_ fun s step h hstep => h.step step hstep)
  exact ⟨⟨[], ⟨rfl, Nat.zero_le _, nofun⟩, .done⟩, rfl, rfl⟩

def constBlock (v : Int32) : SampleBlock := fun _ => v

/-- Two blocks and a packet, after which the indices are still apart. -/
theorem fifo_of_room_two :
    Fifo ((talkerQueue boot.aaf 0).run
      [.push (constBlock 1), .push (constBlock 2), .poll 6 ⟨1000, 5⟩]) := by
  refine fifo_of_room _ _ _ ⟨?_, ?_, trivial, trivial⟩
  · show (0 - 0 : UInt32).toNat < aafBufferSize
    decide
  · show (0 + 1 - 0 : UInt32).toNat < aafBufferSize
    decide

-- ---------------------------------------------------------------------------
-- 513 blocks
-- ---------------------------------------------------------------------------

/-- 512 blocks of ones, one of twos, and a packet. -/
def overfull : List QueueStep :=
  List.replicate 512 (.push (constBlock 1)) ++ [.push (constBlock 2), .poll 6 ⟨1000, 5⟩]

theorem pushes_run (a : Aaf) (t : QueueTrace) (block : SampleBlock) (n : Nat) :
    (talkerQueue boot.aaf 0).runFrom (a, t) (List.replicate n (.push block)) =
      ((List.replicate n block).foldl aafTxPush a,
        { t with log := t.log ++ List.replicate n (.pushed block) }) := by
  induction n generalizing a t with
  | zero =>
    rw [List.replicate_zero, List.replicate_zero, List.replicate_zero, List.append_nil]
    rfl
  | succ n ih =>
    have hstep : (talkerQueue boot.aaf 0).step (a, t) (.push block) =
        (aafTxPush a block, { t with log := t.log ++ [.pushed block] }) := rfl
    rw [List.replicate_succ, Machine.runFrom_cons, hstep, ih, List.replicate_succ,
      List.replicate_succ, List.foldl_cons, List.append_assoc]
    rfl

theorem poll_sends {a : Aaf} {count : UInt32} (t : QueueTrace) (now : PtpTimestamp)
    (henabled : a.txEnabled = true)
    (helapsed : ¬ count - a.txLastSampleCount < aafSamplesPerPacket.toUInt32) :
    (queueNote t a (.poll count now)).log = t.log ++ takes a aafSamplesPerPacket := by
  have hsome : (aafTxPoll a count now).2.isSome = true := by
    unfold aafTxPoll
    rw [henabled, if_neg (by decide), if_neg helapsed]
    generalize aafSendPacket _ now = sent
    rfl
  rw [queueNote, if_pos hsome]

theorem pushes_keep (a : Aaf) (blocks : List SampleBlock) :
    (blocks.foldl aafTxPush a).txEnabled = a.txEnabled ∧
      (blocks.foldl aafTxPush a).txReadIdx = a.txReadIdx ∧
      (blocks.foldl aafTxPush a).txLastSampleCount = a.txLastSampleCount := by
  induction blocks generalizing a with
  | nil => exact ⟨rfl, rfl, rfl⟩
  | cons block rest ih => exact ih (aafTxPush a block)

/-- What the packet takes first, when 512 blocks wait and one more is
pushed. -/
theorem takes_overwritten {a : Aaf} {waiting : List SampleBlock} (h : Queued a waiting)
    (hfull : waiting.length = 512) (hread : a.txReadIdx = 0) (block : SampleBlock) (samples : Nat) :
    ∃ rest, takes (aafTxPush a block) (samples + 1) = .sent block :: rest := by
  have hwrite : a.txWriteIdx = 512 := by
    rw [h.write, hfull, hread]
    rfl
  have hmore : (aafTxPush a block).txReadIdx ≠ (aafTxPush a block).txWriteIdx := by
    rw [aafTxPush]
    dsimp only
    rw [hread, hwrite]
    decide
  have hblock : (aafNextBlock (aafTxPush a block)).2 = block := by
    rw [aafNextBlock, if_neg hmore, aafTxPush]
    funext ch
    dsimp only
    rw [hread, hwrite]
    exact Function.update_self ..
  rw [takes, if_neg hmore, hblock]
  exact ⟨_, rfl⟩

/-- The talker with the first 512. -/
def full : Aaf := (List.replicate 512 (constBlock 1)).foldl aafTxPush (aafTxEnable boot.aaf true 0)

theorem overfull_log : ((talkerQueue boot.aaf 0).run overfull).2.log =
    List.replicate 512 (.pushed (constBlock 1)) ++ [.pushed (constBlock 2)] ++
      takes (aafTxPush full (constBlock 2)) aafSamplesPerPacket := by
  obtain ⟨henabled, -, hlast⟩ :=
    pushes_keep (aafTxEnable boot.aaf true 0) (List.replicate 512 (constBlock 1))
  have hon : (aafTxPush full (constBlock 2)).txEnabled = true := by
    rw [aafTxPush, full]
    dsimp only
    rw [henabled]
    rfl
  have helapsed : ¬ 6 - (aafTxPush full (constBlock 2)).txLastSampleCount <
      aafSamplesPerPacket.toUInt32 := by
    rw [aafTxPush, full]
    dsimp only
    rw [hlast]
    decide
  have hsends := poll_sends ⟨List.replicate 512 (.pushed (constBlock 1)) ++
    [.pushed (constBlock 2)], []⟩ ⟨1000, 5⟩ hon helapsed
  have hinit : (talkerQueue boot.aaf 0).init = (aafTxEnable boot.aaf true 0, {}) := rfl
  rw [← hsends, Machine.run, overfull, Machine.runFrom_append, hinit, pushes_run, ← full]
  generalize full = a
  generalize List.replicate 512 (Event.pushed (constBlock 1)) = events
  rfl

/-- The 513th block is written over the first. -/
theorem overfull_lost : ¬ Fifo ((talkerQueue boot.aaf 0).run overfull) := by
  intro h
  have hqueued : Queued full (List.replicate 512 (constBlock 1)) :=
    AafPacketizer.queued_pushed rfl (by rw [List.length_replicate]; decide)
  have hread : full.txReadIdx = 0 := by
    rw [full, (pushes_keep _ _).2.1]
    rfl
  obtain ⟨rest, htakes⟩ :=
    takes_overwritten hqueued List.length_replicate hread (constBlock 2) 5
  have hlog : ((talkerQueue boot.aaf 0).run overfull).2.log =
      List.replicate 512 (.pushed (constBlock 1)) ++ ([.pushed (constBlock 2)] ++
        (.sent (constBlock 2) :: rest)) := by
    rw [overfull_log, aafSamplesPerPacket, htakes, List.append_assoc]
  have hsent : sentIn ((talkerQueue boot.aaf 0).run overfull).2.log = constBlock 2 :: sentIn rest := by
    rw [hlog, sentIn, List.filterMap_append, List.filterMap_replicate_of_none rfl]
    rfl
  have hpushed : pushedIn ((talkerQueue boot.aaf 0).run overfull).2.log =
      List.replicate 512 (constBlock 1) ++ (constBlock 2 :: pushedIn rest) := by
    have hone : Event.pushed? (.pushed (constBlock 1)) = some (constBlock 1) := rfl
    rw [hlog, pushedIn, List.filterMap_append, List.filterMap_replicate_of_some hone]
    rfl
  have horder := h.inOrder.order
  rw [hsent, hpushed, List.replicate_succ, List.cons_append, List.cons_prefix_cons] at horder
  have hsame : (2 : Int32) = 1 := congrFun horder.1 ⟨0, by decide⟩
  exact absurd hsame (by decide)

end AvbAes3.TalkerQueue
