import AvbAes3.MainLoop
import Mathlib.Data.List.GetD

/-!
# aaf_packetizer.py: the builder

`AAFPacketizer`'s FSM lays the bytes of a frame into `frame_ram`, one a
cycle, and then offers its words to the arbiter. A word is its four byte
lanes, byte 0 of the frame in lane 0 of word 0. Of a cycle the FSM sees
`send_req`, the TSU, the registers, `source.ready` and the half of `pay` that
`send_buf` selects.
-/

namespace AvbAes3.AafPacketizer

-- ---------------------------------------------------------------------------
-- The frame
-- ---------------------------------------------------------------------------

/-- One 32-bit sample for each channel, channel 0 in the lowest bits. -/
abbrev Block := Fin aafChannels → UInt32

/-- The low three bits. -/
def channelOf (n : Nat) : Fin aafChannels := ⟨n % aafChannels, Nat.mod_lt _ (Nat.succ_pos 7)⟩

def hdrLen : Nat := 42
def payLen : Nat := aafSamplesPerPacket * aafChannels * aafBytesPerSample
def total : Nat := hdrLen + payLen
def nWords : Nat := (total + 3) / 4
def lastIdx : Nat := nWords - 1

/-- `(1 << rem) - 1` -/
def lastBe : UInt8 := 0x3

def presOffsetReset : UInt32 := 2000000

/-- 1_000_000_000 as set-bit positions. -/
def nsPerSecBits : List Nat := [29, 28, 27, 25, 24, 23, 20, 19, 17, 15, 14, 11, 9]

def mul1e9Lo32 (x : Nat) : Nat := (nsPerSecBits.map fun s => x <<< s).sum

structure Word where
  lane0 : UInt8 := 0
  lane1 : UInt8 := 0
  lane2 : UInt8 := 0
  lane3 : UInt8 := 0
  deriving DecidableEq

def Word.bytes (w : Word) : List UInt8 := [w.lane0, w.lane1, w.lane2, w.lane3]

/-- Lanes 0..2 of the word in progress. -/
structure Wacc where
  lane0 : UInt8 := 0
  lane1 : UInt8 := 0
  lane2 : UInt8 := 0

def Wacc.bytes (w : Wacc) : List UInt8 := [w.lane0, w.lane1, w.lane2]

def Wacc.put (w : Wacc) (lane : Nat) (byte : UInt8) : Wacc :=
  match lane with
  | 0 => { w with lane0 := byte }
  | 1 => { w with lane1 := byte }
  | 2 => { w with lane2 := byte }
  | _ => w

-- ---------------------------------------------------------------------------
-- The FSM
-- ---------------------------------------------------------------------------

inductive FsmState
  | idle
  | build
  | stream
  deriving DecidableEq

structure Builder where
  fsm : FsmState := .idle
  seq : UInt8 := 0
  pres : UInt32 := 0
  frameRam : Nat → Word := fun _ => {}
  byteIdx : Nat := 0
  wacc : Wacc := {}
  rdIdx : Nat := 0
  pktCount : UInt32 := 0
  overruns : UInt32 := 0

structure Seen where
  sendReq : Bool
  tsu : PtpTimestamp
  regs : AafPktRegs
  presOffset : UInt32
  half : Nat → Block
  ready : Bool

/-- The big-endian bytes of the samples, block by block. -/
def payloadByte (half : Nat → Block) (pi : Nat) : UInt8 :=
  let n := pi / 4
  let k := pi % 4
  let sample := half (n / aafChannels) (channelOf n)
  (sample >>> ((3 - k) * 8).toUInt32).toUInt8

def Builder.curByte (b : Builder) (i : Seen) : UInt8 :=
  if b.byteIdx < hdrLen then (packetizerHeader i.regs b.seq b.pres).getD b.byteIdx 0
  else payloadByte i.half (b.byteIdx - hdrLen)

/-- `presentation_time`, the low 32 bits. -/
def presTime (tsu : PtpTimestamp) (presOffset : UInt32) : UInt32 :=
  UInt32.ofNat (mul1e9Lo32 tsu.seconds.toNat + tsu.nanoseconds.toNat + presOffset.toNat)

def Builder.build (b : Builder) (cur : UInt8) : Builder :=
  let lane := b.byteIdx % 4
  let widx := b.byteIdx / 4
  let wacc := b.wacc.put lane cur
  let frameRam :=
    if lane = 3 then
      Function.update b.frameRam widx ⟨b.wacc.lane0, b.wacc.lane1, b.wacc.lane2, cur⟩
    else b.frameRam
  if b.byteIdx = total - 1 then
    { b with
      fsm := .stream
      wacc := wacc
      frameRam := Function.update frameRam lastIdx ⟨b.wacc.lane0, cur, 0, 0⟩
      rdIdx := 0 }
  else { b with wacc := wacc, frameRam := frameRam, byteIdx := b.byteIdx + 1 }

/-- What the arbiter is offered. -/
structure Beat where
  data : Word
  last : Bool
  lastBe : UInt8
  deriving DecidableEq

def beatAt (frameRam : Nat → Word) (rdIdx : Nat) : Beat :=
  ⟨frameRam rdIdx, rdIdx == lastIdx, if rdIdx = lastIdx then lastBe else 0xF⟩

def Builder.source (b : Builder) : Option Beat :=
  if b.fsm = .stream then some (beatAt b.frameRam b.rdIdx) else none

def Builder.step (b : Builder) (i : Seen) : Builder :=
  let b' : Builder :=
    match b.fsm with
    | .idle =>
      if i.sendReq then
        { b with fsm := .build, pres := presTime i.tsu i.presOffset, byteIdx := 0 }
      else b
    | .build => b.build (b.curByte i)
    | .stream =>
      if !i.ready then b
      else if b.rdIdx = lastIdx then
        { b with fsm := .idle, pktCount := b.pktCount + 1, seq := b.seq + 1 }
      else { b with rdIdx := b.rdIdx + 1 }
  { b' with overruns := if i.sendReq ∧ b.fsm ≠ .idle then b.overruns + 1 else b.overruns }

theorem step_build {b : Builder} (h : b.fsm = .build) (i : Seen) :
    b.step i = { b.build (b.curByte i) with
      overruns := if i.sendReq then b.overruns + 1 else b.overruns } := by
  simp [Builder.step, h]

-- ---------------------------------------------------------------------------
-- The bytes laid
-- ---------------------------------------------------------------------------

/-- The first words of the RAM, byte by byte. -/
def ramBytes (frameRam : Nat → Word) (words : Nat) : List UInt8 :=
  (List.range words).flatMap fun i => (frameRam i).bytes

/-- The frame the RAM holds. -/
def frameBytes (frameRam : Nat → Word) : List UInt8 := (ramBytes frameRam nWords).take total

/-- The bytes below `byte_idx`: whole words, and lanes of the one in
progress. -/
def Builder.laid (b : Builder) : List UInt8 :=
  ramBytes b.frameRam (b.byteIdx / 4) ++ b.wacc.bytes.take (b.byteIdx % 4)

theorem ramBytes_succ (frameRam : Nat → Word) (words : Nat) :
    ramBytes frameRam (words + 1) = ramBytes frameRam words ++ (frameRam words).bytes := by
  rw [ramBytes, List.range_succ, List.flatMap_append, List.flatMap_singleton]
  rfl

theorem ramBytes_length (frameRam : Nat → Word) (words : Nat) :
    (ramBytes frameRam words).length = 4 * words := by
  induction words with
  | zero => rfl
  | succ words ih =>
    rw [ramBytes_succ, List.length_append, ih]
    rfl

theorem ramBytes_update (frameRam : Nat → Word) {words widx : Nat} (h : words ≤ widx) (w : Word) :
    ramBytes (Function.update frameRam widx w) words = ramBytes frameRam words := by
  induction words with
  | zero => rfl
  | succ words ih =>
    rw [ramBytes_succ, ramBytes_succ, ih (by omega), Function.update_of_ne (by omega)]

theorem laid_length (b : Builder) : b.laid.length = b.byteIdx := by
  have hlanes : (b.wacc.bytes.take (b.byteIdx % 4)).length = b.byteIdx % 4 := by
    rw [List.length_take]
    refine Nat.min_eq_left (?_ : b.byteIdx % 4 ≤ 3)
    omega
  rw [Builder.laid, List.length_append, ramBytes_length, hlanes]
  omega

/-- A byte is laid behind the others. -/
theorem build_laid {b : Builder} (h : b.byteIdx < total - 1) (cur : UInt8) :
    (b.build cur).byteIdx = b.byteIdx + 1 ∧ (b.build cur).fsm = b.fsm ∧
      (b.build cur).laid = b.laid ++ [cur] := by
  have hmore : b.byteIdx ≠ total - 1 := Nat.ne_of_lt h
  rw [Builder.build, if_neg hmore]
  refine ⟨rfl, rfl, ?_⟩
  rw [Builder.laid, Builder.laid]
  dsimp only
  rcases (by omega : b.byteIdx % 4 = 0 ∨ b.byteIdx % 4 = 1 ∨ b.byteIdx % 4 = 2 ∨
      b.byteIdx % 4 = 3) with hlane | hlane | hlane | hlane
  · rw [hlane, (by omega : (b.byteIdx + 1) / 4 = b.byteIdx / 4),
      (by omega : (b.byteIdx + 1) % 4 = 1), if_neg (by decide)]
    simp [Wacc.put, Wacc.bytes]
  · rw [hlane, (by omega : (b.byteIdx + 1) / 4 = b.byteIdx / 4),
      (by omega : (b.byteIdx + 1) % 4 = 2), if_neg (by decide)]
    simp [Wacc.put, Wacc.bytes]
  · rw [hlane, (by omega : (b.byteIdx + 1) / 4 = b.byteIdx / 4),
      (by omega : (b.byteIdx + 1) % 4 = 3), if_neg (by decide)]
    simp [Wacc.put, Wacc.bytes]
  · -- the word is committed
    rw [hlane, (by omega : (b.byteIdx + 1) / 4 = b.byteIdx / 4 + 1),
      (by omega : (b.byteIdx + 1) % 4 = 0), if_pos rfl, ramBytes_succ,
      ramBytes_update _ le_rfl, Function.update_self]
    simp [Word.bytes, Wacc.bytes]

/-- The last byte completes the frame in the RAM. -/
theorem build_last {b : Builder} (h : b.byteIdx = total - 1) (cur : UInt8) :
    (b.build cur).fsm = .stream ∧ (b.build cur).rdIdx = 0 ∧
      frameBytes (b.build cur).frameRam = b.laid ++ [cur] := by
  rw [Builder.build, if_pos h]
  refine ⟨rfl, rfl, ?_⟩
  have hlane : b.byteIdx % 4 = 1 := by rw [h]; rfl
  have hword : b.byteIdx / 4 = lastIdx := by rw [h]; rfl
  have hwords : nWords = lastIdx + 1 := rfl
  rw [Builder.laid, frameBytes, hwords, ramBytes_succ]
  dsimp only
  rw [hlane, hword, if_neg (by decide), ramBytes_update _ le_rfl, Function.update_self,
    List.take_append, ramBytes_length, List.take_of_length_le (by rw [ramBytes_length]; decide)]
  simp [Word.bytes, Wacc.bytes, total, lastIdx, nWords, hdrLen, payLen, aafSamplesPerPacket,
    aafChannels, aafBytesPerSample]

-- ---------------------------------------------------------------------------
-- The payload
-- ---------------------------------------------------------------------------

def blockBytes (block : Block) : List UInt8 := (List.finRange aafChannels).flatMap fun ch => be32 (block ch)

/-- The six blocks of a half, as their bytes go on the wire. -/
def payloadBytes (half : Nat → Block) : List UInt8 :=
  (List.range aafSamplesPerPacket).flatMap fun i => blockBytes (half i)

/-- Pieces of one length, one after the other. -/
theorem getD_flatMap_range {f : Nat → List UInt8} {size : Nat} (hsize : ∀ i, (f i).length = size)
    {n k : Nat} (h : k < size * n) :
    ((List.range n).flatMap f).getD k 0 = (f (k / size)).getD (k % size) 0 := by
  induction n with
  | zero => omega
  | succ n ih =>
    have hlen : ((List.range n).flatMap f).length = size * n := by
      simp [List.length_flatMap, hsize, Nat.mul_comm]
    rw [List.range_succ, List.flatMap_append, List.flatMap_singleton]
    by_cases hlast : k < size * n
    · rw [List.getD_append _ _ _ _ (by rw [hlen]; exact hlast), ih hlast]
    · have hpos : 0 < size := by
        refine Nat.pos_of_ne_zero fun hz => ?_
        rw [hz] at h
        omega
      have hdiv : k / size = n := by
        refine Nat.div_eq_of_lt_le ?_ ?_
        · rw [Nat.mul_comm]; omega
        · rw [Nat.mul_comm]; exact h
      have hmod : k - size * n = k % size := by rw [← hdiv, Nat.mod_def]
      rw [List.getD_append_right _ _ _ _ (by rw [hlen]; omega), hlen, hdiv, hmod]

theorem blockBytes_eq (block : Block) :
    blockBytes block = (List.range aafChannels).flatMap fun n => be32 (block (channelOf n)) := rfl

theorem blockBytes_length (block : Block) : (blockBytes block).length = 32 := by
  simp [blockBytes, be32, aafChannels]

theorem payloadBytes_length (half : Nat → Block) : (payloadBytes half).length = payLen := by
  simp [payloadBytes, blockBytes_length, payLen, List.length_flatMap, aafSamplesPerPacket,
    aafChannels, aafBytesPerSample]

theorem getD_be32 (v : UInt32) {k : Nat} (h : k < 4) :
    (be32 v).getD k 0 = (v >>> ((3 - k) * 8).toUInt32).toUInt8 := by
  interval_cases k
  · rfl
  · rfl
  · rfl
  · simp [be32]

theorem payloadByte_eq (half : Nat → Block) {pi : Nat} (h : pi < payLen) :
    payloadByte half pi = (payloadBytes half).getD pi 0 := by
  have hbyte : pi % 32 < 4 * aafChannels := Nat.mod_lt _ (by decide)
  have hblock : pi / 32 = pi / 4 / aafChannels := by
    rw [aafChannels]
    omega
  have hk : pi % 32 % 4 = pi % 4 := by omega
  have hch : channelOf (pi % 32 / 4) = channelOf (pi / 4) := by
    rw [channelOf, channelOf, Fin.mk.injEq, aafChannels]
    omega
  rw [payloadBytes, getD_flatMap_range (fun i => blockBytes_length (half i)) h, blockBytes_eq,
    getD_flatMap_range (f := fun n => be32 (half (pi / 32) (channelOf n))) (fun _ => rfl) hbyte,
    getD_be32 _ (Nat.mod_lt _ (by decide)), hblock, hk, hch, payloadByte]

theorem packetizerHeader_length (regs : AafPktRegs) (seq : UInt8) (pres : UInt32) :
    (packetizerHeader regs seq pres).length = hdrLen := by
  simp [packetizerHeader, regMac, regStreamId, be16, be32, hdrLen]

/-- The byte of the cycle is the frame's. -/
theorem curByte_eq {b : Builder} (h : b.byteIdx < total) (i : Seen) :
    b.curByte i =
      (packetizerHeader i.regs b.seq b.pres ++ payloadBytes i.half).getD b.byteIdx 0 := by
  have hlen := packetizerHeader_length i.regs b.seq b.pres
  rw [Builder.curByte]
  by_cases hhdr : b.byteIdx < hdrLen
  · rw [if_pos hhdr, List.getD_append _ _ _ _ (by rw [hlen]; exact hhdr)]
  · rw [if_neg hhdr, List.getD_append_right _ _ _ _ (by rw [hlen]; omega), hlen]
    refine payloadByte_eq _ ?_
    rw [total] at h
    omega

-- ---------------------------------------------------------------------------
-- Steps
-- ---------------------------------------------------------------------------

/-- What the FSM can do in a cycle. -/
inductive Moves (b : Builder) (i : Seen) (b' : Builder) : Prop
  | wait (idle : b.fsm = .idle) (req : i.sendReq = false) (same : b'.fsm = .idle)
  | start (idle : b.fsm = .idle) (req : i.sendReq = true) (fsm : b'.fsm = .build)
      (byteIdx : b'.byteIdx = 0)
  | lay (build : b.fsm = .build) (more : b.byteIdx ≠ total - 1) (fsm : b'.fsm = .build)
      (byteIdx : b'.byteIdx = b.byteIdx + 1)
      (laid : b.byteIdx < total → b'.laid = b.laid ++ [b.curByte i])
  | last (build : b.fsm = .build) (idx : b.byteIdx = total - 1) (fsm : b'.fsm = .stream)
      (rdIdx : b'.rdIdx = 0) (frame : frameBytes b'.frameRam = b.laid ++ [b.curByte i])
  | stall (stream : b.fsm = .stream) (ready : i.ready = false) (fsm : b'.fsm = .stream)
      (rdIdx : b'.rdIdx = b.rdIdx) (frame : b'.frameRam = b.frameRam)
  | beat (stream : b.fsm = .stream) (ready : i.ready = true) (more : b.rdIdx ≠ lastIdx)
      (fsm : b'.fsm = .stream) (rdIdx : b'.rdIdx = b.rdIdx + 1) (frame : b'.frameRam = b.frameRam)
  | done (stream : b.fsm = .stream) (ready : i.ready = true) (last : b.rdIdx = lastIdx)
      (fsm : b'.fsm = .idle)

theorem Builder.step_moves (b : Builder) (i : Seen) : Moves b i (b.step i) := by
  cases hfsm : b.fsm with
  | idle =>
    cases hreq : i.sendReq with
    | false => exact .wait hfsm hreq (by simp [Builder.step, hfsm, hreq])
    | true =>
      exact .start hfsm hreq (by simp [Builder.step, hfsm, hreq])
        (by simp [Builder.step, hfsm, hreq])
  | build =>
    by_cases hlast : b.byteIdx = total - 1
    · obtain ⟨hstream, hrd, hframe⟩ := build_last hlast (b.curByte i)
      refine .last hfsm hlast ?_ ?_ ?_
      all_goals rw [step_build hfsm]
      · exact hstream
      · exact hrd
      · exact hframe
    · have hidx : (b.build (b.curByte i)).fsm = b.fsm ∧
          (b.build (b.curByte i)).byteIdx = b.byteIdx + 1 := by
        rw [Builder.build, if_neg hlast]
        exact ⟨rfl, rfl⟩
      refine .lay hfsm hlast ?_ ?_ fun hlt => ?_
      all_goals rw [step_build hfsm]
      · exact hidx.1.trans hfsm
      · exact hidx.2
      · exact (build_laid (by omega) (b.curByte i)).2.2
  | stream =>
    cases hready : i.ready with
    | false =>
      refine .stall hfsm hready ?_ ?_ ?_ <;> simp [Builder.step, hfsm, hready]
    | true =>
      by_cases hlast : b.rdIdx = lastIdx
      · exact .done hfsm hready hlast (by simp [Builder.step, hfsm, hready, hlast])
      · refine .beat hfsm hready hlast ?_ ?_ ?_ <;> simp [Builder.step, hfsm, hready, hlast]

end AvbAes3.AafPacketizer
