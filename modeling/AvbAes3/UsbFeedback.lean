import AvbAes3.Lib.Machine

/-!
# The rate feedback to the host

In `usb_clk`, `usb_avb_subsystem` counts the strobes of the media clock over
256 USB frames, and corrects the rate by how far the packetizer's FIFO is
from its middle. `USBIsochronousInMemoryEndpoint` sends the value to a host
that asks for it, once in a frame.

`feedback_reported`: every strobe is counted in one window, and every packet
sent is the value of the latest window, none torn and one in a frame at most;
asked again, the endpoint sends an empty packet.
-/

namespace AvbAes3.UsbFeedback

abbrev Byte := BitVec 8

-- ---------------------------------------------------------------------------
-- The meter
-- ---------------------------------------------------------------------------

/-- `fb_strobe_sync`, `fb_strobe_edge`, `fb_level_sync` and the counters. -/
structure Meter where
  stage0 : Bool
  stage1 : Bool
  edgeIn : Bool
  edgeLast : Bool
  level0 : BitVec 8
  level1 : BitVec 8
  sofCounter : BitVec 8
  clockCounter : BitVec 20
  fbValue : BitVec 32

/-- A cycle of `usb_clk`: what the first registers sample of the strobe and
of the level, SOF, an IN token for the endpoint, and whether a byte is taken. -/
structure Cycle where
  sampleStrobe : Bool
  blockLevel : BitVec 8
  newFrame : Bool
  token : Bool
  ready : Bool

def Meter.tick (m : Meter) : Bool := m.edgeIn && !m.edgeLast

/-- A window of 256 frames ends. -/
def Meter.closes (m : Meter) (c : Cycle) : Bool := c.newFrame && decide (m.sofCounter = 0#8)

/-- `err`. -/
def Meter.err (m : Meter) : BitVec 9 := 32#9 - m.level1.setWidth 9

def Meter.next (m : Meter) (c : Cycle) : Meter where
  stage0 := c.sampleStrobe
  stage1 := m.stage0
  edgeIn := m.stage1
  edgeLast := m.edgeIn
  level0 := c.blockLevel
  level1 := m.level0
  sofCounter := if c.newFrame then m.sofCounter + 1#8 else m.sofCounter
  clockCounter :=
    if m.closes c then if m.tick then 1#20 else 0#20
    else if m.tick then m.clockCounter + 1#20 else m.clockCounter
  fbValue :=
    if m.closes c then (m.clockCounter.setWidth 32 <<< 8) + (m.err.signExtend 32 <<< 4)
    else m.fbValue

-- ---------------------------------------------------------------------------
-- The endpoint
-- ---------------------------------------------------------------------------

inductive State
  | idle
  | sendData
  | sendZlp
  deriving DecidableEq

structure Endpoint where
  fsm : State
  bytesLeftInFrame : BitVec 12
  bytesLeftInPacket : BitVec 3
  nextDataPid : BitVec 2
  address : BitVec 12
  first : Bool

/-- `bytes_in_frame` is tied to 4. -/
def bytesInFrame : BitVec 12 := 4#12

def Endpoint.takes (e : Endpoint) (c : Cycle) : Bool := decide (e.fsm = .sendData) && c.ready

/-- The byte is the last of its packet. -/
def Endpoint.ends (e : Endpoint) : Bool :=
  decide (e.bytesLeftInPacket ≤ 1#3) || decide (e.bytesLeftInFrame ≤ 1#12)

/-- A token is answered with an empty packet. -/
def Endpoint.answersEmpty (e : Endpoint) (c : Cycle) : Bool :=
  decide (e.fsm = .idle) && c.token && decide (e.bytesLeftInFrame = 0#12)

def Endpoint.next (e : Endpoint) (c : Cycle) : Endpoint where
  fsm :=
    match e.fsm with
    | .idle =>
      if c.token then if e.bytesLeftInFrame = 0#12 then .sendZlp else .sendData else .idle
    | .sendData => if c.ready && e.ends then .idle else .sendData
    | .sendZlp => .idle
  bytesLeftInFrame :=
    if e.takes c then e.bytesLeftInFrame - 1#12
    else if c.newFrame then bytesInFrame else e.bytesLeftInFrame
  bytesLeftInPacket :=
    if e.takes c then if e.ends then 4#3 else e.bytesLeftInPacket - 1#3
    else if c.newFrame then 4#3 else e.bytesLeftInPacket
  nextDataPid :=
    if e.takes c && e.ends then e.nextDataPid - 1#2
    else if c.newFrame then
      if bytesInFrame > 8#12 then 2#2 else if bytesInFrame > 4#12 then 1#2 else 0#2
    else e.nextDataPid
  address :=
    match e.fsm with
    | .idle => 0#12
    | .sendData => if c.ready then e.address + 1#12 else e.address
    | .sendZlp => e.address
  first :=
    match e.fsm with
    | .idle => c.token && decide (e.bytesLeftInFrame ≠ 0#12)
    | .sendData => if c.ready then false else e.first
    | .sendZlp => e.first

-- ---------------------------------------------------------------------------
-- Both
-- ---------------------------------------------------------------------------

structure Feedback where
  meter : Meter
  endpoint : Endpoint

def reset : Feedback where
  meter := ⟨false, false, false, false, 0#8, 0#8, 0#8, 0#20, 393216#32⟩
  endpoint := ⟨.idle, 0#12, 3#3, 0#2, 0#12, false⟩

def step (s : Feedback) (c : Cycle) : Feedback := ⟨s.meter.next c, s.endpoint.next c⟩

def feedback : Machine Feedback Cycle := ⟨reset, step⟩

/-- A byte of the value, the lowest first. -/
def valueByte (value : BitVec 32) (address : Nat) : Byte := (value >>> (address * 8)).setWidth 8

/-- `payload` of the endpoint. -/
def Feedback.payload (s : Feedback) : Byte := valueByte s.meter.fbValue s.endpoint.address.toNat

-- ---------------------------------------------------------------------------
-- What is counted and sent
-- ---------------------------------------------------------------------------

/-- A packet, with the window that was the latest then and the frame. -/
structure Packet where
  bytes : List Byte
  window : Option (Nat × BitVec 8)
  frame : Nat
  deriving DecidableEq

/-- The strobe as it was sampled; the windows, each with its strobes and the
level at its end, and the strobes since; the bytes of the packet being sent
and the packets; the frames. -/
structure Log where
  strobes : List Bool
  windows : List (Nat × BitVec 8)
  current : Nat
  sending : List Byte
  packets : List Packet
  frames : Nat

/-- The packets with a value in them. -/
def Log.values (l : Log) : List Packet := l.packets.filter fun p => !p.bytes.isEmpty

def Log.note (l : Log) (s : Feedback) (c : Cycle) : Log where
  strobes := l.strobes ++ [c.sampleStrobe]
  windows := if s.meter.closes c then l.windows ++ [(l.current, s.meter.level1)] else l.windows
  current := (if s.meter.closes c then 0 else l.current) + s.meter.tick.toNat
  sending :=
    if s.endpoint.takes c && !s.endpoint.ends then l.sending ++ [s.payload]
    else if s.endpoint.takes c then [] else l.sending
  packets :=
    if s.endpoint.takes c && s.endpoint.ends then
      l.packets ++ [⟨l.sending ++ [s.payload], l.windows.getLast?, l.frames⟩]
    else if s.endpoint.answersEmpty c then l.packets ++ [⟨[], l.windows.getLast?, l.frames⟩]
    else l.packets
  frames := l.frames + c.newFrame.toNat

def logged : Machine (Feedback × Log) Cycle := feedback.withHistory ⟨[], [], 0, [], [], 0⟩ Log.note

/-- How often a signal rises. -/
def rises : Bool → List Bool → Nat
  | _, [] => 0
  | last, s :: rest => (s && !last).toNat + rises s rest

/-- 2^16 samples in a frame are one, over 256 frames, with the correction of
the level; before the first window, six samples in a frame. -/
def rateOf : Option (Nat × BitVec 8) → BitVec 32
  | none => 393216#32
  | some (strobes, level) =>
    BitVec.ofInt 32 (256 * ↑(strobes % 1048576) + 16 * (32 - ↑level.toNat))

def packetOf (window : Option (Nat × BitVec 8)) : List Byte :=
  (List.range 4).map (valueByte (rateOf window))

structure Reported (s : Feedback × Log) : Prop where
  counted : (s.2.windows.map Prod.fst).sum + s.2.current =
    rises false (s.2.strobes.take (s.2.strobes.length - 3))
  windows : s.2.windows.length = (s.2.frames + 255) / 256
  value : s.1.meter.fbValue = rateOf s.2.windows.getLast?
  whole : ∀ p ∈ s.2.values, p.bytes = packetOf p.window
  once : s.2.values.Pairwise fun p q => p.frame < q.frame
  frames : ∀ p ∈ s.2.values, 0 < p.frame ∧ p.frame ≤ s.2.frames
  empty : ∀ p ∈ s.2.packets, p.bytes = [] → p.frame = 0 ∨ ∃ q ∈ s.2.values, q.frame = p.frame

/-- No frame begins while the device sends. -/
def Apart (s : Feedback × Log) (c : Cycle) : Prop :=
  c.newFrame = true → s.1.endpoint.fsm ≠ .sendData

instance (s : Feedback × Log) (c : Cycle) : Decidable (Apart s c) :=
  inferInstanceAs (Decidable (_ = _ → _ ≠ _))

-- ---------------------------------------------------------------------------
-- The strobes
-- ---------------------------------------------------------------------------

theorem rises_concat (last : Bool) (signal : List Bool) (s : Bool) :
    rises last (signal ++ [s]) =
      rises last signal + (s && !(signal.getLast?.getD last)).toNat := by
  induction signal generalizing last with
  | nil => simp [rises]
  | cons first rest ih =>
    rw [List.cons_append, rises, rises, ih, List.getLast?_cons, Option.getD_some, Nat.add_assoc]

theorem rises_replicate (k : Nat) (signal : List Bool) :
    rises false (List.replicate k false ++ signal) = rises false signal := by
  induction k with
  | zero => rfl
  | succ k ih =>
    rw [List.replicate_succ, List.cons_append, rises, ih]
    exact Nat.zero_add _

/-- `edges` is what `edge_in` has been: the strobe three cycles late. -/
structure Delayed (m : Meter) (strobes edges : List Bool) : Prop where
  pipeline : List.replicate 3 false ++ strobes = edges ++ [m.edgeIn, m.stage1, m.stage0]
  edgeLast : m.edgeLast = edges.getLast?.getD false

theorem Delayed.next (h : Delayed m strobes edges) (c : Cycle) :
    Delayed (m.next c) (strobes ++ [c.sampleStrobe]) (edges ++ [m.edgeIn]) where
  pipeline := by
    rw [← List.append_assoc, h.pipeline]
    simp [Meter.next]
  edgeLast := by simp [Meter.next]

theorem Delayed.tick (h : Delayed m strobes edges) :
    rises false (edges ++ [m.edgeIn]) = rises false edges + m.tick.toNat := by
  rw [rises_concat, Meter.tick, h.edgeLast]

theorem Delayed.rises (h : Delayed m strobes edges) :
    rises false edges = rises false (strobes.take (strobes.length - 3)) := by
  have hlength := congrArg List.length h.pipeline
  simp only [List.length_append, List.length_replicate, List.length_cons, List.length_nil]
    at hlength
  have hedges : edges = (List.replicate 3 false ++ strobes).take edges.length := by
    rw [h.pipeline, List.take_left]
  rw [hedges, List.take_append, List.take_replicate, rises_replicate, List.length_replicate]
  congr 2
  omega

-- ---------------------------------------------------------------------------
-- The windows
-- ---------------------------------------------------------------------------

structure Metered (m : Meter) (l : Log) : Prop where
  delayed : ∃ edges, Delayed m l.strobes edges ∧
    (l.windows.map Prod.fst).sum + l.current = rises false edges
  sofCounter : m.sofCounter = BitVec.ofNat 8 l.frames
  windows : l.windows.length = (l.frames + 255) / 256
  clockCounter : m.clockCounter = BitVec.ofNat 20 l.current
  value : m.fbValue = rateOf l.windows.getLast?

theorem strobes_scaled (strobes : Nat) :
    (BitVec.ofNat 20 strobes).setWidth 32 <<< 8 =
      BitVec.ofInt 32 (256 * ↑(strobes % 1048576)) := by
  apply BitVec.eq_of_toNat_eq
  simp [Nat.shiftLeft_eq]
  omega

theorem level_scaled (level : BitVec 8) :
    (32#9 - level.setWidth 9).signExtend 32 <<< 4 = BitVec.ofInt 32 (16 * (32 - ↑level.toNat)) := by
  revert level
  decide +kernel

theorem rate_measured (strobes : Nat) (level : BitVec 8) :
    ((BitVec.ofNat 20 strobes).setWidth 32 <<< 8) +
        ((32#9 - level.setWidth 9).signExtend 32 <<< 4) = rateOf (some (strobes, level)) := by
  rw [strobes_scaled, level_scaled, rateOf, BitVec.ofInt_add]

theorem Metered.closes (h : Metered m l) (c : Cycle) :
    m.closes c = (c.newFrame && decide (l.frames % 256 = 0)) := by
  rw [Meter.closes, h.sofCounter]
  congr 1
  simp [← BitVec.toNat_inj]

theorem Metered.next {s : Feedback} (h : Metered s.meter l) (c : Cycle) :
    Metered (s.meter.next c) (l.note s c) := by
  obtain ⟨edges, hdelayed, hsum⟩ := h.delayed
  refine ⟨⟨_, hdelayed.next c, ?_⟩, ?_, ?_, ?_, ?_⟩
  · rw [hdelayed.tick, ← hsum, Log.note]
    cases s.meter.closes c with
    | true => simp [Nat.add_assoc]
    | false => simp [Nat.add_assoc]
  · have hcounter := h.sofCounter
    rw [Log.note, Meter.next]
    cases c.newFrame <;> simp [hcounter, BitVec.ofNat_add]
  · have hwindows := h.windows
    rw [Log.note]
    simp only [h.closes]
    cases c.newFrame with
    | false => exact hwindows
    | true =>
      by_cases hframes : l.frames % 256 = 0
      · simp [hframes, hwindows]
        omega
      · simp [hframes, hwindows]
        omega
  · have hcounter := h.clockCounter
    rw [Log.note, Meter.next]
    cases s.meter.closes c <;> cases s.meter.tick <;> simp [hcounter, BitVec.ofNat_add]
  · have hvalue := h.value
    rw [Log.note, Meter.next]
    cases s.meter.closes c with
    | true =>
      simp only [if_true, List.getLast?_concat]
      rw [h.clockCounter]
      exact rate_measured ..
    | false => exact hvalue

-- ---------------------------------------------------------------------------
-- The packets
-- ---------------------------------------------------------------------------

/-- The bytes of the packet that have been taken. -/
inductive Sending (value : BitVec 32) (e : Endpoint) (bytes : List Byte) : Prop
  | sent (fsm : e.fsm ≠ .sendData) (none : bytes = []) (frame : e.bytesLeftInFrame = 0#12)
  | waiting (fsm : e.fsm ≠ .sendData) (none : bytes = [])
    (frame : e.bytesLeftInFrame = 4#12) (packet : e.bytesLeftInPacket = 4#3)
  | sending (n : Nat) (fsm : e.fsm = .sendData) (lt : n < 4)
    (taken : bytes = (List.range n).map (valueByte value)) (address : e.address = BitVec.ofNat 12 n)
    (frame : e.bytesLeftInFrame = BitVec.ofNat 12 (4 - n))
    (packet : e.bytesLeftInPacket = BitVec.ofNat 3 (4 - n))

/-- Whether the frame's packet has been sent is what `bytes_left_in_frame`
says. -/
structure Sends (e : Endpoint) (l : Log) : Prop where
  sending : Sending (rateOf l.windows.getLast?) e l.sending
  whole : ∀ p ∈ l.values, p.bytes = packetOf p.window
  once : l.values.Pairwise fun p q => p.frame < q.frame
  frames : ∀ p ∈ l.values, 0 < p.frame ∧ p.frame ≤ l.frames
  empty : ∀ p ∈ l.packets, p.bytes = [] → p.frame = 0 ∨ ∃ q ∈ l.values, q.frame = p.frame
  due : e.bytesLeftInFrame ≠ 0#12 → 0 < l.frames ∧ ∀ p ∈ l.values, p.frame < l.frames
  sent : e.bytesLeftInFrame = 0#12 → l.frames = 0 ∨ ∃ p ∈ l.values, p.frame = l.frames

/-- A cycle in which the endpoint sends nothing. -/
theorem Endpoint.next_rest {e : Endpoint} (hfsm : e.fsm ≠ .sendData) (c : Cycle) :
    (e.next c).bytesLeftInFrame = (if c.newFrame then 4#12 else e.bytesLeftInFrame) ∧
      (e.next c).bytesLeftInPacket = (if c.newFrame then 4#3 else e.bytesLeftInPacket) ∧
      ((e.next c).fsm = .sendData → e.bytesLeftInFrame ≠ 0#12 ∧ (e.next c).address = 0#12) := by
  have htakes : e.takes c = false := by simp [Endpoint.takes, hfsm]
  refine ⟨by simp [Endpoint.next, htakes, bytesInFrame], by simp [Endpoint.next, htakes], ?_⟩
  intro hsend
  cases hstate : e.fsm with
  | sendData => exact absurd hstate hfsm
  | sendZlp => simp [Endpoint.next, hstate] at hsend
  | idle =>
    simp only [Endpoint.next, hstate] at hsend ⊢
    refine ⟨?_, trivial⟩
    rintro hzero
    rw [hzero] at hsend
    cases htoken : c.token <;> simp [htoken] at hsend

theorem Endpoint.next_wait {e : Endpoint} (hfsm : e.fsm = .sendData) (hready : c.ready = false)
    (hframe : c.newFrame = false) : e.next c = e := by
  obtain ⟨fsm, left, packet, pid, address, first⟩ := e
  cases hfsm
  simp [Endpoint.next, Endpoint.takes, hready, hframe]

theorem Endpoint.ends_eq {e : Endpoint} (hlt : n < 4)
    (hframe : e.bytesLeftInFrame = BitVec.ofNat 12 (4 - n))
    (hpacket : e.bytesLeftInPacket = BitVec.ofNat 3 (4 - n)) : e.ends = decide (n = 3) := by
  rw [Endpoint.ends, hframe, hpacket]
  interval_cases n <;> rfl

theorem left_sub (w : Nat) (hlt : n < k) :
    BitVec.ofNat w (k - n) - 1#w = BitVec.ofNat w (k - (n + 1)) := by
  have hk : k - n = k - (n + 1) + 1 := by omega
  rw [hk, BitVec.ofNat_add, BitVec.add_sub_cancel]

/-- Whatever the value becomes. -/
theorem Sending.rest (h : Sending value e bytes) (hfsm : e.fsm ≠ .sendData) (c : Cycle)
    (value' : BitVec 32) : Sending value' (e.next c) bytes := by
  obtain ⟨hframe, hpacket, hsend⟩ := Endpoint.next_rest hfsm c
  have hleft : bytes = [] ∧ ((e.next c).bytesLeftInFrame = 0#12 ∧ e.bytesLeftInFrame = 0#12 ∨
      (e.next c).bytesLeftInFrame = 4#12 ∧ (e.next c).bytesLeftInPacket = 4#3) := by
    rw [hframe, hpacket]
    cases h with
    | sent _ none frame => cases c.newFrame <;> simp [none, frame]
    | waiting _ none frame packet => cases c.newFrame <;> simp [none, frame, packet]
    | sending _ fsm => exact absurd fsm hfsm
  obtain ⟨none, ⟨hzero, hwas⟩ | ⟨hfour, hfull⟩⟩ := hleft
  · refine .sent ?_ none hzero
    intro hnext
    exact (hsend hnext).1 hwas
  · by_cases hnext : (e.next c).fsm = .sendData
    · exact .sending 0 hnext (by decide) none (hsend hnext).2 hfour hfull
    · exact .waiting hnext none hfour hfull

theorem Sends.rest {s : Feedback} (h : Sends s.endpoint l) (hfsm : s.endpoint.fsm ≠ .sendData)
    (c : Cycle) : Sends (s.endpoint.next c) (l.note s c) := by
  have htakes : s.endpoint.takes c = false := by simp [Endpoint.takes, hfsm]
  have hbytes : (l.note s c).sending = l.sending := by simp [Log.note, htakes]
  have hpackets : (l.note s c).packets = if s.endpoint.answersEmpty c then
      l.packets ++ [⟨[], l.windows.getLast?, l.frames⟩] else l.packets := by
    simp [Log.note, htakes]
  have hvalues : (l.note s c).values = l.values := by
    rw [Log.values, hpackets, Log.values]
    split <;> simp
  have hframes : (l.note s c).frames = l.frames + c.newFrame.toNat := rfl
  obtain ⟨hframe, -, -⟩ := Endpoint.next_rest hfsm c
  refine ⟨hbytes ▸ h.sending.rest hfsm c _, hvalues ▸ h.whole, hvalues ▸ h.once, ?_, ?_, ?_, ?_⟩
  · rw [hvalues, hframes]
    exact fun p hp => ⟨(h.frames p hp).1, Nat.le_add_right_of_le (h.frames p hp).2⟩
  · rw [hvalues, hpackets]
    split
    · rename_i hempty
      simp only [Endpoint.answersEmpty, Bool.and_eq_true, decide_eq_true_eq] at hempty
      simp only [List.mem_append, List.mem_singleton]
      rintro p (hp | rfl)
      · exact h.empty p hp
      · exact fun _ => h.sent hempty.2
    · exact h.empty
  · rw [hframe, hvalues, hframes]
    cases c.newFrame with
    | false => exact h.due
    | true => exact fun _ => ⟨Nat.succ_pos _, fun p hp => Nat.lt_succ_of_le (h.frames p hp).2⟩
  · rw [hframe, hvalues, hframes]
    cases c.newFrame with
    | false => exact h.sent
    | true =>
      intro hzero
      cases hzero

/-- Nothing has been sent, and the frame's packet is due as before. -/
theorem Sends.kept (h : Sends e l) {e' : Endpoint} {l' : Log}
    (hsending : Sending (rateOf l'.windows.getLast?) e' l'.sending)
    (hpackets : l'.packets = l.packets) (hframes : l'.frames = l.frames)
    (hleft : e'.bytesLeftInFrame = 0#12 ↔ e.bytesLeftInFrame = 0#12) : Sends e' l' := by
  have hvalues : l'.values = l.values := by rw [Log.values, hpackets, ← Log.values]
  refine ⟨hsending, hvalues ▸ h.whole, hvalues ▸ h.once, ?_, ?_, ?_, ?_⟩
  · rw [hvalues, hframes]
    exact h.frames
  · rw [hvalues, hpackets]
    exact h.empty
  · rw [hvalues, hframes, ne_eq, hleft]
    exact h.due
  · rw [hvalues, hframes, hleft]
    exact h.sent

/-- The frame's packet has been sent. -/
theorem Sends.packet (h : Sends e l) {e' : Endpoint} {l' : Log}
    (hsending : Sending (rateOf l'.windows.getLast?) e' l'.sending)
    (hdue : e.bytesLeftInFrame ≠ 0#12)
    (hpackets : l'.packets = l.packets ++
      [⟨packetOf l.windows.getLast?, l.windows.getLast?, l.frames⟩])
    (hframes : l'.frames = l.frames) (hleft : e'.bytesLeftInFrame = 0#12) : Sends e' l' := by
  obtain ⟨hpos, hbefore⟩ := h.due hdue
  have hvalues : l'.values = l.values ++
      [⟨packetOf l.windows.getLast?, l.windows.getLast?, l.frames⟩] := by
    rw [Log.values, hpackets, List.filter_append, ← Log.values]
    rfl
  have hmem {p : Packet} (hp : p ∈ l.values) : p ∈ l'.values := by
    rw [hvalues]
    exact List.mem_append_left _ hp
  refine ⟨hsending, ?_, ?_, ?_, ?_, fun hnot => absurd hleft hnot, fun _ => .inr ?_⟩
  · simp only [hvalues, List.mem_append, List.mem_singleton]
    rintro p (hp | rfl)
    · exact h.whole p hp
    · rfl
  · rw [hvalues, List.pairwise_append]
    refine ⟨h.once, List.pairwise_singleton _ _, fun p hp q hq => ?_⟩
    rw [List.mem_singleton.mp hq]
    exact hbefore p hp
  · simp only [hvalues, hframes, List.mem_append, List.mem_singleton]
    rintro p (hp | rfl)
    · exact h.frames p hp
    · exact ⟨hpos, Nat.le_refl _⟩
  · simp only [hpackets, List.mem_append, List.mem_singleton]
    rintro p (hp | rfl) hempty
    · exact (h.empty p hp hempty).imp_right fun ⟨q, hq, hframe⟩ => ⟨q, hmem hq, hframe⟩
    · cases hempty
  · rw [hvalues, hframes]
    exact ⟨_, List.mem_append_right _ (List.mem_singleton.mpr rfl), rfl⟩

theorem Sends.send {s : Feedback} (h : Sends s.endpoint l) (hfsm : s.endpoint.fsm = .sendData)
    (hnew : c.newFrame = false) (hvalue : s.meter.fbValue = rateOf l.windows.getLast?) :
    Sends (s.endpoint.next c) (l.note s c) := by
  have hwindows : (l.note s c).windows = l.windows := by simp [Log.note, Meter.closes, hnew]
  have hframes : (l.note s c).frames = l.frames := by simp [Log.note, hnew]
  have hempty : s.endpoint.answersEmpty c = false := by simp [Endpoint.answersEmpty, hfsm]
  cases h.sending with
  | sent fsm => exact absurd hfsm fsm
  | waiting fsm => exact absurd hfsm fsm
  | sending n _ lt taken address frame packet =>
    cases hready : c.ready with
    | false =>
      have htakes : s.endpoint.takes c = false := by simp [Endpoint.takes, hready]
      rw [Endpoint.next_wait hfsm hready hnew]
      have hbytes : (l.note s c).sending = l.sending := by simp [Log.note, htakes]
      have hpackets : (l.note s c).packets = l.packets := by simp [Log.note, htakes, hempty]
      exact h.kept (by rw [hwindows, hbytes]; exact h.sending) hpackets hframes Iff.rfl
    | true =>
      have htakes : s.endpoint.takes c = true := by simp [Endpoint.takes, hfsm, hready]
      have hpayload : l.sending ++ [s.payload] =
          (List.range (n + 1)).map (valueByte (rateOf l.windows.getLast?)) := by
        rw [List.range_succ, List.map_append, taken, Feedback.payload, hvalue, address]
        simp [Nat.mod_eq_of_lt (Nat.lt_trans lt (by decide : 4 < 4096))]
      have hends := Endpoint.ends_eq lt frame packet
      by_cases hlast : n = 3
      · have hfinal : s.endpoint.ends = true := by simp [hends, hlast]
        have hzero : (s.endpoint.next c).bytesLeftInFrame = 0#12 := by
          simp [Endpoint.next, htakes, frame, hlast]
        have hpackets : (l.note s c).packets = l.packets ++
            [⟨packetOf l.windows.getLast?, l.windows.getLast?, l.frames⟩] := by
          simp [Log.note, htakes, hfinal, hpayload, hlast, packetOf]
        refine h.packet (.sent ?_ ?_ hzero) ?_ hpackets hframes hzero
        · simp [Endpoint.next, hfsm, hready, hfinal]
        · simp [Log.note, htakes, hfinal]
        · rw [frame, hlast]
          decide
      · have hmore : s.endpoint.ends = false := by simp [hends, hlast]
        have hleft : (s.endpoint.next c).bytesLeftInFrame = BitVec.ofNat 12 (4 - (n + 1)) := by
          simp [Endpoint.next, htakes, frame, left_sub 12 lt]
        have hpackets : (l.note s c).packets = l.packets := by simp [Log.note, htakes, hmore, hempty]
        refine h.kept (.sending (n + 1) ?_ (by omega) ?_ ?_ hleft ?_) hpackets hframes ?_
        · simp [Endpoint.next, hfsm, hready, hmore]
        · rw [hwindows, ← hpayload]
          simp [Log.note, htakes, hmore]
        · simp [Endpoint.next, hfsm, hready, address, BitVec.ofNat_add]
        · simp [Endpoint.next, htakes, hmore, packet, left_sub 3 lt]
        · rw [hleft, frame]
          interval_cases n <;> simp_all

theorem Sends.step {s : Feedback} (h : Sends s.endpoint l) (hapart : Apart (s, l) c)
    (hvalue : s.meter.fbValue = rateOf l.windows.getLast?) :
    Sends (s.endpoint.next c) (l.note s c) := by
  by_cases hfsm : s.endpoint.fsm = .sendData
  · refine h.send hfsm ?_ hvalue
    rw [← Bool.not_eq_true]
    intro hnew
    exact hapart hnew hfsm
  · exact h.rest hfsm c

-- ---------------------------------------------------------------------------
-- The run
-- ---------------------------------------------------------------------------

structure Sound (s : Feedback × Log) : Prop where
  metered : Metered s.1.meter s.2
  sends : Sends s.1.endpoint s.2

theorem sound_init : Sound logged.init where
  metered := ⟨⟨[], ⟨rfl, rfl⟩, rfl⟩, rfl, rfl, rfl, rfl⟩
  sends := by
    refine ⟨.sent (by decide) rfl rfl, ?_, .nil, ?_, ?_, fun hdue => absurd rfl hdue,
      fun _ => .inl rfl⟩
    all_goals
      intro p hp
      cases hp

theorem Sound.step (h : Sound s) (hapart : Apart s c) : Sound (logged.step s c) :=
  ⟨h.metered.next c, h.sends.step hapart h.metered.value⟩

theorem Sound.reported (h : Sound s) : Reported s := by
  obtain ⟨edges, hdelayed, hsum⟩ := h.metered.delayed
  refine ⟨?_, h.metered.windows, h.metered.value, h.sends.whole, h.sends.once, h.sends.frames,
    h.sends.empty⟩
  rw [hsum, hdelayed.rises]

/-- Whatever the media clock does, and whenever the host asks. -/
theorem feedback_reported {run : List Cycle} (hapart : logged.Steps Apart run) :
    Reported (logged.run run) := by
  refine Sound.reported ?_
  exact hapart.invariant (I := Sound) sound_init fun _ _ h hc => h.step hc

/-- The strobe rises twice before the first frame; then the host asks, twice. -/
def oneFrame : List Cycle :=
  [⟨true, 20#8, false, false, false⟩, ⟨false, 20#8, false, false, false⟩,
    ⟨true, 20#8, false, false, false⟩, ⟨true, 20#8, false, false, false⟩,
    ⟨true, 20#8, false, false, false⟩, ⟨true, 20#8, false, false, false⟩,
    ⟨false, 20#8, true, false, false⟩, ⟨false, 20#8, false, true, false⟩] ++
    List.replicate 5 ⟨false, 20#8, false, false, true⟩ ++ [⟨false, 20#8, false, true, false⟩]

theorem oneFrame_reported :
    (logged.run oneFrame).2.packets =
        [⟨[0xc0#8, 2#8, 0#8, 0#8], some (2, 20#8), 1⟩, ⟨[], some (2, 20#8), 1⟩] ∧
      Reported (logged.run oneFrame) :=
  ⟨by decide +kernel, feedback_reported (by decide +kernel)⟩

end AvbAes3.UsbFeedback
