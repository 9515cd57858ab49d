import AvbAes3.UlpiBus

/-!
# The packets of ulpi_wrapper

The device hands a packet over byte by byte while TXVALID is up, the wrapper
ends it on the bus when its buffer has run empty. In a run in which the PHY
leaves the wrapper the bus while it sends, and the device waits with the next
packet until it has sent, the PHY sees the packets of the device.

`packets_delivered`: in order, none torn and none merged with another.
-/

namespace AvbAes3.UlpiWrapper

-- ---------------------------------------------------------------------------
-- Packets
-- ---------------------------------------------------------------------------

/-- A packet as it is on the bus: the PID is in the command. -/
def coded : List Byte → List Byte
  | [] => []
  | pid :: rest => transmitCmd pid :: rest

/-- A history beside the wrapper: the PHY and what it has seen, the packets
handed over before, the bytes of the one after, and TXVALID. -/
structure Watch where
  phy : Phy
  seen : List Seen
  handed : List (List Byte)
  current : List Byte
  txvalid : Bool

def nonempty (packet : List Byte) : List (List Byte) := if packet = [] then [] else [packet]

/-- What the device has handed over. -/
def Watch.packets (w : Watch) : List (List Byte) := w.handed ++ nonempty w.current

def Seen.packet? : Seen → Option (List Byte)
  | .packet bytes => some bytes
  | .write .. => none

def Watch.seenPackets (w : Watch) : List (List Byte) := w.seen.filterMap Seen.packet?

/-- TXVALID goes up. -/
def begins (w : Watch) (c : Cycle) : Bool := c.txvalid && !w.txvalid

def note (w : Watch) (s : Wrapper) (c : Cycle) : Watch where
  phy := w.phy.next s c
  seen := w.seen ++ (w.phy.seen s c).toList
  handed := if begins w c then w.packets else w.handed
  current := (if begins w c then [] else w.current) ++ (accepted s c).toList
  txvalid := c.txvalid

def watched : Machine (Wrapper × Watch) Cycle :=
  ulpiWrapper.withHistory ⟨.idle, [], [], [], false⟩ note

-- ---------------------------------------------------------------------------
-- What the PHY and the device do
-- ---------------------------------------------------------------------------

/-- A byte comes, waits or is being sent. -/
def Busy (s : Wrapper) (c : Cycle) : Prop :=
  (accepted s c).isSome ∨ s.tx.waiting ≠ [] ∨ s.link.state = .data

instance (s : Wrapper) (c : Cycle) : Decidable (Busy s c) := inferInstanceAs (Decidable (_ ∨ _ ∨ _))

/-- The PHY does not receive while the wrapper is busy. -/
def Undisturbed (s : Wrapper) (c : Cycle) : Prop :=
  Busy s c → c.dir = false ∧ s.link.rxactive = false

instance (s : Wrapper) (c : Cycle) : Decidable (Undisturbed s c) :=
  inferInstanceAs (Decidable (_ → _ ∧ _))

/-- The device begins with a packet when the one before has been sent. -/
def Apart (s : Wrapper × Watch) (c : Cycle) : Prop :=
  begins s.2 c → s.1.tx.waiting = [] ∧ s.1.link.state ≠ .data

instance (s : Wrapper × Watch) (c : Cycle) : Decidable (Apart s c) :=
  inferInstanceAs (Decidable (_ → _ ∧ _))

/-- The PHY has seen the packets that were handed over, the last perhaps not
yet. -/
structure Delivered (s : Wrapper × Watch) : Prop where
  order : ∃ unsent, s.2.seenPackets ++ unsent = s.2.packets.map coded ∧ unsent.length ≤ 1
  all : s.1.tx.waiting = [] → s.1.link.state ≠ .data → s.1.link.ulpiStp = false →
    s.2.seenPackets = s.2.packets.map coded

-- ---------------------------------------------------------------------------
-- Where the latest packet is
-- ---------------------------------------------------------------------------

def Phy.InPacket : Phy → Prop
  | .packet _ => True
  | _ => False

/-- What has become of the latest packet, while `bytes` wait. -/
inductive Progress (l : Link) (w : Watch) (bytes : List Byte) : Prop
  | resting (state : l.state ≠ .data) (phy : ¬ w.phy.InPacket) (empty : bytes = [])
    (seen : w.seenPackets = w.packets.map coded)
  | waiting (state : l.state ≠ .data) (phy : ¬ w.phy.InPacket) (nonempty : w.current ≠ [])
    (held : bytes = w.current) (seen : w.seenPackets = w.handed.map coded)
  | starting (state : l.state = .data) (phy : w.phy = .idle) (nonempty : w.current ≠ [])
    (rest : coded w.current = l.ulpiData :: bytes) (seen : w.seenPackets = w.handed.map coded)
  | sending {sent : List Byte} (state : l.state = .data) (phy : w.phy = .packet sent)
    (nonempty : w.current ≠ []) (rest : coded w.current = sent ++ l.ulpiData :: bytes)
    (seen : w.seenPackets = w.handed.map coded)
  | stopping (state : l.state ≠ .data) (phy : w.phy = .packet (coded w.current))
    (nonempty : w.current ≠ []) (empty : bytes = [])
    (seen : w.seenPackets = w.handed.map coded)

structure Sound (s : Wrapper) (w : Watch) (bytes : List Byte) : Prop where
  aligned : Aligned s.dir s.link w.phy
  holds : s.tx.Holds bytes
  quiet : bytes ≠ [] ∨ s.link.state = .data → s.txDelay = 0#3 ∧ s.link.rxactive = false
  owned : s.link.state = .data → s.dir = false
  continuing : w.txvalid = true → bytes ≠ [] ∨ s.link.state ≠ .data ∧ w.current = []
  progress : Progress s.link w bytes

theorem coded_append {packet : List Byte} (h : packet ≠ []) (more : List Byte) :
    coded (packet ++ more) = coded packet ++ more := by
  cases packet with
  | nil => exact absurd rfl h
  | cons pid rest => rfl

theorem nonempty_of_ne {packet : List Byte} (h : packet ≠ []) : nonempty packet = [packet] :=
  if_neg h

theorem Sound.delivered {s : Wrapper} {w : Watch} {bytes : List Byte} (h : Sound s w bytes) :
    Delivered (s, w) := by
  have hwaiting := h.holds.waiting
  have hpending (hne : w.current ≠ []) (hseen : w.seenPackets = w.handed.map coded) :
      ∃ unsent, w.seenPackets ++ unsent = w.packets.map coded ∧ unsent.length ≤ 1 := by
    refine ⟨[coded w.current], ?_, Nat.le_refl 1⟩
    rw [hseen, Watch.packets, nonempty_of_ne hne, List.map_append]
    rfl
  cases h.progress with
  | resting state phy empty seen =>
    exact ⟨⟨[], by simpa using seen, Nat.zero_le 1⟩, fun _ _ _ => seen⟩
  | waiting state phy nonempty held seen =>
    exact ⟨hpending nonempty seen,
      fun hempty => absurd (held.symm.trans (hwaiting.symm.trans hempty)) nonempty⟩
  | starting state phy nonempty rest seen =>
    exact ⟨hpending nonempty seen, fun _ hstate => absurd state hstate⟩
  | sending state phy nonempty rest seen =>
    exact ⟨hpending nonempty seen, fun _ hstate => absurd state hstate⟩
  | stopping state phy nonempty empty seen =>
    refine ⟨hpending nonempty seen, fun _ _ hstp => ?_⟩
    have haligned := h.aligned
    rw [phy] at haligned
    cases haligned with
    | stop state data stp => exact absurd (hstp.symm.trans stp) Bool.false_ne_true
    | sending state' stp => exact absurd state' state

-- ---------------------------------------------------------------------------
-- A cycle
-- ---------------------------------------------------------------------------

section Cycle

variable {s : Wrapper} {w : Watch} {c : Cycle} {bytes : List Byte}

theorem accepted_txvalid (h : (accepted s c).isSome) : c.txvalid = true ∧ s.txDelay = 0#3 := by
  simp only [accepted, txready] at h
  grind

/-- From another state the link begins with a packet, or takes no byte. -/
theorem nextLink_starts (h : s.link.state ≠ .data) :
    ((nextLink s c).state = .data ∧ txAccept s c = true ∧ s.tx.ready = true ∧
        (nextLink s c).ulpiData = transmitCmd s.tx.data) ∨
      (nextLink s c).state ≠ .data ∧ (s.tx.ready = true → txAccept s c = false) := by
  have haccept : txAccept s c = (decide (s.link.state = .idle) &&
      !(s.mode.update || s.otg.update || turnaround s c) && !c.dir) := by
    rw [txAccept, decide_eq_false h, Bool.false_and, Bool.false_and, Bool.or_false]
  rw [haccept]
  cases howns : linkOwns s c with
  | false =>
    refine .inr ⟨?_, fun _ => ?_⟩
    · obtain ⟨hstate, -, -⟩ | ⟨-, hstate, -⟩ := (nextLink_suspended howns).kept
      · rwa [hstate]
      · rw [hstate]
        decide
    · simp only [linkOwns] at howns
      simp only [turnaround]
      grind
  | true =>
    have hturn : turnaround s c = false ∧ c.dir = false := by
      simp only [linkOwns] at howns
      simp only [turnaround]
      grind
    rw [nextLink_owned howns, hturn.1, hturn.2]
    cases hstate : s.link.state with
    | idle =>
      rw [output_idle (l := s.link.cleared) hstate]
      cases s.mode.update <;> cases s.otg.update <;> cases s.tx.ready <;>
        simp [Link.cleared, hstate]
    | cmd =>
      rw [output_cmd (l := s.link.cleared) hstate]
      cases c.nxt <;> simp [Link.cleared, hstate]
    | reg =>
      rw [output_reg (l := s.link.cleared) hstate]
      cases c.nxt <;> simp [Link.cleared, hstate]
    | data => exact absurd hstate h

/-- While it sends, the link goes on with the next byte at NXT, or stops. -/
theorem nextLink_sends (h : s.link.state = .data) (howns : linkOwns s c = true) :
    txAccept s c = c.nxt ∧
      nextLink s c =
        if c.nxt then
          if s.tx.ready then { s.link.cleared with ulpiData := s.tx.data }
          else { s.link.cleared with state := .idle, ulpiData := 0#8, ulpiStp := true }
        else s.link.cleared := by
  have hdir : c.dir = false := by
    simp only [linkOwns] at howns
    grind
  refine ⟨?_, ?_⟩
  · simp [txAccept, h, hdir]
  · rw [nextLink_owned howns, output_data (l := s.link.cleared) h]

theorem output_rxactive (l : Link) (s : Wrapper) (nxt : Bool) :
    (l.output s nxt).rxactive = l.rxactive := by
  unfold Link.output
  split_ifs <;> rfl

theorem abortWrite_rxactive (l : Link) : l.abortWrite.rxactive = l.rxactive := by
  unfold Link.abortWrite
  split <;> rfl

/-- The wrapper does not begin to receive on its own. -/
theorem nextLink_rxactive (hdir : c.dir = false) (h : s.link.rxactive = false) :
    (nextLink s c).rxactive = false := by
  unfold nextLink
  dsimp only
  simp only [hdir, Bool.false_eq_true, false_and, and_false, not_false_eq_true, and_true, if_false]
  split
  · exact abortWrite_rxactive _
  · exact (output_rxactive ..).trans h

theorem nextTxDelay_zero (hactive : s.link.rxactive = false) (h : s.txDelay = 0#3) :
    nextTxDelay s = 0#3 := by
  simp [nextTxDelay, hactive, h]

/-- While the link sends, the PHY is in a packet unless it has just begun. -/
theorem Aligned.starts {dir : Bool} {l : Link} {p : Phy} (h : Aligned dir l p)
    (hstate : l.state = .data) (hphy : ¬ p.InPacket) : p = .idle := by
  cases h with
  | start state data => rfl
  | stop state data stp => exact absurd trivial hphy
  | sending state stp => exact absurd trivial hphy
  | reg state owned data => simp_all
  | _ => rfl

/-- The PHY is in a packet only after the link has begun with one. -/
theorem Phy.next_inPacket (h : Aligned s.dir s.link w.phy) (hstate : s.link.state ≠ .data)
    (hphy : ¬ w.phy.InPacket) : ¬ (w.phy.next s c).InPacket := by
  generalize w.phy = p at h hphy
  cases h with
  | idle state data =>
    have hidle : Phy.next s c .idle = .idle := by simp [Phy.next, data, command_zero]
    rw [hidle]
    exact id
  | stop state data stp => exact absurd trivial hphy
  | cmd state data =>
    simp only [Phy.next, data, command_register]
    split <;> exact id
  | reg state owned data =>
    simp only [Phy.next]
    split <;> exact id
  | interrupted state busy =>
    have howns : taken s c = false := by simp [taken, linkOwns, busy]
    simp only [Phy.next, howns, if_neg Bool.false_ne_true]
    exact id
  | start state data => exact absurd state hstate
  | sending state stp => exact absurd state hstate

theorem note_packets (w : Watch) (s : Wrapper) (c : Cycle) :
    (note w s c).seenPackets = w.seenPackets ++ ((w.phy.seen s c).bind Seen.packet?).toList := by
  rw [Watch.seenPackets, note, List.filterMap_append, Watch.seenPackets]
  congr 1
  cases w.phy.seen s c with
  | none => rfl
  | some event => cases event <;> rfl

/-- The PHY sees no packet end in this cycle. -/
theorem note_seen (h : (w.phy.seen s c).bind Seen.packet? = none) :
    (note w s c).seenPackets = w.seenPackets := by
  rw [note_packets, h, Option.toList_none, List.append_nil]

theorem Phy.seen_inPacket {p : Phy} (h : ¬ p.InPacket) : (p.seen s c).bind Seen.packet? = none := by
  cases p with
  | idle => rfl
  | packet bytes => exact absurd trivial h
  | write address =>
    rw [Phy.seen]
    split <;> rfl

end Cycle

-- ---------------------------------------------------------------------------
-- Steps
-- ---------------------------------------------------------------------------

section Step

variable {s : Wrapper} {w : Watch} {c : Cycle} {bytes : List Byte}

theorem Sound.ready (h : Sound s w bytes) : s.tx.ready = !bytes.isEmpty := h.holds.ready

/-- What waits or is sent after a cycle was there, or has come in it. -/
theorem Sound.busy (h : Sound s w bytes)
    (hafter : nextBytes s c bytes ≠ [] ∨ (nextLink s c).state = .data) : Busy s c := by
  rw [Busy, h.holds.waiting]
  by_contra hidle
  obtain ⟨hnone, hempty, hstate⟩ : accepted s c = none ∧ bytes = [] ∧ s.link.state ≠ .data := by
    simpa [not_or] using hidle
  rcases hafter with hafter | hafter
  · rw [nextBytes_eq h.holds, hnone, hempty] at hafter
    simp at hafter
  · rcases nextLink_starts (c := c) hstate with ⟨-, -, hready, -⟩ | ⟨hnext, -⟩
    · rw [h.ready, hempty] at hready
      exact absurd hready (by decide)
    · exact hnext hafter

/-- The device does not fall behind: bytes wait, or nothing has begun. -/
theorem Sound.continues (h : Sound s w bytes) (hvalid : c.txvalid = true) :
    nextBytes s c bytes ≠ [] ∨ (nextLink s c).state ≠ .data ∧ (note w s c).current = [] := by
  rw [nextBytes_eq h.holds]
  cases haccepted : accepted s c with
  | some byte => exact .inl (by simp)
  | none =>
    have hready : txready s = false := by
      rw [accepted, hvalid, Bool.true_and] at haccepted
      grind
    rcases Nat.lt_or_ge bytes.length 2 with hroom | hfull
    · -- there is room, so that the wrapper waits after receiving
      have hdelay : s.txDelay ≠ 0#3 := by
        intro hzero
        rw [txready, h.holds.room, hzero] at hready
        grind
      have hidle : bytes = [] ∧ s.link.state ≠ .data := by
        refine ⟨?_, fun hstate => hdelay (h.quiet (.inr hstate)).1⟩
        by_contra hne
        exact hdelay (h.quiet (.inl hne)).1
      refine .inr ⟨?_, ?_⟩
      · rcases nextLink_starts (c := c) hidle.2 with ⟨-, -, hready, -⟩ | ⟨hnext, -⟩
        · rw [h.ready, hidle.1] at hready
          exact absurd hready (by decide)
        · exact hnext
      · rw [note, haccepted, Option.toList_none, List.append_nil]
        cases hbefore : w.txvalid with
        | false => simp [begins, hvalid, hbefore]
        | true =>
          obtain hne | ⟨-, hcurrent⟩ := h.continuing hbefore
          · exact absurd hidle.1 hne
          · simp [begins, hbefore, hcurrent]
    · refine .inl ?_
      rcases bytes with - | ⟨first, - | ⟨second, rest⟩⟩
      · simp at hfull
      · simp at hfull
      · cases txAccept s c <;> simp

/-- Nothing waits and nothing is on the bus: the next packet may begin. -/
theorem Sound.rests (h : Sound s w bytes) (hstate : s.link.state ≠ .data) (hempty : bytes = [])
    (hphy : ¬ (w.phy.next s c).InPacket)
    (hseen : (note w s c).seenPackets = w.packets.map coded) :
    Progress (nextLink s c) (note w s c) (nextBytes s c bytes) := by
  have hnext : (nextLink s c).state ≠ .data := by
    rcases nextLink_starts (c := c) hstate with ⟨-, -, hready, -⟩ | ⟨hnext, -⟩
    · rw [h.ready, hempty] at hready
      exact absurd hready (by decide)
    · exact hnext
  have hbytes : nextBytes s c bytes = (accepted s c).toList := by
    rw [nextBytes_eq h.holds, hempty]
    simp
  -- the latest packet counts as handed over, or there is none
  have hpackets : (note w s c).handed = w.packets ∧ (note w s c).current = (accepted s c).toList ∨
      accepted s c = none ∧ (note w s c).packets = w.packets := by
    cases hbegins : begins w c with
    | true => exact .inl (by simp [note, hbegins])
    | false =>
      cases haccepted : accepted s c with
      | none => exact .inr ⟨rfl, by simp [note, Watch.packets, hbegins, haccepted]⟩
      | some byte =>
        have hvalid := (accepted_txvalid (s := s) (c := c) (by rw [haccepted]; rfl)).1
        have hbefore : w.txvalid = true := by simpa [begins, hvalid] using hbegins
        obtain hne | ⟨-, hcurrent⟩ := h.continuing hbefore
        · exact absurd hempty hne
        · exact .inl (by simp [note, Watch.packets, hbegins, hcurrent, haccepted, nonempty])
  rw [hbytes]
  rcases hpackets with ⟨hhanded, hcurrent⟩ | ⟨hnone, hpackets⟩
  · cases haccepted : accepted s c with
    | none =>
      rw [haccepted] at hcurrent
      refine .resting hnext hphy rfl ?_
      rw [hseen]
      conv_rhs => rw [Watch.packets, hhanded, hcurrent]
      simp [nonempty]
    | some byte =>
      rw [haccepted] at hcurrent
      refine .waiting hnext hphy ?_ hcurrent.symm ?_
      · rw [hcurrent]
        simp
      · rw [hseen, hhanded]
  · rw [hnone]
    exact .resting hnext hphy rfl (by rw [hseen, hpackets])

/-- A packet that is being handed over or sent goes on. -/
theorem Sound.goesOn (h : Sound s w bytes) (hapart : Apart (s, w) c)
    (hbusy : bytes ≠ [] ∨ s.link.state = .data) :
    (note w s c).handed = w.handed ∧
      (note w s c).current = w.current ++ (accepted s c).toList := by
  have hgoes : begins w c = false := by
    by_contra hbegins
    obtain ⟨hempty, hstate⟩ := hapart (Bool.not_eq_false _ ▸ hbegins)
    rw [h.holds.waiting] at hempty
    exact hbusy.elim (absurd hempty) (absurd · hstate)
  constructor <;> simp [note, hgoes]

/-- The device has no byte for a packet that has run dry. -/
theorem Sound.dry (h : Sound s w bytes) (hapart : Apart (s, w) c) (hstate : s.link.state = .data)
    (hempty : bytes = []) : accepted s c = none := by
  by_contra hsome
  have hvalid := (accepted_txvalid (Option.isSome_iff_ne_none.mpr hsome)).1
  cases hbefore : w.txvalid with
  | false => exact (hapart (by simp [begins, hvalid, hbefore])).2 hstate
  | true =>
    obtain hne | ⟨hother, -⟩ := h.continuing hbefore
    · exact hne hempty
    · exact hother hstate

/-- The link owns the bus while it sends. -/
theorem Sound.owns (h : Sound s w bytes) (hundisturbed : Undisturbed s c)
    (hstate : s.link.state = .data) : linkOwns s c = true := by
  rw [linkOwns, h.owned hstate, (hundisturbed (.inr (.inr hstate))).1]
  rfl

/-- The PHY takes the byte on the bus: the next one follows, or the packet
ends. -/
theorem Sound.sends (h : Sound s w bytes) (hundisturbed : Undisturbed s c)
    (hapart : Apart (s, w) c) (hstate : s.link.state = .data) (hnxt : c.nxt = true)
    {sent : List Byte} (hrest : coded w.current = sent ++ s.link.ulpiData :: bytes)
    (hnonempty : w.current ≠ []) (hphy : w.phy.next s c = .packet (sent ++ [s.link.ulpiData]))
    (hseen : (note w s c).seenPackets = w.handed.map coded) :
    Progress (nextLink s c) (note w s c) (nextBytes s c bytes) := by
  obtain ⟨hhanded, hcurrent⟩ := h.goesOn hapart (.inr hstate)
  obtain ⟨haccept, hlink⟩ := nextLink_sends hstate (h.owns hundisturbed hstate)
  have hne : (note w s c).current ≠ [] := by simp [hcurrent, hnonempty]
  have hcoded : coded (note w s c).current =
      sent ++ s.link.ulpiData :: bytes ++ (accepted s c).toList := by
    rw [hcurrent, coded_append hnonempty, hrest]
  rw [nextBytes_eq h.holds, haccept, hlink, hnxt, if_pos rfl, if_pos rfl, h.ready]
  cases hbytes : bytes with
  | nil =>
    have hdry := h.dry hapart hstate hbytes
    rw [hdry]
    refine .stopping (fun hdata => by cases hdata) (hphy.trans ?_) hne rfl (hhanded ▸ hseen)
    rw [hcoded, hbytes, hdry, Option.toList_none, List.append_nil]
  | cons byte rest =>
    refine .sending hstate hphy hne ?_ (hhanded ▸ hseen)
    rw [hcoded, hbytes, (hbytes ▸ h.holds : s.tx.Holds (byte :: rest)).data]
    simp

/-- Without NXT only the buffer moves. -/
theorem Sound.stalls (h : Sound s w bytes) (hundisturbed : Undisturbed s c)
    (hapart : Apart (s, w) c) (hstate : s.link.state = .data) (hnxt : c.nxt = false)
    {sent : List Byte} (hrest : coded w.current = sent ++ s.link.ulpiData :: bytes)
    (hnonempty : w.current ≠ []) :
    (nextLink s c).state = .data ∧ (note w s c).current ≠ [] ∧
      coded (note w s c).current =
        sent ++ (nextLink s c).ulpiData :: nextBytes s c bytes := by
  obtain ⟨-, hcurrent⟩ := h.goesOn hapart (.inr hstate)
  obtain ⟨haccept, hlink⟩ := nextLink_sends hstate (h.owns hundisturbed hstate)
  rw [nextBytes_eq h.holds, haccept, hlink, hnxt, if_neg Bool.false_ne_true,
    if_neg Bool.false_ne_true, hcurrent, coded_append hnonempty, hrest]
  exact ⟨hstate, by simp [hnonempty], List.append_assoc ..⟩

theorem Sound.progress_next (h : Sound s w bytes) (hundisturbed : Undisturbed s c)
    (hapart : Apart (s, w) c) :
    Progress (nextLink s c) (note w s c) (nextBytes s c bytes) := by
  have haligned := h.aligned
  cases h.progress with
  | resting state phy empty seen =>
    refine h.rests state empty (Phy.next_inPacket haligned state phy) ?_
    rw [note_seen (Phy.seen_inPacket phy), seen]
  | waiting state phy nonempty held seen =>
    obtain ⟨hhanded, hcurrent⟩ := h.goesOn hapart (.inl (held ▸ nonempty))
    have hphy := Phy.next_inPacket (c := c) haligned state phy
    have hseen : (note w s c).seenPackets = (note w s c).handed.map coded := by
      rw [note_seen (Phy.seen_inPacket phy), seen, hhanded]
    have hne : (note w s c).current ≠ [] := by simp [hcurrent, nonempty]
    have hready : s.tx.ready = true := by simp [h.ready, held, nonempty]
    rcases nextLink_starts (c := c) state with ⟨hnext, haccept, -, hdata⟩ | ⟨hnext, haccept⟩
    · -- the wrapper begins with the packet
      obtain ⟨pid, rest, hcut⟩ := List.exists_cons_of_ne_nil nonempty
      have hholds : s.tx.Holds (pid :: rest) := by
        rw [← hcut, ← held]
        exact h.holds
      refine .starting hnext ((haligned.next c).starts hnext hphy) hne ?_ hseen
      rw [hdata, hholds.data, hcurrent, nextBytes_eq h.holds, held, hcut, haccept]
      rfl
    · refine .waiting hnext hphy hne ?_ hseen
      rw [nextBytes_eq h.holds, haccept hready, held, hcurrent]
      rfl
  | starting state phy nonempty rest seen =>
    have hhanded := (h.goesOn hapart (.inr state)).1
    have hseen : (note w s c).seenPackets = w.handed.map coded := by
      rw [note_seen (by rw [phy]; rfl), seen]
    have howns := h.owns hundisturbed state
    rw [phy] at haligned
    cases haligned with
    | start _ data =>
      have hphy : w.phy.next s c = if c.nxt then .packet [s.link.ulpiData] else .idle := by
        rw [phy, Phy.next, taken, howns, data, command_transmit]
        rfl
      have hrest : coded w.current = [] ++ s.link.ulpiData :: bytes := rest
      cases hnxt : c.nxt with
      | false =>
        obtain ⟨hnext, hne, hcoded⟩ := h.stalls hundisturbed hapart state hnxt hrest nonempty
        exact .starting hnext (hphy.trans (by simp [hnxt])) hne hcoded (hhanded ▸ hseen)
      | true =>
        refine h.sends hundisturbed hapart state hnxt hrest nonempty ?_ hseen
        exact hphy.trans (by simp [hnxt])
    | _ => simp_all
  | @sending sent state phy nonempty rest seen =>
    have hhanded := (h.goesOn hapart (.inr state)).1
    have howns := h.owns hundisturbed state
    rw [phy] at haligned
    cases haligned with
    | sending _ stp =>
      have hseen : (note w s c).seenPackets = w.handed.map coded := by
        rw [note_seen (by simp [phy, Phy.seen, stp]), seen]
      have hphy : w.phy.next s c =
          if c.nxt then .packet (sent ++ [s.link.ulpiData]) else .packet sent := by
        rw [phy, Phy.next, taken, howns, stp]
        rfl
      cases hnxt : c.nxt with
      | false =>
        obtain ⟨hnext, hne, hcoded⟩ := h.stalls hundisturbed hapart state hnxt rest nonempty
        exact .sending hnext (hphy.trans (by simp [hnxt])) hne hcoded (hhanded ▸ hseen)
      | true =>
        exact h.sends hundisturbed hapart state hnxt rest nonempty
          (hphy.trans (by simp [hnxt])) hseen
    | stop idle => exact absurd (idle.symm.trans state) (by decide)
  | stopping state phy nonempty empty seen =>
    rw [phy] at haligned
    cases haligned with
    | stop idle data stp =>
      refine h.rests state empty ?_ ?_
      · rw [phy, Phy.next, if_pos stp]
        exact id
      · rw [note_packets, phy, Phy.seen, if_pos stp, seen, Watch.packets, nonempty_of_ne nonempty,
          List.map_append]
        rfl
    | sending data => exact absurd data state

theorem Sound.next (h : Sound s w bytes) (hundisturbed : Undisturbed s c)
    (hapart : Apart (s, w) c) : Sound (step s c) (note w s c) (nextBytes s c bytes) where
  aligned := h.aligned.next c
  holds := nextTx_holds h.holds c
  quiet hafter := by
    have hbusy := h.busy hafter
    obtain ⟨hdir, hactive⟩ := hundisturbed hbusy
    refine ⟨nextTxDelay_zero hactive ?_, nextLink_rxactive hdir hactive⟩
    rcases hbusy with hsome | hwaiting | hstate
    · exact (accepted_txvalid hsome).2
    · rw [h.holds.waiting] at hwaiting
      exact (h.quiet (.inl hwaiting)).1
    · exact (h.quiet (.inr hstate)).1
  owned hafter := (hundisturbed (h.busy (.inr hafter))).1
  continuing hvalid := h.continues hvalid
  progress := h.progress_next hundisturbed hapart

end Step

-- ---------------------------------------------------------------------------
-- Runs
-- ---------------------------------------------------------------------------

theorem sound_init : Sound watched.init.1 watched.init.2 [] where
  aligned := .idle rfl rfl
  holds := .empty rfl rfl rfl
  quiet _ := ⟨rfl, rfl⟩
  owned _ := rfl
  continuing h := by cases h
  progress := .resting (by decide) id rfl rfl

/-- The PHY sees the packets of the device, in order and whole, in every run
in which it leaves the wrapper the bus and the device waits between them. -/
theorem packets_delivered {run : List Cycle}
    (hundisturbed : watched.Steps (fun s c => Undisturbed s.1 c) run)
    (hapart : watched.Steps Apart run) : Delivered (watched.run run) := by
  have hsound : ∃ bytes, Sound (watched.run run).1 (watched.run run).2 bytes := by
    refine (hundisturbed.and hapart).invariant (I := fun s => ∃ bytes, Sound s.1 s.2 bytes)
      ⟨[], sound_init⟩ ?_
    rintro ⟨s, w⟩ c ⟨bytes, h⟩ ⟨hundisturbed, hapart⟩
    exact ⟨_, h.next hundisturbed hapart⟩
  obtain ⟨bytes, h⟩ := hsound
  exact h.delivered

/-- A cycle in which the PHY leaves the bus and the mode stays what it is at
reset. -/
def sendCycle (nxt : Bool) (byte : Option Byte) : Cycle where
  dataOut := 0#8
  dir := false
  nxt := nxt
  utmiData := byte.getD 0#8
  txvalid := byte.isSome
  opMode := 3#2
  xcvrselect := 0#2
  termselect := false
  dppulldown := true
  dmpulldown := true

/-- A packet of two bytes, and an acknowledgement. -/
def twoPackets : List Cycle :=
  [sendCycle false (some 0xc3#8), sendCycle false (some 0x05#8), sendCycle true none,
    sendCycle true none, sendCycle false (some 0xd2#8), sendCycle false none,
    sendCycle true none, sendCycle false none]

theorem twoPackets_delivered : Delivered (watched.run twoPackets) :=
  packets_delivered (by decide +kernel) (by decide +kernel)

example : (watched.run twoPackets).2.seenPackets = [[0x43#8, 0x05#8], [0x42#8]] := by
  decide +kernel

end AvbAes3.UlpiWrapper
