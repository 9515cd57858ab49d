import AvbAes3.ListenerReservation
import AvbAes3.OneVlan
import AvbAes3.RegistrarMap

/-!
# New twice, then JoinIn

Four counters decide the event an attribute is declared with. Each counts
the PDUs sent since its attribute was enabled, up to two, and the listener's
is restarted in `srp_poll` as well, where it finds the listener not ready.
`new_twice`: read off the frames, the first two PDUs that carry an attribute
after each enable have it as New and all later ones as JoinIn; so have the
Domain vectors and the MVRP joins since `srp_init`.
-/

namespace AvbAes3.NewTwice

open ListenerReservation (bindEngine_srp learnStream_srp)
open OneVlan (isMvrp)
open RegistrarMap (afterVectors)

-- ---------------------------------------------------------------------------
-- What is sent
-- ---------------------------------------------------------------------------

inductive Attribute
  | domain | talker | listener
  deriving DecidableEq, Repr

def Attribute.type : Attribute → UInt8
  | .domain => msrpAttrDomain
  | .talker => msrpAttrTalkerAdv
  | .listener => msrpAttrListener

def isMsrp (bytes : List UInt8) : Bool := isMsrpPdu (Buffer.ofList bytes) bytes.length

/-- The event of the first value, behind FirstValue. -/
def firstEvent (v : MsrpVector) : UInt8 := v.value v.attrLen.toNat / 36

/-- The events of the attribute's vectors. -/
def events (a : Attribute) (bytes : List UInt8) : List UInt8 :=
  (msrpVectors (Buffer.ofList bytes) bytes.length).filterMap fun v =>
    if v.attrType = a.type then some (firstEvent v) else none

/-- The event of an MVRP join, behind the VLAN. -/
def joinEvent (bytes : List UInt8) : UInt8 := Buffer.ofList bytes 21 / 36

def carries (a : Attribute) (bytes : List UInt8) : Bool :=
  isMsrp bytes && !(events a bytes).isEmpty

/-- How many PDUs have carried an attribute since it was last enabled, and
how many joins have been sent. -/
structure Sent where
  vectors : Attribute → Nat := fun _ => 0
  joins : Nat := 0

def Sent.add (c : Sent) (frames : List (List UInt8)) : Sent where
  vectors a := c.vectors a + frames.countP (carries a)
  joins := c.joins + frames.countP isMvrp

def Sent.restart (c : Sent) (a : Attribute) : Sent :=
  { c with vectors := Function.update c.vectors a 0 }

def expected (sent : Nat) : UInt8 := if sent < 2 then mrpEvtNew else mrpEvtJoinIn

/-- The frame's events are those of an applicant that has sent as much. -/
structure Announces (c : Sent) (bytes : List UInt8) : Prop where
  known : isMsrp bytes ∨ isMvrp bytes
  vectors : isMsrp bytes → ∀ a, ∀ event ∈ events a bytes, event = expected (c.vectors a)
  joins : isMvrp bytes → joinEvent bytes = expected c.joins

-- ---------------------------------------------------------------------------
-- Runs
-- ---------------------------------------------------------------------------

/-- The calls of SRP; between them the rest of the firmware goes on. -/
inductive Event
  | poll (nowMs : UInt32)
  | received (frame : Buffer) (len : Nat) (nowMs : UInt32)
  | talkerSet (streamId : StreamId) (destMac : MacAddr) (maxFrameSize : UInt16)
  | talkerEnable (enable : Bool)
  | listenerEnable (streamId : StreamId) (enable : Bool) (nowMs : UInt32)
  | elsewhere (rest : Firmware)

def step (fw : Firmware) : Event → Firmware
  | .poll nowMs => RegistrarMap.polled fw nowMs
  | .received frame len nowMs => srpProcessRx fw frame len nowMs
  | .talkerSet streamId destMac maxFrameSize =>
    { fw with srp := srpTalkerSet fw.srp streamId destMac maxFrameSize }
  | .talkerEnable enable => { fw with srp := srpTalkerEnable fw.srp enable }
  | .listenerEnable streamId enable nowMs => fw.listenerEnable streamId enable nowMs
  | .elsewhere rest => { rest with srp := fw.srp }

def frames (fw : Firmware) : Event → List (List UInt8)
  | .poll nowMs => (srpPoll fw.srp nowMs).2
  | _ => []

/-- A turn of `on_talker_advertise` enables the listener. -/
def turnEnables (fw : Firmware) (i : ListenerUid) (streamId : StreamId) (destMac : MacAddr) :
    Bool :=
  (fw.pendingListeners i).active && destOrEidMatch (fw.pendingListeners i) streamId destMac

/-- One of its two turns does. -/
def callbackEnables (fw : Firmware) (streamId : StreamId) (destMac : MacAddr) (nowMs : UInt32) :
    Bool :=
  turnEnables fw listenerUidCrf streamId destMac ||
    turnEnables (completePending fw listenerUidCrf streamId destMac nowMs) listenerUidAaf streamId
      destMac

def vectorEnables (nowMs : UInt32) (fw : Firmware) (v : MsrpVector) : Bool :=
  isTalkerAdvertise v &&
    callbackEnables { fw with srp := upsertTalker (noteVector fw.srp v) v.value nowMs }
      (v.value.bytes 8) ((v.value.offset 8).bytes 6) nowMs

def vectorsEnable (nowMs : UInt32) : Firmware → List MsrpVector → Bool
  | _, [] => false
  | fw, v :: rest => vectorEnables nowMs fw v || vectorsEnable nowMs (srpVector nowMs fw v) rest

/-- The call enables the listener, from within `srp_process_rx` too. -/
def enablesListener (fw : Firmware) : Event → Bool
  | .listenerEnable _ enable _ => enable
  | .received frame len nowMs =>
    isMsrpPdu frame len && vectorsEnable nowMs (afterVectors nowMs fw []) (msrpVectors frame len)
  | _ => false

def enablesTalker : Event → Bool
  | .talkerEnable enable => enable
  | _ => false

def note (c : Sent) (fw : Firmware) (e : Event) : Sent :=
  if enablesTalker e then c.restart .talker
  else if enablesListener fw e then c.restart .listener
  else c.add (frames fw e)

def machine (fw : Firmware) (mac : MacAddr) : Machine (Firmware × Sent) Event :=
  Machine.withHistory ⟨{ fw with srp := srpInit mac }, step⟩ {} note

/-- A call sends one MSRP PDU and one join at most, with the events due. -/
structure Due (x : Firmware × Sent) (e : Event) : Prop where
  announces : ∀ bytes ∈ frames x.1 e, Announces x.2 bytes
  pdus : (frames x.1 e).countP isMsrp ≤ 1
  joins : (frames x.1 e).countP isMvrp ≤ 1

-- ---------------------------------------------------------------------------
-- The frames
-- ---------------------------------------------------------------------------

def newCount (s : Srp) : Attribute → UInt8
  | .domain => s.domainNewCount
  | .talker => s.talkerNewCount
  | .listener => s.listenerNewCount

def declares (s : Srp) : Attribute → Bool
  | .domain => true
  | .talker => s.talkerEnabled
  | .listener => s.listenerEnabled

theorem packed_event (event : UInt8) (h : event = mrpEvtNew ∨ event = mrpEvtJoinIn) :
    mrp3Pack event 0 0 / 36 = event := by
  rcases h with rfl | rfl <;> decide

theorem newEvent_cases (count : UInt8) :
    newEvent count = mrpEvtNew ∨ newEvent count = mrpEvtJoinIn := by
  unfold newEvent
  split
  · exact .inl rfl
  · exact .inr rfl

theorem filterMap_related {R : α → β → Prop} {f : α → Option γ} {g : β → Option γ}
    {as : List α} {bs : List β} (h : List.Forall₂ R as bs) (hfg : ∀ a b, R a b → g b = f a) :
    bs.filterMap g = as.filterMap f := by
  induction h with
  | nil => rfl
  | cons hr _ ih => rw [List.filterMap_cons, List.filterMap_cons, hfg _ _ hr, ih]

/-- The event that an attribute put into a PDU has. -/
def attributeEvent (a : Attribute) (m : MsrpAttribute) : Option UInt8 :=
  if m.attrType = a.type then some (m.packed.headD 0 / 36) else none

theorem read_event {m : MsrpAttribute} (hm : m.WellFormed) {leaveAll : Bool} {v : MsrpVector}
    (h : m.Read leaveAll v) (a : Attribute) :
    (if v.attrType = a.type then some (firstEvent v) else none) = attributeEvent a m := by
  obtain ⟨event, rest, hpacked⟩ : ∃ event rest, m.packed = event :: rest := by
    cases hpacked : m.packed with
    | cons event rest => exact ⟨event, rest, rfl⟩
    | nil =>
      have hlength := hm.packed
      rw [hpacked] at hlength
      split at hlength <;> cases hlength
  have hbehind := (Buffer.holds_append.mp h.value).2 0 (by rw [hpacked]; exact Nat.zero_lt_succ _)
  have hlen : v.attrLen.toNat = m.firstValue.length := by
    rw [h.attrLen]
    exact UInt8.toNat_ofNat_of_lt' hm.firstValue
  have hevent : firstEvent v = m.packed.headD 0 / 36 := by
    rw [firstEvent, hlen]
    simp only [Nat.zero_add, Nat.add_zero, hpacked, List.getElem_cons_zero] at hbehind
    rw [hbehind, hpacked]
    rfl
  rw [attributeEvent, h.attrType, hevent]

/-- A PDU carries the attributes that are declared, each with the event that
is due. -/
theorem events_declared (s : Srp) (leaveAll : Bool) (a : Attribute) :
    events a (srpSendDeclarations s leaveAll).2 =
      if declares s a then [newEvent (newCount s a)] else [] := by
  have hread := msrpVectors_declared s leaveAll
  have hevents : events a (srpSendDeclarations s leaveAll).2 =
      s.attributes.filterMap (attributeEvent a) := by
    have hboth : List.Forall₂ (fun m v => MsrpAttribute.Read m leaveAll v ∧ m.WellFormed)
        s.attributes (msrpVectors (Buffer.ofList (srpSendDeclarations s leaveAll).2)
          (srpSendDeclarations s leaveAll).2.length) := by
      refine List.forall₂_iff_get.mpr ⟨hread.length_eq, fun i hi hi' => ⟨hread.get hi hi', ?_⟩⟩
      exact attributes_wellFormed s _ (List.get_mem ..)
    exact filterMap_related hboth fun m v hr => read_event hr.2 hr.1 a
  have hdomain := packed_event _ (newEvent_cases s.domainNewCount)
  have htalker := packed_event _ (newEvent_cases s.talkerNewCount)
  have hlistener := packed_event _ (newEvent_cases s.listenerNewCount)
  rw [hevents, Srp.attributes]
  cases a <;> cases ht : s.talkerEnabled <;> cases hl : s.listenerEnabled <;>
    simp [attributeEvent, Attribute.type, Srp.domainAttribute, Srp.talkerAttribute,
      Srp.listenerAttribute, declares, newCount, ht, hl, hdomain, htalker, hlistener,
      msrpAttrDomain, msrpAttrTalkerAdv, msrpAttrListener]

theorem joinEvent_sent (s : Srp) (vid : UInt16) (count : UInt8) :
    joinEvent (mvrpSendJoinVid s vid (newEvent count)) = newEvent count := by
  have h := Buffer.holds_ofList (mvrpSendJoinVid s vid (newEvent count))
  obtain ⟨pad, hsplit⟩ : ∃ pad, mvrpSendJoinVid s vid (newEvent count) =
      mvrpMcast.toList ++ s.srcMac.toList ++ be16 mvrpEthertype ++ [0] ++ [1, 2] ++ be16 1 ++
        be16 vid ++ [mrp3Pack (newEvent count) 0 0] ++ be16 0 ++ pad := ⟨_, rfl⟩
  rw [joinEvent]
  generalize mvrpSendJoinVid s vid (newEvent count) = bytes at h hsplit ⊢
  rw [hsplit, Buffer.holds_append, Buffer.holds_append, Buffer.holds_append, ← hsplit] at h
  have hevent := h.1.1.2 0 Nat.one_pos
  simp only [List.length_append, Vector.length_toList, be16, List.length_cons, List.length_nil,
    List.getElem_cons_zero] at hevent
  exact (congrArg (· / 36) hevent).trans (packed_event _ (newEvent_cases count))

-- ---------------------------------------------------------------------------
-- The counters
-- ---------------------------------------------------------------------------

/-- A counter has what was sent, up to two. -/
def Counts (count : UInt8) (sent : Nat) : Prop := count.toNat = min 2 sent

theorem Counts.zero : Counts 0 0 := rfl

theorem Counts.below {count : UInt8} (h : Counts count sent) : count < 2 ↔ sent < 2 := by
  have htwo : (2 : UInt8).toNat = 2 := rfl
  rw [UInt8.lt_iff_toNat_lt, h, htwo]
  omega

theorem Counts.event {count : UInt8} (h : Counts count sent) : newEvent count = expected sent := by
  rw [newEvent, expected]
  exact if_congr h.below rfl rfl

theorem Counts.next {count : UInt8} (h : Counts count sent) :
    Counts (nextNewCount count) (sent + 1) := by
  rw [nextNewCount]
  split
  · rename_i hlt
    have hsent := h.below.mp hlt
    rw [Counts] at h ⊢
    rw [UInt8.toNat_add, h]
    have hone : (1 : UInt8).toNat = 1 := rfl
    omega
  · rename_i hge
    have hsent := mt h.below.mpr hge
    rw [Counts] at h ⊢
    omega

/-- The counters are right, and the keepalive has nothing to do. -/
structure Counted (s : Srp) (c : Sent) : Prop where
  vectors : ∀ a, Counts (newCount s a) (c.vectors a)
  joins : Counts s.mvrpNewCount c.joins
  ready : s.listenerEnabled → s.listenerSubstate = .ready

theorem counted_init (mac : MacAddr) : Counted (srpInit mac) {} where
  vectors a := by cases a <;> rfl
  joins := rfl
  ready h := absurd h Bool.false_ne_true

/-- What the counters and the keepalive depend on. -/
structure Applicant where
  counts : Attribute → UInt8
  mvrpNewCount : UInt8
  listener : Bool × MsrpListener

def applicant (s : Srp) : Applicant :=
  ⟨newCount s, s.mvrpNewCount, s.listenerEnabled, s.listenerSubstate⟩

theorem Counted.congr (h : Counted s c) (heq : applicant s' = applicant s) : Counted s' c := by
  simp only [applicant, Applicant.mk.injEq, Prod.mk.injEq] at heq
  obtain ⟨hcounts, hjoins, henabled, hsubstate⟩ := heq
  refine ⟨fun a => ?_, ?_, ?_⟩
  · rw [hcounts]
    exact h.vectors a
  · rw [hjoins]
    exact h.joins
  · rw [henabled, hsubstate]
    exact h.ready

theorem Counted.enableListener {s : Srp} {c : Sent} (h : Counted s c) (streamId : StreamId)
    (nowMs : UInt32) :
    Counted (srpListenerEnable s streamId true nowMs) (c.restart .listener) where
  vectors a := by
    cases a with
    | domain => exact h.vectors .domain
    | talker => exact h.vectors .talker
    | listener => exact .zero
  joins := h.joins
  ready _ := rfl

theorem Counted.disableListener {s : Srp} {c : Sent} (h : Counted s c) (streamId : StreamId)
    (nowMs : UInt32) : Counted (srpListenerEnable s streamId false nowMs) c where
  vectors a := by
    have hsame : newCount (srpListenerEnable s streamId false nowMs) a = newCount s a := by
      cases a <;> rfl
    rw [hsame]
    exact h.vectors a
  joins := h.joins
  ready henabled := absurd henabled Bool.false_ne_true

theorem Counted.enableTalker {s : Srp} {c : Sent} (h : Counted s c) :
    Counted (srpTalkerEnable s true) (c.restart .talker) where
  vectors a := by
    cases a with
    | domain => exact h.vectors .domain
    | talker => exact .zero
    | listener => exact h.vectors .listener
  joins := h.joins
  ready := h.ready

theorem Counted.disableTalker {s : Srp} {c : Sent} (h : Counted s c) :
    Counted (srpTalkerEnable s false) c := h.congr rfl

-- ---------------------------------------------------------------------------
-- Received PDUs
-- ---------------------------------------------------------------------------

/-- Restarted if the listener has been enabled. -/
def Sent.enabled (c : Sent) (enables : Bool) : Sent := if enables then c.restart .listener else c

theorem Sent.enabled_enabled (c : Sent) (first second : Bool) :
    (c.enabled first).enabled second = c.enabled (first || second) := by
  cases first <;> cases second <;> simp [Sent.enabled, Sent.restart]

/-- A turn of the callback. -/
theorem completePending_enables (fw : Firmware) (i : ListenerUid) (streamId : StreamId)
    (destMac : MacAddr) (nowMs : UInt32) :
    (completePending fw i streamId destMac nowMs).srp =
      if turnEnables fw i streamId destMac then srpListenerEnable fw.srp streamId true nowMs
      else fw.srp := by
  unfold completePending turnEnables
  simp only [Bool.and_eq_true]
  split
  · show (bindEngine _ _ _ _).srp = _
    rw [bindEngine_srp, Firmware.listenerEnable, learnStream_srp]
    rfl
  · rfl

theorem Counted.turn {fw : Firmware} {c : Sent} (h : Counted fw.srp c) (i : ListenerUid)
    (streamId : StreamId) (destMac : MacAddr) (nowMs : UInt32) :
    Counted (completePending fw i streamId destMac nowMs).srp
      (c.enabled (turnEnables fw i streamId destMac)) := by
  rw [completePending_enables, Sent.enabled]
  split
  · exact h.enableListener streamId nowMs
  · exact h

theorem Counted.callback {fw : Firmware} {c : Sent} (h : Counted fw.srp c) (streamId : StreamId)
    (destMac : MacAddr) (nowMs : UInt32) :
    Counted (onTalkerAdvertise fw streamId destMac nowMs).srp
      (c.enabled (callbackEnables fw streamId destMac nowMs)) := by
  rw [callbackEnables, ← Sent.enabled_enabled]
  exact (h.turn listenerUidCrf streamId destMac nowMs).turn listenerUidAaf streamId destMac nowMs

theorem noteVector_applicant (s : Srp) (v : MsrpVector) :
    applicant (noteVector s v) = applicant s := by
  obtain ⟨_, _, _, _, _, _, _, _, hwrites⟩ := noteVector_writes s v
  rw [hwrites]
  rfl

theorem Counted.match_ {s : Srp} {c : Sent} (h : Counted s c) (value : Buffer) (nowMs : UInt32) :
    Counted (matchListener s value nowMs) c := by
  unfold matchListener
  split
  · refine ⟨fun a => ?_, h.joins, fun _ => rfl⟩
    cases a with
    | domain => exact h.vectors .domain
    | talker => exact h.vectors .talker
    | listener => exact h.vectors .listener
  · exact h

theorem Counted.vector {fw : Firmware} {c : Sent} (h : Counted fw.srp c) (nowMs : UInt32)
    (v : MsrpVector) :
    Counted (srpVector nowMs fw v).srp (c.enabled (vectorEnables nowMs fw v)) := by
  have hnoted := h.congr (noteVector_applicant fw.srp v)
  rw [srpVector, vectorEnables]
  by_cases hadvertise : isTalkerAdvertise v
  · rw [if_pos hadvertise, hadvertise, Bool.true_and, talkerAdvertised]
    have hupsert : Counted (upsertTalker (noteVector fw.srp v) v.value nowMs) c := hnoted.congr rfl
    exact (@Counted.callback { fw with srp := upsertTalker (noteVector fw.srp v) v.value nowMs } c
      hupsert _ _ nowMs).match_ v.value nowMs
  · rw [if_neg hadvertise, Bool.eq_false_iff.mpr hadvertise, Bool.false_and]
    exact hnoted

theorem Counted.vectorList {fw : Firmware} {c : Sent} (h : Counted fw.srp c) (nowMs : UInt32)
    (vectors : List MsrpVector) :
    Counted (vectors.foldl (srpVector nowMs) fw).srp
      (c.enabled (vectorsEnable nowMs fw vectors)) := by
  induction vectors generalizing fw c with
  | nil => exact h
  | cons v rest ih =>
    rw [vectorsEnable, ← Sent.enabled_enabled]
    exact ih (h.vector nowMs v)

theorem Counted.received {fw : Firmware} {c : Sent} (h : Counted fw.srp c) (frame : Buffer)
    (len : Nat) (nowMs : UInt32) :
    Counted (srpProcessRx fw frame len nowMs).srp
      (c.enabled (enablesListener fw (.received frame len nowMs))) := by
  rw [srpProcessRx, enablesListener]
  by_cases hmsrp : isMsrpPdu frame len
  · rw [if_pos hmsrp, hmsrp, Bool.true_and]
    have hcounted : Counted (afterVectors nowMs fw []).srp c := h.congr rfl
    exact hcounted.vectorList nowMs _
  · rw [if_neg hmsrp, Bool.eq_false_iff.mpr hmsrp, Bool.false_and]
    exact h

-- ---------------------------------------------------------------------------
-- Polls
-- ---------------------------------------------------------------------------

/-- The keepalive finds the listener ready. -/
theorem Counted.age {s : Srp} {c : Sent} (h : Counted s c) (nowMs : UInt32) :
    Counted (srpAge s nowMs) c := by
  have hidle : ¬ (s.listenerEnabled ∧ s.listenerSubstate ≠ .ready) := fun hi => hi.2 (h.ready hi.1)
  refine h.congr ?_
  unfold srpAge
  rw [if_neg hidle, if_neg hidle]
  rfl

theorem sendDeclarations_newCount (s : Srp) (leaveAll : Bool) (a : Attribute) :
    newCount (srpSendDeclarations s leaveAll).1 a =
      if declares s a then nextNewCount (newCount s a) else newCount s a := by
  unfold srpSendDeclarations sendTalker sendListener
  dsimp only
  cases a <;> split <;> split <;> simp_all [newCount, declares, sendDomain]

theorem sendDeclarations_rest (s : Srp) (leaveAll : Bool) :
    (srpSendDeclarations s leaveAll).1.mvrpNewCount = s.mvrpNewCount ∧
      (srpSendDeclarations s leaveAll).1.listenerEnabled = s.listenerEnabled ∧
        (srpSendDeclarations s leaveAll).1.listenerSubstate = s.listenerSubstate := by
  unfold srpSendDeclarations sendTalker sendListener
  dsimp only
  split <;> split <;> exact ⟨rfl, rfl, rfl⟩

/-- Where the join timer has run out, a poll sends a PDU and a join. -/
theorem srpPoll_due {s : Srp} {nowMs : UInt32} (h : joinDue s nowMs) :
    let sent := srpSendDeclarations (srpAge s nowMs) (leaveAllDue s nowMs)
    (srpPoll s nowMs).2 =
        [sent.2, mvrpSendJoinVid sent.1 srClassAVid (newEvent sent.1.mvrpNewCount)] ∧
      applicant (srpPoll s nowMs).1 =
        { applicant sent.1 with mvrpNewCount := nextNewCount sent.1.mvrpNewCount } := by
  unfold srpPoll
  dsimp only
  rw [if_pos h]
  exact ⟨rfl, rfl⟩

theorem srpPoll_early {s : Srp} {nowMs : UInt32} (h : ¬ joinDue s nowMs) :
    srpPoll s nowMs = (srpAge s nowMs, []) := by
  unfold srpPoll
  dsimp only
  rw [if_neg h]

theorem carries_msrp (s : Srp) (leaveAll : Bool) (a : Attribute) :
    carries a (srpSendDeclarations s leaveAll).2 = declares s a := by
  have hmsrp : isMsrp (srpSendDeclarations s leaveAll).2 := sendDeclarations_isMsrp s leaveAll
  rw [carries, hmsrp, events_declared]
  cases declares s a <;> rfl

theorem join_not_msrp (s : Srp) (vid : UInt16) (event : UInt8) :
    isMsrp (mvrpSendJoinVid s vid event) = false := mvrp_not_msrp s vid event _

/-- What a poll that sends adds to what was sent. -/
theorem add_sent (c : Sent) (s s' : Srp) (leaveAll : Bool) (vid : UInt16) (event : UInt8) :
    let frames := [(srpSendDeclarations s leaveAll).2, mvrpSendJoinVid s' vid event]
    (∀ a, (c.add frames).vectors a = c.vectors a + if declares s a then 1 else 0) ∧
      (c.add frames).joins = c.joins + 1 := by
  have hno (a : Attribute) : carries a (mvrpSendJoinVid s' vid event) = false := by
    rw [carries, join_not_msrp, Bool.false_and]
  have hmvrp := (OneVlan.mvrp_bytes s' vid event).1
  constructor
  · intro a
    simp only [Sent.add, List.countP_cons, List.countP_nil, carries_msrp, hno, Nat.zero_add,
      Bool.false_eq_true, if_false]
  · simp only [Sent.add, List.countP_cons, List.countP_nil, hmvrp,
      OneVlan.declarations_not_mvrp, Bool.false_eq_true, if_false, if_true, Nat.zero_add]

theorem Counted.poll {s : Srp} {c : Sent} (h : Counted s c) (nowMs : UInt32) :
    Counted (srpPoll s nowMs).1 (c.add (srpPoll s nowMs).2) := by
  have haged := h.age nowMs
  by_cases hdue : joinDue s nowMs
  · obtain ⟨hframes, happlicant⟩ := srpPoll_due hdue
    dsimp only at hframes happlicant
    generalize srpAge s nowMs = aged at haged hframes happlicant
    have hcount := sendDeclarations_newCount aged (leaveAllDue s nowMs)
    obtain ⟨hmvrp, henabled, hsubstate⟩ := sendDeclarations_rest aged (leaveAllDue s nowMs)
    obtain ⟨hvectors, hjoins⟩ := add_sent c aged
      (srpSendDeclarations aged (leaveAllDue s nowMs)).1 (leaveAllDue s nowMs) srClassAVid
      (newEvent (srpSendDeclarations aged (leaveAllDue s nowMs)).1.mvrpNewCount)
    simp only [applicant, Applicant.mk.injEq, Prod.mk.injEq] at happlicant
    obtain ⟨hcounts', hmvrp', henabled', hsubstate'⟩ := happlicant
    rw [hframes]
    refine ⟨fun a => ?_, ?_, ?_⟩
    · rw [hcounts', hcount, hvectors]
      split
      · exact (haged.vectors a).next
      · exact haged.vectors a
    · rw [hmvrp', hjoins, hmvrp]
      exact haged.joins.next
    · rw [henabled', hsubstate', henabled, hsubstate]
      exact haged.ready
  · rw [srpPoll_early hdue]
    exact haged

/-- A PDU has the events due, and so has a join. -/
theorem Counted.announces {s : Srp} {c : Sent} (h : Counted s c) (nowMs : UInt32) :
    ∀ bytes ∈ (srpPoll s nowMs).2, Announces c bytes := by
  have haged := h.age nowMs
  by_cases hdue : joinDue s nowMs
  · rw [(srpPoll_due hdue).1]
    generalize srpAge s nowMs = aged at haged
    intro bytes hbytes
    rcases List.mem_cons.mp hbytes with rfl | hbytes
    · refine ⟨.inl (sendDeclarations_isMsrp ..), fun _ a event hevent => ?_, fun hmvrp => ?_⟩
      · rw [events_declared] at hevent
        split at hevent
        · rw [List.mem_singleton.mp hevent]
          exact (haged.vectors a).event
        · cases hevent
      · rw [OneVlan.declarations_not_mvrp] at hmvrp
        cases hmvrp
    · rw [List.mem_singleton.mp hbytes]
      refine ⟨.inr (OneVlan.mvrp_bytes ..).1, fun hmsrp => ?_, fun _ => ?_⟩
      · rw [join_not_msrp] at hmsrp
        cases hmsrp
      · rw [joinEvent_sent, (sendDeclarations_rest aged _).1]
        exact haged.joins.event
  · rw [srpPoll_early hdue]
    rintro bytes ⟨⟩

theorem srpPoll_single (s : Srp) (nowMs : UInt32) :
    (srpPoll s nowMs).2.countP isMsrp ≤ 1 ∧ (srpPoll s nowMs).2.countP isMvrp ≤ 1 := by
  by_cases hdue : joinDue s nowMs
  · rw [(srpPoll_due hdue).1]
    simp only [List.countP_cons, List.countP_nil, join_not_msrp, OneVlan.declarations_not_mvrp,
      Bool.false_eq_true, if_false, Nat.zero_add]
    constructor <;> split <;> decide
  · rw [srpPoll_early hdue]
    exact ⟨Nat.zero_le _, Nat.zero_le _⟩

-- ---------------------------------------------------------------------------
-- Steps and runs
-- ---------------------------------------------------------------------------

theorem counted_step {fw : Firmware} {c : Sent} (h : Counted fw.srp c) (e : Event) :
    Counted (step fw e).srp (note c fw e) := by
  cases e with
  | poll nowMs =>
    rw [step, RegistrarMap.polled, sendAll_srp]
    exact h.poll nowMs
  | received frame len nowMs => exact h.received frame len nowMs
  | talkerSet streamId destMac maxFrameSize => exact h.congr rfl
  | talkerEnable enable =>
    cases enable with
    | true => exact h.enableTalker
    | false => exact h.disableTalker
  | listenerEnable streamId enable nowMs =>
    cases enable with
    | true => exact h.enableListener streamId nowMs
    | false => exact h.disableListener streamId nowMs
  | elsewhere rest => exact h

theorem due_of_counted {x : Firmware × Sent} (h : Counted x.1.srp x.2) (e : Event) : Due x e := by
  cases e with
  | poll nowMs =>
    obtain ⟨hpdus, hjoins⟩ := srpPoll_single x.1.srp nowMs
    exact ⟨h.announces nowMs, hpdus, hjoins⟩
  | _ => exact ⟨by rintro bytes ⟨⟩, Nat.zero_le _, Nat.zero_le _⟩

/-- In every run each frame has the events due by what was sent before. -/
theorem new_twice (fw : Firmware) (mac : MacAddr) (events : List Event) :
    (machine fw mac).Steps Due events := by
  have hany : (machine fw mac).Steps (fun _ _ => True) events :=
    Machine.stepsFrom_of_forall (fun _ _ => trivial) _ events
  exact hany.of_invariant (fun x => Counted x.1.srp x.2) (counted_init mac)
    (fun x e h _ => counted_step h e) fun x e h _ => due_of_counted h e

end AvbAes3.NewTwice
