import AvbAes3.MainLoop
import AvbAes3.MsrpPdu

/-!
# The SR domain learned

A bridge declares for each SR class the priority and VLAN it uses, in Domain
vectors. The parser keeps one record, the FirstValue of the Domain vector it
came to last, whatever its class and event. It is class A's mapping only if
the bridge puts class A first in the last of its vectors.
-/

namespace AvbAes3.LearnedDomain

-- ---------------------------------------------------------------------------
-- What a PDU declares
-- ---------------------------------------------------------------------------

/-- Class, priority and VLAN. -/
abbrev Domain := UInt8 × UInt8 × UInt16

def domainOf (value : Buffer) : Domain := (value 0, value 1, getBe16 (value.offset 2))

/-- Class and priority count up, the VLAN stays. -/
def nthDomain (first : Domain) (i : Nat) : Domain :=
  (first.1 + i.toUInt8, first.2.1 + i.toUInt8, first.2.2)

def isDomainVector (v : VectorAttribute) : Bool := v.type == .domain

def firstDomain (v : VectorAttribute) : Domain := domainOf (Buffer.ofList v.firstValue)

def domains (pdu : MsrpPdu) : List Domain :=
  (pdu.vectors.filter isDomainVector).flatMap fun v =>
    Mrp.declared nthDomain (firstDomain v) v.events

/-- Class A as the PDU declares it last; else as it was. -/
def declaredClassA (before : Domain) (pdu : MsrpPdu) : Domain :=
  ((domains pdu).filter fun d => d.1 == srClassA).getLast?.getD before

-- ---------------------------------------------------------------------------
-- What is learned
-- ---------------------------------------------------------------------------

/-- A PDU as `srp_process_rx` is given it, in whatever memory. -/
structure Reception where
  pdu : MsrpPdu
  memory : Buffer
  nowMs : UInt32

def receive (fw : Firmware) (r : Reception) : Firmware :=
  srpProcessRx fw (r.memory.copy 0 r.pdu.bytes) r.pdu.bytes.length r.nowMs

/-- The receptions, from any state, beside the class A mapping declared. -/
def learning (fw : Firmware) : Machine (Firmware × Domain) Reception :=
  Machine.withHistory ⟨fw, receive⟩ fw.srp.domain fun before _ r => declaredClassA before r.pdu

/-- The mapping our own declarations use is the one declared for class A. -/
def Learns (s : Firmware × Domain) (r : Reception) : Prop :=
  (receive s.1 r).srp.domain = declaredClassA s.2 r.pdu

def UsesDeclared (s : Firmware × Domain) : Prop := s.1.srp.domain = s.2

/-- The last Domain vector starts with class A as it is declared. -/
def LastStartsWithClassA (s : Firmware × Domain) (r : Reception) : Prop :=
  ∀ v, (r.pdu.vectors.filter isDomainVector).getLast? = some v →
    firstDomain v = declaredClassA s.2 r.pdu

-- ---------------------------------------------------------------------------
-- The parser
-- ---------------------------------------------------------------------------

/-- The record kept of a declaration, once one has been heard. -/
def learned (s : Srp) : Option Domain :=
  if s.domainReceived then some (s.rxSrClass, s.rxSrPrio, s.rxSrVid) else none

theorem domain_eq_learned (s : Srp) :
    s.domain = (learned s).getD (srClassA, srClassAPrio, srClassAVid) := by
  rw [Srp.domain, learned]
  split <;> rfl

theorem completePending_learned (fw : Firmware) (i : ListenerUid) (streamId : StreamId)
    (destMac : MacAddr) (nowMs : UInt32) :
    learned (completePending fw i streamId destMac nowMs).srp = learned fw.srp := by
  unfold completePending
  dsimp only
  split
  · unfold bindEngine learnStream
    dsimp only
    split <;> split <;> rfl
  · rfl

theorem matchListener_learned (s : Srp) (value : Buffer) (nowMs : UInt32) :
    learned (matchListener s value nowMs) = learned s := by
  unfold matchListener
  split <;> rfl

theorem noteVector_learned (s : Srp) (v : MsrpVector) :
    learned (noteVector s v) = if isDomain v then some (domainOf v.value) else learned s := by
  unfold noteVector
  dsimp only
  split <;> split <;> split <;> split <;> rfl

theorem srpVector_learned (nowMs : UInt32) (fw : Firmware) (v : MsrpVector) :
    learned (srpVector nowMs fw v).srp =
      if isDomain v then some (domainOf v.value) else learned fw.srp := by
  rw [← noteVector_learned]
  unfold srpVector
  dsimp only
  split
  · rw [talkerAdvertised]
    dsimp only
    rw [matchListener_learned, onTalkerAdvertise, completePending_learned, completePending_learned]
    rfl
  · rfl

theorem srpVector_domain (nowMs : UInt32) (fw : Firmware) (v : MsrpVector) :
    (srpVector nowMs fw v).srp.domain = if isDomain v then domainOf v.value else fw.srp.domain := by
  rw [domain_eq_learned, domain_eq_learned, srpVector_learned]
  split <;> rfl

theorem isDomain_read {v : VectorAttribute} {read : MsrpVector} (h : MsrpPdu.Reads v read) :
    isDomain read = isDomainVector v := by
  rw [isDomain, isDomainVector, h.attrType, h.attrLen]
  cases v.type <;> decide

theorem domainOf_read {v : VectorAttribute} {read : MsrpVector} (h : MsrpPdu.Reads v read)
    (hdomain : isDomainVector v) : domainOf read.value = firstDomain v := by
  have hlength : v.type.length.toNat = 4 := by
    rw [eq_of_beq hdomain]
    rfl
  have hsame (i : Nat) (hi : i < 4) : read.value i = Buffer.ofList v.firstValue i :=
    h.byte (by rwa [hlength])
  simp only [domainOf, firstDomain, getBe16, Buffer.offset_apply]
  rw [hsame 0 (by decide), hsame 1 (by decide), hsame (2 + 0) (by decide), hsame (2 + 1) (by decide)]

/-- A fold that keeps the last of some. -/
theorem foldl_last {α β : Type} (keep : α → Bool) (value : α → β) (before : β) (l : List α) :
    l.foldl (fun acc a => if keep a then value a else acc) before =
      ((l.filter keep).getLast?.map value).getD before := by
  induction l using List.reverseRecOn with
  | nil => rfl
  | append_singleton l a ih =>
    rw [List.foldl_append, List.filter_append, ih]
    by_cases h : keep a
    · simp [h]
    · simp [h]

/-- The parser keeps the FirstValue of the last Domain vector. -/
theorem receive_domain (fw : Firmware) (r : Reception) :
    (receive fw r).srp.domain =
      ((r.pdu.vectors.filter isDomainVector).getLast?.map firstDomain).getD fw.srp.domain := by
  have hholds := Buffer.holds_copy r.memory r.pdu.bytes
  have hreads := r.pdu.msrpVectors_reads hholds
  rw [receive, srpProcessRx, if_pos (r.pdu.isMsrpPdu hholds), ← foldl_last]
  suffices ∀ (vectors : List VectorAttribute) (reads : List MsrpVector) (fw' : Firmware),
      List.Forall₂ MsrpPdu.Reads vectors reads →
      (reads.foldl (srpVector r.nowMs) fw').srp.domain =
        vectors.foldl (fun acc v => if isDomainVector v then firstDomain v else acc)
          fw'.srp.domain from this _ _ _ hreads
  intro vectors reads fw' h
  induction h generalizing fw' with
  | nil => rfl
  | @cons v read _ _ hread _ ih =>
    rw [List.foldl_cons, List.foldl_cons, ih, srpVector_domain, isDomain_read hread]
    congr 1
    split
    · rename_i hdomain
      exact domainOf_read hread hdomain
    · rfl

-- ---------------------------------------------------------------------------
-- The mapping
-- ---------------------------------------------------------------------------

theorem learns_iff_last (s : Firmware × Domain) (r : Reception) (h : UsesDeclared s) :
    Learns s r ↔ LastStartsWithClassA s r := by
  rw [Learns, receive_domain, LastStartsWithClassA]
  cases hlast : (r.pdu.vectors.filter isDomainVector).getLast? with
  | none =>
    have hnone : domains r.pdu = [] := by
      rw [domains, List.getLast?_eq_none_iff.mp hlast]
      rfl
    refine iff_of_true ?_ fun v hv => by cases hv
    rw [declaredClassA, hnone]
    exact h
  | some v =>
    refine ⟨fun heq v' hv' => ?_, fun hall => hall v rfl⟩
    obtain rfl := Option.some.inj hv'
    exact heq

theorem usesDeclared_init (fw : Firmware) : UsesDeclared (learning fw).init := rfl

/-- Over any sequence of PDUs, the mapping used is class A's as declared last,
if and only if class A comes first in the last Domain vector of each PDU that
has any. -/
theorem learns_iff (fw : Firmware) (pdus : List Reception) :
    (learning fw).Steps Learns pdus ↔ (learning fw).Steps LastStartsWithClassA pdus :=
  Machine.steps_congr UsesDeclared (usesDeclared_init fw) (fun _ _ _ h => h) learns_iff_last pdus

-- ---------------------------------------------------------------------------
-- Class B first
-- ---------------------------------------------------------------------------

/-- Class B and class A, in one vector of two values. -/
theorem bothClasses : OneVector .domain [5, 2, 0, 2] [.joinIn, .joinIn] where
  notListener := by decide
  firstValue_length := by decide
  events_length := by decide
  nonempty := by decide
  short := by decide

theorem classB_learned :
    ¬ (learning boot).Steps Learns [⟨bothClasses.pdu, fun _ => 0, 0⟩] := by
  rw [learns_iff]
  rintro ⟨hlast, -⟩
  have hclassA : (5, 2, 2) = declaredClassA (6, 3, 2) bothClasses.pdu :=
    hlast bothClasses.vector rfl
  revert hclassA
  decide

end AvbAes3.LearnedDomain
