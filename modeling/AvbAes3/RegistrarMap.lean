import AvbAes3.Lib.KeyedTable
import AvbAes3.ListenerSide
import AvbAes3.Stamps

/-!
# The talker registrar as a bounded map

One scan looks for the stream's own entry, for the first free one and for the
oldest, in a table with holes wherever an entry has aged out. `registrar_map`:
in every run the valid entries are of different streams; a TalkerAdvertise is
found under its stream in the callback and after it; and every other entry
stays, but for the oldest one of a full table that did not have the stream,
until `srp_poll` ages it out.
-/

namespace AvbAes3.RegistrarMap

def talkers : Keyed SrpRemoteTalker StreamId UInt32 where
  live t := t.valid
  key := SrpRemoteTalker.streamId
  stamp := SrpRemoteTalker.lastSeenMs

-- ---------------------------------------------------------------------------
-- The scan
-- ---------------------------------------------------------------------------

/-- What the scan knows of the entries it has passed. -/
structure Scanned (t : RemoteTalkers) (streamId : StreamId)
    (passed : Fin srpMaxRemoteTalkers → Prop) (scan : SlotScan) : Prop where
  other : ∀ i, passed i → (t i).valid → (t i).streamId ≠ streamId
  free : ∀ i, scan.slot = some i → ¬ (t i).valid
  full : scan.slot = none → ∀ i, passed i → (t i).valid
  oldest : (t scan.oldest).lastSeenMs ≤ scan.oldestT
  smallest : ∀ i, passed i → (t i).valid → scan.oldestT ≤ (t i).lastSeenMs

variable {t : RemoteTalkers} {streamId : StreamId} {passed : Fin srpMaxRemoteTalkers → Prop}
  {scan : SlotScan}

theorem Scanned.chosen (h : Scanned t streamId passed scan) (hall : ∀ i, passed i) :
    talkers.Chosen t streamId (scan.slot.getD scan.oldest) := by
  have habsent : talkers.Absent t streamId := fun i => h.other i (hall i)
  cases hslot : scan.slot with
  | some i => exact .free habsent (h.free i hslot)
  | none =>
    have hfull := fun i => h.full hslot i (hall i)
    refine .oldest habsent hfull fun j => ?_
    exact UInt32.le_trans h.oldest (h.smallest j (hall j) (hfull j))

/-- The scan chooses a slot for the stream. -/
theorem upsertSlot_chosen (slots : List (Fin srpMaxRemoteTalkers))
    (h : Scanned t streamId passed scan) (hall : ∀ i, passed i ∨ i ∈ slots) :
    talkers.Chosen t streamId (upsertSlot t streamId slots scan) := by
  induction slots generalizing passed scan with
  | nil => exact h.chosen fun i => (hall i).resolve_right List.not_mem_nil
  | cons i rest ih =>
    have hnext : ∀ j, (passed j ∨ j = i) ∨ j ∈ rest := fun j => by
      rcases hall j with hj | hj
      · exact .inl (.inl hj)
      · exact (List.mem_cons.mp hj).imp .inr id
    rw [upsertSlot]
    by_cases hvalid : (t i).valid
    · rw [if_pos hvalid]
      by_cases hown : (t i).streamId = streamId
      · rw [if_pos hown]
        exact .own hvalid hown
      rw [if_neg hown]
      have hother : ∀ j, passed j ∨ j = i → (t j).valid → (t j).streamId ≠ streamId := by
        rintro j (hj | rfl) hv
        · exact h.other j hj hv
        · exact hown
      have hfull : scan.slot = none → ∀ j, passed j ∨ j = i → (t j).valid := by
        rintro hslot j (hj | rfl)
        · exact h.full hslot j hj
        · exact hvalid
      by_cases holder : (t i).lastSeenMs < scan.oldestT
      · rw [if_pos holder]
        refine ih ⟨hother, h.free, hfull, UInt32.le_refl _, ?_⟩ hnext
        rintro j (hj | rfl) hv
        · exact UInt32.le_of_lt (UInt32.lt_of_lt_of_le holder (h.smallest j hj hv))
        · exact UInt32.le_refl _
      · rw [if_neg holder]
        refine ih ⟨hother, h.free, hfull, h.oldest, ?_⟩ hnext
        rintro j (hj | rfl) hv
        · exact h.smallest j hj hv
        · exact UInt32.not_lt.mp holder
    · rw [if_neg hvalid]
      have hother : ∀ j, passed j ∨ j = i → (t j).valid → (t j).streamId ≠ streamId := by
        rintro j (hj | rfl) hv
        · exact h.other j hj hv
        · exact absurd hv hvalid
      have hsmallest : ∀ j, passed j ∨ j = i → (t j).valid →
          scan.oldestT ≤ (t j).lastSeenMs := by
        rintro j (hj | rfl) hv
        · exact h.smallest j hj hv
        · exact absurd hv hvalid
      by_cases hslot : scan.slot = none
      · rw [if_pos hslot]
        have hfree : ∀ j, some i = some j → ¬ (t j).valid := fun j hj => Option.some.inj hj ▸ hvalid
        have hfull : some i = none → ∀ j, passed j ∨ j = i → (t j).valid := by rintro ⟨⟩
        exact ih ⟨hother, hfree, hfull, h.oldest, hsmallest⟩ hnext
      · rw [if_neg hslot]
        exact ih ⟨hother, h.free, fun hn => absurd hn hslot, h.oldest, hsmallest⟩ hnext

theorem upsertTalker_upserts {s : Srp} (h : talkers.Unique s.remoteTalkers) (value : Buffer)
    (nowMs : UInt32) :
    talkers.Upserts s.remoteTalkers (upsertTalker s value nowMs).remoteTalkers
      (remoteTalkerOf value nowMs) := by
  have hstart : Scanned s.remoteTalkers (value.bytes 8) (fun _ => False)
      { oldest := ⟨0, Nat.zero_lt_succ _⟩ } := by
    refine ⟨?_, ?_, ?_, ?_, ?_⟩
    · rintro i ⟨⟩
    · rintro i ⟨⟩
    · rintro - i ⟨⟩
    · exact UInt32.le_iff_toNat_le.mpr (Nat.le_of_lt_succ (UInt32.toNat_lt _))
    · rintro i ⟨⟩
  exact (upsertSlot_chosen _ hstart fun i => .inr (List.mem_finRange i)).upserts h

-- ---------------------------------------------------------------------------
-- Lookups
-- ---------------------------------------------------------------------------

/-- A valid entry is what its stream is looked up to. -/
theorem srpFindTalker_entry {s : Srp} (h : talkers.Unique s.remoteTalkers)
    {i : Fin srpMaxRemoteTalkers} (hvalid : (s.remoteTalkers i).valid) :
    srpFindTalker s (s.remoteTalkers i).streamId = some (s.remoteTalkers i) := by
  have hsome : (srpFindTalker s (s.remoteTalkers i).streamId).isSome := by
    rw [srpFindTalker, List.find?_isSome]
    exact ⟨_, List.mem_map.mpr ⟨i, List.mem_finRange i, rfl⟩, by simp [hvalid]⟩
  obtain ⟨found, hfound⟩ := Option.isSome_iff_exists.mp hsome
  obtain ⟨j, -, rfl⟩ := List.mem_map.mp (List.mem_of_find?_eq_some hfound)
  have hmatch := List.find?_some hfound
  rw [Bool.and_eq_true_iff, beq_iff_eq] at hmatch
  rw [hfound, h hmatch.1 hvalid hmatch.2]

theorem srpFindTalker_written {s : Srp} {t : RemoteTalkers} {x : SrpRemoteTalker}
    (h : talkers.Upserts t s.remoteTalkers x) (hvalid : x.valid) :
    srpFindTalker s x.streamId = some x := by
  obtain ⟨i, rfl⟩ := h.written
  exact srpFindTalker_entry h.unique hvalid

-- ---------------------------------------------------------------------------
-- Runs of the registrar
-- ---------------------------------------------------------------------------

/-- Between the calls the rest of the firmware goes on, as it may. -/
inductive Event
  | received (frame : Buffer) (len : Nat) (nowMs : UInt32)
  | poll (nowMs : UInt32)
  | elsewhere (rest : Firmware)

def polled (fw : Firmware) (nowMs : UInt32) : Firmware :=
  { fw with srp := (srpPoll fw.srp nowMs).1 }.sendAll .srp (srpPoll fw.srp nowMs).2

def step (fw : Firmware) : Event → Firmware
  | .received frame len nowMs => srpProcessRx fw frame len nowMs
  | .poll nowMs => polled fw nowMs
  | .elsewhere rest =>
    { rest with srp := { rest.srp with remoteTalkers := fw.srp.remoteTalkers } }

/-- From `srp_init`, whatever the rest of the firmware is. -/
def machine (fw : Firmware) (mac : MacAddr) : Machine Firmware Event where
  init := { fw with srp := srpInit mac }
  step := step

/-- What `on_talker_advertise` is called in, what its second turn starts from,
and what it leaves. -/
def callbackStates (nowMs : UInt32) (fw : Firmware) (v : MsrpVector) : List Firmware :=
  let streamId := v.value.bytes 8
  let destMac := (v.value.offset 8).bytes 6
  let called := { fw with srp := upsertTalker (noteVector fw.srp v) v.value nowMs }
  [called, completePending called listenerUidCrf streamId destMac nowMs,
    onTalkerAdvertise called streamId destMac nowMs]

/-- A TalkerAdvertise is upserted, and found in the callback and after it. -/
structure Recorded (nowMs : UInt32) (fw : Firmware) (v : MsrpVector) : Prop where
  upserts : talkers.Upserts fw.srp.remoteTalkers (srpVector nowMs fw v).srp.remoteTalkers
    (remoteTalkerOf v.value nowMs)
  found : ∀ fw' ∈ callbackStates nowMs fw v ++ [srpVector nowMs fw v],
    srpFindTalker fw'.srp (v.value.bytes 8) = some (remoteTalkerOf v.value nowMs)

/-- Other vectors leave the registrar alone. -/
def VectorMapped (nowMs : UInt32) (fw : Firmware) (v : MsrpVector) : Prop :=
  if isTalkerAdvertise v then Recorded nowMs fw v
  else (srpVector nowMs fw v).srp.remoteTalkers = fw.srp.remoteTalkers

/-- Where `srp_process_rx` is after some of the vectors. -/
def afterVectors (nowMs : UInt32) (fw : Firmware) (vectors : List MsrpVector) : Firmware :=
  vectors.foldl (srpVector nowMs)
    { fw with srp := { fw.srp with rxPduCount := fw.srp.rxPduCount + 1 } }

/-- A received PDU is taken in vector by vector. -/
def ReceivedMapped (fw : Firmware) (frame : Buffer) (len : Nat) (nowMs : UInt32) : Prop :=
  if isMsrpPdu frame len then
    srpProcessRx fw frame len nowMs = afterVectors nowMs fw (msrpVectors frame len) ∧
      ∀ first v rest, msrpVectors frame len = first ++ v :: rest →
        VectorMapped nowMs (afterVectors nowMs fw first) v
  else srpProcessRx fw frame len nowMs = fw

/-- A poll ages entries out, and leaves the others alone. -/
def PollMapped (fw : Firmware) (nowMs : UInt32) : Prop :=
  ∀ i, (polled fw nowMs).srp.remoteTalkers i =
    let t := fw.srp.remoteTalkers i
    if t.valid ∧ talkerAgedOut nowMs t.lastSeenMs then { t with valid := false } else t

def Mapped (fw : Firmware) : Event → Prop
  | .received frame len nowMs => ReceivedMapped fw frame len nowMs
  | .poll nowMs => PollMapped fw nowMs
  | .elsewhere rest => (step fw (.elsewhere rest)).srp.remoteTalkers = fw.srp.remoteTalkers

-- ---------------------------------------------------------------------------
-- Vectors
-- ---------------------------------------------------------------------------

section Vectors

variable (nowMs : UInt32) (fw : Firmware) (v : MsrpVector)

theorem onTalkerAdvertise_remoteTalkers (streamId : StreamId) (destMac : MacAddr) :
    (onTalkerAdvertise fw streamId destMac nowMs).srp.remoteTalkers = fw.srp.remoteTalkers := by
  rw [onTalkerAdvertise, completePending_srp, completePending_srp]

theorem matchListener_remoteTalkers (s : Srp) (value : Buffer) :
    (matchListener s value nowMs).remoteTalkers = s.remoteTalkers := by
  unfold matchListener
  split <;> rfl

theorem upsertTalker_noteVector (s : Srp) (value : Buffer) :
    (upsertTalker (noteVector s v) value nowMs).remoteTalkers =
      (upsertTalker s value nowMs).remoteTalkers := by
  rw [upsertTalker, upsertTalker, noteVector_remoteTalkers]

theorem callbackStates_remoteTalkers (h : fw' ∈ callbackStates nowMs fw v) :
    fw'.srp.remoteTalkers = (upsertTalker fw.srp v.value nowMs).remoteTalkers := by
  have hcalled := upsertTalker_noteVector nowMs v fw.srp v.value
  rw [← hcalled]
  simp only [callbackStates, List.mem_cons, List.not_mem_nil, or_false] at h
  rcases h with rfl | rfl | rfl
  · rfl
  · exact completePending_srp ..
  · exact onTalkerAdvertise_remoteTalkers ..

theorem srpVector_remoteTalkers : (srpVector nowMs fw v).srp.remoteTalkers =
    if isTalkerAdvertise v then (upsertTalker fw.srp v.value nowMs).remoteTalkers
    else fw.srp.remoteTalkers := by
  rw [srpVector]
  by_cases hadvertise : isTalkerAdvertise v
  · rw [if_pos hadvertise, if_pos hadvertise, talkerAdvertised]
    dsimp only
    rw [matchListener_remoteTalkers, onTalkerAdvertise_remoteTalkers, upsertTalker_noteVector]
  · rw [if_neg hadvertise, if_neg hadvertise, noteVector_remoteTalkers]

end Vectors

theorem vector_mapped {fw : Firmware} (h : talkers.Unique fw.srp.remoteTalkers) (nowMs : UInt32)
    (v : MsrpVector) : VectorMapped nowMs fw v := by
  have htable := srpVector_remoteTalkers nowMs fw v
  rw [VectorMapped]
  split
  · rename_i hadvertise
    rw [if_pos hadvertise] at htable
    have hupserts := upsertTalker_upserts h v.value nowMs
    refine ⟨by rwa [htable], fun fw' hfw' => ?_⟩
    have hsame : fw'.srp.remoteTalkers = (upsertTalker fw.srp v.value nowMs).remoteTalkers := by
      rcases List.mem_append.mp hfw' with hcallback | hafter
      · exact callbackStates_remoteTalkers nowMs fw v hcallback
      · rw [List.mem_singleton.mp hafter, htable]
    exact srpFindTalker_written (x := remoteTalkerOf v.value nowMs) (hsame ▸ hupserts) rfl
  · rename_i hadvertise
    rwa [if_neg hadvertise] at htable

-- ---------------------------------------------------------------------------
-- Steps and runs
-- ---------------------------------------------------------------------------

theorem Unique.vector {fw : Firmware} (h : talkers.Unique fw.srp.remoteTalkers) (nowMs : UInt32)
    (v : MsrpVector) : talkers.Unique (srpVector nowMs fw v).srp.remoteTalkers := by
  rw [srpVector_remoteTalkers]
  split
  · exact (upsertTalker_upserts h v.value nowMs).unique
  · exact h

theorem Unique.vectors {fw : Firmware} (h : talkers.Unique fw.srp.remoteTalkers) (nowMs : UInt32)
    (vectors : List MsrpVector) :
    talkers.Unique (afterVectors nowMs fw vectors).srp.remoteTalkers := by
  have hcounted : talkers.Unique
      { fw.srp with rxPduCount := fw.srp.rxPduCount + 1 }.remoteTalkers := h
  rw [afterVectors]
  generalize { fw.srp with rxPduCount := fw.srp.rxPduCount + 1 } = srp at hcounted
  have hstart : talkers.Unique { fw with srp := srp }.srp.remoteTalkers := hcounted
  generalize ({ fw with srp := srp } : Firmware) = start at hstart
  induction vectors generalizing start with
  | nil => exact hstart
  | cons v rest ih => exact ih _ (Unique.vector hstart nowMs v)

theorem polled_remoteTalkers (fw : Firmware) (nowMs : UInt32) :
    (polled fw nowMs).srp.remoteTalkers = (srpAge fw.srp nowMs).remoteTalkers := by
  rw [polled, sendAll_srp, srpPoll_remoteTalkers]

theorem poll_mapped (fw : Firmware) (nowMs : UInt32) : PollMapped fw nowMs := by
  intro i
  rw [polled_remoteTalkers, srpAge]
  simp only [Bool.and_eq_true]

theorem Unique.poll {fw : Firmware} (h : talkers.Unique fw.srp.remoteTalkers) (nowMs : UInt32) :
    talkers.Unique (polled fw nowMs).srp.remoteTalkers := by
  -- an entry valid after the poll is the one that was there before
  have hsame (i) (hvalid : ((polled fw nowMs).srp.remoteTalkers i).valid) :
      (polled fw nowMs).srp.remoteTalkers i = fw.srp.remoteTalkers i := by
    have hi := poll_mapped fw nowMs i
    dsimp only at hi
    split at hi
    · rw [hi] at hvalid
      exact absurd hvalid Bool.false_ne_true
    · exact hi
  intro i j hi hj hkey
  change ((polled fw nowMs).srp.remoteTalkers i).valid at hi
  change ((polled fw nowMs).srp.remoteTalkers j).valid at hj
  rw [hsame i hi, hsame j hj] at hkey
  rw [hsame i hi] at hi
  rw [hsame j hj] at hj
  exact h hi hj hkey

theorem unique_step {fw : Firmware} (h : talkers.Unique fw.srp.remoteTalkers) (e : Event) :
    talkers.Unique (step fw e).srp.remoteTalkers := by
  cases e with
  | received frame len nowMs =>
    rw [step, srpProcessRx]
    split
    · exact Unique.vectors h nowMs _
    · exact h
  | poll nowMs => exact Unique.poll h nowMs
  | elsewhere rest => exact h

theorem mapped_step {fw : Firmware} (h : talkers.Unique fw.srp.remoteTalkers) (e : Event) :
    Mapped fw e := by
  cases e with
  | received frame len nowMs =>
    rw [Mapped, ReceivedMapped, srpProcessRx]
    split
    · exact ⟨rfl, fun first v rest _ => vector_mapped (Unique.vectors h nowMs first) nowMs v⟩
    · rfl
  | poll nowMs => exact poll_mapped fw nowMs
  | elsewhere rest => rfl

theorem unique_init (fw : Firmware) (mac : MacAddr) :
    talkers.Unique (machine fw mac).init.srp.remoteTalkers :=
  fun _ _ hvalid => absurd hvalid Bool.false_ne_true

/-- In every run the valid entries are of different streams, and every vector
and every poll does to them what it does to a bounded map. -/
theorem registrar_map (fw : Firmware) (mac : MacAddr) (events : List Event) :
    talkers.Unique ((machine fw mac).run events).srp.remoteTalkers ∧
      (machine fw mac).Steps Mapped events := by
  have hany : (machine fw mac).Steps (fun _ _ => True) events :=
    Machine.stepsFrom_of_forall (fun _ _ => trivial) _ events
  constructor
  · exact Machine.run_invariant (I := fun fw : Firmware => talkers.Unique fw.srp.remoteTalkers)
      (unique_init fw mac) (fun _ e h => unique_step h e) events
  · exact hany.of_invariant (fun fw : Firmware => talkers.Unique fw.srp.remoteTalkers)
      (unique_init fw mac) (fun _ e h _ => unique_step h e) fun _ e h _ => mapped_step h e

end AvbAes3.RegistrarMap
