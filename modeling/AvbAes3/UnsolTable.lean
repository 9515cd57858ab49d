import AvbAes3.AecpResponses
import AvbAes3.Lib.Machine

/-!
# The registered controllers

A registration takes the controller's own entry, else a free one, which then
counts from 0; both pushes send one notification to each active entry and
count it there. An entry keeps its number for as long as it is active, so
what a controller is sent since it was entered anew is numbered from 0 with
no gap, whatever the others do.
-/

namespace AvbAes3.UnsolTable

open AecpResponses (aemCmdType counted aemReply sentOutcome aecpHandle_aem)

-- ---------------------------------------------------------------------------
-- Calls
-- ---------------------------------------------------------------------------

/-- An AECP message, either push, and all that the module does besides,
which may change anything but the table. -/
inductive Call
  | aecp (c : AecpCommand)
  | pushCounters (dt di : UInt16) (valid : UInt32) (counters : Nat → UInt32)
  | pushStreamInfo (dt di : UInt16)
  | other (rest : Avdecc)

def step (s : Avdecc) : Call → Avdecc
  | .aecp c => (aecpHandle s c).state
  | .pushCounters dt di valid counters => (pushUnsolCounters s dt di valid counters).1
  | .pushStreamInfo dt di => (pushUnsolStreamInfo s dt di).1
  | .other rest => { rest with unsolCtrl := s.unsolCtrl }

def machine (mac : MacAddr) : Machine Avdecc Call := ⟨avdeccInit mac, step⟩

/-- A notification as the controller reads it: the address, the controller
and the number. -/
structure Notice where
  mac : MacAddr
  controllerEid : EntityId
  seqId : UInt16
  deriving DecidableEq

def aecpOffSeqId : Nat := 20

def noticeOf (frame : List UInt8) : Notice :=
  let b := Buffer.ofList frame
  let pdu := b.offset 14
  ⟨b.bytes 6, (pdu.offset aecpOffControllerId).bytes 8, getBe16 (pdu.offset aecpOffSeqId)⟩

/-- The notifications a call sends. -/
def notices (s : Avdecc) : Call → List Notice
  | .aecp _ | .other _ => []
  | .pushCounters dt di valid counters =>
    (pushUnsolCounters s dt di valid counters).2.map noticeOf
  | .pushStreamInfo dt di => (pushUnsolStreamInfo s dt di).2.map noticeOf

def noticesTo (e : EntityId) (sent : List Notice) : List Notice :=
  sent.filter fun n => n.controllerEid == e

/-- An AEM command for us of the type. -/
def commands (s : Avdecc) (c : AecpCommand) (cmd : UInt16) : Bool :=
  c.pdu 1 &&& 0x0F == aecpMsgAemCommand && targetsUs s c && aemCmdType c == cmd

def controllerOf (c : AecpCommand) : EntityId := (c.pdu.offset aecpOffControllerId).bytes 8

def senderOf (c : AecpCommand) : MacAddr := (c.frame.offset 6).bytes 6

-- ---------------------------------------------------------------------------
-- Entries
-- ---------------------------------------------------------------------------

abbrev Table := Fin avdeccMaxUnsolCtrl → UnsolCtrl

/-- The entry is the active one of the controller. -/
def EntryOf (t : Table) (e : EntityId) (i : Fin avdeccMaxUnsolCtrl) : Prop :=
  (t i).active ∧ (t i).controllerEid = e

/-- No controller has two. -/
def Unique (t : Table) : Prop := ∀ e i j, EntryOf t e i → EntryOf t e j → i = j

def registered (s : Avdecc) (e : EntityId) : Bool := (unsolSlot s e).isSome

section Slots

variable {s : Avdecc} {e : EntityId} {i : Fin avdeccMaxUnsolCtrl}

theorem entryOf_of_unsolSlot (h : unsolSlot s e = some i) : EntryOf s.unsolCtrl e i := by
  have hfound := List.find?_some h
  obtain ⟨hactive, heid⟩ := Bool.and_eq_true_iff.mp hfound
  exact ⟨hactive, eq_of_beq heid⟩

theorem not_entryOf_of_unsolSlot (h : unsolSlot s e = none) : ¬ EntryOf s.unsolCtrl e i := by
  rintro ⟨hactive, heid⟩
  have hnot := List.find?_eq_none.mp h i (List.mem_finRange i)
  rw [hactive, heid, beq_self_eq_true] at hnot
  exact hnot rfl

theorem registered_iff : registered s e ↔ ∃ i, EntryOf s.unsolCtrl e i := by
  unfold registered
  cases hslot : unsolSlot s e with
  | some i => exact iff_of_true rfl ⟨i, entryOf_of_unsolSlot hslot⟩
  | none => exact iff_of_false Bool.noConfusion fun ⟨i, hi⟩ => not_entryOf_of_unsolSlot hslot hi

theorem inactive_of_unsolFreeSlot (h : unsolFreeSlot s = some i) :
    (s.unsolCtrl i).active = false := by
  have hfound := List.find?_some h
  simpa using hfound

theorem active_of_unsolFreeSlot (h : unsolFreeSlot s = none) : (s.unsolCtrl i).active := by
  have hnot := List.find?_eq_none.mp h i (List.mem_finRange i)
  simpa using hnot

end Slots

-- ---------------------------------------------------------------------------
-- Changes of the table
-- ---------------------------------------------------------------------------

def nextSeq (u : UnsolCtrl) : UnsolCtrl :=
  if u.active then { u with unsolSeqId := u.unsolSeqId + 1 } else u

def entryNotice (u : UnsolCtrl) : Notice := ⟨u.mac, u.controllerEid, u.unsolSeqId⟩

/-- What a push sends. -/
def pushNotices (t : Table) : List Notice :=
  (List.finRange avdeccMaxUnsolCtrl).flatMap fun i =>
    if (t i).active then [entryNotice (t i)] else []

/-- What a call does to the table, and the notifications it sends. -/
inductive Change (t : Table) : Table → List Notice → Prop
  | keep : Change t t []
  | renew (i) (mac : MacAddr) (h : (t i).active) :
      Change t (Function.update t i { t i with mac := mac }) []
  | enter (i) (e : EntityId) (mac : MacAddr) (hfree : (t i).active = false)
      (hnew : ∀ j, ¬ EntryOf t e j) : Change t (Function.update t i ⟨true, e, mac, 0⟩) []
  | leave (i) : Change t (Function.update t i { t i with active := false }) []
  | push : Change t (fun i => nextSeq (t i)) (pushNotices t)

theorem registerUnsolicited_change (s : Avdecc) (e : EntityId) (mac : MacAddr) :
    Change s.unsolCtrl (registerUnsolicited s e mac).unsolCtrl [] := by
  unfold registerUnsolicited
  cases hslot : unsolSlot s e with
  | some i =>
    obtain ⟨hactive, heid⟩ := entryOf_of_unsolSlot hslot
    have hentry : { s.unsolCtrl i with active := true, controllerEid := e, mac := mac } =
        { s.unsolCtrl i with mac := mac } := by
      rw [← heid, ← hactive]
    show Change s.unsolCtrl (Function.update s.unsolCtrl i _) []
    rw [hentry]
    exact .renew i mac hactive
  | none =>
    cases hfree : unsolFreeSlot s with
    | some i =>
      exact .enter i e mac (inactive_of_unsolFreeSlot hfree) fun _ => not_entryOf_of_unsolSlot hslot
    | none => exact .keep

theorem deregisterUnsolicited_change (s : Avdecc) (e : EntityId) :
    Change s.unsolCtrl (deregisterUnsolicited s e).unsolCtrl [] := by
  unfold deregisterUnsolicited
  cases unsolSlot s e with
  | some i => exact .leave i
  | none => exact .keep

-- ---------------------------------------------------------------------------
-- What a call does
-- ---------------------------------------------------------------------------

theorem noticeOf_unsolFrame (s : Avdecc) (c : UnsolCtrl) (cmd cdl : UInt16)
    (payload : List UInt8) :
    noticeOf (unsolFrame s c cmd cdl payload) = ⟨c.mac, c.controllerEid, c.unsolSeqId⟩ := by
  have hholds := Buffer.holds_ofList (unsolFrame s c cmd cdl payload)
  rw [noticeOf]
  generalize Buffer.ofList (unsolFrame s c cmd cdl payload) = b at hholds ⊢
  unfold unsolFrame at hholds
  iterate 9 rw [Buffer.holds_append] at hholds
  obtain ⟨⟨⟨⟨⟨⟨⟨⟨⟨hmac, -⟩, -⟩, -⟩, -⟩, -⟩, heid⟩, hseq⟩, -⟩, -⟩ := hholds
  simp only [List.length_append, Vector.length_toList, be16_length, List.length_cons,
    List.length_nil] at heid hseq
  have hmac' : b.bytes 6 = c.mac := hmac.bytes
  have heid' : ((b.offset 14).offset aecpOffControllerId).bytes 8 = c.controllerEid :=
    Buffer.Holds.bytes (Buffer.holds_offset.mpr (Buffer.holds_offset.mpr heid))
  have hseq' : getBe16 ((b.offset 14).offset aecpOffSeqId) = c.unsolSeqId :=
    (Buffer.holds_offset.mpr hseq).getBe16
  rw [hmac', heid', hseq']

section Push

variable (cmd cdl : UInt16) (payload : List UInt8)

theorem pushTo_table (s : Avdecc) (i : Fin avdeccMaxUnsolCtrl) :
    (pushTo cmd cdl payload s i).1.unsolCtrl =
      Function.update s.unsolCtrl i (nextSeq (s.unsolCtrl i)) := by
  unfold pushTo nextSeq
  dsimp only
  split
  · rfl
  · exact (Function.update_eq_self ..).symm

theorem pushTo_notices (s : Avdecc) (i : Fin avdeccMaxUnsolCtrl) :
    (pushTo cmd cdl payload s i).2.map noticeOf =
      if (s.unsolCtrl i).active then [entryNotice (s.unsolCtrl i)] else [] := by
  unfold pushTo
  dsimp only
  split
  · exact congrArg (fun n => [n]) (noticeOf_unsolFrame ..)
  · rfl

/-- Of the entries a push goes through, each active one is sent a
notification and counts it. -/
theorem pushUnsol_spec {indices : List (Fin avdeccMaxUnsolCtrl)} (hnodup : indices.Nodup)
    (s : Avdecc) :
    ((pushUnsol cmd cdl payload indices s).1.unsolCtrl = fun i =>
        if i ∈ indices then nextSeq (s.unsolCtrl i) else s.unsolCtrl i) ∧
      (pushUnsol cmd cdl payload indices s).2.map noticeOf =
        indices.flatMap fun i =>
          if (s.unsolCtrl i).active then [entryNotice (s.unsolCtrl i)] else [] := by
  induction indices generalizing s with
  | nil => exact ⟨rfl, rfl⟩
  | cons i rest ih =>
    obtain ⟨hi, hrest⟩ := List.nodup_cons.mp hnodup
    obtain ⟨htable, hnotices⟩ := ih hrest (pushTo cmd cdl payload s i).1
    have hother (j : Fin avdeccMaxUnsolCtrl) (hj : j ≠ i) :
        (pushTo cmd cdl payload s i).1.unsolCtrl j = s.unsolCtrl j := by
      rw [pushTo_table, Function.update_of_ne hj]
    rw [pushUnsol]
    constructor
    · refine htable.trans (funext fun j => ?_)
      by_cases hj : j = i
      · subst hj
        rw [if_neg hi, if_pos List.mem_cons_self, pushTo_table, Function.update_self]
      · rw [hother j hj]
        simp only [List.mem_cons, hj, false_or]
    · rw [List.map_append, hnotices, pushTo_notices, List.flatMap_cons]
      refine congrArg _ (List.flatMap_congr fun j hj => ?_)
      rw [hother j fun h => hi (h ▸ hj)]

theorem pushAll_spec (s : Avdecc) :
    (pushUnsol cmd cdl payload (List.finRange avdeccMaxUnsolCtrl) s).1.unsolCtrl =
        (fun i => nextSeq (s.unsolCtrl i)) ∧
      (pushUnsol cmd cdl payload (List.finRange avdeccMaxUnsolCtrl) s).2.map noticeOf =
        pushNotices s.unsolCtrl := by
  obtain ⟨htable, hnotices⟩ := pushUnsol_spec cmd cdl payload (List.nodup_finRange _) s
  refine ⟨htable.trans (funext fun i => if_pos (List.mem_finRange i)), hnotices⟩

theorem pushUnsol_change (s : Avdecc) :
    Change s.unsolCtrl
      (pushUnsol cmd cdl payload (List.finRange avdeccMaxUnsolCtrl) s).1.unsolCtrl
      ((pushUnsol cmd cdl payload (List.finRange avdeccMaxUnsolCtrl) s).2.map noticeOf) := by
  obtain ⟨htable, hnotices⟩ := pushAll_spec cmd cdl payload s
  rw [htable, hnotices]
  exact .push

end Push

section Aecp

variable (s : Avdecc) (c : AecpCommand)

theorem setClockSource_table : (aemSetClockSource s c).1.unsolCtrl = s.unsolCtrl := by
  unfold aemSetClockSource
  dsimp only
  split
  · rfl
  · split <;> rfl

/-- Only the two registration commands touch the table. -/
theorem aemCommand_table (cmdType : UInt16) :
    (aemCommand s c cmdType).1.unsolCtrl =
      if cmdType = aemCmdRegisterUnsolicited then
        (registerUnsolicited s (controllerOf c) (senderOf c)).unsolCtrl
      else if cmdType = aemCmdDeregisterUnsolicited then
        (deregisterUnsolicited s (controllerOf c)).unsolCtrl
      else s.unsolCtrl := by
  unfold aemCommand
  by_cases hregister : cmdType = aemCmdRegisterUnsolicited
  · subst hregister
    rfl
  by_cases hderegister : cmdType = aemCmdDeregisterUnsolicited
  · subst hderegister
    rfl
  rw [if_neg hregister, if_neg hregister, if_neg hderegister, if_neg hderegister]
  iterate 12 refine fst_ite Avdecc.unsolCtrl rfl ?_
  exact fst_ite Avdecc.unsolCtrl (setClockSource_table s c) (fst_ite Avdecc.unsolCtrl rfl rfl)

theorem registerUnsolicited_counted (e : EntityId) (mac : MacAddr) :
    (registerUnsolicited (counted s) e mac).unsolCtrl =
      (registerUnsolicited s e mac).unsolCtrl := by
  have hslot : unsolSlot (counted s) e = unsolSlot s e := rfl
  have hfree : unsolFreeSlot (counted s) = unsolFreeSlot s := rfl
  unfold registerUnsolicited
  rw [hslot, hfree]
  split <;> rfl

theorem deregisterUnsolicited_counted (e : EntityId) :
    (deregisterUnsolicited (counted s) e).unsolCtrl = (deregisterUnsolicited s e).unsolCtrl := by
  have hslot : unsolSlot (counted s) e = unsolSlot s e := rfl
  unfold deregisterUnsolicited
  rw [hslot]
  split <;> rfl

theorem sentOutcome_table (r : Avdecc × AecpReply) (slot : Buffer) :
    (sentOutcome r slot).state.unsolCtrl = r.1.unsolCtrl := by
  unfold sentOutcome
  split <;> rfl

theorem mvuHandle_table : (mvuHandle s c).state.unsolCtrl = s.unsolCtrl := by
  unfold mvuHandle
  split
  · rfl
  · dsimp only
    split
    · rfl
    · split
      · split <;> rfl
      · rfl

theorem commands_iff {cmd : UInt16} : commands s c cmd ↔
    c.pdu 1 &&& 0x0F = aecpMsgAemCommand ∧ targetsUs s c ∧ aemCmdType c = cmd := by
  simp only [commands, Bool.and_eq_true, beq_iff_eq, and_assoc]

theorem aecpHandle_table :
    (aecpHandle s c).state.unsolCtrl =
      if commands s c aemCmdRegisterUnsolicited then
        (registerUnsolicited s (controllerOf c) (senderOf c)).unsolCtrl
      else if commands s c aemCmdDeregisterUnsolicited then
        (deregisterUnsolicited s (controllerOf c)).unsolCtrl
      else s.unsolCtrl := by
  simp only [commands_iff]
  by_cases hus : c.pdu 1 &&& 0x0F = aecpMsgAemCommand ∧ targetsUs s c
  · have hhandled : aecpHandle s c = sentOutcome (aemReply s c c.slot) c.slot :=
      aecpHandle_aem hus.1 hus.2 c.slot
    rw [hhandled, sentOutcome_table]
    refine (aemCommand_table (counted s) (c.withSlot c.slot) (aemCmdType c)).trans ?_
    rw [registerUnsolicited_counted, deregisterUnsolicited_counted]
    simp only [hus, true_and]
    rfl
  · rw [if_neg fun h => hus ⟨h.1, h.2.1⟩, if_neg fun h => hus ⟨h.1, h.2.1⟩]
    unfold aecpHandle
    dsimp only
    split
    · exact mvuHandle_table s c
    split
    · rfl
    · rename_i _ haem
      rw [if_pos]
      by_contra htargets
      exact hus ⟨not_not.mp haem, by simpa using htargets⟩

theorem aecpHandle_change : Change s.unsolCtrl (aecpHandle s c).state.unsolCtrl [] := by
  rw [aecpHandle_table]
  split
  · exact registerUnsolicited_change ..
  split
  · exact deregisterUnsolicited_change ..
  · exact .keep

end Aecp

theorem step_change (s : Avdecc) (call : Call) :
    Change s.unsolCtrl (step s call).unsolCtrl (notices s call) := by
  cases call with
  | aecp c => exact aecpHandle_change s c
  | pushCounters dt di valid counters => exact pushUnsol_change ..
  | pushStreamInfo dt di => exact pushUnsol_change ..
  | other rest => exact .keep

-- ---------------------------------------------------------------------------
-- One entry for each controller
-- ---------------------------------------------------------------------------

section Entries

variable {t t' : Table} {sent : List Notice} {e : EntityId} {i j : Fin avdeccMaxUnsolCtrl}

theorem entryOf_renew {mac : MacAddr} :
    EntryOf (Function.update t i { t i with mac := mac }) e j ↔ EntryOf t e j := by
  by_cases hj : j = i
  · subst hj
    rw [EntryOf, Function.update_self]
    rfl
  · rw [EntryOf, Function.update_of_ne hj]
    rfl

theorem entryOf_enter {new : EntityId} {mac : MacAddr} (hfree : (t i).active = false) :
    EntryOf (Function.update t i ⟨true, new, mac, 0⟩) e j ↔ j = i ∧ e = new ∨ EntryOf t e j := by
  by_cases hj : j = i
  · subst hj
    have hnone : ¬ EntryOf t e j := fun h => Bool.false_ne_true (hfree.symm.trans h.1)
    rw [EntryOf, Function.update_self]
    simp [hnone, eq_comm]
  · rw [EntryOf, Function.update_of_ne hj]
    simp [hj, EntryOf]

theorem entryOf_leave : EntryOf (Function.update t i { t i with active := false }) e j ↔
    j ≠ i ∧ EntryOf t e j := by
  by_cases hj : j = i
  · subst hj
    rw [EntryOf, Function.update_self]
    simp
  · rw [EntryOf, Function.update_of_ne hj]
    simp [hj, EntryOf]

theorem nextSeq_active {u : UnsolCtrl} (h : u.active) :
    nextSeq u = { u with unsolSeqId := u.unsolSeqId + 1 } := if_pos h

theorem entryOf_push : EntryOf (fun i => nextSeq (t i)) e j ↔ EntryOf t e j := by
  unfold EntryOf nextSeq
  dsimp only
  split <;> rfl

theorem Unique.change (h : Unique t) (hchange : Change t t' sent) : Unique t' := by
  intro e j k hj hk
  cases hchange with
  | keep => exact h e j k hj hk
  | renew i mac _ => exact h e j k (entryOf_renew.mp hj) (entryOf_renew.mp hk)
  | enter i new mac hfree hnew =>
    rcases (entryOf_enter hfree).mp hj with ⟨hji, rfl⟩ | hj'
    · rcases (entryOf_enter hfree).mp hk with ⟨hki, -⟩ | hk'
      · exact hji.trans hki.symm
      · exact absurd hk' (hnew k)
    · rcases (entryOf_enter hfree).mp hk with ⟨-, rfl⟩ | hk'
      · exact absurd hj' (hnew j)
      · exact h e j k hj' hk'
  | leave i => exact h e j k (entryOf_leave.mp hj).2 (entryOf_leave.mp hk).2
  | push => exact h e j k (entryOf_push.mp hj) (entryOf_push.mp hk)

theorem flatMap_single {ι α : Type} {l : List ι} {f : ι → List α} {i : ι} (hnodup : l.Nodup)
    (hmem : i ∈ l) (h : ∀ j ∈ l, j ≠ i → f j = []) : l.flatMap f = f i := by
  induction l with
  | nil => cases hmem
  | cons j rest ih =>
    obtain ⟨hj, hrest⟩ := List.nodup_cons.mp hnodup
    rw [List.flatMap_cons]
    rcases List.mem_cons.mp hmem with rfl | hmem
    · have hnone : rest.flatMap f = [] := List.flatMap_eq_nil_iff.mpr fun k hk =>
        h k (List.mem_cons_of_mem _ hk) fun heq => hj (heq ▸ hk)
      rw [hnone, List.append_nil]
    · have hfirst : f j = [] := h j List.mem_cons_self fun heq => hj (heq ▸ hmem)
      rw [hfirst, List.nil_append]
      exact ih hrest hmem fun k hk => h k (List.mem_cons_of_mem _ hk)

theorem noticesTo_entry (t : Table) (e : EntityId) :
    noticesTo e (pushNotices t) = (List.finRange avdeccMaxUnsolCtrl).flatMap fun i =>
      noticesTo e (if (t i).active then [entryNotice (t i)] else []) :=
  List.filter_flatMap ..

theorem noticesTo_none (h : ¬ EntryOf t e i) :
    noticesTo e (if (t i).active then [entryNotice (t i)] else []) = [] := by
  split
  · rename_i hactive
    have hother : ((entryNotice (t i)).controllerEid == e) = false :=
      beq_eq_false_iff_ne.mpr fun heid => h ⟨hactive, heid⟩
    rw [noticesTo, List.filter_cons_of_neg (by rw [hother]; decide), List.filter_nil]
  · rfl

/-- A push sends one notification to a controller with an entry. -/
theorem noticesTo_registered (h : Unique t) (hi : EntryOf t e i) :
    noticesTo e (pushNotices t) = [entryNotice (t i)] := by
  rw [noticesTo_entry]
  refine (flatMap_single (List.nodup_finRange _) (List.mem_finRange i) fun j _ hj =>
    noticesTo_none fun hentry => hj (h e j i hentry hi)).trans ?_
  rw [if_pos hi.1]
  simp [noticesTo, entryNotice, hi.2]

theorem noticesTo_unregistered (h : ∀ i, ¬ EntryOf t e i) : noticesTo e (pushNotices t) = [] := by
  rw [noticesTo_entry]
  exact List.flatMap_eq_nil_iff.mpr fun i _ => noticesTo_none (h i)

end Entries

-- ---------------------------------------------------------------------------
-- The numbers a controller is sent
-- ---------------------------------------------------------------------------

/-- The numbers each controller has been sent since it was last entered
anew. -/
abbrev Log := EntityId → List UInt16

def note (log : Log) (s : Avdecc) (call : Call) : Log := fun e =>
  if registered (step s call) e && !registered s e then []
  else log e ++ (noticesTo e (notices s call)).map Notice.seqId

def logged (mac : MacAddr) : Machine (Avdecc × Log) Call :=
  (machine mac).withHistory (fun _ => []) note

/-- The first `n` numbers, from 0 and past the wrap. -/
def firstSeqs (n : Nat) : List UInt16 := (List.range n).map UInt16.ofNat

theorem firstSeqs_succ (n : Nat) : firstSeqs (n + 1) = firstSeqs n ++ [UInt16.ofNat n] := by
  rw [firstSeqs, List.range_succ, List.map_append]
  rfl

/-- What a controller has been sent is numbered with no gap, and its entry
holds the next number. -/
structure Numbered (t : Table) (e : EntityId) (sent : List UInt16) : Prop where
  gapFree : sent = firstSeqs sent.length
  next : ∀ i, EntryOf t e i → (t i).unsolSeqId = UInt16.ofNat sent.length

section Step

variable {t t' : Table} {sent : List Notice} {e : EntityId} {seqs : List UInt16}

theorem Change.entered (h : Change t t' sent) (hnew : ∀ i, ¬ EntryOf t e i) :
    Numbered t' e [] := by
  refine ⟨rfl, fun j hj => ?_⟩
  cases h with
  | keep => exact absurd hj (hnew j)
  | renew i mac _ => exact absurd (entryOf_renew.mp hj) (hnew j)
  | enter i new mac hfree _ =>
    rcases (entryOf_enter hfree).mp hj with ⟨rfl, -⟩ | hj'
    · rw [Function.update_self]
      rfl
    · exact absurd hj' (hnew j)
  | leave i => exact absurd (entryOf_leave.mp hj).2 (hnew j)
  | push => exact absurd (entryOf_push.mp hj) (hnew j)

/-- A controller that is not entered anew is numbered on. -/
theorem Numbered.change (h : Numbered t e seqs) (hunique : Unique t) (hchange : Change t t' sent)
    (hold : ∀ j, EntryOf t' e j → ∃ i, EntryOf t e i) :
    Numbered t' e (seqs ++ (noticesTo e sent).map Notice.seqId) := by
  cases hchange with
  | keep =>
    rw [noticesTo, List.filter_nil, List.map_nil, List.append_nil]
    exact h
  | renew i mac _ =>
    rw [noticesTo, List.filter_nil, List.map_nil, List.append_nil]
    refine ⟨h.gapFree, fun j hj => ?_⟩
    rw [← h.next j (entryOf_renew.mp hj)]
    by_cases hji : j = i
    · subst hji
      rw [Function.update_self]
    · rw [Function.update_of_ne hji]
  | enter i new mac hfree hnew =>
    rw [noticesTo, List.filter_nil, List.map_nil, List.append_nil]
    refine ⟨h.gapFree, fun j hj => ?_⟩
    rcases (entryOf_enter hfree).mp hj with ⟨-, rfl⟩ | hj'
    · obtain ⟨k, hk⟩ := hold j hj
      exact absurd hk (hnew k)
    · have hji : j ≠ i := by
        rintro rfl
        exact Bool.false_ne_true (hfree.symm.trans hj'.1)
      rw [Function.update_of_ne hji]
      exact h.next j hj'
  | leave i =>
    rw [noticesTo, List.filter_nil, List.map_nil, List.append_nil]
    refine ⟨h.gapFree, fun j hj => ?_⟩
    obtain ⟨hji, hj'⟩ := entryOf_leave.mp hj
    rw [Function.update_of_ne hji]
    exact h.next j hj'
  | push =>
    by_cases hregistered : ∃ i, EntryOf t e i
    · obtain ⟨i, hi⟩ := hregistered
      rw [noticesTo_registered hunique hi, List.map_singleton]
      have hnext : (entryNotice (t i)).seqId = UInt16.ofNat seqs.length := h.next i hi
      rw [hnext]
      refine ⟨?_, fun j hj => ?_⟩
      · rw [List.length_append, List.length_singleton, firstSeqs_succ, ← h.gapFree]
      · have hj' := entryOf_push.mp hj
        rw [nextSeq_active hj'.1, List.length_append, List.length_singleton, UInt16.ofNat_add]
        exact congrArg (· + 1) (h.next j hj')
    · push Not at hregistered
      rw [noticesTo_unregistered hregistered, List.map_nil, List.append_nil]
      exact ⟨h.gapFree, fun j hj => absurd (entryOf_push.mp hj) (hregistered j)⟩

theorem Numbered.step {s : Avdecc} {log : Log} (hunique : Unique s.unsolCtrl)
    (h : Numbered s.unsolCtrl e (log e)) (call : Call) :
    Numbered (UnsolTable.step s call).unsolCtrl e (note log s call e) := by
  have hchange := step_change s call
  unfold note
  split
  · rename_i hentered
    obtain ⟨-, hnew⟩ := Bool.and_eq_true_iff.mp hentered
    refine hchange.entered fun i hi => ?_
    rw [registered_iff.mpr ⟨i, hi⟩] at hnew
    cases hnew
  · rename_i hkept
    refine h.change hunique hchange fun j hj => ?_
    by_contra hnew
    have hnot : registered s e = false := Bool.eq_false_iff.mpr fun hr => hnew (registered_iff.mp hr)
    rw [registered_iff.mpr ⟨j, hj⟩, hnot] at hkept
    exact hkept rfl

end Step

/-- In every run, no two active entries are one controller's, and what a
controller has been sent since it was last entered anew is numbered from 0
with no gap, past the wrap. -/
theorem notices_gapFree (mac : MacAddr) (run : List Call) :
    Unique ((logged mac).run run).1.unsolCtrl ∧
      ∀ e, ((logged mac).run run).2 e = firstSeqs (((logged mac).run run).2 e).length := by
  have hinvariant : Unique ((logged mac).run run).1.unsolCtrl ∧
      ∀ e, Numbered ((logged mac).run run).1.unsolCtrl e (((logged mac).run run).2 e) := by
    refine Machine.run_invariant (m := logged mac)
      (I := fun x => Unique x.1.unsolCtrl ∧ ∀ e, Numbered x.1.unsolCtrl e (x.2 e)) ?_ ?_ run
    · exact ⟨fun _ _ _ hi => Bool.noConfusion hi.1, fun _ => ⟨rfl, fun _ hi => Bool.noConfusion hi.1⟩⟩
    · rintro ⟨s, log⟩ call ⟨hunique, hnumbered⟩
      exact ⟨hunique.change (step_change s call), fun e => (hnumbered e).step hunique call⟩
  exact ⟨hinvariant.1, fun e => (hinvariant.2 e).gapFree⟩

end AvbAes3.UnsolTable
