import AvbAes3.UlpiPackets

/-!
# The registers ulpi_wrapper writes

A change of the UTMI mode is written to the PHY's FUNC_CTRL, a change of the
pull-downs to OTG_CTRL. The PHY may take the bus at any time and a write that
it interrupts is made again. A change while the write of an earlier one is
under way is not written, as the end of that write clears the update.

`registers_mirrored`: where no change comes while its register is being
written, the PHY's registers hold what the device asks for whenever no update
waits.
-/

namespace AvbAes3.UlpiWrapper

-- ---------------------------------------------------------------------------
-- What the PHY's registers hold
-- ---------------------------------------------------------------------------

def addrFuncCtrl : BitVec 6 := 0x04#6
def addrOtgCtrl : BitVec 6 := 0x0a#6

def Seen.value? (address : BitVec 6) : Seen → Option Byte
  | .packet _ => none
  | .write at_ value => if at_ = address then some value else none

/-- The values the PHY has taken for a register, the latest last. -/
def Watch.written (w : Watch) (address : BitVec 6) : List Byte := w.seen.filterMap (Seen.value? address)

/-- The mode is in FUNC_CTRL, or has never changed since reset. -/
def ModeWritten (m : Mode) (written : List Byte) : Prop :=
  written = [] ∧ m = reset.mode ∨
    ∃ phyReset, written.getLast? = some (funcCtrl { m with phyReset := phyReset })

def OtgWritten (o : Otg) (written : List Byte) : Prop :=
  written = [] ∧ o = reset.otg ∨ written.getLast? = some (otgCtrl o)

/-- The first write resets the PHY, and no other. -/
def ResetsOnce (written : List Byte) : Prop :=
  ∀ i value, written[i]? = some value → value.getLsbD 5 = decide (i = 0)

structure Mirrored (s : Wrapper × Watch) : Prop where
  mode : s.1.mode.update = false → ModeWritten s.1.mode (s.2.written addrFuncCtrl)
  otg : s.1.otg.update = false → OtgWritten s.1.otg (s.2.written addrOtgCtrl)
  reset : ResetsOnce (s.2.written addrFuncCtrl)

-- ---------------------------------------------------------------------------
-- What the PHY and the device do
-- ---------------------------------------------------------------------------

/-- The PHY does not assert NXT in the cycle in which it leaves the bus. -/
def LeavesBus (s : Wrapper) (c : Cycle) : Prop := s.dir = true → c.dir = false → c.nxt = false

instance (s : Wrapper) (c : Cycle) : Decidable (LeavesBus s c) :=
  inferInstanceAs (Decidable (_ → _ → _))

def LinkState.Writes (state : LinkState) : Prop := state = .cmd ∨ state = .reg

instance (state : LinkState) : Decidable state.Writes := inferInstanceAs (Decidable (_ ∨ _))

/-- From the cycle that begins the write of the mode to the one that ends
it. -/
def WritesMode (s : Wrapper) (c : Cycle) : Prop :=
  (s.link.state = .idle ∧ s.mode.update = true ∧ linkOwns s c = true) ∨
    (s.link.state.Writes ∧ s.link.modeWrite = true)

def WritesOtg (s : Wrapper) (c : Cycle) : Prop :=
  (s.link.state = .idle ∧ s.mode.update = false ∧ s.otg.update = true ∧ linkOwns s c = true) ∨
    (s.link.state.Writes ∧ s.link.otgWrite = true)

instance (s : Wrapper) (c : Cycle) : Decidable (WritesMode s c) :=
  inferInstanceAs (Decidable ((_ ∧ _ ∧ _) ∨ _ ∧ _))

instance (s : Wrapper) (c : Cycle) : Decidable (WritesOtg s c) :=
  inferInstanceAs (Decidable ((_ ∧ _ ∧ _ ∧ _) ∨ _ ∧ _))

/-- The device holds still what is being written. -/
def Held (s : Wrapper) (c : Cycle) : Prop :=
  (WritesMode s c → ¬ s.mode.Changed c) ∧ (WritesOtg s c → ¬ s.otg.Changed c)

instance (s : Wrapper) (c : Cycle) : Decidable (Held s c) :=
  inferInstanceAs (Decidable ((_ → ¬ _) ∧ (_ → ¬ _)))

-- ---------------------------------------------------------------------------
-- What a cycle does to a write
-- ---------------------------------------------------------------------------

/-- No write ends in this cycle. -/
structure Unwritten (s : Wrapper) (c : Cycle) (p : Phy) : Prop where
  mode : modeComplete s c = false
  otg : otgComplete s c = false
  seen : ∀ address, (p.seen s c).bind (Seen.value? address) = none

inductive Turn (s : Wrapper) (c : Cycle) (p : Phy) (l : Link) : Prop
  | mode (writes : WritesMode s c) (modeWrite : l.modeWrite = true) (otgWrite : l.otgWrite = false)
    (data : l.data = funcCtrl s.mode) (update : s.mode.update = true) (unwritten : Unwritten s c p)
  | otg (writes : WritesOtg s c) (modeWrite : l.modeWrite = false) (otgWrite : l.otgWrite = true)
    (data : l.data = otgCtrl s.otg) (update : s.otg.update = true) (unwritten : Unwritten s c p)
  | goesOn (state : s.link.state.Writes) (modeWrite : l.modeWrite = s.link.modeWrite)
    (otgWrite : l.otgWrite = s.link.otgWrite) (data : l.data = s.link.data)
    (unwritten : Unwritten s c p)
  | ends (state : s.link.state.Writes) (after : ¬ l.state.Writes)
    (mode : modeComplete s c = s.link.modeWrite) (otg : otgComplete s c = s.link.otgWrite)
    (seen : p.seen s c = some (.write (s.link.register.setWidth 6) s.link.data))
  | rests (after : ¬ l.state.Writes) (unwritten : Unwritten s c p)

section Turn

variable {s : Wrapper} {c : Cycle} {p : Phy}

/-- The PHY takes a register's value only from the link. -/
theorem Phy.seen_unwritten (htaken : taken s c = false) (address : BitVec 6) :
    (p.seen s c).bind (Seen.value? address) = none := by
  cases p with
  | idle => rfl
  | packet bytes =>
    rw [Phy.seen]
    split <;> rfl
  | write at_ =>
    rw [Phy.seen, htaken]
    rfl

/-- A write ends where the link owns the bus, or NXT is low. -/
theorem Unwritten.suspended (howns : linkOwns s c = false) (hleaves : LeavesBus s c) :
    Unwritten s c p := by
  have hnot : (c.nxt && !c.dir) = false := by
    cases hbefore : s.dir with
    | false =>
      have hdir : c.dir = true := by simpa [linkOwns, hbefore] using howns
      rw [hdir, Bool.not_true, Bool.and_false]
    | true =>
      cases hdir : c.dir with
      | false => rw [hleaves hbefore hdir, Bool.false_and]
      | true => rw [Bool.not_true, Bool.and_false]
  refine ⟨?_, ?_, Phy.seen_unwritten (by rw [taken, howns, Bool.false_and])⟩
  · rw [modeComplete, Bool.and_assoc, hnot, Bool.and_false]
  · rw [otgComplete, Bool.and_assoc, hnot, Bool.and_false]

theorem turn_suspended (howns : linkOwns s c = false)
    (hleaves : LeavesBus s c) : Turn s c p (nextLink s c) := by
  have hunwritten : Unwritten s c p := .suspended howns hleaves
  have hlink := nextLink_suspended (s := s) (c := c) howns
  by_cases hwrites : s.link.state.Writes
  · exact .goesOn hwrites hlink.modeWrite hlink.otgWrite hlink.data hunwritten
  · refine .rests ?_ hunwritten
    obtain ⟨hstate, -, -⟩ | ⟨-, hstate, -⟩ := hlink.kept
    · rwa [hstate]
    · rw [hstate]
      decide

/-- A write ends in the state `reg`. -/
theorem Unwritten.state (h : s.link.state ≠ .reg)
    (hseen : ∀ address, (p.seen s c).bind (Seen.value? address) = none) : Unwritten s c p where
  mode := by simp [modeComplete, h]
  otg := by simp [otgComplete, h]
  seen := hseen

theorem turn_idle (h : s.link.state = .idle) (howns : linkOwns s c = true)
    (hunwritten : Unwritten s c p) : Turn s c p (s.link.cleared.output s c.nxt) := by
  rw [output_idle (l := s.link.cleared) h]
  split
  · rename_i hmode
    exact .mode (.inl ⟨h, hmode, howns⟩) rfl rfl rfl hmode hunwritten
  rename_i hmode
  split
  · rename_i hotg
    exact .otg (.inl ⟨h, Bool.not_eq_true _ ▸ hmode, hotg, howns⟩) rfl rfl rfl hotg hunwritten
  split
  · exact .rests (fun hafter => by rcases hafter with hafter | hafter <;> cases hafter) hunwritten
  · refine .rests (fun hafter => ?_) hunwritten
    rcases hafter with hafter | hafter <;> exact absurd (h.symm.trans hafter) (by decide)

theorem turn_owned (h : Aligned s.dir s.link p) (howns : linkOwns s c = true) :
    Turn s c p (nextLink s c) := by
  obtain ⟨hbefore, hdir⟩ : s.dir = false ∧ c.dir = false := by simpa [linkOwns] using howns
  have htaken : taken s c = c.nxt := by rw [taken, howns, Bool.true_and]
  rw [nextLink_owned howns]
  cases h with
  | idle state data =>
    exact turn_idle state howns (.state (by rw [state]; decide) fun _ => rfl)
  | stop state data stp =>
    refine turn_idle state howns (.state (by rw [state]; decide) fun _ => ?_)
    rw [Phy.seen, if_pos stp]
    rfl
  | cmd state data =>
    have hunwritten : Unwritten s c .idle := .state (by rw [state]; decide) fun _ => rfl
    rw [output_cmd (l := s.link.cleared) state]
    split <;> exact .goesOn (.inl state) rfl rfl rfl hunwritten
  | reg state owned data =>
    rw [output_reg (l := s.link.cleared) state]
    cases hnxt : c.nxt with
    | false =>
      refine .goesOn (.inr state) rfl rfl rfl ⟨?_, ?_, Phy.seen_unwritten (htaken.trans hnxt)⟩
      · simp [modeComplete, hnxt]
      · simp [otgComplete, hnxt]
    | true =>
      refine .ends (.inr state) ?_ ?_ ?_ ?_
      · rintro (hafter | hafter) <;> cases hafter
      · simp [modeComplete, state, hnxt, hdir]
      · simp [otgComplete, state, hnxt, hdir]
      · rw [Phy.seen, htaken, hnxt, if_pos rfl, data]
  | interrupted state busy => exact absurd (hbefore.symm.trans busy) Bool.false_ne_true
  | start state data =>
    rw [output_data (l := s.link.cleared) state]
    refine .rests ?_ (.state (by rw [state]; decide) fun _ => rfl)
    split_ifs <;> simp [LinkState.Writes, Link.cleared, state]
  | sending state stp =>
    rw [output_data (l := s.link.cleared) state]
    refine .rests ?_ (.state (by rw [state]; decide) fun _ => ?_)
    · split_ifs <;> simp [LinkState.Writes, Link.cleared, state]
    · rw [Phy.seen, stp]
      rfl

theorem turn (h : Aligned s.dir s.link p) (hleaves : LeavesBus s c) :
    Turn s c p (nextLink s c) := by
  cases howns : linkOwns s c with
  | false => exact turn_suspended howns hleaves
  | true => exact turn_owned h howns

end Turn

-- ---------------------------------------------------------------------------
-- The mode and the pull-downs
-- ---------------------------------------------------------------------------

section Latches

variable {c : Cycle}

theorem Mode.next_same {m : Mode} (h : ¬ m.Changed c) : m.next false c = m := by
  simp only [Mode.Changed, not_or, not_not] at h
  obtain ⟨hopmode, htermselect, hxcvrselect⟩ := h
  simp [Mode.next, Mode.Changed, ← hopmode, ← htermselect, ← hxcvrselect]

theorem Mode.next_complete {m : Mode} (h : ¬ m.Changed c) (hupdate : m.update = true) :
    m.next true c = { m with update := false, phyReset := false } := by
  simp only [Mode.Changed, not_or, not_not] at h
  obtain ⟨hopmode, htermselect, hxcvrselect⟩ := h
  simp [Mode.next, hupdate, ← hopmode, ← htermselect, ← hxcvrselect]

/-- Without an update that waits nothing has changed. -/
theorem Mode.next_settled {m : Mode} (h : (m.next false c).update = false) :
    m.update = false ∧ m.next false c = m := by
  have hsame : ¬ m.Changed c := by
    intro hchanged
    simp [Mode.next, hchanged] at h
  rw [Mode.next_same hsame] at h ⊢
  exact ⟨h, rfl⟩

theorem Otg.next_same {o : Otg} (h : ¬ o.Changed c) : o.next false c = o := by
  simp only [Otg.Changed, not_or, not_not] at h
  obtain ⟨hdppulldown, hdmpulldown⟩ := h
  simp [Otg.next, Otg.Changed, ← hdppulldown, ← hdmpulldown]

theorem Otg.next_complete {o : Otg} (h : ¬ o.Changed c) (hupdate : o.update = true) :
    o.next true c = { o with update := false } := by
  simp only [Otg.Changed, not_or, not_not] at h
  obtain ⟨hdppulldown, hdmpulldown⟩ := h
  simp [Otg.next, hupdate, ← hdppulldown, ← hdmpulldown]

theorem Otg.next_settled {o : Otg} (h : (o.next false c).update = false) :
    o.update = false ∧ o.next false c = o := by
  have hsame : ¬ o.Changed c := by
    intro hchanged
    simp [Otg.next, hchanged] at h
  rw [Otg.next_same hsame] at h ⊢
  exact ⟨h, rfl⟩

end Latches

-- ---------------------------------------------------------------------------
-- Steps
-- ---------------------------------------------------------------------------

structure Mirrors (s : Wrapper) (w : Watch) : Prop where
  aligned : Aligned s.dir s.link w.phy
  either : s.link.state.Writes → s.link.otgWrite = !s.link.modeWrite
  modePending : s.link.state.Writes → s.link.modeWrite = true →
    s.mode.update = true ∧ s.link.data = funcCtrl s.mode
  otgPending : s.link.state.Writes → s.link.otgWrite = true →
    s.otg.update = true ∧ s.link.data = otgCtrl s.otg
  mode : s.mode.update = false → ModeWritten s.mode (w.written addrFuncCtrl)
  otg : s.otg.update = false → OtgWritten s.otg (w.written addrOtgCtrl)
  reset : s.mode.phyReset = decide (w.written addrFuncCtrl = [])
  once : ResetsOnce (w.written addrFuncCtrl)

section Step

variable {s : Wrapper} {w : Watch} {c : Cycle}

theorem note_written (w : Watch) (s : Wrapper) (c : Cycle) (address : BitVec 6) :
    (note w s c).written address =
      w.written address ++ ((w.phy.seen s c).bind (Seen.value? address)).toList := by
  rw [Watch.written, note, List.filterMap_append, Watch.written]
  congr 1
  cases w.phy.seen s c with
  | none => rfl
  | some event => cases h : Seen.value? address event <;> simp [h]

theorem Unwritten.written (h : Unwritten s c w.phy) (address : BitVec 6) :
    (note w s c).written address = w.written address := by
  rw [note_written, h.seen, Option.toList_none, List.append_nil]

theorem funcCtrl_reset (m : Mode) : (funcCtrl m).getLsbD 5 = m.phyReset := by
  simp only [funcCtrl, BitVec.getLsbD_append]
  simp

theorem ResetsOnce.concat {written : List Byte} (h : ResetsOnce written) {m : Mode}
    (hreset : m.phyReset = decide (written = [])) : ResetsOnce (written ++ [funcCtrl m]) := by
  intro i value hvalue
  rcases Nat.lt_trichotomy i written.length with hlt | heq | hgt
  · rw [List.getElem?_append_left hlt] at hvalue
    exact h i value hvalue
  · subst heq
    rw [List.getElem?_concat_length] at hvalue
    cases hvalue
    rw [funcCtrl_reset, hreset]
    simp
  · rw [List.getElem?_eq_none (by simpa using hgt)] at hvalue
    cases hvalue

/-- Where no write of the mode ends, FUNC_CTRL and what is latched stay as
they are, or an update waits. -/
theorem Mirrors.keepsMode (h : Mirrors s w) (hcomplete : modeComplete s c = false)
    (hwritten : (note w s c).written addrFuncCtrl = w.written addrFuncCtrl) :
    ((step s c).mode.update = false →
        ModeWritten (step s c).mode ((note w s c).written addrFuncCtrl)) ∧
      (step s c).mode.phyReset = decide ((note w s c).written addrFuncCtrl = []) ∧
      ResetsOnce ((note w s c).written addrFuncCtrl) := by
  rw [hwritten, step, hcomplete]
  refine ⟨fun hsettled => ?_, ?_, h.once⟩
  · obtain ⟨hupdate, hsame⟩ := Mode.next_settled hsettled
    rw [hsame]
    exact h.mode hupdate
  · simp only [Mode.next, Bool.and_false, Bool.false_eq_true, if_false]
    exact h.reset

theorem Mirrors.keepsOtg (h : Mirrors s w) (hcomplete : otgComplete s c = false)
    (hwritten : (note w s c).written addrOtgCtrl = w.written addrOtgCtrl) :
    (step s c).otg.update = false →
      OtgWritten (step s c).otg ((note w s c).written addrOtgCtrl) := by
  rw [hwritten, step, hcomplete]
  intro hsettled
  obtain ⟨hupdate, hsame⟩ := Otg.next_settled hsettled
  rw [hsame]
  exact h.otg hupdate

/-- The write of the mode that ends is the mode that is latched. -/
theorem Mirrors.endsMode (h : Mirrors s w) (hstate : s.link.state.Writes)
    (hwrite : s.link.modeWrite = true) (hcomplete : modeComplete s c = true)
    (hheld : ¬ s.mode.Changed c)
    (hseen : w.phy.seen s c = some (.write (s.link.register.setWidth 6) s.link.data)) :
    ((step s c).mode.update = false →
        ModeWritten (step s c).mode ((note w s c).written addrFuncCtrl)) ∧
      (step s c).mode.phyReset = decide ((note w s c).written addrFuncCtrl = []) ∧
      ResetsOnce ((note w s c).written addrFuncCtrl) := by
  obtain ⟨hupdate, hdata⟩ := h.modePending hstate hwrite
  have hwritten : (note w s c).written addrFuncCtrl =
      w.written addrFuncCtrl ++ [funcCtrl s.mode] := by
    rw [note_written, hseen, Link.register, hwrite, hdata]
    rfl
  rw [hwritten, step, hcomplete, Mode.next_complete hheld hupdate]
  refine ⟨fun _ => .inr ⟨s.mode.phyReset, ?_⟩, by simp, h.once.concat h.reset⟩
  rw [List.getLast?_concat]
  rfl

theorem Mirrors.endsOtg (h : Mirrors s w) (hstate : s.link.state.Writes)
    (hwrite : s.link.otgWrite = true) (hcomplete : otgComplete s c = true)
    (hheld : ¬ s.otg.Changed c)
    (hseen : w.phy.seen s c = some (.write (s.link.register.setWidth 6) s.link.data)) :
    (step s c).otg.update = false →
      OtgWritten (step s c).otg ((note w s c).written addrOtgCtrl) := by
  obtain ⟨hupdate, hdata⟩ := h.otgPending hstate hwrite
  have hother : s.link.modeWrite = false := by
    have := h.either hstate
    rw [hwrite] at this
    grind
  have hwritten : (note w s c).written addrOtgCtrl =
      w.written addrOtgCtrl ++ [otgCtrl s.otg] := by
    rw [note_written, hseen, Link.register, hother, hdata]
    rfl
  rw [hwritten, step, hcomplete, Otg.next_complete hheld hupdate]
  refine fun _ => .inr ?_
  rw [List.getLast?_concat]
  rfl

theorem Mirrors.next (h : Mirrors s w) (hleaves : LeavesBus s c) (hheld : Held s c) :
    Mirrors (step s c) (note w s c) := by
  have haligned := h.aligned.next c
  obtain ⟨hheldMode, hheldOtg⟩ := hheld
  cases turn h.aligned hleaves with
  | mode writes modeWrite otgWrite data update unwritten =>
    obtain ⟨hmode, hreset, honce⟩ := h.keepsMode unwritten.mode (unwritten.written _)
    refine ⟨haligned, fun _ => ?_, fun _ _ => ?_, fun _ hotg => ?_, hmode,
      h.keepsOtg unwritten.otg (unwritten.written _), hreset, honce⟩
    · exact otgWrite.trans (congrArg (!·) modeWrite).symm
    · have hsame : (step s c).mode = s.mode := by
        rw [step, unwritten.mode]
        exact Mode.next_same (hheldMode writes)
      rw [hsame]
      exact ⟨update, data⟩
    · exact absurd (otgWrite.symm.trans hotg) Bool.false_ne_true
  | otg writes modeWrite otgWrite data update unwritten =>
    obtain ⟨hmode, hreset, honce⟩ := h.keepsMode unwritten.mode (unwritten.written _)
    refine ⟨haligned, fun _ => ?_, fun _ hwrite => ?_, fun _ _ => ?_, hmode,
      h.keepsOtg unwritten.otg (unwritten.written _), hreset, honce⟩
    · exact otgWrite.trans (congrArg (!·) modeWrite).symm
    · exact absurd (modeWrite.symm.trans hwrite) Bool.false_ne_true
    · have hsame : (step s c).otg = s.otg := by
        rw [step, unwritten.otg]
        exact Otg.next_same (hheldOtg writes)
      rw [hsame]
      exact ⟨update, data⟩
  | goesOn state modeWrite otgWrite data unwritten =>
    obtain ⟨hmode, hreset, honce⟩ := h.keepsMode unwritten.mode (unwritten.written _)
    refine ⟨haligned, fun _ => ?_, fun _ hwrite => ?_, fun _ hwrite => ?_, hmode,
      h.keepsOtg unwritten.otg (unwritten.written _), hreset, honce⟩
    · exact (otgWrite.trans (h.either state)).trans (congrArg (!·) modeWrite).symm
    · have hwrites : s.link.modeWrite = true := modeWrite.symm.trans hwrite
      have hsame : (step s c).mode = s.mode := by
        rw [step, unwritten.mode]
        exact Mode.next_same (hheldMode (.inr ⟨state, hwrites⟩))
      rw [hsame]
      exact ⟨(h.modePending state hwrites).1, data.trans (h.modePending state hwrites).2⟩
    · have hwrites : s.link.otgWrite = true := otgWrite.symm.trans hwrite
      have hsame : (step s c).otg = s.otg := by
        rw [step, unwritten.otg]
        exact Otg.next_same (hheldOtg (.inr ⟨state, hwrites⟩))
      rw [hsame]
      exact ⟨(h.otgPending state hwrites).1, data.trans (h.otgPending state hwrites).2⟩
  | ends state after mode otg seen =>
    cases hwrite : s.link.modeWrite with
    | true =>
      have hotg : s.link.otgWrite = false := by rw [h.either state, hwrite]; rfl
      obtain ⟨hmode, hreset, honce⟩ := h.endsMode state hwrite (mode.trans hwrite)
        (hheldMode (.inr ⟨state, hwrite⟩)) seen
      refine ⟨haligned, fun hafter => absurd hafter after, fun hafter => absurd hafter after,
        fun hafter => absurd hafter after, hmode, h.keepsOtg (otg.trans hotg) ?_, hreset, honce⟩
      rw [note_written, seen, Link.register, hwrite]
      exact List.append_nil _
    | false =>
      have hotg : s.link.otgWrite = true := by rw [h.either state, hwrite]; rfl
      have hsame : (note w s c).written addrFuncCtrl = w.written addrFuncCtrl := by
        rw [note_written, seen, Link.register, hwrite]
        exact List.append_nil _
      obtain ⟨hmode, hreset, honce⟩ := h.keepsMode (mode.trans hwrite) hsame
      exact ⟨haligned, fun hafter => absurd hafter after, fun hafter => absurd hafter after,
        fun hafter => absurd hafter after, hmode, h.endsOtg state hotg (otg.trans hotg)
          (hheldOtg (.inr ⟨state, hotg⟩)) seen, hreset, honce⟩
  | rests after unwritten =>
    obtain ⟨hmode, hreset, honce⟩ := h.keepsMode unwritten.mode (unwritten.written _)
    exact ⟨haligned, fun hafter => absurd hafter after, fun hafter => absurd hafter after,
      fun hafter => absurd hafter after, hmode, h.keepsOtg unwritten.otg (unwritten.written _),
      hreset, honce⟩

end Step

-- ---------------------------------------------------------------------------
-- Runs
-- ---------------------------------------------------------------------------

theorem mirrors_init : Mirrors watched.init.1 watched.init.2 where
  aligned := .idle rfl rfl
  either h := absurd h (by decide)
  modePending h := absurd h (by decide)
  otgPending h := absurd h (by decide)
  mode _ := .inl ⟨rfl, rfl⟩
  otg _ := .inl ⟨rfl, rfl⟩
  reset := rfl
  once _ _ h := by cases h

/-- Wherever the PHY takes the bus in between: when no update waits, the
registers hold the mode and the pull-downs of the device, if these do not
change while they are being written. -/
theorem registers_mirrored {run : List Cycle}
    (hleaves : watched.Steps (fun s c => LeavesBus s.1 c) run)
    (hheld : watched.Steps (fun s c => Held s.1 c) run) : Mirrored (watched.run run) := by
  have hmirrors : Mirrors (watched.run run).1 (watched.run run).2 := by
    refine (hleaves.and hheld).invariant (I := fun s => Mirrors s.1 s.2) mirrors_init ?_
    rintro ⟨s, w⟩ c h ⟨hleaves, hheld⟩
    exact h.next hleaves hheld
  exact ⟨hmirrors.mode, hmirrors.otg, hmirrors.once⟩

/-- A cycle in which the device asks for this termination. -/
def modeCycle (dir nxt termselect : Bool) : Cycle :=
  { sendCycle nxt none with dir := dir, termselect := termselect }

/-- The PHY takes the bus from the command, and once more from the value. -/
def interruptedWrite : List Cycle :=
  [modeCycle false false true, modeCycle false false true, modeCycle true true true,
    modeCycle true false true, modeCycle false false true, modeCycle false true true,
    modeCycle true false true, modeCycle false false true, modeCycle false false true,
    modeCycle false true true, modeCycle false true true, modeCycle false false true]

theorem interruptedWrite_mirrored : Mirrored (watched.run interruptedWrite) :=
  registers_mirrored (by decide +kernel) (by decide +kernel)

example : (watched.run interruptedWrite).2.written addrFuncCtrl = [0x7c#8] := by decide +kernel

/-- The termination changes back while it is being written. -/
def lateChange : List Cycle :=
  [modeCycle false false true, modeCycle false false true, modeCycle false true false,
    modeCycle false true false, modeCycle false false false]

example : (watched.run lateChange).1.mode = { reset.mode with phyReset := false } ∧
    (watched.run lateChange).2.written addrFuncCtrl = [0x7c#8] := by decide +kernel

end AvbAes3.UlpiWrapper
