import AvbAes3.Aecp
import AvbAes3.Lib.Machine

/-!
# The lock counters

A connect moves a stream's locked counter when the two are equal, a
disconnect its unlocked counter when that is the smaller one, and a change of
lock the one it is a change to. However these are interleaved, the flag says
by which counter the stream is ahead, past the wrap of both. The clock
domain's counters start at the lock that the first poll finds, so they are
apart by one at most to either side.
-/

namespace AvbAes3.CounterBalance

/-- The calls that move the counters, and SET_CLOCK_SOURCE, which changes the
lock that the polls follow. -/
inductive Call
  | connected (u : ListenerUid)
  | disconnected (u : ListenerUid)
  | lockChanged (u : ListenerUid) (locked : Bool)
  | poll (g : Gptp) (m : Mcr) (nowMs : UInt32)
  | setClockSource (c : AecpCommand)

def step (s : Avdecc) : Call → Avdecc
  | .connected u => (notifyListenerConnected s u).1
  | .disconnected u => (notifyListenerDisconnected s u).1
  | .lockChanged u locked => (avdeccListenerLockChanged s u locked).1
  | .poll g m nowMs => (avdeccPoll s g m nowMs).1
  | .setClockSource c => (aemSetClockSource s c).1

def machine (mac : MacAddr) : Machine Avdecc Call := ⟨avdeccInit mac, step⟩

-- ---------------------------------------------------------------------------
-- The counters alone
-- ---------------------------------------------------------------------------

structure LockCounters where
  streamMediaLocked : ListenerUid → UInt32
  streamMediaUnlocked : ListenerUid → UInt32
  streamLastLocked : ListenerUid → Bool
  clockLockedCount : UInt32
  clockUnlockedCount : UInt32
  clockLastLocked : Option Bool

def lockCounters (s : Avdecc) : LockCounters :=
  ⟨s.streamMediaLocked, s.streamMediaUnlocked, s.streamLastLocked, s.clockLockedCount,
    s.clockUnlockedCount, s.clockLastLocked⟩

theorem pushUnsol_lockCounters (cmd cdl : UInt16) (payload : List UInt8)
    (indices : List (Fin avdeccMaxUnsolCtrl)) (s : Avdecc) :
    lockCounters (pushUnsol cmd cdl payload indices s).1 = lockCounters s := by
  induction indices generalizing s with
  | nil => rfl
  | cons i rest ih =>
    rw [pushUnsol]
    refine (ih _).trans ?_
    unfold pushTo
    dsimp only
    split <;> rfl

theorem pushListener_lockCounters (s : Avdecc) (u : ListenerUid) :
    lockCounters (pushListener s u).1 = lockCounters s := by
  unfold pushListener pushUnsolStreamInfo pushUnsolStreamCounters pushUnsolCounters
  exact (pushUnsol_lockCounters ..).trans (pushUnsol_lockCounters ..)

theorem timeOutResolve_lockCounters (s : Avdecc) (i : ListenerUid) (nowMs : UInt32) :
    lockCounters (timeOutResolve s i nowMs).1 = lockCounters s := by
  unfold timeOutResolve
  dsimp only
  split <;> rfl

theorem adpAdvertise_lockCounters (s : Avdecc) (g : Gptp) (nowMs : UInt32) :
    lockCounters (adpAdvertise s g nowMs).1 = lockCounters s := by
  unfold adpAdvertise
  split <;> rfl

theorem avdeccPoll_lockCounters (s : Avdecc) (g : Gptp) (m : Mcr) (nowMs : UInt32) :
    lockCounters (avdeccPoll s g m nowMs).1 = lockCounters (trackClockLock s g m).1 := by
  unfold avdeccPoll
  dsimp only
  rw [adpAdvertise_lockCounters, timeOutResolve_lockCounters, timeOutResolve_lockCounters]

theorem setClockSource_lockCounters (s : Avdecc) (c : AecpCommand) :
    lockCounters (aemSetClockSource s c).1 = lockCounters s := by
  unfold aemSetClockSource
  dsimp only
  split
  · rfl
  · split <;> rfl

-- ---------------------------------------------------------------------------
-- The invariant
-- ---------------------------------------------------------------------------

def lead (locked : Bool) : UInt32 := if locked then 1 else 0

/-- The lead of the locked counter is the flag. -/
def StreamBalanced (k : LockCounters) (u : ListenerUid) : Prop :=
  k.streamMediaLocked u - k.streamMediaUnlocked u = lead (k.streamLastLocked u)

/-- The side that is ahead, if one is, is the one counted last. -/
def ClockBalanced (k : LockCounters) : Prop :=
  k.clockLockedCount = k.clockUnlockedCount ∨
    k.clockLastLocked = some true ∧ k.clockLockedCount = k.clockUnlockedCount + 1 ∨
    k.clockLastLocked = some false ∧ k.clockUnlockedCount = k.clockLockedCount + 1

structure Balanced (k : LockCounters) : Prop where
  streams : ∀ u, StreamBalanced k u
  clock : ClockBalanced k

section Counting

variable {s : Avdecc} {u : ListenerUid}

theorem unlocked_iff (h : StreamBalanced (lockCounters s) u) :
    s.streamLastLocked u = false ↔ s.streamMediaLocked u = s.streamMediaUnlocked u := by
  have hlead : s.streamMediaLocked u - s.streamMediaUnlocked u = lead (s.streamLastLocked u) := h
  cases hflag : s.streamLastLocked u with
  | false =>
    rw [hflag] at hlead
    exact iff_of_true rfl (by simp only [lead] at hlead; grind)
  | true =>
    rw [hflag] at hlead
    refine iff_of_false Bool.noConfusion fun hequal => ?_
    rw [hequal, UInt32.sub_self] at hlead
    cases hlead

theorem countLocked_balanced (h : ∀ v, StreamBalanced (lockCounters s) v)
    (hunlocked : s.streamLastLocked u = false) (v : ListenerUid) :
    StreamBalanced (lockCounters (countLocked s u)) v := by
  have heq := (unlocked_iff (h u)).mp hunlocked
  by_cases hv : v = u
  · subst hv
    simp only [StreamBalanced, lockCounters, countLocked, Function.update_self, heq, lead]
    grind
  · simp only [StreamBalanced, lockCounters, countLocked, Function.update_of_ne hv]
    exact h v

theorem countUnlocked_balanced (h : ∀ v, StreamBalanced (lockCounters s) v)
    (hlocked : s.streamLastLocked u = true) (v : ListenerUid) :
    StreamBalanced (lockCounters (countUnlocked s u)) v := by
  by_cases hv : v = u
  · subst hv
    have hahead := h v
    simp only [StreamBalanced, lockCounters, hlocked, lead] at hahead
    simp only [StreamBalanced, lockCounters, countUnlocked, Function.update_self, lead]
    grind
  · simp only [StreamBalanced, lockCounters, countUnlocked, Function.update_of_ne hv]
    exact h v

theorem Balanced.congr {k k' : LockCounters} (h : Balanced k) (heq : k' = k) : Balanced k' :=
  heq ▸ h

theorem Balanced.connected (h : Balanced (lockCounters s)) :
    Balanced (lockCounters (notifyListenerConnected s u).1) := by
  refine Balanced.congr ?_ (pushListener_lockCounters ..)
  split
  · rename_i hequal
    exact ⟨countLocked_balanced h.streams ((unlocked_iff (h.streams u)).mpr hequal), h.clock⟩
  · exact h

theorem Balanced.disconnected (h : Balanced (lockCounters s)) :
    Balanced (lockCounters (notifyListenerDisconnected s u).1) := by
  refine Balanced.congr ?_ (pushListener_lockCounters ..)
  split
  · rename_i hless
    -- at the wrap the order is the other way and nothing moves, flag included
    have hlocked : s.streamLastLocked u = true := by
      by_contra hunlocked
      have hequal := (unlocked_iff (h.streams u)).mp (by simpa using hunlocked)
      rw [hequal] at hless
      exact UInt32.lt_irrefl _ hless
    exact ⟨countUnlocked_balanced h.streams hlocked, h.clock⟩
  · exact h

theorem Balanced.lockChanged (h : Balanced (lockCounters s)) (locked : Bool) :
    Balanced (lockCounters (avdeccListenerLockChanged s u locked).1) := by
  unfold avdeccListenerLockChanged
  split
  · exact h
  · rename_i hchanged
    refine Balanced.congr ?_ (pushUnsol_lockCounters ..)
    cases locked with
    | true => exact ⟨countLocked_balanced h.streams (by grind), h.clock⟩
    | false => exact ⟨countUnlocked_balanced h.streams (by grind), h.clock⟩

theorem Balanced.tracked (h : Balanced (lockCounters s)) (g : Gptp) (m : Mcr) :
    Balanced (lockCounters (trackClockLock s g m).1) := by
  have hclock := h.clock
  simp only [ClockBalanced, lockCounters] at hclock
  unfold trackClockLock
  cases hlast : s.clockLastLocked with
  | none =>
    refine ⟨h.streams, .inl ?_⟩
    have hequal : s.clockLockedCount = s.clockUnlockedCount := by simpa [hlast] using hclock
    exact hequal
  | some last =>
    dsimp only
    split
    · rename_i hchange
      refine Balanced.congr ?_ (pushUnsol_lockCounters ..)
      refine ⟨h.streams, ?_⟩
      rw [hlast] at hclock
      generalize clockLock s g m = cur at hchange
      simp only [ClockBalanced, lockCounters]
      cases cur <;> cases last <;> simp at hchange hclock ⊢ <;> grind
    · exact h

theorem Balanced.step (h : Balanced (lockCounters s)) (call : Call) :
    Balanced (lockCounters (step s call)) := by
  cases call with
  | connected u => exact h.connected
  | disconnected u => exact h.disconnected
  | lockChanged u locked => exact h.lockChanged locked
  | poll g m nowMs => exact (h.tracked g m).congr (avdeccPoll_lockCounters ..)
  | setClockSource c => exact h.congr (setClockSource_lockCounters ..)

end Counting

theorem balanced_init (mac : MacAddr) : Balanced (lockCounters (avdeccInit mac)) :=
  ⟨fun _ => UInt32.sub_self 0, .inl rfl⟩

/-- In every run, each stream's flag is the lead of its locked counter, and
the clock domain's counters are apart by one at most. -/
theorem counters_balanced (mac : MacAddr) (calls : List Call) :
    let s := (machine mac).run calls
    (∀ u, s.streamMediaLocked u - s.streamMediaUnlocked u = if s.streamLastLocked u then 1 else 0) ∧
      (s.clockLockedCount - s.clockUnlockedCount = 0 ∨
        s.clockLockedCount - s.clockUnlockedCount = 1 ∨
        s.clockUnlockedCount - s.clockLockedCount = 1) := by
  intro s
  have h : Balanced (lockCounters s) := Machine.run_invariant
    (I := fun s => Balanced (lockCounters s)) (balanced_init mac) (fun _ call h => h.step call) calls
  refine ⟨h.streams, ?_⟩
  have hclock := h.clock
  simp only [ClockBalanced, lockCounters] at hclock
  grind

end AvbAes3.CounterBalance
