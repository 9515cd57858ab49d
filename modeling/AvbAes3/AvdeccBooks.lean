import AvbAes3.Senders

/-!
# What AVDECC's bookkeeping leaves alone

Most of what AVDECC does changes its books: counters, the locks they follow,
the controllers to notify, the listeners' records. A reading of the state
that looks at none of these is kept by all that touches nothing else, shown
here once for every such reading.
-/

namespace AvbAes3

variable {α : Type}

/-- `read` looks at no counter, lock, controller or listener. -/
def IgnoresBooks (read : Avdecc → α) : Prop :=
  ∀ (s : Avdecc) listeners currentClockSource adpTxCount acmpRxCount acmpTxCount aecpRxCount
    aecpTxCount clockLockedCount clockUnlockedCount clockLastLocked streamMediaLocked
    streamMediaUnlocked streamFramesRx streamLastLocked unsolCtrl,
    read
      { s with
        listeners := listeners
        currentClockSource := currentClockSource
        adpTxCount := adpTxCount
        acmpRxCount := acmpRxCount
        acmpTxCount := acmpTxCount
        aecpRxCount := aecpRxCount
        aecpTxCount := aecpTxCount
        clockLockedCount := clockLockedCount
        clockUnlockedCount := clockUnlockedCount
        clockLastLocked := clockLastLocked
        streamMediaLocked := streamMediaLocked
        streamMediaUnlocked := streamMediaUnlocked
        streamFramesRx := streamFramesRx
        streamLastLocked := streamLastLocked
        unsolCtrl := unsolCtrl } = read s

-- ---------------------------------------------------------------------------
-- Notifications and locks
-- ---------------------------------------------------------------------------

section Books

variable {read : Avdecc → α} (h : IgnoresBooks read)

include h

theorem pushTo_books (cmd cdl : UInt16) (payload : List UInt8) (s : Avdecc)
    (i : Fin avdeccMaxUnsolCtrl) : read (pushTo cmd cdl payload s i).1 = read s := by
  unfold pushTo
  dsimp only
  split
  · exact h s s.listeners s.currentClockSource s.adpTxCount s.acmpRxCount s.acmpTxCount
      s.aecpRxCount _ s.clockLockedCount s.clockUnlockedCount s.clockLastLocked
      s.streamMediaLocked s.streamMediaUnlocked s.streamFramesRx s.streamLastLocked _
  · rfl

theorem pushUnsol_books (cmd cdl : UInt16) (payload : List UInt8)
    (indices : List (Fin avdeccMaxUnsolCtrl)) (s : Avdecc) :
    read (pushUnsol cmd cdl payload indices s).1 = read s := by
  induction indices generalizing s with
  | nil => rfl
  | cons i rest ih =>
    rw [pushUnsol]
    exact (ih _).trans (pushTo_books h ..)

theorem pushListener_books (s : Avdecc) (uid : ListenerUid) :
    read (pushListener s uid).1 = read s := by
  unfold pushListener pushUnsolStreamInfo pushUnsolStreamCounters pushUnsolCounters
  exact (pushUnsol_books h ..).trans (pushUnsol_books h ..)

theorem countLocked_books (s : Avdecc) (uid : ListenerUid) :
    read (countLocked s uid) = read s :=
  h s s.listeners s.currentClockSource s.adpTxCount s.acmpRxCount s.acmpTxCount s.aecpRxCount
    s.aecpTxCount s.clockLockedCount s.clockUnlockedCount s.clockLastLocked _
    s.streamMediaUnlocked s.streamFramesRx _ s.unsolCtrl

theorem countUnlocked_books (s : Avdecc) (uid : ListenerUid) :
    read (countUnlocked s uid) = read s :=
  h s s.listeners s.currentClockSource s.adpTxCount s.acmpRxCount s.acmpTxCount s.aecpRxCount
    s.aecpTxCount s.clockLockedCount s.clockUnlockedCount s.clockLastLocked s.streamMediaLocked
    _ s.streamFramesRx _ s.unsolCtrl

theorem notifyListenerConnected_books (s : Avdecc) (uid : ListenerUid) :
    read (notifyListenerConnected s uid).1 = read s := by
  rw [notifyListenerConnected, pushListener_books h]
  split
  · exact countLocked_books h ..
  · rfl

theorem notifyListenerDisconnected_books (s : Avdecc) (uid : ListenerUid) :
    read (notifyListenerDisconnected s uid).1 = read s := by
  rw [notifyListenerDisconnected, pushListener_books h]
  split
  · exact countUnlocked_books h ..
  · rfl

theorem lockChanged_books (s : Avdecc) (uid : ListenerUid) (locked : Bool) :
    read (avdeccListenerLockChanged s uid locked).1 = read s := by
  unfold avdeccListenerLockChanged
  split
  · rfl
  · refine (pushUnsol_books h ..).trans ?_
    split
    · exact countLocked_books h ..
    · exact countUnlocked_books h ..

theorem trackClockLock_books (s : Avdecc) (g : Gptp) (m : Mcr) :
    read (trackClockLock s g m).1 = read s := by
  have hclock (locked unlocked : UInt32) (last : Option Bool) :
      read { s with
        clockLockedCount := locked
        clockUnlockedCount := unlocked
        clockLastLocked := last } = read s :=
    h s s.listeners s.currentClockSource s.adpTxCount s.acmpRxCount s.acmpTxCount s.aecpRxCount
      s.aecpTxCount locked unlocked last s.streamMediaLocked s.streamMediaUnlocked
      s.streamFramesRx s.streamLastLocked s.unsolCtrl
  unfold trackClockLock
  dsimp only
  split
  · exact hclock ..
  split
  · exact (pushUnsol_books h ..).trans (hclock ..)
  · rfl

theorem setListener_books (s : Avdecc) (u : ListenerUid) (l : AvdeccListenerStream) :
    read (s.setListener u l) = read s :=
  h s _ s.currentClockSource s.adpTxCount s.acmpRxCount s.acmpTxCount s.aecpRxCount s.aecpTxCount
    s.clockLockedCount s.clockUnlockedCount s.clockLastLocked s.streamMediaLocked
    s.streamMediaUnlocked s.streamFramesRx s.streamLastLocked s.unsolCtrl

theorem acmpCounted_books (s : Avdecc) (rxCount txCount : UInt32) :
    read { s with acmpRxCount := rxCount, acmpTxCount := txCount } = read s :=
  h s s.listeners s.currentClockSource s.adpTxCount rxCount txCount s.aecpRxCount s.aecpTxCount
    s.clockLockedCount s.clockUnlockedCount s.clockLastLocked s.streamMediaLocked
    s.streamMediaUnlocked s.streamFramesRx s.streamLastLocked s.unsolCtrl

-- ---------------------------------------------------------------------------
-- AECP
-- ---------------------------------------------------------------------------

theorem aecpCounted_books (s : Avdecc) (rxCount txCount : UInt32) :
    read { s with aecpRxCount := rxCount, aecpTxCount := txCount } = read s :=
  h s s.listeners s.currentClockSource s.adpTxCount s.acmpRxCount s.acmpTxCount rxCount txCount
    s.clockLockedCount s.clockUnlockedCount s.clockLastLocked s.streamMediaLocked
    s.streamMediaUnlocked s.streamFramesRx s.streamLastLocked s.unsolCtrl

theorem setUnsol_books (s : Avdecc) (unsolCtrl : Fin avdeccMaxUnsolCtrl → UnsolCtrl) :
    read { s with unsolCtrl := unsolCtrl } = read s :=
  h s s.listeners s.currentClockSource s.adpTxCount s.acmpRxCount s.acmpTxCount s.aecpRxCount
    s.aecpTxCount s.clockLockedCount s.clockUnlockedCount s.clockLastLocked s.streamMediaLocked
    s.streamMediaUnlocked s.streamFramesRx s.streamLastLocked unsolCtrl

theorem setClockSource_books (s : Avdecc) (c : AecpCommand) :
    read (aemSetClockSource s c).1 = read s := by
  have hsource (source : UInt16) : read { s with currentClockSource := source } = read s :=
    h s s.listeners source s.adpTxCount s.acmpRxCount s.acmpTxCount s.aecpRxCount s.aecpTxCount
      s.clockLockedCount s.clockUnlockedCount s.clockLastLocked s.streamMediaLocked
      s.streamMediaUnlocked s.streamFramesRx s.streamLastLocked s.unsolCtrl
  unfold aemSetClockSource
  split
  · rfl
  dsimp only
  split
  · exact hsource ..
  · rfl

theorem aemCommand_books (s : Avdecc) (c : AecpCommand) (cmdType : UInt16) :
    read (aemCommand s c cmdType).1 = read s := by
  have hregister (ctrlEid : EntityId) (ctrlMac : MacAddr) :
      read (registerUnsolicited s ctrlEid ctrlMac) = read s := by
    unfold registerUnsolicited
    split
    · exact setUnsol_books h ..
    · exact setUnsol_books h ..
    · rfl
  have hderegister (ctrlEid : EntityId) : read (deregisterUnsolicited s ctrlEid) = read s := by
    unfold deregisterUnsolicited
    split
    · exact setUnsol_books h ..
    · rfl
  unfold aemCommand
  iterate 10 refine fst_ite read rfl ?_
  refine fst_ite read (hregister ..) ?_
  refine fst_ite read (hderegister ..) ?_
  iterate 2 refine fst_ite read rfl ?_
  refine fst_ite read (setClockSource_books h ..) ?_
  exact fst_ite read rfl rfl

theorem mvuHandle_books (s : Avdecc) (c : AecpCommand) :
    read (mvuHandle s c).state = read s := by
  unfold mvuHandle
  split
  · rfl
  dsimp only
  split
  · exact aecpCounted_books h ..
  split
  · split
    · exact aecpCounted_books h s _ s.aecpTxCount
    · exact aecpCounted_books h ..
  · exact aecpCounted_books h ..

theorem aecpHandle_books (s : Avdecc) (c : AecpCommand) :
    read (aecpHandle s c).state = read s := by
  unfold aecpHandle
  dsimp only
  split
  · exact mvuHandle_books h s c
  split
  · rfl
  split
  · rfl
  have hcommand : read (aemCommand { s with aecpRxCount := s.aecpRxCount + 1 } c
      (c.field aecpOffCmdType &&& 0x7FFF)).1 = read s :=
    (aemCommand_books h ..).trans (aecpCounted_books h s _ s.aecpTxCount)
  split
  · exact hcommand
  · exact (aecpCounted_books h _ _ _).trans hcommand

-- ---------------------------------------------------------------------------
-- The callbacks
-- ---------------------------------------------------------------------------

theorem learnStream_books (fw : Firmware) (uid : ListenerUid) (streamId : StreamId) :
    read (learnStream fw uid streamId).avdecc = read fw.avdecc := by
  unfold learnStream
  split
  · rfl
  · exact setListener_books h ..

omit h in
theorem bindEngine_sameAvdecc (fw : Firmware) (uid : ListenerUid) (streamId : StreamId)
    (destMac : MacAddr) : (bindEngine fw uid streamId destMac).avdecc = fw.avdecc := by
  unfold bindEngine
  split <;> rfl

theorem onListenerConnect_books (fw : Firmware) (uid : ListenerUid) (streamId : StreamId)
    (destMac : MacAddr) (talkerId : EntityId) (nowMs : UInt32) :
    read (onListenerConnect fw uid streamId destMac talkerId nowMs).avdecc = read fw.avdecc := by
  unfold onListenerConnect
  split
  · rfl
  · dsimp only
    exact (congrArg read (bindEngine_sameAvdecc ..)).trans (learnStream_books h ..)

omit h in
theorem onListenerDisconnect_sameAvdecc (fw : Firmware) (uid : ListenerUid) (nowMs : UInt32) :
    (onListenerDisconnect fw uid nowMs).avdecc = fw.avdecc := by
  unfold onListenerDisconnect unbindEngine
  dsimp only
  split
  · split <;> rfl
  · split <;> rfl

theorem completePending_books (fw : Firmware) (i : ListenerUid) (streamId : StreamId)
    (destMac : MacAddr) (nowMs : UInt32) :
    read (completePending fw i streamId destMac nowMs).avdecc = read fw.avdecc := by
  unfold completePending
  dsimp only
  split
  · exact (congrArg read (bindEngine_sameAvdecc ..)).trans
      ((learnStream_books h ..).trans (setListener_books h ..))
  · rfl

theorem srpProcessRx_books (fw : Firmware) (frame : Buffer) (len : Nat) (nowMs : UInt32) :
    read (srpProcessRx fw frame len nowMs).avdecc = read fw.avdecc := by
  have hvector (fw : Firmware) (v : MsrpVector) :
      read (srpVector nowMs fw v).avdecc = read fw.avdecc := by
    unfold srpVector
    dsimp only
    split
    · exact (completePending_books h ..).trans (completePending_books h ..)
    · rfl
  unfold srpProcessRx
  split
  · suffices ∀ (vectors : List MsrpVector) (fw' : Firmware),
        read (vectors.foldl (srpVector nowMs) fw').avdecc = read fw'.avdecc from this ..
    intro vectors
    induction vectors with
    | nil => exact fun _ => rfl
    | cons v rest ih => exact fun fw' => (ih _).trans (hvector fw' v)
  · rfl

-- ---------------------------------------------------------------------------
-- The passes of the main loop
-- ---------------------------------------------------------------------------

/-- A received frame that no ACMP handler is called for. -/
theorem dispatchRx_books (fw : Firmware) (slot : Buffer) (len : Nat) (r : Readings)
    (hcall : acmpCall fw (.dispatchRx slot len r) = none) :
    read (dispatchRx fw slot len r).avdecc = read fw.avdecc := by
  unfold acmpCall at hcall
  unfold dispatchRx
  dsimp only at hcall ⊢
  generalize rxFrame slot len fw.scratch = rx at hcall ⊢
  cases hhandler : rxHandler rx.frame rx.len with
  | none => rfl
  | some handler =>
    cases handler with
    | gptp =>
      exact congrArg read (putGptp_same Firmware.avdecc (fun _ _ _ _ _ => rfl) ..)
    | crf => rfl
    | aaf => rfl
    | msrp => exact srpProcessRx_books h ..
    | avdecc =>
      rw [hhandler] at hcall
      dsimp only
      rw [rxHandle]
      have hrx := avdeccRx { fw with scratch := rx.scratch } rx.frame rx.len r
      generalize avdeccProcessRx { fw with scratch := rx.scratch } rx.frame rx.len r = fw' at hrx ⊢
      cases hrx with
      | ignored => rfl
      | uncalled => exact acmpCounted_books h fw.avdecc _ fw.avdecc.acmpTxCount
      | acmp hacmp handler hcalled =>
        rw [if_pos ⟨rfl, hacmp⟩, Option.map_eq_none_iff] at hcall
        cases hcall.symm.trans hcalled
      | aecp =>
        unfold Firmware.aecp
        dsimp only
        split <;> exact aecpHandle_books h ..

theorem trackLocks_books (fw : Firmware) : read (trackLocks fw).avdecc = read fw.avdecc := by
  have hlock (fw : Firmware) (uid : ListenerUid) (locked : Bool) :
      read (fw.putAvdecc (avdeccListenerLockChanged fw.avdecc uid locked)).avdecc =
        read fw.avdecc := by
    rw [putAvdecc_avdecc]
    exact lockChanged_books h ..
  have hframes (s : Avdecc) (streamFramesRx : ListenerUid → UInt32) :
      read { s with streamFramesRx := streamFramesRx } = read s :=
    h s s.listeners s.currentClockSource s.adpTxCount s.acmpRxCount s.acmpTxCount s.aecpRxCount
      s.aecpTxCount s.clockLockedCount s.clockUnlockedCount s.clockLastLocked
      s.streamMediaLocked s.streamMediaUnlocked streamFramesRx s.streamLastLocked s.unsolCtrl
  unfold trackLocks
  dsimp only
  refine (hframes ..).trans ((hlock _ listenerUidCrf _).trans ?_)
  split
  · exact hlock fw listenerUidAaf _
  · rfl

/-- The steps that are neither AVDECC's poll nor its watchdog and take in no
ACMP message. -/
theorem loopStep_books (fw : Firmware) (step : LoopStep) (hpoll : ∀ r, step ≠ .avdeccPoll r)
    (hwatchdog : ∀ r, step ≠ .crfFlowWatchdog r) (hcall : acmpCall fw step = none) :
    read (loopStep fw step).avdecc = read fw.avdecc := by
  cases step with
  | dispatchRx slot len r => exact dispatchRx_books h fw slot len r hcall
  | gptpPoll r => exact congrArg read (putGptp_same Firmware.avdecc (fun _ _ _ _ _ => rfl) ..)
  | srpPoll r => exact congrArg read (sendAll_avdecc ..)
  | trackLocks => exact trackLocks_books h fw
  | syncVlan => exact congrArg read (syncVlan_same Firmware.avdecc (fun _ _ _ _ _ => rfl) ..)
  | avdeccPoll r => exact absurd rfl (hpoll r)
  | mcrPumpHw fifo => rfl
  | mcrServoUpdate => rfl
  | mcrWatchdogTick r => rfl
  | crfFlowWatchdog r => exact absurd rfl (hwatchdog r)
  | usbAafDrain words =>
    rw [loopStep]
    split
    · rfl
    · exact congrArg read (usbAafDrain_same Firmware.avdecc (fun _ _ _ _ => rfl) ..)
  | aafTxPoll count now =>
    rw [loopStep]
    split
    · rfl
    · exact congrArg read (runAafTxPoll_same Firmware.avdecc (fun _ _ _ _ => rfl) ..)
  | packetizerFrame seq pres payload =>
    rw [loopStep]
    split <;> rfl

end Books

end AvbAes3
