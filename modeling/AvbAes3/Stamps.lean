import AvbAes3.MainLoop

/-!
# Stamps of the uptime clock

The stamps that the timeouts are measured from: when each remote talker was
last heard, when each resolve was started, when the media clock's watchdog
and the CRF flow watchdog last saw the count of CRF packets move. What a step
of the main loop does to them: `Kept`, but for the few steps that take a new
stamp.
-/

namespace AvbAes3

/-- `crfCheck` is `bound`, `watchdog_reset_active` and `last_rx_check_ms`,
`crfFlow` is `crf_wd_init` and `crf_wd_flow_ms`. -/
structure Stamps where
  remoteTalkers : RemoteTalkers
  resolves : ListenerUid → AvdeccResolve
  crfCheck : Bool × Bool × UInt32
  crfFlow : Bool × UInt32

def Mcr.crfCheck (m : Mcr) : Bool × Bool × UInt32 :=
  (m.bound, m.watchdogResetActive, m.lastRxCheckMs)

/-- What AVDECC has of them. -/
def Avdecc.stamps (s : Avdecc) : (ListenerUid → AvdeccResolve) × Bool × UInt32 :=
  (s.resolves, s.crfWdInit, s.crfWdFlowMs)

def Firmware.stamps (fw : Firmware) : Stamps :=
  ⟨fw.srp.remoteTalkers, fw.avdecc.stamps.1, fw.mcr.crfCheck, fw.avdecc.stamps.2⟩

/-- Stamps are the same or no longer in use. -/
structure Stamps.Kept (t t' : Stamps) : Prop where
  remoteTalkers : ∀ k, t'.remoteTalkers k = t.remoteTalkers k ∨ (t'.remoteTalkers k).valid = false
  resolves : ∀ u, t'.resolves u = t.resolves u ∨ (t'.resolves u).active = false
  crfCheck : t'.crfCheck.2.1 = true ∨ t'.crfCheck.2 = t.crfCheck.2 ∧ (t.crfCheck.1 → t'.crfCheck.1)
  crfFlow : t'.crfFlow = t.crfFlow ∨ t'.crfFlow.1 = false

theorem Stamps.Kept.of_eq {t t' : Stamps} (h : t' = t) : Stamps.Kept t t' := by
  subst h
  exact ⟨fun _ => .inl rfl, fun _ => .inl rfl, .inr ⟨rfl, id⟩, .inl rfl⟩

theorem Stamps.Kept.trans {t t' t'' : Stamps} (h : Stamps.Kept t t') (h' : Stamps.Kept t' t'') :
    Stamps.Kept t t'' where
  remoteTalkers k := by
    rcases h'.remoteTalkers k with heq | hinvalid
    · rw [heq]
      exact h.remoteTalkers k
    · exact .inr hinvalid
  resolves u := by
    rcases h'.resolves u with heq | hinactive
    · rw [heq]
      exact h.resolves u
    · exact .inr hinactive
  crfCheck := by
    rcases h'.crfCheck with hreset | ⟨heq, hbound⟩
    · exact .inl hreset
    · rw [heq]
      rcases h.crfCheck with hreset | ⟨heq', hbound'⟩
      · exact .inl hreset
      · exact .inr ⟨heq', fun hb => hbound (hbound' hb)⟩
  crfFlow := by
    rcases h'.crfFlow with heq | hidle
    · rw [heq]
      exact h.crfFlow
    · exact .inr hidle

-- ---------------------------------------------------------------------------
-- AVDECC
-- ---------------------------------------------------------------------------

theorem pushTo_stamps (cmd cdl : UInt16) (payload : List UInt8) (s : Avdecc)
    (i : Fin avdeccMaxUnsolCtrl) : (pushTo cmd cdl payload s i).1.stamps = s.stamps := by
  unfold pushTo
  dsimp only
  split <;> rfl

theorem pushUnsol_stamps (cmd cdl : UInt16) (payload : List UInt8)
    (indices : List (Fin avdeccMaxUnsolCtrl)) (s : Avdecc) :
    (pushUnsol cmd cdl payload indices s).1.stamps = s.stamps := by
  induction indices generalizing s with
  | nil => rfl
  | cons i rest ih =>
    rw [pushUnsol]
    exact (ih _).trans (pushTo_stamps ..)

theorem pushListener_stamps (s : Avdecc) (uid : ListenerUid) :
    (pushListener s uid).1.stamps = s.stamps := by
  unfold pushListener pushUnsolStreamInfo pushUnsolStreamCounters pushUnsolCounters
  exact (pushUnsol_stamps ..).trans (pushUnsol_stamps ..)

theorem notifyListenerConnected_stamps (s : Avdecc) (uid : ListenerUid) :
    (notifyListenerConnected s uid).1.stamps = s.stamps := by
  rw [notifyListenerConnected, pushListener_stamps]
  split <;> rfl

theorem notifyListenerDisconnected_stamps (s : Avdecc) (uid : ListenerUid) :
    (notifyListenerDisconnected s uid).1.stamps = s.stamps := by
  rw [notifyListenerDisconnected, pushListener_stamps]
  split <;> rfl

theorem lockChanged_stamps (s : Avdecc) (uid : ListenerUid) (locked : Bool) :
    (avdeccListenerLockChanged s uid locked).1.stamps = s.stamps := by
  unfold avdeccListenerLockChanged
  split
  · rfl
  · refine (pushUnsol_stamps ..).trans ?_
    split <;> rfl

theorem trackClockLock_stamps (s : Avdecc) (g : Gptp) (m : Mcr) :
    (trackClockLock s g m).1.stamps = s.stamps := by
  unfold trackClockLock
  dsimp only
  split
  · rfl
  split
  · exact pushUnsol_stamps ..
  · rfl

theorem adpAdvertise_stamps (s : Avdecc) (g : Gptp) (nowMs : UInt32) :
    (adpAdvertise s g nowMs).1.stamps = s.stamps := by
  unfold adpAdvertise
  split <;> rfl

/-- A resolve that has timed out is no longer active. -/
theorem timeOutResolve_stamps (s : Avdecc) (i : ListenerUid) (nowMs : UInt32) :
    (timeOutResolve s i nowMs).1.stamps =
      (if resolveTimedOut (s.resolves i) nowMs then
        Function.update s.resolves i { s.resolves i with active := false }
      else s.resolves, s.stamps.2) := by
  unfold timeOutResolve
  dsimp only
  split <;> rfl

theorem stamps_ite {p : Prop} [Decidable p] {a b : Avdecc × AecpReply}
    {x : (ListenerUid → AvdeccResolve) × Bool × UInt32} (ha : a.1.stamps = x)
    (hb : b.1.stamps = x) : (if p then a else b).1.stamps = x := by
  split
  · exact ha
  · exact hb

theorem aemCommand_stamps (s : Avdecc) (c : AecpCommand) (cmdType : UInt16) :
    (aemCommand s c cmdType).1.stamps = s.stamps := by
  have hregister (ctrlEid : EntityId) (ctrlMac : MacAddr) :
      (registerUnsolicited s ctrlEid ctrlMac).stamps = s.stamps := by
    unfold registerUnsolicited
    split <;> rfl
  have hderegister (ctrlEid : EntityId) : (deregisterUnsolicited s ctrlEid).stamps = s.stamps := by
    unfold deregisterUnsolicited
    split <;> rfl
  have hsource : (aemSetClockSource s c).1.stamps = s.stamps := by
    unfold aemSetClockSource
    split
    · rfl
    dsimp only
    split <;> rfl
  unfold aemCommand
  iterate 10 refine stamps_ite rfl ?_
  refine stamps_ite (hregister ..) ?_
  refine stamps_ite (hderegister ..) ?_
  iterate 2 refine stamps_ite rfl ?_
  refine stamps_ite hsource ?_
  exact stamps_ite rfl rfl

theorem mvuHandle_stamps (s : Avdecc) (c : AecpCommand) :
    (mvuHandle s c).state.stamps = s.stamps := by
  unfold mvuHandle
  split
  · rfl
  dsimp only
  split
  · rfl
  split
  · split <;> rfl
  · rfl

theorem aecpHandle_stamps (s : Avdecc) (c : AecpCommand) :
    (aecpHandle s c).state.stamps = s.stamps := by
  unfold aecpHandle
  dsimp only
  split
  · exact mvuHandle_stamps s c
  split
  · rfl
  split
  · rfl
  have hcommand := aemCommand_stamps { s with aecpRxCount := s.aecpRxCount + 1 } c
    (c.field aecpOffCmdType &&& 0x7FFF)
  split <;> exact hcommand

-- ---------------------------------------------------------------------------
-- The callbacks
-- ---------------------------------------------------------------------------

/-- What the stamps are made of. -/
theorem Firmware.stamps_congr {fw fw' : Firmware}
    (hsrp : fw'.srp.remoteTalkers = fw.srp.remoteTalkers)
    (havdecc : fw'.avdecc.stamps = fw.avdecc.stamps) (hmcr : fw'.mcr.crfCheck = fw.mcr.crfCheck) :
    fw'.stamps = fw.stamps := by
  rw [stamps, stamps, hsrp, havdecc, hmcr]

theorem sendAll_stamps (fw : Firmware) (p : Producer) (frames : List (List UInt8)) :
    (fw.sendAll p frames).stamps = fw.stamps := sendAll_same _ (fun _ _ _ => rfl) ..

theorem putAvdecc_stamps (fw : Firmware) {r : Avdecc × List (List UInt8)}
    (h : r.1.stamps = fw.avdecc.stamps) : (fw.putAvdecc r).stamps = fw.stamps :=
  (sendAll_stamps ..).trans (Firmware.stamps_congr rfl h rfl)

theorem respond_stamps (fw : Firmware) (msgType status : UInt8) (pdu : Buffer) :
    (fw.respond msgType status pdu).stamps = fw.stamps := putAvdecc_stamps fw rfl

theorem listenerEnable_stamps (fw : Firmware) (streamId : StreamId) (enable : Bool)
    (nowMs : UInt32) : (fw.listenerEnable streamId enable nowMs).stamps = fw.stamps := by
  refine Firmware.stamps_congr ?_ rfl rfl
  rw [Firmware.listenerEnable, srpListenerEnable]
  split <;> rfl

theorem learnStream_stamps (fw : Firmware) (uid : ListenerUid) (streamId : StreamId) :
    (learnStream fw uid streamId).stamps = fw.stamps := by
  unfold learnStream
  split <;> rfl

theorem bindEngine_kept (fw : Firmware) (uid : ListenerUid) (streamId : StreamId)
    (destMac : MacAddr) : fw.stamps.Kept (bindEngine fw uid streamId destMac).stamps := by
  unfold bindEngine
  split
  · exact ⟨fun _ => .inl rfl, fun _ => .inl rfl, .inr ⟨rfl, fun _ => rfl⟩, .inl rfl⟩
  · exact .of_eq rfl

theorem onListenerConnect_kept (fw : Firmware) (uid : ListenerUid) (streamId : StreamId)
    (destMac : MacAddr) (talkerId : EntityId) (nowMs : UInt32) :
    fw.stamps.Kept (onListenerConnect fw uid streamId destMac talkerId nowMs).stamps := by
  unfold onListenerConnect
  split
  · exact .of_eq rfl
  · refine .trans (.of_eq ?_) (bindEngine_kept ..)
    exact (listenerEnable_stamps ..).trans (learnStream_stamps ..)

theorem unbindMcr_kept (fw : Firmware) :
    fw.stamps.Kept { fw with
      mcr := (mcrUnbind fw.mcr fw.mcrRegs).1
      mcrRegs := (mcrUnbind fw.mcr fw.mcrRegs).2 }.stamps :=
  ⟨fun _ => .inl rfl, fun _ => .inl rfl, .inl rfl, .inl rfl⟩

theorem onListenerDisconnect_kept (fw : Firmware) (uid : ListenerUid) (nowMs : UInt32) :
    fw.stamps.Kept (onListenerDisconnect fw uid nowMs).stamps := by
  unfold onListenerDisconnect unbindEngine
  split
  · refine .trans (.of_eq ?_) (unbindMcr_kept _)
    split
    · exact listenerEnable_stamps ..
    · rfl
  · refine .of_eq ?_
    dsimp only
    split
    · exact listenerEnable_stamps ..
    · rfl

theorem setListener_stamps (fw : Firmware) (u : ListenerUid) (l : AvdeccListenerStream) :
    { fw with avdecc := fw.avdecc.setListener u l }.stamps = fw.stamps := rfl

theorem completePending_kept (fw : Firmware) (i : ListenerUid) (streamId : StreamId)
    (destMac : MacAddr) (nowMs : UInt32) :
    fw.stamps.Kept (completePending fw i streamId destMac nowMs).stamps := by
  unfold completePending
  dsimp only
  split
  · refine .trans (.of_eq ?_) (bindEngine_kept ..)
    exact (listenerEnable_stamps ..).trans (learnStream_stamps ..)
  · exact .of_eq rfl

theorem onTalkerConnect_stamps (fw : Firmware) (uid : TalkerUid) (r : Readings) :
    (onTalkerConnect fw uid r).stamps = fw.stamps := by
  unfold onTalkerConnect
  split <;> rfl

theorem onTalkerDisconnect_stamps (fw : Firmware) (uid : TalkerUid) (r : Readings) :
    (onTalkerDisconnect fw uid r).stamps = fw.stamps := by
  unfold onTalkerDisconnect
  split <;> rfl

-- ---------------------------------------------------------------------------
-- ACMP
-- ---------------------------------------------------------------------------

/-- The listener a CONNECT_RX on the slow path starts a resolve for. -/
def resolveStart (pdu : Buffer) : AcmpHandler → Option ListenerUid
  | .connectRx => if isSlowPath pdu then listenerUid? (pduListenerUid pdu) else none
  | _ => none

theorem notified_stamps (fw : Firmware) (uid : ListenerUid) :
    (fw.putAvdecc (notifyListenerConnected fw.avdecc uid)).stamps = fw.stamps :=
  putAvdecc_stamps fw (notifyListenerConnected_stamps ..)

theorem slowConnect_stamps (fw : Firmware) (luid : ListenerUid) (pdu : Buffer) (nowMs : UInt32) :
    (slowConnect fw luid pdu nowMs).stamps =
      { fw.stamps with
        resolves := Function.update fw.stamps.resolves luid
          (newResolve fw.avdecc luid pdu nowMs) } := by
  rw [slowConnect, putAvdecc_stamps _ rfl]
  rfl

theorem fastConnect_kept (fw : Firmware) (luid : ListenerUid) (pdu : Buffer) (nowMs : UInt32) :
    fw.stamps.Kept (fastConnect fw luid pdu nowMs).stamps := by
  rw [fastConnect, respond_stamps, notified_stamps]
  exact .trans (.of_eq (setListener_stamps ..)) (onListenerConnect_kept ..)

theorem connectResolved_kept (fw : Firmware) (r : AvdeccResolve) (pdu : Buffer) (nowMs : UInt32) :
    fw.stamps.Kept (connectResolved fw r pdu nowMs).stamps := by
  rw [connectResolved, notified_stamps]
  exact .trans (.of_eq (setListener_stamps ..)) (onListenerConnect_kept ..)

theorem setResolve_kept (fw : Firmware) (i : ListenerUid) {r : AvdeccResolve}
    (hr : r.active = false) :
    fw.stamps.Kept { fw with avdecc := fw.avdecc.setResolve i r }.stamps where
  remoteTalkers _ := .inl rfl
  resolves u := by
    by_cases hu : u = i
    · subst hu
      refine .inr ?_
      exact (congrArg _ (Function.update_self ..)).trans hr
    · exact .inl (Function.update_of_ne hu ..)
  crfCheck := .inr ⟨rfl, id⟩
  crfFlow := .inl rfl

theorem connectTxResponse_kept (fw : Firmware) (pdu : Buffer) (nowMs : UInt32) :
    fw.stamps.Kept (acmpHandleConnectTxResponse fw pdu nowMs).stamps := by
  unfold acmpHandleConnectTxResponse
  split
  · exact .of_eq rfl
  · dsimp only
    refine .trans ?_ (setResolve_kept _ _ rfl)
    rw [putAvdecc_stamps _ rfl]
    split
    · exact connectResolved_kept ..
    · exact .of_eq rfl

theorem disconnectRx_kept (fw : Firmware) (pdu : Buffer) (nowMs : UInt32) :
    fw.stamps.Kept (acmpHandleDisconnectRx fw pdu nowMs).stamps := by
  unfold acmpHandleDisconnectRx
  dsimp only
  rw [respond_stamps]
  split
  · exact .of_eq rfl
  · rw [putAvdecc_stamps _ (notifyListenerDisconnected_stamps ..)]
    exact .trans (.of_eq (setListener_stamps ..)) (onListenerDisconnect_kept ..)

theorem acmpHandle_kept (fw : Firmware) (pdu : Buffer) (r : Readings) {h : AcmpHandler}
    (hnone : resolveStart pdu h = none) : fw.stamps.Kept (acmpHandle fw pdu r h).stamps := by
  cases h with
  | connectTx =>
    refine .of_eq ?_
    rw [acmpHandle, acmpHandleConnectTx]
    split
    · exact respond_stamps ..
    · exact (respond_stamps ..).trans (onTalkerConnect_stamps ..)
  | disconnectTx =>
    refine .of_eq ?_
    rw [acmpHandle, acmpHandleDisconnectTx, respond_stamps]
    split
    · rfl
    · exact onTalkerDisconnect_stamps ..
  | connectTxResponse => exact connectTxResponse_kept ..
  | disconnectRx => exact disconnectRx_kept ..
  | getTxState => exact .of_eq (respond_stamps ..)
  | getRxState => exact .of_eq (respond_stamps ..)
  | connectRx =>
    rw [acmpHandle, acmpHandleConnectRx]
    rw [resolveStart] at hnone
    split
    · exact .of_eq (respond_stamps ..)
    · rename_i luid hluid
      rw [hluid] at hnone
      split
      · rename_i hslow
        rw [if_pos hslow] at hnone
        cases hnone
      · split
        · exact .of_eq (respond_stamps ..)
        · exact fastConnect_kept ..

theorem acmpHandle_started (fw : Firmware) {pdu : Buffer} (r : Readings) {h : AcmpHandler}
    {luid : ListenerUid} (hstart : resolveStart pdu h = some luid) :
    (acmpHandle fw pdu r h).stamps =
      { fw.stamps with
        resolves := Function.update fw.stamps.resolves luid
          (newResolve fw.avdecc luid pdu r.nowMs) } := by
  cases h with
  | connectRx =>
    rw [resolveStart] at hstart
    split at hstart
    · rename_i hslow
      rw [acmpHandle, acmpHandleConnectRx, hstart]
      dsimp only
      rw [if_pos hslow, slowConnect_stamps]
    · cases hstart
  | _ => cases hstart

-- ---------------------------------------------------------------------------
-- MSRP
-- ---------------------------------------------------------------------------

theorem noteVector_remoteTalkers (s : Srp) (v : MsrpVector) :
    (noteVector s v).remoteTalkers = s.remoteTalkers := by
  obtain ⟨_, _, _, _, _, _, _, _, hwrites⟩ := noteVector_writes s v
  rw [hwrites]

/-- The entry is written, and the rest kept. -/
theorem talkerAdvertised_kept (nowMs : UInt32) (fw : Firmware) (value : Buffer) :
    Stamps.Kept { fw.stamps with remoteTalkers := (upsertTalker fw.srp value nowMs).remoteTalkers }
      (talkerAdvertised nowMs fw value).stamps := by
  have hmatched (fw : Firmware) :
      ({ fw with srp := matchListener fw.srp value nowMs } : Firmware).stamps = fw.stamps := by
    refine Firmware.stamps_congr ?_ rfl rfl
    rw [matchListener]
    split <;> rfl
  rw [talkerAdvertised]
  dsimp only
  rw [hmatched, onTalkerAdvertise]
  show ({ fw with srp := upsertTalker fw.srp value nowMs } : Firmware).stamps.Kept _
  exact (completePending_kept ..).trans (completePending_kept ..)

theorem srpVector_kept (nowMs : UInt32) (fw : Firmware) (v : MsrpVector) :
    Stamps.Kept
      (if isTalkerAdvertise v then
        { fw.stamps with remoteTalkers := (upsertTalker fw.srp v.value nowMs).remoteTalkers }
      else fw.stamps) (srpVector nowMs fw v).stamps := by
  have hnoted : ({ fw with srp := noteVector fw.srp v } : Firmware).stamps = fw.stamps :=
    Firmware.stamps_congr (noteVector_remoteTalkers ..) rfl rfl
  rw [srpVector]
  split
  · have hupsert : (upsertTalker (noteVector fw.srp v) v.value nowMs).remoteTalkers =
        (upsertTalker fw.srp v.value nowMs).remoteTalkers := by
      rw [upsertTalker, upsertTalker, noteVector_remoteTalkers]
    have hkept := talkerAdvertised_kept nowMs { fw with srp := noteVector fw.srp v } v.value
    rw [hnoted] at hkept
    dsimp only at hkept
    rwa [hupsert] at hkept
  · exact .of_eq hnoted

-- ---------------------------------------------------------------------------
-- Steps
-- ---------------------------------------------------------------------------

theorem putGptp_stamps (fw : Firmware) (r : Gptp × List GptpEffect) :
    (fw.putGptp r).stamps = fw.stamps := putGptp_same _ (fun _ _ _ _ _ => rfl) ..

theorem mcrServoUpdate_crfCheck (m : Mcr) (regs : McrRegs) :
    (mcrServoUpdate m regs).1.crfCheck = m.crfCheck := by
  obtain ⟨_, _, _, _, _, _, _, _, _, _, _, hwrites⟩ := mcrServoUpdate_writes m regs
  rw [hwrites]
  rfl

theorem mcrPumpHw_crfCheck (m : Mcr) (regs : McrRegs) (fifo : List CrfSample) :
    (mcrPumpHw m regs fifo).1.crfCheck = m.crfCheck := by
  unfold mcrPumpHw
  split
  · rfl
  · generalize fifo.take 64 = samples
    suffices ∀ m regs, (samples.foldl (fun mr sample => mcrTakeSample mr.1 mr.2 sample)
        (m, regs)).1.crfCheck = m.crfCheck from this m regs
    induction samples with
    | nil => exact fun _ _ => rfl
    | cons sample rest ih =>
      intro m regs
      rw [List.foldl_cons, ih, mcrTakeSample, mcrServoUpdate_crfCheck]
      simp only [Mcr.crfCheck]

theorem mcrProcessRx_crfCheck (m : Mcr) (frame : Buffer) (len : Nat) (rxTs : PtpTimestamp) :
    (mcrProcessRx m frame len rxTs).crfCheck = m.crfCheck := by
  unfold mcrProcessRx
  dsimp only
  split_ifs <;> rfl

theorem trackLocks_stamps (fw : Firmware) : (trackLocks fw).stamps = fw.stamps := by
  unfold trackLocks
  dsimp only
  have hlocked (fw : Firmware) (uid : ListenerUid) (locked : Bool) :
      (fw.putAvdecc (avdeccListenerLockChanged fw.avdecc uid locked)).stamps = fw.stamps :=
    putAvdecc_stamps fw (lockChanged_stamps ..)
  split
  · exact (hlocked ..).trans (hlocked ..)
  · exact hlocked ..

theorem syncVlan_stamps (fw : Firmware) : (syncVlan fw).stamps = fw.stamps :=
  syncVlan_same _ (fun _ _ _ _ _ => rfl) ..

theorem usbAafDrain_stamps (fw : Firmware) (words : List UInt32) :
    (usbAafDrain fw words).stamps = fw.stamps := usbAafDrain_same _ (fun _ _ _ _ => rfl) ..

theorem runAafTxPoll_stamps (fw : Firmware) (count : UInt32) (now : PtpTimestamp) :
    (runAafTxPoll fw count now).stamps = fw.stamps := runAafTxPoll_same _ (fun _ _ _ _ => rfl) ..

theorem srpPoll_remoteTalkers (s : Srp) (nowMs : UInt32) :
    (srpPoll s nowMs).1.remoteTalkers = (srpAge s nowMs).remoteTalkers := by
  unfold srpPoll srpSendDeclarations
  dsimp only
  split
  · unfold sendTalker sendListener sendDomain
    dsimp only
    split <;> split <;> rfl
  · rfl

theorem srpPoll_kept (fw : Firmware) (r : Readings) :
    fw.stamps.Kept (mainLoopStep fw (.srpPoll r)).stamps := by
  rw [mainLoopStep, loopStep]
  dsimp only
  rw [sendAll_stamps]
  refine ⟨fun k => ?_, fun _ => .inl rfl, .inr ⟨rfl, id⟩, .inl rfl⟩
  show (srpPoll fw.srp r.nowMs).1.remoteTalkers k = fw.srp.remoteTalkers k ∨
    ((srpPoll fw.srp r.nowMs).1.remoteTalkers k).valid = false
  rw [srpPoll_remoteTalkers, srpAge]
  dsimp only
  split
  · exact .inr rfl
  · exact .inl rfl

/-- After a poll the resolves that have timed out are inactive, and the others
as they were. -/
theorem avdeccPoll_stamps (s : Avdecc) (g : Gptp) (m : Mcr) (nowMs : UInt32) :
    (∀ u, (avdeccPoll s g m nowMs).1.resolves u =
      if resolveTimedOut (s.resolves u) nowMs then { s.resolves u with active := false }
      else s.resolves u) ∧ (avdeccPoll s g m nowMs).1.stamps.2 = s.stamps.2 := by
  have hclock := trackClockLock_stamps s g m
  have hcrf := timeOutResolve_stamps (trackClockLock s g m).1 listenerUidCrf nowMs
  have haaf := timeOutResolve_stamps (timeOutResolve (trackClockLock s g m).1 listenerUidCrf nowMs).1
    listenerUidAaf nowMs
  have hadp := adpAdvertise_stamps (timeOutResolve (timeOutResolve (trackClockLock s g m).1
    listenerUidCrf nowMs).1 listenerUidAaf nowMs).1 g nowMs
  have hresolves := congrArg Prod.fst hclock
  dsimp only [Avdecc.stamps] at hresolves
  have hfirst := congrArg Prod.fst hcrf
  dsimp only [Avdecc.stamps] at hfirst
  rw [hresolves] at hfirst
  have hsecond := congrArg Prod.fst haaf
  dsimp only [Avdecc.stamps] at hsecond
  rw [hfirst] at hsecond
  constructor
  · intro u
    have hlast := congrFun (congrArg Prod.fst hadp) u
    dsimp only [Avdecc.stamps] at hlast
    rw [avdeccPoll]
    dsimp only
    rw [hlast, hsecond]
    have hne : listenerUidAaf ≠ listenerUidCrf := by decide
    rcases u.cases with rfl | rfl
    · by_cases ht : resolveTimedOut (s.resolves listenerUidCrf) nowMs
      · simp only [ht, if_true, Function.update_of_ne hne]
        split <;> simp only [Function.update_of_ne hne.symm, Function.update_self]
      · simp only [ht, Bool.false_eq_true, if_false]
        split <;> simp only [Function.update_of_ne hne.symm]
    · by_cases ht : resolveTimedOut (s.resolves listenerUidCrf) nowMs
      · simp only [ht, if_true, Function.update_of_ne hne]
        split <;> simp only [Function.update_self, Function.update_of_ne hne]
      · simp only [ht, Bool.false_eq_true, if_false]
        split <;> simp only [Function.update_self]
  · have hrest := congrArg Prod.snd hadp
    rw [haaf, hcrf, hclock] at hrest
    exact hrest

theorem avdeccPoll_kept (fw : Firmware) (r : Readings) :
    fw.stamps.Kept (mainLoopStep fw (.avdeccPoll r)).stamps := by
  obtain ⟨hresolves, hflow⟩ := avdeccPoll_stamps fw.avdecc fw.gptp fw.mcr r.nowMs
  rw [mainLoopStep, loopStep, Firmware.putAvdecc, sendAll_stamps]
  refine ⟨fun _ => .inl rfl, fun u => ?_, .inr ⟨rfl, id⟩, .inl hflow⟩
  show (avdeccPoll fw.avdecc fw.gptp fw.mcr r.nowMs).1.resolves u = fw.avdecc.resolves u ∨
    ((avdeccPoll fw.avdecc fw.gptp fw.mcr r.nowMs).1.resolves u).active = false
  rw [hresolves]
  split
  · exact .inr rfl
  · exact .inl rfl

/-- The steps that keep the stamps: but for the received frames and the two
watchdogs, all. -/
def keepsStamps : LoopStep → Bool
  | .dispatchRx .. | .mcrWatchdogTick _ | .crfFlowWatchdog _ => false
  | _ => true

theorem step_kept (fw : Firmware) {step : LoopStep} (h : keepsStamps step) :
    fw.stamps.Kept (mainLoopStep fw step).stamps := by
  cases step with
  | dispatchRx slot len r => cases h
  | mcrWatchdogTick r => cases h
  | crfFlowWatchdog r => cases h
  | gptpPoll r => exact .of_eq (putGptp_stamps ..)
  | srpPoll r => exact srpPoll_kept ..
  | trackLocks => exact .of_eq (trackLocks_stamps _)
  | syncVlan => exact .of_eq (syncVlan_stamps _)
  | avdeccPoll r => exact avdeccPoll_kept ..
  | mcrPumpHw fifo => exact .of_eq (Firmware.stamps_congr rfl rfl (mcrPumpHw_crfCheck ..))
  | mcrServoUpdate => exact .of_eq (Firmware.stamps_congr rfl rfl (mcrServoUpdate_crfCheck ..))
  | usbAafDrain words =>
    rw [mainLoopStep, loopStep]
    split
    · exact .of_eq rfl
    · exact .of_eq (usbAafDrain_stamps ..)
  | aafTxPoll count now =>
    rw [mainLoopStep, loopStep]
    split
    · exact .of_eq rfl
    · exact .of_eq (runAafTxPoll_stamps ..)
  | packetizerFrame seq pres payload =>
    rw [mainLoopStep, loopStep]
    split <;> exact .of_eq rfl

/-- The listener that a frame taken in has a resolve started for. -/
def startedBy (fw : Firmware) (step : LoopStep) : Option ListenerUid :=
  (acmpCall fw step).bind fun call => resolveStart call.2 call.1

theorem dispatchRx_started {fw : Firmware} {slot : Buffer} {len : Nat} {r : Readings}
    {u : ListenerUid} (h : startedBy fw (.dispatchRx slot len r) = some u) :
    ∃ resolve : AvdeccResolve, resolve.startMs = r.nowMs ∧
      (mainLoopStep fw (.dispatchRx slot len r)).stamps =
        { fw.stamps with resolves := Function.update fw.stamps.resolves u resolve } := by
  obtain ⟨⟨handler, pdu⟩, hcall, hstart⟩ := Option.bind_eq_some_iff.mp h
  obtain ⟨slot', len', r', scratch, hsame, hstep⟩ := mainLoopStep_acmp hcall
  obtain ⟨rfl, rfl, rfl⟩ := LoopStep.dispatchRx.inj hsame
  refine ⟨newResolve { fw.avdecc with acmpRxCount := fw.avdecc.acmpRxCount + 1 } u pdu r.nowMs, rfl,
    ?_⟩
  rw [hstep]
  exact acmpHandle_started _ r hstart

/-- A frame that is no MRPDU and starts no resolve keeps the stamps. -/
theorem dispatchRx_kept {fw : Firmware} {slot : Buffer} {len : Nat} {r : Readings}
    (hmsrp : rxHandler (rxFrame slot len fw.scratch).frame (rxFrame slot len fw.scratch).len ≠
      some .msrp)
    (hstart : startedBy fw (.dispatchRx slot len r) = none) :
    fw.stamps.Kept (mainLoopStep fw (.dispatchRx slot len r)).stamps := by
  rw [startedBy, acmpCall] at hstart
  rw [mainLoopStep, loopStep, dispatchRx]
  dsimp only
  generalize rxFrame slot len fw.scratch = rx at hmsrp hstart ⊢
  cases hhandler : rxHandler rx.frame rx.len with
  | none => exact .of_eq rfl
  | some handler =>
    cases handler with
    | gptp => exact .of_eq (putGptp_stamps ..)
    | crf => exact .of_eq (Firmware.stamps_congr rfl rfl (mcrProcessRx_crfCheck ..))
    | aaf => exact .of_eq rfl
    | msrp => exact absurd hhandler hmsrp
    | avdecc =>
      rw [hhandler] at hstart
      dsimp only
      rw [rxHandle]
      have hrx := avdeccRx { fw with sent := [], tsuWrites := [], scratch := rx.scratch } rx.frame
        rx.len r
      generalize avdeccProcessRx { fw with sent := [], tsuWrites := [], scratch := rx.scratch }
        rx.frame rx.len r = fw' at hrx ⊢
      cases hrx with
      | ignored => exact .of_eq rfl
      | uncalled => exact .of_eq rfl
      | acmp hacmp h hcalled =>
        rw [if_pos ⟨rfl, hacmp⟩] at hstart
        have hcalled' : acmpHandler fw.avdecc (rx.frame.offset 14) = some h := hcalled
        rw [hcalled'] at hstart
        have hnone : resolveStart (rx.frame.offset 14) h = none := hstart
        exact acmpHandle_kept
          { fw with
            sent := []
            tsuWrites := []
            scratch := rx.scratch
            avdecc := { fw.avdecc with acmpRxCount := fw.avdecc.acmpRxCount + 1 } } _ r hnone
      | aecp =>
        refine .of_eq ?_
        unfold Firmware.aecp
        dsimp only
        split <;> exact Firmware.stamps_congr rfl (aecpHandle_stamps ..) rfl

end AvbAes3
