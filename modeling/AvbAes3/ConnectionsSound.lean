import AvbAes3.Connections

/-!
# The firmware refines the connections model

`mainLoop_refines`: what a step of the main loop does to the connections is
the run of the model over the operations read off the step. One lemma a
function, from the records up to the main loop; most of the firmware's
functions leave the connections alone, and their lemmas say so.
-/

namespace AvbAes3

-- ---------------------------------------------------------------------------
-- Records
-- ---------------------------------------------------------------------------

theorem withAvdecc_congr (fw : Firmware) {s s' : Avdecc} (h : s.connections = s'.connections) :
    { fw with avdecc := s }.connections = { fw with avdecc := s' }.connections := by
  simp only [Firmware.connections, h]

theorem withAvdecc_connections (fw : Firmware) {s : Avdecc}
    (h : s.connections = fw.avdecc.connections) :
    { fw with avdecc := s }.connections = fw.connections := withAvdecc_congr fw h

theorem withSrp_connections (fw : Firmware) {s : Srp} (h : s.advertised = fw.srp.advertised) :
    { fw with srp := s }.connections = fw.connections := by
  simp only [Firmware.connections, h]

theorem withMcr_connections (fw : Firmware) {m : Mcr} (regs : McrRegs)
    (h : m.binding = fw.mcr.binding) :
    { fw with mcr := m, mcrRegs := regs }.connections = fw.connections := by
  simp only [Firmware.connections, h]

theorem withAaf_connections (fw : Firmware) {a : Aaf} (hb : a.binding = fw.aaf.binding)
    (hi : a.identity = fw.aaf.identity) : { fw with aaf := a }.connections = fw.connections := by
  simp only [Firmware.connections, hb, hi]

theorem setListener_connections (fw : Firmware) (u : ListenerUid) (l : AvdeccListenerStream) :
    { fw with avdecc := fw.avdecc.setListener u l }.connections =
      fw.connections.setListener u l.link := by
  simp only [Firmware.connections, Connections.setListener, Avdecc.setListener, Avdecc.connections]
  congr 1
  exact Function.comp_update AvdeccListenerStream.link ..

theorem setResolve_connections (fw : Firmware) (i : ListenerUid) (r : AvdeccResolve) :
    { fw with avdecc := fw.avdecc.setResolve i r }.connections =
      fw.connections.setResolve i r.waiting := by
  simp only [Firmware.connections, Connections.setResolve, Avdecc.setResolve, Avdecc.connections]
  congr 1
  exact Function.comp_update AvdeccResolve.waiting ..

theorem setListener_link (c : Connections) (u : ListenerUid) :
    c.setListener u (c.listeners u) = c := by
  simp only [Connections.setListener, Function.update_eq_self]

-- ---------------------------------------------------------------------------
-- Sending
-- ---------------------------------------------------------------------------

theorem aafFrames_append (sent : List WireFrame) (f : WireFrame) :
    aafFrames (sent ++ [f]) =
      aafFrames sent ++ if f.isAaf then [frameIdentity f.bytes] else [] := by
  cases h : f.isAaf <;> simp [aafFrames, h]

theorem sendSlot_connections (fw : Firmware) {p : Producer} (slot : Buffer) (length : Nat)
    (hp : p ≠ .aaf) : (fw.sendSlot p slot length).connections = fw.connections := by
  have hn : ∀ bytes, WireFrame.isAaf ⟨.firmware p, bytes⟩ = false := by
    intro bytes
    cases p <;> first | rfl | exact absurd rfl hp
  simp only [Firmware.connections, Firmware.sendSlot, aafFrames_append, hn]
  simp only [Bool.false_eq_true, if_false, List.append_nil]

theorem sendAaf_connections (fw : Firmware) (bytes : List UInt8) :
    (fw.sendBytes .aaf bytes).connections =
      { fw.connections with aafFrames := fw.connections.aafFrames ++ [frameIdentity bytes] } := by
  simp only [Firmware.connections, Firmware.sendBytes, Firmware.sendSlot, EthMac.send,
    aafFrames_append, Buffer.take_copy]
  rfl

theorem sendAll_connections (fw : Firmware) {p : Producer} (frames : List (List UInt8))
    (hp : p ≠ .aaf) : (fw.sendAll p frames).connections = fw.connections := by
  induction frames generalizing fw with
  | nil => rfl
  | cons bytes rest ih => exact (ih _).trans (sendSlot_connections fw _ _ hp)

theorem putAvdecc_connections (fw : Firmware) (r : Avdecc × List (List UInt8)) :
    (fw.putAvdecc r).connections = { fw with avdecc := r.1 }.connections :=
  sendAll_connections _ _ (by decide)

/-- Frames sent and state kept. -/
theorem putAvdecc_connections_same (fw : Firmware) {r : Avdecc × List (List UInt8)}
    (h : r.1.connections = fw.avdecc.connections) : (fw.putAvdecc r).connections = fw.connections :=
  (putAvdecc_connections fw r).trans (withAvdecc_connections fw h)

theorem respond_connections (fw : Firmware) (msgType status : UInt8) (pdu : Buffer) :
    (fw.respond msgType status pdu).connections = fw.connections :=
  putAvdecc_connections_same fw (acmpSendResponse_connections ..)

-- ---------------------------------------------------------------------------
-- Callbacks
-- ---------------------------------------------------------------------------

theorem listenerEnable_connections (fw : Firmware) (streamId : StreamId) (enable : Bool)
    (nowMs : UInt32) : (fw.listenerEnable streamId enable nowMs).connections = fw.connections := by
  refine withSrp_connections fw ?_
  cases enable <;> rfl

theorem learnStream_connections (fw : Firmware) (uid : ListenerUid) (streamId : StreamId) :
    (learnStream fw uid streamId).connections = fw.connections := by
  unfold learnStream
  split
  · rfl
  · refine (setListener_connections fw uid _).trans ?_
    exact setListener_link fw.connections uid

theorem bindEngine_connections (fw : Firmware) (uid : ListenerUid) (streamId : StreamId)
    (destMac : MacAddr) :
    (bindEngine fw uid streamId destMac).connections =
      fw.connections.bind uid streamId destMac := by
  unfold bindEngine Connections.bind
  rcases uid.cases with rfl | rfl
  · rw [if_pos rfl, if_pos rfl]
    simp only [Firmware.connections, Connections.setEngine, mcrBind_binding]
    congr 1
    funext u
    rcases u.cases with rfl | rfl <;> rfl
  · rw [if_neg (by decide), if_neg (by decide)]
    simp only [Firmware.connections, Connections.setEngine, aafBind_binding, aafBind_identity]
    congr 1
    funext u
    rcases u.cases with rfl | rfl <;> rfl

theorem unbindEngine_connections (fw : Firmware) (uid : ListenerUid) (nowMs : UInt32) :
    (unbindEngine fw uid nowMs).connections = fw.connections.unbind uid := by
  have withdrawn (bound : Bool) (sid : StreamId) :
      (if bound then fw.listenerEnable sid false nowMs else fw).connections = fw.connections := by
    cases bound
    · rfl
    · exact listenerEnable_connections ..
  unfold unbindEngine Connections.unbind
  dsimp only
  rcases uid.cases with rfl | rfl
  · simp only [↓reduceIte, ← withdrawn fw.mcr.bound fw.mcr.streamId]
    generalize (if fw.mcr.bound = true then _ else fw) = fw'
    simp only [Firmware.connections, Connections.setEngine, mcrUnbind_binding]
    congr 1
    funext u
    rcases u.cases with rfl | rfl <;> rfl
  · simp only [show listenerUidAaf ≠ listenerUidCrf by decide, ↓reduceIte,
      ← withdrawn fw.aaf.bound fw.aaf.streamId]
    generalize (if fw.aaf.bound = true then _ else fw) = fw'
    simp only [Firmware.connections, Connections.setEngine]
    congr 1
    funext u
    rcases u.cases with rfl | rfl <;> rfl

theorem setPending_connections (fw : Firmware) (u : ListenerUid) (p : PendingBind) :
    (fw.setPending u p).connections = fw.connections.setPending u p := rfl

theorem stopWaiting_connections (fw : Firmware) (u : ListenerUid) :
    (fw.setPending u { fw.pendingListeners u with active := false }).connections =
      fw.connections.stopWaiting u := rfl

theorem onListenerConnect_connections (fw : Firmware) (uid : ListenerUid) (streamId : StreamId)
    (destMac : MacAddr) (talkerId : EntityId) (nowMs : UInt32) :
    (onListenerConnect fw uid streamId destMac talkerId nowMs).connections =
      fw.connections.listen uid streamId destMac talkerId := by
  unfold onListenerConnect Connections.listen
  split
  · rfl
  · rw [bindEngine_connections, listenerEnable_connections, learnStream_connections,
      stopWaiting_connections]

theorem onListenerDisconnect_connections (fw : Firmware) (uid : ListenerUid) (nowMs : UInt32) :
    (onListenerDisconnect fw uid nowMs).connections = (fw.connections.stopWaiting uid).unbind uid := by
  rw [onListenerDisconnect, unbindEngine_connections, stopWaiting_connections]

theorem completePending_connections (fw : Firmware) (i : ListenerUid) (streamId : StreamId)
    (destMac : MacAddr) (nowMs : UInt32) :
    (completePending fw i streamId destMac nowMs).connections =
      fw.connections.complete i streamId destMac := by
  have hawaits : fw.connections.awaits i streamId destMac ↔
      (fw.pendingListeners i).active ∧ destOrEidMatch (fw.pendingListeners i) streamId destMac := by
    rw [Connections.awaits, Bool.and_eq_true]
    rfl
  unfold completePending Connections.complete
  by_cases h : fw.connections.awaits i streamId destMac
  · rw [if_pos (hawaits.mp h), if_pos h]
    dsimp only
    rw [Connections.stopWaiting, setPending_connections, bindEngine_connections,
      listenerEnable_connections, learnStream_connections, setStream, setListener_connections,
      Connections.bind_pending]
    rfl
  · rw [if_neg (mt hawaits.mpr h), if_neg h]

theorem onTalkerAdvertise_connections (fw : Firmware) (streamId : StreamId) (destMac : MacAddr)
    (nowMs : UInt32) :
    (onTalkerAdvertise fw streamId destMac nowMs).connections =
      fw.connections.apply (.advertise streamId destMac) := by
  rw [onTalkerAdvertise, completePending_connections, completePending_connections,
    Connections.apply]

theorem aafGwPushBinding_wire (fw : Firmware) :
    (aafGwPushBinding fw).aafPkt.wire = fw.aaf.identity.wire := by
  simp only [aafGwPushBinding, AafPktRegs.wire, regMac_eq, regStreamId_eq]
  rfl

theorem aafGwPushBinding_connections (fw : Firmware) :
    (aafGwPushBinding fw).connections = fw.connections.apply .pushBinding := by
  simp only [Firmware.connections, aafGwPushBinding_wire]
  rfl

theorem aafGwSet_on_connections (fw : Firmware) :
    (aafGwSet fw true).connections =
      { fw.connections with packetizer := ⟨fw.connections.identity.wire, true, true⟩ } := by
  have h : (aafGwSet fw true).connections =
      { fw.connections with packetizer := ⟨(aafGwPushBinding fw).aafPkt.wire, true, true⟩ } := rfl
  rw [h, aafGwPushBinding_wire]
  rfl

theorem onTalkerConnect_connections (fw : Firmware) (uid : TalkerUid) (r : Readings) :
    (onTalkerConnect fw uid r).connections =
      { fw.connections with
        advertised := { fw.connections.advertised with enabled := true }
        packetizer := ⟨fw.connections.identity.wire, true, true⟩ } := by
  rw [onTalkerConnect, if_neg (not_not.mpr uid.eq_aaf), aafGwSet_on_connections]
  rfl

theorem onTalkerDisconnect_connections (fw : Firmware) (uid : TalkerUid) (r : Readings) :
    (onTalkerDisconnect fw uid r).connections =
      { fw.connections with
        advertised := { fw.connections.advertised with enabled := false }
        packetizer := { fw.connections.packetizer with enabled := false } } := by
  rw [onTalkerDisconnect, if_neg (not_not.mpr uid.eq_aaf)]
  rfl

theorem setTalker_connections (fw : Firmware) (uid : TalkerUid) (t : AvdeccTalkerStream) :
    { fw with avdecc := fw.avdecc.setTalker uid t }.connections =
      { fw.connections with talker := t.link } := by
  rw [uid.eq_aaf]
  simp only [Firmware.connections, Avdecc.setTalker, Avdecc.connections, Function.update_self]

-- ---------------------------------------------------------------------------
-- Received MRPDUs
-- ---------------------------------------------------------------------------

theorem noteVector_advertised (s : Srp) (v : MsrpVector) :
    (noteVector s v).advertised = s.advertised := by
  obtain ⟨_, _, _, _, _, _, _, _, hwrites⟩ := noteVector_writes s v
  rw [hwrites]
  rfl

theorem matchListener_advertised (s : Srp) (value : Buffer) (nowMs : UInt32) :
    (matchListener s value nowMs).advertised = s.advertised := by
  unfold matchListener Srp.advertised
  split <;> rfl

theorem sendTalker_advertised (s : Srp) (leaveAll : Bool) :
    (sendTalker s leaveAll).1.advertised = s.advertised := by
  unfold sendTalker Srp.advertised
  split <;> rfl

theorem sendListener_advertised (s : Srp) (leaveAll : Bool) :
    (sendListener s leaveAll).1.advertised = s.advertised := by
  unfold sendListener Srp.advertised
  split <;> rfl

theorem srpSendDeclarations_advertised (s : Srp) (leaveAll : Bool) :
    (srpSendDeclarations s leaveAll).1.advertised = s.advertised :=
  (sendListener_advertised ..).trans (sendTalker_advertised ..)

theorem srpPoll_advertised (s : Srp) (nowMs : UInt32) :
    (srpPoll s nowMs).1.advertised = s.advertised := by
  unfold srpPoll
  dsimp only
  split
  · exact srpSendDeclarations_advertised (srpAge s nowMs) (leaveAllDue s nowMs)
  · rfl

theorem talkerAdvertised_connections (nowMs : UInt32) (fw : Firmware) (v : MsrpVector) :
    (talkerAdvertised nowMs fw v.value).connections = fw.connections.apply (advertiseOf v) := by
  rw [talkerAdvertised]
  refine (withSrp_connections _ (matchListener_advertised ..)).trans ?_
  have h : (upsertTalker fw.srp v.value nowMs).advertised = fw.srp.advertised := rfl
  rw [onTalkerAdvertise_connections, withSrp_connections fw h, advertiseOf]

theorem srpVector_connections (nowMs : UInt32) (fw : Firmware) (v : MsrpVector) :
    (srpVector nowMs fw v).connections =
      if isTalkerAdvertise v then fw.connections.apply (advertiseOf v) else fw.connections := by
  rw [srpVector]
  split
  · rw [talkerAdvertised_connections, withSrp_connections _ (noteVector_advertised ..)]
  · exact withSrp_connections _ (noteVector_advertised ..)

theorem srpVectors_connections (nowMs : UInt32) (vectors : List MsrpVector) (fw : Firmware) :
    (vectors.foldl (srpVector nowMs) fw).connections =
      connMachine.runFrom fw.connections ((vectors.filter isTalkerAdvertise).map advertiseOf) := by
  induction vectors generalizing fw with
  | nil => rfl
  | cons v rest ih =>
    rw [List.foldl_cons, ih, srpVector_connections]
    cases h : isTalkerAdvertise v
    · rw [List.filter_cons_of_neg (by rw [h]; decide)]
      rfl
    · rw [List.filter_cons_of_pos h]
      rfl

theorem srpProcessRx_connections (fw : Firmware) (frame : Buffer) (len : Nat) (nowMs : UInt32) :
    (srpProcessRx fw frame len nowMs).connections =
      connMachine.runFrom fw.connections (msrpOps frame len) := by
  unfold srpProcessRx msrpOps
  split
  · rw [srpVectors_connections]
    congr 1
  · rfl

-- ---------------------------------------------------------------------------
-- Received AVDECC messages
-- ---------------------------------------------------------------------------

theorem acmpHandleConnectTx_connections (fw : Firmware) (pdu : Buffer) (r : Readings) :
    (acmpHandleConnectTx fw pdu r).connections =
      connMachine.runFrom fw.connections (acmpOps fw pdu .connectTx) := by
  unfold acmpHandleConnectTx acmpOps
  cases h : talkerUid? (pduTalkerUid pdu) with
  | none => exact respond_connections ..
  | some uid =>
    dsimp only
    rw [respond_connections, onTalkerConnect_connections, setTalker_connections, uid.eq_aaf]
    rfl

theorem acmpHandleDisconnectTx_connections (fw : Firmware) (pdu : Buffer) (r : Readings) :
    (acmpHandleDisconnectTx fw pdu r).connections =
      connMachine.runFrom fw.connections (acmpOps fw pdu .disconnectTx) := by
  rw [acmpHandleDisconnectTx, respond_connections]
  unfold acmpOps
  cases h : talkerUid? (pduTalkerUid pdu) with
  | none => rfl
  | some uid =>
    dsimp only
    rw [onTalkerDisconnect_connections, setTalker_connections, uid.eq_aaf]
    rfl

theorem notified_connections (fw : Firmware) (uid : ListenerUid) :
    (fw.putAvdecc (notifyListenerConnected fw.avdecc uid)).connections = fw.connections :=
  putAvdecc_connections_same fw (notifyListenerConnected_connections ..)

theorem connectResolved_connections (fw : Firmware) (r : AvdeccResolve) (pdu : Buffer)
    (nowMs : UInt32) :
    (connectResolved fw r pdu nowMs).connections =
      fw.connections.connect r.listenerUid (pduStreamId pdu) (pduStreamDestMac pdu)
        r.talkerId := by
  rw [connectResolved, notified_connections, onListenerConnect_connections,
    setListener_connections]
  rfl

theorem fastConnect_connections (fw : Firmware) (luid : ListenerUid) (pdu : Buffer)
    (nowMs : UInt32) :
    (fastConnect fw luid pdu nowMs).connections =
      fw.connections.connect luid (pduStreamId pdu) (pduStreamDestMac pdu) (pduTalkerId pdu) := by
  rw [fastConnect, respond_connections, notified_connections, onListenerConnect_connections,
    setListener_connections]
  rfl

theorem slowConnect_connections (fw : Firmware) (luid : ListenerUid) (pdu : Buffer)
    (nowMs : UInt32) :
    (slowConnect fw luid pdu nowMs).connections = fw.connections.setResolve luid (some luid) := by
  rw [slowConnect, putAvdecc_connections]
  refine (withAvdecc_connections _ (sendConnectTxCommand_connections ..)).trans ?_
  exact setResolve_connections fw luid (newResolve fw.avdecc luid pdu nowMs)

theorem acmpHandleConnectTxResponse_connections (fw : Firmware) (pdu : Buffer) (nowMs : UInt32) :
    (acmpHandleConnectTxResponse fw pdu nowMs).connections =
      connMachine.runFrom fw.connections (acmpOps fw pdu .connectTxResponse) := by
  unfold acmpHandleConnectTxResponse acmpOps
  cases h : answeredResolve fw.avdecc pdu with
  | none => rfl
  | some i =>
    have hwaiting : fw.connections.resolves i = some (fw.avdecc.resolves i).listenerUid :=
      if_pos (answeredResolve_active h)
    dsimp only
    rw [setResolve_connections, putAvdecc_connections_same _
      (sendDeferredConnectRxResponse_connections ..)]
    show _ = fw.connections.answer i _ _ _ _
    rw [Connections.answer, hwaiting]
    dsimp only
    by_cases hs : pduStatus pdu = acmpStatusSuccess
    · rw [if_pos hs, if_pos (decide_eq_true hs), connectResolved_connections]
      rfl
    · rw [if_neg hs, if_neg (by simpa using hs)]
      rfl

theorem acmpHandleConnectRx_connections (fw : Firmware) (pdu : Buffer) (nowMs : UInt32) :
    (acmpHandleConnectRx fw pdu nowMs).connections =
      connMachine.runFrom fw.connections (acmpOps fw pdu .connectRx) := by
  unfold acmpHandleConnectRx acmpOps
  cases h : listenerUid? (pduListenerUid pdu) with
  | none => exact respond_connections ..
  | some luid =>
    dsimp only
    by_cases hslow : isSlowPath pdu
    · rw [if_pos hslow, if_pos hslow, slowConnect_connections]
      rfl
    rw [if_neg hslow, if_neg hslow]
    by_cases hzero : pduTalkerId pdu = zeroBytes 8
    · rw [if_pos hzero, if_pos hzero, respond_connections]
      rfl
    · rw [if_neg hzero, if_neg hzero, fastConnect_connections]
      rfl

theorem acmpHandleDisconnectRx_connections (fw : Firmware) (pdu : Buffer) (nowMs : UInt32) :
    (acmpHandleDisconnectRx fw pdu nowMs).connections =
      connMachine.runFrom fw.connections (acmpOps fw pdu .disconnectRx) := by
  rw [acmpHandleDisconnectRx, respond_connections]
  unfold acmpOps
  cases h : listenerUid? (pduListenerUid pdu) with
  | none => rfl
  | some luid =>
    dsimp only
    rw [putAvdecc_connections_same _ (notifyListenerDisconnected_connections ..),
      onListenerDisconnect_connections, setListener_connections]
    rfl

theorem acmpHandle_connections (fw : Firmware) (pdu : Buffer) (r : Readings) (h : AcmpHandler) :
    (acmpHandle fw pdu r h).connections = connMachine.runFrom fw.connections (acmpOps fw pdu h) := by
  cases h with
  | connectTx => exact acmpHandleConnectTx_connections ..
  | connectTxResponse => exact acmpHandleConnectTxResponse_connections ..
  | disconnectTx => exact acmpHandleDisconnectTx_connections ..
  | getTxState => exact respond_connections ..
  | connectRx => exact acmpHandleConnectRx_connections ..
  | disconnectRx => exact acmpHandleDisconnectRx_connections ..
  | getRxState => exact respond_connections ..

theorem aecp_connections (fw : Firmware) (frame : Buffer) (len : Nat) :
    (fw.aecp frame len).connections = fw.connections := by
  unfold Firmware.aecp
  dsimp only
  split
  · refine (sendSlot_connections _ _ _ (by decide)).trans ?_
    exact withAvdecc_connections fw (aecpHandle_connections ..)
  · exact withAvdecc_connections fw (aecpHandle_connections ..)

/-- The count of received ACMP messages matters to no handler. -/
theorem acmpCounted_ops (fw : Firmware) (count : UInt32) (pdu : Buffer) (h : AcmpHandler) :
    acmpOps { fw with avdecc := { fw.avdecc with acmpRxCount := count } } pdu h =
      acmpOps fw pdu h := by
  cases h <;> rfl

theorem acmpCounted_connections (fw : Firmware) (count : UInt32) :
    { fw with avdecc := { fw.avdecc with acmpRxCount := count } }.connections = fw.connections :=
  rfl

theorem avdeccProcessRx_connections (fw : Firmware) (frame : Buffer) (len : Nat) (r : Readings) :
    (avdeccProcessRx fw frame len r).connections =
      connMachine.runFrom fw.connections (avdeccOps fw frame len) := by
  unfold avdeccOps
  have hrx := avdeccRx fw frame len r
  generalize avdeccProcessRx fw frame len r = fw' at hrx ⊢
  cases hrx with
  | ignored hacmp =>
    rw [if_neg hacmp]
    rfl
  | uncalled hacmp hnone =>
    rw [if_pos hacmp, hnone]
    exact acmpCounted_connections ..
  | acmp hacmp h hcalled =>
    rw [if_pos hacmp, hcalled, acmpHandle_connections, acmpCounted_ops, acmpCounted_connections]
  | aecp hacmp =>
    rw [if_neg hacmp]
    exact aecp_connections ..

-- ---------------------------------------------------------------------------
-- The main loop
-- ---------------------------------------------------------------------------

theorem putGptp_connections (fw : Firmware) (r : Gptp × List GptpEffect) :
    (fw.putGptp r).connections = fw.connections := by
  suffices ∀ (effects : List GptpEffect) (fw : Firmware),
      (effects.foldl gptpEffect fw).connections = fw.connections from
    this r.2 { fw with gptp := r.1 }
  intro effects
  induction effects with
  | nil => exact fun _ => rfl
  | cons effect rest ih =>
    refine fun fw => (ih _).trans ?_
    cases effect
    case send frame => exact sendSlot_connections fw _ _ (by decide)
    all_goals rfl

theorem rxHandle_connections (fw : Firmware) (frame : Buffer) (len : Nat) (r : Readings)
    (h : RxHandler) :
    (rxHandle fw frame len r h).connections =
      connMachine.runFrom fw.connections (rxOps fw frame len h) := by
  cases h with
  | gptp => exact putGptp_connections ..
  | avdecc => exact avdeccProcessRx_connections ..
  | crf => exact withMcr_connections fw fw.mcrRegs (mcrProcessRx_binding ..)
  | aaf => exact withAaf_connections fw (aafProcessRx_binding ..) (aafProcessRx_identity ..)
  | msrp => exact srpProcessRx_connections ..

theorem dispatchRx_connections (fw : Firmware) (slot : Buffer) (len : Nat) (r : Readings) :
    (dispatchRx fw slot len r).connections =
      connMachine.runFrom fw.connections (stepOps fw (.dispatchRx slot len r)) := by
  unfold dispatchRx stepOps
  dsimp only
  cases h : rxHandler (rxFrame slot len fw.scratch).frame (rxFrame slot len fw.scratch).len with
  | none => rfl
  | some handler => exact rxHandle_connections ..

theorem lockChanged_connections (fw : Firmware) (uid : ListenerUid) (locked : Bool) :
    (fw.putAvdecc (avdeccListenerLockChanged fw.avdecc uid locked)).connections = fw.connections :=
  putAvdecc_connections_same fw (avdeccListenerLockChanged_connections ..)

theorem trackLocks_connections (fw : Firmware) : (trackLocks fw).connections = fw.connections := by
  unfold trackLocks
  refine (withAvdecc_connections (Firmware.putAvdecc _ (avdeccListenerLockChanged _ _ _)) rfl).trans ?_
  refine (lockChanged_connections ..).trans ?_
  split
  · exact lockChanged_connections ..
  · rfl

theorem syncVlan_connections (fw : Firmware) :
    (syncVlan fw).connections = connMachine.runFrom fw.connections (stepOps fw .syncVlan) := by
  let tagged := { fw with aaf := aafSetVlan fw.aaf fw.srp.rxSrPrio fw.srp.rxSrVid }
  have htagged : tagged.connections = fw.connections :=
    withAaf_connections fw (aafSetVlan_binding ..) (aafSetVlan_identity ..)
  unfold syncVlan stepOps
  dsimp only
  by_cases hchanged : vlanChanged fw
  · by_cases hgw : fw.aafGwEnabled
    · rw [if_pos hchanged, if_pos hgw, if_pos ⟨hchanged, hgw⟩]
      show (aafGwPushBinding tagged).connections = fw.connections.apply .pushBinding
      rw [aafGwPushBinding_connections, htagged]
    · rw [if_pos hchanged, if_neg hgw, if_neg (mt And.right hgw)]
      exact htagged
  · rw [if_neg hchanged, if_neg (mt And.left hchanged)]
    rfl

theorem timeOutResolve_ops (fw : Firmware) (s : Avdecc) (i : ListenerUid) (nowMs : UInt32) :
    { fw with avdecc := (timeOutResolve s i nowMs).1 }.connections =
      connMachine.runFrom { fw with avdecc := s }.connections (timeOutOps s nowMs i) := by
  unfold timeOutResolve timeOutOps
  dsimp only
  split
  · exact setResolve_connections { fw with avdecc := s } i { s.resolves i with active := false }
  · rfl

theorem timeOutOps_congr {s s' : Avdecc} {i : ListenerUid} (nowMs : UInt32)
    (h : s'.resolves i = s.resolves i) : timeOutOps s' nowMs i = timeOutOps s nowMs i := by
  rw [timeOutOps, timeOutOps, h]

theorem timeOutResolve_other {s : Avdecc} {i j : ListenerUid} (nowMs : UInt32) (h : j ≠ i) :
    (timeOutResolve s i nowMs).1.resolves j = s.resolves j := by
  unfold timeOutResolve
  dsimp only
  split
  · exact Function.update_of_ne h ..
  · rfl

theorem avdeccPoll_connections (fw : Firmware) (r : Readings) :
    (fw.putAvdecc (avdeccPoll fw.avdecc fw.gptp fw.mcr r.nowMs)).connections =
      connMachine.runFrom fw.connections (stepOps fw (.avdeccPoll r)) := by
  let s := (trackClockLock fw.avdecc fw.gptp fw.mcr).1
  let s' := (timeOutResolve s listenerUidCrf r.nowMs).1
  have hs : s.connections = fw.avdecc.connections := trackClockLock_connections ..
  have hresolves : s.resolves = fw.avdecc.resolves := congrArg AvdeccConnections.resolves hs
  have hcrf : timeOutOps s r.nowMs listenerUidCrf = timeOutOps fw.avdecc r.nowMs listenerUidCrf :=
    timeOutOps_congr _ (congrFun hresolves _)
  have haaf : timeOutOps s' r.nowMs listenerUidAaf = timeOutOps fw.avdecc r.nowMs listenerUidAaf :=
    timeOutOps_congr _ ((timeOutResolve_other _ (by decide)).trans (congrFun hresolves _))
  have hadp : (avdeccPoll fw.avdecc fw.gptp fw.mcr r.nowMs).1.connections =
      (timeOutResolve s' listenerUidAaf r.nowMs).1.connections :=
    adpAdvertise_connections (timeOutResolve s' listenerUidAaf r.nowMs).1 fw.gptp r.nowMs
  calc (fw.putAvdecc (avdeccPoll fw.avdecc fw.gptp fw.mcr r.nowMs)).connections
    _ = { fw with avdecc := (timeOutResolve s' listenerUidAaf r.nowMs).1 }.connections :=
      (putAvdecc_connections ..).trans (withAvdecc_congr fw hadp)
    _ = connMachine.runFrom fw.connections (stepOps fw (.avdeccPoll r)) := by
      rw [timeOutResolve_ops, haaf, timeOutResolve_ops, hcrf, withAvdecc_connections fw hs,
        ← Machine.runFrom_append]
      rfl

theorem usbSample_connections (fw : Firmware) (v : UInt32) :
    (usbSample fw v).connections = fw.connections := by
  have hpushed (flush : Prop) [Decidable flush] :
      (if flush then aafTxPush fw.aaf fw.usbBlock else fw.aaf).binding = fw.aaf.binding ∧
        (if flush then aafTxPush fw.aaf fw.usbBlock else fw.aaf).identity = fw.aaf.identity := by
    split
    · exact ⟨aafTxPush_binding .., aafTxPush_identity ..⟩
    · exact ⟨rfl, rfl⟩
  exact withAaf_connections fw (hpushed _).1 (hpushed _).2

theorem usbAafDrain_connections (fw : Firmware) (words : List UInt32) :
    (usbAafDrain fw words).connections = fw.connections := by
  unfold usbAafDrain
  generalize (words.take 1024).takeWhile _ = samples
  induction samples generalizing fw with
  | nil => rfl
  | cons v rest ih => exact (ih _).trans (usbSample_connections fw v)

theorem runAafTxPoll_connections (fw : Firmware) (count : UInt32) (now : PtpTimestamp) :
    (runAafTxPoll fw count now).connections =
      connMachine.runFrom fw.connections
        (if (aafTxPoll fw.aaf count now).2.isSome then [.aafFrame] else []) := by
  have hpolled : { fw with aaf := (aafTxPoll fw.aaf count now).1 }.connections = fw.connections :=
    withAaf_connections fw (aafTxPoll_binding ..) (aafTxPoll_identity ..)
  unfold runAafTxPoll
  dsimp only
  cases h : (aafTxPoll fw.aaf count now).2 with
  | none => exact hpolled
  | some frame =>
    dsimp only
    rw [sendAaf_connections, hpolled, aafTxPoll_frame h]
    rfl

theorem packetizerHeader_wire (regs : AafPktRegs) (seq : UInt8) (pres : UInt32)
    (payload : List UInt8) :
    frameIdentity (packetizerHeader regs seq pres ++ payload) = regs.wire := by
  simp only [frameIdentity, packetizerHeader, AafPktRegs.wire, regMac, regStreamId, be16, be32,
    List.cons_append, List.nil_append]
  rfl

theorem packetizerFrame_connections (fw : Firmware) (seq : UInt8) (pres : UInt32)
    (payload : List UInt8) :
    (loopStep fw (.packetizerFrame seq pres payload)).connections =
      fw.connections.apply .packetizerFrame := by
  have hstarted : fw.connections.packetizer.started = fw.aafPktStarted := rfl
  unfold loopStep Connections.apply
  dsimp only
  rw [hstarted]
  split
  · simp only [Firmware.connections, aafFrames_append, packetizerHeader_wire]
    rfl
  · rfl

theorem loopStep_connections (fw : Firmware) (step : LoopStep) :
    (loopStep fw step).connections = connMachine.runFrom fw.connections (stepOps fw step) := by
  cases step with
  | dispatchRx slot len r => exact dispatchRx_connections ..
  | gptpPoll r => exact putGptp_connections ..
  | srpPoll r =>
    refine (sendAll_connections _ _ (by decide)).trans ?_
    exact withSrp_connections fw (srpPoll_advertised ..)
  | trackLocks => exact trackLocks_connections fw
  | syncVlan => exact syncVlan_connections fw
  | avdeccPoll r => exact avdeccPoll_connections ..
  | mcrPumpHw fifo => exact withMcr_connections fw _ (mcrPumpHw_binding ..)
  | mcrServoUpdate => exact withMcr_connections fw _ (mcrServoUpdate_binding ..)
  | mcrWatchdogTick r => exact withMcr_connections fw _ (mcrWatchdogTick_binding ..)
  | crfFlowWatchdog r =>
    exact putAvdecc_connections_same fw (avdeccCrfFlowWatchdog_connections ..)
  | usbAafDrain words =>
    unfold loopStep
    dsimp only
    split
    · rfl
    · exact usbAafDrain_connections ..
  | aafTxPoll count now =>
    unfold loopStep stepOps
    dsimp only
    cases h : fw.aafGwEnabled
    · exact runAafTxPoll_connections ..
    · rfl
  | packetizerFrame seq pres payload => exact packetizerFrame_connections ..

theorem mainLoop_refines : mainLoop.Refines connMachine Firmware.connections connOps where
  init := rfl
  step fw step := by
    show (loopStep { fw with sent := [], tsuWrites := [] } step).connections = _
    rw [loopStep_connections]
    cases step <;> rfl

theorem mainLoop_run {run : List LoopStep} {ops : List ConnOp}
    (h : mainLoop.traceFrom connOps boot run = ops) :
    (mainLoop.run run).connections = connMachine.run ops := by
  rw [← h]
  exact mainLoop_refines.run run

/-- Every operation of a step meets `P`, in the connections it finds. -/
def EachOp (P : Connections → ConnOp → Prop) (fw : Firmware) (step : LoopStep) : Prop :=
  connMachine.StepsFrom P fw.connections (connOps fw step)

instance decidableEachOp {P : Connections → ConnOp → Prop} [∀ c op, Decidable (P c op)]
    (fw : Firmware) (step : LoopStep) : Decidable (EachOp P fw step) :=
  Machine.StepsFrom.decidable connMachine fw.connections (connOps fw step)

end AvbAes3
