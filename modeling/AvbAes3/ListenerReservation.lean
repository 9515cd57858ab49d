import AvbAes3.ConnectionsSound
import AvbAes3.Mrpdu
import AvbAes3.Senders

/-!
# Two listeners, one declaration

SRP declares one listener stream. Connecting a listener overwrites it, and
disconnecting a listener whose engine is bound withdraws it, whichever of
the two it was declared for. The runs are of main.c's listener callbacks and
`srp_poll`: both listeners' streams are declared in every PDU if no connect
and no disconnect takes the declaration from the other.
-/

namespace AvbAes3.ListenerReservation

-- ---------------------------------------------------------------------------
-- Callbacks
-- ---------------------------------------------------------------------------

inductive Callback
  | connect (uid : ListenerUid) (streamId : StreamId) (destMac : MacAddr) (talkerId : EntityId)
    (nowMs : UInt32)
  | disconnect (uid : ListenerUid) (nowMs : UInt32)
  | srpPoll (r : Readings)

def callback (fw : Firmware) : Callback → Firmware
  | .connect uid streamId destMac talkerId nowMs =>
    onListenerConnect fw uid streamId destMac talkerId nowMs
  | .disconnect uid nowMs => onListenerDisconnect fw uid nowMs
  | .srpPoll r => loopStep fw (.srpPoll r)

/-- The stream each listener is connected to, where it is known. -/
abbrev Known := ListenerUid → Option StreamId

def note (known : Known) : Callback → Known
  | .connect uid streamId .. =>
    Function.update known uid (if streamIdIsZero streamId then none else some streamId)
  | .disconnect uid _ => Function.update known uid none
  | .srpPoll _ => known

/-- Callbacks from any state in which no listener is connected. -/
def callbacks (start : Firmware) : Machine (Firmware × Known) Callback where
  init := ({ start with sent := [] }, fun _ => none)
  step s c := (callback { s.1 with sent := [] } c, note s.2 c)

/-- The first FourPackedEvent of a Listener vector. -/
def MsrpVector.listenerEvent (v : MsrpVector) : UInt8 :=
  v.value (v.attrLen.toNat + (v.numValues + 2) / 3) >>> 6

def isReady (streamId : StreamId) (v : MsrpVector) : Bool :=
  v.attrType == msrpAttrListener && v.value.bytes 8 == streamId &&
    MsrpVector.listenerEvent v == MsrpListener.ready.code

/-- The PDU declares a Listener, ready, for the stream. -/
def declares (bytes : List UInt8) (streamId : StreamId) : Bool :=
  (msrpVectors (Buffer.ofList bytes) bytes.length).any (isReady streamId)

/-- Every MSRP PDU sent declares the streams of the connected listeners. -/
def Reserved (s : Firmware × Known) : Prop :=
  ∀ f ∈ s.1.sent, isMsrpPdu (Buffer.ofList f.bytes) f.bytes.length →
    ∀ u streamId, s.2 u = some streamId → declares f.bytes streamId

/-- The other listener is not connected to another stream when one connects,
and not connected at all when one with its engine bound disconnects. -/
def Separate (s : Firmware × Known) : Callback → Prop
  | .connect uid streamId .. =>
    streamIdIsZero streamId = false → ∀ v, v ≠ uid → s.2 v = none ∨ s.2 v = some streamId
  | .disconnect uid _ => s.1.connections.engines uid = none ∨ ∀ v, v ≠ uid → s.2 v = none
  | .srpPoll _ => True

-- ---------------------------------------------------------------------------
-- What the callbacks do to SRP
-- ---------------------------------------------------------------------------

theorem learnStream_srp (fw : Firmware) (uid : ListenerUid) (streamId : StreamId) :
    (learnStream fw uid streamId).srp = fw.srp := by
  unfold learnStream
  split <;> rfl

theorem bindEngine_srp (fw : Firmware) (uid : ListenerUid) (streamId : StreamId)
    (destMac : MacAddr) : (bindEngine fw uid streamId destMac).srp = fw.srp := by
  unfold bindEngine
  split <;> rfl

theorem onListenerConnect_srp (fw : Firmware) (uid : ListenerUid) (streamId : StreamId)
    (destMac : MacAddr) (talkerId : EntityId) (nowMs : UInt32) :
    (onListenerConnect fw uid streamId destMac talkerId nowMs).srp =
      if streamIdIsZero streamId then fw.srp else srpListenerEnable fw.srp streamId true nowMs := by
  unfold onListenerConnect
  split
  · rfl
  · rw [bindEngine_srp, Firmware.listenerEnable, learnStream_srp]
    rfl

theorem onListenerDisconnect_srp (fw : Firmware) (uid : ListenerUid) (nowMs : UInt32)
    (h : fw.connections.engines uid = none) : (onListenerDisconnect fw uid nowMs).srp = fw.srp := by
  unfold onListenerDisconnect unbindEngine
  rcases uid.cases with rfl | rfl
  · rw [Firmware.connections_engine_crf, Mcr.binding_eq_none] at h
    rw [if_pos rfl]
    dsimp only
    rw [if_neg]
    · rfl
    · exact fun hb => nomatch h.symm.trans hb
  · rw [Firmware.connections_engine_aaf, Aaf.binding_eq_none] at h
    rw [if_neg (by decide)]
    dsimp only
    rw [if_neg]
    · rfl
    · exact fun hb => nomatch h.symm.trans hb

/-- The one declaration is ready and of the stream. -/
structure Declared (s : Srp) (streamId : StreamId) : Prop where
  enabled : s.listenerEnabled
  streamId : s.listenerStreamId = streamId
  substate : s.listenerSubstate = .ready

theorem Declared.age {s : Srp} {streamId : StreamId} (h : Declared s streamId) (nowMs : UInt32) :
    Declared (srpAge s nowMs) streamId where
  enabled := h.enabled
  streamId := h.streamId
  substate := by
    show (if _ then MsrpListener.ready else s.listenerSubstate) = .ready
    split
    · rfl
    · exact h.substate

theorem Declared.send {s : Srp} {streamId : StreamId} (h : Declared s streamId) (leaveAll : Bool) :
    Declared (srpSendDeclarations s leaveAll).1 streamId := by
  have hkept : (srpSendDeclarations s leaveAll).1.listenerEnabled = s.listenerEnabled ∧
      (srpSendDeclarations s leaveAll).1.listenerStreamId = s.listenerStreamId ∧
        (srpSendDeclarations s leaveAll).1.listenerSubstate = s.listenerSubstate := by
    unfold srpSendDeclarations sendTalker sendListener
    dsimp only
    split <;> split <;> exact ⟨rfl, rfl, rfl⟩
  exact ⟨hkept.1 ▸ h.enabled, hkept.2.1.trans h.streamId, hkept.2.2.trans h.substate⟩

theorem Declared.poll {s : Srp} {streamId : StreamId} (h : Declared s streamId) (nowMs : UInt32) :
    Declared (srpPoll s nowMs).1 streamId := by
  unfold srpPoll
  dsimp only
  split
  · have := (h.age nowMs).send (leaveAllDue s nowMs)
    exact ⟨this.enabled, this.streamId, this.substate⟩
  · exact h.age nowMs

-- ---------------------------------------------------------------------------
-- What the PDU says
-- ---------------------------------------------------------------------------

theorem ready_of_read {s : Srp} {streamId : StreamId} {leaveAll : Bool} {v : MsrpVector}
    (h : Declared s streamId) (hread : s.listenerAttribute.Read leaveAll v) :
    isReady streamId v := by
  obtain ⟨htype, hlen, hhdr, hvalue⟩ := hread
  have hbytes : v.value.bytes 8 = streamId := by
    rw [← h.streamId]
    exact (Buffer.holds_append.mp hvalue).1.bytes
  have hlen' : v.attrLen = 8 := by
    rw [hlen, Srp.listenerAttribute, Vector.length_toList]
    rfl
  have hnum : v.numValues = 1 := by
    rw [MsrpVector.numValues, hhdr]
    exact vectorHeader_numValues leaveAll
  have hevent : v.value 9 = mrp4Pack MsrpListener.ready.code 0 0 0 := by
    have hpacked := (Buffer.holds_append.mp hvalue).2 1 Nat.one_lt_two
    have hvaluelen : s.listenerAttribute.firstValue.length = 8 := Vector.length_toList
    rw [hvaluelen] at hpacked
    refine hpacked.trans ?_
    show mrp4Pack s.listenerSubstate.code 0 0 0 = _
    rw [h.substate]
  simp only [isReady, htype, hbytes, MsrpVector.listenerEvent, hlen', hnum, Bool.and_eq_true,
    beq_iff_eq]
  refine ⟨⟨rfl, trivial⟩, ?_⟩
  show v.value 9 >>> 6 = _
  rw [hevent]
  decide

theorem Declared.declares {s : Srp} {streamId : StreamId} (h : Declared s streamId)
    (leaveAll : Bool) : declares (srpSendDeclarations s leaveAll).2 streamId := by
  have hmem : s.listenerAttribute ∈ s.attributes := by
    refine List.mem_append_right _ ?_
    rw [if_pos h.enabled]
    exact List.mem_singleton_self _
  obtain ⟨v, hv, hread⟩ := forall₂_exists (msrpVectors_declared s leaveAll) hmem
  exact List.any_eq_true.mpr ⟨v, hv, ready_of_read h hread⟩

theorem srpPoll_declares {s : Srp} {nowMs : UInt32} {streamId : StreamId}
    (h : Declared s streamId) {bytes : List UInt8} (hsent : bytes ∈ (srpPoll s nowMs).2)
    (hmsrp : isMsrpPdu (Buffer.ofList bytes) bytes.length) : declares bytes streamId := by
  unfold srpPoll at hsent
  dsimp only at hsent
  split at hsent
  · rcases List.mem_cons.mp hsent with rfl | hsent
    · exact (h.age nowMs).declares _
    · rw [List.mem_singleton.mp hsent, mvrp_not_msrp] at hmsrp
      cases hmsrp
  · cases hsent

-- ---------------------------------------------------------------------------
-- Runs
-- ---------------------------------------------------------------------------

/-- Whatever listener is connected, its stream is the one declared. -/
def Kept (s : Firmware × Known) : Prop :=
  ∀ u streamId, s.2 u = some streamId → Declared s.1.srp streamId

theorem Kept.step {start : Firmware} {s : Firmware × Known} {c : Callback} (h : Kept s)
    (hsep : Separate s c) : Kept ((callbacks start).step s c) := by
  intro u sid hu
  cases c with
  | srpPoll r =>
    show Declared (Firmware.sendAll _ .srp _).srp sid
    rw [sendAll_srp]
    exact (h u sid hu).poll r.nowMs
  | connect uid streamId destMac talkerId nowMs =>
    show Declared (onListenerConnect _ uid streamId destMac talkerId nowMs).srp sid
    rw [onListenerConnect_srp]
    have hu : Function.update s.2 uid (if streamIdIsZero streamId then none else some streamId) u =
        some sid := hu
    cases hzero : streamIdIsZero streamId
    · rw [if_neg (by decide)]
      rw [hzero] at hu
      suffices streamId = sid by
        subst this
        exact ⟨rfl, rfl, rfl⟩
      by_cases huid : u = uid
      · subst huid
        rw [Function.update_self] at hu
        exact Option.some.inj hu
      · rw [Function.update_of_ne huid] at hu
        rcases hsep hzero u huid with hnone | hsame
        · exact nomatch hnone.symm.trans hu
        · exact Option.some.inj (hsame.symm.trans hu)
    · rw [if_pos rfl]
      rw [hzero] at hu
      by_cases huid : u = uid
      · subst huid
        rw [Function.update_self] at hu
        cases hu
      · rw [Function.update_of_ne huid] at hu
        exact h u sid hu
  | disconnect uid nowMs =>
    have hu : Function.update s.2 uid none u = some sid := hu
    have huid : u ≠ uid := by
      rintro rfl
      rw [Function.update_self] at hu
      cases hu
    rw [Function.update_of_ne huid] at hu
    show Declared (onListenerDisconnect _ uid nowMs).srp sid
    rcases hsep with hunbound | hnone
    · have hsrp := onListenerDisconnect_srp { s.1 with sent := [] } uid nowMs hunbound
      exact hsrp.symm ▸ h u sid hu
    · exact nomatch (hnone u huid).symm.trans hu

theorem Kept.reserved {start : Firmware} {s : Firmware × Known} {c : Callback} (h : Kept s) :
    Reserved ((callbacks start).step s c) := by
  intro f hf hmsrp u sid hu
  cases c with
  | srpPoll r =>
    have hf : f ∈ (callback { s.1 with sent := [] } (.srpPoll r)).sent := hf
    rw [callback, srpPoll_sent _ _ rfl] at hf
    obtain ⟨bytes, hbytes, rfl⟩ := List.mem_map.mp hf
    exact srpPoll_declares (h u sid hu) hbytes hmsrp
  | connect uid streamId destMac talkerId nowMs =>
    have hf : f ∈ (onListenerConnect _ uid streamId destMac talkerId nowMs).sent := hf
    rw [onListenerConnect_sent] at hf
    cases hf
  | disconnect uid nowMs =>
    have hf : f ∈ (onListenerDisconnect _ uid nowMs).sent := hf
    rw [onListenerDisconnect_sent] at hf
    cases hf

/-- In a run in which no callback takes the declaration from the other
listener, every PDU declares every connected listener's stream. -/
theorem listener_reserved (start : Firmware) (run : List Callback)
    (h : (callbacks start).Steps Separate run) :
    (callbacks start).Steps (fun s c => Reserved ((callbacks start).step s c)) run :=
  h.of_invariant Kept (fun _ _ hu => nomatch hu) (fun _ _ hk hs => hk.step hs)
    fun _ _ hk _ => hk.reserved

-- ---------------------------------------------------------------------------
-- Two runs
-- ---------------------------------------------------------------------------

instance decidableSeparate (s : Firmware × Known) : (c : Callback) → Decidable (Separate s c)
  | .connect uid streamId .. => inferInstanceAs (Decidable (streamIdIsZero streamId = false →
      ∀ v, v ≠ uid → s.2 v = none ∨ s.2 v = some streamId))
  | .disconnect uid _ => inferInstanceAs
      (Decidable (s.1.connections.engines uid = none ∨ ∀ v, v ≠ uid → s.2 v = none))
  | .srpPoll _ => .isTrue trivial

def streamA : StreamId := eightBytes 0x00 0x1B 0x21 0x00 0x00 0x0A 0x00 0x01
def streamB : StreamId := eightBytes 0x00 0x1B 0x21 0x00 0x00 0x0A 0x00 0x02

def connectTo (uid : ListenerUid) (streamId : StreamId) : Callback :=
  .connect uid streamId (zeroBytes 6) (zeroBytes 8) 0

def pollAt (uptimeMs : UInt32) : Callback := .srpPoll { tsu := { uptimeMs := uptimeMs } }

/-- Both listeners connect, to one stream, and two PDUs are sent. -/
theorem listener_reserved_shared :
    (callbacks boot).Steps (fun s c => Reserved ((callbacks boot).step s c))
      [connectTo listenerUidCrf streamA, connectTo listenerUidAaf streamA, pollAt 1000, pollAt 2000] :=
  listener_reserved boot
    [connectTo listenerUidCrf streamA, connectTo listenerUidAaf streamA, pollAt 1000, pollAt 2000]
    (by decide +kernel)

/-- Both listeners connect, to different streams. -/
def bothConnect : List Callback :=
  [connectTo listenerUidCrf streamA, connectTo listenerUidAaf streamB, pollAt 1000]

/-- The PDU declares the second listener's stream only. -/
theorem listener_overwritten :
    ¬ (callbacks boot).Steps (fun s c => Reserved ((callbacks boot).step s c)) bothConnect := by
  have hknown : ((callbacks boot).run bothConnect).2 listenerUidCrf = some streamA := by
    decide +kernel
  have hsent : ((callbacks boot).run bothConnect).1.sent.any fun f =>
      isMsrpPdu (Buffer.ofList f.bytes) f.bytes.length && !declares f.bytes streamA := by
    decide +kernel
  rintro ⟨-, -, hreserved, -⟩
  obtain ⟨f, hf, hlost⟩ := List.any_eq_true.mp hsent
  obtain ⟨hmsrp, hlost⟩ := Bool.and_eq_true_iff.mp hlost
  have hdeclares : declares f.bytes streamA := hreserved f hf hmsrp listenerUidCrf streamA hknown
  rw [hdeclares] at hlost
  cases hlost

end AvbAes3.ListenerReservation
