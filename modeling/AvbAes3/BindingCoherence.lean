import AvbAes3.ConnectionsSound

/-!
# Listeners and their engines

What AVDECC says of a listener, the media engine that receives for it and,
for audio, the gateware slot are set by four paths: a connect with a stream
id, the answer of a resolve, an advertisement that completes a pending
connect, and a disconnect. They agree in every state of a run unless a
connect without a stream id finds the engine bound, which stays bound, or an
advertisement completes a connect with the stream id zero or, for audio, with
another destination than the one saved, which is what the slot is given.
-/

namespace AvbAes3.BindingCoherence

-- ---------------------------------------------------------------------------
-- Coherence
-- ---------------------------------------------------------------------------

/-- Connected, and the stream is known. -/
def Receives (l : AvdeccListenerStream) : Prop := l.connected ∧ l.streamId ≠ zeroBytes 8

structure Coherent (fw : Firmware) : Prop where
  crf : Receives (fw.avdecc.listeners listenerUidCrf) →
    fw.mcr.bound ∧ fw.mcr.streamId = (fw.avdecc.listeners listenerUidCrf).streamId
  crfIdle : ¬ Receives (fw.avdecc.listeners listenerUidCrf) → fw.mcr.bound = false
  aaf : Receives (fw.avdecc.listeners listenerUidAaf) →
    fw.aaf.bound ∧ fw.aaf.streamId = (fw.avdecc.listeners listenerUidAaf).streamId
  aafIdle : ¬ Receives (fw.avdecc.listeners listenerUidAaf) → fw.aaf.bound = false
  slot : Receives (fw.avdecc.listeners listenerUidAaf) →
    fw.slot0.enabled ∧
      regStreamId fw.slot0.streamIdHi fw.slot0.streamIdLo =
        (fw.avdecc.listeners listenerUidAaf).streamId.toList ∧
      regMac fw.slot0.dstMacHi fw.slot0.dstMacLo =
        (fw.avdecc.listeners listenerUidAaf).destMac.toList
  slotIdle : ¬ Receives (fw.avdecc.listeners listenerUidAaf) → fw.slot0.enabled = false

/-- A connect without a stream id finds the engine unbound. An advertisement
that completes a connect has a stream id and, for audio, the saved
destination. -/
def Matching (c : Connections) : ConnOp → Prop
  | .connect u streamId _ _ => streamIdIsZero streamId → c.engines u = none
  | .answer i true streamId _ _ =>
    ∀ u, c.resolves i = some u → streamIdIsZero streamId → c.engines u = none
  | .advertise streamId destMac =>
    ∀ i, c.awaits i streamId destMac →
      streamIdIsZero streamId = false ∧ (i = listenerUidAaf → (c.pending i).destMac = destMac)
  | _ => True

-- ---------------------------------------------------------------------------
-- Coherence of the connections
-- ---------------------------------------------------------------------------

/-- The stream the listener is connected to. -/
def stream (l : ListenerLink) : Option StreamId :=
  if l.connected ∧ streamIdIsZero l.streamId = false then some l.streamId else none

def SlotFollows (l : ListenerLink) (slot : ExtractorSlot) : Prop :=
  match stream l with
  | some streamId => slot = avtpFilterSetSlot streamId l.destMac
  | none => slot.enabled = false

/-- A pending connect is of its own listener, connected without a stream. -/
def Waits (c : Connections) (i : ListenerUid) : Prop :=
  (c.pending i).active →
    (c.pending i).uid = i ∧ (c.listeners i).connected ∧ streamIdIsZero (c.listeners i).streamId

structure Follows (c : Connections) : Prop where
  engines : ∀ u, c.engines u = stream (c.listeners u)
  slot : SlotFollows (c.listeners listenerUidAaf) c.slot0
  waits : ∀ i, Waits c i

section Step

variable {c c' : Connections}

/-- An operation on one listener need only be looked at there. -/
theorem Follows.of_other (h : Follows c) (u : ListenerUid)
    (hlisteners : ∀ v, v ≠ u → c'.listeners v = c.listeners v)
    (hengines : ∀ v, v ≠ u → c'.engines v = c.engines v)
    (hpending : ∀ v, v ≠ u → c'.pending v = c.pending v)
    (hslot : u ≠ listenerUidAaf → c'.slot0 = c.slot0)
    (hengine : c'.engines u = stream (c'.listeners u))
    (hfollows : u = listenerUidAaf → SlotFollows (c'.listeners u) c'.slot0)
    (hwaits : Waits c' u) : Follows c' where
  engines v := by
    by_cases hv : v = u
    · exact hv ▸ hengine
    · rw [hengines v hv, hlisteners v hv]
      exact h.engines v
  slot := by
    by_cases hu : u = listenerUidAaf
    · exact hu ▸ hfollows hu
    · rw [hlisteners _ (Ne.symm hu), hslot hu]
      exact h.slot
  waits v := by
    by_cases hv : v = u
    · exact hv ▸ hwaits
    · unfold Waits
      rw [hpending v hv, hlisteners v hv]
      exact h.waits v

theorem Follows.same (h : Follows c) (hlisteners : c'.listeners = c.listeners)
    (hengines : c'.engines = c.engines) (hpending : c'.pending = c.pending)
    (hslot : c'.slot0 = c.slot0) : Follows c' where
  engines v := by
    rw [hengines, hlisteners]
    exact h.engines v
  slot := by
    rw [hlisteners, hslot]
    exact h.slot
  waits v := by
    unfold Waits
    rw [hpending, hlisteners]
    exact h.waits v

theorem stream_some {l : ListenerLink} (hconnected : l.connected)
    (hstream : streamIdIsZero l.streamId = false) : stream l = some l.streamId :=
  if_pos ⟨hconnected, hstream⟩

theorem stream_none {l : ListenerLink} (h : l.connected = false ∨ streamIdIsZero l.streamId) :
    stream l = none := by
  refine if_neg ?_
  rintro ⟨hconnected, hstream⟩
  rcases h with h | h
  · exact nomatch h.symm.trans hconnected
  · exact nomatch hstream.symm.trans h

theorem SlotFollows.set {l : ListenerLink} (hconnected : l.connected)
    (hstream : streamIdIsZero l.streamId = false) :
    SlotFollows l (avtpFilterSetSlot l.streamId l.destMac) := by
  unfold SlotFollows
  rw [stream_some hconnected hstream]

theorem SlotFollows.disabled {l : ListenerLink} {slot : ExtractorSlot} (hl : stream l = none)
    (h : slot.enabled = false) : SlotFollows l slot := by
  unfold SlotFollows
  rw [hl]
  exact h

/-- A slot whose listener receives nothing is disabled. -/
theorem SlotFollows.idle {l : ListenerLink} {slot : ExtractorSlot} (h : SlotFollows l slot)
    (hl : stream l = none) : slot.enabled = false := by
  unfold SlotFollows at h
  rwa [hl] at h

/-- The listener and its engine are given the same stream, and nothing waits. -/
theorem Follows.bind (h : Follows c) (u : ListenerUid) (l : ListenerLink) (p : PendingBind)
    (slotDest : MacAddr) (hconnected : l.connected) (hstream : streamIdIsZero l.streamId = false)
    (hp : p.active = false) (hdest : u = listenerUidAaf → slotDest = l.destMac) :
    Follows (((c.setListener u l).setPending u p).bind u l.streamId slotDest) := by
  have hl : (((c.setListener u l).setPending u p).bind u l.streamId slotDest).listeners u = l := by
    rw [Connections.bind_listeners]
    exact Function.update_self ..
  refine h.of_other u (fun v hv => ?_) (fun v hv => ?_) (fun v hv => ?_) (fun hu => ?_) ?_
    (fun hu => ?_) ?_
  · rw [Connections.bind_listeners]
    exact Function.update_of_ne hv ..
  · rw [Connections.bind_engines]
    exact Function.update_of_ne hv ..
  · rw [Connections.bind_pending]
    exact Function.update_of_ne hv ..
  · rw [Connections.bind_slot0, if_pos (u.cases.resolve_right hu)]
    rfl
  · rw [hl, Connections.bind_engines, Function.update_self, stream_some hconnected hstream]
  · rw [hl, Connections.bind_slot0, hu, if_neg (by decide), hdest hu]
    exact SlotFollows.set hconnected hstream
  · intro hactive
    rw [Connections.bind_pending] at hactive
    have : p.active = true := (congrArg PendingBind.active (Function.update_self ..)).symm.trans hactive
    exact absurd (hp.symm.trans this) (by decide)

/-- Parking a connect leaves the engine as it was: unbound, where this is to
agree. -/
theorem Follows.park (h : Follows c) (u : ListenerUid) (l : ListenerLink) (p : PendingBind)
    (hconnected : l.connected) (hstream : streamIdIsZero l.streamId) (hp : p.uid = u)
    (hunbound : c.engines u = none) : Follows ((c.setListener u l).setPending u p) := by
  have hl : ((c.setListener u l).setPending u p).listeners u = l := Function.update_self ..
  have hpending : ((c.setListener u l).setPending u p).pending u = p := Function.update_self ..
  have hnone : stream l = none := stream_none (.inr hstream)
  refine h.of_other u (fun v hv => Function.update_of_ne hv ..) (fun _ _ => rfl)
    (fun v hv => Function.update_of_ne hv ..) (fun _ => rfl) ?_ (fun hu => ?_) fun _ => ?_
  · rw [hl, hnone]
    exact hunbound
  · rw [hl]
    subst hu
    exact .disabled hnone (h.slot.idle ((h.engines _).symm.trans hunbound))
  · rw [hl, hpending]
    exact ⟨hp, hconnected, hstream⟩

theorem Follows.connect (h : Follows c) (u : ListenerUid) (streamId : StreamId)
    (destMac : MacAddr) (talkerId : EntityId) (hm : streamIdIsZero streamId → c.engines u = none) :
    Follows (c.connect u streamId destMac talkerId) := by
  unfold Connections.connect Connections.listen
  cases hzero : streamIdIsZero streamId
  · rw [if_neg (by decide)]
    exact h.bind u ⟨true, streamId, destMac⟩ _ destMac rfl hzero rfl fun _ => rfl
  · rw [if_pos rfl]
    exact h.park u ⟨true, streamId, destMac⟩ _ rfl hzero rfl (hm hzero)

theorem Follows.disconnect (h : Follows c) (u : ListenerUid) : Follows (c.disconnect u) := by
  have hl : (c.disconnect u).listeners u = { c.listeners u with connected := false } := by
    rw [Connections.disconnect_listeners, Function.update_self]
  have hnone : stream ((c.disconnect u).listeners u) = none := stream_none (.inl (by rw [hl]))
  unfold Connections.disconnect at hl hnone ⊢
  refine h.of_other u (fun v hv => ?_) (fun v hv => ?_) (fun v hv => ?_) (fun hu => ?_) ?_
    (fun hu => ?_) ?_
  · rw [Connections.unbind_listeners]
    exact Function.update_of_ne hv ..
  · rw [Connections.unbind_engines]
    exact Function.update_of_ne hv ..
  · rw [Connections.unbind_pending]
    exact Function.update_of_ne hv ..
  · rw [Connections.unbind_slot0, if_pos (u.cases.resolve_right hu)]
    rfl
  · rw [hnone, Connections.unbind_engines, Function.update_self]
  · refine .disabled hnone ?_
    rw [Connections.unbind_slot0, hu, if_neg (by decide)]
    rfl
  · intro hactive
    rw [Connections.unbind_pending, Connections.stopWaiting, Connections.setPending] at hactive
    have hidle := (congrArg PendingBind.active (Function.update_self ..)).symm.trans hactive
    exact absurd hidle Bool.false_ne_true

theorem Follows.complete (h : Follows c) (i : ListenerUid) (streamId : StreamId)
    (destMac : MacAddr)
    (hm : c.awaits i streamId destMac →
      streamIdIsZero streamId = false ∧ (i = listenerUidAaf → (c.pending i).destMac = destMac)) :
    Follows (c.complete i streamId destMac) := by
  unfold Connections.complete
  split
  case isFalse => exact h
  case isTrue hawaits =>
    obtain ⟨hstream, hdest⟩ := hm hawaits
    obtain ⟨huid, hconnected, -⟩ := h.waits i (Bool.and_eq_true _ _ ▸ hawaits).1
    dsimp only
    rw [huid, Connections.stopWaiting, Connections.bind_pending, Connections.bind_setPending]
    exact h.bind i { c.listeners i with streamId := streamId, destMac := destMac } _ _
      hconnected hstream rfl hdest

theorem Follows.apply (h : Follows c) {op : ConnOp} (hm : Matching c op) :
    Follows (c.apply op) := by
  cases op with
  | connect u streamId destMac talkerId => exact h.connect u streamId destMac talkerId hm
  | answer i success streamId destMac talkerId =>
    unfold Connections.apply Connections.answer
    dsimp only
    split
    case h_2 => exact h
    case h_1 u hu =>
      cases success
      · exact h.same rfl rfl rfl rfl
      · exact (h.connect u streamId destMac talkerId (hm u hu)).same rfl rfl rfl rfl
  | disconnect u => exact h.disconnect u
  | advertise streamId destMac =>
    refine (h.complete listenerUidCrf streamId destMac (hm listenerUidCrf)).complete _ _ _ ?_
    unfold Connections.awaits
    rw [Connections.complete_pending_other _ _ _ _ (by decide)]
    exact hm listenerUidAaf
  | packetizerFrame =>
    unfold Connections.apply
    dsimp only
    split
    · exact h.same rfl rfl rfl rfl
    · exact h
  | _ => exact h.same rfl rfl rfl rfl

end Step

-- ---------------------------------------------------------------------------
-- Coherence of the firmware
-- ---------------------------------------------------------------------------

theorem streamIdIsZero_iff {streamId : StreamId} :
    streamIdIsZero streamId ↔ streamId = zeroBytes 8 := beq_iff_eq

theorem stream_receives {l : AvdeccListenerStream} (h : Receives l) :
    stream l.link = some l.streamId :=
  stream_some h.1 (Bool.eq_false_iff.mpr (mt streamIdIsZero_iff.mp h.2))

theorem stream_idle {l : AvdeccListenerStream} (h : ¬ Receives l) : stream l.link = none := by
  by_cases hconnected : l.connected
  · exact stream_none (.inr (streamIdIsZero_iff.mpr (not_not.mp fun hs => h ⟨hconnected, hs⟩)))
  · exact stream_none (.inl (Bool.eq_false_iff.mpr hconnected))

theorem Follows.coherent {fw : Firmware} (h : Follows fw.connections) : Coherent fw where
  crf hr := by
    rw [← Mcr.binding_eq_some, ← fw.connections_engine_crf, h.engines]
    exact stream_receives hr
  crfIdle hr := by
    rw [← Mcr.binding_eq_none, ← fw.connections_engine_crf, h.engines]
    exact stream_idle hr
  aaf hr := by
    rw [← Aaf.binding_eq_some, ← fw.connections_engine_aaf, h.engines]
    exact stream_receives hr
  aafIdle hr := by
    rw [← Aaf.binding_eq_none, ← fw.connections_engine_aaf, h.engines]
    exact stream_idle hr
  slot hr := by
    have hslot := h.slot
    unfold SlotFollows at hslot
    rw [show stream (fw.connections.listeners listenerUidAaf) = _ from stream_receives hr] at hslot
    have hslot : fw.slot0 = avtpFilterSetSlot (fw.avdecc.listeners listenerUidAaf).streamId
        (fw.avdecc.listeners listenerUidAaf).destMac := hslot
    rw [hslot]
    exact ⟨rfl, regStreamId_eq _, regMac_eq _⟩
  slotIdle hr := h.slot.idle (stream_idle hr)

theorem follows_boot : Follows boot.connections where
  engines u := by rcases u.cases with rfl | rfl <;> rfl
  slot := rfl
  waits _ h := nomatch h

/-- After a run in which parked connects find the engine unbound, and the
advertisements that complete them match what was saved, every listener's
engine and slot are those of its connection. -/
theorem binding_coherent (run : List LoopStep) (h : mainLoop.Steps (EachOp Matching) run) :
    Coherent (mainLoop.run run) :=
  (mainLoop_refines.invariant follows_boot (fun _ _ hf hm => hf.apply hm) h).coherent

-- ---------------------------------------------------------------------------
-- Two runs
-- ---------------------------------------------------------------------------

instance decidableMatching (c : Connections) : (op : ConnOp) → Decidable (Matching c op)
  | .connect u streamId _ _ =>
    inferInstanceAs (Decidable (streamIdIsZero streamId → c.engines u = none))
  | .answer i true streamId _ _ =>
    inferInstanceAs
      (Decidable (∀ u, c.resolves i = some u → streamIdIsZero streamId → c.engines u = none))
  | .advertise streamId destMac =>
    inferInstanceAs (Decidable (∀ i, c.awaits i streamId destMac →
      streamIdIsZero streamId = false ∧ (i = listenerUidAaf → (c.pending i).destMac = destMac)))
  | .answer _ false .. | .newStep | .connectTx .. | .disconnectTx .. | .resolve _ | .refuse _
  | .timeOut _ | .disconnect _ | .pushBinding | .aafFrame | .packetizerFrame => .isTrue trivial

def talkerEntity : EntityId := eightBytes 0x00 0x1B 0x21 0xFF 0xFE 0x00 0x00 0x0A
def talkerStream : StreamId := eightBytes 0x00 0x1B 0x21 0x00 0x00 0x0A 0x00 0x01
def talkerDest : MacAddr := sixBytes 0x91 0xE0 0xF0 0x00 0xFE 0x0A

/-- A fast connect of a listener to the talker's destination. -/
def fastConnectTo (streamId : StreamId) (listenerUid : UInt16) : LoopStep :=
  receiveAcmp
    { msgType := acmpMsgConnectRxCommand
      streamId := streamId
      controllerId := zeroBytes 8
      talkerId := talkerEntity
      listenerId := boot.avdecc.entityId
      talkerUid := 0
      listenerUid := listenerUid
      streamDestMac := talkerDest
      seqId := 7 }

/-- The talker's advertisement, in an MSRP frame of its own. -/
def talkerAdvertisement : LoopStep :=
  let frame := msrpFrameBegin (zeroBytes 6) ++
    msrpEmitTalkerAdv { streamId := talkerStream, destAddr := talkerDest } false mrpEvtJoinIn ++
      be16 0
  .dispatchRx (Buffer.ofList frame) frame.length {}

/-- A parked connect, completed by the advertisement it waits for. -/
theorem binding_advertised :
    Coherent (mainLoop.run [fastConnectTo (zeroBytes 8) 1, talkerAdvertisement]) :=
  binding_coherent [fastConnectTo (zeroBytes 8) 1, talkerAdvertisement] (by decide +kernel)

/-- A connect without a stream id after one with it. -/
def rebound : List LoopStep := [fastConnectTo talkerStream 0, fastConnectTo (zeroBytes 8) 0]

def reboundOps : List ConnOp :=
  [.newStep, .connect listenerUidCrf talkerStream talkerDest talkerEntity,
    .newStep, .connect listenerUidCrf (zeroBytes 8) talkerDest talkerEntity]

theorem rebound_run : (mainLoop.run rebound).connections = connMachine.run reboundOps :=
  mainLoop_run (by decide +kernel)

theorem not_coherent_of_bound {fw : Firmware} {streamId : StreamId}
    (hzero : (fw.connections.listeners listenerUidCrf).streamId = zeroBytes 8)
    (hengine : fw.connections.engines listenerUidCrf = some streamId) : ¬ Coherent fw := by
  rw [Firmware.connections_engine_crf] at hengine
  intro h
  have hbound : fw.mcr.bound := (Mcr.binding_eq_some.mp hengine).1
  exact nomatch hbound.symm.trans (h.crfIdle fun hr => hr.2 hzero)

/-- The media clock still follows the first connect's stream. -/
theorem binding_kept : ¬ Coherent (mainLoop.run rebound) := by
  apply not_coherent_of_bound
  · rw [rebound_run]
    rfl
  · rw [rebound_run]
    rfl

end AvbAes3.BindingCoherence
