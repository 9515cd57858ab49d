import AvbAes3.ConnectionsSound

/-!
# What the talker's frames are addressed with

`aaf_state_t` has one stream id, for the stream listened to and for the one
sent. Binding the audio listener overwrites it, so from then on the
software talker and, once its registers are written, the packetizer send
under the id of the stream listened to. In a run in which the audio
listener is bound to no stream but the talker's own, every AAF frame
carries what the talker is advertised with.
-/

namespace AvbAes3.TalkerStream

/-- The frames of the step that led here carry the talker's destination and
stream id, which are the ones SRP declares. -/
structure Speaks (fw : Firmware) : Prop where
  frames : ∀ f ∈ fw.sent, f.isAaf →
    f.bytes.take 6 = (fw.avdecc.talkers talkerUidAaf).destMac.toList ∧
      (f.bytes.drop 22).take 8 = (fw.avdecc.talkers talkerUidAaf).streamId.toList
  streamId : fw.srp.talker.streamId = (fw.avdecc.talkers talkerUidAaf).streamId
  destMac : fw.srp.talker.destAddr = (fw.avdecc.talkers talkerUidAaf).destMac

/-- The audio listener is bound to the talker's own stream, if to any. -/
def OwnStream (c : Connections) : ConnOp → Prop
  | .connect u streamId _ _ =>
    u = listenerUidAaf → streamIdIsZero streamId = false → streamId = c.talker.identity.streamId
  | .answer i true streamId _ _ =>
    c.resolves i = some listenerUidAaf → streamIdIsZero streamId = false →
      streamId = c.talker.identity.streamId
  | .advertise streamId destMac =>
    ∀ i, c.awaits i streamId destMac → (c.pending i).uid = listenerUidAaf →
      streamId = c.talker.identity.streamId
  | _ => True

-- ---------------------------------------------------------------------------
-- The connections' side
-- ---------------------------------------------------------------------------

structure Own (c : Connections) : Prop where
  identity : c.identity = c.talker.identity
  advertised : c.advertised.identity = c.talker.identity
  packetizer : c.packetizer.started → c.packetizer.wire = c.talker.identity.wire
  frames : ∀ w ∈ c.aafFrames, w = c.talker.identity.wire

section Step

variable {c c' : Connections}

theorem Own.of_talkerSide (h : Own c) (hside : c'.talkerSide = c.talkerSide)
    (hidentity : c'.identity = c.identity) : Own c' := by
  simp only [Connections.talkerSide, TalkerSide.mk.injEq] at hside
  obtain ⟨htalker, hadvertised, hpacketizer, hframes⟩ := hside
  refine ⟨?_, ?_, ?_, ?_⟩
  · rw [hidentity, htalker]
    exact h.identity
  · rw [hadvertised, htalker]
    exact h.advertised
  · rw [hpacketizer, htalker]
    exact h.packetizer
  · rw [hframes, htalker]
    exact h.frames

theorem Own.bind (h : Own c) (u : ListenerUid) (streamId : StreamId) (destMac : MacAddr)
    (hown : u = listenerUidAaf → streamId = c.talker.identity.streamId) :
    Own (c.bind u streamId destMac) := by
  refine h.of_talkerSide (Connections.bind_talkerSide ..) ?_
  rw [Connections.bind_identity]
  split
  case isTrue => rfl
  case isFalse hu => rw [hown (u.cases.resolve_left hu), h.identity]

theorem Own.connect (h : Own c) (u : ListenerUid) (streamId : StreamId) (destMac : MacAddr)
    (talkerId : EntityId)
    (hown : u = listenerUidAaf → streamIdIsZero streamId = false →
      streamId = c.talker.identity.streamId) :
    Own (c.connect u streamId destMac talkerId) := by
  unfold Connections.connect Connections.listen
  have hc : Own (c.setListener u ⟨true, streamId, destMac⟩) := h.of_talkerSide rfl rfl
  cases hzero : streamIdIsZero streamId
  · rw [if_neg (by decide)]
    have hstop : Own ((c.setListener u ⟨true, streamId, destMac⟩).stopWaiting u) :=
      hc.of_talkerSide rfl rfl
    exact hstop.bind u streamId destMac fun hu => hown hu hzero
  · exact hc.of_talkerSide rfl rfl

theorem Own.complete (h : Own c) (i : ListenerUid) (streamId : StreamId) (destMac : MacAddr)
    (hown : c.awaits i streamId destMac → (c.pending i).uid = listenerUidAaf →
      streamId = c.talker.identity.streamId) :
    Own (c.complete i streamId destMac) := by
  unfold Connections.complete
  split
  case isFalse => exact h
  case isTrue hawaits =>
    have hl : Own (c.setListener (c.pending i).uid
        { c.listeners (c.pending i).uid with streamId := streamId, destMac := destMac }) :=
      h.of_talkerSide rfl rfl
    exact (hl.bind (c.pending i).uid streamId (c.pending i).destMac (hown hawaits)).of_talkerSide
      rfl rfl

theorem Own.apply (h : Own c) {op : ConnOp} (hown : OwnStream c op) : Own (c.apply op) := by
  cases op with
  | newStep => exact ⟨h.identity, h.advertised, h.packetizer, fun _ hw => nomatch hw⟩
  | connectTx =>
    exact ⟨h.identity, h.advertised, fun _ => congrArg TalkerIdentity.wire h.identity, h.frames⟩
  | disconnectTx => exact ⟨h.identity, h.advertised, h.packetizer, h.frames⟩
  | connect u streamId destMac talkerId => exact h.connect u streamId destMac talkerId hown
  | answer i success streamId destMac talkerId =>
    unfold Connections.apply Connections.answer
    dsimp only
    split
    case h_2 => exact h
    case h_1 u hu =>
      cases success
      · exact h.of_talkerSide rfl rfl
      · refine (h.connect u streamId destMac talkerId fun haaf => ?_).of_talkerSide rfl rfl
        exact hown (haaf ▸ hu)
  | disconnect u =>
    exact h.of_talkerSide (Connections.disconnect_talkerSide ..) (Connections.unbind_identity ..)
  | advertise streamId destMac =>
    have hside := Connections.complete_talkerSide c listenerUidCrf streamId destMac
    have htalker : (c.complete listenerUidCrf streamId destMac).talker = c.talker :=
      congrArg TalkerSide.talker hside
    refine (h.complete listenerUidCrf streamId destMac (hown listenerUidCrf)).complete _ _ _ ?_
    unfold Connections.awaits
    rw [Connections.complete_pending_other _ _ _ _ (by decide), htalker]
    exact hown listenerUidAaf
  | pushBinding =>
    exact ⟨h.identity, h.advertised, fun _ => congrArg TalkerIdentity.wire h.identity, h.frames⟩
  | aafFrame =>
    refine ⟨h.identity, h.advertised, h.packetizer, fun w hw => ?_⟩
    rcases List.mem_append.mp hw with hw | hw
    · exact h.frames w hw
    · rw [List.mem_singleton.mp hw, h.identity]
      rfl
  | packetizerFrame =>
    unfold Connections.apply
    dsimp only
    split
    case isFalse => exact h
    case isTrue hstarted =>
      refine ⟨h.identity, h.advertised, h.packetizer, fun w hw => ?_⟩
      rcases List.mem_append.mp hw with hw | hw
      · exact h.frames w hw
      · rw [List.mem_singleton.mp hw]
        exact h.packetizer hstarted
  | _ => exact h.of_talkerSide rfl rfl

end Step

theorem own_boot : Own boot.connections where
  identity := rfl
  advertised := rfl
  packetizer h := nomatch h
  frames _ h := nomatch h

-- ---------------------------------------------------------------------------
-- The firmware's side
-- ---------------------------------------------------------------------------

theorem mem_aafFrames {fw : Firmware} {f : WireFrame} (hf : f ∈ fw.sent) (haaf : f.isAaf) :
    frameIdentity f.bytes ∈ fw.connections.aafFrames :=
  List.mem_map_of_mem (List.mem_filter.mpr ⟨hf, haaf⟩)

theorem Own.speaks {fw : Firmware} (h : Own fw.connections) : Speaks fw where
  frames _ hf haaf := WireIdentity.mk.inj (h.frames _ (mem_aafFrames hf haaf))
  streamId := congrArg TalkerIdentity.streamId h.advertised
  destMac := congrArg TalkerIdentity.destMac h.advertised

/-- After a run that binds the audio listener to no stream but the talker's,
the AAF frames of its last step carry the talker's identity. -/
theorem talkerStream_own (run : List LoopStep) (h : mainLoop.Steps (EachOp OwnStream) run) :
    Speaks (mainLoop.run run) :=
  (mainLoop_refines.invariant own_boot (fun _ _ ho hop => ho.apply hop) h).speaks

-- ---------------------------------------------------------------------------
-- Two runs
-- ---------------------------------------------------------------------------

instance decidableOwnStream (c : Connections) : (op : ConnOp) → Decidable (OwnStream c op)
  | .connect u streamId _ _ =>
    inferInstanceAs (Decidable (u = listenerUidAaf → streamIdIsZero streamId = false →
      streamId = c.talker.identity.streamId))
  | .answer i true streamId _ _ =>
    inferInstanceAs (Decidable (c.resolves i = some listenerUidAaf →
      streamIdIsZero streamId = false → streamId = c.talker.identity.streamId))
  | .advertise streamId destMac =>
    inferInstanceAs (Decidable (∀ i, c.awaits i streamId destMac →
      (c.pending i).uid = listenerUidAaf → streamId = c.talker.identity.streamId))
  | .answer _ false .. | .newStep | .connectTx .. | .disconnectTx .. | .resolve _ | .refuse _
  | .timeOut _ | .disconnect _ | .pushBinding | .aafFrame | .packetizerFrame => .isTrue trivial

def otherEntity : EntityId := eightBytes 0x00 0x1B 0x21 0xFF 0xFE 0x00 0x00 0x0A
def otherStream : StreamId := eightBytes 0x00 0x1B 0x21 0x00 0x00 0x0A 0x00 0x01
def otherDest : MacAddr := sixBytes 0x91 0xE0 0xF0 0x00 0xFE 0x0A

/-- A fast connect of a listener to the other device's stream. -/
def listenToOther (listenerUid : UInt16) : LoopStep :=
  receiveAcmp
    { msgType := acmpMsgConnectRxCommand
      streamId := otherStream
      controllerId := zeroBytes 8
      talkerId := otherEntity
      listenerId := boot.avdecc.entityId
      talkerUid := 0
      listenerUid := listenerUid
      streamDestMac := otherDest
      seqId := 7 }

/-- The other device listens to us. -/
def otherListens : LoopStep :=
  receiveAcmp
    { msgType := acmpMsgConnectTxCommand
      controllerId := zeroBytes 8
      talkerId := boot.avdecc.entityId
      listenerId := otherEntity
      talkerUid := 0
      listenerUid := 0
      seqId := 8 }

/-- The media clock listens to another stream and the talker streams. -/
def talkWhileClocked : List LoopStep := [listenToOther 0, otherListens, .packetizerFrame 0 0 []]

theorem talkerStream_clocked : Speaks (mainLoop.run talkWhileClocked) :=
  talkerStream_own talkWhileClocked (by decide +kernel)

/-- The audio listener listens to another stream and the talker streams. -/
def talkWhileListening : List LoopStep := [listenToOther 1, otherListens, .packetizerFrame 0 0 []]

def talkWhileListeningOps : List ConnOp :=
  [.newStep, .connect listenerUidAaf otherStream otherDest otherEntity,
    .newStep, .connectTx otherEntity 0, .newStep, .packetizerFrame]

theorem talkWhileListening_run :
    (mainLoop.run talkWhileListening).connections = connMachine.run talkWhileListeningOps :=
  mainLoop_run (by decide +kernel)

theorem not_speaks {fw : Firmware} {w : WireIdentity} (hw : w ∈ fw.connections.aafFrames)
    (hother : w ≠ fw.connections.talker.identity.wire) : ¬ Speaks fw := by
  intro h
  obtain ⟨f, hf, rfl⟩ := List.mem_map.mp hw
  obtain ⟨hsent, haaf⟩ := List.mem_filter.mp hf
  obtain ⟨hdest, hstream⟩ := h.frames f hsent haaf
  refine hother ?_
  rw [frameIdentity, hdest, hstream]
  rfl

/-- The packetizer sends under the id of the stream listened to. -/
theorem talkerStream_overwritten : ¬ Speaks (mainLoop.run talkWhileListening) := by
  have hw : TalkerIdentity.wire ⟨otherStream, aafMcast⟩ ∈
      (mainLoop.run talkWhileListening).connections.aafFrames := by
    rw [talkWhileListening_run]
    decide +kernel
  refine not_speaks hw ?_
  rw [talkWhileListening_run]
  decide +kernel

end AvbAes3.TalkerStream
