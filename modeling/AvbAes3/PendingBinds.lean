import AvbAes3.BindingCoherence

/-!
# What completes a pending connect

A connect without a stream id waits for the advertisement of its talker. The
advertisement is taken for it by the saved destination, or by the address
the saved entity id is made from. Of an entity id in EUI-64 form only the
first three bytes are compared, so any device with the same OUI completes
it.
-/

namespace AvbAes3.PendingBinds

open BindingCoherence

-- ---------------------------------------------------------------------------
-- Addresses
-- ---------------------------------------------------------------------------

def oui (bytes : Vector UInt8 n) : List UInt8 := [byteAt bytes 0, byteAt bytes 1, byteAt bytes 2]

def looksLikeEui64 (eid : EntityId) : Bool := byteAt eid 3 == 0xFF && byteAt eid 4 == 0xFE

/-- The MAC address an entity id is made from: expanded to EUI-64, or with
two bytes behind it. -/
def entityMac (eid : EntityId) : MacAddr :=
  if looksLikeEui64 eid then
    sixBytes (byteAt eid 0) (byteAt eid 1) (byteAt eid 2) (byteAt eid 5) (byteAt eid 6) (byteAt eid 7)
  else
    sixBytes (byteAt eid 0) (byteAt eid 1) (byteAt eid 2) (byteAt eid 3) (byteAt eid 4) (byteAt eid 5)

/-- The MAC address of the device a stream is from. -/
def streamMac (sid : StreamId) : MacAddr :=
  sixBytes (byteAt sid 0) (byteAt sid 1) (byteAt sid 2) (byteAt sid 3) (byteAt sid 4) (byteAt sid 5)

-- ---------------------------------------------------------------------------
-- Completion
-- ---------------------------------------------------------------------------

/-- The advertisement is of the saved destination and from the saved entity. -/
def Own (p : PendingBind) (sid : StreamId) (dest : MacAddr) : Prop :=
  dest = p.destMac ∧ streamMac sid = entityMac p.talkerEntityId

/-- The advertisement is of the saved destination, or the entity saved has the
stream's OUI and is either an EUI-64 or made from the stream's MAC address. -/
def Likely (p : PendingBind) (sid : StreamId) (dest : MacAddr) : Prop :=
  dest = p.destMac ∨
    p.talkerEntityId ≠ zeroBytes 8 ∧ oui p.talkerEntityId = oui sid ∧
      (looksLikeEui64 p.talkerEntityId ∨ streamMac sid = entityMac p.talkerEntityId)

/-- A pending connect with a destination is completed only by an advertisement
that `accepts` it, and any other leaves it as it is. -/
structure CompletedBy (accepts : PendingBind → StreamId → MacAddr → Prop) (c : Connections)
    (sid : StreamId) (dest : MacAddr) : Prop where
  only : ∀ u, (c.pending u).active → (c.pending u).destMac ≠ zeroBytes 6 →
    ((c.apply (.advertise sid dest)).pending u).active = false → accepts (c.pending u) sid dest
  others : ∀ u, (c.pending u).active → (c.pending u).destMac ≠ zeroBytes 6 →
    ¬ accepts (c.pending u) sid dest → (c.apply (.advertise sid dest)).pending u = c.pending u

def Advertises (accepts : PendingBind → StreamId → MacAddr → Prop) (c : Connections) :
    ConnOp → Prop
  | .advertise sid dest => CompletedBy accepts c sid dest
  | _ => True

theorem streamMac_eq_entityMac {eid : EntityId} {sid : StreamId} (h : ¬ looksLikeEui64 eid)
    (h0 : byteAt eid 0 = byteAt sid 0) (h1 : byteAt eid 1 = byteAt sid 1)
    (h2 : byteAt eid 2 = byteAt sid 2) (h3 : byteAt eid 3 = byteAt sid 3)
    (h4 : byteAt eid 4 = byteAt sid 4) (h5 : byteAt eid 5 = byteAt sid 5) :
    streamMac sid = entityMac eid := by
  rw [entityMac, if_neg h, h0, h1, h2, h3, h4, h5]
  rfl

theorem destOrEidMatch_likely {p : PendingBind} {sid : StreamId} {dest : MacAddr}
    (h : destOrEidMatch p sid dest) : Likely p sid dest := by
  rcases Bool.or_eq_true_iff.mp h with hdest | heid
  · exact .inl (eq_of_beq (Bool.and_eq_true_iff.mp hdest).2).symm
  · simp only [eidMatches, Bool.and_eq_true, Bool.or_eq_true, beq_iff_eq, bne_iff_ne] at heid
    obtain ⟨hknown, ⟨⟨h0, h1⟩, h2⟩, hrest⟩ := heid
    refine .inr ⟨hknown, by rw [oui, oui, h0, h1, h2], ?_⟩
    by_cases heui : looksLikeEui64 p.talkerEntityId
    · exact .inl heui
    rcases hrest with ⟨h3, h4⟩ | ⟨⟨h3, h4⟩, h5⟩
    · exact absurd (by rw [looksLikeEui64, h3, h4]; rfl) heui
    · exact .inr (streamMac_eq_entityMac heui h0 h1 h2 h3 h4 h5)

/-- An advertisement completes the connects that wait for it, and leaves the
others. -/
theorem advertise_pending (c : Connections) (sid : StreamId) (dest : MacAddr) (u : ListenerUid) :
    (c.apply (.advertise sid dest)).pending u =
      if c.awaits u sid dest then { c.pending u with active := false } else c.pending u := by
  have hself (c : Connections) (i : ListenerUid) : (c.complete i sid dest).pending i =
      if c.awaits i sid dest then { c.pending i with active := false } else c.pending i := by
    unfold Connections.complete
    split
    · refine (Function.update_self ..).trans ?_
      rw [Connections.bind_pending]
      rfl
    · rfl
  rw [Connections.apply]
  rcases u.cases with rfl | rfl
  · rw [Connections.complete_pending_other _ _ _ _ (by decide), hself]
  · rw [hself, Connections.awaits, Connections.complete_pending_other _ _ _ _ (by decide)]
    rfl

theorem completedBy_likely (c : Connections) (sid : StreamId) (dest : MacAddr) :
    CompletedBy Likely c sid dest where
  only u hactive _ hdone := by
    rw [advertise_pending] at hdone
    split at hdone
    · rename_i h
      exact destOrEidMatch_likely (Bool.and_eq_true_iff.mp h).2
    · exact absurd (hactive.symm.trans hdone) (by decide)
  others u _ _ hother := by
    rw [advertise_pending, if_neg]
    exact fun h => hother (destOrEidMatch_likely (Bool.and_eq_true_iff.mp h).2)

/-- In a run, an advertisement completes only the connects it is likely to be
for. -/
theorem pending_likely (run : List LoopStep) :
    mainLoop.Steps (EachOp (Advertises Likely)) run := by
  refine Machine.stepsFrom_of_forall (fun fw step => ?_) _ run
  refine Machine.stepsFrom_of_forall (fun c op => ?_) _ _
  cases op with
  | advertise sid dest => exact completedBy_likely c sid dest
  | _ => trivial

-- ---------------------------------------------------------------------------
-- Another device with the same OUI
-- ---------------------------------------------------------------------------

def strangerStream : StreamId := eightBytes 0x00 0x1B 0x21 0x00 0x00 0x0B 0x00 0x01
def strangerDest : MacAddr := sixBytes 0x91 0xE0 0xF0 0x00 0xFE 0x0B

def strangerAdvertisement : LoopStep :=
  let frame := msrpFrameBegin (zeroBytes 6) ++
    msrpEmitTalkerAdv { streamId := strangerStream, destAddr := strangerDest } false mrpEvtJoinIn ++
      be16 0
  .dispatchRx (Buffer.ofList frame) frame.length {}

theorem parked_run : (mainLoop.run [fastConnectTo (zeroBytes 8) 0]).connections =
    connMachine.run [.newStep, .connect listenerUidCrf (zeroBytes 8) talkerDest talkerEntity] :=
  mainLoop_run (by decide +kernel)

theorem stranger_ops : connOps (mainLoop.run [fastConnectTo (zeroBytes 8) 0]) strangerAdvertisement =
    [.newStep, .advertise strangerStream strangerDest] := by
  decide +kernel

theorem completed_by_stranger : ¬ mainLoop.Steps (EachOp (Advertises Own))
    [fastConnectTo (zeroBytes 8) 0, strangerAdvertisement] := by
  rintro ⟨-, hstranger, -⟩
  have hadvertised : EachOp (Advertises Own) (mainLoop.run [fastConnectTo (zeroBytes 8) 0])
      strangerAdvertisement := hstranger
  rw [EachOp, stranger_ops, parked_run] at hadvertised
  obtain ⟨-, hown, -⟩ := hadvertised
  have hdest := (hown.only listenerUidCrf rfl (by decide) (by decide)).1
  exact absurd hdest (by decide)

end AvbAes3.PendingBinds
