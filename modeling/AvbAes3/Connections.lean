import AvbAes3.MainLoop

/-!
# What the firmware is connected to

A model of the connections alone: the talker and what it is advertised as,
the two listeners with the connects they wait for and the engines that
receive for them, and what the AAF frames are addressed with. Its steps are
the few messages and passes that change any of this. `mainLoop_refines` ties
it to the firmware: every step of the main loop, seen through
`Firmware.connections`, is a run of this model over the operations
`connOps` reads off the step.
-/

namespace AvbAes3

-- ---------------------------------------------------------------------------
-- State
-- ---------------------------------------------------------------------------

structure ListenerLink where
  connected : Bool
  streamId : StreamId
  destMac : MacAddr
  deriving DecidableEq, Repr

structure TalkerLink where
  identity : TalkerIdentity
  connected : Bool
  connectionCount : UInt16
  deriving DecidableEq, Repr

/-- The talker as SRP declares it. -/
structure Advertised where
  identity : TalkerIdentity
  enabled : Bool
  deriving DecidableEq, Repr

structure Packetizer where
  wire : WireIdentity
  enabled : Bool
  started : Bool
  deriving DecidableEq, Repr

/-- `resolves i` is the listener an active resolve is for, `engines u` the
stream the listener's engine is bound to, `aafFrames` what the AAF frames of
the current step of the main loop are addressed with. -/
structure Connections where
  talker : TalkerLink
  advertised : Advertised
  listeners : ListenerUid → ListenerLink
  resolves : ListenerUid → Option ListenerUid
  pending : ListenerUid → PendingBind
  engines : ListenerUid → Option StreamId
  identity : TalkerIdentity
  slot0 : ExtractorSlot
  packetizer : Packetizer
  aafFrames : List WireIdentity

-- ---------------------------------------------------------------------------
-- Operations
-- ---------------------------------------------------------------------------

namespace Connections

def setListener (c : Connections) (u : ListenerUid) (l : ListenerLink) : Connections :=
  { c with listeners := Function.update c.listeners u l }

def setPending (c : Connections) (u : ListenerUid) (p : PendingBind) : Connections :=
  { c with pending := Function.update c.pending u p }

def setResolve (c : Connections) (i : ListenerUid) (r : Option ListenerUid) : Connections :=
  { c with resolves := Function.update c.resolves i r }

def setEngine (c : Connections) (u : ListenerUid) (e : Option StreamId) : Connections :=
  { c with engines := Function.update c.engines u e }

/-- The audio engine shares its stream id with the talker. -/
def bind (c : Connections) (u : ListenerUid) (streamId : StreamId) (destMac : MacAddr) :
    Connections :=
  if u = listenerUidCrf then c.setEngine u (some streamId)
  else
    { c.setEngine u (some streamId) with
      identity := { c.identity with streamId := streamId }
      slot0 := avtpFilterSetSlot streamId destMac }

def unbind (c : Connections) (u : ListenerUid) : Connections :=
  if u = listenerUidCrf then c.setEngine u none
  else { c.setEngine u none with slot0 := avtpFilterClearSlot c.slot0 }

def stopWaiting (c : Connections) (i : ListenerUid) : Connections :=
  c.setPending i { c.pending i with active := false }

/-- A stream id of zero parks the connect until the talker advertises. -/
def listen (c : Connections) (u : ListenerUid) (streamId : StreamId) (destMac : MacAddr)
    (talkerId : EntityId) : Connections :=
  if streamIdIsZero streamId then c.setPending u ⟨true, u, destMac, talkerId, 0⟩
  else (c.stopWaiting u).bind u streamId destMac

def connect (c : Connections) (u : ListenerUid) (streamId : StreamId) (destMac : MacAddr)
    (talkerId : EntityId) : Connections :=
  (c.setListener u ⟨true, streamId, destMac⟩).listen u streamId destMac talkerId

def disconnect (c : Connections) (u : ListenerUid) : Connections :=
  ((c.setListener u { c.listeners u with connected := false }).stopWaiting u).unbind u

/-- The pending entry waits for this talker. -/
def awaits (c : Connections) (i : ListenerUid) (streamId : StreamId) (destMac : MacAddr) : Bool :=
  (c.pending i).active && destOrEidMatch (c.pending i) streamId destMac

def complete (c : Connections) (i : ListenerUid) (streamId : StreamId) (destMac : MacAddr) :
    Connections :=
  if c.awaits i streamId destMac then
    let p := c.pending i
    let l := { c.listeners p.uid with streamId := streamId, destMac := destMac }
    ((c.setListener p.uid l).bind p.uid streamId p.destMac).stopWaiting i
  else c

def answer (c : Connections) (i : ListenerUid) (success : Bool) (streamId : StreamId)
    (destMac : MacAddr) (talkerId : EntityId) : Connections :=
  match c.resolves i with
  | some u =>
    (if success then c.connect u streamId destMac talkerId else c).setResolve i none
  | none => c

def connectTx (c : Connections) : Connections :=
  { c with
    talker := { c.talker with
      connected := true
      connectionCount := c.talker.connectionCount + 1 }
    advertised := { c.advertised with enabled := true }
    packetizer := ⟨c.identity.wire, true, true⟩ }

def disconnectTx (c : Connections) : Connections :=
  let count := c.talker.connectionCount
  { c with
    talker := { c.talker with
      connected := false
      connectionCount := if count > 0 then count - 1 else count }
    advertised := { c.advertised with enabled := false }
    packetizer := { c.packetizer with enabled := false } }

end Connections

inductive ConnOp
  | newStep
  | connectTx (listenerId : EntityId) (listenerUid : UInt16)
  | disconnectTx (listenerId : EntityId) (listenerUid : UInt16)
  | connect (u : ListenerUid) (streamId : StreamId) (destMac : MacAddr) (talkerId : EntityId)
  | refuse (u : ListenerUid)
  | resolve (u : ListenerUid)
  | answer (i : ListenerUid) (success : Bool) (streamId : StreamId) (destMac : MacAddr)
    (talkerId : EntityId)
  | timeOut (i : ListenerUid)
  | disconnect (u : ListenerUid)
  | advertise (streamId : StreamId) (destMac : MacAddr)
  | pushBinding
  | aafFrame
  | packetizerFrame
  deriving DecidableEq, Repr

def Connections.apply (c : Connections) : ConnOp → Connections
  | .newStep => { c with aafFrames := [] }
  | .connectTx _ _ => c.connectTx
  | .disconnectTx _ _ => c.disconnectTx
  | .connect u streamId destMac talkerId => c.connect u streamId destMac talkerId
  | .refuse _ => c
  | .resolve u => c.setResolve u (some u)
  | .answer i success streamId destMac talkerId => c.answer i success streamId destMac talkerId
  | .timeOut i => c.setResolve i none
  | .disconnect u => c.disconnect u
  | .advertise streamId destMac =>
    (c.complete listenerUidCrf streamId destMac).complete listenerUidAaf streamId destMac
  | .pushBinding => { c with packetizer := { c.packetizer with wire := c.identity.wire } }
  | .aafFrame => { c with aafFrames := c.aafFrames ++ [c.identity.wire] }
  | .packetizerFrame =>
    if c.packetizer.started then { c with aafFrames := c.aafFrames ++ [c.packetizer.wire] } else c

-- ---------------------------------------------------------------------------
-- What the listeners' operations leave alone
-- ---------------------------------------------------------------------------

/-- The part of the state no listener operation changes. -/
structure TalkerSide where
  talker : TalkerLink
  advertised : Advertised
  packetizer : Packetizer
  aafFrames : List WireIdentity

namespace Connections

variable (c : Connections) (u i : ListenerUid) (streamId : StreamId) (destMac : MacAddr)
  (talkerId : EntityId)

def talkerSide : TalkerSide := ⟨c.talker, c.advertised, c.packetizer, c.aafFrames⟩

@[simp] theorem bind_pending : (c.bind u streamId destMac).pending = c.pending := by
  unfold bind
  split <;> rfl

@[simp] theorem bind_listeners : (c.bind u streamId destMac).listeners = c.listeners := by
  unfold bind
  split <;> rfl

@[simp] theorem bind_resolves : (c.bind u streamId destMac).resolves = c.resolves := by
  unfold bind
  split <;> rfl

@[simp] theorem unbind_listeners : (c.unbind u).listeners = c.listeners := by
  unfold unbind
  split <;> rfl

@[simp] theorem unbind_resolves : (c.unbind u).resolves = c.resolves := by
  unfold unbind
  split <;> rfl

@[simp] theorem connect_listeners :
    (c.connect u streamId destMac talkerId).listeners =
      Function.update c.listeners u ⟨true, streamId, destMac⟩ := by
  unfold connect listen
  split
  · rfl
  · exact bind_listeners ..

@[simp] theorem connect_resolves :
    (c.connect u streamId destMac talkerId).resolves = c.resolves := by
  unfold connect listen
  split
  · rfl
  · exact bind_resolves ..

@[simp] theorem disconnect_listeners :
    (c.disconnect u).listeners =
      Function.update c.listeners u { c.listeners u with connected := false } :=
  unbind_listeners ..

@[simp] theorem disconnect_resolves : (c.disconnect u).resolves = c.resolves := unbind_resolves ..

@[simp] theorem complete_resolves : (c.complete i streamId destMac).resolves = c.resolves := by
  unfold complete
  split
  · exact bind_resolves ..
  · rfl

theorem complete_pending_other {j : ListenerUid} (h : j ≠ i) :
    (c.complete i streamId destMac).pending j = c.pending j := by
  unfold complete
  split
  · refine (Function.update_of_ne h ..).trans ?_
    rw [bind_pending]
    rfl
  · rfl

theorem complete_listeners :
    (c.complete i streamId destMac).listeners =
      if c.awaits i streamId destMac then
        Function.update c.listeners (c.pending i).uid
          { c.listeners (c.pending i).uid with streamId := streamId, destMac := destMac }
      else c.listeners := by
  unfold complete
  split
  · exact bind_listeners ..
  · rfl

theorem complete_connected :
    ((c.complete i streamId destMac).listeners u).connected = (c.listeners u).connected := by
  rw [complete_listeners]
  split
  · by_cases h : u = (c.pending i).uid
    · rw [h, Function.update_self]
    · rw [Function.update_of_ne h]
  · rfl

theorem bind_setPending (p : PendingBind) :
    (c.bind u streamId destMac).setPending i p = (c.setPending i p).bind u streamId destMac := by
  unfold bind
  split <;> rfl

@[simp] theorem bind_engines :
    (c.bind u streamId destMac).engines = Function.update c.engines u (some streamId) := by
  unfold bind
  split <;> rfl

theorem bind_slot0 :
    (c.bind u streamId destMac).slot0 =
      if u = listenerUidCrf then c.slot0 else avtpFilterSetSlot streamId destMac := by
  unfold bind
  split <;> rfl

theorem bind_identity :
    (c.bind u streamId destMac).identity =
      if u = listenerUidCrf then c.identity else { c.identity with streamId := streamId } := by
  unfold bind
  split <;> rfl

@[simp] theorem unbind_identity : (c.unbind u).identity = c.identity := by
  unfold unbind
  split <;> rfl

@[simp] theorem unbind_pending : (c.unbind u).pending = c.pending := by
  unfold unbind
  split <;> rfl

@[simp] theorem unbind_engines : (c.unbind u).engines = Function.update c.engines u none := by
  unfold unbind
  split <;> rfl

theorem unbind_slot0 :
    (c.unbind u).slot0 =
      if u = listenerUidCrf then c.slot0 else avtpFilterClearSlot c.slot0 := by
  unfold unbind
  split <;> rfl

@[simp] theorem bind_talkerSide : (c.bind u streamId destMac).talkerSide = c.talkerSide := by
  unfold bind
  split <;> rfl

@[simp] theorem unbind_talkerSide : (c.unbind u).talkerSide = c.talkerSide := by
  unfold unbind
  split <;> rfl

@[simp] theorem connect_talkerSide :
    (c.connect u streamId destMac talkerId).talkerSide = c.talkerSide := by
  unfold connect listen
  split
  · rfl
  · exact bind_talkerSide ..

@[simp] theorem disconnect_talkerSide : (c.disconnect u).talkerSide = c.talkerSide :=
  unbind_talkerSide ..

@[simp] theorem complete_talkerSide :
    (c.complete i streamId destMac).talkerSide = c.talkerSide := by
  unfold complete
  split
  · exact bind_talkerSide ..
  · rfl

@[simp] theorem answer_talkerSide (success : Bool) :
    (c.answer i success streamId destMac talkerId).talkerSide = c.talkerSide := by
  unfold answer
  split
  · cases success
    · rfl
    · exact connect_talkerSide ..
  · rfl

end Connections

-- ---------------------------------------------------------------------------
-- The firmware seen as connections
-- ---------------------------------------------------------------------------

def AvdeccListenerStream.link (l : AvdeccListenerStream) : ListenerLink :=
  ⟨l.connected, l.streamId, l.destMac⟩

def AvdeccTalkerStream.link (t : AvdeccTalkerStream) : TalkerLink :=
  ⟨⟨t.streamId, t.destMac⟩, t.connected, t.connectionCount⟩

def AvdeccResolve.waiting (r : AvdeccResolve) : Option ListenerUid :=
  if r.active then some r.listenerUid else none

def Srp.advertised (s : Srp) : Advertised :=
  ⟨⟨s.talker.streamId, s.talker.destAddr⟩, s.talkerEnabled⟩

def AafPktRegs.wire (regs : AafPktRegs) : WireIdentity :=
  ⟨regMac regs.dstMacHi regs.dstMacLo, regStreamId regs.streamIdHi regs.streamIdLo⟩

/-- The software talker's frames and the packetizer's. -/
def WireFrame.isAaf (f : WireFrame) : Bool :=
  f.origin == .firmware .aaf || f.origin == .packetizer

def aafFrames (sent : List WireFrame) : List WireIdentity :=
  (sent.filter WireFrame.isAaf).map fun f => frameIdentity f.bytes

def Firmware.connections (fw : Firmware) : Connections where
  talker := (fw.avdecc.connections.talkers talkerUidAaf).link
  advertised := fw.srp.advertised
  listeners u := (fw.avdecc.connections.listeners u).link
  resolves i := (fw.avdecc.connections.resolves i).waiting
  pending := fw.pendingListeners
  engines u := if u = listenerUidCrf then fw.mcr.binding else fw.aaf.binding
  identity := fw.aaf.identity
  slot0 := fw.slot0
  packetizer := ⟨fw.aafPkt.wire, fw.aafPkt.enable, fw.aafPktStarted⟩
  aafFrames := aafFrames fw.sent

theorem Firmware.connections_engine_crf (fw : Firmware) :
    fw.connections.engines listenerUidCrf = fw.mcr.binding := rfl

theorem Firmware.connections_engine_aaf (fw : Firmware) :
    fw.connections.engines listenerUidAaf = fw.aaf.binding := rfl

-- ---------------------------------------------------------------------------
-- What a step does to the connections
-- ---------------------------------------------------------------------------

def acmpOps (fw : Firmware) (pdu : Buffer) : AcmpHandler → List ConnOp
  | .connectTx =>
    if (talkerUid? (pduTalkerUid pdu)).isSome then
      [.connectTx (pduListenerId pdu) (pduListenerUid pdu)]
    else []
  | .disconnectTx =>
    if (talkerUid? (pduTalkerUid pdu)).isSome then
      [.disconnectTx (pduListenerId pdu) (pduListenerUid pdu)]
    else []
  | .connectTxResponse =>
    match answeredResolve fw.avdecc pdu with
    | none => []
    | some i =>
      [.answer i (pduStatus pdu = acmpStatusSuccess) (pduStreamId pdu) (pduStreamDestMac pdu)
        (fw.avdecc.resolves i).talkerId]
  | .connectRx =>
    match listenerUid? (pduListenerUid pdu) with
    | none => []
    | some u =>
      if isSlowPath pdu then [.resolve u]
      else if pduTalkerId pdu = zeroBytes 8 then [.refuse u]
      else [.connect u (pduStreamId pdu) (pduStreamDestMac pdu) (pduTalkerId pdu)]
  | .disconnectRx =>
    match listenerUid? (pduListenerUid pdu) with
    | none => []
    | some u => [.disconnect u]
  | .getTxState | .getRxState => []

def avdeccOps (fw : Firmware) (frame : Buffer) (len : Nat) : List ConnOp :=
  if isAcmp frame len then
    match acmpHandler fw.avdecc (frame.offset 14) with
    | some h => acmpOps fw (frame.offset 14) h
    | none => []
  else []

def advertiseOf (v : MsrpVector) : ConnOp := .advertise (v.value.bytes 8) ((v.value.offset 8).bytes 6)

def msrpOps (frame : Buffer) (len : Nat) : List ConnOp :=
  if isMsrpPdu frame len then ((msrpVectors frame len).filter isTalkerAdvertise).map advertiseOf
  else []

def rxOps (fw : Firmware) (frame : Buffer) (len : Nat) : RxHandler → List ConnOp
  | .avdecc => avdeccOps fw frame len
  | .msrp => msrpOps frame len
  | .gptp | .crf | .aaf => []

def timeOutOps (s : Avdecc) (nowMs : UInt32) (i : ListenerUid) : List ConnOp :=
  if resolveTimedOut (s.resolves i) nowMs then [.timeOut i] else []

theorem mem_timeOutOps {s : Avdecc} {nowMs : UInt32} {i : ListenerUid} {op : ConnOp}
    (h : op ∈ timeOutOps s nowMs i) : op = .timeOut i := by
  unfold timeOutOps at h
  split at h
  · exact List.mem_singleton.mp h
  · cases h

def stepOps (fw : Firmware) : LoopStep → List ConnOp
  | .dispatchRx slot len _ =>
    let rx := rxFrame slot len fw.scratch
    match rxHandler rx.frame rx.len with
    | some h => rxOps fw rx.frame rx.len h
    | none => []
  | .syncVlan => if vlanChanged fw ∧ fw.aafGwEnabled then [.pushBinding] else []
  | .avdeccPoll r =>
    timeOutOps fw.avdecc r.nowMs listenerUidCrf ++ timeOutOps fw.avdecc r.nowMs listenerUidAaf
  | .aafTxPoll count now =>
    if !fw.aafGwEnabled && (aafTxPoll fw.aaf count now).2.isSome then [.aafFrame] else []
  | .packetizerFrame .. => [.packetizerFrame]
  | _ => []

def ConnOp.isEvent : ConnOp → Bool
  | .advertise .. | .timeOut _ => true
  | _ => false

/-- Advertisements and timeouts come in any number, the rest alone. -/
inductive StepShape : List ConnOp → Prop
  | one (op : ConnOp) : StepShape [op]
  | events {ops : List ConnOp} (h : ∀ op ∈ ops, op.isEvent) : StepShape ops

theorem StepShape.none : StepShape [] := .events fun _ hop => nomatch hop

theorem acmpOps_shape (fw : Firmware) (pdu : Buffer) (h : AcmpHandler) :
    StepShape (acmpOps fw pdu h) := by
  unfold acmpOps
  cases h
  all_goals
    dsimp only
    repeat' split
    all_goals first | exact .none | exact .one _

theorem rxOps_shape (fw : Firmware) (frame : Buffer) (len : Nat) (h : RxHandler) :
    StepShape (rxOps fw frame len h) := by
  cases h with
  | avdecc =>
    unfold rxOps avdeccOps
    dsimp only
    repeat' split
    all_goals first | exact .none | exact acmpOps_shape ..
  | msrp =>
    refine .events fun op hop => ?_
    unfold rxOps msrpOps at hop
    dsimp only at hop
    split at hop
    · obtain ⟨v, -, rfl⟩ := List.mem_map.mp hop
      rfl
    · cases hop
  | _ => exact .none

theorem stepOps_shape (fw : Firmware) (step : LoopStep) : StepShape (stepOps fw step) := by
  cases step with
  | dispatchRx slot len r =>
    unfold stepOps
    dsimp only
    split
    · exact rxOps_shape ..
    · exact .none
  | avdeccPoll r =>
    refine .events fun op hop => ?_
    rcases List.mem_append.mp hop with hop | hop
    all_goals
      rw [mem_timeOutOps hop]
      rfl
  | packetizerFrame seq pres payload => exact .one _
  | _ =>
    unfold stepOps
    dsimp only
    repeat' split
    all_goals first | exact .none | exact .one _

def connOps (fw : Firmware) (step : LoopStep) : List ConnOp := .newStep :: stepOps fw step

def connMachine : Machine Connections ConnOp := ⟨boot.connections, Connections.apply⟩

end AvbAes3
