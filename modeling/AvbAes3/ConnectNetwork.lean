import AvbAes3.ConnectTx
import AvbAes3.ListenerSide
import AvbAes3.VlanTransparent

/-!
# A network of endpoints

Endpoints with MAC addresses of their own, each running the main loop, and
what they have said of CONNECT_TX. ACMP is multicast and nothing orders or
protects it: an endpoint may take in any message ever said, once, often or
never. Controllers may send anything else, but they do not speak for an
endpoint: a CONNECT_TX message that names one as its listener has been said
by an endpoint. Then a listener that an answer binds is bound to the stream
of the very endpoint it asked, as long as no endpoint has used a sequence
number twice.
-/

namespace AvbAes3.ConnectNetwork

open ConnectTx
open ConnectAnswers (acmpdu_bytes ethHdr_length)

-- ---------------------------------------------------------------------------
-- Endpoints
-- ---------------------------------------------------------------------------

/-- `aaf_stream_id` and `aaf_mcast`, from the MAC address. -/
def streamOf (mac : MacAddr) : TalkerIdentity where
  streamId := eightBytes (byteAt mac 0) (byteAt mac 1) (byteAt mac 2) (byteAt mac 3)
    (byteAt mac 4) (byteAt mac 5) 0x00 0x01
  destMac := sixBytes 0x91 0xE0 0xF0 0x00 0xFE (byteAt mac 5)

/-- `boot` of a board with this MAC address. -/
def bootOf (mac : MacAddr) : Firmware where
  gptp := (gptpInit mac).1
  srp := srpTalkerSet (srpInit mac) (streamOf mac).streamId (streamOf mac).destMac 230
  avdecc := avdeccSetTalkerStream (avdeccInit mac) talkerUidAaf (streamOf mac).streamId
    (streamOf mac).destMac
  mcr := (mcrInit configClockFrequency 48000).1
  mcrRegs := (mcrInit configClockFrequency 48000).2
  aaf := aafInit mac (streamOf mac).streamId (streamOf mac).destMac

example : bootOf boardMac = boot := rfl

theorem byteAt_ext {v w : MacAddr} (h : ∀ i < 6, byteAt v i = byteAt w i) : v = w := by
  refine Vector.ext fun i hi => ?_
  simpa [byteAt, hi] using h i hi

/-- An entity id tells the board. -/
theorem gptpClockId_injective : Function.Injective gptpClockId := by
  intro v w h
  have hbyte (i : Nat) : byteAt (gptpClockId v) i = byteAt (gptpClockId w) i := by rw [h]
  refine byteAt_ext fun i hi => ?_
  interval_cases i
  exacts [hbyte 0, hbyte 1, hbyte 2, hbyte 5, hbyte 6, hbyte 7]

-- ---------------------------------------------------------------------------
-- The network
-- ---------------------------------------------------------------------------

variable {ι : Type} [DecidableEq ι]

/-- The endpoints, the CONNECT_TX messages they have sent, and how many
sequence numbers each has used. -/
structure Network (ι : Type) where
  stations : ι → Firmware
  wire : List Message
  used : ι → Nat

def Network.step (net : Network ι) (a : ι × LoopStep) : Network ι :=
  let fw := net.stations a.1
  let fw' := mainLoopStep fw a.2
  { stations := Function.update net.stations a.1 fw'
    wire := net.wire ++ messages fw'.sent
    used := Function.update net.used a.1
      (net.used a.1 + (fw'.avdecc.nextAcmpSeq - fw.avdecc.nextAcmpSeq).toNat) }

/-- Any endpoint takes any step of its main loop at any time. -/
def network (macs : ι → MacAddr) : Machine (Network ι) (ι × LoopStep) where
  init := ⟨fun i => bootOf (macs i), [], fun _ => 0⟩
  step := Network.step

/-- Said by an endpoint, or about none. -/
def Said (macs : ι → MacAddr) (wire : List Message) (m : Message) : Prop :=
  m ∈ wire ∨ ∀ i, m.listenerId ≠ gptpClockId (macs i)

def CallSaid (macs : ι → MacAddr) (wire : List Message) : Option (AcmpHandler × Buffer) → Prop
  | some (.connectTx, pdu) => Said macs wire (readMessage false pdu)
  | some (.connectTxResponse, pdu) => Said macs wire (readMessage true pdu)
  | _ => True

/-- What a step takes in of CONNECT_TX has been said. -/
def Carried (macs : ι → MacAddr) (net : Network ι) (a : ι × LoopStep) : Prop :=
  CallSaid macs net.wire (acmpCall (net.stations a.1) a.2)

/-- No sequence number has been used twice. -/
def Numbered (net : Network ι) (a : ι × LoopStep) : Prop := (net.step a).used a.1 ≤ 65536

/-- The listener is connected to the talker of the board, and its engine is
bound to that talker's stream. -/
structure BoundTo (fw : Firmware) (u : ListenerUid) (talker : MacAddr) : Prop where
  connected : (fw.avdecc.listeners u).connected
  talkerId : (fw.avdecc.listeners u).talkerId = gptpClockId talker
  streamId : (fw.avdecc.listeners u).streamId = (streamOf talker).streamId
  destMac : (fw.avdecc.listeners u).destMac = (streamOf talker).destMac
  engine : fw.connections.engines u = some (streamOf talker).streamId

/-- An answer with success binds the listener to the endpoint it asked. -/
def BindsAgreed (macs : ι → MacAddr) (net : Network ι) (a : ι × LoopStep) : Prop :=
  ∀ pdu k, acmpCall (net.stations a.1) a.2 = some (.connectTxResponse, pdu) →
    answeredResolve (net.stations a.1).avdecc pdu = some k → pduStatus pdu = acmpStatusSuccess →
      ∃ j, ((net.stations a.1).avdecc.resolves k).talkerId = gptpClockId (macs j) ∧
        BoundTo ((net.step a).stations a.1)
          ((net.stations a.1).avdecc.resolves k).listenerUid (macs j)

-- ---------------------------------------------------------------------------
-- Frames as they were sent
-- ---------------------------------------------------------------------------

theorem avdeccEthHdr_ethertype {slot : Buffer} {srcMac : MacAddr}
    (h : slot.Holds 0 (avdeccEthHdr srcMac)) : getBe16 (slot.offset 12) = avtpEthertype := by
  have hethertype := (Buffer.holds_append.mp h).2
  simp only [List.length_append, Vector.length_toList] at hethertype
  exact getBe16_eq (hethertype 0 Nat.two_pos) (hethertype 1 Nat.one_lt_two)

/-- The PDU a handler is given is the one that was sent. -/
theorem acmpCall_holds {fw : Firmware} {srcMac : MacAddr} {b slot : Buffer} {r : Readings}
    {h : AcmpHandler} {pdu : Buffer} (hsubtype : b 0 = avtpSubtypeAcmp)
    (hslot : slot.Holds 0 (avdeccEthHdr srcMac ++ b.take acmpduLen))
    (hcall : acmpCall fw (.dispatchRx slot (14 + acmpduLen) r) = some (h, pdu)) :
    acmpHandler fw.avdecc pdu = some h ∧ ∀ i < acmpduLen, pdu i = b i := by
  obtain ⟨hheader, hpdu⟩ := Buffer.holds_append.mp hslot
  have hethertype := avdeccEthHdr_ethertype hheader
  have hsent {i : Nat} (hi : i < acmpduLen) : slot (14 + i) = b i := by
    have := hpdu i (by rwa [Buffer.length_take])
    rw [ethHdr_length, Nat.zero_add] at this
    rw [this]
    simp [Buffer.take]
  have hvlan : vlanLen slot (14 + acmpduLen) = 0 :=
    if_neg fun htagged => absurd (hethertype.symm.trans htagged.2) (by decide)
  have hdata : isAvtpData slot (14 + acmpduLen) 0 = false := by
    have hfirst : slot 14 = avtpSubtypeAcmp := (hsent (by decide : 0 < acmpduLen)).trans hsubtype
    simp only [isAvtpData, Nat.add_zero, hfirst]
    exact Bool.and_eq_false_imp.mpr fun _ => by decide
  have hframe := VlanTransparent.rxFrame_copied hvlan hdata (by decide) fw.scratch
  unfold acmpCall at hcall
  dsimp only at hcall
  split at hcall
  · obtain ⟨handler, hhandler, heq⟩ := Option.map_eq_some_iff.mp hcall
    obtain ⟨rfl, rfl⟩ := Prod.mk.inj heq
    refine ⟨hhandler, fun i hi => ?_⟩
    rw [hframe]
    exact (Buffer.copy_take (Nat.zero_le _) (by omega)).trans (hsent hi)
  · cases hcall

theorem acmpHandler_message {s : Avdecc} {pdu : Buffer} {h : AcmpHandler}
    (hhandler : acmpHandler s pdu = some h) :
    (h = .connectTx → messageOf pdu = some (readMessage false pdu)) ∧
      (h = .connectTxResponse → messageOf pdu = some (readMessage true pdu)) := by
  unfold acmpHandler at hhandler
  dsimp only at hhandler
  unfold messageOf
  split at hhandler
  · rename_i hcommand
    rw [if_pos hcommand]
    split at hhandler
    · cases hhandler
      exact ⟨fun _ => rfl, fun h => by cases h⟩
    · cases hhandler
  · rename_i hcommand
    rw [if_neg hcommand]
    split_ifs at hhandler with hresponse <;> cases hhandler
    · exact ⟨fun h => (by cases h), fun _ => if_pos hresponse⟩
    all_goals exact ⟨fun h => (by cases h), fun h => (by cases h)⟩

omit [DecidableEq ι] in
/-- A frame that has been sent may be taken in, whatever else the slot and the
scratch buffer hold. -/
theorem carried_sent {macs : ι → MacAddr} {net : Network ι} {i : ι} {srcMac : MacAddr}
    {b slot : Buffer} {r : Readings} (hsubtype : b 0 = avtpSubtypeAcmp)
    (hslot : slot.Holds 0 (avdeccEthHdr srcMac ++ b.take acmpduLen))
    (hsaid : ∀ m, messageOf b = some m → m ∈ net.wire) :
    Carried macs net (i, .dispatchRx slot (14 + acmpduLen) r) := by
  unfold Carried
  dsimp only
  generalize hcall : acmpCall (net.stations i) (.dispatchRx slot (14 + acmpduLen) r) = call
  rcases call with - | ⟨h, pdu⟩
  · trivial
  obtain ⟨hhandler, hbytes⟩ := acmpCall_holds hsubtype hslot hcall
  obtain ⟨hcommand, hresponse⟩ := acmpHandler_message hhandler
  have hread := messageOf_congr hbytes
  cases h with
  | connectTx => exact .inl (hsaid _ (hread.symm.trans (hcommand rfl)))
  | connectTxResponse => exact .inl (hsaid _ (hread.symm.trans (hresponse rfl)))
  | _ => trivial

-- ---------------------------------------------------------------------------
-- What has been asked
-- ---------------------------------------------------------------------------

/-- The talker asked under the sequence number. -/
def Asked (asked : List EntityId) (seqId : UInt16) (talkerId : EntityId) : Prop :=
  ∃ n : Nat, asked[n]? = some talkerId ∧ seqId = n.toUInt16

theorem Asked.append {asked : List EntityId} {seqId : UInt16} {talkerId : EntityId}
    (h : Asked asked seqId talkerId) (more : List EntityId) : Asked (asked ++ more) seqId talkerId := by
  obtain ⟨n, hn, hseq⟩ := h
  have hlt : n < asked.length := (List.getElem?_eq_some_iff.mp hn).1
  exact ⟨n, (List.getElem?_append_left hlt).trans hn, hseq⟩

theorem Asked.last (asked : List EntityId) (talkerId : EntityId) :
    Asked (asked ++ [talkerId]) asked.length.toUInt16 talkerId :=
  ⟨asked.length, List.getElem?_concat_length, rfl⟩

/-- While no number has been used twice, it tells the talker. -/
theorem Asked.unique {asked : List EntityId} (hlength : asked.length ≤ 65536) {seqId : UInt16}
    {talkerId talkerId' : EntityId} (h : Asked asked seqId talkerId)
    (h' : Asked asked seqId talkerId') : talkerId = talkerId' := by
  obtain ⟨n, hn, hseq⟩ := h
  obtain ⟨n', hn', hseq'⟩ := h'
  have hlt : n < asked.length := (List.getElem?_eq_some_iff.mp hn).1
  have hlt' : n' < asked.length := (List.getElem?_eq_some_iff.mp hn').1
  have hnumber : n % 65536 = n' % 65536 := congrArg UInt16.toNat (hseq.symm.trans hseq')
  rw [Nat.mod_eq_of_lt (by omega), Nat.mod_eq_of_lt (by omega)] at hnumber
  rw [hnumber] at hn
  exact Option.some.inj (hn.symm.trans hn')

/-- `asked i` are the talkers endpoint `i` has asked, by sequence number. -/
structure Agreed (macs : ι → MacAddr) (asked : ι → List EntityId) (peers : ι → Peer)
    (wire : List Message) (used : ι → Nat) : Prop where
  entityId : ∀ i, (peers i).entityId = gptpClockId (macs i)
  streams : ∀ i u, (peers i).streams u = streamOf (macs i)
  used : ∀ i, used i = (asked i).length
  next : ∀ i, (peers i).nextSeq = (asked i).length.toUInt16
  resolves : ∀ i u, ((peers i).resolves u).active →
    Asked (asked i) ((peers i).resolves u).ourSeqId ((peers i).resolves u).talkerId
  commands : ∀ m ∈ wire, m.response = false → ∀ i, m.listenerId = gptpClockId (macs i) →
    Asked (asked i) m.seqId m.talkerId
  responses : ∀ m ∈ wire, m.response = true → m.status = acmpStatusSuccess →
    ∀ i, m.listenerId = gptpClockId (macs i) →
      ∃ j, Asked (asked i) m.seqId (gptpClockId (macs j)) ∧
        streamOf (macs j) = ⟨m.streamId, m.destMac⟩

section Step

variable {macs : ι → MacAddr} {asked : ι → List EntityId} {peers : ι → Peer}
  {wire : List Message} {used : ι → Nat}

/-- Resolves that end leave the rest as it is. -/
theorem Agreed.ends (h : Agreed macs asked peers wire used) (i : ι)
    {resolves : ListenerUid → AvdeccResolve}
    (hended : ∀ u, (resolves u).active → resolves u = (peers i).resolves u) :
    Agreed macs asked (Function.update peers i { peers i with resolves := resolves }) wire used where
  entityId j := by
    rcases eq_or_ne j i with rfl | hj
    · simpa using h.entityId j
    · simpa [hj] using h.entityId j
  streams j u := by
    rcases eq_or_ne j i with rfl | hj
    · simpa using h.streams j u
    · simpa [hj] using h.streams j u
  used := h.used
  next j := by
    rcases eq_or_ne j i with rfl | hj
    · simpa using h.next j
    · simpa [hj] using h.next j
  resolves j u hu := by
    rcases eq_or_ne j i with rfl | hj
    · simp only [Function.update_self] at hu ⊢
      have hkept := hended u hu
      rw [hkept] at hu ⊢
      exact h.resolves j u hu
    · simp only [Function.update_of_ne hj] at hu ⊢
      exact h.resolves j u hu
  commands := h.commands
  responses := h.responses

/-- One more talker is asked, under the next number. -/
theorem Agreed.asks (hmacs : Function.Injective macs) (h : Agreed macs asked peers wire used)
    (i : ι) {resolves : ListenerUid → AvdeccResolve} {sent : List Message} {talkerId : EntityId}
    (hresolves : ∀ u, (resolves u).active → resolves u = (peers i).resolves u ∨
      (resolves u).ourSeqId = (peers i).nextSeq ∧ (resolves u).talkerId = talkerId)
    (hsent : ∀ m ∈ sent, Command (peers i) talkerId m) :
    Agreed macs (Function.update asked i (asked i ++ [talkerId]))
      (Function.update peers i
        { peers i with resolves := resolves, nextSeq := (peers i).nextSeq + 1 })
      (wire ++ sent) (Function.update used i (used i + 1)) := by
  have hgrows {j : ι} {seqId : UInt16} {id : EntityId} (hasked : Asked (asked j) seqId id) :
      Asked (Function.update asked i (asked i ++ [talkerId]) j) seqId id := by
    rcases eq_or_ne j i with rfl | hj
    · rw [Function.update_self]
      exact hasked.append _
    · rwa [Function.update_of_ne hj]
  have hnew : Asked (Function.update asked i (asked i ++ [talkerId]) i) (peers i).nextSeq
      talkerId := by
    rw [Function.update_self, h.next i]
    exact Asked.last _ _
  refine ⟨fun j => ?_, fun j u => ?_, fun j => ?_, fun j => ?_, fun j u hu => ?_,
    fun m hm hcommand j hlistener => ?_, fun m hm hresponse hstatus j hlistener => ?_⟩
  · rcases eq_or_ne j i with rfl | hj
    · simpa using h.entityId j
    · simpa [hj] using h.entityId j
  · rcases eq_or_ne j i with rfl | hj
    · simpa using h.streams j u
    · simpa [hj] using h.streams j u
  · rcases eq_or_ne j i with rfl | hj
    · simpa using h.used j
    · simpa [hj] using h.used j
  · rcases eq_or_ne j i with rfl | hj
    · simp only [Function.update_self, List.length_append, List.length_singleton, h.next j]
      exact (UInt16.ofNat_add ..).symm
    · simpa [hj] using h.next j
  · rcases eq_or_ne j i with rfl | hj
    · have hu' : (resolves u).active := by simpa using hu
      have hasked : Asked (Function.update asked j (asked j ++ [talkerId]) j)
          (resolves u).ourSeqId (resolves u).talkerId := by
        rcases hresolves u hu' with hkept | ⟨hseq, htalker⟩
        · rw [hkept] at hu' ⊢
          exact hgrows (h.resolves j u hu')
        · rw [hseq, htalker]
          exact hnew
      simpa using hasked
    · have hu' : ((peers j).resolves u).active := by simpa [hj] using hu
      simpa [hj] using h.resolves j u hu'
  · rcases List.mem_append.mp hm with hm | hm
    · exact hgrows (h.commands m hm hcommand j hlistener)
    · obtain ⟨-, hown, htalker, hseq⟩ := hsent m hm
      have hji : macs j = macs i :=
        gptpClockId_injective (hlistener.symm.trans (hown.trans (h.entityId i)))
      rw [hmacs hji, htalker, hseq]
      exact hnew
  · rcases List.mem_append.mp hm with hm | hm
    · obtain ⟨k, hasked, hstream⟩ := h.responses m hm hresponse hstatus j hlistener
      exact ⟨k, hgrows hasked, hstream⟩
    · exact absurd ((hsent m hm).response.symm.trans hresponse) (by decide)

omit [DecidableEq ι] in
/-- A command that was said for an endpoint is answered with our stream. -/
theorem Agreed.answers (h : Agreed macs asked peers wire used) (i : ι) {pdu : Buffer}
    (hto : pduTalkerId pdu = (peers i).entityId)
    (hsaid : Said macs wire (readMessage false pdu)) {m : Message}
    (hm : Response (peers i) pdu m) : Agreed macs asked peers (wire ++ [m]) used where
  entityId := h.entityId
  streams := h.streams
  used := h.used
  next := h.next
  resolves := h.resolves
  commands m' hm' hcommand j hlistener := by
    rcases List.mem_append.mp hm' with hm' | hm'
    · exact h.commands m' hm' hcommand j hlistener
    · rw [List.mem_singleton.mp hm'] at hcommand
      exact absurd (hm.response.symm.trans hcommand) (by decide)
  responses m' hm' hresponse hstatus j hlistener := by
    rcases List.mem_append.mp hm' with hm' | hm'
    · exact h.responses m' hm' hresponse hstatus j hlistener
    · rw [List.mem_singleton.mp hm'] at hstatus hlistener ⊢
      rw [hm.listenerId] at hlistener
      have hasked : Asked (asked j) (pduSeqId pdu) (pduTalkerId pdu) := by
        rcases hsaid with hsaid | hforeign
        · exact h.commands _ hsaid rfl j hlistener
        · exact absurd hlistener (hforeign j)
      obtain ⟨u, -, hstream⟩ := hm.stream hstatus
      refine ⟨i, ?_, (h.streams i u).symm.trans hstream⟩
      rw [hm.seqId, ← h.entityId i, ← hto]
      exact hasked

theorem Agreed.exchange (hmacs : Function.Injective macs) (h : Agreed macs asked peers wire used)
    (i : ι) {call : Option (AcmpHandler × Buffer)} {p : Peer} {sent : List Message}
    (hexchange : Exchange (peers i) call p sent)
    (hto : ∀ pdu, call = some (.connectTx, pdu) → pduTalkerId pdu = (peers i).entityId)
    (hsaid : ∀ pdu, call = some (.connectTx, pdu) → Said macs wire (readMessage false pdu)) :
    ∃ asked', Agreed macs asked' (Function.update peers i p) (wire ++ sent)
      (Function.update used i (used i + (p.nextSeq - (peers i).nextSeq).toNat)) := by
  cases hexchange with
  | ends hended =>
    refine ⟨asked, ?_⟩
    simp only [UInt16.sub_self, UInt16.toNat_zero, Nat.add_zero, Function.update_eq_self,
      List.append_nil]
    exact h.ends i hended
  | asks talkerId hresolves hsent =>
    refine ⟨Function.update asked i (asked i ++ [talkerId]), ?_⟩
    have hone : (peers i).nextSeq + 1 - (peers i).nextSeq = 1 := by grind
    simp only [hone, UInt16.toNat_one]
    exact h.asks hmacs i hresolves hsent
  | answers hcall hm =>
    refine ⟨asked, ?_⟩
    simp only [UInt16.sub_self, UInt16.toNat_zero, Nat.add_zero, Function.update_eq_self]
    exact h.answers i (hto _ hcall) (hsaid _ hcall) hm

end Step

-- ---------------------------------------------------------------------------
-- The answer
-- ---------------------------------------------------------------------------

theorem acmpCall_connectTx {fw : Firmware} {step : LoopStep} {pdu : Buffer}
    (h : acmpCall fw step = some (.connectTx, pdu)) : pduTalkerId pdu = fw.avdecc.entityId := by
  cases step with
  | dispatchRx slot len r =>
    unfold acmpCall at h
    dsimp only at h
    split at h
    · obtain ⟨handler, hhandler, heq⟩ := Option.map_eq_some_iff.mp h
      obtain ⟨rfl, rfl⟩ := Prod.mk.inj heq
      unfold acmpHandler at hhandler
      dsimp only at hhandler
      split at hhandler
      · split at hhandler
        · assumption
        · cases hhandler
      · split_ifs at hhandler <;> cases hhandler
    · cases h
  | _ => cases h

theorem answeredResolve_own {s : Avdecc} {pdu : Buffer} {k : ListenerUid}
    (h : answeredResolve s pdu = some k) :
    pduListenerId pdu = s.entityId ∧ (s.resolves k).ourSeqId = pduSeqId pdu := by
  unfold answeredResolve at h
  split at h
  · cases h
  · rename_i hown
    have hfound := List.find?_some h
    exact ⟨not_not.mp hown, eq_of_beq (Bool.and_eq_true_iff.mp hfound).2⟩

theorem streamOf_nonzero (mac : MacAddr) : streamIdIsZero (streamOf mac).streamId = false := by
  refine beq_eq_false_iff_ne.mpr fun h => ?_
  have hlast : (0x01 : UInt8) = 0x00 := congrArg (byteAt · 7) h
  cases hlast

/-- What an answer with success leaves the listener with. -/
theorem connectTxResponse_bound {fw : Firmware} {pdu : Buffer} {k : ListenerUid} {mac : MacAddr}
    (nowMs : UInt32) (hanswered : answeredResolve fw.avdecc pdu = some k)
    (hsuccess : pduStatus pdu = acmpStatusSuccess)
    (htalker : (fw.avdecc.resolves k).talkerId = gptpClockId mac)
    (hstream : streamOf mac = ⟨pduStreamId pdu, pduStreamDestMac pdu⟩) :
    BoundTo (acmpHandleConnectTxResponse fw pdu nowMs) (fw.avdecc.resolves k).listenerUid mac := by
  have hstreamId : (streamOf mac).streamId = pduStreamId pdu := congrArg (·.streamId) hstream
  have hdestMac : (streamOf mac).destMac = pduStreamDestMac pdu := congrArg (·.destMac) hstream
  have hside := acmpHandleConnectTxResponse_listenerSide fw pdu nowMs
  have hconnections := acmpHandleConnectTxResponse_connections fw pdu nowMs
  have hwaiting : fw.connections.resolves k = some (fw.avdecc.resolves k).listenerUid :=
    if_pos (answeredResolve_active hanswered)
  simp only [acmpListenerOps, hanswered, hsuccess, decide_true] at hside
  simp only [acmpOps, hanswered, hsuccess, decide_true] at hconnections
  generalize acmpHandleConnectTxResponse fw pdu nowMs = fw' at hside hconnections ⊢
  generalize hu : (fw.avdecc.resolves k).listenerUid = u at hwaiting ⊢
  have hrecord {α : Type} (read : AvdeccListenerStream → α)
      (hread : ∀ l latency vlan,
        read { l with msrpAccumulatedLatencyNs := latency, streamVlanId := vlan } = read l) :
      read (fw'.avdecc.listeners u) = read (ListenerSide.connected (fw.avdecc.listeners u)
        (fw.avdecc.resolves k).talkerId (fw.avdecc.resolves k).talkerUid (pduStreamId pdu)
        (pduStreamDestMac pdu)) := by
    have hlisteners := congrFun (congrArg ListenerSide.listeners hside) u
    rw [Firmware.listenerSide_listeners] at hlisteners
    rw [hlisteners, ← hu]
    refine (ListenerSide.listen_same _ _ _ _ _ read hread).trans ?_
    refine (congrArg read (Function.update_self ..)).trans ?_
    exact hread ..
  refine ⟨hrecord AvdeccListenerStream.connected fun _ _ _ => rfl, ?_, ?_, ?_, ?_⟩
  · exact (hrecord AvdeccListenerStream.talkerId fun _ _ _ => rfl).trans htalker
  · exact (hrecord AvdeccListenerStream.streamId fun _ _ _ => rfl).trans hstreamId.symm
  · exact (hrecord AvdeccListenerStream.destMac fun _ _ _ => rfl).trans hdestMac.symm
  · have hnonzero : streamIdIsZero (pduStreamId pdu) = false := hstreamId ▸ streamOf_nonzero mac
    have hanswer : fw'.connections = fw.connections.answer k true (pduStreamId pdu)
        (pduStreamDestMac pdu) (fw.avdecc.resolves k).talkerId := hconnections
    rw [hanswer, Connections.answer, hwaiting, hstreamId]
    dsimp only
    rw [if_pos rfl, Connections.connect, Connections.listen, hnonzero, if_neg Bool.false_ne_true]
    exact (congrFun (Connections.bind_engines ..) u).trans (Function.update_self ..)

-- ---------------------------------------------------------------------------
-- Runs
-- ---------------------------------------------------------------------------

def Sound (macs : ι → MacAddr) (net : Network ι) : Prop :=
  ∃ asked, Agreed macs asked (fun i => peer (net.stations i).avdecc) net.wire net.used

theorem sound_init (macs : ι → MacAddr) : Sound macs (network macs).init := by
  refine ⟨fun _ => [], fun _ => rfl, fun i u => ?_, fun _ => rfl, fun _ => rfl, fun _ _ h => ?_,
    fun _ h => ?_, fun _ h => ?_⟩
  · rw [u.eq_aaf]
    rfl
  · cases h
  · cases h
  · cases h

theorem Sound.step {macs : ι → MacAddr} (hmacs : Function.Injective macs) {net : Network ι}
    (h : Sound macs net) {a : ι × LoopStep} (hcarried : Carried macs net a) :
    Sound macs (net.step a) := by
  obtain ⟨asked, h⟩ := h
  obtain ⟨asked', h'⟩ := h.exchange hmacs a.1 (mainLoopStep_exchange (net.stations a.1) a.2)
    (fun _ hcall => acmpCall_connectTx hcall) fun _ hcall => by
      rw [Carried, hcall] at hcarried
      exact hcarried
  refine ⟨asked', ?_⟩
  have hpeers : (fun i => peer ((net.step a).stations i).avdecc) =
      Function.update (fun i => peer (net.stations i).avdecc) a.1
        (peer (mainLoopStep (net.stations a.1) a.2).avdecc) := by
    funext i
    rcases eq_or_ne i a.1 with rfl | hi
    · simp [Network.step]
    · simp [Network.step, hi]
  rw [hpeers]
  exact h'

/-- In a network of endpoints with MAC addresses of their own, in which
CONNECT_TX messages may be lost, repeated, delayed and reordered, a listener
is bound by an answer to the stream of the endpoint it asked. -/
theorem network_binds {macs : ι → MacAddr} (hmacs : Function.Injective macs)
    {run : List (ι × LoopStep)} (hcarried : (network macs).Steps (Carried macs) run)
    (hnumbered : (network macs).Steps Numbered run) :
    (network macs).Steps (BindsAgreed macs) run := by
  refine (hcarried.and hnumbered).of_invariant (Sound macs) (sound_init macs)
    (fun _ _ hsound h => hsound.step hmacs h.1) ?_
  rintro net a ⟨asked, h⟩ ⟨hcarried, hnumbered⟩ pdu k hcall hanswered hsuccess
  obtain ⟨hown, hseq⟩ := answeredResolve_own hanswered
  have hlistener : pduListenerId pdu = gptpClockId (macs a.1) := hown.trans (h.entityId a.1)
  have hlength : (asked a.1).length ≤ 65536 := by
    rw [← h.used a.1]
    refine Nat.le_trans ?_ hnumbered
    simp only [Network.step, Function.update_self]
    exact Nat.le_add_right ..
  rw [Carried, hcall] at hcarried
  have hsaid : readMessage true pdu ∈ net.wire :=
    hcarried.resolve_right fun hforeign => hforeign a.1 hlistener
  obtain ⟨j, hasked, hstream⟩ := h.responses _ hsaid rfl hsuccess a.1 hlistener
  have hresolve : Asked (asked a.1) ((net.stations a.1).avdecc.resolves k).ourSeqId
      ((net.stations a.1).avdecc.resolves k).talkerId :=
    h.resolves a.1 k (answeredResolve_active hanswered)
  rw [hseq] at hresolve
  have htalker : ((net.stations a.1).avdecc.resolves k).talkerId = gptpClockId (macs j) :=
    hresolve.unique hlength hasked
  refine ⟨j, htalker, ?_⟩
  obtain ⟨_, _, r, _, -, hstep⟩ := mainLoopStep_acmp hcall
  have hafter : (net.step a).stations a.1 = mainLoopStep (net.stations a.1) a.2 :=
    Function.update_self ..
  rw [hafter, hstep]
  exact connectTxResponse_bound r.nowMs hanswered hsuccess htalker hstream

-- ---------------------------------------------------------------------------
-- Two endpoints
-- ---------------------------------------------------------------------------

instance CallSaid.decidable [Fintype ι] (macs : ι → MacAddr) (wire : List Message) :
    (call : Option (AcmpHandler × Buffer)) → Decidable (CallSaid macs wire call)
  | some (.connectTx, _) | some (.connectTxResponse, _) => inferInstanceAs (Decidable (_ ∨ _))
  | some (.disconnectTx, _) | some (.getTxState, _) | some (.connectRx, _)
  | some (.disconnectRx, _) | some (.getRxState, _) | none => .isTrue trivial

instance Carried.decidable [Fintype ι] (macs : ι → MacAddr) (net : Network ι)
    (a : ι × LoopStep) : Decidable (Carried macs net a) := CallSaid.decidable ..

instance Numbered.decidable (net : Network ι) (a : ι × LoopStep) : Decidable (Numbered net a) :=
  Nat.decLe ..

/-- A talker, and a listener. -/
def twoBoards : Bool → MacAddr
  | false => boardMac
  | true => sixBytes 0x02 0x00 0x00 0x00 0x00 0x43

/-- An ACMPDU between listener 0 of the one board and the talker of the
other. -/
def betweenBoards (msgType : UInt8) (stream : TalkerIdentity) : Acmpdu where
  msgType := msgType
  streamId := stream.streamId
  controllerId := gptpClockId (twoBoards true)
  talkerId := gptpClockId (twoBoards false)
  listenerId := gptpClockId (twoBoards true)
  talkerUid := 0
  listenerUid := 0
  streamDestMac := stream.destMac
  seqId := 0

/-- A controller connects the listener by the slow path. -/
def asking : List (Bool × LoopStep) :=
  [(true, receiveAcmp (betweenBoards acmpMsgConnectRxCommand ⟨zeroBytes 8, zeroBytes 6⟩))]

/-- The command reaches the talker. -/
def commanding : List (Bool × LoopStep) :=
  asking ++ [(false, receiveAcmp (betweenBoards acmpMsgConnectTxCommand ⟨zeroBytes 8, zeroBytes 6⟩))]

/-- The answer reaches the listener. -/
def handshake : List (Bool × LoopStep) :=
  commanding ++
    [(true, receiveAcmp (betweenBoards acmpMsgConnectTxResponse (streamOf (twoBoards false))))]

/-- A message of that exchange, as it is read. -/
def exchanged (response : Bool) (stream : TalkerIdentity) : Message where
  response := response
  status := acmpStatusSuccess
  listenerId := gptpClockId (twoBoards true)
  talkerId := gptpClockId (twoBoards false)
  talkerUid := 0
  seqId := 0
  streamId := stream.streamId
  destMac := stream.destMac

omit [DecidableEq ι] in
theorem receiveAcmp_carried {macs : ι → MacAddr} {net : Network ι} {i : ι} {a : Acmpdu}
    {m : Message} (hmessage : messageOf (Buffer.ofList a.bytes) = some m) (hsaid : m ∈ net.wire) :
    Carried macs net (i, receiveAcmp a) := by
  obtain ⟨htake, hsubtype, -⟩ := acmpdu_bytes a
  have hslot : (Buffer.ofList (avdeccEthHdr (zeroBytes 6) ++ a.bytes)).Holds 0
      (avdeccEthHdr (zeroBytes 6) ++ (Buffer.ofList a.bytes).take acmpduLen) := by
    rw [← htake]
    exact Buffer.holds_ofList _
  refine carried_sent hsubtype hslot fun m' hm' => ?_
  rwa [Option.some.inj (hm'.symm.trans hmessage)]

theorem command_said : exchanged false ⟨zeroBytes 8, zeroBytes 6⟩ ∈
    ((network twoBoards).run asking).wire := by decide +kernel

theorem answer_said : exchanged true (streamOf (twoBoards false)) ∈
    ((network twoBoards).run commanding).wire := by decide +kernel

theorem handshake_carried : (network twoBoards).Steps (Carried twoBoards) handshake := by
  have hcommand : messageOf (Buffer.ofList
      (betweenBoards acmpMsgConnectTxCommand ⟨zeroBytes 8, zeroBytes 6⟩).bytes) =
        some (exchanged false ⟨zeroBytes 8, zeroBytes 6⟩) := by decide +kernel
  have hanswer : messageOf (Buffer.ofList
      (betweenBoards acmpMsgConnectTxResponse (streamOf (twoBoards false))).bytes) =
        some (exchanged true (streamOf (twoBoards false))) := by decide +kernel
  have hasking : (network twoBoards).Steps (Carried twoBoards) asking := by decide +kernel
  -- applied to what has been said below, or the elaborator evaluates the call
  have hcommanded := @receiveAcmp_carried _ twoBoards ((network twoBoards).run asking) false _ _
    hcommand
  have hanswered := @receiveAcmp_carried _ twoBoards ((network twoBoards).run commanding) true _ _
    hanswer
  have hcommanding : (network twoBoards).Steps (Carried twoBoards) commanding :=
    (Machine.stepsFrom_append ..).mpr ⟨hasking, hcommanded command_said, trivial⟩
  exact (Machine.stepsFrom_append ..).mpr ⟨hcommanding, hanswered answer_said, trivial⟩

theorem handshake_binds : (network twoBoards).Steps (BindsAgreed twoBoards) handshake := by
  have hnumbered : (network twoBoards).Steps Numbered handshake := by decide +kernel
  exact network_binds (by decide) handshake_carried hnumbered

example : (((network twoBoards).run handshake).stations true).connections.engines listenerUidCrf =
    some (streamOf (twoBoards false)).streamId := by decide +kernel

end AvbAes3.ConnectNetwork
