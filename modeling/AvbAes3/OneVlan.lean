import AvbAes3.LearnedDomain
import AvbAes3.Mrpdu
import AvbAes3.Senders

/-!
# One VLAN everywhere

The mapping a bridge declares is used in the MSRP declarations, the tag of
the audio frames, in software and in the packetizer's registers, and in the
answer to GET_AVB_INFO. At the end of a pass of the main loop they all follow
the FirstValue of the Domain vector heard last. The MVRP join does not: it is
for VLAN 2.
-/

namespace AvbAes3.OneVlan

open LearnedDomain

-- ---------------------------------------------------------------------------
-- Passes
-- ---------------------------------------------------------------------------

/-- The place of a step in a pass. The packetizer sends whenever it has a
frame. -/
def place : LoopStep → Option Nat
  | .dispatchRx .. => some 0
  | .gptpPoll _ => some 1
  | .srpPoll _ => some 2
  | .trackLocks => some 3
  | .syncVlan => some 4
  | .avdeccPoll _ => some 5
  | .mcrPumpHw _ => some 6
  | .mcrServoUpdate => some 7
  | .mcrWatchdogTick _ => some 8
  | .crfFlowWatchdog _ => some 9
  | .usbAafDrain _ => some 10
  | .aafTxPoll .. => some 11
  | .packetizerFrame .. => none

/-- One pass of the main loop, in which `dispatch_rx` takes in any number of
frames. -/
structure LoopPass where
  steps : List LoopStep
  frames : Nat
  inOrder : steps.filterMap place = List.replicate frames 0 ++ [1, 2, 3, 4, 5, 6, 7, 8, 9, 10, 11]

-- ---------------------------------------------------------------------------
-- The declarations heard
-- ---------------------------------------------------------------------------

/-- The event of a value, three of them to a byte behind FirstValue. -/
def event (v : MsrpVector) (i : Nat) : UInt8 :=
  let packed := v.value (v.attrLen.toNat + i / 3)
  if i % 3 = 0 then packed / 36 else if i % 3 = 1 then packed / 6 % 6 else packed % 6

def joins (v : MsrpVector) (i : Nat) : Bool :=
  [Mrp.Event.new, .joinIn, .joinMt].any fun e => e.code == event v i

/-- The priorities and VLANs a Domain vector declares for class A. -/
def classADeclared (v : MsrpVector) : List (UInt8 × UInt16) :=
  let declared := ((List.range v.numValues).filter (joins v)).map (nthDomain (domainOf v.value))
  (declared.filter fun d => d.1 == srClassA).map Prod.snd

/-- The Domain vectors in the frame a step takes in. -/
def domainVectors (fw : Firmware) : LoopStep → List MsrpVector
  | .dispatchRx slot len _ =>
    let rx := rxFrame slot len fw.scratch
    if rxHandler rx.frame rx.len = some .msrp ∧ isMsrpPdu rx.frame rx.len then
      (msrpVectors rx.frame rx.len).filter isDomain
    else []
  | _ => []

/-- Class A's priority and VLAN as declared last, and the FirstValue of the
Domain vector heard last. -/
structure Heard where
  classA : Option (UInt8 × UInt16) := none
  first : Option Domain := none

def lastFirst (vectors : List MsrpVector) (before : Option Domain) : Option Domain :=
  ((vectors.map fun v => domainOf v.value).getLast?).or before

def hear (heard : Heard) (fw : Firmware) (step : LoopStep) : Heard where
  classA := ((domainVectors fw step).flatMap classADeclared).getLast?.or heard.classA
  first := lastFirst (domainVectors fw step) heard.first

/-- The main loop beside what it has heard. -/
def listening : Machine (Firmware × Heard) LoopStep := mainLoop.withHistory {} hear

def passes : Machine (Firmware × Heard) LoopPass :=
  ⟨listening.init, fun s pass => listening.runFrom s pass.steps⟩

-- ---------------------------------------------------------------------------
-- The places
-- ---------------------------------------------------------------------------

def isMvrp (bytes : List UInt8) : Bool := getBe16 ((Buffer.ofList bytes).offset 12) == mvrpEthertype

/-- The VLAN a join is for. -/
def joinedVid (bytes : List UInt8) : UInt16 := getBe16 ((Buffer.ofList bytes).offset 19)

/-- A vector that `srp_poll`, called at this time, would send. -/
def Declares (s : Srp) (nowMs : UInt32) (v : MsrpVector) : Prop :=
  ∃ bytes ∈ (srpPoll s nowMs).2, isMsrpPdu (Buffer.ofList bytes) bytes.length ∧
    v ∈ msrpVectors (Buffer.ofList bytes) bytes.length

/-- Every place uses this priority and VLAN. -/
structure Uses (fw : Firmware) (prio : UInt8) (vid : UInt16) : Prop where
  join : ∀ nowMs, ∀ bytes ∈ (srpPoll fw.srp nowMs).2, isMvrp bytes → joinedVid bytes = vid
  domain : ∀ nowMs v, Declares fw.srp nowMs v → isDomain v →
    v.value 1 = prio ∧ getBe16 (v.value.offset 2) = vid
  talker : ∀ nowMs v, Declares fw.srp nowMs v → isTalkerAdvertise v →
    v.value 20 >>> 5 = prio ∧ getBe16 (v.value.offset 14) = vid
  tag : fw.aaf.txPcp = prio ∧ fw.aaf.txVid = vid
  packetizer : fw.aafGwEnabled → fw.aafPkt.vlanTci = vlanTci prio vid
  avbInfo : ∀ c : AecpCommand, c.srp = fw.srp → ∀ reply,
    aemGetAvbInfo fw.avdecc c = some reply →
      reply.1 (14 + 45) = prio ∧ getBe16 (reply.1.offset (14 + 46)) = vid

/-- At the end of a pass every place uses the class A mapping declared last. -/
def UsesDeclared (s : Firmware × Heard) (pass : LoopPass) : Prop :=
  ∀ prio vid, (passes.step s pass).2.classA = some (prio, vid) → prio < 8 → vid < 4096 →
    Uses (passes.step s pass).1 prio vid

/-- The class A mapping declared last is on VLAN 2, and the FirstValue of the
Domain vector heard last has it. -/
def DeclaresVlan2 (s : Firmware × Heard) (pass : LoopPass) : Prop :=
  ∀ prio vid, (passes.step s pass).2.classA = some (prio, vid) → prio < 8 → vid < 4096 →
    (passes.step s pass).2.first.map Prod.snd = some (prio, vid) ∧ vid = 2

-- ---------------------------------------------------------------------------
-- The tag of the audio frames
-- ---------------------------------------------------------------------------

def tag (a : Aaf) : UInt8 × UInt16 := (a.txPcp, a.txVid)

theorem aafTxEnable_tag (a : Aaf) (enable : Bool) (count : UInt32) :
    tag (aafTxEnable a enable count) = tag a := by
  cases enable <;> rfl

theorem aafProcessRx_tag (a : Aaf) (frame : Buffer) (len : Nat) :
    tag (aafProcessRx a frame len) = tag a := by
  obtain ⟨_, _, _, _, _, _, _, _, _, hwrites⟩ := aafProcessRx_writes a frame len
  rw [hwrites]
  rfl

theorem aafTxPush_tag (a : Aaf) (block : SampleBlock) : tag (aafTxPush a block) = tag a := by
  simp only [aafTxPush, tag]

theorem aafTxPoll_tag (a : Aaf) (count : UInt32) (now : PtpTimestamp) :
    tag (aafTxPoll a count now).1 = tag a := by
  obtain ⟨_, _, _, _, _, hwrites⟩ := aafTxPoll_writes a count now
  rw [hwrites]
  rfl

-- ---------------------------------------------------------------------------
-- What the steps do with it
-- ---------------------------------------------------------------------------

/-- The state the VLAN is kept in. -/
structure Vlans where
  learned : Option Domain
  tag : UInt8 × UInt16
  last : UInt8 × UInt16
  gwEnabled : Bool
  tci : UInt16

def vlans (fw : Firmware) : Vlans :=
  ⟨learned fw.srp, tag fw.aaf, (fw.lastPrio, fw.lastVid), fw.aafGwEnabled, fw.aafPkt.vlanTci⟩

/-- The packetizer is switched. -/
def Vlans.gateway (v : Vlans) (on : Bool) : Vlans :=
  { v with gwEnabled := on, tci := if on then vlanTci v.tag.1 v.tag.2 else v.tci }

theorem withAaf_vlans (fw : Firmware) {a : Aaf} (h : tag a = tag fw.aaf) :
    vlans { fw with aaf := a } = vlans fw := by
  rw [vlans, h]
  rfl

theorem withSrp_vlans (fw : Firmware) {s : Srp} (h : learned s = learned fw.srp) :
    vlans { fw with srp := s } = vlans fw := by
  rw [vlans, h]
  rfl

theorem sendAll_vlans (fw : Firmware) (p : Producer) (frames : List (List UInt8)) :
    vlans (fw.sendAll p frames) = vlans fw := sendAll_same _ (fun _ _ _ => rfl) ..

theorem putAvdecc_vlans (fw : Firmware) (r : Avdecc × List (List UInt8)) :
    vlans (fw.putAvdecc r) = vlans fw := sendAll_vlans ..

theorem respond_vlans (fw : Firmware) (msgType status : UInt8) (pdu : Buffer) :
    vlans (fw.respond msgType status pdu) = vlans fw := putAvdecc_vlans ..

theorem listenerEnable_vlans (fw : Firmware) (streamId : StreamId) (enable : Bool)
    (nowMs : UInt32) : vlans (fw.listenerEnable streamId enable nowMs) = vlans fw := by
  refine withSrp_vlans fw ?_
  cases enable <;> rfl

theorem learnStream_vlans (fw : Firmware) (uid : ListenerUid) (streamId : StreamId) :
    vlans (learnStream fw uid streamId) = vlans fw := by
  unfold learnStream
  split <;> rfl

theorem bindEngine_vlans (fw : Firmware) (uid : ListenerUid) (streamId : StreamId)
    (destMac : MacAddr) : vlans (bindEngine fw uid streamId destMac) = vlans fw := by
  unfold bindEngine
  split <;> rfl

theorem onListenerConnect_vlans (fw : Firmware) (uid : ListenerUid) (streamId : StreamId)
    (destMac : MacAddr) (talkerId : EntityId) (nowMs : UInt32) :
    vlans (onListenerConnect fw uid streamId destMac talkerId nowMs) = vlans fw := by
  unfold onListenerConnect
  split
  · rfl
  · dsimp only
    rw [bindEngine_vlans, listenerEnable_vlans, learnStream_vlans]
    rfl

theorem onListenerDisconnect_vlans (fw : Firmware) (uid : ListenerUid) (nowMs : UInt32) :
    vlans (onListenerDisconnect fw uid nowMs) = vlans fw := by
  unfold onListenerDisconnect unbindEngine
  dsimp only
  split
  · split
    · exact listenerEnable_vlans ..
    · rfl
  · split
    · exact listenerEnable_vlans ..
    · rfl

theorem aafGwSet_vlans (fw : Firmware) (on : Bool) :
    vlans (aafGwSet fw on) = (vlans fw).gateway on := by
  cases on <;> rfl

theorem onTalkerConnect_vlans (fw : Firmware) (uid : TalkerUid) (r : Readings) :
    vlans (onTalkerConnect fw uid r) = (vlans fw).gateway true := by
  have haaf := withAaf_vlans fw (aafTxEnable_tag fw.aaf true r.mcrSampleCount)
  rw [onTalkerConnect, if_neg (by rw [uid.eq_aaf]; decide), aafGwSet_vlans]
  exact congrArg (Vlans.gateway · true) haaf

theorem onTalkerDisconnect_vlans (fw : Firmware) (uid : TalkerUid) (r : Readings) :
    vlans (onTalkerDisconnect fw uid r) = (vlans fw).gateway false := by
  have haaf := withAaf_vlans (aafGwSet fw false) (aafTxEnable_tag fw.aaf false r.mcrSampleCount)
  rw [onTalkerDisconnect, if_neg (by rw [uid.eq_aaf]; decide), ← aafGwSet_vlans]
  exact haaf

/-- The packetizer is switched or left. -/
def Switched (v v' : Vlans) : Prop := v' = v ∨ ∃ on, v' = v.gateway on

theorem connectResolved_vlans (fw : Firmware) (r : AvdeccResolve) (pdu : Buffer) (nowMs : UInt32) :
    vlans (connectResolved fw r pdu nowMs) = vlans fw := by
  unfold connectResolved
  dsimp only
  rw [putAvdecc_vlans, onListenerConnect_vlans]
  rfl

theorem acmpHandle_vlans (fw : Firmware) (pdu : Buffer) (r : Readings) (h : AcmpHandler) :
    Switched (vlans fw) (vlans (acmpHandle fw pdu r h)) := by
  cases h with
  | connectTx =>
    rw [acmpHandle, acmpHandleConnectTx]
    split
    · exact .inl (respond_vlans ..)
    · refine .inr ⟨true, ?_⟩
      dsimp only
      rw [respond_vlans, onTalkerConnect_vlans]
      rfl
  | disconnectTx =>
    rw [acmpHandle, acmpHandleDisconnectTx]
    dsimp only
    rw [respond_vlans]
    split
    · exact .inl rfl
    · refine .inr ⟨false, ?_⟩
      rw [onTalkerDisconnect_vlans]
      rfl
  | connectTxResponse =>
    refine .inl ?_
    rw [acmpHandle, acmpHandleConnectTxResponse]
    split
    · rfl
    · dsimp only
      refine (putAvdecc_vlans ..).trans ?_
      split
      · exact connectResolved_vlans ..
      · rfl
  | getTxState => exact .inl (respond_vlans ..)
  | getRxState => exact .inl (respond_vlans ..)
  | connectRx =>
    refine .inl ?_
    rw [acmpHandle, acmpHandleConnectRx]
    split
    · exact respond_vlans ..
    split
    · exact putAvdecc_vlans ..
    split
    · exact respond_vlans ..
    · rw [fastConnect, respond_vlans, putAvdecc_vlans, onListenerConnect_vlans]
      rfl
  | disconnectRx =>
    refine .inl ?_
    rw [acmpHandle, acmpHandleDisconnectRx]
    dsimp only
    rw [respond_vlans]
    split
    · rfl
    · rw [putAvdecc_vlans, onListenerDisconnect_vlans]
      rfl

theorem srpVector_vlans (nowMs : UInt32) (fw : Firmware) (v : MsrpVector) :
    vlans (srpVector nowMs fw v) =
      { vlans fw with
        learned := if isDomain v then some (domainOf v.value) else learned fw.srp } := by
  have hcomplete (fw : Firmware) (i : ListenerUid) (streamId : StreamId) (destMac : MacAddr) :
      vlans (completePending fw i streamId destMac nowMs) = vlans fw := by
    unfold completePending
    dsimp only
    split
    · refine (bindEngine_vlans ..).trans ((listenerEnable_vlans ..).trans ?_)
      exact learnStream_vlans ..
    · rfl
  rw [← noteVector_learned]
  unfold srpVector
  dsimp only
  split
  · rw [talkerAdvertised]
    refine (withSrp_vlans _ (matchListener_learned ..)).trans ?_
    rw [onTalkerAdvertise, hcomplete, hcomplete]
    rfl
  · rfl

/-- The parser learns the last Domain declaration. -/
theorem srpProcessRx_vlans (fw : Firmware) (frame : Buffer) (len : Nat) (nowMs : UInt32) :
    vlans (srpProcessRx fw frame len nowMs) =
      if isMsrpPdu frame len then
        { vlans fw with
          learned := lastFirst ((msrpVectors frame len).filter isDomain) (learned fw.srp) }
      else vlans fw := by
  rw [srpProcessRx]
  split
  · suffices ∀ (vectors : List MsrpVector) (fw' : Firmware),
        vlans (vectors.foldl (srpVector nowMs) fw') =
          { vlans fw' with
            learned := vectors.foldl
              (fun acc v => if isDomain v then some (domainOf v.value) else acc)
              (learned fw'.srp) } by
      rw [this, foldl_last, lastFirst, List.getLast?_map]
      cases ((msrpVectors frame len).filter isDomain).getLast? <;> rfl
    intro vectors
    induction vectors with
    | nil => exact fun _ => rfl
    | cons v rest ih =>
      intro fw'
      rw [List.foldl_cons, ih, srpVector_vlans]
      have hlearned : learned (srpVector nowMs fw' v).srp =
          if isDomain v then some (domainOf v.value) else learned fw'.srp := srpVector_learned ..
      rw [hlearned]
      rfl
  · rfl

theorem putGptp_vlans (fw : Firmware) (r : Gptp × List GptpEffect) :
    vlans (fw.putGptp r) = vlans fw := putGptp_same _ (fun _ _ _ _ _ => rfl) ..

/-- A received frame is heard, or switches the packetizer. -/
theorem dispatchRx_vlans (fw : Firmware) (slot : Buffer) (len : Nat) (r : Readings) :
    Switched
      { vlans fw with
        learned := lastFirst (domainVectors fw (.dispatchRx slot len r)) (learned fw.srp) }
      (vlans (dispatchRx fw slot len r)) := by
  unfold domainVectors dispatchRx
  dsimp only
  generalize rxFrame slot len fw.scratch = rx
  cases hhandler : rxHandler rx.frame rx.len with
  | none => exact .inl rfl
  | some handler =>
    cases handler with
    | gptp => exact .inl (putGptp_vlans ..)
    | crf => exact .inl rfl
    | aaf => exact .inl (withAaf_vlans { fw with scratch := rx.scratch } (aafProcessRx_tag ..))
    | msrp =>
      refine .inl ((srpProcessRx_vlans ..).trans ?_)
      by_cases hpdu : isMsrpPdu rx.frame rx.len
      · rw [if_pos hpdu, if_pos ⟨rfl, hpdu⟩]
        rfl
      · rw [if_neg hpdu, if_neg fun h => hpdu h.2]
        rfl
    | avdecc =>
      have hnone : ¬ (some RxHandler.avdecc = some .msrp ∧ isMsrpPdu rx.frame rx.len) :=
        fun h => absurd h.1 (by decide)
      rw [if_neg hnone]
      dsimp only
      rw [rxHandle]
      have hrx := avdeccRx { fw with scratch := rx.scratch } rx.frame rx.len r
      generalize avdeccProcessRx { fw with scratch := rx.scratch } rx.frame rx.len r = fw' at hrx ⊢
      cases hrx with
      | ignored => exact .inl rfl
      | uncalled => exact .inl rfl
      | acmp _ h => exact acmpHandle_vlans ..
      | aecp =>
        refine .inl ?_
        unfold Firmware.aecp
        dsimp only
        split <;> rfl

theorem trackLocks_vlans (fw : Firmware) : vlans (trackLocks fw) = vlans fw := by
  unfold trackLocks
  dsimp only
  refine (putAvdecc_vlans ..).trans ?_
  split
  · exact putAvdecc_vlans ..
  · rfl

theorem usbAafDrain_vlans (fw : Firmware) (words : List UInt32) :
    vlans (usbAafDrain fw words) = vlans fw := by
  unfold usbAafDrain
  generalize (words.take 1024).takeWhile _ = samples
  induction samples generalizing fw with
  | nil => rfl
  | cons v rest ih =>
    refine (ih _).trans ?_
    unfold usbSample
    dsimp only
    refine (withAaf_vlans fw ?_).trans rfl
    split
    · exact aafTxPush_tag ..
    · rfl

theorem runAafTxPoll_vlans (fw : Firmware) (count : UInt32) (now : PtpTimestamp) :
    vlans (runAafTxPoll fw count now) = vlans fw := by
  have haaf := withAaf_vlans fw (aafTxPoll_tag fw.aaf count now)
  unfold runAafTxPoll
  dsimp only
  split
  · exact haaf
  · exact haaf

theorem sendDeclarations_learned (s : Srp) (leaveAll : Bool) :
    learned (srpSendDeclarations s leaveAll).1 = learned s := by
  unfold srpSendDeclarations sendListener sendTalker
  dsimp only
  split <;> split <;> rfl

theorem srpPoll_learned (s : Srp) (nowMs : UInt32) : learned (srpPoll s nowMs).1 = learned s := by
  unfold srpPoll
  dsimp only
  split
  · exact sendDeclarations_learned (srpAge s nowMs) _
  · rfl

/-- A step is heard or switches the packetizer, unless it is the one that
follows the declaration. -/
theorem step_vlans (fw : Firmware) {step : LoopStep} (h : step ≠ .syncVlan) :
    Switched { vlans fw with learned := lastFirst (domainVectors fw step) (learned fw.srp) }
      (vlans (mainLoopStep fw step)) := by
  cases step with
  | dispatchRx slot len r =>
    exact dispatchRx_vlans { fw with sent := [], tsuWrites := [] } slot len r
  | gptpPoll r => exact .inl (putGptp_vlans ..)
  | srpPoll r =>
    refine .inl ((sendAll_vlans ..).trans ?_)
    exact withSrp_vlans { fw with sent := [], tsuWrites := [] } (srpPoll_learned ..)
  | trackLocks => exact .inl (trackLocks_vlans _)
  | syncVlan => exact absurd rfl h
  | avdeccPoll r => exact .inl (putAvdecc_vlans ..)
  | mcrPumpHw fifo => exact .inl rfl
  | mcrServoUpdate => exact .inl rfl
  | mcrWatchdogTick r => exact .inl rfl
  | crfFlowWatchdog r => exact .inl (putAvdecc_vlans ..)
  | usbAafDrain words =>
    refine .inl ?_
    rw [mainLoopStep, loopStep]
    split
    · rfl
    · exact usbAafDrain_vlans ..
  | aafTxPoll count now =>
    refine .inl ?_
    rw [mainLoopStep, loopStep]
    split
    · rfl
    · exact runAafTxPoll_vlans ..
  | packetizerFrame seq pres payload =>
    refine .inl ?_
    rw [mainLoopStep, loopStep]
    split <;> rfl

-- ---------------------------------------------------------------------------
-- What follows the declaration
-- ---------------------------------------------------------------------------

/-- The tag is the one last taken over, if any has been, and an enabled
packetizer has it in its register. -/
structure Vlans.Following (v : Vlans) : Prop where
  tag : v.last ≠ (0xFF, 0xFFFF) → v.tag = (v.last.1 &&& 0x07, v.last.2 &&& 0x0FFF)
  tci : v.gwEnabled → v.tci = vlanTci v.tag.1 v.tag.2

/-- The declaration heard last has been taken over. -/
def Vlans.InSync (v : Vlans) : Prop := ∀ d, v.learned = some d → v.last = d.2

theorem Vlans.Following.switched {v v' : Vlans} {last : Option Domain} (h : v.Following)
    (hs : Switched { v with learned := last } v') :
    v'.Following ∧ v'.learned = last ∧ v'.last = v.last := by
  rcases hs with rfl | ⟨on, rfl⟩
  · exact ⟨⟨h.tag, h.tci⟩, rfl, rfl⟩
  · refine ⟨⟨h.tag, fun hon => ?_⟩, rfl, rfl⟩
    have hon' : on = true := hon
    subst hon'
    rfl

theorem syncVlan_vlans (fw : Firmware) (h : (vlans fw).Following) :
    (vlans (mainLoopStep fw .syncVlan)).Following ∧
      (vlans (mainLoopStep fw .syncVlan)).learned = learned fw.srp ∧
        (vlans (mainLoopStep fw .syncVlan)).InSync := by
  have hlearned {d : Domain} (hd : learned fw.srp = some d) :
      fw.srp.domainReceived ∧ d.2 = (fw.srp.rxSrPrio, fw.srp.rxSrVid) := by
    rw [learned] at hd
    split at hd
    · rename_i hreceived
      exact ⟨hreceived, (congrArg Prod.snd (Option.some.inj hd)).symm⟩
    · cases hd
  have hstep : mainLoopStep fw .syncVlan = syncVlan { fw with sent := [], tsuWrites := [] } := rfl
  rw [hstep, syncVlan]
  by_cases hchanged : vlanChanged { fw with sent := [], tsuWrites := [] }
  · rw [if_pos hchanged]
    dsimp only
    by_cases hon : fw.aafGwEnabled
    · rw [if_pos hon]
      exact ⟨⟨fun _ => rfl, fun _ => rfl⟩, rfl, fun d hd => (hlearned hd).2.symm⟩
    · rw [if_neg hon]
      exact ⟨⟨fun _ => rfl, fun h' => absurd h' hon⟩, rfl, fun d hd => (hlearned hd).2.symm⟩
  · rw [if_neg hchanged]
    refine ⟨⟨h.tag, h.tci⟩, rfl, fun d hd => ?_⟩
    obtain ⟨hreceived, hd'⟩ := hlearned hd
    have hsame : fw.srp.rxSrPrio = fw.lastPrio ∧ fw.srp.rxSrVid = fw.lastVid := by
      rw [vlanChanged] at hchanged
      simpa [hreceived] using hchanged
    rw [hd', hsame.1, hsame.2]
    rfl

/-- What a pass starts from and ends with. -/
structure Follows (s : Firmware × Heard) : Prop where
  following : (vlans s.1).Following
  heard : learned s.1.srp = s.2.first
  classA : s.2.classA.isSome → s.2.first.isSome

/-- Whoever declares class A is heard. -/
theorem hear_first {heard : Heard} (h : heard.classA.isSome → heard.first.isSome) (fw : Firmware)
    (step : LoopStep) :
    (hear heard fw step).classA.isSome → (hear heard fw step).first.isSome := by
  rw [hear]
  dsimp only
  rw [lastFirst]
  generalize domainVectors fw step = vectors
  cases vectors using List.reverseRecOn with
  | nil => exact h
  | append_singleton vectors v =>
    intro
    rw [List.map_append, List.map_singleton, List.getLast?_concat]
    rfl

theorem Follows.step {s : Firmware × Heard} (h : Follows s) (step : LoopStep) :
    Follows (listening.step s step) := by
  by_cases hsync : step = .syncVlan
  · subst hsync
    obtain ⟨hfollowing, hlearned, -⟩ := syncVlan_vlans s.1 h.following
    exact ⟨hfollowing, hlearned.trans h.heard, hear_first h.classA s.1 _⟩
  · obtain ⟨hfollowing, hlearned, -⟩ := h.following.switched (step_vlans s.1 hsync)
    refine ⟨hfollowing, hlearned.trans ?_, hear_first h.classA s.1 step⟩
    rw [h.heard]
    rfl

theorem Follows.run {s : Firmware × Heard} (h : Follows s) (steps : List LoopStep) :
    Follows (listening.runFrom s steps) := by
  induction steps generalizing s with
  | nil => exact h
  | cons step rest ih => exact ih (h.step step)

/-- Once in sync, steps that take in no frame keep it. -/
theorem Follows.stays {s : Firmware × Heard} (h : Follows s) (hsync : (vlans s.1).InSync)
    {steps : List LoopStep} (hsteps : ∀ step ∈ steps, ∀ i, place step = some i → 5 ≤ i) :
    (vlans (listening.runFrom s steps).1).InSync := by
  induction steps generalizing s with
  | nil => exact hsync
  | cons step rest ih =>
    obtain ⟨hstep, hrest⟩ := List.forall_mem_cons.mp hsteps
    refine ih (h.step step) ?_ hrest
    have hne : step ≠ .syncVlan := by
      rintro rfl
      exact absurd (hstep 4 rfl) (by decide)
    have hheard : lastFirst (domainVectors s.1 step) (learned s.1.srp) = learned s.1.srp := by
      cases step with
      | dispatchRx slot len r => exact absurd (hstep 0 rfl) (by decide)
      | _ => rfl
    obtain ⟨-, hlearned, hlast⟩ := h.following.switched (step_vlans s.1 hne)
    intro d hd
    exact hlast.trans (hsync d ((hheard.symm.trans hlearned.symm).trans hd))

/-- In a pass, the step that follows the declaration comes after the frames
taken in. -/
theorem LoopPass.split (pass : LoopPass) :
    ∃ before after, pass.steps = before ++ .syncVlan :: after ∧
      ∀ step ∈ after, ∀ i, place step = some i → 5 ≤ i := by
  have horder := pass.inOrder
  rw [List.filterMap_eq_append_iff] at horder
  obtain ⟨frames, rest, hsteps, -, hrest⟩ := horder
  have hsplit : rest.filterMap place = [1, 2, 3] ++ 4 :: [5, 6, 7, 8, 9, 10, 11] := hrest
  rw [List.filterMap_eq_append_iff] at hsplit
  obtain ⟨polls, rest', rfl, -, hrest'⟩ := hsplit
  obtain ⟨sent, sync, after, rfl, -, hsync, hafter⟩ := List.filterMap_eq_cons_iff.mp hrest'
  obtain rfl : sync = .syncVlan := by
    cases sync with
    | syncVlan => rfl
    | _ => cases hsync
  refine ⟨frames ++ polls ++ sent, after, by simp [hsteps], fun step hstep i hi => ?_⟩
  have hmem : i ∈ after.filterMap place := List.mem_filterMap.mpr ⟨step, hstep, hi⟩
  rw [hafter] at hmem
  fin_cases hmem <;> decide

theorem Follows.pass {s : Firmware × Heard} (h : Follows s) (pass : LoopPass) :
    Follows (passes.step s pass) ∧ (vlans (passes.step s pass).1).InSync := by
  refine ⟨h.run pass.steps, ?_⟩
  obtain ⟨before, after, hsteps, hafter⟩ := pass.split
  have hbefore := h.run before
  have hsync : (vlans (listening.step (listening.runFrom s before) .syncVlan).1).InSync :=
    (syncVlan_vlans _ hbefore.following).2.2
  show (vlans (listening.runFrom s pass.steps).1).InSync
  rw [hsteps, Machine.runFrom_append]
  exact (hbefore.step .syncVlan).stays hsync hafter

theorem follows_init : Follows passes.init where
  following := ⟨fun h => absurd rfl h, fun h => by cases h⟩
  heard := rfl
  classA := id

-- ---------------------------------------------------------------------------
-- The frames sent
-- ---------------------------------------------------------------------------

theorem mvrp_split (s : Srp) (vid : UInt16) (event : UInt8) :
    ∃ rest, mvrpSendJoinVid s vid event = mvrpMcast.toList ++ (s.srcMac.toList ++
      (be16 mvrpEthertype ++ ([0, 1, 2, 0, 1] ++ (be16 vid ++ rest)))) := by
  have hone : be16 1 = [0, 1] := by decide
  obtain ⟨pad, hpad⟩ : ∃ pad, mvrpSendJoinVid s vid event = mvrpMcast.toList ++ s.srcMac.toList ++
      be16 mvrpEthertype ++ [0] ++ [1, 2] ++ be16 1 ++ be16 vid ++ [mrp3Pack event 0 0] ++ be16 0 ++
        pad := ⟨_, rfl⟩
  refine ⟨[mrp3Pack event 0 0] ++ (be16 0 ++ pad), ?_⟩
  rw [hpad, hone]
  simp only [List.append_assoc, List.cons_append, List.nil_append]

theorem mvrp_bytes (s : Srp) (vid : UInt16) (event : UInt8) :
    isMvrp (mvrpSendJoinVid s vid event) ∧ joinedVid (mvrpSendJoinVid s vid event) = vid := by
  have h := Buffer.holds_ofList (mvrpSendJoinVid s vid event)
  obtain ⟨rest, hsplit⟩ := mvrp_split s vid event
  rw [isMvrp, joinedVid]
  generalize mvrpSendJoinVid s vid event = bytes at h hsplit ⊢
  rw [hsplit, Buffer.holds_append, Buffer.holds_append, Buffer.holds_append, Buffer.holds_append,
    Buffer.holds_append, Vector.length_toList, Vector.length_toList, ← hsplit] at h
  obtain ⟨-, -, hethertype, -, hvid, -⟩ := h
  exact ⟨beq_iff_eq.mpr (getBe16_holds hethertype), getBe16_holds hvid⟩

theorem declarations_not_mvrp (s : Srp) (leaveAll : Bool) :
    isMvrp (srpSendDeclarations s leaveAll).2 = false := by
  have hmsrp := sendDeclarations_isMsrp s leaveAll
  rw [isMsrpPdu, Bool.and_eq_true, Bool.and_eq_true] at hmsrp
  rw [isMvrp, eq_of_beq hmsrp.1.2]
  decide

/-- The join is for the constant VLAN. -/
theorem poll_join {s : Srp} {nowMs : UInt32} {bytes : List UInt8}
    (h : bytes ∈ (srpPoll s nowMs).2) (hmvrp : isMvrp bytes) : joinedVid bytes = srClassAVid := by
  unfold srpPoll at h
  dsimp only at h
  split at h
  · rcases List.mem_cons.mp h with rfl | h
    · rw [declarations_not_mvrp] at hmvrp
      cases hmvrp
    · rw [List.mem_singleton.mp h]
      exact (mvrp_bytes ..).2
  · cases h

theorem joinDue_period (s : Srp) : joinDue s (s.lastJoinMs + mrpJoinPeriodMs) := by
  have helapsed : s.lastJoinMs + mrpJoinPeriodMs - s.lastJoinMs = mrpJoinPeriodMs := by
    rw [UInt32.add_comm, UInt32.add_sub_cancel]
  rw [joinDue, elapsedMs, helapsed]
  decide

/-- There is a time at which the poll sends a join. -/
theorem poll_joins (s : Srp) :
    ∃ bytes ∈ (srpPoll s (s.lastJoinMs + mrpJoinPeriodMs)).2, isMvrp bytes := by
  rw [srpPoll]
  dsimp only
  rw [if_pos (joinDue_period s)]
  exact ⟨_, List.mem_cons_of_mem _ List.mem_cons_self, (mvrp_bytes ..).1⟩

/-- And a Domain vector. -/
theorem poll_declares (s : Srp) :
    ∃ v, Declares s (s.lastJoinMs + mrpJoinPeriodMs) v ∧ isDomain v := by
  have hbytes {bytes : List UInt8}
      (h : bytes = (srpSendDeclarations (srpAge s (s.lastJoinMs + mrpJoinPeriodMs))
        (leaveAllDue s (s.lastJoinMs + mrpJoinPeriodMs))).2) :
      bytes ∈ (srpPoll s (s.lastJoinMs + mrpJoinPeriodMs)).2 := by
    rw [srpPoll]
    dsimp only
    rw [if_pos (joinDue_period s), h]
    exact List.mem_cons_self
  have hmem : (srpAge s (s.lastJoinMs + mrpJoinPeriodMs)).domainAttribute ∈
      (srpAge s (s.lastJoinMs + mrpJoinPeriodMs)).attributes := by
    rw [Srp.attributes, List.append_assoc]
    exact List.mem_cons_self
  obtain ⟨v, hv, hread⟩ := forall₂_exists (msrpVectors_declared _ _) hmem
  refine ⟨v, ⟨_, hbytes rfl, sendDeclarations_isMsrp .., hv⟩, ?_⟩
  rw [isDomain, hread.attrType, hread.attrLen]
  rfl

/-- A vector the poll declares is one of the attributes declared. -/
theorem declares_attribute {s : Srp} {nowMs : UInt32} {v : MsrpVector} (h : Declares s nowMs v) :
    ∃ leaveAll, ∃ a ∈ (srpAge s nowMs).attributes, a.Read leaveAll v := by
  obtain ⟨bytes, hbytes, hmsrp, hv⟩ := h
  unfold srpPoll at hbytes
  dsimp only at hbytes
  split at hbytes
  · rcases List.mem_cons.mp hbytes with rfl | hbytes
    · exact ⟨_, forall₂_exists (msrpVectors_declared (srpAge s nowMs) _).flip hv⟩
    · rw [List.mem_singleton.mp hbytes, mvrp_not_msrp] at hmsrp
      cases hmsrp
  · cases hbytes

theorem priorityAndRankOf_prio {prio : UInt8} (h : prio < 8) :
    priorityAndRankOf prio >>> 5 = prio := by
  have hnat : prio.toNat < 8 := UInt8.lt_iff_toNat_lt.mp h
  rw [← UInt8.ofNat_toNat (x := prio)]
  interval_cases prio.toNat <;> decide

section Uses

variable {fw : Firmware} {srClass : UInt8} {prio : UInt8} {vid : UInt16}

theorem domain_of_learned (h : learned fw.srp = some (srClass, prio, vid)) :
    fw.srp.domain = (srClass, prio, vid) := by
  rw [domain_eq_learned, h]
  rfl

theorem attributes_cases {s : Srp} {a : MsrpAttribute} (h : a ∈ s.attributes) :
    a = s.domainAttribute ∨ a = s.talkerAttribute ∨ a = s.listenerAttribute := by
  rw [Srp.attributes, List.append_assoc, List.mem_append, List.mem_append,
    List.mem_singleton] at h
  rcases h with h | h | h
  · exact .inl h
  · split at h
    · exact .inr (.inl (List.mem_singleton.mp h))
    · cases h
  · split at h
    · exact .inr (.inr (List.mem_singleton.mp h))
    · cases h

theorem declares_domain (h : learned fw.srp = some (srClass, prio, vid)) {nowMs : UInt32}
    {v : MsrpVector} (hv : Declares fw.srp nowMs v) (hdomain : isDomain v) :
    v.value 1 = prio ∧ getBe16 (v.value.offset 2) = vid := by
  obtain ⟨leaveAll, a, ha, hread⟩ := declares_attribute hv
  have htype : a.attrType = msrpAttrDomain :=
    hread.attrType.symm.trans (eq_of_beq (Bool.and_eq_true_iff.mp hdomain).1)
  have hdom : (srpAge fw.srp nowMs).domain = (srClass, prio, vid) := domain_of_learned h
  have hvalue := (Buffer.holds_append.mp hread.value).1
  rcases attributes_cases ha with rfl | rfl | rfl
  · rw [Srp.domainAttribute, hdom] at hvalue
    rw [Buffer.holds_append] at hvalue
    exact ⟨hvalue.1 1 Nat.one_lt_two, getBe16_holds hvalue.2⟩
  · exact absurd htype (show msrpAttrTalkerAdv ≠ msrpAttrDomain by decide)
  · exact absurd htype (show msrpAttrListener ≠ msrpAttrDomain by decide)

theorem declares_talker (h : learned fw.srp = some (srClass, prio, vid)) (hprio : prio < 8)
    {nowMs : UInt32} {v : MsrpVector} (hv : Declares fw.srp nowMs v)
    (htalker : isTalkerAdvertise v) :
    v.value 20 >>> 5 = prio ∧ getBe16 (v.value.offset 14) = vid := by
  obtain ⟨leaveAll, a, ha, hread⟩ := declares_attribute hv
  have htype : a.attrType = msrpAttrTalkerAdv :=
    hread.attrType.symm.trans (eq_of_beq (Bool.and_eq_true_iff.mp htalker).1)
  have hdom : (srpAge fw.srp nowMs).domain = (srClass, prio, vid) := domain_of_learned h
  have hvalue := (Buffer.holds_append.mp hread.value).1
  rcases attributes_cases ha with rfl | rfl | rfl
  · exact absurd htype (show msrpAttrDomain ≠ msrpAttrTalkerAdv by decide)
  · rw [Srp.talkerAttribute, talkerFirstValue, hdom] at hvalue
    simp only [Buffer.holds_append, List.length_append, Vector.length_toList, be16,
      List.length_cons, List.length_nil] at hvalue
    obtain ⟨⟨⟨⟨⟨-, hvid⟩, -⟩, -⟩, hrank⟩, -⟩ := hvalue
    have hrank' : v.value 20 = priorityAndRankOf prio := hrank 0 Nat.one_pos
    rw [hrank', priorityAndRankOf_prio hprio]
    exact ⟨rfl, getBe16_holds hvid⟩
  · exact absurd htype (show msrpAttrListener ≠ msrpAttrTalkerAdv by decide)

theorem avbInfo_mapping (h : learned fw.srp = some (srClass, prio, vid)) {c : AecpCommand}
    (hc : c.srp = fw.srp) {reply : Buffer × Nat}
    (hreply : aemGetAvbInfo fw.avdecc c = some reply) :
    reply.1 (14 + 45) = prio ∧ getBe16 (reply.1.offset (14 + 46)) = vid := by
  rw [aemGetAvbInfo, hc, domain_of_learned h] at hreply
  split at hreply
  · cases hreply
  · dsimp only at hreply
    rw [aecpRespond] at hreply
    obtain rfl := Option.some.inj hreply
    dsimp only [List.foldl_cons, List.foldl_nil, aecpSetStatusCdl]
    generalize putPdu _ 44 [srClass] = b
    constructor
    · rw [putPdu, Buffer.copy_outside (.inr (by simp [be16])), putPdu,
        Buffer.copy_outside (.inl (by decide))]
      simp [putPdu, Buffer.copy]
    · refine getBe16_eq ?_ ?_
      · rw [putPdu, Buffer.offset_apply, Buffer.copy_outside (.inr (by simp [be16]))]
        simp [putPdu, Buffer.copy, be16]
      · rw [putPdu, Buffer.offset_apply, Buffer.copy_outside (.inr (by simp [be16]))]
        simp [putPdu, Buffer.copy, be16]

/-- With the declaration taken over, all the places follow it but the join. -/
theorem uses_iff (hfollows : (vlans fw).Following) (hsync : (vlans fw).InSync)
    (h : learned fw.srp = some (srClass, prio, vid)) (hprio : prio < 8) (hvid : vid < 4096) :
    Uses fw prio vid ↔ vid = srClassAVid := by
  constructor
  · intro huses
    obtain ⟨bytes, hbytes, hmvrp⟩ := poll_joins fw.srp
    exact (huses.join _ bytes hbytes hmvrp).symm.trans (poll_join hbytes hmvrp)
  · intro hvid2
    have hlast : (vlans fw).last = (prio, vid) := hsync _ h
    have hprio' : prio.toNat < 2 ^ 3 := UInt8.lt_iff_toNat_lt.mp hprio
    have hvid' : vid.toNat < 2 ^ 12 := UInt16.lt_iff_toNat_lt.mp hvid
    have hmask : prio &&& 0x07 = prio ∧ vid &&& 0x0FFF = vid := by
      constructor
      · rw [← UInt8.toNat_inj, UInt8.toNat_and, show (0x07 : UInt8).toNat = 2 ^ 3 - 1 from rfl,
          Nat.and_two_pow_sub_one_eq_mod, Nat.mod_eq_of_lt hprio']
      · rw [← UInt16.toNat_inj, UInt16.toNat_and,
          show (0x0FFF : UInt16).toNat = 2 ^ 12 - 1 from rfl,
          Nat.and_two_pow_sub_one_eq_mod, Nat.mod_eq_of_lt hvid']
    have htag : (vlans fw).tag = (prio, vid) := by
      have htag := hfollows.tag
      rw [hlast] at htag
      dsimp only at htag
      rw [hmask.1, hmask.2] at htag
      refine htag fun hreset => ?_
      rw [(Prod.mk.inj hreset).1] at hprio
      exact absurd hprio (by decide)
    exact {
      join := fun nowMs bytes hbytes hmvrp => (poll_join hbytes hmvrp).trans hvid2.symm
      domain := fun nowMs v => declares_domain h
      talker := fun nowMs v => declares_talker h hprio
      tag := Prod.mk.inj htag
      packetizer := fun hon => by
        have htci := hfollows.tci hon
        rw [htag] at htci
        exact htci
      avbInfo := fun c hc reply => avbInfo_mapping h hc }

/-- The places tell which mapping is used. -/
theorem uses_learned (h : learned fw.srp = some (srClass, prio, vid)) {prio' : UInt8}
    {vid' : UInt16} (huses : Uses fw prio' vid') : (prio, vid) = (prio', vid') := by
  obtain ⟨v, hv, hdomain⟩ := poll_declares fw.srp
  have hlearned := declares_domain h hv hdomain
  have hused := huses.domain _ v hv hdomain
  rw [← hlearned.1, ← hlearned.2, hused.1, hused.2]

end Uses

theorem usesDeclared_iff (s : Firmware × Heard) (pass : LoopPass) (h : Follows s) :
    UsesDeclared s pass ↔ DeclaresVlan2 s pass := by
  obtain ⟨hfollows, hsync⟩ := h.pass pass
  refine forall₅_congr fun prio vid hclassA hprio hvid => ?_
  obtain ⟨⟨srClass, prio', vid'⟩, hfirst⟩ := Option.isSome_iff_exists.mp
    (hfollows.classA (Option.isSome_of_eq_some hclassA))
  have hlearned := hfollows.heard.trans hfirst
  rw [hfirst]
  constructor
  · intro huses
    obtain ⟨rfl, rfl⟩ := Prod.mk.inj (uses_learned hlearned huses)
    exact ⟨rfl, (uses_iff hfollows.following hsync hlearned hprio hvid).mp huses⟩
  · rintro ⟨hsame, hvlan⟩
    obtain ⟨rfl, rfl⟩ := Prod.mk.inj (Option.some.inj hsame)
    exact (uses_iff hfollows.following hsync hlearned hprio hvid).mpr hvlan

/-- In every run of passes, all the places use the class A mapping declared
last at the end of each pass, if and only if it is on VLAN 2. -/
theorem oneVlan_iff (run : List LoopPass) :
    passes.Steps UsesDeclared run ↔ passes.Steps DeclaresVlan2 run :=
  Machine.steps_congr Follows follows_init (fun _ pass h _ => (h.pass pass).1) usesDeclared_iff run

-- ---------------------------------------------------------------------------
-- Class A on another VLAN
-- ---------------------------------------------------------------------------

/-- A pass that takes in one frame. -/
def passOf (frame : List UInt8) : LoopPass where
  steps :=
    [.dispatchRx (Buffer.ofList frame) frame.length {}, .gptpPoll {}, .srpPoll {}, .trackLocks,
      .syncVlan, .avdeccPoll {}, .mcrPumpHw [], .mcrServoUpdate, .mcrWatchdogTick {},
      .crfFlowWatchdog {}, .usbAafDrain [], .aafTxPoll 0 {}]
  frames := 1
  inOrder := rfl

/-- The bridge's declaration of class A on VLAN 5. -/
def classAVlan5 : List UInt8 :=
  msrpFrameBegin (zeroBytes 6) ++
    msrpEmitDomain srClassA srClassAPrio 5 false mrpEvtJoinIn ++ be16 0

theorem vlan5_not_joined : ¬ passes.Steps UsesDeclared [passOf classAVlan5] := by
  rw [oneVlan_iff]
  rintro ⟨hvlan, -⟩
  have hclassA : (passes.step passes.init (passOf classAVlan5)).2.classA = some (3, 5) := by
    decide +kernel
  exact absurd (hvlan 3 5 hclassA (by decide) (by decide)).2 (by decide)

end AvbAes3.OneVlan
