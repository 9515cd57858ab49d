import AvbAes3.AecpFrames
import AvbAes3.ListenerSide

/-!
# What is pushed and what is polled

The payload of an unsolicited GET_COUNTERS or GET_STREAM_INFO response next
to that of the response a controller gets when it asks. Counters are always
the same. Of a listener that is not connected the poll reports the VLAN and
the latency learned for its last stream and the push the defaults, so they
agree exactly in the runs in which no listener is disconnected that has
learned other values.
-/

namespace AvbAes3.PushPoll

/-- An AEM command for us, long enough to name the descriptor. -/
structure Asks (s : Avdecc) (c : AecpCommand) (cmd dt di : UInt16) : Prop where
  message : c.pdu 1 &&& 0x0F = aecpMsgAemCommand
  target : targetsUs s c
  command : c.field aecpOffCmdType &&& 0x7FFF = cmd
  length : 28 ≤ c.pduLen
  descType : c.field 24 = dt
  descIndex : c.field 26 = di

/-- Whichever controllers are registered, each is pushed the payload that a
command for the descriptor is answered with. -/
def PushedAsPolled (s : Avdecc) (cmd dt di : UInt16)
    (push : Avdecc → Avdecc × List (List UInt8)) : Prop :=
  ∀ (ctrls : Fin avdeccMaxUnsolCtrl → UnsolCtrl) (c : AecpCommand), Asks s c cmd dt di →
    ∃ len, (aecpHandle s c).sent = some len ∧
      ∀ frame ∈ (push { s with unsolCtrl := ctrls }).2,
        aemPayload frame = aemPayload ((aecpHandle s c).slot.take len)

/-- Of every descriptor there is a push for. -/
structure Agrees (s : Avdecc) : Prop where
  streamCounters : ∀ u : ListenerUid, PushedAsPolled s aemCmdGetCounters aemDescStreamInput
    u.toUInt16 (pushUnsolStreamCounters · u)
  clockCounters : PushedAsPolled s aemCmdGetCounters aemDescClockDomain 0 pushUnsolClockCounters
  streamInput : ∀ u : ListenerUid, PushedAsPolled s aemCmdGetStreamInfo aemDescStreamInput
    u.toUInt16 (pushUnsolStreamInfo · aemDescStreamInput u.toUInt16)
  streamOutput : PushedAsPolled s aemCmdGetStreamInfo aemDescStreamOutput 0
    (pushUnsolStreamInfo · aemDescStreamOutput 0)

/-- VLAN and latency are not learned, or learned to be the defaults. -/
def HoldsDefaults (l : AvdeccListenerStream) : Prop :=
  (l.streamVlanId = 0 ∨ l.streamVlanId = 2) ∧
    (l.msrpAccumulatedLatencyNs = 0 ∨ l.msrpAccumulatedLatencyNs = 2000000)

instance (l : AvdeccListenerStream) : Decidable (HoldsDefaults l) := by
  unfold HoldsDefaults; infer_instance

/-- A listener that a step disconnects holds the defaults. -/
def DisconnectsDefaults (fw : Firmware) (step : LoopStep) : Prop :=
  ∀ u, ListenerOp.disconnect u ∈ listenerOps fw step → HoldsDefaults (fw.avdecc.listeners u)

-- ---------------------------------------------------------------------------
-- The pushes
-- ---------------------------------------------------------------------------

theorem aemPayload_unsolFrame (s : Avdecc) (c : UnsolCtrl) (cmd cdl : UInt16)
    (body : List UInt8) : aemPayload (unsolFrame s c cmd cdl body) = be16 cdl ++ body := by
  rw [aemPayload, unsolFrame, toList_six c.mac, toList_six s.srcMac, toList_eight s.entityId,
    toList_eight c.controllerEid]
  rfl

theorem pushTo_frames (cmd cdl : UInt16) (body : List UInt8) (s : Avdecc)
    (i : Fin avdeccMaxUnsolCtrl) {frame : List UInt8}
    (h : frame ∈ (pushTo cmd cdl body s i).2) : aemPayload frame = be16 cdl ++ body := by
  unfold pushTo at h
  dsimp only at h
  split at h
  · rw [List.mem_singleton.mp h]
    exact aemPayload_unsolFrame ..
  · cases h

theorem pushUnsol_frames (cmd cdl : UInt16) (body : List UInt8)
    (indices : List (Fin avdeccMaxUnsolCtrl)) (s : Avdecc) {frame : List UInt8}
    (h : frame ∈ (pushUnsol cmd cdl body indices s).2) : aemPayload frame = be16 cdl ++ body := by
  induction indices generalizing s with
  | nil => cases h
  | cons i rest ih =>
    rw [pushUnsol] at h
    rcases List.mem_append.mp h with hfirst | hrest
    · exact pushTo_frames cmd cdl body s i hfirst
    · exact ih _ hrest

/-- A registered controller is pushed to. -/
theorem pushUnsol_active (cmd cdl : UInt16) (body : List UInt8) {s : Avdecc}
    {indices : List (Fin avdeccMaxUnsolCtrl)} (hne : indices ≠ [])
    (h : ∀ i, (s.unsolCtrl i).active) : ∃ frame, frame ∈ (pushUnsol cmd cdl body indices s).2 := by
  cases indices with
  | nil => exact absurd rfl hne
  | cons i rest =>
    refine ⟨unsolFrame s (s.unsolCtrl i) cmd cdl body, ?_⟩
    rw [pushUnsol, pushTo, if_pos (h i)]
    exact List.mem_append_left _ (List.mem_singleton.mpr rfl)

/-- The push and the answer agree where their payloads do. -/
theorem pushedAsPolled_iff {s : Avdecc} {cmd dt di cdl : UInt16} {body answer : List UInt8}
    {push : Avdecc → Avdecc × List (List UInt8)} {len : Nat}
    (hpush : ∀ ctrls, push { s with unsolCtrl := ctrls } =
      pushUnsol cmd cdl body (List.finRange avdeccMaxUnsolCtrl) { s with unsolCtrl := ctrls })
    (hanswer : ∀ c, Asks s c cmd dt di → (aecpHandle s c).sent = some len ∧
      aemPayload ((aecpHandle s c).slot.take len) = be16 cdl ++ answer)
    (hasked : ∃ c, Asks s c cmd dt di) :
    PushedAsPolled s cmd dt di push ↔ body = answer := by
  constructor
  · intro h
    obtain ⟨c, hc⟩ := hasked
    obtain ⟨len', hsent, hframes⟩ := h (fun _ => { active := true }) c hc
    obtain ⟨hlen, hpayload⟩ := hanswer c hc
    obtain rfl : len' = len := Option.some.inj (hsent.symm.trans hlen)
    have hne : List.finRange avdeccMaxUnsolCtrl ≠ [] := by decide
    obtain ⟨frame, hframe⟩ := pushUnsol_active cmd cdl body
      (s := { s with unsolCtrl := fun _ => { active := true } }) hne fun _ => rfl
    have hsame := hframes frame (by rw [hpush]; exact hframe)
    rw [pushUnsol_frames _ _ _ _ _ hframe, hpayload] at hsame
    exact List.append_cancel_left hsame
  · rintro rfl ctrls c hc
    obtain ⟨hlen, hpayload⟩ := hanswer c hc
    refine ⟨len, hlen, fun frame hframe => ?_⟩
    rw [hpush] at hframe
    rw [pushUnsol_frames _ _ _ _ _ hframe, hpayload]

-- ---------------------------------------------------------------------------
-- The answers
-- ---------------------------------------------------------------------------

/-- A command for the descriptor. -/
def askFor (s : Avdecc) (cmd dt di : UInt16) : AecpCommand where
  frame := Buffer.ofList (zeros 14 ++ ([avtpSubtypeAecp, aecpMsgAemCommand, 0, 0] ++
    (s.entityId.toList ++ (zeros 10 ++ (be16 cmd ++ (be16 dt ++ be16 di))))))
  pduLen := 28
  slot _ := 0
  gptp := (gptpInit boardMac).1
  srp := srpInit boardMac

theorem asks_askFor (s : Avdecc) {cmd : UInt16} (dt di : UInt16) (h : cmd &&& 0x7FFF = cmd) :
    Asks s (askFor s cmd dt di) cmd dt di := by
  have hholds := Buffer.holds_ofList (zeros 14 ++ ([avtpSubtypeAecp, aecpMsgAemCommand, 0, 0] ++
    (s.entityId.toList ++ (zeros 10 ++ (be16 cmd ++ (be16 dt ++ be16 di))))))
  iterate 6 rw [Buffer.holds_append] at hholds
  obtain ⟨-, hhead, htarget, -, hcmd, hdt, hdi⟩ := hholds
  simp only [zeros_length, Vector.length_toList, be16_length, List.length_cons,
    List.length_nil] at hhead htarget hcmd hdt hdi
  constructor
  · exact congrArg (· &&& 0x0F) (hhead 1 (by decide))
  · refine beq_iff_eq.mpr (Buffer.Holds.bytes ?_)
    exact Buffer.holds_offset.mpr (Buffer.holds_offset.mpr htarget)
  · exact (congrArg (· &&& 0x7FFF) (Buffer.holds_offset.mpr hcmd).getBe16).trans h
  · exact Nat.le_refl _
  · exact (Buffer.holds_offset.mpr hdt).getBe16
  · exact (Buffer.holds_offset.mpr hdi).getBe16

-- ---------------------------------------------------------------------------
-- Counters
-- ---------------------------------------------------------------------------

/-- What is counted is pushed and reported alike. -/
theorem counters_pushedAsPolled {s : Avdecc} {dt di : UInt16} {valid : UInt32}
    {counters : Avdecc → Nat → UInt32}
    (hsame : ∀ ctrls, counters { s with unsolCtrl := ctrls } = counters s)
    (hcounters : descriptorCounters { s with aecpRxCount := s.aecpRxCount + 1 } dt di =
      (valid, counters s)) :
    PushedAsPolled s aemCmdGetCounters dt di
      (fun s => pushUnsolCounters s dt di valid (counters s)) := by
  have hpush (ctrls : Fin avdeccMaxUnsolCtrl → UnsolCtrl) :
      pushUnsolCounters { s with unsolCtrl := ctrls } dt di valid
          (counters { s with unsolCtrl := ctrls }) =
        pushUnsol aemCmdGetCounters 148 (countersPayload dt di valid (counters s))
          (List.finRange avdeccMaxUnsolCtrl) { s with unsolCtrl := ctrls } := by
    rw [hsame, pushUnsolCounters]
  have hanswer (c : AecpCommand) (hc : Asks s c aemCmdGetCounters dt di) :
      (aecpHandle s c).sent = some 174 ∧ aemPayload ((aecpHandle s c).slot.take 174) =
        be16 148 ++ countersPayload dt di valid (counters s) := by
    let fields : List (Nat × List UInt8) :=
      [(24, be16 dt), (26, be16 di), (28, be32 valid),
        (32, (List.range 32).flatMap fun j => be32 (counters s j))]
    have hfields : fields.flatMap Prod.snd = countersPayload dt di valid (counters s) := by
      simp [fields, countersPayload]
    obtain ⟨reply, hreply⟩ : ∃ b, aecpRespond { s with aecpRxCount := s.aecpRxCount + 1 } c
        fields aecpStatusSuccess 148 174 = some (b, 174) := ⟨_, rfl⟩
    have hcommand : (aemCommand { s with aecpRxCount := s.aecpRxCount + 1 } c
        aemCmdGetCounters).2 = some (reply, 174) := by
      show aemGetCounters _ c = _
      rw [aemGetCounters, if_neg (Nat.not_lt.mpr hc.length), hc.descType, hc.descIndex, hcounters]
      exact hreply
    obtain ⟨hsent, hslot⟩ := aecpHandle_reply hc.message hc.target hc.command hcommand
    have hcontiguous : Contiguous 24 fields := by simp [fields, Contiguous]
    have hpayload := aemPayload_respond _ c hcontiguous (by simp [fields]) hreply
    rw [hfields] at hpayload
    exact ⟨hsent, hslot ▸ hpayload⟩
  exact (pushedAsPolled_iff hpush hanswer ⟨_, asks_askFor s dt di rfl⟩).mpr rfl

-- ---------------------------------------------------------------------------
-- Stream information
-- ---------------------------------------------------------------------------

def infoPayload (dt di : UInt16) (info : StreamInfo) : List UInt8 :=
  be16 dt ++ (be16 di ++ (be32 info.flags ++ (info.format.toList ++ (info.streamId.toList ++
    (be32 info.msrpLatency ++ (info.destMac.toList ++ (zeros 10 ++ (be16 info.vlanId ++
      (zeros 6 ++ ([(info.probing &&& 0x07) <<< 5] ++ zeros 3))))))))))

theorem buildStreamInfoPayload_eq (s : Avdecc) (dt di : UInt16) :
    buildStreamInfoPayload s dt di = infoPayload dt di (streamInfo s dt di) := by
  simp only [buildStreamInfoPayload, infoPayload, List.append_assoc]

theorem infoPayload_length (dt di : UInt16) (info : StreamInfo) :
    (infoPayload dt di info).length = 56 := by
  simp only [infoPayload, List.length_append, Vector.length_toList]
  rfl

/-- The descriptor's answer. -/
theorem streamInfo_answer {s : Avdecc} {c : AecpCommand} {dt di : UInt16} {info : StreamInfo}
    (hc : Asks s c aemCmdGetStreamInfo dt di)
    (hinfo : solicitedStreamInfo { s with aecpRxCount := s.aecpRxCount + 1 } dt di = some info) :
    (aecpHandle s c).sent = some 94 ∧ aemPayload ((aecpHandle s c).slot.take 94) =
      be16 68 ++ infoPayload dt di info := by
  let fields : List (Nat × List UInt8) :=
    [(24, be16 dt), (26, be16 di), (28, be32 info.flags),
      (32, info.format.toList), (40, info.streamId.toList), (48, be32 info.msrpLatency),
      (52, info.destMac.toList), (58, [0]), (59, [0]), (60, zeros 8),
      (68, be16 info.vlanId), (70, be16 0), (72, be32 0),
      (76, [((info.probing &&& 0x07) <<< 5) ||| (0 &&& 0x1F)]), (77, [0]), (78, be16 0)]
  have hprobing : (info.probing &&& 0x07) <<< 5 ||| (0 : UInt8) &&& (0x1F : UInt8) =
      (info.probing &&& 0x07) <<< 5 := UInt8.or_zero
  have hfields : fields.flatMap Prod.snd = infoPayload dt di info := by
    simp only [fields, hprobing]
    rfl
  obtain ⟨reply, hreply⟩ : ∃ b, aecpRespond { s with aecpRxCount := s.aecpRxCount + 1 } c
      fields aecpStatusSuccess 68 94 = some (b, 94) := ⟨_, rfl⟩
  have hcommand : (aemCommand { s with aecpRxCount := s.aecpRxCount + 1 } c
      aemCmdGetStreamInfo).2 = some (reply, 94) := by
    show aemGetStreamInfo _ c = _
    rw [aemGetStreamInfo, if_neg (Nat.not_lt.mpr hc.length), hc.descType, hc.descIndex, hinfo]
    exact hreply
  obtain ⟨hsent, hslot⟩ := aecpHandle_reply hc.message hc.target hc.command hcommand
  have hcontiguous : Contiguous 24 fields := by
    simp [fields, Contiguous]
  have hpayload := aemPayload_respond _ c hcontiguous
    (by rw [hfields, infoPayload_length]) hreply
  rw [hfields] at hpayload
  exact ⟨hsent, hslot ▸ hpayload⟩

theorem be16_inj {v w : UInt16} (h : be16 v = be16 w) : v = w := by
  have hv := v.toNat_lt
  have hw := w.toNat_lt
  simp only [be16, List.cons.injEq, and_true, ← UInt8.toNat_inj, UInt16.toNat_toUInt8,
    UInt16.toNat_shiftRight, UInt16.reduceToNat, Nat.reduceMod, Nat.shiftRight_eq_div_pow] at h
  exact UInt16.toNat_inj.mp (by omega)

theorem be32_inj {v w : UInt32} (h : be32 v = be32 w) : v = w := by
  have hv := v.toNat_lt
  have hw := w.toNat_lt
  simp only [be32, List.cons.injEq, and_true, ← UInt8.toNat_inj, UInt32.toNat_toUInt8,
    UInt32.toNat_shiftRight, UInt32.reduceToNat, Nat.reduceMod, Nat.shiftRight_eq_div_pow] at h
  exact UInt32.toNat_inj.mp (by omega)

/-- Payloads that agree in the rest tell latency and VLAN apart. -/
theorem infoPayload_inj {dt di : UInt16} {info : StreamInfo} {latency : UInt32} {vlan : UInt16}
    (h : infoPayload dt di info =
      infoPayload dt di { info with msrpLatency := latency, vlanId := vlan }) :
    info.msrpLatency = latency ∧ info.vlanId = vlan := by
  simp only [infoPayload, List.append_cancel_left_eq] at h
  obtain ⟨hlatency, h⟩ := List.append_inj h rfl
  rw [List.append_cancel_left_eq, List.append_cancel_left_eq] at h
  exact ⟨be32_inj hlatency, be16_inj (List.append_inj h rfl).1⟩

theorem pushUnsolStreamInfo_eq (s : Avdecc) (dt di : UInt16)
    (ctrls : Fin avdeccMaxUnsolCtrl → UnsolCtrl) :
    pushUnsolStreamInfo { s with unsolCtrl := ctrls } dt di =
      pushUnsol aemCmdGetStreamInfo 68 (infoPayload dt di (streamInfo s dt di))
        (List.finRange avdeccMaxUnsolCtrl) { s with unsolCtrl := ctrls } := by
  have hinfo : streamInfo { s with unsolCtrl := ctrls } dt di = streamInfo s dt di := by
    unfold streamInfo
    rfl
  rw [pushUnsolStreamInfo, buildStreamInfoPayload_eq, hinfo]

theorem solicited_streamOutput (s : Avdecc) (count : UInt32) :
    solicitedStreamInfo { s with aecpRxCount := count } aemDescStreamOutput 0 =
      some (streamInfo s aemDescStreamOutput 0) := by
  rfl

theorem streamOutput_pushedAsPolled (s : Avdecc) :
    PushedAsPolled s aemCmdGetStreamInfo aemDescStreamOutput 0
      (pushUnsolStreamInfo · aemDescStreamOutput 0) :=
  (pushedAsPolled_iff (pushUnsolStreamInfo_eq s _ _)
    (fun _ hc => streamInfo_answer hc (solicited_streamOutput s _))
    ⟨_, asks_askFor s _ _ rfl⟩).mpr rfl

def reportedLatency (l : AvdeccListenerStream) : UInt32 :=
  if l.msrpAccumulatedLatencyNs ≠ 0 then l.msrpAccumulatedLatencyNs else 2000000

def reportedVlan (l : AvdeccListenerStream) : UInt16 :=
  if l.streamVlanId ≠ 0 then l.streamVlanId else 2

/-- The two loops over a talker's id that has a byte to name. -/
theorem talkerFlags_eq (l : AvdeccListenerStream) (flags : UInt32) :
    (if l.talkerId.toList.any (· ≠ 0) then flags ||| (streamInfoFlagConnected |||
        streamInfoFlagFastConnect ||| streamInfoFlagSavedState) else flags) =
      flags ||| talkerFlags l := by
  have hzeros : l.talkerId = zeroBytes 8 ↔ ∀ b ∈ l.talkerId.toList, b = 0 := by
    rw [← Vector.toList_inj, zeroBytes, Vector.toList_replicate, List.eq_replicate_iff,
      Vector.length_toList, eq_self, true_and]
  have hany : l.talkerId.toList.any (· ≠ 0) = true ↔ l.talkerId ≠ zeroBytes 8 := by
    rw [ne_eq, hzeros, List.any_eq_true]
    simp
  rw [talkerFlags]
  by_cases hzero : l.talkerId = zeroBytes 8
  · rw [if_neg (mt hany.mp (not_not.mpr hzero)), if_pos hzero, UInt32.or_zero]
  · rw [if_pos (hany.mpr hzero), if_neg hzero]

/-- The poll finds what is pushed, but for the latency and the VLAN of an
input that is not connected. -/
theorem solicited_streamInput (s : Avdecc) (count : UInt32) (u : ListenerUid) :
    solicitedStreamInfo { s with aecpRxCount := count } aemDescStreamInput u.toUInt16 =
      some { streamInfo s aemDescStreamInput u.toUInt16 with
        msrpLatency := reportedLatency (s.listeners u), vlanId := reportedVlan (s.listeners u) } := by
  have houtput : ¬aemDescStreamInput = aemDescStreamOutput := by decide
  rw [solicitedStreamInfo, solicitedStream, streamInfo, if_neg houtput, if_pos rfl,
    listenerUid?_toUInt16]
  dsimp only
  rw [talkerFlags_eq]
  cases hconnected : (s.listeners u).connected with
  | true => simp only [if_true, Option.map_some, UInt32.or_assoc]; rfl
  | false => rfl

/-- What is pushed of latency and VLAN. -/
theorem streamInfo_input (s : Avdecc) (u : ListenerUid) :
    (streamInfo s aemDescStreamInput u.toUInt16).msrpLatency =
        (if (s.listeners u).connected then reportedLatency (s.listeners u) else 2000000) ∧
      (streamInfo s aemDescStreamInput u.toUInt16).vlanId =
        (if (s.listeners u).connected then reportedVlan (s.listeners u) else 2) := by
  rw [streamInfo, if_neg (show aemDescStreamInput ≠ aemDescStreamOutput by decide), if_pos rfl,
    listenerUid?_toUInt16]
  dsimp only
  split <;> exact ⟨rfl, rfl⟩

theorem reported_defaults (l : AvdeccListenerStream) :
    (2000000 = reportedLatency l ∧ 2 = reportedVlan l) ↔ HoldsDefaults l := by
  rw [reportedLatency, reportedVlan, HoldsDefaults]
  by_cases hlatency : l.msrpAccumulatedLatencyNs = 0 <;> by_cases hvlan : l.streamVlanId = 0 <;>
    simp [hlatency, hvlan, eq_comm, and_comm]

theorem streamInput_pushedAsPolled_iff (s : Avdecc) (u : ListenerUid) :
    PushedAsPolled s aemCmdGetStreamInfo aemDescStreamInput u.toUInt16
        (pushUnsolStreamInfo · aemDescStreamInput u.toUInt16) ↔
      ((s.listeners u).connected = false → HoldsDefaults (s.listeners u)) := by
  refine (pushedAsPolled_iff (pushUnsolStreamInfo_eq s _ _)
    (fun _ hc => streamInfo_answer hc (solicited_streamInput s _ u))
    ⟨_, asks_askFor s _ _ rfl⟩).trans ?_
  obtain ⟨hlatency, hvlan⟩ := streamInfo_input s u
  constructor
  · intro h hidle
    obtain ⟨hl, hv⟩ := infoPayload_inj h
    rw [hlatency, hidle] at hl
    rw [hvlan, hidle] at hv
    exact (reported_defaults _).mp ⟨hl, hv⟩
  · intro h
    have hreported : (streamInfo s aemDescStreamInput u.toUInt16).msrpLatency =
          reportedLatency (s.listeners u) ∧
        (streamInfo s aemDescStreamInput u.toUInt16).vlanId = reportedVlan (s.listeners u) := by
      rw [hlatency, hvlan]
      cases hconnected : (s.listeners u).connected with
      | true => exact ⟨rfl, rfl⟩
      | false => exact (reported_defaults _).mpr (h hconnected)
    rw [← hreported.1, ← hreported.2]

theorem streamCounters_same (s : Avdecc) (u : ListenerUid)
    (ctrls : Fin avdeccMaxUnsolCtrl → UnsolCtrl) (count : UInt32) :
    streamCounters { s with unsolCtrl := ctrls, aecpRxCount := count } u = streamCounters s u := by
  funext j
  unfold streamCounters
  rfl

theorem clockCounters_same (s : Avdecc) (ctrls : Fin avdeccMaxUnsolCtrl → UnsolCtrl)
    (count : UInt32) :
    clockCounters { s with unsolCtrl := ctrls, aecpRxCount := count } = clockCounters s := by
  funext j
  unfold clockCounters
  rfl

theorem descriptorCounters_stream (s : Avdecc) (u : ListenerUid) (count : UInt32) :
    descriptorCounters { s with aecpRxCount := count } aemDescStreamInput u.toUInt16 =
      (0x00000FFF, streamCounters s u) := by
  rw [descriptorCounters, if_neg (show aemDescStreamInput ≠ aemDescAvbInterface by decide),
    if_neg (show aemDescStreamInput ≠ aemDescClockDomain by decide), if_pos rfl,
    listenerUid?_toUInt16]
  refine congrArg (Prod.mk 0x00000FFF) (funext fun j => ?_)
  unfold streamCounters
  split_ifs with h0 h1 h11
  · subst h0
    rfl
  · subst h1
    rfl
  · subst h11
    rfl
  · split
    · exact absurd rfl h0
    · exact absurd rfl h1
    · exact absurd rfl h11
    · rfl

theorem descriptorCounters_clock (s : Avdecc) (count : UInt32) :
    descriptorCounters { s with aecpRxCount := count } aemDescClockDomain 0 =
      (0x00000003, clockCounters s) := by
  rw [descriptorCounters, if_neg (show aemDescClockDomain ≠ aemDescAvbInterface by decide),
    if_pos rfl, if_pos rfl]
  refine congrArg (Prod.mk 0x00000003) (funext fun j => ?_)
  unfold clockCounters
  split_ifs with h0 h1
  · subst h0
    rfl
  · subst h1
    rfl
  · split
    · exact absurd rfl h0
    · exact absurd rfl h1
    · rfl

theorem agrees_iff (s : Avdecc) :
    Agrees s ↔ ∀ u, (s.listeners u).connected = false → HoldsDefaults (s.listeners u) := by
  constructor
  · intro h u
    exact (streamInput_pushedAsPolled_iff s u).mp (h.streamInput u)
  · intro h
    constructor
    · intro u
      exact counters_pushedAsPolled (streamCounters_same s u · s.aecpRxCount)
        (descriptorCounters_stream s u _)
    · exact counters_pushedAsPolled (clockCounters_same s · s.aecpRxCount)
        (descriptorCounters_clock s _)
    · exact fun u => (streamInput_pushedAsPolled_iff s u).mpr (h u)
    · exact streamOutput_pushedAsPolled s

-- ---------------------------------------------------------------------------
-- Runs
-- ---------------------------------------------------------------------------

/-- A bind that waits is a connected listener's. -/
structure Defaulted (c : ListenerSide) : Prop where
  own : ∀ i, (c.pending i).active → (c.pending i).uid = i
  waiting : ∀ i, (c.pending i).active → (c.listeners i).connected
  defaults : ∀ u, (c.listeners u).connected = false → HoldsDefaults (c.listeners u)

section Step

variable {c c' : ListenerSide}

theorem Defaulted.of_other (h : Defaulted c) (u : ListenerUid)
    (hother : ∀ v, v ≠ u → c'.listeners v = c.listeners v ∧ c'.pending v = c.pending v)
    (hown : (c'.pending u).active → (c'.pending u).uid = u)
    (hwaiting : (c'.pending u).active → (c'.listeners u).connected)
    (hdefaults : (c'.listeners u).connected = false → HoldsDefaults (c'.listeners u)) :
    Defaulted c' where
  own i hi := by
    by_cases hu : i = u
    · subst hu
      exact hown hi
    · rw [(hother i hu).2] at hi ⊢
      exact h.own i hi
  waiting i hi := by
    by_cases hu : i = u
    · subst hu
      exact hwaiting hi
    · rw [(hother i hu).2] at hi
      rw [(hother i hu).1]
      exact h.waiting i hi
  defaults v hv := by
    by_cases hu : v = u
    · subst hu
      exact hdefaults hv
    · rw [(hother v hu).1] at hv ⊢
      exact h.defaults v hv

/-- A listener that is given a talker is connected. -/
theorem Defaulted.listen (h : Defaulted c) (u : ListenerUid) {l : AvdeccListenerStream}
    (hl : l.connected) (streamId : StreamId) (destMac : MacAddr) (talkerId : EntityId)
    (known : Option SrpRemoteTalker) :
    Defaulted ((c.setListener u l).listen u streamId destMac talkerId known) := by
  have hconnected : (((c.setListener u l).listen u streamId destMac talkerId known).listeners
      u).connected := by
    rw [ListenerSide.listen_same _ _ _ _ _ AvdeccListenerStream.connected fun _ _ _ => rfl,
      ListenerSide.setListener_self]
    exact hl
  refine h.of_other u (fun v hv => ?_) (ListenerSide.listen_own _ _ _ _ _)
    (fun _ => hconnected) (fun hidle => ?_)
  · obtain ⟨hlistener, hpending⟩ := (c.setListener u l).listen_other streamId destMac talkerId
      known hv
    exact ⟨hlistener.trans (ListenerSide.setListener_other _ hv _), hpending⟩
  · rw [hconnected] at hidle
    cases hidle

theorem Defaulted.complete (h : Defaulted c) (i : ListenerUid) (t : SrpRemoteTalker) :
    Defaulted (c.complete i t) := by
  unfold ListenerSide.complete
  dsimp only
  split
  · rename_i hactive
    have hconnected := h.waiting i hactive.1
    rw [h.own i hactive.1]
    have hstill : ((((c.setListener i { c.listeners i with
        streamId := t.streamId, destMac := t.destMac }).learn i (some t)).setPending i
        { c.pending i with active := false }).listeners i).connected := by
      rw [ListenerSide.setPending_listeners, ListenerSide.learn_same _ _
        AvdeccListenerStream.connected fun _ _ _ => rfl, ListenerSide.setListener_self]
      exact hconnected
    refine h.of_other i (fun v hv => ?_) (fun hi => ?_) (fun _ => hstill) (fun hidle => ?_)
    · rw [ListenerSide.setPending_listeners, ListenerSide.learn_other _ _ hv,
        ListenerSide.setListener_other _ hv, ListenerSide.setPending_other _ hv]
      exact ⟨rfl, congrFun (ListenerSide.learn_pending ..) v⟩
    · rw [ListenerSide.setPending_self] at hi
      cases hi
    · exact absurd (hstill.symm.trans hidle) Bool.noConfusion
  · exact h

theorem Defaulted.apply (h : Defaulted c) {op : ListenerOp}
    (hop : ∀ u, op = .disconnect u → HoldsDefaults (c.listeners u)) : Defaulted (c.apply op) := by
  cases op with
  | connect u talkerId talkerUid streamId destMac known => exact h.listen u rfl ..
  | resolve u r => exact ⟨h.own, h.waiting, h.defaults⟩
  | answer i success streamId destMac vlanId known =>
    cases success with
    | false => exact ⟨h.own, h.waiting, h.defaults⟩
    | true =>
      have hbound := h.listen (c.resolves i).listenerUid
        (l := { ListenerSide.connected (c.listeners (c.resolves i).listenerUid)
          (c.resolves i).talkerId (c.resolves i).talkerUid streamId destMac with
          streamVlanId := vlanId }) rfl streamId destMac (c.resolves i).talkerId known
      exact ⟨hbound.own, hbound.waiting, hbound.defaults⟩
  | timeOut i => exact ⟨h.own, h.waiting, h.defaults⟩
  | disconnect u =>
    refine h.of_other u (fun v hv => ?_) (fun hi => ?_) (fun hi => ?_) (fun _ => ?_)
    · exact ⟨ListenerSide.setListener_other _ hv _, ListenerSide.setPending_other _ hv _⟩
    · rw [ListenerSide.apply, ListenerSide.disconnect, ListenerSide.stopWaiting,
        ListenerSide.setPending_self] at hi
      cases hi
    · rw [ListenerSide.apply, ListenerSide.disconnect, ListenerSide.stopWaiting,
        ListenerSide.setPending_self] at hi
      cases hi
    · rw [ListenerSide.apply, ListenerSide.disconnect, ListenerSide.stopWaiting,
        ListenerSide.setPending_listeners, ListenerSide.setListener_self]
      exact hop u rfl
  | advertise t => exact (h.complete _ t).complete _ t

end Step

theorem defaulted_boot : Defaulted boot.listenerSide where
  own _ hi := by cases hi
  waiting _ hi := by cases hi
  defaults _ _ := ⟨.inl rfl, .inl rfl⟩

theorem Defaulted.step {fw : Firmware} {step : LoopStep} (h : Defaulted fw.listenerSide)
    (hstep : DisconnectsDefaults fw step) : Defaulted (mainLoop.step fw step).listenerSide := by
  refine listenerSide_invariant h (fun op hmem _ => h.apply fun u hu => hstep u (hu ▸ hmem))
    fun c op hc hevent => hc.apply fun u hu => ?_
  subst hu
  cases hevent

/-- The disconnect keeps VLAN and latency. -/
theorem disconnects_defaults {fw : Firmware} {step : LoopStep}
    (h : ∀ u, ((mainLoop.step fw step).listenerSide.listeners u).connected = false →
      HoldsDefaults ((mainLoop.step fw step).listenerSide.listeners u)) :
    DisconnectsDefaults fw step := by
  intro u hmem
  have hshape := listenerOps_shape fw step
  rw [mainLoop_refines_listenerSide.step] at h
  generalize listenerOps fw step = ops at h hmem hshape
  cases hshape with
  | one op _ =>
    rw [← List.mem_singleton.mp hmem, Machine.runFrom_cons, Machine.runFrom_nil] at h
    have hlistener : (listenerMachine.step fw.listenerSide (.disconnect u)).listeners u = _ :=
      Function.update_self ..
    have hdefaults := h u
    rw [hlistener] at hdefaults
    exact hdefaults rfl
  | events hevents => cases hevents _ hmem

/-- Push and poll agree after every step exactly of the runs in which no
listener is disconnected that has learned other values than the defaults. -/
theorem agrees_run_iff (run : List LoopStep) :
    mainLoop.Steps (fun fw step => Agrees (mainLoop.step fw step).avdecc) run ↔
      mainLoop.Steps DisconnectsDefaults run := by
  refine (Machine.steps_congr (fun fw => Defaulted fw.listenerSide) defaulted_boot
    (fun fw step h hstep => h.step hstep) (fun fw step h => ?_) run).symm
  constructor
  · intro hstep
    exact (agrees_iff _).mpr (h.step hstep).defaults
  · exact fun hagrees => disconnects_defaults ((agrees_iff _).mp hagrees)

def talkerEntity : EntityId := eightBytes 0x00 0x1B 0x21 0xFF 0xFE 0x00 0x00 0x0A

/-- A listener command for the CRF listener, with nothing but the talker. -/
def listenerCommand (msgType : UInt8) : LoopStep :=
  receiveAcmp
    { msgType := msgType
      controllerId := zeroBytes 8
      talkerId := talkerEntity
      listenerId := boot.avdecc.entityId
      talkerUid := 0
      listenerUid := 0
      seqId := 7 }

/-- The talker's answer, with VLAN 100. -/
def talkerAnswer : LoopStep :=
  receiveAcmp
    { msgType := acmpMsgConnectTxResponse
      streamId := eightBytes 0x00 0x1B 0x21 0x00 0x00 0x0A 0x00 0x01
      controllerId := boot.avdecc.entityId
      talkerId := talkerEntity
      listenerId := boot.avdecc.entityId
      talkerUid := 0
      listenerUid := 0
      streamDestMac := sixBytes 0x91 0xE0 0xF0 0x00 0xFE 0x0A
      seqId := 0
      vlanId := 100 }

def connected : List LoopStep := [listenerCommand acmpMsgConnectRxCommand, talkerAnswer]

def disconnectedOps : List ListenerOp :=
  [.resolve listenerUidCrf
      { active := true, listenerUid := listenerUidCrf, ctrlSeqIdOrig := 7, talkerId := talkerEntity },
    .answer listenerUidCrf true (eightBytes 0x00 0x1B 0x21 0x00 0x00 0x0A 0x00 0x01)
      (sixBytes 0x91 0xE0 0xF0 0x00 0xFE 0x0A) 100 none,
    .disconnect listenerUidCrf]

theorem disconnected_run :
    (mainLoop.run (connected ++ [listenerCommand acmpMsgDisconnectRxCommand])).listenerSide =
      listenerMachine.run disconnectedOps :=
  mainLoop_run_listenerSide (by decide +kernel)

/-- After the disconnect the poll still reports the VLAN. -/
theorem vlan_polled :
    ¬ mainLoop.Steps (fun fw step => Agrees (mainLoop.step fw step).avdecc)
      (connected ++ [listenerCommand acmpMsgDisconnectRxCommand]) := by
  intro h
  have hdefaults := (agrees_iff _).mp h.at listenerUidCrf
  have hlisteners : (mainLoop.step (mainLoop.run connected)
      (listenerCommand acmpMsgDisconnectRxCommand)).avdecc.listeners =
        (listenerMachine.run disconnectedOps).listeners := by
    rw [← disconnected_run, Machine.run_concat, Firmware.listenerSide_listeners]
  rw [hlisteners] at hdefaults
  have hidle : ((listenerMachine.run disconnectedOps).listeners listenerUidCrf).connected = false := by
    decide +kernel
  have hvlan : ((listenerMachine.run disconnectedOps).listeners listenerUidCrf).streamVlanId = 100 := by
    decide +kernel
  have hholds := (hdefaults hidle).1
  rw [hvlan] at hholds
  revert hholds
  decide

end AvbAes3.PushPoll
