import AvbAes3.GptpRun

/-!
# Sync and Follow_Up

`process_sync` keeps the receive time of the last Sync, its sequence id and
its source, and `process_follow_up` computes an offset from that time and the
origin time of a Follow_Up with the same sequence id. It does not compare the
source: with two masters on the wire, the time of one's Sync can meet the
origin time of the other's Follow_Up. A `History` numbers the Syncs as they
arrive.

`paired_iff`: each offset combines a Sync and a Follow_Up of one source port
and one sequence id, and no Sync is used twice, exactly in the runs in which
each Follow_Up accepted comes from the source of the last Sync.
-/

namespace AvbAes3.TwoStepPair

-- ---------------------------------------------------------------------------
-- The port and the Syncs it has received
-- ---------------------------------------------------------------------------

/-- `sourcePortIdentity`. -/
structure PortIdentity where
  clockId : ClockId
  portNumber : UInt16
  deriving DecidableEq

def sourcePortIdentity (ptp : Buffer) : PortIdentity :=
  ⟨(ptp.offset ptpOffSrcPortId).bytes 8, getBe16 (ptp.offset (ptpOffSrcPortId + 8))⟩

def sequenceId (ptp : Buffer) : UInt16 := getBe16 (ptp.offset ptpOffSeqId)

structure Sync where
  source : PortIdentity
  seqId : UInt16
  rxTs : PtpTimestamp
  deriving DecidableEq

def receivedSync : GptpEvent → Option Sync
  | .rx frame len tsu =>
    let ptp := frame.offset ethHeaderLen
    if ptpMessage frame len = some .sync then
      some ⟨sourcePortIdentity ptp, sequenceId ptp, tsu.rxTs⟩
    else none
  | .poll _ => none

/-- The Syncs in the order of arrival, and the numbers of those an offset has
been computed with. -/
structure History where
  syncs : List Sync := []
  used : List Nat := []

def note (h : History) (g : Gptp) (e : GptpEvent) : History :=
  match receivedSync e, acceptedFollowUp g e with
  | some sync, _ => { h with syncs := h.syncs ++ [sync] }
  | none, some _ => { h with used := h.used ++ [h.syncs.length - 1] }
  | none, none => h

def port (mac : MacAddr) : Machine (Gptp × History) GptpEvent :=
  Machine.withHistory ⟨(gptpInit mac).1, fun g e => (gptpStep g e).1⟩ {} note

/-- The offset of an accepted Follow_Up is computed with the receive time of
the last Sync, which has the same source and sequence id and has not been used
before. -/
def Paired (s : Gptp × History) (e : GptpEvent) : Prop :=
  ∀ x ∈ acceptedFollowUp s.1 e, ∃ sync ∈ s.2.syncs.getLast?,
    s.1.syncRxTs = sync.rxTs ∧ sourcePortIdentity x.1 = sync.source ∧
      sequenceId x.1 = sync.seqId ∧ s.2.syncs.length - 1 ∉ s.2.used

/-- An accepted Follow_Up is from the source that the last Sync was. -/
def SameSource (s : Gptp × History) (e : GptpEvent) : Prop :=
  ∀ x ∈ acceptedFollowUp s.1 e,
    sourcePortIdentity x.1 = ⟨s.1.masterClockId, s.1.masterPortNumber⟩

instance (s : Gptp × History) : DecidablePred (Paired s) := fun e => by
  unfold Paired; infer_instance

instance (s : Gptp × History) : DecidablePred (SameSource s) := fun e => by
  unfold SameSource; infer_instance

-- ---------------------------------------------------------------------------
-- The fields of the last Sync
-- ---------------------------------------------------------------------------

/-- What `process_sync` has kept for the next Follow_Up. -/
def held (g : Gptp) : Bool × Sync :=
  (g.syncReceived, ⟨⟨g.masterClockId, g.masterPortNumber⟩, g.syncSeqId, g.syncRxTs⟩)

theorem gptpServoUpdate_held (g : Gptp) (now : UInt32) :
    held (gptpServoUpdate g now).1 = held g := by
  obtain ⟨_, hwrites⟩ := gptpServoUpdate_writes g now
  rw [hwrites]
  rfl

theorem gptpStep_sync (h : receivedSync e = some sync) (g : Gptp) :
    held (gptpStep g e).1 = (true, sync) := by
  cases e with
  | poll tsu => cases h
  | rx frame len tsu =>
    simp only [receivedSync, Option.ite_none_right_eq_some, Option.some.injEq] at h
    obtain ⟨hmsg, rfl⟩ := h
    obtain ⟨rx, hrx⟩ := gptpProcessRx_eq g frame len tsu
    rw [gptpStep, hrx, hmsg]
    rfl

/-- A Follow_Up uses the Sync up. -/
theorem gptpStep_used (h : acceptedFollowUp g e = some x) :
    held (gptpStep g e).1 = (false, (held g).2) := by
  obtain ⟨ptp, now⟩ := x
  obtain ⟨rx, hrx⟩ := gptpStep_followUp h
  rw [hrx, gptpServoUpdate_held]
  rfl

theorem gptpStep_held (hsync : receivedSync e = none) (hfup : acceptedFollowUp g e = none) :
    held (gptpStep g e).1 = held g := by
  cases e with
  | poll tsu =>
    simp only [gptpStep, gptpPoll, pdelayLost, syncTimeout, gptpSendPdelayReq]
    split_ifs <;> rfl
  | rx frame len tsu =>
    obtain ⟨rx, hrx⟩ := gptpProcessRx_eq g frame len tsu
    rw [gptpStep, hrx]
    cases hmsg : ptpMessage frame len with
    | none => rfl
    | some msg =>
      cases msg with
      | sync => simp [receivedSync, hmsg] at hsync
      | followUp =>
        have hno : ¬ followUpMatches g (frame.offset ethHeaderLen) := by
          simpa [acceptedFollowUp, hmsg] using hfup
        have hproc : processFollowUp { g with rx := rx } (frame.offset ethHeaderLen) tsu =
            ({ g with rx := rx }, []) := if_neg hno
        rw [processPtp, hproc]
        rfl
      | pdelayReq => rfl
      | pdelayResp =>
        simp only [processPtp, processPdelayResp]
        split <;> rfl
      | pdelayRespFup =>
        simp only [processPtp, processPdelayRespFup]
        split <;> rfl
      | announce =>
        simp only [processPtp, processAnnounce]
        split <;> rfl

/-- An accepted Follow_Up has the sequence id of a Sync that is held. -/
theorem acceptedFollowUp_held (h : acceptedFollowUp g e = some x) :
    g.syncReceived ∧ sequenceId x.1 = g.syncSeqId ∧ receivedSync e = none := by
  cases e with
  | poll tsu => cases h
  | rx frame len tsu =>
    simp only [acceptedFollowUp, Option.ite_none_right_eq_some, Option.some.injEq] at h
    obtain ⟨⟨hmsg, hmatch⟩, rfl⟩ := h
    rw [followUpMatches, Bool.and_eq_true, beq_iff_eq] at hmatch
    refine ⟨hmatch.1, hmatch.2, ?_⟩
    simp [receivedSync, hmsg]

-- ---------------------------------------------------------------------------
-- Runs
-- ---------------------------------------------------------------------------

/-- A Sync held is the last one that has arrived, and has not been used. -/
structure Kept (s : Gptp × History) : Prop where
  last : s.1.syncReceived → s.2.syncs.getLast? = some (held s.1).2
  fresh : s.1.syncReceived → s.2.syncs.length - 1 ∉ s.2.used
  used : ∀ i ∈ s.2.used, i < s.2.syncs.length

theorem Kept.step {s : Gptp × History} (h : Kept s) (mac : MacAddr) (e : GptpEvent) :
    Kept ((port mac).step s e) := by
  show Kept ((gptpStep s.1 e).1, note s.2 s.1 e)
  cases hsync : receivedSync e with
  | some sync =>
    have hheld : (held (gptpStep s.1 e).1).2 = sync := by rw [gptpStep_sync hsync]
    have hnote : note s.2 s.1 e = { s.2 with syncs := s.2.syncs ++ [sync] } := by
      rw [note, hsync]
    rw [hnote]
    refine ⟨fun _ => ?_, fun _ hused => ?_, fun i hi => ?_⟩
    · rw [hheld, List.getLast?_concat]
    · have hlt := h.used _ hused
      rw [List.length_append, List.length_singleton, Nat.add_sub_cancel] at hlt
      exact Nat.lt_irrefl _ hlt
    · rw [List.length_append]
      exact Nat.lt_add_right _ (h.used i hi)
  | none =>
    cases hfup : acceptedFollowUp s.1 e with
    | some x =>
      have hspent : (gptpStep s.1 e).1.syncReceived = false :=
        congrArg Prod.fst (gptpStep_used hfup)
      have hnote : note s.2 s.1 e = { s.2 with used := s.2.used ++ [s.2.syncs.length - 1] } := by
        rw [note, hsync, hfup]
      have hlast := h.last (acceptedFollowUp_held hfup).1
      rw [hnote]
      refine ⟨fun hr => ?_, fun hr => ?_, fun i hi => ?_⟩
      · exact absurd (hspent.symm.trans hr) Bool.false_ne_true
      · exact absurd (hspent.symm.trans hr) Bool.false_ne_true
      · rcases List.mem_append.mp hi with hold | hnew
        · exact h.used i hold
        · rw [List.mem_singleton.mp hnew]
          exact Nat.sub_lt (List.length_pos_of_mem (List.mem_of_getLast? hlast)) Nat.one_pos
    | none =>
      have hheld := gptpStep_held hsync hfup
      have hreceived : (gptpStep s.1 e).1.syncReceived = s.1.syncReceived :=
        congrArg Prod.fst hheld
      have hnote : note s.2 s.1 e = s.2 := by rw [note, hsync, hfup]
      rw [hnote]
      refine ⟨fun hr => ?_, fun hr => h.fresh (hreceived ▸ hr), h.used⟩
      show _ = some (held (gptpStep s.1 e).1).2
      rw [hheld]
      exact h.last (hreceived ▸ hr)

theorem paired_iff_sameSource {s : Gptp × History} (h : Kept s) (e : GptpEvent) :
    Paired s e ↔ SameSource s e := by
  refine forall₂_congr fun x hx => ?_
  obtain ⟨hreceived, hseq, -⟩ := acceptedFollowUp_held hx
  have hlast := h.last hreceived
  constructor
  · rintro ⟨sync, hsync, -, hsource, -, -⟩
    rw [Option.mem_def, hlast] at hsync
    cases hsync
    exact hsource
  · exact fun hsource => ⟨_, hlast, rfl, hsource, hseq, h.fresh hreceived⟩

theorem paired_iff (mac : MacAddr) (events : List GptpEvent) :
    (port mac).Steps Paired events ↔ (port mac).Steps SameSource events := by
  refine Machine.steps_congr Kept ?_ (fun s e hs _ => hs.step mac e)
    (fun s e hs => paired_iff_sameSource hs e) events
  exact ⟨fun h => (by cases h), fun h => (by cases h), fun i hi => (by cases hi)⟩

-- ---------------------------------------------------------------------------
-- Two masters
-- ---------------------------------------------------------------------------

def otherMaster : MacAddr := sixBytes 0x00 0x00 0x00 0x00 0x00 0x02

/-- The grandmaster's Sync, and another master's Follow_Up with its sequence
id. -/
def crossedPair : List GptpEvent :=
  [.rx (peerFrame grandmaster ptpMsgSync 0 (List.replicate 20 0)) 68 {},
    .rx (peerFrame otherMaster ptpMsgFollowUp 0 (List.replicate 20 0)) 68 {}]

theorem crossed_not_paired : ¬ (port boardMac).Steps Paired crossedPair := by
  decide +kernel

end AvbAes3.TwoStepPair
