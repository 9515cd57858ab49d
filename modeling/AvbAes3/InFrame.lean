import AvbAes3.Firmware

/-!
# The parsers stay in the frame

`srp_process_rx`, `mcr_process_rx` and `aaf_process_rx` once more, on memory
that holds the `len` bytes of the frame and nothing else, and on tables and
rings with numbers for indices: a byte read outside the frame, an index out of
range and a loop that does not end within its turns all come to `none`. A
comparison that the source breaks off at the first difference reads all its
bytes here. `in_frame`: none of them ever does, and what they come to is what
the parsers compute.
-/

namespace AvbAes3.InFrame

-- ---------------------------------------------------------------------------
-- Memory and tables
-- ---------------------------------------------------------------------------

/-- The byte at each offset that may be read. -/
abbrev Memory := Nat → Option UInt8

def frameMemory (frame : Buffer) (len : Nat) : Memory :=
  fun i => if i < len then some (frame i) else none

def Memory.offset (m : Memory) (n : Nat) : Memory := fun i => m (n + i)

def Memory.be16 (m : Memory) (at_ : Nat) : Option UInt16 := do
  let b0 ← m at_
  let b1 ← m (at_ + 1)
  return b0.toUInt16 <<< 8 ||| b1.toUInt16

def Memory.be32 (m : Memory) (at_ : Nat) : Option UInt32 := do
  let b0 ← m at_
  let b1 ← m (at_ + 1)
  let b2 ← m (at_ + 2)
  let b3 ← m (at_ + 3)
  return b0.toUInt32 <<< 24 ||| b1.toUInt32 <<< 16 ||| b2.toUInt32 <<< 8 ||| b3.toUInt32

def Memory.be64 (m : Memory) (at_ : Nat) : Option UInt64 := do
  let hi ← m.be32 at_
  let lo ← m.be32 (at_ + 4)
  return hi.toUInt64 <<< 32 ||| lo.toUInt64

def Memory.bytes (m : Memory) (at_ n : Nat) : Option (Vector UInt8 n) :=
  Vector.ofFnM fun i => m (at_ + i)

def entry (t : Fin n → α) (i : Nat) : Option α := if h : i < n then some (t ⟨i, h⟩) else none

def setEntry (t : Fin n → α) (i : Nat) (x : α) : Option (Fin n → α) :=
  if h : i < n then some (Function.update t ⟨i, h⟩ x) else none

/-- The memory holds the first `n` bytes. -/
def Reads (m : Memory) (b : Buffer) (n : Nat) : Prop := ∀ i < n, m i = some (b i)

section Reads

variable {m : Memory} {b : Buffer} {n at_ : Nat}

theorem reads_frame (frame : Buffer) (len : Nat) : Reads (frameMemory frame len) frame len :=
  fun _ hi => if_pos hi

theorem Reads.offset (h : Reads m b n) (k : Nat) : Reads (m.offset k) (b.offset k) (n - k) :=
  fun i hi => h (k + i) (by omega)

theorem Reads.be16 (h : Reads m b n) (hat : at_ + 2 ≤ n) :
    m.be16 at_ = some (getBe16 (b.offset at_)) := by
  rw [Memory.be16, h at_ (by omega), h (at_ + 1) (by omega)]
  rfl

theorem Reads.be32 (h : Reads m b n) (hat : at_ + 4 ≤ n) :
    m.be32 at_ = some (getBe32 (b.offset at_)) := by
  rw [Memory.be32, h at_ (by omega), h (at_ + 1) (by omega), h (at_ + 2) (by omega),
    h (at_ + 3) (by omega)]
  rfl

theorem Reads.be64 (h : Reads m b n) (hat : at_ + 8 ≤ n) :
    m.be64 at_ = some (getBe64 (b.offset at_)) := by
  rw [Memory.be64, h.be32 (by omega), h.be32 (by omega), getBe64, Buffer.offset_offset]
  rfl

theorem Reads.bytes (h : Reads m b n) {k : Nat} (hat : at_ + k ≤ n) :
    m.bytes at_ k = some ((b.offset at_).bytes k) := by
  have hall : (fun i : Fin k => m (at_ + i)) =
      fun i : Fin k => (pure (b (at_ + i)) : Option UInt8) :=
    funext fun i => h (at_ + i) (Nat.lt_of_lt_of_le (Nat.add_lt_add_left i.isLt at_) hat)
  rw [Memory.bytes, hall, Vector.ofFnM_pure]
  rfl

end Reads

theorem entry_val (t : Fin n → α) (i : Fin n) : entry t i.val = some (t i) := dif_pos i.isLt

theorem setEntry_val (t : Fin n → α) (i : Fin n) (x : α) :
    setEntry t i.val x = some (Function.update t i x) := dif_pos i.isLt

-- ---------------------------------------------------------------------------
-- The diagnostics of srp_process_rx
-- ---------------------------------------------------------------------------

/-- The last TalkerFailed printed. -/
structure FailedLog where
  lastSid : StreamId
  lastCode : UInt8
  printedOnce : Bool

def cacheSize : Nat := 4

/-- The streams whose TalkerAdvertise was printed last; `count` of the
entries are in use. -/
structure TalkerCache where
  sid : Fin cacheSize → StreamId
  tMs : Fin cacheSize → UInt32
  count : Nat
  count_le : count ≤ cacheSize

/-- The index of the stream, if the cache has it, and that of the oldest
entry. -/
def scanCache (c : TalkerCache) (streamId : StreamId) :
    List Nat → (oldest : Nat) → (oldestT : UInt32) → Option (Option Nat × Nat)
  | [], oldest, _ => some (none, oldest)
  | i :: rest, oldest, oldestT => do
    let sid ← entry c.sid i
    let t ← entry c.tMs i
    if sid = streamId then some (some i, oldest)
    else if t < oldestT then scanCache c streamId rest i t
    else scanCache c streamId rest oldest oldestT

theorem nextCount_le {count : Nat} (h : count ≤ cacheSize) :
    (if count < cacheSize then count + 1 else count) ≤ cacheSize := by
  split
  · assumption
  · exact h

def logTalker (c : TalkerCache) (streamId : StreamId) (nowMs : UInt32) : Option TalkerCache := do
  let (found, oldest) ← scanCache c streamId (List.range c.count) 0 0xFFFFFFFF
  match found with
  | none =>
    let slot := if c.count < cacheSize then c.count else oldest
    let sid ← setEntry c.sid slot streamId
    let tMs ← setEntry c.tMs slot nowMs
    some ⟨sid, tMs, _, nextCount_le c.count_le⟩
  | some i =>
    let t ← entry c.tMs i
    if nowMs - t ≥ 5000 then do
      let tMs ← setEntry c.tMs i nowMs
      some { c with tMs := tMs }
    else some c

theorem scanCache_some (c : TalkerCache) (streamId : StreamId) {indices : List Nat}
    (h : ∀ i ∈ indices, i < cacheSize) {oldest : Nat} (holdest : oldest < cacheSize)
    (oldestT : UInt32) :
    ∃ found oldest', scanCache c streamId indices oldest oldestT = some (found, oldest') ∧
      oldest' < cacheSize ∧ ∀ i ∈ found, i < cacheSize := by
  induction indices generalizing oldest oldestT with
  | nil => exact ⟨none, oldest, rfl, holdest, by rintro i ⟨⟩⟩
  | cons i rest ih =>
    obtain ⟨hi, hrest⟩ := List.forall_mem_cons.mp h
    have hsid : entry c.sid i = some _ := dif_pos hi
    have htMs : entry c.tMs i = some _ := dif_pos hi
    simp only [scanCache, hsid, htMs, Option.bind_eq_bind, Option.bind_some]
    split
    · exact ⟨some i, oldest, rfl, holdest, by rintro j ⟨⟩; exact hi⟩
    · split
      · exact ih hrest hi _
      · exact ih hrest holdest _

/-- The cache is read and written within its four entries. -/
theorem logTalker_some (c : TalkerCache) (streamId : StreamId) (nowMs : UInt32) :
    ∃ c', logTalker c streamId nowMs = some c' := by
  have hrange : ∀ i ∈ List.range c.count, i < cacheSize := fun i hi =>
    Nat.lt_of_lt_of_le (List.mem_range.mp hi) c.count_le
  obtain ⟨found, oldest, hscan, holdest, hfound⟩ :=
    scanCache_some c streamId hrange (Nat.zero_lt_succ 3) 0xFFFFFFFF
  simp only [logTalker, hscan, Option.bind_eq_bind, Option.bind_some]
  cases found with
  | none =>
    have hslot : (if c.count < cacheSize then c.count else oldest) < cacheSize := by
      split
      · assumption
      · exact holdest
    simp only [setEntry, dif_pos hslot, Option.bind_some]
    exact ⟨_, rfl⟩
  | some i =>
    have hi := hfound i rfl
    simp only [entry, setEntry, dif_pos hi, Option.bind_some]
    split <;> exact ⟨_, rfl⟩

-- ---------------------------------------------------------------------------
-- srp_process_rx
-- ---------------------------------------------------------------------------

structure Station where
  fw : Firmware
  failedLog : FailedLog
  talkerCache : TalkerCache

section Srp

variable (m : Memory) (nowMs : UInt32)

def domainVector (attrType attrLen : UInt8) (vp : Nat) (s : Srp) : Option Srp :=
  if attrType = msrpAttrDomain ∧ attrLen ≥ 4 then do
    let srClass ← m vp
    let srPrio ← m (vp + 1)
    let srVid ← m.be16 (vp + 2)
    some { s with
      rxDomainCount := s.rxDomainCount + 1
      domainReceived := true
      rxSrClass := srClass
      rxSrPrio := srPrio
      rxSrVid := srVid }
  else some s

def failedVector (attrType attrLen : UInt8) (vp : Nat) (log : FailedLog) : Option FailedLog :=
  if attrType = msrpAttrTalkerFail ∧ attrLen ≥ 34 then do
    let sid ← m.bytes vp 8
    let code ← m (vp + 33)
    if log.printedOnce ∧ code = log.lastCode ∧ sid = log.lastSid then some log
    else do
      let _ ← m.bytes (vp + 25) 8
      some ⟨sid, code, true⟩
  else some log

/-- The counts of TalkerFailed and Listener vectors. -/
def countVector (attrType : UInt8) (s : Srp) : Srp :=
  let s := if attrType = msrpAttrTalkerFail then
    { s with rxTalkerFailedCount := s.rxTalkerFailedCount + 1 } else s
  if attrType = msrpAttrListener then { s with rxListenerCount := s.rxListenerCount + 1 } else s

/-- The scan of the upsert. -/
def scanTalkers (talkers : RemoteTalkers) (streamId : StreamId) :
    List Nat → (slot : Option Nat) → (oldest : Nat) → (oldestT : UInt32) → Option Nat
  | [], slot, oldest, _ => some (slot.getD oldest)
  | i :: rest, slot, oldest, oldestT => do
    let t ← entry talkers i
    if t.valid then
      if t.streamId = streamId then some i
      else if t.lastSeenMs < oldestT then scanTalkers talkers streamId rest slot i t.lastSeenMs
      else scanTalkers talkers streamId rest slot oldest oldestT
    else if slot = none then scanTalkers talkers streamId rest (some i) oldest oldestT
    else scanTalkers talkers streamId rest slot oldest oldestT

def readTalker (vp : Nat) : Option SrpRemoteTalker := do
  let streamId ← m.bytes vp 8
  let destMac ← m.bytes (vp + 8) 6
  let vlanId ← m.be16 (vp + 14)
  let maxFrameSize ← m.be16 (vp + 16)
  let maxIntervalFrames ← m.be16 (vp + 18)
  let priorityAndRank ← m (vp + 20)
  let accumulatedLatencyNs ← m.be32 (vp + 21)
  some ⟨true, streamId, destMac, vlanId, maxFrameSize, maxIntervalFrames, priorityAndRank,
    accumulatedLatencyNs, nowMs⟩

def recordTalker (vp : Nat) (s : Srp) : Option Srp := do
  let streamId ← m.bytes vp 8
  let slot ←
    scanTalkers s.remoteTalkers streamId (List.range srpMaxRemoteTalkers) none 0 0xFFFFFFFF
  let t ← readTalker m nowMs vp
  let remoteTalkers ← setEntry s.remoteTalkers slot t
  some { s with remoteTalkers := remoteTalkers }

/-- `on_talker_advertise`, which is given two pointers. -/
def callBack (streamId destMac : Nat) (fw : Firmware) : Option Firmware := do
  let sid ← m.bytes streamId 8
  let dest ← m.bytes destMac 6
  some (onTalkerAdvertise fw sid dest nowMs)

def matchVector (vp : Nat) (s : Srp) : Option Srp :=
  if s.listenerEnabled then do
    let streamId ← m.bytes vp 8
    if streamId = s.listenerStreamId then
      some { s with
        rxMatchCount := s.rxMatchCount + 1
        talkerRegistered := true
        talkerLastSeenMs := nowMs
        listenerSubstate := .ready }
    else some s
  else some s

def talkerVector (vp : Nat) (st : Station) : Option Station := do
  let streamId ← m.bytes vp 8
  let _ ← m.bytes (vp + 8) 6
  let talkerCache ← logTalker st.talkerCache streamId nowMs
  let srp ← recordTalker m nowMs vp st.fw.srp
  let fw ← callBack m nowMs vp (vp + 8) { st.fw with srp := srp }
  let srp ← matchVector m nowMs vp fw.srp
  some ⟨{ fw with srp := srp }, st.failedLog, talkerCache⟩

/-- The body of the inner loop. -/
def takeVector (attrType attrLen : UInt8) (vp : Nat) (st : Station) : Option Station := do
  let srp ← domainVector m attrType attrLen vp st.fw.srp
  let failedLog ← failedVector m attrType attrLen vp st.failedLog
  let srp := countVector attrType srp
  if attrType = msrpAttrTalkerAdv ∧ attrLen ≥ 25 then
    talkerVector m nowMs vp
      ⟨{ st.fw with srp := { srp with rxTalkerAdvCount := srp.rxTalkerAdvCount + 1 } }, failedLog,
        st.talkerCache⟩
  else some ⟨{ st.fw with srp := srp }, failedLog, st.talkerCache⟩

/-- The vectors of one message. -/
def takeMessage (attrType attrLen : UInt8) (attrEnd : Nat) :
    (turns vp : Nat) → Station → Option Station
  | 0, _, _ => none
  | turns + 1, vp, st =>
    if vp + 2 ≤ attrEnd then do
      let vecHdr ← m.be16 vp
      if vecHdr = 0 then some st
      else if vp + 2 + attrLen.toNat > attrEnd then some st
      else do
        let st ← takeVector m nowMs attrType attrLen (vp + 2) st
        let numValues := (vecHdr &&& 0x1FFF).toNat
        let length := attrLen.toNat + (numValues + 2) / 3 +
          if attrType = msrpAttrListener then (numValues + 3) / 4 else 0
        takeMessage attrType attrLen attrEnd turns (vp + 2 + length) st
    else some st

/-- The message list. -/
def takeMessages (end_ : Nat) : (turns p : Nat) → Station → Option Station
  | 0, _, _ => none
  | turns + 1, p, st =>
    if p + 4 ≤ end_ then do
      let attrType ← m p
      let attrLen ← m (p + 1)
      if attrType = 0 ∧ attrLen = 0 then some st
      else do
        let attrListLen ← m.be16 (p + 2)
        let attrEnd := p + 4 + attrListLen.toNat
        if attrEnd > end_ then some st
        else do
          let st ← takeMessage m nowMs attrType attrLen attrEnd (end_ + 1) (p + 4) st
          takeMessages end_ turns attrEnd st
    else some st

end Srp

section SrpReads

variable {m : Memory} {b : Buffer} {n vp : Nat}

theorem scanTalkers_eq (talkers : RemoteTalkers) (streamId : StreamId)
    (indices : List (Fin srpMaxRemoteTalkers)) (scan : SlotScan) :
    scanTalkers talkers streamId (indices.map Fin.val) (scan.slot.map Fin.val) scan.oldest.val
        scan.oldestT = some (upsertSlot talkers streamId indices scan).val := by
  induction indices generalizing scan with
  | nil =>
    simp only [List.map_nil, scanTalkers, upsertSlot]
    cases scan.slot <;> rfl
  | cons i rest ih =>
    have hfree : scan.slot.map Fin.val = none ↔ scan.slot = none := Option.map_eq_none_iff
    simp only [List.map_cons, scanTalkers, entry_val, Option.bind_eq_bind, Option.bind_some,
      upsertSlot, hfree]
    split
    · split
      · rfl
      · split
        · exact ih { scan with oldest := i, oldestT := (talkers i).lastSeenMs }
        · exact ih scan
    · split
      · exact ih { scan with slot := some i }
      · exact ih scan

theorem readTalker_eq (h : Reads m b n) (nowMs : UInt32) (hvp : vp + 25 ≤ n) :
    readTalker m nowMs vp = some (remoteTalkerOf (b.offset vp) nowMs) := by
  rw [readTalker, h.bytes (by omega), h.bytes (by omega), h.be16 (by omega), h.be16 (by omega),
    h.be16 (by omega), h (vp + 20) (by omega), h.be32 (by omega), remoteTalkerOf]
  simp only [Buffer.offset_offset]
  rfl

theorem recordTalker_eq (h : Reads m b n) (nowMs : UInt32) (hvp : vp + 25 ≤ n) (s : Srp) :
    recordTalker m nowMs vp s = some (upsertTalker s (b.offset vp) nowMs) := by
  have hscan : scanTalkers s.remoteTalkers ((b.offset vp).bytes 8) (List.range srpMaxRemoteTalkers)
      none 0 0xFFFFFFFF = _ :=
    List.map_coe_finRange_eq_range ▸ scanTalkers_eq s.remoteTalkers ((b.offset vp).bytes 8)
      (List.finRange srpMaxRemoteTalkers) { oldest := ⟨0, Nat.zero_lt_succ 7⟩ }
  rw [recordTalker, h.bytes (by omega), readTalker_eq h nowMs hvp]
  simp only [hscan, setEntry_val, upsertTalker, Option.bind_eq_bind, Option.bind_some]

theorem matchVector_eq (h : Reads m b n) (nowMs : UInt32) (hvp : vp + 8 ≤ n) (s : Srp) :
    matchVector m nowMs vp s = some (matchListener s (b.offset vp) nowMs) := by
  rw [matchVector, matchListener, h.bytes hvp]
  by_cases henabled : s.listenerEnabled
  · by_cases hours : (b.offset vp).bytes 8 = s.listenerStreamId
    · simp only [henabled, hours, Option.bind_eq_bind, Option.bind_some, if_true, and_self]
    · simp only [henabled, hours, Option.bind_eq_bind, Option.bind_some, if_true, if_false,
        and_false]
  · simp only [henabled, false_and, if_false, Bool.false_eq_true]

/-- All that a TalkerAdvertise makes the station read lies in its FirstValue. -/
theorem talkerVector_some (h : Reads m b n) (nowMs : UInt32) (hvp : vp + 25 ≤ n) (st : Station) :
    ∃ st', talkerVector m nowMs vp st = some st' ∧
      st'.fw = talkerAdvertised nowMs st.fw (b.offset vp) := by
  obtain ⟨cache, hcache⟩ := logTalker_some st.talkerCache ((b.offset vp).bytes 8) nowMs
  have hsid : m.bytes vp 8 = some ((b.offset vp).bytes 8) := h.bytes (by omega)
  have hdest : m.bytes (vp + 8) 6 = some (((b.offset vp).offset 8).bytes 6) := by
    rw [h.bytes (by omega), Buffer.offset_offset]
  simp only [talkerVector, callBack, hsid, hdest, hcache, recordTalker_eq h nowMs hvp,
    matchVector_eq h nowMs (Nat.le_trans (Nat.add_le_add_left (by omega) vp) hvp),
    Option.bind_eq_bind, Option.bind_some]
  exact ⟨_, rfl, rfl⟩

theorem failedVector_some (h : Reads m b n) (attrType : UInt8) {attrLen : UInt8}
    (hvp : vp + attrLen.toNat ≤ n) (log : FailedLog) :
    ∃ log', failedVector m attrType attrLen vp log = some log' := by
  rw [failedVector]
  split
  case isFalse => exact ⟨log, rfl⟩
  case isTrue hfail =>
    have hlen : 34 ≤ attrLen.toNat := hfail.2
    rw [h.bytes (by omega), h (vp + 33) (by omega), h.bytes (by omega)]
    simp only [Option.bind_eq_bind, Option.bind_some]
    split <;> exact ⟨_, rfl⟩

theorem domainVector_some (h : Reads m b n) (attrType : UInt8) {attrLen : UInt8} (vecHdr : UInt16)
    (hvp : vp + attrLen.toNat ≤ n) (s : Srp) :
    ∃ s', domainVector m attrType attrLen vp s = some s' ∧
      noteVector s ⟨attrType, attrLen, vecHdr, b.offset vp⟩ =
        if isTalkerAdvertise ⟨attrType, attrLen, vecHdr, b.offset vp⟩ then
          { countVector attrType s' with
            rxTalkerAdvCount := (countVector attrType s').rxTalkerAdvCount + 1 }
        else countVector attrType s' := by
  have hdomain : isDomain ⟨attrType, attrLen, vecHdr, b.offset vp⟩ = true ↔
      attrType = msrpAttrDomain ∧ attrLen ≥ 4 := by simp [isDomain]
  unfold domainVector noteVector
  split
  case isFalse hd =>
    rw [if_neg (mt hdomain.mp hd)]
    exact ⟨s, rfl, rfl⟩
  case isTrue hd =>
    have hlen : 4 ≤ attrLen.toNat := hd.2
    rw [h vp (by omega), h (vp + 1) (by omega), h.be16 (by omega), ← Buffer.offset_offset,
      if_pos (hdomain.mpr hd)]
    exact ⟨_, rfl, rfl⟩

theorem takeVector_some (h : Reads m b n) (nowMs : UInt32) (attrType : UInt8) {attrLen : UInt8}
    (vecHdr : UInt16) (hvp : vp + attrLen.toNat ≤ n) (st : Station) :
    ∃ st', takeVector m nowMs attrType attrLen vp st = some st' ∧
      st'.fw = srpVector nowMs st.fw ⟨attrType, attrLen, vecHdr, b.offset vp⟩ := by
  obtain ⟨srp, hdomain, hnote⟩ := domainVector_some h attrType vecHdr hvp st.fw.srp
  obtain ⟨log, hlog⟩ := failedVector_some h attrType hvp st.failedLog
  have hadv : isTalkerAdvertise ⟨attrType, attrLen, vecHdr, b.offset vp⟩ = true ↔
      attrType = msrpAttrTalkerAdv ∧ attrLen ≥ 25 := by simp [isTalkerAdvertise]
  simp only [takeVector, srpVector, hdomain, hlog, hnote, hadv, Option.bind_eq_bind,
    Option.bind_some]
  split
  case isFalse => exact ⟨_, rfl, rfl⟩
  case isTrue ht =>
    have hlen : 25 ≤ attrLen.toNat := ht.2
    exact talkerVector_some h nowMs (by omega) _

theorem messageVectors_past {attrType attrLen : UInt8} {attrEnd fuel : Nat}
    (h : ¬ vp + 2 ≤ attrEnd) : messageVectors attrType attrLen b attrEnd fuel vp = [] := by
  cases fuel with
  | zero => rfl
  | succ fuel => exact if_neg h

theorem messageListVectors_past {fuel p : Nat} (h : ¬ p + 4 ≤ n) :
    messageListVectors b n fuel p = [] := by
  cases fuel with
  | zero => rfl
  | succ fuel => exact if_neg h

/-- Each turn passes a vector's header, so the bytes left are turns enough;
what the list claims beyond its end is not read. -/
theorem takeMessage_some (h : Reads m b n) (nowMs : UInt32) (attrType attrLen : UInt8)
    {attrEnd : Nat} (hend : attrEnd ≤ n) {turns fuel vp : Nat} (hturns : attrEnd < vp + 2 + turns)
    (hfuel : attrEnd < vp + 2 + fuel) (st : Station) :
    ∃ st', takeMessage m nowMs attrType attrLen attrEnd (turns + 1) vp st = some st' ∧
      st'.fw = (messageVectors attrType attrLen b attrEnd fuel vp).foldl (srpVector nowMs)
        st.fw := by
  induction turns generalizing fuel vp st with
  | zero =>
    have hover : ¬ vp + 2 ≤ attrEnd := by omega
    rw [takeMessage, if_neg hover, messageVectors_past hover]
    exact ⟨st, rfl, rfl⟩
  | succ turns ih =>
    rw [takeMessage]
    by_cases hheader : vp + 2 ≤ attrEnd
    · obtain ⟨fuel, rfl⟩ : ∃ fuel', fuel = fuel' + 1 := ⟨fuel - 1, by omega⟩
      rw [if_pos hheader, messageVectors, if_pos hheader, h.be16 (by omega)]
      simp only [Option.bind_eq_bind, Option.bind_some]
      split
      · exact ⟨st, rfl, rfl⟩
      · split
        · exact ⟨st, rfl, rfl⟩
        · have hvalue : vp + 2 + attrLen.toNat ≤ n := by omega
          obtain ⟨st', htaken, hfw⟩ := takeVector_some h nowMs attrType (getBe16 (b.offset vp))
            hvalue st
          rw [htaken, Option.bind_some, List.foldl_cons, ← hfw]
          exact ih (by omega) (by omega) st'
    · rw [if_neg hheader, messageVectors_past hheader]
      exact ⟨st, rfl, rfl⟩

theorem takeMessages_some (h : Reads m b n) (nowMs : UInt32) {turns fuel p : Nat}
    (hturns : n < p + 4 + turns) (hfuel : n < p + 4 + fuel) (st : Station) :
    ∃ st', takeMessages m nowMs n (turns + 1) p st = some st' ∧
      st'.fw = (messageListVectors b n fuel p).foldl (srpVector nowMs) st.fw := by
  induction turns generalizing fuel p st with
  | zero =>
    have hover : ¬ p + 4 ≤ n := by omega
    rw [takeMessages, if_neg hover, messageListVectors_past hover]
    exact ⟨st, rfl, rfl⟩
  | succ turns ih =>
    rw [takeMessages]
    by_cases hhead : p + 4 ≤ n
    · obtain ⟨fuel, rfl⟩ : ∃ fuel', fuel = fuel' + 1 := ⟨fuel - 1, by omega⟩
      rw [if_pos hhead, messageListVectors, if_pos hhead, h p (by omega), h (p + 1) (by omega),
        h.be16 (by omega)]
      simp only [Option.bind_eq_bind, Option.bind_some]
      split
      · exact ⟨st, rfl, rfl⟩
      · split
        · exact ⟨st, rfl, rfl⟩
        · have hend : p + 4 + (getBe16 (b.offset (p + 2))).toNat ≤ n := by omega
          have hlist : p + 4 + (getBe16 (b.offset (p + 2))).toNat < p + 4 + 2 + n := by omega
          obtain ⟨st', htaken, hfw⟩ := takeMessage_some h nowMs (b p) (b (p + 1)) hend hlist hlist
            st
          rw [htaken, Option.bind_some, List.foldl_append, ← hfw]
          exact ih (by omega) (by omega) st'
    · rw [if_neg hhead, messageListVectors_past hhead]
      exact ⟨st, rfl, rfl⟩

end SrpReads

/-- No loop takes more turns than the frame has bytes. -/
def srpProcessRxIn (m : Memory) (len : Nat) (nowMs : UInt32) (st : Station) : Option Station :=
  if len < 14 + 2 then some st
  else do
    let ethertype ← m.be16 12
    if ethertype ≠ msrpEthertype then some st
    else do
      let mrpdu := m.offset 14
      let version ← mrpdu 0
      if version ≠ msrpProtoVersion then some st
      else
        takeMessages mrpdu nowMs (len - 14) len 1
          { st with fw := { st.fw with srp :=
            { st.fw.srp with rxPduCount := st.fw.srp.rxPduCount + 1 } } }

theorem srpProcessRxIn_some (frame : Buffer) (len : Nat) (nowMs : UInt32) (st : Station) :
    ∃ st', srpProcessRxIn (frameMemory frame len) len nowMs st = some st' ∧
      st'.fw = srpProcessRx st.fw frame len nowMs := by
  have h := reads_frame frame len
  unfold srpProcessRxIn srpProcessRx isMsrpPdu
  by_cases hlen : len < 14 + 2
  · have hshort : ¬ 14 + 2 ≤ len := by omega
    rw [if_pos hlen]
    exact ⟨st, rfl, by simp only [hshort, decide_false, Bool.false_and, Bool.false_eq_true,
      if_false]⟩
  · have hlong : 14 + 2 ≤ len := by omega
    have hversion : (frameMemory frame len).offset 14 0 = some (frame 14) := h 14 (by omega)
    rw [if_neg hlen, h.be16 (by omega)]
    simp only [hversion, hlong, decide_true, Bool.true_and, Bool.and_eq_true, beq_iff_eq,
      Option.bind_eq_bind, Option.bind_some]
    by_cases htype : getBe16 (frame.offset 12) = msrpEthertype
    · by_cases hours : frame 14 = msrpProtoVersion
      · obtain ⟨turns, hturns⟩ : ∃ turns, len = turns + 1 := ⟨len - 1, by omega⟩
        simp only [htype, hours, ne_eq, not_true_eq_false, if_false, and_self, if_true]
        have henough : len - 14 < 1 + 4 + turns := by omega
        have hfuel : len - 14 < 1 + 4 + len := by omega
        have hwalk := takeMessages_some (h.offset 14) nowMs henough hfuel
          { st with fw := { st.fw with srp :=
            { st.fw.srp with rxPduCount := st.fw.srp.rxPduCount + 1 } } }
        rw [← hturns] at hwalk
        exact hwalk
      · simp only [htype, hours, ne_eq, not_true_eq_false, not_false_eq_true, if_false, and_false,
          if_true]
        exact ⟨st, rfl, rfl⟩
    · simp only [htype, ne_eq, not_false_eq_true, if_true, false_and, if_false]
      exact ⟨st, rfl, rfl⟩

-- ---------------------------------------------------------------------------
-- mcr_process_rx
-- ---------------------------------------------------------------------------

def crfHeader (pdu : Memory) (s : Mcr) : Option Mcr := do
  let seq ← pdu 2
  let type ← pdu 3
  let pb ← pdu.be32 12
  let timestampInterval ← pdu.be16 18
  some { s with
    seqErrors := if s.haveLastSeq ∧ seq ≠ s.lastSeq + 1 then s.seqErrors + 1 else s.seqErrors
    lastSeq := seq
    haveLastSeq := true
    badTypeCount := if type ≠ crfTypeAudioSample then s.badTypeCount + 1 else s.badTypeCount
    pull := ((pb >>> 29) &&& 0x7).toUInt8
    baseFrequency := pb &&& 0x1FFFFFFF
    type := type
    timestampInterval := timestampInterval }

/-- `crf_data_length`, capped at what the frame has room for. -/
def tsCountOf (dataLen : UInt16) (len : Nat) : Nat :=
  if dataLen.toNat / 8 * 8 > len - (14 + crfHdrLen) then (len - (14 + crfHdrLen)) / 8
  else dataLen.toNat / 8

def takePair (s : Mcr) (tsCount : Nat) (avtpTs : UInt64) (rxTs : PtpTimestamp) : Mcr :=
  { s with
    timestampsPerPdu := if tsCount > 0xFF then 0xFF else tsCount.toUInt8
    latestAvtpTs := avtpTs
    latestLocalTs := timestampNs rxTs
    latestOffsetNs := (avtpTs - timestampNs rxTs).toInt64
    haveLatest := true
    servoConsumed := false
    rxCount := s.rxCount + 1 }

def mcrProcessRxIn (m : Memory) (len : Nat) (rxTs : PtpTimestamp) (s : Mcr) : Option Mcr :=
  if !s.bound then some s
  else if len < 14 + crfHdrLen then some s
  else do
    let pdu := m.offset 14
    let subtype ← pdu 0
    if subtype ≠ avtpSubtypeCrf then some s
    else do
      let sid ← pdu.bytes 4 8
      if sid ≠ s.streamId then some { s with rxOtherCount := s.rxOtherCount + 1 }
      else do
        let s ← crfHeader pdu s
        let dataLen ← pdu.be16 16
        if tsCountOf dataLen len = 0 then some s
        else do
          let avtpTs ← pdu.be64 (crfHdrLen + 8 * (tsCountOf dataLen len - 1))
          some (takePair s (tsCountOf dataLen len) avtpTs rxTs)

theorem crfHeader_eq {m : Memory} {b : Buffer} {n : Nat} (h : Reads m b n) (hlen : crfHdrLen ≤ n)
    (s : Mcr) : crfHeader m s = some (noteCrfHeader s b) := by
  have hlen' : 20 ≤ n := hlen
  rw [crfHeader, h 2 (by omega), h 3 (by omega), h.be32 (by omega), h.be16 (by omega)]
  rfl

/-- The timestamps counted are all in the frame. -/
theorem tsCountOf_le (dataLen : UInt16) (len : Nat) :
    8 * tsCountOf dataLen len ≤ len - (14 + crfHdrLen) := by
  unfold tsCountOf
  split <;> omega

theorem mcrProcessRxIn_eq (frame : Buffer) (len : Nat) (rxTs : PtpTimestamp) (s : Mcr) :
    mcrProcessRxIn (frameMemory frame len) len rxTs s = some (mcrProcessRx s frame len rxTs) := by
  have h := (reads_frame frame len).offset 14
  unfold mcrProcessRxIn mcrProcessRx
  dsimp only
  split
  · rfl
  · split
    · rfl
    case isFalse hlen =>
      have hroom : 20 ≤ len - 14 := by
        rw [crfHdrLen] at hlen
        omega
      rw [h 0 (by omega), h.bytes (by omega), crfHeader_eq h hroom, h.be16 (by omega)]
      simp only [Option.bind_eq_bind, Option.bind_some]
      split
      · rfl
      · split
        · rfl
        · have hcount : tsCountOf (getBe16 ((frame.offset 14).offset 16)) len =
              crfTsCount (frame.offset 14) len := rfl
          have hcap := tsCountOf_le (getBe16 ((frame.offset 14).offset 16)) len
          rw [hcount] at hcap ⊢
          split
          · rfl
          · rw [crfHdrLen] at hcap ⊢
            rw [h.be64 (by omega)]
            rfl

-- ---------------------------------------------------------------------------
-- aaf_process_rx
-- ---------------------------------------------------------------------------

/-- `rx_buf[ch][slot] = x` -/
def storeSample (ring : SampleRing) (ch slot : Nat) (x : Int32) : Option SampleRing := do
  let channel ← entry ring ch
  let channel ← setEntry channel slot x
  setEntry ring ch channel

/-- The copy, from `at_` on. -/
def copyIn (pdu : Memory) : (blocks at_ : Nat) → Aaf → Option Aaf
  | 0, _, a => some a
  | blocks + 1, at_, a => do
    let slot := (a.rxWriteIdx &&& 511).toNat
    let left ← pdu.be32 at_
    let ring ← storeSample a.rxBuf 0 slot left.toInt32
    let right ← pdu.be32 (at_ + 4)
    let ring ← storeSample ring 1 slot right.toInt32
    copyIn pdu blocks (at_ + aafChannels * aafBytesPerSample)
      { a with rxBuf := ring, rxWriteIdx := a.rxWriteIdx + 1 }

def aafHeaderIn (pdu : Memory) (a : Aaf) : Option Aaf := do
  let seq ← pdu 2
  let ts ← pdu.be32 12
  some { a with
    rxSeqErrors :=
      if a.rxHaveLastSeq ∧ seq ≠ a.rxLastSeq + 1 then a.rxSeqErrors + 1 else a.rxSeqErrors
    rxLastSeq := seq
    rxHaveLastSeq := true
    lastPresentationTs := ts
    rxCount := a.rxCount + 1 }

def captureIn (pdu : Memory) (len : Nat) (a : Aaf) : Option Aaf := do
  let format ← pdu 16
  let nsrCh ← pdu.be16 17
  let bitDepth ← pdu 19
  let streamDataLen ← pdu.be16 20
  if format ≠ aafFormatInt32Bit ∨ ((nsrCh >>> 12) &&& 0xF).toUInt8 ≠ aafNsr48000 ∨
      nsrCh &&& 0x3FF ≠ aafChannels.toUInt16 ∨ bitDepth ≠ aafBitDepth then
    some { a with formatErrors := a.formatErrors + 1 }
  else
    let avail := len - 14 - aafStreamHdrLen
    copyIn pdu (min streamDataLen.toNat avail / (aafChannels * aafBytesPerSample)) aafStreamHdrLen a

def aafProcessRxIn (m : Memory) (len : Nat) (a : Aaf) : Option Aaf :=
  if !a.rxEnabled then some a
  else if len < 14 + aafStreamHdrLen then some a
  else do
    let pdu := m.offset 14
    let subtype ← pdu 0
    if subtype ≠ avtpSubtypeAaf then some a
    else do
      let sid ← pdu.bytes 4 8
      if sid ≠ a.streamId then some { a with rxOtherCount := a.rxOtherCount + 1 }
      else do
        let a ← aafHeaderIn pdu a
        if !a.rxAudioCapture then some a else captureIn pdu len a

/-- `AAF_BUFFER_MASK` keeps the slot in the ring. -/
theorem mask_ringSlot (idx : UInt32) : (idx &&& 511).toNat = (ringSlot idx).val := by
  have hmask : (511 : UInt32).toNat = 2 ^ 9 - 1 := rfl
  rw [UInt32.toNat_and, hmask, Nat.and_two_pow_sub_one_eq_mod]
  rfl

theorem storeSample_val (ring : SampleRing) (ch : Fin aafChannels) (slot : Fin aafBufferSize)
    (x : Int32) : storeSample ring ch.val slot.val x =
      some (Function.update ring ch (Function.update (ring ch) slot x)) := by
  simp only [storeSample, entry_val, setEntry_val, Option.bind_eq_bind, Option.bind_some]

/-- Channels 0 and 1 of the slot. -/
theorem stored_eq (ring : SampleRing) (slot : Fin aafBufferSize) (left right : Int32) :
    ((storeSample ring 0 slot.val left).bind fun ring => storeSample ring 1 slot.val right) =
      some fun ch => if ch.val = 0 then Function.update (ring ch) slot left
        else if ch.val = 1 then Function.update (ring ch) slot right
        else ring ch := by
  have h0 := storeSample_val ring ⟨0, Nat.zero_lt_succ 7⟩ slot left
  have h1 := storeSample_val (Function.update ring ⟨0, Nat.zero_lt_succ 7⟩
    (Function.update (ring ⟨0, Nat.zero_lt_succ 7⟩) slot left)) ⟨1, Nat.succ_lt_succ
    (Nat.zero_lt_succ 6)⟩ slot right
  rw [h0, Option.bind_some, h1]
  refine congrArg some (funext fun ch => ?_)
  by_cases hzero : ch.val = 0
  · obtain rfl : ch = ⟨0, Nat.zero_lt_succ 7⟩ := Fin.ext hzero
    rfl
  · rw [if_neg hzero]
    by_cases hone : ch.val = 1
    · obtain rfl : ch = ⟨1, Nat.succ_lt_succ (Nat.zero_lt_succ 6)⟩ := Fin.ext hone
      rfl
    · rw [if_neg hone, Function.update_of_ne fun h => hone (congrArg Fin.val h),
        Function.update_of_ne fun h => hzero (congrArg Fin.val h)]

theorem copyIn_eq {m : Memory} {b : Buffer} {n : Nat} (h : Reads m b n) {blocks at_ : Nat}
    (hroom : at_ + 32 * blocks ≤ n) (a : Aaf) :
    copyIn m blocks at_ a = some (copyBlocks a (b.offset at_) blocks) := by
  induction blocks generalizing at_ a with
  | zero => rfl
  | succ blocks ih =>
    have hstored := stored_eq a.rxBuf (ringSlot a.rxWriteIdx) (getBe32 (b.offset at_)).toInt32
      (getBe32 (b.offset (at_ + 4))).toInt32
    have hleft : m.be32 at_ = some (getBe32 (b.offset at_)) := h.be32 (by omega)
    have hright : m.be32 (at_ + 4) = some (getBe32 (b.offset (at_ + 4))) := h.be32 (by omega)
    rw [copyIn, copyBlocks]
    simp only [mask_ringSlot, hleft, hright, Buffer.offset_offset, Option.bind_eq_bind,
      Option.bind_some]
    rw [← Option.bind_assoc, hstored, Option.bind_some]
    exact ih (by rw [aafChannels, aafBytesPerSample]; omega) _

theorem captureIn_eq {m : Memory} {b : Buffer} {len : Nat} (h : Reads m b (len - 14))
    (hlen : 24 ≤ len - 14) (a : Aaf) :
    captureIn m len a = some (
      if !aafFormatMatches b then { a with formatErrors := a.formatErrors + 1 }
      else copyBlocks a (b.offset aafStreamHdrLen)
        (min (getBe16 (b.offset 20)).toNat (len - 14 - aafStreamHdrLen) /
          (aafChannels * aafBytesPerSample))) := by
  have hformat : (b 16 ≠ aafFormatInt32Bit ∨
      ((getBe16 (b.offset 17) >>> 12) &&& 0xF).toUInt8 ≠ aafNsr48000 ∨
        getBe16 (b.offset 17) &&& 0x3FF ≠ aafChannels.toUInt16 ∨ b 19 ≠ aafBitDepth) ↔
      (!aafFormatMatches b) = true := by
    simp only [aafFormatMatches, aafNsr, aafChannelsPerFrame, Bool.not_eq_true',
      Bool.and_eq_false_iff, beq_eq_false_iff_ne, or_assoc]
  rw [captureIn, h 16 (by omega), h.be16 (by omega), h 19 (by omega), h.be16 (by omega)]
  simp only [Option.bind_eq_bind, Option.bind_some, hformat]
  split
  · rfl
  · refine copyIn_eq h ?_ a
    simp only [aafStreamHdrLen, aafChannels, aafBytesPerSample]
    omega

theorem aafProcessRxIn_eq (frame : Buffer) (len : Nat) (a : Aaf) :
    aafProcessRxIn (frameMemory frame len) len a = some (aafProcessRx a frame len) := by
  have h := (reads_frame frame len).offset 14
  unfold aafProcessRxIn aafProcessRx
  dsimp only
  split
  · rfl
  · split
    · rfl
    case isFalse hlen =>
      have hroom : 24 ≤ len - 14 := by
        rw [aafStreamHdrLen] at hlen
        omega
      rw [h 0 (by omega), h.bytes (by omega)]
      simp only [Option.bind_eq_bind, Option.bind_some]
      split
      · rfl
      · split
        · rfl
        · rw [aafHeaderIn, h 2 (by omega), h.be32 (by omega)]
          simp only [Option.bind_eq_bind, Option.bind_some, captureIn_eq h hroom]
          split
          · rfl
          · split <;> rfl

-- ---------------------------------------------------------------------------
-- All three
-- ---------------------------------------------------------------------------

/-- On no frame, of whatever length and content, does a parser read past the
frame, write past a table or a ring, or go on forever. -/
theorem in_frame (frame : Buffer) (len : Nat) :
    (∀ nowMs st, ∃ st', srpProcessRxIn (frameMemory frame len) len nowMs st = some st' ∧
        st'.fw = srpProcessRx st.fw frame len nowMs) ∧
      (∀ rxTs s, mcrProcessRxIn (frameMemory frame len) len rxTs s =
        some (mcrProcessRx s frame len rxTs)) ∧
      ∀ a, aafProcessRxIn (frameMemory frame len) len a = some (aafProcessRx a frame len) :=
  ⟨srpProcessRxIn_some frame len, mcrProcessRxIn_eq frame len, aafProcessRxIn_eq frame len⟩

end AvbAes3.InFrame
