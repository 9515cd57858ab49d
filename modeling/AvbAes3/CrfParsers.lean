import AvbAes3.CrfExtractor
import AvbAes3.MainLoop

/-!
# Two parsers of CRF packets

A received frame is read twice: by `mcr_process_rx`, from the MAC's slot and
without its VLAN tag, and by the extractor, whose pair `mcr_pump_hw` drains.
The firmware checks the ethertype, wants a timestamp and takes the last one;
the gateware checks neither and takes the first.
-/

namespace AvbAes3.CrfParsers

open CrfExtractor (Carries Idle)

/-- Media clock recovery bound to a stream, and the extractor set for it. -/
structure Bound where
  mcr : Mcr
  regs : McrRegs
  streamId : StreamId
  bound : mcr.binding = some streamId
  enabled : regs.crfEnabled
  hi : regs.crfStreamIdHi = streamIdHi streamId
  lo : regs.crfStreamIdLo = streamIdLo streamId

def Bound.ofBind (m : Mcr) (regs : McrRegs) (streamId : StreamId) : Bound :=
  ⟨(mcrBind m regs streamId).1, (mcrBind m regs streamId).2, streamId, rfl, rfl, rfl, rfl⟩

/-- A received frame: the slot it is written to, the time it arrives at and
the clock cycles that carry it, with the one after. -/
structure Received where
  bytes : List UInt8
  minLength : 60 ≤ bytes.length
  maxLength : bytes.length ≤ 1522
  memory : Buffer
  time : PtpTimestamp
  seconds : time.seconds < 4294967296
  cycles : List CrfCycle
  final : CrfCycle
  next : CrfCycle
  carries : Carries cycles final bytes time

namespace Received

variable (r : Received)

def slot : Buffer := r.memory.copy 0 r.bytes

def len : Nat := r.bytes.length

/-- The AVTPDU behind the ethertype, or behind a tag. -/
def pdu : Buffer := r.slot.offset (14 + vlanLen r.slot r.len)

def ethertype : UInt16 := getBe16 (r.slot.offset (12 + vlanLen r.slot r.len))

def dataLength : UInt16 := getBe16 (r.pdu.offset 16)

def timestamp (i : Nat) : UInt64 := getBe64 (r.pdu.offset (crfHdrLen + 8 * i))

/-- The timestamps the frame has. -/
def tsCount : Nat := crfTsCount r.pdu (r.len - vlanLen r.slot r.len)

def offsetOf (i : Nat) : Int64 := (r.timestamp i - timestampNs r.time).toInt64

end Received

-- ---------------------------------------------------------------------------
-- What the paths make of a frame
-- ---------------------------------------------------------------------------

/-- The offset a call leaves, if it takes in a sample. -/
def taken (before after : Mcr) : Option Int64 :=
  if after.rxCount = before.rxCount then none else some after.latestOffsetNs

/-- From the slot, by `dispatch_rx`. -/
def slotOffset (b : Bound) (scratch : Buffer) (r : Received) : Option Int64 :=
  let rx := rxFrame r.slot r.len scratch
  if rxHandler rx.frame rx.len = some .crf then
    taken b.mcr (mcrProcessRx b.mcr rx.frame rx.len r.time)
  else none

/-- From the extractor, by `mcr_pump_hw`. -/
def fifoOffset (b : Bound) (e : CrfExtractor) (r : Received) : Option Int64 :=
  taken b.mcr
    (mcrPumpHw b.mcr b.regs (e.run b.regs (r.cycles ++ [r.final, r.next])).fifo).1

/-- Both ignore the frame, or both take the same offset from it. -/
def Agree (b : Bound) (r : Received) : Prop :=
  ∀ scratch e, e.Idle → slotOffset b scratch r = fifoOffset b e r

/-- Subtype and stream id are those of the stream's packets. -/
def OfStream (b : Bound) (r : Received) : Prop :=
  r.pdu 0 = avtpSubtypeCrf ∧ (r.pdu.offset 4).bytes 8 = b.streamId

instance (b : Bound) (r : Received) : Decidable (OfStream b r) := inferInstanceAs (Decidable (_ ∧ _))

/-- The ethertype is AVTP's, and the last timestamp is there and is the
first. -/
structure Regular (r : Received) : Prop where
  ethertype : r.ethertype = avtpEthertype
  dataLength : 8 ≤ r.dataLength
  timestamp : r.timestamp (r.tsCount - 1) = r.timestamp 0

/-- The frame `dispatch_rx` hands on as CRF goes to `mcr_process_rx`. -/
theorem dispatchRx_crf (fw : Firmware) (slot : Buffer) (len : Nat) (r : Readings)
    (h : rxHandler (rxFrame slot len fw.scratch).frame (rxFrame slot len fw.scratch).len =
      some .crf) :
    (dispatchRx fw slot len r).mcr = mcrProcessRx fw.mcr (rxFrame slot len fw.scratch).frame
      (rxFrame slot len fw.scratch).len r.tsu.rxTs := by
  rw [dispatchRx, h]
  rfl

-- ---------------------------------------------------------------------------
-- The strip of the tag
-- ---------------------------------------------------------------------------

theorem vlanLen_cases (slot : Buffer) (len : Nat) : vlanLen slot len = 0 ∨ vlanLen slot len = 4 := by
  rw [vlanLen]
  split
  · exact .inr rfl
  · exact .inl rfl

/-- What a handler is given is the frame without its tag. -/
theorem rxFrame_byte {slot : Buffer} {len : Nat} (scratch : Buffer) (hlen : len ≤ 1522) {i : Nat}
    (hlow : 12 ≤ i) (hhigh : i + vlanLen slot len < len) :
    (rxFrame slot len scratch).frame i = slot (vlanLen slot len + i) := by
  have hmin : min len scratchSize = len := Nat.min_eq_left (by rw [scratchSize]; omega)
  rw [rxFrame]
  dsimp only
  split
  · rfl
  · rw [hmin]
    rcases vlanLen_cases slot len with hv | hv
    · rw [hv] at hhigh
      rw [if_pos hv, hv, Nat.zero_add]
      exact Buffer.copy_take (Nat.zero_le _) (by omega)
    · rw [hv] at hhigh
      rw [if_neg (by omega), hv]
      dsimp only
      rw [Buffer.copy_take hlow (by omega), Buffer.offset_apply, Buffer.copy_take (Nat.zero_le _) (by omega)]
      congr 1
      omega

theorem rxFrame_len {slot : Buffer} {len : Nat} (scratch : Buffer) (hlen : len ≤ 1522) :
    (rxFrame slot len scratch).len = len - vlanLen slot len := by
  have hmin : min len scratchSize = len := Nat.min_eq_left (by rw [scratchSize]; omega)
  rw [rxFrame]
  dsimp only
  split
  · rfl
  · rw [hmin]
    rcases vlanLen_cases slot len with hv | hv
    · rw [if_pos hv, hv, Nat.sub_zero]
    · rw [if_neg (by omega), hv]

theorem rxHandler_crf_iff {frame : Buffer} {len : Nat} (hlen : 15 ≤ len) :
    rxHandler frame len = some .crf ↔
      getBe16 (frame.offset 12) = avtpEthertype ∧ frame 14 = avtpSubtypeCrf := by
  have hne : avtpEthertype ≠ ptpEthertype := by decide
  constructor
  · intro h
    unfold rxHandler at h
    dsimp only at h
    split_ifs at h with _ _ hether _ _ hsubtype
    all_goals first
      | exact ⟨hether, hsubtype⟩
      | cases h
  · rintro ⟨hether, hsubtype⟩
    unfold rxHandler
    dsimp only
    rw [if_neg (by omega), hether, if_neg hne, if_pos rfl, if_neg (by omega), hsubtype]
    rfl

section Slot

variable (scratch : Buffer)

theorem slot_handler (r : Received) :
    rxHandler (rxFrame r.slot r.len scratch).frame (rxFrame r.slot r.len scratch).len =
        some .crf ↔ r.ethertype = avtpEthertype ∧ r.pdu 0 = avtpSubtypeCrf := by
  have hmin : 60 ≤ r.len := r.minLength
  have hmax : r.len ≤ 1522 := r.maxLength
  have hv := vlanLen_cases r.slot r.len
  have hbyte (i : Nat) (hlow : 12 ≤ i) (hhigh : i < 15) :
      (rxFrame r.slot r.len scratch).frame i = r.slot (vlanLen r.slot r.len + i) :=
    rxFrame_byte scratch hmax hlow (by omega)
  rw [rxHandler_crf_iff (by rw [rxFrame_len scratch hmax]; omega), hbyte 14 (by decide) (by decide),
    Received.ethertype, Received.pdu, getBe16, getBe16]
  simp only [Buffer.offset_apply]
  rw [hbyte (12 + 0) (by decide) (by decide), hbyte (12 + 1) (by decide) (by decide)]
  simp only [Nat.add_comm, Nat.add_assoc, Nat.zero_add]

/-- Then the frame is used in place. -/
theorem slot_inPlace {r : Received} (hether : r.ethertype = avtpEthertype)
    (hsubtype : r.pdu 0 = avtpSubtypeCrf) :
    rxFrame r.slot r.len scratch =
      ⟨r.slot.offset (vlanLen r.slot r.len), r.len - vlanLen r.slot r.len, scratch⟩ := by
  have hmin : 60 ≤ r.len := r.minLength
  have hv := vlanLen_cases r.slot r.len
  have hdata : isAvtpData r.slot r.len (vlanLen r.slot r.len) := by
    have hsubtype' : r.slot (14 + vlanLen r.slot r.len) = avtpSubtypeCrf := hsubtype
    rw [isAvtpData, Bool.and_eq_true, Bool.and_eq_true, Bool.or_eq_true]
    exact ⟨⟨decide_eq_true (by omega), beq_iff_eq.mpr hether⟩, .inr (beq_iff_eq.mpr hsubtype')⟩
  rw [rxFrame]
  dsimp only
  rw [if_pos hdata]

end Slot

-- ---------------------------------------------------------------------------
-- The firmware's parser
-- ---------------------------------------------------------------------------

theorem taken_sample {before after : Mcr} (h : after.rxCount = before.rxCount + 1) :
    taken before after = some after.latestOffsetNs := by
  rw [taken, if_neg]
  rw [h]
  exact fun heq => absurd (UInt32.add_eq_left.mp heq) (by decide)

theorem taken_same {before after : Mcr} (h : after.rxCount = before.rxCount) :
    taken before after = none := by
  rw [taken, if_pos h]

/-- A PDU of the stream with a timestamp is a sample, and no other is. -/
theorem taken_processRx {m : Mcr} {streamId : StreamId} (hbound : m.binding = some streamId)
    {frame : Buffer} {len : Nat} (time : PtpTimestamp) (hlen : 34 ≤ len)
    (hsubtype : frame 14 = avtpSubtypeCrf) :
    taken m (mcrProcessRx m frame len time) =
      if ((frame.offset 14).offset 4).bytes 8 = streamId ∧
          crfTsCount (frame.offset 14) len ≠ 0 then
        some (getBe64 ((frame.offset 14).offset
          (crfHdrLen + 8 * (crfTsCount (frame.offset 14) len - 1))) - timestampNs time).toInt64
      else none := by
  obtain ⟨hm, rfl⟩ := Mcr.binding_eq_some.mp hbound
  rw [mcrProcessRx, hm]
  dsimp only
  rw [Bool.not_true, if_neg Bool.false_ne_true, if_neg (by rw [crfHdrLen]; omega),
    if_neg (fun h => h hsubtype)]
  by_cases hsid : ((frame.offset 14).offset 4).bytes 8 = m.streamId
  · by_cases hcount : crfTsCount (frame.offset 14) len = 0
    · rw [if_neg (fun h => h hsid), if_pos hcount, if_neg (fun h => h.2 hcount)]
      exact taken_same rfl
    · rw [if_neg (fun h => h hsid), if_neg hcount]
      exact (taken_sample rfl).trans (if_pos ⟨hsid, hcount⟩).symm
  · rw [if_pos hsid, if_neg (fun h => hsid h.1)]
    exact taken_same rfl

/-- A frame of 60 bytes has room for a timestamp. -/
theorem tsCount_ne_zero_iff (r : Received) : r.tsCount ≠ 0 ↔ 8 ≤ r.dataLength := by
  have hmin : 60 ≤ r.len := r.minLength
  have hv := vlanLen_cases r.slot r.len
  rw [UInt16.le_iff_toNat_le, show (8 : UInt16).toNat = 8 from rfl, Received.tsCount, crfTsCount,
    Received.dataLength, crfHdrLen]
  split <;> omega

/-- What `mcr_process_rx` makes of a frame it is given. -/
theorem taken_slot {m : Mcr} {streamId : StreamId} (hbound : m.binding = some streamId)
    (scratch : Buffer) {r : Received} (hether : r.ethertype = avtpEthertype)
    (hsubtype : r.pdu 0 = avtpSubtypeCrf) (time : PtpTimestamp) :
    taken m (mcrProcessRx m (rxFrame r.slot r.len scratch).frame
        (rxFrame r.slot r.len scratch).len time) =
      if (r.pdu.offset 4).bytes 8 = streamId ∧ 8 ≤ r.dataLength then
        some (r.timestamp (r.tsCount - 1) - timestampNs time).toInt64
      else none := by
  have hmin : 60 ≤ r.len := r.minLength
  have hv := vlanLen_cases r.slot r.len
  have hpdu : (r.slot.offset (vlanLen r.slot r.len)).offset 14 = r.pdu := by
    funext i
    simp only [Received.pdu, Buffer.offset_apply]
    congr 1
    omega
  have hsubtype' : r.slot.offset (vlanLen r.slot r.len) 14 = avtpSubtypeCrf :=
    (congrFun hpdu 0).trans hsubtype
  rw [slot_inPlace scratch hether hsubtype]
  dsimp only
  rw [taken_processRx hbound time (by omega) hsubtype', hpdu]
  exact if_congr (and_congr_right' (tsCount_ne_zero_iff r)) rfl rfl

/-- What the slot's path makes of a frame. -/
theorem slotOffset_eq (b : Bound) (scratch : Buffer) (r : Received) :
    slotOffset b scratch r =
      if OfStream b r ∧ r.ethertype = avtpEthertype ∧ 8 ≤ r.dataLength then
        some (r.offsetOf (r.tsCount - 1))
      else none := by
  rw [slotOffset]
  by_cases hcrf : r.ethertype = avtpEthertype ∧ r.pdu 0 = avtpSubtypeCrf
  · rw [if_pos ((slot_handler scratch r).mpr hcrf), taken_slot b.bound scratch hcrf.1 hcrf.2]
    refine if_congr ?_ rfl rfl
    rw [OfStream]
    exact ⟨fun h => ⟨⟨hcrf.2, h.1⟩, hcrf.1, h.2⟩, fun h => ⟨h.1.2, h.2.2⟩⟩
  · rw [if_neg fun h => hcrf ((slot_handler scratch r).mp h),
      if_neg fun h => hcrf ⟨h.2.1, h.1.1⟩]

-- ---------------------------------------------------------------------------
-- The gateware's
-- ---------------------------------------------------------------------------

/-- The servo leaves the sample and the counts as they are. -/
theorem mcrServoUpdate_sample (m : Mcr) (regs : McrRegs) :
    (mcrServoUpdate m regs).1.latestOffsetNs = m.latestOffsetNs ∧
      (mcrServoUpdate m regs).1.rxCount = m.rxCount := by
  obtain ⟨_, _, _, _, _, _, _, _, _, _, _, hwrites⟩ := mcrServoUpdate_writes m regs
  rw [hwrites]
  exact ⟨rfl, rfl⟩

theorem mcrTakeSample_sample (m : Mcr) (regs : McrRegs) (sample : CrfSample) :
    (mcrTakeSample m regs sample).1.latestOffsetNs =
        (sample.avtpTs - timestampNs sample.localTs).toInt64 ∧
      (mcrTakeSample m regs sample).1.rxCount = m.rxCount + 1 :=
  mcrServoUpdate_sample ..

theorem taken_pumpHw (b : Bound) (sample : CrfSample) :
    taken b.mcr (mcrPumpHw b.mcr b.regs [sample]).1 =
      some (sample.avtpTs - timestampNs sample.localTs).toInt64 := by
  have hm := (Mcr.binding_eq_some.mp b.bound).1
  have hsample := mcrTakeSample_sample b.mcr b.regs sample
  rw [mcrPumpHw, hm, Bool.not_true, if_neg Bool.false_ne_true]
  exact (taken_sample hsample.2).trans (congrArg some hsample.1)

theorem taken_pumpHw_empty (b : Bound) : taken b.mcr (mcrPumpHw b.mcr b.regs []).1 = none := by
  rw [mcrPumpHw]
  split <;> exact taken_same rfl

theorem words_inj {a b c d : UInt32} :
    (a.toUInt64 <<< 32 ||| b.toUInt64 = c.toUInt64 <<< 32 ||| d.toUInt64) ↔ a = c ∧ b = d := by
  have hnat (x y : UInt32) : (x.toUInt64 <<< 32 ||| y.toUInt64).toNat =
      x.toNat * 4294967296 + y.toNat := by
    have hx := x.toNat_lt
    have hy := y.toNat_lt
    simp only [UInt64.toNat_or, UInt64.toNat_shiftLeft, UInt32.toNat_toUInt64,
      UInt64.reduceToNat, Nat.reduceMod]
    rw [Nat.mod_eq_of_lt (by rw [Nat.shiftLeft_eq]; omega),
      ← Nat.shiftLeft_add_eq_or_of_lt (by omega), Nat.shiftLeft_eq]
  constructor
  · intro h
    have heq := congrArg UInt64.toNat h
    rw [hnat, hnat] at heq
    have hb := b.toNat_lt
    have hd := d.toNat_lt
    exact ⟨UInt32.toNat_inj.mp (by omega), UInt32.toNat_inj.mp (by omega)⟩
  · rintro ⟨rfl, rfl⟩
    rfl

/-- Registers that hold a stream id compare as it does. -/
theorem idRegisters_hold {hi lo : UInt32} {streamId : StreamId} (hhi : hi = streamIdHi streamId)
    (hlo : lo = streamIdLo streamId) (p : Buffer) :
    getBe64 p = hi.toUInt64 <<< 32 ||| lo.toUInt64 ↔ p.bytes 8 = streamId := by
  have hbytes : getBe32 p = streamIdHi (p.bytes 8) ∧
      getBe32 (p.offset 4) = streamIdLo (p.bytes 8) := ⟨rfl, rfl⟩
  rw [getBe64, hhi, hlo, words_inj, hbytes.1, hbytes.2]
  constructor
  · rintro ⟨hhi, hlo⟩
    have hlist := regStreamId_eq (p.bytes 8)
    rw [hhi, hlo, regStreamId_eq] at hlist
    exact Vector.toList_inj.mp hlist.symm
  · intro h
    rw [h]
    exact ⟨rfl, rfl⟩

theorem cfgSid_holds {regs : McrRegs} {streamId : StreamId}
    (hhi : regs.crfStreamIdHi = streamIdHi streamId)
    (hlo : regs.crfStreamIdLo = streamIdLo streamId) (p : Buffer) :
    getBe64 p = CrfExtractor.cfgSid regs ↔ p.bytes 8 = streamId := idRegisters_hold hhi hlo p

theorem cfgSid_iff (b : Bound) (p : Buffer) :
    getBe64 p = CrfExtractor.cfgSid b.regs ↔ p.bytes 8 = b.streamId :=
  cfgSid_holds b.hi b.lo p

theorem getBe16_iff (p : Buffer) (v : UInt16) :
    getBe16 p = v ↔ p 0 = (v >>> 8).toUInt8 ∧ p 1 = v.toUInt8 := by
  refine ⟨?_, fun h => getBe16_eq h.1 h.2⟩
  rintro rfl
  rw [getBe16]
  generalize p 0 = a
  generalize p 1 = b
  have ha := a.toNat_lt
  have hb := b.toNat_lt
  have hnat : (a.toUInt16 <<< 8 ||| b.toUInt16).toNat = a.toNat * 256 + b.toNat := by
    simp only [UInt16.toNat_or, UInt16.toNat_shiftLeft, UInt8.toNat_toUInt16,
      UInt16.reduceToNat, Nat.reduceMod]
    rw [Nat.mod_eq_of_lt (by rw [Nat.shiftLeft_eq]; omega),
      ← Nat.shiftLeft_add_eq_or_of_lt (by omega), Nat.shiftLeft_eq]
  constructor
  · apply UInt8.toNat_inj.mp
    rw [UInt16.toNat_toUInt8, UInt16.toNat_shiftRight, hnat, Nat.shiftRight_eq_div_pow]
    simp only [UInt16.reduceToNat, Nat.reduceMod]
    omega
  · apply UInt8.toNat_inj.mp
    rw [UInt16.toNat_toUInt8, hnat]
    omega

/-- Both parsers see the same tag. -/
theorem avtpAt_slot (r : Received) : CrfExtractor.avtpAt r.slot = 14 + vlanLen r.slot r.len := by
  have hmin : 60 ≤ r.len := r.minLength
  have htag : (r.slot 12 == 0x81 && r.slot 13 == 0x00) = true ↔
      getBe16 (r.slot.offset 12) = 0x8100 := by
    rw [getBe16_iff, Bool.and_eq_true, beq_iff_eq, beq_iff_eq]
    rfl
  rw [CrfExtractor.avtpAt, vlanLen]
  by_cases h : getBe16 (r.slot.offset 12) = 0x8100
  · rw [if_pos (htag.mpr h), if_pos ⟨by omega, h⟩]
  · rw [if_neg fun hv => h (htag.mp hv), if_neg fun hv => h hv.2]

theorem isOfStream_iff (b : Bound) (r : Received) :
    CrfExtractor.isOfStream r.slot b.regs ↔ OfStream b r := by
  have hsid : r.slot.offset (14 + vlanLen r.slot r.len + 4) = r.pdu.offset 4 := by
    funext i
    simp only [Received.pdu, Buffer.offset_apply, Nat.add_assoc]
  rw [CrfExtractor.isOfStream, avtpAt_slot, b.enabled, Bool.true_and, Bool.and_eq_true, beq_iff_eq,
    beq_iff_eq, cfgSid_iff, hsid]
  rfl

theorem timestampNs_localTs {time : PtpTimestamp} (h : time.seconds < 4294967296) :
    timestampNs (CrfExtractor.localTs time) = timestampNs time := by
  have hseconds : time.seconds.toUInt32.toUInt64 = time.seconds := by
    have hlt : time.seconds.toNat < 4294967296 := UInt64.lt_iff_toNat_lt.mp h
    apply UInt64.toNat_inj.mp
    rw [UInt32.toNat_toUInt64, UInt64.toNat_toUInt32, Nat.mod_eq_of_lt hlt]
  rw [timestampNs, timestampNs, CrfExtractor.localTs, hseconds]

/-- What the FIFO's path makes of a frame. -/
theorem fifoOffset_eq (b : Bound) {e : CrfExtractor} (hidle : e.Idle) (r : Received) :
    fifoOffset b e r = if OfStream b r then some (r.offsetOf 0) else none := by
  have hmin : 60 ≤ r.bytes.length := r.minLength
  have hslot : r.slot.Holds 0 r.bytes := Buffer.holds_copy r.memory r.bytes
  rw [fifoOffset, CrfExtractor.step_carried hidle r.carries (by omega) b.regs hslot]
  have hpair : r.slot.offset (CrfExtractor.avtpAt r.slot + 20) = r.pdu.offset (crfHdrLen + 8 * 0) := by
    funext i
    rw [avtpAt_slot]
    simp only [Received.pdu, Buffer.offset_apply, Nat.add_assoc, crfHdrLen, Nat.mul_zero,
      Nat.zero_add]
  by_cases h : OfStream b r
  · rw [if_pos ((isOfStream_iff b r).mpr h), if_pos h, taken_pumpHw, CrfExtractor.pairOf]
    dsimp only
    rw [timestampNs_localTs r.seconds, hpair, Received.offsetOf, Received.timestamp]
  · rw [if_neg fun hs => h ((isOfStream_iff b r).mp hs), if_neg h, taken_pumpHw_empty]

-- ---------------------------------------------------------------------------
-- Agreement
-- ---------------------------------------------------------------------------

theorem offsetOf_inj {r : Received} {i j : Nat} :
    r.offsetOf i = r.offsetOf j ↔ r.timestamp i = r.timestamp j := by
  constructor
  · intro h
    have hsub := congrArg Int64.toUInt64 h
    rw [Received.offsetOf, Received.offsetOf, UInt64.toUInt64_toInt64, UInt64.toUInt64_toInt64] at hsub
    exact (UInt64.sub_left_inj _).mp hsub
  · intro h
    rw [Received.offsetOf, Received.offsetOf, h]

/-- The parsers agree on a frame, if and only if it is not one of the
stream's by subtype and stream id, or it is an AVTP frame whose last timestamp
is there and is the first. -/
theorem agree_iff (b : Bound) (r : Received) : Agree b r ↔ (OfStream b r → Regular r) := by
  have heq (scratch : Buffer) (e : CrfExtractor) (hidle : e.Idle) :
      slotOffset b scratch r = fifoOffset b e r ↔ (OfStream b r → Regular r) := by
    rw [slotOffset_eq, fifoOffset_eq b hidle]
    by_cases hstream : OfStream b r
    · by_cases hread : r.ethertype = avtpEthertype ∧ 8 ≤ r.dataLength
      · rw [if_pos ⟨hstream, hread⟩, if_pos hstream, Option.some_inj, offsetOf_inj]
        exact ⟨fun h _ => ⟨hread.1, hread.2, h⟩, fun h => (h hstream).timestamp⟩
      · rw [if_neg fun h => hread h.2, if_pos hstream]
        refine ⟨fun h => (by cases h), fun h => ?_⟩
        exact absurd ⟨(h hstream).ethertype, (h hstream).dataLength⟩ hread
    · rw [if_neg fun h => hstream h.1, if_neg hstream]
      exact iff_of_true rfl fun h => absurd h hstream
  constructor
  · intro h
    exact (heq (fun _ => 0) {} ⟨rfl, rfl, rfl⟩).mp (h _ _ ⟨rfl, rfl, rfl⟩)
  · intro h scratch e hidle
    exact (heq scratch e hidle).mpr h

-- ---------------------------------------------------------------------------
-- Two timestamps
-- ---------------------------------------------------------------------------

/-- The beats of a frame, one in each cycle. -/
def beatsOf (time : PtpTimestamp) : List UInt8 → List CrfCycle
  | a :: b :: c :: d :: rest =>
    let word := a.toUInt32 ||| b.toUInt32 <<< 8 ||| c.toUInt32 <<< 16 ||| d.toUInt32 <<< 24
    ⟨⟨true, rest.isEmpty, word⟩, time, false⟩ :: beatsOf time rest
  | _ => []

def crfStream : StreamId := eightBytes 0 14 85 9 6 233 0 4

/-- A packet of two timestamps, 1 ms apart. -/
def twoTimestamps : List UInt8 :=
  boardMac.toList ++ boardMac.toList ++ be16 avtpEthertype ++
    [avtpSubtypeCrf, 0, 0, crfTypeAudioSample] ++ crfStream.toList ++ be32 48000 ++ be16 16 ++
    be16 48 ++ (be32 0 ++ be32 1000000) ++ (be32 0 ++ be32 2000000) ++ zeros 10

theorem twoTimestamps_carries :
    Carries ((beatsOf {} twoTimestamps).take 14) ⟨⟨true, true, 0⟩, {}, false⟩ twoTimestamps {} where
  body := by decide +kernel
  last := ⟨rfl, rfl⟩
  data := by decide +kernel
  time := by decide +kernel

def received : Received where
  bytes := twoTimestamps
  minLength := by decide
  maxLength := by decide
  memory := fun _ => 0
  time := {}
  seconds := by decide
  cycles := (beatsOf {} twoTimestamps).take 14
  final := ⟨⟨true, true, 0⟩, {}, false⟩
  next := ⟨⟨false, false, 0⟩, {}, false⟩
  carries := twoTimestamps_carries

theorem lastTimestamp_differs : ¬ Agree (.ofBind {} {} crfStream) received := by
  rw [agree_iff]
  intro h
  have hstream : OfStream (.ofBind {} {} crfStream) received := by decide +kernel
  have hdiffer : received.timestamp (received.tsCount - 1) ≠ received.timestamp 0 := by
    decide +kernel
  exact hdiffer (h hstream).timestamp

end AvbAes3.CrfParsers
