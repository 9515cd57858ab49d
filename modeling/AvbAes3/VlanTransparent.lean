import AvbAes3.MainLoop

/-!
# VLAN tags and dispatch

A frame and the same frame with a tag behind its addresses come to the same
handler. Stream data is handed on where it lies, from the tag's end on, so
its addresses are not before it; everything else is copied, and the copy is
closed over the tag.
-/

namespace AvbAes3.VlanTransparent

variable {f f' : Buffer} {len : Nat}

/-- `f'` is `f` with a tag of any TCI inserted after its addresses. -/
structure Tagged (f f' : Buffer) (len : Nat) : Prop where
  addresses : ∀ i < 12, f' i = f i
  tpid : getBe16 (f'.offset 12) = 0x8100
  rest : ∀ i, 12 ≤ i → i < len → f' (i + 4) = f i

/-- Where the bytes that a handler can read begin. -/
def firstByte : Option RxHandler → Nat
  | some .aaf | some .crf => 12
  | _ => 0

/-- The handler a frame is passed to, or none. -/
def handlerOf (slot : Buffer) (len : Nat) (scratch : Buffer) : Option RxHandler :=
  rxHandler (rxFrame slot len scratch).frame (rxFrame slot len scratch).len

/-- The two frames reach one handler, with one length and the same bytes. -/
structure SameTo (f f' : Buffer) (len : Nat) (scratch scratch' : Buffer) : Prop where
  handler : handlerOf f' (len + 4) scratch' = handlerOf f len scratch
  length : (rxFrame f len scratch).len = len ∧ (rxFrame f' (len + 4) scratch').len = len
  bytes : ∀ i < len, firstByte (handlerOf f len scratch) ≤ i →
    (rxFrame f' (len + 4) scratch').frame i = (rxFrame f len scratch).frame i

/-- The handler called with a frame, or none. -/
def call (fw : Firmware) (frame : Buffer) (len : Nat) (r : Readings) : Option RxHandler → Firmware
  | some handler => rxHandle fw frame len r handler
  | none => fw

/-- `dispatch_rx` comes to the handler with the frame and the length, having
written nothing but `scratch`. -/
def Passes (fw : Firmware) (slot : Buffer) (len : Nat) (handler : Option RxHandler)
    (frame : Buffer) (n : Nat) : Prop :=
  ∃ scratch, ∀ r, dispatchRx fw slot len r = call { fw with scratch := scratch } frame n r handler

/-- `dispatch_rx` passes the two frames on alike. -/
def PassesAlike (fw fw' : Firmware) (f f' : Buffer) (len : Nat) : Prop :=
  ∃ handler frame frame', Passes fw f len handler frame len ∧
    Passes fw' f' (len + 4) handler frame' len ∧
      ∀ i < len, firstByte handler ≤ i → frame' i = frame i

-- ---------------------------------------------------------------------------
-- The peek
-- ---------------------------------------------------------------------------

theorem vlanLen_untagged (h : getBe16 (f.offset 12) ≠ 0x8100) : vlanLen f len = 0 :=
  if_neg fun htag => h htag.2

theorem Tagged.vlanLen (h : Tagged f f' len) (hmin : 14 ≤ len) : vlanLen f' (len + 4) = 4 :=
  if_pos ⟨by omega, h.tpid⟩

theorem Tagged.getBe16_rest (h : Tagged f f' len) (hmin : 14 ≤ len) :
    getBe16 (f'.offset 16) = getBe16 (f.offset 12) := by
  refine getBe16_congr fun i hi => ?_
  have hrest := h.rest (12 + i) (by omega) (by omega)
  rw [Buffer.offset_apply, Buffer.offset_apply, ← hrest]
  exact congrArg f' (by omega)

/-- The peek behind the tag finds what it finds without one. -/
theorem Tagged.isAvtpData (h : Tagged f f' len) (hmin : 14 ≤ len) :
    isAvtpData f' (len + 4) 4 = isAvtpData f len 0 := by
  rw [AvbAes3.isAvtpData, AvbAes3.isAvtpData, h.getBe16_rest hmin]
  by_cases hlen : 15 ≤ len
  · have hsubtype : f' (14 + 4) = f 14 := h.rest 14 (by decide) (by omega)
    rw [hsubtype, decide_eq_true (by omega), decide_eq_true (by omega)]
  · rw [decide_eq_false (by omega), decide_eq_false (by omega)]
    rfl

-- ---------------------------------------------------------------------------
-- What is handed on
-- ---------------------------------------------------------------------------

/-- The copy of the tagged frame, closed over the tag. -/
theorem Tagged.closed (h : Tagged f f' len) (hmin : 14 ≤ len) (scratch : Buffer) {i : Nat}
    (hi : i < len) :
    (scratch.copy 0 (f'.take (len + 4))).copy 12
        (((scratch.copy 0 (f'.take (len + 4))).offset 16).take (len + 4 - 16)) i = f i := by
  by_cases hlow : i < 12
  · rw [Buffer.copy_outside (.inl hlow), Buffer.copy_take (Nat.zero_le i) (by omega)]
    exact h.addresses i hlow
  · rw [Buffer.copy_take (by omega) (by omega), Buffer.offset_apply,
      Buffer.copy_take (Nat.zero_le _) (by omega), Nat.sub_zero,
      ← h.rest i (by omega) hi]
    exact congrArg f' (by omega)

/-- Stream data is not copied. -/
theorem rxFrame_inPlace {slot : Buffer} {v : Nat} (hv : vlanLen slot len = v)
    (hdata : isAvtpData slot len v = true) (scratch : Buffer) :
    rxFrame slot len scratch = ⟨slot.offset v, len - v, scratch⟩ := by
  rw [rxFrame]
  dsimp only
  rw [hv, if_pos hdata]

theorem rxFrame_copied (hv : vlanLen f len = 0) (hdata : isAvtpData f len 0 = false)
    (hmax : len ≤ 1596) (scratch : Buffer) :
    rxFrame f len scratch = ⟨scratch.copy 0 (f.take len), len, scratch.copy 0 (f.take len)⟩ := by
  have hmin : min len scratchSize = len := Nat.min_eq_left (Nat.le_trans hmax (by decide))
  rw [rxFrame]
  dsimp only
  rw [hv, hdata, if_neg Bool.false_ne_true, if_pos rfl, hmin]

theorem rxFrame_closed (hv : vlanLen f' (len + 4) = 4) (hdata : isAvtpData f' (len + 4) 4 = false)
    (hmax : len ≤ 1596) (scratch : Buffer) :
    (rxFrame f' (len + 4) scratch).len = len ∧
      (rxFrame f' (len + 4) scratch).frame = (scratch.copy 0 (f'.take (len + 4))).copy 12
        (((scratch.copy 0 (f'.take (len + 4))).offset 16).take (len + 4 - 16)) := by
  have hmin : min (len + 4) scratchSize = len + 4 := by
    refine Nat.min_eq_left ?_
    rw [scratchSize]
    omega
  rw [rxFrame]
  dsimp only
  rw [hv, hdata, if_neg Bool.false_ne_true, if_neg (by decide), hmin]
  exact ⟨rfl, rfl⟩

/-- The demultiplexing reads the ethertype and the byte behind it. -/
theorem rxHandler_congr {frame frame' : Buffer} (hmin : 14 ≤ len)
    (h : ∀ i, 12 ≤ i → i < len → frame' i = frame i) :
    rxHandler frame' len = rxHandler frame len := by
  have hethertype : getBe16 (frame'.offset 12) = getBe16 (frame.offset 12) :=
    getBe16_congr fun i hi => h (12 + i) (by omega) (by omega)
  rw [rxHandler, rxHandler, hethertype]
  by_cases hlen : len < 15
  · simp only [if_pos hlen]
  · rw [h 14 (by decide) (by omega)]

/-- Data that the peek finds has its ethertype and subtype. -/
theorem handler_inPlace {slot : Buffer} {v : Nat} (hdata : isAvtpData slot len v = true) :
    rxHandler (slot.offset v) (len - v) = some .aaf ∨
      rxHandler (slot.offset v) (len - v) = some .crf := by
  rw [AvbAes3.isAvtpData, Bool.and_eq_true, Bool.and_eq_true, Bool.or_eq_true, decide_eq_true_eq,
    beq_iff_eq, beq_iff_eq, beq_iff_eq] at hdata
  obtain ⟨⟨hlen, hethertype⟩, hsubtype⟩ := hdata
  have hat : getBe16 ((slot.offset v).offset 12) = avtpEthertype := by
    rw [Buffer.offset_offset, Nat.add_comm]
    exact hethertype
  have hbyte : (slot.offset v) 14 = slot (14 + v) := congrArg slot (Nat.add_comm v 14)
  rw [rxHandler, hat, hbyte, if_neg (by omega), if_neg (by decide), if_pos rfl, if_neg (by omega)]
  rcases hsubtype with haaf | hcrf
  · rw [haaf]
    exact .inl rfl
  · rw [hcrf]
    exact .inr rfl

/-- The handlers of stream data begin behind the ethertype. -/
theorem rxHandle_behind {frame frame' : Buffer} {handler : RxHandler}
    (hdata : handler = .aaf ∨ handler = .crf) (h : frame'.offset 14 = frame.offset 14)
    (fw : Firmware) (len : Nat) (r : Readings) :
    rxHandle fw frame' len r handler = rxHandle fw frame len r handler := by
  rcases hdata with rfl | rfl
  · rw [rxHandle, rxHandle, aafProcessRx, aafProcessRx, h]
  · rw [rxHandle, rxHandle, mcrProcessRx, mcrProcessRx, h]

theorem sameTo_tagged (hmin : 14 ≤ len) (hmax : len ≤ 1596)
    (huntagged : getBe16 (f.offset 12) ≠ 0x8100) (htagged : Tagged f f' len)
    (scratch scratch' : Buffer) : SameTo f f' len scratch scratch' := by
  have hv : vlanLen f len = 0 := vlanLen_untagged huntagged
  have hv' := htagged.vlanLen hmin
  cases hdata : isAvtpData f len 0 with
  | true =>
    have hdata' : isAvtpData f' (len + 4) 4 = true := by
      rw [htagged.isAvtpData hmin, hdata]
    have hrx := rxFrame_inPlace hv hdata scratch
    have hrx' := rxFrame_inPlace hv' hdata' scratch'
    have hbytes : ∀ i, 12 ≤ i → i < len → f' (4 + i) = f (0 + i) := fun i hlow hi => by
      rw [Nat.add_comm, Nat.zero_add]
      exact htagged.rest i hlow hi
    have hhandler : handlerOf f' (len + 4) scratch' = handlerOf f len scratch := by
      rw [handlerOf, handlerOf, hrx, hrx']
      exact rxHandler_congr hmin hbytes
    refine ⟨hhandler, ?_, fun i hi hfirst => ?_⟩
    · rw [hrx, hrx']
      exact ⟨rfl, rfl⟩
    · have hlow : 12 ≤ i := by
        rcases handler_inPlace hdata with haaf | hcrf
        · rwa [handlerOf, hrx, haaf] at hfirst
        · rwa [handlerOf, hrx, hcrf] at hfirst
      rw [hrx, hrx']
      exact hbytes i hlow hi
  | false =>
    have hdata' : isAvtpData f' (len + 4) 4 = false := by
      rw [htagged.isAvtpData hmin, hdata]
    have hrx := rxFrame_copied hv hdata hmax scratch
    obtain ⟨hlen', hframe'⟩ := rxFrame_closed hv' hdata' hmax scratch'
    have hbytes : ∀ i < len, (rxFrame f' (len + 4) scratch').frame i =
        (rxFrame f len scratch).frame i := fun i hi => by
      rw [hframe', hrx, htagged.closed hmin scratch' hi]
      exact (Buffer.copy_take (Nat.zero_le i) (by omega)).symm
    have hlen : (rxFrame f len scratch).len = len := by rw [hrx]
    refine ⟨?_, ⟨hlen, hlen'⟩, fun i hi _ => hbytes i hi⟩
    rw [handlerOf, handlerOf, hlen, hlen']
    exact rxHandler_congr hmin fun i _ hi => hbytes i hi

theorem passes_rxFrame (fw : Firmware) (slot : Buffer) (len : Nat) :
    Passes fw slot len (handlerOf slot len fw.scratch) (rxFrame slot len fw.scratch).frame
      (rxFrame slot len fw.scratch).len := by
  refine ⟨(rxFrame slot len fw.scratch).scratch, fun r => ?_⟩
  rw [dispatchRx, handlerOf]
  cases rxHandler (rxFrame slot len fw.scratch).frame (rxFrame slot len fw.scratch).len <;> rfl

theorem SameTo.passesAlike {fw fw' : Firmware} (h : SameTo f f' len fw.scratch fw'.scratch) :
    PassesAlike fw fw' f f' len := by
  refine ⟨handlerOf f len fw.scratch, (rxFrame f len fw.scratch).frame,
    (rxFrame f' (len + 4) fw'.scratch).frame, ?_, ?_, h.bytes⟩
  · have hpasses := passes_rxFrame fw f len
    rwa [h.length.1] at hpasses
  · have hpasses := passes_rxFrame fw' f' (len + 4)
    rwa [h.handler, h.length.2] at hpasses

/-- A tag makes no difference to which handler takes a frame, to the length
it is told and to what it reads. -/
theorem dispatch_transparent (f f' : Buffer) (len : Nat) (hmin : 14 ≤ len) (hmax : len ≤ 1596)
    (huntagged : getBe16 (f.offset 12) ≠ 0x8100) (htagged : Tagged f f' len)
    (fw fw' : Firmware) :
    SameTo f f' len fw.scratch fw'.scratch ∧ PassesAlike fw fw' f f' len ∧
      ∀ (frame frame' : Buffer) (handler : RxHandler), firstByte (some handler) ≠ 0 →
        (∀ i, 14 ≤ i → frame' i = frame i) → ∀ fw n r,
          rxHandle fw frame' n r handler = rxHandle fw frame n r handler := by
  have hsame := sameTo_tagged hmin hmax huntagged htagged fw.scratch fw'.scratch
  refine ⟨hsame, hsame.passesAlike, fun frame frame' handler hfirst hbytes fw n r => ?_⟩
  refine rxHandle_behind ?_ (funext fun i => hbytes (14 + i) (by omega)) fw n r
  cases handler with
  | aaf => exact .inl rfl
  | crf => exact .inr rfl
  | _ => exact absurd rfl hfirst

/-- A gPTP frame of 60 bytes, and the frame with the tag of VLAN 2. -/
def syncFrame : Buffer := Buffer.ofList (zeros 12 ++ [0x88, 0xF7] ++ zeros 46)

def taggedFrame : Buffer :=
  Buffer.ofList (zeros 12 ++ [0x81, 0x00, 0x60, 0x02] ++ [0x88, 0xF7] ++ zeros 46)

theorem dispatch_transparent_gptp :
    SameTo syncFrame taggedFrame 60 (fun _ => 0) (fun _ => 0xFF) ∧
      PassesAlike boot { boot with scratch := fun _ => 0xFF } syncFrame taggedFrame 60 := by
  have htagged : Tagged syncFrame taggedFrame 60 := by
    refine ⟨by decide, by decide, fun i hlow hi => ?_⟩
    interval_cases i <;> rfl
  obtain ⟨hsame, hpasses, -⟩ := dispatch_transparent syncFrame taggedFrame 60 (by decide)
    (by decide) (by decide) htagged boot { boot with scratch := fun _ => 0xFF }
  exact ⟨hsame, hpasses⟩

end AvbAes3.VlanTransparent
