import AvbAes3.Aecp

/-!
# AECP responses as bytes

A response is a header and fields written one behind the other into the
transmit slot. `putPdus_contiguous` makes one write of them; the payload of
a response is then the fields put together.
-/

namespace AvbAes3

-- ---------------------------------------------------------------------------
-- Writes
-- ---------------------------------------------------------------------------

theorem Buffer.copy_append (b : Buffer) (at_ : Nat) (xs ys : List UInt8) :
    (b.copy at_ xs).copy (at_ + xs.length) ys = b.copy at_ (xs ++ ys) := by
  funext i
  simp only [Buffer.copy]
  by_cases hfirst : i < at_ + xs.length
  · rw [if_neg (Nat.not_le.mpr hfirst)]
    split
    · rw [List.getElem?_append_left (by omega)]
    · rfl
  · rw [Nat.not_lt] at hfirst
    have hat : at_ ≤ i := Nat.le_of_add_right_le hfirst
    have hnone : xs[i - at_]? = none := List.getElem?_eq_none (by omega)
    rw [if_pos hfirst, if_pos hat, if_pos hat, List.getElem?_append_right (by omega), hnone,
      Nat.sub_sub]
    rfl

theorem Buffer.copy_nil (b : Buffer) (at_ : Nat) : b.copy at_ [] = b := by
  funext i
  simp [Buffer.copy]

theorem Buffer.holds_copy_at (b : Buffer) (at_ : Nat) (bytes : List UInt8) :
    (b.copy at_ bytes).Holds at_ bytes := by
  intro i hi
  simp [Buffer.copy, hi]

theorem Buffer.Holds.take {b : Buffer} {at_ : Nat} {bytes : List UInt8} (h : b.Holds at_ bytes) :
    (b.offset at_).take bytes.length = bytes := by
  refine List.ext_getElem (Buffer.length_take ..) fun i _ hi => ?_
  simpa [Buffer.take] using h i hi

theorem Buffer.Holds.getBe16 {b : Buffer} {at_ : Nat} {v : UInt16} (h : b.Holds at_ (be16 v)) :
    getBe16 (b.offset at_) = v := getBe16_eq (h 0 (Nat.zero_lt_succ _)) (h 1 (Nat.lt_succ_self _))

theorem Buffer.drop_take (b : Buffer) (k n : Nat) :
    (b.take n).drop k = (b.offset k).take (n - k) := by
  refine List.ext_getElem (by simp) fun i _ _ => ?_
  simp [Buffer.take]

theorem Buffer.take_take (b : Buffer) {k n : Nat} (h : k ≤ n) : (b.take n).take k = b.take k := by
  refine List.ext_getElem (by simp [h]) fun i _ _ => ?_
  simp [Buffer.take]

-- ---------------------------------------------------------------------------
-- Fields
-- ---------------------------------------------------------------------------

/-- The fields follow each other from `off` on. -/
def Contiguous : Nat → List (Nat × List UInt8) → Prop
  | _, [] => True
  | off, f :: rest => f.1 = off ∧ Contiguous (off + f.2.length) rest

theorem putPdus_contiguous (b : Buffer) {off : Nat} {fields : List (Nat × List UInt8)}
    (h : Contiguous off fields) :
    fields.foldl (fun b field => putPdu b field.1 field.2) b =
      putPdu b off (fields.flatMap Prod.snd) := by
  induction fields generalizing b off with
  | nil => exact (Buffer.copy_nil ..).symm
  | cons f rest ih =>
    obtain ⟨rfl, hrest⟩ := h
    rw [List.foldl_cons, ih _ hrest, putPdu, putPdu, ← Nat.add_assoc, Buffer.copy_append]
    rfl

@[simp] theorem be16_length (v : UInt16) : (be16 v).length = 2 := rfl
@[simp] theorem be32_length (v : UInt32) : (be32 v).length = 4 := rfl
@[simp] theorem zeros_length (n : Nat) : (zeros n).length = n := List.length_replicate ..

@[simp] theorem name64_length (name : String) : (name64 name).length = 64 := by
  simp only [name64, List.length_append, zeros_length, List.length_take]
  omega

@[simp] theorem counters_length (counters : Nat → UInt32) :
    ((List.range 32).flatMap fun j => be32 (counters j)).length = 128 := by
  simp [List.length_flatMap]

-- ---------------------------------------------------------------------------
-- Replies
-- ---------------------------------------------------------------------------

/-- An AEM command for us is answered with its reply. -/
theorem aecpHandle_reply {s : Avdecc} {c : AecpCommand} {cmd : UInt16}
    (hmessage : c.pdu 1 &&& 0x0F = aecpMsgAemCommand) (htarget : targetsUs s c)
    (hcmd : c.field aecpOffCmdType &&& 0x7FFF = cmd) {b : Buffer} {len : Nat}
    (hreply : (aemCommand { s with aecpRxCount := s.aecpRxCount + 1 } c cmd).2 = some (b, len)) :
    (aecpHandle s c).sent = some len ∧ (aecpHandle s c).slot = b := by
  unfold aecpHandle
  dsimp only
  rw [hmessage, if_neg (by decide), if_neg (by decide), if_neg (by rw [htarget]; decide), hcmd,
    hreply]
  exact ⟨rfl, rfl⟩

-- ---------------------------------------------------------------------------
-- Payloads
-- ---------------------------------------------------------------------------

/-- Status, control data length and what is behind the AEM header. -/
def aemPayload (frame : List UInt8) : List UInt8 := (frame.drop 16).take 2 ++ frame.drop 38

theorem aemPayload_respond (s : Avdecc) (c : AecpCommand) {fields : List (Nat × List UInt8)}
    {status : UInt8} {cdl : UInt16} {b : Buffer} {len : Nat} (hfields : Contiguous 24 fields)
    (hlen : len = 38 + (fields.flatMap Prod.snd).length)
    (h : aecpRespond s c fields status cdl len = some (b, len)) :
    aemPayload (b.take len) =
      be16 (statusCdl status (cdl &&& 0x7FF)) ++ fields.flatMap Prod.snd := by
  have hb : b = aecpSetStatusCdl (putPdu (aecpBeginResponse c.slot s.srcMac c.frame) 24
      (fields.flatMap Prod.snd)) status cdl := by
    rw [← (Prod.mk.inj (Option.some.inj h)).1, putPdus_contiguous _ hfields]
  have hstatus : b.Holds 16 (be16 (statusCdl status (cdl &&& 0x7FF))) := by
    rw [hb]
    exact Buffer.holds_copy_at _ 16 _
  have hbody : b.Holds 38 (fields.flatMap Prod.snd) := by
    intro i hi
    rw [hb, aecpSetStatusCdl, putPdu, Buffer.copy_outside (.inr (by rw [be16_length]; omega))]
    exact Buffer.holds_copy_at _ 38 _ i hi
  rw [aemPayload, Buffer.drop_take, Buffer.drop_take, Buffer.take_take _ (by omega), hlen,
    Nat.add_sub_cancel_left, hbody.take]
  exact congrArg (· ++ _) hstatus.take

end AvbAes3
