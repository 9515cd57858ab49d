import Mathlib.Tactic

/-!
# TXFrameArbiter

The frame-atomic N:1 arbiter in front of the MAC core's sink: priority to the
lowest index, and a grant that holds until the granted source's last beat is
accepted. Beside it, avb_soc.py's `tx_sof` logic, which marks the cycle after
the first accepted beat of a frame.
-/

namespace AvbAes3

/-- What an endpoint offers in a cycle. -/
structure Beat (δ : Type*) where
  valid : Bool
  last : Bool
  data : δ
  deriving DecidableEq, Repr

variable {δ : Type*}

/-- The registers of the arbiter: `sel` and `busy`. -/
structure TxFrameArbiter (n : Nat) where
  sel : Fin n
  busy : Bool
  deriving DecidableEq, Repr

namespace TxFrameArbiter

variable {n : Nat}

def init [NeZero n] : TxFrameArbiter n := ⟨0, false⟩

/-- Source `i` drives the output. -/
def grants (a : TxFrameArbiter n) (i : Fin n) : Bool := a.busy && a.sel == i

def firmwareGranted [NeZero n] (a : TxFrameArbiter n) : Bool := a.grants 0

/-- A beat of the output is accepted. -/
def fires (a : TxFrameArbiter n) (sources : Fin n → Beat δ) (ready : Bool) : Bool :=
  a.busy && (sources a.sel).valid && ready

/-- A beat of source `i` is accepted. -/
def accepts (a : TxFrameArbiter n) (sources : Fin n → Beat δ) (ready : Bool) (i : Fin n) : Bool :=
  a.grants i && (sources i).valid && ready

/-- The priority encoder: the lowest index wins. -/
def nextsel (sources : Fin n → Beat δ) : Option (Fin n) :=
  (List.finRange n).find? fun i => (sources i).valid

def step (a : TxFrameArbiter n) (sources : Fin n → Beat δ) (ready : Bool) : TxFrameArbiter n :=
  if a.busy then
    if a.fires sources ready && (sources a.sel).last then { a with busy := false } else a
  else
    match nextsel sources with
    | some i => ⟨i, true⟩
    | none => a

/-- A grant holds until the granted source's last beat is accepted. -/
theorem step_busy {a : TxFrameArbiter n} {sources : Fin n → Beat δ} (h : a.busy = true)
    (hl : ¬ (a.fires sources ready && (sources a.sel).last)) : a.step sources ready = a := by
  rw [step, if_pos h, if_neg hl]

theorem step_last {a : TxFrameArbiter n} {sources : Fin n → Beat δ} (h : a.busy = true)
    (hl : a.fires sources ready && (sources a.sel).last) :
    a.step sources ready = { a with busy := false } := by
  rw [step, if_pos h, if_pos hl]

theorem fires_of_accepts {a : TxFrameArbiter n} {sources : Fin n → Beat δ}
    (h : a.accepts sources ready i) : a.busy = true ∧ a.sel = i ∧ a.fires sources ready := by
  simp only [accepts, grants, Bool.and_eq_true, beq_iff_eq] at h
  obtain ⟨⟨⟨hb, rfl⟩, hv⟩, hr⟩ := h
  simp [fires, hb, hv, hr]

end TxFrameArbiter

/-- The `tx_sof` and `tx_active` registers. -/
structure TxSof where
  sof : Bool
  active : Bool
  deriving DecidableEq, Repr

def TxSof.step (t : TxSof) (fires last : Bool) : TxSof :=
  if fires then ⟨!t.active, !last⟩ else ⟨false, t.active⟩

end AvbAes3
