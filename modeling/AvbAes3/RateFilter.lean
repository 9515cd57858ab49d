import AvbAes3.PdelayExchange
import AvbAes3.SyncOffset

/-!
# The neighbour rate filter

A completed exchange gives a rate over the one before it, and the filter
takes it when it is within 10 000 ppb. The window is tested last: on a
difference scaled by 10^9 in 64 bits, divided and narrowed to 32 bits, of
times that a coarse step may have come between. A `History` remembers the
exact times of the last exchange and the time base of its t4.

`plausible_of_sound`: in every run in which the scaled difference and the
rate are exact and no rate that looks plausible spans a coarse step, only
plausible rates are taken.
-/

namespace AvbAes3.RateFilter

open Int64 (Fits)
open PdelayExchange (takesResp takesFup bodyTs)
open SyncOffset (ns)

/-- A completed exchange, in exact nanoseconds. A time base is known by the
coarse steps that were made before it. -/
structure Sample where
  t3 : Int
  t4 : Int
  base : Nat
  deriving DecidableEq, Repr

structure History where
  g : Gptp
  /-- The coarse steps made. -/
  stepped : Nat
  /-- The time base of the t4 held. -/
  heldBase : Nat
  /-- The exchange completed last. -/
  last : Option Sample

inductive Event
  | poll (tsu : Tsu)
  /-- A frame; `behind` steps have been made since its receive timestamp was
  taken. -/
  | rx (frame : Buffer) (len : Nat) (tsu : Tsu) (behind : Nat)

def Event.port : Event → GptpEvent
  | .poll tsu => .poll tsu
  | .rx frame len tsu _ => .rx frame len tsu

/-- The exchange that the event completes. -/
def completed (s : History) : Event → Option Sample
  | .poll _ => none
  | .rx frame len _ _ =>
    if takesFup s.g frame len then some ⟨ns (bodyTs frame), ns s.g.pdelayT4, s.heldBase⟩ else none

def nextBase (s : History) : Event → Nat
  | .poll _ => s.heldBase
  | .rx frame len _ behind => if takesResp s.g frame len then s.stepped - behind else s.heldBase

def History.step (s : History) (e : Event) : History :=
  let (g, effects) := gptpStep s.g e.port
  { g := g
    stepped := if TimeBase.steps effects then s.stepped + 1 else s.stepped
    heldBase := nextBase s e
    last := (completed s e).or s.last }

def machine (mac : MacAddr) : Machine History Event where
  init := ⟨(gptpInit mac).1, 0, 0, none⟩
  step := History.step

-- ---------------------------------------------------------------------------
-- Plausible rates
-- ---------------------------------------------------------------------------

def dt3 (p x : Sample) : Int := x.t3 - p.t3
def dt4 (p x : Sample) : Int := x.t4 - p.t4

/-- The numerator of the rate. -/
def scaled (p x : Sample) : Int := (dt3 p x - dt4 p x) * 1000000000

/-- The exact rate, in ppb. -/
def rate (p x : Sample) : ℚ := scaled p x / dt4 p x

structure Plausible (p x : Sample) : Prop where
  apart : 100000 < dt4 p x
  base : x.base = p.base
  rate : |rate p x| < 10000

/-- The rate ratio changes only with a plausible rate. -/
def PlausibleOnly (s : History) (e : Event) : Prop :=
  (s.step e).g.nrrPpb ≠ s.g.nrrPpb → ∃ x ∈ completed s e, ∃ p ∈ s.last, Plausible p x

/-- The filter computes the rate without a wrap, and a rate within the
window is of one time base. -/
structure Sound (p x : Sample) : Prop where
  difference : Fits (dt4 p x)
  product : 100000 < dt4 p x → Fits (scaled p x)
  quotient : 100000 < dt4 p x →
    -2147483648 ≤ (scaled p x).tdiv (dt4 p x) ∧ (scaled p x).tdiv (dt4 p x) < 2147483648
  base : 100000 < dt4 p x → |rate p x| < 10000 → x.base = p.base

def SoundSample (s : History) (e : Event) : Prop :=
  ∀ x ∈ completed s e, ∀ p ∈ s.last, Sound p x

-- ---------------------------------------------------------------------------
-- The filter's arithmetic
-- ---------------------------------------------------------------------------

theorem rate_window {p x : Sample} (hd : 0 < dt4 p x) :
    |rate p x| < 10000 ↔ |(scaled p x).tdiv (dt4 p x)| < 10000 := by
  have hpos : (0 : ℚ) < dt4 p x := by exact_mod_cast hd
  rw [Int64.abs_tdiv_lt_iff hd, rate, abs_div, abs_of_pos hpos, div_lt_iff₀ hpos]
  norm_cast

instance (p x : Sample) : Decidable (Plausible p x) :=
  decidable_of_iff (100000 < dt4 p x ∧ x.base = p.base ∧ |(scaled p x).tdiv (dt4 p x)| < 10000)
    ⟨fun ⟨hapart, hbase, hrate⟩ => ⟨hapart, hbase, (rate_window (by omega)).mpr hrate⟩,
      fun ⟨hapart, hbase, hrate⟩ => ⟨hapart, hbase, (rate_window (by omega)).mp hrate⟩⟩

instance (p x : Sample) : Decidable (Sound p x) :=
  decidable_of_iff (Fits (dt4 p x) ∧ (100000 < dt4 p x → Fits (scaled p x) ∧
      (-2147483648 ≤ (scaled p x).tdiv (dt4 p x) ∧ (scaled p x).tdiv (dt4 p x) < 2147483648) ∧
      (|(scaled p x).tdiv (dt4 p x)| < 10000 → x.base = p.base)))
    ⟨fun ⟨hdiff, h⟩ => ⟨hdiff, fun hd => (h hd).1, fun hd => (h hd).2.1,
        fun hd hrate => (h hd).2.2 ((rate_window (by omega)).mp hrate)⟩,
      fun ⟨hdiff, hproduct, hquot, hbase⟩ => ⟨hdiff, fun hd =>
        ⟨hproduct hd, hquot hd, fun hrate => hbase hd ((rate_window (by omega)).mpr hrate)⟩⟩⟩

instance (s : History) : DecidablePred (PlausibleOnly s) := fun e => by
  unfold PlausibleOnly; infer_instance

instance (s : History) : DecidablePred (SoundSample s) := fun e => by
  unfold SoundSample; infer_instance

theorem toInt32_exact {a : Int64} (hlow : -2147483648 ≤ a.toInt) (hhigh : a.toInt < 2147483648) :
    a.toInt32.toInt = a.toInt := by
  rw [Int64.toInt_toInt32]
  exact Int.bmod_eq_of_le (by omega) (by omega)

/-- Where the filter computes exactly, what it takes is within the window. -/
theorem window_of_accepted {p x : Sample} (hs : Sound p x) {g : Gptp}
    (ht3 : g.prevT3Ns = Int64.ofInt p.t3) (ht4 : g.prevT4Ns = Int64.ofInt p.t4)
    (h : nextNrrPpb g (Int64.ofInt x.t3) (Int64.ofInt x.t4) ≠ g.nrrPpb) :
    100000 < dt4 p x ∧ |rate p x| < 10000 := by
  unfold nextNrrPpb at h
  dsimp only at h
  split at h
  · rename_i hsample
    obtain ⟨-, hapart, hlow, hhigh⟩ := hsample
    have hdt4 : (Int64.ofInt x.t4 - g.prevT4Ns).toInt = dt4 p x :=
      (Int64.exact_iff (by rw [ht4, dt4, Int64.ofInt_sub])).mpr hs.difference
    have hfar : (100000 : Int64).toInt = 100000 := rfl
    rw [gt_iff_lt, Int64.lt_iff_toInt_lt, hdt4, hfar] at hapart
    have hnum : ((Int64.ofInt x.t3 - g.prevT3Ns - (Int64.ofInt x.t4 - g.prevT4Ns)) *
        1000000000).toInt = scaled p x := by
      refine (Int64.exact_iff ?_).mpr (hs.product hapart)
      rw [ht3, ht4, scaled, dt3, dt4, Int64.ofInt_mul, Int64.ofInt_sub, Int64.ofInt_sub,
        Int64.ofInt_sub]
      rfl
    generalize (Int64.ofInt x.t3 - g.prevT3Ns - (Int64.ofInt x.t4 - g.prevT4Ns)) * 1000000000 = num
      at hnum hlow hhigh
    have hquot : (num / (Int64.ofInt x.t4 - g.prevT4Ns)).toInt = (scaled p x).tdiv (dt4 p x) := by
      rw [Int64.toInt_div_of_pos _ (by omega), hnum, hdt4]
    obtain ⟨hqlow, hqhigh⟩ := hs.quotient hapart
    have hinst := toInt32_exact (hquot.symm ▸ hqlow) (hquot.symm ▸ hqhigh)
    have hneg : (-10000 : Int32).toInt = -10000 := rfl
    have hpos : (10000 : Int32).toInt = 10000 := rfl
    rw [gt_iff_lt, Int32.lt_iff_toInt_lt, hneg, hinst, hquot] at hlow
    rw [Int32.lt_iff_toInt_lt, hpos, hinst, hquot] at hhigh
    exact ⟨hapart, (rate_window (by omega)).mpr (abs_lt.mpr ⟨hlow, hhigh⟩)⟩
  · exact absurd rfl h

-- ---------------------------------------------------------------------------
-- Steps
-- ---------------------------------------------------------------------------

/-- What the filter keeps. -/
structure Filter where
  nrrPpb : Int32
  prevT3Ns : Int64
  prevT4Ns : Int64
  pdelayPairCount : UInt32

def filter (g : Gptp) : Filter := ⟨g.nrrPpb, g.prevT3Ns, g.prevT4Ns, g.pdelayPairCount⟩

theorem filter_gptpServoUpdate (g : Gptp) (now : UInt32) :
    filter (gptpServoUpdate g now).1 = filter g := by
  obtain ⟨w, hw⟩ := gptpServoUpdate_writes g now
  rw [hw]
  rfl

variable {s : History} {e : Event}

/-- Only a completed exchange touches the filter. -/
theorem filter_other (h : completed s e = none) : filter (s.step e).g = filter s.g := by
  cases e with
  | poll tsu =>
    simp only [History.step, Event.port, gptpStep, gptpPoll, pdelayLost, syncTimeout,
      gptpSendPdelayReq]
    split_ifs <;> rfl
  | rx frame len tsu behind =>
    have hfup : ¬ takesFup s.g frame len := by simpa [completed] using h
    obtain ⟨rx, hrx⟩ := gptpProcessRx_eq s.g frame len tsu
    simp only [History.step, Event.port, gptpStep, hrx]
    cases hmsg : ptpMessage frame len with
    | none => rfl
    | some msg =>
      cases msg with
      | sync => rfl
      | followUp =>
        simp only [processPtp, processFollowUp]
        split
        · exact filter_gptpServoUpdate _ _
        · rfl
      | pdelayReq => rfl
      | pdelayResp =>
        simp only [processPtp, processPdelayResp]
        split <;> rfl
      | pdelayRespFup =>
        have hno : ¬ pdelayRespFupMatches s.g (frame.offset ethHeaderLen) := by
          simpa [takesFup, hmsg] using hfup
        have hkept : processPdelayRespFup { s.g with rx := rx } (frame.offset ethHeaderLen) =
            { s.g with rx := rx } := if_neg hno
        rw [processPtp, hkept]
        rfl
      | announce =>
        simp only [processPtp, processAnnounce]
        split <;> rfl

theorem filter_completed (h : completed s e = some x) : filter (s.step e).g =
    ⟨nextNrrPpb s.g (Int64.ofInt x.t3) (Int64.ofInt x.t4), Int64.ofInt x.t3, Int64.ofInt x.t4,
      s.g.pdelayPairCount + 1⟩ := by
  cases e with
  | poll tsu => simp [completed] at h
  | rx frame len tsu behind =>
    simp only [completed, Option.ite_none_right_eq_some, Option.some.injEq] at h
    obtain ⟨hfup, rfl⟩ := h
    simp only [takesFup, Bool.and_eq_true, beq_iff_eq] at hfup
    obtain ⟨hmsg, hmatch⟩ := hfup
    obtain ⟨rx, hrx⟩ := gptpProcessRx_eq s.g frame len tsu
    simp only [History.step, Event.port, gptpStep, hrx, hmsg, processPtp]
    rw [← SyncOffset.gptpTsDiffNs_ns, ← SyncOffset.gptpTsDiffNs_ns]
    exact congrArg filter (if_pos hmatch)

/-- The filter holds the times of the exchange completed last. -/
def Remembers (s : History) : Prop :=
  s.g.pdelayPairCount > 0 → ∃ p ∈ s.last,
    s.g.prevT3Ns = Int64.ofInt p.t3 ∧ s.g.prevT4Ns = Int64.ofInt p.t4

theorem remembers_step (h : Remembers s) (e : Event) : Remembers (s.step e) := by
  cases hc : completed s e with
  | none =>
    have hsame := filter_other hc
    simp only [filter, Filter.mk.injEq] at hsame
    obtain ⟨-, ht3, ht4, hcount⟩ := hsame
    have hlast : (s.step e).last = s.last := by simp [History.step, hc]
    rw [Remembers, ht3, ht4, hcount, hlast]
    exact h
  | some x =>
    have hnew := filter_completed hc
    simp only [filter, Filter.mk.injEq] at hnew
    obtain ⟨-, ht3, ht4, -⟩ := hnew
    have hlast : (s.step e).last = some x := by simp [History.step, hc]
    exact fun _ => ⟨x, hlast, ht3, ht4⟩

theorem nextNrrPpb_first {g : Gptp} (h : ¬ g.pdelayPairCount > 0) (t3Ns t4Ns : Int64) :
    nextNrrPpb g t3Ns t4Ns = g.nrrPpb :=
  if_neg fun hsample => h hsample.1

theorem plausible_step (h : Remembers s) (hs : SoundSample s e) : PlausibleOnly s e := by
  intro hchanged
  cases hc : completed s e with
  | none => exact absurd (congrArg Filter.nrrPpb (filter_other hc)) hchanged
  | some x =>
    have hnrr : (s.step e).g.nrrPpb = nextNrrPpb s.g (Int64.ofInt x.t3) (Int64.ofInt x.t4) :=
      congrArg Filter.nrrPpb (filter_completed hc)
    rw [hnrr] at hchanged
    have hcount : s.g.pdelayPairCount > 0 :=
      not_not.mp fun hzero => hchanged (nextNrrPpb_first hzero _ _)
    obtain ⟨p, hp, ht3, ht4⟩ := h hcount
    have hsound := hs x hc p hp
    obtain ⟨hapart, hrate⟩ := window_of_accepted hsound ht3 ht4 hchanged
    exact ⟨x, rfl, p, hp, hapart, hsound.base hapart hrate, hrate⟩

/-- While the filter computes exactly and what looks plausible is of one
time base, only plausible rates are taken. -/
theorem plausible_of_sound (mac : MacAddr) (events : List Event)
    (h : (machine mac).Steps SoundSample events) : (machine mac).Steps PlausibleOnly events :=
  have hinit : Remembers (machine mac).init := fun hcount : (0 : UInt32) > 0 =>
    absurd hcount (by decide)
  h.of_invariant Remembers hinit (fun _ e hr _ => remembers_step hr e) fun _ _ => plausible_step

-- ---------------------------------------------------------------------------
-- Exchanges
-- ---------------------------------------------------------------------------

/-- A request, its Pdelay_Resp received at `t4` and the Follow_Up with
`t3`. -/
def exchange (seqId : UInt16) (t3 t4 : PtpTimestamp) : List Event :=
  let answer := putPtpTs t3 ++ (gptpClockId boardMac).toList ++ be16 1
  let ms := 1000 * (seqId.toUInt32 + 1)
  [.poll { uptimeMs := ms, laterUptimeMs := ms },
    .rx (peerFrame PdelayExchange.responder ptpMsgPdelayResp seqId answer) 68 { rxTs := t4 } 0,
    .rx (peerFrame PdelayExchange.responder ptpMsgPdelayRespFup seqId answer) 68 {} 0]

/-- Two exchanges, the first one with both times at 1 s. -/
def twoExchanges (t3 t4 : PtpTimestamp) : List Event :=
  exchange 0 ⟨1, 0⟩ ⟨1, 0⟩ ++ exchange 1 t3 t4

/-- The peer gains 100 ns in a second. -/
def faster : List Event := twoExchanges ⟨2, 0⟩ ⟨1, 999999900⟩

theorem plausible_faster : (machine boardMac).Steps PlausibleOnly faster ∧
    ((machine boardMac).run faster).g.nrrPpb = 12 :=
  ⟨plausible_of_sound boardMac faster (by decide +kernel), by decide +kernel⟩

/-- A Sync received at 1.5 s, whose origin time is 100 ns later. -/
def firstSync : List Event :=
  let origin := putPtpTs ⟨1, 500000100⟩ ++ List.replicate 10 0
  [.rx (peerFrame grandmaster ptpMsgSync 0 origin) 68 { rxTs := ⟨1, 500000000⟩ } 0,
    .rx (peerFrame grandmaster ptpMsgFollowUp 0 origin) 68 {} 0]

/-- The first Sync steps the time between two exchanges a second apart. -/
def stepBetween : List Event :=
  exchange 0 ⟨1, 0⟩ ⟨1, 0⟩ ++ firstSync ++ exchange 1 ⟨2, 0⟩ ⟨2, 100⟩

/-- The peer's time jumps by 2^32 + 100 ns. -/
def narrowed : List Event := twoExchanges ⟨6, 294967396⟩ ⟨2, 0⟩

/-- The peer's time jumps by 2^55 + 100 ns. -/
def wrapped : List Event := twoExchanges ⟨36028799, 18964068⟩ ⟨2, 0⟩

theorem implausible_taken :
    ¬ (machine boardMac).Steps PlausibleOnly stepBetween ∧
      ¬ (machine boardMac).Steps PlausibleOnly narrowed ∧
      ¬ (machine boardMac).Steps PlausibleOnly wrapped := by
  decide +kernel

end AvbAes3.RateFilter
