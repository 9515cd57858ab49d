import AvbAes3.Aes3Decode
import AvbAes3.Aes3Tx

/-!
# The loopback

`aes3_tx` and `aes3_rx` on one clock, the output of one the input of the
other, with a biphase tick every `T` clocks. The run begins in the clock
after the first cell of a preamble was put on the wire. Five clocks later the
receiver has processed that edge.

`loopback_exact`: from there every subframe is decoded as it was sent. The
receiver may start with an estimate that is one clock too wide only if the
decay does not strike before the first short interval is taken:
`early_decay` is the start in which it does.
-/

namespace AvbAes3.Aes3Loopback

open Aes3Line Aes3Decode
open Aes3Tx (Tx Clock Sending currentAudio currentCs preamble dataBitCurrent)
open Aes3Rx (Rx Event Delivered cBit parityOk)

-- ---------------------------------------------------------------------------
-- Two ends of a line
-- ---------------------------------------------------------------------------

structure Loop where
  tx : Tx
  rx : Rx
  deriving DecidableEq

def step (clkFreq : Nat) (s : Loop) (c : Clock) : Loop where
  tx := Aes3Tx.step s.tx c
  rx := Aes3Rx.step clkFreq s.rx ⟨c.rst, s.tx.aes3Out⟩

/-- The state after so many clocks. -/
def loopAt (clkFreq : Nat) (s : Loop) (clocks : Nat → Clock) : Nat → Loop
  | 0 => s
  | k + 1 => step clkFreq (loopAt clkFreq s clocks k) (clocks k)

def eventAt (clkFreq : Nat) (s : Loop) (clocks : Nat → Clock) (k : Nat) : Option Event :=
  (loopAt clkFreq s clocks k).rx.decoder.event (clocks k).rst

/-- What is heard in `m` clocks. -/
def heard (clkFreq : Nat) (s : Loop) (clocks : Nat → Clock) (first m : Nat) : List Event :=
  (List.range' first m).flatMap fun k => (eventAt clkFreq s clocks k).toList

/-- A tick in the last of every `T` clocks. -/
def ConstantWidth (T : Nat) (clocks : Nat → Clock) : Prop :=
  ∀ k, (clocks k).rst = false ∧ (clocks k).biphaseTick = decide ((k + 1) % T = 0)

/-- The first cell of a preamble is on the wire, and no end of it has been
sampled yet. -/
structure Begun (s : Loop) : Prop where
  symbolCount : s.tx.symbolCount = 1
  aes3Out : s.tx.aes3Out = !s.tx.bmcLevel
  inSync : s.rx.inSync = ⟨s.tx.bmcLevel, s.tx.bmcLevel, s.tx.bmcLevel⟩
  aes3D : s.rx.decoder.edges.aes3D = s.tx.bmcLevel

/-- Until its last bit has been read, a subframe reads one word and one C bit. -/
def Stable (clkFreq T : Nat) (s : Loop) (clocks : Nat → Clock) (words : Nat → BitVec 24 × Bool)
    (n : Nat) : Prop :=
  ∀ j < n, ∀ k < 63 * T,
    currentAudio (loopAt clkFreq s clocks (64 * T * j + k)).tx = (words j).1 ∧
    currentCs (loopAt clkFreq s clocks (64 * T * j + k)).tx
      (clocks (64 * T * j + k)).channelStatus = (words j).2

/-- In `S_HUNT` with the estimate right to one clock. -/
structure Hunting (T : Nat) (rx : Rx) : Prop where
  hunt : rx.decoder.control.framing.state = .hunt
  width : rx.decoder.width.cellW = T ∨ rx.decoder.width.cellW = T + 1

/-- An estimate that is too wide is not raised again before the first short
interval of the preamble has been taken. -/
def NoDecay (T : Nat) (p : Preamble) (rx : Rx) : Prop :=
  rx.decoder.width.cellW = T + 1 → T + 1 < 40 →
    rx.decoder.width.decayCnt + firstShort p * T < 4096

/-- The shift register has the audio, the C bit and an even parity. -/
structure Carries (sr : BitVec 28) (word : BitVec 24 × Bool) : Prop where
  audio : sr.extractLsb' 0 24 = word.1
  cs : cBit sr = word.2
  parity : parityOk sr = true

/-- From clock 5 on, with `n` subframes of 64 cells: the estimate stays right
to one clock, every subframe is heard with its preamble and its word and
nothing else is, it is delivered, and six clocks into each next preamble the
receiver hunts. -/
structure Exact (clkFreq T : Nat) (s : Loop) (clocks : Nat → Clock)
    (words : Nat → BitVec 24 × Bool) (n : Nat) : Prop where
  width : ∀ k, 5 ≤ k → k ≤ 64 * T * n + 6 →
    (loopAt clkFreq s clocks k).rx.decoder.width.cellW = T ∨
      (loopAt clkFreq s clocks k).rx.decoder.width.cellW = T + 1
  heard : ∃ sr : Nat → BitVec 28, (∀ j < n, Carries (sr j) (words j)) ∧
    heard clkFreq s clocks 5 (64 * T * n + 1) = (List.range n).flatMap fun j =>
      [.preamble (preamble (loopAt clkFreq s clocks (64 * T * j)).tx),
        .subframe (loopAt clkFreq s clocks (64 * T * j)).tx.subframeB (sr j)]
  delivered : ∀ k chB sr, eventAt clkFreq s clocks k = some (.subframe chB sr) →
    Delivered chB sr (loopAt clkFreq s clocks (k + 1)).rx.decoder.control
  hunt : ∀ j ≤ n,
    (loopAt clkFreq s clocks (64 * T * j + 6)).rx.decoder.control.framing.state = .hunt

-- ---------------------------------------------------------------------------
-- The transmitter's levels
-- ---------------------------------------------------------------------------

variable {clkFreq T a : Nat} {s : Loop} {clocks : Nat → Clock} {start : Bool}
  {audio : BitVec 24} {cs : Bool}

/-- The clock after the first cell of a subframe was put on the line. -/
structure Starts (start : Bool) (tx : Tx) : Prop where
  symbolCount : tx.symbolCount = 1
  aes3Out : tx.aes3Out = !start
  bmcLevel : tx.bmcLevel = start

theorem Starts.sending {tx : Tx} (h : Starts start tx) (bits : Nat → Bool) :
    Sending start bits tx := by
  refine ⟨by rw [h.symbolCount]; decide, ?_, ?_⟩
  · rw [h.aes3Out, h.symbolCount, Aes3Tx.levelBefore, if_neg (by decide)]
    exact (cell_zero _ _ _).symm
  · rw [h.bmcLevel, h.symbolCount, if_pos (by decide)]

theorem tick_from (hwidth : ConstantWidth T clocks) (ha : a % T = 0) (k : Nat) :
    (clocks (a + k)).biphaseTick = decide ((k + 1) % T = 0) := by
  rw [(hwidth (a + k)).2, Nat.add_assoc, Nat.add_mod, ha, Nat.zero_add, Nat.mod_mod]

theorem preamble_step {tx tx' : Tx} (hb : tx'.subframeB = tx.subframeB)
    (hf : tx'.frameCount = tx.frameCount) : preamble tx' = preamble tx := by
  rw [preamble, preamble, hb, hf]

section Subframe

variable (hwidth : ConstantWidth T clocks) (ha : a % T = 0)
  (hstarts : Starts start (loopAt clkFreq s clocks a).tx)

include hwidth ha hstarts

/-- The first cell. -/
theorem tx_first (k : Nat) (hk : k < T) : Starts start (loopAt clkFreq s clocks (a + k)).tx := by
  induction k with
  | zero => exact hstarts
  | succ k ih =>
    have hidle : (clocks (a + k)).biphaseTick = false := by
      rw [tick_from hwidth ha, Nat.mod_eq_of_lt hk]
      exact decide_eq_false (Nat.succ_ne_zero k)
    have hsame := Aes3Tx.step_idle_sameCell (s := (loopAt clkFreq s clocks (a + k)).tx)
      (hwidth (a + k)).1 hidle
    obtain ⟨hcount, hout, hlevel⟩ := ih (by omega)
    exact ⟨hsame.symbolCount.trans hcount, hsame.aes3Out.trans hout,
      hsame.bmcLevel.trans hlevel⟩

variable (hstable : ∀ k < 63 * T,
  currentAudio (loopAt clkFreq s clocks (a + k)).tx = audio ∧
  currentCs (loopAt clkFreq s clocks (a + k)).tx (clocks (a + k)).channelStatus = cs)

include hstable

theorem tx_within (k : Nat) (hk : k < 63 * T) :
    Sending start (dataBit audio cs) (loopAt clkFreq s clocks (a + k)).tx ∧
      (loopAt clkFreq s clocks (a + k)).tx.symbolCount = k / T + 1 ∧
      preamble (loopAt clkFreq s clocks (a + k)).tx =
        preamble (loopAt clkFreq s clocks a).tx := by
  induction k with
  | zero => exact ⟨hstarts.sending _, by rw [Nat.zero_div]; exact hstarts.symbolCount, rfl⟩
  | succ k ih =>
    obtain ⟨hsending, hcount, hpreamble⟩ := ih (by omega)
    have hrst := (hwidth (a + k)).1
    have htick := tick_from hwidth ha k
    have hdiv : (k + 1) / T = k / T + if T ∣ k + 1 then 1 else 0 := Nat.succ_div
    have hlt : (k + 1) / T < 63 := Nat.div_lt_of_lt_mul (by rw [Nat.mul_comm]; exact hk)
    by_cases hlast : (k + 1) % T = 0
    · rw [decide_eq_true hlast] at htick
      rw [if_pos (Nat.dvd_of_mod_eq_zero hlast)] at hdiv
      have hwithin : (loopAt clkFreq s clocks (a + k)).tx.symbolCount < 63 := by omega
      obtain ⟨hcount', hsub, hframe⟩ := Aes3Tx.tick_within hrst htick hwithin
      obtain ⟨-, hnext, -⟩ := hsending.tick hrst htick (fun _ => by
        rw [dataBitCurrent, (hstable k (by omega)).1, (hstable k (by omega)).2])
      refine ⟨hnext hwithin, hcount'.trans (by omega), ?_⟩
      exact (preamble_step hsub hframe).trans hpreamble
    · rw [decide_eq_false hlast] at htick
      rw [if_neg (fun hdvd => hlast (Nat.mod_eq_zero_of_dvd hdvd))] at hdiv
      have hsame := Aes3Tx.step_idle_sameCell (s := (loopAt clkFreq s clocks (a + k)).tx)
        hrst htick
      refine ⟨hsending.idle hrst htick, hsame.symbolCount.trans (by omega), ?_⟩
      exact (preamble_step hsame.subframeB hsame.frameCount).trans hpreamble

variable (hT : 4 ≤ T)

include hT

/-- The last cell. -/
theorem tx_last (k : Nat) (hk : k < T) :
    (∀ next, Sending (levelAfter start (dataBit audio cs) 28) next
      (loopAt clkFreq s clocks (a + (63 * T + k))).tx) ∧
    (loopAt clkFreq s clocks (a + (63 * T + k))).tx.symbolCount = 0 := by
  induction k with
  | zero =>
    obtain ⟨m, hm⟩ : ∃ m, 63 * T = m + 1 := ⟨63 * T - 1, by omega⟩
    obtain ⟨hsending, hcount, -⟩ :=
      tx_within hwidth ha hstarts hstable m (by omega)
    have hrst := (hwidth (a + m)).1
    have htick := tick_from hwidth ha m
    have hdiv : (m + 1) / T = m / T + if T ∣ m + 1 then 1 else 0 := Nat.succ_div
    rw [← hm, Nat.mul_mod_left, decide_eq_true rfl] at htick
    rw [← hm, if_pos (Nat.dvd_mul_left T 63), Nat.mul_div_cancel _ (by omega)] at hdiv
    have hlast : (loopAt clkFreq s clocks (a + m)).tx.symbolCount = 63 := by omega
    obtain ⟨-, -, hnext⟩ := hsending.tick hrst htick (fun _ => by
      rw [dataBitCurrent, (hstable m (by omega)).1, (hstable m (by omega)).2])
    rw [Nat.add_zero, hm]
    exact ⟨hnext hlast, (Aes3Tx.tick_last hrst htick hlast).1⟩
  | succ k ih =>
    obtain ⟨hsending, hcount⟩ := ih (by omega)
    have hidle : (clocks (a + (63 * T + k))).biphaseTick = false := by
      rw [tick_from hwidth ha, Nat.add_assoc, Nat.mul_comm, Nat.mul_add_mod,
        Nat.mod_eq_of_lt hk]
      exact decide_eq_false (Nat.succ_ne_zero k)
    have hrst := (hwidth (a + (63 * T + k))).1
    have hsame := Aes3Tx.step_idle_sameCell
      (s := (loopAt clkFreq s clocks (a + (63 * T + k))).tx) hrst hidle
    exact ⟨fun next => (hsending next).idle hrst hidle, hsame.symbolCount.trans hcount⟩

/-- The next subframe starts 64 cells later. -/
theorem tx_next : Starts (levelAfter start (dataBit audio cs) 28)
    (loopAt clkFreq s clocks (a + 64 * T)).tx := by
  obtain ⟨m, hm⟩ : ∃ m, T = m + 1 := ⟨T - 1, by omega⟩
  obtain ⟨hsending, hcount⟩ := tx_last hwidth ha hstarts hstable hT m (by omega)
  have hrst := (hwidth (a + (63 * T + m))).1
  have htick : (clocks (a + (63 * T + m))).biphaseTick = true := by
    rw [tick_from hwidth ha, Nat.add_assoc, ← hm, ← Nat.succ_mul, Nat.mul_mod_left]
    rfl
  have hclock : a + 64 * T = a + (63 * T + m) + 1 := by omega
  have hwithin : (loopAt clkFreq s clocks (a + (63 * T + m))).tx.symbolCount < 63 := by omega
  obtain ⟨hcount', -, -⟩ := Aes3Tx.tick_within hrst htick hwithin
  obtain ⟨hout, hnext, -⟩ := (hsending fun _ => dataBitCurrent (loopAt clkFreq s clocks
    (a + (63 * T + m))).tx (clocks (a + (63 * T + m))).channelStatus).tick hrst htick
      (fun _ => rfl)
  have hlevel := (hnext hwithin).level
  rw [hcount] at hout hcount'
  rw [hcount', if_pos (by decide)] at hlevel
  rw [hclock]
  exact ⟨hcount', hout.trans (cell_zero _ _ _), hlevel⟩

theorem tx_out (k : Nat) (hk : k < 64 * T) : (loopAt clkFreq s clocks (a + k)).tx.aes3Out =
    cell (preamble (loopAt clkFreq s clocks a).tx) start (dataBit audio cs) (k / T) := by
  rcases Nat.lt_or_ge k (63 * T) with hwithin | hlast
  · obtain ⟨hsending, hcount, hpreamble⟩ := tx_within hwidth ha hstarts hstable k hwithin
    rw [hsending.out, hcount, hpreamble, Aes3Tx.levelBefore, if_neg (Nat.succ_ne_zero _)]
    rfl
  · obtain ⟨m, rfl⟩ := Nat.exists_eq_add_of_le hlast
    obtain ⟨hsending, hcount⟩ := tx_last hwidth ha hstarts hstable hT m (by omega)
    have hdiv : (63 * T + m) / T = 63 := by
      rw [Nat.mul_comm, Nat.mul_add_div (by omega), Nat.div_eq_of_lt (by omega)]
    rw [(hsending (dataBit audio cs)).out, hcount, hdiv, Aes3Tx.levelBefore, if_pos rfl]
    exact (cell_second _ _ _ 27).symm

end Subframe

-- ---------------------------------------------------------------------------
-- What the decoder hears of them
-- ---------------------------------------------------------------------------

theorem in2_at (clkFreq : Nat) (s : Loop) (hwidth : ConstantWidth T clocks) (k : Nat) :
    (loopAt clkFreq s clocks (k + 3)).rx.inSync.in2 = (loopAt clkFreq s clocks k).tx.aes3Out := by
  simp [loopAt, step, Aes3Rx.step, Aes3Rx.InSync.step, (hwidth _).1]

theorem decoder_at (clkFreq : Nat) (s : Loop) (hwidth : ConstantWidth T clocks) (k : Nat) :
    (loopAt clkFreq s clocks (k + 4)).rx.decoder =
      (loopAt clkFreq s clocks (k + 3)).rx.decoder.step clkFreq false
        (loopAt clkFreq s clocks k).tx.aes3Out := by
  rw [← in2_at clkFreq s hwidth k, ← (hwidth (k + 3)).1]
  rfl

theorem heard_add (first m n : Nat) : heard clkFreq s clocks first (m + n) =
    heard clkFreq s clocks first m ++ heard clkFreq s clocks (first + m) n := by
  rw [heard, heard, heard, ← List.flatMap_append, ← List.range'_append_1]

/-- The levels of the transmitter, three clocks late. -/
theorem heard_loop {d d' : Aes3Rx.Decoder} {levels : List Bool} {events : List Event}
    (h : Heard clkFreq T d levels events d') (hwidth : ConstantWidth T clocks)
    (hd : (loopAt clkFreq s clocks (a + 3)).rx.decoder = d)
    (hlevels : levels =
      (List.range' a levels.length).map fun k => (loopAt clkFreq s clocks k).tx.aes3Out) :
    (loopAt clkFreq s clocks (a + 3 + levels.length)).rx.decoder = d' ∧
      heard clkFreq s clocks (a + 3) levels.length = events ∧
      ∀ k, a + 3 ≤ k → k < a + 3 + levels.length →
        (loopAt clkFreq s clocks k).rx.decoder.width.cellW = T ∨
          (loopAt clkFreq s clocks k).rx.decoder.width.cellW = T + 1 := by
  induction h generalizing a with
  | done d => exact ⟨hd, rfl, fun k hlow hhigh => absurd hlow (Nat.not_le.mpr hhigh)⟩
  | @clock d d' level levels events hrange _ ih =>
    rw [List.length_cons, List.range'_succ, List.map_cons] at hlevels
    obtain ⟨hlevel, hrest⟩ := List.cons.inj hlevels
    have hnext : (loopAt clkFreq s clocks (a + 1 + 3)).rx.decoder = d.step clkFreq false level := by
      rw [hlevel, ← hd]
      exact decoder_at clkFreq s hwidth a
    obtain ⟨hdecoder, hheard, hwidths⟩ := ih hnext hrest
    have hshift : a + 3 + (level :: levels).length = a + 1 + 3 + levels.length := by
      rw [List.length_cons]
      omega
    refine ⟨hshift ▸ hdecoder, ?_, fun k hlow hhigh => ?_⟩
    · rw [List.length_cons, Nat.add_comm levels.length, heard_add,
        show a + 3 + 1 = a + 1 + 3 by omega, hheard]
      simp [heard, eventAt, hd, (hwidth _).1]
    · rcases Nat.eq_or_lt_of_le hlow with rfl | hlow
      · rwa [hd]
      · exact hwidths k (by omega) (by omega)

/-- Cells that are those of a wave. -/
theorem range_wave {out : Nat → Bool} {line : Nat → Bool} (first n : Nat) (hT : 0 < T)
    (h : ∀ k, first * T ≤ k → k < (first + n) * T → out (a + k) = line (k / T)) :
    (List.range' (a + first * T) (n * T)).map out = wave T line first n := by
  induction n generalizing first with
  | zero => simp [wave]
  | succ n ih =>
    have hsplit : List.range' (a + first * T) ((n + 1) * T) =
        List.range' (a + first * T) T ++ List.range' (a + (first + 1) * T) (n * T) := by
      rw [Nat.succ_mul, Nat.succ_mul, Nat.add_comm (n * T), ← List.range'_append_1,
        Nat.add_assoc]
    rw [hsplit, List.map_append, wave_succ, ih (first + 1) (fun k hlow hhigh => h k
      ((Nat.mul_le_mul_right T (Nat.le_succ first)).trans hlow)
      (by rwa [Nat.add_assoc, Nat.add_comm 1] at hhigh))]
    congr 1
    refine List.eq_replicate_iff.mpr ⟨by simp, fun b hb => ?_⟩
    obtain ⟨k, hk, rfl⟩ := List.mem_map.mp hb
    obtain ⟨hlow, hhigh⟩ := List.mem_range'_1.mp hk
    obtain ⟨i, rfl⟩ := Nat.exists_eq_add_of_le hlow
    have hi : i < T := by omega
    have hend : (first + 1) * T ≤ (first + (n + 1)) * T := Nat.mul_le_mul_right T (by omega)
    rw [Nat.succ_mul] at hend
    rw [Nat.add_assoc, h (first * T + i) (Nat.le_add_right _ _) (by omega), Nat.mul_comm,
      Nat.mul_add_div hT, Nat.div_eq_of_lt hi, Nat.add_zero]

theorem length_wave (T : Nat) (line : Nat → Bool) (first n : Nat) :
    (wave T line first n).length = n * T := by
  simp [wave, List.length_flatMap, Nat.mul_comm]

theorem length_subframeLevels (hT : 4 ≤ T) (p : Preamble) (start : Bool) (bits : Nat → Bool) :
    (subframeLevels T p start bits).length = 64 * T := by
  rw [subframeLevels, List.length_append, List.length_append, length_wave, List.length_replicate,
    List.length_replicate]
  omega

/-- One subframe, from six clocks into its preamble to six clocks into the
next. -/
theorem subframe_loop (hwidth : ConstantWidth T clocks) (ha : a % T = 0)
    (hstarts : Starts start (loopAt clkFreq s clocks a).tx)
    (hstable : ∀ k < 63 * T,
      currentAudio (loopAt clkFreq s clocks (a + k)).tx = audio ∧
      currentCs (loopAt clkFreq s clocks (a + k)).tx (clocks (a + k)).channelStatus = cs)
    (hT : 4 ≤ T) (hT' : T ≤ 40)
    (hready : Ready T start
      (firstShort (preamble (loopAt clkFreq s clocks a).tx) * T - 1)
      (loopAt clkFreq s clocks (a + 6)).rx.decoder) :
    Starts (levelAfter start (dataBit audio cs) 28) (loopAt clkFreq s clocks (a + 64 * T)).tx ∧
      Ready T (levelAfter start (dataBit audio cs) 28) (7 * T)
        (loopAt clkFreq s clocks (a + 64 * T + 6)).rx.decoder ∧
      (∃ sr, (∀ i < 28, sr.getLsbD i = dataBit audio cs i) ∧
        heard clkFreq s clocks (a + 6) (64 * T) =
          [.preamble (preamble (loopAt clkFreq s clocks a).tx),
            .subframe (loopAt clkFreq s clocks a).tx.subframeB sr]) ∧
      ∀ k, a + 6 ≤ k → k < a + 64 * T + 6 →
        (loopAt clkFreq s clocks k).rx.decoder.width.cellW = T ∨
          (loopAt clkFreq s clocks k).rx.decoder.width.cellW = T + 1 := by
  have hnext := tx_next hwidth ha hstarts hstable hT
  have ha' : (a + 64 * T) % T = 0 := by rw [Nat.add_mul_mod_self_right, ha]
  have hlevels : subframeLevels T (preamble (loopAt clkFreq s clocks a).tx) start
      (dataBit audio cs) =
        (List.range' (a + 3) (64 * T)).map fun k => (loopAt clkFreq s clocks k).tx.aes3Out := by
    have hsplit : List.range' (a + 3) (64 * T) = List.range' (a + 3) (T - 3) ++
        List.range' (a + 1 * T) (63 * T) ++ List.range' (a + 64 * T) 3 := by
      rw [show a + 1 * T = a + 3 + (T - 3) by omega, List.range'_append_1,
        show a + 64 * T = a + 3 + (T - 3 + 63 * T) by omega, List.range'_append_1]
      congr 1
      omega
    rw [hsplit, List.map_append, List.map_append, subframeLevels]
    congr 1
    · congr 1
      · refine (List.eq_replicate_iff.mpr ⟨by simp, fun b hb => ?_⟩).symm
        obtain ⟨k, hk, rfl⟩ := List.mem_map.mp hb
        obtain ⟨hlow, hhigh⟩ := List.mem_range'_1.mp hk
        obtain ⟨i, rfl⟩ := Nat.exists_eq_add_of_le (Nat.le_of_add_right_le hlow)
        rw [cell_zero]
        exact (tx_first hwidth ha hstarts i (by omega)).aes3Out
      · exact (range_wave 1 63 (by omega) (fun k _ hhigh =>
          tx_out hwidth ha hstarts hstable hT k (by omega))).symm
    · refine (List.eq_replicate_iff.mpr ⟨by simp, fun b hb => ?_⟩).symm
      obtain ⟨k, hk, rfl⟩ := List.mem_map.mp hb
      obtain ⟨hlow, hhigh⟩ := List.mem_range'_1.mp hk
      obtain ⟨i, rfl⟩ := Nat.exists_eq_add_of_le hlow
      exact (tx_first hwidth ha' hnext i (by omega)).aes3Out
  obtain ⟨d', sr, hhears, hsr, hready'⟩ := hready.subframe clkFreq (dataBit audio cs) hT hT'
  have hlength := length_subframeLevels hT (preamble (loopAt clkFreq s clocks a).tx) start
    (dataBit audio cs)
  obtain ⟨hdecoder, hheard, hwidths⟩ := heard_loop (a := a + 3) hhears hwidth rfl (by
    rw [hlength]
    exact hlevels)
  rw [hlength] at hdecoder hheard hwidths
  have hb : decide (preamble (loopAt clkFreq s clocks a).tx = .y) =
      (loopAt clkFreq s clocks a).tx.subframeB := by
    rw [preamble]
    cases (loopAt clkFreq s clocks a).tx.subframeB
    · rw [if_neg Bool.false_ne_true]
      split <;> rfl
    · rfl
  rw [hb] at hheard
  have hclock : a + 3 + 3 + 64 * T = a + 64 * T + 6 := by omega
  rw [hclock] at hdecoder hwidths
  exact ⟨hnext, hdecoder ▸ hready', ⟨sr, hsr, hheard⟩, hwidths⟩

-- ---------------------------------------------------------------------------
-- The first edge
-- ---------------------------------------------------------------------------

theorem edges_same {e : Aes3Rx.Edges} {level : Bool} (h : e.aes3D = level) :
    (e.step false level).aes3D = level ∧ (e.step false level).iv = false ∧
      (e.edgeTimer < 128 → (e.step false level).edgeTimer = e.edgeTimer + 1) := by
  subst h
  by_cases htimer : e.edgeTimer < 128 <;> simp [Aes3Rx.Edges.step, htimer]

theorem edges_edge {e : Aes3Rx.Edges} {level : Bool} (h : e.aes3D = level) :
    (e.step false (!level)).aes3D = (!level) ∧ (e.step false (!level)).edgeTimer = 1 := by
  subst h
  by_cases htimer : 3 ≤ e.edgeTimer <;> simp [Aes3Rx.Edges.step, htimer]

/-- Five clocks into the preamble its edge has been processed. -/
theorem quiet_five (hwidth : ConstantWidth T clocks) (hT : 4 ≤ T) (h : Begun s)
    (hhunting : Hunting T (loopAt clkFreq s clocks 5).rx)
    (hdecay : NoDecay T (preamble s.tx) (loopAt clkFreq s clocks 5).rx) :
    Quiet T (!s.tx.bmcLevel) 2 (firstShort (preamble s.tx) * T)
      (loopAt clkFreq s clocks 5).rx.decoder := by
  have hstarts : Starts s.tx.bmcLevel (loopAt clkFreq s clocks 0).tx :=
    ⟨h.symbolCount, h.aes3Out, rfl⟩
  have hout (k : Nat) (hk : k < T) :
      (loopAt clkFreq s clocks k).tx.aes3Out = !s.tx.bmcLevel := by
    have := (tx_first hwidth (Nat.zero_mod T) hstarts k hk).aes3Out
    rwa [Nat.zero_add] at this
  have hbefore : (loopAt clkFreq s clocks 3).rx.decoder.edges.aes3D = s.tx.bmcLevel := by
    simp only [loopAt, step, Aes3Rx.step, Aes3Rx.InSync.step, Aes3Rx.Decoder.step, (hwidth _).1,
      Bool.false_eq_true, if_false, h.inSync]
    exact (edges_same (edges_same (edges_same h.aes3D).1).1).1
  have hfour := decoder_at clkFreq s hwidth 0
  have hfive := decoder_at clkFreq s hwidth 1
  rw [hout 0 (by omega)] at hfour
  rw [hout 1 (by omega)] at hfive
  obtain ⟨hlevel, htimer⟩ := edges_edge hbefore
  have hedges₄ : (loopAt clkFreq s clocks 4).rx.decoder.edges =
      (loopAt clkFreq s clocks 3).rx.decoder.edges.step false (!s.tx.bmcLevel) :=
    congrArg Aes3Rx.Decoder.edges hfour
  have hedges₅ : (loopAt clkFreq s clocks 5).rx.decoder.edges =
      (loopAt clkFreq s clocks 4).rx.decoder.edges.step false (!s.tx.bmcLevel) :=
    congrArg Aes3Rx.Decoder.edges hfive
  rw [← hedges₄] at hlevel htimer
  obtain ⟨hlevel', hiv, htimer'⟩ := edges_same hlevel
  rw [← hedges₅] at hlevel' hiv htimer'
  refine ⟨hlevel', ?_, hiv, fun hdone => ?_, ?_⟩
  · rw [htimer' (by omega), htimer]
  · cases hhunting.hunt.symm.trans hdone.1
  · rcases hhunting.width with hexact | hwide
    · exact .inl hexact
    · have hlate := hdecay hwide
      exact .inr ⟨hwide, by omega⟩

-- ---------------------------------------------------------------------------
-- All subframes
-- ---------------------------------------------------------------------------

theorem carries_of_bits {sr : BitVec 28} (h : ∀ i < 28, sr.getLsbD i = dataBit audio cs i) :
    Carries sr (audio, cs) := by
  constructor
  · refine BitVec.eq_of_getLsbD_eq (fun i hi => ?_)
    rw [BitVec.getLsbD_extractLsb', decide_eq_true hi, Bool.true_and, Nat.zero_add,
      h i (by omega), dataBit_audio audio cs hi]
  · exact h 26 (by decide)
  · rw [parityOk, reduceXor, xorUpTo_congr h, dataBit_even]
    rfl

theorem le_firstShort (p : Preamble) (T : Nat) : 4 * T ≤ firstShort p * T :=
  Nat.mul_le_mul_right T (by cases p <;> decide)

theorem firstShort_le (p : Preamble) (T : Nat) : firstShort p * T ≤ 7 * T :=
  Nat.mul_le_mul_right T (by cases p <;> decide)

variable {words : Nat → BitVec 24 × Bool} {n : Nat}

/-- Six clocks into the preamble after `j` subframes. -/
theorem subframes_loop (hwidth : ConstantWidth T clocks) (hT : 4 ≤ T) (hT' : T ≤ 40)
    (hstable : Stable clkFreq T s clocks words n) (hbegun : Begun s)
    (hhunting : Hunting T (loopAt clkFreq s clocks 5).rx)
    (hdecay : NoDecay T (preamble s.tx) (loopAt clkFreq s clocks 5).rx) (j : Nat) (hj : j ≤ n) :
    ∃ (start : Bool) (sr : Nat → BitVec 28),
      Starts start (loopAt clkFreq s clocks (64 * T * j)).tx ∧
      Ready T start (firstShort (preamble (loopAt clkFreq s clocks (64 * T * j)).tx) * T - 1)
        (loopAt clkFreq s clocks (64 * T * j + 6)).rx.decoder ∧
      (∀ i < j, Carries (sr i) (words i)) ∧
      heard clkFreq s clocks 5 (64 * T * j + 1) = (List.range j).flatMap (fun i =>
        [.preamble (preamble (loopAt clkFreq s clocks (64 * T * i)).tx),
          .subframe (loopAt clkFreq s clocks (64 * T * i)).tx.subframeB (sr i)]) ∧
      ∀ k, 5 ≤ k → k < 64 * T * j + 6 →
        (loopAt clkFreq s clocks k).rx.decoder.width.cellW = T ∨
          (loopAt clkFreq s clocks k).rx.decoder.width.cellW = T + 1 := by
  induction j with
  | zero =>
    have hquiet := quiet_five hwidth hT hbegun hhunting hdecay
    have hstarts : Starts s.tx.bmcLevel (loopAt clkFreq s clocks 0).tx :=
      ⟨hbegun.symbolCount, hbegun.aes3Out, rfl⟩
    have hlow := le_firstShort (preamble s.tx) T
    have hhigh := firstShort_le (preamble s.tx) T
    obtain ⟨hclock, hquiet', hframing⟩ := Quiet.clock clkFreq
      (n := firstShort (preamble s.tx) * T - 1) (hquiet.weaken (by omega)) (by decide)
      (by omega) hT'
    have hlevel : (loopAt clkFreq s clocks 2).tx.aes3Out = !s.tx.bmcLevel := by
      have := (tx_first hwidth (Nat.zero_mod T) hstarts 2 (by omega)).aes3Out
      rwa [Nat.zero_add] at this
    obtain ⟨hdecoder, hheard, hwidths⟩ := heard_loop (a := 2) hclock hwidth rfl (by
      simp [hlevel])
    rw [Nat.mul_zero]
    refine ⟨s.tx.bmcLevel, fun _ => 0, hstarts, ⟨hdecoder ▸ hquiet', ?_⟩,
      fun i hi => absurd hi (Nat.not_lt_zero i), hheard, hwidths⟩
    have hsix : (loopAt clkFreq s clocks (0 + 6)).rx.decoder =
        (loopAt clkFreq s clocks (2 + 3)).rx.decoder.step clkFreq false (!s.tx.bmcLevel) := hdecoder
    rw [hsix, hframing]
    exact hhunting.hunt
  | succ j ih =>
    obtain ⟨start, sr, hstarts, hready, hcarries, hheard, hwidths⟩ := ih (by omega)
    have ha : 64 * T * j % T = 0 := by
      rw [Nat.mul_assoc, Nat.mul_left_comm, Nat.mul_mod_right]
    obtain ⟨hstarts', hready', ⟨new, hnew, hheard'⟩, hwidths'⟩ := subframe_loop hwidth ha hstarts
      (fun k hk => hstable j (by omega) k hk) hT hT' hready
    have hclock : 64 * T * (j + 1) = 64 * T * j + 64 * T := Nat.mul_succ _ _
    obtain ⟨sr', hold, hlast⟩ : ∃ sr' : Nat → BitVec 28, (∀ i < j, sr' i = sr i) ∧ sr' j = new :=
      ⟨Function.update sr j new, fun i hi => Function.update_of_ne (Nat.ne_of_lt hi) _ _,
        Function.update_self ..⟩
    have hsame : (List.range j).flatMap (fun i =>
        [Event.preamble (preamble (loopAt clkFreq s clocks (64 * T * i)).tx),
          .subframe (loopAt clkFreq s clocks (64 * T * i)).tx.subframeB (sr' i)]) =
        heard clkFreq s clocks 5 (64 * T * j + 1) := by
      rw [hheard]
      exact List.flatMap_congr (fun i hi => by rw [hold i (List.mem_range.mp hi)])
    rw [hclock]
    refine ⟨_, sr', hstarts', ⟨hready'.quiet.weaken ?_, hready'.hunt⟩, fun i hi => ?_, ?_,
      fun k hlow hhigh => ?_⟩
    · have := firstShort_le (preamble (loopAt clkFreq s clocks (64 * T * j + 64 * T)).tx) T
      omega
    · rcases Nat.lt_succ_iff_lt_or_eq.mp hi with hbefore | rfl
      · rw [hold i hbefore]
        exact hcarries i hbefore
      · rw [hlast]
        exact carries_of_bits hnew
    · rw [Nat.add_right_comm, heard_add, List.range_succ, List.flatMap_append, hsame,
        List.flatMap_singleton, hlast, ← hheard']
      congr 2
      omega
    · rcases Nat.lt_or_ge k (64 * T * j + 6) with hbefore | hnow
      · exact hwidths k hlow hbefore
      · exact hwidths' k hnow (by omega)

/-- The loopback is exact for every constant width from 4 to 40 clocks. -/
theorem loopback_exact (clkFreq T : Nat) (hT : 4 ≤ T) (hT' : T ≤ 40) (s : Loop)
    (clocks : Nat → Clock) (hwidth : ConstantWidth T clocks) (words : Nat → BitVec 24 × Bool)
    (n : Nat) (hstable : Stable clkFreq T s clocks words n) (hbegun : Begun s)
    (hhunting : Hunting T (loopAt clkFreq s clocks 5).rx)
    (hdecay : NoDecay T (preamble s.tx) (loopAt clkFreq s clocks 5).rx) :
    Exact clkFreq T s clocks words n := by
  have hall := subframes_loop hwidth hT hT' hstable hbegun hhunting hdecay
  obtain ⟨start, sr, -, hready, hcarries, hheard, hwidths⟩ := hall n (Nat.le_refl n)
  refine ⟨fun k hlow hhigh => ?_, ⟨sr, hcarries, hheard⟩, fun k chB sr hevent => ?_,
    fun j hj => ?_⟩
  · rcases Nat.lt_or_eq_of_le hhigh with hbefore | rfl
    · exact hwidths k hlow hbefore
    · exact hready.quiet.estimate.range
  · exact Aes3Rx.event_delivered hevent clkFreq _
  · obtain ⟨_, _, _, hready', _⟩ := hall j hj
    exact hready'.hunt

-- Clocks without a load, and a line that has been low for long.

def ticks (T : Nat) (k : Nat) : Clock := ⟨false, 0, 0, false, decide ((k + 1) % T = 0), 0⟩

def firstCell : Tx where
  frameCount := 0
  subframeB := false
  symbolCount := 1
  bmcLevel := false
  aes3Out := true
  pendingL := 0x5A5A5A
  pendingR := 0x5A5A5A
  pendingValid := false
  audioReady := true

def idleRx (cellW decayCnt : Nat) : Rx where
  inSync := ⟨false, false, false⟩
  decoder :=
    { edges := ⟨false, 128, 0, false⟩
      width := ⟨cellW, decayCnt⟩
      control := (Aes3Rx.afterReset 50000000).decoder.control }

theorem ticks_width (T : Nat) : ConstantWidth T (ticks T) := fun _ => ⟨rfl, rfl⟩

theorem ticks_stable (clkFreq T : Nat) (rx : Rx) (n : Nat) :
    Stable clkFreq T ⟨firstCell, rx⟩ (ticks T) (fun _ => (0x5A5A5A, false)) n := by
  have hpending (k : Nat) : (loopAt clkFreq ⟨firstCell, rx⟩ (ticks T) k).tx.pendingL = 0x5A5A5A ∧
      (loopAt clkFreq ⟨firstCell, rx⟩ (ticks T) k).tx.pendingR = 0x5A5A5A := by
    induction k with
    | zero => exact ⟨rfl, rfl⟩
    | succ k ih =>
      exact ⟨(Aes3Tx.step_pendingL rfl).trans ih.1, (Aes3Tx.step_pendingR rfl).trans ih.2⟩
  intro j _ k _
  obtain ⟨hl, hr⟩ := hpending (64 * T * j + k)
  refine ⟨?_, BitVec.getLsbD_zero⟩
  rw [currentAudio, hl, hr, ite_self]

theorem loopback_exact_ticks : Exact 50000000 8 ⟨firstCell, idleRx 8 0⟩ (ticks 8)
    (fun _ => (0x5A5A5A, false)) 3 :=
  loopback_exact 50000000 8 (by decide) (by decide) ⟨firstCell, idleRx 8 0⟩ (ticks 8)
    (ticks_width 8) _ 3 (ticks_stable _ _ _ _) ⟨rfl, rfl, rfl, rfl⟩
    ⟨by decide +kernel, .inl (by decide +kernel)⟩ (fun h => absurd h (by decide +kernel))

/-- With 7 clocks to the cell and an estimate of 8, the decay that strikes
six clocks into the preamble makes it 9. -/
theorem early_decay : ¬∀ T, 4 ≤ T → T ≤ 40 → ∀ (s : Loop) (clocks : Nat → Clock)
    (words : Nat → BitVec 24 × Bool) (n : Nat), ConstantWidth T clocks →
    Stable 50000000 T s clocks words n → Begun s → Hunting T (loopAt 50000000 s clocks 5).rx →
    Exact 50000000 T s clocks words n := by
  intro h
  have hexact := h 7 (by decide) (by decide) ⟨firstCell, idleRx 8 4090⟩ (ticks 7) _ 1
    (ticks_width 7) (ticks_stable _ _ _ _) ⟨rfl, rfl, rfl, rfl⟩
    ⟨by decide +kernel, .inr (by decide +kernel)⟩
  have hnine :
      (loopAt 50000000 ⟨firstCell, idleRx 8 4090⟩ (ticks 7) 6).rx.decoder.width.cellW = 9 := by
    decide +kernel
  have hrange := hexact.width 6 (by decide) (by decide)
  rw [hnine] at hrange
  omega

end AvbAes3.Aes3Loopback
