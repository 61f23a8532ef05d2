/-
The grid of doubles.

The doubles without sign are numbered from zero on by their bits, and in the order of their
sizes.  Between two neighbours lies a point halfway, and a number is rounded to the grid point
whose halfway points enclose it, to an even one from a halfway point itself.

* `Decimal.grid` — the size of the double with a number; `grid_strictMono`;
* `Decimal.Nearest` — to be the number of the nearest grid point; `Nearest.mono` — rounding keeps
  the order, so there is one nearest point at most; `nearest_grid` — grid points are their own;
* `Decimal.Nearest.le_mul`, `Decimal.Nearest.le_mul_of_normal` — for sizes that are normal, loss
  and excess are relative; `Decimal.Nearest.abs_sub_le` — for all others there is a unit more.

Design notes: the grid goes on beyond the largest double as if there were larger exponents.
The number that would come next is that of infinity, so rounding to a double is rounding to
the grid and then cutting off at `infinityCode`.
-/
import Mathlib

namespace ClusterAgent.Decimal

/-- The size of a grid point in units of the least one above zero: the first `2 ^ 52` points lie
one unit apart, and then every `2 ^ 52` points the distance doubles. -/
def units (n : ℕ) : ℕ := if n < 2 ^ 52 then n else (2 ^ 52 + n % 2 ^ 52) * 2 ^ (n / 2 ^ 52 - 1)

/-- A mantissa may take up all of its binade, the next power of two included. -/
theorem units_parts {e m : ℕ} (hle : m ≤ 2 ^ 53) (hnormal : 2 ^ 52 ≤ m ∨ e = 0) :
    units (e * 2 ^ 52 + m) = m * 2 ^ e := by
  rw [units]
  rcases Nat.lt_or_ge m (2 ^ 52) with hsmall | hlarge
  · obtain rfl := hnormal.resolve_left (Nat.not_le.mpr hsmall)
    rw [if_pos (by omega)]
    omega
  · rw [if_neg (by omega)]
    rcases hle.lt_or_eq with hlt | rfl
    · have hmod : (e * 2 ^ 52 + m) % 2 ^ 52 = m - 2 ^ 52 := by omega
      have hdiv : (e * 2 ^ 52 + m) / 2 ^ 52 = e + 1 := by omega
      rw [hmod, hdiv, Nat.add_sub_cancel, Nat.add_sub_cancel' hlarge]
    · have hmod : (e * 2 ^ 52 + 2 ^ 53) % 2 ^ 52 = 0 := by omega
      have hdiv : (e * 2 ^ 52 + 2 ^ 53) / 2 ^ 52 = e + 1 + 1 := by omega
      rw [hmod, hdiv, Nat.add_sub_cancel, pow_succ 2 e]
      ring

theorem exists_parts (n : ℕ) :
    ∃ e m, n = e * 2 ^ 52 + m ∧ m < 2 ^ 53 ∧ (2 ^ 52 ≤ m ∨ e = 0) := by
  rcases Nat.lt_or_ge n (2 ^ 52) with hsmall | hlarge
  · exact ⟨0, n, by omega, by omega, .inr rfl⟩
  · exact ⟨n / 2 ^ 52 - 1, 2 ^ 52 + n % 2 ^ 52, by omega, by omega, .inl (by omega)⟩

/-- The distance to the next grid point. -/
def gap (n : ℕ) : ℕ := 2 ^ (n / 2 ^ 52 - 1)

theorem units_succ (n : ℕ) : units (n + 1) = units n + gap n := by
  obtain ⟨e, m, rfl, hlt, hnormal⟩ := exists_parts n
  have hgap : (e * 2 ^ 52 + m) / 2 ^ 52 - 1 = e := by omega
  rw [Nat.add_assoc, units_parts (by omega) (hnormal.imp_left (by omega)),
    units_parts (by omega) hnormal, gap, hgap]
  ring

theorem gap_pos (n : ℕ) : 0 < gap n := Nat.two_pow_pos _

theorem gap_mono : Monotone gap := fun _ _ h =>
  Nat.pow_le_pow_right (by decide) (Nat.sub_le_sub_right (Nat.div_le_div_right h) 1)

/-- From the first normal point on, the next one is little farther. -/
theorem gap_mul_le {n : ℕ} (h : 2 ^ 52 ≤ n) : gap n * 2 ^ 52 ≤ units n := by
  rw [units, if_neg (by omega), gap, Nat.mul_comm]
  exact Nat.mul_le_mul_right _ (Nat.le_add_right _ _)

/-! ### Sizes -/

/-- The units in one. -/
def scale : ℚ := 2 ^ 1074

theorem scale_pos : 0 < scale := pow_pos two_pos 1074

/-- The size of a grid point. -/
def grid (n : ℕ) : ℚ := units n / scale

theorem grid_parts {e m : ℕ} (hle : m ≤ 2 ^ 53) (hnormal : 2 ^ 52 ≤ m ∨ e = 0) :
    grid (e * 2 ^ 52 + m) = m * 2 ^ ((e : ℤ) - 1074) := by
  rw [grid, units_parts hle hnormal, Nat.cast_mul, Nat.cast_pow, Nat.cast_ofNat, mul_div_assoc,
    zpow_sub₀ two_ne_zero, zpow_natCast]
  rfl

theorem grid_zero : grid 0 = 0 := by
  rw [grid, units, if_pos (by omega), Nat.cast_zero, zero_div]

theorem grid_succ (n : ℕ) : grid (n + 1) = grid n + gap n / scale := by
  rw [grid, grid, units_succ, Nat.cast_add, add_div]

theorem gap_div_pos (n : ℕ) : 0 < (gap n : ℚ) / scale :=
  div_pos (Nat.cast_pos.mpr (gap_pos n)) scale_pos

theorem grid_strictMono : StrictMono grid :=
  strictMono_nat_of_lt_succ fun n => by
    rw [grid_succ]
    exact lt_add_of_pos_right _ (gap_div_pos n)

theorem grid_nonneg (n : ℕ) : 0 ≤ grid n := by
  rw [← grid_zero]
  exact grid_strictMono.monotone (Nat.zero_le n)

/-- The point halfway to the next grid point. -/
def halfway (n : ℕ) : ℚ := grid n + gap n / scale / 2

theorem grid_lt_halfway (n : ℕ) : grid n < halfway n :=
  lt_add_of_pos_right _ (half_pos (gap_div_pos n))

theorem halfway_lt_grid_succ (n : ℕ) : halfway n < grid (n + 1) := by
  rw [halfway, grid_succ]
  linarith [gap_div_pos n]

theorem halfway_lt_grid {m n : ℕ} (h : m < n) : halfway m < grid n :=
  (halfway_lt_grid_succ m).trans_le (grid_strictMono.monotone h)

theorem halfway_strictMono : StrictMono halfway :=
  strictMono_nat_of_lt_succ fun n => (halfway_lt_grid_succ n).trans (grid_lt_halfway _)

/-! ### Nearest points -/

/-- The nearest point of the grid to a number has this number. -/
structure Nearest (v : ℚ) (n : ℕ) : Prop where
  lower : ∀ k, n = k + 1 → halfway k ≤ v ∧ (halfway k = v → Even n)
  upper : v ≤ halfway n ∧ (v = halfway n → Even n)

theorem nearest_grid (n : ℕ) : Nearest (grid n) n where
  lower k h := by
    have hlt := halfway_lt_grid (m := k) (n := n) (by omega)
    exact ⟨hlt.le, fun heq => absurd heq hlt.ne⟩
  upper := ⟨(grid_lt_halfway n).le, fun heq => absurd heq (grid_lt_halfway n).ne⟩

/-- Rounding keeps the order. -/
theorem Nearest.mono {v w : ℚ} {m n : ℕ} (hv : Nearest v m) (hw : Nearest w n) (h : v ≤ w) :
    m ≤ n := by
  by_contra hlt
  obtain ⟨k, rfl⟩ : ∃ k, m = k + 1 := ⟨m - 1, by omega⟩
  obtain ⟨hlower, heven⟩ := hv.lower k rfl
  obtain ⟨hupper, heven'⟩ := hw.upper
  have hmid := halfway_strictMono.monotone (show n ≤ k by omega)
  -- Everything is one halfway point, and its two neighbours are not both even.
  have hv' : halfway k = v := le_antisymm hlower (by linarith)
  have hw' : w = halfway n := le_antisymm hupper (by linarith)
  have hnk : n = k := halfway_strictMono.injective (by linarith)
  have hm := heven hv'
  have hn := heven' hw'
  rw [hnk] at hn
  exact (Nat.even_add_one.mp hm) hn

theorem Nearest.le_of_lt_halfway {v : ℚ} {m n : ℕ} (h : Nearest v m) (hlt : v < halfway n) :
    m ≤ n := by
  by_contra hnm
  obtain ⟨k, rfl⟩ : ∃ k, m = k + 1 := ⟨m - 1, by omega⟩
  have hmid := halfway_strictMono.monotone (show n ≤ k by omega)
  linarith [(h.lower k rfl).1]

theorem le_grid_of_le (n : ℕ) : n / scale ≤ grid n := by
  have hunits : StrictMono units := strictMono_nat_of_lt_succ fun n => by
    rw [units_succ]
    exact Nat.lt_add_of_pos_right (gap_pos n)
  exact div_le_div_of_nonneg_right (Nat.cast_le.mpr hunits.le_apply) scale_pos.le

/-- Every number has a nearest point. -/
theorem exists_nearest (v : ℚ) : ∃ n, Nearest v n := by
  have hlarge : ∃ n, v ≤ halfway n := by
    obtain ⟨n, hn⟩ := exists_nat_gt (v * scale)
    refine ⟨n, le_trans ?_ (grid_lt_halfway n).le⟩
    refine le_trans ?_ (le_grid_of_le n)
    rw [le_div_iff₀ scale_pos]
    exact hn.le
  obtain ⟨n, hn, hfirst⟩ := Nat.findX hlarge
  have hlower : ∀ k, n = k + 1 → halfway k < v := fun k hk => not_le.mp (hfirst k (by omega))
  by_cases heven : v = halfway n → Even n
  · exact ⟨n, fun k hk => ⟨(hlower k hk).le, fun heq => absurd heq (hlower k hk).ne⟩, hn, heven⟩
  · -- From the halfway point of an odd one it is the next.
    obtain ⟨hmid, hodd⟩ := Classical.not_imp.mp heven
    refine ⟨n + 1, fun k hk => ?_, ?_⟩
    · obtain rfl : n = k := by omega
      exact ⟨hmid.ge, fun _ => Nat.even_add_one.mpr hodd⟩
    · have hlt : v < halfway (n + 1) := hmid ▸ halfway_strictMono (Nat.lt_succ_self n)
      exact ⟨hlt.le, fun heq => absurd heq hlt.ne⟩

/-- The number of the least double that is normal. -/
def normalCode : ℕ := 2 ^ 52

theorem grid_normalCode_le : grid normalCode ≤ 1 / 2 ^ 100 := by
  have hparts : normalCode = 0 * 2 ^ 52 + 2 ^ 52 := by decide
  have hexp : (1 : ℚ) / 2 ^ 100 = 2 ^ (52 : ℕ) * 2 ^ (-152 : ℤ) := by norm_num
  rw [hparts, grid_parts (by decide) (.inl (le_refl _)), hexp, Nat.cast_pow, Nat.cast_ofNat]
  exact mul_le_mul_of_nonneg_left (zpow_le_zpow_right₀ one_le_two (by decide)) (by positivity)

/-- From a normal point it is a part of `2 ^ 53` to the halfway point. -/
theorem half_gap_le_of_normal {n : ℕ} (hn : normalCode ≤ n) :
    (gap n : ℚ) / scale / 2 ≤ grid n / 2 ^ 53 := by
  have hgap : (gap n : ℚ) * 2 ^ 52 ≤ units n := by exact_mod_cast gap_mul_le hn
  have hunit : (gap n : ℚ) / scale * 2 ^ 52 ≤ grid n := by
    rw [grid, div_mul_eq_mul_div]
    exact div_le_div_of_nonneg_right hgap scale_pos.le
  linarith

theorem half_gap_le (n : ℕ) : (gap n : ℚ) / scale / 2 ≤ grid n / 2 ^ 53 + 1 / scale := by
  have hunit : 0 < 1 / scale := one_div_pos.mpr scale_pos
  rcases Nat.lt_or_ge n normalCode with hlt | hge
  · have hgap : gap n = 1 := by
      rw [normalCode] at hlt
      rw [gap, Nat.div_eq_of_lt hlt]
      rfl
    rw [hgap, Nat.cast_one]
    linarith [grid_nonneg n]
  · linarith [half_gap_le_of_normal hge]

/-- A normal size is rounded down by a part of `2 ^ 53` at most. -/
theorem Nearest.le_mul {v : ℚ} {n : ℕ} (h : Nearest v n) (hn : normalCode ≤ n) :
    v ≤ grid n * (1 + 1 / 2 ^ 53) := by
  have hhalf := half_gap_le_of_normal hn
  have hupper := h.upper.1
  rw [halfway] at hupper
  linarith

/-- A normal number is rounded up by a part of `2 ^ 53` at most. -/
theorem Nearest.le_mul_of_normal {v : ℚ} {n : ℕ} (h : Nearest v n) (hv : grid normalCode ≤ v) :
    grid n ≤ v * (1 + 1 / 2 ^ 53) := by
  have hnonneg : 0 ≤ v := (grid_nonneg _).trans hv
  rcases Nat.lt_or_ge normalCode n with hlt | hge
  · obtain ⟨k, rfl⟩ : ∃ k, n = k + 1 := ⟨n - 1, by omega⟩
    have hhalf := half_gap_le_of_normal (n := k) (Nat.le_of_lt_succ hlt)
    have hlower := (h.lower k rfl).1
    have hpoint := (grid_lt_halfway k).le
    rw [halfway] at hlower hpoint
    rw [grid_succ]
    linarith
  · have hgrid := grid_strictMono.monotone hge
    linarith

/-- Rounding moves a number by a part of `2 ^ 53` and a unit at most. -/
theorem Nearest.abs_sub_le {v : ℚ} {n : ℕ} (h : Nearest v n) (hv : 0 ≤ v) :
    |grid n - v| ≤ v / 2 ^ 53 + 1 / scale := by
  have hunit : 0 < 1 / scale := one_div_pos.mpr scale_pos
  rw [abs_le]
  constructor
  · have hupper := h.upper.1
    have hhalf := half_gap_le n
    rw [halfway] at hupper
    rcases le_total (grid n) v with hle | hge <;> linarith
  · rcases n with _ | k
    · rw [grid_zero]
      linarith
    · have hlower := (h.lower k rfl).1
      have hpoint := (grid_lt_halfway k).le
      have hhalf := half_gap_le k
      rw [halfway] at hlower hpoint
      rw [grid_succ]
      linarith

/-- Where between two points of a binade a number lies, and which of them is the nearest. -/
theorem nearest_parts {e m : ℕ} {x : ℚ} (hlt : m < 2 ^ 53) (hnormal : 2 ^ 52 ≤ m ∨ e = 0)
    (hle : m ≤ x) (hsucc : x < m + 1) :
    (x < m + 1 / 2 ∨ x = m + 1 / 2 ∧ Even m →
      Nearest (x * 2 ^ ((e : ℤ) - 1074)) (e * 2 ^ 52 + m)) ∧
    (m + 1 / 2 < x ∨ x = m + 1 / 2 ∧ ¬ Even m →
      Nearest (x * 2 ^ ((e : ℤ) - 1074)) (e * 2 ^ 52 + (m + 1))) := by
  have hpow : (0 : ℚ) < 2 ^ ((e : ℤ) - 1074) := zpow_pos two_pos _
  have hgrid := grid_parts hlt.le hnormal
  have hgrid' := grid_parts (m := m + 1) hlt (hnormal.imp_left fun h => h.trans (Nat.le_succ m))
  have hhalf : halfway (e * 2 ^ 52 + m) = (m + 1 / 2) * 2 ^ ((e : ℤ) - 1074) := by
    have hnext := grid_succ (e * 2 ^ 52 + m)
    rw [Nat.add_assoc, hgrid, hgrid', Nat.cast_add, Nat.cast_one] at hnext
    rw [halfway, hgrid]
    linarith
  have heven (n : ℕ) : Even (e * 2 ^ 52 + n) ↔ Even n := by
    have hbase : Even (e * 2 ^ 52) := Even.mul_left (by decide) e
    rw [Nat.even_add, iff_true_intro hbase, true_iff]
  constructor
  · intro hlow
    refine ⟨fun k hk => ?_, ?_⟩
    · -- The halfway point before lies below the grid point.
      have hbelow : halfway k < x * 2 ^ ((e : ℤ) - 1074) := by
        refine (halfway_lt_grid (n := e * 2 ^ 52 + m) (by omega)).trans_le ?_
        rw [hgrid]
        exact mul_le_mul_of_nonneg_right hle hpow.le
      exact ⟨hbelow.le, fun heq => absurd heq hbelow.ne⟩
    · rw [hhalf, heven]
      rcases hlow with hlow | ⟨rfl, hm⟩
      · have hmul := mul_lt_mul_of_pos_right hlow hpow
        exact ⟨hmul.le, fun heq => absurd heq hmul.ne⟩
      · exact ⟨le_refl _, fun _ => hm⟩
  · intro hhigh
    refine ⟨fun k hk => ?_, ?_⟩
    · obtain rfl : k = e * 2 ^ 52 + m := by omega
      rw [hhalf, heven]
      rcases hhigh with hhigh | ⟨rfl, hm⟩
      · have hmul := mul_lt_mul_of_pos_right hhigh hpow
        exact ⟨hmul.le, fun heq => absurd heq hmul.ne⟩
      · exact ⟨le_refl _, fun _ => Nat.even_add_one.mpr hm⟩
    · have habove : x * 2 ^ ((e : ℤ) - 1074) < halfway (e * 2 ^ 52 + (m + 1)) := by
        refine lt_trans ?_ (grid_lt_halfway _)
        rw [hgrid', Nat.cast_add, Nat.cast_one]
        exact mul_lt_mul_of_pos_right hsucc hpow
      exact ⟨habove.le, fun heq => absurd heq habove.ne⟩

/-- The powers of two. -/
theorem grid_pow (e : ℕ) : grid ((1023 + e) * 2 ^ 52) = 2 ^ e := by
  have hparts : (1023 + e) * 2 ^ 52 = (1022 + e) * 2 ^ 52 + 2 ^ 52 := by omega
  have hexp : (52 : ℕ) + (((1022 + e : ℕ) : ℤ) - 1074) = (e : ℕ) := by omega
  rw [hparts, grid_parts (by decide) (.inl (le_refl _)), Nat.cast_pow, Nat.cast_ofNat,
    ← zpow_natCast, ← zpow_add₀ two_ne_zero, hexp, zpow_natCast]

/-- From `2 ^ 53` on the grid points lie two apart at least. -/
theorem two_le_gap {n : ℕ} (h : (1023 + 53) * 2 ^ 52 ≤ n) : (2 : ℚ) ≤ gap n / scale := by
  have hgap : gap ((1023 + 53) * 2 ^ 52) = 2 ^ 1075 := congrArg (2 ^ ·) (by decide)
  have hpow : (gap ((1023 + 53) * 2 ^ 52) : ℚ) ≤ gap n := Nat.cast_le.mpr (gap_mono h)
  rw [hgap, Nat.cast_pow, Nat.cast_ofNat] at hpow
  rwa [le_div_iff₀ scale_pos, scale, ← pow_succ']

/-! ### One -/

/-- The number of the double one. -/
def oneCode : ℕ := 1023 * 2 ^ 52

theorem grid_oneCode : grid oneCode = 1 := grid_pow 0

theorem gap_pred_oneCode : (gap (oneCode - 1) : ℚ) / scale = 1 / 2 ^ 53 := by
  have hgap : gap (oneCode - 1) = 2 ^ 1021 := congrArg (2 ^ ·) (by decide)
  have hscale : scale = 2 ^ 1021 * 2 ^ 53 := by rw [scale, ← pow_add]
  rw [hgap, hscale, Nat.cast_pow, Nat.cast_ofNat, ← div_div,
    div_self (pow_ne_zero _ two_ne_zero)]

/-- Below one the grid points lie `2 ^ -53` apart at most. -/
theorem gap_le_of_lt_oneCode {n : ℕ} (h : n < oneCode) : (gap n : ℚ) / scale ≤ 1 / 2 ^ 53 := by
  rw [← gap_pred_oneCode]
  exact div_le_div_of_nonneg_right (Nat.cast_le.mpr (gap_mono (Nat.le_sub_one_of_lt h)))
    scale_pos.le

/-- What is rounded to a size below one is rounded down by `2 ^ -54` at most. -/
theorem Nearest.le_add {v : ℚ} {n : ℕ} (h : Nearest v n) (hn : n < oneCode) :
    v ≤ grid n + 1 / 2 ^ 54 := by
  have hgap := gap_le_of_lt_oneCode hn
  have hupper := h.upper.1
  rw [halfway] at hupper
  linarith

theorem halfway_pred_oneCode : halfway (oneCode - 1) = 1 - 1 / 2 ^ 54 := by
  have hone := grid_succ (oneCode - 1)
  rw [gap_pred_oneCode, Nat.sub_add_cancel (by decide), grid_oneCode] at hone
  rw [halfway, gap_pred_oneCode]
  linarith

/-- From halfway below one on, a number is rounded to one at least, since one is even. -/
theorem Nearest.oneCode_le {v : ℚ} {n : ℕ} (h : Nearest v n) (hv : 1 - 1 / 2 ^ 54 ≤ v) :
    oneCode ≤ n := by
  have hhalf := halfway_pred_oneCode
  by_contra hlt
  obtain ⟨hupper, heven⟩ := h.upper
  have hmid := halfway_strictMono.monotone (show n ≤ oneCode - 1 by omega)
  have hn : n = oneCode - 1 := halfway_strictMono.injective (by linarith)
  have hodd : ¬ Even (oneCode - 1) := by decide
  exact hodd (hn ▸ heven (by linarith))

theorem Nearest.lt_oneCode {v : ℚ} {n : ℕ} (h : Nearest v n) (hv : v < 1 - 1 / 2 ^ 54) :
    n < oneCode :=
  lt_of_le_of_lt (h.le_of_lt_halfway (by rwa [halfway_pred_oneCode])) (by decide)

/-- What is missing up to one is enough, for all that it is rounded: added again, or more than
it, it gives one at least. -/
theorem oneCode_le_of_missing {t m p n : ℕ} (hm : Nearest (1 - grid t) m) (hp : m ≤ p)
    (hn : Nearest (grid t + grid p) n) : oneCode ≤ n := by
  refine hn.oneCode_le ?_
  have hgrid := grid_strictMono.monotone hp
  rcases Nat.lt_or_ge m oneCode with hlt | hge
  · have hmissing := hm.le_add hlt
    linarith
  · have hone := grid_strictMono.monotone hge
    rw [grid_oneCode] at hone
    linarith [grid_nonneg t, show (0 : ℚ) ≤ 1 / 2 ^ 54 by positivity]

/-- A mantissa of 53 bits is on the grid, filled up or not. -/
theorem exists_grid_mul (e : ℕ) {m : ℕ} (hm : m ≤ 2 ^ 53) :
    ∃ k, grid k = m * 2 ^ ((e : ℤ) - 1074) := by
  -- By induction on the exponent: a mantissa that is not full is doubled.
  induction e generalizing m with
  | zero => exact ⟨_, grid_parts hm (.inr rfl)⟩
  | succ e ih =>
    rcases Nat.lt_or_ge m (2 ^ 52) with hshort | hfull
    · obtain ⟨k, hk⟩ := ih (m := 2 * m) (by omega)
      have hexp : ((e + 1 : ℕ) : ℤ) - 1074 = 1 + ((e : ℤ) - 1074) := by omega
      refine ⟨k, ?_⟩
      rw [hk, hexp, zpow_add₀ two_ne_zero, zpow_one]
      push_cast
      ring
    · exact ⟨_, grid_parts hm (.inl hfull)⟩

/-- Whole numbers of up to 53 bits are grid points, and so is the next one. -/
theorem exists_grid_eq {n : ℕ} (hn : n ≤ 2 ^ 53) : ∃ k ≤ 1076 * 2 ^ 52, grid k = n := by
  obtain ⟨k, hk⟩ := exists_grid_mul 1074 hn
  rw [Nat.cast_ofNat, sub_self, zpow_zero, mul_one] at hk
  refine ⟨k, grid_strictMono.le_iff_le.mp ?_, hk⟩
  rw [hk, show 1076 * 2 ^ 52 = (1023 + 53) * 2 ^ 52 by decide, grid_pow]
  exact_mod_cast hn

/-- One less than a grid point is a grid point, as long as they lie no more than one apart. -/
theorem exists_grid_sub_one {n : ℕ} (hone : oneCode ≤ n) (hn : n < (1023 + 53) * 2 ^ 52) :
    ∃ k ≤ n, grid k = grid n - 1 := by
  obtain ⟨e, m, rfl, hlt, hnormal⟩ := exists_parts n
  have he : e ≤ 1074 := by omega
  have hunit : (2 : ℚ) ^ (1074 - e) * 2 ^ ((e : ℤ) - 1074) = 1 := by
    rw [← zpow_natCast, ← zpow_add₀ two_ne_zero, Nat.cast_sub he, Nat.cast_ofNat,
      sub_add_sub_cancel, sub_self, zpow_zero]
  have hgrid := grid_parts hlt.le hnormal
  have hle : 2 ^ (1074 - e) ≤ m := by
    have hmul := grid_strictMono.monotone hone
    rw [grid_oneCode, hgrid, ← hunit] at hmul
    exact_mod_cast le_of_mul_le_mul_right hmul (zpow_pos two_pos _)
  obtain ⟨k, hk⟩ := exists_grid_mul e ((Nat.sub_le m (2 ^ (1074 - e))).trans hlt.le)
  rw [Nat.cast_sub hle, sub_mul, Nat.cast_pow, Nat.cast_ofNat, hunit, ← hgrid] at hk
  refine ⟨k, grid_strictMono.le_iff_le.mp ?_, hk⟩
  rw [hk]
  exact sub_le_self _ zero_le_one

/-! ### Doubles -/

/-- The number of infinity, the least that is no double's any more. -/
def infinityCode : ℕ := 2047 * 2 ^ 52

/-- The number of the double that a size is rounded to: beyond the largest one, infinity. -/
def Rounded (v : ℚ) (n : ℕ) : Prop := ∃ k, Nearest v k ∧ n = min k infinityCode

namespace Rounded

variable {v w : ℚ} {m n : ℕ}

theorem le_infinityCode (h : Rounded v n) : n ≤ infinityCode := by
  obtain ⟨k, -, rfl⟩ := h
  exact Nat.min_le_right _ _

theorem mono (hv : Rounded v m) (hw : Rounded w n) (h : v ≤ w) : m ≤ n := by
  obtain ⟨k, hk, rfl⟩ := hv
  obtain ⟨k', hk', rfl⟩ := hw
  exact min_le_min_right _ (hk.mono hk' h)

theorem eq (hm : Rounded v m) (hn : Rounded v n) : m = n :=
  Nat.le_antisymm (hm.mono hn (le_refl v)) (hn.mono hm (le_refl v))

theorem nearest (h : Rounded v n) (hn : n < infinityCode) : Nearest v n := by
  obtain ⟨k, hk, rfl⟩ := h
  rcases Nat.le_total k infinityCode with hle | hge
  · rwa [Nat.min_eq_left hle]
  · rw [Nat.min_eq_right hge] at hn
    exact absurd hn (Nat.lt_irrefl _)

end Rounded

theorem rounded_grid {n : ℕ} (h : n ≤ infinityCode) : Rounded (grid n) n :=
  ⟨n, nearest_grid n, (Nat.min_eq_left h).symm⟩

namespace Rounded

variable {v : ℚ} {m n : ℕ}

theorem le_of_le_grid (h : Rounded v m) (hle : v ≤ grid n) (hn : n ≤ infinityCode) : m ≤ n :=
  h.mono (rounded_grid hn) hle

theorem le_of_grid_le (h : Rounded v m) (hle : grid n ≤ v) (hn : n ≤ infinityCode) : n ≤ m :=
  (rounded_grid hn).mono h hle

end Rounded

/-- Nothing, or a normal size, is rounded down by a part of `2 ^ 53` at most. -/
theorem Rounded.le_mul {v : ℚ} {n : ℕ} (h : Rounded v n) (hn : n < infinityCode)
    (hv : 0 < v → grid normalCode ≤ v) : v ≤ grid n * (1 + 1 / 2 ^ 53) := by
  rcases le_or_gt v 0 with hnone | hsome
  · exact hnone.trans (mul_nonneg (grid_nonneg n) (by positivity))
  · exact (h.nearest hn).le_mul (h.le_of_grid_le (hv hsome) (by decide))

/-- Nothing, or a normal number, is rounded up by a part of `2 ^ 53` at most. -/
theorem Rounded.le_mul_of_normal {v : ℚ} {n : ℕ} (h : Rounded v n) (hv : 0 ≤ v)
    (hnormal : 0 < v → grid normalCode ≤ v) : grid n ≤ v * (1 + 1 / 2 ^ 53) := by
  rcases hv.eq_or_lt with rfl | hpos
  · rw [zero_mul, ← grid_zero]
    exact grid_strictMono.monotone (h.le_of_le_grid grid_zero.ge (Nat.zero_le _))
  · obtain ⟨k, hk, rfl⟩ := h
    exact (grid_strictMono.monotone (Nat.min_le_left _ _)).trans
      (hk.le_mul_of_normal (hnormal hpos))

/-- Whole numbers of up to 53 bits are not rounded. -/
theorem Rounded.grid_eq {n k : ℕ} (h : Rounded n k) (hn : n ≤ 2 ^ 53) : grid k = n := by
  obtain ⟨j, hj, hgrid⟩ := exists_grid_eq hn
  rw [← hgrid] at h ⊢
  rw [h.eq (rounded_grid (hj.trans (by decide)))]

theorem exists_rounded (v : ℚ) : ∃ n, Rounded v n := by
  obtain ⟨k, hk⟩ := exists_nearest v
  exact ⟨_, k, hk, rfl⟩

theorem rounded_infinityCode {v : ℚ} (h : grid infinityCode ≤ v) : Rounded v infinityCode := by
  obtain ⟨n, hn⟩ := exists_rounded v
  obtain rfl : n = infinityCode :=
    Nat.le_antisymm hn.le_infinityCode (hn.le_of_grid_le h (le_refl _))
  exact hn

end ClusterAgent.Decimal
