/-
Rounding gives the nearest double.

The arithmetic of doubles works out a mantissa with enough bits, two bits that tell what is
beyond them, and an exponent; it shifts the mantissa to its place and rounds it.  What comes
out is the number of the nearest grid point.

* `Decimal.Tells` — what a mantissa with its two bits says of a size; `Tells.shiftRight` — no
  shift loses it;
* `Decimal.toNat_pack` — the number of a double that is packed;
* `Decimal.rounded_roundWithAccuracy`, `Decimal.rounded_normalize` — rounding gives the nearest
  double.

Design notes: sizes only, since nothing here has a negative sign.  A mantissa that rounds up to
the next power of two needs no care: it is the number of a grid point all the same.
-/
import ClusterAgent.Proofs.Decimal.Grid

namespace ClusterAgent.Decimal

open Float.Model Float.Model.UnpackedFloat

/-! ### Mantissas -/

/-- The mantissa is the whole part of a number, and the bits say where in the rest it lies. -/
structure Tells (em : ExtendedMantissa) (x : ℚ) : Prop where
  le : em.mantissa ≤ x
  lt : x < em.mantissa + 1
  round : em.roundBit = true ↔ em.mantissa + 1 / 2 ≤ x
  sticky : em.stickyBit = true ↔ x ≠ em.mantissa ∧ x ≠ em.mantissa + 1 / 2

/-- A part of a unit is as an accuracy says. -/
def Fits : Accuracy → ℚ → Prop
  | .exact, part => part = 0
  | .inexact .lt, part => 0 < part ∧ part < 1 / 2
  | .inexact .eq, part => part = 1 / 2
  | .inexact .gt, part => 1 / 2 < part ∧ part < 1

theorem tells_of_fits {m : ℕ} {accuracy : Accuracy} {part : ℚ} (h : Fits accuracy part) :
    Tells (.ofMantissaAndAccuracy m accuracy) (m + part) := by
  cases accuracy with
  | exact =>
    have h : part = 0 := h
    refine ⟨?_, ?_, iff_of_false Bool.false_ne_true ?_, iff_of_false Bool.false_ne_true ?_⟩ <;>
      dsimp only [ExtendedMantissa.ofMantissaAndAccuracy]
    · linarith
    · linarith
    · linarith
    · exact fun hne => hne.1 (by linarith)
  | inexact order =>
    cases order with
    | lt =>
      obtain ⟨h0, h1⟩ : 0 < part ∧ part < 1 / 2 := h
      refine ⟨?_, ?_, iff_of_false Bool.false_ne_true ?_, iff_of_true rfl ⟨?_, ?_⟩⟩ <;>
        dsimp only [ExtendedMantissa.ofMantissaAndAccuracy]
      · linarith
      · linarith
      · linarith
      · exact ne_of_gt (by linarith)
      · exact ne_of_lt (by linarith)
    | eq =>
      have h : part = 1 / 2 := h
      refine ⟨?_, ?_, iff_of_true rfl ?_, iff_of_false Bool.false_ne_true ?_⟩ <;>
        dsimp only [ExtendedMantissa.ofMantissaAndAccuracy]
      · linarith
      · linarith
      · linarith
      · exact fun hne => hne.2 (by linarith)
    | gt =>
      obtain ⟨h0, h1⟩ : 1 / 2 < part ∧ part < 1 := h
      refine ⟨?_, ?_, iff_of_true rfl ?_, iff_of_true rfl ⟨?_, ?_⟩⟩ <;>
        dsimp only [ExtendedMantissa.ofMantissaAndAccuracy]
      · linarith
      · linarith
      · linarith
      · exact ne_of_gt (by linarith)
      · exact ne_of_gt (by linarith)

/-- The bit that is shifted out says on which side of the middle the number lies, and whatever
was beyond it says whether it lies in the middle. -/
theorem Tells.shiftRightOne {em : ExtendedMantissa} {x : ℚ} (h : Tells em x) :
    Tells em.shiftRightOne (x / 2) := by
  obtain ⟨m, round, sticky⟩ := em
  obtain ⟨hle, hlt, hround, hsticky⟩ := h
  dsimp only at hle hlt hround hsticky
  have hm : (m : ℚ) = 2 * (m / 2 : ℕ) + (m % 2 : ℕ) := by
    exact_mod_cast (Nat.div_add_mod m 2).symm
  have hrest : (round || sticky) = true ↔ x ≠ m := by
    rw [Bool.or_eq_true, hround, hsticky]
    constructor
    · rintro (hx | hx)
      · exact ne_of_gt (by linarith)
      · exact hx.1
    · intro hx
      rcases lt_trichotomy x (m + 1 / 2) with hlow | hmid | hhigh
      · exact .inr ⟨hx, hlow.ne⟩
      · exact .inl hmid.ge
      · exact .inl hhigh.le
  rcases Nat.mod_two_eq_zero_or_one m with hr | hr <;> rw [hr] at hm <;> push_cast at hm
  · refine ⟨?_, ?_, iff_of_false ?_ ?_, hrest.trans ?_⟩ <;>
      dsimp only [ExtendedMantissa.shiftRightOne]
    · linarith
    · linarith
    · simp [hr]
    · linarith
    · refine ⟨fun hx => ⟨fun he => hx (by linarith), ne_of_lt (by linarith)⟩,
        fun hx he => hx.1 (by linarith)⟩
  · refine ⟨?_, ?_, iff_of_true ?_ ?_, hrest.trans ?_⟩ <;>
      dsimp only [ExtendedMantissa.shiftRightOne]
    · linarith
    · linarith
    · simp [hr]
    · linarith
    · refine ⟨fun hx => ⟨ne_of_gt (by linarith), fun he => hx (by linarith)⟩,
        fun hx he => hx.2 (by linarith)⟩

theorem Tells.shiftRight {em : ExtendedMantissa} {x : ℚ} (h : Tells em x) (n : ℕ) :
    Tells (em >>> n) (x / 2 ^ n) := by
  show Tells (n.repeat ExtendedMantissa.shiftRightOne em) _
  induction n with
  | zero => rwa [pow_zero, div_one]
  | succ n ih =>
    rw [pow_succ, ← div_div]
    exact ih.shiftRightOne

/-- The rounded mantissa is the nearer of two, and the even one from the middle. -/
theorem Tells.roundedMantissa {em : ExtendedMantissa} {x : ℚ} (h : Tells em x) :
    (em.roundedMantissa = em.mantissa ∧
      (x < em.mantissa + 1 / 2 ∨ x = em.mantissa + 1 / 2 ∧ Even em.mantissa)) ∨
    (em.roundedMantissa = em.mantissa + 1 ∧
      (em.mantissa + 1 / 2 < x ∨ x = em.mantissa + 1 / 2 ∧ ¬ Even em.mantissa)) := by
  obtain ⟨m, round, sticky⟩ := em
  obtain ⟨hle, hlt, hround, hsticky⟩ := h
  dsimp only at hle hlt hround hsticky ⊢
  cases round with
  | false =>
    have hlow : x < m + 1 / 2 := not_le.mp fun hx => Bool.false_ne_true (hround.mpr hx)
    cases sticky <;> exact .inl ⟨rfl, .inl hlow⟩
  | true =>
    have hhigh : m + 1 / 2 ≤ x := hround.mp rfl
    cases sticky with
    | true => exact .inr ⟨rfl, .inl (lt_of_le_of_ne hhigh (hsticky.mp rfl).2.symm)⟩
    | false =>
      have hmid : x = m + 1 / 2 := by
        by_contra hne
        exact Bool.false_ne_true (hsticky.mpr ⟨ne_of_gt (by linarith), hne⟩)
      have hrounded : ExtendedMantissa.roundedMantissa ⟨m, true, false⟩ = m + m % 2 := rfl
      rw [hrounded]
      rcases Nat.mod_two_eq_zero_or_one m with hr | hr
      · exact .inl ⟨by omega, .inr ⟨hmid, Nat.even_iff.mpr hr⟩⟩
      · exact .inr ⟨by omega, .inr ⟨hmid, Nat.not_even_iff.mpr hr⟩⟩

/-! ### Packing -/

theorem toNat_packComponents (e : BitVec 11) (m : BitVec 52) :
    (packComponents Format.binary64 .positive e m).toNat = e.toNat * 2 ^ 52 + m.toNat := by
  have hsign : (Sign.toBitVec .positive ++ e).toNat = e.toNat := by
    rw [BitVec.toNat_append, Sign.toBitVec, BitVec.toNat_ofNat, Nat.zero_mod, Nat.zero_shiftLeft,
      Nat.zero_or]
  show (Sign.toBitVec .positive ++ e ++ m).toNat = _
  rw [BitVec.toNat_append, hsign, ← Nat.shiftLeft_add_eq_or_of_lt m.isLt, Nat.shiftLeft_eq]

/-- A double in its canonical form is packed into its number. -/
theorem toNat_pack {m : ℕ} {e : ℤ} (hm : 0 < m) (hlt : m < 2 ^ 53) (he : -1074 ≤ e)
    (hnormal : 2 ^ 52 ≤ m ∨ e = -1074) :
    (UnpackedFloat.pack Format.binary64 (.finite .positive m e hm)).toNat =
      min ((e + 1074).toNat * 2 ^ 52 + m) infinityCode := by
  have hbias : (e + (Format.binary64.exponentBias : ℕ) + (52 : ℕ)).toNat =
      (e + 1074).toNat + 1 := by
    have hb : Format.binary64.exponentBias = 1023 := rfl
    rw [hb]
    omega
  have hlog : m.log2 + 1 = 53 ↔ 2 ^ 52 ≤ m := by
    have hlow : 2 ^ 52 ≤ m ↔ 52 ≤ m.log2 := (Nat.le_log2 hm.ne').symm
    have hhigh : m.log2 < 53 := (Nat.log2_lt hm.ne').mpr hlt
    omega
  rw [UnpackedFloat.pack]
  dsimp only
  rw [hbias]
  split
  · rename_i hlarge
    have hinfinity : (packedInfinity Format.binary64 .positive).toNat = infinityCode := by decide
    have hexp : 2048 ≤ (e + 1074).toNat + 1 + 1 := hlarge
    rw [hinfinity, Nat.min_eq_right]
    rw [infinityCode]
    omega
  · rename_i hsmall
    have hexp : (e + 1074).toNat + 1 + 1 < 2048 := Nat.lt_of_not_le hsmall
    split
    · rename_i hbits
      have hfull := hlog.mp hbits
      rw [toNat_packComponents, BitVec.toNat_ofNat, BitVec.toNat_ofNat, Nat.min_eq_left]
      · show ((e + 1074).toNat + 1) % 2 ^ 11 * 2 ^ 52 + m % 2 ^ 52 = _
        omega
      · rw [infinityCode]
        omega
    · rename_i hbits
      have hshort := Nat.lt_of_not_le (mt hlog.mpr hbits)
      have hleast := hnormal.resolve_left (Nat.not_le.mpr hshort)
      rw [toNat_packComponents, BitVec.toNat_ofNat, BitVec.toNat_ofNat, Nat.min_eq_left]
      · show 0 % 2 ^ 11 * 2 ^ 52 + m % 2 ^ 52 = _
        omega
      · rw [infinityCode]
        omega

/-! ### Rounding -/

theorem targetExponent_eq (m : ℕ) (e : ℤ) :
    Format.binary64.targetExponent (totalExponent m e) = max (m.log2 + e - 52) (-1074) := by
  have hleast : Format.binary64.minExponent = -1074 := by decide
  have hbits : (Format.binary64.mantissaBits : ℤ) = 53 := rfl
  rw [Format.targetExponent, totalExponent, hleast, hbits]
  omega

theorem shiftToTargetExponent_eq (accuracy : Accuracy) {m s : ℕ} {e : ℤ}
    (h : (max (m.log2 + e - 52) (-1074) - e).toNat = s) :
    shiftToTargetExponent Format.binary64 m e accuracy =
      (ExtendedMantissa.ofMantissaAndAccuracy m accuracy >>> s, e + s) := by
  rw [shiftToTargetExponent, targetExponent_eq, shiftToExponent, h]

/-- The last step of rounding: a mantissa that became a power of two moves on to the next
exponent. -/
theorem toNat_pack_shifted {r : ℕ} {e e' : ℤ} {em : ExtendedMantissa} (hr : r ≤ 2 ^ 53)
    (he : -1074 ≤ e) (hnormal : 2 ^ 52 ≤ r ∨ e = -1074)
    (h : shiftToTargetExponent Format.binary64 r e .exact = (em, e')) :
    (UnpackedFloat.pack Format.binary64 (if h : em.mantissa = 0 then .zero .positive else
      .finite .positive em.mantissa e' (Nat.pos_of_ne_zero h))).toNat =
        min ((e + 1074).toNat * 2 ^ 52 + r) infinityCode := by
  rcases hr.lt_or_eq with hlt | hfull
  · have hlog : r.log2 ≤ 52 := by
      rcases Nat.eq_zero_or_pos r with rfl | hpos
      · decide
      · exact Nat.le_of_lt_succ ((Nat.log2_lt hpos.ne').mpr hlt)
    rw [shiftToTargetExponent_eq .exact (s := 0) (by omega)] at h
    obtain ⟨rfl, rfl⟩ := Prod.mk.inj h
    show (UnpackedFloat.pack Format.binary64 (if h : r = 0 then .zero .positive else
      .finite .positive r (e + (0 : ℕ)) (Nat.pos_of_ne_zero h))).toNat = _
    rw [Nat.cast_zero, add_zero]
    split
    · rename_i hzero
      obtain rfl := hnormal.resolve_left (by omega)
      rw [hzero]
      decide
    · exact toNat_pack _ hlt he hnormal
  · have hlog : r.log2 = 53 := by rw [hfull, Nat.log2_two_pow]
    rw [shiftToTargetExponent_eq .exact (s := 1) (by omega)] at h
    obtain ⟨rfl, rfl⟩ := Prod.mk.inj h
    show (UnpackedFloat.pack Format.binary64 (if h : r / 2 = 0 then .zero .positive else
      .finite .positive (r / 2) (e + (1 : ℕ)) (Nat.pos_of_ne_zero h))).toNat = _
    have hcode : (e + (1 : ℕ) + 1074).toNat * 2 ^ 52 + r / 2 = (e + 1074).toNat * 2 ^ 52 + r := by
      omega
    rw [dif_neg (by omega), toNat_pack _ (by omega) (by omega) (.inl (by omega)), hcode]

theorem Fits.bounds {accuracy : Accuracy} {part : ℚ} (h : Fits accuracy part) :
    0 ≤ part ∧ part < 1 := by
  cases accuracy with
  | exact =>
    have h : part = 0 := h
    constructor <;> linarith
  | inexact order =>
    cases order with
    | lt =>
      obtain ⟨h0, h1⟩ : 0 < part ∧ part < 1 / 2 := h
      constructor <;> linarith
    | eq =>
      have h : part = 1 / 2 := h
      constructor <;> linarith
    | gt =>
      obtain ⟨h0, h1⟩ : 1 / 2 < part ∧ part < 1 := h
      constructor <;> linarith

/-- A mantissa that is shifted to its place fills it, or the exponent is the least one. -/
theorem shifted_parts {m s : ℕ} {e : ℤ} {part : ℚ} {em : ExtendedMantissa} (hpart : 0 ≤ part)
    (hpart' : part < 1) (hs : max (m.log2 + e - 52) (-1074) = e + s)
    (h : Tells em ((m + part) / 2 ^ s)) :
    em.mantissa < 2 ^ 53 ∧ (2 ^ 52 ≤ em.mantissa ∨ e + s = -1074) := by
  have hpow : (0 : ℚ) < 2 ^ s := by positivity
  constructor
  · have hm : m < 2 ^ (53 + s) :=
      Nat.lt_log2_self.trans_le (Nat.pow_le_pow_right (by decide) (by omega))
    have hm' : (m + 1 : ℚ) ≤ 2 ^ 53 * 2 ^ s := by
      rw [← pow_add]
      exact_mod_cast hm
    have hx : (m + part) / 2 ^ s < 2 ^ 53 := by
      rw [div_lt_iff₀ hpow]
      linarith
    exact_mod_cast h.le.trans_lt hx
  · by_cases hleast : e + s = -1074
    · exact .inr hleast
    · have hlog : m.log2 = 52 + s := by omega
      have hm : 2 ^ (52 + s) ≤ m := (Nat.le_log2 (by rintro rfl; simp at hlog; omega)).mp hlog.ge
      have hm' : (2 : ℚ) ^ 52 * 2 ^ s ≤ m := by
        rw [← pow_add]
        exact_mod_cast hm
      have hx : (2 : ℚ) ^ 52 ≤ (m + part) / 2 ^ s := by
        rw [le_div_iff₀ hpow]
        linarith
      have hmantissa : (2 : ℚ) ^ 52 < em.mantissa + 1 := hx.trans_lt h.lt
      exact .inl (Nat.le_of_lt_succ (by exact_mod_cast hmantissa))

/-- **Rounding gives the nearest double**, if the exponent is small enough to begin with. -/
theorem rounded_roundWithAccuracy {m : ℕ} {e : ℤ} {accuracy : Accuracy} {part : ℚ}
    (h : Fits accuracy part) (he : e ≤ max (m.log2 + e - 52) (-1074)) :
    Rounded ((m + part) * 2 ^ e) (UnpackedFloat.pack Format.binary64
      (roundWithAccuracy Format.binary64 .positive m e accuracy)).toNat := by
  obtain ⟨s, hs⟩ : ∃ s : ℕ, max (m.log2 + e - 52) (-1074) = e + s :=
    ⟨(max (m.log2 + e - 52) (-1074) - e).toNat, by omega⟩
  have htells := (tells_of_fits (m := m) h).shiftRight s
  have hfirst := shiftToTargetExponent_eq accuracy (m := m) (e := e) (s := s) (by omega)
  generalize (ExtendedMantissa.ofMantissaAndAccuracy m accuracy >>> s) = em at htells hfirst
  obtain ⟨hpart, hpart'⟩ := h.bounds
  obtain ⟨hlt, hnormal⟩ := shifted_parts hpart hpart' hs htells
  have hvalue : (m + part) * 2 ^ e =
      (m + part) / 2 ^ s * 2 ^ (((e + s + 1074).toNat : ℤ) - 1074) := by
    have hexp : ((e + s + 1074).toNat : ℤ) - 1074 = e + s := by omega
    rw [hexp, zpow_add₀ two_ne_zero, zpow_natCast]
    field_simp
  have hparts := nearest_parts (e := (e + s + 1074).toNat) hlt (hnormal.imp_right (by omega))
    htells.le htells.lt
  rw [← hvalue] at hparts
  refine ⟨(e + s + 1074).toNat * 2 ^ 52 + em.roundedMantissa, ?_, ?_⟩
  · rcases htells.roundedMantissa with ⟨hr, hlow⟩ | ⟨hr, hhigh⟩
    · rw [hr]
      exact hparts.1 hlow
    · rw [hr]
      exact hparts.2 hhigh
  · have hr : em.mantissa ≤ em.roundedMantissa ∧ em.roundedMantissa ≤ em.mantissa + 1 := by
      rcases htells.roundedMantissa with ⟨hr, -⟩ | ⟨hr, -⟩ <;> omega
    rw [roundWithAccuracy, hfirst]
    dsimp only
    exact toNat_pack_shifted (by omega) (by omega) (hnormal.imp_left (by omega)) rfl

theorem rounded_exact {m : ℕ} {e : ℤ} (he : e ≤ max (m.log2 + e - 52) (-1074)) :
    Rounded (m * 2 ^ e) (UnpackedFloat.pack Format.binary64
      (roundWithAccuracy Format.binary64 .positive m e .exact)).toNat := by
  have hexact : Fits .exact 0 := rfl
  have hrounded := rounded_roundWithAccuracy hexact he
  rwa [add_zero] at hrounded

theorem decreaseExponent_eq (m : ℕ) (e t : ℤ) :
    decreaseExponent m e t = (m * 2 ^ (e - t).toNat, e - (e - t).toNat) := by
  rw [decreaseExponent, Nat.shiftLeft_eq]

/-- A mantissa that is shifted left stands for the same. -/
theorem mul_pow_decreased (m k : ℕ) (e : ℤ) :
    ((m * 2 ^ k : ℕ) : ℚ) * 2 ^ (e - k) = m * 2 ^ e := by
  rw [Nat.cast_mul, Nat.cast_pow, Nat.cast_ofNat, zpow_sub₀ two_ne_zero, zpow_natCast]
  field_simp

theorem log2_mul_pow {m : ℕ} (hm : 0 < m) (k : ℕ) : (m * 2 ^ k).log2 = m.log2 + k := by
  induction k with
  | zero => rw [pow_zero, Nat.mul_one, Nat.add_zero]
  | succ k ih =>
    have hpos : 0 < m * 2 ^ k := Nat.mul_pos hm (Nat.two_pow_pos k)
    rw [pow_succ, ← Nat.mul_assoc, Nat.mul_comm _ 2, Nat.log2_two_mul hpos.ne', ih, Nat.add_assoc]

theorem rounded_round {m : ℕ} (hm : 0 < m) (e : ℤ) :
    Rounded (m * 2 ^ e)
      (UnpackedFloat.pack Format.binary64 (round Format.binary64 .positive m e)).toNat := by
  rw [UnpackedFloat.round, targetExponent_eq, decreaseExponent_eq]
  dsimp only
  generalize hk : (e - max (m.log2 + e - 52) (-1074)).toNat = k
  have hlog := log2_mul_pow hm k
  have hrounded := rounded_exact (m := m * 2 ^ k) (e := e - k) (by rw [hlog]; omega)
  rwa [mul_pow_decreased] at hrounded

theorem rounded_normalize (m : ℕ) (e : ℤ) :
    Rounded (m * 2 ^ e)
      (UnpackedFloat.pack Format.binary64 (normalize Format.binary64 m e .positive)).toNat := by
  rcases Nat.eq_zero_or_pos m with rfl | hm
  · rw [Nat.cast_zero, zero_mul, ← grid_zero]
    exact rounded_grid (Nat.zero_le _)
  · have hcompare : compare (m : ℤ) 0 = .gt := Int.compare_eq_gt.mpr (by exact_mod_cast hm)
    rw [UnpackedFloat.normalize, hcompare]
    exact rounded_round hm e

end ClusterAgent.Decimal
