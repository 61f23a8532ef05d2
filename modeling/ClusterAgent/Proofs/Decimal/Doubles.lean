/-
Doubles without sign, by their numbers.

A double that is neither below zero nor not a number has its bits for a number, and what the
arithmetic does with it is rounding on the grid.

* `Decimal.code`, `Decimal.size` — the number of a double, and the size it stands for;
* `Decimal.lt_iff`, `Decimal.le_iff` — doubles are ordered as their numbers are;
* `Decimal.ofFloat_parts`, `Decimal.size_eq_ofFloat` — the exact fraction of a double;
* `Decimal.rounded_add`, `Decimal.rounded_sub`, `Decimal.rounded_mul`, `Decimal.rounded_div`,
  `Decimal.rounded_ofNat`, `Decimal.rounded_unpackedScientific` — each operation is the exact
  one, rounded.

Design notes: infinity has a number and a size like the others, the first beyond the largest
double, and sums need no case of their own for it.
-/
import ClusterAgent.Proofs.Config.Resolution
import ClusterAgent.Proofs.Decimal.Rounding

namespace ClusterAgent.Decimal

open Float.Model Float.Model.UnpackedFloat

/-! ### Unpacking -/

section

variable {b : BitVec 64}

theorem toNat_unpackExponent (hb : b.toNat ≤ infinityCode) :
    (@unpackExponent Format.binary64 b).toNat = b.toNat / 2 ^ 52 := by
  have hfield : (@unpackExponent Format.binary64 b).toNat = b.toNat / 2 ^ 52 % 2 ^ 11 := by
    simp [unpackExponent, Nat.shiftRight_eq_div_pow]
  rw [infinityCode] at hb
  omega

theorem toNat_unpackMantissa : (@unpackMantissa Format.binary64 b).toNat = b.toNat % 2 ^ 52 := by
  simp [unpackMantissa]

theorem ofBitVec_unpackSign (hb : b.toNat ≤ infinityCode) :
    Sign.ofBitVec (@unpackSign Format.binary64 b) = .positive := by
  have hsign : (@unpackSign Format.binary64 b).toNat = b.toNat / 2 ^ 63 % 2 := by
    simp [unpackSign, Nat.shiftRight_eq_div_pow]
  rw [infinityCode] at hb
  rw [Sign.ofBitVec, if_pos (BitVec.eq_of_toNat_eq (by rw [hsign, BitVec.toNat_ofNat]; omega))]

theorem unpack_zero (hb : b.toNat = 0) :
    UnpackedFloat.unpack Format.binary64 b = .zero .positive := by
  obtain rfl : b = 0#64 := BitVec.eq_of_toNat_eq hb
  rfl

theorem unpack_infinityCode (hb : b.toNat = infinityCode) :
    UnpackedFloat.unpack Format.binary64 b = .infinity .positive := by
  obtain rfl : b = BitVec.ofNat 64 infinityCode := BitVec.eq_of_toNat_eq (by rw [hb]; rfl)
  rfl

theorem finite_congr {m m' : ℕ} {e e' : ℤ} {hm : 0 < m} {hm' : 0 < m'} (h : m = m') (he : e = e') :
    UnpackedFloat.finite .positive m e hm = .finite .positive m' e' hm' := by
  subst h he
  rfl

/-- A double above zero has its number for exponent and mantissa. -/
theorem unpack_of_lt (hpos : 0 < b.toNat) (hlt : b.toNat < infinityCode) :
    ∃ (e m : ℕ) (hm : 0 < m), b.toNat = e * 2 ^ 52 + m ∧ m < 2 ^ 53 ∧ (2 ^ 52 ≤ m ∨ e = 0) ∧
      UnpackedFloat.unpack Format.binary64 b = .finite .positive m (e - 1074) hm := by
  have hexponent := toNat_unpackExponent hlt.le
  have hmantissa := toNat_unpackMantissa (b := b)
  have hsign := ofBitVec_unpackSign hlt.le
  have hbias : Format.binary64.exponentBias = 1023 := rfl
  have hones : @unpackExponent Format.binary64 b ≠ -1#11 := by
    intro heq
    have hfield : b.toNat / 2 ^ 52 = 2 ^ 11 - 1 := by rw [← hexponent, heq]; rfl
    rw [infinityCode] at hlt
    omega
  rw [UnpackedFloat.unpack, hsign]
  dsimp only
  rw [if_neg hones]
  split
  · rename_i hzero
    have hfield : b.toNat / 2 ^ 52 = 0 := by rw [← hexponent, hzero]; rfl
    have hrest : @unpackMantissa Format.binary64 b ≠ 0#52 := by
      intro heq
      have hnone : b.toNat % 2 ^ 52 = 0 := by rw [← hmantissa, heq]; rfl
      omega
    rw [dif_neg hrest]
    refine ⟨0, b.toNat, hpos, by omega, by omega, .inr rfl, finite_congr (by omega) ?_⟩
    rw [hexponent, hbias]
    omega
  · rename_i hnonzero
    have hfield : b.toNat / 2 ^ 52 ≠ 0 := by
      rw [← hexponent]
      exact fun h => hnonzero (BitVec.eq_of_toNat_eq h)
    have hfull : (1#1 ++ @unpackMantissa Format.binary64 b).toNat =
        2 ^ 52 + (@unpackMantissa Format.binary64 b).toNat := by
      rw [BitVec.toNat_append, ← Nat.shiftLeft_add_eq_or_of_lt (BitVec.isLt _), Nat.shiftLeft_eq]
      rfl
    refine ⟨b.toNat / 2 ^ 52 - 1, 2 ^ 52 + b.toNat % 2 ^ 52, by omega, by omega, by omega,
      .inl (by omega), finite_congr (by rw [hfull, hmantissa]) ?_⟩
    rw [hexponent, hbias]
    omega

end

/-! ### Numbers -/

/-- The number of a double without sign. -/
def code (x : Float) : ℕ := x.toBits.toNat

/-- What a double without sign stands for; for infinity, what comes after the largest double. -/
def size (x : Float) : ℚ := grid (code x)

variable {x y : Float}

theorem eq_of_code_eq (h : code x = code y) : x = y := by
  have hbits : x.toModel.toBits = y.toModel.toBits := UInt64.toNat_inj.mp h
  obtain ⟨⟨a, ha⟩⟩ := x
  obtain ⟨⟨b, hb⟩⟩ := y
  obtain rfl : a = b := hbits
  rfl

theorem size_nonneg (x : Float) : 0 ≤ size x := grid_nonneg _

theorem size_le_size_iff : size x ≤ size y ↔ code x ≤ code y := grid_strictMono.le_iff_le

/-- A double without sign as the arithmetic sees it. -/
inductive Shape (x : Float) : Prop
  | zero (hcode : code x = 0) (hunpack : x.toModel.unpack = .zero .positive)
  | finite (e m : ℕ) (hm : 0 < m) (hlt : m < 2 ^ 53) (hnormal : 2 ^ 52 ≤ m ∨ e = 0)
      (hfin : code x < infinityCode) (hcode : code x = e * 2 ^ 52 + m)
      (hunpack : x.toModel.unpack = .finite .positive m (e - 1074) hm)
  | infinity (hcode : code x = infinityCode) (hunpack : x.toModel.unpack = .infinity .positive)

theorem shape (h : code x ≤ infinityCode) : Shape x := by
  rcases Nat.eq_zero_or_pos (code x) with hzero | hpos
  · exact .zero hzero (unpack_zero hzero)
  · rcases h.lt_or_eq with hlt | heq
    · obtain ⟨e, m, hm, hcode, hmlt, hnormal, hunpack⟩ := unpack_of_lt hpos hlt
      exact .finite e m hm hmlt hnormal hlt hcode hunpack
    · exact .infinity heq (unpack_infinityCode heq)

theorem size_of_parts {e m : ℕ} (hlt : m < 2 ^ 53) (hnormal : 2 ^ 52 ≤ m ∨ e = 0)
    (hcode : code x = e * 2 ^ 52 + m) : size x = m * 2 ^ ((e : ℤ) - 1074) := by
  rw [size, hcode, grid_parts hlt.le hnormal]

/-- Packing undoes unpacking. -/
theorem toNat_pack_unpack (h : code x ≤ infinityCode) :
    (UnpackedFloat.pack Format.binary64 x.toModel.unpack).toNat = code x := by
  rcases shape h with ⟨hcode, hunpack⟩ | ⟨e, m, hm, hlt, hnormal, hfin, hcode, hunpack⟩ |
    ⟨hcode, hunpack⟩
  · rw [hunpack, hcode]
    rfl
  · rw [hunpack, toNat_pack hm hlt (by omega) (hnormal.imp_right (by omega))]
    have hexp : ((e : ℤ) - 1074 + 1074).toNat = e := by omega
    rw [hexp, ← hcode, Nat.min_eq_left h]
  · rw [hunpack, hcode]
    rfl

/-- The doubles above zero and below infinity. -/
theorem isPositive_iff (x : Float) : IsPositive x ↔ 0 < code x ∧ code x < infinityCode := by
  have hbits : code x < 2 ^ 64 := x.toBits.toNat_lt
  rw [IsPositive, isFinite_iff, isNegative_eq_false_iff, mantissa_pos_iff, signBit, exponentField,
    fractionField, infinityCode]
  change code x / 2 ^ 52 % 2 ^ 11 ≠ 2 ^ 11 - 1 ∧ code x / 2 ^ 63 % 2 ≠ 1 ∧
    (code x / 2 ^ 52 % 2 ^ 11 ≠ 0 ∨ code x % 2 ^ 52 ≠ 0) ↔ _
  omega

theorem isFinite_iff_lt (h : code x ≤ infinityCode) :
    isFinite x = true ↔ code x < infinityCode := by
  rw [isFinite_iff, exponentField]
  change code x / 2 ^ 52 % 2 ^ 11 ≠ 2 ^ 11 - 1 ↔ _
  rw [infinityCode] at h ⊢
  omega

/-- The mantissa and the exponent of a finite double. -/
theorem ofFloat_parts (h : code x < infinityCode) :
    ∃ e m, code x = e * 2 ^ 52 + m ∧ m < 2 ^ 53 ∧ (2 ^ 52 ≤ m ∨ e = 0) ∧
      Binary.ofFloat x = ⟨m, e - 1074, decide (m = 2 ^ 52 ∧ 0 < e)⟩ := by
  have hfield : exponentField x = code x / 2 ^ 52 := by
    show code x / 2 ^ 52 % 2 ^ 11 = _
    rw [infinityCode] at h
    omega
  have hfraction : fractionField x = code x % 2 ^ 52 := rfl
  rw [Binary.ofFloat]
  simp only [exponentField_eq, fractionField_eq, hfield, hfraction]
  split
  · rename_i hzero
    exact ⟨0, code x % 2 ^ 52, by omega, by omega, .inr rfl, by simp⟩
  · rename_i hnonzero
    refine ⟨code x / 2 ^ 52 - 1, 2 ^ 52 + code x % 2 ^ 52, by omega, by omega, .inl (by omega), ?_⟩
    rw [Binary.mk.injEq, Bool.eq_iff_iff, Bool.and_eq_true, beq_iff_eq, decide_eq_true_eq,
      decide_eq_true_eq]
    exact ⟨rfl, by omega, by omega⟩

/-- The exact fraction of a finite double is its size. -/
theorem size_eq_ofFloat (h : code x < infinityCode) :
    size x = (Binary.ofFloat x).mantissa * 2 ^ (Binary.ofFloat x).exponent := by
  obtain ⟨e, m, hcode, hlt, hnormal, hparts⟩ := ofFloat_parts h
  rw [hparts, size_of_parts hlt hnormal hcode]

/-- A power as the quotient of two with natural exponents. -/
theorem zpow_parts {b : ℚ} (hb : b ≠ 0) (q : ℤ) : b ^ q = b ^ q.toNat / b ^ (-q).toNat := by
  rw [← zpow_natCast, ← zpow_natCast, ← zpow_sub₀ hb]
  congr 1
  omega

theorem scaled_div (n : ℕ) (q : ℤ) : ((scaled n q).1 : ℚ) / (scaled n q).2 = n * 2 ^ q := by
  show ((n * 2 ^ q.toNat : ℕ) : ℚ) / ((2 ^ (-q).toNat : ℕ) : ℚ) = _
  rw [zpow_parts two_ne_zero q]
  push_cast
  rw [mul_div_assoc]

/-! ### Order -/

/-- Exponents first, and then mantissas, are compared as numbers are. -/
theorem compare_parts {e m e' m' : ℕ} (hlt : m < 2 ^ 53) (hnormal : 2 ^ 52 ≤ m ∨ e = 0)
    (hlt' : m' < 2 ^ 53) (hnormal' : 2 ^ 52 ≤ m' ∨ e' = 0) :
    (compare ((e : ℤ) - 1074) (e' - 1074)).then (compare m m') =
      compare (e * 2 ^ 52 + m) (e' * 2 ^ 52 + m') := by
  rcases Nat.lt_trichotomy e e' with h | rfl | h
  · have hcode : e * 2 ^ 52 + m < e' * 2 ^ 52 + m' := by omega
    rw [Int.compare_eq_lt.mpr (by omega), Nat.compare_eq_lt.mpr hcode]
    rfl
  · rw [Int.compare_eq_eq.mpr rfl]
    rcases Nat.lt_trichotomy m m' with hm | rfl | hm
    · rw [Nat.compare_eq_lt.mpr hm, Nat.compare_eq_lt.mpr (by omega)]
      rfl
    · rw [Nat.compare_eq_eq.mpr rfl, Nat.compare_eq_eq.mpr rfl]
      rfl
    · rw [Nat.compare_eq_gt.mpr hm, Nat.compare_eq_gt.mpr (by omega)]
      rfl
  · have hcode : e' * 2 ^ 52 + m' < e * 2 ^ 52 + m := by omega
    rw [Int.compare_eq_gt.mpr (by omega), Nat.compare_eq_gt.mpr hcode]
    rfl

theorem compare_unpack (hx : code x ≤ infinityCode) (hy : code y ≤ infinityCode) :
    x.toModel.unpack.compare y.toModel.unpack = some (compare (code x) (code y)) := by
  have hinfinity : 0 < infinityCode := by decide
  rcases shape hx with ⟨hcode, hunpack⟩ | ⟨e, m, hm, hlt, hnormal, hfin, hcode, hunpack⟩ |
      ⟨hcode, hunpack⟩ <;>
    rcases shape hy with ⟨hcode', hunpack'⟩ |
      ⟨e', m', hm', hlt', hnormal', hfin', hcode', hunpack'⟩ | ⟨hcode', hunpack'⟩ <;>
    rw [hunpack, hunpack']
  · rw [hcode, hcode']
    rfl
  · rw [Nat.compare_eq_lt.mpr (by omega)]
    rfl
  · rw [Nat.compare_eq_lt.mpr (by omega)]
    rfl
  · rw [Nat.compare_eq_gt.mpr (by omega)]
    rfl
  · rw [hcode, hcode', ← compare_parts hlt hnormal hlt' hnormal']
    rfl
  · rw [Nat.compare_eq_lt.mpr (by omega)]
    rfl
  · rw [Nat.compare_eq_gt.mpr (by omega)]
    rfl
  · rw [Nat.compare_eq_gt.mpr (by omega)]
    rfl
  · rw [hcode, hcode']
    rfl

theorem lt_iff (hx : code x ≤ infinityCode) (hy : code y ≤ infinityCode) :
    x < y ↔ code x < code y := by
  have hlt : x < y ↔ (x.toModel.unpack.lt y.toModel.unpack) = true := decide_eq_true_iff
  rw [hlt, UnpackedFloat.lt, compare_unpack hx hy, beq_iff_eq, Option.some_inj,
    Nat.compare_eq_lt]

theorem le_iff (hx : code x ≤ infinityCode) (hy : code y ≤ infinityCode) :
    x ≤ y ↔ code x ≤ code y := by
  have hle : x ≤ y ↔ (x.toModel.unpack.le y.toModel.unpack) = true := decide_eq_true_iff
  rw [hle, UnpackedFloat.le, compare_unpack hx hy, Option.any_some, Nat.isLE_compare]

theorem isNaN_eq_false (hx : code x ≤ infinityCode) : x.isNaN = false := by
  show x.toModel.unpack.isNaN = false
  rcases shape hx with ⟨-, hunpack⟩ | ⟨_, _, _, _, _, _, _, hunpack⟩ | ⟨-, hunpack⟩ <;>
    rw [hunpack] <;> rfl

/-! ### Arithmetic -/

/-- A mantissa brought to a smaller exponent stands for the same. -/
theorem decreased_fst (m : ℕ) {e t : ℤ} (h : t ≤ e) :
    ((decreaseExponent m e t).1 : ℚ) * 2 ^ t = m * 2 ^ e := by
  have ht : e - (e - t).toNat = t := by omega
  have hsame := mul_pow_decreased m (e - t).toNat e
  rw [ht] at hsame
  rw [decreaseExponent_eq]
  exact hsame

theorem rounded_add (hx : code x ≤ infinityCode) (hy : code y ≤ infinityCode) :
    Rounded (size x + size y) (code (x + y)) := by
  have hcode : code (x + y) = (UnpackedFloat.pack Format.binary64
    (UnpackedFloat.add Format.binary64 x.toModel.unpack y.toModel.unpack)).toNat := rfl
  rcases shape hx with ⟨hzero, hunpack⟩ | ⟨e, m, hm, hlt, hnormal, -, hparts, hunpack⟩ |
    ⟨hinfinity, hunpack⟩
  · have hadd : UnpackedFloat.add Format.binary64 x.toModel.unpack y.toModel.unpack =
        y.toModel.unpack := by
      rw [hunpack]
      rcases shape hy with ⟨-, hy⟩ | ⟨_, _, _, _, _, _, _, hy⟩ | ⟨-, hy⟩ <;> rw [hy] <;> rfl
    rw [hcode, hadd, toNat_pack_unpack hy, size, hzero, grid_zero, zero_add]
    exact rounded_grid hy
  · rcases shape hy with ⟨hzero', hunpack'⟩ |
      ⟨e', m', hm', hlt', hnormal', -, hparts', hunpack'⟩ | ⟨hinfinity', hunpack'⟩
    · have hadd : UnpackedFloat.add Format.binary64 x.toModel.unpack y.toModel.unpack =
          x.toModel.unpack := by
        rw [hunpack, hunpack']
        rfl
      rw [hcode, hadd, toNat_pack_unpack hx, size, size, hzero', grid_zero, add_zero]
      exact rounded_grid hx
    · have hsum := rounded_normalize
        ((decreaseExponent m ((e : ℤ) - 1074) (min ((e : ℤ) - 1074) (e' - 1074))).1 +
          (decreaseExponent m' ((e' : ℤ) - 1074) (min ((e : ℤ) - 1074) (e' - 1074))).1)
        (min ((e : ℤ) - 1074) (e' - 1074))
      rw [Nat.cast_add, add_mul, decreased_fst m (min_le_left _ _),
        decreased_fst m' (min_le_right _ _), ← size_of_parts hlt hnormal hparts,
        ← size_of_parts hlt' hnormal' hparts'] at hsum
      rw [hcode, hunpack, hunpack']
      exact hsum
    · rw [hcode, hunpack, hunpack']
      refine rounded_infinityCode ?_
      rw [← hinfinity']
      exact le_add_of_nonneg_left (size_nonneg x)
  · have hadd : UnpackedFloat.add Format.binary64 x.toModel.unpack y.toModel.unpack =
        .infinity .positive := by
      rw [hunpack]
      rcases shape hy with ⟨-, hy⟩ | ⟨_, _, _, _, _, _, _, hy⟩ | ⟨-, hy⟩ <;> rw [hy] <;> rfl
    rw [hcode, hadd]
    refine rounded_infinityCode ?_
    rw [← hinfinity]
    exact le_add_of_nonneg_right (size_nonneg y)

/-- The difference of a double and a smaller one. -/
theorem rounded_sub (hx : code x < infinityCode) (hle : code y ≤ code x) :
    Rounded (size x - size y) (code (x - y)) := by
  have hcode : code (x - y) = (UnpackedFloat.pack Format.binary64
    (UnpackedFloat.sub Format.binary64 x.toModel.unpack y.toModel.unpack)).toNat := rfl
  rcases shape hx.le with ⟨hzero, hunpack⟩ | ⟨e, m, hm, hlt, hnormal, -, hparts, hunpack⟩ |
    ⟨hinfinity, -⟩
  · rcases shape (hle.trans hx.le) with ⟨hzero', hunpack'⟩ | ⟨_, _, _, _, _, _, hparts', -⟩ |
      ⟨hinfinity', -⟩
    · rw [hcode, hunpack, hunpack', size, size, hzero, hzero', grid_zero, sub_zero, ← grid_zero]
      exact rounded_grid (Nat.zero_le _)
    · omega
    · omega
  · rcases shape (hle.trans hx.le) with ⟨hzero', hunpack'⟩ |
      ⟨e', m', hm', hlt', hnormal', -, hparts', hunpack'⟩ | ⟨hinfinity', -⟩
    · have hsub : UnpackedFloat.sub Format.binary64 x.toModel.unpack y.toModel.unpack =
          x.toModel.unpack := by
        rw [hunpack, hunpack']
        rfl
      rw [hcode, hsub, toNat_pack_unpack hx.le, size, size, hzero', grid_zero, sub_zero]
      exact rounded_grid hx.le
    · have hmin := decreased_fst m (min_le_left ((e : ℤ) - 1074) (e' - 1074))
      have hmin' := decreased_fst m' (min_le_right ((e : ℤ) - 1074) (e' - 1074))
      rw [← size_of_parts hlt hnormal hparts] at hmin
      rw [← size_of_parts hlt' hnormal' hparts'] at hmin'
      have hsub : UnpackedFloat.sub Format.binary64 x.toModel.unpack y.toModel.unpack =
          UnpackedFloat.normalize Format.binary64
            (((decreaseExponent m ((e : ℤ) - 1074) (min ((e : ℤ) - 1074) (e' - 1074))).1 : ℤ) -
              (decreaseExponent m' ((e' : ℤ) - 1074) (min ((e : ℤ) - 1074) (e' - 1074))).1)
            (min ((e : ℤ) - 1074) (e' - 1074)) .positive := by
        rw [hunpack, hunpack']
        rfl
      rw [hcode, hsub]
      generalize (decreaseExponent m ((e : ℤ) - 1074) (min ((e : ℤ) - 1074) (e' - 1074))).1 = a
        at hmin ⊢
      generalize (decreaseExponent m' ((e' : ℤ) - 1074) (min ((e : ℤ) - 1074) (e' - 1074))).1 = b
        at hmin' ⊢
      -- At one exponent the mantissas are in the order of the sizes.
      have hba : b ≤ a := by
        have hsizes := size_le_size_iff.mpr hle
        rw [← hmin, ← hmin'] at hsizes
        exact_mod_cast le_of_mul_le_mul_right hsizes (zpow_pos two_pos _)
      have hrounded := rounded_normalize (a - b) (min ((e : ℤ) - 1074) (e' - 1074))
      rw [Nat.cast_sub hba, sub_mul, hmin, hmin', Nat.cast_sub hba] at hrounded
      exact hrounded
    · omega
  · omega

theorem rounded_mul (hx : code x < infinityCode) (hy : code y < infinityCode) :
    Rounded (size x * size y) (code (x * y)) := by
  have hcode : code (x * y) = (UnpackedFloat.pack Format.binary64
    (UnpackedFloat.mul Format.binary64 x.toModel.unpack y.toModel.unpack)).toNat := rfl
  rcases shape hx.le with ⟨hzero, hunpack⟩ | ⟨e, m, hm, hlt, hnormal, -, hparts, hunpack⟩ |
    ⟨hinfinity, -⟩
  · have hmul : UnpackedFloat.mul Format.binary64 x.toModel.unpack y.toModel.unpack =
        .zero .positive := by
      rw [hunpack]
      rcases shape hy.le with ⟨-, hy⟩ | ⟨_, _, _, _, _, _, _, hy⟩ | ⟨hinfinity, -⟩
      · rw [hy]
        rfl
      · rw [hy]
        rfl
      · omega
    rw [hcode, hmul, size, hzero, grid_zero, zero_mul, ← grid_zero]
    exact rounded_grid (Nat.zero_le _)
  · rcases shape hy.le with ⟨hzero', hunpack'⟩ |
      ⟨e', m', hm', hlt', hnormal', -, hparts', hunpack'⟩ | ⟨hinfinity', -⟩
    · rw [hcode, hunpack, hunpack', size, size, hzero', grid_zero, mul_zero, ← grid_zero]
      exact rounded_grid (Nat.zero_le _)
    · have hplace : (e : ℤ) - 1074 + (e' - 1074) ≤
          max ((m * m').log2 + ((e : ℤ) - 1074 + (e' - 1074)) - 52) (-1074) := by
        by_cases hlarge : 2 ^ 52 ≤ m * m'
        · have hlog : 52 ≤ (m * m').log2 :=
            (Nat.le_log2 (Nat.mul_pos hm hm').ne').mpr hlarge
          omega
        · -- Both mantissas are short, so both exponents are the least one.
          have hshort := Nat.le_mul_of_pos_right m hm'
          have hshort' := Nat.le_mul_of_pos_left m' hm
          omega
      have hrounded := rounded_exact (m := m * m') hplace
      rw [Nat.cast_mul, zpow_add₀ two_ne_zero, mul_mul_mul_comm,
        ← size_of_parts hlt hnormal hparts, ← size_of_parts hlt' hnormal' hparts'] at hrounded
      rw [hcode, hunpack, hunpack']
      exact hrounded
    · omega
  · omega

theorem fits_accuracyOfFraction {num den : ℕ} (h : num < den) :
    Fits (accuracyOfFraction num den) (num / den) := by
  have hden : (0 : ℚ) < den := by exact_mod_cast Nat.zero_lt_of_lt h
  rw [accuracyOfFraction]
  split
  · rename_i hzero
    rw [hzero, Nat.cast_zero, zero_div]
    rfl
  · rename_i hnonzero
    have hnum : (0 : ℚ) < num := by exact_mod_cast Nat.pos_of_ne_zero hnonzero
    rcases Nat.lt_trichotomy (2 * num) den with hlow | hmid | hhigh
    · rw [Nat.compare_eq_lt.mpr hlow]
      have hlow' : (2 * num : ℚ) < den := by exact_mod_cast hlow
      exact ⟨div_pos hnum hden, by rw [div_lt_iff₀ hden]; linarith⟩
    · rw [Nat.compare_eq_eq.mpr hmid]
      have hmid' : (2 * num : ℚ) = den := by exact_mod_cast hmid
      show (num / den : ℚ) = 1 / 2
      rw [div_eq_iff hden.ne']
      linarith
    · rw [Nat.compare_eq_gt.mpr hhigh]
      have hhigh' : (den : ℚ) < 2 * num := by exact_mod_cast hhigh
      have hlt : (num : ℚ) < den := by exact_mod_cast h
      exact ⟨by rw [lt_div_iff₀ hden]; linarith, by rw [div_lt_one hden]; exact hlt⟩

/-- A quotient whose numerator was shifted far enough has enough bits. -/
theorem quotient_place {m m' k : ℕ} {e e' t : ℤ} (hm : 0 < m) (hm' : 0 < m')
    (hk : (k : ℤ) = e - e' - t) (ht : t ≤ max (m.log2 + e - (m'.log2 + e') - 53) (-1074)) :
    t ≤ max ((m * 2 ^ k / m').log2 + t - 52) (-1074) := by
  by_cases hleast : t ≤ -1074
  · omega
  · have hbits : m'.log2 + 53 ≤ m.log2 + k := by omega
    have hlarge : m' * 2 ^ 52 ≤ m * 2 ^ k := by
      calc m' * 2 ^ 52 ≤ 2 ^ (m'.log2 + 1) * 2 ^ 52 :=
            Nat.mul_le_mul_right _ Nat.lt_log2_self.le
        _ = 2 ^ (m'.log2 + 53) := by rw [← pow_add]
        _ ≤ 2 ^ (m.log2 + k) := Nat.pow_le_pow_right (by decide) hbits
        _ = 2 ^ m.log2 * 2 ^ k := pow_add ..
        _ ≤ m * 2 ^ k := Nat.mul_le_mul_right _ (Nat.log2_self_le hm.ne')
    have hquotient : 2 ^ 52 ≤ m * 2 ^ k / m' :=
      (Nat.le_div_iff_mul_le hm').mpr (by rwa [Nat.mul_comm])
    have hlog : 52 ≤ (m * 2 ^ k / m').log2 :=
      (Nat.le_log2 (by omega)).mpr hquotient
    omega

/-- Quotient and remainder together are the exact quotient. -/
theorem quotient_add_rest {m m' k : ℕ} {e e' t : ℤ} (hm' : 0 < m') (hk : (k : ℤ) = e - e' - t) :
    (((m * 2 ^ k / m' : ℕ) : ℚ) + ((m * 2 ^ k % m' : ℕ) : ℚ) / m') * 2 ^ t =
      m * 2 ^ e / (m' * 2 ^ e') := by
  have hden : (m' : ℚ) ≠ 0 := by exact_mod_cast hm'.ne'
  have hdiv : ((m * 2 ^ k / m' : ℕ) : ℚ) * m' + ((m * 2 ^ k % m' : ℕ) : ℚ) = m * 2 ^ k := by
    exact_mod_cast Nat.div_add_mod' (m * 2 ^ k) m'
  have hexp : (2 : ℚ) ^ k * 2 ^ t * 2 ^ e' = 2 ^ e := by
    rw [← zpow_natCast, ← zpow_add₀ two_ne_zero, ← zpow_add₀ two_ne_zero]
    congr 1
    omega
  rw [eq_div_iff (mul_ne_zero hden (zpow_ne_zero _ two_ne_zero)), ← hexp]
  field_simp
  rw [hdiv]

/-- The quotient of mantissas, with as many bits as a double has. -/
theorem rounded_divCore {m m' : ℕ} (hm : 0 < m) (hm' : 0 < m') (e e' : ℤ) :
    Rounded (m * 2 ^ e / (m' * 2 ^ e')) (UnpackedFloat.pack Format.binary64
      (roundWithAccuracy Format.binary64 .positive (divCore Format.binary64 m e m' e').1
        (divCore Format.binary64 m e m' e').2.1
        (divCore Format.binary64 m e m' e').2.2)).toNat := by
  have htarget : Format.binary64.targetExponent (totalExponent m e - totalExponent m' e') =
      max (m.log2 + e - (m'.log2 + e') - 53) (-1074) := by
    have hleast : Format.binary64.minExponent = -1074 := by decide
    have hbits : (Format.binary64.mantissaBits : ℤ) = 53 := rfl
    rw [Format.targetExponent, totalExponent, totalExponent, hleast, hbits]
    omega
  rw [divCore, htarget]
  dsimp only
  generalize ht : min (e - e') (max (m.log2 + e - (m'.log2 + e') - 53) (-1074)) = t
  generalize hk : (e - e' - t).toNat = k
  have hkt : (k : ℤ) = e - e' - t := by omega
  rw [Nat.shiftLeft_eq]
  have hplace := quotient_place hm hm' hkt (by omega)
  have hrounded := rounded_roundWithAccuracy
    (fits_accuracyOfFraction (Nat.mod_lt (m * 2 ^ k) hm')) hplace
  rwa [quotient_add_rest hm' hkt] at hrounded

theorem rounded_div (hx : code x < infinityCode) (hpos : 0 < code y) (hy : code y < infinityCode) :
    Rounded (size x / size y) (code (x / y)) := by
  have hcode : code (x / y) = (UnpackedFloat.pack Format.binary64
    (UnpackedFloat.div Format.binary64 x.toModel.unpack y.toModel.unpack)).toNat := rfl
  rcases shape hy.le with ⟨hzero', -⟩ |
    ⟨e', m', hm', hlt', hnormal', -, hparts', hunpack'⟩ | ⟨hinfinity', -⟩
  · omega
  · rcases shape hx.le with ⟨hzero, hunpack⟩ | ⟨e, m, hm, hlt, hnormal, -, hparts, hunpack⟩ |
      ⟨hinfinity, -⟩
    · rw [hcode, hunpack, hunpack', size, hzero, grid_zero, zero_div, ← grid_zero]
      exact rounded_grid (Nat.zero_le _)
    · rw [hcode, hunpack, hunpack', size_of_parts hlt hnormal hparts,
        size_of_parts hlt' hnormal' hparts']
      exact rounded_divCore hm hm' _ _
    · omega
  · omega

/-! ### Whole numbers -/

theorem code_one : code 1 = oneCode := by decide +kernel
theorem code_zero : code 0 = 0 := by decide +kernel

/-- A number with no exponent is rounded as it is. -/
theorem rounded_normalize_zero (n : ℕ) :
    Rounded n (UnpackedFloat.pack Format.binary64
      (UnpackedFloat.normalize Format.binary64 n 0 .positive)).toNat := by
  have hrounded := rounded_normalize n 0
  rwa [zpow_zero, mul_one] at hrounded

theorem rounded_uint32 (n : UInt32) : Rounded n.toNat (code n.toFloat) :=
  rounded_normalize_zero n.toNat

theorem rounded_uint64 (n : UInt64) : Rounded n.toNat (code n.toFloat) :=
  rounded_normalize_zero n.toNat

/-- A decimal that does not take the short way takes the long one. -/
theorem rounded_unpackedScientific {n : ℕ} (hn : 0 < n) {e : ℤ} (hlow : -(2048 + (n.log2 : ℤ)) ≤ e)
    (hhigh : e ≤ 2048) :
    Rounded (n * 10 ^ e) (UnpackedFloat.pack Format.binary64
      (UnpackedFloat.ofScientific Format.binary64 n e)).toNat := by
  have hbits : (2 : ℤ) ^ Format.binary64.exponentBits = 2048 := by decide
  rw [UnpackedFloat.ofScientific, dif_neg hn.ne', hbits, if_neg (by omega), if_neg (by omega)]
  by_cases he : 0 ≤ e
  · rw [if_pos he]
    obtain ⟨k, rfl⟩ := Int.eq_ofNat_of_zero_le he
    have hpos : 0 < n * 10 ^ k := Nat.mul_pos hn (Nat.pow_pos (by decide))
    have hplace : (-53 : ℤ) ≤ max (((n * 10 ^ k * 2 ^ 53).log2 : ℤ) + -53 - 52) (-1074) := by
      rw [log2_mul_pow hpos]
      omega
    have hrounded := rounded_exact (m := n * 10 ^ k * 2 ^ 53) hplace
    have hvalue : ((n * 10 ^ k * 2 ^ 53 : ℕ) : ℚ) * 2 ^ (-53 : ℤ) = n * 10 ^ (k : ℤ) := by
      push_cast
      rw [zpow_neg, zpow_natCast]
      field_simp
      norm_num
    have hproduct : n <<< 53 * 10 ^ k = n * 10 ^ k * 2 ^ 53 := by
      rw [Nat.shiftLeft_eq, Nat.mul_right_comm]
    rw [hvalue, ← hproduct] at hrounded
    exact hrounded
  · rw [if_neg he]
    have hpos : 0 < 10 ^ (-e).toNat := Nat.pow_pos (by decide)
    have hrounded := rounded_divCore hn hpos 0 0
    have hvalue : (n : ℚ) * 2 ^ (0 : ℤ) / ((10 ^ (-e).toNat : ℕ) * 2 ^ (0 : ℤ)) = n * 10 ^ e := by
      have htop : e.toNat = 0 := by omega
      rw [zpow_parts (by norm_num) e, htop, zpow_zero, mul_one, mul_one, Nat.cast_pow,
        Nat.cast_ofNat, pow_zero, mul_one_div]
    rw [hvalue] at hrounded
    exact hrounded

theorem size_one : size 1 = 1 := by rw [size, code_one, grid_oneCode]

theorem one_le_size_iff {x : Float} : 1 ≤ size x ↔ oneCode ≤ code x := by
  rw [← code_one, ← size_le_size_iff, size_one]

theorem size_lt_one_iff {x : Float} : size x < 1 ↔ code x < oneCode := by
  rw [← not_le, one_le_size_iff, not_le]

/-- One is taken off exactly, as long as there is one and the grid is fine enough. -/
theorem size_sub_one {x : Float} (hone : oneCode ≤ code x) (hx : code x < (1023 + 53) * 2 ^ 52) :
    size (x - 1) = size x - 1 := by
  obtain ⟨k, hk, hgrid⟩ := exists_grid_sub_one hone hx
  have hfinite : code x < infinityCode := hx.trans (by decide)
  have hsub := rounded_sub hfinite (code_one ▸ hone)
  rw [size_one] at hsub
  unfold size at hsub ⊢
  rw [← hgrid] at hsub ⊢
  exact congrArg grid (hsub.eq (rounded_grid (hk.trans hfinite.le)))

theorem mul_one_eq {x : Float} (hx : code x < infinityCode) : x * 1 = x := by
  have hmul := rounded_mul (y := 1) hx (by decide +kernel)
  rw [size_one, mul_one] at hmul
  exact eq_of_code_eq (hmul.eq (rounded_grid hx.le))

theorem rounded_ofNat (n : ℕ) : Rounded n (code (Float.ofNat n)) := by
  show Rounded n (code (Float.ofScientific n false 0))
  unfold Float.ofScientific
  split
  · rename_i hsmall
    have hn : n.toUInt64.toNat = n := by
      simp
      omega
    have hexact := rounded_uint64 n.toUInt64
    rw [hn] at hexact
    have hfinite : code n.toUInt64.toFloat < infinityCode := by
      have hle : (n : ℚ) ≤ grid ((1023 + 53) * 2 ^ 52) := by
        rw [grid_pow]
        exact_mod_cast hsmall.1.le
      exact lt_of_le_of_lt (hexact.le_of_le_grid hle (by decide)) (by decide)
    show Rounded n (code (n.toUInt64.toFloat * Float.ofBits 0x3FF0000000000000))
    have hone : Float.ofBits 0x3FF0000000000000 = 1 := eq_of_code_eq (by decide +kernel)
    rw [hone, mul_one_eq hfinite]
    exact hexact
  · rename_i hlarge
    have hrounded := rounded_unpackedScientific (n := n) (e := 0) (by omega) (by omega) (by omega)
    rwa [zpow_zero, mul_one] at hrounded

theorem code_ofNat_le {n e : ℕ} (hn : n ≤ 2 ^ e) (he : e ≤ 1024) :
    code (Float.ofNat n) ≤ (1023 + e) * 2 ^ 52 := by
  refine (rounded_ofNat n).le_of_le_grid ?_ ?_
  · rw [grid_pow]
    exact_mod_cast hn
  · rw [infinityCode]
    omega

end ClusterAgent.Decimal
