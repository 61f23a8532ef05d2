/-
Doubles are read to the nearest one.

A text of digits, with a point and an exponent or without, is a decimal, and what is read is
the double that is nearest to it.

* `Decimal.rounded_ofScientific` — a decimal within reach of the doubles is rounded, by the short
  way over a power of ten that is exact or by the long one;
* `Decimal.rounded_nearestDouble` — and so is every decimal: those that are not worked out are
  less than half of the least double or more than the largest;
* `Decimal.readDouble_whole`, `Decimal.readDouble_point` — texts of digits are read so.
-/
import ClusterAgent.Proofs.Decimal.Digits
import ClusterAgent.Proofs.Decimal.Doubles

namespace ClusterAgent.Decimal

open Float.Model

/-! ### Decimals -/

theorem code_powerOfTen : ∀ i : Fin Float.exactlyRepresentablePowersOfTen.size,
    code Float.exactlyRepresentablePowersOfTen[i] = code (Float.ofNat (10 ^ i.val)) := by
  decide +kernel

/-- The powers of ten that the short way knows are exact. -/
theorem size_powerOfTen {k : ℕ} (hk : k < Float.exactlyRepresentablePowersOfTen.size) :
    size (Float.exactlyRepresentablePowersOfTen[k]) = 10 ^ k := by
  have hsize : Float.exactlyRepresentablePowersOfTen.size = 23 := rfl
  -- The odd part of a power of ten fits a mantissa.
  obtain ⟨j, hj⟩ := exists_grid_mul (k + 1074) (m := 5 ^ k)
    ((Nat.pow_le_pow_right (by decide) (show k ≤ 22 by omega)).trans (by norm_num))
  have hten : grid j = (10 ^ k : ℕ) := by
    rw [hj, show ((k + 1074 : ℕ) : ℤ) - 1074 = k by omega, zpow_natCast]
    push_cast
    rw [← mul_pow]
    norm_num
  have hle : j ≤ infinityCode := by
    refine grid_strictMono.le_iff_le.mp ?_
    have hinfinity : grid infinityCode = 2 ^ 1024 := grid_pow 1024
    have hmost := Nat.pow_le_pow_right (show 0 < 10 by decide) (show k ≤ 22 by omega)
    rw [hten, hinfinity]
    exact_mod_cast hmost.trans (show 10 ^ 22 ≤ 2 ^ 1024 by decide +kernel)
  have hcode : code Float.exactlyRepresentablePowersOfTen[k] = j :=
    (code_powerOfTen ⟨k, hk⟩).trans ((rounded_ofNat (10 ^ k)).eq (hten ▸ rounded_grid hle))
  rw [size, hcode, hten, Nat.cast_pow, Nat.cast_ofNat]

theorem code_lt_of_size_le {x : Float} {e : ℕ} (hx : size x ≤ 2 ^ e) (he : e < 1024) :
    code x < infinityCode := by
  have hle : code x ≤ (1023 + e) * 2 ^ 52 := by
    refine grid_strictMono.le_iff_le.mp ?_
    rw [grid_pow]
    exact hx
  rw [infinityCode]
  omega

/-- A decimal is rounded, whichever way it takes. -/
theorem rounded_ofScientific {n : ℕ} (hn : 0 < n) {e : ℤ} (hlow : -(2048 + (n.log2 : ℤ)) ≤ e)
    (hhigh : e ≤ 2048) : Rounded (n * 10 ^ e) (code (Float.ofScientific n (e < 0) e.natAbs)) := by
  unfold Float.ofScientific
  split
  · rename_i hshort
    -- Both numbers are exact, and what is done with them is rounded.
    have hto : n.toUInt64.toNat = n := by
      simp
      omega
    have hrounded := rounded_uint64 n.toUInt64
    rw [hto] at hrounded
    have hx : size n.toUInt64.toFloat = n := hrounded.grid_eq hshort.1.le
    have hxfinite : code n.toUInt64.toFloat < infinityCode := by
      refine code_lt_of_size_le (e := 53) ?_ (by decide)
      rw [hx]
      exact_mod_cast hshort.1.le
    have hk : e.natAbs < Float.exactlyRepresentablePowersOfTen.size :=
      Nat.lt_succ_of_le hshort.2
    have hp := size_powerOfTen hk
    have hpfinite : code Float.exactlyRepresentablePowersOfTen[e.natAbs] < infinityCode := by
      refine code_lt_of_size_le (e := 80) ?_ (by decide)
      rw [hp]
      have hmost := Nat.pow_le_pow_right (show 0 < 10 by decide) hshort.2
      exact_mod_cast hmost.trans (show 10 ^ 22 ≤ 2 ^ 80 by norm_num)
    have hppos : 0 < code Float.exactlyRepresentablePowersOfTen[e.natAbs] := by
      refine grid_strictMono.lt_iff_lt.mp ?_
      rw [grid_zero, ← size, hp]
      positivity
    dsimp only
    by_cases he : e < 0
    · have hquotient := rounded_div hxfinite hppos hpfinite
      have hvalue : (n : ℚ) / 10 ^ e.natAbs = n * 10 ^ e := by
        rw [div_eq_mul_inv, ← zpow_natCast, ← zpow_neg]
        congr 2
        omega
      rw [hx, hp, hvalue] at hquotient
      rw [if_pos (decide_eq_true he)]
      exact hquotient
    · have hproduct := rounded_mul hxfinite hpfinite
      have hvalue : (n : ℚ) * 10 ^ e.natAbs = n * 10 ^ e := by
        rw [← zpow_natCast]
        congr 2
        omega
      rw [hx, hp, hvalue] at hproduct
      rw [if_neg (by simpa using he)]
      exact hproduct
  · have he : (if decide (e < 0) = true then Int.negOfNat e.natAbs else Int.ofNat e.natAbs) =
        e := by
      cases e with
      | ofNat k => rfl
      | negSucc k => exact if_pos (decide_eq_true (Int.negSucc_lt_zero k))
    dsimp only
    rw [he]
    exact rounded_unpackedScientific hn hlow hhigh

/-- The digits of a number tell its place among the powers of ten. -/
theorem pow_length_le {n : ℕ} (hn : 0 < n) : 10 ^ ((Nat.toDigits 10 n).length - 1) ≤ n := by
  rcases Nat.eq_zero_or_pos ((Nat.toDigits 10 n).length - 1) with hone | hmore
  · rw [hone]
    exact hn
  · by_contra hlt
    have hle := (Nat.length_toDigits_le_iff (b := 10) (by decide) hmore).mpr (Nat.not_le.mp hlt)
    omega

theorem lt_pow_length (n : ℕ) : n < 10 ^ (Nat.toDigits 10 n).length :=
  (Nat.length_toDigits_le_iff (by decide) Nat.length_toDigits_pos).mp le_rfl

/-- **A decimal is read as the nearest double.** -/
theorem rounded_nearestDouble (digits : ℕ) (exponent : ℤ) :
    Rounded (digits * 10 ^ exponent) (code (nearestDouble digits exponent)) := by
  rcases Nat.eq_zero_or_pos digits with rfl | hpos
  · have hzero : nearestDouble 0 exponent = 0 := by simp [nearestDouble]
    rw [hzero, code_zero, Nat.cast_zero, zero_mul, ← grid_zero]
    exact rounded_grid (Nat.zero_le _)
  have hlength := Nat.length_toDigits_pos (b := 10) (n := digits)
  have hleast : (10 : ℚ) ^ ((Nat.toDigits 10 digits).length - 1) ≤ digits := by
    exact_mod_cast pow_length_le hpos
  have hmost : (digits : ℚ) < 10 ^ (Nat.toDigits 10 digits).length := by
    exact_mod_cast lt_pow_length digits
  rw [nearestDouble]
  generalize (Nat.toDigits 10 digits).length = length at *
  split
  · rename_i hlow
    have hlead : exponent + length < -400 := by simpa [hpos.ne'] using hlow
    -- Less than half of the least double.
    have hlt : digits * 10 ^ exponent < halfway 0 := by
      calc (digits : ℚ) * 10 ^ exponent ≤ 10 ^ (length : ℤ) * 10 ^ exponent := by
            rw [zpow_natCast]
            gcongr
        _ = 10 ^ (exponent + length) := by rw [← zpow_add₀ (by norm_num), add_comm]
        _ ≤ 10 ^ (-400 : ℤ) := zpow_le_zpow_right₀ (by norm_num) hlead.le
        _ < halfway 0 := by
            have hpow : (2 : ℚ) ^ 1075 < 10 ^ 400 := by
              exact_mod_cast (show 2 ^ 1075 < 10 ^ 400 by decide +kernel)
            have hhalf : halfway 0 = 1 / 2 ^ 1075 := by
              rw [halfway, grid_zero, zero_add, show gap 0 = 1 from rfl, Nat.cast_one, scale,
                div_div, ← pow_succ]
            rw [hhalf, zpow_neg, ← one_div]
            exact one_div_lt_one_div_of_lt (by positivity) hpow
    rw [code_zero]
    refine ⟨0, ⟨fun k hk => ?_, hlt.le, fun heq => absurd heq hlt.ne⟩, rfl⟩
    omega
  · split
    · rename_i hhigh
      -- More than the largest double.
      have hle : grid infinityCode ≤ digits * 10 ^ exponent := by
        calc grid infinityCode = 2 ^ 1024 := grid_pow 1024
          _ ≤ 10 ^ (400 : ℤ) := by
              exact_mod_cast (show 2 ^ 1024 ≤ 10 ^ 400 by decide +kernel)
          _ ≤ 10 ^ (exponent + (length - 1 : ℕ)) :=
              zpow_le_zpow_right₀ (by norm_num) (by omega)
          _ = 10 ^ (length - 1) * 10 ^ exponent := by
              rw [zpow_add₀ (by norm_num), zpow_natCast, mul_comm]
          _ ≤ digits * 10 ^ exponent := by gcongr
      exact rounded_infinityCode hle
    · rename_i hlow hhigh
      have hlead : -400 ≤ exponent + length := by simpa [hpos.ne'] using hlow
      have hlog : length - 1 ≤ digits.log2 := by
        refine (Nat.le_log2 hpos.ne').mpr ?_
        have hpow : 2 ^ (length - 1) ≤ 10 ^ (length - 1) := Nat.pow_le_pow_left (by decide) _
        exact hpow.trans (by exact_mod_cast hleast)
      exact rounded_ofScientific hpos (by omega) (by omega)

/-! ### Numerals -/

theorem digitsValue_eq (cs : List Char) : digitsValue cs = Nat.ofDigitChars 10 cs 0 := rfl

/-- What begins with a digit is not the name of a special value. -/
theorem map_toLower_ne {c : Char} (hc : c.isDigit = true) (cs : List Char) :
    (c :: cs).map Char.toLower ≠ "inf".toList ∧ (c :: cs).map Char.toLower ≠ "infinity".toList ∧
      (c :: cs).map Char.toLower ≠ "nan".toList := by
  have hlower : c.toLower = c := by
    rw [Char.isDigit, Bool.and_eq_true, decide_eq_true_eq, decide_eq_true_eq] at hc
    rw [Char.toLower, dif_neg]
    rintro ⟨hupper, -⟩
    exact absurd (UInt32.le_trans hupper hc.2) (by decide)
  have hname : ∀ (d : Char) (ds : List Char), d.isDigit = false →
      (c :: cs).map Char.toLower ≠ d :: ds := by
    intro d ds hd h
    have hcd : c.toLower = d := (List.cons.inj h).1
    rw [← hcd, hlower, hc] at hd
    cases hd
  exact ⟨hname 'i' _ (by decide), hname 'i' _ (by decide), hname 'n' _ (by decide)⟩

theorem readDouble_of_digit {c : Char} {cs : List Char} {x : Float} (hc : c.isDigit = true)
    (h : readMagnitude (c :: cs) = some x) : readDouble (c :: cs) = .ok x := by
  obtain ⟨hplus, hminus⟩ := ne_sign_of_isDigit hc
  simp [readDouble, hminus, hplus, h]

section

variable {whole fraction rest : List Char} {e : ℤ}

theorem takeWhile_digits (hwhole : ∀ c ∈ whole, c.isDigit = true)
    (hrest : ∀ c ∈ rest.head?, c.isDigit = false) :
    (whole ++ rest).takeWhile Char.isDigit = whole ∧
      (whole ++ rest).dropWhile Char.isDigit = rest := by
  rw [List.takeWhile_append_of_pos hwhole, List.dropWhile_append_of_pos hwhole]
  cases rest with
  | nil => simp
  | cons c rest =>
    have hc : c.isDigit = false := hrest c rfl
    simp [hc]

/-- Digits with no point. -/
theorem readDouble_whole (hne : whole ≠ []) (hwhole : ∀ c ∈ whole, c.isDigit = true)
    (hrest : ∀ c ∈ rest.head?, c.isDigit = false ∧ c ≠ '.') (he : readExponent rest = some e) :
    readDouble (whole ++ rest) = .ok (nearestDouble (Nat.ofDigitChars 10 whole 0) e) := by
  obtain ⟨htake, hdrop⟩ := takeWhile_digits hwhole fun c hc => (hrest c hc).1
  obtain ⟨c, cs, rfl⟩ := List.exists_cons_of_ne_nil hne
  have hc := hwhole c List.mem_cons_self
  obtain ⟨hinf, hinfinity, hnan⟩ := map_toLower_ne hc (cs ++ rest)
  rw [List.cons_append] at htake hdrop ⊢
  refine readDouble_of_digit hc ?_
  rw [readMagnitude]
  simp only [hinf, hinfinity, hnan, htake, hdrop]
  cases rest with
  | nil => simp [he, digitsValue_eq]
  | cons d rest =>
    have hd : d ≠ '.' := (hrest d rfl).2
    simp [hd, he, digitsValue_eq]

/-- Digits with a point behind the first ones. -/
theorem readDouble_point (hne : whole ≠ []) (hwhole : ∀ c ∈ whole, c.isDigit = true)
    (hfraction : ∀ c ∈ fraction, c.isDigit = true)
    (hrest : ∀ c ∈ rest.head?, c.isDigit = false) (he : readExponent rest = some e) :
    readDouble (whole ++ '.' :: (fraction ++ rest)) =
      .ok (nearestDouble (Nat.ofDigitChars 10 (whole ++ fraction) 0) (e - fraction.length)) := by
  obtain ⟨htake, hdrop⟩ := takeWhile_digits hwhole
    (show ∀ c ∈ ('.' :: (fraction ++ rest)).head?, c.isDigit = false by simp)
  obtain ⟨htake', hdrop'⟩ := takeWhile_digits hfraction hrest
  obtain ⟨c, cs, rfl⟩ := List.exists_cons_of_ne_nil hne
  have hc := hwhole c List.mem_cons_self
  obtain ⟨hinf, hinfinity, hnan⟩ := map_toLower_ne hc (cs ++ '.' :: (fraction ++ rest))
  rw [List.cons_append] at htake hdrop ⊢
  refine readDouble_of_digit hc ?_
  rw [readMagnitude]
  simp only [hinf, hinfinity, hnan, htake, hdrop, htake', hdrop', he]
  simp [digitsValue_eq]

end

end ClusterAgent.Decimal
