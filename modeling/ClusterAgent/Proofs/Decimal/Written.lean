/-
Doubles that are written are read back.

A double is written with the fewest digits that tell it from all others, laid out as the
format asks.  The decimals that are rounded to it lie between the points halfway to its two
neighbours, and what is picked lies there.

* `Decimal.ends_ofBinary` — the ends of the interval of a double;
* `Decimal.rounded_shortest` — the shortest decimal is rounded to the double it was made of;
* `Decimal.readsAs_arrange` — laying a decimal out changes nothing of what it stands for;
* `Decimal.readDouble_write` — so a double is read back, whatever the layout.

Design notes: that seventeen digits always do is not needed, since what would be written without
them is exact.
-/
import ClusterAgent.Decimal.Layout
import ClusterAgent.Proofs.Decimal.Reading

namespace ClusterAgent.Decimal

/-! ### Shortest decimals -/

/-- What a decimal stands for. -/
def Scientific.value (d : Scientific) : ℚ := d.digits * 10 ^ d.exponent

/-- A decimal and a fraction over one denominator. -/
theorem compareWith_sides (d : Scientific) (num : ℕ) {den : ℕ} (hden : 0 < den) :
    (d.digits * Nat.pow 10 d.exponent.toNat * den : ℕ) = d.value * den * 10 ^ (-d.exponent).toNat ∧
      (num * Nat.pow 10 (-d.exponent).toNat : ℕ) =
        (num : ℚ) / den * den * 10 ^ (-d.exponent).toNat := by
  have hten : (10 : ℚ) ^ (-d.exponent).toNat ≠ 0 := by positivity
  have hden' : (den : ℚ) ≠ 0 := by exact_mod_cast hden.ne'
  rw [Scientific.value, zpow_parts (by norm_num)]
  constructor
  · push_cast [Nat.pow_eq]
    field_simp
  · push_cast [Nat.pow_eq]
    field_simp

theorem compareWith_iff (d : Scientific) (num : ℕ) {den : ℕ} (hden : 0 < den) :
    (compareWith d num den = .lt ↔ d.value < num / den) ∧
      (compareWith d num den = .gt ↔ num / den < d.value) ∧
      (compareWith d num den = .eq ↔ d.value = num / den) := by
  obtain ⟨hleft, hright⟩ := compareWith_sides d num hden
  have hpos : (0 : ℚ) < den * 10 ^ (-d.exponent).toNat := by positivity
  rw [compareWith, Nat.compare_eq_lt, Nat.compare_eq_gt, Nat.compare_eq_eq,
    ← @Nat.cast_lt ℚ, ← @Nat.cast_lt ℚ, ← @Nat.cast_inj ℚ, hleft, hright,
    mul_assoc, mul_assoc, mul_lt_mul_iff_left₀ hpos, mul_lt_mul_iff_left₀ hpos,
    mul_left_inj' hpos.ne']
  exact ⟨Iff.rfl, Iff.rfl, Iff.rfl⟩

/-- A decimal that an interval contains lies in it, and on an end only if that belongs to it. -/
theorem Interval.of_contains {i : Interval} {d : Scientific} (hden : 0 < i.den)
    (h : i.contains d = true) :
    ((i.low : ℚ) / i.den ≤ d.value ∧ ((i.low : ℚ) / i.den = d.value → i.closed = true)) ∧
      d.value ≤ i.high / i.den ∧ (d.value = i.high / i.den → i.closed = true) := by
  obtain ⟨hltlow, hgtlow, heqlow⟩ := compareWith_iff d i.low hden
  obtain ⟨hlthigh, hgthigh, heqhigh⟩ := compareWith_iff d i.high hden
  rw [contains, Bool.and_eq_true] at h
  obtain ⟨hlow, hhigh⟩ := h
  constructor
  · cases hcompare : compareWith d i.low i.den with
    | lt => rw [hcompare] at hlow; cases hlow
    | eq =>
      rw [hcompare] at hlow
      exact ⟨(heqlow.mp hcompare).ge, fun _ => hlow⟩
    | gt =>
      have hlt := hgtlow.mp hcompare
      exact ⟨hlt.le, fun heq => absurd heq hlt.ne⟩
  · cases hcompare : compareWith d i.high i.den with
    | lt =>
      have hlt := hlthigh.mp hcompare
      exact ⟨hlt.le, fun heq => absurd heq hlt.ne⟩
    | eq =>
      rw [hcompare] at hhigh
      exact ⟨(heqhigh.mp hcompare).le, fun _ => hhigh⟩
    | gt => rw [hcompare] at hhigh; cases hhigh

/-! ### The interval of a double -/

section

variable {x : Float} {e m : ℕ}

theorem halfway_parts (hlt : m < 2 ^ 53) (hnormal : 2 ^ 52 ≤ m ∨ e = 0) :
    halfway (e * 2 ^ 52 + m) = (4 * m + 2 : ℕ) * 2 ^ ((e : ℤ) - 1074 - 2) := by
  have hgap : gap (e * 2 ^ 52 + m) = 2 ^ e := by
    rw [gap]
    congr 1
    omega
  have hunit : (2 : ℚ) ^ ((e : ℤ) - 1074) = 2 ^ e / scale := by
    rw [zpow_sub₀ two_ne_zero, zpow_natCast, scale]
    rfl
  have hquarter : (2 : ℚ) ^ ((e : ℤ) - 1074 - 2) = 2 ^ e / scale / 4 := by
    rw [zpow_sub₀ two_ne_zero, hunit]
    norm_num
  rw [halfway, grid_parts hlt.le hnormal, hgap, hunit, hquarter]
  push_cast
  ring

/-- The ends of the interval of a double lie halfway to its neighbours. -/
theorem ends_ofBinary {i : Interval} (hi : i = Interval.ofBinary (Binary.ofFloat x))
    (h : code x < infinityCode) :
    0 < i.den ∧ (i.closed = true → Even (code x)) ∧ (i.high : ℚ) / i.den = halfway (code x) ∧
      ∀ k, code x = k + 1 → (i.low : ℚ) / i.den = halfway k := by
  obtain ⟨e, m, hcode, hlt, hnormal, hparts⟩ := ofFloat_parts h
  rw [hparts] at hi
  subst hi
  refine ⟨Nat.two_pow_pos _, fun hclosed => ?_, ?_, fun k hk => ?_⟩
  · have heven : m % 2 = 0 := beq_iff_eq.mp hclosed
    rw [hcode, Nat.even_iff]
    omega
  · rw [hcode, halfway_parts hlt hnormal]
    exact scaled_div _ _
  · by_cases hnarrow : m = 2 ^ 52 ∧ 0 < e
    · -- The neighbour below is the last of the binade before.
      obtain ⟨rfl, he⟩ := hnarrow
      obtain ⟨e, rfl⟩ : ∃ e', e = e' + 1 := ⟨e - 1, by omega⟩
      have hk' : k = e * 2 ^ 52 + (2 ^ 53 - 1) := by omega
      rw [hk', halfway_parts (by omega) (.inl (by omega))]
      refine (scaled_div _ _).trans ?_
      rw [if_pos (decide_eq_true ⟨rfl, he⟩)]
      have hexp : ((e + 1 : ℕ) : ℤ) - 1074 - 2 = (e : ℤ) - 1074 - 2 + 1 := by omega
      show ((4 * 2 ^ 52 - 1 : ℕ) : ℚ) * 2 ^ (((e + 1 : ℕ) : ℤ) - 1074 - 2) = _
      rw [hexp, zpow_add_one₀ two_ne_zero]
      norm_num
      ring
    · obtain ⟨m, rfl⟩ : ∃ m', m = m' + 1 := ⟨m - 1, by omega⟩
      have hk' : k = e * 2 ^ 52 + m := by omega
      rw [hk', halfway_parts (by omega) (by omega)]
      refine (scaled_div _ _).trans ?_
      rw [if_neg (by simpa using hnarrow)]
      have hmantissa : 4 * (m + 1) - 2 = 4 * m + 2 := by omega
      show ((4 * (m + 1) - 2 : ℕ) : ℚ) * 2 ^ ((e : ℤ) - 1074 - 2) = _
      rw [hmantissa]

/-- What an interval contains is rounded to the double that it belongs to. -/
theorem rounded_of_contains (h : code x < infinityCode) {d : Scientific}
    (hcontains : (Interval.ofBinary (Binary.ofFloat x)).contains d = true) :
    Rounded d.value (code x) := by
  obtain ⟨hden, hclosed, hhigh, hlow⟩ := ends_ofBinary rfl h
  obtain ⟨⟨hlower, hlower_eq⟩, hupper, hupper_eq⟩ := Interval.of_contains hden hcontains
  rw [hhigh] at hupper hupper_eq
  refine ⟨code x, ⟨fun k hk => ?_, hupper, fun heq => hclosed (hupper_eq heq)⟩,
    (Nat.min_eq_left h.le).symm⟩
  rw [hlow k hk] at hlower hlower_eq
  exact ⟨hlower, fun heq => hclosed (hlower_eq heq)⟩

end

/-! ### What is picked -/

theorem Interval.contains_of_pick? {i : Interval} {tie : Tie} {p : ℤ} {d : Scientific}
    (h : i.pick? tie p = some d) : i.contains d = true := by
  unfold pick? at h
  cases hbelow : i.contains ⟨i.floorOn p, p⟩ <;> cases habove : i.contains ⟨i.floorOn p + 1, p⟩ <;>
    simp only [hbelow, habove] at h
  · cases h
  · cases h
    exact habove
  · cases h
    exact hbelow
  · -- Both do, whichever is nearer.
    split at h
    · cases h
      exact habove
    · cases h
      exact hbelow
    · split at h
      · cases h
        exact hbelow
      · cases h
        exact habove

theorem Scientific.value_strip (d : Scientific) : d.strip.value = d.value := by
  induction d using strip.induct with
  | case1 d hzero => rw [strip, if_pos hzero, value, value, hzero]; simp
  | case2 d hne hten ih =>
    rw [strip, if_neg hne, if_pos hten, ih, value, value]
    have hdigits : (d.digits : ℚ) = (d.digits / 10 : ℕ) * 10 := by
      exact_mod_cast (Nat.div_mul_cancel (Nat.dvd_of_mod_eq_zero hten)).symm
    rw [hdigits, zpow_add_one₀ (by norm_num)]
    ring
  | case3 d hne hten => rw [strip, if_neg hne, if_neg hten]

/-- What stands in for a decimal that is not found is exact. -/
theorem value_exact (b : Binary) :
    Scientific.value ⟨(Interval.ofBinary b).middle * Nat.pow 5 (2 - b.exponent).toNat,
      min (b.exponent - 2) 0⟩ = b.mantissa * 2 ^ b.exponent := by
  obtain ⟨k, hk⟩ : ∃ k : ℕ, (2 - b.exponent).toNat = k := ⟨_, rfl⟩
  have hmiddle : ((Interval.ofBinary b).middle : ℚ) / 2 ^ k =
      (4 * b.mantissa : ℕ) * 2 ^ (b.exponent - 2) := by
    rw [← scaled_div, ← hk, ← neg_sub b.exponent 2]
    show _ = ((scaled (4 * b.mantissa) (b.exponent - 2)).1 : ℚ) /
      ((2 ^ (-(b.exponent - 2)).toNat : ℕ) : ℚ)
    push_cast
    rfl
  have hten : (10 : ℚ) ^ (min (b.exponent - 2) 0) = (2 ^ k)⁻¹ * (5 ^ k)⁻¹ := by
    have hexp : min (b.exponent - 2) 0 = -(k : ℤ) := by omega
    rw [hexp, zpow_neg, zpow_natCast, ← mul_inv, ← mul_pow]
    norm_num
  have hfive : (5 : ℚ) ^ k ≠ 0 := by positivity
  rw [Scientific.value, hten, hk]
  have hquarter : (2 : ℚ) ^ (b.exponent - 2) = 2 ^ b.exponent / 4 := by
    rw [zpow_sub₀ two_ne_zero]
    norm_num
  rw [hquarter] at hmiddle
  push_cast [Nat.pow_eq] at hmiddle ⊢
  calc ((Interval.ofBinary b).middle : ℚ) * 5 ^ k * ((2 ^ k)⁻¹ * (5 ^ k)⁻¹)
      = (Interval.ofBinary b).middle / 2 ^ k := by field_simp
    _ = 4 * b.mantissa * (2 ^ b.exponent / 4) := hmiddle
    _ = b.mantissa * 2 ^ b.exponent := by ring

/-- **The shortest decimal is rounded to the double it was made of.** -/
theorem rounded_shortest (tie : Tie) {x : Float} (h : code x < infinityCode) :
    Rounded (shortest tie (Binary.ofFloat x)).value (code x) := by
  rw [shortest, Scientific.value_strip]
  -- Whether a length is enough is not asked: if none was, what stands in is the double itself.
  cases hfound : (List.range 17).findSome? fun (n : ℕ) =>
      (Interval.ofBinary (Binary.ofFloat x)).pick? tie
        ((Interval.ofBinary (Binary.ofFloat x)).magnitude - (n : ℤ) - 1) with
  | some d =>
    obtain ⟨n, -, hpick⟩ := List.exists_of_findSome?_eq_some hfound
    exact rounded_of_contains h (Interval.contains_of_pick? hpick)
  | none =>
    rw [Option.getD_none, value_exact, ← size_eq_ofFloat h]
    exact rounded_grid h.le

/-! ### Layouts -/

/-- An exponent as it is written. -/
def writtenExponent (plusSign : Bool) (lead : ℤ) : List Char :=
  'e' :: ((if lead < 0 then ['-'] else if plusSign then ['+'] else []) ++
    Nat.toDigits 10 lead.natAbs)

theorem readExponent_written (plusSign : Bool) (lead : ℤ) :
    readExponent (writtenExponent plusSign lead) = some lead := by
  have hvalue : digitsValue (Nat.toDigits 10 lead.natAbs) = lead.natAbs :=
    Nat.ofDigitChars_ten_toDigits
  have hdigits : ∀ c ∈ Nat.toDigits 10 lead.natAbs, c.isDigit = true :=
    fun c => isDigit_of_mem_toDigits
  rw [writtenExponent]
  by_cases hneg : lead < 0
  · have hlead : -(lead.natAbs : ℤ) = lead := by omega
    rw [if_pos hneg]
    have hboth := And.intro hdigits hlead
    simpa [readExponent, hvalue] using hboth
  · have hlead : (lead.natAbs : ℤ) = lead := by omega
    have hboth := And.intro hdigits hlead
    rw [if_neg hneg]
    cases plusSign with
    | true => simpa [readExponent, hvalue] using hboth
    | false =>
      rw [if_neg Bool.false_ne_true, List.nil_append]
      obtain ⟨c, cs, hcons⟩ :=
        List.exists_cons_of_ne_nil (Nat.toDigits_ne_nil (n := lead.natAbs) (b := 10))
      rw [hcons] at hvalue hdigits hboth ⊢
      obtain ⟨hplus, hminus⟩ := ne_sign_of_isDigit (hdigits c List.mem_cons_self)
      simpa [readExponent, hminus, hplus, hvalue] using hboth

/-- What reads as the nearest double of a number. -/
def ReadsAs (cs : List Char) (v : ℚ) : Prop :=
  ∃ (n : ℕ) (e : ℤ), readDouble cs = .ok (nearestDouble n e) ∧ n * 10 ^ e = v

section

variable {whole fraction cs : List Char} {lead : ℤ}

/-- A point moves the digits by as many places as stand behind it. -/
theorem readsAs_point (hne : whole ≠ []) (hwhole : ∀ c ∈ whole, c.isDigit = true)
    (hfraction : ∀ c ∈ fraction, c.isDigit = true) :
    ReadsAs (whole ++ '.' :: fraction)
      (Nat.ofDigitChars 10 (whole ++ fraction) 0 * 10 ^ (-(fraction.length : ℤ))) := by
  have hread := readDouble_point hne hwhole hfraction (by simp)
    (show readExponent [] = some 0 from rfl)
  rw [List.append_nil] at hread
  refine ⟨_, _, hread, ?_⟩
  rw [zero_sub]

theorem isDigit_of_mem_zeros {k : ℕ} {c : Char} (h : c ∈ List.replicate k '0') :
    c.isDigit = true := by
  rw [List.eq_of_mem_replicate h]
  decide

/-- A whole number, with zeros behind its digits. -/
theorem readsAs_zeros (hne : cs ≠ []) (hcs : ∀ c ∈ cs, c.isDigit = true) (k : ℕ)
    (pointZero : Bool) :
    ReadsAs (cs ++ List.replicate k '0' ++ (if pointZero then ['.', '0'] else []))
      (Nat.ofDigitChars 10 cs 0 * 10 ^ k) := by
  have hne' : cs ++ List.replicate k '0' ≠ [] := List.append_ne_nil_of_left_ne_nil hne _
  have hwhole : ∀ c ∈ cs ++ List.replicate k '0', c.isDigit = true :=
    List.forall_mem_append.mpr ⟨hcs, fun c => isDigit_of_mem_zeros⟩
  have hvalue : Nat.ofDigitChars 10 (cs ++ List.replicate k '0') 0 =
      Nat.ofDigitChars 10 cs 0 * 10 ^ k := by
    rw [Nat.ofDigitChars_append, Nat.ofDigitChars_replicate_zero, mul_comm]
  cases pointZero with
  | true =>
    obtain ⟨n, e, hread, hn⟩ := readsAs_point hne' hwhole fun c => isDigit_of_mem_zeros (k := 1)
    refine ⟨n, e, hread, hn.trans ?_⟩
    rw [Nat.ofDigitChars_append, Nat.ofDigitChars_replicate_zero, hvalue, List.length_replicate]
    push_cast
    rw [zpow_neg_one]
    ring
  | false =>
    have hread := readDouble_whole hne' hwhole (by simp) (show readExponent [] = some 0 from rfl)
    refine ⟨_, _, hread, ?_⟩
    rw [hvalue, zpow_zero, mul_one]
    push_cast
    rfl

theorem readsAs_positional (hne : cs ≠ []) (hcs : ∀ c ∈ cs, c.isDigit = true) (pointZero : Bool) :
    ReadsAs (positional pointZero cs lead)
      (Nat.ofDigitChars 10 cs 0 * 10 ^ (lead + 1 - cs.length)) := by
  rw [positional]
  by_cases hlead : lead < 0
  · -- All digits stand behind the point.
    rw [if_pos hlead]
    obtain ⟨k, hk⟩ : ∃ k : ℕ, (-lead - 1).toNat = k := ⟨_, rfl⟩
    obtain ⟨n, e, hread, hn⟩ := readsAs_point (List.cons_ne_nil '0' [])
      (fun c => isDigit_of_mem_zeros (k := 1))
      (List.forall_mem_append.mpr ⟨fun c => isDigit_of_mem_zeros (k := k), hcs⟩)
    have hexp : -((List.replicate k '0' ++ cs).length : ℤ) = lead + 1 - cs.length := by
      rw [List.length_append, List.length_replicate]
      omega
    rw [hexp, List.singleton_append, Nat.ofDigitChars_cons, Nat.ofDigitChars_append,
      Nat.ofDigitChars_replicate_zero, Nat.mul_zero, Nat.zero_add, Nat.sub_self,
      Nat.mul_zero] at hn
    rw [hk]
    exact ⟨n, e, hread, hn⟩
  · rw [if_neg hlead]
    by_cases hlength : cs.length ≤ lead.toNat + 1
    · -- All stand before it, and perhaps zeros.
      rw [if_pos hlength]
      have hexp : lead + 1 - cs.length = (lead.toNat + 1 - cs.length : ℕ) := by omega
      rw [hexp, zpow_natCast]
      exact readsAs_zeros hne hcs _ pointZero
    · rw [if_neg hlength]
      have htake : ∀ c ∈ cs.take (lead.toNat + 1), c.isDigit = true :=
        fun c hc => hcs c (List.mem_of_mem_take hc)
      have hdrop : ∀ c ∈ cs.drop (lead.toNat + 1), c.isDigit = true :=
        fun c hc => hcs c (List.mem_of_mem_drop hc)
      have hread := readsAs_point (by simp [hne]) htake hdrop
      have hexp : -((cs.drop (lead.toNat + 1)).length : ℤ) = lead + 1 - cs.length := by
        rw [List.length_drop]
        omega
      rwa [hexp, List.take_append_drop] at hread

theorem readsAs_withExponent (hne : cs ≠ []) (hcs : ∀ c ∈ cs, c.isDigit = true) (plusSign : Bool) :
    ReadsAs (withExponent plusSign cs lead)
      (Nat.ofDigitChars 10 cs 0 * 10 ^ (lead + 1 - cs.length)) := by
  obtain ⟨c, cs, rfl⟩ := List.exists_cons_of_ne_nil hne
  have hc : ∀ d ∈ [c], d.isDigit = true := by simpa using hcs c List.mem_cons_self
  have hexponent := readExponent_written plusSign lead
  cases cs with
  | nil =>
    have hwritten : withExponent plusSign [c] lead = [c] ++ writtenExponent plusSign lead := by
      simp [withExponent, writtenExponent]
    have hread := readDouble_whole (List.cons_ne_nil c []) hc (by simp [writtenExponent])
      hexponent
    rw [hwritten]
    refine ⟨_, _, hread, ?_⟩
    simp
  | cons d cs =>
    have hwritten : withExponent plusSign (c :: d :: cs) lead =
        [c] ++ '.' :: (d :: cs ++ writtenExponent plusSign lead) := by
      simp [withExponent, writtenExponent]
    have hread := readDouble_point (List.cons_ne_nil c []) hc
      (fun e he => hcs e (List.mem_cons_of_mem c he)) (by simp [writtenExponent]) hexponent
    rw [hwritten]
    refine ⟨_, _, hread, ?_⟩
    have hexp : lead - (d :: cs).length = lead + 1 - (c :: d :: cs).length := by
      simp only [List.length_cons]
      omega
    rw [hexp, List.singleton_append]

end

/-- A decimal that is laid out is read as the nearest double. -/
theorem readsAs_arrange (l : Layout) (d : Scientific) : ReadsAs (l.arrange d) d.value := by
  have hne : Nat.toDigits 10 d.digits ≠ [] := Nat.toDigits_ne_nil
  have hdigits : ∀ c ∈ Nat.toDigits 10 d.digits, c.isDigit = true :=
    fun c => isDigit_of_mem_toDigits
  have hvalue : d.value = Nat.ofDigitChars 10 (Nat.toDigits 10 d.digits) 0 *
      10 ^ (d.exponent + (Nat.toDigits 10 d.digits).length - 1 + 1 -
        (Nat.toDigits 10 d.digits).length) := by
    rw [Nat.ofDigitChars_ten_toDigits, Scientific.value]
    congr 2
    omega
  rw [hvalue, Layout.arrange]
  split
  · exact readsAs_positional hne hdigits _
  · exact readsAs_withExponent hne hdigits _

/-- **A double that is written is read back**, whatever the layout. -/
theorem readDouble_write (l : Layout) {x : Float} (h : code x < infinityCode) :
    readDouble (l.write x).toList = .ok x := by
  -- Zero has a decimal of its own, all others the shortest one.
  obtain ⟨d, hd, hrounded⟩ : ∃ d, l.write x = String.ofList (l.arrange d) ∧
      Rounded d.value (code x) := by
    have hpositive : isNegative x = false := by
      rw [isNegative_eq_false_iff, signBit]
      show code x / 2 ^ 63 % 2 ≠ 1
      rw [infinityCode] at h
      omega
    have hnumber := isNaN_eq_false h.le
    have hfinite := (isFinite_iff_lt h.le).mpr h
    rw [Layout.write, hpositive, hnumber, hfinite]
    by_cases hzero : (Binary.ofFloat x).mantissa = 0
    · refine ⟨⟨0, 0⟩, by simp [hzero], ?_⟩
      have hsize := size_eq_ofFloat h
      rw [hzero, Nat.cast_zero, zero_mul] at hsize
      rw [Scientific.value, Nat.cast_zero, zero_mul, ← hsize]
      exact rounded_grid h.le
    · exact ⟨_, by simp [hzero], rounded_shortest l.tie h⟩
  obtain ⟨n, e, hread, hvalue⟩ := readsAs_arrange l d
  rw [hd, String.toList_ofList, hread]
  have hnearest := rounded_nearestDouble n e
  rw [hvalue] at hnearest
  rw [eq_of_code_eq (hnearest.eq hrounded)]

end ClusterAgent.Decimal
