/-
Numerals written and read back.

A natural number is written with its digits in base ten, and whatever reads digits gets the
number back as long as it fits.

* `Decimal.readDigits_eq_ok_iff` — reading succeeds exactly on digits whose value fits, and
  then with that value;
* `Decimal.readNatural_eq_ok_iff` — what is read as a natural number: digits, and a plus sign
  before them or not;
* `Decimal.readNatural_toString`, `Decimal.readInteger_toString` — a number that is written
  is read back, without a sign or as an integer.

Design notes: the value of digits is `Nat.ofDigitChars` of the core library, so that what it
knows about `toString` applies.  A reader looks at the size after every digit, which decides
nothing, since the value only grows.
-/
import ClusterAgent.Decimal.Numeral
import Mathlib.Order.Lattice

namespace ClusterAgent.Decimal

/-- A digit is no sign. -/
theorem ne_sign_of_isDigit {c : Char} (h : c.isDigit = true) : c ≠ '+' ∧ c ≠ '-' := by
  constructor <;> rintro rfl <;> exact absurd h (by decide)

theorem isDigit_of_mem_toDigits {n : Nat} {c : Char} (h : c ∈ Nat.toDigits 10 n) :
    c.isDigit = true := Nat.isDigit_of_mem_toDigits (by decide) (by decide) h

theorem digit?_eq_some_iff {c : Char} {d : Nat} :
    digit? c = some d ↔ c.isDigit = true ∧ d = c.toNat - '0'.toNat := by
  rw [digit?]
  split
  · rename_i hyes
    rw [Option.some_inj]
    exact ⟨fun h => ⟨hyes, h.symm⟩, fun h => h.2.symm⟩
  · rename_i hno
    exact iff_of_false nofun fun h => hno h.1

/-- Reading on only makes a value larger. -/
theorem le_ofDigitChars (cs : List Char) (value : Nat) : value ≤ Nat.ofDigitChars 10 cs value := by
  induction cs generalizing value with
  | nil => exact Nat.le_refl _
  | cons c cs ih =>
    rw [Nat.ofDigitChars_cons]
    exact le_trans (by omega) (ih _)

section

variable {most value n : Nat} {excess : NumeralFault} {cs : List Char}

theorem readDigits_eq_ok_iff :
    readDigits most excess value cs = .ok n ↔
      (∀ c ∈ cs, c.isDigit = true) ∧ n = Nat.ofDigitChars 10 cs value ∧ (cs = [] ∨ n ≤ most) := by
  -- By induction on the digits, with the value of those before: it only grows, so a number that
  -- is too large at one of them is too large at the end.
  induction cs generalizing value with
  | nil =>
    constructor
    · rintro ⟨⟩
      exact ⟨nofun, rfl, .inl rfl⟩
    · rintro ⟨-, rfl, -⟩
      rfl
  | cons c cs ih =>
    rw [readDigits, Nat.ofDigitChars_cons, List.forall_mem_cons]
    cases hdigit : digit? c with
    | none =>
      have hno : ¬ c.isDigit = true := by
        intro hyes
        rw [digit?, if_pos hyes] at hdigit
        cases hdigit
      exact iff_of_false (by simp) fun h => hno h.1.1
    | some d =>
      obtain ⟨hyes, rfl⟩ := digit?_eq_some_iff.mp hdigit
      have hle := le_ofDigitChars cs (10 * value + (c.toNat - '0'.toNat))
      dsimp only
      split
      · rename_i hfits
        rw [ih]
        constructor
        · rintro ⟨hall, rfl, hmost⟩
          refine ⟨⟨hyes, hall⟩, rfl, .inr ?_⟩
          rcases hmost with rfl | hmost
          · exact hfits
          · exact hmost
        · rintro ⟨⟨-, hall⟩, rfl, hmost⟩
          exact ⟨hall, rfl, .inr (hmost.resolve_left (List.cons_ne_nil _ _))⟩
      · rename_i hlarge
        refine iff_of_false (by simp) ?_
        rintro ⟨-, rfl, hmost⟩
        exact hlarge (hle.trans (hmost.resolve_left (List.cons_ne_nil _ _)))

end

/-! ### Written numbers -/

theorem isDigit_of_mem_toString {n : Nat} {c : Char} (h : c ∈ (toString n).toList) :
    c.isDigit = true := by
  rw [Nat.toString_eq_ofList_toDigits, String.toList_ofList] at h
  exact isDigit_of_mem_toDigits h

theorem ofDigitChars_toString (n : Nat) : Nat.ofDigitChars 10 (toString n).toList 0 = n := by
  rw [Nat.toString_eq_ofList_toDigits, String.toList_ofList]
  exact Nat.ofDigitChars_ten_toDigits

theorem readDigits_toString {most n : Nat} (h : n ≤ most) (excess : NumeralFault) :
    readDigits most excess 0 (toString n).toList = .ok n :=
  readDigits_eq_ok_iff.mpr
    ⟨fun _ => isDigit_of_mem_toString, (ofDigitChars_toString n).symm, .inr h⟩

/-- A written number begins with no sign. -/
theorem exists_cons_toString (n : Nat) :
    ∃ c cs, (toString n).toList = c :: cs ∧ c ≠ '+' ∧ c ≠ '-' := by
  have hne : (toString n).toList ≠ [] := by
    rw [Nat.toString_eq_ofList_toDigits, String.toList_ofList]
    exact Nat.toDigits_ne_nil
  obtain ⟨c, cs, hcons⟩ := List.exists_cons_of_ne_nil hne
  have hdigit : c.isDigit = true :=
    isDigit_of_mem_toString (n := n) (by rw [hcons]; exact List.mem_cons_self)
  exact ⟨c, cs, hcons, ne_sign_of_isDigit hdigit⟩

theorem readNatural_cons {most : Nat} {c : Char} {cs : List Char} (hplus : c ≠ '+') :
    readNatural most (c :: cs) = readDigits most .tooLarge 0 (c :: cs) := by
  unfold readNatural
  split <;> simp_all

/-- A natural number is read from one digit or more, with a plus sign before them or not. -/
theorem readNatural_eq_ok_iff {most n : Nat} {cs : List Char} :
    readNatural most cs = .ok n ↔
      ∃ digits, (cs = digits ∨ cs = '+' :: digits) ∧ digits ≠ [] ∧
        (∀ c ∈ digits, c.isDigit = true) ∧ Nat.ofDigitChars 10 digits 0 = n ∧ n ≤ most := by
  constructor
  · intro h
    unfold readNatural at h
    split at h
    · cases h
    · cases h
    · rename_i digits hne
      obtain ⟨hall, hvalue, hmost⟩ := readDigits_eq_ok_iff.mp h
      have hdigits : digits ≠ [] := fun hnil => hne (by rw [hnil])
      exact ⟨digits, .inr rfl, hdigits, hall, hvalue.symm, hmost.resolve_left hdigits⟩
    · rename_i hne _ _
      obtain ⟨hall, hvalue, hmost⟩ := readDigits_eq_ok_iff.mp h
      exact ⟨cs, .inl rfl, hne, hall, hvalue.symm, hmost.resolve_left hne⟩
  · rintro ⟨digits, hcs, hne, hall, hvalue, hmost⟩
    have hread : readDigits most .tooLarge 0 digits = .ok n :=
      readDigits_eq_ok_iff.mpr ⟨hall, hvalue.symm, .inr hmost⟩
    obtain ⟨c, rest, rfl⟩ := List.exists_cons_of_ne_nil hne
    rcases hcs with rfl | rfl
    · have hplus : c ≠ '+' := (ne_sign_of_isDigit (hall _ List.mem_cons_self)).1
      rw [readNatural_cons hplus, hread]
    · exact hread

theorem readInteger_cons {least most : Nat} {c : Char} {cs : List Char} (hplus : c ≠ '+')
    (hminus : c ≠ '-') :
    readInteger least most (c :: cs) =
      (readDigits most .tooLarge 0 (c :: cs)).map Int.ofNat := by
  unfold readInteger
  split <;> simp_all

theorem readNatural_toString {most n : Nat} (h : n ≤ most) :
    readNatural most (toString n).toList = .ok n := by
  have hread := readDigits_toString h .tooLarge
  obtain ⟨c, cs, hcons, hplus, -⟩ := exists_cons_toString n
  rw [hcons] at hread ⊢
  rw [readNatural_cons hplus, hread]

theorem readInteger_toString (least : Nat) {most n : Nat} (h : n ≤ most) :
    readInteger least most (toString n).toList = .ok n := by
  have hread := readDigits_toString h .tooLarge
  obtain ⟨c, cs, hcons, hplus, hminus⟩ := exists_cons_toString n
  rw [hcons] at hread ⊢
  rw [readInteger_cons hplus hminus, hread]
  rfl

end ClusterAgent.Decimal
