/-
Spans in words, read back.

* `Span.extendWhole_eq_ok` — adding units to a span is exact as long as the sum is a span;
* `Span.ofPhrase_pieces` — a phrase of pieces, in whatever spelling of the units, is read as
  their sum;
* `Span.ofPhrase_phrase` — the phrase of a span is read back to the very span, to the
  nanosecond and up to the longest one.

Design notes: what is written for one unit is a `Piece`.  The reader's place in the text only
serves its errors, so the lemmas about a run leave it open.  Pieces of which there are none
are left out of a phrase and add nothing, so the sum is worked out over all nine of them.
-/
import ClusterAgent.Proofs.Decimal.Digits
import ClusterAgent.Time.Span.Phrase
import Mathlib

namespace ClusterAgent.Span

open ClusterAgent.Decimal ClusterAgent.Text

/-! ### Sums -/

theorem word_eq_ok {n : Nat} (h : n < UInt64.size) : word n = .ok n := if_pos h

theorem word_bind {α : Type} {n : Nat} (h : n < UInt64.size) (f : Nat → Except Fault α) :
    word n >>= f = f n := by
  rw [word_eq_ok h]
  rfl

theorem ofParts?_eq_some {seconds nanos n : Nat} (h : n < limit)
    (hn : seconds * nanosPerSecond + nanos = n) : ofParts? seconds nanos = some ⟨n, h⟩ := by
  subst hn
  exact dif_pos h

theorem nanos_eq (d : Span) : d.nanos = d.seconds * nanosPerSecond + d.subsecond :=
  (Nat.div_add_mod' d.nanos nanosPerSecond).symm

theorem subsecond_lt (d : Span) : d.subsecond < nanosPerSecond := Nat.mod_lt _ (by decide)

/-- A sum that is a span is exact, whatever is carried on the way. -/
theorem extend_eq_ok {d : Span} {s n : Nat} (h : d.nanos + s * nanosPerSecond + n < limit)
    (hn : d.subsecond + n < UInt64.size) :
    extend d s n = .ok ⟨d.nanos + s * nanosPerSecond + n, h⟩ := by
  have hd := d.nanos_eq
  have hcarry := Nat.div_add_mod' (d.subsecond + n) nanosPerSecond
  have hlimit : limit = UInt64.size * nanosPerSecond := rfl
  have habove : d.seconds + (s + (d.subsecond + n) / nanosPerSecond) < UInt64.size := by
    refine Nat.lt_of_mul_lt_mul_right (a := nanosPerSecond) ?_
    rw [Nat.add_mul, Nat.add_mul]
    omega
  unfold extend
  rw [word_bind hn]
  by_cases hcarried : nanosPerSecond < d.subsecond + n
  · have hparts : ofParts? (d.seconds + (s + (d.subsecond + n) / nanosPerSecond))
        ((d.subsecond + n) % nanosPerSecond) = some ⟨_, h⟩ :=
      ofParts?_eq_some h (by rw [Nat.add_mul, Nat.add_mul]; omega)
    simp only [if_pos hcarried]
    rw [word_bind (Nat.lt_of_le_of_lt (Nat.le_add_left _ _) habove), word_bind habove, hparts]
  · -- exactly one second of nanoseconds is carried only here, when the span is put together
    have hparts : ofParts? (d.seconds + s) (d.subsecond + n) = some ⟨_, h⟩ :=
      ofParts?_eq_some h (by rw [Nat.add_mul]; omega)
    have hsum : d.seconds + s < UInt64.size :=
      Nat.lt_of_le_of_lt (Nat.add_le_add_left (Nat.le_add_right _ _) _) habove
    simp only [if_neg hcarried, Nat.add_zero]
    rw [word_bind (Nat.lt_of_le_of_lt (Nat.le_add_left _ _) hsum), word_bind hsum, hparts]

theorem Unit.nanos_eq_seconds {u : Unit} (h : ¬ u.nanos < nanosPerSecond) :
    u.nanos / nanosPerSecond * nanosPerSecond = u.nanos := by
  cases u <;> first | rfl | exact absurd (by decide) h

theorem extendWhole_eq_ok {d : Span} {n : Nat} {u : Unit} (h : d.nanos + n * u.nanos < limit)
    (hn : u.nanos < nanosPerSecond → n * u.nanos < nanosPerSecond) :
    extendWhole d n u = .ok ⟨d.nanos + n * u.nanos, h⟩ := by
  have hsize : 2 * nanosPerSecond < UInt64.size := by decide
  have hlimit : limit = UInt64.size * nanosPerSecond := rfl
  unfold extendWhole
  split
  · rename_i hsmall
    have hlt := hn hsmall
    have hsub := d.subsecond_lt
    rw [word_bind (by omega), extend_eq_ok (by omega) (by omega)]
    simp only [Nat.zero_mul, Nat.add_zero]
  · rename_i hlarge
    have hunit : n * (u.nanos / nanosPerSecond) * nanosPerSecond = n * u.nanos := by
      rw [Nat.mul_assoc, Unit.nanos_eq_seconds hlarge]
    have hword : n * (u.nanos / nanosPerSecond) < UInt64.size := by
      refine Nat.lt_of_mul_lt_mul_right (a := nanosPerSecond) ?_
      omega
    have hsub := d.subsecond_lt
    rw [word_bind hword, extend_eq_ok (by omega) (by omega)]
    simp only [hunit, Nat.add_zero]

/-! ### Pieces -/

/-- A number of units, with the name given to the unit. -/
structure Piece where
  count : Nat
  name : String
  unit : Unit

namespace Piece

def text (p : Piece) : String := toString p.count ++ p.name

/-- What a piece is worth. -/
def nanos (p : Piece) : Nat := p.count * p.unit.nanos

/-- The name is one of the unit, the number fits the reader, and what is counted in less than
seconds stays below a second. -/
structure Readable (p : Piece) : Prop where
  named : Unit.ofName? p.name = some p.unit
  fits : p.count < UInt64.size
  small : p.unit.nanos < nanosPerSecond → p.nanos < nanosPerSecond

end Piece

/-! ### Reading a piece -/

/-- The code points of the letters. -/
theorem toNat_of_isUnitLetter {c : Char} (h : isUnitLetter c = true) :
    65 ≤ c.toNat ∧ c.toNat ≤ 90 ∨ 97 ≤ c.toNat ∧ c.toNat ≤ 122 ∨ c.toNat = 181 := by
  simp only [isUnitLetter, Char.isAlpha, Char.isUpper, Char.isLower, Bool.or_eq_true,
    Bool.and_eq_true, decide_eq_true_eq, beq_iff_eq, UInt32.le_iff_toNat_le, ge_iff_le] at h
  rcases h with (h | h) | rfl
  · exact .inl h
  · exact .inr (.inl h)
  · exact .inr (.inr rfl)

theorem not_isDigit_of_isUnitLetter {c : Char} (h : isUnitLetter c = true) :
    c.isDigit = false := by
  have hcode := toNat_of_isUnitLetter h
  rw [Bool.eq_false_iff]
  intro hdigit
  simp only [Char.isDigit, Bool.and_eq_true, decide_eq_true_eq, UInt32.le_iff_toNat_le,
    ge_iff_le] at hdigit
  have hle : c.toNat ≤ 57 := hdigit.2
  omega

theorem not_isBlank_of_isUnitLetter {c : Char} (h : isUnitLetter c = true) :
    isBlank c = false := by
  have hcode := toNat_of_isUnitLetter h
  simp only [isBlank, blankRanges, List.any_cons, List.any_nil, Bool.or_false, Bool.or_eq_false_iff,
    Bool.and_eq_false_iff, decide_eq_false_iff_not]
  omega

/-- Every name of a unit is made of letters. -/
theorem isUnitLetter_of_ofName? {name : String} {u : Unit} (h : Unit.ofName? name = some u) :
    name.toList ≠ [] ∧ ∀ c ∈ name.toList, isUnitLetter c = true := by
  have hname : name ∈ ["nanos", "nsec", "ns", "usec", "us", "µs", "millis", "msec", "ms",
      "seconds", "second", "secs", "sec", "s", "minutes", "minute", "min", "mins", "m", "hours",
      "hour", "hrs", "hr", "h", "days", "day", "d", "weeks", "week", "wk", "wks", "w", "months",
      "month", "M", "years", "year", "yr", "yrs", "y"] := by
    by_contra hnone
    simp only [List.mem_cons, List.not_mem_nil, or_false, not_or] at hnone
    simp [Unit.ofName?, hnone] at h
  rw [← List.all_eq_true]
  clear h
  revert name
  decide

theorem run_digits (sum : Span) (rest : List Char) {cs : List Char} {n k : Nat}
    (hcs : ∀ c ∈ cs, c.isDigit = true) (hfits : Nat.ofDigitChars 10 cs n < UInt64.size) :
    ∃ k', run k (sum, .whole n) (cs ++ rest) =
      run k' (sum, .whole (Nat.ofDigitChars 10 cs n)) rest := by
  induction cs generalizing n k with
  | nil => exact ⟨k, rfl⟩
  | cons c cs ih =>
    rw [List.forall_mem_cons] at hcs
    rw [Nat.ofDigitChars_cons] at hfits ⊢
    have hle := le_ofDigitChars cs (10 * n + (c.toNat - '0'.toNat))
    have hdigit : snocDigit n c = .ok (10 * n + (c.toNat - '0'.toNat)) := by
      unfold snocDigit
      rw [word_bind (by omega), word_eq_ok (by omega), Nat.mul_comm]
    obtain ⟨k', hrun⟩ := ih (k := k + c.utf8Size) hcs.2 hfits
    refine ⟨k', Eq.trans ?_ hrun⟩
    rw [List.cons_append, run, step, if_pos hcs.1, hdigit]
    rfl

theorem run_name (sum : Span) (a : Amount) (name rest : List Char) {cs : List Char} {k : Nat}
    (hcs : ∀ c ∈ cs, isUnitLetter c = true) :
    ∃ k', run k (sum, .unit a name) (cs ++ rest) = run k' (sum, .unit a (name ++ cs)) rest := by
  induction cs generalizing name k with
  | nil => exact ⟨k, by rw [List.append_nil, List.nil_append]⟩
  | cons c cs ih =>
    rw [List.forall_mem_cons] at hcs
    obtain ⟨k', hrun⟩ := ih (name ++ [c]) (k := k + c.utf8Size) hcs.2
    refine ⟨k', Eq.trans ?_ (hrun.trans (by rw [List.append_assoc, List.singleton_append]))⟩
    rw [List.cons_append, run, step, not_isDigit_of_isUnitLetter hcs.1,
      not_isBlank_of_isUnitLetter hcs.1, hcs.1]
    rfl

theorem run_piece (sum : Span) (rest : List Char) (first : Bool) (start : Nat) {p : Piece} {k : Nat}
    (hp : p.Readable) :
    ∃ k', run k (sum, .between first start) (p.text.toList ++ rest) =
      run k' (sum, .unit ⟨p.count, none⟩ p.name.toList) rest := by
  obtain ⟨hne, hletters⟩ := isUnitLetter_of_ofName? hp.named
  obtain ⟨l, letters, hname⟩ := List.exists_cons_of_ne_nil hne
  obtain ⟨c, cs, hdigits, -, -⟩ := exists_cons_toString p.count
  have hall : ∀ c ∈ (toString p.count).toList, c.isDigit = true := fun _ => isDigit_of_mem_toString
  have hvalue := ofDigitChars_toString p.count
  rw [hdigits, List.forall_mem_cons] at hall
  rw [hdigits, Nat.ofDigitChars_cons, Nat.mul_zero, Nat.zero_add] at hvalue
  rw [hname, List.forall_mem_cons] at hletters
  obtain ⟨k₁, hrun₁⟩ := run_digits sum (l :: (letters ++ rest))
    (k := k + c.utf8Size) hall.2 (hvalue ▸ hp.fits)
  obtain ⟨k₂, hrun₂⟩ := run_name sum ⟨p.count, none⟩ [l] rest (k := k₁ + l.utf8Size) hletters.2
  refine ⟨k₂, ?_⟩
  have htext : p.text.toList ++ rest = c :: (cs ++ l :: (letters ++ rest)) := by
    rw [Piece.text, String.toList_append, hdigits, hname]
    simp only [List.cons_append, List.append_assoc]
  rw [htext, run, step, if_pos hall.1]
  dsimp only
  rw [hrun₁, hvalue, run, step, not_isDigit_of_isUnitLetter hletters.1,
    not_isBlank_of_isUnitLetter hletters.1, hletters.1]
  exact hrun₂.trans (by rw [hname, List.singleton_append])

theorem extendNamed_piece {sum : Span} {p : Piece} (hp : p.Readable)
    (h : sum.nanos + p.nanos < limit) :
    extendNamed sum ⟨p.count, none⟩ p.name.toList = .ok ⟨sum.nanos + p.nanos, h⟩ := by
  unfold extendNamed
  rw [String.ofList_toList, hp.named]
  exact congrArg (· >>= _) (extendWhole_eq_ok h hp.small)

/-- Reading a phrase is adding its pieces. -/
theorem run_pieces {sum : Span} {p : Piece} {ps : List Piece} {first : Bool} {start k : Nat}
    (hps : ∀ q ∈ p :: ps, q.Readable)
    (h : sum.nanos + ((p :: ps).map Piece.nanos).sum < limit) :
    run k (sum, .between first start) (" ".intercalate ((p :: ps).map Piece.text)).toList =
      .ok ⟨sum.nanos + ((p :: ps).map Piece.nanos).sum, h⟩ := by
  -- By induction on the pieces: a unit is added when the blank after it comes, or the end.
  induction ps generalizing p sum first start k with
  | nil =>
    have hp := hps p List.mem_cons_self
    obtain ⟨k', hrun⟩ := run_piece sum [] first start (k := k) hp
    rw [List.append_nil] at hrun
    simp only [List.map_cons, List.map_nil, List.sum_cons, List.sum_nil, Nat.add_zero,
      String.intercalate_singleton] at h ⊢
    rw [hrun, run, finish, extendNamed_piece hp h]
  | cons q ps ih =>
    rw [List.forall_mem_cons] at hps
    rw [List.map_cons, List.sum_cons, ← Nat.add_assoc] at h
    have hp : sum.nanos + p.nanos < limit := Nat.lt_of_le_of_lt (Nat.le_add_right _ _) h
    obtain ⟨k', hrun⟩ := run_piece sum
      (' ' :: (" ".intercalate ((q :: ps).map Piece.text)).toList) first start (k := k) hps.1
    have hspace : step sum ' ' k' (.unit ⟨p.count, none⟩ p.name.toList) =
        .ok (⟨sum.nanos + p.nanos, hp⟩, .between false (k' + ' '.utf8Size)) := by
      show (extendNamed sum ⟨p.count, none⟩ p.name.toList).map _ = _
      rw [extendNamed_piece hps.1 hp]
      rfl
    have htext : (" ".intercalate ((p :: q :: ps).map Piece.text)).toList =
        p.text.toList ++ ' ' :: (" ".intercalate ((q :: ps).map Piece.text)).toList := by
      simp only [List.map_cons, String.intercalate_cons_cons, String.toList_append,
        List.append_assoc]
      rfl
    rw [htext, hrun, run, hspace]
    dsimp only
    rw [ih hps.2 h]
    simp only [List.map_cons, List.sum_cons, Nat.add_assoc]

/-- A phrase of pieces is read as their sum. -/
theorem ofPhrase_pieces {ps : List Piece} (hne : ps ≠ []) (hps : ∀ p ∈ ps, p.Readable)
    (h : (ps.map Piece.nanos).sum < limit) :
    ofPhrase (" ".intercalate (ps.map Piece.text)) = .ok ⟨(ps.map Piece.nanos).sum, h⟩ := by
  obtain ⟨p, ps, rfl⟩ := List.exists_cons_of_ne_nil hne
  have hrun : ∀ k, run k (zero, .between true 0)
      (" ".intercalate ((p :: ps).map Piece.text)).toList = .ok ⟨_, h⟩ := by
    intro k
    rw [run_pieces hps (by rw [zero, Nat.zero_add]; exact h)]
    simp only [zero, Nat.zero_add]
  unfold ofPhrase
  split
  · -- A lone number has no unit, and a piece has one.
    rename_i hlone
    have hzero := hrun 0
    rw [hlone] at hzero
    cases hzero
  · exact hrun 0

/-! ### The phrase of a span -/

/-- How many of a unit the phrase of a span has; there are no weeks in it. -/
def Unit.count (d : Span) : Unit → Nat
  | .year => d.seconds / 31557600
  | .month => d.seconds % 31557600 / 2630016
  | .week => 0
  | .day => d.seconds % 31557600 % 2630016 / 86400
  | .hour => d.seconds % 31557600 % 2630016 % 86400 / 3600
  | .minute => d.seconds % 31557600 % 2630016 % 86400 % 3600 / 60
  | .second => d.seconds % 31557600 % 2630016 % 86400 % 60
  | .millisecond => d.subsecond / 1000000
  | .microsecond => d.subsecond / 1000 % 1000
  | .nanosecond => d.subsecond % 1000

/-- The name a phrase gives to that many of a unit. -/
def Unit.name (n : Nat) : Unit → String
  | .year => "year" ++ if n > 1 then "s" else ""
  | .month => "month" ++ if n > 1 then "s" else ""
  | .week => "week" ++ if n > 1 then "s" else ""
  | .day => "day" ++ if n > 1 then "s" else ""
  | .hour => "h"
  | .minute => "m"
  | .second => "s"
  | .millisecond => "ms"
  | .microsecond => "us"
  | .nanosecond => "ns"

/-- The units of a phrase, the longest first. -/
def phraseUnits : List Unit :=
  [.year, .month, .day, .hour, .minute, .second, .millisecond, .microsecond, .nanosecond]

/-- As many pieces as there are units, also where there are none of one. -/
def pieces (count : Unit → Nat) : List Piece :=
  phraseUnits.map fun u => ⟨count u, u.name (count u), u⟩

/-- The pieces of which there are some. -/
def shown (ps : List Piece) : List Piece := ps.filter (·.count ≠ 0)

theorem sum_shown (ps : List Piece) :
    ((shown ps).map Piece.nanos).sum = (ps.map Piece.nanos).sum := by
  induction ps with
  | nil => rfl
  | cons p ps ih =>
    rw [shown, List.filter_cons]
    split
    · rw [List.map_cons, List.map_cons, List.sum_cons, List.sum_cons, ← shown, ih]
    · rename_i hnone
      have hzero : p.count = 0 := by simpa using hnone
      rw [← shown, ih, List.map_cons, List.sum_cons, Piece.nanos, hzero, Nat.zero_mul, Nat.zero_add]

theorem sum_pieces (count : Unit → Nat) :
    ((pieces count).map Piece.nanos).sum =
      (count .year * 31557600 + count .month * 2630016 + count .day * 86400 + count .hour * 3600 +
        count .minute * 60 + count .second) * nanosPerSecond +
      (count .millisecond * 1000000 + count .microsecond * 1000 + count .nanosecond) := by
  have hworth : (pieces count).map Piece.nanos = phraseUnits.map fun u => count u * u.nanos :=
    List.map_map
  have hsum (f : Unit → Nat) : (phraseUnits.map f).sum = f .year + f .month + f .day + f .hour +
      f .minute + f .second + f .millisecond + f .microsecond + f .nanosecond := by
    simp only [phraseUnits, List.map_cons, List.map_nil, List.sum_cons, List.sum_nil]
    ring
  rw [hworth, hsum]
  simp only [Unit.nanos]
  ring

theorem seconds_eq_count (d : Span) :
    Unit.count d .year * 31557600 + Unit.count d .month * 2630016 + Unit.count d .day * 86400 +
      Unit.count d .hour * 3600 + Unit.count d .minute * 60 + Unit.count d .second = d.seconds := by
  have hyear : Unit.count d .year = d.seconds / 31557600 := rfl
  have hmonth : Unit.count d .month = d.seconds % 31557600 / 2630016 := rfl
  have hday : Unit.count d .day = d.seconds % 31557600 % 2630016 / 86400 := rfl
  have hhour : Unit.count d .hour = d.seconds % 31557600 % 2630016 % 86400 / 3600 := rfl
  have hminute : Unit.count d .minute =
      d.seconds % 31557600 % 2630016 % 86400 % 3600 / 60 := rfl
  have hsecond : Unit.count d .second = d.seconds % 31557600 % 2630016 % 86400 % 60 := rfl
  omega

theorem subsecond_eq_count (d : Span) :
    Unit.count d .millisecond * 1000000 + Unit.count d .microsecond * 1000 +
      Unit.count d .nanosecond = d.subsecond := by
  have hmilli : Unit.count d .millisecond = d.subsecond / 1000000 := rfl
  have hmicro : Unit.count d .microsecond = d.subsecond / 1000 % 1000 := rfl
  have hnano : Unit.count d .nanosecond = d.subsecond % 1000 := rfl
  omega

/-- Years, months, days and the rest make up the span. -/
theorem sum_pieces_count (d : Span) :
    ((pieces (Unit.count d)).map Piece.nanos).sum = d.nanos := by
  rw [sum_pieces, seconds_eq_count, subsecond_eq_count, ← d.nanos_eq]

theorem ofName?_name (n : Nat) (u : Unit) : Unit.ofName? (u.name n) = some u := by
  cases u <;> simp only [Unit.name] <;> first | rfl | (split <;> rfl)

theorem readable_of_mem_pieces {d : Span} {p : Piece} (h : p ∈ pieces (Unit.count d)) :
    p.Readable := by
  have hseconds := seconds_eq_count d
  have hsubsecond := subsecond_eq_count d
  have hsize : d.seconds < UInt64.size :=
    Nat.div_lt_of_lt_mul (by rw [Nat.mul_comm]; exact d.lt_limit)
  have hlt : d.subsecond < 1000000000 := d.subsecond_lt
  have hword : 1000000000 < UInt64.size := by decide
  obtain ⟨u, hu, rfl⟩ := List.mem_map.mp h
  -- No count is larger than all the seconds, or all the nanoseconds of one.
  refine ⟨ofName?_name _ u, ?_, ?_⟩
  · show Unit.count d u < UInt64.size
    simp only [phraseUnits, List.mem_cons, List.not_mem_nil, or_false] at hu
    rcases hu with rfl | rfl | rfl | rfl | rfl | rfl | rfl | rfl | rfl <;> omega
  · show u.nanos < 1000000000 → Unit.count d u * u.nanos < 1000000000
    intro hsmall
    have hthree : u = .millisecond ∨ u = .microsecond ∨ u = .nanosecond := by
      revert hsmall hu
      cases u <;> decide
    rcases hthree with rfl | rfl | rfl
    · show Unit.count d .millisecond * 1000000 < 1000000000
      omega
    · show Unit.count d .microsecond * 1000 < 1000000000
      omega
    · show Unit.count d .nanosecond * 1 < 1000000000
      omega

theorem part_append (n : Nat) (name : String) (several : Bool) (u : Unit) (ps : List Piece) :
    part n name several ++ (shown ps).map Piece.text =
      (shown (⟨n, name ++ if several && n > 1 then "s" else "", u⟩ :: ps)).map Piece.text := by
  rw [part, shown, shown, List.filter_cons]
  by_cases hn : n = 0
  · simp [hn]
  · simp [hn, Piece.text, String.append_assoc]

theorem parts_eq (count : Unit → Nat) :
    part (count .year) "year" true ++ part (count .month) "month" true ++
      part (count .day) "day" true ++ part (count .hour) "h" false ++
      part (count .minute) "m" false ++ part (count .second) "s" false ++
      part (count .millisecond) "ms" false ++ part (count .microsecond) "us" false ++
      part (count .nanosecond) "ns" false = (shown (pieces count)).map Piece.text := by
  have hlast : part (count .nanosecond) "ns" false =
      part (count .nanosecond) "ns" false ++ (shown []).map Piece.text := (List.append_nil _).symm
  rw [hlast]
  simp only [List.append_assoc]
  rw [part_append _ _ _ .nanosecond, part_append _ _ _ .microsecond, part_append _ _ _ .millisecond,
    part_append _ _ _ .second, part_append _ _ _ .minute, part_append _ _ _ .hour,
    part_append _ _ _ .day, part_append _ _ _ .month, part_append _ _ _ .year]
  simp [pieces, phraseUnits, Unit.name]

theorem phrase_eq (d : Span) :
    d.phrase = if d.isZero then "0s"
      else " ".intercalate ((shown (pieces (Unit.count d))).map Piece.text) := by
  rw [← parts_eq]
  rfl

theorem ofPhrase_phrase (d : Span) : ofPhrase d.phrase = .ok d := by
  rw [phrase_eq]
  split
  · rename_i hzero
    have hnone : d = zero := Span.ext (eq_of_beq hzero)
    rw [hnone]
    rfl
  · rename_i hsome
    have hsum := (sum_shown (pieces (Unit.count d))).trans (sum_pieces_count d)
    have hne : shown (pieces (Unit.count d)) ≠ [] := by
      intro hnil
      rw [hnil] at hsum
      exact hsome (by rw [isZero, ← hsum]; rfl)
    have hlimit : ((shown (pieces (Unit.count d))).map Piece.nanos).sum < limit :=
      hsum ▸ d.lt_limit
    rw [ofPhrase_pieces hne (fun p hp => readable_of_mem_pieces (List.mem_of_mem_filter hp)) hlimit]
    exact congrArg Except.ok (Span.ext hsum)

end ClusterAgent.Span
