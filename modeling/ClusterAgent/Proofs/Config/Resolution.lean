/-
Flags are resolved exactly.

The startup parameters have nine conditions to meet, and are told of those that they do
not meet in the order of the list.  Parameters that meet all of them stand for one
configuration, and are resolved to it.

* `Decimal.IsPositive` — the doubles above zero, infinity aside; `Flags.rateOk_iff` — these
  and no others are taken for a rate;
* `Condition`, `Condition.all` — what has to hold, and what is said if it does not;
* `Configuration.Reflects` — the configuration that some parameters stand for;
* `Flags.resolution_exact` — resolving fails with a violation for each condition that does
  not hold, or gives that configuration.

Design notes: doubles are compared as bits, sign, exponent and fraction, so that the two
infinities, the two zeros, the least doubles and what is not a number need no care of
their own.
-/
import ClusterAgent.Config.Configuration
import Mathlib

namespace ClusterAgent

/-! ### Doubles above zero -/

namespace Decimal

open Float.Model

/-- A double above zero and below infinity: plus `m · 2^q`, with an `m` above zero. -/
def IsPositive (x : Float) : Prop :=
  isFinite x = true ∧ isNegative x = false ∧ 0 < (Binary.ofFloat x).mantissa

instance (x : Float) : Decidable (IsPositive x) :=
  inferInstanceAs (Decidable (_ ∧ _ ∧ _))

section

variable (x : Float)

def signBit : Nat := x.toBits.toNat / 2 ^ 63 % 2

def exponentField : Nat := x.toBits.toNat / 2 ^ 52 % 2 ^ 11

def fractionField : Nat := x.toBits.toNat % 2 ^ 52

theorem exponentField_eq : ((x.toBits >>> 52) &&& 0x7ff).toNat = exponentField x := by
  have hmod := Nat.and_two_pow_sub_one_eq_mod (x.toBits.toNat >>> 52) 11
  simpa [exponentField, Nat.shiftRight_eq_div_pow] using hmod

theorem fractionField_eq : (x.toBits &&& 0xfffffffffffff).toNat = fractionField x := by
  have hmod := Nat.and_two_pow_sub_one_eq_mod x.toBits.toNat 52
  simpa [fractionField] using hmod

theorem isFinite_iff : isFinite x = true ↔ exponentField x ≠ 2 ^ 11 - 1 := by
  rw [← exponentField_eq, isFinite, bne_iff_ne, ne_eq, ← UInt64.toNat_inj]
  rfl

theorem isNegative_eq_false_iff : isNegative x = false ↔ signBit x ≠ 1 := by
  have hlt : x.toBits.toNat < 2 ^ 64 := x.toBits.toNat_lt
  have hsign : (x.toBits >>> 63).toNat = signBit x := by
    rw [signBit, Nat.mod_eq_of_lt (by omega)]
    simp [Nat.shiftRight_eq_div_pow]
  rw [← hsign, isNegative, beq_eq_false_iff_ne, ne_eq, ← UInt64.toNat_inj]
  rfl

theorem mantissa_pos_iff :
    0 < (Binary.ofFloat x).mantissa ↔ exponentField x ≠ 0 ∨ fractionField x ≠ 0 := by
  rw [Binary.ofFloat]
  simp only [exponentField_eq, fractionField_eq]
  split
  · rename_i hzero
    simp [hzero, Nat.pos_iff_ne_zero]
  · rename_i hnonzero
    exact iff_of_true (Nat.add_pos_left (by decide) _) (.inl hnonzero)

/-- A finite double that is not zero is above zero if its sign is plus. -/
theorem zero_lt_finite_iff (s : BitVec 1) (m : Nat) (q : Int) (hm : 0 < m) :
    (UnpackedFloat.zero .positive).lt (.finite (.ofBitVec s) m q hm) = true ↔ s.toNat ≠ 1 := by
  rcases BitVec.eq_zero_or_eq_one s with rfl | rfl
  · exact iff_of_true rfl (by decide)
  · exact iff_of_false Bool.false_ne_true (by decide)

theorem zero_lt_iff (h : exponentField x ≠ 2 ^ 11 - 1) :
    0 < x ↔ signBit x ≠ 1 ∧ (exponentField x ≠ 0 ∨ fractionField x ≠ 0) := by
  have hexponent : (@UnpackedFloat.unpackExponent Format.binary64
      x.toBits.toBitVec).toNat = exponentField x := by
    simp [UnpackedFloat.unpackExponent, exponentField, Nat.shiftRight_eq_div_pow]
  have hfraction : (@UnpackedFloat.unpackMantissa Format.binary64
      x.toBits.toBitVec).toNat = fractionField x := by
    simp [UnpackedFloat.unpackMantissa, fractionField]
  have hsign : (@UnpackedFloat.unpackSign Format.binary64
      x.toBits.toBitVec).toNat = signBit x := by
    simp [UnpackedFloat.unpackSign, signBit, Nat.shiftRight_eq_div_pow]
  have hlt : 0 < x ↔ (UnpackedFloat.zero .positive).lt
      (UnpackedFloat.unpack Format.binary64 x.toBits.toBitVec) = true :=
    decide_eq_true_iff
  rw [hlt, ← hsign, UnpackedFloat.unpack]
  split
  · -- All ones are infinities and what is not a number.
    rename_i hones
    rw [hones] at hexponent
    exact absurd hexponent.symm h
  · split
    · rename_i hzero
      have hexponent0 : exponentField x = 0 := by rw [← hexponent, hzero]; rfl
      split
      · rename_i hnone
        have hfraction0 : fractionField x = 0 := by rw [← hfraction, hnone]; rfl
        exact iff_of_false Bool.false_ne_true (by simp [hexponent0, hfraction0])
      · rename_i hsome
        have hfraction0 : fractionField x ≠ 0 := by
          rw [← hfraction]
          exact fun h0 => hsome (BitVec.eq_of_toNat_eq h0)
        rw [zero_lt_finite_iff]
        simp [hfraction0]
    · rename_i hnonzero
      have hexponent0 : exponentField x ≠ 0 := by
        rw [← hexponent]
        exact fun h0 => hnonzero (BitVec.eq_of_toNat_eq h0)
      rw [zero_lt_finite_iff]
      simp [hexponent0]

end

end Decimal

theorem Flags.rateOk_iff (x : Float) : Flags.rateOk x = true ↔ Decimal.IsPositive x := by
  rw [Flags.rateOk, Bool.and_eq_true, decide_eq_true_iff]
  refine and_congr_right fun hfinite => ?_
  rw [Decimal.zero_lt_iff x ((Decimal.isFinite_iff x).mp hfinite),
    Decimal.isNegative_eq_false_iff, Decimal.mantissa_pos_iff]

/-! ### Conditions -/

/-- The parameter that a violation is about. -/
def Violation.flag : Violation → Flag
  | rate flag _ | zeroBurst flag | zeroSpan flag => flag
  | zeroWorkers => .workers
  | bindAddress _ => .debugAddr

theorem Violation.message_names (v : Violation) : ∃ rest, v.message = v.flag.long ++ rest := by
  cases v with
  | rate flag value =>
    exact ⟨" must be a finite number greater than zero, got " ++ Decimal.plain.write value,
      String.append_assoc ..⟩
  | zeroBurst flag => exact ⟨_, rfl⟩
  | zeroWorkers => exact ⟨" must be at least 1", by decide⟩
  | zeroSpan flag => exact ⟨_, rfl⟩
  | bindAddress value =>
    exact ⟨" " ++ Text.quote value ++ " is not a valid bind address", by
      simp only [message, ← String.append_assoc]
      rfl⟩

/-- A condition on the startup parameters, and what is said if it does not hold. -/
structure Condition where
  Holds : Flags → Prop
  violation : Flags → Violation
  decidable : DecidablePred Holds

namespace Condition

instance (c : Condition) : DecidablePred c.Holds := c.decidable

/-- A rate is finite and above zero. -/
def rate (flag : Flag) (value : Flags → Float) : Condition :=
  ⟨fun f => Decimal.IsPositive (value f), fun f => .rate flag (value f), fun _ => inferInstance⟩

/-- A burst is at least one. -/
def burst (flag : Flag) (value : Flags → UInt32) : Condition :=
  ⟨fun f => 1 ≤ value f, fun _ => .zeroBurst flag, fun _ => inferInstance⟩

/-- There is a worker. -/
def workers : Condition := ⟨fun f => 1 ≤ f.workers, fun _ => .zeroWorkers, fun _ => inferInstance⟩

/-- A span is not empty. -/
def span (flag : Flag) (value : Flags → Span) : Condition :=
  ⟨fun f => 0 < (value f).nanos, fun _ => .zeroSpan flag, fun _ => inferInstance⟩

/-- The address to listen on can be read. -/
def address : Condition :=
  ⟨fun f => (BindAddress.parse? f.debugAddr).isSome, fun f => .bindAddress f.debugAddr,
    fun _ => inferInstance⟩

/-- All conditions, in the order in which they are told of. -/
def all : List Condition :=
  [rate .clientGoQps (·.clientGoQps), rate .eventsQps (·.eventsQps),
    burst .clientGoBurst (·.clientGoBurst), burst .eventsBurst (·.eventsBurst), workers,
    span .discoveryInterval (·.discoveryInterval), span .cacheFlushInterval (·.cacheFlushInterval),
    span .shutdownGrace (·.shutdownGrace), address]

/-- What is said about one condition. -/
def told (f : Flags) (c : Condition) : List Violation :=
  if c.Holds f then [] else [c.violation f]

theorem flatMap_told (f : Flags) (cs : List Condition) :
    cs.flatMap (told f) = (cs.filter (¬ ·.Holds f)).map (·.violation f) := by
  induction cs with
  | nil => rfl
  | cons c cs ih =>
    rw [List.flatMap_cons, ih, told]
    by_cases hholds : c.Holds f <;> simp [hholds]

variable {f : Flags}

theorem told_rate (flag : Flag) (value : Flags → Float) :
    (rate flag value).told f = if Flags.rateOk (value f) then [] else [.rate flag (value f)] :=
  if_congr (Flags.rateOk_iff _).symm rfl rfl

theorem told_burst (flag : Flag) (value : Flags → UInt32) :
    (burst flag value).told f = if value f != 0 then [] else [.zeroBurst flag] := by
  have hburst : 1 ≤ value f ↔ (value f != 0) = true := by
    rw [bne_iff_ne, ne_eq, ← UInt32.toNat_inj, UInt32.le_iff_toNat_le]
    exact Nat.one_le_iff_ne_zero
  exact if_congr hburst rfl rfl

theorem told_workers : workers.told f = if f.workers != 0 then [] else [.zeroWorkers] := by
  have hworkers : 1 ≤ f.workers ↔ (f.workers != 0) = true := by
    rw [bne_iff_ne, ne_eq, ← UInt64.toNat_inj, UInt64.le_iff_toNat_le]
    exact Nat.one_le_iff_ne_zero
  exact if_congr hworkers rfl rfl

theorem told_span (flag : Flag) (value : Flags → Span) :
    (span flag value).told f = if !(value f).isZero then [] else [.zeroSpan flag] := by
  have hspan : 0 < (value f).nanos ↔ (!(value f).isZero) = true := by
    simp [Span.isZero, Nat.pos_iff_ne_zero]
  exact if_congr hspan rfl rfl

end Condition

/-! ### Resolving -/

namespace Flags

variable (f : Flags)

/-- The conditions that do not hold, in the order of the list. -/
def broken : List Condition := Condition.all.filter (¬ ·.Holds f)

theorem violations_eq : f.violations = f.broken.map (·.violation f) := by
  rw [broken, ← Condition.flatMap_told]
  simp only [Condition.all, List.flatMap_cons, List.flatMap_nil, List.append_nil,
    Condition.told_rate, Condition.told_burst, Condition.told_workers, Condition.told_span]
  simp only [violations, List.append_assoc]
  rfl

theorem violations_eq_nil_iff : f.violations = [] ↔ f.broken = [] := by
  rw [violations_eq, List.map_eq_nil_iff]

end Flags

/-- The configuration that some parameters stand for. -/
structure Configuration.Reflects (c : Configuration) (f : Flags) : Prop where
  ambient : c.credentials = .ambient ↔ f.clientConfigPath = ""
  explicit : ∀ path, c.credentials = .explicit path → path = f.clientConfigPath
  discoveryInterval : c.discoveryInterval = f.discoveryInterval
  cacheFlushInterval : c.cacheFlushInterval = f.cacheFlushInterval
  shutdownGrace : c.shutdownGrace = f.shutdownGrace
  debugAddr : some c.debugAddr = BindAddress.parse? f.debugAddr
  workers : c.workers = f.workers
  clientRate : c.clientRate = ⟨f.clientGoQps, f.clientGoBurst⟩
  eventRate : c.eventRate = ⟨f.eventsQps, f.eventsBurst⟩
  options : c.controllerOptions =
    ⟨f.discoveryInterval, f.cacheFlushInterval, f.workers.toNat, ⟨f.eventsQps, f.eventsBurst⟩⟩

namespace Flags

variable {f : Flags} {c : Configuration}

theorem reflects_of_resolve (h : f.resolve = .ok c) : c.Reflects f := by
  unfold resolve at h
  split at h
  · cases h
  · split at h
    · cases h
    · rename_i haddress
      cases h
      have hambient : f.credentials = .ambient ↔ f.clientConfigPath = "" := by
        rw [credentials]
        split <;> simp [*]
      have hexplicit (path : String) (he : f.credentials = .explicit path) :
          path = f.clientConfigPath := by
        rw [credentials] at he
        split at he <;> cases he
        rfl
      exact ⟨hambient, hexplicit, rfl, rfl, rfl, haddress.symm, rfl, rfl, rfl, rfl⟩

theorem credentials_eq_of_reflects (h : c.Reflects f) : c.credentials = f.credentials := by
  rw [credentials]
  split
  · rename_i hempty
    exact h.ambient.mpr hempty
  · rename_i hpath
    cases hc : c.credentials with
    | explicit path => rw [h.explicit path hc]
    | ambient => exact absurd (h.ambient.mp hc) hpath

/-- Parameters stand for one configuration at most. -/
theorem eq_of_reflects {c' : Configuration} (h : c.Reflects f) (h' : c'.Reflects f) : c = c' := by
  have hcredentials := (credentials_eq_of_reflects h).trans (credentials_eq_of_reflects h').symm
  have haddress := Option.some.inj (h.debugAddr.trans h'.debugAddr.symm)
  obtain ⟨-, -, hd, hc, hg, -, hw, hr, he, -⟩ := h
  obtain ⟨-, -, hd', hc', hg', -, hw', hr', he', -⟩ := h'
  cases c
  cases c'
  simp_all

theorem resolve_eq_ok_iff (f : Flags) (c : Configuration) :
    f.resolve = .ok c ↔ f.broken = [] ∧ c.Reflects f := by
  rw [← violations_eq_nil_iff]
  constructor
  · intro h
    exact ⟨violations_eq_nil_of_resolve h, reflects_of_resolve h⟩
  · rintro ⟨hnone, hreflects⟩
    obtain ⟨c', hresolve⟩ := exists_resolve hnone
    rw [hresolve, eq_of_reflects (reflects_of_resolve hresolve) hreflects]

/-- Every condition holds of parameters that are resolved. -/
theorem holds_of_resolve (h : f.resolve = .ok c) {condition : Condition}
    (hmem : condition ∈ Condition.all) : condition.Holds f := by
  by_contra hbroken
  have hsome : condition ∈ f.broken := List.mem_filter.mpr ⟨hmem, decide_eq_true hbroken⟩
  rw [((resolve_eq_ok_iff f c).mp h).1] at hsome
  cases hsome

theorem isPositive_of_resolve (h : f.resolve = .ok c) :
    Decimal.IsPositive c.clientRate.qps ∧ Decimal.IsPositive c.eventRate.qps := by
  have hreflects := reflects_of_resolve h
  rw [hreflects.clientRate, hreflects.eventRate]
  have hclient : Condition.rate .clientGoQps (·.clientGoQps) ∈ Condition.all := by
    simp [Condition.all]
  have hevents : Condition.rate .eventsQps (·.eventsQps) ∈ Condition.all := by
    simp [Condition.all]
  exact ⟨holds_of_resolve h hclient, holds_of_resolve h hevents⟩

/-- Resolving fails with what is said about the conditions that do not hold, one violation for
each in the order of the list, if there is one.  Otherwise the address can be read, and resolving
gives the configuration that the parameters stand for. -/
theorem resolution_exact (f : Flags) :
    (∀ vs, f.resolve = .error vs ↔ f.broken ≠ [] ∧ vs = f.broken.map (·.violation f)) ∧
      (∀ c, f.resolve = .ok c ↔ f.broken = [] ∧ c.Reflects f) ∧
      ((∃ c, f.resolve = .ok c) ↔ f.violations = []) ∧
      (f.violations = [] → (BindAddress.parse? f.debugAddr).isSome) := by
  refine ⟨fun vs => ?_, f.resolve_eq_ok_iff, ⟨?_, exists_resolve⟩,
    parse?_debugAddr_of_violations_eq_nil⟩
  · rw [resolve_eq_error_iff, violations_eq]
    constructor
    · rintro ⟨hsome, rfl⟩
      exact ⟨fun hnone => hsome (List.map_eq_nil_iff.mpr hnone), rfl⟩
    · rintro ⟨hsome, rfl⟩
      exact ⟨fun hnone => hsome (List.map_eq_nil_iff.mp hnone), rfl⟩
  · rintro ⟨c, hresolve⟩
    exact violations_eq_nil_of_resolve hresolve

end Flags

end ClusterAgent
