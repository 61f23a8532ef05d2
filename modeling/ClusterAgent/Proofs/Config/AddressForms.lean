/-
The forms of an address.

An address is a port with a colon before it, and before that nothing, a name, or a literal
between brackets.

* `BindAddress.IsPort` — a port as it may be written, `BindAddress.parsePort?_eq_some_iff`;
* `BindAddress.IsName`, `BindAddress.IsLiteral` — what may stand for a host, without brackets
  around it and between them;
* `BindAddress.Written` — the three forms; what may stand between brackets can be restricted;
* `BindAddress.parse?_iff_written` — what is read is what is written in one of the forms, and
  which part of it has no bracket in its host;
* `BindAddress.parse?_nested_bracket` — a text that is read though brackets are nested in it.

Design notes: a bracket in a name is refused, but nothing looks for one between brackets.  So
the forms leave open what a literal may hold beyond its colon, and the form without brackets
in the host is one of their cases.
-/
import ClusterAgent.Proofs.Config.Addresses

namespace ClusterAgent.BindAddress

open ClusterAgent.Decimal ClusterAgent.Text

/-! ### Ports -/

/-- A port as it may be written: one digit or more that come to it, with a plus sign before
them or not. -/
def IsPort (cs : List Char) (port : UInt16) : Prop :=
  ∃ digits, (cs = digits ∨ cs = '+' :: digits) ∧ digits ≠ [] ∧
    (∀ c ∈ digits, c.isDigit = true) ∧ Nat.ofDigitChars 10 digits 0 = port.toNat

theorem parsePort?_eq_some_iff {cs : List Char} {port : UInt16} :
    parsePort? cs = some port ↔ IsPort cs port := by
  have hread : parsePort? cs = some port ↔ readNatural 65535 cs = .ok port.toNat := by
    rw [parsePort?]
    cases hread : readNatural 65535 cs with
    | ok n =>
      obtain ⟨_, -, -, -, -, hmost⟩ := readNatural_eq_ok_iff.mp hread
      have hsize : n < UInt16.size := Nat.lt_succ_of_le hmost
      rw [Option.some_inj, Except.ok.injEq, ← UInt16.toNat_inj, UInt16.toNat_ofNat_of_lt' hsize]
    | error fault => simp
  have hport : port.toNat ≤ 65535 := Nat.le_of_lt_succ port.toNat_lt
  rw [hread, readNatural_eq_ok_iff, IsPort]
  simp only [hport, and_true]

/-! ### Hosts -/

/-- A host without brackets around it. -/
structure IsName (host : List Char) : Prop where
  ne_nil : host ≠ []
  plain : ∀ c ∈ host, c ≠ ':' ∧ c ≠ '[' ∧ c ≠ ']' ∧ isBlank c = false

/-- A host between brackets. -/
structure IsLiteral (host : List Char) : Prop where
  colon : ':' ∈ host
  not_blank : ∀ c ∈ host, isBlank c = false

/-- There is no bracket in the text. -/
def BracketFree (cs : List Char) : Prop := '[' ∉ cs ∧ ']' ∉ cs

theorem isLiteral_iff {host : List Char} : IsLiteral host ↔ ':' ∈ host ∧ IsHost host :=
  ⟨fun h => ⟨h.colon, List.ne_nil_of_mem h.colon, h.not_blank, .inl h.colon⟩,
    fun h => ⟨h.1, h.2.not_blank⟩⟩

theorem isName_iff {host : List Char} : IsName host ↔ ':' ∉ host ∧ IsHost host := by
  constructor
  · intro h
    have hmem (c : Char) (hc : c = ':' ∨ c = '[' ∨ c = ']') : c ∉ host := by
      rintro hhost
      obtain ⟨hcolon, hopen, hclose, -⟩ := h.plain c hhost
      exact hc.elim hcolon fun hc => hc.elim hopen hclose
    exact ⟨hmem ':' (by decide), h.ne_nil, fun c hc => (h.plain c hc).2.2.2,
      .inr ⟨hmem '[' (by decide), hmem ']' (by decide)⟩⟩
  · rintro ⟨hcolon, hhost⟩
    obtain ⟨hopen, hclose⟩ := hhost.colon_or.resolve_left hcolon
    exact ⟨hhost.ne_nil, fun c hc => ⟨ne_of_mem_of_not_mem hc hcolon, ne_of_mem_of_not_mem hc hopen,
      ne_of_mem_of_not_mem hc hclose, hhost.not_blank c hc⟩⟩

/-! ### The three forms -/

/-- The forms of an address, where between brackets stands only what is allowed there. -/
inductive Written (allowed : List Char → Prop) : List Char → BindAddress → Prop
  /-- Every interface. -/
  | port {digits : List Char} {port : UInt16} (hport : IsPort digits port) :
    Written allowed (':' :: digits) ⟨none, port⟩
  | name {host digits : List Char} {port : UInt16} (hname : IsName host)
    (hport : IsPort digits port) :
    Written allowed (host ++ ':' :: digits) ⟨some (String.ofList host), port⟩
  | literal {host digits : List Char} {port : UInt16} (hliteral : IsLiteral host)
    (hallowed : allowed host) (hport : IsPort digits port) :
    Written allowed ('[' :: (host ++ ']' :: ':' :: digits)) ⟨some (String.ofList host), port⟩

variable {allowed : List Char → Prop} {raw : String} {a : BindAddress}

/-- What is read is written in one of the forms, and what stands between brackets is its host. -/
theorem written_of_parse? (h : parse? raw = some a)
    (hallowed : ∀ host ∈ a.host, ':' ∈ host.toList → allowed host.toList) :
    Written allowed raw.toList a := by
  obtain ⟨⟨digits, hraw, hport⟩, hhost⟩ := parse?_eq_some_iff.mp h
  have hport := parsePort?_eq_some_iff.mp hport
  obtain ⟨host, port⟩ := a
  rw [hraw]
  cases host with
  | none => exact .port hport
  | some host =>
    obtain ⟨host, rfl⟩ : ∃ cs, host = String.ofList cs := ⟨host.toList, String.ofList_toList.symm⟩
    have hishost := hhost _ rfl
    have hallowed := hallowed _ rfl
    show Written allowed (writtenHost (String.ofList host).toList ++ ':' :: digits) _
    rw [String.toList_ofList] at hishost hallowed ⊢
    -- A host with a colon stands between brackets, any other as it is.
    rw [writtenHost]
    split
    · rename_i hcolon
      have hform := Written.literal (isLiteral_iff.mpr ⟨hcolon, hishost⟩) (hallowed hcolon) hport
      simpa using hform
    · rename_i hcolon
      exact .name (isName_iff.mpr ⟨hcolon, hishost⟩) hport

/-- A host that stands as it is written, before a port, is read. -/
theorem parse?_of_host {host digits : List Char} {port : UInt16} (hhost : IsHost host)
    (hport : IsPort digits port) (hraw : raw.toList = writtenHost host ++ ':' :: digits) :
    parse? raw = some ⟨some (String.ofList host), port⟩ := by
  refine parse?_of_parts ?_ (parsePort?_eq_some_iff.mpr hport) ?_
  · show raw.toList = writtenHost (String.ofList host).toList ++ ':' :: digits
    rw [hraw, String.toList_ofList]
  · rintro _ ⟨⟩
    rwa [String.toList_ofList]

/-- What is written in one of the forms is read, and what stands between brackets was allowed. -/
theorem parse?_of_written (h : Written allowed raw.toList a) :
    parse? raw = some a ∧ ∀ host ∈ a.host, ':' ∈ host.toList → allowed host.toList := by
  generalize htext : raw.toList = text at h
  cases h with
  | port hport =>
    exact ⟨parse?_of_parts htext (parsePort?_eq_some_iff.mpr hport) nofun, nofun⟩
  | name hname hport =>
    obtain ⟨hcolon, hhost⟩ := isName_iff.mp hname
    refine ⟨parse?_of_host hhost hport ?_, ?_⟩
    · rw [htext, writtenHost, if_neg hcolon]
    · rintro _ ⟨⟩ hmem
      rw [String.toList_ofList] at hmem
      exact absurd hmem hcolon
  | literal hliteral hallowed hport =>
    obtain ⟨hcolon, hhost⟩ := isLiteral_iff.mp hliteral
    refine ⟨parse?_of_host hhost hport ?_, ?_⟩
    · rw [htext, writtenHost, if_pos hcolon]
      simp
    · rintro _ ⟨⟩ -
      rwa [String.toList_ofList]

theorem written_iff :
    Written allowed raw.toList a ↔
      parse? raw = some a ∧ ∀ host ∈ a.host, ':' ∈ host.toList → allowed host.toList :=
  ⟨parse?_of_written, fun ⟨h, hallowed⟩ => written_of_parse? h hallowed⟩

/-- A host without a colon has no bracket anyway. -/
theorem written_bracketFree_iff :
    Written BracketFree raw.toList a ↔
      parse? raw = some a ∧ ∀ host ∈ a.host, BracketFree host.toList := by
  rw [written_iff]
  refine and_congr_right fun h => forall₂_congr fun host hhost =>
    ⟨fun hfree => ?_, fun hfree _ => hfree⟩
  have hishost := (parts_of_parse? h).2 host hhost
  by_cases hcolon : ':' ∈ host.toList
  · exact hfree hcolon
  · exact hishost.colon_or.resolve_left hcolon

/-- **What is read as an address.**  A text is read exactly if it is written in one of the
forms: a port alone, a name and a port, or a literal between brackets and a port, where a
literal holds a colon and no white space.  Then the port and the host are those of the form.
The texts whose literal holds no bracket either are those that are read with no bracket in the
host.  No host that is read holds white space. -/
theorem parse?_iff_written (raw : String) (a : BindAddress) :
    (parse? raw = some a ↔ Written (fun _ => True) raw.toList a) ∧
      (Written BracketFree raw.toList a ↔
        parse? raw = some a ∧ ∀ host ∈ a.host, BracketFree host.toList) ∧
      (parse? raw = some a → ∀ host ∈ a.host, ∀ c ∈ host.toList, isBlank c = false) := by
  refine ⟨?_, written_bracketFree_iff,
    fun h host hhost => ((parts_of_parse? h).2 host hhost).not_blank⟩
  rw [written_iff]
  exact ⟨fun h => ⟨h, fun _ _ _ => trivial⟩, fun h => h.1⟩

/-- Brackets may be nested, and the inner one is taken for a part of the host. -/
theorem parse?_nested_bracket :
    parse? "[[::1]:80" = some ⟨some "[::1", 80⟩ ∧
      ¬ ∃ a, Written BracketFree "[[::1]:80".toList a := by
  have hread : parse? "[[::1]:80" = some ⟨some "[::1", 80⟩ := by decide
  refine ⟨hread, ?_⟩
  rintro ⟨a, ha⟩
  obtain ⟨hparse, hfree⟩ := written_bracketFree_iff.mp ha
  rw [hread, Option.some_inj] at hparse
  subst hparse
  exact (hfree "[::1" rfl).1 (by decide)

end ClusterAgent.BindAddress
