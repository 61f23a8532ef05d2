/-
Addresses written and read back.

An address is written as its host, a colon and its port, and the host is put between brackets
if it holds a colon itself.

* `BindAddress.IsHost` — the hosts that can be told from the rest of an address;
* `BindAddress.parse?_eq_some_iff` — what is read is exactly a host in its written form, a
  colon and a port;
* `BindAddress.parse?_text_iff` — which addresses are read back from what is written: those
  whose host is such a one, and these are all that are ever read.

Design notes: the reader is turned round first.  `cutLast` and `unbracket?` each undo one
way of putting a text together, so a text that is read has one form, and everything about
the round trip is read off that form.
-/
import ClusterAgent.Config.BindAddress
import ClusterAgent.Proofs.Decimal.Digits

namespace ClusterAgent.BindAddress

open ClusterAgent.Decimal ClusterAgent.Text

/-! ### The parts of an address -/

theorem cutLast_eq_none_iff {cs : List Char} : cutLast cs = none ↔ ':' ∉ cs := by
  induction cs with
  | nil => exact iff_of_true rfl List.not_mem_nil
  | cons c cs ih =>
    rw [cutLast, List.mem_cons, not_or, ← ih]
    cases cutLast cs with
    | some p => exact iff_of_false nofun fun h => nomatch h.2
    | none =>
      dsimp only
      split
      · rename_i hcolon
        exact iff_of_false nofun fun h => h.1 hcolon.symm
      · rename_i hother
        exact iff_of_true rfl ⟨fun h => hother h.symm, rfl⟩

theorem cutLast_append {after : List Char} (h : ':' ∉ after) (before : List Char) :
    cutLast (before ++ ':' :: after) = some (before, after) := by
  induction before with
  | nil =>
    rw [List.nil_append, cutLast, cutLast_eq_none_iff.mpr h]
    rfl
  | cons c before ih => rw [List.cons_append, cutLast, ih]

theorem cutLast_eq_some_iff {cs before after : List Char} :
    cutLast cs = some (before, after) ↔ cs = before ++ ':' :: after ∧ ':' ∉ after := by
  constructor
  · intro h
    induction cs generalizing before with
    | nil => cases h
    | cons c cs ih =>
      rw [cutLast] at h
      split at h
      · rename_i front back hcut
        cases h
        obtain ⟨rfl, hback⟩ := ih hcut
        exact ⟨rfl, hback⟩
      · rename_i hcut
        split at h
        · rename_i hcolon
          cases h
          subst hcolon
          exact ⟨rfl, cutLast_eq_none_iff.mp hcut⟩
        · cases h
  · rintro ⟨rfl, hafter⟩
    exact cutLast_append hafter before

/-- Brackets are taken off exactly where they stand at both ends. -/
theorem unbracket?_eq_some_iff {cs inner : List Char} :
    unbracket? cs = some inner ↔ cs = '[' :: (inner ++ [']']) := by
  constructor
  · intro h
    unfold unbracket? at h
    split at h
    · split at h
      · rename_i hlast
        obtain ⟨front, rfl⟩ := List.getLast?_eq_some_iff.mp hlast
        rw [List.dropLast_concat, Option.some_inj] at h
        rw [h]
      · cases h
    · cases h
  · rintro rfl
    rw [unbracket?, List.getLast?_concat, if_pos rfl, List.dropLast_concat]

theorem colon_not_mem_of_parsePort? {cs : List Char} {port : UInt16}
    (h : parsePort? cs = some port) : ':' ∉ cs := by
  have hdigits {most : Nat} {excess : NumeralFault} {n : Nat} {ds : List Char}
      (hread : readDigits most excess 0 ds = .ok n) : ':' ∉ ds := fun hmem =>
    absurd ((readDigits_eq_ok_iff.mp hread).1 _ hmem) (by decide)
  rw [parsePort?] at h
  split at h
  · rename_i n hread
    unfold readNatural at hread
    split at hread
    · cases hread
    · cases hread
    · exact fun hmem => hdigits hread ((List.mem_cons.mp hmem).resolve_left (by decide))
    · exact hdigits hread
  · cases h

theorem parsePort?_toString (port : UInt16) :
    parsePort? (toString port.toNat).toList = some port := by
  rw [parsePort?, readNatural_toString (Nat.le_of_lt_succ port.toNat_lt)]
  exact congrArg some (UInt16.ofNat_toNat)

/-! ### Hosts -/

/-- A host that can be told from the rest of an address: a name without brackets, or one that
holds a colon. -/
structure IsHost (host : List Char) : Prop where
  ne_nil : host ≠ []
  not_blank : ∀ c ∈ host, isBlank c = false
  colon_or : ':' ∈ host ∨ '[' ∉ host ∧ ']' ∉ host

/-- A host as it stands in an address. -/
def writtenHost (host : List Char) : List Char :=
  if ':' ∈ host then '[' :: (host ++ [']']) else host

theorem IsHost.writtenHost_ne_nil {host : List Char} (h : IsHost host) : writtenHost host ≠ [] := by
  rw [writtenHost]
  split
  · exact List.cons_ne_nil _ _
  · exact h.ne_nil

theorem not_any_isBlank_iff {host : List Char} :
    (!host.any isBlank) = true ↔ ∀ c ∈ host, isBlank c = false := by
  simp only [Bool.not_eq_true', List.any_eq_false, Bool.not_eq_true]

theorem isHost_of_parseHost? {cs host : List Char} (hne : cs ≠ []) (h : parseHost? cs = some host) :
    cs = writtenHost host ∧ IsHost host := by
  unfold parseHost? at h
  rw [Option.filter_eq_some_iff, not_any_isBlank_iff] at h
  obtain ⟨hhost, hblank⟩ := h
  split at hhost
  · rename_i inner hbrackets
    split at hhost
    · rename_i hcolon
      cases hhost
      refine ⟨?_, List.ne_nil_of_mem hcolon, hblank, .inl hcolon⟩
      rw [writtenHost, if_pos hcolon, unbracket?_eq_some_iff.mp hbrackets]
    · cases hhost
  · split at hhost
    · cases hhost
    · rename_i hplain
      cases hhost
      rw [not_or, not_or] at hplain
      exact ⟨(if_neg hplain.1).symm, hne, hblank, .inr hplain.2⟩

theorem IsHost.parseHost?_writtenHost {host : List Char} (h : IsHost host) :
    parseHost? (writtenHost host) = some host := by
  unfold parseHost?
  rw [Option.filter_eq_some_iff, not_any_isBlank_iff]
  refine ⟨?_, h.not_blank⟩
  rw [writtenHost]
  by_cases hcolon : ':' ∈ host
  · rw [if_pos hcolon, unbracket?_eq_some_iff.mpr rfl]
    exact if_pos hcolon
  · -- A host without a colon stands there as it is, and is not taken for one in brackets.
    obtain ⟨hopen, hclose⟩ := h.colon_or.resolve_left hcolon
    have hbare : unbracket? host = none := by
      by_contra hsome
      obtain ⟨inner, hinner⟩ := Option.ne_none_iff_exists'.mp hsome
      rw [unbracket?_eq_some_iff.mp hinner] at hopen
      exact hopen List.mem_cons_self
    rw [if_neg hcolon, hbare]
    exact if_neg fun hmem => hmem.elim hcolon fun hmem => hmem.elim hopen hclose

/-! ### Addresses -/

variable {raw : String} {a : BindAddress}

/-- What stands before the last colon of an address. -/
def hostPart (a : BindAddress) : List Char := (a.host.map fun h => writtenHost h.toList).getD []

theorem toList_text (a : BindAddress) :
    a.text.toList = a.hostPart ++ ':' :: (toString a.port.toNat).toList := by
  obtain ⟨host, port⟩ := a
  cases host with
  | none => exact String.toList_append
  | some host =>
    by_cases hcolon : ':' ∈ host.toList
    · simp [text, hostPart, writtenHost, hcolon]
    · simp [text, hostPart, writtenHost, hcolon]

theorem parse?_of_parts {digits : List Char} (hraw : raw.toList = a.hostPart ++ ':' :: digits)
    (hport : parsePort? digits = some a.port) (hhost : ∀ host ∈ a.host, IsHost host.toList) :
    parse? raw = some a := by
  obtain ⟨host, port⟩ := a
  -- The port holds no colon, so the last one is the one before it, whatever the host holds.
  rw [parse?, hraw, cutLast_append (colon_not_mem_of_parsePort? hport)]
  simp only [Option.bind_eq_bind, Option.bind_some, hport]
  cases host with
  | none => rfl
  | some host =>
    have hhost := hhost host rfl
    show (if (writtenHost host.toList).isEmpty then _ else
      (parseHost? (writtenHost host.toList)).map fun h =>
        (⟨some (String.ofList h), port⟩ : BindAddress)) = _
    rw [if_neg (by simpa using hhost.writtenHost_ne_nil), hhost.parseHost?_writtenHost,
      Option.map_some, String.ofList_toList]

theorem parts_of_parse? (h : parse? raw = some a) :
    (∃ digits, raw.toList = a.hostPart ++ ':' :: digits ∧ parsePort? digits = some a.port) ∧
      ∀ host ∈ a.host, IsHost host.toList := by
  simp only [parse?, Option.bind_eq_bind, Option.bind_eq_some_iff] at h
  obtain ⟨⟨before, digits⟩, hcut, port, hport, h⟩ := h
  obtain ⟨hraw, -⟩ := cutLast_eq_some_iff.mp hcut
  dsimp only at hport h
  split at h
  · rename_i hempty
    cases h
    rw [List.isEmpty_iff.mp hempty] at hraw
    exact ⟨⟨digits, hraw, hport⟩, nofun⟩
  · rename_i hne
    obtain ⟨host, hhost, rfl⟩ := Option.map_eq_some_iff.mp h
    obtain ⟨rfl, hishost⟩ := isHost_of_parseHost? (by simpa using hne) hhost
    refine ⟨⟨digits, ?_, hport⟩, ?_⟩
    · show raw.toList = writtenHost (String.ofList host).toList ++ _
      rw [String.toList_ofList]
      exact hraw
    · rintro _ ⟨⟩
      rw [String.toList_ofList]
      exact hishost

/-- What is read as an address is a host in its written form, a colon and a port. -/
theorem parse?_eq_some_iff :
    parse? raw = some a ↔
      (∃ digits, raw.toList = a.hostPart ++ ':' :: digits ∧ parsePort? digits = some a.port) ∧
        ∀ host ∈ a.host, IsHost host.toList :=
  ⟨parts_of_parse?, fun ⟨⟨_, hraw, hport⟩, hhost⟩ => parse?_of_parts hraw hport hhost⟩

theorem parse?_text (h : ∀ host ∈ a.host, IsHost host.toList) : parse? a.text = some a :=
  parse?_of_parts (toList_text a) (parsePort?_toString a.port) h

/-- **Addresses are read back.**  An address is read back from what is written of it exactly
if it has no host, or one that is not empty, holds no white space, and holds a colon or
neither bracket.  Every address that is read is such a one, so no two of them are written
alike, and what is written of a text that is read stays the same when it is read again. -/
theorem parse?_text_iff :
    (∀ a : BindAddress, parse? a.text = some a ↔ ∀ host ∈ a.host, IsHost host.toList) ∧
      (∀ raw a, parse? raw = some a → parse? a.text = some a) ∧
      (∀ raw raw' a a', parse? raw = some a → parse? raw' = some a' → a.text = a'.text → a = a') ∧
      ∀ raw written, (parse? raw).map text = some written →
        (parse? written).map text = some written := by
  have hback (raw : String) (a : BindAddress) (h : parse? raw = some a) :
      parse? a.text = some a := parse?_text (parts_of_parse? h).2
  refine ⟨fun a => ⟨fun h => (parts_of_parse? h).2, parse?_text⟩, hback, ?_, ?_⟩
  · intro raw raw' a a' h h' htext
    have hsame := hback raw a h
    rw [htext, hback raw' a' h', Option.some_inj] at hsame
    exact hsame.symm
  · intro raw written h
    obtain ⟨a, ha, rfl⟩ := Option.map_eq_some_iff.mp h
    rw [hback raw a ha, Option.map_some]

end ClusterAgent.BindAddress
