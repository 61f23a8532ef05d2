/-
Which log entries are written.

A filter is a list of directives, read from a text that separates them by commas.
A directive is a threshold, a target, or a target and a threshold joined by `=`; a
target stands for every target that begins with it.  The directive with the
longest target decides, and of several with the same target the last.

* `Filter.parse?` — the filter that a text stands for;
* `Filter.allows` — whether an entry is written.

Design notes: a blank in front of a target makes a threshold after it
unreadable, and elsewhere a blank is part of the target or threshold that it
stands in.  A directive for a span, in square brackets, concerns no entry
outside a span, and the agent logs none inside.
-/
import ClusterAgent.Decimal.Numeral
import ClusterAgent.Telemetry.Log
import ClusterAgent.Text.Blank

namespace ClusterAgent

/-- The least important level that is written; nothing is if there is none. -/
abbrev Threshold := Option Level

namespace Threshold

/-- The threshold of a rank, from nothing to everything. -/
def ofRank? : Nat → Option Threshold
  | 0 => some none
  | 1 => some (some .error)
  | 2 => some (some .warn)
  | 3 => some (some .info)
  | 4 => some (some .debug)
  | 5 => some (some .trace)
  | _ => none

/-- The threshold of a name or a rank. Capital letters are like small ones. -/
def ofText? (s : String) : Option Threshold :=
  match Decimal.readNatural (UInt64.size - 1) s.toList with
  | .ok n => ofRank? n
  | .error _ =>
    let name := s.map Char.toUpper
    if name = "OFF" then some none
    else ([Level.error, .warn, .info, .debug, .trace].find? (·.name == name)).map some

/-- Whether a level reaches a threshold. -/
def admits (t : Threshold) (l : Level) : Bool := t.any (·.rank ≤ l.rank)

end Threshold

/-- A threshold for the targets that begin in a certain way. -/
structure Directive where
  target : String
  threshold : Threshold
deriving DecidableEq

namespace Directive

/-- Whether a target or a threshold can begin so. -/
def canBegin (c : Char) : Bool :=
  c.isAlphanum || c = '-' || c = ':' || c = '_' || 128 ≤ c.toNat

/-- The threshold after a target; everything if it is left empty. -/
def thresholdAfter? : List Char → Option Threshold
  | [] => some (some .trace)
  | cs => Threshold.ofText? (String.ofList cs)

/-- Whether what follows a span is nothing or a threshold. -/
def endsWell : List Char → Bool
  | [] => true
  | '=' :: rest => (thresholdAfter? rest).isSome
  | _ => false

/-- Read a directive: none is a mistake, and no directive inside is one that
concerns nothing. -/
def parse? (s : String) : Option (Option Directive) :=
  let cs := s.toList
  let body := cs.dropWhile Text.isBlank
  let isMark (c : Char) : Bool := c = '=' || c = '['
  let begins := body.head?.any fun c => canBegin c || c = '['
  if !begins then none
  else
    match cs.dropWhile (!isMark ·) with
    | '[' :: span =>
      let after := (span.dropWhile (· != ']')).drop 1
      if span.contains ']' && endsWell after then some none else none
    | '=' :: level =>
      if body.length = cs.length then
        (thresholdAfter? level).map fun t => some ⟨String.ofList (cs.takeWhile (!isMark ·)), t⟩
      else none
    | _ =>
      match Threshold.ofText? s with
      | some t => some (some ⟨"", t⟩)
      | none => some (some ⟨s, some .trace⟩)

/-- Whether a directive concerns a target. -/
def concerns (d : Directive) (target : String) : Bool := d.target.toList.isPrefixOf target.toList

/-- The one of two directives that decides, the first of which was given before. -/
def stronger (d : Option Directive) (e : Directive) : Option Directive :=
  match d with
  | some d => if e.target.length < d.target.length then some d else some e
  | none => some e

end Directive

/-- Directives in the order in which they were given. -/
structure Filter where
  directives : List Directive
deriving DecidableEq

namespace Filter

/-- The directive that decides about a target. -/
def decisive? (f : Filter) (target : String) : Option Directive :=
  (f.directives.filter (·.concerns target)).foldl Directive.stronger none

/-- Whether an entry of a level and a target is written. -/
def allows (f : Filter) (l : Level) (target : String) : Bool :=
  (f.decisive? target).any (·.threshold.admits l)

/-- Errors only, whatever the target. -/
def errorsOnly : Filter := ⟨[⟨"", some .error⟩]⟩

/-- The filter that a text stands for. A text without directives stands for
errors only. -/
def parse? (s : String) : Option Filter := do
  let read ← ((s.splitOn ",").filter (· != "")).mapM Directive.parse?
  if read.isEmpty then return errorsOnly else return ⟨read.filterMap id⟩

/-- What is written if nothing else is asked for. -/
def standard : Filter :=
  ⟨[⟨"controller_agent", some .info⟩, ⟨"tower_http", some .info⟩, ⟨"kube", some .warn⟩]⟩

/-- The filter that a variable asks for; the standard one if it asks for none
that can be read. -/
def ofVariable (value : Option String) : Filter := (value.bind parse?).getD standard

/-- Whether an entry is written. -/
def admits (f : Filter) (e : LogEvent) : Bool := f.allows e.level e.part.target

example : standard.allows .info "controller_agent::client" = true := by decide

example : standard.allows .debug "controller_agent::client" = false := by decide

end Filter

end ClusterAgent
