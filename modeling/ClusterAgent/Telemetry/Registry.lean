/-
The metrics of one process, and their exposition as text.

A `Registry` keeps a value for each series that was ever touched.  Samples of
durations wait in blocks until the next exposition, which folds them into
distributions.

* `Registry.record` — take one measurement in;
* `Registry.expose` — the lines of the text exposition, series without data left
  out;
* `Registry.count_record` — a measurement adds one to its own counter and leaves
  every other counter alone.

Design notes: sums of doubles depend on their order, so the order is fixed
here: blocks are folded newest first, the samples of a block in the order of
their arrival.  A distribution with buckets adds up each block on its own first.
Series whose labels are written alike share one distribution; of their counters
the one touched first last stands.
-/
import ClusterAgent.Decimal.Layout
import ClusterAgent.Keyed
import ClusterAgent.Telemetry.Measurement

namespace ClusterAgent

/-- A span in seconds as a double: the whole seconds plus the rest divided. -/
def Span.toSeconds (d : Span) : Float :=
  Float.ofNat d.seconds + Float.ofNat d.subsecond / 1000000000

/-- The durations seen under one set of labels. -/
structure Distribution where
  sum : Float
  count : Nat
  /-- Samples at or below each bound. -/
  buckets : List (Float × Nat)

/-- How many samples one block holds. -/
def blockSize : Nat := 64

/-- The bounds of the buckets of request durations, in seconds. -/
def durationBounds : List Float := [0.005, 0.025, 0.1, 0.25, 0.5, 1, 2.5, 10]

/-- The metrics of one process. -/
structure Registry where
  /-- Whether metrics carry their description and durations their buckets. -/
  described : Bool
  counters : List ((Metric × Labels) × Nat)
  resources : Option Float
  /-- Samples in blocks since the last exposition, newest block first. -/
  fresh : List (Labels × List (List Float))
  distributions : List (String × Distribution)

namespace Registry

open Keyed

/-- A registry that nothing was recorded in. -/
def empty (described : Bool) : Registry := ⟨described, [], none, [], []⟩

/-- Put a sample into the newest block, or into a new one if that is full. -/
def pushSample (x : Float) : List (List Float) → List (List Float)
  | [] => [[x]]
  | block :: older =>
    if block.length < blockSize then (block ++ [x]) :: older else [x] :: block :: older

/-- Take one measurement in. -/
def record (r : Registry) (m : Measurement) : Registry :=
  { r with
    counters := upsert m.counted (fun n => n.getD 0 + 1) r.counters
    resources := (m.gauged.map Float.ofNat).or r.resources
    fresh := match m.sampled with
      | none => r.fresh
      | some (method, elapsed) =>
        upsert [("method", method)]
          (fun blocks => pushSample elapsed.toSeconds (blocks.getD [])) r.fresh }

/-- The value of a counter, zero if it was never touched. -/
def count (r : Registry) (series : Metric × Labels) : Nat := (lookup series r.counters).getD 0

theorem count_record (r : Registry) (m : Measurement) (series : Metric × Labels) :
    (r.record m).count series = r.count series + if series = m.counted then 1 else 0 := by
  by_cases h : series = m.counted
  · subst h
    simp [count, record, lookup_upsert_self]
  · simp [count, record, lookup_upsert_of_ne h, h]

/-! ### Exposition -/

/-- The written form of a label's value. A backslash stands for itself where it
already begins an escape, and is doubled elsewhere. -/
def escapeValue : Bool → List Char → List Char
  | escaped, [] => if escaped then ['\\', '\\'] else []
  | escaped, c :: rest =>
    if c = '\n' then '\\' :: 'n' :: escapeValue escaped rest
    else if c = '"' then '\\' :: '"' :: escapeValue false rest
    else if c = '\\' then
      if escaped then '\\' :: '\\' :: escapeValue false rest else escapeValue true rest
    else if escaped then '\\' :: '\\' :: c :: escapeValue false rest
    else c :: escapeValue false rest

/-- One label as it is written. -/
def labelText (label : String × String) : String :=
  label.1 ++ "=\"" ++ String.ofList (escapeValue false label.2.toList) ++ "\""

/-- Labels as they are written, separated by commas. -/
def labelsText (ls : Labels) : String := ",".intercalate (ls.map labelText)

/-- One line: name, labels in braces if there are any, value. -/
def line (name labels value : String) : String :=
  if labels = "" then name ++ " " ++ value
  else name ++ "\x7b" ++ labels ++ "\x7d " ++ value

/-- Add the samples of one block to a distribution. -/
def Distribution.addBlock (d : Distribution) (block : List Float) : Distribution :=
  { sum :=
      if d.buckets.isEmpty then block.foldl (· + ·) d.sum else d.sum + block.foldl (· + ·) 0
    count := d.count + block.length
    buckets := d.buckets.map fun (bound, n) => (bound, n + (block.filter (· ≤ bound)).length) }

/-- A distribution without samples. -/
def emptyDistribution (described : Bool) : Distribution :=
  ⟨0, 0, if described then durationBounds.map fun b => (b, 0) else []⟩

/-- Fold the waiting samples into the distributions. -/
def collect (r : Registry) : Registry :=
  let fold (ds : List (String × Distribution)) (series : Labels × List (List Float)) :
      List (String × Distribution) :=
    upsert (labelsText series.1)
      (fun d => series.2.foldl Distribution.addBlock (d.getD (emptyDistribution r.described))) ds
  { r with fresh := [], distributions := r.fresh.foldl fold r.distributions }

/-- The lines of one distribution. -/
def distributionLines (name : String) (d : String × Distribution) : List String :=
  let value (x : Float) : String := Decimal.plain.write x
  let bucketLine (bound : String) (n : Nat) : String :=
    let bound := "le=\"" ++ bound ++ "\""
    line (name ++ "_bucket") (if d.1 = "" then bound else d.1 ++ "," ++ bound) (toString n)
  let buckets := d.2.buckets.map fun (bound, n) => bucketLine (value bound) n
  let all := if d.2.buckets.isEmpty then [] else [bucketLine "+Inf" d.2.count]
  buckets ++ all ++
    [line (name ++ "_sum") d.1 (value d.2.sum), line (name ++ "_count") d.1 (toString d.2.count)]

/-- The lines with data of one metric, after the waiting samples were folded in. -/
def dataLines (r : Registry) (m : Metric) : List String :=
  match m.kind with
  | .counter =>
    let mine := r.counters.filter (·.1.1 = m)
    let written := mine.foldl (fun out c => upsert (labelsText c.1.2) (fun _ => c.2) out) []
    written.map fun (labels, n) => line m.name labels (toString n)
  | .gauge => (r.resources.map fun x => line m.name "" (Decimal.plain.write x)).toList
  | .histogram => r.distributions.flatMap (distributionLines m.name)

/-- The word for a kind of metric; durations without buckets are a summary. -/
def kindText (r : Registry) : MetricKind → String
  | .counter => "counter"
  | .gauge => "gauge"
  | .histogram => if r.described then "histogram" else "summary"

/-- The comments above the lines of a metric. -/
def commentLines (r : Registry) (m : Metric) : List String :=
  (if r.described then ["# HELP " ++ m.name ++ " " ++ m.meaning] else []) ++
    ["# TYPE " ++ m.name ++ " " ++ r.kindText m.kind]

/-- The registry after an exposition, and the lines exposed. -/
def expose (r : Registry) : Registry × List String :=
  let r := r.collect
  (r, Metric.all.flatMap fun m =>
    match r.dataLines m with
    | [] => []
    | lines => r.commentLines m ++ lines)

/-- Whether a line of the exposition is a comment. -/
def isComment (s : String) : Bool := s.toList.head? == some '#'

/-- The lines of an exposition that are no comments, in ascending order. -/
def samplesOf (lines : List String) : List String :=
  (lines.filter (!isComment ·)).mergeSort fun a b => !decide (b < a)

/-- The samples that an exposition would show. -/
def samples (r : Registry) : List String := samplesOf r.expose.2

end Registry

end ClusterAgent
