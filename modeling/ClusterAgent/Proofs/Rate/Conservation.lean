/-
Every token is somebody's.

Whoever holds the limiter asks one bucket, and each of its grants is a token that
somebody took at once or for which somebody is done waiting.  Those who gave up and
those who still wait have none.  Whoever is refused the first time is counted and
logged as throttled, and never again after that.

* `LimiterRun.verdicts` — whoever asked the bucket, with its answers;
* `LimiterRun.Move` — the ways in which those who wait change, `LimiterRun.step_stepped` —
  every action is one of them;
* `LimiterRun.Ledger` — for one number: where it is, and what the bucket told it;
* `LimiterRun.Totals`, `LimiterRun.Throttles` — for all together;
* `LimiterRun.tokens_conserved` — what holds of any limiter in any hands.

Design notes: the verdicts are worked out from the bucket and the instants at which it
was asked, and from nothing that those who asked were told.  The arithmetic is left open.
-/
import ClusterAgent.Proofs.Rate.Draws
import ClusterAgent.Proofs.Rate.Envelope
import ClusterAgent.Proofs.Telemetry.Counting
import ClusterAgent.Rate.Run
import Mathlib.Data.List.Induction
import Mathlib.Data.List.Perm.Basic

namespace ClusterAgent.LimiterRun

/-! ### What happened -/

@[simp] def Event.asked? : Event → Option (Option RequestId × Instant)
  | .asked who now => some (who, now)
  | _ => none

@[simp] def Event.tried? : Event → Option Bool
  | .tried got => some got
  | _ => none

@[simp] def Event.began? : Event → Option RequestId
  | .began id => some id
  | _ => none

@[simp] def Event.completed? : Event → Option RequestId
  | .completed id => some id
  | _ => none

@[simp] def Event.aborted? : Event → Option RequestId
  | .aborted id => some id
  | _ => none

@[simp] def Event.notice? : Event → Option Notice
  | .notice n => some n
  | _ => none

abbrev asked (es : List Event) : List (Option RequestId × Instant) := es.filterMap Event.asked?

abbrev tried (es : List Event) : List Bool := es.filterMap Event.tried?

abbrev began (es : List Event) : List RequestId := es.filterMap Event.began?

abbrev completed (es : List Event) : List RequestId := es.filterMap Event.completed?

abbrev aborted (es : List Event) : List RequestId := es.filterMap Event.aborted?

abbrev notices (es : List Event) : List Notice := es.filterMap Event.notice?

/-- An answer of the bucket, and whoever it is for. -/
abbrev Verdict := Option RequestId × Bool

/-- What the bucket told somebody first. -/
def first (vs : List Verdict) (id : RequestId) : Option Bool :=
  (vs.find? (·.1 == some id)).map (·.2)

/-- How many of those who asked to wait were refused at first. -/
def throttled (vs : List Verdict) (es : List Event) : Nat :=
  (began es).countP (first vs · = some false)

theorem first_append (vs ws : List Verdict) (id : RequestId) :
    first (vs ++ ws) id = (first vs id).or (first ws id) := by
  rw [first, List.find?_append, Option.map_or]
  rfl

theorem first_singleton (who : Option RequestId) (got : Bool) (id : RequestId) :
    first [(who, got)] id = if who = some id then some got else none := by
  by_cases h : who = some id <;> simp [first, h]

variable {α : Type} [TokenArithmetic α]

/-- The answers of a bucket, and whoever they are for. -/
def verdicts (l : Limits α) (b : Bucket α) (es : List Event) : List Verdict :=
  ((asked es).map (·.1)).zip (Bucket.answers l b ((asked es).map (·.2)))

/-- A bucket after everybody asked it. -/
def drained (l : Limits α) (b : Bucket α) (es : List Event) : Bucket α :=
  Bucket.after l b ((asked es).map (·.2))

theorem drained_append (l : Limits α) (b : Bucket α) (es fs : List Event) :
    drained l b (es ++ fs) = drained l (drained l b es) fs := by
  rw [drained, asked, List.filterMap_append, List.map_append, Bucket.after_append]
  rfl

theorem verdicts_append (l : Limits α) (b : Bucket α) (es fs : List Event) :
    verdicts l b (es ++ fs) = verdicts l b es ++ verdicts l (drained l b es) fs := by
  rw [verdicts, asked, List.filterMap_append, List.map_append, List.map_append,
    Bucket.answers_append]
  exact List.zip_append (by simp [Bucket.length_answers])

/-! ### Moves -/

structure Line where
  fresh : RequestId
  waiting : List RequestId

def line (s : LimiterRun α) : Line := ⟨s.fresh, s.limiter.waiters.map (·.id)⟩

/-- What happens to one who asks, what the bucket says to it, and who waits then. -/
inductive Move (now : Instant) (p : Line) : List Event → List Verdict → Line → Prop
  | idle : Move now p [] [] p
  /-- Somebody who does not wait is told what the bucket says. -/
  | taken (got : Bool) : Move now p [.asked none now, .tried got] [(none, got)] p
  /-- Somebody gets a token at once. -/
  | enter (id : RequestId) (above : p.fresh ≤ id) :
      Move now p [.began id, .asked (some id) now, .completed id] [(some id, true)]
        { p with fresh := id + 1 }
  /-- Somebody is throttled, and begins to wait. -/
  | wait (id : RequestId) (span : Span) (above : p.fresh ≤ id) :
      Move now p
        [.began id, .asked (some id) now, .notice (.measured .clientThrottled),
          .notice (.logged (.requestThrottled span))]
        [(some id, false)] ⟨id + 1, p.waiting ++ [id]⟩
  | grant (id : RequestId) (waits : id ∈ p.waiting) :
      Move now p [.asked (some id) now, .completed id] [(some id, true)]
        { p with waiting := p.waiting.filter (· != id) }
  | refuse (id : RequestId) (waits : id ∈ p.waiting) :
      Move now p [.asked (some id) now] [(some id, false)] p
  | abort (id : RequestId) (waits : id ∈ p.waiting) :
      Move now p [.aborted id] [] { p with waiting := p.waiting.filter (· != id) }

/-- What a step does: the bucket is asked by those who are told so, and those who wait move. -/
structure Stepped (s : LimiterRun α) (now : Instant) (s' : LimiterRun α) (fs : List Event) :
    Prop where
  limits : s'.limiter.limits = s.limiter.limits
  bucket : s'.limiter.bucket = drained s.limiter.limits s.limiter.bucket fs
  move : Move now s.line fs (verdicts s.limiter.limits s.limiter.bucket fs) s'.line

omit [TokenArithmetic α] in
theorem isWaiting_iff (s : LimiterRun α) (id : RequestId) :
    s.isWaiting id ↔ id ∈ s.line.waiting := by
  simp [isWaiting, line]

theorem ids_abandon (ws : List Waiter) (id : RequestId) :
    (ws.filter (·.id != id)).map (·.id) = (ws.map (·.id)).filter (· != id) := by
  rw [List.filter_map]
  rfl

theorem ids_again (ws : List Waiter) (id : RequestId) (wakesAt : Option Nat) :
    (ws.map (Limiter.again id wakesAt)).map (·.id) = ws.map (·.id) := by
  rw [List.map_map]
  refine List.map_congr_left fun w _ => ?_
  simp only [Function.comp_apply, Limiter.again]
  split <;> rfl

theorem acquire_stepped (s : LimiterRun α) (now : Instant) (id : RequestId) :
    Stepped s now (s.step now (.acquire id)).1 (s.step now (.acquire id)).2 := by
  rw [step]
  by_cases hold : id < s.fresh
  · rw [if_pos hold]
    exact ⟨rfl, rfl, .idle⟩
  have above : s.fresh ≤ id := Nat.le_of_not_lt hold
  rw [if_neg hold]
  simp only [Limiter.acquire_granted, Limiter.acquire_limiter, Limiter.acquire_notices]
  rcases hgot : (s.limiter.tryAcquire now).1 with _ | _
  · have hsaid : (s.limiter.bucket.tryTake s.limiter.limits now).1 = false := hgot
    have hmove : Move now s.line _ _ _ := .wait id (s.limiter.tryAcquire now).2.wait above
    refine ⟨rfl, rfl, ?_⟩
    simpa [outcome, verdicts, Bucket.answers, line, hsaid, List.filterMap_cons] using hmove
  · have hsaid : (s.limiter.bucket.tryTake s.limiter.limits now).1 = true := hgot
    have hmove : Move now s.line _ _ _ := .enter id above
    refine ⟨rfl, rfl, ?_⟩
    simpa [outcome, verdicts, Bucket.answers, line, hsaid, List.filterMap_cons] using hmove

theorem wake_stepped (s : LimiterRun α) (now : Instant) (id : RequestId) :
    Stepped s now (s.step now (.wake id)).1 (s.step now (.wake id)).2 := by
  rw [step]
  split
  · rename_i hwaits
    have waits := (isWaiting_iff s id).mp hwaits
    simp only [Limiter.retry_granted, Limiter.retry_limiter]
    rcases hgot : (s.limiter.tryAcquire now).1 with _ | _
    · have hsaid : (s.limiter.bucket.tryTake s.limiter.limits now).1 = false := hgot
      have hmove : Move now s.line _ _ _ := .refuse id waits
      refine ⟨rfl, rfl, ?_⟩
      simpa [outcome, verdicts, Bucket.answers, line, hsaid, List.filterMap_cons, ids_again,
        -List.map_map] using hmove
    · have hsaid : (s.limiter.bucket.tryTake s.limiter.limits now).1 = true := hgot
      have hmove : Move now s.line _ _ _ := .grant id waits
      refine ⟨rfl, rfl, ?_⟩
      simpa [outcome, verdicts, Bucket.answers, line, hsaid, List.filterMap_cons, ids_abandon]
        using hmove
  · exact ⟨rfl, rfl, .idle⟩

/-- **Every action is a move.** -/
theorem step_stepped (s : LimiterRun α) (now : Instant) (a : Action) :
    Stepped s now (s.step now a).1 (s.step now a).2 := by
  cases a with
  | tryAcquire => exact ⟨rfl, rfl, .taken _⟩
  | acquire id => exact acquire_stepped s now id
  | wake id => exact wake_stepped s now id
  | abort id =>
    rw [step]
    split
    · rename_i hwaits
      have hmove : Move now s.line _ _ _ := .abort id ((isWaiting_iff s id).mp hwaits)
      refine ⟨rfl, rfl, ?_⟩
      simpa [verdicts, Bucket.answers, line, Limiter.abandon, List.filterMap_cons, ids_abandon]
        using hmove
    · exact ⟨rfl, rfl, .idle⟩

/-- What every move keeps holds after every run, with the verdicts of the bucket as it was
at first. -/
theorem run_induct {P : Line → List Event → List Verdict → Prop} (s : LimiterRun α)
    (start : P s.line [] [])
    (keep : ∀ {p es vs now fs ws p'}, P p es vs → Move now p fs ws p' → P p' (es ++ fs) (vs ++ ws))
    (acts : List (Instant × Action)) :
    (s.run acts).1.limiter.limits = s.limiter.limits ∧
      (s.run acts).1.limiter.bucket = drained s.limiter.limits s.limiter.bucket (s.run acts).2 ∧
      P (s.run acts).1.line (s.run acts).2
        (verdicts s.limiter.limits s.limiter.bucket (s.run acts).2) := by
  induction acts using List.reverseRecOn with
  | nil => exact ⟨rfl, rfl, start⟩
  | append_singleton acts act ih =>
    obtain ⟨hlimits, hbucket, hkept⟩ := ih
    obtain ⟨hlimits', hbucket', hmove⟩ := step_stepped (s.run acts).1 act.1 act.2
    rw [hlimits, hbucket] at hbucket' hmove
    have hnext := keep hkept hmove
    rw [← verdicts_append] at hnext
    rw [← drained_append] at hbucket'
    rw [run_append]
    simpa [run, hlimits'] using ⟨hlimits, hbucket', hnext⟩

/-! ### One number -/

theorem count_filter_ne (ids : List RequestId) (id other : RequestId) :
    (ids.filter (· != other)).count id = if id = other then 0 else ids.count id := by
  split
  · rename_i h
    subst h
    exact List.count_eq_zero_of_not_mem (by simp)
  · rename_i h
    exact List.count_filter (by simpa using h)

/-- Where a number is, and what the bucket told it. -/
structure Ledger (p : Line) (es : List Event) (vs : List Verdict) (id : RequestId) : Prop where
  /-- Whoever asked to wait waits, or has a token, or gave up. -/
  fate : p.waiting.count id + (completed es).count id + (aborted es).count id = (began es).count id
  once : (began es).count id ≤ 1
  above : p.fresh ≤ id → (began es).count id = 0
  /-- Whoever has a token was granted one. -/
  token : vs.count (some id, true) = (completed es).count id

variable {p p' : Line} {es fs : List Event} {vs ws : List Verdict} {now : Instant} {id : RequestId}

theorem ledger_nil (id : RequestId) : Ledger ⟨0, []⟩ [] [] id := by
  constructor <;> simp

/-- **Every move keeps the account of every number.** -/
theorem Ledger.move (h : Ledger p es vs id) (hmove : Move now p fs ws p') :
    Ledger p' (es ++ fs) (vs ++ ws) id := by
  obtain ⟨hfate, honce, habove, htoken⟩ := h
  simp only [began, completed, aborted] at hfate honce habove htoken
  have hnext : ∀ other, p.fresh ≤ other → other + 1 ≤ id →
      (es.filterMap Event.began?).count id = 0 :=
    fun other above hle => habove (Nat.le_trans above (Nat.le_of_succ_le hle))
  have hpos : ∀ other ∈ p.waiting, 0 < p.waiting.count other := fun _ => List.count_pos_iff.mpr
  -- Only a move of this number's own changes its counts.
  cases hmove with
  | idle =>
    rw [List.append_nil, List.append_nil]
    exact ⟨hfate, honce, habove, htoken⟩
  | taken got => constructor <;> simp [List.filterMap_cons] <;> omega
  | enter other above =>
    have hlater := hnext other above
    by_cases own : id = other
    · subst own
      have hnew := habove above
      constructor <;> simp [List.filterMap_cons] <;> omega
    · refine ⟨?fate, ?once, fun hle => ?above, ?token⟩
      case above => simpa [List.filterMap_cons, Ne.symm own] using hlater hle
      all_goals
        simp [List.filterMap_cons, Ne.symm own]
        omega
  | wait other span above =>
    have hlater := hnext other above
    by_cases own : id = other
    · subst own
      have hnew := habove above
      constructor <;> simp [List.filterMap_cons] <;> omega
    · refine ⟨?fate, ?once, fun hle => ?above, ?token⟩
      case above => simpa [List.filterMap_cons, Ne.symm own] using hlater hle
      all_goals
        simp [List.filterMap_cons, Ne.symm own]
        omega
  | grant other waits =>
    have hthere := hpos other waits
    by_cases own : id = other
    · subst own
      constructor <;> simp [List.filterMap_cons, count_filter_ne] <;> omega
    · constructor <;> simp [List.filterMap_cons, own, Ne.symm own] <;> omega
  | refuse other waits => constructor <;> simp [List.filterMap_cons] <;> omega
  | abort other waits =>
    have hthere := hpos other waits
    by_cases own : id = other
    · subst own
      constructor <;> simp [List.filterMap_cons, count_filter_ne] <;> omega
    · constructor <;> simp [List.filterMap_cons, own, Ne.symm own] <;> omega

/-! ### All together -/

/-- The bucket was asked for just those who began. -/
def Heard (es : List Event) (vs : List Verdict) : Prop :=
  ∀ id, (first vs id).isSome ↔ id ∈ began es

theorem Ledger.began_of_waiting (h : Ledger p es vs id) (waits : id ∈ p.waiting) :
    id ∈ began es := by
  have hpos : 0 < p.waiting.count id := List.count_pos_iff.mpr waits
  have hfate := h.fate
  exact List.count_pos_iff.mp (by omega)

theorem Heard.move (h : Heard es vs) (ledger : ∀ id, Ledger p es vs id)
    (hmove : Move now p fs ws p') : Heard (es ++ fs) (vs ++ ws) := by
  intro id
  have hwaits : id ∈ p.waiting → id ∈ began es := (ledger id).began_of_waiting
  -- Who is told something for the first time begins, or waits and so began before.
  have hnew : (first ws id).isSome ∨ id ∈ began fs →
      id ∈ began es ∨ (first ws id).isSome ∧ id ∈ began fs := by
    cases hmove <;> simp [first, List.filterMap_cons, -List.mem_filterMap] <;> grind only
  have hall : id ∈ began (es ++ fs) ↔ id ∈ began es ∨ id ∈ began fs := by
    rw [began, List.filterMap_append, List.mem_append]
  rw [first_append, Option.isSome_or, Bool.or_eq_true, h id, hall]
  tauto

structure Totals (es : List Event) (vs : List Verdict) : Prop where
  /-- One who does not wait is told what the bucket said. -/
  tried : LimiterRun.tried es = (vs.filter (·.1 = none)).map (·.2)
  /-- Every grant was to one who did not wait, or is the end of waiting. -/
  granted : vs.countP (·.2) = (LimiterRun.tried es).count true + (completed es).length

theorem Totals.append (h : Totals es vs) (h' : Totals fs ws) : Totals (es ++ fs) (vs ++ ws) := by
  constructor
  · simp only [List.filterMap_append, List.filter_append, List.map_append, h.tried, h'.tried]
  · have hfront := h.granted
    have hback := h'.granted
    simp only [LimiterRun.tried, completed] at hfront hback
    simp only [List.filterMap_append, List.countP_append, List.count_append, List.length_append]
    omega

theorem Move.totals (hmove : Move now p fs ws p') : Totals fs ws := by
  cases hmove with
  | taken got => cases got <;> constructor <;> simp [List.filterMap_cons]
  | _ => constructor <;> simp [List.filterMap_cons]

/-! ### Throttling -/

/-- Whoever was refused at first is measured and logged as throttled, once. -/
structure Throttles (es : List Event) (vs : List Verdict) : Prop where
  measured : measurementsOf (notices es) = List.replicate (throttled vs es) .clientThrottled
  logged : (logsOf (notices es)).map (·.message) =
    List.replicate (throttled vs es) "Client request throttled"

theorem throttled_append (h : Heard es vs) :
    throttled (vs ++ ws) (es ++ fs) =
      throttled vs es + (began fs).countP (first (vs ++ ws) · = some false) := by
  rw [throttled, began, List.filterMap_append, List.countP_append]
  congr 1
  refine List.countP_congr fun id hid => ?_
  -- Whoever began was told something then, and nothing later comes before that.
  obtain ⟨got, hgot⟩ := Option.isSome_iff_exists.mp ((h id).mpr hid)
  rw [first_append, hgot, Option.some_or]

theorem Heard.first_of_above (h : Heard es vs) (ledger : Ledger p es vs id) (above : p.fresh ≤ id) :
    first vs id = none := by
  have hnever : id ∉ began es := List.count_eq_zero.mp (ledger.above above)
  exact Option.not_isSome_iff_eq_none.mp (mt (h id).mp hnever)

theorem Throttles.move (h : Throttles es vs) (heard : Heard es vs)
    (ledger : ∀ id, Ledger p es vs id)
    (hmove : Move now p fs ws p') : Throttles (es ++ fs) (vs ++ ws) := by
  have hmeasured := h.measured
  have hlogged := h.logged
  -- Only one who begins to wait can add to the throttled.
  suffices hnew : measurementsOf (notices fs) =
        List.replicate ((began fs).countP (first (vs ++ ws) · = some false)) .clientThrottled ∧
      (logsOf (notices fs)).map (·.message) =
        List.replicate ((began fs).countP (first (vs ++ ws) · = some false))
          "Client request throttled" by
    constructor
    · rw [throttled_append heard, List.replicate_add, ← hmeasured, ← hnew.1, notices,
        List.filterMap_append, measurementsOf_append]
    · rw [throttled_append heard, List.replicate_add, ← hlogged, ← hnew.2, notices,
        List.filterMap_append, logsOf_append, List.map_append]
  cases hmove with
  | enter other above =>
    have hfirst := heard.first_of_above (ledger other) above
    simp [List.filterMap_cons, first_append, hfirst, first_singleton, measurementsOf, logsOf]
  | wait other span above =>
    have hfirst := heard.first_of_above (ledger other) above
    simp [List.filterMap_cons, first_append, hfirst, first_singleton, measurementsOf, logsOf,
      Notice.measurement?, Notice.log?, LogEvent.message]
  | _ => simp [List.filterMap_cons, measurementsOf, logsOf]

/-! ### Every run -/

/-- What is kept of a limiter in many hands. -/
structure Kept (p : Line) (es : List Event) (vs : List Verdict) : Prop where
  ledger : ∀ id, Ledger p es vs id
  heard : Heard es vs
  totals : Totals es vs
  throttles : Throttles es vs

theorem kept_nil : Kept ⟨0, []⟩ [] [] where
  ledger := ledger_nil
  heard := by simp [Heard, first]
  totals := ⟨rfl, rfl⟩
  throttles := ⟨rfl, rfl⟩

theorem Kept.move (h : Kept p es vs) (hmove : Move now p fs ws p') :
    Kept p' (es ++ fs) (vs ++ ws) where
  ledger := fun id => (h.ledger id).move hmove
  heard := h.heard.move h.ledger hmove
  totals := h.totals.append hmove.totals
  throttles := h.throttles.move h.heard h.ledger hmove

/-- What holds of a limiter that was made with a full bucket, whatever its holders did. -/
structure Conserved (l : Limits α) (start : Instant) (s : LimiterRun α) (es : List Event) :
    Prop where
  /-- The bucket is what those who asked it have left of it. -/
  bucket : s.limiter.bucket = drained l (Bucket.full l.capacity start) es
  /-- One who does not wait is told what the bucket said. -/
  tried : tried es =
    ((verdicts l (Bucket.full l.capacity start) es).filter (·.1 = none)).map (·.2)
  /-- **Every grant is a token that somebody has.** -/
  tokens : (verdicts l (Bucket.full l.capacity start) es).countP (·.2) =
    (LimiterRun.tried es).count true + (completed es).length
  distinct : (began es).Nodup
  /-- Whoever asked to wait has a token, or waits, or gave up, and only one of these. -/
  fates : (began es).Perm (s.limiter.waiters.map (·.id) ++ completed es ++ aborted es)
  /-- Whoever has a token was granted one and no more. -/
  completed : ∀ id ∈ completed es,
    (verdicts l (Bucket.full l.capacity start) es).count (some id, true) = 1
  /-- Whoever gave up has taken no token. -/
  aborted : ∀ id ∈ aborted es, (some id, true) ∉ verdicts l (Bucket.full l.capacity start) es
  waiting : ∀ w ∈ s.limiter.waiters,
    (some w.id, true) ∉ verdicts l (Bucket.full l.capacity start) es
  /-- Whoever was refused at first is counted, once. -/
  counted : ∀ r : Registry, (r.recordAll (notices es)).count (.clientThrottled, []) =
    r.count (.clientThrottled, []) + throttled (verdicts l (Bucket.full l.capacity start) es) es
  /-- And is logged once. -/
  logged : ((logsOf (notices es)).map (·.message)).count "Client request throttled" =
    throttled (verdicts l (Bucket.full l.capacity start) es) es

theorem Kept.distinct (h : Kept p es vs) : (began es).Nodup :=
  List.nodup_iff_count.mpr fun id => (h.ledger id).once

theorem Kept.fates (h : Kept p es vs) :
    (began es).Perm (p.waiting ++ completed es ++ aborted es) := by
  rw [List.perm_iff_count]
  intro id
  rw [List.count_append, List.count_append, (h.ledger id).fate]

theorem Kept.no_token (h : Kept p es vs) (other : id ∈ p.waiting ∨ id ∈ aborted es) :
    (some id, true) ∉ vs := by
  obtain ⟨hfate, honce, -, htoken⟩ := h.ledger id
  rw [← List.count_pos_iff, ← List.count_pos_iff] at other
  rw [← List.count_pos_iff]
  omega

/-- **Tokens are conserved.** However many hold a limiter and whatever they do, every token
that the bucket grants is somebody's, and whoever gave up or waits has none. -/
theorem tokens_conserved (l : Limits α) (start : Instant) (acts : List (Instant × Action)) :
    Conserved l start ((new l start).run acts).1 ((new l start).run acts).2 := by
  obtain ⟨-, hbucket, hkept⟩ := run_induct (P := Kept) (new l start) kept_nil Kept.move acts
  refine ⟨hbucket, hkept.totals.tried, hkept.totals.granted, hkept.distinct, hkept.fates, ?_, ?_,
    ?_, ?_, ?_⟩
  · intro id hid
    obtain ⟨hfate, honce, -, htoken⟩ := hkept.ledger id
    have hpos := List.count_pos_iff.mpr hid
    refine htoken.trans ?_
    omega
  · exact fun id hid => hkept.no_token (.inr hid)
  · exact fun w hw => hkept.no_token (.inl (List.mem_map_of_mem hw))
  · intro r
    rw [Registry.count_recordAll, hkept.throttles.measured, List.countP_replicate]
    rfl
  · rw [hkept.throttles.logged, List.count_replicate_self]
    rfl

end ClusterAgent.LimiterRun
