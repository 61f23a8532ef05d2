/-
The account of every request.

A request draws one token, reaches its service once, ends once and is counted once,
whatever it has to wait for, whoever is dropped, and in whatever order things happen.

* `Dispatcher.Ledger` — for one request: in which place it is, and what happened to it
  until then, in five balances;
* `Dispatcher.Ledger.move` — every move keeps the balances;
* `Dispatcher.Told.move` — what is told of the ends of requests: each is the answer of the
  service or the failure of its check, and each is measured once;
* `Dispatcher.requests_accounted` — both for every run, and what the metrics say.

Design notes: a request is in one of three places, or it ended, or it was dropped.  The
balances count it in each place and in each event, so a move changes them by one here
and there, and the rest is arithmetic.
-/
import ClusterAgent.Proofs.Client.Moves
import ClusterAgent.Proofs.Rate.Draws
import ClusterAgent.Proofs.Telemetry.Counting
import Mathlib.Data.List.Perm.Subperm

namespace ClusterAgent.Dispatcher

/-! ### What happened -/

@[simp] def Event.began? : Event → Option Call
  | .began c => some c
  | _ => none

@[simp] def Event.drew? : Event → Option RequestId
  | .drew id => some id
  | _ => none

@[simp] def Event.reached? : Event → Option Call
  | .seen (.reached c) => some c
  | _ => none

@[simp] def Event.refused? : Event → Option (Call × String)
  | .refused c cause => some (c, cause)
  | _ => none

@[simp] def Event.answered? : Event → Option (Call × Reply)
  | .answered c r => some (c, r)
  | _ => none

@[simp] def Event.finished? : Event → Option (Call × Reply)
  | .seen (.finished c r) => some (c, r)
  | _ => none

@[simp] def Event.dropped? : Event → Option RequestId
  | .dropped id => some id
  | _ => none

@[simp] def Event.notice? : Event → Option Notice
  | .seen (.notice n) => some n
  | _ => none

/-- The request that an event is about, if it is known in full. -/
@[simp] def Event.call? : Event → Option Call
  | .began c | .refused c _ | .answered c _ | .seen (.reached c) | .seen (.finished c _) => some c
  | _ => none

/-- What a request returns because of an event at its service. -/
@[simp] def Event.ending? : Event → Option (Call × Reply)
  | .refused c cause => some (c, .failure cause)
  | .answered c r => some (c, r)
  | _ => none

/-- The requests that were sent. -/
abbrev began (es : List Event) : List Call := es.filterMap Event.began?

/-- Who got a token, for each token. -/
abbrev drew (es : List Event) : List RequestId := es.filterMap Event.drew?

/-- The requests that reached their service. -/
abbrev reached (es : List Event) : List Call := es.filterMap Event.reached?

/-- The requests whose service failed its check, with the cause. -/
abbrev refused (es : List Event) : List (Call × String) := es.filterMap Event.refused?

/-- The answers of services. -/
abbrev answered (es : List Event) : List (Call × Reply) := es.filterMap Event.answered?

/-- The requests that ended, with what they returned. -/
abbrev finished (es : List Event) : List (Call × Reply) := es.filterMap Event.finished?

/-- The requests that were dropped. -/
abbrev dropped (es : List Event) : List RequestId := es.filterMap Event.dropped?

/-- What is logged and measured. -/
abbrev notices (es : List Event) : List Notice := es.filterMap Event.notice?

/-- What services make requests return. -/
abbrev endings (es : List Event) : List (Call × Reply) := es.filterMap Event.ending?

/-! ### Counting by name -/

/-- How often something of a name is in a list. -/
def tally {β : Type} (name : β → Nat) (id : Nat) (l : List β) : Nat :=
  l.countP (name · == id)

section

variable {β : Type} {name : β → Nat} {id : Nat}

@[simp] theorem tally_nil : tally name id [] = 0 := rfl

@[simp] theorem tally_append (l m : List β) :
    tally name id (l ++ m) = tally name id l + tally name id m := List.countP_append

@[simp] theorem tally_singleton (x : β) : tally name id [x] = if name x = id then 1 else 0 := by
  simp [tally, List.countP_cons]

@[simp] theorem tally_filter_ne (l : List β) (other : Nat) :
    tally name id (l.filter (name · != other)) = if id = other then 0 else tally name id l := by
  rw [tally, List.countP_filter]
  split
  · rename_i h
    subst h
    rw [List.countP_eq_zero]
    intro x _
    by_cases hx : name x = id <;> simp [hx]
  · rename_i h
    refine List.countP_congr fun x _ => ?_
    by_cases hx : name x = id
    · simp [hx, h]
    · simp [hx]

theorem tally_eq_count (l : List β) : tally name id l = (l.map name).count id := by
  rw [List.count_eq_countP, List.countP_map]
  rfl

theorem tally_pos_iff {l : List β} : 0 < tally name id l ↔ id ∈ l.map name := by
  rw [tally_eq_count, List.count_pos_iff]

theorem tally_pos {l : List β} {x : β} (h : x ∈ l) : 0 < tally name (name x) l :=
  tally_pos_iff.mpr (List.mem_map_of_mem h)

theorem nodup_of_tally_le_one {l : List β} (h : ∀ id, tally name id l ≤ 1) : (l.map name).Nodup :=
  List.nodup_iff_count.mpr fun id => tally_eq_count l ▸ h id

end

/-- Those that draw their token are counted in the queue then. -/
@[simp] theorem tally_drawn (l : List Call) (id other : Nat) (now : Instant) :
    tally (·.1.id) id ((l.filter (·.id == other)).map (·, now)) =
      if id = other then tally Call.id id l else 0 := by
  rw [tally, List.countP_map, List.countP_filter]
  split
  · rename_i h
    subst h
    exact List.countP_congr fun c _ => by simp
  · rename_i h
    rw [List.countP_eq_zero]
    intro c _
    by_cases hc : c.id = id <;> simp [hc, h]

theorem tally_calls (p : Places) (id : Nat) :
    tally Call.id id p.calls =
      tally Call.id id p.drawing + tally (·.1.id) id p.queued + tally (·.1.id) id p.sent := by
  simp only [Places.calls, tally, List.countP_append, List.countP_map]
  rfl

/-! ### Balances -/

/-- One for a number under which a request can have been sent. -/
def used (fresh id : Nat) : Nat := if id < fresh then 1 else 0

theorem used_le_one (fresh id : Nat) : used fresh id ≤ 1 := by
  rw [used]
  split <;> omega

/-- Under a number above all before is no request yet. -/
theorem used_succ {fresh c : Nat} (above : fresh ≤ c) (id : Nat) :
    used fresh id + (if c = id then 1 else 0) ≤ used (c + 1) id := by
  simp only [used]
  split_ifs <;> omega

/-- Where a request is and what happened to it. -/
structure Ledger (p : Places) (es : List Event) (id : Nat) : Prop where
  /-- It was sent once at most. -/
  sent : tally Call.id id (began es) ≤ used p.fresh id
  /-- A request that was sent is in one place, or it ended, or it was dropped. -/
  whereabouts :
    tally Call.id id p.drawing + tally (·.1.id) id p.queued + tally (·.1.id) id p.sent +
      tally (·.1.id) id (finished es) + (dropped es).count id = tally Call.id id (began es)
  /-- It draws no token while it waits for one. -/
  drew : (drew es).count id + tally Call.id id p.drawing ≤ tally Call.id id (began es)
  /-- It leaves the queue in one way, and was there because of its token. -/
  left : tally (·.1.id) id p.queued + tally Call.id id (reached es) +
    tally (·.1.id) id (refused es) ≤ (Dispatcher.drew es).count id
  /-- It has one reply at most, and this because it reached its service. -/
  replied : tally (·.1.id) id p.sent + tally (·.1.id) id (answered es) ≤
    tally Call.id id (reached es)
  /-- It ends as its service says. -/
  ended : tally (·.1.id) id (finished es) =
    tally (·.1.id) id (refused es) + tally (·.1.id) id (answered es)

variable {p p' : Places} {es fs : List Event} {now : Instant} {id : Nat}

theorem ledger_nil (id : Nat) : Ledger ⟨0, [], [], []⟩ [] id := by
  constructor <;> simp

/-- **Every move keeps the balances.** -/
theorem Ledger.move (h : Ledger p es id) (hmove : Move now p fs p') :
    Ledger p' (es ++ fs) id := by
  obtain ⟨hsent, hwhere, hdrew, hleft, hreplied, hended⟩ := h
  simp only [began, Dispatcher.drew, reached, refused, answered, finished, dropped]
    at hsent hwhere hdrew hleft hreplied hended
  have hone := used_le_one p.fresh id
  cases hmove with
  | idle =>
    rw [List.append_nil]
    exact ⟨hsent, hwhere, hdrew, hleft, hreplied, hended⟩
  | wait c ns above =>
    have hnew := used_succ above id
    constructor <;> simp [List.filterMap_cons, Function.comp_def] <;> omega
  | enter c above =>
    have hnew := used_succ above id
    constructor <;> simp [List.filterMap_cons, List.count_singleton] <;> omega
  | draw other waits =>
    obtain ⟨c, hc, rfl⟩ := waits
    have hpos : 0 < tally Call.id c.id p.drawing := tally_pos hc
    by_cases own : id = c.id
    · subst own
      constructor <;> simp [List.filterMap_cons] <;> omega
    · constructor <;> simp [List.filterMap_cons, own, Ne.symm own] <;> omega
  | handOver c since waits =>
    have hpos : 0 < tally (·.1.id) c.id p.queued := tally_pos waits
    by_cases own : id = c.id
    · subst own
      constructor <;> simp [List.filterMap_cons] <;> omega
    · constructor <;> simp [List.filterMap_cons, own, Ne.symm own] <;> omega
  | refuse c since cause waits =>
    have hpos : 0 < tally (·.1.id) c.id p.queued := tally_pos waits
    by_cases own : id = c.id
    · subst own
      constructor <;> simp [RequestLayer.accounted, List.filterMap_cons] <;> omega
    · constructor <;> simp [RequestLayer.accounted, List.filterMap_cons, own, Ne.symm own] <;> omega
  | answer c since r waits =>
    have hpos : 0 < tally (·.1.id) c.id p.sent := tally_pos waits
    by_cases own : id = c.id
    · subst own
      constructor <;> simp [RequestLayer.accounted, List.filterMap_cons] <;> omega
    · constructor <;> simp [RequestLayer.accounted, List.filterMap_cons, own, Ne.symm own] <;> omega
  | drop other pending =>
    obtain ⟨c, hc, rfl⟩ := pending
    have hpos : 0 < tally Call.id c.id p.calls := tally_pos hc
    rw [tally_calls] at hpos
    by_cases own : id = c.id
    · subst own
      constructor <;> simp [Places.without, List.filterMap_cons] <;> omega
    · constructor <;> simp [Places.without, List.filterMap_cons, own, Ne.symm own] <;> omega

/-! ### What is told -/

/-- What is told of requests that end. -/
structure Told (es : List Event) : Prop where
  /-- A request returns what its service said. -/
  returned : finished es = endings es
  /-- It is measured under its method and status. -/
  measured : (notices es).filterMap Notice.request? =
    (finished es).map fun f => (f.1.method, f.2.status?)

theorem Told.append (h : Told es) (h' : Told fs) : Told (es ++ fs) := by
  constructor
  · simp only [List.filterMap_append, h.returned, h'.returned]
  · simp only [List.filterMap_append, List.map_append, h.measured, h'.measured]

/-- **Every move tells of an end as it should.** -/
theorem Move.told (hmove : Move now p fs p') : Told fs := by
  cases hmove with
  | wait c ns fresh uncounted =>
    have hnone : ns.filterMap Notice.request? = [] := List.filterMap_eq_nil_iff.mpr uncounted
    constructor <;> simp [List.filterMap_cons, Function.comp_def, hnone]
  | _ => constructor <;> simp [List.filterMap_cons, RequestLayer.accounted, Notice.request?,
      Notice.measurement?, Measurement.request?]

/-! ### Requests as they were sent -/

/-- Everything on its way and everything told is of requests as they were sent. -/
structure Known (p : Places) (es : List Event) : Prop where
  places : ∀ c ∈ p.calls, c ∈ began es
  events : ∀ e ∈ es, ∀ c, e.call? = some c → c ∈ began es

theorem mem_calls {c : Call} :
    c ∈ p.calls ↔ c ∈ p.drawing ∨ (∃ t, (c, t) ∈ p.queued) ∨ ∃ t, (c, t) ∈ p.sent := by
  simp [Places.calls]

/-- Whatever is on its way after a move was so before, or was sent just now. -/
theorem Move.calls (hmove : Move now p fs p') {c : Call} (hc : c ∈ p'.calls) :
    c ∈ p.calls ∨ c ∈ began fs := by
  rw [mem_calls] at hc ⊢
  cases hmove <;> grind [Event.began?, Places.without]

/-- What a move tells is of requests on their way, or of one sent just now. -/
theorem Move.events (hmove : Move now p fs p') {e : Event} (he : e ∈ fs) {c : Call}
    (hc : e.call? = some c) : c ∈ p.calls ∨ c ∈ began fs := by
  rw [mem_calls]
  cases hmove <;> grind [Event.call?, Event.began?, RequestLayer.accounted]

/-- **Every move is of a request that was sent.** -/
theorem Known.move (h : Known p es) (hmove : Move now p fs p') : Known p' (es ++ fs) := by
  obtain ⟨hplaces, hevents⟩ := h
  have happend : began (es ++ fs) = began es ++ began fs := List.filterMap_append
  have hsent : ∀ {c}, c ∈ p.calls ∨ c ∈ began fs → c ∈ began (es ++ fs) := by
    intro c hc
    rw [happend]
    exact List.mem_append.mpr (hc.imp_left (hplaces c))
  refine ⟨fun c hc => hsent (hmove.calls hc), fun e he c hc => ?_⟩
  rcases List.mem_append.mp he with he | he
  · rw [happend]
    exact List.mem_append_left _ (hevents e he c hc)
  · exact hsent (hmove.events he hc)

/-! ### Order -/

/-- A request that reaches its service got its token before. -/
def Ordered (es : List Event) : Prop :=
  ∀ before c after, es = before ++ .seen (.reached c) :: after → c.id ∈ drew before

/-- Only a request in the queue reaches its service, and nothing else happens then. -/
theorem Move.reached (hmove : Move now p fs p') {c : Call} (hc : .seen (.reached c) ∈ fs) :
    fs = [.seen (.reached c)] ∧ ∃ t, (c, t) ∈ p.queued := by
  cases hmove <;> grind [RequestLayer.accounted]

/-- A request in the queue got its token. -/
theorem Ledger.drew_of_queued {c : Call} {t : Instant} (h : Ledger p es c.id)
    (hq : (c, t) ∈ p.queued) : c.id ∈ Dispatcher.drew es := by
  have hpos : 0 < tally (·.1.id) c.id p.queued := tally_pos hq
  have hleft := h.left
  exact List.count_pos_iff.mp (by omega)

/-- **Every move keeps the order.** -/
theorem Ordered.move (h : Ordered es) (ledger : ∀ id, Ledger p es id) (hmove : Move now p fs p') :
    Ordered (es ++ fs) := by
  intro before c after heq
  -- Either it reached its service before, or this is all that happens now.
  have hnow : ∀ front, fs = front ++ .seen (.reached c) :: after → c.id ∈ drew es := by
    intro front hfs
    obtain ⟨-, t, ht⟩ := hmove.reached (c := c) (by simp [hfs])
    exact (ledger c.id).drew_of_queued ht
  rcases List.append_eq_append_iff.mp heq with ⟨front, rfl, hfs⟩ | ⟨rest, hes, hrest⟩
  · rw [drew, List.filterMap_append]
    exact List.mem_append_left _ (hnow front hfs)
  · cases rest with
    | nil =>
      rw [List.append_nil] at hes
      exact hes ▸ hnow [] hrest.symm
    | cons e rest =>
      obtain ⟨rfl, rfl⟩ := List.cons.inj hrest
      exact h before c rest hes

section

variable {α : Type} [TokenArithmetic α] {d : Dispatcher α}

/-! ### What services did -/

/-- What is told of a service is what it did just now. -/
theorem told_of_step {a : Action} {e : Event} (he : e ∈ (d.step now a).2) :
    (∀ c, e = .seen (.reached c) → a = .check c.id ∧ d.layer.readiness c.service = .ready) ∧
      (∀ c cause, e = .refused c cause →
        a = .check c.id ∧ d.layer.readiness c.service = .failing cause) ∧
      ∀ c r, e = .answered c r → a = .reply c.id r := by
  cases a with
  | send c =>
    simp only [step, send, RequestLayer.send] at he
    grind
  | retry id =>
    simp only [step, retry] at he
    grind
  | check id =>
    simp only [step] at he
    rcases check_cases d id now with h | ⟨c, since, -, rfl, -, ⟨hready, h⟩ | ⟨cause, hready, h⟩⟩ <;>
      rw [h] at he
    · exact absurd he List.not_mem_nil
    · obtain rfl := List.mem_singleton.mp he
      simp [hready]
    · simp only [RequestLayer.accounted, List.map_cons, List.map_nil] at he
      grind
  | reply id r =>
    simp only [step, reply, RequestLayer.reply] at he
    cases hfind : d.layer.sent.find? (·.1.id == id) with
    | none => simp [hfind] at he
    | some q =>
      have hid : q.1.id = id := by simpa using List.find?_some hfind
      simp only [hfind, RequestLayer.accounted, Option.map_some, Option.toList_some] at he
      grind
  | cancel id =>
    simp only [step, cancel] at he
    grind
  | _ => exact absurd he List.not_mem_nil

/-! ### Every run -/

/-- What is kept of all requests together. -/
structure Kept (p : Places) (es : List Event) : Prop where
  ledger : ∀ id, Ledger p es id
  told : Told es
  known : Known p es
  ordered : Ordered es

theorem kept_nil : Kept ⟨0, [], [], []⟩ [] where
  ledger := ledger_nil
  told := ⟨rfl, rfl⟩
  known := ⟨by simp [Places.calls], by simp⟩
  ordered := by simp [Ordered]

theorem Kept.move (h : Kept p es) (hmove : Move now p fs p') : Kept p' (es ++ fs) where
  ledger := fun id => (h.ledger id).move hmove
  told := h.told.append hmove.told
  known := h.known.move hmove
  ordered := h.ordered.move h.ledger hmove

theorem kept_run (limiter : Limiter α) (acts : List (Instant × Action)) :
    Kept ((new limiter).run acts).1.places ((new limiter).run acts).2 :=
  run_induct (new limiter) kept_nil Kept.move acts

/-- The account of all requests: what happened to them until now, what is measured of it, and
what can happen to them next. -/
structure Accounted (d : Dispatcher α) (es : List Event) : Prop where
  /-- Every request has a name of its own, and nothing is told but of a request as it was sent. -/
  names : ((began es).map (·.id)).Nodup
  sent : ∀ e ∈ es, ∀ c, e.call? = some c → c ∈ began es
  /-- One token each. -/
  tokens : (drew es).Nodup
  /-- One visit each, and this after the token. -/
  hits : ((reached es).map (·.id)).Nodup
  order : Ordered es
  hits_le_tokens : (reached es).length ≤ (drew es).length
  /-- A request whose service fails its check does not reach it, and returns the failure. -/
  refusals : ∀ c cause, (c, cause) ∈ refused es →
    c.id ∉ (reached es).map (·.id) ∧ (c, .failure cause) ∈ finished es
  /-- A request whose service answers did reach it. -/
  answers : ∀ c r, (c, r) ∈ answered es → c.id ∈ (reached es).map (·.id)
  /-- Requests return what their services say, each once. -/
  returns : finished es = endings es
  ends : ((finished es).map (·.1.id)).Nodup
  /-- Every request that was sent is on its way, or was dropped, or ended, and only one of these. -/
  fate : ∀ c ∈ began es, d.isPending c.id ∨ c.id ∈ dropped es ∨ c.id ∈ (finished es).map (·.1.id)
  unfinished : ∀ id, d.isPending id ∨ id ∈ dropped es → id ∉ (finished es).map (·.1.id)
  /-- What services say is what they are asked. -/
  next : ∀ now a, ∀ e ∈ (d.step now a).2,
    (∀ c, e = .seen (.reached c) → a = .check c.id ∧ d.layer.readiness c.service = .ready) ∧
      (∀ c cause, e = .refused c cause →
        a = .check c.id ∧ d.layer.readiness c.service = .failing cause) ∧
      ∀ c r, e = .answered c r → a = .reply c.id r
  /-- Each request that ended is counted under its method and status, and there is one sample
  of its duration. -/
  counted : ∀ (r : Registry) method status,
    (r.recordAll (notices es)).count (.clientRequests, [("method", method), ("status", status)]) =
      r.count (.clientRequests, [("method", method), ("status", status)]) +
        (finished es).countP fun f => f.1.method == method && statusLabel f.2.status? == status
  timed : ∀ (r : Registry) method, (r.recordAll (notices es)).durations method =
    r.durations method + (finished es).countP (·.1.method = method)
  total : ∀ r : Registry, (r.recordAll (notices es)).total .clientRequests =
    r.total .clientRequests + (finished es).length

omit [TokenArithmetic α] in
theorem isPending_iff_tally {id : Nat} :
    d.isPending id ↔ 0 < tally Call.id id d.places.calls := by
  rw [isPending_iff, tally_pos_iff, List.mem_map]

/-- What the metrics of requests say after measurements of the requests that ended. -/
theorem Told.counted (h : Told es) (q : String × Option Nat → Bool) :
    ((notices es).filterMap Notice.request?).countP q =
      (finished es).countP fun f => q (f.1.method, f.2.status?) := by
  rw [h.measured, List.countP_map]
  rfl

theorem Kept.accounted (h : Kept d.places es) : Accounted d es := by
  obtain ⟨hledger, htold, hknown, hordered⟩ := h
  -- A name is of one request at most, which the balances pass on to all that happens to it.
  have hsent : ∀ id, tally Call.id id (began es) ≤ 1 := fun id =>
    Nat.le_trans (hledger id).sent (used_le_one _ id)
  have hdrew : ∀ id, (drew es).count id ≤ 1 := fun id => by
    have := hsent id
    have := (hledger id).drew
    omega
  have hreached : ∀ id, tally Call.id id (reached es) ≤ (drew es).count id := fun id => by
    have := (hledger id).left
    omega
  have hends : ∀ id, tally (·.1.id) id (finished es) ≤ 1 := fun id => by
    have := hsent id
    have := (hledger id).whereabouts
    omega
  have hhits : ((reached es).map (·.id)).Nodup :=
    nodup_of_tally_le_one fun id => Nat.le_trans (hreached id) (hdrew id)
  constructor
  case names => exact nodup_of_tally_le_one hsent
  case sent => exact hknown.events
  case tokens => exact List.nodup_iff_count.mpr hdrew
  case hits => exact hhits
  case order => exact hordered
  case hits_le_tokens =>
    have hsub : (reached es).map (·.id) ⊆ drew es := fun id hid =>
      List.count_pos_iff.mp (Nat.lt_of_lt_of_le (tally_pos_iff.mpr hid) (hreached id))
    simpa using (hhits.subperm hsub).length_le
  case refusals =>
    intro c cause hmem
    have hpos : 0 < tally (·.1.id) c.id (refused es) := tally_pos hmem
    refine ⟨fun hid => ?_, ?_⟩
    · have hid' : 0 < tally Call.id c.id (reached es) := tally_pos_iff.mpr hid
      have := (hledger c.id).left
      have := hdrew c.id
      omega
    · obtain ⟨e, he, hrefused⟩ := List.mem_filterMap.mp hmem
      rw [htold.returned]
      refine List.mem_filterMap.mpr ⟨e, he, ?_⟩
      cases e <;> simp_all
  case answers =>
    intro c r hmem
    have hpos : 0 < tally (·.1.id) c.id (answered es) := tally_pos hmem
    have hreplied := (hledger c.id).replied
    have hpos' : 0 < tally Call.id c.id (reached es) := by omega
    exact tally_pos_iff.mp hpos'
  case returns => exact htold.returned
  case ends => exact nodup_of_tally_le_one hends
  case fate =>
    intro c hc
    have hpos : 0 < tally Call.id c.id (began es) := tally_pos hc
    have hwhere := (hledger c.id).whereabouts
    rw [isPending_iff_tally, tally_calls, ← List.count_pos_iff, ← tally_pos_iff]
    omega
  case unfinished =>
    intro id hid hfinished
    have hwhere := (hledger id).whereabouts
    have := hsent id
    rw [isPending_iff_tally, tally_calls, ← List.count_pos_iff] at hid
    rw [← tally_pos_iff] at hfinished
    omega
  case next => exact fun now a e he => told_of_step he
  case counted =>
    intro r method status
    rw [Registry.count_requests, htold.counted]
  case timed =>
    intro r method
    rw [Registry.durations_requests, htold.counted]
  case total =>
    intro r
    rw [Registry.total_requests, htold.measured, List.length_map]

/-- **Every request is accounted for.** -/
theorem requests_accounted (limiter : Limiter α) (acts : List (Instant × Action)) :
    Accounted ((new limiter).run acts).1 ((new limiter).run acts).2 :=
  (kept_run limiter acts).accounted

end

/-! ### Tokens -/

theorem drew_cancel {α : Type} (d : Dispatcher α) (id : RequestId) : drew (d.cancel id).2 = [] := by
  rw [cancel]
  dsimp only
  split <;> rfl

/-- **Every token told of left the bucket.** What an action takes from the bucket are the tokens
of the requests that drew one, unless it takes a token without a request. -/
theorem step_drew {limits : Limits ℚ} (hl : limits.Valid) {d : Dispatcher ℚ}
    (h : d.layer.limiter.Holds limits) (now : Instant) {a : Action} (ha : a ≠ .tryAcquire) :
    Limiter.Drew limits now d.layer.limiter (d.step now a).1.layer.limiter
      (drew (d.step now a).2).length := by
  have hsame : Limiter.Drew limits now d.layer.limiter d.layer.limiter 0 := ⟨h, by simp⟩
  cases a with
  | send c =>
    have hdrew := h.acquire hl c.id now
    simp only [step, send]
    split
    · exact hsame
    · rw [RequestLayer.send]
      rcases hacq : d.layer.limiter.acquire c.id now with ⟨got, limiter, ns⟩
      rw [hacq] at hdrew
      cases got <;> simpa [List.filterMap_cons, Function.comp_def] using hdrew
  | retry id =>
    have hdrew := h.retryAll hl [id] now
    simp only [step, retry]
    split
    · simpa [RequestLayer.drawn, Function.comp_def] using hdrew
    · exact hsame
  | ask id =>
    simp only [step]
    rw [ask_eq]
    exact hsame
  | check id =>
    simp only [step]
    rcases check_cases d id now with h | ⟨c, since, -, -, -, ⟨-, h⟩ | ⟨cause, -, h⟩⟩ <;> rw [h]
    · exact hsame
    · exact hsame
    · exact hsame
  | reply id r =>
    simp only [step, reply, RequestLayer.reply]
    cases d.layer.sent.find? (·.1.id == id) <;> exact hsame
  | cancel id =>
    simp only [step, drew_cancel]
    exact hsame.of_waiters _
  | setReadiness service r => exact hsame
  | tryAcquire => exact absurd rfl ha

end ClusterAgent.Dispatcher
