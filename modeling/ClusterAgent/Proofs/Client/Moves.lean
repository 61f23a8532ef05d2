/-
Where requests are, and how they move.

A request waits for its token, or it has one and waits for its service, or it was
handed over and waits for the reply.  Whatever is done to a dispatcher moves at
most one request, and this in one of seven ways.

* `Dispatcher.Places` — the requests in each of the three places;
* `Dispatcher.Move` — the ways in which a request moves, with what is told of it;
* `Dispatcher.step_move` — every action is one of them, or moves nobody;
* `Dispatcher.run_induct` — so what every move keeps holds after every run.

Design notes: what the actions do to tokens and locks is left out here, so that what
is kept by every move needs no look at the limiter or at a lock.
-/
import ClusterAgent.Client.Dispatcher
import ClusterAgent.Proofs.Telemetry.Counting
import Mathlib.Data.List.Induction

namespace ClusterAgent.Dispatcher

/-- The requests that were not dropped and did not end, and the least number for the next one. -/
structure Places where
  fresh : RequestId
  drawing : List Call
  queued : List (Call × Instant)
  sent : List (Call × Instant)

namespace Places

/-- Every request that is on its way. -/
def calls (p : Places) : List Call := p.drawing ++ p.queued.map (·.1) ++ p.sent.map (·.1)

/-- Without the requests of a name. -/
def without (p : Places) (id : RequestId) : Places :=
  { p with
    drawing := p.drawing.filter (·.id != id)
    queued := p.queued.filter (·.1.id != id)
    sent := p.sent.filter (·.1.id != id) }

theorem without_eq_self {p : Places} {id : RequestId} (h : ∀ c ∈ p.calls, c.id ≠ id) :
    p.without id = p := by
  have hd : ∀ c ∈ p.drawing, c.id ≠ id := fun c hc => h c (by simp [calls, hc])
  have hq : ∀ q ∈ p.queued, q.1.id ≠ id := fun q hq =>
    h q.1 (by simp only [calls, List.mem_append, List.mem_map]; exact .inl (.inr ⟨q, hq, rfl⟩))
  have hs : ∀ q ∈ p.sent, q.1.id ≠ id := fun q hq =>
    h q.1 (by simp only [calls, List.mem_append, List.mem_map]; exact .inr ⟨q, hq, rfl⟩)
  have hd' : p.drawing.filter (·.id != id) = p.drawing :=
    List.filter_eq_self.mpr (by simpa using hd)
  have hq' : p.queued.filter (·.1.id != id) = p.queued :=
    List.filter_eq_self.mpr (by simpa using hq)
  have hs' : p.sent.filter (·.1.id != id) = p.sent := List.filter_eq_self.mpr (by simpa using hs)
  rw [without, hd', hq', hs']

end Places

/-- One request moves. -/
inductive Move (now : Instant) (p : Places) : List Event → Places → Prop
  | idle : Move now p [] p
  /-- A request is sent and begins to wait for a token. -/
  | wait (c : Call) (ns : List Notice) (above : p.fresh ≤ c.id)
      (uncounted : ∀ n ∈ ns, n.request? = none) :
      Move now p (.began c :: ns.map fun n => .seen (.notice n))
        { p with fresh := c.id + 1, drawing := p.drawing ++ [c] }
  /-- A request is sent and gets its token at once. -/
  | enter (c : Call) (above : p.fresh ≤ c.id) :
      Move now p [.began c, .drew c.id]
        { p with fresh := c.id + 1, queued := p.queued ++ [(c, now)] }
  /-- A request that waits for a token gets it. -/
  | draw (id : RequestId) (waits : ∃ c ∈ p.drawing, c.id = id) :
      Move now p [.drew id]
        { p with
          drawing := p.drawing.filter (·.id != id)
          queued := p.queued ++ (p.drawing.filter (·.id == id)).map (·, now) }
  /-- A request is handed over to its service. -/
  | handOver (c : Call) (since : Instant) (waits : (c, since) ∈ p.queued) :
      Move now p [.seen (.reached c)]
        { p with queued := p.queued.filter (·.1.id != c.id), sent := p.sent ++ [(c, since)] }
  /-- The service of a request fails its check. -/
  | refuse (c : Call) (since : Instant) (cause : String) (waits : (c, since) ∈ p.queued) :
      Move now p
        (.refused c cause :: (RequestLayer.accounted c since now (.failure cause)).map .seen)
        { p with queued := p.queued.filter (·.1.id != c.id) }
  /-- The service of a request answers. -/
  | answer (c : Call) (since : Instant) (r : Reply) (waits : (c, since) ∈ p.sent) :
      Move now p (.answered c r :: (RequestLayer.accounted c since now r).map .seen)
        { p with sent := p.sent.filter (·.1.id != c.id) }
  | drop (id : RequestId) (pending : ∃ c ∈ p.calls, c.id = id) :
      Move now p [.dropped id] (p.without id)

section

variable {α : Type}

/-- Where the requests of a dispatcher are. -/
def places (d : Dispatcher α) : Places :=
  ⟨d.fresh, d.layer.drawing, d.layer.queued, d.layer.sent⟩

theorem isPending_iff (d : Dispatcher α) (id : RequestId) :
    d.isPending id ↔ ∃ c ∈ d.places.calls, c.id = id := by
  simp only [isPending, Bool.or_eq_true, List.any_eq_true, beq_iff_eq, Places.calls, places,
    List.mem_append, List.mem_map]
  constructor
  · rintro ((⟨c, hc, h⟩ | ⟨q, hq, h⟩) | ⟨q, hq, h⟩)
    · exact ⟨c, .inl (.inl hc), h⟩
    · exact ⟨q.1, .inl (.inr ⟨q, hq, rfl⟩), h⟩
    · exact ⟨q.1, .inr ⟨q, hq, rfl⟩, h⟩
  · rintro ⟨c, (hc | ⟨q, hq, rfl⟩) | ⟨q, hq, rfl⟩, h⟩
    · exact .inl (.inl ⟨c, hc, h⟩)
    · exact .inl (.inr ⟨q, hq, h⟩)
    · exact .inr ⟨q, hq, h⟩

theorem queued?_eq_some {d : Dispatcher α} {id : RequestId} {c : Call} {since : Instant}
    (h : d.queued? id = some (c, since)) : (c, since) ∈ d.layer.queued ∧ c.id = id :=
  ⟨List.mem_of_find?_eq_some h, by simpa using List.find?_some h⟩

/-! ### What each action does -/

theorem drawn_none (l : RequestLayer α) (now : Instant) : l.drawn [] now = l := by
  have hall : l.drawing.filter (fun _ => true) = l.drawing := by simp
  have hnone : l.drawing.filter (fun _ => false) = [] := by simp
  simp only [RequestLayer.drawn, List.contains_nil, Bool.not_false, hall, hnone, List.map_nil,
    List.append_nil]

theorem drawn_one (l : RequestLayer α) (id : RequestId) (now : Instant) :
    l.drawn [id] now =
      { l with
        drawing := l.drawing.filter (·.id != id)
        queued := l.queued ++ (l.drawing.filter (·.id == id)).map (·, now) } := by
  simp only [RequestLayer.drawn, List.contains_cons, List.contains_nil, Bool.or_false, bne]

/-- To ask for a lock changes locks only. -/
theorem ask_eq (d : Dispatcher α) (id : RequestId) :
    d.ask id = { d with locks := (d.ask id).locks } := by
  rw [ask]
  split
  · dsimp only
    split <;> rfl
  · rfl

theorem places_ask (d : Dispatcher α) (id : RequestId) : (d.ask id).places = d.places := by
  rw [ask_eq]
  rfl

/-- What a check does: nothing, or the request is handed over, or it ends. -/
theorem check_cases (d : Dispatcher α) (id : RequestId) (now : Instant) :
    d.check id now = (d, []) ∨ ∃ c since, (c, since) ∈ d.layer.queued ∧ c.id = id ∧
      (d.locks c.service).holder? = some id ∧
      (d.layer.readiness c.service = .ready ∧ d.check id now =
          ({ d.pass c with
              layer := { (d.pass c).layer with sent := d.layer.sent ++ [(c, since)] } },
            [.seen (.reached c)]) ∨
        ∃ cause, d.layer.readiness c.service = .failing cause ∧ d.check id now =
          (d.pass c, .refused c cause ::
            (RequestLayer.accounted c since now (.failure cause)).map .seen)) := by
  rw [check]
  split
  · rename_i c since hfind
    obtain ⟨hmem, hid⟩ := queued?_eq_some hfind
    split
    · rename_i hholds
      rcases hready : d.layer.readiness c.service with _ | _ | cause
      · exact .inr ⟨c, since, hmem, hid, hholds, .inl ⟨hready, rfl⟩⟩
      · exact .inl rfl
      · exact .inr ⟨c, since, hmem, hid, hholds, .inr ⟨cause, hready, rfl⟩⟩
    · exact .inl rfl
  · exact .inl rfl

theorem check_move (d : Dispatcher α) (id : RequestId) (now : Instant) :
    Move now d.places (d.check id now).2 (d.check id now).1.places := by
  rcases check_cases d id now with h | ⟨c, since, hmem, -, -, ⟨-, h⟩ | ⟨cause, -, h⟩⟩ <;> rw [h]
  · exact .idle
  · exact .handOver c since hmem
  · exact .refuse c since cause hmem

theorem reply_move (d : Dispatcher α) (id : RequestId) (r : Reply) (now : Instant) :
    Move now d.places (d.reply id r now).2 (d.reply id r now).1.places := by
  rw [reply, RequestLayer.reply]
  cases hfind : d.layer.sent.find? (·.1.id == id) with
  | none => exact .idle
  | some q =>
    obtain ⟨c, since⟩ := q
    obtain rfl : c.id = id := by simpa using List.find?_some hfind
    exact Move.answer c since r (List.mem_of_find?_eq_some hfind)

theorem cancel_move (d : Dispatcher α) (id : RequestId) (now : Instant) :
    Move now d.places (d.cancel id).2 (d.cancel id).1.places := by
  have hplaces : (d.cancel id).1.places = d.places.without id := rfl
  have htold : (d.cancel id).2 = if d.isPending id then [.dropped id] else [] := rfl
  rw [hplaces, htold]
  split
  · rename_i h
    exact .drop id ((isPending_iff d id).mp h)
  · rename_i h
    have hnone : ∀ c ∈ d.places.calls, c.id ≠ id := fun c hc hid =>
      h ((isPending_iff d id).mpr ⟨c, hc, hid⟩)
    rw [Places.without_eq_self hnone]
    exact .idle

end

variable {α : Type} [TokenArithmetic α]

theorem acquire_uncounted (l : Limiter α) (id : RequestId) (now : Instant) :
    ∀ n ∈ (l.acquire id now).2.2, n.request? = none := by
  rw [Limiter.acquire]
  dsimp only
  split <;> simp [Notice.request?, Notice.measurement?, Measurement.request?]

theorem send_move (d : Dispatcher α) (c : Call) (now : Instant) :
    Move now d.places (d.send c now).2 (d.send c now).1.places := by
  by_cases hold : c.id < d.fresh
  · rw [send, if_pos hold]
    exact .idle
  have hns := acquire_uncounted d.layer.limiter c.id now
  rcases hacq : d.layer.limiter.acquire c.id now with ⟨got, limiter, ns⟩
  rw [hacq] at hns
  cases got
  · have hmove : Move now d.places _ _ := .wait c ns (Nat.le_of_not_lt hold) hns
    simpa [send, hold, RequestLayer.send, hacq, places, Function.comp_def] using hmove
  · -- A request that gets its token at once is not told of as a throttled one.
    have hnil : ns = [] := by
      rw [Limiter.acquire] at hacq
      dsimp only at hacq
      split at hacq
      · exact (Prod.ext_iff.mp (Prod.ext_iff.mp hacq).2).2.symm
      · exact absurd (Prod.ext_iff.mp hacq).1 Bool.false_ne_true
    have hmove : Move now d.places _ _ := .enter c (Nat.le_of_not_lt hold)
    simpa [send, hold, RequestLayer.send, hacq, places, hnil] using hmove

theorem retry_move (d : Dispatcher α) (id : RequestId) (now : Instant) :
    Move now d.places (d.retry id now).2 (d.retry id now).1.places := by
  rw [retry]
  split
  · rename_i h
    have waits : ∃ c ∈ d.places.drawing, c.id = id := by simpa [places] using h
    rcases hretry : d.layer.limiter.retry id now with ⟨got, limiter⟩
    cases got
    · simp only [Limiter.retryAll, hretry, Bool.false_eq_true, if_false, drawn_none, List.map_nil]
      exact .idle
    · simp only [Limiter.retryAll, hretry, if_true, drawn_one, List.map_cons, List.map_nil]
      exact .draw id waits
  · exact .idle

/-- **Every action is a move.** -/
theorem step_move (d : Dispatcher α) (now : Instant) (a : Action) :
    Move now d.places (d.step now a).2 (d.step now a).1.places := by
  cases a with
  | send c => exact send_move d c now
  | retry id => exact retry_move d id now
  | ask id =>
    show Move now d.places [] (d.ask id).places
    rw [places_ask]
    exact .idle
  | check id => exact check_move d id now
  | reply id r => exact reply_move d id r now
  | cancel id => exact cancel_move d id now
  | setReadiness service r => exact .idle
  | tryAcquire => exact .idle

/-- What every move keeps holds after every run. -/
theorem run_induct {P : Places → List Event → Prop} (d : Dispatcher α) (start : P d.places [])
    (keep : ∀ {p es now fs p'}, P p es → Move now p fs p' → P p' (es ++ fs))
    (acts : List (Instant × Action)) : P (d.run acts).1.places (d.run acts).2 := by
  induction acts using List.reverseRecOn with
  | nil => exact start
  | append_singleton acts act ih =>
    rw [run_append]
    have hstep := keep ih (step_move (d.run acts).1 act.1 act.2)
    simpa [run] using hstep

end ClusterAgent.Dispatcher
