/-
A snapshot loses nothing of the configuration.

Everything that is shown of a configuration is read back to it, so the agent can be started
again with what its debug endpoint shows.

* `Configuration.ShownBy` — the parts of a snapshot read to the parts of a configuration;
  `ShownBy.unique` — no two configurations are shown alike;
* `Snapshot.Shows` — the texts that a snapshot offers for a parameter;
* `Configuration.resolve_shown` — settings of those texts, however they are written, resolve
  to the configuration that was shown;
* `Configuration.resolve_settings` — there are such settings for every configuration, and the
  texts stand in the document served;
* `Configuration.snapshot_faithful` — all of it, for whatever flags resolve to.

Design notes: a rate is shown as the number and not as a text, and any text that stands for
that number will do.  The format of the log lines is no part of the configuration.
-/
import ClusterAgent.Config.Snapshot
import ClusterAgent.Proofs.Config.Addresses
import ClusterAgent.Proofs.Config.Arguments
import ClusterAgent.Proofs.Config.Resolution
import ClusterAgent.Proofs.Decimal.Written
import ClusterAgent.Proofs.Time.Phrases

namespace ClusterAgent

namespace CredentialsSource

theorem text_eq_ambient_iff {source : CredentialsSource} :
    source.text = "in-cluster config" ↔ source = .ambient := by
  cases source with
  | ambient => exact iff_of_true rfl rfl
  | explicit path =>
    refine iff_of_false (fun h => ?_) nofun
    -- The first letters differ.
    have hfirst := congrArg (fun s : String => s.toList.head?) h
    simp [text] at hfirst

theorem text_eq_explicit_iff {source : CredentialsSource} {path : String} :
    source.text = "kubeconfig " ++ path ↔ source = .explicit path := by
  cases source with
  | ambient =>
    refine iff_of_false (fun h => ?_) nofun
    have hfirst := congrArg (fun s : String => s.toList.head?) h
    simp [text] at hfirst
  | explicit path' =>
    rw [explicit.injEq]
    refine ⟨fun h => ?_, fun h => h ▸ rfl⟩
    rwa [text, ← String.toList_inj, String.toList_append, String.toList_append,
      List.append_cancel_left_eq, String.toList_inj] at h

end CredentialsSource

/-! ### Reading a snapshot -/

/-- Every part of a snapshot reads to that part of a configuration. -/
structure Configuration.ShownBy (c : Configuration) (s : Snapshot) : Prop where
  ambient : s.credentials = "in-cluster config" ↔ c.credentials = .ambient
  explicit : ∀ path, s.credentials = "kubeconfig " ++ path ↔ c.credentials = .explicit path
  discoveryInterval : Span.ofPhrase s.discoveryInterval = .ok c.discoveryInterval
  cacheFlushInterval : Span.ofPhrase s.cacheFlushInterval = .ok c.cacheFlushInterval
  debugAddr : BindAddress.parse? s.debugAddr = some c.debugAddr
  workers : s.workers = c.workers
  clientRate : s.clientRate = c.clientRate
  eventRate : s.eventRate = c.eventRate
  shutdownGrace : Span.ofPhrase s.shutdownGrace = .ok c.shutdownGrace

namespace Configuration

variable {f : Flags} {c c' : Configuration} {s : Snapshot}

theorem ShownBy.unique (h : c.ShownBy s) (h' : c'.ShownBy s) : c = c' := by
  have hcredentials : c.credentials = c'.credentials := by
    cases hc : c'.credentials with
    | ambient => exact h.ambient.mp (h'.ambient.mpr hc)
    | explicit path => exact (h.explicit path).mp ((h'.explicit path).mpr hc)
  have hdiscovery := Except.ok.inj (h.discoveryInterval.symm.trans h'.discoveryInterval)
  have hflush := Except.ok.inj (h.cacheFlushInterval.symm.trans h'.cacheFlushInterval)
  have haddr := Option.some.inj (h.debugAddr.symm.trans h'.debugAddr)
  have hgrace := Except.ok.inj (h.shutdownGrace.symm.trans h'.shutdownGrace)
  have hworkers := h.workers.symm.trans h'.workers
  have hclient := h.clientRate.symm.trans h'.clientRate
  have hevent := h.eventRate.symm.trans h'.eventRate
  cases c
  cases c'
  simp_all

theorem shownBy_snapshot (h : f.resolve = .ok c) : c.ShownBy c.snapshot where
  ambient := CredentialsSource.text_eq_ambient_iff
  explicit _ := CredentialsSource.text_eq_explicit_iff
  discoveryInterval := Span.ofPhrase_phrase _
  cacheFlushInterval := Span.ofPhrase_phrase _
  debugAddr :=
    -- What was read as an address is written as one.
    BindAddress.parse?_text
      (BindAddress.parts_of_parse? (Flags.reflects_of_resolve h).debugAddr.symm).2
  workers := rfl
  clientRate := rfl
  eventRate := rfl
  shutdownGrace := Span.ofPhrase_phrase _

end Configuration

/-! ### Starting again -/

/-- The texts that a snapshot offers for a parameter. -/
def Snapshot.Shows (s : Snapshot) : Flag → String → Prop
  | .discoveryInterval, text => text = s.discoveryInterval
  | .cacheFlushInterval, text => text = s.cacheFlushInterval
  | .debugAddr, text => text = s.debugAddr
  | .clientConfigPath, text => s.credentials = "kubeconfig " ++ text
  | .clientGoQps, text => readRate text = .ok s.clientRate.qps
  | .clientGoBurst, text => text = toString s.clientRate.burst.toNat
  | .workers, text => text = toString s.workers.toNat
  | .eventsQps, text => readRate text = .ok s.eventRate.qps
  | .eventsBurst, text => text = toString s.eventRate.burst.toNat
  | .logFormat, text => (LogFormat.ofName? text).isSome = true
  | .shutdownGrace, text => text = s.shutdownGrace

/-- The parameters that a snapshot tells: all but the log format, and the path of a kubeconfig
file only if there is one. -/
def Snapshot.Tells (s : Snapshot) (flag : Flag) : Prop :=
  flag ≠ .logFormat ∧ (flag = .clientConfigPath → s.credentials ≠ "in-cluster config")

theorem readSpan_of_ofPhrase {text : String} {d : Span} (h : Span.ofPhrase text = .ok d) :
    readSpan text = .ok d := by
  rw [readSpan, h]
  rfl

theorem readBurst_toString (n : UInt32) : readBurst (toString n.toNat) = .ok n := by
  have hn : n.toNat < UInt32.size := n.toNat_lt
  have hmost : n.toNat ≤ UInt64.size / 2 - 1 := Nat.le_trans (Nat.le_of_lt hn) (by decide)
  have hread := Decimal.readInteger_toString (UInt64.size / 2) hmost
  have hrange : 0 ≤ (n.toNat : Int) ∧ (n.toNat : Int) < UInt32.size :=
    ⟨Int.natCast_nonneg _, Int.ofNat_lt.mpr hn⟩
  have hbind (k : Int → Except ValueFault UInt32) :
      (Except.ok (n.toNat : Int) : Except Decimal.NumeralFault Int).mapError .numeral >>= k =
        k n.toNat := rfl
  rw [readBurst, hread, hbind, if_pos hrange, Int.toNat_natCast, UInt32.ofNat_toNat]

theorem readWorkers_toString (n : UInt64) : readWorkers (toString n.toNat) = .ok n := by
  have hn : n.toNat ≤ UInt64.size - 1 := Nat.le_pred_of_lt n.toNat_lt
  rw [readWorkers, Decimal.readNatural_toString hn]
  simp only [Except.mapError, Except.map]
  rw [UInt64.ofNat_toNat]

/-- A rate that is accepted is read back from any of the texts that it is written as. -/
theorem readRate_write (l : Decimal.Layout) {x : Float} (h : Decimal.IsPositive x) :
    readRate (l.write x) = .ok x := by
  rw [readRate, Decimal.readDouble_write l ((Decimal.isPositive_iff x).mp h).2]
  rfl

theorem toOption_eq_some {ε α : Type} {read : Except ε α} {v w : α} (h : read = .ok v)
    (hv : v = w) : read.toOption = some w := by
  rw [h, hv]
  rfl

namespace Configuration

variable {f g : Flags} {c : Configuration}

/-- Texts that are shown stand for the values that were resolved, but for the address, which
may have been written another way, and the log format. -/
theorem read?_of_shows (h : f.resolve = .ok c) {flag : Flag} {text : String}
    (haddr : flag ≠ .debugAddr) (hlog : flag ≠ .logFormat) (hshows : c.snapshot.Shows flag text) :
    flag.read? text = some (f.get flag) := by
  have hreflects := Flags.reflects_of_resolve h
  have hclient := hreflects.clientRate
  have hevent := hreflects.eventRate
  cases flag with
  | debugAddr => exact absurd rfl haddr
  | logFormat => exact absurd rfl hlog
  | clientConfigPath =>
    exact congrArg some (hreflects.explicit text (CredentialsSource.text_eq_explicit_iff.mp hshows))
  | clientGoQps => exact toOption_eq_some hshows (congrArg RateLimit.qps hclient)
  | eventsQps => exact toOption_eq_some hshows (congrArg RateLimit.qps hevent)
  | discoveryInterval =>
    cases hshows
    exact toOption_eq_some (readSpan_of_ofPhrase (Span.ofPhrase_phrase _))
      hreflects.discoveryInterval
  | cacheFlushInterval =>
    cases hshows
    exact toOption_eq_some (readSpan_of_ofPhrase (Span.ofPhrase_phrase _))
      hreflects.cacheFlushInterval
  | shutdownGrace =>
    cases hshows
    exact toOption_eq_some (readSpan_of_ofPhrase (Span.ofPhrase_phrase _)) hreflects.shutdownGrace
  | clientGoBurst =>
    cases hshows
    exact toOption_eq_some (readBurst_toString _) (congrArg RateLimit.burst hclient)
  | eventsBurst =>
    cases hshows
    exact toOption_eq_some (readBurst_toString _) (congrArg RateLimit.burst hevent)
  | workers =>
    cases hshows
    exact toOption_eq_some (readWorkers_toString _) hreflects.workers

/-- A text that is shown is accepted. -/
theorem accepted_of_shows (h : f.resolve = .ok c) {x : Setting} (hclear : x.Clear)
    (hshows : c.snapshot.Shows x.flag x.value) : x.Accepted := by
  refine ⟨hclear, ?_⟩
  obtain ⟨flag, text, attached⟩ := x
  show (flag.read? text).isSome = true
  by_cases haddr : flag = .debugAddr
  · subst haddr
    rfl
  · by_cases hlog : flag = .logFormat
    · subst hlog
      exact hshows
    · rw [read?_of_shows h haddr hlog hshows]
      rfl

/-- Flags that differ in the log format, and in how the address is written, resolve alike. -/
theorem resolve_of_get_eq (h : f.resolve = .ok c)
    (hget : ∀ flag, flag ≠ .debugAddr → flag ≠ .logFormat → g.get flag = f.get flag)
    (haddr : BindAddress.parse? g.debugAddr = some c.debugAddr) : g.resolve = .ok c := by
  have hg : g = { f with debugAddr := g.debugAddr, logFormat := g.logFormat } := by
    refine Flags.ext_get fun flag => ?_
    cases flag with
    | debugAddr | logFormat => rfl
    | _ => exact hget _ (by decide) (by decide)
  have hreflects := Flags.reflects_of_resolve h
  have hnone := Flags.violations_eq_nil_of_resolve h
  have hnone' : g.violations = [] := by
    rw [hg]
    simp only [Flags.violations, List.append_eq_nil_iff] at hnone ⊢
    exact ⟨hnone.1, if_pos (by rw [haddr]; rfl)⟩
  rw [Flags.resolve_eq_ok_iff, ← Flags.violations_eq_nil_iff]
  refine ⟨hnone', ?_⟩
  rw [hg]
  exact { hreflects with debugAddr := haddr.symm }

/-- Settings of the texts that are shown resolve to what was shown. -/
theorem resolve_shown (h : f.resolve = .ok c) {ss : List Setting}
    (hnodup : (ss.map (·.flag)).Nodup) (hclear : ∀ x ∈ ss, x.Clear)
    (hshows : ∀ x ∈ ss, c.snapshot.Shows x.flag x.value)
    (hall : ∀ flag, c.snapshot.Tells flag → flag ∈ ss.map (·.flag)) :
    (Flags.ofArguments (ss.flatMap Setting.arguments)).map Flags.resolve = .ok (.ok c) := by
  have hshown := shownBy_snapshot h
  have hreflects := Flags.reflects_of_resolve h
  have haccepted : ∀ x ∈ ss, x.Accepted := fun x hx =>
    accepted_of_shows h (hclear x hx) (hshows x hx)
  obtain ⟨g, hg, hvalues⟩ := Flags.exists_ofArguments haccepted hnodup
  -- What was set has the value resolved, and a path that was not set was none.
  have hget : ∀ flag, flag ≠ .debugAddr → flag ≠ .logFormat → g.get flag = f.get flag := by
    intro flag haddr hlog
    by_cases hset : flag ∈ ss.map (·.flag)
    · obtain ⟨x, hx, rfl⟩ := List.mem_map.mp hset
      exact Option.some_inj.mp
        ((hvalues.given x hx).symm.trans (read?_of_shows h haddr hlog (hshows x hx)))
    · have huntold := mt (hall flag) hset
      obtain ⟨rfl, hambient⟩ : flag = .clientConfigPath ∧
          c.snapshot.credentials = "in-cluster config" := by
        simpa [Snapshot.Tells, hlog] using huntold
      rw [hvalues.absent _ hset]
      exact (hreflects.ambient.mp (hshown.ambient.mp hambient)).symm
  have haddr : BindAddress.parse? g.debugAddr = some c.debugAddr := by
    obtain ⟨x, hx, hflag⟩ := List.mem_map.mp (hall .debugAddr ⟨by decide, nofun⟩)
    have hread := hvalues.given x hx
    have hshow := hshows x hx
    obtain ⟨flag, text, attached⟩ := x
    cases hflag
    cases hshow
    have hsame : g.debugAddr = c.snapshot.debugAddr := (Option.some_inj.mp hread).symm
    rw [hsame, hshown.debugAddr]
  rw [hg]
  exact congrArg Except.ok (resolve_of_get_eq h hget haddr)

/-- The path of the kubeconfig file, if there is one. -/
def pathSetting (c : Configuration) : List Setting :=
  match c.credentials with
  | .ambient => []
  | .explicit path => [⟨.clientConfigPath, path, true⟩]

/-- Settings with the texts that stand in the document of a configuration. -/
def settings (c : Configuration) : List Setting :=
  [⟨.discoveryInterval, c.snapshot.discoveryInterval, true⟩,
    ⟨.cacheFlushInterval, c.snapshot.cacheFlushInterval, true⟩,
    ⟨.debugAddr, c.snapshot.debugAddr, true⟩,
    ⟨.clientGoQps, Decimal.json.write c.snapshot.clientRate.qps, true⟩,
    ⟨.clientGoBurst, toString c.snapshot.clientRate.burst.toNat, true⟩,
    ⟨.workers, toString c.snapshot.workers.toNat, true⟩,
    ⟨.eventsQps, Decimal.json.write c.snapshot.eventRate.qps, true⟩,
    ⟨.eventsBurst, toString c.snapshot.eventRate.burst.toNat, true⟩,
    ⟨.shutdownGrace, c.snapshot.shutdownGrace, true⟩] ++ c.pathSetting

theorem shows_settings (h : f.resolve = .ok c) :
    ∀ x ∈ c.settings, c.snapshot.Shows x.flag x.value := by
  obtain ⟨hclient, hevents⟩ := Flags.isPositive_of_resolve h
  rw [settings, List.forall_mem_append]
  constructor
  · simp only [List.forall_mem_cons]
    exact ⟨rfl, rfl, rfl, readRate_write _ hclient, rfl, rfl, readRate_write _ hevents, rfl, rfl,
      List.forall_mem_nil _⟩
  · intro x hx
    rw [pathSetting] at hx
    cases hc : c.credentials with
    | ambient =>
      rw [hc] at hx
      cases hx
    | explicit path =>
      rw [hc] at hx
      cases List.mem_singleton.mp hx
      exact CredentialsSource.text_eq_explicit_iff.mpr hc

theorem tells_settings {flag : Flag} (htells : c.snapshot.Tells flag) :
    flag ∈ c.settings.map (·.flag) := by
  rw [settings, List.map_append, List.mem_append]
  cases flag with
  | logFormat => exact absurd rfl htells.1
  | clientConfigPath =>
    cases hc : c.credentials with
    | ambient => exact absurd (CredentialsSource.text_eq_ambient_iff.mpr hc) (htells.2 rfl)
    | explicit path =>
      rw [pathSetting, hc]
      exact .inr List.mem_cons_self
  | _ => exact .inl (by simp)

/-- So the agent can always be started again with what it shows, the rates as they stand in the
document. -/
theorem resolve_settings (h : f.resolve = .ok c) :
    (Flags.ofArguments (c.settings.flatMap Setting.arguments)).map Flags.resolve = .ok (.ok c) := by
  have hnodup : (c.settings.map (·.flag)).Nodup := by
    rw [settings, pathSetting]
    cases c.credentials <;> simp
  have hattached : ∀ x ∈ c.settings, x.attached = true := by
    rw [settings, pathSetting]
    cases c.credentials <;> simp
  exact resolve_shown h hnodup (fun x hx => .inl (hattached x hx)) (shows_settings h)
    fun _ => tells_settings

example : (Flags.default.resolve.toOption.map fun c => c.settings.flatMap Setting.arguments) =
    some ["--discovery-interval=30s", "--cache-flush-interval=30m", "--debug-addr=:9999",
      "--client-go-qps=5.0", "--client-go-burst=10", "--workers=5",
      "--events-qps=0.0033333333333333335", "--events-burst=25", "--shutdown-grace=5s"] := by
  decide +kernel

/-- **A snapshot loses nothing.**  What is shown of a configuration that flags resolve to reads
back to its parts: the spans to the nanosecond, the address, where the credentials come from, and
the numbers as they are.  So two such configurations that are shown alike are the same, and a
start with the texts shown, in any order and spelling, resolves to what was shown. -/
theorem snapshot_faithful :
    (∀ (f : Flags) (c : Configuration), f.resolve = .ok c → c.ShownBy c.snapshot) ∧
      (∀ (f f' : Flags) (c c' : Configuration), f.resolve = .ok c → f'.resolve = .ok c' →
        c.snapshot = c'.snapshot → c = c') ∧
      ∀ (f : Flags) (c : Configuration) (ss : List Setting), f.resolve = .ok c →
        (ss.map (·.flag)).Nodup → (∀ x ∈ ss, x.Clear) →
        (∀ x ∈ ss, c.snapshot.Shows x.flag x.value) →
        (∀ flag, c.snapshot.Tells flag → flag ∈ ss.map (·.flag)) →
        (Flags.ofArguments (ss.flatMap Setting.arguments)).map Flags.resolve = .ok (.ok c) := by
  refine ⟨fun f c => shownBy_snapshot, fun f f' c c' h h' hsame => ?_,
    fun f c ss h hnodup hclear hshows hall => resolve_shown h hnodup hclear hshows hall⟩
  have hshown := shownBy_snapshot h'
  rw [← hsame] at hshown
  exact (shownBy_snapshot h).unique hshown

end Configuration

end ClusterAgent
