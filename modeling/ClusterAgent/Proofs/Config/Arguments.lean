/-
Flags in, values out.

Every startup parameter that is written on the command line gets the value that its text
stands for, however it is written and wherever it stands, and every other one keeps its
default.

* `Flag.Value`, `Flag.read?` — what values a parameter has, and the one that a text stands for;
* `Setting` — a parameter with a text, in one argument or in two;
* `Reading.run_settings` — reading settings is giving each parameter its value in turn;
* `Reading.nodup_named` — no command line that is taken names a parameter twice;
* `Flags.ofArguments_settings` — settings of different parameters are read to the values they
  stand for, in any order and either spelling, and a repeated one is refused.

Design notes: a value in an argument of its own is given only when the next flag comes, or the
end.  `run_settings` does away with that, so that what follows is about a list of settings
and not about arguments any more.
-/
import ClusterAgent.Config.CommandLine
import ClusterAgent.Config.Configuration
import ClusterAgent.Config.Help
import Mathlib.Data.List.Perm.Basic
import Mathlib.Data.List.TakeWhile

namespace ClusterAgent

/-! ### Values -/

/-- The values that a parameter can have. -/
def Flag.Value : Flag → Type
  | .discoveryInterval | .cacheFlushInterval | .shutdownGrace => Span
  | .debugAddr | .clientConfigPath => String
  | .clientGoQps | .eventsQps => Float
  | .clientGoBurst | .eventsBurst => UInt32
  | .workers => UInt64
  | .logFormat => LogFormat

instance : (flag : Flag) → DecidableEq flag.Value
  | .discoveryInterval | .cacheFlushInterval | .shutdownGrace => inferInstanceAs (DecidableEq Span)
  | .debugAddr | .clientConfigPath => inferInstanceAs (DecidableEq String)
  | .clientGoQps | .eventsQps => inferInstanceAs (DecidableEq Float)
  | .clientGoBurst | .eventsBurst => inferInstanceAs (DecidableEq UInt32)
  | .workers => inferInstanceAs (DecidableEq UInt64)
  | .logFormat => inferInstanceAs (DecidableEq LogFormat)

/-- The value of a parameter that a text stands for. -/
def Flag.read? : (flag : Flag) → String → Option flag.Value
  | .discoveryInterval, s | .cacheFlushInterval, s | .shutdownGrace, s => (readSpan s).toOption
  | .debugAddr, s | .clientConfigPath, s => some s
  | .clientGoQps, s | .eventsQps, s => (readRate s).toOption
  | .clientGoBurst, s | .eventsBurst, s => (readBurst s).toOption
  | .workers, s => (readWorkers s).toOption
  | .logFormat, s => LogFormat.ofName? s

namespace Flags

/-- The value of a parameter. -/
def get (f : Flags) : (flag : Flag) → flag.Value
  | .discoveryInterval => f.discoveryInterval
  | .cacheFlushInterval => f.cacheFlushInterval
  | .debugAddr => f.debugAddr
  | .clientConfigPath => f.clientConfigPath
  | .clientGoQps => f.clientGoQps
  | .clientGoBurst => f.clientGoBurst
  | .workers => f.workers
  | .eventsQps => f.eventsQps
  | .eventsBurst => f.eventsBurst
  | .logFormat => f.logFormat
  | .shutdownGrace => f.shutdownGrace

theorem ext_get {f g : Flags} (h : ∀ flag, f.get flag = g.get flag) : f = g := by
  cases f
  cases g
  simp only [mk.injEq]
  exact ⟨h .discoveryInterval, h .cacheFlushInterval, h .debugAddr, h .clientConfigPath,
    h .clientGoQps, h .clientGoBurst, h .workers, h .eventsQps, h .eventsBurst, h .logFormat,
    h .shutdownGrace⟩

/-- A text that stands for a value gives the parameter that value, and no other one any. -/
theorem assign_of_read? {f : Flags} {flag : Flag} {s : String} {v : flag.Value}
    (h : flag.read? s = some v) :
    ∃ g, f.assign flag s = .ok g ∧ g.get flag = v ∧ ∀ other ≠ flag, g.get other = f.get other := by
  have judged {ε α : Type} {read : Except ε α} {v : α} (h : read.toOption = some v) :
      read = .ok v := by
    cases read with
    | ok w => exact congrArg _ (Option.some_inj.mp h)
    | error e => cases h
  cases flag
  case debugAddr | clientConfigPath =>
    cases h
    exact ⟨_, rfl, rfl, fun other hne => by cases other <;> first | rfl | exact absurd rfl hne⟩
  case logFormat =>
    have h : LogFormat.ofName? s = some v := h
    refine ⟨{ f with logFormat := v }, by rw [assign, h], rfl, fun other hne => ?_⟩
    cases other <;> first | rfl | exact absurd rfl hne
  all_goals
    refine ⟨_, by rw [assign, judged h]; rfl, rfl, fun other hne => ?_⟩
    cases other <;> first | rfl | exact absurd rfl hne

end Flags

/-! ### Arguments -/

/-- A parameter with a text on the command line. -/
structure Setting where
  flag : Flag
  value : String
  /-- Whether the text stands behind an equals sign, or else in an argument of its own. -/
  attached : Bool

namespace Setting

/-- The arguments of a setting. -/
def arguments (s : Setting) : List String :=
  if s.attached then [s.flag.long ++ "=" ++ s.value] else [s.flag.long, s.value]

/-- What is set, however it is written. -/
def content (s : Setting) : Flag × String := (s.flag, s.value)

/-- A text that looks like a flag can only stand behind an equals sign. -/
def Clear (s : Setting) : Prop := s.attached = true ∨ s.value.toList.head? ≠ some '-'

/-- A text that its parameter takes. -/
structure Accepted (s : Setting) : Prop where
  clear : s.Clear
  readable : (s.flag.read? s.value).isSome = true

end Setting

theorem cutEquals_of_not_mem {name : List Char} (h : '=' ∉ name) :
    cutEquals name = (String.ofList name, none) := by
  have hall : ∀ c ∈ name, (c != '=') = true := fun c hc => bne_iff_ne.mpr fun he => h (he ▸ hc)
  rw [cutEquals, List.takeWhile_eq_self_iff.mpr hall, List.dropWhile_eq_nil_iff.mpr hall]

theorem cutEquals_append {name : List Char} (h : '=' ∉ name) (value : List Char) :
    cutEquals (name ++ '=' :: value) = (String.ofList name, some (String.ofList value)) := by
  have hall : ∀ c ∈ name, (c != '=') = true := fun c hc => bne_iff_ne.mpr fun he => h (he ▸ hc)
  rw [cutEquals, List.takeWhile_append_of_pos hall, List.dropWhile_append_of_pos hall]
  simp

namespace Argument

/-- The parameter that an argument is a flag of. -/
def flag? (s : String) : Option Flag :=
  match of s with
  | .flag f _ => some f
  | _ => none

theorem of_plain {s : String} (h : s.toList.head? ≠ some '-') : of s = .plain s := by
  unfold of
  split <;> simp_all

theorem of_cut (flag : Flag) {rest : List Char} {attached : Option String} (hne : rest ≠ [])
    (hcut : cutEquals rest = (flag.name, attached)) :
    of (String.ofList ('-' :: '-' :: rest)) = .flag flag attached := by
  have hhelp : flag.name ≠ "help" := by cases flag <;> decide
  have hversion : flag.name ≠ "version" := by cases flag <;> decide
  have hname : Flag.ofName? flag.name = some flag := by cases flag <;> decide
  obtain ⟨c, cs, rfl⟩ := List.exists_cons_of_ne_nil hne
  unfold of
  simp only [String.toList_ofList, hcut]
  -- No parameter is called like a request for help or the version.
  split
  · rename_i heq
    exact absurd (congrArg Prod.fst heq) hhelp
  · rename_i heq
    exact absurd (congrArg Prod.fst heq) hversion
  · rename_i heq
    exact absurd (congrArg Prod.fst heq) hhelp
  · rename_i heq
    exact absurd (congrArg Prod.fst heq) hversion
  · rename_i heq
    cases heq
    rw [hname]

theorem of_long (flag : Flag) : of flag.long = .flag flag none := by
  have hplain : '=' ∉ flag.name.toList := by cases flag <;> decide
  have hne : flag.name.toList ≠ [] := by cases flag <;> decide
  have hof := of_cut flag hne
    (by rw [cutEquals_of_not_mem hplain, String.ofList_toList])
  rwa [show String.ofList ('-' :: '-' :: flag.name.toList) = flag.long by
    rw [← String.toList_inj, String.toList_ofList, Flag.long, String.toList_append]; rfl] at hof

theorem of_attached (flag : Flag) (value : String) :
    of (flag.long ++ "=" ++ value) = .flag flag (some value) := by
  have hplain : '=' ∉ flag.name.toList := by cases flag <;> decide
  have hof := of_cut flag (show flag.name.toList ++ '=' :: value.toList ≠ [] by simp)
    (by rw [cutEquals_append hplain, String.ofList_toList, String.ofList_toList])
  rwa [show String.ofList ('-' :: '-' :: (flag.name.toList ++ '=' :: value.toList)) =
      flag.long ++ "=" ++ value by
    rw [← String.toList_inj, String.toList_ofList, Flag.long, String.toList_append,
      String.toList_append, String.toList_append]; simp] at hof

end Argument

/-! ### Reading settings -/

namespace Reading

/-- Every parameter that is named so far. -/
def named (r : Reading) : List Flag := (r.pending.map Prod.fst).toList ++ r.given

theorem take_eq_ok {r r' : Reading} {flag : Flag} {value : String}
    (h : r.take flag value = .ok r') :
    flag ∉ r.given ∧ r'.given = flag :: r.given ∧ r'.pending = none := by
  rw [take] at h
  split at h
  · cases h
  · rename_i hnew
    cases hassign : r.flags.assign flag value with
    | error e =>
      rw [hassign] at h
      cases h
    | ok flags =>
      rw [hassign] at h
      cases h
      exact ⟨hnew, rfl, rfl⟩

theorem settle_eq_ok {r r' : Reading} (h : r.settle = .ok r') :
    r'.given = r.named ∧ r'.pending = none ∧ (r.given.Nodup → r.named.Nodup) := by
  unfold settle at h
  split at h
  · rename_i hnone
    cases h
    have hnamed : r.named = r.given := by rw [named, hnone]; rfl
    exact ⟨hnamed.symm, hnone, fun hnodup => by rwa [hnamed]⟩
  · cases h
  · rename_i flag value hsome
    obtain ⟨hnew, hgiven, hpending⟩ := take_eq_ok h
    have hnamed : r.named = flag :: r.given := by rw [named, hsome]; rfl
    exact ⟨hgiven.trans hnamed.symm, hpending, fun hnodup => by
      rw [hnamed]
      exact List.nodup_cons.mpr ⟨hnew, hnodup⟩⟩

/-- An argument that is read names the parameter that it is a flag of, and no other. -/
theorem step_eq_ok {r r' : Reading} {flagsAllowed next : Bool} {s : String}
    (h : r.step flagsAllowed s = .ok (r', next)) (hnodup : r.given.Nodup) :
    r'.given.Nodup ∧ r'.named = (Argument.flag? s).toList ++ r.named := by
  unfold step at h
  dsimp only at h
  cases flagsAllowed with
  | false =>
    simp only [Bool.not_false, if_true] at h
    split at h <;> cases h
  | true =>
    simp only [Bool.not_true, Bool.false_eq_true, if_false] at h
    split at h
    · rename_i flag attached hof
      have hflag : Argument.flag? s = some flag := by rw [Argument.flag?, hof]
      cases hsettle : r.settle with
      | error e =>
        rw [hsettle] at h
        cases h
      | ok r₁ =>
        obtain ⟨hgiven, hpending, hkept⟩ := settle_eq_ok hsettle
        rw [hsettle] at h
        rw [hflag]
        cases attached with
        | none =>
          cases h
          exact ⟨by rw [hgiven]; exact hkept hnodup, by simp [named, hgiven]⟩
        | some value =>
          cases htake : r₁.take flag value with
          | error e =>
            simp [bind, Except.bind, htake] at h
          | ok r₂ =>
            simp only [bind, Except.bind, htake] at h
            cases h
            obtain ⟨hnew, hgiven₂, hpending₂⟩ := take_eq_ok htake
            rw [hgiven] at hnew hgiven₂
            refine ⟨?_, by simp [named, hgiven₂, hpending₂]⟩
            rw [hgiven₂]
            exact List.nodup_cons.mpr ⟨hnew, hkept hnodup⟩
    · cases hsettle : r.settle <;> rw [hsettle] at h <;> cases h
    · cases hsettle : r.settle <;> rw [hsettle] at h <;> cases h
    · cases h
    · rename_i hof
      cases h
      exact ⟨hnodup, by simp [Argument.flag?, hof]⟩
    · cases h
    · -- A value in an argument of its own names nothing.
      rename_i hof
      have hplain : Argument.flag? s = none := by rw [Argument.flag?, hof]
      rw [hplain]
      split at h
      · rename_i flag hpending
        cases h
        exact ⟨hnodup, by simp [named, hpending]⟩
      · cases h

/-- Arguments that are read name every parameter once at most, those named before included. -/
theorem nodup_named {args : List String} {r r' : Reading} {flagsAllowed : Bool}
    (h : r.run flagsAllowed args = .ok r') (hnodup : r.given.Nodup) :
    (args.filterMap Argument.flag? ++ r.named).Nodup := by
  induction args generalizing r flagsAllowed with
  | nil => exact (settle_eq_ok h).2.2 hnodup
  | cons s args ih =>
    rw [run] at h
    split at h
    · rename_i r₁ next hstep
      obtain ⟨hnodup₁, hnamed⟩ := step_eq_ok hstep hnodup
      have hrest := ih h hnodup₁
      rw [hnamed] at hrest
      cases hflag : Argument.flag? s with
      | none => simpa [hflag] using hrest
      | some flag =>
        rw [hflag] at hrest
        rw [List.filterMap_cons_some hflag]
        exact List.perm_middle.nodup_iff.mp hrest
    · cases h

/-! ### Settings -/

/-- Give the parameters of settings their values, one after the other. -/
def give (r : Reading) (ss : List Setting) : Except Refusal Reading :=
  ss.foldlM (fun r s => r.take s.flag s.value) r

theorem settle_of_none {r : Reading} (h : r.pending = none) : r.settle = .ok r := by
  rw [settle, h]

theorem step_attached (r : Reading) (flag : Flag) (value : String) :
    r.step true (flag.long ++ "=" ++ value) =
      r.settle.bind fun r => (r.take flag value).map (·, true) := by
  rw [step, Argument.of_attached]
  cases r.settle with
  | error e => rfl
  | ok r =>
    show (r.take flag value).bind (fun r => .ok (r, true)) = (r.take flag value).map (·, true)
    cases r.take flag value <;> rfl

theorem step_long (r : Reading) (flag : Flag) :
    r.step true flag.long =
      r.settle.map fun r => ({ r with pending := some (flag, none) }, true) := by
  rw [step, Argument.of_long]
  cases r.settle <;> rfl

theorem step_value {value : String} (h : value.toList.head? ≠ some '-') (r : Reading)
    (flag : Flag) :
    step { r with pending := some (flag, none) } true value =
      .ok ({ r with pending := some (flag, some value) }, true) := by
  rw [step, Argument.of_plain h]
  rfl

/-- Reading settings is giving their parameters the values in turn. -/
theorem run_settings {ss : List Setting} (hclear : ∀ s ∈ ss, s.Clear) (r : Reading) :
    r.run true (ss.flatMap Setting.arguments) = r.settle.bind fun r => r.give ss := by
  induction ss generalizing r with
  | nil =>
    show r.settle = _
    cases r.settle <;> rfl
  | cons s ss ih =>
    obtain ⟨hvalue, hrest⟩ := List.forall_mem_cons.mp hclear
    obtain ⟨flag, value, attached⟩ := s
    rw [List.flatMap_cons]
    cases attached with
    | true =>
      show r.run true ((flag.long ++ "=" ++ value) :: ss.flatMap Setting.arguments) = _
      rw [run, step_attached]
      cases r.settle with
      | error e => rfl
      | ok r₁ =>
        show _ = (r₁.take flag value).bind fun r => r.give ss
        cases htake : r₁.take flag value with
        | error e => simp [Except.bind, Except.map, htake]
        | ok r₂ =>
          have hsettled := settle_of_none (take_eq_ok htake).2.2
          simp [Except.bind, Except.map, htake, ih hrest, hsettled]
    | false =>
      show r.run true (flag.long :: value :: ss.flatMap Setting.arguments) = _
      rw [run, step_long]
      cases r.settle with
      | error e => rfl
      | ok r₁ =>
        -- The value is given with the next flag or at the end, as if it had been given here.
        show run { r₁ with pending := some (flag, none) } true _ = _
        rw [run, step_value (hvalue.resolve_left Bool.false_ne_true)]
        exact ih hrest { r₁ with pending := some (flag, some value) }

theorem take_accepted {r : Reading} {s : Setting} (h : s.Accepted) (hnew : s.flag ∉ r.given) :
    ∃ r', r.take s.flag s.value = .ok r' ∧ r'.given = s.flag :: r.given ∧
      s.flag.read? s.value = some (r'.flags.get s.flag) ∧
      ∀ other ≠ s.flag, r'.flags.get other = r.flags.get other := by
  obtain ⟨v, hv⟩ := Option.isSome_iff_exists.mp h.readable
  obtain ⟨flags, hassign, hself, hothers⟩ := Flags.assign_of_read? (f := r.flags) hv
  refine ⟨⟨flags, s.flag :: r.given, none⟩, ?_, rfl, ?_, hothers⟩
  · rw [take, if_neg hnew, hassign]
    rfl
  · rw [hv, ← hself]

/-- Settings of different parameters all get their values. -/
theorem give_accepted {ss : List Setting} (hss : ∀ s ∈ ss, s.Accepted) {r : Reading}
    (hnodup : (ss.map (·.flag) ++ r.given).Nodup) :
    ∃ r', r.give ss = .ok r' ∧
      (∀ s ∈ ss, s.flag.read? s.value = some (r'.flags.get s.flag)) ∧
      ∀ flag ∉ ss.map (·.flag), r'.flags.get flag = r.flags.get flag := by
  induction ss generalizing r with
  | nil => exact ⟨r, rfl, nofun, fun _ _ => rfl⟩
  | cons s ss ih =>
    obtain ⟨hs, hrest⟩ := List.forall_mem_cons.mp hss
    rw [List.map_cons, List.cons_append, List.nodup_cons, List.mem_append, not_or] at hnodup
    obtain ⟨⟨hlater, hnew⟩, hnodup⟩ := hnodup
    obtain ⟨r₁, htake, hgiven, hself, hothers⟩ := take_accepted hs hnew
    obtain ⟨r', hgive, hvalues, hkept⟩ := ih hrest (r := r₁) (by
      rw [hgiven]
      exact List.perm_middle.nodup_iff.mpr
        (List.nodup_cons.mpr ⟨by simp [hlater, hnew], hnodup⟩))
    refine ⟨r', ?_, ?_, ?_⟩
    · rw [give, List.foldlM_cons, htake]
      exact hgive
    · rw [List.forall_mem_cons]
      refine ⟨?_, hvalues⟩
      rw [hself, hkept s.flag hlater]
    · intro flag hflag
      rw [List.map_cons, List.mem_cons, not_or] at hflag
      rw [hkept flag hflag.2, hothers flag hflag.1]

/-- Among settings that name a parameter twice, the first one to do so is refused. -/
theorem give_repeated {ss : List Setting} (hss : ∀ s ∈ ss, s.Accepted) {r : Reading}
    (hgiven : r.given.Nodup) (hnodup : ¬ (ss.map (·.flag) ++ r.given).Nodup) :
    ∃ flag, 2 ≤ (ss.map (·.flag) ++ r.given).count flag ∧ r.give ss = .error (.repeated flag) := by
  induction ss generalizing r with
  | nil => exact absurd hgiven hnodup
  | cons s ss ih =>
    obtain ⟨hs, hrest⟩ := List.forall_mem_cons.mp hss
    rw [give, List.foldlM_cons]
    by_cases hold : s.flag ∈ r.given
    · refine ⟨s.flag, ?_, by rw [take, if_pos hold]; rfl⟩
      have hcount := List.count_pos_iff.mpr hold
      rw [List.map_cons, List.cons_append, List.count_cons_self, List.count_append]
      omega
    · obtain ⟨r₁, htake, hgiven₁, -, -⟩ := take_accepted hs hold
      have hperm : (ss.map (·.flag) ++ r₁.given).Perm ((s :: ss).map (·.flag) ++ r.given) := by
        rw [hgiven₁]
        exact List.perm_middle
      obtain ⟨flag, hcount, hgive⟩ := ih hrest (r := r₁)
        (by rw [hgiven₁]; exact List.nodup_cons.mpr ⟨hold, hgiven⟩)
        (fun h => hnodup (hperm.nodup_iff.mp h))
      refine ⟨flag, by rwa [hperm.count_eq] at hcount, ?_⟩
      rw [htake]
      exact hgive

end Reading

namespace Flags

theorem ofArguments_eq_give {ss : List Setting} (hss : ∀ s ∈ ss, s.Accepted) :
    ofArguments (ss.flatMap Setting.arguments) =
      (Reading.give ⟨Flags.default, [], none⟩ ss).map (·.flags) := by
  rw [ofArguments, Reading.run_settings fun s hs => (hss s hs).clear]
  rfl

/-- The value of each parameter is that of its setting, or else its default. -/
structure Reflects (flags : Flags) (ss : List Setting) : Prop where
  given : ∀ s ∈ ss, s.flag.read? s.value = some (flags.get s.flag)
  absent : ∀ flag ∉ ss.map (·.flag), flags.get flag = Flags.default.get flag

/-- Settings of the same contents leave no choice. -/
theorem Reflects.eq_of_perm {f g : Flags} {ss ss' : List Setting} (hf : f.Reflects ss)
    (hg : g.Reflects ss') (hperm : (ss.map Setting.content).Perm (ss'.map Setting.content)) :
    f = g := by
  refine ext_get fun flag => ?_
  by_cases hset : flag ∈ ss.map (·.flag)
  · obtain ⟨s, hs, rfl⟩ := List.mem_map.mp hset
    obtain ⟨s', hs', hcontent⟩ :=
      List.mem_map.mp (hperm.mem_iff.mp (List.mem_map_of_mem (f := Setting.content) hs))
    obtain ⟨flag, value, attached⟩ := s
    obtain ⟨flag', value', attached'⟩ := s'
    cases hcontent
    have hread : flag.read? value = some (g.get flag) := hg.given _ hs'
    exact Option.some_inj.mp ((hf.given _ hs).symm.trans hread)
  · have hflags : (ss.map (·.flag)).Perm (ss'.map (·.flag)) := by
      have hfst := hperm.map Prod.fst
      rwa [List.map_map, List.map_map] at hfst
    rw [hf.absent flag hset, hg.absent flag fun h => hset (hflags.mem_iff.mpr h)]

theorem exists_ofArguments {ss : List Setting} (hss : ∀ s ∈ ss, s.Accepted)
    (hnodup : (ss.map (·.flag)).Nodup) :
    ∃ flags, ofArguments (ss.flatMap Setting.arguments) = .ok flags ∧ flags.Reflects ss := by
  obtain ⟨r, hgive, hvalues, hkept⟩ := Reading.give_accepted hss
    (r := ⟨Flags.default, [], none⟩) (by rwa [List.append_nil])
  refine ⟨r.flags, ?_, hvalues, hkept⟩
  rw [ofArguments_eq_give hss, hgive]
  rfl

/-- The defaults are those that the help text shows; an empty path is shown as quotes. -/
theorem default_documented :
    (∀ flag ≠ Flag.clientConfigPath, flag.read? flag.defaultText = some (default.get flag)) ∧
      default.clientConfigPath = "" := by
  refine ⟨fun flag hne => ?_, rfl⟩
  cases flag with
  | clientConfigPath => exact absurd rfl hne
  | _ => decide +kernel

/-- **Flags in, values out.**  Settings of different parameters, in any order and either
spelling, are read to the value of each text for its own parameter and the documented default
for every other.  So what is read, and the configuration it is resolved to, depend on what is
set and not on how it is written.  Settings that repeat a parameter are refused for that, and
whatever else a command line holds, it is not taken if a parameter is named twice. -/
theorem ofArguments_settings :
    (∀ ss : List Setting, (∀ s ∈ ss, s.Accepted) → (ss.map (·.flag)).Nodup →
      ∃ flags, ofArguments (ss.flatMap Setting.arguments) = .ok flags ∧ flags.Reflects ss) ∧
    ((∀ flag ≠ Flag.clientConfigPath, flag.read? flag.defaultText = some (default.get flag)) ∧
      default.clientConfigPath = "") ∧
    (∀ ss ss' : List Setting, (∀ s ∈ ss, s.Accepted) → (∀ s ∈ ss', s.Accepted) →
      (ss.map (·.flag)).Nodup → (ss.map Setting.content).Perm (ss'.map Setting.content) →
      ∃ flags, ofArguments (ss.flatMap Setting.arguments) = .ok flags ∧
        ofArguments (ss'.flatMap Setting.arguments) = .ok flags ∧
        (ofArguments (ss.flatMap Setting.arguments)).map resolve =
          (ofArguments (ss'.flatMap Setting.arguments)).map resolve) ∧
    (∀ ss : List Setting, (∀ s ∈ ss, s.Accepted) → ¬ (ss.map (·.flag)).Nodup →
      ∃ flag, 2 ≤ (ss.map (·.flag)).count flag ∧
        ofArguments (ss.flatMap Setting.arguments) = .error (.repeated flag)) ∧
    ∀ args flags, ofArguments args = .ok flags → (args.filterMap Argument.flag?).Nodup := by
  refine ⟨fun ss hss => exists_ofArguments hss, default_documented, ?_, ?_, ?_⟩
  · intro ss ss' hss hss' hnodup hperm
    have hflags := hperm.map Prod.fst
    rw [List.map_map, List.map_map] at hflags
    obtain ⟨f, hf, hreflects⟩ := exists_ofArguments hss hnodup
    obtain ⟨g, hg, hreflects'⟩ := exists_ofArguments hss' (hflags.nodup_iff.mp hnodup)
    obtain rfl := hreflects.eq_of_perm hreflects' hperm
    exact ⟨f, hf, hg, by rw [hf, hg]⟩
  · intro ss hss hnodup
    obtain ⟨flag, hcount, hgive⟩ := Reading.give_repeated hss
      (r := ⟨Flags.default, [], none⟩) List.nodup_nil (by rwa [List.append_nil])
    rw [List.append_nil] at hcount
    refine ⟨flag, hcount, ?_⟩
    rw [ofArguments_eq_give hss, hgive]
    rfl
  · intro args flags h
    cases hrun : Reading.run ⟨Flags.default, [], none⟩ true args with
    | error e =>
      rw [ofArguments, hrun] at h
      cases h
    | ok r =>
      have hnamed := Reading.nodup_named hrun List.nodup_nil
      rwa [show Reading.named ⟨Flags.default, [], none⟩ = [] from rfl, List.append_nil] at hnamed

end Flags

end ClusterAgent
