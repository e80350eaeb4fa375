import TypeAtlas.Proofs.Config.Assignment
import TypeAtlas.Proofs.Session.Creation

/-!
# What a session answers over a run

Of the state of a session a run changes the configuration and the resolver. A resolver keeps the
package that the configuration gave when it was made, and of the configuration only the option to keep
types boxed is looked at later:

* `run_append`, `getElem?_run`: a run in parts, and what each of its steps tells;
* `After`: the state that a run leads to, step by step (`After.step`) and as a whole (`after_run`);
* `AgreeOn`: sessions that answer alike, which steps that touch nothing of importance do not end
  (`agreeOn_step`, `agreeOn_run`) and no common step does (`AgreeOn.step`, `AgreeOn.run`);
* `told_of_create`: what each answer in a run depends on, and what has no effect on it.
-/

namespace TypeAtlas

open Files (FileSystem)
open GraphQL (TypeExpr)
open Java (JavaType)
open Session (Answer Request Step StepError)

/-- A request that can be read has the type of its reference. -/
theorem Resolver.exists_answer (r : Resolver) (keepBoxed interface wildcard : Bool)
    {request : Request} {e : TypeExpr} (h : request.typeExpr = .ok e) :
    ∃ type, r.resolve ⟨interface, wildcard, keepBoxed⟩ e = .ok type ∧
      r.answer keepBoxed request interface wildcard = .ok type := by
  have hresolve := r.resolve_eq_normalForm ⟨interface, wildcard, keepBoxed⟩ e
  exact ⟨_, hresolve, bind_eq_ok.mpr ⟨e, h, mapError_eq_ok.mpr hresolve⟩⟩

/-- The configuration after a step. -/
def Session.Step.reconfigure (c : Config) : Step → Config
  | .set name value => c.assigned name value
  | _ => c

/-- The configuration after the steps of a run. -/
def Config.after (c : Config) (steps : List Step) : Config := steps.foldl Step.reconfigure c

theorem Config.after_append_singleton (c : Config) (steps : List Step) (step : Step) :
    c.after (steps ++ [step]) = step.reconfigure (c.after steps) := by
  rw [after, List.foldl_append]
  rfl

namespace Session

/-! ## Runs in parts -/

theorem run_cons (s : Session) (step : Step) (steps : List Step) :
    s.run (step :: steps) =
      ((s.step step).1 :: ((s.step step).2.run steps).1, ((s.step step).2.run steps).2) := rfl

theorem run_append (s : Session) (before after : List Step) :
    s.run (before ++ after) =
      ((s.run before).1 ++ ((s.run before).2.run after).1, ((s.run before).2.run after).2) := by
  induction before generalizing s with
  | nil => rfl
  | cons step before ih =>
    rw [List.cons_append, run_cons, ih, run_cons, List.cons_append]

theorem length_run (s : Session) (steps : List Step) : (s.run steps).1.length = steps.length := by
  induction steps generalizing s with
  | nil => rfl
  | cons step steps ih => rw [run_cons, List.length_cons, List.length_cons, ih]

/-- What a step tells after others. -/
def told (s : Session) (before : List Step) (step : Step) : Except StepError Answer :=
  ((s.run before).2.step step).1

theorem getElem?_run (s : Session) (before : List Step) (step : Step) (after : List Step) :
    (s.run (before ++ step :: after)).1[before.length]? = some (s.told before step) := by
  rw [run_append, List.getElem?_append_right (Nat.le_of_eq (s.length_run before)), s.length_run,
    Nat.sub_self]
  rfl

/-! ## One step -/

@[simp] theorem step_schema (s : Session) (step : Step) : (s.step step).2.schema = s.schema := by
  cases step with
  | set name value => rw [Session.step]; split <;> rfl
  | _ => rfl

@[simp] theorem step_overrides (s : Session) (step : Step) :
    (s.step step).2.overrides = s.overrides := by
  cases step with
  | set name value => rw [Session.step]; split <;> rfl
  | _ => rfl

@[simp] theorem step_config (s : Session) (step : Step) :
    (s.step step).2.config = step.reconfigure s.config := by
  cases step with
  | set name value =>
    rw [Session.step, Step.reconfigure, Config.assigned]
    cases s.config.set name value <;> rfl
  | _ => rfl

/-- A step that makes no resolver keeps the one that there is. -/
theorem step_resolver (s : Session) {step : Step} (h : ∀ given, step ≠ .newResolver given) :
    (s.step step).2.resolver = s.resolver := by
  cases step with
  | set name value => rw [Session.step]; split <;> rfl
  | newResolver given => exact absurd rfl (h given)
  | _ => rfl

/-- A step that fails leaves the session as it was. -/
theorem step_of_error {s : Session} {step : Step} {e : StepError} (h : (s.step step).1 = .error e) :
    (s.step step).2 = s := by
  cases step with
  | set name value =>
    rw [Session.step] at h ⊢
    cases hset : s.config.set name value with
    | ok config => rw [hset] at h; cases h
    | error why => rfl
  | newResolver given => cases h
  | _ => rfl

/-! ## The state after some steps -/

/-- Whether no step of a run makes a resolver. -/
def KeepsResolver (steps : List Step) : Prop := ∀ given, .newResolver given ∉ steps

/-- The primitives and the package that are in force after some steps: those of the session, and after
a new resolver its own, with the package that the configuration gave at that time. -/
inductive InForce (builtins : Builtins) (c : Config) :
    List Step → OrderedMap String JavaType → Json → Prop
  | made {steps : List Step} (h : KeepsResolver steps) :
    InForce builtins c steps builtins.primitives c.typesPackage
  | replaced {before after : List Step} {given : Option Builtins} (h : KeepsResolver after) :
    InForce builtins c (before ++ .newResolver given :: after) (given.getD builtins).primitives
      (c.after before).typesPackage

theorem keepsResolver_nil : KeepsResolver [] := fun _ => List.not_mem_nil

theorem KeepsResolver.append_singleton {steps : List Step} (h : KeepsResolver steps) {step : Step}
    (hstep : ∀ given, step ≠ .newResolver given) : KeepsResolver (steps ++ [step]) := by
  intro given hmem
  rcases List.mem_append.mp hmem with hmem | hmem
  · exact h given hmem
  · exact hstep given (List.mem_singleton.mp hmem).symm

section

variable {builtins : Builtins} {c : Config} {steps : List Step}
  {primitives primitives' : OrderedMap String JavaType} {package package' : Json}

theorem InForce.append_singleton (h : InForce builtins c steps primitives package) {step : Step}
    (hstep : ∀ given, step ≠ .newResolver given) :
    InForce builtins c (steps ++ [step]) primitives package := by
  cases h with
  | made h => exact .made (h.append_singleton hstep)
  | replaced h =>
    rw [List.append_assoc, List.cons_append]
    exact .replaced (h.append_singleton hstep)

/-- The last new resolver of a run is found in one place only. -/
theorem append_newResolver_inj {before before' after after' : List Step} {given given' : Option Builtins}
    (h : KeepsResolver after) (h' : KeepsResolver after')
    (heq : before ++ .newResolver given :: after = before' ++ .newResolver given' :: after') :
    before = before' ∧ given = given' := by
  rcases List.append_eq_append_iff.mp heq with ⟨as, rfl, has⟩ | ⟨as, rfl, has⟩
  · cases as with
    | nil => cases has; exact ⟨(List.append_nil _).symm, rfl⟩
    | cons a as => cases has; exact absurd (by simp) (h given')
  · cases as with
    | nil => cases has; exact ⟨List.append_nil _, rfl⟩
    | cons a as => cases has; exact absurd (by simp) (h' given)

theorem InForce.unique (h : InForce builtins c steps primitives package)
    (h' : InForce builtins c steps primitives' package') :
    primitives = primitives' ∧ package = package' := by
  cases h with
  | made h =>
    cases h' with
    | made h' => exact ⟨rfl, rfl⟩
    | @replaced _ _ given h' => exact absurd (by simp) (h given)
  | @replaced before after given h =>
    generalize hsteps : before ++ .newResolver given :: after = steps at h'
    cases h' with
    | made h' => exact absurd (by simp [← hsteps]) (h' given)
    | replaced h' =>
      obtain ⟨rfl, rfl⟩ := append_newResolver_inj h h' hsteps
      exact ⟨rfl, rfl⟩

end

/-- What a session has become after some steps. -/
structure After (s : Session) (before : List Step) (t : Session) : Prop where
  config : t.config = s.config.after before
  schema : t.schema = s.schema
  overrides : t.overrides = s.overrides
  resolver : ∃ primitives package,
    InForce s.overrides.builtins s.config before primitives package ∧
      t.resolver = ⟨s.schema, s.overrides, primitives, package⟩

section

variable {s t : Session} {before : List Step}

theorem After.step (h : After s before t) (step : Step) :
    After s (before ++ [step]) (t.step step).2 where
  config := by rw [step_config, h.config, Config.after_append_singleton]
  schema := by rw [step_schema, h.schema]
  overrides := by rw [step_overrides, h.overrides]
  resolver := by
    by_cases hstep : ∃ given, step = .newResolver given
    · obtain ⟨given, rfl⟩ := hstep
      -- The new resolver reads the package once, from the configuration as it is now.
      refine ⟨_, _, .replaced keepsResolver_nil, ?_⟩
      show Resolver.make t.schema t.overrides t.config given = _
      rw [h.schema, h.overrides, h.config]
      rfl
    · rw [not_exists] at hstep
      obtain ⟨primitives, package, hforce, hresolver⟩ := h.resolver
      refine ⟨primitives, package, hforce.append_singleton hstep, ?_⟩
      rw [step_resolver t hstep, hresolver]

theorem After.run (h : After s before t) (steps : List Step) :
    After s (before ++ steps) (t.run steps).2 := by
  induction steps generalizing before t with
  | nil => rw [List.append_nil]; exact h
  | cons step steps ih =>
    rw [List.append_cons]
    exact ih (h.step step)

theorem after_run {fs : FileSystem} {c : Config} {schema : Schema} {builtins : Builtins}
    {source : Option Schema} (h : create fs c schema builtins source = .ok s) (steps : List Step) :
    After s steps (s.run steps).2 := by
  have hmade : After s [] s := by
    refine ⟨rfl, rfl, rfl, s.overrides.builtins.primitives, s.config.typesPackage,
      .made keepsResolver_nil, ?_⟩
    rw [builtins_of_create h, eq_of_create h]
  exact hmade.run steps

end

/-! ## Steps without effect -/

/-- Whether a step may change one of the given options or the resolver. -/
def Step.Touches (fields : List Config.Field) : Step → Prop
  | .set name _ => name = "__dict__" ∨ ∃ f ∈ fields, f.key = name
  | .newResolver _ => True
  | _ => False

/-- Whether two sessions differ at most in options that are not among the given ones. -/
structure AgreeOn (fields : List Config.Field) (s t : Session) : Prop where
  schema : s.schema = t.schema
  overrides : s.overrides = t.overrides
  resolver : s.resolver = t.resolver
  config : s.config.AgreeOn fields t.config

section

variable {fields : List Config.Field} {s t u : Session}

theorem AgreeOn.refl (s : Session) : AgreeOn fields s s := ⟨rfl, rfl, rfl, .refl _⟩

theorem AgreeOn.trans (h : AgreeOn fields s t) (h' : AgreeOn fields t u) : AgreeOn fields s u :=
  ⟨h.schema.trans h'.schema, h.overrides.trans h'.overrides, h.resolver.trans h'.resolver,
    fun f hf => (h.config f hf).trans (h'.config f hf)⟩

/-- Sessions that agree still do after a step that both take. A step that makes resolvers needs the
options that the package follows from. -/
theorem AgreeOn.step (h : AgreeOn fields s t) {step : Step}
    (hstep : (∃ given, step = .newResolver given) →
      .packageName ∈ fields ∧ .typesPackageName ∈ fields) :
    AgreeOn fields (s.step step).2 (t.step step).2 where
  schema := by rw [step_schema, step_schema, h.schema]
  overrides := by rw [step_overrides, step_overrides, h.overrides]
  resolver := by
    by_cases hnew : ∃ given, step = .newResolver given
    · obtain ⟨hname, htypes⟩ := hstep hnew
      obtain ⟨given, rfl⟩ := hnew
      show Resolver.make s.schema s.overrides s.config given =
        Resolver.make t.schema t.overrides t.config given
      rw [Resolver.make, Resolver.make, h.schema, h.overrides, h.config.typesPackage_eq hname htypes]
    · rw [not_exists] at hnew
      rw [step_resolver s hnew, step_resolver t hnew, h.resolver]
  config := by
    rw [step_config, step_config]
    cases step with
    | set name value => exact h.config.assigned name value
    | _ => exact h.config

/-- A step that touches nothing of the given options changes nothing of them. -/
theorem agreeOn_step (s : Session) {step : Step} (h : ¬step.Touches fields) :
    AgreeOn fields s (s.step step).2 where
  schema := (step_schema s step).symm
  overrides := (step_overrides s step).symm
  resolver := by
    refine (step_resolver s ?_).symm
    rintro given rfl
    exact h trivial
  config := by
    rw [step_config]
    cases step with
    | set name value =>
      rw [Step.Touches, not_or, not_exists] at h
      exact Config.agreeOn_assigned h.1 fun f hf hkey => h.2 f ⟨hf, hkey⟩
    | _ => exact .refl _

theorem AgreeOn.run (h : AgreeOn fields s t) {steps : List Step}
    (hsteps : KeepsResolver steps ∨ .packageName ∈ fields ∧ .typesPackageName ∈ fields) :
    AgreeOn fields (s.run steps).2 (t.run steps).2 := by
  induction steps generalizing s t with
  | nil => exact h
  | cons step steps ih =>
    rw [run_cons, run_cons]
    refine ih (h.step ?_) (hsteps.imp_left fun hkeeps given hmem => hkeeps given (.tail _ hmem))
    intro hnew
    obtain ⟨given, rfl⟩ := hnew
    rcases hsteps with hkeeps | hfields
    · exact absurd List.mem_cons_self (hkeeps given)
    · exact hfields

theorem agreeOn_run (s : Session) {steps : List Step} (h : ∀ step ∈ steps, ¬step.Touches fields) :
    AgreeOn fields s (s.run steps).2 := by
  induction steps generalizing s with
  | nil => exact .refl s
  | cons step steps ih =>
    rw [List.forall_mem_cons] at h
    rw [run_cons]
    exact (agreeOn_step s h.1).trans (ih _ h.2)

theorem step_resolve (s : Session) (request : Request) (interface wildcard : Bool) :
    (s.step (.resolve request interface wildcard)).1 =
      (s.resolver.answer s.config.keepsBoxed request interface wildcard).map .resolved := rfl

/-- Sessions that agree on the option to keep types boxed give the same answers. -/
theorem AgreeOn.step_resolve (h : AgreeOn fields s t) (hfields : .generateBoxedTypes ∈ fields)
    (request : Request) (interface wildcard : Bool) :
    (s.step (.resolve request interface wildcard)).1 =
      (t.step (.resolve request interface wildcard)).1 := by
  rw [Session.step_resolve, Session.step_resolve, h.resolver, h.config.keepsBoxed_eq hfields]

/-- Steps that touch nothing of importance can be left out of a run. -/
theorem told_append_append (s : Session) {before inert after : List Step}
    (hfields : .generateBoxedTypes ∈ fields) (hinert : ∀ step ∈ inert, ¬step.Touches fields)
    (hafter : KeepsResolver after ∨ .packageName ∈ fields ∧ .typesPackageName ∈ fields)
    (request : Request) (interface wildcard : Bool) :
    s.told (before ++ inert ++ after) (.resolve request interface wildcard) =
      s.told (before ++ after) (.resolve request interface wildcard) := by
  have hagree : AgreeOn fields (s.run (before ++ after)).2 (s.run (before ++ inert ++ after)).2 := by
    rw [run_append s before, List.append_assoc, run_append s before, run_append _ inert]
    exact (agreeOn_run _ hinert).run hafter
  exact (hagree.step_resolve hfields request interface wildcard).symm

/-- A step that fails can be left out of a run. -/
theorem told_append_cons_of_error {before : List Step} {failing : Step} {e : StepError}
    (h : s.told before failing = .error e) (after : List Step) (step : Step) :
    s.told (before ++ failing :: after) step = s.told (before ++ after) step := by
  have hrun : (s.run (before ++ failing :: after)).2 = (s.run (before ++ after)).2 := by
    rw [run_append, run_append, run_cons, step_of_error h]
  rw [told, told, hrun]

end

section

variable {fs : FileSystem} {c : Config} {schema : Schema} {builtins : Builtins}
  {source : Option Schema} {s : Session} (h : create fs c schema builtins source = .ok s)
include h

theorem schema_run (steps : List Step) : (s.run steps).2.schema = schema := by
  rw [(after_run h steps).schema, eq_of_create h]

theorem overrides_run (steps : List Step) : (s.run steps).2.overrides = s.overrides :=
  (after_run h steps).overrides

theorem config_run (steps : List Step) : (s.run steps).2.config = c.after steps := by
  rw [(after_run h steps).config, eq_of_create h]

theorem resolver_run (steps : List Step) : ∃ primitives package,
    InForce builtins c steps primitives package ∧
      (s.run steps).2.resolver = ⟨schema, s.overrides, primitives, package⟩ := by
  obtain ⟨primitives, package, hforce, hresolver⟩ := (after_run h steps).resolver
  refine ⟨primitives, package, ?_, ?_⟩
  · rw [builtins_of_create h, eq_of_create h] at hforce
    exact hforce
  · rw [hresolver]
    rw [eq_of_create h]

/-- What a request is answered follows from what is in force. -/
theorem told_resolve {before : List Step} {primitives : OrderedMap String JavaType} {package : Json}
    (hforce : InForce builtins c before primitives package) (request : Request)
    (interface wildcard : Bool) : s.told before (.resolve request interface wildcard) =
      ((Resolver.mk schema s.overrides primitives package).answer (c.after before).keepsBoxed
        request interface wildcard).map .resolved := by
  obtain ⟨_, _, hforce', hresolver⟩ := resolver_run h before
  obtain ⟨rfl, rfl⟩ := hforce.unique hforce'
  rw [told, step_resolve, hresolver, config_run h]

theorem told_isStringInput (before : List Step) (type : JavaType) :
    s.told before (.isStringInput type) = (s.overrides.stringInput type).map (.stringInput type) := by
  obtain ⟨_, _, -, hresolver⟩ := resolver_run h before
  show ((s.run before).2.resolver.overrides.stringInput type).map (Answer.stringInput type) = _
  rw [hresolver]

end

/-- In the run of a session that could be made the schema and the table never change. What a request
is answered depends on these, on the primitives and the package of the resolver that is in force, and
on whether types stay boxed at that time; a request that can be read always has a type. Whether values
of a type are written as strings depends on the table only. Failing steps have no effect on later
answers, and neither have steps that make no resolver and do not say whether types stay boxed, unless
they set one of the two options for the package and a resolver is made before the answer. -/
theorem told_of_create {fs : FileSystem} {c : Config} {schema : Schema} {builtins : Builtins}
    {source : Option Schema} {s : Session} (h : create fs c schema builtins source = .ok s) :
    (∀ steps, (s.run steps).2.schema = schema ∧ (s.run steps).2.overrides = s.overrides ∧
      (s.run steps).2.config = c.after steps) ∧
    (∀ before step after,
      (s.run (before ++ step :: after)).1[before.length]? = some (s.told before step)) ∧
    (∀ before request interface wildcard,
      (∃ primitives package, InForce builtins c before primitives package) ∧
      ∀ primitives package, InForce builtins c before primitives package →
        s.told before (.resolve request interface wildcard) =
          ((Resolver.mk schema s.overrides primitives package).answer (c.after before).keepsBoxed
            request interface wildcard).map .resolved ∧
        ∀ e, request.typeExpr = .ok e → ∃ type,
          (Resolver.mk schema s.overrides primitives package).resolve
            ⟨interface, wildcard, (c.after before).keepsBoxed⟩ e = .ok type ∧
          s.told before (.resolve request interface wildcard) = .ok (.resolved type)) ∧
    (∀ before, s.told before .table = .ok (.table s.overrides) ∧
      s.told before .schema = .ok (.schema schema) ∧
      ∀ type, s.told before (.isStringInput type) =
        (s.overrides.stringInput type).map (.stringInput type)) ∧
    (∀ before failing e, s.told before failing = .error e → ∀ after step,
      s.told (before ++ failing :: after) step = s.told (before ++ after) step) ∧
    (∀ before inert after request interface wildcard,
      (∀ step ∈ inert, ¬step.Touches [.generateBoxedTypes]) → KeepsResolver after →
      s.told (before ++ inert ++ after) (.resolve request interface wildcard) =
        s.told (before ++ after) (.resolve request interface wildcard)) ∧
    (∀ before inert after request interface wildcard,
      (∀ step ∈ inert, ¬step.Touches [.generateBoxedTypes, .packageName, .typesPackageName]) →
      s.told (before ++ inert ++ after) (.resolve request interface wildcard) =
        s.told (before ++ after) (.resolve request interface wildcard)) := by
  refine ⟨fun steps => ⟨schema_run h steps, overrides_run h steps, config_run h steps⟩,
    getElem?_run s, ?_, ?_, ?_, ?_, ?_⟩
  · intro before request interface wildcard
    constructor
    · obtain ⟨primitives, package, hforce, -⟩ := resolver_run h before
      exact ⟨primitives, package, hforce⟩
    · intro primitives package hforce
      have htold := told_resolve h hforce request interface wildcard
      refine ⟨htold, fun e he => ?_⟩
      obtain ⟨type, htype⟩ := Resolver.exists_answer (Resolver.mk schema s.overrides primitives package)
        (c.after before).keepsBoxed interface wildcard he
      exact ⟨type, htype.1, by rw [htold, htype.2]; rfl⟩
  · intro before
    refine ⟨?_, ?_, told_isStringInput h before⟩
    · show Except.ok (Answer.table (s.run before).2.overrides) = _
      rw [overrides_run h]
    · show Except.ok (Answer.schema (s.run before).2.schema) = _
      rw [schema_run h]
  · intro before failing e hfailing after step
    exact told_append_cons_of_error hfailing after step
  · intro before inert after request interface wildcard hinert hafter
    exact told_append_append s (List.mem_singleton.mpr rfl) hinert (.inl hafter) request interface wildcard
  · intro before inert after request interface wildcard hinert
    exact told_append_append s (by simp) hinert (.inr (by simp)) request interface wildcard

/-- A package that is set counts once a new resolver is made, also one that is no text and in which
types cannot be looked up, and the option to keep types boxed counts at once. -/
theorem told_after_assignments :
    let schema := Schema.ofDefinitions [.objectType "Show" []]
    let showType : Request := .tree (.named "Show")
    let intType : Request := .tree (.nonNull (.named "Int"))
    let inArray : JavaType := .declared ⟨.array [.text "a"], "Show", []⟩
    ∃ s, create ⟨.emptyDirectory, []⟩ .standard schema = .ok s ∧
      s.told [.set "package_name" (.text "a"), .newResolver none, .set "package_name" (.text "b")]
        (.resolve showType true false) =
          .ok (.resolved (Builtins.classType "a.types" "IShow")) ∧
      s.told [.set "package_name" (.text "a"), .set "generate_boxed_types" (.bool true)]
        (.resolve intType true false) = .ok (.resolved (.boxed .int)) ∧
      s.told [.set "types_package_name" (.array [.text "a"]), .newResolver none]
        (.resolve showType false false) = .ok (.resolved inArray) ∧
      s.told [.set "types_package_name" (.array [.text "a"]), .newResolver none]
        (.isStringInput inArray) = .error (.noKey inArray) := by
  intro schema showType intType inArray
  have h : create ⟨.emptyDirectory, []⟩ .standard schema = .ok _ := rfl
  obtain ⟨-, -, hresolve, hasked, -⟩ := told_of_create h
  refine ⟨_, h, ?_, ?_, ?_, (hasked _).2.2 inArray⟩
  · have hkeeps : KeepsResolver [.set "package_name" (.text "b")] := by
      simp [KeepsResolver]
    exact ((hresolve _ showType true false).2 _ _
      (@InForce.replaced .standard .standard [.set "package_name" (.text "a")] _ none hkeeps)).1
  · have hkeeps : KeepsResolver
        [.set "package_name" (.text "a"), .set "generate_boxed_types" (.bool true)] := by
      simp [KeepsResolver]
    exact ((hresolve _ intType true false).2 _ _ (.made hkeeps)).1
  · exact ((hresolve _ showType false false).2 _ _ (@InForce.replaced .standard .standard
      [.set "types_package_name" (.array [.text "a"])] _ none keepsResolver_nil)).1

end Session

end TypeAtlas
