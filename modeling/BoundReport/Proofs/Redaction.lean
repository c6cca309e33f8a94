import BoundReport.Proofs.Calls
import BoundReport.Proofs.Congruence

/-!
# Up to Passwords

A datasource is **redacted** if its password is taken out. Catalogs that are the same after the
redaction of one datasource are read on and filled in alike: the lookups find the same, and all
that the password reaches is the engine, with each call. If the engine's answers do not depend on
it, the report and the warnings do not either, and the calls are the same after redaction.

## Main results

* `ParsedTemplate.readLines_alike`: reading goes on alike with alike catalogs.
* `process_alike`: alike catalogs fill in every document alike.
-/

namespace BoundReport

/-! ### Redaction -/

/-- The datasource with its password taken out, if this is its name. -/
def DataSource.redacted (name : Text) (source : DataSource) : DataSource :=
  if source.name = name then { source with password := [] } else source

/-- The call with the password of its datasource taken out, if the datasource has this name. -/
def Call.redacted (name : Text) (call : Call) : Call :=
  { call with source := call.source.redacted name }

/-- Two datasources are **alike** if they are the same, or have the name and differ in their
passwords at most. -/
def DataSource.Alike (name : Text) (source₁ source₂ : DataSource) : Prop :=
  source₁.redacted name = source₂.redacted name

namespace DataSource

variable {name : Text} {source₁ source₂ : DataSource}

@[simp] theorem name_redacted (name : Text) (source : DataSource) :
    (source.redacted name).name = source.name := by
  rw [redacted]
  split <;> rfl

@[simp] theorem describe_redacted (name : Text) (source : DataSource) :
    (source.redacted name).describe = source.describe := by
  rw [redacted]
  split <;> rfl

@[simp] theorem serialized_redacted (name : Text) (source : DataSource) :
    (source.redacted name).serialized = source.serialized := by
  rw [redacted]
  split <;> rfl

theorem Alike.name_eq (h : Alike name source₁ source₂) : source₁.name = source₂.name := by
  rw [← name_redacted name source₁, h, name_redacted]

/-- What is shown of a datasource does not depend on its password. -/
theorem Alike.shown (h : Alike name source₁ source₂) :
    source₁.describe = source₂.describe ∧ source₁.serialized = source₂.serialized := by
  rw [← describe_redacted name source₁, ← serialized_redacted name source₁, h, describe_redacted,
    serialized_redacted]
  exact ⟨rfl, rfl⟩

end DataSource

/-- Two results **end alike** if both are the same error, or both are values that are related. -/
inductive EndAlike {ε α β : Type} (R : α → β → Prop) : Except ε α → Except ε β → Prop
  | error (error : ε) : EndAlike R (.error error) (.error error)
  | ok {value₁ : α} {value₂ : β} (h : R value₁ value₂) : EndAlike R (.ok value₁) (.ok value₂)

namespace EndAlike

variable {ε α β γ δ : Type} {R : α → β → Prop} {S : γ → δ → Prop}

protected theorem rfl {result : Except ε α} : EndAlike Eq result result := by
  cases result with
  | error error => exact .error error
  | ok value => exact .ok rfl

theorem mono {R' : α → β → Prop} {result₁ : Except ε α} {result₂ : Except ε β}
    (h : EndAlike R result₁ result₂)
    (himp : ∀ value₁ value₂, result₁ = .ok value₁ → R value₁ value₂ → R' value₁ value₂) :
    EndAlike R' result₁ result₂ := by
  cases h with
  | error error => exact .error error
  | ok h => exact .ok (himp _ _ rfl h)

theorem eq_error {result₁ : Except ε α} {result₂ : Except ε β} {error : ε}
    (h : EndAlike R result₁ result₂) (heq : result₁ = .error error) : result₂ = .error error := by
  subst heq
  cases h
  rfl

theorem exists_eq_ok {result₁ : Except ε α} {result₂ : Except ε β} {value₁ : α}
    (h : EndAlike R result₁ result₂) (heq : result₁ = .ok value₁) :
    ∃ value₂, result₂ = .ok value₂ ∧ R value₁ value₂ := by
  subst heq
  cases h with
  | ok hvalue => exact ⟨_, rfl, hvalue⟩

/-- Computations in a row end alike if each of them does. -/
theorem bind {first₁ : Except ε α} {first₂ : Except ε β} {next₁ : α → Except ε γ}
    {next₂ : β → Except ε δ} (hfirst : EndAlike R first₁ first₂)
    (hnext : ∀ value₁ value₂, R value₁ value₂ → EndAlike S (next₁ value₁) (next₂ value₂)) :
    EndAlike S (first₁ >>= next₁) (first₂ >>= next₂) := by
  cases hfirst with
  | error error => exact .error error
  | ok h => exact hnext _ _ h

theorem map {result₁ : Except ε α} {result₂ : Except ε β} {f : α → γ} {g : β → δ}
    (h : EndAlike R result₁ result₂)
    (hmap : ∀ value₁ value₂, R value₁ value₂ → S (f value₁) (g value₂)) :
    EndAlike S (result₁.map f) (result₂.map g) := by
  cases h with
  | error error => exact .error error
  | ok h => exact .ok (hmap _ _ h)

end EndAlike

/-! ### Catalogs -/

namespace Registry

variable {name : Text} {registry₁ registry₂ : Registry DataSource} {source₁ source₂ : DataSource}

/-- Two registries are **alike** if their datasources are the same after redaction. -/
def Alike (name : Text) (registry₁ registry₂ : Registry DataSource) : Prop :=
  registry₁.entries.map (DataSource.redacted name) =
    registry₂.entries.map (DataSource.redacted name)

/-- Redaction leaves the names, so it does not matter to a lookup. -/
theorem map_redacted_get? (name : Text) (registry : Registry DataSource) (other : Text) :
    (registry.get? other).map (DataSource.redacted name) =
      find? other (registry.entries.map (DataSource.redacted name)) := by
  have hnames : (fun source : DataSource => decide (Named.name source = other)) ∘
      DataSource.redacted name = fun source => decide (Named.name source = other) := by
    funext source
    exact congrArg (fun found => decide (found = other)) (DataSource.name_redacted name source)
  rw [find?, List.find?_map, hnames]
  rfl

theorem Alike.get? (h : Alike name registry₁ registry₂) (other : Text) :
    (registry₁.get? other).map (DataSource.redacted name) =
      (registry₂.get? other).map (DataSource.redacted name) := by
  rw [map_redacted_get?, map_redacted_get?, h]

theorem Alike.contains (h : Alike name registry₁ registry₂) (other : Text) :
    registry₁.contains other = registry₂.contains other := by
  have hsome := congrArg Option.isSome (h.get? other)
  rw [Option.isSome_map, Option.isSome_map] at hsome
  exact hsome

/-- Redaction does not matter to the place of a new definition. -/
theorem map_redacted_insertEntry (name : Text) (source : DataSource) (entries : List DataSource) :
    (insertEntry source entries).map (DataSource.redacted name) =
      insertEntry (source.redacted name) (entries.map (DataSource.redacted name)) := by
  have hname (source : DataSource) : Named.name (source.redacted name) = Named.name source :=
    source.name_redacted name
  induction entries with
  | nil => rfl
  | cons first rest ih =>
    rw [List.map_cons, insertEntry, insertEntry, hname, hname]
    split
    · rfl
    · rw [List.map_cons, ih]

/-- Alike datasources are registered alike. -/
theorem Alike.register (h : Alike name registry₁ registry₂)
    (hsource : DataSource.Alike name source₁ source₂) :
    EndAlike (Alike name) (registry₁.register source₁) (registry₂.register source₂) := by
  have hname : Named.name source₁ = Named.name source₂ := hsource.name_eq
  have hfresh : find? (Named.name source₁) registry₁.entries = none ↔
      find? (Named.name source₂) registry₂.entries = none := by
    rw [hname, ← Option.not_isSome_iff_eq_none, ← Option.not_isSome_iff_eq_none]
    exact not_congr (Bool.eq_iff_iff.1 (h.contains _))
  rw [Registry.register, Registry.register]
  by_cases hnone : find? (Named.name source₁) registry₁.entries = none
  · rw [dif_pos hnone, dif_pos (hfresh.1 hnone)]
    refine .ok ?_
    rw [Alike, map_redacted_insertEntry, map_redacted_insertEntry, h, hsource]
  · rw [dif_neg hnone, dif_neg (mt hfresh.2 hnone), hname]
    exact .error _

end Registry

/-- Two catalogs are **alike** if they have the same datasets, and datasources that are the same
after redaction. -/
structure Catalog.Alike (name : Text) (catalog₁ catalog₂ : Catalog) : Prop where
  sources : Registry.Alike name catalog₁.dataSources catalog₂.dataSources
  sets : catalog₁.dataSets = catalog₂.dataSets

theorem Catalog.Alike.rfl {name : Text} {catalog : Catalog} : Alike name catalog catalog :=
  ⟨Eq.refl _, Eq.refl _⟩

namespace ParsedTemplate

/-! ### Reading -/

/-- Two readings are **alike** if they have come equally far with catalogs that are alike. -/
structure Progress.Alike (name : Text) (progress₁ progress₂ : Progress) : Prop where
  catalog : Catalog.Alike name progress₁.catalog progress₂.catalog
  line : progress₁.line = progress₂.line
  sourceLines : progress₁.sourceLines = progress₂.sourceLines
  setLines : progress₁.setLines = progress₂.setLines

/-- Two templates are taken apart **alike** if they have the same body and catalogs that are
alike. -/
structure Alike (name : Text) (parsed₁ parsed₂ : ParsedTemplate) : Prop where
  catalog : Catalog.Alike name parsed₁.catalog parsed₂.catalog
  body : parsed₁.body = parsed₂.body

/-- Two lines are read **alike** if reading goes on alike and leaves the same to the body. -/
def StepAlike (name : Text) (result₁ result₂ : Progress × Option Text) : Prop :=
  Progress.Alike name result₁.1 result₂.1 ∧ result₁.2 = result₂.2

variable {name : Text} {limits : DeclarationLimits} {progress₁ progress₂ : Progress}
  {catalog₁ catalog₂ : Catalog}

/-- Definitions that make alike datasources declare them alike. -/
theorem declareDataSource_alike (hcatalog : Catalog.Alike name catalog₁ catalog₂) (number : Nat)
    {definition₁ definition₂ : Text}
    (h : EndAlike (DataSource.Alike name) (DataSource.parse definition₁)
      (DataSource.parse definition₂)) :
    EndAlike (Catalog.Alike name) (declareDataSource catalog₁ number definition₁)
      (declareDataSource catalog₂ number definition₂) := by
  rw [declareDataSource, declareDataSource]
  generalize DataSource.parse definition₁ = parsed₁ at h
  generalize DataSource.parse definition₂ = parsed₂ at h
  cases h with
  | error reason => exact .error _
  | ok hsource => exact (hcatalog.sources.register hsource).map fun _ _ h => ⟨h, hcatalog.sets⟩

theorem declareDataSet_alike (hcatalog : Catalog.Alike name catalog₁ catalog₂) (number : Nat)
    (definition : Text) :
    EndAlike (Catalog.Alike name) (declareDataSet catalog₁ number definition)
      (declareDataSet catalog₂ number definition) := by
  rw [declareDataSet, declareDataSet]
  refine .bind .rfl fun dataSet _ heq => ?_
  subst heq
  rw [hcatalog.sources.contains]
  split
  · rw [Catalog.registerDataSet, Catalog.registerDataSet, hcatalog.sets]
    exact EndAlike.rfl.map fun sets _ heq => ⟨hcatalog.sources, heq⟩
  · exact .error _

/-- A line is read alike by readings that are alike. -/
theorem step_alike (h : Progress.Alike name progress₁ progress₂) (line : Text) :
    EndAlike (StepAlike name) (step limits progress₁ line) (step limits progress₂ line) := by
  obtain ⟨hcatalog, hline, hsources, hsets⟩ := h
  rw [step, step, hline, hsources, hsets]
  simp only
  split
  · split
    · rename_i definition _ _
      have hparse : EndAlike (DataSource.Alike name) (DataSource.parse definition)
          (DataSource.parse definition) :=
        EndAlike.rfl.mono fun _ _ _ heq => congrArg (DataSource.redacted name) heq
      exact .bind (declareDataSource_alike hcatalog _ hparse) fun _ _ h =>
        .ok ⟨⟨h, rfl, rfl, rfl⟩, rfl⟩
    · exact .ok ⟨⟨hcatalog, rfl, rfl, rfl⟩, rfl⟩
  · split
    · split
      · exact .bind (declareDataSet_alike hcatalog _ _) fun _ _ h => .ok ⟨⟨h, rfl, rfl, rfl⟩, rfl⟩
      · exact .ok ⟨⟨hcatalog, rfl, rfl, rfl⟩, rfl⟩
    · exact .ok ⟨⟨hcatalog, rfl, rfl, rfl⟩, rfl⟩

/-- Lines are read alike if the first ones are, and then the others. -/
theorem readLines_cons_alike {line₁ line₂ : Text} {rest₁ rest₂ : List Text}
    (hstep : EndAlike (StepAlike name) (step limits progress₁ line₁) (step limits progress₂ line₂))
    (hrest : ∀ next₁ next₂ left, step limits progress₁ line₁ = .ok (next₁, left) →
      Progress.Alike name next₁ next₂ → EndAlike (Alike name) (readLines limits next₁ rest₁)
        (readLines limits next₂ rest₂)) :
    EndAlike (Alike name) (readLines limits progress₁ (line₁ :: rest₁))
      (readLines limits progress₂ (line₂ :: rest₂)) := by
  rw [readLines, readLines]
  cases hfirst : step limits progress₁ line₁ with
  | error error =>
    rw [hstep.eq_error hfirst]
    exact .error error
  | ok result₁ =>
    obtain ⟨next₁, left⟩ := result₁
    obtain ⟨⟨next₂, left₂⟩, hsecond, hresult⟩ := hstep.exists_eq_ok hfirst
    obtain ⟨hnext, rfl⟩ : Progress.Alike name next₁ next₂ ∧ left = left₂ := hresult
    rw [hsecond]
    refine (hrest next₁ next₂ left hfirst hnext).bind fun parsed₁ parsed₂ hparsed => ?_
    cases left with
    | none => exact .ok hparsed
    | some text => exact .ok ⟨hparsed.catalog, congrArg (Line.text text :: ·) hparsed.body⟩

/-- **Reading goes on alike** with catalogs that are alike. -/
theorem readLines_alike (h : Progress.Alike name progress₁ progress₂) (lines : List Text) :
    EndAlike (Alike name) (readLines limits progress₁ lines)
      (readLines limits progress₂ lines) := by
  induction lines generalizing progress₁ progress₂ with
  | nil => exact .ok ⟨h.catalog, rfl⟩
  | cons line rest ih =>
    exact readLines_cons_alike (step_alike h line) fun _ _ _ _ hnext => ih hnext

end ParsedTemplate

/-! ### Engines that do not look at passwords -/

section

variable {σ α β : Type} {name : Text}

/-- What an engine answers when it is asked one call after the other. -/
def Engine.answersTo (engine : Engine σ) : List Call → σ → List (Except QueryFailure (List Row))
  | [], _ => []
  | call :: rest, state =>
    let (answer, next) := engine.execute call.source call.invocation state
    answer :: engine.answersTo rest next

/-- Two states of an engine are **indistinguishable** if the engine gives the same answers from
both, as long as it is asked the same up to the password of the datasource with this name. -/
def Engine.Indistinguishable (engine : Engine σ) (name : Text) (state₁ state₂ : σ) : Prop :=
  ∀ calls₁ calls₂ : List Call,
    calls₁.map (Call.redacted name) = calls₂.map (Call.redacted name) →
      engine.answersTo calls₁ state₁ = engine.answersTo calls₂ state₂

/-- From a state an engine **ignores the password** of a datasource if its answers do not depend on
it, however often it is asked. It may well keep it. -/
def Engine.IgnoresPassword (engine : Engine σ) (name : Text) (state : σ) : Prop :=
  engine.Indistinguishable name state state

/-- Asked the same up to passwords, an engine gives the same answer and stays
indistinguishable. -/
theorem Engine.Indistinguishable.execute {engine : Engine σ} {state₁ state₂ : σ}
    (h : engine.Indistinguishable name state₁ state₂) {source₁ source₂ : DataSource}
    (hsource : DataSource.Alike name source₁ source₂) (invocation : Invocation) :
    (engine.execute source₁ invocation state₁).1 = (engine.execute source₂ invocation state₂).1 ∧
      engine.Indistinguishable name (engine.execute source₁ invocation state₁).2
        (engine.execute source₂ invocation state₂).2 := by
  have hcall : (⟨source₁, invocation⟩ : Call).redacted name =
      (⟨source₂, invocation⟩ : Call).redacted name :=
    congrArg (Call.mk · invocation) hsource
  have hfirst := h [⟨source₁, invocation⟩] [⟨source₂, invocation⟩] (congrArg ([·]) hcall)
  refine ⟨(List.cons.inj hfirst).1, fun calls₁ calls₂ hcalls => ?_⟩
  have hall := h (⟨source₁, invocation⟩ :: calls₁) (⟨source₂, invocation⟩ :: calls₂) (by
    rw [List.map_cons, List.map_cons, hcall, hcalls])
  exact (List.cons.inj hall).2

/-- Two computations are **alike** if from indistinguishable states they give the same result and
the same warnings, make the same calls up to passwords, and leave indistinguishable states. -/
def Resolution.Alike (engine : Engine σ) (name : Text) (α : Type)
    (first second : Resolution σ α) : Prop :=
  ∀ state₁ state₂, engine.Indistinguishable name state₁ state₂ →
    (first.run state₁).value = (second.run state₂).value ∧
      (first.run state₁).warnings = (second.run state₂).warnings ∧
      (first.run state₁).calls.map (Call.redacted name) =
        (second.run state₂).calls.map (Call.redacted name) ∧
      engine.Indistinguishable name (first.run state₁).state (second.run state₂).state

variable {engine : Engine σ}

theorem Resolution.Alike.bind {first₁ first₂ : Resolution σ α} {next₁ next₂ : α → Resolution σ β}
    (hfirst : Alike engine name α first₁ first₂)
    (hnext : ∀ value, Alike engine name β (next₁ value) (next₂ value)) :
    Alike engine name β (first₁ >>= next₁) (first₂ >>= next₂) := by
  intro state₁ state₂ hstates
  obtain ⟨hvalue, hwarnings, hcalls, hstate⟩ := hfirst state₁ state₂ hstates
  obtain ⟨hvalue', hwarnings', hcalls', hstate'⟩ := hnext _ _ _ hstate
  rw [run_bind, run_bind, ← hvalue]
  refine ⟨hvalue', ?_, ?_, hstate'⟩
  · rw [hwarnings, hwarnings']
  · rw [List.map_append, List.map_append, hcalls, hcalls']

/-- Being alike is kept by everything but the calls. -/
theorem Resolution.congruence_alike : Congruence (Resolution.Alike engine name) where
  pure _ _ _ hstates := ⟨rfl, rfl, rfl, hstates⟩
  warn _ _ _ hstates := ⟨rfl, rfl, rfl, hstates⟩
  bind := Resolution.Alike.bind

variable {catalog₁ catalog₂ : Catalog}

/-- A dataset is run alike with catalogs that are alike. -/
theorem runDataSet_alike (h : Catalog.Alike name catalog₁ catalog₂) (dataSet : DataSet) :
    Resolution.Alike engine name _ (runDataSet catalog₁ engine dataSet)
      (runDataSet catalog₂ engine dataSet) := by
  have hsource := h.sources.get? dataSet.dataSource
  rw [runDataSet, runDataSet, Catalog.dataSourceFor?, Catalog.dataSourceFor?]
  cases hfirst : catalog₁.dataSources.get? dataSet.dataSource with
  | none =>
    rw [hfirst, Option.map_none, eq_comm, Option.map_eq_none_iff] at hsource
    rw [hsource]
    exact Resolution.congruence_alike.pure _
  | some source₁ =>
    rw [hfirst, Option.map_some, eq_comm, Option.map_eq_some_iff] at hsource
    obtain ⟨source₂, hsecond, halike⟩ := hsource
    rw [hsecond]
    simp only
    split
    · exact Resolution.congruence_alike.pure _
    · intro state₁ state₂ hstates
      obtain ⟨hanswer, hnext⟩ := hstates.execute halike.symm _
      refine ⟨hanswer, rfl, ?_, hnext⟩
      exact congrArg (fun source => [Call.mk source _]) halike.symm

theorem fetch_alike (h : Catalog.Alike name catalog₁ catalog₂) (wanted : Text) :
    Resolution.Alike engine name _ (fetch catalog₁ engine wanted)
      (fetch catalog₂ engine wanted) := by
  have hcongr : Congruence (Resolution.Alike engine name) := Resolution.congruence_alike
  rw [fetch, fetch, h.sets]
  split
  · exact hcongr.pure _
  · refine hcongr.bind (runDataSet_alike h _) fun answer => ?_
    cases answer with
    | ok rows => exact hcongr.pure _
    | error failure => exact hcongr.bind (hcongr.warn _) fun _ => hcongr.pure _

/-- **Alike catalogs fill in every document alike.** -/
theorem process_alike (h : Catalog.Alike name catalog₁ catalog₂) (document : Document) :
    Resolution.Alike engine name _ (process catalog₁ engine document)
      (process catalog₂ engine document) :=
  Resolution.congruence_alike.process (fetch_alike h) document

end

end BoundReport
