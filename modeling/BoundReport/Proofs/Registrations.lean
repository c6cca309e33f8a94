import Mathlib.Data.List.Dedup
import Mathlib.Data.List.Induction
import BoundReport.Proofs.Reading

/-!
# Histories of Registrations

A catalog is filled by registering one definition after the other. A registration whose name is
taken in the registry of its kind is refused, and the catalog stays as it is; any other one
succeeds. So after any history a registry holds the first definition of every name that has been
used, in ascending order of the names, and what happens in one registry has no effect on the other.

The invariant that carries this is about look-ups alone: what is found under a name is the first
definition of this name. All else that can be seen of a registry follows from it and from the order.

## Main results

* `Text.precedes_iff_lt`: the order of names is that of their code points.
* `Registry.get?_attempt`: what one registration changes.
* `Registry.showsFirst_of_get?`: what can be seen of a registry follows from its look-ups.
* `Catalog.isTaken_iff`: a name is found if and only if a registration of it has succeeded.
* `Catalog.ofRegistrations_shows`: what can be seen of a catalog after any history.
-/

namespace BoundReport

/-- **The order of names is that of their code points**, compared one after the other. -/
theorem Text.precedes_iff_lt {s t : Text} :
    s.precedes t ↔ s.map Char.toNat < t.map Char.toNat := by
  induction s generalizing t with
  | nil => cases t <;> simp [precedes]
  | cons a s ih =>
    cases t with
    | nil => simp [precedes]
    | cons b t =>
      rw [precedes, List.map_cons, List.map_cons, List.cons_lt_cons_iff, Char.toNat_inj]
      split_ifs with hab
      · rw [ih]
        simp [hab]
      · simp [hab]

/-! ### One registry -/

namespace Registry

variable {α : Type} [Named α] {registry next : Registry α} {value : α} {name : Text}

/-- The names in a registry are different. -/
theorem nodup_names (registry : Registry α) : (registry.toList.map Named.name).Nodup := by
  refine List.pairwise_map.2 (registry.sorted.imp fun {one other} hless heq => ?_)
  rw [heq, Text.precedes_irrefl] at hless
  exact absurd hless Bool.false_ne_true

/-- What is found under a name is the definition in the registry that has the name. -/
theorem get?_eq_some_iff :
    registry.get? name = some value ↔ value ∈ registry.toList ∧ Named.name value = name := by
  constructor
  · exact mem_of_get?_eq_some
  · rintro ⟨hmem, hname⟩
    obtain ⟨found, hfound⟩ := Option.isSome_iff_exists.1 (contains_iff.2 ⟨value, hmem, hname⟩)
    obtain ⟨hmemFound, hnameFound⟩ := mem_of_get?_eq_some hfound
    rw [hfound, List.inj_on_of_nodup_map registry.nodup_names hmemFound hmem
      (hnameFound.trans hname.symm)]

/-- The registry after an attempt to register a definition: if it is refused, the registry that was
there before. -/
def attempt (registry : Registry α) (value : α) : Registry α :=
  match registry.register value with
  | .ok next => next
  | .error _ => registry

/-- **What one registration changes**: the definition is found under its name, if nothing was found
there before. -/
theorem get?_attempt (registry : Registry α) (value : α) (name : Text) :
    (registry.attempt value).get? name =
      (registry.get? name).or ([value].find? fun value => Named.name value = name) := by
  rw [attempt, List.find?_singleton]
  simp only [decide_eq_true_eq]
  cases hregister : registry.register value with
  | ok next =>
    obtain ⟨hfresh, hnext⟩ := register_eq_ok hregister
    ext found
    rw [get?_eq_some_iff, hnext.mem_iff, List.mem_cons, Option.or_eq_some_iff, get?_eq_some_iff]
    constructor
    · rintro ⟨rfl | hmem, rfl⟩
      · refine .inr ⟨?_, if_pos rfl⟩
        exact find?_eq_none_iff.2 hfresh
      · exact .inl ⟨hmem, rfl⟩
    · rintro (⟨hmem, hname⟩ | ⟨-, hsome⟩)
      · exact ⟨.inr hmem, hname⟩
      · split_ifs at hsome with hname
        cases hsome
        exact ⟨.inl rfl, hname⟩
  | error error =>
    -- the name is taken, so there is nothing to find behind what was found before
    obtain ⟨htaken, -⟩ := register_eq_error_iff.1 hregister
    split_ifs with hname
    · obtain ⟨found, hfound⟩ := Option.isSome_iff_exists.1 htaken
      show registry.get? name = _
      rw [← hname, hfound, Option.some_or]
    · rw [Option.or_none]

/-- After a registration its own name is there, and else the names that were there before. -/
theorem contains_attempt :
    (registry.attempt value).contains name ↔ registry.contains name ∨ Named.name value = name := by
  rw [contains, get?_attempt, Option.isSome_or, Bool.or_eq_true, List.find?_isSome]
  simp [contains]

/-- A registry **shows the first** of some definitions for every name. The five observations are a
look-up, whether a name is there, how many there are, which definitions are listed, and in which
order. -/
structure ShowsFirst (registry : Registry α) (values : List α) : Prop where
  get?_eq : ∀ name, registry.get? name = values.find? fun value => Named.name value = name
  contains_iff : ∀ name, registry.contains name ↔ ∃ value, registry.get? name = some value
  size_eq : registry.size = (values.map Named.name).dedup.length
  mem_toList_iff : ∀ value, value ∈ registry.toList ↔
    registry.get? (Named.name value) = some value
  ascending : registry.toList.Pairwise fun one other =>
    (Named.name one).map Char.toNat < (Named.name other).map Char.toNat

/-- **What can be seen of a registry follows from its look-ups.** -/
theorem showsFirst_of_get? {values : List α}
    (h : ∀ name, registry.get? name = values.find? fun value => Named.name value = name) :
    registry.ShowsFirst values := by
  have hnames (name : Text) : name ∈ registry.toList.map Named.name ↔
      name ∈ (values.map Named.name).dedup := by
    have hfound : (∃ value, registry.get? name = some value) ↔
        ∃ value ∈ values, Named.name value = name := by
      rw [h, ← Option.isSome_iff_exists, List.find?_isSome]
      simp
    rw [List.mem_dedup, List.mem_map, List.mem_map, ← hfound]
    simp only [get?_eq_some_iff]
  refine ⟨h, fun name => Option.isSome_iff_exists, ?_, fun value => ?_, ?_⟩
  · rw [← ((List.perm_ext_iff_of_nodup registry.nodup_names (List.nodup_dedup _)).2
      hnames).length_eq, List.length_map]
    rfl
  · rw [get?_eq_some_iff]
    simp
  · exact registry.sorted.imp fun hless => Text.precedes_iff_lt.1 hless

end Registry

/-! ### Both registries of a catalog -/

/-- A **registration** hands a definition to the registry of its kind. -/
inductive Registration
  | dataSource (source : DataSource)
  | dataSet (dataSet : DataSet)

namespace Registration

/-- The kind of the definition. -/
def kind : Registration → DeclarationKind
  | dataSource _ => .dataSource
  | dataSet _ => .dataSet

/-- The name of the definition. -/
def name : Registration → Text
  | dataSource source => source.name
  | dataSet set => set.name

/-- The datasource, if it is one. -/
def dataSource? : Registration → Option DataSource
  | dataSource source => some source
  | dataSet _ => none

/-- The dataset, if it is one. -/
def dataSet? : Registration → Option DataSet
  | dataSource _ => none
  | dataSet set => some set

end Registration

namespace Catalog

variable {catalog : Catalog} {registration : Registration} {history : List Registration}
  {kind : DeclarationKind} {name : Text}

/-- Registers a definition in the registry of its kind. -/
def register (catalog : Catalog) : Registration → Except ReportError Catalog
  | .dataSource source => catalog.registerDataSource source
  | .dataSet dataSet => catalog.registerDataSet dataSet

/-- The catalog after an attempt to register a definition: if it is refused, the catalog that was
there before. -/
def attempt (catalog : Catalog) (registration : Registration) : Catalog :=
  match catalog.register registration with
  | .ok next => next
  | .error _ => catalog

/-- The catalog after a **history**, which is any sequence of registrations. -/
def ofRegistrations (history : List Registration) : Catalog := history.foldl attempt empty

/-- Whether a definition of a kind has this name. -/
def contains (catalog : Catalog) : DeclarationKind → Text → Bool
  | .dataSource, name => catalog.dataSources.contains name
  | .dataSet, name => catalog.dataSets.contains name

theorem ofRegistrations_concat (history : List Registration) (registration : Registration) :
    ofRegistrations (history ++ [registration]) =
      (ofRegistrations history).attempt registration :=
  List.foldl_append

/-- The registration of a datasource leaves the datasets alone. -/
theorem attempt_dataSource (catalog : Catalog) (source : DataSource) :
    catalog.attempt (.dataSource source) =
      { catalog with dataSources := catalog.dataSources.attempt source } := by
  rw [attempt, register, registerDataSource, Registry.attempt]
  cases catalog.dataSources.register source <;> rfl

/-- The registration of a dataset leaves the datasources alone. -/
theorem attempt_dataSet (catalog : Catalog) (dataSet : DataSet) :
    catalog.attempt (.dataSet dataSet) =
      { catalog with dataSets := catalog.dataSets.attempt dataSet } := by
  rw [attempt, register, registerDataSet, Registry.attempt]
  cases catalog.dataSets.register dataSet <;> rfl

/-- A registration is refused if and only if its name is taken. -/
theorem register_eq_error_iff {error : ReportError} :
    catalog.register registration = .error error ↔
      catalog.contains registration.kind registration.name ∧
        error = .duplicateDefinition registration.kind registration.name := by
  cases registration with
  | dataSource source =>
    exact ParsedTemplate.map_eq_error_iff.trans Registry.register_eq_error_iff
  | dataSet dataSet =>
    exact ParsedTemplate.map_eq_error_iff.trans Registry.register_eq_error_iff

/-- A registration is accepted if and only if its name is free. -/
theorem exists_register_iff : (∃ next, catalog.register registration = .ok next) ↔
    ¬ catalog.contains registration.kind registration.name := by
  cases hregister : catalog.register registration with
  | ok next =>
    refine ⟨fun _ htaken => ?_, fun _ => ⟨next, rfl⟩⟩
    rw [register_eq_error_iff.2 ⟨htaken, rfl⟩] at hregister
    cases hregister
  | error error => simp [(register_eq_error_iff.1 hregister).1]

/-- After a registration its own name is taken, and else the names that were taken before. -/
theorem contains_attempt : (catalog.attempt registration).contains kind name ↔
    catalog.contains kind name ∨ registration.kind = kind ∧ registration.name = name := by
  cases registration with
  | dataSource source =>
    rw [attempt_dataSource]
    cases kind with
    | dataSource =>
      have hkind : (Registration.dataSource source).kind = .dataSource := rfl
      rw [and_iff_right hkind]
      exact Registry.contains_attempt
    | dataSet => simp [contains, Registration.kind]
  | dataSet dataSet =>
    rw [attempt_dataSet]
    cases kind with
    | dataSource => simp [contains, Registration.kind]
    | dataSet =>
      have hkind : (Registration.dataSet dataSet).kind = .dataSet := rfl
      rw [and_iff_right hkind]
      exact Registry.contains_attempt

/-! ### Histories -/

/-- A name of a kind is **taken** in a history if a registration of it has succeeded. -/
def IsTaken (history : List Registration) (kind : DeclarationKind) (name : Text) : Prop :=
  ∃ before earlier after, history = before ++ earlier :: after ∧
    earlier.kind = kind ∧ earlier.name = name ∧
    ∃ next, (ofRegistrations before).register earlier = .ok next

/-- One more registration takes its name if it succeeds. -/
theorem isTaken_concat : IsTaken (history ++ [registration]) kind name ↔
    IsTaken history kind name ∨ registration.kind = kind ∧ registration.name = name ∧
      ∃ next, (ofRegistrations history).register registration = .ok next := by
  constructor
  · rintro ⟨before, earlier, after, hhistory, hkind, hname, hnext⟩
    rcases List.eq_nil_or_concat after with rfl | ⟨rest, last, rfl⟩
    · obtain ⟨rfl, hlast⟩ := List.append_inj' hhistory rfl
      cases hlast
      exact .inr ⟨hkind, hname, hnext⟩
    · rw [List.concat_eq_append, ← List.cons_append, ← List.append_assoc] at hhistory
      obtain ⟨rfl, -⟩ := List.append_inj' hhistory rfl
      exact .inl ⟨before, earlier, rest, rfl, hkind, hname, hnext⟩
  · rintro (⟨before, earlier, after, rfl, htaken⟩ | htaken)
    · exact ⟨before, earlier, after ++ [registration], by simp, htaken⟩
    · exact ⟨history, registration, [], rfl, htaken⟩

/-- **A name is found if and only if a registration of it has succeeded.** -/
theorem isTaken_iff :
    IsTaken history kind name ↔ (ofRegistrations history).contains kind name := by
  induction history using List.reverseRecOn with
  | nil =>
    have hnone : (ofRegistrations []).contains kind name = false := by cases kind <;> rfl
    rw [hnone]
    simp [IsTaken]
  | append_singleton history registration ih =>
    rw [isTaken_concat, ih, ofRegistrations_concat, contains_attempt, exists_register_iff]
    constructor
    · rintro (hbefore | ⟨hkind, hname, -⟩)
      · exact .inl hbefore
      · exact .inr ⟨hkind, hname⟩
    · -- a registration that is refused has been preceded by one that has not
      rintro (hbefore | ⟨rfl, rfl⟩)
      · exact .inl hbefore
      · exact or_iff_not_imp_left.2 fun hfree => ⟨rfl, rfl, hfree⟩

/-- **Under a name stands the first definition of a history that has it.** -/
theorem get?_ofRegistrations (history : List Registration) (name : Text) :
    ((ofRegistrations history).dataSources.get? name =
      (history.filterMap Registration.dataSource?).find? fun source => source.name = name) ∧
      (ofRegistrations history).dataSets.get? name =
        (history.filterMap Registration.dataSet?).find? fun dataSet => dataSet.name = name := by
  induction history using List.reverseRecOn with
  | nil => exact ⟨rfl, rfl⟩
  | append_singleton history registration ih =>
    obtain ⟨hsources, hsets⟩ := ih
    rw [ofRegistrations_concat, List.filterMap_append, List.filterMap_append, List.find?_append,
      List.find?_append, ← hsources, ← hsets]
    cases registration with
    | dataSource source =>
      rw [attempt_dataSource]
      exact ⟨Registry.get?_attempt _ source name, Option.or_none.symm⟩
    | dataSet dataSet =>
      rw [attempt_dataSet]
      exact ⟨Option.or_none.symm, Registry.get?_attempt _ dataSet name⟩

/-- **What can be seen of a catalog after any history.** Both registries show the first definition
of every name. A registration succeeds if and only if no earlier one of the same kind and name has
succeeded; otherwise it is refused because of the name, and the catalog stays as it is. A
registration of one kind leaves the registry of the other kind alone. The datasource of a dataset is
the one that is registered under the name. -/
theorem ofRegistrations_shows (history : List Registration) :
    (ofRegistrations history).dataSources.ShowsFirst
        (history.filterMap Registration.dataSource?) ∧
      (ofRegistrations history).dataSets.ShowsFirst (history.filterMap Registration.dataSet?) ∧
      (∀ dataSet, (ofRegistrations history).dataSourceFor? dataSet =
        (history.filterMap Registration.dataSource?).find? fun source =>
          source.name = dataSet.dataSource) ∧
      (∀ next,
        (¬ IsTaken history next.kind next.name ∧
          (ofRegistrations history).register next = .ok (ofRegistrations (history ++ [next]))) ∨
        (IsTaken history next.kind next.name ∧
          (ofRegistrations history).register next =
            .error (.duplicateDefinition next.kind next.name) ∧
          ofRegistrations (history ++ [next]) = ofRegistrations history)) ∧
      (∀ source, (ofRegistrations (history ++ [.dataSource source])).dataSets =
        (ofRegistrations history).dataSets) ∧
      ∀ dataSet, (ofRegistrations (history ++ [.dataSet dataSet])).dataSources =
        (ofRegistrations history).dataSources := by
  have hget := get?_ofRegistrations history
  refine ⟨Registry.showsFirst_of_get? fun name => (hget name).1,
    Registry.showsFirst_of_get? fun name => (hget name).2,
    fun dataSet => (hget dataSet.dataSource).1, fun next => ?_, fun source => ?_,
    fun dataSet => ?_⟩
  · rw [isTaken_iff, ofRegistrations_concat, attempt]
    cases hregister : (ofRegistrations history).register next with
    | ok after => exact .inl ⟨exists_register_iff.1 ⟨after, hregister⟩, rfl⟩
    | error error =>
      obtain ⟨htaken, rfl⟩ := register_eq_error_iff.1 hregister
      exact .inr ⟨htaken, rfl, rfl⟩
  · rw [ofRegistrations_concat, attempt_dataSource]
  · rw [ofRegistrations_concat, attempt_dataSet]

/-- Code points decide about the order, and the second datasource `b` is refused. -/
example : (ofRegistrations [.dataSource ⟨"é", "s", "d", "u", "p"⟩,
    .dataSource ⟨"b", "first", "d", "u", "p"⟩, .dataSource ⟨"Z", "s", "d", "u", "p"⟩,
    .dataSource ⟨"b", "second", "d", "u", "p"⟩]).dataSources.toList =
      [⟨"Z", "s", "d", "u", "p"⟩, ⟨"b", "first", "d", "u", "p"⟩, ⟨"é", "s", "d", "u", "p"⟩] := by
  decide +kernel

end Catalog

end BoundReport
