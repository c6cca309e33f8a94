import BoundReport.Declarations
import BoundReport.Proofs.Registries

/-!
# Reading a Template Line by Line

This module says once what reading one line can do: a declaration is registered, or left to the
body because its kind has been read often enough, and any other line is left to the body. What
is true of a catalog after every line is true of the catalog of the whole template; first of
all, that every dataset in it has its datasource.

## Main results

* `step_eq_ok_iff`: reading a line does what the relation `Reads` allows, and nothing else.
* `catalog_of_readLines`: what every line preserves, reading preserves.
* `isReferential_of_parse`: every dataset of a template that can be taken apart has its
  datasource.
-/

namespace BoundReport

namespace ParsedTemplate

variable {limits : DeclarationLimits} {progress next : Progress} {line : Text}
  {left : Option Text}

/-- What **reading** a line does to the progress, and what it leaves to the body. -/
inductive Reads (limits : DeclarationLimits) (progress : Progress) (line : Text) :
    Progress → Option Text → Prop
  /-- The line declares a datasource. -/
  | source {definition : Text} {source : DataSource} {sources : Registry DataSource}
      (hline : declaration? DeclarationKind.dataSource.keyword (lex line) = some definition)
      (hlimit : progress.sourceLines ≤ limits.maxDataSources)
      (hparse : DataSource.parse definition = .ok source)
      (hregister : progress.catalog.dataSources.register source = .ok sources) :
      Reads limits progress line
        ⟨⟨sources, progress.catalog.dataSets⟩, progress.line + 1, progress.sourceLines + 1,
          progress.setLines⟩ none
  /-- The line has the form of a datasource behind the last one that is read. -/
  | sourceLeft {definition : Text}
      (hline : declaration? DeclarationKind.dataSource.keyword (lex line) = some definition)
      (hlimit : limits.maxDataSources < progress.sourceLines) :
      Reads limits progress line
        ⟨progress.catalog, progress.line + 1, progress.sourceLines + 1, progress.setLines⟩
        (some line)
  /-- The line declares a dataset whose datasource is there. -/
  | set {definition : Text} {dataSet : DataSet} {sets : Registry DataSet}
      (hsource : declaration? DeclarationKind.dataSource.keyword (lex line) = none)
      (hline : declaration? DeclarationKind.dataSet.keyword (lex line) = some definition)
      (hlimit : progress.setLines ≤ limits.maxDataSets)
      (hparse : DataSet.parse definition = .ok dataSet)
      (hreference : progress.catalog.dataSources.contains dataSet.dataSource)
      (hregister : progress.catalog.dataSets.register dataSet = .ok sets) :
      Reads limits progress line
        ⟨⟨progress.catalog.dataSources, sets⟩, progress.line + 1, progress.sourceLines,
          progress.setLines + 1⟩ none
  /-- The line has the form of a dataset behind the last one that is read. -/
  | setLeft {definition : Text}
      (hsource : declaration? DeclarationKind.dataSource.keyword (lex line) = none)
      (hline : declaration? DeclarationKind.dataSet.keyword (lex line) = some definition)
      (hlimit : limits.maxDataSets < progress.setLines) :
      Reads limits progress line
        ⟨progress.catalog, progress.line + 1, progress.sourceLines, progress.setLines + 1⟩
        (some line)
  /-- The line is no declaration. -/
  | body (hsource : declaration? DeclarationKind.dataSource.keyword (lex line) = none)
      (hset : declaration? DeclarationKind.dataSet.keyword (lex line) = none) :
      Reads limits progress line
        ⟨progress.catalog, progress.line + 1, progress.sourceLines, progress.setLines⟩ (some line)

/-- Two computations in a row succeed if both do. -/
theorem bind_eq_ok_iff {ε α β : Type} {first : Except ε α} {next : α → Except ε β} {value : β} :
    (first >>= next) = .ok value ↔ ∃ a, first = .ok a ∧ next a = .ok value := by
  cases first <;> simp [bind, Except.bind]

theorem map_eq_ok_iff {ε α β : Type} {first : Except ε α} {f : α → β} {value : β} :
    first.map f = .ok value ↔ ∃ a, first = .ok a ∧ f a = value := by
  cases first <;> simp [Except.map]

/-- Two computations in a row fail if the first one does, or else the second one. -/
theorem bind_eq_error_iff {ε α β : Type} {first : Except ε α} {next : α → Except ε β} {error : ε} :
    (first >>= next) = .error error ↔
      first = .error error ∨ ∃ a, first = .ok a ∧ next a = .error error := by
  cases first <;> simp [bind, Except.bind]

/-- A computation that has been seen to succeed has a value. -/
theorem exists_eq_ok_of_toBool {ε α : Type} {result : Except ε α} (h : result.toBool) :
    ∃ value, result = .ok value := by
  cases result with
  | error error => cases h
  | ok value => exact ⟨value, rfl⟩

theorem map_eq_error_iff {ε α β : Type} {first : Except ε α} {f : α → β} {error : ε} :
    first.map f = .error error ↔ first = .error error := by
  cases first <;> simp [Except.map]

theorem malformed_eq_ok_iff {α : Type} {kind : DeclarationKind} {number : Nat}
    {parsed : Except DefinitionError α} {value : α} :
    malformed kind number parsed = .ok value ↔ parsed = .ok value := by
  cases parsed <;> simp [malformed]

theorem malformed_eq_error_iff {α : Type} {kind : DeclarationKind} {number : Nat}
    {parsed : Except DefinitionError α} {error : ReportError} :
    malformed kind number parsed = .error error ↔
      ∃ reason, parsed = .error reason ∧ error = .malformedDeclaration kind number reason := by
  cases parsed <;> simp [malformed, eq_comm]

/-- A datasource that is declared has been written and had a new name. -/
theorem declareDataSource_eq_ok_iff {catalog after : Catalog} {number : Nat} {definition : Text} :
    declareDataSource catalog number definition = .ok after ↔
      ∃ source, DataSource.parse definition = .ok source ∧
        ∃ sources, catalog.dataSources.register source = .ok sources ∧
          ⟨sources, catalog.dataSets⟩ = after := by
  rw [declareDataSource, bind_eq_ok_iff]
  simp only [malformed_eq_ok_iff, Catalog.registerDataSource, map_eq_ok_iff]

/-- A datasource is not declared if it is malformed or its name is taken. -/
theorem declareDataSource_eq_error_iff {catalog : Catalog} {number : Nat} {definition : Text}
    {error : ReportError} :
    declareDataSource catalog number definition = .error error ↔
      (∃ reason, DataSource.parse definition = .error reason ∧
        error = .malformedDeclaration .dataSource number reason) ∨
      ∃ source, DataSource.parse definition = .ok source ∧
        catalog.dataSources.contains source.name ∧
        error = .duplicateDefinition .dataSource source.name := by
  rw [declareDataSource, bind_eq_error_iff, malformed_eq_error_iff]
  simp only [malformed_eq_ok_iff, Catalog.registerDataSource, map_eq_error_iff,
    Registry.register_eq_error_iff]
  rfl

/-- A dataset that is declared has been written, had a new name, and has its datasource. -/
theorem declareDataSet_eq_ok_iff {catalog after : Catalog} {number : Nat} {definition : Text} :
    declareDataSet catalog number definition = .ok after ↔
      ∃ dataSet, DataSet.parse definition = .ok dataSet ∧
        catalog.dataSources.contains dataSet.dataSource ∧
        ∃ sets, catalog.dataSets.register dataSet = .ok sets ∧
          ⟨catalog.dataSources, sets⟩ = after := by
  rw [declareDataSet, bind_eq_ok_iff]
  simp only [malformed_eq_ok_iff, Catalog.registerDataSet]
  refine exists_congr fun dataSet => and_congr_right fun _ => ?_
  by_cases hcontains : catalog.dataSources.contains dataSet.dataSource
  · simp only [hcontains, if_true, true_and, map_eq_ok_iff]
  · simp [hcontains]

/-- A dataset is not declared if it is malformed, or else its datasource is not there, or else its
name is taken. -/
theorem declareDataSet_eq_error_iff {catalog : Catalog} {number : Nat} {definition : Text}
    {error : ReportError} :
    declareDataSet catalog number definition = .error error ↔
      (∃ reason, DataSet.parse definition = .error reason ∧
        error = .malformedDeclaration .dataSet number reason) ∨
      ∃ dataSet, DataSet.parse definition = .ok dataSet ∧
        if catalog.dataSources.contains dataSet.dataSource then
          catalog.dataSets.contains dataSet.name ∧
            error = .duplicateDefinition .dataSet dataSet.name
        else error = .unknownReference dataSet.name dataSet.dataSource := by
  rw [declareDataSet, bind_eq_error_iff, malformed_eq_error_iff]
  simp only [malformed_eq_ok_iff, Catalog.registerDataSet]
  refine or_congr_right (exists_congr fun dataSet => and_congr_right fun _ => ?_)
  by_cases hcontains : catalog.dataSources.contains dataSet.dataSource
  · simp only [hcontains, if_true, map_eq_error_iff, Registry.register_eq_error_iff]
    rfl
  · simp [hcontains, eq_comm]

/-- **Reading a line does what `Reads` allows, and nothing else.** -/
theorem step_eq_ok_iff :
    step limits progress line = .ok (next, left) ↔ Reads limits progress line next left := by
  constructor
  · intro h
    rw [step] at h
    simp only at h
    split at h
    · rename_i definition hline
      split at h
      · rename_i hlimit
        obtain ⟨catalog, hdeclare, hnext⟩ := bind_eq_ok_iff.1 h
        obtain ⟨source, hparse, sources, hregister, rfl⟩ :=
          declareDataSource_eq_ok_iff.1 hdeclare
        cases hnext
        exact .source hline hlimit hparse hregister
      · rename_i hlimit
        cases h
        exact .sourceLeft hline (Nat.lt_of_not_le hlimit)
    · rename_i hsource
      split at h
      · rename_i definition hline
        split at h
        · rename_i hlimit
          obtain ⟨catalog, hdeclare, hnext⟩ := bind_eq_ok_iff.1 h
          obtain ⟨dataSet, hparse, hreference, sets, hregister, rfl⟩ :=
            declareDataSet_eq_ok_iff.1 hdeclare
          cases hnext
          exact .set hsource hline hlimit hparse hreference hregister
        · rename_i hlimit
          cases h
          exact .setLeft hsource hline (Nat.lt_of_not_le hlimit)
      · rename_i hset
        cases h
        exact .body hsource hset
  · intro h
    rw [step]
    cases h with
    | source hline hlimit hparse hregister =>
      have hdeclare : ∀ number, declareDataSource progress.catalog number _ = _ := fun number =>
        declareDataSource_eq_ok_iff.2 ⟨_, hparse, _, hregister, rfl⟩
      simp only [hline, if_pos hlimit, hdeclare]
      rfl
    | sourceLeft hline hlimit =>
      simp only [hline, if_neg (Nat.not_le_of_lt hlimit)]
      rfl
    | set hsource hline hlimit hparse hreference hregister =>
      have hdeclare : ∀ number, declareDataSet progress.catalog number _ = _ := fun number =>
        declareDataSet_eq_ok_iff.2 ⟨_, hparse, hreference, _, hregister, rfl⟩
      simp only [hsource, hline, if_pos hlimit, hdeclare]
      rfl
    | setLeft hsource hline hlimit =>
      simp only [hsource, hline, if_neg (Nat.not_le_of_lt hlimit)]
      rfl
    | body hsource hset =>
      simp only [hsource, hset]
      rfl

/-- Reading lines is reading the first one and then the others. -/
theorem readLines_cons_eq_ok {rest : List Text} {parsed : ParsedTemplate}
    (h : readLines limits progress (line :: rest) = .ok parsed) :
    ∃ next left others, Reads limits progress line next left ∧
      readLines limits next rest = .ok others ∧ parsed.catalog = others.catalog ∧
      parsed.body = left.toList.map Line.text ++ others.body := by
  rw [readLines] at h
  obtain ⟨⟨next, left⟩, hstep, h⟩ := bind_eq_ok_iff.1 h
  obtain ⟨others, hrest, h⟩ := bind_eq_ok_iff.1 h
  refine ⟨next, left, others, step_eq_ok_iff.1 hstep, hrest, ?_⟩
  cases left with
  | none => cases h; exact ⟨rfl, rfl⟩
  | some text => cases h; exact ⟨rfl, rfl⟩

/-- Reading lines fails if reading the first one does, or else reading the others. -/
theorem readLines_cons_eq_error_iff {rest : List Text} {error : ReportError} :
    readLines limits progress (line :: rest) = .error error ↔
      step limits progress line = .error error ∨
        ∃ next left, Reads limits progress line next left ∧
          readLines limits next rest = .error error := by
  rw [readLines, bind_eq_error_iff]
  refine or_congr_right ?_
  constructor
  · rintro ⟨⟨next, left⟩, hstep, h⟩
    refine ⟨next, left, step_eq_ok_iff.1 hstep, ?_⟩
    rcases bind_eq_error_iff.1 h with h | ⟨parsed, -, h⟩
    · exact h
    · cases left <;> cases h
  · rintro ⟨next, left, hread, h⟩
    exact ⟨(next, left), step_eq_ok_iff.2 hread, bind_eq_error_iff.2 (.inl h)⟩

/-- What cannot be read cannot be read with more lines behind it. -/
theorem readLines_append_of_error {lines more : List Text} {error : ReportError}
    (h : readLines limits progress lines = .error error) :
    readLines limits progress (lines ++ more) = .error error := by
  induction lines generalizing progress with
  | nil => cases h
  | cons line rest ih =>
    rw [readLines_cons_eq_error_iff] at h
    rw [List.cons_append, readLines_cons_eq_error_iff]
    rcases h with h | ⟨next, left, hread, h⟩
    · exact .inl h
    · exact .inr ⟨next, left, hread, ih h⟩

/-- **What every line preserves, reading preserves.** -/
theorem catalog_of_readLines {Inv : Catalog → Prop}
    (hstep : ∀ {progress next : Progress} {line : Text} {left : Option Text},
      Reads limits progress line next left → Inv progress.catalog → Inv next.catalog)
    {lines : List Text} {parsed : ParsedTemplate}
    (h : readLines limits progress lines = .ok parsed) (hstart : Inv progress.catalog) :
    Inv parsed.catalog := by
  induction lines generalizing progress parsed with
  | nil => cases h; exact hstart
  | cons line rest ih =>
    obtain ⟨next, left, others, hread, hrest, hcatalog, -⟩ := readLines_cons_eq_ok h
    rw [hcatalog]
    exact ih hrest (hstep hread hstart)

end ParsedTemplate

/-! ### References -/

namespace Catalog

/-- A catalog is **referential** if every dataset in it names a datasource in it. -/
def IsReferential (catalog : Catalog) : Prop :=
  ∀ dataSet ∈ catalog.dataSets.toList, catalog.dataSources.contains dataSet.dataSource

theorem isReferential_empty : Catalog.empty.IsReferential := by
  intro dataSet hmem
  cases hmem

/-- A further datasource takes away none. -/
theorem contains_of_register {registry next : Registry DataSource} {source : DataSource}
    (h : registry.register source = .ok next) {name : Text} (hname : registry.contains name) :
    next.contains name := by
  obtain ⟨entry, hentry, hname⟩ := Registry.contains_iff.1 hname
  have hmem := (Registry.register_eq_ok h).2.mem_iff.2 (List.mem_cons_of_mem source hentry)
  exact Registry.contains_iff.2 ⟨entry, hmem, hname⟩

/-- Reading a line keeps a catalog referential. -/
theorem IsReferential.of_reads {limits : DeclarationLimits}
    {progress next : ParsedTemplate.Progress} {line : Text} {left : Option Text}
    (h : ParsedTemplate.Reads limits progress line next left)
    (hcatalog : progress.catalog.IsReferential) : next.catalog.IsReferential := by
  cases h with
  | source _ _ _ hregister =>
    exact fun dataSet hmem => contains_of_register hregister (hcatalog dataSet hmem)
  | sourceLeft => exact hcatalog
  | set _ _ _ _ hreference hregister =>
    intro dataSet hmem
    rcases List.mem_cons.1 ((Registry.register_eq_ok hregister).2.mem_iff.1 hmem) with rfl | hmem
    · exact hreference
    · exact hcatalog dataSet hmem
  | setLeft => exact hcatalog
  | body => exact hcatalog

end Catalog

/-- **Every dataset of a template that can be taken apart has its datasource.** -/
theorem isReferential_of_parse {template : Text} {limits : DeclarationLimits}
    {parsed : ParsedTemplate} (h : ParsedTemplate.parse template limits = .ok parsed) :
    parsed.catalog.IsReferential :=
  ParsedTemplate.catalog_of_readLines Catalog.IsReferential.of_reads h Catalog.isReferential_empty

end BoundReport
