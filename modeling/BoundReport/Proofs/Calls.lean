import BoundReport.Resolution
import BoundReport.Proofs.Reading

/-!
# The Calls of a Run

A run asks its engine only what the template declares. The names that are looked up while a
document is filled in may come from anywhere, the text of cells included; but a name leads to a
call only through a dataset of the catalog, and that dataset brings its datasource, its object
and its parameters with it.

## Main results

* `Resolution.Ensures.bind`: what two computations ensure, they ensure in a row.
* `isConfined_process`: filling in any document asks only what the catalog declares.
* `generate_confined`: so does making a report from any template, and a template that cannot be
  taken apart asks nothing.
-/

namespace BoundReport

namespace Resolution

variable {σ α β : Type}

/-! ### Runs -/

@[simp] theorem run_pure (value : α) (state : σ) :
    (pure value : Resolution σ α).run state = ⟨value, state, [], []⟩ := rfl

@[simp] theorem run_warn (warning : Warning) (state : σ) :
    (warn warning).run state = ⟨(), state, [], [warning]⟩ := rfl

/-- Two computations in a row make the calls of the first one and then those of the second. -/
@[simp] theorem run_bind (first : Resolution σ α) (next : α → Resolution σ β) (state : σ) :
    (first >>= next).run state =
      ⟨((next (first.run state).value).run (first.run state).state).value,
        ((next (first.run state).value).run (first.run state).state).state,
        (first.run state).calls ++
          ((next (first.run state).value).run (first.run state).state).calls,
        (first.run state).warnings ++
          ((next (first.run state).value).run (first.run state).state).warnings⟩ := rfl

/-! ### What a run ensures -/

variable {P : Call → Prop} {Q : Warning → Prop} {R : α → Prop} {S : β → Prop}

/-- A computation **ensures** properties of its calls, its warnings and its result if they hold
from whatever state of the engine it is run. -/
def Ensures (P : Call → Prop) (Q : Warning → Prop) (R : α → Prop)
    (computation : Resolution σ α) : Prop :=
  ∀ state, (∀ call ∈ (computation.run state).calls, P call) ∧
    (∀ warning ∈ (computation.run state).warnings, Q warning) ∧ R (computation.run state).value

namespace Ensures

/-- A result alone makes no calls and no warnings. -/
theorem pure {value : α} (h : R value) : Ensures P Q R (pure value : Resolution σ α) := by
  refine fun state => ⟨fun call hcall => ?_, fun warning hwarning => ?_, h⟩
  · cases hcall
  · cases hwarning

/-- A warning makes no calls. -/
theorem warn {warning : Warning} (h : Q warning) :
    Ensures P Q (fun _ => True) (Resolution.warn warning : Resolution σ Unit) := by
  refine fun state => ⟨fun call hcall => ?_, fun other hother => ?_, trivial⟩
  · cases hcall
  · obtain rfl : other = warning := by simpa [run, Resolution.warn] using hother
    exact h

/-- **In a row**, computations ensure what each of them ensures. The second one may rely on the
result of the first. -/
theorem bind {first : Resolution σ α} {next : α → Resolution σ β} (hfirst : Ensures P Q R first)
    (hnext : ∀ value, R value → Ensures P Q S (next value)) :
    Ensures P Q S (first >>= next) := by
  intro state
  obtain ⟨hcalls, hwarnings, hvalue⟩ := hfirst state
  obtain ⟨hcalls', hwarnings', hvalue'⟩ := hnext _ hvalue (first.run state).state
  refine ⟨fun call hcall => ?_, fun warning hwarning => ?_, hvalue'⟩
  · rcases List.mem_append.1 hcall with hcall | hcall
    · exact hcalls call hcall
    · exact hcalls' call hcall
  · rcases List.mem_append.1 hwarning with hwarning | hwarning
    · exact hwarnings warning hwarning
    · exact hwarnings' warning hwarning

end Ensures

end Resolution

/-! ### Calls and failures of a catalog -/

section

variable {σ α : Type} {catalog : Catalog} {engine : Engine σ} {dataSet : DataSet}

/-- A catalog **declares** a call if it has a stored procedure with this object and these
parameters, and the datasource that the stored procedure names is the one that is asked. -/
def Catalog.Declares (catalog : Catalog) (call : Call) : Prop :=
  ∃ dataSet ∈ catalog.dataSets.toList, dataSet.type = .storedProcedure ∧
    catalog.dataSources.get? dataSet.dataSource = some call.source ∧
    call.invocation = .storedProcedure dataSet.object dataSet.parameters

/-- Why a dataset of a referential catalog has no rows: it cannot be run, or the engine has been
asked and has failed. There is no third reason; its datasource is never missing. -/
inductive Fails (catalog : Catalog) (engine : Engine σ) (dataSet : DataSet) : QueryFailure → Prop
  | unsupported (htype : dataSet.type ≠ .storedProcedure) :
      Fails catalog engine dataSet (.unsupported dataSet.type)
  | answered {source : DataSource} {state : σ} {failure : QueryFailure}
      (htype : dataSet.type = .storedProcedure)
      (hsource : catalog.dataSources.get? dataSet.dataSource = some source)
      (hanswer : (engine.execute source
        (.storedProcedure dataSet.object dataSet.parameters) state).1 = .error failure) :
      Fails catalog engine dataSet failure

/-- A warning is **explained** if the failure it tells of is one of a dataset with this name. -/
def Explained (catalog : Catalog) (engine : Engine σ) : Warning → Prop
  | .queryFailed name failure =>
    ∃ dataSet, catalog.dataSets.get? name = some dataSet ∧ Fails catalog engine dataSet failure
  | _ => True

/-- A computation is **confined** to a catalog if it makes only calls that the catalog declares,
and tells only of failures that are explained. -/
def IsConfined (catalog : Catalog) (engine : Engine σ) (computation : Resolution σ α) : Prop :=
  computation.Ensures catalog.Declares (Explained catalog engine) fun _ => True

/-- Only a stored procedure has an invocation: that of its object with its parameters. -/
theorem DataSet.invocation?_eq (dataSet : DataSet) : dataSet.invocation? =
    if dataSet.type = .storedProcedure then
      some (.storedProcedure dataSet.object dataSet.parameters)
    else none := by
  rw [invocation?]
  cases dataSet.type <;> rfl

/-- A dataset that is no stored procedure makes no call. -/
theorem runDataSet_of_ne_storedProcedure {source : DataSource}
    (hsource : catalog.dataSourceFor? dataSet = some source)
    (htype : dataSet.type ≠ .storedProcedure) (state : σ) :
    (runDataSet catalog engine dataSet).run state =
      ⟨.error (.unsupported dataSet.type), state, [], []⟩ := by
  have hinvocation : dataSet.invocation? = none := by rw [dataSet.invocation?_eq, if_neg htype]
  rw [runDataSet]
  simp only [hsource, hinvocation]
  rfl

/-- A stored procedure makes one call. -/
theorem runDataSet_of_storedProcedure {source : DataSource}
    (hsource : catalog.dataSourceFor? dataSet = some source)
    (htype : dataSet.type = .storedProcedure) :
    runDataSet catalog engine dataSet =
      Resolution.ask engine source (.storedProcedure dataSet.object dataSet.parameters) := by
  have hinvocation : dataSet.invocation? =
      some (.storedProcedure dataSet.object dataSet.parameters) := by
    rw [dataSet.invocation?_eq, if_pos htype]
  rw [runDataSet]
  simp only [hsource, hinvocation]

/-- Running a dataset of a referential catalog makes only a call that the catalog declares, and
fails only for one of the two reasons. -/
theorem ensures_runDataSet (h : catalog.IsReferential) (hmem : dataSet ∈ catalog.dataSets.toList) :
    (runDataSet catalog engine dataSet).Ensures catalog.Declares (Explained catalog engine)
      fun answer => ∀ failure, answer = .error failure → Fails catalog engine dataSet failure := by
  obtain ⟨source, hsource⟩ := Option.isSome_iff_exists.1 (h dataSet hmem)
  intro state
  by_cases htype : dataSet.type = .storedProcedure
  · rw [runDataSet_of_storedProcedure hsource htype]
    refine ⟨fun call hcall => ?_, fun warning hwarning => ?_, fun failure hfailure => ?_⟩
    · obtain rfl : call = ⟨source, .storedProcedure dataSet.object dataSet.parameters⟩ := by
        simpa [Resolution.run, Resolution.ask] using hcall
      exact ⟨dataSet, hmem, htype, hsource, rfl⟩
    · cases hwarning
    · exact .answered htype hsource hfailure
  · rw [runDataSet_of_ne_storedProcedure hsource htype]
    refine ⟨fun call hcall => ?_, fun warning hwarning => ?_, fun failure hfailure => ?_⟩
    · cases hcall
    · cases hwarning
    · cases hfailure
      exact .unsupported htype

/-! ### Filling in is confined -/

/-- Whatever name is looked up, its dataset is run as the catalog declares it. -/
theorem isConfined_fetch (h : catalog.IsReferential) (name : Text) :
    IsConfined catalog engine (fetch catalog engine name) := by
  rw [fetch]
  split
  · exact .pure trivial
  · rename_i dataSet hget
    have hmem := (Registry.mem_of_get?_eq_some hget).1
    refine .bind (ensures_runDataSet h hmem) fun answer hanswer => ?_
    cases answer with
    | ok rows => exact .pure trivial
    | error failure =>
      exact .bind (.warn ⟨dataSet, hget, hanswer failure rfl⟩) fun _ _ => .pure trivial

theorem isConfined_resolveLoop (h : catalog.IsReferential) (loop : Loop) :
    IsConfined catalog engine (resolveLoop catalog engine loop) := by
  refine .bind (isConfined_fetch h loop.dataSet) fun rows _ => ?_
  match rows with
  | none => exact .bind (.warn trivial) fun _ _ => .pure trivial
  | some [] => exact .pure trivial
  | some (_ :: _) => exact .pure trivial

theorem isConfined_resolveLoopLine (h : catalog.IsReferential) (table : LoopTable) (line : Line) :
    IsConfined catalog engine (resolveLoopLine catalog engine table line) := by
  cases line with
  | text content => exact .pure trivial
  | placeholder id =>
    rw [resolveLoopLine]
    split
    · exact .pure trivial
    · exact isConfined_resolveLoop h _

theorem isConfined_resolveLoops (h : catalog.IsReferential) (table : LoopTable)
    (document : Document) :
    IsConfined catalog engine (resolveLoops catalog engine table document) := by
  induction document with
  | nil => exact .pure trivial
  | cons line rest ih =>
    exact .bind (isConfined_resolveLoopLine h table line) fun _ _ =>
      .bind ih fun _ _ => .pure trivial

theorem isConfined_resolveTag (h : catalog.IsReferential) (tag : Tag) :
    IsConfined catalog engine (resolveTag catalog engine tag) := by
  refine .bind (isConfined_fetch h tag.dataSet) fun rows _ => ?_
  cases rows with
  | none => exact .bind (.warn trivial) fun _ _ => .pure trivial
  | some rows => exact .pure trivial

theorem isConfined_resolveFragments (h : catalog.IsReferential) (found : List Fragment) :
    IsConfined catalog engine (resolveFragments catalog engine found) := by
  induction found with
  | nil => exact .pure trivial
  | cons fragment rest ih =>
    cases fragment with
    | literal text => exact .bind ih fun _ _ => .pure trivial
    | tag tag =>
      exact .bind (isConfined_resolveTag h tag) fun _ _ => .bind ih fun _ _ => .pure trivial

theorem isConfined_resolveTagLine (h : catalog.IsReferential) (line : Line) :
    IsConfined catalog engine (resolveTagLine catalog engine line) := by
  cases line with
  | placeholder id => exact .pure trivial
  | text content =>
    rw [resolveTagLine]
    split
    · exact .pure trivial
    · exact .bind (isConfined_resolveFragments h _) fun _ _ => .pure trivial

theorem isConfined_resolveTags (h : catalog.IsReferential) (document : Document) :
    IsConfined catalog engine (resolveTags catalog engine document) := by
  induction document with
  | nil => exact .pure trivial
  | cons line rest ih =>
    exact .bind (isConfined_resolveTagLine h line) fun _ _ => .bind ih fun _ _ => .pure trivial

theorem isConfined_extractWithWarning (document : Document) :
    IsConfined catalog engine (extractWithWarning document) := by
  rw [extractWithWarning]
  split
  · exact .bind (.warn trivial) fun _ _ => .pure trivial
  · exact .pure trivial

/-- **Filling in any document asks only what the catalog declares.** -/
theorem isConfined_process (h : catalog.IsReferential) (document : Document) :
    IsConfined catalog engine (process catalog engine document) :=
  .bind (isConfined_extractWithWarning document) fun _ _ =>
    .bind (isConfined_resolveLoops h _ _) fun _ _ => isConfined_resolveTags h _

end

/-- A template that cannot be taken apart gives its error, and the engine is left alone. -/
theorem run_makeReport_of_parse_error {σ : Type} {template : Text} {limits : DeclarationLimits}
    {error : ReportError} (h : ParsedTemplate.parse template limits = .error error)
    (engine : Engine σ) (state : σ) :
    (makeReport template limits engine).run state = ⟨.error error, state, [], []⟩ := by
  rw [makeReport, h]
  rfl

/-- A template that can be taken apart gives its filled-in body. -/
theorem generate_of_parse_ok {σ : Type} {template : Text} {limits : DeclarationLimits}
    {parsed : ParsedTemplate} (h : ParsedTemplate.parse template limits = .ok parsed)
    (engine : Engine σ) (state : σ) :
    generate template limits engine state =
      .ok ⟨((process parsed.catalog engine parsed.body).run state).value, parsed.catalog,
        ((process parsed.catalog engine parsed.body).run state).state,
        ((process parsed.catalog engine parsed.body).run state).calls,
        ((process parsed.catalog engine parsed.body).run state).warnings⟩ := by
  rw [generate, makeReport, h]
  simp [Except.map]

/-- **Queries are confined to what the template declares.** A template that cannot be taken apart
gives its error and asks nothing. Otherwise every dataset has its datasource, every call is that
of a declared stored procedure to its own datasource, a dataset of another type is never asked
for, and no query fails because its datasource is missing. -/
theorem generate_confined {σ : Type} (template : Text) (limits : DeclarationLimits)
    (engine : Engine σ) (state : σ) :
    match ParsedTemplate.parse template limits with
    | .error error =>
      generate template limits engine state = .error error ∧
        (makeReport template limits engine).run state = ⟨.error error, state, [], []⟩
    | .ok parsed =>
      parsed.catalog.IsReferential ∧
        (∀ dataSet ∈ parsed.catalog.dataSets.toList, dataSet.type ≠ .storedProcedure →
          ∀ state, (runDataSet parsed.catalog engine dataSet).run state =
            ⟨.error (.unsupported dataSet.type), state, [], []⟩) ∧
        ∃ generation, generate template limits engine state = .ok generation ∧
          generation.catalog = parsed.catalog ∧
          (∀ call ∈ generation.calls, parsed.catalog.Declares call) ∧
          ∀ warning ∈ generation.warnings, Explained parsed.catalog engine warning := by
  cases hparse : ParsedTemplate.parse template limits with
  | error error =>
    have hrun := run_makeReport_of_parse_error hparse engine state
    refine ⟨?_, hrun⟩
    rw [generate, hrun]
    rfl
  | ok parsed =>
    have hreferential := isReferential_of_parse hparse
    have hconfined : IsConfined parsed.catalog engine _ :=
      isConfined_process hreferential parsed.body
    obtain ⟨hcalls, hwarnings, -⟩ := hconfined state
    refine ⟨hreferential, fun dataSet hmem htype state => ?_,
      ⟨_, generate_of_parse_ok hparse engine state, rfl, hcalls, hwarnings⟩⟩
    obtain ⟨source, hsource⟩ := Option.isSome_iff_exists.1 (hreferential dataSet hmem)
    exact runDataSet_of_ne_storedProcedure hsource htype state

end BoundReport
