import BoundReport.Proofs.Calls

/-!
# The Calls of Names

Looking up a name has one of four outcomes, and only in the last of them the engine is asked: no
dataset has the name, or its datasource is not registered, or it is of a type that cannot be run, or
it has an invocation. Which call a name leads to is a matter of the catalog alone: the engine is
asked the same, whatever it is and whatever it answers. So the calls of filling in loops can be read
off their placeholders, and those of filling in tags off the tags.

## Main results

* `LooksUp.run_fetch`: what comes of looking up a name.
* `calls_fetch`: looking up a name makes the same call with every engine.
* `calls_resolveLoops`: filling in loops makes the calls of the placeholders.
* `calls_resolveTags`: filling in tags makes the calls of the tags.
* `run_process`: a whole run is both of these, after the warning for an open loop.
-/

namespace BoundReport

/-- The call that a dataset leads to, if it is a stored procedure. -/
def callOf? (catalog : Catalog) (dataSet : DataSet) : Option Call :=
  (catalog.dataSourceFor? dataSet).bind fun source =>
    dataSet.invocation?.map fun invocation => ⟨source, invocation⟩

/-- The call that a name leads to. -/
def call? (catalog : Catalog) (name : Text) : Option Call :=
  (catalog.dataSets.get? name).bind (callOf? catalog)

/-- The call that a line leads to when loops are filled in. -/
def loopCall? (catalog : Catalog) (table : LoopTable) (line : Line) : Option Call :=
  (line.placeholder?.bind table.get?).bind fun loop => call? catalog loop.dataSet

/-- The tags of a line. -/
def lineTags : Line → List Tag
  | .text content => tags content
  | .placeholder _ => []

/-- The call that a tag leads to when tags are filled in. -/
def tagCall? (catalog : Catalog) (tag : Tag) : Option Call := call? catalog tag.dataSet

variable {σ : Type} {catalog : Catalog} {engine : Engine σ}

/-! ### Looking up a name -/

/-- **Looking up a name** when its turn comes: what the result is, which calls are made, and in
which state the engine is then. There is no result if no dataset has the name. If its datasource is
not registered, or if it is of a type that has no invocation, the result is the failure that says
so, and the engine is left alone. Otherwise the engine is asked once, and the result is its
answer. -/
inductive LooksUp (catalog : Catalog) (engine : Engine σ) (name : Text) (state : σ) :
    Option (Except QueryFailure (List Row)) → List Call → σ → Prop
  | undeclared (hget : catalog.dataSets.get? name = none) :
      LooksUp catalog engine name state none [] state
  | unregistered {dataSet : DataSet} (hget : catalog.dataSets.get? name = some dataSet)
      (hsource : catalog.dataSourceFor? dataSet = none) :
      LooksUp catalog engine name state
        (some (.error (.connection dataSet.dataSource "datasource is not declared"))) [] state
  | unsupported {dataSet : DataSet} {source : DataSource}
      (hget : catalog.dataSets.get? name = some dataSet)
      (hsource : catalog.dataSourceFor? dataSet = some source)
      (hinvocation : dataSet.invocation? = none) :
      LooksUp catalog engine name state (some (.error (.unsupported dataSet.type))) [] state
  | asked {dataSet : DataSet} {source : DataSource} {invocation : Invocation}
      {answer : Except QueryFailure (List Row)} {after : σ}
      (hget : catalog.dataSets.get? name = some dataSet)
      (hsource : catalog.dataSourceFor? dataSet = some source)
      (hinvocation : dataSet.invocation? = some invocation)
      (hanswer : engine.execute source invocation state = (answer, after)) :
      LooksUp catalog engine name state (some answer) [⟨source, invocation⟩] after

/-- The rows of an answer. A failure has none. -/
def answerRows : Except QueryFailure (List Row) → List Row
  | .ok rows => rows
  | .error _ => []

/-- The warnings that an answer for a name calls for: one if it is a failure. -/
def answerWarnings (name : Text) : Except QueryFailure (List Row) → List Warning
  | .ok _ => []
  | .error failure => [.queryFailed name failure]

theorem exists_looksUp (catalog : Catalog) (engine : Engine σ) (name : Text) (state : σ) :
    ∃ result calls after, LooksUp catalog engine name state result calls after := by
  cases hget : catalog.dataSets.get? name with
  | none => exact ⟨_, _, _, .undeclared hget⟩
  | some dataSet =>
    cases hsource : catalog.dataSourceFor? dataSet with
    | none => exact ⟨_, _, _, .unregistered hget hsource⟩
    | some source =>
      cases hinvocation : dataSet.invocation? with
      | none => exact ⟨_, _, _, .unsupported hget hsource hinvocation⟩
      | some invocation => exact ⟨_, _, _, .asked hget hsource hinvocation rfl⟩

namespace LooksUp

variable {name : Text} {state after after₁ after₂ : σ} {calls calls₁ calls₂ : List Call}
  {result result₁ result₂ : Option (Except QueryFailure (List Row))}

/-- Looking up a name has one outcome. -/
theorem unique (h₁ : LooksUp catalog engine name state result₁ calls₁ after₁)
    (h₂ : LooksUp catalog engine name state result₂ calls₂ after₂) :
    result₁ = result₂ ∧ calls₁ = calls₂ ∧ after₁ = after₂ := by
  cases h₁ <;> cases h₂ <;> simp_all

/-- **A name is looked up** as it is said: the rows of the result are handed on, and a failure is
warned of. -/
theorem run_fetch (h : LooksUp catalog engine name state result calls after) :
    (fetch catalog engine name).run state =
      ⟨result.map answerRows, after, calls, result.elim [] (answerWarnings name)⟩ := by
  cases h with
  | undeclared hget =>
    rw [fetch, hget]
    rfl
  | unregistered hget hsource =>
    simp only [fetch, hget, runDataSet, hsource]
    rfl
  | unsupported hget hsource hinvocation =>
    simp only [fetch, hget, runDataSet, hsource, hinvocation]
    rfl
  | @asked _ source invocation answer _ hget hsource hinvocation hanswer =>
    have hask : (Resolution.ask engine source invocation).run state =
        ⟨answer, after, [⟨source, invocation⟩], []⟩ := by
      rw [Resolution.run, Resolution.ask, hanswer]
    simp only [fetch, hget, runDataSet, hsource, hinvocation, Resolution.run_bind, hask]
    cases answer <;> rfl

/-- A name that leads to a call is looked up to the engine's answer to it. -/
theorem of_call? {call : Call} (h : call? catalog name = some call) (state : σ) :
    LooksUp catalog engine name state
      (some (engine.execute call.source call.invocation state).1) [call]
      (engine.execute call.source call.invocation state).2 := by
  obtain ⟨dataSet, hget, hdataSet⟩ := Option.bind_eq_some_iff.1 h
  obtain ⟨source, hsource, hcall⟩ := Option.bind_eq_some_iff.1 hdataSet
  obtain ⟨invocation, hinvocation, rfl⟩ := Option.map_eq_some_iff.1 hcall
  exact .asked hget hsource hinvocation rfl

/-- The calls of a look-up are a matter of the catalog. -/
theorem calls_eq (h : LooksUp catalog engine name state result calls after) :
    calls = (call? catalog name).toList := by
  cases h with
  | undeclared hget => simp [call?, hget]
  | unregistered hget hsource => simp [call?, callOf?, hget, hsource]
  | unsupported hget hsource hinvocation => simp [call?, callOf?, hget, hsource, hinvocation]
  | asked hget hsource hinvocation => simp [call?, callOf?, hget, hsource, hinvocation]

end LooksUp

/-! ### Calls -/

/-- **Looking up a name makes the same call with every engine.** -/
theorem calls_fetch (name : Text) (state : σ) :
    ((fetch catalog engine name).run state).calls = (call? catalog name).toList := by
  obtain ⟨result, calls, after, hlooks⟩ := exists_looksUp catalog engine name state
  rw [hlooks.run_fetch, hlooks.calls_eq]

theorem calls_resolveLoop (loop : Loop) (state : σ) :
    ((resolveLoop catalog engine loop).run state).calls = (call? catalog loop.dataSet).toList := by
  rw [resolveLoop, Resolution.run_bind]
  simp only [calls_fetch]
  cases ((fetch catalog engine loop.dataSet).run state).value with
  | none => simp
  | some rows => cases rows <;> simp

theorem calls_resolveLoopLine (table : LoopTable) (line : Line) (state : σ) :
    ((resolveLoopLine catalog engine table line).run state).calls =
      (loopCall? catalog table line).toList := by
  cases line with
  | text content => rfl
  | placeholder id =>
    rw [resolveLoopLine, loopCall?, Line.placeholder?, Option.bind_some]
    cases table.get? id with
    | none => rfl
    | some loop => exact calls_resolveLoop loop state

/-- Filling in loops makes the calls of the placeholders. -/
theorem calls_resolveLoops (table : LoopTable) (document : Document) (state : σ) :
    ((resolveLoops catalog engine table document).run state).calls =
      document.filterMap (loopCall? catalog table) := by
  induction document generalizing state with
  | nil => rfl
  | cons line rest ih =>
    rw [resolveLoops]
    simp only [Resolution.run_bind, Resolution.run_pure, calls_resolveLoopLine, ih,
      List.append_nil, List.filterMap_cons]
    cases loopCall? catalog table line <;> rfl

theorem calls_resolveTag (tag : Tag) (state : σ) :
    ((resolveTag catalog engine tag).run state).calls = (tagCall? catalog tag).toList := by
  rw [resolveTag, Resolution.run_bind, tagCall?]
  simp only [calls_fetch]
  cases ((fetch catalog engine tag.dataSet).run state).value <;> simp

theorem calls_resolveFragments (found : List Fragment) (state : σ) :
    ((resolveFragments catalog engine found).run state).calls =
      (found.filterMap Fragment.tag?).filterMap (tagCall? catalog) := by
  induction found generalizing state with
  | nil => rfl
  | cons fragment rest ih =>
    cases fragment with
    | literal text =>
      rw [resolveFragments]
      simp only [Resolution.run_bind, Resolution.run_pure, ih, List.append_nil]
      rfl
    | tag tag =>
      rw [resolveFragments]
      simp only [Resolution.run_bind, Resolution.run_pure, calls_resolveTag, ih, List.append_nil]
      rw [List.filterMap_cons, Fragment.tag?, List.filterMap_cons]
      cases tagCall? catalog tag <;> rfl

theorem calls_resolveTagLine (line : Line) (state : σ) :
    ((resolveTagLine catalog engine line).run state).calls =
      (lineTags line).filterMap (tagCall? catalog) := by
  cases line with
  | placeholder id => rfl
  | text content =>
    rw [resolveTagLine, lineTags]
    split
    · rename_i hnil
      rw [hnil]
      rfl
    · simp only [Resolution.run_bind, Resolution.run_pure, calls_resolveFragments, List.append_nil]
      rfl

/-- Filling in tags makes the calls of the tags, line by line. -/
theorem calls_resolveTags (document : Document) (state : σ) :
    ((resolveTags catalog engine document).run state).calls =
      (document.flatMap lineTags).filterMap (tagCall? catalog) := by
  induction document generalizing state with
  | nil => rfl
  | cons line rest ih =>
    rw [resolveTags]
    simp only [Resolution.run_bind, Resolution.run_pure, calls_resolveTagLine, ih,
      List.append_nil, List.flatMap_cons, List.filterMap_append]

/-- The warning for the loop that a document ends in. -/
def openWarning (loop : Loop) : Warning := .unterminatedLoop loop.id loop.dataSet

/-- Taking the loops out of a document asks nothing, and warns of the loop it ends in. -/
theorem run_extractWithWarning (document : Document) (state : σ) :
    (extractWithWarning document).run state = ⟨extractLoops document, state, [],
      (extractLoops document).table.unterminated?.toList.map openWarning⟩ := by
  rw [extractWithWarning]
  cases (extractLoops document).table.unterminated? <;> rfl

/-- Filling in a document is filling in its loops and then its tags, after the warning for the loop
that it ends in. -/
theorem run_process (document : Document) (state : σ) :
    (process catalog engine document).run state =
      let filled := (resolveLoops catalog engine (extractLoops document).table
        (extractLoops document).document >>= resolveTags catalog engine).run state
      { filled with
        warnings := (extractLoops document).table.unterminated?.toList.map openWarning ++
          filled.warnings } := by
  rw [process, Resolution.run_bind, run_extractWithWarning]
  rfl

end BoundReport
