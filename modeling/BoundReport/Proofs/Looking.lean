import BoundReport.Command.Run
import BoundReport.Proofs.Calls

/-!
# Looking at a File Tree

A computation that is given a file tree has a result, and there is a tree **after** it. Nearly all
that a command does only **looks** at the tree: settings, fixtures and templates are read, and the
tree is the same afterwards. What such computations give in a row can be told from the one tree
that they all look at.

## Main results

* `Looks.bind`, `Looks.run_bind`: looking twice is looking, and both times at the same tree.
* `looks_runCheck`, `looks_runList`: checking and listing only look.
* `run_runGenerate`: making a report only looks until the report is finished, and then delivers it.
-/

namespace BoundReport

namespace FileTree

variable {α β : Type}

/-- The result of a computation that is given a tree. -/
def resultOf (tree : FileTree) (computation : StateM FileTree α) : α := (computation.run tree).1

/-- The tree after a computation that is given a tree. -/
def after (tree : FileTree) (computation : StateM FileTree α) : FileTree :=
  (computation.run tree).2

/-- A computation only **looks** at trees if it leaves every tree as it is. -/
def Looks (computation : StateM FileTree α) : Prop := ∀ tree : FileTree, tree.after computation = tree

/-- The second of two computations is given the tree after the first one. -/
theorem after_bind (tree : FileTree) (first : StateM FileTree α) (next : α → StateM FileTree β) :
    tree.after (first >>= next) = (tree.after first).after (next (tree.resultOf first)) := rfl

theorem Looks.pure (value : α) : Looks (Pure.pure value : StateM FileTree α) := fun _ => rfl

/-- **Looking twice is looking.** -/
theorem Looks.bind {first : StateM FileTree α} {next : α → StateM FileTree β} (hfirst : Looks first)
    (hnext : ∀ value, Looks (next value)) : Looks (first >>= next) := by
  intro tree
  rw [after_bind, hfirst tree]
  exact hnext _ tree

/-- **After looking, a computation goes on with the same tree.** -/
theorem Looks.run_bind {first : StateM FileTree α} (h : Looks first)
    (next : α → StateM FileTree β) (tree : FileTree) :
    (first >>= next).run tree = (next (tree.resultOf first)).run tree := by
  have hbind : (first >>= next).run tree =
      (next (tree.resultOf first)).run (tree.after first) := rfl
  rw [hbind, h tree]

theorem Looks.resultOf_bind {first : StateM FileTree α} (h : Looks first)
    (next : α → StateM FileTree β) (tree : FileTree) :
    tree.resultOf (first >>= next) = tree.resultOf (next (tree.resultOf first)) :=
  congrArg Prod.fst (h.run_bind next tree)

/-! ### Reading a project -/

theorem looks_isFile (path : Text) : Looks (disk.isFile path) := fun _ => rfl

theorem looks_read? (path : Text) : Looks (disk.read? path) := fun _ => rfl

theorem looks_findFile? (paths : List Text) : Looks (Settings.findFile? disk paths) := by
  induction paths with
  | nil => exact .pure none
  | cons path rest ih =>
    refine (looks_isFile path).bind fun found => ?_
    cases found with
    | false => exact ih
    | true => exact .pure (some path)

theorem looks_load (root : Text) : Looks (Settings.load disk root) := by
  refine (looks_findFile? _).bind fun found => ?_
  cases found with
  | none => exact .pure _
  | some path =>
    refine (looks_read? path).bind fun content => ?_
    cases content with
    | none => exact .pure _
    | some content => exact .pure _

theorem looks_findProject (root : Text) (asked : Option Text) :
    Looks (findProject disk root asked) := by
  refine (looks_load root).bind fun loaded => ?_
  cases loaded with
  | error error => exact .pure _
  | ok found => exact .pure _

theorem looks_readTemplate (path : Text) : Looks (readTemplate disk path) := by
  refine (looks_read? path).bind fun content => ?_
  cases content with
  | none => exact .pure _
  | some content => exact .pure _

theorem looks_readDeclarations (root : Text) (asked : Option Text) :
    Looks (readDeclarations disk root asked) := by
  refine (looks_findProject root asked).bind fun found => ?_
  cases found with
  | error error => exact .pure _
  | ok project =>
    refine (looks_readTemplate project.template).bind fun content => ?_
    cases content with
    | error error => exact .pure _
    | ok content => exact .pure _

theorem looks_loadFixtures (path : Text) : Looks (loadFixtures disk path) := by
  refine (looks_read? path).bind fun content => ?_
  cases content with
  | none => exact .pure _
  | some content => exact .pure _

theorem looks_projectFixtures (project : Project) (asked : Option Text) :
    Looks (projectFixtures disk project asked) := by
  rw [projectFixtures]
  split
  · exact looks_loadFixtures _
  · exact .pure _

theorem looks_generateFile {σ : Type} (path : Text) (limits : DeclarationLimits)
    (engine : Engine σ) (state : σ) : Looks (generateFile disk path limits engine state) := by
  refine (looks_readTemplate path).bind fun content => ?_
  cases content with
  | error error => exact .pure _
  | ok content => exact .pure _

/-- A project whose template can be read is taken apart like this template. -/
theorem resultOf_readDeclarations (tree : FileTree) (root : Text) (asked : Option Text) :
    tree.resultOf (readDeclarations disk root asked) =
      (tree.resultOf (findProject disk root asked)).bind fun project =>
        (tree.resultOf (readTemplate disk project.template)).bind fun content =>
          (ParsedTemplate.parse content project.settings.limits).map fun parsed =>
            (project, parsed) := by
  rw [readDeclarations, (looks_findProject root asked).resultOf_bind]
  cases tree.resultOf (findProject disk root asked) with
  | error error => rfl
  | ok project =>
    simp only [(looks_readTemplate project.template).resultOf_bind, Except.bind]
    cases tree.resultOf (readTemplate disk project.template) with
    | error error => rfl
    | ok content => rfl

/-- A report from a template file is one from its text. -/
theorem resultOf_generateFile {σ : Type} (tree : FileTree) (path : Text)
    (limits : DeclarationLimits) (engine : Engine σ) (state : σ) :
    tree.resultOf (generateFile disk path limits engine state) =
      (tree.resultOf (readTemplate disk path)).bind fun content =>
        generate content limits engine state := by
  rw [generateFile, (looks_readTemplate path).resultOf_bind]
  cases tree.resultOf (readTemplate disk path) with
  | error error => rfl
  | ok content => rfl

/-! ### Commands -/

theorem looks_runCheck (verbose color : Bool) (root : Text) (template : Option Text) :
    Looks (runCheck disk verbose color root template) := by
  refine (looks_readDeclarations root template).bind fun found => ?_
  cases found with
  | error error => exact .pure _
  | ok found => exact .pure _

theorem looks_runList (color : Bool) (root : Text) (template : Option Text) :
    Looks (runList disk color root template) := by
  refine (looks_readDeclarations root template).bind fun found => ?_
  cases found with
  | error error => exact .pure _
  | ok found => exact .pure _

/-- What checking prints, if a template has these numbers of datasources and datasets. -/
def checkedText (verbose color : Bool) (root : Text) (project : Project) (sources sets : Nat) :
    Text :=
  (if verbose then "Checked " ++ FilePath.relativeTo project.template root ++ "\n" else []) ++
    Style.green.paint color "Template is valid:" ++ " " ++ Text.ofNat sources ++
    " datasource(s) and " ++ Text.ofNat sets ++ " dataset(s) declared.\n"

theorem resultOf_runCheck (tree : FileTree) (verbose color : Bool) (root : Text)
    (template : Option Text) :
    tree.resultOf (runCheck disk verbose color root template) =
      match tree.resultOf (readDeclarations disk root template) with
      | .error error => .ofError error
      | .ok (project, parsed) => .printed (checkedText verbose color root project
          parsed.catalog.dataSources.size parsed.catalog.dataSets.size) := by
  rw [runCheck, (looks_readDeclarations root template).resultOf_bind]
  cases tree.resultOf (readDeclarations disk root template) with
  | error error => rfl
  | ok found => rfl

/-- What listing prints of a template: its datasources, its datasets, and its loops. -/
def listedText (color : Bool) (parsed : ParsedTemplate) : Text :=
  let text :=
    listing color "Datasources:" (parsed.catalog.dataSources.toList.map sourceLine) ++
    listing color "Datasets:" (parsed.catalog.dataSets.toList.map (dataSetLine color)) ++
    listing color "Loops:"
      ((extractLoops parsed.body).table.loops.map (loopLine parsed.catalog color))
  if text = [] then "No declarations or loops found.\n" else text

theorem resultOf_runList (tree : FileTree) (color : Bool) (root : Text) (template : Option Text) :
    tree.resultOf (runList disk color root template) =
      match tree.resultOf (readDeclarations disk root template) with
      | .error error => .ofError error
      | .ok (_, parsed) => .printed (listedText color parsed) := by
  rw [runList, (looks_readDeclarations root template).resultOf_bind]
  cases tree.resultOf (readDeclarations disk root template) with
  | error error => rfl
  | ok found => rfl

/-- The report of a project before it is printed or written, or the error that ends the run. Where
it is to go makes no difference to it. -/
def prepared (tree : FileTree) (root : Text) (template fixtures : Option Text) :
    Except ReportError (Project × Generation Fixtures) :=
  (tree.resultOf (findProject disk root template)).bind fun project =>
    (tree.resultOf (projectFixtures disk project fixtures)).bind fun answers =>
      (tree.resultOf (generateFile disk project.template project.settings.limits Fixtures.engine
        answers)).map fun generation => (project, generation)

/-- The text of a finished report. -/
def reportText (pageSize : Option PageSize) (project : Project) (generation : Generation Fixtures) :
    Text :=
  Page.render generation.document.toText (pageSize.getD project.settings.pageSize)

/-- Prints a finished report, or writes it. -/
def deliver (surroundings : Surroundings) (color : Bool) (output : Option Text)
    (pageSize : Option PageSize) (stdout : Bool) (project : Project)
    (generation : Generation Fixtures) : StateM FileTree RunResult :=
  let warnings := generation.warnings.map (warningLine color)
  let report := reportText pageSize project generation
  if stdout then return (RunResult.printed report).withWarnings warnings
  else
    match outputDirectory project output with
    | .error error => return (RunResult.ofError error).withWarnings warnings
    | .ok directory => do
      let result ← writeReport disk surroundings color project directory report
        (pageSize.getD project.settings.pageSize)
      return result.withWarnings warnings

/-- **Making a report only looks until the report is finished**, and then delivers it. -/
theorem run_runGenerate (tree : FileTree) (surroundings : Surroundings) (color : Bool) (root : Text)
    (template output fixtures : Option Text) (pageSize : Option PageSize) (stdout : Bool) :
    (runGenerate disk surroundings color root template output fixtures pageSize stdout).run tree =
      match tree.prepared root template fixtures with
      | .error error => (.ofError error, tree)
      | .ok (project, generation) =>
        (deliver surroundings color output pageSize stdout project generation).run tree := by
  rw [runGenerate, (looks_findProject root template).run_bind, prepared]
  cases tree.resultOf (findProject disk root template) with
  | error error => rfl
  | ok project =>
    simp only [(looks_projectFixtures project fixtures).run_bind, Except.bind]
    cases tree.resultOf (projectFixtures disk project fixtures) with
    | error error => rfl
    | ok answers =>
      simp only [(looks_generateFile project.template project.settings.limits Fixtures.engine
        answers).run_bind]
      cases tree.resultOf (generateFile disk project.template project.settings.limits
        Fixtures.engine answers) with
      | error error => rfl
      | ok generation => rfl

end FileTree

end BoundReport
