import BoundReport.Proofs.Agreement
import BoundReport.Proofs.Invocations
import BoundReport.Proofs.Places

/-!
# What a Run Does to a File Tree

Only one invocation changes the file tree at all, the one that makes a report and does not print
it. It has read everything and the report is finished before anything is made or written, so an
error that is reported leaves the tree as it was. If the run succeeds, one file has been written:
it is in the output directory and holds just the text that the same invocation prints when it is
told to print.

## Main results

* `FileTree.looks_runProgram`: every other invocation only looks at the tree.
* `FileTree.writeReport_cases`: a report is written to its place in the output directory, or the
  run says that it is not.
* `runProgram_effects`: the effects of all runs.
-/

namespace BoundReport

namespace FileTree

variable {tree : FileTree} {surroundings : Surroundings} {color : Bool}

/-! ### Writing a report -/

/-- What comes behind a computation is given its result and the tree after it. -/
theorem run_bind_of_run_eq {α β : Type} {first : StateM FileTree α} {value : α} {middle : FileTree}
    (h : first.run tree = (value, middle)) (next : α → StateM FileTree β) :
    (first >>= next).run tree = (next value).run middle := by
  rw [StateT.run_bind, h]
  rfl

theorem run_makeDirectory (tree : FileTree) (path : Text) :
    (disk.makeDirectory path).run tree =
      match tree.makeDirectory? path with
      | some next => (true, next)
      | none => (false, tree) := by
  simp only [disk, StateT.run_bind, StateT.run_get]
  cases h : tree.makeDirectory? path <;> simp [h] <;> rfl

theorem run_write (tree : FileTree) (path content : Text) :
    (disk.write path content).run tree =
      match tree.write? path content with
      | some next => (true, next)
      | none => (false, tree) := by
  simp only [disk, StateT.run_bind, StateT.run_get]
  cases h : tree.write? path content <;> simp [h] <;> rfl

/-- Making a directory lets the tree grow, or leaves it as it is. -/
theorem grows_makeDirectory (tree : FileTree) (path : Text) :
    Grows tree (tree.after (disk.makeDirectory path)) := by
  rw [after, run_makeDirectory]
  split
  · rename_i hmade
    exact grows_of_makeDirectory? hmade
  · exact .refl tree

/-- Nothing but directories is made for a report. -/
theorem grows_provideDirectory (tree : FileTree) (path : Text) :
    Grows tree (tree.after (disk.provideDirectory path)) := by
  have hrest (ready : Bool) :
      Looks (if ready = true then disk.isDirectory path else pure false) := by
    cases ready with
    | false => exact .pure false
    | true => exact fun _ => rfl
  rw [Disk.provideDirectory]
  split
  · cases FilePath.parent? path with
    | none =>
      have hafter := hrest true tree
      exact hafter.symm ▸ .refl tree
    | some parent =>
      have hafter := hrest (tree.resultOf (disk.makeDirectory parent))
        (tree.after (disk.makeDirectory parent))
      exact hafter.symm ▸ grows_makeDirectory tree parent
  · exact grows_makeDirectory tree path

/-- **A report is written to its place in the output directory**, and nothing else is; or the run
ends with the failure that it cannot be written. -/
theorem writeReport_cases (tree : FileTree) (surroundings : Surroundings) (color : Bool)
    (project : Project) (directory report : Text) (size : PageSize) :
    let writing := writeReport disk surroundings color project directory report size
    let next := tree.after writing
    (tree.resultOf writing).ending = .failed .write ∨
      (tree.resultOf writing).ending = .success ∧
        ∃ place, next.walk? directory = some place ∧ next.isDirectory place ∧
          tree.Writes (place ++ [outputName project.template surroundings.time Page.fileExtension])
            (Text.toString report).toUTF8 next := by
  intro writing next
  have hmade := grows_provideDirectory tree directory
  have hslash : '/' ∉ Page.fileExtension := by decide
  have hname := isSingleName_outputName project.template surroundings.time hslash
  have hprovide : (disk.provideDirectory directory).run tree =
      (tree.resultOf (disk.provideDirectory directory),
        tree.after (disk.provideDirectory directory)) := rfl
  -- Directories that have been made stay, also if the file cannot be written to them afterwards. So
  -- nothing is said of the tree after a failure.
  cases hready : tree.resultOf (disk.provideDirectory directory) with
  | false =>
    rw [hready] at hprovide
    have hrun : writing.run tree =
        (⟨[], [], .failed .write⟩, tree.after (disk.provideDirectory directory)) :=
      run_bind_of_run_eq hprovide _
    exact .inl (congrArg (·.1.ending) hrun)
  | true =>
    rw [hready] at hprovide
    have hwrite := run_write (tree.after (disk.provideDirectory directory))
      (FilePath.join directory
        (outputName project.template surroundings.time Page.fileExtension)) report
    split at hwrite
    · rename_i written hwritten
      obtain ⟨place, hwalk, hdir, hwrites⟩ := writes_of_write?_join hname hwritten
      have hrun : ∃ text, writing.run tree = (.printed text, written) :=
        ⟨_, (run_bind_of_run_eq hprovide _).trans (run_bind_of_run_eq hwrite _)⟩
      obtain ⟨text, hrun⟩ := hrun
      have hnext : next = written := congrArg Prod.snd hrun
      have hresult : tree.resultOf writing = .printed text := congrArg Prod.fst hrun
      rw [hnext, hresult]
      exact .inr ⟨rfl, place, hwalk, hdir, hmade.trans_writes hwrites⟩
    · have hrun : writing.run tree =
          (⟨[], [], .failed .write⟩, tree.after (disk.provideDirectory directory)) :=
        (run_bind_of_run_eq hprovide _).trans (run_bind_of_run_eq hwrite _)
      exact .inl (congrArg (·.1.ending) hrun)

/-! ### Looking only -/

variable {template output fixtures path : Option Text} {pageSize : Option PageSize}
  {verbose noColor : Bool} {words : List Text}

theorem looks_runGenerate_stdout (surroundings : Surroundings) (color : Bool) (root : Text)
    (template output fixtures : Option Text) (pageSize : Option PageSize) :
    Looks (runGenerate disk surroundings color root template output fixtures pageSize true) := by
  intro tree
  rw [after, run_runGenerate]
  cases tree.prepared root template fixtures with
  | error error => rfl
  | ok found => rfl

/-- The words of an invocation **ask for a file** if they make a report and do not print it. -/
def AsksForFile (words : List Text) : Prop :=
  ∃ template output fixtures pageSize path verbose noColor, Arguments.parse words =
    .ok ⟨some (.generate template output fixtures pageSize false), path, verbose, noColor⟩

/-- **A run that is not asked for a file only looks at the tree.** -/
theorem looks_runProgram (surroundings : Surroundings) (h : ¬ AsksForFile words) :
    Looks (runProgram disk surroundings words) := by
  rw [runProgram]
  split
  · rename_i arguments hparse
    obtain ⟨command, path, verbose, noColor⟩ := arguments
    rw [runCommand]
    cases command with
    | none => exact .pure _
    | some command =>
      cases command with
      | check template => exact looks_runCheck _ _ _ _
      | list template => exact looks_runList _ _ _
      | generate template output fixtures pageSize stdout =>
        cases stdout with
        | true => exact looks_runGenerate_stdout _ _ _ _ _ _ _
        | false => exact absurd ⟨_, _, _, _, _, _, _, hparse⟩ h
  · exact .pure _
  · exact .pure _
  · exact .pure _

/-- A report that has been prepared is that of the project that has been found. -/
theorem findProject_of_prepared {root : Text} {project : Project} {generation : Generation Fixtures}
    (h : tree.prepared root template fixtures = .ok (project, generation)) :
    tree.resultOf (findProject disk root template) = .ok project := by
  obtain ⟨found, hfound, h⟩ := ParsedTemplate.bind_eq_ok_iff.1 h
  obtain ⟨answers, -, h⟩ := ParsedTemplate.bind_eq_ok_iff.1 h
  obtain ⟨made, -, hpair⟩ := ParsedTemplate.map_eq_ok_iff.1 h
  obtain ⟨rfl, -⟩ := Prod.mk.inj hpair
  exact hfound

/-- `next` is the tree with a **report written** into the output directory of a project, which is the
one that is asked for or the one in the settings. -/
def WritesReport (tree : FileTree) (time : Timestamp) (root : Text) (template output : Option Text)
    (report : Text) (next : FileTree) : Prop :=
  ∃ project directory place, tree.resultOf (findProject disk root template) = .ok project ∧
    outputDirectory project output = .ok directory ∧
    next.walk? directory = some place ∧ next.isDirectory place ∧
    tree.Writes (place ++ [outputName project.template time Page.fileExtension])
      (Text.toString report).toUTF8 next

/-- **A report that is asked for as a file** ends with an error and leaves the tree as it is, or it
cannot be written, or it is finished and written. -/
theorem runGenerate_cases (tree : FileTree) (surroundings : Surroundings) (color : Bool)
    (root : Text) (template output fixtures : Option Text) (pageSize : Option PageSize) :
    let writing := runGenerate disk surroundings color root template output fixtures pageSize false
    let printing := runGenerate disk surroundings color root template output fixtures pageSize true
    let next := tree.after writing
    (∃ error, (tree.resultOf writing).ending = .failed (.report error) ∧ next = tree) ∨
      (tree.resultOf writing).ending = .failed .write ∨
      (tree.resultOf writing).ending = .success ∧ (tree.resultOf printing).ending = .success ∧
        (tree.resultOf printing).warnings = (tree.resultOf writing).warnings ∧
        tree.WritesReport surroundings.time root template output (tree.resultOf printing).stdout
          next := by
  intro writing printing next
  have hwriting := run_runGenerate tree surroundings color root template output fixtures pageSize
    false
  have hprinting := run_runGenerate tree surroundings color root template output fixtures pageSize
    true
  cases hprepared : tree.prepared root template fixtures with
  | error error =>
    rw [hprepared] at hwriting
    exact .inl ⟨error, congrArg (·.1.ending) hwriting, congrArg Prod.snd hwriting⟩
  | ok found =>
    obtain ⟨project, generation⟩ := found
    rw [hprepared] at hwriting hprinting
    cases hdirectory : outputDirectory project output with
    | error error =>
      simp only [deliver, hdirectory] at hwriting
      exact .inl ⟨error, congrArg (·.1.ending) hwriting, congrArg Prod.snd hwriting⟩
    | ok directory =>
      simp only [deliver, hdirectory] at hwriting
      simp only [deliver] at hprinting
      generalize reportText pageSize project generation = report at hwriting hprinting
      generalize generation.warnings.map (warningLine color) = warnings at hwriting hprinting
      generalize pageSize.getD project.settings.pageSize = size at hwriting
      have hresult : tree.resultOf writing = (tree.resultOf (writeReport disk surroundings color
          project directory report size)).withWarnings warnings := congrArg Prod.fst hwriting
      have hnext : next = tree.after (writeReport disk surroundings color project directory report
          size) := (congrArg Prod.snd hwriting).trans rfl
      have hprinted : tree.resultOf printing = (RunResult.printed report).withWarnings warnings :=
        congrArg Prod.fst hprinting
      have hcases := writeReport_cases tree surroundings color project directory report size
      rw [hresult, hnext, hprinted]
      rcases hcases with hfailed | ⟨hsuccess, place, hwalk, hdir, hwrites⟩
      · exact .inr (.inl hfailed)
      · exact .inr (.inr ⟨hsuccess, rfl, rfl, project, directory, place,
          findProject_of_prepared hprepared, hdirectory, hwalk, hdir, hwrites⟩)

end FileTree

open FileTree

/-- **The effects of a run.** A run that is not asked for a file leaves the tree as it is, and so
does every run that ends with an error that is reported. An invocation that asks for a file can be
made to print with the flag `--stdout`. Whenever it succeeds, so does this other one, with the same
warnings; and then one file has been written, in the output directory and with just the bytes of the
text that is printed. -/
theorem runProgram_effects (tree : FileTree) (surroundings : Surroundings) (words : List Text) :
    let run := runProgram disk surroundings words
    (¬ AsksForFile words → tree.after run = tree) ∧
      (∀ error, (tree.resultOf run).ending = .failed (.report error) → tree.after run = tree) ∧
      ∀ template output fixtures pageSize path verbose noColor, Arguments.parse words =
          .ok ⟨some (.generate template output fixtures pageSize false), path, verbose, noColor⟩ →
        (∃ before behind : List Text, words = before ++ ("generate" : Text) :: behind ∧
          Arguments.parse (before ++ ("generate" : Text) :: ("--stdout" : Text) :: behind) =
            .ok ⟨some (.generate template output fixtures pageSize true), path, verbose,
              noColor⟩) ∧
        ((tree.resultOf run).ending = .success → ∀ printWords, Arguments.parse printWords =
            .ok ⟨some (.generate template output fixtures pageSize true), path, verbose, noColor⟩ →
          let printed := tree.resultOf (runProgram disk surroundings printWords)
          printed.ending = .success ∧ printed.warnings = (tree.resultOf run).warnings ∧
            tree.WritesReport surroundings.time (path.getD surroundings.workingDirectory) template
              output printed.stdout (tree.after run)) := by
  intro run
  have hlooks (h : ¬ AsksForFile words) : tree.after run = tree :=
    looks_runProgram surroundings h tree
  refine ⟨hlooks, fun error hending => ?_, ?_⟩
  · by_cases h : AsksForFile words
    · obtain ⟨template, output, fixtures, pageSize, path, verbose, noColor, hparse⟩ := h
      have hrun : run = _ := runProgram_of_parse hparse surroundings
      rw [hrun] at hending ⊢
      rcases runGenerate_cases tree surroundings (surroundings.color && !noColor)
          (path.getD surroundings.workingDirectory) template output fixtures pageSize with
        ⟨_, -, hafter⟩ | hfailed | ⟨hsuccess, -⟩
      · exact hafter
      · cases hfailed.symm.trans hending
      · cases hsuccess.symm.trans hending
    · exact hlooks h
  · intro template output fixtures pageSize path verbose noColor hparse
    refine ⟨Arguments.exists_parse_stdout hparse, fun hending printWords hprint => ?_⟩
    have hrun : run = _ := runProgram_of_parse hparse surroundings
    have hprinting := runProgram_of_parse hprint surroundings
    rw [hrun] at hending ⊢
    rw [hprinting]
    rcases runGenerate_cases tree surroundings (surroundings.color && !noColor)
        (path.getD surroundings.workingDirectory) template output fixtures pageSize with
      ⟨error, herror, -⟩ | hfailed | ⟨-, hsuccess, hwarnings, hwrites⟩
    · cases herror.symm.trans hending
    · cases hfailed.symm.trans hending
    · exact ⟨hsuccess, hwarnings, hwrites⟩

/-- A tree with a template and nothing else. -/
def templateTree : FileTree := ⟨[("t.html", .file "x".toUTF8)], []⟩

/-- The report is written into a new directory. -/
theorem runProgram_effects_templateTree :
    let writing := runProgram disk plainSurroundings ["generate", "-t", "t.html", "-oout"]
    let printing := runProgram disk plainSurroundings
      ["generate", "--stdout", "-t", "t.html", "-oout"]
    (templateTree.resultOf writing).ending = .success ∧
      (templateTree.resultOf printing).ending = .success ∧
      templateTree.after printing = templateTree ∧
      templateTree.WritesReport plainSurroundings.time "/" (some "t.html") (some "out")
        (templateTree.resultOf printing).stdout (templateTree.after writing) ∧
      (templateTree.after writing).isDirectory ["out"] := by
  intro writing printing
  have hsuccess : (templateTree.resultOf writing).ending = .success := by decide +kernel
  have hwriting : Arguments.parse ["generate", "-t", "t.html", "-oout"] =
      .ok ⟨some (.generate (some "t.html") (some "out") none none false), none, false, false⟩ := by
    decide +kernel
  have hprinting : Arguments.parse ["generate", "--stdout", "-t", "t.html", "-oout"] =
      .ok ⟨some (.generate (some "t.html") (some "out") none none true), none, false, false⟩ := by
    decide +kernel
  obtain ⟨-, -, hfile⟩ := runProgram_effects templateTree plainSurroundings
    ["generate", "-t", "t.html", "-oout"]
  obtain ⟨hprinted, -, hwrites⟩ := (hfile _ _ _ _ _ _ _ hwriting).2 hsuccess _ hprinting
  obtain ⟨hlooks, -, -⟩ := runProgram_effects templateTree plainSurroundings
    ["generate", "--stdout", "-t", "t.html", "-oout"]
  refine ⟨hsuccess, hprinted, hlooks ?_, hwrites, by decide +kernel⟩
  rintro ⟨_, _, _, _, _, _, _, hparse⟩
  rw [hprinting] at hparse
  cases hparse

end BoundReport
