import BoundReport.Proofs.Looking
import BoundReport.Proofs.RoundTrip

/-!
# Agreement of the Commands

Checking a template, listing what it declares and printing its report read the same project in
the same order. Printing reads the fixtures as well, in between, and it goes on where the others
stop; but nothing behind the reading of a template fails. So if there is nothing wrong with the
fixtures, the three commands succeed together or fail with one error.

## Main results

* `prepared_eq`: a report can be made just if the template can be taken apart.
* `runProgram_agree`: the three commands agree, and what is counted is what the report uses.
-/

namespace BoundReport

namespace FileTree

/-- The file of fixtures that a project would use, the one that is asked for or else the one in the
settings, is not named at all or can be **loaded**. Settings that cannot be read name none. -/
def FixturesLoad (tree : FileTree) (root : Text) (asked : Option Text) : Prop :=
  ∀ found : Option (Text × Settings), tree.resultOf (Settings.load disk root) = .ok found →
    ∀ path, (asked.map (FilePath.join root)).or
        (((found.map Prod.snd).getD {} : Settings).fixturesFile? root) = some path →
      ∃ fixtures, tree.resultOf (loadFixtures disk path) = .ok fixtures

/-- A project that is found has the settings in its root, or those of a project without any. -/
theorem exists_load_of_findProject {tree : FileTree} {root : Text} {asked : Option Text}
    {project : Project} (h : tree.resultOf (findProject disk root asked) = .ok project) :
    project.root = root ∧ ∃ found, tree.resultOf (Settings.load disk root) = .ok found ∧
      project.settings = (found.map Prod.snd).getD {} := by
  rw [findProject, (looks_load root).resultOf_bind] at h
  cases hload : tree.resultOf (Settings.load disk root) with
  | error error =>
    rw [hload] at h
    cases h
  | ok found =>
    rw [hload] at h
    obtain ⟨template, -, rfl⟩ := ParsedTemplate.map_eq_ok_iff.1 h
    exact ⟨rfl, found, rfl, rfl⟩

/-- The fixtures of a project can be loaded. -/
theorem FixturesLoad.exists_projectFixtures {tree : FileTree} {root : Text}
    {template asked : Option Text} {project : Project} (h : tree.FixturesLoad root asked)
    (hproject : tree.resultOf (findProject disk root template) = .ok project) :
    ∃ fixtures, tree.resultOf (projectFixtures disk project asked) = .ok fixtures := by
  obtain ⟨hroot, found, hload, hsettings⟩ := exists_load_of_findProject hproject
  rw [projectFixtures, hroot, hsettings]
  split
  · rename_i path hpath
    exact h found hload path hpath
  · exact ⟨.empty, rfl⟩

/-- **A report can be made just if the template can be taken apart**, if the fixtures can be loaded.
Both fail with one error. -/
theorem prepared_eq {tree : FileTree} {root : Text} {fixtures : Option Text}
    (h : tree.FixturesLoad root fixtures) (template : Option Text) :
    (∃ error, tree.resultOf (readDeclarations disk root template) = .error error ∧
      tree.prepared root template fixtures = .error error) ∨
    ∃ project parsed generation,
      tree.resultOf (readDeclarations disk root template) = .ok (project, parsed) ∧
      tree.prepared root template fixtures = .ok (project, generation) ∧
      generation.catalog = parsed.catalog := by
  rw [resultOf_readDeclarations, prepared]
  cases hproject : tree.resultOf (findProject disk root template) with
  | error error => exact .inl ⟨error, rfl, rfl⟩
  | ok project =>
    obtain ⟨answers, hanswers⟩ := h.exists_projectFixtures hproject
    simp only [Except.bind, hanswers, resultOf_generateFile]
    cases tree.resultOf (readTemplate disk project.template) with
    | error error => exact .inl ⟨error, rfl, rfl⟩
    | ok content =>
      cases hparse : ParsedTemplate.parse content project.settings.limits with
      | error error =>
        have hgenerate : generate content project.settings.limits Fixtures.engine answers =
            .error error := by
          rw [generate, run_makeReport_of_parse_error hparse]
          rfl
        simp only [hparse, hgenerate]
        exact .inl ⟨error, rfl, rfl⟩
      | ok parsed =>
        -- From here on nothing fails, whatever the fixtures answer.
        simp only [hparse, generate_of_parse_ok hparse Fixtures.engine answers]
        exact .inr ⟨project, parsed, _, rfl, rfl, rfl⟩

end FileTree

/-- Arguments that make sense run their command. -/
theorem runProgram_of_parse {words : List Text} {arguments : Arguments}
    (h : Arguments.parse words = .ok arguments) (surroundings : Surroundings) :
    runProgram FileTree.disk surroundings words =
      runCommand FileTree.disk surroundings arguments := by
  rw [runProgram, h]

/-- **The commands agree.** For the same project and template, and fixtures that can be loaded or
none at all, checking, listing and printing the report all fail with the same error, or all succeed.
Then the numbers that checking prints are those of the datasources and the datasets with which the
printed report has been made. -/
theorem runProgram_agree (tree : FileTree) (surroundings : Surroundings)
    {checkWords listWords printWords : List Text} {path template output fixtures : Option Text}
    {pageSize : Option PageSize} {verbose₁ verbose₂ verbose₃ noColor₁ noColor₂ noColor₃ : Bool}
    (hcheck : Arguments.parse checkWords = .ok ⟨some (.check template), path, verbose₁, noColor₁⟩)
    (hlist : Arguments.parse listWords = .ok ⟨some (.list template), path, verbose₂, noColor₂⟩)
    (hprint : Arguments.parse printWords =
      .ok ⟨some (.generate template output fixtures pageSize true), path, verbose₃, noColor₃⟩)
    (hfixtures : tree.FixturesLoad (path.getD surroundings.workingDirectory) fixtures) :
    let checked := tree.resultOf (runProgram FileTree.disk surroundings checkWords)
    let listed := tree.resultOf (runProgram FileTree.disk surroundings listWords)
    let printed := tree.resultOf (runProgram FileTree.disk surroundings printWords)
    (∃ error, checked = .ofError error ∧ listed = .ofError error ∧ printed = .ofError error) ∨
      checked.ending = .success ∧ listed.ending = .success ∧ printed.ending = .success ∧
      ∃ project generation,
        tree.prepared (path.getD surroundings.workingDirectory) template fixtures =
          .ok (project, generation) ∧
        printed.stdout = FileTree.reportText pageSize project generation ∧
        checked.stdout = FileTree.checkedText verbose₁ (surroundings.color && !noColor₁)
          (path.getD surroundings.workingDirectory) project generation.catalog.dataSources.size
          generation.catalog.dataSets.size := by
  intro checked listed printed
  have hchecked : checked = tree.resultOf (runProgram FileTree.disk surroundings checkWords) := rfl
  have hlisted : listed = tree.resultOf (runProgram FileTree.disk surroundings listWords) := rfl
  have hprinted : printed = tree.resultOf (runProgram FileTree.disk surroundings printWords) := rfl
  rw [runProgram_of_parse hcheck] at hchecked
  rw [runProgram_of_parse hlist] at hlisted
  rw [runProgram_of_parse hprint] at hprinted
  have hchecked := hchecked.trans (FileTree.resultOf_runCheck tree verbose₁ _ _ template)
  have hlisted := hlisted.trans (FileTree.resultOf_runList tree _ _ template)
  have hprinted := hprinted.trans (congrArg Prod.fst
    (FileTree.run_runGenerate tree surroundings _ _ template output fixtures pageSize true))
  rcases FileTree.prepared_eq hfixtures template with
    ⟨error, hread, hprepared⟩ | ⟨project, parsed, generation, hread, hprepared, hcatalog⟩
  · rw [hread] at hchecked hlisted
    rw [hprepared] at hprinted
    exact .inl ⟨error, hchecked, hlisted, hprinted⟩
  · rw [hread] at hchecked hlisted
    rw [hprepared] at hprinted
    refine .inr ⟨?_, ?_, ?_, project, generation, hprepared, ?_, ?_⟩
    · rw [hchecked]
      rfl
    · rw [hlisted]
      rfl
    · rw [hprinted]
      rfl
    · rw [hprinted]
      rfl
    · rw [hchecked, hcatalog]
      rfl

/-- A tree with a template, which declares one datasource, and with fixtures for it. -/
def declaringTree : FileTree where
  entries :=
    [("t.html", .file
        (Text.toString (writeTemplate [.declareSource ⟨"p", "s", "b", "u", "w"⟩])).toUTF8),
     ("f.json", .file "\x7b\"p\": \x7b\x7d\x7d".toUTF8)]
  workingDirectory := []

/-- The root as working directory, and no colors. -/
def plainSurroundings : Surroundings := ⟨"/", ⟨2024, 3, 9, 14, 5, 7⟩, false⟩

/-- The fixtures are loaded, and all commands succeed. -/
theorem runProgram_agree_declaringTree :
    declaringTree.FixturesLoad "/" (some "f.json") ∧
      (declaringTree.resultOf (runProgram FileTree.disk plainSurroundings
        ["check", "--template=t.html"])).ending = .success ∧
      (declaringTree.resultOf (runProgram FileTree.disk plainSurroundings
        ["list", "-v", "-t", "t.html"])).ending = .success ∧
      (declaringTree.resultOf (runProgram FileTree.disk plainSurroundings
        ["generate", "--stdout", "-ff.json", "-t", "t.html"])).ending = .success ∧
      ∃ project generation,
        declaringTree.prepared "/" (some "t.html") (some "f.json") = .ok (project, generation) ∧
        (declaringTree.resultOf (runProgram FileTree.disk plainSurroundings
          ["generate", "--stdout", "-ff.json", "-t", "t.html"])).stdout =
            FileTree.reportText none project generation ∧
        (declaringTree.resultOf (runProgram FileTree.disk plainSurroundings
          ["check", "--template=t.html"])).stdout =
            FileTree.checkedText false false "/" project generation.catalog.dataSources.size
              generation.catalog.dataSets.size := by
  have hfixtures : declaringTree.FixturesLoad "/" (some "f.json") := by
    intro found _ path hpath
    obtain rfl : "/f.json" = path := Option.some.inj hpath
    exact ParsedTemplate.exists_eq_ok_of_toBool (by decide +kernel)
  have hsuccess : (declaringTree.resultOf (runProgram FileTree.disk plainSurroundings
      ["check", "--template=t.html"])).ending = .success := by decide +kernel
  have hcheck : Arguments.parse ["check", "--template=t.html"] =
      .ok ⟨some (.check (some "t.html")), none, false, false⟩ := by decide +kernel
  have hlist : Arguments.parse ["list", "-v", "-t", "t.html"] =
      .ok ⟨some (.list (some "t.html")), none, true, false⟩ := by decide +kernel
  have hprint : Arguments.parse ["generate", "--stdout", "-ff.json", "-t", "t.html"] =
      .ok ⟨some (.generate (some "t.html") none (some "f.json") none true), none, false, false⟩ := by
    decide +kernel
  refine ⟨hfixtures, ?_⟩
  rcases runProgram_agree declaringTree plainSurroundings
      hcheck hlist hprint hfixtures with ⟨error, hchecked, -⟩ | h
  · rw [hchecked] at hsuccess
    cases hsuccess
  · exact h

end BoundReport
