import BoundReport.Proofs.Blocks
import BoundReport.Proofs.LoopTurns

/-!
# The Uses of a Run

A document **uses** datasets in two ways, by its loops and by its tags. Each use looks up one
name when its turn comes, and is settled there and then. Either the engine is asked, or a warning
tells that no dataset has the name, or the dataset is **blocked**: it is declared, but it cannot
be asked for. Nothing else asks the engine, and apart from the loop that a document ends in nothing
else warns.

What comes of a use may depend on the engine's state at its turn, and so on all uses before it. So
a run is a list of turns, and each of them leaves the warnings that its result calls for.

## Main results

* `Settles.bind`: computations in a row settle the uses of the first one and then those of the
  second.
* `settles_resolveLoops`, `settles_resolveTags`: filling in loops settles the loops of the
  placeholders, and filling in tags settles the tags.
* `Turns.length_calls_add_countP`: each use is counted once.
* `process_accounts`: the warnings of a run, in order, and the count of its uses.
-/

namespace BoundReport

/-! ### Uses and their turns -/

/-- One use of a dataset by its name. -/
inductive Use
  | ofLoop (loop : Loop)
  | ofTag (tag : Tag)
  deriving DecidableEq, Repr

/-- The name that is looked up. -/
def Use.dataSet : Use → Text
  | .ofLoop loop => loop.dataSet
  | .ofTag tag => tag.dataSet

/-- The warning that no dataset has the name. -/
def Use.unresolved : Use → Warning
  | .ofLoop loop => .unresolvedLoop loop.id loop.dataSet
  | .ofTag tag => .unresolvedTag tag.raw tag.dataSet

/-- Whether the dataset is **blocked**: declared, but without a registered datasource or of a
type that has no invocation. -/
def Use.isBlocked (catalog : Catalog) (use : Use) : Bool :=
  (catalog.dataSets.get? use.dataSet).any fun dataSet =>
    (catalog.dataSourceFor? dataSet).isNone || dataSet.invocation?.isNone

/-- The warnings that the result of looking up the name calls for. Rows call for none. -/
def Use.warnings (use : Use) : Option (Except QueryFailure (List Row)) → List Warning
  | none => [use.unresolved]
  | some answer => answerWarnings use.dataSet answer

/-- Whether a warning tells of a loop over an undeclared dataset. -/
def Warning.isUnresolvedLoop : Warning → Bool
  | .unresolvedLoop _ _ => true
  | _ => false

/-- Whether a warning tells of a tag of an undeclared dataset. -/
def Warning.isUnresolvedTag : Warning → Bool
  | .unresolvedTag _ _ => true
  | _ => false

section

variable {σ : Type} (catalog : Catalog) (engine : Engine σ)

/-- The **turn of a use**: its name is looked up, and it leaves the warnings that the result calls
for. -/
def UseTurn (use : Use) (state : σ) (left : List Warning) (calls : List Call) (after : σ) : Prop :=
  ∃ result, LooksUp catalog engine use.dataSet state result calls after ∧ left = use.warnings result

/-- The tags that are found when tags are filled in, from left to right and line by line. -/
def foundTags (document : Document) (state : σ) : List Tag :=
  ((resolveLoops catalog engine (extractLoops document).table
    (extractLoops document).document).run state).value.flatMap lineTags

/-- The uses of a run: its loops, and then the tags that are found. -/
def usesOf (document : Document) (state : σ) : List Use :=
  (extractLoops document).table.loops.map .ofLoop ++
    (foundTags catalog engine document state).map .ofTag

end

variable {σ α β : Type} {catalog : Catalog} {engine : Engine σ}

/-- The turn of a use has one outcome. -/
theorem isDefinite_useTurn : IsDefinite (UseTurn catalog engine) := by
  rintro use state _ _ calls₁ calls₂ after₁ after₂ ⟨result₁, hlooks₁, rfl⟩ ⟨result₂, hlooks₂, rfl⟩
  obtain ⟨rfl, rfl, rfl⟩ := hlooks₁.unique hlooks₂
  exact ⟨rfl, rfl, rfl⟩

/-! ### Settling -/

/-- From a state of the engine, a computation **settles** uses if its warnings and its calls are
those of their turns, and if it leaves the engine as they do. -/
def Settles (catalog : Catalog) (engine : Engine σ) (uses : List Use)
    (computation : Resolution σ α) (state : σ) : Prop :=
  Turns (UseTurn catalog engine) uses state (computation.run state).warnings
    (computation.run state).calls (computation.run state).state

namespace Settles

variable {uses first second : List Use} {state : σ}

/-- A result alone settles nothing. -/
theorem pure (value : α) : Settles catalog engine [] (pure value : Resolution σ α) state := .nil

/-- **In a row**, computations settle the uses of the first one and then those of the second. -/
theorem bind {one : Resolution σ α} {next : α → Resolution σ β}
    (hone : Settles catalog engine first one state)
    (hnext : Settles catalog engine second (next (one.run state).value) (one.run state).state) :
    Settles catalog engine (first ++ second) (one >>= next) state :=
  Turns.append hone hnext

/-- Passing on a result settles nothing more. -/
theorem map {one : Resolution σ α} {f : α → β} (h : Settles catalog engine uses one state) :
    Settles catalog engine uses (one >>= fun value => Pure.pure (f value)) state := by
  rw [← List.append_nil uses]
  exact h.bind (.pure _)

end Settles

/-- **A use is settled** by looking up its name, if the warning for an undeclared name follows and
nothing else happens. -/
theorem settles_fetch {next : Option (List Row) → Resolution σ α} (use : Use) (state : σ)
    (hnone : ∀ state, ∃ value, (next none).run state = ⟨value, state, [], [use.unresolved]⟩)
    (hsome : ∀ rows state, ∃ value, (next (some rows)).run state = ⟨value, state, [], []⟩) :
    Settles catalog engine [use] (fetch catalog engine use.dataSet >>= next) state := by
  obtain ⟨result, calls, after, hlooks⟩ := exists_looksUp catalog engine use.dataSet state
  rw [Settles, Resolution.run_bind, hlooks.run_fetch]
  cases result with
  | none =>
    obtain ⟨value, hrun⟩ := hnone after
    simp only [Option.map_none, hrun, List.append_nil]
    exact .single ⟨_, hlooks, rfl⟩
  | some answer =>
    obtain ⟨value, hrun⟩ := hsome (answerRows answer) after
    simp only [Option.map_some, hrun, List.append_nil]
    exact .single ⟨_, hlooks, rfl⟩

/-! ### What each pass settles -/

theorem settles_resolveLoop (loop : Loop) (state : σ) :
    Settles catalog engine [.ofLoop loop] (resolveLoop catalog engine loop) state := by
  refine settles_fetch (.ofLoop loop) state (fun _ => ⟨_, rfl⟩) fun rows _ => ?_
  cases rows <;> exact ⟨_, rfl⟩

/-- The loop of a placeholder. -/
def lineLoop? (table : LoopTable) (line : Line) : Option Loop := line.placeholder?.bind table.get?

theorem settles_resolveLoopLine (table : LoopTable) (line : Line) (state : σ) :
    Settles catalog engine ((lineLoop? table line).toList.map .ofLoop)
      (resolveLoopLine catalog engine table line) state := by
  cases line with
  | text content => exact .pure _
  | placeholder id =>
    rw [resolveLoopLine, lineLoop?, Line.placeholder?, Option.bind_some]
    cases table.get? id with
    | none => exact .pure _
    | some loop => exact settles_resolveLoop loop state

/-- **Filling in loops settles the loops of the placeholders.** -/
theorem settles_resolveLoops (table : LoopTable) (document : Document) (state : σ) :
    Settles catalog engine ((document.filterMap (lineLoop? table)).map .ofLoop)
      (resolveLoops catalog engine table document) state := by
  induction document generalizing state with
  | nil => exact .pure _
  | cons line rest ih =>
    have huses : (line :: rest).filterMap (lineLoop? table) =
        (lineLoop? table line).toList ++ rest.filterMap (lineLoop? table) := by
      rw [List.filterMap_cons]
      cases lineLoop? table line <;> rfl
    rw [huses, List.map_append]
    exact (settles_resolveLoopLine table line state).bind (ih _).map

theorem settles_resolveTag (tag : Tag) (state : σ) :
    Settles catalog engine [.ofTag tag] (resolveTag catalog engine tag) state :=
  settles_fetch (.ofTag tag) state (fun _ => ⟨_, rfl⟩) fun _ _ => ⟨_, rfl⟩

theorem settles_resolveFragments (found : List Fragment) (state : σ) :
    Settles catalog engine ((found.filterMap Fragment.tag?).map .ofTag)
      (resolveFragments catalog engine found) state := by
  induction found generalizing state with
  | nil => exact .pure _
  | cons fragment rest ih =>
    cases fragment with
    | literal text => exact (ih state).map
    | tag tag => exact (settles_resolveTag tag state).bind (ih _).map

theorem settles_resolveTagLine (line : Line) (state : σ) :
    Settles catalog engine ((lineTags line).map .ofTag) (resolveTagLine catalog engine line)
      state := by
  cases line with
  | placeholder id => exact .pure _
  | text content =>
    rw [resolveTagLine, lineTags]
    split
    · rename_i hnil
      rw [hnil]
      exact .pure _
    · exact (settles_resolveFragments (fragments content) state).map

/-- **Filling in tags settles the tags**, line by line. -/
theorem settles_resolveTags (document : Document) (state : σ) :
    Settles catalog engine ((document.flatMap lineTags).map .ofTag)
      (resolveTags catalog engine document) state := by
  induction document generalizing state with
  | nil => exact .pure _
  | cons line rest ih =>
    rw [List.flatMap_cons, List.map_append]
    exact (settles_resolveTagLine line state).bind (ih _).map

/-! ### Counts -/

/-- The warning that no dataset has a name is counted as that of a loop or as that of a tag. -/
theorem Use.countP_unresolved (use : Use) :
    [use.unresolved].countP Warning.isUnresolvedLoop +
      [use.unresolved].countP Warning.isUnresolvedTag = 1 := by
  cases use <;> rfl

/-- The warnings for an answer are counted neither as those of loops nor as those of tags. -/
theorem countP_answerWarnings {p : Warning → Bool}
    (hp : ∀ name failure, p (.queryFailed name failure) = false) (name : Text)
    (answer : Except QueryFailure (List Row)) : (answerWarnings name answer).countP p = 0 := by
  cases answer <;> simp [answerWarnings, hp]

/-- The warning for an open loop is counted neither as a loop nor as a tag. -/
theorem countP_map_openWarning {p : Warning → Bool}
    (hp : ∀ loop, p (openWarning loop) = false) (loop? : Option Loop) :
    (loop?.toList.map openWarning).countP p = 0 := by
  cases loop? <;> simp [hp]

/-- A use whose name is declared makes a call or is blocked, and not both. -/
theorem LooksUp.length_calls_add {use : Use} {state after : σ} {calls : List Call}
    {result : Option (Except QueryFailure (List Row))}
    (h : LooksUp catalog engine use.dataSet state result calls after) :
    calls.length + [use].countP (Use.isBlocked catalog) = if result.isSome then 1 else 0 := by
  cases h with
  | undeclared hget => simp [Use.isBlocked, hget]
  | unregistered hget hsource => simp [Use.isBlocked, hget, hsource]
  | unsupported hget hsource hinvocation => simp [Use.isBlocked, hget, hinvocation]
  | asked hget hsource hinvocation => simp [Use.isBlocked, hget, hsource, hinvocation]

/-- **In its turn a use is counted once**: by its call, by the warning that no dataset has its name,
or as blocked. -/
theorem UseTurn.length_calls_add_countP {use : Use} {state after : σ} {left : List Warning}
    {calls : List Call} (h : UseTurn catalog engine use state left calls after) :
    calls.length + left.countP Warning.isUnresolvedLoop + left.countP Warning.isUnresolvedTag +
      [use].countP (Use.isBlocked catalog) = 1 := by
  obtain ⟨result, hlooks, rfl⟩ := h
  have hcalls := hlooks.length_calls_add
  cases result with
  | none =>
    have hunresolved := use.countP_unresolved
    rw [Option.isSome_none, if_neg Bool.false_ne_true] at hcalls
    rw [Use.warnings]
    omega
  | some answer =>
    rw [Option.isSome_some, if_pos rfl] at hcalls
    rw [Use.warnings, countP_answerWarnings fun _ _ => rfl, countP_answerWarnings fun _ _ => rfl]
    omega

/-- **Each use is counted once** in the turns of all of them. -/
theorem Turns.length_calls_add_countP {uses : List Use} {state after : σ} {left : List Warning}
    {calls : List Call} (h : Turns (UseTurn catalog engine) uses state left calls after) :
    calls.length + left.countP Warning.isUnresolvedLoop + left.countP Warning.isUnresolvedTag +
      uses.countP (Use.isBlocked catalog) = uses.length := by
  induction h with
  | nil => rfl
  | @cons use rest _ _ _ _ _ _ _ hfirst _ ih =>
    have hone := hfirst.length_calls_add_countP
    have huses : (use :: rest).countP (Use.isBlocked catalog) =
        [use].countP (Use.isBlocked catalog) + rest.countP (Use.isBlocked catalog) := by
      rw [← List.singleton_append, List.countP_append]
    rw [List.length_append, List.countP_append, List.countP_append, huses, List.length_cons]
    omega

/-! ### Runs -/

/-- The loops of the placeholders are all loops, in order. -/
theorem filterMap_lineLoop?_documentOf {table : LoopTable} {sections : List Section} {next : Nat}
    (h : ∀ i, table.get? ⟨next + i⟩ = (loopsOf next sections)[i]?) :
    (documentOf next sections).filterMap (lineLoop? table) = loopsOf next sections := by
  induction sections generalizing next with
  | nil => rfl
  | cons first rest ih =>
    cases first with
    | outside line => exact ih h
    | block start header body stop =>
      have hfirst : lineLoop? table (.placeholder ⟨next⟩) = _ := h 0
      rw [documentOf, loopsOf, List.filterMap_cons_some hfirst, ih fun i => ?_]
      have hnumber : next + 1 + i = next + (i + 1) := by omega
      rw [hnumber, h, loopsOf, List.getElem?_cons_succ]

/-- The loops of the placeholders of a document are the loops that are taken out of it. -/
theorem filterMap_lineLoop?_extractLoops (lines : List Text) :
    (extractLoops (lines.map Line.text)).document.filterMap
        (lineLoop? (extractLoops (lines.map Line.text)).table) =
      (extractLoops (lines.map Line.text)).table.loops := by
  obtain ⟨sections, h⟩ := exists_decomposes lines
  have hextract : extractLoops (lines.map Line.text) = _ := scan_eq_of_decomposes h 0
  rw [hextract]
  exact filterMap_lineLoop?_documentOf fun i => find?_loopsOf 0 i sections

/-- After its loops have been taken out, filling in a document settles its uses. -/
theorem settles_usesOf (catalog : Catalog) (engine : Engine σ) (lines : List Text) (state : σ) :
    Settles catalog engine (usesOf catalog engine (lines.map Line.text) state)
      (resolveLoops catalog engine (extractLoops (lines.map Line.text)).table
        (extractLoops (lines.map Line.text)).document >>= resolveTags catalog engine) state := by
  have hloops : Settles catalog engine _ (resolveLoops catalog engine
      (extractLoops (lines.map Line.text)).table (extractLoops (lines.map Line.text)).document)
      state := settles_resolveLoops _ _ _
  rw [filterMap_lineLoop?_extractLoops] at hloops
  exact hloops.bind (settles_resolveTags _ _)

/-- An **account** of filling in a document, after it has been cut into sections: what its loops
are, what its calls and warnings are, and how often each use of a dataset is counted. -/
structure Accounts (catalog : Catalog) (engine : Engine σ) (lines : List Text)
    (sections : List Section) (state : σ) : Prop where
  decomposes : Decomposes lines sections
  /-- The loops are those of the sections, and each has left its placeholder, in order. -/
  loops : (extractLoops (lines.map Line.text)).table.loops = loopsOf 0 sections
  placeholders : (extractLoops (lines.map Line.text)).document.placeholders =
    (extractLoops (lines.map Line.text)).table.loops.map Loop.id
  /-- A loop is open just if the last section is a loop without an end. -/
  isSome_openLoopOf : (openLoopOf 0 sections).isSome = sections.getLast?.any Section.isOpen
  /-- The tags are found in what the turns of the loops leave. -/
  foundTags_eq : ∃ left calls between,
    Turns (LoopTurn catalog engine (extractLoops (lines.map Line.text)).table)
      (extractLoops (lines.map Line.text)).document state left calls between ∧
    foundTags catalog engine (lines.map Line.text) state = left.flatMap lineTags
  /-- The turns of the loops, and then of the tags that are found, have one outcome. The warnings of
  the run are that of the open loop, if there is one, and then those of the turns. Its calls are
  those of the turns, and the engine is left as they leave it. -/
  turns : ∃ warnings, ((process catalog engine (lines.map Line.text)).run state).warnings =
      (openLoopOf 0 sections).toList.map openWarning ++ warnings ∧
    ∀ left calls after, Turns (UseTurn catalog engine)
        (usesOf catalog engine (lines.map Line.text) state) state left calls after ↔
      left = warnings ∧
      calls = ((process catalog engine (lines.map Line.text)).run state).calls ∧
      after = ((process catalog engine (lines.map Line.text)).run state).state
  /-- Each use is counted once: as a call, as a warning that no dataset has its name, or as
  blocked. -/
  count : ((process catalog engine (lines.map Line.text)).run state).calls.length +
        ((process catalog engine (lines.map Line.text)).run state).warnings.countP
          Warning.isUnresolvedLoop +
        ((process catalog engine (lines.map Line.text)).run state).warnings.countP
          Warning.isUnresolvedTag +
        (usesOf catalog engine (lines.map Line.text) state).countP (Use.isBlocked catalog) =
      (extractLoops (lines.map Line.text)).table.loops.length +
        (foundTags catalog engine (lines.map Line.text) state).length

/-- **Every use is accounted for.** The uses of a run are its loops and then the tags that it finds.
Each of them looks up its name, once and in its turn. The warnings of the run are that of the loop
that the document ends in, if its last section is a loop without an end, and then, in order, one for
each use whose name no dataset has and for each use whose look-up has failed, be it that its dataset
is blocked or that the engine has failed when it was asked. A use that has rows has no warning. -/
theorem process_accounts (catalog : Catalog) (engine : Engine σ) (lines : List Text) (state : σ) :
    ∃ sections, Accounts catalog engine lines sections state := by
  obtain ⟨sections, h⟩ := exists_decomposes lines
  have hextract : extractLoops (lines.map Line.text) = _ := scan_eq_of_decomposes h 0
  have hsettles := settles_usesOf catalog engine lines state
  have hrun : (process catalog engine (lines.map Line.text)).run state = _ := run_process _ state
  rw [unterminated?_of_decomposes h] at hrun
  refine ⟨sections, h, by rw [hextract], ?_, isSome_openLoopOf 0 sections,
    ⟨_, _, _, turns_resolveLoops _ state, rfl⟩, ?_, ?_⟩
  · rw [hextract]
    exact placeholders_documentOf 0 sections
  · rw [hrun]
    refine ⟨_, rfl, fun left calls after => ⟨fun hturns => ?_, ?_⟩⟩
    · exact isDefinite_useTurn.turns hturns hsettles
    · rintro ⟨rfl, rfl, rfl⟩
      exact hsettles
  · have hlength : (usesOf catalog engine (lines.map Line.text) state).length =
        (extractLoops (lines.map Line.text)).table.loops.length +
          (foundTags catalog engine (lines.map Line.text) state).length := by simp [usesOf]
    rw [hrun, List.countP_append, List.countP_append, countP_map_openWarning fun _ => rfl,
      countP_map_openWarning fun _ => rfl, Nat.zero_add, Nat.zero_add, ← hlength]
    exact hsettles.length_calls_add_countP

-- the engine fails when it is asked for the first time, and `t` is a table
example :
    let engine : Engine Nat :=
      ⟨fun _ _ n => (if n = 0 then .error (.execution "o" "down") else .ok [], n + 1)⟩
    let catalog : Catalog := ⟨⟨[⟨"s", "h", "b", "u", "p"⟩], .cons (by simp) .nil⟩,
      ⟨[⟨"s", .storedProcedure, "d", "o", []⟩, ⟨"s", .table, "t", "o", []⟩],
        List.pairwise_pair.2 rfl⟩⟩
    let line : Text :=
      "\x7b\x7b d.n \x7d\x7d\x7b\x7b d.n \x7d\x7d\x7b\x7b t.n \x7d\x7d\x7b\x7b x.n \x7d\x7d"
    let outcome := (process catalog engine [.text line]).run 0
    outcome.calls.length = 2 ∧ outcome.warnings =
      [.queryFailed "d" (.execution "o" "down"), .queryFailed "t" (.unsupported .table),
        .unresolvedTag "\x7b\x7b x.n \x7d\x7d" "x"] := by
  decide +kernel

end BoundReport
