import Mathlib.Data.List.Flatten
import BoundReport.Proofs.Lookups
import BoundReport.Proofs.Parts
import BoundReport.Proofs.RoundTrip

/-!
# Row Data and Calls

The text of a cell that a loop has filled in is read again when tags are filled in, so it is not
mere data: a tag in it is looked up like one of the template. This module says how far the calls
of a run depend on the text of cells. The template has **own calls**: those of its loops, and
those of the tags that stand in its own text, between the cells. They depend on the shape of
the answers only, that is, on the number of rows and the names of columns. A run makes all of
them, in order, and it makes others just if a tag that can be looked up touches a cell.

## Main results

* `ownCalls_eq_of_sameShape`: the own calls depend on the shape of the answers only.
* `calls_process`: the calls of a run in which no query fails.
* `generate_calls_of_sameShape`: the calls of two runs whose answers have the same shape.
* `generate_calls_loopTemplate`: a cell that holds a tag makes a call of its own.
-/

namespace BoundReport

section

variable {σ : Type} {catalog : Catalog} {engine : Engine σ}

/-! ### Rows and parts -/

/-- An engine **answers** with fixed rows if it never fails and looks neither at its state nor at
what it has been asked before. -/
def Engine.Answers (engine : Engine σ) (answers : DataSource → Invocation → List Row) : Prop :=
  ∀ source invocation state,
    (engine.execute source invocation state).1 = .ok (answers source invocation)

variable {answers : DataSource → Invocation → List Row}

/-- The rows of the dataset with this name. Only a stored procedure has any. -/
def rows? (catalog : Catalog) (answers : DataSource → Invocation → List Row) (name : Text) :
    Option (List Row) :=
  (catalog.dataSets.get? name).map fun dataSet =>
    ((callOf? catalog dataSet).map fun call => answers call.source call.invocation).getD []

/-- The parts of the body of a loop for one row. -/
def rowParts (loop : Loop) (row : Row) : List Part :=
  (fragments loop.body).map fun
    | .literal text => .template text
    | .tag found =>
      if found.dataSet = loop.element then
        ((row.text? found.field).map Part.cell).getD (.template found.raw)
      else .template found.raw

/-- The parts of the line that a line becomes when loops are filled in, if it leaves one. -/
def lineParts (catalog : Catalog) (answers : DataSource → Invocation → List Row)
    (table : LoopTable) : Line → Option (List Part)
  | .text content => some [.template content]
  | .placeholder id =>
    (table.get? id).bind fun loop =>
      match rows? catalog answers loop.dataSet with
      | none | some [] => none
      | some rows => some (rows.flatMap (rowParts loop))

/-- The lines of a document after loops have been filled in, as parts. -/
def filledLines (catalog : Catalog) (answers : DataSource → Invocation → List Row)
    (extraction : Extraction) : List (List Part) :=
  extraction.document.filterMap (lineParts catalog answers extraction.table)

/-- The parts of a row have the text of the row. -/
theorem partsText_rowParts (loop : Loop) (row : Row) :
    partsText (rowParts loop row) = expandRow loop row := by
  rw [partsText, rowParts, expandRow, List.flatMap_map]
  congr 1
  funext fragment
  cases fragment with
  | literal text => rfl
  | tag found =>
    simp only
    split
    · cases row.text? found.field <;> rfl
    · rfl

theorem partsText_flatMap_rowParts (loop : Loop) (rows : List Row) :
    partsText (rows.flatMap (rowParts loop)) = rows.flatMap (expandRow loop) := by
  rw [partsText, List.flatMap_assoc]
  congr 1
  funext row
  exact partsText_rowParts loop row

/-- What a name is looked up to when the engine answers with fixed rows. -/
theorem value_fetch (h : engine.Answers answers) (name : Text) (state : σ) :
    ((fetch catalog engine name).run state).value = rows? catalog answers name := by
  obtain ⟨result, calls, after, hlooks⟩ := exists_looksUp catalog engine name state
  rw [hlooks.run_fetch, rows?]
  cases hlooks with
  | undeclared hget => rw [hget]; rfl
  | unregistered hget hsource => simp [hget, callOf?, hsource, answerRows]
  | unsupported hget hsource hinvocation =>
    simp [hget, callOf?, hsource, hinvocation, answerRows]
  | @asked _ source invocation answer _ hget hsource hinvocation hanswer =>
    obtain rfl : answer = .ok (answers source invocation) := by
      rw [← h source invocation state, hanswer]
    simp [hget, callOf?, hsource, hinvocation, answerRows]

/-- The tags of a filled-in line are those of its parts: trimming takes none away. -/
theorem lineTags_resolveLoopLine (h : engine.Answers answers) (table : LoopTable) (line : Line)
    (state : σ) :
    ((resolveLoopLine catalog engine table line).run state).value.toList.flatMap lineTags =
      (lineParts catalog answers table line).toList.flatMap fun parts =>
        tags (partsText parts) := by
  cases line with
  | text content => simp [resolveLoopLine, lineParts, lineTags, partsText, Part.text]
  | placeholder id =>
    rw [resolveLoopLine, lineParts]
    cases table.get? id with
    | none => rfl
    | some loop =>
      simp only [resolveLoop, Resolution.run_bind, value_fetch h, Option.bind_some]
      cases rows? catalog answers loop.dataSet with
      | none => rfl
      | some rows =>
        cases rows with
        | nil => rfl
        | cons row rows =>
          simp only [Resolution.run_pure, Option.toList_some, List.flatMap_singleton, lineTags,
            tags_trim, partsText_flatMap_rowParts]

/-- The tags of a document after loops have been filled in. -/
theorem lineTags_resolveLoops (h : engine.Answers answers) (extraction : Extraction) (state : σ) :
    ((resolveLoops catalog engine extraction.table extraction.document).run
        state).value.flatMap lineTags =
      (filledLines catalog answers extraction).flatMap fun parts => tags (partsText parts) := by
  rw [filledLines]
  induction extraction.document generalizing state with
  | nil => rfl
  | cons line rest ih =>
    rw [resolveLoops]
    simp only [Resolution.run_bind, Resolution.run_pure, List.flatMap_append, ih,
      lineTags_resolveLoopLine h, List.filterMap_cons]
    cases lineParts catalog answers extraction.table line <;> simp

/-! ### Own calls -/

/-- The **own calls** of a template: those of its loops, and those of the tags in the stretches of
its filled-in lines. -/
def ownCalls (catalog : Catalog) (answers : DataSource → Invocation → List Row)
    (document : Document) : List Call :=
  (extractLoops document).document.filterMap (loopCall? catalog (extractLoops document).table) ++
    ((filledLines catalog answers (extractLoops document)).flatMap fun parts =>
      (stretches [] parts).flatMap tags).filterMap (tagCall? catalog)

/-- Cells **call** if in some filled-in line a tag that leads to a call touches a cell. -/
def CellsCall (catalog : Catalog) (answers : DataSource → Invocation → List Row)
    (document : Document) : Prop :=
  ∃ parts ∈ filledLines catalog answers (extractLoops document), ∃ tag : Tag,
    tag.Touches (partsText parts) (cellSpans 0 parts) ∧ (tagCall? catalog tag).isSome

/-- Lists that are put together from parts are equal just if the parts are, if the parts of the
one are among those of the other. -/
theorem flatMap_eq_flatMap_iff_of_sublist {α β : Type} {f g : α → List β} {items : List α}
    (h : ∀ item ∈ items, (g item).Sublist (f item)) :
    items.flatMap f = items.flatMap g ↔ ∀ item ∈ items, f item = g item := by
  constructor
  · intro heq
    induction items with
    | nil => simp
    | cons item rest ih =>
      obtain ⟨hitem, hrest⟩ := List.forall_mem_cons.1 h
      have hlen := congrArg List.length heq
      rw [List.flatMap_cons, List.flatMap_cons, List.length_append, List.length_append] at hlen
      have hle := hitem.length_le
      have hle' := (List.Sublist.flatMap_right rest hrest).length_le
      have hfirst : f item = g item := (hitem.eq_of_length (by omega)).symm
      rw [List.flatMap_cons, List.flatMap_cons, hfirst, List.append_cancel_left_eq] at heq
      exact List.forall_mem_cons.2 ⟨hfirst, ih hrest heq⟩
  · intro heq
    rw [List.flatMap_def, List.flatMap_def, List.map_congr_left heq]

/-- **The calls of a run that never fails**: its own calls are among them, in order, and they are
all just if no cell calls. -/
theorem calls_process (catalog : Catalog) (h : engine.Answers answers) (document : Document)
    (state : σ) :
    (ownCalls catalog answers document).Sublist
        ((process catalog engine document).run state).calls ∧
      (((process catalog engine document).run state).calls = ownCalls catalog answers document ↔
        ¬ CellsCall catalog answers document) := by
  have hall : ((process catalog engine document).run state).calls =
      (extractLoops document).document.filterMap
          (loopCall? catalog (extractLoops document).table) ++
        ((filledLines catalog answers (extractLoops document)).flatMap fun parts =>
          tags (partsText parts)).filterMap (tagCall? catalog) := by
    rw [run_process]
    simp only [Resolution.run_bind, calls_resolveLoops, calls_resolveTags,
      lineTags_resolveLoops h]
  have hline (parts : List Part) :
      ((stretches [] parts).flatMap tags).Sublist (tags (partsText parts)) :=
    sublist_tags_partsText parts []
  rw [hall, ownCalls, List.append_cancel_left_eq, List.filterMap_flatMap, List.filterMap_flatMap]
  refine ⟨(List.Sublist.refl _).append ?_, ?_⟩
  · exact List.Sublist.flatMap_right _ fun parts _ => (hline parts).filterMap _
  · rw [flatMap_eq_flatMap_iff_of_sublist fun parts _ => (hline parts).filterMap _]
    constructor
    · rintro heq ⟨parts, hparts, tag, htouches, hcall⟩
      have hnone := (filterMap_tags_partsText_eq_iff (tagCall? catalog) parts []).1
        (heq parts hparts) tag htouches
      rw [hnone] at hcall
      exact absurd hcall (by decide)
    · intro hnot parts hparts
      refine (filterMap_tags_partsText_eq_iff (tagCall? catalog) parts []).2 fun tag htouches => ?_
      by_cases hcall : (tagCall? catalog tag).isSome
      · exact absurd ⟨parts, hparts, tag, htouches, hcall⟩ hnot
      · simpa using hcall

/-! ### Shapes of answers -/

/-- Two rows have the **same columns** if the names of their columns are the same. -/
def Row.SameColumns (row₁ row₂ : Row) : Prop :=
  ∀ name, name ∈ row₁.cells.map Prod.fst ↔ name ∈ row₂.cells.map Prod.fst

/-- Answers have the **same shape** if they have equally many rows with the same columns. -/
def SameShape (answers₁ answers₂ : DataSource → Invocation → List Row) : Prop :=
  ∀ source invocation,
    List.Forall₂ Row.SameColumns (answers₁ source invocation) (answers₂ source invocation)

/-- A row has a value in a column just if one of its columns has this name, in any case of its
letters. -/
theorem Row.isSome_text?_iff {row : Row} {column : Text} :
    (row.text? column).isSome ↔
      ∃ name ∈ row.cells.map Prod.fst, Text.equalsIgnoringCase name column := by
  rw [Row.text?, Option.isSome_map, Row.get?]
  cases hexact : row.cells.find? fun cell => cell.1 = column with
  | some cell =>
    have hmem := List.mem_of_find?_eq_some hexact
    have hname : cell.1 = column := by simpa using List.find?_some hexact
    refine ⟨fun _ => ⟨cell.1, List.mem_map_of_mem hmem, ?_⟩, fun _ => rfl⟩
    rw [hname, Text.equalsIgnoringCase, beq_self_eq_true]
  | none =>
    simp only [Option.isSome_map, List.find?_isSome, List.mem_map]
    constructor
    · rintro ⟨cell, hmem, hname⟩
      exact ⟨cell.1, ⟨cell, hmem, rfl⟩, hname⟩
    · rintro ⟨_, ⟨cell, hmem, rfl⟩, hname⟩
      exact ⟨cell, hmem, hname⟩

/-- Rows with the same columns leave the same parts of the template. -/
theorem map_template?_rowParts {row₁ row₂ : Row} (h : row₁.SameColumns row₂) (loop : Loop) :
    (rowParts loop row₁).map Part.template? = (rowParts loop row₂).map Part.template? := by
  rw [rowParts, rowParts, List.map_map, List.map_map]
  refine List.map_congr_left fun fragment _ => ?_
  cases fragment with
  | literal text => rfl
  | tag found =>
    have hsome : (row₁.text? found.field).isSome = (row₂.text? found.field).isSome := by
      rw [Bool.eq_iff_iff, Row.isSome_text?_iff, Row.isSome_text?_iff]
      simp only [h _]
    simp only [Function.comp_apply]
    split
    · cases h₁ : row₁.text? found.field with
      | none =>
        rw [h₁, Option.isSome_none, eq_comm, Option.isSome_eq_false_iff, Option.isNone_iff_eq_none]
          at hsome
        rw [hsome]
      | some cell₁ =>
        rw [h₁, Option.isSome_some, eq_comm] at hsome
        obtain ⟨cell₂, h₂⟩ := Option.isSome_iff_exists.1 hsome
        rw [h₂]
        rfl
    · rfl

theorem map_template?_flatMap_rowParts {rows₁ rows₂ : List Row}
    (h : List.Forall₂ Row.SameColumns rows₁ rows₂) (loop : Loop) :
    (rows₁.flatMap (rowParts loop)).map Part.template? =
      (rows₂.flatMap (rowParts loop)).map Part.template? := by
  induction h with
  | nil => rfl
  | cons hrow _ ih =>
    rw [List.flatMap_cons, List.flatMap_cons, List.map_append, List.map_append, ih,
      map_template?_rowParts hrow]

end

section

variable {catalog : Catalog} {answers₁ answers₂ : DataSource → Invocation → List Row}

/-- Answers of the same shape give a name rows of the same shape. -/
theorem rel_rows? (catalog : Catalog) (h : SameShape answers₁ answers₂) (name : Text) :
    Option.Rel (List.Forall₂ Row.SameColumns) (rows? catalog answers₁ name)
      (rows? catalog answers₂ name) := by
  rw [rows?, rows?]
  cases catalog.dataSets.get? name with
  | none => exact .none
  | some dataSet =>
    simp only [Option.map_some]
    cases callOf? catalog dataSet with
    | none => exact .some .nil
    | some call => exact .some (h call.source call.invocation)

/-- Answers of the same shape leave the same stretches on every line. -/
theorem stretches_lineParts (h : SameShape answers₁ answers₂) (table : LoopTable) (line : Line) :
    (lineParts catalog answers₁ table line).map (stretches []) =
      (lineParts catalog answers₂ table line).map (stretches []) := by
  cases line with
  | text content => rfl
  | placeholder id =>
    rw [lineParts, lineParts]
    cases table.get? id with
    | none => rfl
    | some loop =>
      have hrows := rel_rows? catalog h loop.dataSet
      simp only [Option.bind_some]
      generalize rows? catalog answers₁ loop.dataSet = rows₁ at hrows
      generalize rows? catalog answers₂ loop.dataSet = rows₂ at hrows
      cases hrows with
      | none => rfl
      | some hrows =>
        cases hrows with
        | nil => rfl
        | cons hrow hrest =>
          exact congrArg some (stretches_congr
            (map_template?_flatMap_rowParts (.cons hrow hrest) loop) [])

/-- **The own calls depend on the shape of the answers only.** -/
theorem ownCalls_eq_of_sameShape (h : SameShape answers₁ answers₂) (document : Document) :
    ownCalls catalog answers₁ document = ownCalls catalog answers₂ document := by
  have hlines : (filledLines catalog answers₁ (extractLoops document)).map (stretches []) =
      (filledLines catalog answers₂ (extractLoops document)).map (stretches []) := by
    rw [filledLines, filledLines, List.map_filterMap, List.map_filterMap]
    simp only [stretches_lineParts h]
  have htags (answers : DataSource → Invocation → List Row) :
      ((filledLines catalog answers (extractLoops document)).flatMap fun parts =>
        (stretches [] parts).flatMap tags) =
      ((filledLines catalog answers (extractLoops document)).map (stretches [])).flatMap
        fun texts => texts.flatMap tags := by rw [List.flatMap_map]
  rw [ownCalls, ownCalls, htags, htags, hlines]

end

/-- **The calls of two runs whose answers have the same shape.** Both make the own calls of the
template, which are the same, in order. A run makes no others just if no cell calls, so two runs
in which no cell calls make the same calls. -/
theorem generate_calls_of_sameShape {σ₁ σ₂ : Type} (template : Text) (limits : DeclarationLimits)
    {engine₁ : Engine σ₁} {engine₂ : Engine σ₂}
    {answers₁ answers₂ : DataSource → Invocation → List Row} (h₁ : engine₁.Answers answers₁)
    (h₂ : engine₂.Answers answers₂) (hshape : SameShape answers₁ answers₂) (state₁ : σ₁)
    (state₂ : σ₂) :
    match ParsedTemplate.parse template limits with
    | .error error =>
      (makeReport template limits engine₁).run state₁ = ⟨.error error, state₁, [], []⟩ ∧
        (makeReport template limits engine₂).run state₂ = ⟨.error error, state₂, [], []⟩
    | .ok ⟨catalog, body⟩ =>
      ∃ run₁ run₂, generate template limits engine₁ state₁ = .ok run₁ ∧
        generate template limits engine₂ state₂ = .ok run₂ ∧
        ownCalls catalog answers₁ body = ownCalls catalog answers₂ body ∧
        (ownCalls catalog answers₁ body).Sublist run₁.calls ∧
        (ownCalls catalog answers₂ body).Sublist run₂.calls ∧
        (run₁.calls = ownCalls catalog answers₁ body ↔ ¬ CellsCall catalog answers₁ body) ∧
        (run₂.calls = ownCalls catalog answers₂ body ↔ ¬ CellsCall catalog answers₂ body) ∧
        (¬ CellsCall catalog answers₁ body → ¬ CellsCall catalog answers₂ body →
          run₁.calls = run₂.calls) := by
  cases hparse : ParsedTemplate.parse template limits with
  | error error =>
    exact ⟨run_makeReport_of_parse_error hparse engine₁ state₁,
      run_makeReport_of_parse_error hparse engine₂ state₂⟩
  | ok parsed =>
    obtain ⟨catalog, body⟩ := parsed
    have hown : ownCalls catalog answers₁ body = ownCalls catalog answers₂ body :=
      ownCalls_eq_of_sameShape hshape body
    obtain ⟨hsub₁, hiff₁⟩ := calls_process catalog h₁ body state₁
    obtain ⟨hsub₂, hiff₂⟩ := calls_process catalog h₂ body state₂
    refine ⟨_, _, generate_of_parse_ok hparse engine₁ state₁,
      generate_of_parse_ok hparse engine₂ state₂, hown, hsub₁, hsub₂, hiff₁, hiff₂,
      fun hnot₁ hnot₂ => ?_⟩
    exact (hiff₁.2 hnot₁).trans (hown.trans (hiff₂.2 hnot₂).symm)

/-! ### A cell that calls -/

/-- The engine that gives fixed answers. -/
def Engine.fixed (answers : DataSource → Invocation → List Row) : Engine Unit :=
  ⟨fun source invocation state => (.ok (answers source invocation), state)⟩

theorem Engine.answers_fixed (answers : DataSource → Invocation → List Row) :
    (Engine.fixed answers).Answers answers := fun _ _ _ => rfl

/-- A template with a loop over `R` and with a further dataset `D` that nothing in its body
names. -/
def loopTemplate : Text :=
  writeTemplate [.declareSource ⟨"p", "s", "b", "u", "w"⟩,
    .declareSet ⟨"p", .storedProcedure, "R", "sp_r", []⟩,
    .declareSet ⟨"p", .storedProcedure, "D", "sp_d", []⟩,
    .body "\x7b% for r in R %\x7d", .body "\x7b\x7b r.x \x7d\x7d", .body "\x7b% endfor %\x7d"]

/-- One row of `R` with this text in its cell, and one row of `D`. -/
def loopAnswers (cell : Text) (_ : DataSource) (invocation : Invocation) : List Row :=
  if invocation.object = "sp_r".toList then [⟨[("x", .string cell)]⟩]
  else [⟨[("f", .string "1")]⟩]

theorem sameShape_loopAnswers (cell₁ cell₂ : Text) :
    SameShape (loopAnswers cell₁) (loopAnswers cell₂) := by
  intro source invocation
  rw [loopAnswers, loopAnswers]
  split
  · exact .cons (fun name => .rfl) .nil
  · exact .cons (fun name => .rfl) .nil

/-- The calls of two runs over the same template, each with another plain text in its cell. -/
theorem generate_calls_plain_cells :
    (Engine.fixed (loopAnswers "x")).Answers (loopAnswers "x") ∧
      (Engine.fixed (loopAnswers "y")).Answers (loopAnswers "y") ∧
      SameShape (loopAnswers "x") (loopAnswers "y") ∧
      match ParsedTemplate.parse loopTemplate {} with
      | .error error =>
        (makeReport loopTemplate {} (Engine.fixed (loopAnswers "x"))).run () =
            ⟨.error error, (), [], []⟩ ∧
          (makeReport loopTemplate {} (Engine.fixed (loopAnswers "y"))).run () =
            ⟨.error error, (), [], []⟩
      | .ok ⟨catalog, body⟩ =>
        ∃ run₁ run₂, generate loopTemplate {} (Engine.fixed (loopAnswers "x")) () = .ok run₁ ∧
          generate loopTemplate {} (Engine.fixed (loopAnswers "y")) () = .ok run₂ ∧
          ownCalls catalog (loopAnswers "x") body = ownCalls catalog (loopAnswers "y") body ∧
          (ownCalls catalog (loopAnswers "x") body).Sublist run₁.calls ∧
          (ownCalls catalog (loopAnswers "y") body).Sublist run₂.calls ∧
          (run₁.calls = ownCalls catalog (loopAnswers "x") body ↔
            ¬ CellsCall catalog (loopAnswers "x") body) ∧
          (run₂.calls = ownCalls catalog (loopAnswers "y") body ↔
            ¬ CellsCall catalog (loopAnswers "y") body) ∧
          (¬ CellsCall catalog (loopAnswers "x") body → ¬ CellsCall catalog (loopAnswers "y") body →
            run₁.calls = run₂.calls) :=
  ⟨Engine.answers_fixed _, Engine.answers_fixed _, sameShape_loopAnswers _ _,
    generate_calls_of_sameShape loopTemplate {} (Engine.answers_fixed _) (Engine.answers_fixed _)
      (sameShape_loopAnswers _ _) () ()⟩

/-- **A cell that holds a tag makes a call of its own**: of two engines whose answers differ in the
text of one cell, the second one is asked for a dataset that the template nowhere uses. -/
theorem generate_calls_loopTemplate :
    (Engine.fixed (loopAnswers "x")).Answers (loopAnswers "x") ∧
      (Engine.fixed (loopAnswers "\x7b\x7b D.f \x7d\x7d")).Answers
        (loopAnswers "\x7b\x7b D.f \x7d\x7d") ∧
      SameShape (loopAnswers "x") (loopAnswers "\x7b\x7b D.f \x7d\x7d") ∧
      (generate loopTemplate {} (Engine.fixed (loopAnswers "x")) ()).map Generation.calls =
        .ok [⟨⟨"p", "s", "b", "u", "w"⟩, .storedProcedure "sp_r" []⟩] ∧
      (generate loopTemplate {} (Engine.fixed (loopAnswers "\x7b\x7b D.f \x7d\x7d")) ()).map
          Generation.calls =
        .ok [⟨⟨"p", "s", "b", "u", "w"⟩, .storedProcedure "sp_r" []⟩,
          ⟨⟨"p", "s", "b", "u", "w"⟩, .storedProcedure "sp_d" []⟩] :=
  ⟨Engine.answers_fixed _, Engine.answers_fixed _, sameShape_loopAnswers _ _,
    by decide +kernel, by decide +kernel⟩

end BoundReport
