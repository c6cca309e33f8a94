import BoundReport.Proofs.Composition
import BoundReport.Proofs.Concatenation
import BoundReport.Proofs.RowData

/-!
# Gaps in Rows

A tag of a loop is a **gap** in the text of a row that has no column for it. When loops are filled
in, the tag stays as written. When tags are filled in afterwards, it is read again, and now its
name is that of a dataset, no longer that of the loop's rows: if a dataset of this name is declared
and its first row has the column, the gap is filled from there. Otherwise the tag is left as
written for good.

## Main results

* `expandRow_of_fragments`: when loops are filled in, a gap keeps its tag.
* `Gap.getElem?_process`: what the line with a gap becomes.
* `generate_gap`: in the report, a gap holds its tag as written or the text of one field.
* `generate_gap_filled`: a gap may be filled from a dataset that is named like the loop's rows.
-/

namespace BoundReport

variable {σ : Type} {catalog : Catalog} {engine : Engine σ}

/-! ### Expanded rows -/

/-- The text that a fragment of a loop's body becomes for a row. -/
def fillFragment (loop : Loop) (row : Row) : Fragment → Text
  | .literal text => text
  | .tag found =>
    if found.dataSet = loop.element then (row.text? found.field).getD found.raw else found.raw

theorem expandRow_eq_flatMap (loop : Loop) (row : Row) :
    expandRow loop row = (fragments loop.body).flatMap (fillFragment loop row) := by
  rw [expandRow]
  rfl

/-- **Where a row has no column for a tag, the tag stays as written.** -/
theorem expandRow_of_fragments {loop : Loop} {row : Row} {front back : List Fragment} {tag : Tag}
    (hbody : fragments loop.body = front ++ .tag tag :: back)
    (hmissing : row.text? tag.field = none) :
    expandRow loop row = front.flatMap (fillFragment loop row) ++ tag.raw ++
      back.flatMap (fillFragment loop row) := by
  have htag : fillFragment loop row (.tag tag) = tag.raw := by
    rw [fillFragment, hmissing, Option.getD_none, ite_self]
  rw [expandRow_eq_flatMap, hbody, List.flatMap_append, List.flatMap_cons, htag,
    List.append_assoc]

/-! ### One line of a document -/

/-- A loop that has rows becomes one line. -/
theorem value_resolveLoop {loop : Loop} {rows : List Row} {state : σ} (hne : rows ≠ [])
    (h : ((fetch catalog engine loop.dataSet).run state).value = some rows) :
    ((resolveLoop catalog engine loop).run state).value =
      some (.text (Text.trim (rows.flatMap (expandRow loop)))) := by
  cases rows with
  | nil => exact absurd rfl hne
  | cons row rest =>
    rw [resolveLoop, Resolution.run_bind, h]
    rfl

/-- A placeholder whose loop has rows becomes one line behind those of the lines before it. -/
theorem exists_value_resolveLoops {table : LoopTable} {before : Document} {id : LoopId}
    {loop : Loop} {rows : List Row} {state : σ} (hget : table.get? id = some loop)
    (hne : rows ≠ [])
    (hrows : ((fetch catalog engine loop.dataSet).run
      ((resolveLoops catalog engine table before).run state).state).value = some rows)
    (after : Document) :
    ∃ others, ((resolveLoops catalog engine table (before ++ .placeholder id :: after)).run
        state).value =
      ((resolveLoops catalog engine table before).run state).value ++
        .text (Text.trim (rows.flatMap (expandRow loop))) :: others := by
  have hline := value_resolveLoop hne hrows
  rw [run_resolveLoops_append]
  simp only [resolveLoops, resolveLoopLine, hget, Resolution.run_bind, Resolution.run_pure, hline]
  exact ⟨_, rfl⟩

/-- Filling in tags keeps the number of lines. -/
theorem length_resolveTags (document : Document) (state : σ) :
    ((resolveTags catalog engine document).run state).value.length = document.length := by
  induction document generalizing state with
  | nil => rfl
  | cons line rest ih => simp [resolveTags, ih]

/-- A line is filled in from the state of the engine that the lines before it leave behind. -/
theorem getElem?_resolveTags (before : Document) (line : Line) (after : Document) (state : σ) :
    ((resolveTags catalog engine (before ++ line :: after)).run state).value[before.length]? =
      some ((resolveTagLine catalog engine line).run
        ((resolveTags catalog engine before).run state).state).value := by
  rw [run_resolveTags_append]
  simp [resolveTags, length_resolveTags]

/-! ### Gaps -/

/-- The lines in front of the placeholder of a loop. -/
def linesBefore (document : Document) (loop : Loop) : Document :=
  (extractLoops document).document.takeWhile (· ≠ .placeholder loop.id)

/-- The placeholder of a loop stands behind the lines in front of it. -/
theorem exists_document_eq {document : Document} {loop : Loop}
    (h : loop ∈ (extractLoops document).table.loops) :
    ∃ after, (extractLoops document).document =
      linesBefore document loop ++ .placeholder loop.id :: after := by
  have hcut := List.takeWhile_append_dropWhile (p := (· ≠ Line.placeholder loop.id))
    (l := (extractLoops document).document)
  cases hrest : (extractLoops document).document.dropWhile (· ≠ .placeholder loop.id) with
  | nil =>
    have hne := List.dropWhile_eq_nil_iff.1 hrest _ (placeholder_mem_document h)
    simp at hne
  | cons line after =>
    have hline := List.head?_dropWhile_not (· ≠ Line.placeholder loop.id)
      (extractLoops document).document
    rw [hrest] at hline hcut
    obtain rfl : line = .placeholder loop.id := by simpa using hline
    exact ⟨after, hcut.symm⟩

/-- Filling in the lines in front of the placeholder of a loop. -/
def runBefore (catalog : Catalog) (engine : Engine σ) (document : Document) (state : σ)
    (loop : Loop) : Outcome σ Document :=
  (resolveLoops catalog engine (extractLoops document).table (linesBefore document loop)).run state

/-- A **gap**: a loop of a document, a row with which the engine answers when the loop's turn comes,
and a tag in its body that is named like its rows, for which the row has no column in any case of
the letters. -/
structure Gap (catalog : Catalog) (engine : Engine σ) (document : Document) (state : σ) where
  loop : Loop
  mem_loops : loop ∈ (extractLoops document).table.loops
  /-- The rows before. -/
  previous : List Row
  row : Row
  /-- The rows behind. -/
  following : List Row
  answered : ∃ calls after, LooksUp catalog engine loop.dataSet
    (runBefore catalog engine document state loop).state
    (some (.ok (previous ++ row :: following))) calls after
  /-- The fragments of the body before the tag. -/
  front : List Fragment
  tag : Tag
  /-- The fragments of the body behind the tag. -/
  back : List Fragment
  fragments_body : fragments loop.body = front ++ .tag tag :: back
  dataSet_tag : tag.dataSet = loop.element
  missing : ∀ name ∈ row.cells.map Prod.fst,
    name ≠ tag.field ∧ ¬ Text.equalsIgnoringCase name tag.field

namespace Gap

variable {document : Document} {state : σ} (gap : Gap catalog engine document state)

/-- The place of the gap's line, after loops have been filled in as well as in the report. -/
def index : Nat := (runBefore catalog engine document state gap.loop).value.length

/-- The text before the gap in its line, after loops have been filled in. -/
def textBefore : Text :=
  gap.previous.flatMap (expandRow gap.loop) ++
    gap.front.flatMap (fillFragment gap.loop gap.row)

/-- The text behind the gap in its line, after loops have been filled in. -/
def textBehind : Text :=
  gap.back.flatMap (fillFragment gap.loop gap.row) ++
    gap.following.flatMap (expandRow gap.loop)

/-- The document after its loops have been filled in. -/
def withLoops (_gap : Gap catalog engine document state) : Outcome σ Document :=
  (resolveLoops catalog engine (extractLoops document).table (extractLoops document).document).run
    state

/-- The state of the engine when the gap's line comes to be filled in with tags. -/
def lineState : σ :=
  ((resolveTags catalog engine (runBefore catalog engine document state gap.loop).value).run
    gap.withLoops.state).state

/-- What the text before the gap becomes in the report. -/
def left : Outcome σ Text := (resolveText catalog engine gap.textBefore).run gap.lineState

/-- What the gap's tag is looked up to, in the state of the engine when its turn comes. -/
def fetched : Outcome σ (Option (List Row)) :=
  (fetch catalog engine gap.tag.dataSet).run gap.left.state

/-- The field that the gap is filled with, if there is one. -/
def field? : Option Text :=
  gap.fetched.value.bind fun rows => rows.head?.bind fun row => row.text? gap.tag.field

/-- What the text behind the gap becomes in the report. -/
def right : Outcome σ Text := (resolveText catalog engine gap.textBehind).run gap.fetched.state

/-- The loop has its rows when its turn comes. -/
theorem value_fetch : ((fetch catalog engine gap.loop.dataSet).run
    (runBefore catalog engine document state gap.loop).state).value =
      some (gap.previous ++ gap.row :: gap.following) := by
  obtain ⟨calls, after, hlooks⟩ := gap.answered
  rw [hlooks.run_fetch]
  rfl

theorem text?_eq_none : gap.row.text? gap.tag.field = none := by
  rw [Option.eq_none_iff_forall_ne_some]
  intro text htext
  obtain ⟨name, hname, hsame⟩ := Row.isSome_text?_iff.1 (Option.isSome_of_eq_some htext)
  exact (gap.missing name hname).2 hsame

/-- The tag is a written one. -/
theorem written : gap.tag.Written := by
  have hmem : gap.tag ∈ tags gap.loop.body :=
    List.mem_filterMap.2 ⟨.tag gap.tag, by simp [gap.fragments_body], rfl⟩
  exact (mem_tags_iff.1 hmem).1

/-- The rows of the loop give the gap's tag between the text before it and that behind it. -/
theorem flatMap_expandRow :
    (gap.previous ++ gap.row :: gap.following).flatMap (expandRow gap.loop) =
      gap.textBefore ++ gap.tag.raw ++ gap.textBehind := by
  rw [List.flatMap_append, List.flatMap_cons,
    expandRow_of_fragments gap.fragments_body gap.text?_eq_none, textBefore, textBehind]
  simp only [List.append_assoc]

/-- When loops are filled in, the gap's tag stays as written. -/
theorem exists_value_withLoops :
    ∃ others, gap.withLoops.value = (runBefore catalog engine document state gap.loop).value ++
      .text (Text.trim (gap.textBefore ++ gap.tag.raw ++ gap.textBehind)) :: others := by
  obtain ⟨after, hdocument⟩ := exists_document_eq gap.mem_loops
  obtain ⟨others, hvalue⟩ := exists_value_resolveLoops (get?_id_of_mem gap.mem_loops)
    (by simp) gap.value_fetch after
  rw [gap.flatMap_expandRow, ← hdocument] at hvalue
  exact ⟨others, hvalue⟩

/-- The text around the gap is filled in on its left, in the gap, and on its right. -/
theorem value_resolveText :
    ((resolveText catalog engine (gap.textBefore ++ gap.tag.raw ++ gap.textBehind)).run
        gap.lineState).value =
      gap.left.value ++ gap.field?.getD gap.tag.raw ++ gap.right.value := by
  obtain ⟨hvalue, hstate⟩ :
      ((resolveTag catalog engine gap.tag).run gap.left.state).value =
        gap.field?.getD gap.tag.raw ∧
      ((resolveTag catalog engine gap.tag).run gap.left.state).state = gap.fetched.state :=
    run_resolveTag gap.tag gap.left.state
  rw [right, ← hstate, ← hvalue, run_resolveText_tag gap.written]
  rfl

/-- **The line with a gap**, after tags have been filled in. -/
theorem getElem?_process :
    ((process catalog engine document).run state).value[gap.index]? =
      some (.text (Text.trim
        (gap.left.value ++ gap.field?.getD gap.tag.raw ++ gap.right.value))) := by
  obtain ⟨others, hloops⟩ := gap.exists_value_withLoops
  have hprocess : ((process catalog engine document).run state).value =
      ((resolveTags catalog engine gap.withLoops.value).run gap.withLoops.state).value := by
    rw [run_process]
    rfl
  have htags : tags (gap.textBefore ++ gap.tag.raw ++ gap.textBehind) ≠ [] :=
    List.ne_nil_of_mem (mem_tags_iff.2 ⟨gap.written, _, _, rfl⟩)
  rw [hprocess, hloops, index, getElem?_resolveTags, run_resolveTagLine_trim htags,
    ← gap.value_resolveText]
  rfl

/-- A gap is filled just from the first row of the dataset that is named like the loop's rows. -/
theorem field?_eq_some_iff {value : Text} :
    gap.field? = some value ↔ ∃ first others calls after,
      LooksUp catalog engine gap.loop.element gap.left.state (some (.ok (first :: others))) calls
        after ∧
      first.text? gap.tag.field = some value := by
  obtain ⟨result, calls, after, hlooks⟩ :=
    exists_looksUp catalog engine gap.loop.element gap.left.state
  rw [field?, fetched, gap.dataSet_tag, hlooks.run_fetch]
  constructor
  · intro hvalue
    obtain ⟨rows, hrows, hfield⟩ := Option.bind_eq_some_iff.1 hvalue
    obtain ⟨first, hfirst, hvalue⟩ := Option.bind_eq_some_iff.1 hfield
    obtain ⟨others, rfl⟩ := List.head?_eq_some_iff.1 hfirst
    obtain ⟨answer, rfl, hanswer⟩ := Option.map_eq_some_iff.1 hrows
    cases answer with
    | error failure => cases hanswer
    | ok rows =>
      obtain rfl : rows = first :: others := hanswer
      exact ⟨first, others, calls, after, hlooks, hvalue⟩
  · rintro ⟨first, others, calls', after', hlooks', hvalue⟩
    obtain ⟨rfl, -, -⟩ := hlooks.unique hlooks'
    exact hvalue

end Gap

/-- **What becomes of a gap.** When loops are filled in, the gap's tag stands as written between the
text of the rows and fragments before it and that of those behind it. In the report it stands there
still, unless a dataset that is named like the loop's rows is declared, the engine answers with rows
when the tag's turn comes, and the first of them has the column: then that field is in its place. -/
theorem generate_gap {template : Text} {limits : DeclarationLimits} {parsed : ParsedTemplate}
    (h : ParsedTemplate.parse template limits = .ok parsed) (engine : Engine σ) (state : σ)
    (gap : Gap parsed.catalog engine parsed.body state) :
    gap.withLoops.value[gap.index]? =
        some (.text (Text.trim (gap.textBefore ++ gap.tag.raw ++ gap.textBehind))) ∧
      ∃ generation line, generate template limits engine state = .ok generation ∧
        generation.document[gap.index]? = some (.text line) ∧
        line = Text.trim (gap.left.value ++ gap.field?.getD gap.tag.raw ++ gap.right.value) ∧
        (gap.field? = none → gap.tag.raw <:+: line) ∧
        ∀ value, gap.field? = some value ↔ ∃ first others calls after,
          LooksUp generation.catalog engine gap.loop.element gap.left.state
            (some (.ok (first :: others))) calls after ∧
          first.text? gap.tag.field = some value := by
  refine ⟨?_, _, _, generate_of_parse_ok h engine state, gap.getElem?_process, rfl, fun hnone => ?_,
    fun value => gap.field?_eq_some_iff⟩
  · obtain ⟨others, hloops⟩ := gap.exists_value_withLoops
    rw [hloops, Gap.index]
    simp
  · rw [hnone, Option.getD_none,
      Text.trim_append_append gap.written.raw_ne_nil gap.written.trim_raw]
    exact ⟨_, _, rfl⟩

/-! ### A gap that stays and one that is filled -/

/-- A template with a loop over `R` whose rows have this name, and a dataset `D`. -/
def gapTemplate (element : Text) : Text :=
  writeTemplate [.declareSource ⟨"p", "s", "b", "u", "w"⟩,
    .declareSet ⟨"p", .storedProcedure, "R", "sp_r", []⟩,
    .declareSet ⟨"p", .storedProcedure, "D", "sp_d", []⟩,
    .body ("\x7b% for " ++ element ++ " in R %\x7d"),
    .body ("\x7b\x7b " ++ element ++ ".f \x7d\x7d"), .body "{% endfor %}"]

/-- What `gapTemplate` declares. -/
def gapCatalog : Catalog :=
  ⟨soleCatalog.dataSources,
    ⟨[⟨"p", .storedProcedure, "D", "sp_d", []⟩, ⟨"p", .storedProcedure, "R", "sp_r", []⟩],
      List.pairwise_pair.2 (by decide)⟩⟩

/-- The body of `gapTemplate`. -/
def gapBody (element : Text) : Document :=
  [.text ("\x7b% for " ++ element ++ " in R %\x7d"),
    .text ("\x7b\x7b " ++ element ++ ".f \x7d\x7d"), .text "{% endfor %}"]

/-- A row of `R`, which has no column `f`, and a row of `D`, which has one. -/
def gapAnswers (_ : DataSource) (invocation : Invocation) : List Row :=
  if invocation.object = "sp_r".toList then [⟨[("x", .string "1")]⟩]
  else [⟨[("f", .string "2")]⟩]

theorem parse_gapTemplate :
    ParsedTemplate.parse (gapTemplate "r") {} = .ok ⟨gapCatalog, gapBody "r"⟩ ∧
      ParsedTemplate.parse (gapTemplate "D") {} = .ok ⟨gapCatalog, gapBody "D"⟩ := ⟨rfl, rfl⟩

/-- The gap in the row of `R`, when its name is `r`. -/
def rowGap : Gap gapCatalog (Engine.fixed gapAnswers) (gapBody "r") () where
  loop := ⟨⟨0⟩, "{% for r in R %}", "R", "r", "{{ r.f }}"⟩
  mem_loops := by decide +kernel
  previous := []
  row := ⟨[("x", .string "1")]⟩
  following := []
  answered := ⟨_, _, .asked rfl rfl rfl rfl⟩
  front := []
  tag := ⟨"r", "f", "{{ r.f }}"⟩
  back := []
  fragments_body := by decide +kernel
  dataSet_tag := rfl
  missing := by decide

/-- The gap in the row of `R`, when its name is that of the dataset `D`. -/
def namesakeGap : Gap gapCatalog (Engine.fixed gapAnswers) (gapBody "D") () where
  loop := ⟨⟨0⟩, "{% for D in R %}", "R", "D", "{{ D.f }}"⟩
  mem_loops := by decide +kernel
  previous := []
  row := ⟨[("x", .string "1")]⟩
  following := []
  answered := ⟨_, _, .asked rfl rfl rfl rfl⟩
  front := []
  tag := ⟨"D", "f", "{{ D.f }}"⟩
  back := []
  fragments_body := by decide +kernel
  dataSet_tag := rfl
  missing := by decide

/-- Where no dataset is named like the rows, the tag is in the report. -/
theorem generate_gap_stays :
    ParsedTemplate.parse (gapTemplate "r") {} = .ok ⟨gapCatalog, gapBody "r"⟩ ∧
      ∃ generation line,
        generate (gapTemplate "r") {} (Engine.fixed gapAnswers) () = .ok generation ∧
          generation.document[rowGap.index]? = some (.text line) ∧
          "{{ r.f }}".toList <:+: line := by
  have hparse := parse_gapTemplate.1
  obtain ⟨-, generation, line, hgenerate, hline, -, hstays, -⟩ :=
    generate_gap hparse (Engine.fixed gapAnswers) () rowGap
  exact ⟨hparse, generation, line, hgenerate, hline, hstays rfl⟩

/-- **A gap may be filled**: the tag of a row that has no such column becomes the field of a dataset
that happens to have the row's name. -/
theorem generate_gap_filled :
    namesakeGap.tag.raw = "{{ D.f }}".toList ∧
      ParsedTemplate.parse (gapTemplate "D") {} = .ok ⟨gapCatalog, gapBody "D"⟩ ∧
      (generate (gapTemplate "D") {} (Engine.fixed gapAnswers) ()).map Generation.document =
        .ok [.text "2"] ∧
      ¬ namesakeGap.tag.raw <:+: "2".toList :=
  ⟨rfl, parse_gapTemplate.2, by decide +kernel, by decide⟩

end BoundReport
