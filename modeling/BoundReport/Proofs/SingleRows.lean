import Mathlib.Logic.Function.Iterate
import BoundReport.Proofs.Composition
import BoundReport.Proofs.InertLines
import BoundReport.Proofs.LoopTurns
import BoundReport.Proofs.Statements

/-!
# Loops Over a Single Row

A tag is filled in twice over: when loops are filled in, as a tag of the loop's rows, and when tags
are filled in, as a tag of a dataset, which stands for the dataset's first row. If the rows are
named like their dataset, and the dataset has a single row, there is no difference. The body of a
loop is trimmed before it is filled in, and a line with tags only afterwards; but spaces hold no
tags, so both leave the same line.

## Main results

* `Engine.Repeats.run_resolveText`: tags of a dataset that has the same rows each time.
* `Row.trim_fill_trim`: it does not matter whether a text is trimmed before it is filled in.
* `resolveLoops_singleRow`: a loop over a single row leaves the line that its body would leave on
  its own.
-/

namespace BoundReport

/-! ### Texts filled in from a row -/

namespace Row

/-- What an atom of a text becomes if all tags are filled in from one row. A tag whose field the row
does not have stays as written. -/
def fillAtom (row : Row) : Atom → Text
  | .char c => [c]
  | .tag found => (row.text? found.field).getD found.raw

/-- The text that a text becomes if all its tags are filled in from one row. -/
def fill (row : Row) (text : Text) : Text := (atoms text).flatMap row.fillAtom

theorem fill_append {s t : Text} (h : ∀ tag : Tag, ¬ tag.Straddles s t) (row : Row) :
    row.fill (s ++ t) = row.fill s ++ row.fill t := by
  rw [fill, atoms_append_of_not_straddles h, List.flatMap_append, fill, fill]

theorem fill_of_tags_eq_nil {text : Text} (h : tags text = []) (row : Row) :
    row.fill text = text := by
  rw [fill, atoms_of_tags_eq_nil h, List.flatMap_map]
  exact List.flatMap_singleton' text

/-- **It does not matter whether a text is trimmed before it is filled in**, if it is trimmed
afterwards. -/
theorem trim_fill_trim (row : Row) (text : Text) :
    Text.trim (row.fill (Text.trim text)) = Text.trim (row.fill text) := by
  obtain ⟨before, after, hbefore, hafter, htext⟩ := Text.exists_eq_append_trim text
  have hfill : row.fill text = before ++ (row.fill (Text.trim text) ++ after) := by
    conv_lhs => rw [htext, List.append_assoc]
    rw [fill_append fun _ => not_straddles_spaces_left hbefore _,
      fill_append fun _ => not_straddles_spaces_right hafter _,
      fill_of_tags_eq_nil (tags_spaces hbefore), fill_of_tags_eq_nil (tags_spaces hafter)]
  rw [hfill, Text.trim_spaces_append hbefore, Text.trim_append_spaces hafter]

end Row

/-- Where all tags are tags of a loop's rows, a row fills in all of the loop's body. -/
theorem expandRow_eq_fill {loop : Loop} (h : ∀ tag ∈ tags loop.body, tag.dataSet = loop.element)
    (row : Row) : expandRow loop row = row.fill loop.body := by
  rw [expandRow_eq_flatMap_atoms, Row.fill]
  refine List.flatMap_congr fun atom hatom => ?_
  cases atom with
  | char c => rfl
  | tag found => exact if_pos (h found ((reads_atoms loop.body).mem_tags_iff.2 hatom))

/-! ### Datasets that have the same rows each time -/

variable {σ : Type} {catalog : Catalog} {engine : Engine σ} {call : Call} {rows : List Row}
  {state : σ}

/-- The state that the engine is in after it has answered a call. -/
def Engine.next (engine : Engine σ) (call : Call) (state : σ) : σ :=
  (engine.execute call.source call.invocation state).2

/-- From a state on, an engine **repeats** rows if it answers with them each time that a call is
made, however often it has been made before. -/
def Engine.Repeats (engine : Engine σ) (call : Call) (rows : List Row) (state : σ) : Prop :=
  ∀ count, (engine.execute call.source call.invocation ((engine.next call)^[count] state)).1 =
    .ok rows

namespace Engine.Repeats

/-- Rows that are repeated are repeated after the first time as well. -/
theorem next (h : engine.Repeats call rows state) :
    engine.Repeats call rows (engine.next call state) :=
  fun count => h (count + 1)

/-- A name that leads to the call is looked up to the rows. -/
theorem run_fetch (h : engine.Repeats call rows state) {name : Text}
    (hcall : call? catalog name = some call) :
    (fetch catalog engine name).run state = ⟨some rows, engine.next call state, [call], []⟩ := by
  have hanswer : (engine.execute call.source call.invocation state).1 = .ok rows := h 0
  rw [(LooksUp.of_call? hcall state).run_fetch, hanswer]
  rfl

/-- A tag of such a name is filled in from the first row. -/
theorem run_resolveTag {row : Row} (h : engine.Repeats call (row :: rows) state) {tag : Tag}
    (hcall : call? catalog tag.dataSet = some call) :
    (resolveTag catalog engine tag).run state =
      ⟨row.fillAtom (.tag tag), engine.next call state, [call], []⟩ := by
  simp only [resolveTag, Resolution.run_bind, h.run_fetch hcall]
  rfl

/-- Atoms are filled in from the first row, and each tag among them asks for it. -/
theorem run_resolveAtoms {row : Row} (h : engine.Repeats call (row :: rows) state)
    {found : List Atom} (hcall : ∀ tag, .tag tag ∈ found → call? catalog tag.dataSet = some call) :
    (resolveAtoms catalog engine found).run state =
      ⟨found.flatMap row.fillAtom, (engine.next call)^[(found.filterMap Atom.tag?).length] state,
        List.replicate (found.filterMap Atom.tag?).length call, []⟩ := by
  induction found generalizing state with
  | nil => rfl
  | cons atom rest ih =>
    have hrest : ∀ tag, .tag tag ∈ rest → call? catalog tag.dataSet = some call :=
      fun tag hmem => hcall tag (List.mem_cons_of_mem _ hmem)
    cases atom with
    | char c =>
      simp only [resolveAtoms, Resolution.run_bind, Resolution.run_pure, ih h hrest]
      simp [Row.fillAtom, Atom.tag?, List.filterMap_cons]
    | tag found =>
      simp only [resolveAtoms, Resolution.run_bind, Resolution.run_pure,
        h.run_resolveTag (hcall found List.mem_cons_self), ih h.next hrest]
      simp [Atom.tag?, List.replicate_succ]

/-- **Tags of a dataset that has the same rows each time** are filled in from its first row, and
each of them asks for it. -/
theorem run_resolveText {row : Row} (h : engine.Repeats call (row :: rows) state) {text : Text}
    (hcall : ∀ tag ∈ tags text, call? catalog tag.dataSet = some call) :
    (resolveText catalog engine text).run state =
      ⟨row.fill text, (engine.next call)^[(tags text).length] state,
        List.replicate (tags text).length call, []⟩ := by
  rw [BoundReport.run_resolveText, h.run_resolveAtoms fun tag hmem =>
    hcall tag ((reads_atoms text).mem_tags_iff.2 hmem), tags_eq_filterMap_atoms, Row.fill]

end Engine.Repeats

/-! ### A loop over a single row -/

/-- A line with a tag ends no loop. -/
theorem classify_ne_loopEnd {line : Text} (h : tags line ≠ []) : classify line ≠ .loopEnd :=
  fun hend => h (isInert_iff_classify.2 (.inr hend)).tags

/-- A line that has the form of a loop start is one. -/
theorem classify_of_loopStart? {line : Text} {header : LoopHeader}
    (h : loopStart? (lex line) = some header) : classify line = .loopStart header := by
  have hstart : (StatementForm.loopStart.read? line).isSome := by
    rw [StatementForm.read?, h]
    rfl
  have hnone (kind : DeclarationKind) : declaration? kind.keyword (lex line) = none := by
    rw [Option.eq_none_iff_forall_ne_some]
    intro definition hdefinition
    have hdeclaration : ((StatementForm.declaration kind).read? line).isSome := by
      rw [StatementForm.read?, hdefinition]
      rfl
    cases StatementForm.eq_of_isSome_read? hstart hdeclaration
  simp only [classify, hnone, h]

/-- The start of a loop as it is written, with one space wherever there has to be one. -/
def writeLoopStart (header : LoopHeader) : Text :=
  "\x7b% for " ++ header.element ++ " in " ++ header.collection ++ " %\x7d"

/-- A written loop start is read as itself. -/
theorem classify_writeLoopStart {header : LoopHeader} (helement : IsWord header.element)
    (hcollection : IsWord header.collection) :
    classify (writeLoopStart header) = .loopStart header := by
  refine classify_of_loopStart? (loopStart?_eq_some_iff.2 ⟨helement, hcollection, ?_⟩)
  have hspace : IsSpaces [' '] := by decide
  have hwritten (first second : Text) : "\x7b% for ".toList ++ first ++ " in ".toList ++ second ++
      " %\x7d".toList = "\x7b%".toList ++ ([' '] ++ ("for".toList ++ ([' '] ++ (first ++
        ([' '] ++ ("in".toList ++ ([' '] ++ (second ++ ([' '] ++ "%\x7d".toList))))))))) := by
    simp
  have hline : writeLoopStart header = _ := hwritten header.element header.collection
  refine ⟨[], writeLoopStart header, [], List.forall_mem_nil _, List.forall_mem_nil _, ?_,
    (List.append_nil _).symm⟩
  rw [hline]
  exact .cons hspace (.cons hspace (.cons hspace (.cons hspace (.cons hspace .one))))

/-- A loop over the dataset `name` as it is written, with one line as its body. Its rows have the
name of the dataset. -/
def writeLoop (name line : Text) : Document :=
  [.text (writeLoopStart ⟨name, name⟩), .text line, .text "\x7b% endfor %\x7d"]

/-- A written loop is taken out with its line, trimmed, as its body. -/
theorem extractLoops_writeLoop {name line : Text} (hname : IsWord name)
    (hline : classify line ≠ .loopEnd) :
    extractLoops (writeLoop name line) = ⟨[.placeholder ⟨0⟩],
      ⟨[⟨⟨0⟩, writeLoopStart ⟨name, name⟩, name, name, Text.trim line⟩], none⟩⟩ := by
  have hstart : classify (writeLoopStart ⟨name, name⟩) = .loopStart ⟨name, name⟩ :=
    classify_writeLoopStart hname hname
  have hstop : classify "\x7b% endfor %\x7d" = .loopEnd := by decide +kernel
  have hbody : ∀ text ∈ [line], classify text ≠ .loopEnd := by simpa using hline
  have hscan : extractLoops (writeLoop name line) = _ :=
    scan_eq_of_decomposes (.closed hstart hbody hstop .nil) 0
  rw [hscan]
  simp [documentOf, loopsOf, openLoopOf, Section.isOpen]

/-- **A loop over a single row leaves the line that its body would leave on its own.** If all tags
of a line are tags of one dataset, and the dataset is looked up to the same row each time, it does
not matter whether the line stands in a loop over the dataset whose rows have the dataset's name, or
outside of loops. The loop asks for the row once, and without it each tag does. -/
theorem resolveLoops_singleRow {name line : Text} {row : Row} (hname : IsWord name)
    (hcall : call? catalog name = some call) (hrepeats : engine.Repeats call [row] state)
    (hne : tags line ≠ []) (htags : ∀ tag ∈ tags line, tag.dataSet = name) :
    let extraction := extractLoops (writeLoop name line)
    let inLoop := (resolveLoops catalog engine extraction.table extraction.document).run state
    let alone := (resolveTags catalog engine [.text line]).run state
    inLoop.value = alone.value ∧ alone.value = [.text (Text.trim (row.fill line))] ∧
      inLoop.calls = [call] ∧ alone.calls = List.replicate (tags line).length call ∧
      inLoop.warnings = [] ∧ alone.warnings = [] := by
  intro extraction inLoop alone
  have hextraction : extraction = ⟨[.placeholder ⟨0⟩],
      ⟨[⟨⟨0⟩, writeLoopStart ⟨name, name⟩, name, name, Text.trim line⟩], none⟩⟩ :=
    extractLoops_writeLoop hname (classify_ne_loopEnd hne)
  have hbody : ∀ tag ∈ tags (Text.trim line), tag.dataSet = name := by rwa [tags_trim]
  have hinLoop : inLoop =
      ⟨[.text (Text.trim (row.fill line))], engine.next call state, [call], []⟩ := by
    have hexpand : expandRow ⟨⟨0⟩, writeLoopStart ⟨name, name⟩, name, name, Text.trim line⟩ row =
        row.fill (Text.trim line) := expandRow_eq_fill hbody row
    simp only [inLoop, hextraction, resolveLoops, resolveLoopLine, resolveLoop, LoopTable.get?]
    simp [hrepeats.run_fetch hcall, hexpand, row.trim_fill_trim]
  have halone : alone =
      ⟨[.text (Text.trim (row.fill line))], (engine.next call)^[(tags line).length] state,
        List.replicate (tags line).length call, []⟩ := by
    have hrun := hrepeats.run_resolveText fun tag htag => (htags tag htag).symm ▸ hcall
    rw [resolveText] at hrun
    simp [alone, resolveTags, resolveTagLine, hne, hrun]
  rw [hinLoop, halone]
  exact ⟨rfl, rfl, rfl, rfl, rfl, rfl⟩

/-- The call of the only dataset of `soleCatalog`. -/
def soleCall : Call := ⟨⟨"p", "s", "b", "u", "w"⟩, .storedProcedure "sp_r" []⟩

/-- A row with spaces at both ends of its only cell. -/
def paddedRow : Row := ⟨[("x", .string " 1 ")]⟩

/-- An engine that counts its questions and has `paddedRow` for all of them. -/
def paddedEngine : Engine Nat := ⟨fun _ _ count => (.ok [paddedRow], count + 1)⟩

/-- A line with spaces around it, a brace too many, and a tag whose field the row does not have. -/
def paddedLine : Text := "\t\x7b\x7b\x7b R.X \x7d\x7d\x7b\x7b R.y \x7d\x7d \x7b\x7b R.x \x7d\x7d "

/-- Spaces of the line and of the cell at the ends of the result go, and no others. -/
theorem resolveLoops_singleRow_padded :
    IsWord "R" ∧ call? soleCatalog "R" = some soleCall ∧
      paddedEngine.Repeats soleCall [paddedRow] 0 ∧ tags paddedLine ≠ [] ∧
      (∀ tag ∈ tags paddedLine, tag.dataSet = "R".toList) ∧
      let extraction := extractLoops (writeLoop "R" paddedLine)
      let inLoop :=
        (resolveLoops soleCatalog paddedEngine extraction.table extraction.document).run 0
      let alone := (resolveTags soleCatalog paddedEngine [.text paddedLine]).run 0
      inLoop.value = alone.value ∧ alone.value = [.text "\x7b 1 \x7b\x7b R.y \x7d\x7d  1"] ∧
        inLoop.calls = [soleCall] ∧ alone.calls = [soleCall, soleCall, soleCall] := by
  have hname : IsWord "R" := by decide +kernel
  have hcall : call? soleCatalog "R" = some soleCall := rfl
  have hrepeats : paddedEngine.Repeats soleCall [paddedRow] 0 := fun _ => rfl
  have hne : tags paddedLine ≠ [] := by decide +kernel
  have htags : ∀ tag ∈ tags paddedLine, tag.dataSet = "R".toList := by decide +kernel
  have hfill : Text.trim (paddedRow.fill paddedLine) = "\x7b 1 \x7b\x7b R.y \x7d\x7d  1" := by
    decide +kernel
  have hcount : (tags paddedLine).length = 3 := by decide +kernel
  obtain ⟨hsame, halone, hloopCalls, hcalls, -⟩ :=
    resolveLoops_singleRow hname hcall hrepeats hne htags
  rw [hfill] at halone
  rw [hcount] at hcalls
  exact ⟨hname, hcall, hrepeats, hne, htags, hsame, halone, hloopCalls, hcalls⟩

end BoundReport
