import BoundReport.Proofs.Definitions
import BoundReport.Proofs.Reading

/-!
# Written Templates

A template is written item by item, each on a line of its own: datasources and datasets as
their declarations, lines of the body as they are. Taking the written template apart gives back
the items, whatever stands in their fields: a value that looks like a marker, an attribute or
another declaration is still read as a value.

## Main results

* `parse_writeTemplate`: a written template is taken apart into its items.
-/

namespace BoundReport

/-- One line of a template. -/
inductive TemplateItem
  | declareSource (source : DataSource)
  | declareSet (dataSet : DataSet)
  | body (line : Text)

namespace TemplateItem

/-- The datasource that an item declares, if it declares one. -/
def dataSource? : TemplateItem → Option DataSource
  | .declareSource source => some source
  | _ => none

/-- The dataset that an item declares, if it declares one. -/
def dataSet? : TemplateItem → Option DataSet
  | .declareSet dataSet => some dataSet
  | _ => none

/-- The line of the body that an item is, if it is one. -/
def body? : TemplateItem → Option Text
  | .body line => some line
  | _ => none

/-- The line of an item. -/
def toText : TemplateItem → Text
  | .declareSource source => source.toText
  | .declareSet dataSet => dataSet.toText
  | .body line => line

/-- Whether an item can be written: its values can stand between quotes, and a line of the body
stands on one line and is no declaration. -/
def Writable : TemplateItem → Prop
  | .declareSource source => source.Writable
  | .declareSet dataSet => dataSet.Writable
  | .body line =>
    IsLine line ∧ ∀ kind : DeclarationKind, declaration? kind.keyword (lex line) = none

/-- An item that can be written stands on one line. -/
theorem Writable.isLine {item : TemplateItem} (h : item.Writable) : IsLine item.toText := by
  cases item with
  | declareSource source =>
    have hsource : source.Writable := h
    exact hsource.isDefinition.isLine_writeDeclaration .dataSource
  | declareSet dataSet =>
    have hset : dataSet.Writable := h
    exact hset.isDefinition.isLine_writeDeclaration .dataSet
  | body line => exact h.1

end TemplateItem

/-- The text of a template, every item on a line of its own. -/
def writeTemplate (items : List TemplateItem) : Text :=
  items.flatMap fun item => item.toText ++ ['\n']

/-- The datasources among items, in order. -/
def sourcesOf (items : List TemplateItem) : List DataSource :=
  items.filterMap TemplateItem.dataSource?

/-- The datasets among items, in order. -/
def setsOf (items : List TemplateItem) : List DataSet := items.filterMap TemplateItem.dataSet?

/-- The lines of the body among items, in order. -/
def bodyOf (items : List TemplateItem) : List Text := items.filterMap TemplateItem.body?

@[simp] theorem sourcesOf_append_singleton (items : List TemplateItem) (item : TemplateItem) :
    sourcesOf (items ++ [item]) = sourcesOf items ++ item.dataSource?.toList := by
  rw [sourcesOf, List.filterMap_append]
  cases item <;> rfl

@[simp] theorem setsOf_append_singleton (items : List TemplateItem) (item : TemplateItem) :
    setsOf (items ++ [item]) = setsOf items ++ item.dataSet?.toList := by
  rw [setsOf, List.filterMap_append]
  cases item <;> rfl

theorem sourcesOf_append_declareSource (before after : List TemplateItem) (source : DataSource) :
    sourcesOf (before ++ .declareSource source :: after) =
      sourcesOf before ++ source :: sourcesOf after := by
  rw [sourcesOf, List.filterMap_append]
  rfl

theorem setsOf_append_declareSet (before after : List TemplateItem) (dataSet : DataSet) :
    setsOf (before ++ .declareSet dataSet :: after) = setsOf before ++ dataSet :: setsOf after := by
  rw [setsOf, List.filterMap_append]
  rfl

/-- Items make a **well-formed** template if each can be written, no name is declared twice, every
dataset stands behind its datasource, and there are no more declarations than are read. -/
structure WellFormed (limits : DeclarationLimits) (items : List TemplateItem) : Prop where
  writable : ∀ item ∈ items, item.Writable
  sourceNames : ((sourcesOf items).map DataSource.name).Nodup
  setNames : ((setsOf items).map DataSet.name).Nodup
  reference : ∀ before dataSet after, items = before ++ .declareSet dataSet :: after →
    dataSet.dataSource ∈ (sourcesOf before).map DataSource.name
  sourceCount : (sourcesOf items).length ≤ limits.maxDataSources + 1
  setCount : (setsOf items).length ≤ limits.maxDataSets + 1

namespace ParsedTemplate

/-- Reading has come to the end of `items` if it has registered what they declare and counted
their declarations. -/
structure Progress.Reached (progress : Progress) (items : List TemplateItem) : Prop where
  sources : progress.catalog.dataSources.toList.Perm (sourcesOf items)
  sets : progress.catalog.dataSets.toList.Perm (setsOf items)
  sourceLines : progress.sourceLines = (sourcesOf items).length
  setLines : progress.setLines = (setsOf items).length

theorem Progress.reached_start : Progress.start.Reached [] := ⟨.nil, .nil, rfl, rfl⟩

/-- What is next among definitions with different names has a new one, and finds room. -/
theorem fresh_of_nodup {α : Type} {name : α → Text} {before after : List α} {value : α} {most : Nat}
    (hnames : ((before ++ value :: after).map name).Nodup)
    (hcount : (before ++ value :: after).length ≤ most + 1) :
    (∀ entry ∈ before, name entry ≠ name value) ∧ before.length ≤ most := by
  rw [List.map_append, List.map_cons] at hnames
  rw [List.length_append, List.length_cons] at hcount
  refine ⟨fun entry hentry => ?_, by omega⟩
  exact (List.nodup_append.1 hnames).2.2 _ (List.mem_map_of_mem hentry) _ List.mem_cons_self

variable {limits : DeclarationLimits} {progress : Progress} {done rest : List TemplateItem}

/-- A datasource is read as a declaration. -/
theorem step_dataSource {source : DataSource}
    (h : WellFormed limits (done ++ .declareSource source :: rest))
    (hdone : progress.Reached done) :
    ∃ next, step limits progress source.toText = .ok (next, none) ∧
      next.Reached (done ++ [.declareSource source]) := by
  have hwritable : source.Writable := h.writable (.declareSource source) (by simp)
  have hnames := h.sourceNames
  have hlength := h.sourceCount
  rw [sourcesOf_append_declareSource] at hnames hlength
  obtain ⟨hfresh, hroom⟩ := fresh_of_nodup hnames hlength
  have hnew : ∀ entry ∈ progress.catalog.dataSources.toList, Named.name entry ≠ source.name :=
    fun entry hentry => hfresh entry (hdone.sources.mem_iff.1 hentry)
  have hcount : progress.sourceLines ≤ limits.maxDataSources := by rwa [hdone.sourceLines]
  obtain ⟨sources, hregister, hperm⟩ := Registry.exists_register hnew
  refine ⟨_, step_eq_ok_iff.2 (.source (DataSource.declaration?_toText hwritable) hcount
    (DataSource.parse_writeAttributes hwritable) hregister), ?_, ?_, ?_, ?_⟩
  · rw [sourcesOf_append_singleton]
    exact hperm.trans ((hdone.sources.cons source).trans (List.perm_append_singleton _ _).symm)
  · simpa [TemplateItem.dataSet?] using hdone.sets
  · simpa [TemplateItem.dataSource?] using hdone.sourceLines
  · simpa [TemplateItem.dataSet?] using hdone.setLines

/-- A dataset is read as a declaration: its datasource is there already. -/
theorem step_dataSet {dataSet : DataSet}
    (h : WellFormed limits (done ++ .declareSet dataSet :: rest)) (hdone : progress.Reached done) :
    ∃ next, step limits progress dataSet.toText = .ok (next, none) ∧
      next.Reached (done ++ [.declareSet dataSet]) := by
  have hwritable : dataSet.Writable := h.writable (.declareSet dataSet) (by simp)
  obtain ⟨hnoSource, hset⟩ := DataSet.declaration?_toText hwritable
  have hnames := h.setNames
  have hlength := h.setCount
  rw [setsOf_append_declareSet] at hnames hlength
  obtain ⟨hfresh, hroom⟩ := fresh_of_nodup hnames hlength
  have hnew : ∀ entry ∈ progress.catalog.dataSets.toList, Named.name entry ≠ dataSet.name :=
    fun entry hentry => hfresh entry (hdone.sets.mem_iff.1 hentry)
  have hcount : progress.setLines ≤ limits.maxDataSets := by rwa [hdone.setLines]
  have hsource : progress.catalog.dataSources.contains dataSet.dataSource := by
    obtain ⟨source, hmem, hname⟩ := List.mem_map.1 (h.reference done dataSet rest rfl)
    exact Registry.contains_iff.2 ⟨source, hdone.sources.mem_iff.2 hmem, hname⟩
  obtain ⟨sets, hregister, hperm⟩ := Registry.exists_register hnew
  refine ⟨_, step_eq_ok_iff.2 (.set hnoSource hset hcount
    (DataSet.parse_writeAttributes hwritable) hsource hregister), ?_, ?_, ?_, ?_⟩
  · simpa [TemplateItem.dataSource?] using hdone.sources
  · rw [setsOf_append_singleton]
    exact hperm.trans ((hdone.sets.cons dataSet).trans (List.perm_append_singleton _ _).symm)
  · simpa [TemplateItem.dataSource?] using hdone.sourceLines
  · simpa [TemplateItem.dataSet?] using hdone.setLines

/-- A line of the body is left to the body. -/
theorem step_body {line : Text} (h : (TemplateItem.body line).Writable)
    (hdone : progress.Reached done) :
    ∃ next, step limits progress line = .ok (next, some line) ∧
      next.Reached (done ++ [.body line]) := by
  refine ⟨_, step_eq_ok_iff.2 (.body (h.2 .dataSource) (h.2 .dataSet)), ?_, ?_, ?_, ?_⟩
  · simpa [TemplateItem.dataSource?] using hdone.sources
  · simpa [TemplateItem.dataSet?] using hdone.sets
  · simpa [TemplateItem.dataSource?] using hdone.sourceLines
  · simpa [TemplateItem.dataSet?] using hdone.setLines

/-- One line of a well-formed template is read as its item. -/
theorem step_toText {item : TemplateItem} (h : WellFormed limits (done ++ item :: rest))
    (hdone : progress.Reached done) :
    ∃ next, step limits progress item.toText = .ok (next, item.body?) ∧
      next.Reached (done ++ [item]) := by
  cases item with
  | declareSource source => exact step_dataSource h hdone
  | declareSet dataSet => exact step_dataSet h hdone
  | body line => exact step_body (h.writable (.body line) (by simp)) hdone

/-- The lines behind those that have been read are read as their items. -/
theorem readLines_map_toText (h : WellFormed limits (done ++ rest))
    (hdone : progress.Reached done) :
    ∃ parsed, readLines limits progress (rest.map TemplateItem.toText) = .ok parsed ∧
      parsed.catalog.dataSources.toList.Perm (sourcesOf (done ++ rest)) ∧
      parsed.catalog.dataSets.toList.Perm (setsOf (done ++ rest)) ∧
      parsed.body = (bodyOf rest).map Line.text := by
  induction rest generalizing progress done with
  | nil =>
    rw [List.append_nil]
    exact ⟨⟨progress.catalog, []⟩, rfl, hdone.sources, hdone.sets, rfl⟩
  | cons item rest ih =>
    obtain ⟨next, hstep, hnext⟩ := step_toText h hdone
    have hassoc : done ++ [item] ++ rest = done ++ item :: rest := by simp
    obtain ⟨parsed, hread, hsources, hsets, hbody⟩ := ih (hassoc ▸ h) hnext
    rw [hassoc] at hsources hsets
    rw [List.map_cons, readLines, hstep]
    simp only [bind, Except.bind, hread]
    cases item with
    | declareSource source => exact ⟨parsed, rfl, hsources, hsets, hbody⟩
    | declareSet dataSet => exact ⟨parsed, rfl, hsources, hsets, hbody⟩
    | body line =>
      exact ⟨{ parsed with body := .text line :: parsed.body }, rfl, hsources, hsets,
        congrArg (Line.text line :: ·) hbody⟩

end ParsedTemplate

/-- **A written template is taken apart into its items**: the registries hold the datasources and
the datasets, and the body is the other lines in their order. -/
theorem parse_writeTemplate {limits : DeclarationLimits} {items : List TemplateItem}
    (h : WellFormed limits items) :
    ∃ parsed, ParsedTemplate.parse (writeTemplate items) limits = .ok parsed ∧
      parsed.catalog.dataSources.toList.Perm (sourcesOf items) ∧
      parsed.catalog.dataSets.toList.Perm (setsOf items) ∧
      parsed.body = (bodyOf items).map Line.text := by
  have hlines : splitLines (writeTemplate items) = items.map TemplateItem.toText := by
    have hline : ∀ line ∈ items.map TemplateItem.toText, IsLine line := by
      intro line hmem
      obtain ⟨item, hitem, rfl⟩ := List.mem_map.1 hmem
      exact (h.writable item hitem).isLine
    rw [← splitLines_flatMap hline, writeTemplate, List.flatMap_map]
  rw [ParsedTemplate.parse, hlines]
  have hall : WellFormed limits ([] ++ items) := h
  exact ParsedTemplate.readLines_map_toText hall ParsedTemplate.Progress.reached_start

/-- A template with values that look like a tag, an attribute and the end of a declaration. -/
def syntaxInValues : List TemplateItem :=
  [.declareSource ⟨"p", "a=b %\x7d", "\x7b\x7b D.f \x7d\x7d", "\x7b% endfor %\x7d", "name="⟩,
    .body "before the dataset",
    .declareSet ⟨"p", .storedProcedure, "D", "%\x7d \x7b% dataset", [⟨"year", .int, 4⟩]⟩]

theorem wellFormed_syntaxInValues : WellFormed {} syntaxInValues := by
  have hvalue : ∀ text ∈ (["p", "a=b %\x7d", "\x7b\x7b D.f \x7d\x7d", "\x7b% endfor %\x7d", "name=",
      "D", "%\x7d \x7b% dataset", "year"] : List Text), IsValue text := by decide
  simp only [List.forall_mem_cons] at hvalue
  obtain ⟨hp, hserver, hdatabase, huser, hpassword, hname, hobject, hyear, -⟩ := hvalue
  refine ⟨?_, by decide, by decide, ?_, by decide, by decide⟩
  · simp only [syntaxInValues, List.forall_mem_cons]
    refine ⟨⟨hp, hserver, hdatabase, huser, hpassword⟩, ⟨by decide, ?_⟩,
      ⟨hp, hname, hobject, by decide, ?_⟩, by simp⟩
    · intro kind
      cases kind <;> decide +kernel
    · simp only [List.forall_mem_cons]
      exact ⟨⟨hyear, by decide⟩, by simp⟩
  · intro before dataSet after heq
    match before, heq with
    | [_, _], heq =>
      obtain ⟨rfl, rfl, rfl, -⟩ : _ = _ ∧ _ = _ ∧ dataSet = _ ∧ _ := by
        simpa [syntaxInValues, eq_comm] using heq
      decide
    | _ :: _ :: _ :: _, heq => simp [syntaxInValues] at heq

/-- Reading a template is not led astray by values that look like its own syntax. -/
theorem parse_writeTemplate_syntaxInValues : WellFormed {} syntaxInValues ∧
    ∃ parsed, ParsedTemplate.parse (writeTemplate syntaxInValues) {} = .ok parsed ∧
      parsed.catalog.dataSources.toList.Perm (sourcesOf syntaxInValues) ∧
      parsed.catalog.dataSets.toList.Perm (setsOf syntaxInValues) ∧
      parsed.body = (bodyOf syntaxInValues).map Line.text :=
  ⟨wellFormed_syntaxInValues, parse_writeTemplate wellFormed_syntaxInValues⟩

end BoundReport
