import BoundReport.Proofs.Turns

/-!
# The Turns of Loops

When loops are filled in, each line of the document has its turn. A line of text stays. The
placeholder of a loop asks for the rows of the loop's dataset, and if there are any it becomes one
line: the body once for each row, with the tags of the loop's rows replaced. Any other placeholder
leaves nothing.

## Main results

* `expandRow_eq_flatMap_atoms`: a row fills in the body atom by atom.
* `loopTurn_resolveLoopLine`: filling in the loop of one line is its turn.
* `resolveLoops_turns`: filling in loops is a turn of each line, in order.
-/

namespace BoundReport

/-! ### Rows -/

/-- What an atom of a loop's body becomes for a row. A tag that is named like the loop's rows
becomes the row's field, or stays as written if the row has no such column. All else stays. -/
def fillAtom (loop : Loop) (row : Row) : Atom → Text
  | .char c => [c]
  | .tag found =>
    if found.dataSet = loop.element then (row.text? found.field).getD found.raw else found.raw

/-- **A row fills in the body of a loop atom by atom.** -/
theorem expandRow_eq_flatMap_atoms (loop : Loop) (row : Row) :
    expandRow loop row = (atoms loop.body).flatMap (fillAtom loop row) := by
  have hatoms : atoms loop.body = (fragments loop.body).flatMap Atom.ofFragment := rfl
  rw [hatoms, List.flatMap_assoc, expandRow]
  congr 1
  funext fragment
  cases fragment with
  | literal text =>
    rw [Atom.ofFragment, List.flatMap_map]
    exact (List.flatMap_singleton' text).symm
  | tag found => simp [Atom.ofFragment, fillAtom]

/-! ### One line -/

variable {σ : Type} {catalog : Catalog} {engine : Engine σ} {table : LoopTable}

/-- The **turn of a line** when loops are filled in. Text stays. A placeholder leaves nothing if its
loop is unknown or if the dataset of the loop yields no rows. Otherwise it leaves one line, and that
is the body of the loop for each row in order, trimmed. -/
inductive LoopTurn (catalog : Catalog) (engine : Engine σ) (table : LoopTable) :
    Line → σ → List Line → List Call → σ → Prop
  | text {content : Text} {state : σ} :
      LoopTurn catalog engine table (.text content) state [.text content] [] state
  | unknown {id : LoopId} {state : σ} (hloop : table.get? id = none) :
      LoopTurn catalog engine table (.placeholder id) state [] [] state
  | empty {id : LoopId} {loop : Loop} {state after : σ} {calls : List Call}
      (hloop : table.get? id = some loop)
      (hyields : Yields catalog engine loop.dataSet state [] calls after) :
      LoopTurn catalog engine table (.placeholder id) state [] calls after
  | filled {id : LoopId} {loop : Loop} {state after : σ} {rows : List Row} {calls : List Call}
      {body : List Atom} (hloop : table.get? id = some loop)
      (hyields : Yields catalog engine loop.dataSet state rows calls after) (hne : rows ≠ [])
      (hbody : Reads loop.body body) :
      LoopTurn catalog engine table (.placeholder id) state
        [.text (Text.trim (rows.flatMap fun row => body.flatMap (fillAtom loop row)))] calls after

theorem isDefinite_loopTurn : IsDefinite (LoopTurn catalog engine table) := by
  intro line state left₁ left₂ calls₁ calls₂ after₁ after₂ h₁ h₂
  cases h₁ with
  | text =>
    cases h₂
    exact ⟨rfl, rfl, rfl⟩
  | unknown hloop =>
    cases h₂ with
    | unknown => exact ⟨rfl, rfl, rfl⟩
    | empty hloop' => simp [hloop] at hloop'
    | filled hloop' => simp [hloop] at hloop'
  | empty hloop hyields =>
    cases h₂ with
    | unknown hloop' => simp [hloop'] at hloop
    | empty hloop' hyields' =>
      obtain rfl := Option.some.inj (hloop.symm.trans hloop')
      obtain ⟨-, rfl, rfl⟩ := isDefinite_yields hyields hyields'
      exact ⟨rfl, rfl, rfl⟩
    | filled hloop' hyields' hne =>
      obtain rfl := Option.some.inj (hloop.symm.trans hloop')
      exact absurd (isDefinite_yields hyields hyields').1.symm hne
  | filled hloop hyields hne hbody =>
    cases h₂ with
    | unknown hloop' => simp [hloop'] at hloop
    | empty hloop' hyields' =>
      obtain rfl := Option.some.inj (hloop.symm.trans hloop')
      exact absurd (isDefinite_yields hyields hyields').1 hne
    | filled hloop' hyields' _ hbody' =>
      obtain rfl := Option.some.inj (hloop.symm.trans hloop')
      obtain ⟨rfl, rfl, rfl⟩ := isDefinite_yields hyields hyields'
      obtain rfl := (reads_iff.1 hbody).symm.trans (reads_iff.1 hbody')
      exact ⟨rfl, rfl, rfl⟩

/-- **Filling in the loop of one line** is the line's turn. -/
theorem loopTurn_resolveLoopLine (line : Line) (state : σ) :
    LoopTurn catalog engine table line state
      ((resolveLoopLine catalog engine table line).run state).value.toList
      ((resolveLoopLine catalog engine table line).run state).calls
      ((resolveLoopLine catalog engine table line).run state).state := by
  cases line with
  | text content => exact .text
  | placeholder id =>
    rw [resolveLoopLine]
    cases hloop : table.get? id with
    | none => exact .unknown hloop
    | some loop =>
      have hyields := yields_fetch catalog engine loop.dataSet state
      simp only [resolveLoop, Resolution.run_bind]
      cases hrows : ((fetch catalog engine loop.dataSet).run state).value with
      | none =>
        rw [hrows] at hyields
        simpa using LoopTurn.empty hloop hyields
      | some rows =>
        rw [hrows] at hyields
        cases rows with
        | nil => simpa using LoopTurn.empty hloop hyields
        | cons row rows =>
          have hfilled := LoopTurn.filled hloop hyields (List.cons_ne_nil row rows)
            (reads_atoms loop.body)
          simp only [← expandRow_eq_flatMap_atoms] at hfilled
          simpa using hfilled

/-- Filling in loops is a turn of each line, in order. -/
theorem turns_resolveLoops (document : Document) (state : σ) :
    Turns (LoopTurn catalog engine table) document state
      ((resolveLoops catalog engine table document).run state).value
      ((resolveLoops catalog engine table document).run state).calls
      ((resolveLoops catalog engine table document).run state).state := by
  induction document generalizing state with
  | nil => exact .nil
  | cons line rest ih =>
    simp only [resolveLoops, Resolution.run_bind, Resolution.run_pure, List.append_nil]
    exact .cons (loopTurn_resolveLoopLine line state) (ih _)

/-! ### What turns leave -/

namespace LoopTurn

variable {line : Line} {state after : σ} {left : List Line} {calls : List Call}

/-- No turn leaves a placeholder. -/
theorem placeholders_eq_nil (h : LoopTurn catalog engine table line state left calls after) :
    Document.placeholders left = [] := by
  cases h <;> rfl

/-- A line of text is left as it is. -/
theorem sublist_text (h : LoopTurn catalog engine table line state left calls after) :
    line.text?.toList.Sublist (left.filterMap Line.text?) := by
  cases h <;> simp [Line.text?]

end LoopTurn

theorem Turns.placeholders_eq_nil {document left : Document} {state after : σ} {calls : List Call}
    (h : Turns (LoopTurn catalog engine table) document state left calls after) :
    left.placeholders = [] := by
  induction h with
  | nil => rfl
  | cons hfirst _ ih =>
    rw [Document.placeholders, List.filterMap_append]
    exact List.append_eq_nil_iff.2 ⟨hfirst.placeholders_eq_nil, ih⟩

/-- The lines of text are left, in order. -/
theorem Turns.sublist_text {document left : Document} {state after : σ} {calls : List Call}
    (h : Turns (LoopTurn catalog engine table) document state left calls after) :
    (document.filterMap Line.text?).Sublist (left.filterMap Line.text?) := by
  induction h with
  | nil => exact List.Sublist.refl _
  | @cons line rest _ _ _ _ _ _ _ hfirst _ ih =>
    have hline : (line :: rest).filterMap Line.text? =
        line.text?.toList ++ rest.filterMap Line.text? := by
      rw [List.filterMap_cons]
      cases line.text? <;> rfl
    rw [hline, List.filterMap_append]
    exact hfirst.sublist_text.append ih

/-- The call that the placeholder of a loop makes, if it makes one. -/
def placeholderCall? (catalog : Catalog) (table : LoopTable) (id : LoopId) : Option Call :=
  (table.get? id).bind fun loop => call? catalog loop.dataSet

/-- **Filling in loops is a turn of each line, in order**, and the turns have no other outcome. No
placeholder is left. The lines of text are, unchanged and in order. Each placeholder makes at most
one call, and the calls are made in the order of the placeholders. -/
theorem resolveLoops_turns (catalog : Catalog) (engine : Engine σ) (table : LoopTable)
    (document : Document) (state : σ) :
    let outcome := (resolveLoops catalog engine table document).run state
    (∀ left calls after, Turns (LoopTurn catalog engine table) document state left calls after ↔
        left = outcome.value ∧ calls = outcome.calls ∧ after = outcome.state) ∧
      outcome.value.placeholders = [] ∧
      (document.filterMap Line.text?).Sublist (outcome.value.filterMap Line.text?) ∧
      outcome.calls = document.placeholders.filterMap (placeholderCall? catalog table) := by
  intro outcome
  have hturns : Turns (LoopTurn catalog engine table) document state outcome.value outcome.calls
      outcome.state := turns_resolveLoops document state
  refine ⟨fun left calls after => isDefinite_loopTurn.turns.iff_of_outcome hturns,
    hturns.placeholders_eq_nil, hturns.sublist_text, ?_⟩
  have hcalls : outcome.calls = document.filterMap (loopCall? catalog table) :=
    calls_resolveLoops table document state
  have hcall (line : Line) :
      loopCall? catalog table line = line.placeholder?.bind (placeholderCall? catalog table) := by
    cases line <;> rfl
  rw [hcalls, Document.placeholders, List.filterMap_filterMap]
  simp only [hcall]

end BoundReport
