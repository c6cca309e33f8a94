import BoundReport.Proofs.Concatenation

/-!
# Turns

Filling in goes through a list of items, the lines of a document or the atoms of a line, from the
first one to the last. Each item has its **turn**: it leaves something in its place, it may ask the
engine, and it hands the engine on to the next item in the state that its answer has left. So what
an item leaves may depend on all that has been asked before, and on nothing that comes later.

## Main results

* `Turns.append`, `Turns.of_map`: turns in a row, and turns of items that stand for others.
* `IsDefinite.turns`: if each turn has one outcome, so has a list of turns.
* `yields_fetch`: looking up a name makes the call of its dataset, and no more than that.
* `turns_resolveAtoms`: filling in a text is a turn of each of its characters and tags.
-/

namespace BoundReport

/-! ### Lists of turns -/

section

variable {α β σ : Type}

/-- Items that have their **turns** one after the other. A turn tells for an item, from a state of
the engine, what the item leaves, which calls it makes, and in which state the engine is then. -/
inductive Turns (Turn : α → σ → List β → List Call → σ → Prop) :
    List α → σ → List β → List Call → σ → Prop
  | nil {state : σ} : Turns Turn [] state [] [] state
  | cons {item : α} {rest : List α} {state between after : σ} {left others : List β}
      {calls more : List Call} (hfirst : Turn item state left calls between)
      (hrest : Turns Turn rest between others more after) :
      Turns Turn (item :: rest) state (left ++ others) (calls ++ more) after

namespace Turns

variable {γ : Type} {Turn : α → σ → List β → List Call → σ → Prop}
  {Turn' : γ → σ → List β → List Call → σ → Prop} {state between after : σ}
  {left others : List β} {calls more : List Call}

/-- One turn is that of a list of one item. -/
theorem single {item : α} (h : Turn item state left calls after) :
    Turns Turn [item] state left calls after := by
  have hturns := Turns.cons h .nil
  rwa [List.append_nil, List.append_nil] at hturns

/-- The turns of more items follow those of the first ones. -/
theorem append {first second : List α} (hfirst : Turns Turn first state left calls between)
    (hsecond : Turns Turn second between others more after) :
    Turns Turn (first ++ second) state (left ++ others) (calls ++ more) after := by
  induction hfirst with
  | nil => exact hsecond
  | cons hone _ ih =>
    rw [List.append_assoc, List.append_assoc]
    exact .cons hone (ih hsecond)

/-- Items have the turns of what stands for them. -/
theorem of_map {f : γ → α} {items : List γ}
    (h : ∀ ⦃item state left calls after⦄, Turn (f item) state left calls after →
      Turn' item state left calls after)
    (hturns : Turns Turn (items.map f) state left calls after) :
    Turns Turn' items state left calls after := by
  induction items generalizing state left calls with
  | nil =>
    cases hturns
    exact .nil
  | cons item rest ih =>
    cases hturns with
    | cons hfirst hrest => exact .cons (h hfirst) (ih hrest)

/-- What holds of all that any turn leaves, holds of all that a list of turns leaves. -/
theorem forall_mem_left {P : β → Prop} {items : List α}
    (h : ∀ ⦃item state left calls after⦄, Turn item state left calls after → ∀ one ∈ left, P one)
    (hturns : Turns Turn items state left calls after) : ∀ one ∈ left, P one := by
  induction hturns with
  | nil => simp
  | cons hfirst _ ih =>
    rw [List.forall_mem_append]
    exact ⟨h hfirst, ih⟩

end Turns

/-- A turn is **definite** if an item, from a state of the engine, has one outcome at most. -/
def IsDefinite (Turn : α → σ → List β → List Call → σ → Prop) : Prop :=
  ∀ ⦃item state left₁ left₂ calls₁ calls₂ after₁ after₂⦄, Turn item state left₁ calls₁ after₁ →
    Turn item state left₂ calls₂ after₂ → left₁ = left₂ ∧ calls₁ = calls₂ ∧ after₁ = after₂

namespace IsDefinite

variable {Turn : α → σ → List β → List Call → σ → Prop}

/-- **If each turn has one outcome, so has a list of turns.** -/
theorem turns (h : IsDefinite Turn) : IsDefinite (Turns Turn) := by
  intro items state left₁ left₂ calls₁ calls₂ after₁ after₂ h₁ h₂
  induction h₁ generalizing left₂ calls₂ after₂ with
  | nil =>
    cases h₂
    exact ⟨rfl, rfl, rfl⟩
  | cons hfirst _ ih =>
    cases h₂ with
    | cons hfirst' hrest' =>
      obtain ⟨rfl, rfl, rfl⟩ := h hfirst hfirst'
      obtain ⟨rfl, rfl, rfl⟩ := ih hrest'
      exact ⟨rfl, rfl, rfl⟩

/-- A definite turn with a known outcome has no other one. -/
theorem iff_of_outcome (h : IsDefinite Turn) {item : α} {state : σ} {outcome : Outcome σ (List β)}
    (hknown : Turn item state outcome.value outcome.calls outcome.state) {left : List β}
    {calls : List Call} {after : σ} :
    Turn item state left calls after ↔
      left = outcome.value ∧ calls = outcome.calls ∧ after = outcome.state := by
  constructor
  · exact fun hturn => h hturn hknown
  · rintro ⟨rfl, rfl, rfl⟩
    exact hknown

end IsDefinite

end

/-! ### Looking up a name -/

variable {σ : Type} {catalog : Catalog} {engine : Engine σ}

/-- The rows that a name **yields** when its turn comes. The engine is asked once if the name leads
to a call. If it does not, or if the engine fails, the name yields no rows. -/
inductive Yields (catalog : Catalog) (engine : Engine σ) (name : Text) (state : σ) :
    List Row → List Call → σ → Prop
  | unasked (hcall : call? catalog name = none) : Yields catalog engine name state [] [] state
  | failed {call : Call} {failure : QueryFailure} {after : σ}
      (hcall : call? catalog name = some call)
      (hanswer : engine.execute call.source call.invocation state = (.error failure, after)) :
      Yields catalog engine name state [] [call] after
  | answered {call : Call} {rows : List Row} {after : σ} (hcall : call? catalog name = some call)
      (hanswer : engine.execute call.source call.invocation state = (.ok rows, after)) :
      Yields catalog engine name state rows [call] after

/-- What a name yields is settled by the catalog and the engine. -/
theorem isDefinite_yields : IsDefinite (Yields catalog engine) := by
  intro name state rows₁ rows₂ calls₁ calls₂ after₁ after₂ h₁ h₂
  cases h₁ <;> cases h₂ <;> simp_all

/-- The rows that a name yields are those that come of looking it up. -/
theorem LooksUp.yields {name : Text} {state after : σ} {calls : List Call}
    {result : Option (Except QueryFailure (List Row))}
    (h : LooksUp catalog engine name state result calls after) :
    Yields catalog engine name state ((result.map answerRows).getD []) calls after := by
  have hcall := h.calls_eq
  cases h with
  | undeclared | unregistered | unsupported =>
    exact .unasked (Option.toList_eq_nil_iff.1 hcall.symm)
  | @asked _ _ _ answer _ _ _ _ hanswer =>
    have hcall := Option.toList_eq_singleton_iff.1 hcall.symm
    cases answer with
    | error failure => exact .failed hcall hanswer
    | ok rows => exact .answered hcall hanswer

/-- **Looking up a name** makes the call of its dataset, and no more than that. -/
theorem yields_fetch (catalog : Catalog) (engine : Engine σ) (name : Text) (state : σ) :
    Yields catalog engine name state (((fetch catalog engine name).run state).value.getD [])
      ((fetch catalog engine name).run state).calls
      ((fetch catalog engine name).run state).state := by
  obtain ⟨result, calls, after, hlooks⟩ := exists_looksUp catalog engine name state
  rw [hlooks.run_fetch]
  exact hlooks.yields

/-! ### The atoms of a text -/

/-- The **turn of an atom** when tags are filled in. A character stays. A tag becomes the field of
the first row that its dataset yields, or stays as written if there is no row or the row has no such
column. -/
inductive AtomTurn (catalog : Catalog) (engine : Engine σ) :
    Atom → σ → Text → List Call → σ → Prop
  | char {c : Char} {state : σ} : AtomTurn catalog engine (.char c) state [c] [] state
  | tag {tag : Tag} {state after : σ} {rows : List Row} {calls : List Call}
      (hyields : Yields catalog engine tag.dataSet state rows calls after) :
      AtomTurn catalog engine (.tag tag) state
        ((rows.head?.bind fun row => row.text? tag.field).getD tag.raw) calls after

theorem isDefinite_atomTurn : IsDefinite (AtomTurn catalog engine) := by
  intro atom state left₁ left₂ calls₁ calls₂ after₁ after₂ h₁ h₂
  cases h₁ with
  | char =>
    cases h₂
    exact ⟨rfl, rfl, rfl⟩
  | tag hyields =>
    cases h₂ with
    | tag hyields' =>
      obtain ⟨rfl, rfl, rfl⟩ := isDefinite_yields hyields hyields'
      exact ⟨rfl, rfl, rfl⟩

/-- Filling in a tag is its turn. -/
theorem atomTurn_resolveTag (tag : Tag) (state : σ) :
    AtomTurn catalog engine (.tag tag) state ((resolveTag catalog engine tag).run state).value
      ((resolveTag catalog engine tag).run state).calls
      ((resolveTag catalog engine tag).run state).state := by
  have hyields := yields_fetch catalog engine tag.dataSet state
  have hrows : (((fetch catalog engine tag.dataSet).run state).value.bind fun rows =>
      rows.head?.bind fun row => row.text? tag.field) =
      (((fetch catalog engine tag.dataSet).run state).value.getD []).head?.bind
        fun row => row.text? tag.field := by
    cases ((fetch catalog engine tag.dataSet).run state).value <;> rfl
  rw [(run_resolveTag tag state).1, (run_resolveTag tag state).2, hrows, calls_resolveTag, tagCall?,
    ← calls_fetch]
  exact .tag hyields

/-- **Filling in atoms** is a turn of each of them. -/
theorem turns_resolveAtoms (found : List Atom) (state : σ) :
    Turns (AtomTurn catalog engine) found state
      ((resolveAtoms catalog engine found).run state).value
      ((resolveAtoms catalog engine found).run state).calls
      ((resolveAtoms catalog engine found).run state).state := by
  induction found generalizing state with
  | nil => exact .nil
  | cons atom rest ih =>
    cases atom with
    | char c =>
      simp only [resolveAtoms, Resolution.run_bind, Resolution.run_pure, List.append_nil]
      exact .cons .char (ih state)
    | tag tag =>
      simp only [resolveAtoms, Resolution.run_bind, Resolution.run_pure, List.append_nil]
      exact .cons (atomTurn_resolveTag tag state) (ih _)

end BoundReport
