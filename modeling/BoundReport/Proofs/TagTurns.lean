import Mathlib.Data.List.Forall2
import BoundReport.Proofs.Turns

/-!
# The Turns of Tags

When tags are filled in, each line of the document has its turn and leaves one line. A placeholder
and a line without tags stay. In a line with tags each character and each tag of the line as it was
written has a turn of its own, so a tag that is written twice asks twice, and what a tag becomes is
not read again.

## Main results

* `tagTurn_resolveTagLine`: filling in one line is its turn.
* `resolveTags_turns`: filling in tags is a turn of each line, in order.
-/

namespace BoundReport

variable {σ : Type} {catalog : Catalog} {engine : Engine σ}

/-! ### One line -/

/-- The **turn of a line** when tags are filled in. A line with a tag is filled in atom by atom and
trimmed. All else stays. -/
inductive TagTurn (catalog : Catalog) (engine : Engine σ) :
    Line → σ → List Line → List Call → σ → Prop
  | placeholder {id : LoopId} {state : σ} :
      TagTurn catalog engine (.placeholder id) state [.placeholder id] [] state
  | plain {content : Text} {found : List Atom} {state : σ} (hreads : Reads content found)
      (hnone : ∀ tag, .tag tag ∉ found) :
      TagTurn catalog engine (.text content) state [.text content] [] state
  | filled {content filled : Text} {found : List Atom} {tag : Tag} {state after : σ}
      {calls : List Call} (hreads : Reads content found) (hmem : .tag tag ∈ found)
      (hatoms : Turns (AtomTurn catalog engine) found state filled calls after) :
      TagTurn catalog engine (.text content) state [.text (Text.trim filled)] calls after

theorem isDefinite_tagTurn : IsDefinite (TagTurn catalog engine) := by
  intro line state left₁ left₂ calls₁ calls₂ after₁ after₂ h₁ h₂
  cases h₁ with
  | placeholder =>
    cases h₂
    exact ⟨rfl, rfl, rfl⟩
  | plain hreads hnone =>
    cases h₂ with
    | plain => exact ⟨rfl, rfl, rfl⟩
    | filled hreads' hmem' =>
      obtain rfl := (reads_iff.1 hreads).symm.trans (reads_iff.1 hreads')
      exact absurd hmem' (hnone _)
  | filled hreads hmem hatoms =>
    cases h₂ with
    | plain hreads' hnone' =>
      obtain rfl := (reads_iff.1 hreads).symm.trans (reads_iff.1 hreads')
      exact absurd hmem (hnone' _)
    | filled hreads' _ hatoms' =>
      obtain rfl := (reads_iff.1 hreads).symm.trans (reads_iff.1 hreads')
      obtain ⟨rfl, rfl, rfl⟩ := isDefinite_atomTurn.turns hatoms hatoms'
      exact ⟨rfl, rfl, rfl⟩

/-- **Filling in the tags of one line** is the line's turn. -/
theorem tagTurn_resolveTagLine (line : Line) (state : σ) :
    TagTurn catalog engine line state [((resolveTagLine catalog engine line).run state).value]
      ((resolveTagLine catalog engine line).run state).calls
      ((resolveTagLine catalog engine line).run state).state := by
  cases line with
  | placeholder id => exact .placeholder
  | text content =>
    have hreads := reads_atoms content
    rw [resolveTagLine]
    split
    · rename_i hnil
      refine .plain hreads fun tag hmem => ?_
      rw [← hreads.mem_tags_iff, hnil] at hmem
      cases hmem
    · rename_i hne
      obtain ⟨tag, hmem⟩ := List.exists_mem_of_ne_nil _ hne
      have hatoms : Turns (AtomTurn catalog engine) (atoms content) state _ _ _ :=
        turns_resolveAtoms (atoms content) state
      rw [← run_resolveText, resolveText] at hatoms
      simp only [Resolution.run_bind, Resolution.run_pure, List.append_nil]
      exact .filled hreads (hreads.mem_tags_iff.1 hmem) hatoms

/-- Filling in tags is a turn of each line, in order. -/
theorem turns_resolveTags (document : Document) (state : σ) :
    Turns (TagTurn catalog engine) document state
      ((resolveTags catalog engine document).run state).value
      ((resolveTags catalog engine document).run state).calls
      ((resolveTags catalog engine document).run state).state := by
  induction document generalizing state with
  | nil => exact .nil
  | cons line rest ih =>
    simp only [resolveTags, Resolution.run_bind, Resolution.run_pure, List.append_nil]
    exact .cons (tagTurn_resolveTagLine line state) (ih _)

/-! ### What turns leave -/

/-- A line of a document and the line in its place **correspond** if both are text or both are the
same placeholder, and if a line without tags stays as it is. -/
def Line.CorrespondsTo (line left : Line) : Prop :=
  left.placeholder? = line.placeholder? ∧ (lineTags line = [] → left = line)

/-- The turn of a line leaves one line, and that corresponds to it. -/
theorem TagTurn.exists_correspondsTo {line : Line} {state after : σ} {left : List Line}
    {calls : List Call} (h : TagTurn catalog engine line state left calls after) :
    ∃ one, left = [one] ∧ line.CorrespondsTo one := by
  cases h with
  | placeholder => exact ⟨_, rfl, rfl, fun _ => rfl⟩
  | plain => exact ⟨_, rfl, rfl, fun _ => rfl⟩
  | filled hreads hmem =>
    refine ⟨_, rfl, rfl, fun hnil => ?_⟩
    rw [← hreads.mem_tags_iff, show tags _ = [] from hnil] at hmem
    cases hmem

/-- The turns of lines leave as many lines, and each corresponds to the one in its place. -/
theorem Turns.forall₂_correspondsTo {document left : Document} {state after : σ}
    {calls : List Call} (h : Turns (TagTurn catalog engine) document state left calls after) :
    List.Forall₂ Line.CorrespondsTo document left := by
  induction h with
  | nil => exact .nil
  | cons hfirst _ ih =>
    obtain ⟨one, rfl, hone⟩ := hfirst.exists_correspondsTo
    exact .cons hone ih

/-- **Filling in tags is a turn of each line, in order**, and the turns have no other outcome. It
leaves one line in the place of each: a placeholder for the same placeholder, text for text, and the
line itself if it has no tag. Each occurrence of a tag makes at most one call, and the calls are
made line by line and from left to right. -/
theorem resolveTags_turns (catalog : Catalog) (engine : Engine σ) (document : Document)
    (state : σ) :
    let outcome := (resolveTags catalog engine document).run state
    (∀ left calls after, Turns (TagTurn catalog engine) document state left calls after ↔
        left = outcome.value ∧ calls = outcome.calls ∧ after = outcome.state) ∧
      List.Forall₂ Line.CorrespondsTo document outcome.value ∧
      outcome.calls = (document.flatMap lineTags).filterMap (tagCall? catalog) := by
  intro outcome
  have hturns : Turns (TagTurn catalog engine) document state outcome.value outcome.calls
      outcome.state := turns_resolveTags document state
  exact ⟨fun left calls after => isDefinite_tagTurn.turns.iff_of_outcome hturns,
    hturns.forall₂_correspondsTo, calls_resolveTags document state⟩

-- an engine that counts its calls gives two numbers to one tag that is written twice
example :
    let engine : Engine Nat := ⟨fun _ _ n => (.ok [⟨[("n", .string (Text.ofNat n))]⟩], n + 1)⟩
    let catalog : Catalog := ⟨⟨[⟨"s", "h", "b", "u", "p"⟩], .cons (by simp) .nil⟩,
      ⟨[⟨"s", .storedProcedure, "d", "o", []⟩], .cons (by simp) .nil⟩⟩
    let line : Text := " \x7b\x7b d.n \x7d\x7d, \x7b\x7b d.n \x7d\x7d"
    ((resolveTags catalog engine [.text line]).run 1).value = [.text "1, 2"] := by
  decide +kernel

end BoundReport
