import BoundReport.Resolution

/-!
# Two Ways of Filling In

Filling in a document asks the engine in one place only, where a dataset is fetched by its name.
All else is warnings, and one computation behind another. So what is to be shown of two ways of
filling in a document, with two catalogs or two engines, has to be shown of their fetches alone.

## Main results

* `Congruence.process`: what relates all fetches relates the filling in of every document.
-/

namespace BoundReport

/-- A relation between computations is a **congruence** if it relates equal results and equal
warnings, and if a computation behind a related one is related as long as it is for every result
of the first. -/
structure Congruence {σ τ : Type} (R : ∀ α : Type, Resolution σ α → Resolution τ α → Prop) :
    Prop where
  pure : ∀ {α : Type} (value : α), R α (pure value) (pure value)
  warn : ∀ warning : Warning, R Unit (Resolution.warn warning) (Resolution.warn warning)
  bind : ∀ {α β : Type} {first₁ : Resolution σ α} {first₂ : Resolution τ α}
    {next₁ : α → Resolution σ β} {next₂ : α → Resolution τ β}, R α first₁ first₂ →
    (∀ value, R β (next₁ value) (next₂ value)) → R β (first₁ >>= next₁) (first₂ >>= next₂)

namespace Congruence

variable {σ τ : Type} {R : ∀ α : Type, Resolution σ α → Resolution τ α → Prop}
  {catalog₁ catalog₂ : Catalog} {engine₁ : Engine σ} {engine₂ : Engine τ}

theorem extractWithWarning (h : Congruence R) (document : Document) :
    R Extraction (extractWithWarning document) (extractWithWarning document) := by
  rw [BoundReport.extractWithWarning, BoundReport.extractWithWarning]
  split
  · exact h.bind (h.warn _) fun _ => h.pure _
  · exact h.pure _

section

variable (h : Congruence R)
  (hfetch : ∀ name, R _ (fetch catalog₁ engine₁ name) (fetch catalog₂ engine₂ name))

include h hfetch

theorem resolveLoop (loop : Loop) :
    R _ (resolveLoop catalog₁ engine₁ loop) (resolveLoop catalog₂ engine₂ loop) := by
  refine h.bind (hfetch loop.dataSet) fun rows => ?_
  match rows with
  | none => exact h.bind (h.warn _) fun _ => h.pure _
  | some [] => exact h.pure _
  | some (_ :: _) => exact h.pure _

theorem resolveLoopLine (table : LoopTable) (line : Line) :
    R _ (resolveLoopLine catalog₁ engine₁ table line)
      (resolveLoopLine catalog₂ engine₂ table line) := by
  cases line with
  | text content => exact h.pure _
  | placeholder id =>
    rw [BoundReport.resolveLoopLine, BoundReport.resolveLoopLine]
    cases table.get? id with
    | none => exact h.pure _
    | some loop => exact h.resolveLoop hfetch loop

theorem resolveLoops (table : LoopTable) (document : Document) :
    R _ (resolveLoops catalog₁ engine₁ table document)
      (resolveLoops catalog₂ engine₂ table document) := by
  induction document with
  | nil => exact h.pure _
  | cons line rest ih =>
    exact h.bind (h.resolveLoopLine hfetch table line) fun _ => h.bind ih fun _ => h.pure _

theorem resolveTag (tag : Tag) :
    R _ (resolveTag catalog₁ engine₁ tag) (resolveTag catalog₂ engine₂ tag) := by
  refine h.bind (hfetch tag.dataSet) fun rows => ?_
  cases rows with
  | none => exact h.bind (h.warn _) fun _ => h.pure _
  | some rows => exact h.pure _

theorem resolveFragments (found : List Fragment) :
    R _ (resolveFragments catalog₁ engine₁ found) (resolveFragments catalog₂ engine₂ found) := by
  induction found with
  | nil => exact h.pure _
  | cons fragment rest ih =>
    cases fragment with
    | literal text => exact h.bind ih fun _ => h.pure _
    | tag tag => exact h.bind (h.resolveTag hfetch tag) fun _ => h.bind ih fun _ => h.pure _

theorem resolveTagLine (line : Line) :
    R _ (resolveTagLine catalog₁ engine₁ line) (resolveTagLine catalog₂ engine₂ line) := by
  cases line with
  | placeholder id => exact h.pure _
  | text content =>
    rw [BoundReport.resolveTagLine, BoundReport.resolveTagLine]
    split
    · exact h.pure _
    · exact h.bind (h.resolveFragments hfetch _) fun _ => h.pure _

theorem resolveTags (document : Document) :
    R _ (resolveTags catalog₁ engine₁ document) (resolveTags catalog₂ engine₂ document) := by
  induction document with
  | nil => exact h.pure _
  | cons line rest ih =>
    exact h.bind (h.resolveTagLine hfetch line) fun _ => h.bind ih fun _ => h.pure _

/-- **What relates all fetches relates the filling in of every document.** -/
theorem process (document : Document) :
    R _ (process catalog₁ engine₁ document) (process catalog₂ engine₂ document) :=
  h.bind (h.extractWithWarning document) fun _ =>
    h.bind (h.resolveLoops hfetch _ _) fun _ => h.resolveTags hfetch _

end

end Congruence

end BoundReport
