import BoundReport.Proofs.Blocks
import BoundReport.Proofs.Statements
import BoundReport.Proofs.Tags

/-!
# Extracted Documents

What a line is does not depend on the spaces around it. So the lines that extraction leaves behind,
trimmed as they are, are no more loop starts than they were before: they are **settled**, and
another extraction passes over them. The documents that extraction leaves as they are, are just
those of settled lines.

## Main results

* `classify_trim`: a trimmed line is the construct that it was before.
* `isSettled_of_mem_scan`: reading on leaves settled lines.
* `extractLoops_eq_self_iff`: the documents that extraction leaves as they are.
* `extractLoops_idempotent`: a second extraction finds nothing.
-/

namespace BoundReport

/-! ### Trimmed lines -/

/-- A trimmed line has the lexemes of the line without the spaces around them. -/
theorem Lexeme.trim_lex_trim (line : Text) :
    trim (lex (Text.trim line)) = trim (lex line) := by
  rw [trim_lex, trim_lex, Text.trim_trim]

/-- **A trimmed line is the construct that it was before.** -/
theorem classify_trim (line : Text) : classify (Text.trim line) = classify line := by
  have hdeclaration (keyword : Text) :
      declaration? keyword (lex (Text.trim line)) = declaration? keyword (lex line) := by
    rw [declaration?, declaration?, Lexeme.trim_lex_trim]
  have hstart : loopStart? (lex (Text.trim line)) = loopStart? (lex line) := by
    rw [loopStart?, loopStart?, Lexeme.trim_lex_trim]
  have hend : isLoopEnd (lex (Text.trim line)) = isLoopEnd (lex line) := by
    rw [isLoopEnd, isLoopEnd, Lexeme.trim_lex_trim]
  simp only [classify, hdeclaration, hstart, hend, tags_trim]

/-! ### Settled lines -/

/-- A line is **settled** if it is a placeholder, or a text that has no space around it and starts
no loop. -/
def Line.IsSettled : Line → Prop
  | .text content =>
    Text.trim content = content ∧ ∀ header, classify content ≠ .loopStart header
  | .placeholder _ => True

/-- A line that starts no loop is settled once it is trimmed. -/
theorem Line.isSettled_text_trim {line : Text} (h : ∀ header, classify line ≠ .loopStart header) :
    (Line.text (Text.trim line)).IsSettled :=
  ⟨Text.trim_trim line, fun header => by rw [classify_trim]; exact h header⟩

/-- **Reading on leaves settled lines**, inside a loop and outside. -/
theorem isSettled_of_mem_scan {next : Nat} {current : Option Loop} {document : Document} :
    ∀ line ∈ (Extraction.scan next current document).document, line.IsSettled := by
  induction document generalizing next current with
  | nil => cases current <;> exact List.forall_mem_nil _
  | cons line rest ih =>
    cases line with
    | placeholder id =>
      rw [Extraction.scan]
      exact List.forall_mem_cons.2 ⟨trivial, ih⟩
    | text content =>
      cases current with
      | none =>
        by_cases hstart : ∃ header, classify content = .loopStart header
        · obtain ⟨header, hstart⟩ := hstart
          rw [scan_start hstart]
          exact List.forall_mem_cons.2 ⟨trivial, ih⟩
        · rw [not_exists] at hstart
          rw [scan_outside hstart]
          exact List.forall_mem_cons.2 ⟨Line.isSettled_text_trim hstart, ih⟩
      | some loop =>
        -- neither the end of a loop nor a line of its body leaves a line
        rw [Extraction.scan]
        split <;> exact ih

/-- The lines that extraction leaves are settled. -/
theorem isSettled_of_mem_extractLoops {document : Document} :
    ∀ line ∈ (extractLoops document).document, line.IsSettled :=
  isSettled_of_mem_scan

/-- Settled lines are passed over. -/
theorem scan_of_isSettled {document : Document} (h : ∀ line ∈ document, line.IsSettled)
    (next : Nat) : Extraction.scan next none document = ⟨document, .empty⟩ := by
  induction document with
  | nil => rfl
  | cons line rest ih =>
    obtain ⟨hline, hrest⟩ := List.forall_mem_cons.1 h
    cases line with
    | placeholder id =>
      rw [Extraction.scan, ih hrest]
      rfl
    | text content =>
      rw [scan_outside hline.2, ih hrest, hline.1]
      rfl

/-- **The documents that extraction leaves as they are** have settled lines only. -/
theorem extractLoops_eq_self_iff {document : Document} :
    extractLoops document = ⟨document, .empty⟩ ↔ ∀ line ∈ document, line.IsSettled := by
  constructor
  · intro h
    have hsettled : ∀ line ∈ (extractLoops document).document, line.IsSettled :=
      isSettled_of_mem_extractLoops
    rwa [h] at hsettled
  · exact fun h => scan_of_isSettled h 0

/-- **A second extraction finds nothing.** Extraction leaves settled lines, and settled lines are
all that an extraction leaves as it is. So taking loops out of a document whose loops have been
taken out gives the document again, and neither a loop nor an unterminated one. -/
theorem extractLoops_idempotent (document : Document) :
    (∀ line ∈ (extractLoops document).document, line.IsSettled) ∧
      (extractLoops document = ⟨document, .empty⟩ ↔ ∀ line ∈ document, line.IsSettled) ∧
      let again := extractLoops (extractLoops document).document
      again.document = (extractLoops document).document ∧ again.table.loops = [] ∧
        again.table.unterminated? = none := by
  refine ⟨isSettled_of_mem_extractLoops, extractLoops_eq_self_iff, ?_⟩
  intro again
  have hagain : again = ⟨(extractLoops document).document, .empty⟩ :=
    extractLoops_eq_self_iff.2 isSettled_of_mem_extractLoops
  rw [hagain]
  exact ⟨rfl, rfl, rfl⟩

end BoundReport
