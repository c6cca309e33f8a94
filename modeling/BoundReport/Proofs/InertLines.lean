import BoundReport.Proofs.Acceptance
import BoundReport.Proofs.Blocks
import BoundReport.Proofs.Lookups
import BoundReport.Proofs.Tags

/-!
# Inert Lines

A line is **inert** if it declares nothing, starts no loop and has no tag. A loop end is inert, and
so are broken tags and lines that look like a placeholder. A template of inert lines passes
through: every pass meets only lines that it leaves as they are, except that the spaces around a
line are taken away. A line without these spaces has no more tags than before, so the last pass
finds nothing new.

## Main results

* `isInert_iff_classify`: the inert lines are plain text and loop ends.
* `run_process_of_isInert`: filling in inert lines trims them, and does nothing else.
* `generate_of_isInert`: so does making a report from them.
-/

namespace BoundReport

/-- A line is **inert** if it has neither the form of a declaration nor that of a loop start, and no
tag. -/
structure IsInert (line : Text) : Prop where
  definition : ∀ kind, definition? kind line = none
  loopStart : loopStart? (lex line) = none
  tags : tags line = []

instance (line : Text) : Decidable (IsInert line) :=
  decidable_of_iff
    ((∀ kind, definition? kind line = none) ∧ loopStart? (lex line) = none ∧ tags line = [])
    ⟨fun ⟨hdefinition, hstart, htags⟩ => ⟨hdefinition, hstart, htags⟩,
      fun h => ⟨h.definition, h.loopStart, h.tags⟩⟩

/-! ### The constructs of inert lines -/

/-- A lexeme that trimming takes away is a space. -/
theorem Lexeme.mem_trim_or {l : Lexeme} {lexemes : List Lexeme} (h : l ∈ lexemes) :
    l ∈ trim lexemes ∨ l.token = .space := by
  have hstart {more : List Lexeme} (hmem : l ∈ more) : l ∈ trimStart more ∨ l.token = .space := by
    have hsplit : more = more.takeWhile (fun l => l.token = .space) ++ trimStart more :=
      List.takeWhile_append_dropWhile.symm
    rw [hsplit] at hmem
    rcases List.mem_append.1 hmem with hmem | hmem
    · have hspace := List.mem_takeWhile_imp hmem
      exact .inr (of_decide_eq_true hspace)
    · exact .inl hmem
  rcases hstart h with hmem | hspace
  · rcases hstart (List.mem_reverse.2 hmem) with hmem | hspace
    · exact .inl (List.mem_reverse.2 hmem)
    · exact .inr hspace
  · exact .inr hspace

/-- Without opening braces there are no tags. -/
theorem Fragment.filterMap_tag?_of_forall {lexemes : List Lexeme}
    (h : ∀ l ∈ lexemes, l.token ≠ .expressionOpen) :
    (ofLexemes (alignBraces lexemes)).filterMap tag? = [] := by
  induction lexemes with
  | nil => rfl
  | cons first rest ih =>
    obtain ⟨hfirst, hrest⟩ := List.forall_mem_cons.1 h
    rw [alignBraces_cons hfirst,
      ofLexemes.eq_2 _ _ (by rintro _ _ _ _ _ _ _ _ rfl; exact absurd rfl hfirst)]
    exact ih hrest

/-- A loop end has no tags. -/
theorem tags_of_isLoopEnd {line : Text} (h : isLoopEnd (lex line)) : tags line = [] := by
  refine Fragment.filterMap_tag?_of_forall fun l hl hopen => ?_
  rw [isLoopEnd] at h
  split at h
  · rename_i heq
    rcases Lexeme.mem_trim_or hl with hmem | hspace
    · rw [heq] at hmem
      simp only [List.mem_cons, List.not_mem_nil, or_false] at hmem
      rcases hmem with rfl | rfl | rfl | rfl | rfl <;> cases hopen
    · rw [hopen] at hspace
      cases hspace
  · cases h

/-- **The inert lines are plain text and loop ends.** -/
theorem isInert_iff_classify {line : Text} :
    IsInert line ↔ classify line = .plain ∨ classify line = .loopEnd := by
  constructor
  · intro h
    have hsource : declaration? DeclarationKind.dataSource.keyword (lex line) = none :=
      h.definition .dataSource
    have hset : declaration? DeclarationKind.dataSet.keyword (lex line) = none :=
      h.definition .dataSet
    rw [classify]
    simp only [hsource, hset, h.loopStart, h.tags]
    by_cases hend : isLoopEnd (lex line)
    · exact .inr (if_pos hend)
    · exact .inl (if_neg hend)
  · intro h
    rw [classify] at h
    split at h
    · simp at h
    · rename_i hsource
      split at h
      · simp at h
      · rename_i hset
        have hdefinition : ∀ kind, definition? kind line = none := by
          intro kind
          cases kind
          · exact hsource
          · exact hset
        split at h
        · simp at h
        · rename_i hstart
          split at h
          · rename_i hend
            exact ⟨hdefinition, hstart, tags_of_isLoopEnd hend⟩
          · split at h
            · rename_i htags
              exact ⟨hdefinition, hstart, htags⟩
            · simp at h

/-- A line that looks like a placeholder is inert. -/
theorem isInert_toText_placeholder (id : LoopId) : IsInert (Line.placeholder id).toText :=
  isInert_iff_classify.2 (.inl (classify_toText_placeholder id))

/-- An inert line starts no loop. -/
theorem IsInert.classify_ne_loopStart {line : Text} (h : IsInert line) (header : LoopHeader) :
    classify line ≠ .loopStart header := by
  rcases isInert_iff_classify.1 h with hplain | hend
  · rw [hplain]
    exact Construct.noConfusion
  · rw [hend]
    exact Construct.noConfusion

/-! ### Each pass over inert lines -/

/-- Inert lines are left to the body, and nothing is declared. -/
theorem ParsedTemplate.readLines_of_isInert {lines : List Text} (h : ∀ line ∈ lines, IsInert line)
    (limits : DeclarationLimits) (progress : Progress) :
    readLines limits progress lines = .ok ⟨progress.catalog, lines.map Line.text⟩ := by
  induction lines generalizing progress with
  | nil => rfl
  | cons line rest ih =>
    obtain ⟨hline, hrest⟩ := List.forall_mem_cons.1 h
    have hstep : step limits progress line = .ok (_, some line) :=
      step_eq_ok_iff.2 (.body (hline.definition .dataSource) (hline.definition .dataSet))
    rw [readLines, hstep]
    simp only [bind, Except.bind, ih hrest]
    rfl

/-- No loop is taken out of inert lines. They are trimmed. -/
theorem extractLoops_of_isInert {lines : List Text} (h : ∀ line ∈ lines, IsInert line) :
    extractLoops (lines.map Line.text) =
      ⟨lines.map fun line => .text (Text.trim line), .empty⟩ := by
  rw [extractLoops]
  induction lines with
  | nil => rfl
  | cons line rest ih =>
    obtain ⟨hline, hrest⟩ := List.forall_mem_cons.1 h
    rw [List.map_cons, scan_outside hline.classify_ne_loopStart, ih hrest]
    rfl

section

variable {σ : Type} {catalog : Catalog} {engine : Engine σ}

/-- Without placeholders there are no loops to fill in. -/
theorem run_resolveLoops_map_text (table : LoopTable) (lines : List Text) (state : σ) :
    (resolveLoops catalog engine table (lines.map Line.text)).run state =
      ⟨lines.map Line.text, state, [], []⟩ := by
  induction lines with
  | nil => rfl
  | cons line rest ih =>
    rw [List.map_cons, resolveLoops, resolveLoopLine]
    simp only [Resolution.run_bind, Resolution.run_pure, ih]
    rfl

/-- Without tags there is nothing to fill in. -/
theorem run_resolveTags_of_tags_eq_nil {lines : List Text} (h : ∀ line ∈ lines, tags line = [])
    (state : σ) :
    (resolveTags catalog engine (lines.map Line.text)).run state =
      ⟨lines.map Line.text, state, [], []⟩ := by
  induction lines with
  | nil => rfl
  | cons line rest ih =>
    obtain ⟨hline, hrest⟩ := List.forall_mem_cons.1 h
    rw [List.map_cons, resolveTags, resolveTagLine, if_pos hline]
    simp only [Resolution.run_bind, Resolution.run_pure, ih hrest]
    rfl

/-- **Filling in inert lines trims them**, and does nothing else: nothing is asked, and there are no
warnings. -/
theorem run_process_of_isInert {lines : List Text} (h : ∀ line ∈ lines, IsInert line)
    (catalog : Catalog) (engine : Engine σ) (state : σ) :
    (process catalog engine (lines.map Line.text)).run state =
      ⟨lines.map fun line => .text (Text.trim line), state, [], []⟩ := by
  -- The first pass trims the lines, so it is trimmed lines that the last one looks at.
  have htrimmed : ∀ line ∈ lines.map Text.trim, tags line = [] := by
    intro trimmed hmem
    obtain ⟨line, hline, rfl⟩ := List.mem_map.1 hmem
    rw [tags_trim]
    exact (h line hline).tags
  have hlines : lines.map (fun line => Line.text (Text.trim line)) =
      (lines.map Text.trim).map Line.text := by rw [List.map_map]; rfl
  rw [run_process, extractLoops_of_isInert h, hlines]
  simp only [Resolution.run_bind, run_resolveLoops_map_text,
    run_resolveTags_of_tags_eq_nil htrimmed]
  rfl

end

/-- **A template of inert lines passes through.** Its report has its lines, in order and trimmed.
Nothing is declared, nothing is asked, and there are no warnings. -/
theorem generate_of_isInert {σ : Type} {template : Text}
    (h : ∀ line ∈ splitLines template, IsInert line) (limits : DeclarationLimits)
    (engine : Engine σ) (state : σ) :
    generate template limits engine state =
      .ok ⟨(splitLines template).map fun line => .text (Text.trim line), .empty, state, [], []⟩ := by
  have hparse : ParsedTemplate.parse template limits =
      .ok ⟨.empty, (splitLines template).map Line.text⟩ :=
    ParsedTemplate.readLines_of_isInert h limits .start
  rw [generate_of_parse_ok hparse engine state]
  simp only [run_process_of_isInert h]

/-- A template of lines that are nearly constructs: a loop end without a loop, a written
placeholder, a declaration with more behind it, a tag with a brace too few, and a loop start without
spaces. -/
def nearMisses : Text :=
  " {% endfor %} \n{% looptag loop0 %}\r\n\t{% dataset name %} x\r\x7b\x7b D.f \x7d\n{%for a in D%}"

/-- Lines that are nearly constructs are trimmed, and no more. -/
theorem generate_of_isInert_nearMisses :
    (∀ line ∈ splitLines nearMisses, IsInert line) ∧
      generate nearMisses {} ⟨fun _ _ count => (.ok [], count + 1)⟩ 0 =
        .ok ⟨["{% endfor %}", "{% looptag loop0 %}", "{% dataset name %} x",
          "\x7b\x7b D.f \x7d", "{%for a in D%}"].map fun line => .text (String.toList line),
          .empty, 0, [], []⟩ := by
  have h : ∀ line ∈ splitLines nearMisses, IsInert line := by decide +kernel
  have hlines : (splitLines nearMisses).map (fun line => Line.text (Text.trim line)) =
      ["{% endfor %}", "{% looptag loop0 %}", "{% dataset name %} x", "\x7b\x7b D.f \x7d",
        "{%for a in D%}"].map fun line => .text (String.toList line) := by decide +kernel
  rw [generate_of_isInert h, hlines]
  exact ⟨h, rfl⟩

end BoundReport
