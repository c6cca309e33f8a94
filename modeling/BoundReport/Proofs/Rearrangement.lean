import Mathlib.Data.List.Perm.Basic
import BoundReport.Proofs.Calls
import BoundReport.Proofs.Partition

/-!
# Declarations in Another Order

Where the declarations of a template stand does not matter, as long as it can be taken apart. The
registries are sorted by name, so they are the same in whatever order the definitions come, and
the body is what is left when the declarations are taken out. So a declaration may stand below its
uses, or between the lines of a loop.

This takes a template of which every declaration is accepted. Behind the limit of its kind a
declaration is a line of the body, and its place in the body does matter.

## Main results

* `Registry.Holds.eq_of_perm`: registries that hold the same definitions are equal.
* `Partition.body_eq_filter`: the body of a template of which every declaration is accepted.
* `Rearranges.parsed_eq`: rearranged lines are taken apart into the same.
* `generate_rearranged`: rearranged templates make the same report.
-/

namespace BoundReport

/-! ### The same definitions -/

/-- Registries that hold the same definitions are equal, whatever the order of the definitions. -/
theorem Registry.Holds.eq_of_perm {α : Type} [Named α] {first second : Registry α}
    {parse : Text → Except DefinitionError α} {definitions₁ definitions₂ : List Text}
    (h₁ : first.Holds parse definitions₁) (h₂ : second.Holds parse definitions₂)
    (hperm : definitions₁.Perm definitions₂) : first = second := by
  obtain ⟨values₁, hvalues₁, hfirst⟩ := h₁
  obtain ⟨values₂, hvalues₂, hsecond⟩ := h₂
  have hok : (values₁.map (Except.ok (ε := DefinitionError))).Perm (values₂.map Except.ok) := by
    rw [← hvalues₁, ← hvalues₂]
    exact hperm.map parse
  have hvalues : values₁.Perm values₂ :=
    (List.map_perm_map_iff fun _ _ h => Except.ok.inj h).1 hok
  exact Registry.eq_of_perm (hfirst.trans (hvalues.trans hsecond.symm))

/-! ### Declarations and other lines -/

/-- Whether a line has the form of a declaration, of whichever kind. -/
def isDeclaration (line : Text) : Bool :=
  (definition? .dataSource line).isSome || (definition? .dataSet line).isSome

theorem isDeclaration_iff {line : Text} :
    isDeclaration line ↔ ∃ kind, (definition? kind line).isSome := by
  rw [isDeclaration, Bool.or_eq_true]
  constructor
  · rintro (h | h)
    · exact ⟨_, h⟩
    · exact ⟨_, h⟩
  · rintro ⟨_ | _, h⟩
    · exact .inl h
    · exact .inr h

/-- The definitions of a kind are those on the lines that are declarations. -/
theorem definitionsOf_filter_isDeclaration (kind : DeclarationKind) (lines : List Text) :
    definitionsOf kind (lines.filter isDeclaration) = definitionsOf kind lines := by
  rw [definitionsOf, List.filterMap_filter]
  refine List.filterMap_congr fun line _ => ?_
  cases hline : definition? kind line with
  | none => simp
  | some definition =>
    have hdeclaration : isDeclaration line := isDeclaration_iff.2 ⟨kind, by rw [hline]; rfl⟩
    rw [hdeclaration]
    rfl

/-- Lines **rearrange** the declarations among others if the two have the same lines of no
declaration, in the same order, and the same declarations, each as often, in any order. -/
structure Rearranges (lines₁ lines₂ : List Text) : Prop where
  others : lines₁.filter (!isDeclaration ·) = lines₂.filter (!isDeclaration ·)
  declarations : (lines₁.filter isDeclaration).Perm (lines₂.filter isDeclaration)

/-- Lines **fit** limits if there are no more declarations of a kind than are accepted. -/
def Fits (limits : DeclarationLimits) (lines : List Text) : Prop :=
  ∀ kind, (definitionsOf kind lines).length ≤ limits.most kind + 1

section

variable {limits : DeclarationLimits} {lines lines₁ lines₂ : List Text}
  {parsed parsed₁ parsed₂ : ParsedTemplate}

/-- All declarations of lines that fit are accepted. -/
theorem Fits.acceptedLines_eq (h : Fits limits lines) (kind : DeclarationKind) :
    acceptedLines limits kind lines = declarationLines kind lines := by
  rw [acceptedLines, List.take_of_length_le]
  rw [← length_definitionsOf]
  exact h kind

/-- **The body of lines that fit** is the lines that are no declarations. -/
theorem Partition.body_eq_filter (h : Partition limits lines parsed) (hfits : Fits limits lines) :
    parsed.body = (lines.filter (!isDeclaration ·)).map Line.text := by
  have hplaces : lines.zipIdx.filter (fun place =>
        ∀ kind, place ∉ acceptedLines limits kind lines) =
      lines.zipIdx.filter fun place => !isDeclaration place.1 := by
    refine List.filter_congr fun place hplace => ?_
    rw [Bool.eq_iff_iff, decide_eq_true_eq, Bool.not_eq_true', Bool.eq_false_iff, ne_eq,
      isDeclaration_iff, not_exists]
    refine forall_congr' fun kind => not_congr ?_
    rw [hfits.acceptedLines_eq, declarationLines, List.mem_filter]
    exact and_iff_right hplace
  have hlines : (lines.zipIdx.map Prod.fst).filter (!isDeclaration ·) =
      (lines.zipIdx.filter fun place => !isDeclaration place.1).map Prod.fst := by
    rw [List.filter_map]
    rfl
  rw [h.body, hplaces, ← List.zipIdx_map_fst 0 lines, hlines, List.map_map]
  simp only [List.zipIdx_map_fst]
  rfl

/-- The accepted definitions of lines that fit are all of them. -/
theorem Fits.filterMap_acceptedLines (h : Fits limits lines) (kind : DeclarationKind) :
    (acceptedLines limits kind lines).filterMap (fun place => definition? kind place.1) =
      definitionsOf kind lines := by
  rw [BoundReport.filterMap_acceptedLines, acceptedDefinitions, List.take_of_length_le (h kind)]

namespace Rearranges

theorem definitionsOf_perm (h : Rearranges lines₁ lines₂) (kind : DeclarationKind) :
    (definitionsOf kind lines₁).Perm (definitionsOf kind lines₂) := by
  rw [← definitionsOf_filter_isDeclaration, ← definitionsOf_filter_isDeclaration kind lines₂]
  exact h.declarations.filterMap _

theorem fits (h : Rearranges lines₁ lines₂) (hfits : Fits limits lines₁) : Fits limits lines₂ :=
  fun kind => (h.definitionsOf_perm kind).length_eq ▸ hfits kind

/-- **Rearranged lines are taken apart into the same**: the registries hold the same definitions,
and the bodies are the lines that are no declarations. -/
theorem parsed_eq (h : Rearranges lines₁ lines₂) (hfits : Fits limits lines₁)
    (h₁ : Partition limits lines₁ parsed₁) (h₂ : Partition limits lines₂ parsed₂) :
    parsed₁ = parsed₂ := by
  have hfits₂ : Fits limits lines₂ := h.fits hfits
  have hsources : parsed₁.catalog.dataSources = parsed₂.catalog.dataSources := by
    have hone := h₁.sources
    have htwo := h₂.sources
    rw [hfits.filterMap_acceptedLines] at hone
    rw [hfits₂.filterMap_acceptedLines] at htwo
    exact hone.eq_of_perm htwo (h.definitionsOf_perm .dataSource)
  have hsets : parsed₁.catalog.dataSets = parsed₂.catalog.dataSets := by
    have hone := h₁.sets
    have htwo := h₂.sets
    rw [hfits.filterMap_acceptedLines] at hone
    rw [hfits₂.filterMap_acceptedLines] at htwo
    exact hone.eq_of_perm htwo (h.definitionsOf_perm .dataSet)
  have hbody : parsed₁.body = parsed₂.body := by
    rw [h₁.body_eq_filter hfits, h₂.body_eq_filter hfits₂, h.others]
  obtain ⟨⟨sources₁, sets₁⟩, body₁⟩ := parsed₁
  obtain ⟨⟨sources₂, sets₂⟩, body₂⟩ := parsed₂
  obtain rfl : sources₁ = sources₂ := hsources
  obtain rfl : sets₁ = sets₂ := hsets
  obtain rfl : body₁ = body₂ := hbody
  rfl

/-- A declaration that is moved, up or down and past whatever lines, is a rearrangement. -/
theorem of_move {declaration : Text} (h : isDeclaration declaration)
    (before between after : List Text) :
    Rearranges (before ++ declaration :: (between ++ after))
      (before ++ (between ++ declaration :: after)) := by
  refine ⟨by simp [h], ?_⟩
  simp only [List.filter_append, List.filter_cons_of_pos h]
  exact List.perm_middle.symm.append_left _

end Rearranges

end

/-- **Where declarations stand does not matter.** Two templates that can be taken apart, that
differ only in the places of their declarations, and whose declarations are all accepted, are taken
apart into the same registries and the same body; so every engine makes the same report from them,
with the same calls and the same warnings. -/
theorem generate_rearranged {template₁ template₂ : Text} {limits : DeclarationLimits}
    {parsed₁ parsed₂ : ParsedTemplate}
    (h₁ : ParsedTemplate.parse template₁ limits = .ok parsed₁)
    (h₂ : ParsedTemplate.parse template₂ limits = .ok parsed₂)
    (hlines : Rearranges (splitLines template₁) (splitLines template₂))
    (hfits : Fits limits (splitLines template₁)) :
    parsed₁.catalog = parsed₂.catalog ∧ parsed₁.body = parsed₂.body ∧
      ∀ {σ : Type} (engine : Engine σ) (state : σ), ∃ generation,
        generate template₁ limits engine state = .ok generation ∧
          generate template₂ limits engine state = .ok generation := by
  obtain rfl : parsed₁ = parsed₂ := hlines.parsed_eq hfits
    (ParsedTemplate.partition_of_readLines h₁) (ParsedTemplate.partition_of_readLines h₂)
  exact ⟨rfl, rfl, fun engine state => ⟨_, generate_of_parse_ok h₁ engine state,
    generate_of_parse_ok h₂ engine state⟩⟩

/-- The lines of a template with a loop over `R`, and a line with a tag of `D` in it. -/
def loopItems (first second : List TemplateItem) : List TemplateItem :=
  .declareSource ⟨"p", "s", "b", "u", "w"⟩ :: first ++
    .body "\x7b% for r in R %\x7d" :: .body "\x7b\x7b r.x \x7d\x7d" :: second ++
    [.body "\x7b\x7b D.f \x7d\x7d", .body "\x7b% endfor %\x7d"]

/-- The datasets that the loop and the tag in it name. -/
def loopSets : List TemplateItem :=
  [.declareSet ⟨"p", .storedProcedure, "R", "sp_r", []⟩,
    .declareSet ⟨"p", .storedProcedure, "D", "sp_d", []⟩]

/-- Datasets may be declared above the loop that uses them, or the other way around inside it. -/
theorem generate_rearranged_loop :
    let above := writeTemplate (loopItems loopSets [])
    let inside := writeTemplate (loopItems [] loopSets.reverse)
    Rearranges (splitLines above) (splitLines inside) ∧ Fits ⟨0, 1⟩ (splitLines above) ∧
      ∃ parsed₁ parsed₂, ParsedTemplate.parse above ⟨0, 1⟩ = .ok parsed₁ ∧
        ParsedTemplate.parse inside ⟨0, 1⟩ = .ok parsed₂ ∧
        parsed₁.catalog = parsed₂.catalog ∧ parsed₁.body = parsed₂.body ∧
        ∀ {σ : Type} (engine : Engine σ) (state : σ), ∃ generation,
          generate above ⟨0, 1⟩ engine state = .ok generation ∧
            generate inside ⟨0, 1⟩ engine state = .ok generation := by
  intro above inside
  have hlines : Rearranges (splitLines above) (splitLines inside) :=
    ⟨by decide +kernel, by decide +kernel⟩
  have hfits : Fits ⟨0, 1⟩ (splitLines above) := by
    rintro (_ | _)
    · decide +kernel
    · decide +kernel
  obtain ⟨parsed₁, h₁⟩ : ∃ parsed, ParsedTemplate.parse above ⟨0, 1⟩ = .ok parsed :=
    ParsedTemplate.exists_eq_ok_of_toBool (by decide +kernel)
  obtain ⟨parsed₂, h₂⟩ : ∃ parsed, ParsedTemplate.parse inside ⟨0, 1⟩ = .ok parsed :=
    ParsedTemplate.exists_eq_ok_of_toBool (by decide +kernel)
  exact ⟨hlines, hfits, parsed₁, parsed₂, h₁, h₂, generate_rearranged h₁ h₂ hlines hfits⟩

end BoundReport
