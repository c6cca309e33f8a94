import BoundReport.Proofs.Reading

/-!
# Accepted Declarations

Of the lines that have the form of a declaration, the first ones of each kind are **accepted**, as
many as the limit of the kind allows. Which ones these are depends on the lines alone, not on what
the declarations say. A template that can be taken apart is divided in this way: its registries
hold what the accepted lines declare, and its body is all other lines.

## Main results

* `Progress.IsBehind.of_reads`: reading a line goes on from the lines before it.
* `isBehind_of_readLines`: so what has been read to the end is what the accepted lines declare.
* `body_of_readLines`: the body is the lines that are not accepted.
-/

namespace BoundReport

/-! ### Forms of lines -/

instance {p : DeclarationKind → Prop} [DecidablePred p] : Decidable (∀ kind, p kind) :=
  decidable_of_iff (p .dataSource ∧ p .dataSet)
    ⟨fun ⟨hsource, hset⟩ kind => by cases kind <;> assumption,
      fun h => ⟨h .dataSource, h .dataSet⟩⟩

/-- The definition on a line that has the form of a declaration of a kind. -/
def definition? (kind : DeclarationKind) (line : Text) : Option Text :=
  declaration? kind.keyword (lex line)

/-- The word behind the opening marker of a statement. -/
def leadingWord? (lexemes : List Lexeme) : Option Text :=
  match Lexeme.trim lexemes with
  | ⟨.statementOpen, _⟩ :: ⟨.space, _⟩ :: ⟨.word, word⟩ :: _ => some word
  | _ => none

/-- The keyword of a declaration is its leading word. -/
theorem leadingWord?_of_declaration? {keyword found : Text} {lexemes : List Lexeme}
    (h : declaration? keyword lexemes = some found) : leadingWord? lexemes = some keyword := by
  rw [declaration?] at h
  split at h
  · rename_i heq
    split at h
    · rename_i hword
      rw [leadingWord?, heq, hword]
    · cases h
  · cases h

/-- The word behind the opening marker is the only keyword of a line. -/
theorem keyword_inj {keyword₁ keyword₂ found₁ found₂ : Text} {lexemes : List Lexeme}
    (h₁ : declaration? keyword₁ lexemes = some found₁)
    (h₂ : declaration? keyword₂ lexemes = some found₂) : keyword₁ = keyword₂ :=
  Option.some.inj ((leadingWord?_of_declaration? h₁).symm.trans (leadingWord?_of_declaration? h₂))

/-- A line has the form of a declaration of one kind at most. -/
theorem kind_inj {kind other : DeclarationKind} {line found found' : Text}
    (h : definition? kind line = some found) (h' : definition? other line = some found') :
    kind = other := by
  have hkeyword : kind.keyword = other.keyword := keyword_inj h h'
  cases kind <;> cases other
  · rfl
  · exact absurd hkeyword (by decide)
  · exact absurd hkeyword (by decide)
  · rfl

/-- A line that has the form of a declaration of one kind has that of no other kind. -/
theorem definition?_eq_none {kind other : DeclarationKind} {line found : Text} (hne : kind ≠ other)
    (h : definition? kind line = some found) : definition? other line = none := by
  cases hother : definition? other line with
  | none => rfl
  | some _ => exact absurd (kind_inj h hother) hne

/-- How many lines of a kind may precede one that is still accepted. -/
def DeclarationLimits.most (limits : DeclarationLimits) : DeclarationKind → Nat
  | .dataSource => limits.maxDataSources
  | .dataSet => limits.maxDataSets

/-- The definitions on the lines that have the form of a declaration of a kind, in order. -/
def definitionsOf (kind : DeclarationKind) (lines : List Text) : List Text :=
  lines.filterMap (definition? kind)

/-- The definitions on the accepted lines of a kind, in order. -/
def acceptedDefinitions (limits : DeclarationLimits) (kind : DeclarationKind)
    (lines : List Text) : List Text :=
  (definitionsOf kind lines).take (limits.most kind + 1)

section

variable {limits : DeclarationLimits} {kind : DeclarationKind} {before : List Text} {line : Text}

theorem definitionsOf_append_singleton :
    definitionsOf kind (before ++ [line]) =
      definitionsOf kind before ++ (definition? kind line).toList := by
  rw [definitionsOf, List.filterMap_append]
  cases h : definition? kind line <;> simp [definitionsOf, h]

/-- A line of another form accepts nothing. -/
theorem acceptedDefinitions_of_none (h : definition? kind line = none) :
    acceptedDefinitions limits kind (before ++ [line]) =
      acceptedDefinitions limits kind before := by
  simp [acceptedDefinitions, definitionsOf_append_singleton, h]

/-- A line is accepted up to the limit of its kind. -/
theorem acceptedDefinitions_of_le {definition : Text} (h : definition? kind line = some definition)
    (hlimit : (definitionsOf kind before).length ≤ limits.most kind) :
    acceptedDefinitions limits kind (before ++ [line]) =
      acceptedDefinitions limits kind before ++ [definition] := by
  rw [acceptedDefinitions, acceptedDefinitions, definitionsOf_append_singleton, h,
    List.take_of_length_le, List.take_of_length_le (by omega)]
  · rfl
  · simpa using hlimit

/-- Behind the limit of its kind no line is accepted. -/
theorem acceptedDefinitions_of_lt (hlimit : limits.most kind < (definitionsOf kind before).length) :
    acceptedDefinitions limits kind (before ++ [line]) =
      acceptedDefinitions limits kind before := by
  rw [acceptedDefinitions, acceptedDefinitions, definitionsOf_append_singleton,
    List.take_append_of_le_length hlimit]

end

/-! ### What a registry holds -/

namespace Registry

variable {α : Type} [Named α] {registry next : Registry α} {parse : Text → Except DefinitionError α}
  {definitions : List Text}

/-- A registry **holds** definitions if they are well-formed and what they define is what is in
it. -/
def Holds (registry : Registry α) (parse : Text → Except DefinitionError α)
    (definitions : List Text) : Prop :=
  ∃ values, definitions.map parse = values.map Except.ok ∧ registry.toList.Perm values

namespace Holds

theorem empty : (Registry.empty : Registry α).Holds parse [] := ⟨[], rfl, .nil⟩

/-- What is registered is held from then on. -/
theorem register {definition : Text} {value : α} (h : registry.Holds parse definitions)
    (hparse : parse definition = .ok value) (hregister : registry.register value = .ok next) :
    next.Holds parse (definitions ++ [definition]) := by
  obtain ⟨values, hvalues, hperm⟩ := h
  refine ⟨values ++ [value], by simp [hvalues, hparse], ?_⟩
  exact (register_eq_ok hregister).2.trans
    ((hperm.cons value).trans (List.perm_append_singleton _ _).symm)

theorem size_eq (h : registry.Holds parse definitions) : registry.size = definitions.length := by
  obtain ⟨values, hvalues, hperm⟩ := h
  have hlength := congrArg List.length hvalues
  rw [List.length_map, List.length_map] at hlength
  exact hperm.length_eq.trans hlength.symm

/-- The names in a registry are those that the definitions give. -/
theorem contains_iff {name : Text} (h : registry.Holds parse definitions) :
    registry.contains name ↔
      ∃ definition ∈ definitions, ∃ value, parse definition = .ok value ∧
        Named.name value = name := by
  obtain ⟨values, hvalues, hperm⟩ := h
  rw [Registry.contains_iff]
  constructor
  · rintro ⟨value, hmem, hname⟩
    have hok : Except.ok value ∈ definitions.map parse :=
      hvalues ▸ List.mem_map_of_mem (hperm.mem_iff.1 hmem)
    obtain ⟨definition, hdefinition, hparse⟩ := List.mem_map.1 hok
    exact ⟨definition, hdefinition, value, hparse, hname⟩
  · rintro ⟨definition, hdefinition, value, hparse, hname⟩
    have hok : parse definition ∈ values.map Except.ok :=
      hvalues ▸ List.mem_map_of_mem hdefinition
    rw [hparse] at hok
    obtain ⟨other, hother, heq⟩ := List.mem_map.1 hok
    cases heq
    exact ⟨value, hperm.mem_iff.2 hother, hname⟩

end Holds

end Registry

/-! ### Reading on -/

namespace ParsedTemplate

/-- The number of lines of a kind that have been read. -/
def Progress.linesOf (progress : Progress) : DeclarationKind → Nat
  | .dataSource => progress.sourceLines
  | .dataSet => progress.setLines

/-- Reading **is behind** lines if it has counted them and its catalog holds what the accepted ones
among them declare. -/
structure Progress.IsBehind (limits : DeclarationLimits) (progress : Progress)
    (before : List Text) : Prop where
  line : progress.line = before.length
  count : ∀ kind, progress.linesOf kind = (definitionsOf kind before).length
  sources : progress.catalog.dataSources.Holds DataSource.parse
    (acceptedDefinitions limits .dataSource before)
  sets : progress.catalog.dataSets.Holds DataSet.parse
    (acceptedDefinitions limits .dataSet before)

variable {limits : DeclarationLimits} {progress next : Progress} {before rest : List Text}
  {line : Text} {left : Option Text} {parsed : ParsedTemplate}

theorem Progress.isBehind_start : Progress.start.IsBehind limits [] :=
  ⟨rfl, fun kind => by cases kind <;> rfl, .empty, .empty⟩

/-- A line counts for the kind of which it has the form. -/
theorem Reads.linesOf_eq (h : Reads limits progress line next left) (kind : DeclarationKind) :
    next.linesOf kind = progress.linesOf kind + (definition? kind line).toList.length := by
  cases h with
  | source hline | sourceLeft hline =>
    cases kind with
    | dataSource => rw [definition?, hline]; rfl
    | dataSet => rw [definition?_eq_none (by decide) hline]; rfl
  | set hsource hline | setLeft hsource hline =>
    cases kind with
    | dataSource => rw [definition?, hsource]; rfl
    | dataSet => rw [definition?, hline]; rfl
  | body hsource hset =>
    cases kind with
    | dataSource => rw [definition?, hsource]; rfl
    | dataSet => rw [definition?, hset]; rfl

/-- A line is **accepted** behind others if it has the form of a declaration and at most as many
lines of its kind as the limit come before. -/
def Accepts (limits : DeclarationLimits) (kind : DeclarationKind) (before : List Text)
    (line : Text) : Prop :=
  (definition? kind line).isSome ∧ (definitionsOf kind before).length ≤ limits.most kind

instance (limits : DeclarationLimits) (kind : DeclarationKind) (before : List Text) (line : Text) :
    Decidable (Accepts limits kind before line) :=
  inferInstanceAs (Decidable (_ ∧ _))

/-- A line is left to the body just if it is not accepted. -/
theorem Reads.left_eq (h : Reads limits progress line next left)
    (hbefore : progress.IsBehind limits before) :
    left = if ∀ kind, ¬ Accepts limits kind before line then some line else none := by
  have hsources : progress.sourceLines = (definitionsOf .dataSource before).length :=
    hbefore.count .dataSource
  have hsets : progress.setLines = (definitionsOf .dataSet before).length :=
    hbefore.count .dataSet
  cases h with
  | source hline hlimit =>
    have haccepts : Accepts limits .dataSource before line :=
      ⟨Option.isSome_iff_exists.2 ⟨_, hline⟩, hsources ▸ hlimit⟩
    rw [if_neg fun hnot => hnot _ haccepts]
  | sourceLeft hline hlimit =>
    rw [if_pos]
    rintro (_ | _) ⟨hform, hle⟩
    · exact absurd (hsources ▸ hlimit) (Nat.not_lt_of_le hle)
    · rw [definition?_eq_none (by decide) hline] at hform
      cases hform
  | set hsource hline hlimit =>
    have haccepts : Accepts limits .dataSet before line :=
      ⟨Option.isSome_iff_exists.2 ⟨_, hline⟩, hsets ▸ hlimit⟩
    rw [if_neg fun hnot => hnot _ haccepts]
  | setLeft hsource hline hlimit =>
    rw [if_pos]
    rintro (_ | _) ⟨hform, hle⟩
    · rw [definition?, hsource] at hform
      cases hform
    · exact absurd (hsets ▸ hlimit) (Nat.not_lt_of_le hle)
  | body hsource hset =>
    rw [if_pos]
    rintro (_ | _) ⟨hform, -⟩
    · rw [definition?, hsource] at hform
      cases hform
    · rw [definition?, hset] at hform
      cases hform

/-- **Reading a line goes on from the lines before it.** -/
theorem Progress.IsBehind.of_reads (hread : Reads limits progress line next left)
    (h : progress.IsBehind limits before) : next.IsBehind limits (before ++ [line]) := by
  have hsources : progress.sourceLines = (definitionsOf .dataSource before).length :=
    h.count .dataSource
  have hsets : progress.setLines = (definitionsOf .dataSet before).length := h.count .dataSet
  have hcount : ∀ kind, next.linesOf kind = (definitionsOf kind (before ++ [line])).length := by
    intro kind
    rw [hread.linesOf_eq kind, h.count kind, definitionsOf_append_singleton, List.length_append]
  refine ⟨?_, hcount, ?_, ?_⟩
  · rw [List.length_append, ← h.line]
    cases hread <;> rfl
  · cases hread with
    | source hline hlimit hparse hregister =>
      rw [acceptedDefinitions_of_le hline (hsources ▸ hlimit)]
      exact h.sources.register hparse hregister
    | sourceLeft hline hlimit =>
      rw [acceptedDefinitions_of_lt (hsources ▸ hlimit)]
      exact h.sources
    | set hsource | setLeft hsource | body hsource =>
      rw [acceptedDefinitions_of_none hsource]
      exact h.sources
  · cases hread with
    | source hline | sourceLeft hline =>
      rw [acceptedDefinitions_of_none (definition?_eq_none (by decide) hline)]
      exact h.sets
    | set hsource hline hlimit hparse hreference hregister =>
      rw [acceptedDefinitions_of_le hline (hsets ▸ hlimit)]
      exact h.sets.register hparse hregister
    | setLeft hsource hline hlimit =>
      rw [acceptedDefinitions_of_lt (hsets ▸ hlimit)]
      exact h.sets
    | body hsource hset =>
      rw [acceptedDefinitions_of_none hset]
      exact h.sets

/-- Reading to the end comes to stand behind all lines. -/
theorem isBehind_of_readLines (h : readLines limits progress rest = .ok parsed)
    (hbefore : progress.IsBehind limits before) :
    ∃ last : Progress, last.IsBehind limits (before ++ rest) ∧ last.catalog = parsed.catalog := by
  induction rest generalizing progress before parsed with
  | nil =>
    cases h
    exact ⟨progress, by simpa using hbefore, rfl⟩
  | cons line rest ih =>
    obtain ⟨next, left, others, hread, hrest, hcatalog, -⟩ := readLines_cons_eq_ok h
    obtain ⟨last, hlast, hcatalogs⟩ := ih hrest (.of_reads hread hbefore)
    exact ⟨last, by simpa using hlast, hcatalogs.trans hcatalog.symm⟩

/-- **The body is the lines that are not accepted**, in order and as written. -/
theorem body_of_readLines (h : readLines limits progress rest = .ok parsed)
    (hbefore : progress.IsBehind limits before) :
    parsed.body = ((rest.zipIdx before.length).filter fun place =>
      ∀ kind, ¬ Accepts limits kind ((before ++ rest).take place.2) place.1).map
        fun place => .text place.1 := by
  induction rest generalizing progress before parsed with
  | nil =>
    cases h
    rfl
  | cons line rest ih =>
    obtain ⟨next, left, others, hread, hrest, -, hbody⟩ := readLines_cons_eq_ok h
    have hothers := ih hrest (.of_reads hread hbefore)
    rw [List.length_append, List.length_singleton, List.append_assoc, List.singleton_append]
      at hothers
    have htake : (before ++ line :: rest).take before.length = before := List.take_left
    rw [hbody, hothers, hread.left_eq hbefore, List.zipIdx_cons, List.filter_cons]
    simp only [htake, decide_eq_true_eq]
    split <;> rfl

/-- Every line that is read adds one definition or one line of the body. -/
theorem size_of_readLines (h : readLines limits progress rest = .ok parsed) :
    parsed.catalog.dataSources.size + parsed.catalog.dataSets.size + parsed.body.length =
      progress.catalog.dataSources.size + progress.catalog.dataSets.size + rest.length := by
  induction rest generalizing progress parsed with
  | nil =>
    cases h
    rfl
  | cons line rest ih =>
    obtain ⟨next, left, others, hread, hrest, hcatalog, hbody⟩ := readLines_cons_eq_ok h
    have hstep : next.catalog.dataSources.size + next.catalog.dataSets.size + left.toList.length =
        progress.catalog.dataSources.size + progress.catalog.dataSets.size + 1 := by
      cases hread with
      | source _ _ _ hregister =>
        have hsize := Registry.size_of_register hregister
        simp only [Option.toList_none, List.length_nil]
        omega
      | set _ _ _ _ _ hregister =>
        have hsize := Registry.size_of_register hregister
        simp only [Option.toList_none, List.length_nil]
        omega
      | sourceLeft | setLeft | body => rfl
    have hothers := ih hrest
    rw [hcatalog, hbody, List.length_append, List.length_map, List.length_cons]
    omega

end ParsedTemplate

end BoundReport
