import BoundReport.Proofs.Acceptance
import BoundReport.Proofs.RoundTrip

/-!
# The Lines of a Template

A template that can be taken apart is its accepted lines and its body, and nothing else. Of each
kind the accepted lines are the first ones, one more than the limit of the kind if there are so
many; each registers one definition. A limit that leaves no declaration to the body may as well be
greater.

## Main results

* `acceptedLines_eq_filter`: a line is among the first ones just if few enough come before it.
* `readLines_congr`: reading depends on limits only as far as they are reached.
* `parse_partition`: accepted lines and body together are the template.
-/

namespace BoundReport

/-! ### Places of lines -/

/-- The lines that have the form of a declaration of a kind, each with its **place**: the number of
lines before it. -/
def declarationLines (kind : DeclarationKind) (lines : List Text) : List (Text × Nat) :=
  lines.zipIdx.filter fun place => (definition? kind place.1).isSome

/-- The **accepted lines** of a kind: the first ones, one more than the limit. -/
def acceptedLines (limits : DeclarationLimits) (kind : DeclarationKind) (lines : List Text) :
    List (Text × Nat) :=
  (declarationLines kind lines).take (limits.most kind + 1)

/-- The first `n` places with a property are those that have it and have fewer than `n` such
places before them. -/
theorem take_filter_zipIdx {α : Type} (p : α → Bool) (before rest : List α) (n : Nat) :
    ((rest.zipIdx before.length).filter fun place => p place.1).take n =
      (rest.zipIdx before.length).filter fun place =>
        p place.1 ∧ ((before ++ rest).take place.2).countP p < before.countP p + n := by
  induction rest generalizing before n with
  | nil => simp
  | cons item rest ih =>
    have hrest := ih (before ++ [item])
    rw [List.length_append, List.length_singleton, List.append_assoc, List.singleton_append,
      List.countP_append, List.countP_singleton] at hrest
    have htake : (before ++ item :: rest).take before.length = before := List.take_left
    rw [List.zipIdx_cons, List.filter_cons, List.filter_cons]
    simp only [htake]
    cases hitem : p item with
    | false => simpa [hitem] using hrest n
    | true =>
      cases n with
      | succ n =>
        have hcount : before.countP p + 1 + n = before.countP p + (n + 1) := by omega
        simpa [hitem, hcount] using hrest n
      | zero =>
        -- the places behind have at least as many before them
        have hnil := hrest 0
        simp only [List.take_zero, hitem, if_true] at hnil ⊢
        rw [if_neg (by simp)]
        refine (List.filter_eq_nil_iff.2 fun place hplace hfew => ?_).symm
        refine List.filter_eq_nil_iff.1 hnil.symm place hplace ?_
        simp only [decide_eq_true_eq] at hfew ⊢
        exact ⟨hfew.1, by omega⟩

section

variable {limits : DeclarationLimits} {kind : DeclarationKind} {lines : List Text}

/-- **A line is among the first ones just if few enough come before it.** -/
theorem acceptedLines_eq_filter :
    acceptedLines limits kind lines = lines.zipIdx.filter fun place =>
      ParsedTemplate.Accepts limits kind (lines.take place.2) place.1 := by
  have htake := take_filter_zipIdx (fun line => (definition? kind line).isSome) [] lines
    (limits.most kind + 1)
  rw [acceptedLines, declarationLines]
  simp only [List.nil_append, List.length_nil, List.countP_nil, Nat.zero_add,
    Nat.lt_succ_iff] at htake
  rw [htake]
  refine List.filter_congr fun place _ => decide_eq_decide.2 ?_
  rw [ParsedTemplate.Accepts, definitionsOf, List.length_filterMap_eq_countP]

theorem mem_acceptedLines_iff {place : Text × Nat} :
    place ∈ acceptedLines limits kind lines ↔ place ∈ lines.zipIdx ∧
      ParsedTemplate.Accepts limits kind (lines.take place.2) place.1 := by
  rw [acceptedLines_eq_filter, List.mem_filter, decide_eq_true_eq]

/-- Taking from the items that have a value is taking from the values. -/
theorem filterMap_take_filter {α β : Type} (f : α → Option β) (items : List α) (n : Nat) :
    ((items.filter fun item => (f item).isSome).take n).filterMap f =
      (items.filterMap f).take n := by
  induction items generalizing n with
  | nil => simp
  | cons item rest ih =>
    rw [List.filter_cons, List.filterMap_cons]
    cases hitem : f item with
    | none => simpa using ih n
    | some value =>
      cases n with
      | zero => simp
      | succ n => simpa [hitem] using ih n

/-- What stands on the accepted lines is what is accepted. -/
theorem filterMap_acceptedLines :
    (acceptedLines limits kind lines).filterMap (fun place => definition? kind place.1) =
      acceptedDefinitions limits kind lines := by
  have hplaces : lines.zipIdx.filterMap (fun place => definition? kind place.1) =
      (lines.zipIdx.map Prod.fst).filterMap (definition? kind) := by rw [List.filterMap_map]; rfl
  rw [acceptedLines, declarationLines, filterMap_take_filter, hplaces, List.zipIdx_map_fst]
  rfl

theorem length_definitionsOf :
    (definitionsOf kind lines).length = (declarationLines kind lines).length := by
  have hplaces : lines.zipIdx.countP (fun place => (definition? kind place.1).isSome) =
      (lines.zipIdx.map Prod.fst).countP fun line => (definition? kind line).isSome := by
    rw [List.countP_map]
    rfl
  rw [definitionsOf, List.length_filterMap_eq_countP, declarationLines,
    ← List.countP_eq_length_filter, hplaces, List.zipIdx_map_fst]

theorem length_acceptedDefinitions : (acceptedDefinitions limits kind lines).length =
    min (declarationLines kind lines).length (limits.most kind + 1) := by
  rw [acceptedDefinitions, List.length_take, length_definitionsOf, Nat.min_comm]

end

/-! ### Greater limits -/

namespace ParsedTemplate

variable {limits raised : DeclarationLimits} {progress : Progress} {rest : List Text} {line : Text}

/-- A line is read the same with limits that either both accept it or both do not. -/
theorem step_congr (h : ∀ kind, (definition? kind line).isSome →
      (progress.linesOf kind ≤ limits.most kind ↔ progress.linesOf kind ≤ raised.most kind)) :
    step limits progress line = step raised progress line := by
  have hsources := h .dataSource
  have hsets := h .dataSet
  simp only [definition?, Progress.linesOf, DeclarationLimits.most] at hsources hsets
  rw [step, step]
  cases hsource : declaration? DeclarationKind.dataSource.keyword (lex line) with
  | some definition => simp only [hsources (hsource ▸ rfl)]
  | none =>
    cases hset : declaration? DeclarationKind.dataSet.keyword (lex line) with
    | some definition => simp only [hsets (hset ▸ rfl)]
    | none => rfl

/-- **Reading depends on limits only as far as they are reached.** -/
theorem readLines_congr (h : ∀ kind, limits.most kind = raised.most kind ∨
      progress.linesOf kind + (definitionsOf kind rest).length ≤
        min (limits.most kind) (raised.most kind) + 1) :
    readLines limits progress rest = readLines raised progress rest := by
  induction rest generalizing progress with
  | nil => rfl
  | cons line rest ih =>
    have hcount (kind : DeclarationKind) : (definitionsOf kind (line :: rest)).length =
        (definition? kind line).toList.length + (definitionsOf kind rest).length := by
      rw [definitionsOf, List.filterMap_cons]
      cases definition? kind line <;> simp [definitionsOf, Nat.add_comm]
    have hstep : step limits progress line = step raised progress line := by
      refine step_congr fun kind hform => ?_
      rcases h kind with heq | hle
      · rw [heq]
      · obtain ⟨definition, hform⟩ := Option.isSome_iff_exists.1 hform
        rw [hcount, hform, Option.toList_some, List.length_singleton] at hle
        omega
    rw [readLines, readLines, hstep]
    cases hread : step raised progress line with
    | error error => rfl
    | ok result =>
      obtain ⟨next, left⟩ := result
      have hnext : readLines limits next rest = readLines raised next rest := by
        refine ih fun kind => (h kind).imp_right fun hle => ?_
        rw [(step_eq_ok_iff.1 hread).linesOf_eq kind]
        rw [hcount] at hle
        omega
      simp only [bind, Except.bind, hnext]

end ParsedTemplate

/-! ### The partition -/

/-- A template's lines are **partitioned** by what it is taken apart into. -/
structure Partition (limits : DeclarationLimits) (lines : List Text) (parsed : ParsedTemplate) :
    Prop where
  /-- The body is all lines that are not accepted, in order and as written. -/
  body : parsed.body = (lines.zipIdx.filter fun place =>
    ∀ kind, place ∉ acceptedLines limits kind lines).map fun place => .text place.1
  /-- The datasources are those that the accepted lines define. -/
  sources : parsed.catalog.dataSources.Holds DataSource.parse
    ((acceptedLines limits .dataSource lines).filterMap fun place =>
      definition? .dataSource place.1)
  /-- The datasets are those that the accepted lines define. -/
  sets : parsed.catalog.dataSets.Holds DataSet.parse
    ((acceptedLines limits .dataSet lines).filterMap fun place => definition? .dataSet place.1)
  sourceCount : parsed.catalog.dataSources.size =
    min (declarationLines .dataSource lines).length (limits.maxDataSources + 1)
  setCount : parsed.catalog.dataSets.size =
    min (declarationLines .dataSet lines).length (limits.maxDataSets + 1)
  total : parsed.catalog.dataSources.size + parsed.catalog.dataSets.size + parsed.body.length =
    lines.length

namespace ParsedTemplate

variable {limits : DeclarationLimits} {lines : List Text} {parsed : ParsedTemplate}

/-- Reading partitions the lines. -/
theorem partition_of_readLines (h : readLines limits .start lines = .ok parsed) :
    Partition limits lines parsed := by
  obtain ⟨last, hlast, hcatalog⟩ := isBehind_of_readLines h Progress.isBehind_start
  rw [List.nil_append] at hlast
  have hsources := hcatalog ▸ hlast.sources
  have hsets := hcatalog ▸ hlast.sets
  have hbody := body_of_readLines h Progress.isBehind_start
  refine ⟨?_, ?_, ?_, ?_, ?_, ?_⟩
  · rw [hbody, List.length_nil, List.nil_append]
    refine congrArg _ (List.filter_congr fun place hplace => decide_eq_decide.2 ?_)
    simp only [mem_acceptedLines_iff, hplace, true_and]
  · rw [filterMap_acceptedLines]
    exact hsources
  · rw [filterMap_acceptedLines]
    exact hsets
  · rw [hsources.size_eq, length_acceptedDefinitions]
    rfl
  · rw [hsets.size_eq, length_acceptedDefinitions]
    rfl
  · have hsize := size_of_readLines h
    have hstart : Progress.start.catalog.dataSources.size +
        Progress.start.catalog.dataSets.size = 0 := rfl
    omega

end ParsedTemplate

namespace Partition

variable {limits : DeclarationLimits} {lines : List Text} {parsed : ParsedTemplate}

/-- All lines of a kind are accepted if the body has none of them. -/
theorem acceptedLines_eq (h : Partition limits lines parsed) {kind : DeclarationKind}
    (hleft : ∀ line, .text line ∈ parsed.body → definition? kind line = none) :
    acceptedLines limits kind lines = declarationLines kind lines := by
  rw [acceptedLines_eq_filter, declarationLines]
  refine List.filter_congr fun place hplace => ?_
  rw [Bool.eq_iff_iff, decide_eq_true_eq]
  refine ⟨fun haccepts => haccepts.1, fun hform => ?_⟩
  obtain ⟨definition, hform⟩ := Option.isSome_iff_exists.1 hform
  by_contra hnot
  -- a line of the kind that is not accepted is accepted as no other kind either
  have hbody : .text place.1 ∈ parsed.body := by
    rw [h.body, List.mem_map]
    refine ⟨place, List.mem_filter.2 ⟨hplace, decide_eq_true fun other hmem => ?_⟩, rfl⟩
    obtain ⟨-, haccepts⟩ := mem_acceptedLines_iff.1 hmem
    obtain ⟨found, hfound⟩ := Option.isSome_iff_exists.1 haccepts.1
    obtain rfl : kind = other := kind_inj hform hfound
    exact hnot haccepts
  rw [hleft place.1 hbody] at hform
  cases hform

/-- A kind of which nothing is left to the body has no more lines than its limit allows. -/
theorem length_definitionsOf_le (h : Partition limits lines parsed) {kind : DeclarationKind}
    (hleft : ∀ line, .text line ∈ parsed.body → definition? kind line = none) :
    (definitionsOf kind lines).length ≤ limits.most kind + 1 := by
  rw [length_definitionsOf, ← h.acceptedLines_eq hleft, acceptedLines, List.length_take]
  exact Nat.min_le_left _ _

end Partition

/-- **Accepted lines and body together are the template.** A template that can be taken apart is
partitioned, and limits above which no declaration is left may be raised. -/
theorem parse_partition {template : Text} {limits : DeclarationLimits} {parsed : ParsedTemplate}
    (h : ParsedTemplate.parse template limits = .ok parsed) :
    Partition limits (splitLines template) parsed ∧
      ∀ raised : DeclarationLimits, (∀ kind, limits.most kind ≤ raised.most kind) →
        (∀ kind, limits.most kind < raised.most kind →
          ∀ line, .text line ∈ parsed.body → definition? kind line = none) →
        ParsedTemplate.parse template raised = .ok parsed := by
  have hpartition := ParsedTemplate.partition_of_readLines h
  refine ⟨hpartition, fun raised hle hleft => ?_⟩
  rw [← h, ParsedTemplate.parse, ParsedTemplate.parse]
  refine (ParsedTemplate.readLines_congr fun kind => ?_).symm
  rcases Nat.eq_or_lt_of_le (hle kind) with heq | hlt
  · exact .inl heq
  · have hcount := hpartition.length_definitionsOf_le (hleft kind hlt)
    have hstart : ParsedTemplate.Progress.start.linesOf kind = 0 := by cases kind <;> rfl
    rw [hstart, Nat.zero_add, Nat.min_eq_left (hle kind)]
    exact .inr hcount

/-- A template with two declarations of each kind. -/
def crowdedTemplate : Text :=
  writeTemplate [.declareSource ⟨"p", "s", "b", "u", "w"⟩, .body "first",
    .declareSet ⟨"p", .table, "A", "a", []⟩, .declareSource ⟨"q", "s", "b", "u", "w"⟩,
    .body "second", .declareSet ⟨"p", .view, "B", "b", []⟩]

/-- If only one datasource is accepted, the other one is left, and the limit of datasets may be
raised. -/
theorem parse_partition_crowdedTemplate :
    ∃ parsed, ParsedTemplate.parse crowdedTemplate ⟨0, 1⟩ = .ok parsed ∧
      parsed.body = [.text "first", .text (DataSource.toText ⟨"q", "s", "b", "u", "w"⟩),
        .text "second"] ∧
      Partition ⟨0, 1⟩ (splitLines crowdedTemplate) parsed ∧
      ParsedTemplate.parse crowdedTemplate ⟨0, 9⟩ = .ok parsed := by
  have hbody : (ParsedTemplate.parse crowdedTemplate ⟨0, 1⟩).toOption.map ParsedTemplate.body =
      some [.text "first", .text (DataSource.toText ⟨"q", "s", "b", "u", "w"⟩),
        .text "second"] := by decide +kernel
  obtain ⟨parsed, hparse, hbody⟩ := Option.map_eq_some_iff.1 hbody
  have hok : ParsedTemplate.parse crowdedTemplate ⟨0, 1⟩ = .ok parsed := by
    cases h : ParsedTemplate.parse crowdedTemplate ⟨0, 1⟩ with
    | error error => rw [h] at hparse; cases hparse
    | ok other => rw [h] at hparse; cases hparse; rfl
  obtain ⟨hpartition, hraise⟩ := parse_partition hok
  refine ⟨parsed, hok, hbody, hpartition, hraise ⟨0, 9⟩ ?_ ?_⟩
  · rintro (_ | _) <;> decide
  · rintro (_ | _) hlt line hline
    · exact absurd hlt (by decide)
    · rw [hbody] at hline
      simp only [List.mem_cons, Line.text.injEq, List.not_mem_nil, or_false] at hline
      rcases hline with rfl | rfl | rfl <;> decide +kernel

end BoundReport
