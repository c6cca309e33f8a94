import Mathlib.Data.Nat.Find
import BoundReport.Proofs.Acceptance
import BoundReport.Proofs.Lines

/-!
# The First Faulty Line

What is wrong with a line can be told from the line and those before it: an accepted declaration
may be malformed, a dataset may name a datasource that has not been accepted, and a declaration may
repeat a name that has. A template cannot be taken apart just if it has a line with a fault. The
error is that of the first such line, whatever comes behind it.

## Main results

* `step_eq_error_iff`: reading a line fails just with the error of the line.
* `readLines_eq_error_iff`: reading lines fails just with the error of the first faulty one.
* `parse_first_error`: the same for a template, with the places of its lines.
-/

namespace BoundReport

namespace ParsedTemplate

/-- Accepted lines **declare** a name if one of them defines something with the name. -/
def Declares {α : Type} [Named α] (parse : Text → Except DefinitionError α)
    (limits : DeclarationLimits) (before : List Text) (name : Text) : Prop :=
  ∃ definition ∈ acceptedDefinitions limits (Named.kind α) before,
    ∃ value, parse definition = .ok value ∧ Named.name value = name

/-- What is **faulty** about a line behind others. A line may have several faults. -/
inductive Faulty (limits : DeclarationLimits) (before : List Text) (line : Text) :
    ReportError → Prop
  | malformedSource {definition : Text} {reason : DefinitionError}
      (haccepts : Accepts limits .dataSource before line)
      (hline : definition? .dataSource line = some definition)
      (hparse : DataSource.parse definition = .error reason) :
      Faulty limits before line (.malformedDeclaration .dataSource (before.length + 1) reason)
  | duplicateSource {definition : Text} {source : DataSource}
      (haccepts : Accepts limits .dataSource before line)
      (hline : definition? .dataSource line = some definition)
      (hparse : DataSource.parse definition = .ok source)
      (hname : Declares DataSource.parse limits before source.name) :
      Faulty limits before line (.duplicateDefinition .dataSource source.name)
  | malformedSet {definition : Text} {reason : DefinitionError}
      (haccepts : Accepts limits .dataSet before line)
      (hline : definition? .dataSet line = some definition)
      (hparse : DataSet.parse definition = .error reason) :
      Faulty limits before line (.malformedDeclaration .dataSet (before.length + 1) reason)
  | unknownReference {definition : Text} {dataSet : DataSet}
      (haccepts : Accepts limits .dataSet before line)
      (hline : definition? .dataSet line = some definition)
      (hparse : DataSet.parse definition = .ok dataSet)
      (hreference : ¬ Declares DataSource.parse limits before dataSet.dataSource) :
      Faulty limits before line (.unknownReference dataSet.name dataSet.dataSource)
  | duplicateSet {definition : Text} {dataSet : DataSet}
      (haccepts : Accepts limits .dataSet before line)
      (hline : definition? .dataSet line = some definition)
      (hparse : DataSet.parse definition = .ok dataSet)
      (hname : Declares DataSet.parse limits before dataSet.name) :
      Faulty limits before line (.duplicateDefinition .dataSet dataSet.name)

/-- The **rank** of a fault among those of one line: malformed declarations first, then unknown
references, then names that are taken. -/
def rank : ReportError → Nat
  | .malformedDeclaration _ _ _ => 0
  | .unknownReference _ _ => 1
  | _ => 2

/-- The **error** of a line behind others is its first fault by rank. -/
def IsErrorOf (limits : DeclarationLimits) (before : List Text) (line : Text)
    (error : ReportError) : Prop :=
  Faulty limits before line error ∧
    ∀ other, Faulty limits before line other → rank error ≤ rank other

variable {limits : DeclarationLimits} {progress next : Progress} {before rest : List Text}
  {line : Text} {error : ReportError}

/-- A line with a fault has a first one. -/
theorem Faulty.exists_isErrorOf (h : Faulty limits before line error) :
    ∃ first, IsErrorOf limits before line first := by
  classical
  have hex : ∃ n error, Faulty limits before line error ∧ rank error = n := ⟨_, _, h, rfl⟩
  obtain ⟨first, hfirst, hrank⟩ := Nat.find_spec hex
  exact ⟨first, hfirst, fun other hother => hrank ▸ Nat.find_min' hex ⟨other, hother, rfl⟩⟩

/-- A datasource that is well-formed can only have a name that is taken. -/
theorem Faulty.rank_of_source {definition : Text} {source : DataSource}
    (hline : definition? .dataSource line = some definition)
    (hparse : DataSource.parse definition = .ok source) (h : Faulty limits before line error) :
    2 ≤ rank error := by
  cases h with
  | malformedSource _ hline' hparse' =>
    obtain rfl := Option.some.inj (hline.symm.trans hline')
    rw [hparse] at hparse'
    cases hparse'
  | duplicateSource => exact Nat.le_refl 2
  | malformedSet _ hline' | unknownReference _ hline' | duplicateSet _ hline' =>
    rw [definition?_eq_none (by decide) hline] at hline'
    cases hline'

/-- A dataset that is well-formed can only have a name that is taken, if its datasource is there. -/
theorem Faulty.rank_of_set {definition : Text} {dataSet : DataSet}
    (hline : definition? .dataSet line = some definition)
    (hparse : DataSet.parse definition = .ok dataSet) (h : Faulty limits before line error) :
    1 ≤ rank error ∧
      (Declares DataSource.parse limits before dataSet.dataSource → 2 ≤ rank error) := by
  cases h with
  | malformedSource _ hline' | duplicateSource _ hline' =>
    rw [definition?_eq_none (by decide) hline] at hline'
    cases hline'
  | malformedSet _ hline' hparse' =>
    obtain rfl := Option.some.inj (hline.symm.trans hline')
    rw [hparse] at hparse'
    cases hparse'
  | unknownReference _ hline' hparse' hreference =>
    obtain rfl := Option.some.inj (hline.symm.trans hline')
    rw [hparse] at hparse'
    cases hparse'
    exact ⟨Nat.le_refl 1, fun hdeclares => absurd hdeclares hreference⟩
  | duplicateSet => exact ⟨Nat.le_succ 1, fun _ => Nat.le_refl 2⟩

/-- Reading a line fails just if what it declares up to the limit of its kind cannot be declared. -/
theorem step_eq_error_iff_declare :
    step limits progress line = .error error ↔
      (∃ definition, definition? .dataSource line = some definition ∧
        progress.sourceLines ≤ limits.maxDataSources ∧
        declareDataSource progress.catalog (progress.line + 1) definition = .error error) ∨
      ∃ definition, definition? .dataSet line = some definition ∧
        progress.setLines ≤ limits.maxDataSets ∧
        declareDataSet progress.catalog (progress.line + 1) definition = .error error := by
  have hpure {α : Type} {first : Except ReportError α} {f : α → Progress × Option Text} :
      (first >>= fun a => pure (f a)) = .error error ↔ first = .error error := by
    cases first <;> simp [bind, Except.bind, pure, Except.pure]
  have hnever {result : Progress × Option Text} :
      (pure result : Except ReportError _) ≠ .error error := by
    intro h
    cases h
  rw [step]
  cases hsource : definition? .dataSource line with
  | some definition =>
    have hset : definition? .dataSet line = none := definition?_eq_none (by decide) hsource
    rw [definition?] at hsource
    by_cases hlimit : progress.sourceLines ≤ limits.maxDataSources
    · simp only [hsource, if_pos hlimit, hpure]
      simp [hset, hlimit]
    · simp only [hsource, if_neg hlimit, hnever]
      simp [hset, hlimit]
  | none =>
    rw [definition?] at hsource
    cases hset : definition? .dataSet line with
    | some definition =>
      rw [definition?] at hset
      by_cases hlimit : progress.setLines ≤ limits.maxDataSets
      · simp only [hsource, hset, if_pos hlimit, hpure]
        simp [hlimit]
      · simp only [hsource, hset, if_neg hlimit, hnever]
        simp [hlimit]
    | none =>
      rw [definition?] at hset
      simp only [hsource, hset, hnever]
      simp

/-- **Reading a line fails just with the error of the line.** -/
theorem step_eq_error_iff (hbefore : progress.IsBehind limits before) :
    step limits progress line = .error error ↔ IsErrorOf limits before line error := by
  have hsources : progress.sourceLines = (definitionsOf .dataSource before).length :=
    hbefore.count .dataSource
  have hsets : progress.setLines = (definitionsOf .dataSet before).length := hbefore.count .dataSet
  have hsource (name : Text) : progress.catalog.dataSources.contains name ↔
      Declares DataSource.parse limits before name := hbefore.sources.contains_iff
  have hset (name : Text) : progress.catalog.dataSets.contains name ↔
      Declares DataSet.parse limits before name := hbefore.sets.contains_iff
  have haccepts {kind : DeclarationKind} {definition : Text}
      (hline : definition? kind line = some definition) : Accepts limits kind before line ↔
        progress.linesOf kind ≤ limits.most kind := by
    rw [Accepts, hline, hbefore.count]
    exact and_iff_right rfl
  rw [step_eq_error_iff_declare, hbefore.line]
  constructor
  · rintro (⟨definition, hline, hlimit, hdeclare⟩ | ⟨definition, hline, hlimit, hdeclare⟩)
    · have hwithin := (haccepts hline).2 hlimit
      rcases declareDataSource_eq_error_iff.1 hdeclare with
        ⟨reason, hparse, rfl⟩ | ⟨source, hparse, hname, rfl⟩
      · exact ⟨.malformedSource hwithin hline hparse, fun other _ => Nat.zero_le _⟩
      · exact ⟨.duplicateSource hwithin hline hparse ((hsource _).1 hname), fun other hother =>
          hother.rank_of_source hline hparse⟩
    · have hwithin := (haccepts hline).2 hlimit
      rcases declareDataSet_eq_error_iff.1 hdeclare with
        ⟨reason, hparse, rfl⟩ | ⟨dataSet, hparse, h⟩
      · exact ⟨.malformedSet hwithin hline hparse, fun other _ => Nat.zero_le _⟩
      · split at h
        · rename_i hreference
          obtain ⟨hname, rfl⟩ := h
          exact ⟨.duplicateSet hwithin hline hparse ((hset _).1 hname), fun other hother =>
            (hother.rank_of_set hline hparse).2 ((hsource _).1 hreference)⟩
        · rename_i hreference
          subst h
          exact ⟨.unknownReference hwithin hline hparse fun h => hreference ((hsource _).2 h),
            fun other hother => (hother.rank_of_set hline hparse).1⟩
  · rintro ⟨hfault, hleast⟩
    cases hfault with
    | malformedSource hwithin hline hparse =>
      exact .inl ⟨_, hline, (haccepts hline).1 hwithin,
        declareDataSource_eq_error_iff.2 (.inl ⟨_, hparse, rfl⟩)⟩
    | duplicateSource hwithin hline hparse hname =>
      exact .inl ⟨_, hline, (haccepts hline).1 hwithin,
        declareDataSource_eq_error_iff.2 (.inr ⟨_, hparse, (hsource _).2 hname, rfl⟩)⟩
    | malformedSet hwithin hline hparse =>
      exact .inr ⟨_, hline, (haccepts hline).1 hwithin,
        declareDataSet_eq_error_iff.2 (.inl ⟨_, hparse, rfl⟩)⟩
    | @unknownReference definition dataSet hwithin hline hparse hreference =>
      have hnot : ¬ progress.catalog.dataSources.contains dataSet.dataSource :=
        fun h => hreference ((hsource _).1 h)
      exact .inr ⟨_, hline, (haccepts hline).1 hwithin,
        declareDataSet_eq_error_iff.2 (.inr ⟨_, hparse, by rw [if_neg hnot]⟩)⟩
    | @duplicateSet definition dataSet hwithin hline hparse hname =>
      -- otherwise the unknown reference would come first
      have hreference : progress.catalog.dataSources.contains dataSet.dataSource := by
        by_contra hnot
        have hle := hleast _ (.unknownReference hwithin hline hparse fun h =>
          hnot ((hsource _).2 h))
        exact absurd hle (Nat.not_succ_le_self 1)
      exact .inr ⟨_, hline, (haccepts hline).1 hwithin,
        declareDataSet_eq_error_iff.2 (.inr ⟨_, hparse, by
          rw [if_pos hreference]; exact ⟨(hset _).2 hname, rfl⟩⟩)⟩

/-- The **first error** of lines is that of the first line with a fault, behind the lines before
it. -/
def IsFirstError (limits : DeclarationLimits) (before lines : List Text) (error : ReportError) :
    Prop :=
  ∃ place line, lines[place]? = some line ∧
    IsErrorOf limits (before ++ lines.take place) line error ∧
    ∀ earlier < place, ∀ other, lines[earlier]? = some other →
      ∀ fault, ¬ Faulty limits (before ++ lines.take earlier) other fault

/-- A line that is read has no faults. -/
theorem Reads.not_faulty {left : Option Text} (h : Reads limits progress line next left)
    (hbefore : progress.IsBehind limits before) (fault : ReportError) :
    ¬ Faulty limits before line fault := by
  intro hfault
  obtain ⟨first, hfirst⟩ := hfault.exists_isErrorOf
  have hstep := (step_eq_error_iff hbefore).2 hfirst
  rw [step_eq_ok_iff.2 h] at hstep
  cases hstep

/-- A line with an error is the first one with a fault. -/
theorem IsErrorOf.isFirstError_cons_iff {other : ReportError}
    (hbefore : progress.IsBehind limits before) (h : IsErrorOf limits before line other) :
    IsFirstError limits before (line :: rest) error ↔ other = error := by
  constructor
  · rintro ⟨place, another, hanother, herror, hearlier⟩
    cases place with
    | zero =>
      obtain rfl : line = another := by simpa using hanother
      rw [List.take_zero, List.append_nil, ← step_eq_error_iff hbefore] at herror
      rw [← step_eq_error_iff hbefore, herror] at h
      exact (Except.error.inj h).symm
    | succ place =>
      have hnot := hearlier 0 (Nat.succ_pos place) line rfl other
      rw [List.take_zero, List.append_nil] at hnot
      exact absurd h.1 hnot
  · rintro rfl
    refine ⟨0, line, rfl, by simpa using h, fun earlier hearlier => ?_⟩
    exact absurd hearlier (Nat.not_lt_zero earlier)

/-- A line without faults is passed over. -/
theorem isFirstError_cons_iff (h : ∀ fault, ¬ Faulty limits before line fault) :
    IsFirstError limits before (line :: rest) error ↔
      IsFirstError limits (before ++ [line]) rest error := by
  have htake (place : Nat) : before ++ (line :: rest).take (place + 1) =
      before ++ [line] ++ rest.take place := by simp
  constructor
  · rintro ⟨place, other, hother, herror, hearlier⟩
    cases place with
    | zero =>
      obtain rfl : line = other := by simpa using hother
      rw [List.take_zero, List.append_nil] at herror
      exact absurd herror.1 (h error)
    | succ place =>
      refine ⟨place, other, hother, htake place ▸ herror, fun earlier hlt another hanother => ?_⟩
      rw [← htake]
      exact hearlier (earlier + 1) (Nat.succ_lt_succ hlt) another hanother
  · rintro ⟨place, other, hother, herror, hearlier⟩
    refine ⟨place + 1, other, hother, (htake place).symm ▸ herror, ?_⟩
    intro earlier hlt another hanother
    cases earlier with
    | zero =>
      obtain rfl : line = another := by simpa using hanother
      rw [List.take_zero, List.append_nil]
      exact h
    | succ earlier =>
      rw [htake]
      exact hearlier earlier (Nat.lt_of_succ_lt_succ hlt) another hanother

/-- **Reading lines fails just with their first error.** -/
theorem readLines_eq_error_iff (hbefore : progress.IsBehind limits before) :
    readLines limits progress rest = .error error ↔ IsFirstError limits before rest error := by
  induction rest generalizing progress before with
  | nil =>
    constructor
    · intro h
      cases h
    · rintro ⟨place, line, hline, -⟩
      cases hline
  | cons line rest ih =>
    rw [readLines_cons_eq_error_iff]
    cases hstep : step limits progress line with
    | error other =>
      have hother := (step_eq_error_iff hbefore).1 hstep
      have hnever (next : Progress) (left : Option Text) :
          ¬ Reads limits progress line next left := fun hread => by
        rw [step_eq_ok_iff.2 hread] at hstep
        cases hstep
      rw [hother.isFirstError_cons_iff hbefore]
      simp only [Except.error.injEq, hnever, false_and, exists_false, or_false]
    | ok result =>
      obtain ⟨next, left⟩ := result
      have hread := step_eq_ok_iff.1 hstep
      rw [isFirstError_cons_iff (hread.not_faulty hbefore), ← ih (.of_reads hread hbefore)]
      constructor
      · rintro (h | ⟨other, left', hread', h⟩)
        · cases h
        · rw [← step_eq_ok_iff, hstep] at hread'
          cases hread'
          exact h
      · exact fun h => .inr ⟨next, left, hread, h⟩

/-- Lines have a first error if one of them has a fault. -/
theorem exists_isFirstError_iff {lines : List Text} :
    (∃ error, IsFirstError limits [] lines error) ↔
      ∃ place line, lines[place]? = some line ∧
        ∃ fault, Faulty limits (lines.take place) line fault := by
  constructor
  · rintro ⟨error, place, line, hline, herror, -⟩
    exact ⟨place, line, hline, error, herror.1⟩
  · intro hex
    classical
    obtain ⟨line, hline, fault, hfault⟩ := Nat.find_spec hex
    obtain ⟨first, hfirst⟩ := hfault.exists_isErrorOf
    refine ⟨first, _, line, hline, hfirst, fun earlier hearlier other hother fault' hfault' => ?_⟩
    exact Nat.find_min hex hearlier ⟨other, hother, fault', hfault'⟩

end ParsedTemplate

/-- A line found at a place stands in the text behind as many line ends. -/
theorem exists_head_of_getElem? {text line : Text} {place : Nat}
    (h : (splitLines text)[place]? = some line) :
    ∃ head tail, text = head ++ (line ++ tail) ∧ lineEnds head = place ∧ IsLine line ∧
      ∀ c ∈ tail.head?, c = '\r' ∨ c = '\n' := by
  obtain ⟨hlt, hget⟩ := List.getElem?_eq_some_iff.1 h
  have hsplit : splitLines text =
      (splitLines text).take place ++ line :: (splitLines text).drop (place + 1) := by
    rw [← hget, List.getElem_cons_drop, List.take_append_drop]
  obtain ⟨head, tail, htext, -, hends, hline, htail⟩ := exists_head_of_splitLines hsplit
  rw [List.length_take, Nat.min_eq_left (Nat.le_of_lt hlt)] at hends
  exact ⟨head, tail, htext, hends, hline, htail⟩

open ParsedTemplate

/-- **The first faulty line decides.** A template cannot be taken apart just if one of its lines has
a fault. The error is that of the first such line; if it is a malformed declaration, it tells its
kind and its number, which is one more than the number of line ends before the line. What comes
behind that line does not matter. -/
theorem parse_first_error (template : Text) (limits : DeclarationLimits) :
    (∀ error, parse template limits = .error error ↔
      IsFirstError limits [] (splitLines template) error) ∧
    ((∃ error, parse template limits = .error error) ↔
      ∃ place line, (splitLines template)[place]? = some line ∧
        ∃ fault, Faulty limits ((splitLines template).take place) line fault) ∧
    (∀ kind number reason,
      parse template limits = .error (.malformedDeclaration kind number reason) →
        ∃ head line tail definition, template = head ++ (line ++ tail) ∧ IsLine line ∧
          (∀ c ∈ tail.head?, c = '\r' ∨ c = '\n') ∧ number = lineEnds head + 1 ∧
          (splitLines template)[lineEnds head]? = some line ∧
          definition? kind line = some definition ∧
          match kind with
          | .dataSource => DataSource.parse definition = .error reason
          | .dataSet => DataSet.parse definition = .error reason) ∧
    ∀ error, parse template limits = .error error →
      ∀ more, parse (template ++ '\n' :: more) limits = .error error := by
  have hfirst (error : ReportError) : parse template limits = .error error ↔
      IsFirstError limits [] (splitLines template) error :=
    readLines_eq_error_iff Progress.isBehind_start
  refine ⟨hfirst, ?_, ?_, ?_⟩
  · simp only [hfirst, exists_isFirstError_iff]
  · intro kind number reason h
    obtain ⟨place, line, hline, ⟨hfault, -⟩, -⟩ := (hfirst _).1 h
    obtain ⟨head, tail, htemplate, rfl, hisLine, htail⟩ := exists_head_of_getElem? hline
    have hlength : ((splitLines template).take (lineEnds head)).length = lineEnds head :=
      List.length_take_of_le (Nat.le_of_lt (List.getElem?_eq_some_iff.1 hline).1)
    rw [List.nil_append] at hfault
    cases hfault with
    | malformedSource _ hform hparse =>
      exact ⟨head, line, tail, _, htemplate, hisLine, htail, by rw [hlength], hline, hform, hparse⟩
    | malformedSet _ hform hparse =>
      exact ⟨head, line, tail, _, htemplate, hisLine, htail, by rw [hlength], hline, hform, hparse⟩
  · intro error h more
    obtain ⟨others, hothers⟩ := splitLines_prefix template more
    rw [parse, ← hothers]
    exact readLines_append_of_error h

end BoundReport
