import BoundReport.Proofs.Blocks
import BoundReport.Proofs.LoopNumbers
import BoundReport.Proofs.Lookups

/-!
# Documents One behind the Other

If a document ends outside of loops, a second one can be put behind it, and both are filled in as
they would be on their own. This takes an engine that is **steady**: its answers do not depend on
its state, since with both documents at hand all loops are filled in before any tag is. The loops
of the second document get other numbers behind the first one. Numbers only tell loops apart and
name them in warnings, so two computations are compared by a **renumbering**: one mirrors another
if it has the same result and, with loops renumbered, the same warnings.

## Main results

* `extractLoops_append`: taking the loops out of both documents together.
* `Mirrors.bind`: computations in a row mirror computations in a row.
* `mirrors_resolveLoops`, `mirrors_resolveTags`: filling in does not depend on the numbers of
  loops, nor on the engine's state.
* `process_append`: filling in both documents together.
-/

namespace BoundReport

/-! ### Renumbering -/

/-- The number of a loop behind this many other loops. -/
def LoopId.shift (count : Nat) (id : LoopId) : LoopId := ⟨count + id.index⟩

/-- A loop with its number changed. -/
def Loop.renumber (f : LoopId → LoopId) (loop : Loop) : Loop := { loop with id := f loop.id }

/-- A line with the number of a placeholder changed. -/
def Line.renumber (f : LoopId → LoopId) : Line → Line
  | .text content => .text content
  | .placeholder id => .placeholder (f id)

/-- A warning with the number of its loop changed. -/
def Warning.renumber (f : LoopId → LoopId) : Warning → Warning
  | .unresolvedLoop loop dataSet => .unresolvedLoop (f loop) dataSet
  | .unresolvedTag tag dataSet => .unresolvedTag tag dataSet
  | .queryFailed dataSet failure => .queryFailed dataSet failure
  | .unterminatedLoop loop dataSet => .unterminatedLoop (f loop) dataSet

theorem Line.renumber_id : Line.renumber id = id := by
  funext line
  cases line <;> rfl

theorem Warning.renumber_id : Warning.renumber id = id := by
  funext warning
  cases warning <;> rfl

/-! ### Taking out loops -/

/-- Behind a document that ends outside of loops a second decomposition begins. -/
theorem Decomposes.append {first second : List Text} {sections₁ sections₂ : List Section}
    {next : Nat} (h₁ : Decomposes first sections₁) (hclosed : openLoopOf next sections₁ = none)
    (h₂ : Decomposes second sections₂) :
    Decomposes (first ++ second) (sections₁ ++ sections₂) := by
  induction h₁ generalizing next with
  | nil => exact h₂
  | outside hline _ ih =>
    rw [openLoopOf_cons rfl] at hclosed
    exact .outside hline (ih hclosed)
  | closed hstart hbody hstop _ ih =>
    rw [openLoopOf_cons rfl] at hclosed
    rw [List.cons_append, List.append_assoc]
    exact .closed hstart hbody hstop (ih hclosed)
  | unclosed hstart hbody => simp [openLoopOf, loopsOf, Section.isOpen] at hclosed

theorem loopsOf_append (next : Nat) (sections₁ sections₂ : List Section) :
    loopsOf next (sections₁ ++ sections₂) = loopsOf next sections₁ ++
      loopsOf (next + (loopsOf next sections₁).length) sections₂ := by
  induction sections₁ generalizing next with
  | nil => rfl
  | cons first rest ih =>
    cases first with
    | outside line => exact ih next
    | block start header body stop =>
      have hnumber : next + ((loopsOf (next + 1) rest).length + 1) =
          next + 1 + (loopsOf (next + 1) rest).length := by omega
      rw [List.cons_append, loopsOf, loopsOf, ih, List.length_cons, hnumber, List.cons_append]

theorem documentOf_append (next : Nat) (sections₁ sections₂ : List Section) :
    documentOf next (sections₁ ++ sections₂) = documentOf next sections₁ ++
      documentOf (next + (loopsOf next sections₁).length) sections₂ := by
  induction sections₁ generalizing next with
  | nil => rfl
  | cons first rest ih =>
    cases first with
    | outside line => exact congrArg (_ :: ·) (ih next)
    | block start header body stop =>
      have hnumber : next + ((loopsOf (next + 1) rest).length + 1) =
          next + 1 + (loopsOf (next + 1) rest).length := by omega
      rw [List.cons_append, documentOf, documentOf, loopsOf, ih, List.length_cons, hnumber,
        List.cons_append]

theorem openLoopOf_append {next : Nat} {sections₁ : List Section}
    (hclosed : openLoopOf next sections₁ = none) (sections₂ : List Section) :
    openLoopOf next (sections₁ ++ sections₂) =
      openLoopOf (next + (loopsOf next sections₁).length) sections₂ := by
  cases sections₂ with
  | nil => rw [List.append_nil, hclosed]; rfl
  | cons first rest =>
    rw [openLoopOf, openLoopOf, List.getLast?_append_of_ne_nil _ (List.cons_ne_nil first rest)]
    split
    · rename_i hopen
      rw [loopsOf_append, List.getLast?_append_of_ne_nil _ (loopsOf_ne_nil hopen _)]
    · rfl

/-- Sections leave the same loops further on, with other numbers. -/
theorem loopsOf_add (count next : Nat) (sections : List Section) :
    loopsOf (count + next) sections =
      (loopsOf next sections).map (Loop.renumber (LoopId.shift count)) := by
  induction sections generalizing next with
  | nil => rfl
  | cons first rest ih =>
    cases first with
    | outside line => exact ih next
    | block start header body stop => exact congrArg (_ :: ·) (ih (next + 1))

/-- Sections leave the same lines further on, with other numbers. -/
theorem documentOf_add (count next : Nat) (sections : List Section) :
    documentOf (count + next) sections =
      (documentOf next sections).map (Line.renumber (LoopId.shift count)) := by
  induction sections generalizing next with
  | nil => rfl
  | cons first rest ih =>
    cases first with
    | outside line => exact congrArg (_ :: ·) (ih next)
    | block start header body stop => exact congrArg (_ :: ·) (ih (next + 1))

theorem openLoopOf_add (count next : Nat) (sections : List Section) :
    openLoopOf (count + next) sections =
      (openLoopOf next sections).map (Loop.renumber (LoopId.shift count)) := by
  rw [openLoopOf, openLoopOf, loopsOf_add, List.getLast?_map]
  split <;> rfl

/-- **Taking the loops out of two documents**, the first of which ends outside of loops, is taking
them out of each. The loops of the second one are numbered behind those of the first. -/
theorem extractLoops_append {first second : List Text}
    (hclosed : (extractLoops (first.map Line.text)).table.openLoop = none) :
    extractLoops ((first ++ second).map Line.text) =
      ⟨(extractLoops (first.map Line.text)).document ++
          (extractLoops (second.map Line.text)).document.map
            (Line.renumber (.shift (extractLoops (first.map Line.text)).table.loops.length)),
        (extractLoops (first.map Line.text)).table.loops ++
          (extractLoops (second.map Line.text)).table.loops.map
            (Loop.renumber (.shift (extractLoops (first.map Line.text)).table.loops.length)),
        (extractLoops (second.map Line.text)).table.openLoop.map
          (.shift (extractLoops (first.map Line.text)).table.loops.length)⟩ := by
  obtain ⟨sections₁, h₁⟩ := exists_decomposes first
  obtain ⟨sections₂, h₂⟩ := exists_decomposes second
  have hfirst : extractLoops (first.map Line.text) = _ := scan_eq_of_decomposes h₁ 0
  have hsecond : extractLoops (second.map Line.text) = _ := scan_eq_of_decomposes h₂ 0
  rw [hfirst, Option.map_eq_none_iff] at hclosed
  have hboth : extractLoops ((first ++ second).map Line.text) = _ :=
    scan_eq_of_decomposes (h₁.append hclosed h₂) 0
  rw [hboth, hfirst, hsecond, documentOf_append, loopsOf_append, openLoopOf_append hclosed,
    Nat.zero_add, ← Nat.add_zero (loopsOf 0 sections₁).length, documentOf_add, loopsOf_add,
    openLoopOf_add, Option.map_map, Option.map_map]
  rfl

/-- The placeholders of a document are those of its loops. -/
theorem index_lt_of_mem_document {lines : List Text} {id : LoopId}
    (h : .placeholder id ∈ (extractLoops (lines.map Line.text)).document) :
    id.index < (extractLoops (lines.map Line.text)).table.loops.length := by
  obtain ⟨sections, hsections⟩ := exists_decomposes lines
  have hextract : extractLoops (lines.map Line.text) = _ := scan_eq_of_decomposes hsections 0
  rw [hextract] at h ⊢
  have hmem : id ∈ (documentOf 0 sections).placeholders := List.mem_filterMap.2 ⟨_, h, rfl⟩
  rw [placeholders_documentOf, map_id_loopsOf] at hmem
  obtain ⟨index, hindex, rfl⟩ := List.mem_map.1 hmem
  simpa using (List.mem_range'_1.1 hindex).2

/-! ### Mirroring -/

/-- An engine is **steady** if its answers do not depend on its state, and so not on what it has
been asked before. It may fail. -/
def Engine.Steady {σ : Type} (engine : Engine σ) : Prop :=
  ∀ source invocation state₁ state₂,
    (engine.execute source invocation state₁).1 = (engine.execute source invocation state₂).1

variable {σ α β : Type} {f : LoopId → LoopId}

/-- A computation **mirrors** another one if, from whatever states of the engine the two are run,
it has the same result and, with loops renumbered, the same warnings. -/
def Mirrors (f : LoopId → LoopId) (one two : Resolution σ α) : Prop :=
  ∀ state₁ state₂, (two.run state₂).value = (one.run state₁).value ∧
    (two.run state₂).warnings = (one.run state₁).warnings.map (Warning.renumber f)

namespace Mirrors

theorem pure (value : α) : Mirrors f (pure value : Resolution σ α) (Pure.pure value) :=
  fun _ _ => ⟨rfl, rfl⟩

theorem warn (warning : Warning) :
    Mirrors f (Resolution.warn warning : Resolution σ Unit)
      (Resolution.warn (warning.renumber f)) := fun _ _ => ⟨rfl, rfl⟩

/-- **In a row**, computations mirror computations. -/
theorem bind {one two : Resolution σ α} {next₁ next₂ : α → Resolution σ β}
    (h : Mirrors f one two) (hnext : ∀ value, Mirrors f (next₁ value) (next₂ value)) :
    Mirrors f (one >>= next₁) (two >>= next₂) := by
  intro state₁ state₂
  obtain ⟨hvalue, hwarnings⟩ := h state₁ state₂
  obtain ⟨hvalue', hwarnings'⟩ :=
    hnext (one.run state₁).value (one.run state₁).state (two.run state₂).state
  rw [Resolution.run_bind, Resolution.run_bind, hvalue]
  exact ⟨hvalue', by rw [hwarnings, hwarnings', List.map_append]⟩

end Mirrors

variable {catalog : Catalog} {engine : Engine σ}

theorem mirrors_runDataSet (h : engine.Steady) (dataSet : DataSet) :
    Mirrors f (runDataSet catalog engine dataSet) (runDataSet catalog engine dataSet) := by
  rw [runDataSet]
  cases catalog.dataSourceFor? dataSet with
  | none => exact .pure _
  | some source =>
    cases dataSet.invocation? with
    | none => exact .pure _
    | some invocation => exact fun state₁ state₂ => ⟨h source invocation state₂ state₁, rfl⟩

theorem mirrors_fetch (h : engine.Steady) (name : Text) :
    Mirrors f (fetch catalog engine name) (fetch catalog engine name) := by
  rw [fetch]
  cases catalog.dataSets.get? name with
  | none => exact .pure _
  | some dataSet =>
    refine (mirrors_runDataSet h dataSet).bind fun answer => ?_
    cases answer with
    | ok rows => exact .pure _
    | error failure => exact (Mirrors.warn (.queryFailed name failure)).bind fun _ => .pure _

theorem mirrors_resolveLoop (h : engine.Steady) (loop : Loop) :
    Mirrors f (resolveLoop catalog engine loop) (resolveLoop catalog engine (loop.renumber f)) := by
  refine (mirrors_fetch h loop.dataSet).bind fun rows => ?_
  match rows with
  | none => exact (Mirrors.warn (.unresolvedLoop loop.id loop.dataSet)).bind fun _ => .pure _
  | some [] => exact .pure _
  | some (_ :: _) => exact .pure _

theorem mirrors_resolveLoopLine (h : engine.Steady) {table₁ table₂ : LoopTable} {line : Line}
    (hline : ∀ id, line = .placeholder id →
      table₂.get? (f id) = (table₁.get? id).map (Loop.renumber f)) :
    Mirrors f (resolveLoopLine catalog engine table₁ line)
      (resolveLoopLine catalog engine table₂ (line.renumber f)) := by
  cases line with
  | text content => exact .pure _
  | placeholder id =>
    rw [Line.renumber, resolveLoopLine, resolveLoopLine, hline id rfl]
    cases table₁.get? id with
    | none => exact .pure _
    | some loop => exact mirrors_resolveLoop h loop

/-- **Filling in loops does not depend on their numbers**, as long as each placeholder has its
loop under its number. -/
theorem mirrors_resolveLoops (h : engine.Steady) {table₁ table₂ : LoopTable} {document : Document}
    (hdocument : ∀ id, .placeholder id ∈ document →
      table₂.get? (f id) = (table₁.get? id).map (Loop.renumber f)) :
    Mirrors f (resolveLoops catalog engine table₁ document)
      (resolveLoops catalog engine table₂ (document.map (Line.renumber f))) := by
  induction document with
  | nil => exact .pure _
  | cons line rest ih =>
    have hrest := ih fun id hid => hdocument id (List.mem_cons_of_mem _ hid)
    refine (mirrors_resolveLoopLine h fun id hid => ?_).bind fun _ => hrest.bind fun _ => .pure _
    exact hdocument id (hid ▸ List.mem_cons_self)

theorem mirrors_resolveTag (h : engine.Steady) (tag : Tag) :
    Mirrors f (resolveTag catalog engine tag) (resolveTag catalog engine tag) := by
  refine (mirrors_fetch h tag.dataSet).bind fun rows => ?_
  cases rows with
  | none => exact (Mirrors.warn (.unresolvedTag tag.raw tag.dataSet)).bind fun _ => .pure _
  | some rows => exact .pure _

theorem mirrors_resolveFragments (h : engine.Steady) (found : List Fragment) :
    Mirrors f (resolveFragments catalog engine found) (resolveFragments catalog engine found) := by
  induction found with
  | nil => exact .pure _
  | cons fragment rest ih =>
    cases fragment with
    | literal text => exact ih.bind fun _ => .pure _
    | tag tag => exact (mirrors_resolveTag h tag).bind fun _ => ih.bind fun _ => .pure _

theorem mirrors_resolveTagLine (h : engine.Steady) (line : Line) :
    Mirrors f (resolveTagLine catalog engine line) (resolveTagLine catalog engine line) := by
  cases line with
  | placeholder id => exact .pure _
  | text content =>
    rw [resolveTagLine]
    split
    · exact .pure _
    · exact (mirrors_resolveFragments h (fragments content)).bind fun _ => .pure _

/-- **Filling in tags does not depend on the engine's state.** -/
theorem mirrors_resolveTags (h : engine.Steady) (document : Document) :
    Mirrors f (resolveTags catalog engine document) (resolveTags catalog engine document) := by
  induction document with
  | nil => exact .pure _
  | cons line rest ih =>
    exact (mirrors_resolveTagLine h line).bind fun _ => ih.bind fun _ => .pure _

/-! ### Filling in both documents -/

/-- The loops of two documents are filled in one document after the other. -/
theorem run_resolveLoops_append (table : LoopTable) (first second : Document) (state : σ) :
    (resolveLoops catalog engine table (first ++ second)).run state =
      (do
        let one ← resolveLoops catalog engine table first
        let two ← resolveLoops catalog engine table second
        return one ++ two : Resolution σ Document).run state := by
  induction first generalizing state with
  | nil => simp [resolveLoops]
  | cons line rest ih =>
    rw [List.cons_append, resolveLoops, resolveLoops]
    simp only [Resolution.run_bind, Resolution.run_pure, ih, List.append_assoc, List.append_nil]

/-- The tags of two documents are filled in one document after the other. -/
theorem run_resolveTags_append (first second : Document) (state : σ) :
    (resolveTags catalog engine (first ++ second)).run state =
      (do
        let one ← resolveTags catalog engine first
        let two ← resolveTags catalog engine second
        return one ++ two : Resolution σ Document).run state := by
  induction first generalizing state with
  | nil => simp [resolveTags]
  | cons line rest ih =>
    rw [List.cons_append, resolveTags, resolveTags]
    simp only [Resolution.run_bind, Resolution.run_pure, ih, List.append_assoc, List.append_nil,
      List.cons_append]

/-- After loops have been taken out of two documents, filling in both is filling in each, if the
first document has its loops under their old numbers and the second one under new numbers. -/
theorem run_resolve_append (catalog : Catalog) (h : engine.Steady) {table table₁ table₂ : LoopTable}
    {document₁ document₂ : Document}
    (h₁ : ∀ id, .placeholder id ∈ document₁ → table.get? id = table₁.get? id)
    (h₂ : ∀ id, .placeholder id ∈ document₂ →
      table.get? (f id) = (table₂.get? id).map (Loop.renumber f))
    (state state₁ state₂ : σ) :
    ((resolveLoops catalog engine table (document₁ ++ document₂.map (Line.renumber f)) >>=
        resolveTags catalog engine).run state).value =
      ((resolveLoops catalog engine table₁ document₁ >>= resolveTags catalog engine).run
          state₁).value ++
        ((resolveLoops catalog engine table₂ document₂ >>= resolveTags catalog engine).run
          state₂).value ∧
    ((resolveLoops catalog engine table (document₁ ++ document₂.map (Line.renumber f)) >>=
        resolveTags catalog engine).run state).warnings.Perm
      (((resolveLoops catalog engine table₁ document₁ >>= resolveTags catalog engine).run
          state₁).warnings ++
        ((resolveLoops catalog engine table₂ document₂ >>= resolveTags catalog engine).run
          state₂).warnings.map (Warning.renumber f)) := by
  have hone : Mirrors id (resolveLoops catalog engine table₁ document₁)
      (resolveLoops catalog engine table document₁) := by
    have hmirrors : Mirrors id (resolveLoops catalog engine table₁ document₁)
        (resolveLoops catalog engine table (document₁.map (Line.renumber id))) :=
      mirrors_resolveLoops h fun id hmem => by
        rw [id_eq, h₁ id hmem]
        exact Option.map_id_apply.symm
    rwa [Line.renumber_id, List.map_id] at hmirrors
  have htwo : Mirrors f (resolveLoops catalog engine table₂ document₂)
      (resolveLoops catalog engine table (document₂.map (Line.renumber f))) :=
    mirrors_resolveLoops h h₂
  -- the two loop passes come first, and then the two tag passes over what they leave
  simp only [Resolution.run_bind, Resolution.run_pure, run_resolveLoops_append,
    run_resolveTags_append]
  obtain ⟨hloops₁, hwarnings₁⟩ := hone state₁ state
  obtain ⟨hloops₂, hwarnings₂⟩ := htwo state₂
    ((resolveLoops catalog engine table document₁).run state).state
  rw [hloops₁, hloops₂, hwarnings₁, hwarnings₂]
  generalize (resolveLoops catalog engine table₁ document₁).run state₁ = left
  generalize (resolveLoops catalog engine table₂ document₂).run state₂ = right
  generalize Outcome.state _ = now
  have hthree : Mirrors id (resolveTags catalog engine left.value) _ := mirrors_resolveTags h _
  have hfour : Mirrors f (resolveTags catalog engine right.value) _ := mirrors_resolveTags h _
  obtain ⟨htags₁, hwarnings₃⟩ := hthree left.state now
  obtain ⟨htags₂, hwarnings₄⟩ := hfour right.state
    ((resolveTags catalog engine left.value).run now).state
  rw [htags₁, htags₂, hwarnings₃, hwarnings₄]
  refine ⟨rfl, ?_⟩
  simp only [Warning.renumber_id, List.map_id, List.append_nil, List.map_append,
    List.append_assoc]
  exact (List.perm_append_comm_assoc _ _ _).append_left _

/-- The warning for an open loop carries the number of the loop. -/
theorem map_openWarning_renumber (loop? : Option Loop) :
    (loop?.map (Loop.renumber f)).toList.map openWarning =
      (loop?.toList.map openWarning).map (Warning.renumber f) := by
  cases loop? <;> rfl

section

variable {first : List Text}

/-- The loops of the first document keep their numbers. -/
theorem get?_extractLoops_append_left
    (hclosed : (extractLoops (first.map Line.text)).table.openLoop = none) (second : List Text)
    {id : LoopId} (hmem : .placeholder id ∈ (extractLoops (first.map Line.text)).document) :
    (extractLoops ((first ++ second).map Line.text)).table.get? id =
      (extractLoops (first.map Line.text)).table.get? id := by
  have hlt := index_lt_of_mem_document hmem
  obtain ⟨index⟩ := id
  rw [get?_extractLoops, get?_extractLoops, extractLoops_append hclosed,
    List.getElem?_append_left hlt]

/-- The loops of the second document are found under their new numbers. -/
theorem get?_extractLoops_append_right
    (hclosed : (extractLoops (first.map Line.text)).table.openLoop = none) (second : List Text)
    (id : LoopId) :
    (extractLoops ((first ++ second).map Line.text)).table.get?
        (id.shift (extractLoops (first.map Line.text)).table.loops.length) =
      ((extractLoops (second.map Line.text)).table.get? id).map
        (Loop.renumber (.shift (extractLoops (first.map Line.text)).table.loops.length)) := by
  obtain ⟨index⟩ := id
  rw [LoopId.shift, get?_extractLoops, get?_extractLoops, extractLoops_append hclosed,
    List.getElem?_append_right (Nat.le_add_right _ _), Nat.add_sub_cancel_left, List.getElem?_map]

/-- The open loop of both documents is that of the second one. -/
theorem unterminated?_extractLoops_append
    (hclosed : (extractLoops (first.map Line.text)).table.openLoop = none)
    (second : List Text) :
    (extractLoops ((first ++ second).map Line.text)).table.unterminated? =
      (extractLoops (second.map Line.text)).table.unterminated?.map
        (Loop.renumber (.shift (extractLoops (first.map Line.text)).table.loops.length)) := by
  have hopen : (extractLoops ((first ++ second).map Line.text)).table.openLoop = _ :=
    congrArg (·.table.openLoop) (extractLoops_append hclosed)
  rw [LoopTable.unterminated?, LoopTable.unterminated?, hopen]
  cases (extractLoops (second.map Line.text)).table.openLoop with
  | none => rfl
  | some id => exact get?_extractLoops_append_right hclosed second id

/-- **Documents are filled in independently.** If the first one ends outside of loops and the
engine is steady, both together give the lines of the first one and then those of the second, and
they give the same warnings, though in another order and with the loops of the second document
numbered behind those of the first. -/
theorem process_append (catalog : Catalog) (h : engine.Steady)
    (hclosed : (extractLoops (first.map Line.text)).table.openLoop = none) (second : List Text)
    (state state₁ state₂ : σ) :
    ((process catalog engine ((first ++ second).map Line.text)).run state).value =
        ((process catalog engine (first.map Line.text)).run state₁).value ++
          ((process catalog engine (second.map Line.text)).run state₂).value ∧
      ((process catalog engine ((first ++ second).map Line.text)).run state).warnings.Perm
        (((process catalog engine (first.map Line.text)).run state₁).warnings ++
          ((process catalog engine (second.map Line.text)).run state₂).warnings.map
            (Warning.renumber
              (.shift (extractLoops (first.map Line.text)).table.loops.length))) := by
  have hdocument : (extractLoops ((first ++ second).map Line.text)).document =
      (extractLoops (first.map Line.text)).document ++
        (extractLoops (second.map Line.text)).document.map
          (Line.renumber (.shift (extractLoops (first.map Line.text)).table.loops.length)) := by
    rw [extractLoops_append hclosed]
  have hopen : (extractLoops (first.map Line.text)).table.unterminated? = none := by
    rw [LoopTable.unterminated?, hclosed, Option.bind_none]
  obtain ⟨hvalue, hwarnings⟩ := run_resolve_append catalog h
    (fun id hmem => get?_extractLoops_append_left hclosed second hmem)
    (fun id _ => get?_extractLoops_append_right hclosed second id) state state₁ state₂
  rw [← hdocument] at hvalue hwarnings
  rw [run_process, run_process, run_process, hopen,
    unterminated?_extractLoops_append hclosed second]
  refine ⟨hvalue, ?_⟩
  simp only [Option.toList_none, List.map_nil, List.nil_append, List.map_append,
    map_openWarning_renumber] at hwarnings ⊢
  exact (hwarnings.append_left _).trans (List.perm_append_comm_assoc _ _ _)

end

/-- An engine that counts its questions and has the same row for all of them. -/
def countingEngine : Engine Nat := ⟨fun _ _ count => (.ok [⟨[("x", .string "1")]⟩], count + 1)⟩

/-- A catalog with the stored procedure `R` alone. -/
def soleCatalog : Catalog :=
  ⟨⟨[⟨"p", "s", "b", "u", "w"⟩], List.pairwise_singleton _ _⟩,
    ⟨[⟨"p", .storedProcedure, "R", "sp_r", []⟩], List.pairwise_singleton _ _⟩⟩

/-- A loop over an undeclared dataset, and a tag of `R`. -/
def closedLines : List Text :=
  ["{% for q in Q %}", "{{ q.x }}", "{% endfor %}", "{{ R.x }}"]

/-- A tag of an undeclared dataset, and a loop over `R` without an end. -/
def openLines : List Text :=
  ["{{ T.x }}", "{% for r in R %}", "{{ r.x }}"]

/-- In one document, the loop of `openLines` has the number one, and its warning comes first. -/
theorem process_append_openLines :
    countingEngine.Steady ∧
      (extractLoops (closedLines.map Line.text)).table.openLoop = none ∧
      ((process soleCatalog countingEngine ((closedLines ++ openLines).map Line.text)).run
          0).warnings =
        [.unterminatedLoop ⟨1⟩ "R", .unresolvedLoop ⟨0⟩ "Q",
          .unresolvedTag "{{ T.x }}" "T"] ∧
      ((process soleCatalog countingEngine ((closedLines ++ openLines).map Line.text)).run
          0).value =
        ((process soleCatalog countingEngine (closedLines.map Line.text)).run 5).value ++
          ((process soleCatalog countingEngine (openLines.map Line.text)).run 7).value ∧
      ((process soleCatalog countingEngine ((closedLines ++ openLines).map Line.text)).run
          0).warnings.Perm
        (((process soleCatalog countingEngine (closedLines.map Line.text)).run 5).warnings ++
          ((process soleCatalog countingEngine (openLines.map Line.text)).run 7).warnings.map
            (Warning.renumber
              (.shift (extractLoops (closedLines.map Line.text)).table.loops.length))) :=
  have hsteady : countingEngine.Steady := fun _ _ _ _ => rfl
  have hclosed : (extractLoops (closedLines.map Line.text)).table.openLoop = none := by
    decide +kernel
  ⟨hsteady, hclosed, by decide +kernel,
    process_append soleCatalog hsteady hclosed openLines 0 5 7⟩

end BoundReport
