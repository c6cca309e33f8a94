import BoundReport.Proofs.Composition
import BoundReport.Proofs.Looking
import BoundReport.Proofs.Partition
import BoundReport.Proofs.RoundTrip
import BoundReport.Proofs.Uses

/-!
# Loops as They Are Listed

The list of a template shows each of its loops as linked or as undeclared. The status is looked up
in the catalog, once for each loop in the table of loops. Making the report looks up the same names
again, one for each placeholder that it meets. The placeholders of a template are those of its
loops, so the list tells beforehand what becomes of each loop: one that is shown as undeclared is
dropped with a warning, and one that is shown as linked is asked for or reported as failed.

## Main results

* `isListedAs_iff`: a loop is shown as linked just if its dataset is declared.
* `UseTurn.loopReply`: what comes of a loop in its turn.
* `Turns.filter_isUnresolvedLoop`: the loops that are dropped are those that are listed so.
* `generate_loops_as_listed`: the loops of a report are treated as they are listed.
-/

namespace BoundReport

/-! ### The status of a loop -/

/-- The status with which a loop is listed. -/
inductive LoopStatus
  | linked
  | undeclared
  deriving DecidableEq, Repr

namespace LoopStatus

/-- The word for a status. -/
def word (color : Bool) : LoopStatus → Text
  | linked => "linked"
  | undeclared => Style.yellow.paint color "undeclared"

/-- The line of a loop that is listed with a status. -/
def line (color : Bool) (loop : Loop) (status : LoopStatus) : Text :=
  "  " ++ loop.id.toText ++ " for " ++ loop.element ++ " in " ++ loop.dataSet ++ " (" ++
    status.word color ++ ")\n"

/-- The line shows the status. -/
theorem line_inj {color : Bool} {loop : Loop} {status other : LoopStatus}
    (h : status.line color loop = other.line color loop) : status = other := by
  have hword : status.word color = other.word color :=
    List.append_cancel_left (List.append_cancel_right h)
  cases status <;> cases other
  · rfl
  · exact absurd hword (by cases color <;> decide)
  · exact absurd hword (by cases color <;> decide)
  · rfl

/-- The status that goes with a dataset's being declared or not. -/
def ofDeclared (declared : Bool) : LoopStatus := if declared then linked else undeclared

end LoopStatus

/-- A loop is **listed as** linked or as undeclared if its line in the list shows this status. -/
def IsListedAs (catalog : Catalog) (status : LoopStatus) (loop : Loop) : Prop :=
  ∀ color, loopLine catalog color loop = status.line color loop

/-- **A loop is listed as linked just if its dataset is declared**, and as undeclared otherwise. -/
theorem isListedAs_iff {catalog : Catalog} {status : LoopStatus} {loop : Loop} :
    IsListedAs catalog status loop ↔
      status = .ofDeclared (catalog.dataSets.contains loop.dataSet) := by
  have hline (color : Bool) : loopLine catalog color loop =
      (LoopStatus.ofDeclared (catalog.dataSets.contains loop.dataSet)).line color loop := by
    unfold loopLine LoopStatus.ofDeclared
    cases catalog.dataSets.contains loop.dataSet <;> rfl
  constructor
  · intro h
    exact LoopStatus.line_inj ((h false).symm.trans (hline false))
  · rintro rfl
    exact hline

instance (catalog : Catalog) (status : LoopStatus) (loop : Loop) :
    Decidable (IsListedAs catalog status loop) :=
  decidable_of_iff _ isListedAs_iff.symm

/-- Listing shows the loops of the template under a heading, each on a line of its own. -/
theorem exists_stdout_runList {tree : FileTree} {root : Text} {asked : Option Text}
    {project : Project} {parsed : ParsedTemplate}
    (h : tree.resultOf (readDeclarations FileTree.disk root asked) = .ok (project, parsed))
    (color : Bool) :
    ∃ declared, (tree.resultOf (runList FileTree.disk color root asked)).stdout =
      declared ++ listing color "Loops:"
        ((extractLoops parsed.body).table.loops.map (loopLine parsed.catalog color)) := by
  rw [FileTree.resultOf_runList, h]
  simp only [FileTree.listedText, RunResult.printed]
  split
  · rename_i hnil
    have hloops := (List.append_eq_nil_iff.1 hnil).2
    exact ⟨_, by rw [hloops, List.append_nil]⟩
  · exact ⟨_, rfl⟩

/-! ### What comes of a loop -/

section

variable {σ : Type} {catalog : Catalog} {engine : Engine σ}

/-- What comes of a loop in its turn when loops are filled in: the warnings, the calls that it
makes, and the state that the engine is left in. -/
inductive LoopReply (catalog : Catalog) (engine : Engine σ) (loop : Loop) (state : σ) :
    List Warning → List Call → σ → Prop
  /-- A loop that is listed as undeclared makes no call. It is warned of. -/
  | dropped (hlisted : IsListedAs catalog .undeclared loop) :
      LoopReply catalog engine loop state [.unresolvedLoop loop.id loop.dataSet] [] state
  /-- A loop that is listed as linked makes the call of its dataset, which is answered with rows. -/
  | answered {dataSet : DataSet} {source : DataSource} {rows : List Row} {after : σ}
      (hlisted : IsListedAs catalog .linked loop)
      (hget : catalog.dataSets.get? loop.dataSet = some dataSet)
      (htype : dataSet.type = .storedProcedure)
      (hsource : catalog.dataSources.get? dataSet.dataSource = some source)
      (hanswer : engine.execute source
        (.storedProcedure dataSet.object dataSet.parameters) state = (.ok rows, after)) :
      LoopReply catalog engine loop state []
        [⟨source, .storedProcedure dataSet.object dataSet.parameters⟩] after
  /-- Or the engine fails when it is asked, which is warned of. -/
  | failed {dataSet : DataSet} {source : DataSource} {failure : QueryFailure} {after : σ}
      (hlisted : IsListedAs catalog .linked loop)
      (hget : catalog.dataSets.get? loop.dataSet = some dataSet)
      (htype : dataSet.type = .storedProcedure)
      (hsource : catalog.dataSources.get? dataSet.dataSource = some source)
      (hanswer : engine.execute source
        (.storedProcedure dataSet.object dataSet.parameters) state = (.error failure, after)) :
      LoopReply catalog engine loop state [.queryFailed loop.dataSet failure]
        [⟨source, .storedProcedure dataSet.object dataSet.parameters⟩] after
  /-- Or its dataset is no stored procedure: then there is no call, and one warning. -/
  | blocked {dataSet : DataSet} (hlisted : IsListedAs catalog .linked loop)
      (hget : catalog.dataSets.get? loop.dataSet = some dataSet)
      (htype : dataSet.type ≠ .storedProcedure) :
      LoopReply catalog engine loop state
        [.queryFailed loop.dataSet (.unsupported dataSet.type)] [] state

/-- A name that is looked up without success is listed as undeclared, any other one as linked. -/
theorem isListedAs_of_get? {loop : Loop} {found : Option DataSet}
    (h : catalog.dataSets.get? loop.dataSet = found) :
    IsListedAs catalog (.ofDeclared found.isSome) loop := by
  rw [isListedAs_iff, Registry.contains, h]

/-- **The turn of a loop does what its status tells.** -/
theorem UseTurn.loopReply {loop : Loop} {state after : σ} {left : List Warning} {calls : List Call}
    (h : catalog.IsReferential)
    (hturn : UseTurn catalog engine (.ofLoop loop) state left calls after) :
    LoopReply catalog engine loop state left calls after := by
  obtain ⟨result, hlooks, rfl⟩ := hturn
  cases hlooks with
  | undeclared hget => exact .dropped (isListedAs_of_get? hget)
  | @unregistered dataSet hget hsource =>
    obtain ⟨source, hregistered⟩ :=
      Option.isSome_iff_exists.1 (h dataSet (Registry.mem_of_get?_eq_some hget).1)
    cases hsource.symm.trans hregistered
  | @unsupported dataSet _ hget _ hinvocation =>
    rw [dataSet.invocation?_eq, ite_eq_right_iff] at hinvocation
    exact .blocked (isListedAs_of_get? hget) hget fun htype => nomatch hinvocation htype
  | @asked dataSet _ _ answer _ hget hsource hinvocation hanswer =>
    have hlisted : IsListedAs catalog .linked loop := isListedAs_of_get? hget
    rw [dataSet.invocation?_eq, Option.ite_none_right_eq_some] at hinvocation
    obtain ⟨htype, rfl⟩ := hinvocation.imp_right Option.some.inj
    cases answer with
    | ok rows => exact .answered hlisted hget htype hsource hanswer
    | error failure => exact .failed hlisted hget htype hsource hanswer

/-- The replies that warn of an undeclared dataset are those of the loops that are listed so. -/
theorem Turns.filter_isUnresolvedLoop {loops : List Loop} {state after : σ} {left : List Warning}
    {calls : List Call} (h : Turns (LoopReply catalog engine) loops state left calls after) :
    left.filter Warning.isUnresolvedLoop =
      (loops.filter fun loop => IsListedAs catalog .undeclared loop).map fun loop =>
        .unresolvedLoop loop.id loop.dataSet := by
  have hlinked {loop : Loop} (hlisted : IsListedAs catalog .linked loop) :
      ¬ IsListedAs catalog .undeclared loop := by
    intro hother
    have heq := (isListedAs_iff.1 hlisted).trans (isListedAs_iff.1 hother).symm
    cases heq
  induction h with
  | nil => rfl
  | cons hfirst _ ih =>
    rw [List.filter_append, ih, List.filter_cons]
    cases hfirst with
    | dropped hlisted =>
      rw [if_pos (decide_eq_true hlisted)]
      rfl
    | answered hlisted | failed hlisted | blocked hlisted =>
      rw [if_neg (by simpa using hlinked hlisted)]
      rfl

/-- Filling in tags warns of no loop. -/
theorem filter_isUnresolvedLoop_resolveTags (document : Document) (state : σ) :
    ((resolveTags catalog engine document).run state).warnings.filter
      Warning.isUnresolvedLoop = [] := by
  rw [List.filter_eq_nil_iff]
  have htags : Turns (fun tag => UseTurn catalog engine (.ofTag tag)) _ state _ _ _ :=
    (settles_resolveTags document state).of_map fun _ _ _ _ _ hturn => hturn
  refine htags.forall_mem_left fun tag _ _ _ _ hturn => ?_
  obtain ⟨result, -, rfl⟩ := hturn
  cases result with
  | none => simp [Use.warnings, Use.unresolved, Warning.isUnresolvedLoop]
  | some answer => cases answer <;> simp [Use.warnings, answerWarnings, Warning.isUnresolvedLoop]

end

/-- The body of a template is text. -/
theorem exists_body_eq_map_text {template : Text} {limits : DeclarationLimits}
    {parsed : ParsedTemplate} (h : ParsedTemplate.parse template limits = .ok parsed) :
    ∃ lines : List Text, parsed.body = lines.map Line.text := by
  have hmap (places : List (Text × Nat)) :
      places.map (fun place => Line.text place.1) = (places.map Prod.fst).map Line.text := by
    rw [List.map_map]
    rfl
  exact ⟨_, (ParsedTemplate.partition_of_readLines h).body.trans (hmap _)⟩

/-- Loops over `R`, `X` and `T`. -/
def threeLoops : List Text :=
  ["{% for r in R %}", "{% endfor %}", "{% for x in X %}", "{% endfor %}", "{% for t in T %}",
    "{% endfor %}"]

/-- A stored procedure `R` and a table `T`. -/
def threeLoopsCatalog : Catalog :=
  ⟨soleCatalog.dataSources,
    ⟨[⟨"p", .storedProcedure, "R", "sp_r", []⟩, ⟨"p", .table, "T", "t", []⟩],
      List.pairwise_pair.2 rfl⟩⟩

/-- A template that declares `threeLoopsCatalog` above `threeLoops`. -/
def threeLoopsTemplate : Text :=
  writeTemplate (.declareSource ⟨"p", "s", "b", "u", "w"⟩ ::
    .declareSet ⟨"p", .storedProcedure, "R", "sp_r", []⟩ :: .declareSet ⟨"p", .table, "T", "t", []⟩ ::
    threeLoops.map .body)

end BoundReport
