import BoundReport.Command.Arguments
import BoundReport.Proofs.Reading

/-!
# Invocations with One More Flag

Arguments are read one by one, and each of them adds options to those that have been read before.
What has been read before makes no difference to this, as long as no option comes twice. So a flag
that is missing can be put right behind the name of a command: everything else is read as it was.
This is how an invocation that writes a report is turned into the one that prints it.

## Main results

* `Arguments.carries_readLevel`: options are read in the same way behind one more option.
* `Arguments.exists_front_of_readLevel`: what follows the name of a command makes no difference to
  what is read before it.
* `Arguments.exists_parse_stdout`: an invocation that writes a report can be made to print it.
-/

namespace BoundReport

namespace Arguments

open ParsedTemplate (bind_eq_ok_iff map_eq_ok_iff)

variable {α β : Type} {flag : Flag} {value : Text} {level next : Level} {first : Flag × Text}

/-! ### Behind one more option -/

/-- A level **lacks** an option that does not stand at it. -/
def Lacks (level : Level) (flag : Flag) : Prop := ∀ entry ∈ level, entry.1 ≠ flag

theorem Lacks.of_longer (h : Lacks next flag) (hkept : level <+: next) : Lacks level flag :=
  fun entry hentry => h entry (hkept.subset hentry)

/-- A reading of options **carries** another option in front: it keeps the options that it starts
with, and reads the same if this one stands before them, unless it meets it once more. -/
def Carries (first : Flag × Text) (read : Level → Except Refusal (Level × α)) : Prop :=
  ∀ level next result, read level = .ok (next, result) → level <+: next ∧
    (Lacks next first.1 → read (first :: level) = .ok (first :: next, result))

theorem Carries.pure (result : α) : Carries first fun level => .ok (level, result) := by
  intro level next found h
  obtain ⟨rfl, rfl⟩ := Prod.mk.inj (Except.ok.inj h)
  exact ⟨List.prefix_rfl, fun _ => rfl⟩

theorem Carries.error (refusal : Refusal) :
    Carries first fun _ => (.error refusal : Except Refusal (Level × α)) := by
  intro level next result h
  cases h

/-- **Readings in a row carry an option** if each of them does. -/
theorem Carries.bind {read : Level → Except Refusal (Level × α)}
    {readNext : α → Level → Except Refusal (Level × β)} (h : Carries first read)
    (hnext : ∀ result, Carries first (readNext result)) :
    Carries first fun level => read level >>= fun (level, result) => readNext result level := by
  intro level last result hlast
  obtain ⟨⟨next, found⟩, hread, hlast⟩ := bind_eq_ok_iff.1 hlast
  obtain ⟨hkept, hfront⟩ := h level next found hread
  obtain ⟨hkept', hfront'⟩ := hnext found next last result hlast
  refine ⟨hkept.trans hkept', fun hlacks => bind_eq_ok_iff.2 ?_⟩
  exact ⟨_, hfront (hlacks.of_longer hkept'), hfront' hlacks⟩

/-- An option that is added stands last at its level. -/
theorem add_eq_ok (h : add flag value level = .ok next) : next = level ++ [(flag, value)] := by
  rw [add] at h
  repeat' split at h
  all_goals cases h
  rfl

theorem carries_add (flag : Flag) (value : Text) (result : α) :
    Carries first fun level => (add flag value level).map fun level => (level, result) := by
  intro level next found h
  obtain ⟨added, hadd, hpair⟩ := map_eq_ok_iff.1 h
  obtain ⟨rfl, rfl⟩ := Prod.mk.inj hpair
  obtain rfl := add_eq_ok hadd
  refine ⟨List.prefix_append _ _, fun hlacks => ?_⟩
  have hne : first.1 ≠ flag := (hlacks (flag, value) (by simp)).symm
  have hany : (first :: level).any (fun entry => entry.1 = flag) =
      level.any fun entry => entry.1 = flag := by simp [hne]
  have hfront : add flag value (first :: level) = .ok (first :: level ++ [(flag, value)]) := by
    rw [add] at hadd ⊢
    rw [hany]
    split at hadd
    · cases hadd
    · split at hadd
      · cases hadd
      · split at hadd
        · cases hadd
        · split at hadd
          · cases hadd
          · rename_i hhelp hversion htwice hvalue
            rw [if_neg hhelp, if_neg hversion, if_neg htwice, if_neg hvalue]
  exact map_eq_ok_iff.2 ⟨_, hfront, rfl⟩

/-- An option may be added before others are read. -/
theorem Carries.add_bind {read : Level → Except Refusal (Level × α)} (h : Carries first read)
    (flag : Flag) (value : Text) : Carries first fun level => add flag value level >>= read := by
  intro level last result hlast
  obtain ⟨next, hadd, hlast⟩ := bind_eq_ok_iff.1 hlast
  obtain ⟨hkept, hfront⟩ : level <+: next ∧ (Lacks next first.1 → _) :=
    carries_add flag value () level next () (map_eq_ok_iff.2 ⟨_, hadd, rfl⟩)
  obtain ⟨hkept', hfront'⟩ := h next last result hlast
  refine ⟨hkept.trans hkept', fun hlacks => bind_eq_ok_iff.2 ?_⟩
  obtain ⟨added, hadded, hpair⟩ := map_eq_ok_iff.1 (hfront (hlacks.of_longer hkept'))
  exact ⟨_, hadded, (Prod.mk.inj hpair).1 ▸ hfront' hlacks⟩

theorem carries_addCluster (flags : List Flag) (letters : Text) :
    Carries first fun level => addCluster flags level letters := by
  induction letters with
  | nil => exact .pure none
  | cons letter rest ih =>
    cases hfind : flags.find? fun flag => flag.shortName? = some letter with
    | none =>
      simp only [addCluster, hfind]
      exact .error _
    | some flag =>
      simp only [addCluster, hfind]
      split
      · split
        · exact .pure _
        · exact carries_add _ _ _
        · exact carries_add _ _ _
      · exact ih.add_bind flag []

theorem carries_addLong (flags : List Flag) (long : Text) :
    Carries first fun level => addLong flags level long := by
  simp only [addLong]
  split
  · exact .error _
  · split
    · split
      · exact .pure _
      · exact carries_add _ _ _
    · split
      · exact carries_add _ _ _
      · exact .error _

/-- **Options are read in the same way behind one more option.** -/
theorem carries_readLevel (flags : List Flag) (waiting : Option Flag) (arguments : List Text) :
    Carries first fun level => readLevel flags level waiting arguments := by
  induction arguments generalizing waiting with
  | nil =>
    cases waiting with
    | none => exact .pure []
    | some flag => exact .error _
  | cons argument rest ih =>
    cases waiting with
    | some flag =>
      simp only [readLevel]
      split
      · exact .error _
      · exact (ih none).add_bind flag argument
    | none =>
      simp only [readLevel]
      split
      · split
        · exact .pure _
        · exact .error _
      · exact (carries_addLong flags _).bind ih
      · exact (carries_addCluster flags _).bind ih
      · exact .pure _

/-! ### Before the name of a command -/

/-- **What follows the first argument that is no option makes no difference to the options before
it.** -/
theorem exists_front_of_readLevel {flags : List Flag} {waiting : Option Flag}
    {arguments rest : List Text} {name : Text}
    (h : readLevel flags level waiting arguments = .ok (next, name :: rest)) :
    ∃ front, arguments = front ++ name :: rest ∧ ∀ others,
      readLevel flags level waiting (front ++ name :: others) = .ok (next, name :: others) := by
  induction arguments generalizing level waiting with
  | nil => cases waiting <;> cases h
  | cons argument behind ih =>
    -- An argument that is read as an option, or as the value of one, belongs to the front.
    have hstep {next' : Level} {waiting' : Option Flag}
        (hbehind : readLevel flags next' waiting' behind = .ok (next, name :: rest))
        (hread : ∀ others, readLevel flags level waiting (argument :: others) =
          readLevel flags next' waiting' others) :
        ∃ front, argument :: behind = front ++ name :: rest ∧ ∀ others,
          readLevel flags level waiting (front ++ name :: others) = .ok (next, name :: others) := by
      obtain ⟨front, rfl, hfront⟩ := ih hbehind
      refine ⟨argument :: front, rfl, fun others => ?_⟩
      rw [List.cons_append, hread, hfront]
    cases waiting with
    | some flag =>
      rw [readLevel] at h
      split at h
      · cases h
      · rename_i hoption
        obtain ⟨added, hadd, hbehind⟩ := bind_eq_ok_iff.1 h
        refine hstep hbehind fun others => ?_
        rw [readLevel, if_neg hoption, hadd]
        rfl
    | none =>
      simp only [readLevel] at h
      split at h
      · split at h <;> cases h
      · obtain ⟨⟨added, waiting'⟩, hadd, hbehind⟩ := bind_eq_ok_iff.1 h
        refine hstep hbehind fun others => ?_
        simp only [readLevel, hadd]
        rfl
      · obtain ⟨⟨added, waiting'⟩, hadd, hbehind⟩ := bind_eq_ok_iff.1 h
        refine hstep hbehind fun others => ?_
        simp only [readLevel, hadd]
        rfl
      · obtain ⟨rfl, hrest⟩ := Prod.mk.inj (Except.ok.inj h)
        obtain ⟨rfl, rfl⟩ := List.cons_eq_cons.1 hrest
        refine ⟨[], rfl, fun others => ?_⟩
        simp only [List.nil_append, readLevel]

/-! ### Printing instead of writing -/

theorem lacks_iff : Lacks level flag ↔ has flag level = false := by
  rw [has, Option.isSome_eq_false_iff, Option.isNone_iff_eq_none, List.lookup_eq_none_iff]
  simp only [Lacks, bne_iff_ne, ne_comm]

/-- The options of the command that makes a report. -/
def generateFlags : List Flag := commonFlags ++ [.template, .output, .fixtures, .pageSize, .stdout]

/-- Right behind the name of the command, the flag `--stdout` is an option by itself. -/
theorem readLevel_stdout (arguments : List Text) :
    readLevel generateFlags [] none ("--stdout" :: arguments) =
      readLevel generateFlags [(.stdout, [])] none arguments := rfl

/-- The command that makes a report has its values from the options behind its name. -/
theorem commandOf_eq_generate_iff {name : Text} {template output fixtures : Option Text}
    {pageSize : Option PageSize} {stdout : Bool} :
    commandOf name level = .generate template output fixtures pageSize stdout ↔
      name = "generate".toList ∧ value? .template level = template ∧
        value? .output level = output ∧ value? .fixtures level = fixtures ∧
        ((value? .pageSize level).bind fun name => (PageSize.parse name).toOption) = pageSize ∧
        has .stdout level = stdout := by
  by_cases hname : name = "generate".toList
  · rw [commandOf, if_pos hname]
    simp [hname]
  · rw [commandOf, if_neg hname]
    constructor
    · intro h
      split at h <;> cases h
    · intro h
      exact absurd h.1 hname

/-- **An invocation that writes a report can be made to print it**: the flag `--stdout` behind the
name of the command is read, and everything else is as before. -/
theorem exists_parse_stdout {words : List Text} {template output fixtures path : Option Text}
    {pageSize : Option PageSize} {verbose noColor : Bool}
    (h : parse words =
      .ok ⟨some (.generate template output fixtures pageSize false), path, verbose, noColor⟩) :
    ∃ before behind : List Text, words = before ++ ("generate" : Text) :: behind ∧
      parse (before ++ ("generate" : Text) :: ("--stdout" : Text) :: behind) =
        .ok ⟨some (.generate template output fixtures pageSize true), path, verbose, noColor⟩ := by
  obtain ⟨⟨rootLevel, rest⟩, hroot, h⟩ := bind_eq_ok_iff.1 h
  cases rest with
  | nil => cases h
  | cons name behind =>
    dsimp only at h
    cases hflags : commandFlags.lookup name with
    | none =>
      rw [hflags] at h
      cases h
    | some flags =>
      rw [hflags] at h
      obtain ⟨⟨level, extra⟩, hlevel, h⟩ := bind_eq_ok_iff.1 h
      dsimp only at h
      split at h
      · rename_i hextra
        subst hextra
        obtain ⟨hcommand, hpath, hverbose, hnoColor⟩ := Arguments.mk.inj (Except.ok.inj h)
        obtain ⟨rfl, htemplate, houtput, hfixtures, hpageSize, hstdout⟩ :=
          commandOf_eq_generate_iff.1 (Option.some.inj hcommand)
        obtain rfl : generateFlags = flags := Option.some.inj hflags
        obtain ⟨front, rfl, hfront⟩ := exists_front_of_readLevel hroot
        have hlevel' : readLevel generateFlags [] none ("--stdout" :: behind) =
            .ok ((.stdout, []) :: level, []) := by
          rw [readLevel_stdout]
          exact ((carries_readLevel generateFlags none behind) [] level [] hlevel).2
            (lacks_iff.2 hstdout)
        have hcommand' : commandOf "generate" ((.stdout, []) :: level) =
            .generate template output fixtures pageSize true :=
          commandOf_eq_generate_iff.2 ⟨rfl, htemplate, houtput, hfixtures, hpageSize, rfl⟩
        refine ⟨front, behind, rfl, bind_eq_ok_iff.2 ⟨_, hfront _, ?_⟩⟩
        refine bind_eq_ok_iff.2 ⟨_, hlevel', congrArg Except.ok ?_⟩
        rw [← hpath, ← hverbose, ← hnoColor, ← hcommand']
        rfl
      · cases h

end Arguments

end BoundReport
