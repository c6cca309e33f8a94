import BoundReport.OutputName
import BoundReport.Proofs.Parameters

/-!
# Steps of Joined Paths

A file in a directory is reached by the steps to the directory and one more step to its name. The
name has to be a single one for this: a slash in it would make more than one step, and a dot or two
stand for something else. The name of a report is always a single name, whatever the template is
called and whatever the time is.

## Main results

* `FilePath.steps_join`: the steps to a name in a directory.
* `isSingleName_outputName`: the name of a report is a single name.
-/

namespace BoundReport

/-! ### Single names -/

/-- A **single name** is one step of a walk, and leads away from where the walk is. -/
structure IsSingleName (name : Text) : Prop where
  notMem_slash : '/' ∉ name
  ne_nil : name ≠ []
  ne_dot : name ≠ ['.']
  ne_dots : name ≠ ['.', '.']

namespace FilePath

variable {name : Text}

/-- A last segment adds its own steps, if these are the same for the first segment of a path. -/
theorem map_stepsOfSegments_concat {last : Text} {added : List Step}
    (hlast : ∀ first, (stepsOfSegments first [last]).map Prod.fst = added) (first : Bool)
    (segments : List Text) :
    (stepsOfSegments first (segments ++ [last])).map Prod.fst =
      (stepsOfSegments first segments).map Prod.fst ++ added := by
  fun_induction stepsOfSegments first segments with
  | case1 first => exact hlast first
  | case2 first rest ih => simpa [stepsOfSegments] using ih
  | case3 rest _ ih => simpa [stepsOfSegments] using ih
  | case4 first rest hfirst _ ih => simpa [stepsOfSegments, hfirst] using ih
  | case5 first rest _ _ ih => simpa [stepsOfSegments] using ih
  | case6 first segment rest hnil hdot hdots ih =>
    simpa [stepsOfSegments, hnil, hdot, hdots] using ih

/-- The steps of the segments of an absolute or a relative path. -/
def stepsFrom (absolute : Bool) (segments : List Text) : List Step :=
  if absolute then .root :: (stepsOfSegments false (segments.drop 1)).map Prod.fst
  else (stepsOfSegments true segments).map Prod.fst

theorem steps_eq_stepsFrom (path : Text) :
    steps path = stepsFrom (isAbsolute path) (Text.splitOn '/' path) := by
  rw [steps, stepsWithRest, stepsFrom]
  split
  · rfl
  · rfl

theorem stepsFrom_concat {last : Text} {added : List Step}
    (hlast : ∀ first, (stepsOfSegments first [last]).map Prod.fst = added) {absolute : Bool}
    {segments : List Text} (hsegments : absolute → segments ≠ []) :
    stepsFrom absolute (segments ++ [last]) = stepsFrom absolute segments ++ added := by
  cases absolute with
  | false => exact map_stepsOfSegments_concat hlast true segments
  | true =>
    obtain ⟨segment, rest, rfl⟩ := List.exists_cons_of_ne_nil (hsegments rfl)
    exact congrArg (Step.root :: ·) (map_stepsOfSegments_concat hlast false rest)

/-- A single name is one step. -/
theorem map_stepsOfSegments_singleton (h : IsSingleName name) (first : Bool) :
    (stepsOfSegments first [name]).map Prod.fst = [.name name] := by
  simp [stepsOfSegments, h.ne_nil, h.ne_dot, h.ne_dots]

/-- An empty segment is no step. -/
theorem map_stepsOfSegments_nil (first : Bool) :
    (stepsOfSegments first [[]]).map Prod.fst = [] := rfl

theorem splitOn_ne_nil (path : Text) : Text.splitOn '/' path ≠ [] := by
  obtain ⟨segment, segments, hpath⟩ := Text.exists_splitOn_eq_cons '/' path
  rw [hpath]
  exact List.cons_ne_nil _ _

/-- The front of a path tells whether it is absolute. -/
theorem isAbsolute_append_of_ne_nil {front : Text} (h : front ≠ []) (rest : Text) :
    isAbsolute (front ++ rest) = isAbsolute front := by
  obtain ⟨c, front, rfl⟩ := List.exists_cons_of_ne_nil h
  rfl

/-- A name behind a slash is one step behind those of the path before it. -/
theorem steps_append_slash (h : IsSingleName name) (front : Text) :
    steps (front ++ '/' :: name) = steps (front ++ ['/']) ++ [.name name] := by
  have habsolute : isAbsolute (front ++ '/' :: name) = isAbsolute (front ++ ['/']) := by
    cases front <;> rfl
  have hfront := splitOn_ne_nil front
  rw [steps_eq_stepsFrom, steps_eq_stepsFrom, habsolute, Text.splitOn_append_separator,
    Text.splitOn_append_separator, Text.splitOn_of_notMem h.notMem_slash,
    stepsFrom_concat (map_stepsOfSegments_singleton h) fun _ => hfront]
  have hslash : stepsFrom (isAbsolute (front ++ ['/'])) (Text.splitOn '/' front ++ [[]]) =
      stepsFrom (isAbsolute (front ++ ['/'])) (Text.splitOn '/' front) ++ [] :=
    stepsFrom_concat map_stepsOfSegments_nil fun _ => hfront
  rw [List.append_nil] at hslash
  exact congrArg (· ++ [Step.name name]) hslash.symm

/-- A slash behind a path is no step. -/
theorem steps_concat_slash {path : Text} (h : path ≠ []) : steps (path ++ ['/']) = steps path := by
  rw [steps_eq_stepsFrom, steps_eq_stepsFrom, isAbsolute_append_of_ne_nil h,
    Text.splitOn_append_separator]
  exact (stepsFrom_concat map_stepsOfSegments_nil fun _ => splitOn_ne_nil path).trans
    (List.append_nil _)

/-- **A single name in a directory is one step behind those to the directory.** -/
theorem steps_join (h : IsSingleName name) (directory : Text) :
    steps (join directory name) = steps directory ++ [.name name] := by
  have hrelative : isAbsolute name = false := by
    obtain ⟨c, rest, rfl⟩ := List.exists_cons_of_ne_nil h.ne_nil
    exact beq_false_of_ne fun hc => h.notMem_slash (Option.some.inj hc ▸ List.mem_cons_self)
  rw [join, if_neg (by simp [hrelative])]
  split
  · rename_i hends
    rcases hends with rfl | hslash
    · rw [List.nil_append, steps_eq_stepsFrom, hrelative, Text.splitOn_of_notMem h.notMem_slash]
      exact map_stepsOfSegments_singleton h true
    · obtain ⟨front, rfl⟩ := List.getLast?_eq_some_iff.1 hslash
      rw [List.append_assoc]
      exact steps_append_slash h front
  · rename_i hends
    rw [steps_append_slash h, steps_concat_slash (not_or.1 hends).1]

end FilePath

/-! ### The name of a report -/

namespace FilePath

theorem mem_of_name_mem_stepsOfSegments {name : Text} {first : Bool} {segments : List Text}
    (h : Step.name name ∈ (stepsOfSegments first segments).map Prod.fst) : name ∈ segments := by
  fun_induction stepsOfSegments first segments with
  | case1 first => cases h
  | case2 first rest ih => exact List.mem_cons_of_mem _ (ih h)
  | case3 rest _ ih =>
    rcases List.mem_cons.1 h with heq | hmem
    · cases heq
    · exact List.mem_cons_of_mem _ (ih hmem)
  | case4 first rest _ _ ih => exact List.mem_cons_of_mem _ (ih h)
  | case5 first rest _ _ ih =>
    rcases List.mem_cons.1 h with heq | hmem
    · cases heq
    · exact List.mem_cons_of_mem _ (ih hmem)
  | case6 first segment rest _ _ _ ih =>
    rcases List.mem_cons.1 h with heq | hmem
    · exact Step.name.inj heq ▸ List.mem_cons_self
    · exact List.mem_cons_of_mem _ (ih hmem)

/-- A walk goes by names without slashes. -/
theorem notMem_slash_of_mem_steps {path name : Text} (h : Step.name name ∈ steps path) :
    '/' ∉ name := by
  rw [steps_eq_stepsFrom, stepsFrom] at h
  split at h
  · rcases List.mem_cons.1 h with heq | hmem
    · cases heq
    · exact Text.notMem_of_mem_splitOn (List.mem_of_mem_drop (mem_of_name_mem_stepsOfSegments hmem))
  · exact Text.notMem_of_mem_splitOn (mem_of_name_mem_stepsOfSegments h)

/-- What is before the last dot of a name is a part of the name. -/
theorem mem_of_mem_splitAtDot {name : Text} {c : Char} (h : c ∈ (splitAtDot name).1) : c ∈ name := by
  rw [splitAtDot] at h
  split at h
  · exact h
  · have hmem := List.mem_of_mem_drop (List.mem_reverse.1 h)
    exact List.mem_reverse.1 ((List.dropWhile_suffix _).subset hmem)

theorem notMem_slash_of_stem?_eq_some {path stem : Text} (h : stem? path = some stem) :
    '/' ∉ stem := by
  obtain ⟨name, hname, rfl⟩ := Option.map_eq_some_iff.1 h
  rw [fileName?] at hname
  split at hname
  · rename_i hlast
    obtain rfl := Option.some.inj hname
    have hslash := notMem_slash_of_mem_steps (List.mem_of_getLast? hlast)
    exact fun hmem => hslash (mem_of_mem_splitAtDot hmem)
  · cases hname

end FilePath

theorem Text.notMem_slash_padded (digits n : Nat) : '/' ∉ Text.padded digits n := by
  intro hmem
  cases Text.isDigit_of_mem_padded hmem

theorem Timestamp.notMem_slash_toText (t : Timestamp) : '/' ∉ t.toText := by
  have hyear : '/' ∉ Timestamp.yearText t.year := by
    rw [Timestamp.yearText]
    split
    · simp [Text.notMem_slash_padded]
    · split <;> simp [Text.notMem_slash_padded]
  simp [Timestamp.toText, Text.notMem_slash_padded, hyear]

/-- **The name of a report is a single name.** -/
theorem isSingleName_outputName (template : Text) (time : Timestamp) {extension : Text}
    (h : '/' ∉ extension) : IsSingleName (outputName template time extension) := by
  have hdash : '-' ∈ outputName template time extension := by simp [outputName]
  have hstem : '/' ∉ (FilePath.stem? template).getD "report" := by
    cases hfound : FilePath.stem? template with
    | none => decide
    | some stem => exact FilePath.notMem_slash_of_stem?_eq_some hfound
  have hslash : '/' ∉ outputName template time extension := by
    simpa [outputName, time.notMem_slash_toText, h] using hstem
  refine ⟨hslash, ?_, ?_, ?_⟩
  · exact List.ne_nil_of_mem hdash
  · intro heq
    rw [heq] at hdash
    exact absurd hdash (by decide)
  · intro heq
    rw [heq] at hdash
    exact absurd hdash (by decide)

end BoundReport
