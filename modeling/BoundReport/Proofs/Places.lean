import BoundReport.Disk
import BoundReport.Proofs.Paths

/-!
# What Stands at a Place

A file tree is known by what stands at each place: a file with its bytes, a directory, or nothing.
A node that is put at a place changes nothing else, as far as this can be seen, if the place is in
a directory and there is no directory at it yet. So making directories lets a tree grow and does
nothing else to it, and writing a file changes one place.

## Main results

* `FileTree.look_put`: what stands where after a node has been put at a place.
* `FileTree.grows_of_makeDirectory?`: a tree in which directories have been made has grown.
* `FileTree.writes_of_write?_join`: a file with a single name is written into the directory that
  the rest of the path leads to.
-/

namespace BoundReport

/-- What stands at a place. -/
inductive Standing
  | file (bytes : ByteArray)
  | directory

/-! ### Entries of a directory -/

/-- Entries of one name are of no use for finding another name. -/
theorem lookup_filter_ne {α : Type} {name asked : Text} (h : asked ≠ name)
    (entries : List (Text × α)) :
    (entries.filter fun entry => entry.1 ≠ name).lookup asked = entries.lookup asked := by
  induction entries with
  | nil => rfl
  | cons entry rest ih =>
    by_cases hentry : entry.1 = name
    · have hasked : (asked == entry.1) = false := beq_false_of_ne (hentry ▸ h)
      rw [List.filter_cons_of_neg (by simpa using hentry), ih, List.lookup_cons, hasked]
    · rw [List.filter_cons_of_pos (by simpa using hentry), List.lookup_cons, List.lookup_cons, ih]

namespace FileNode

/-- What a node is, whatever it holds. -/
def standing : FileNode → Standing
  | file bytes => .file bytes
  | directory _ => .directory

/-- What stands at a place, as seen from a node. -/
def look (node : FileNode) (place : Place) : Option Standing := (node.find? place).map standing

@[simp] theorem look_nil (node : FileNode) : node.look [] = some node.standing := rfl

theorem look_directory_cons (entries : List (Text × FileNode)) (name : Text) (rest : Place) :
    (directory entries).look (name :: rest) =
      (entries.lookup name).bind fun inner => inner.look rest := by
  rw [look, find?, Option.map_bind]
  rfl

theorem exists_eq_directory {node : FileNode} (h : node.standing = .directory) :
    ∃ entries, node = directory entries := by
  cases node with
  | file bytes => cases h
  | directory entries => exact ⟨entries, rfl⟩

/-- Nothing stands below a node that is no directory. -/
theorem look_cons_of_standing_ne {node : FileNode} (h : node.standing ≠ .directory) (name : Text)
    (rest : Place) : node.look (name :: rest) = none := by
  cases node with
  | file bytes => rfl
  | directory entries => exact absurd rfl h

/-- Nothing stands below a place at which there is no directory. -/
theorem look_append_of_ne {node : FileNode} {place : Place} (h : node.look place ≠ some .directory)
    (name : Text) (rest : Place) : node.look (place ++ name :: rest) = none := by
  induction place generalizing node with
  | nil => exact look_cons_of_standing_ne (fun hnode => h (congrArg some hnode)) name rest
  | cons step place ih =>
    cases node with
    | file bytes => rfl
    | directory entries =>
      rw [List.cons_append, look_directory_cons]
      rw [look_directory_cons] at h
      cases hinner : entries.lookup step with
      | none => rfl
      | some inner =>
        rw [hinner] at h
        exact ih h

/-- A node holds nothing if nothing stands below it. -/
def HoldsNothing (node : FileNode) : Prop := ∀ name rest, node.look (name :: rest) = none

theorem holdsNothing_file (bytes : ByteArray) : (file bytes).HoldsNothing := fun _ _ => rfl

theorem holdsNothing_directory : (directory []).HoldsNothing := fun _ _ => rfl

theorem look_put_directory (new : FileNode) (entries : List (Text × FileNode)) (name : Text)
    (rest : Place) (asked : Text) (below : Place) :
    (put new (directory entries) (name :: rest)).look (asked :: below) =
      if asked = name then (put new ((entries.lookup name).getD (directory [])) rest).look below
      else (directory entries).look (asked :: below) := by
  rw [put, look_directory_cons, look_directory_cons, List.lookup_cons]
  by_cases hasked : asked = name
  · rw [if_pos hasked, beq_iff_eq.2 hasked]
    rfl
  · rw [if_neg hasked, beq_false_of_ne hasked]
    exact congrArg (Option.bind · _) (lookup_filter_ne hasked entries)

/-- **What stands where after a node has been put into a directory.** -/
theorem look_put {node new : FileNode} {parent : Place} {name : Text} (hnew : new.HoldsNothing)
    (hparent : node.look parent = some .directory)
    (hplace : node.look (parent ++ [name]) ≠ some .directory) (other : Place) :
    (put new node (parent ++ [name])).look other =
      if other = parent ++ [name] then some new.standing else node.look other := by
  -- Every directory on the way to the place is replaced by one that differs in one entry, and it is
  -- a directory as before.
  induction parent generalizing node other with
  | nil =>
    obtain ⟨entries, rfl⟩ := exists_eq_directory (Option.some.inj hparent)
    rw [List.nil_append] at hplace ⊢
    cases other with
    | nil => rfl
    | cons asked below =>
      rw [look_put_directory]
      by_cases hasked : asked = name
      · subst hasked
        rw [if_pos rfl, put]
        cases below with
        | nil => rw [if_pos rfl, look_nil]
        | cons next below =>
          rw [if_neg (by simp), hnew next below]
          exact (look_append_of_ne hplace next below).symm
      · rw [if_neg hasked, if_neg (fun heq => hasked (List.head_eq_of_cons_eq heq))]
  | cons step parent ih =>
    cases node with
    | file bytes => cases hparent
    | directory entries =>
      rw [look_directory_cons] at hparent
      obtain ⟨inner, hinner, hinside⟩ := Option.bind_eq_some_iff.1 hparent
      rw [List.cons_append, look_directory_cons, hinner] at hplace
      rw [List.cons_append]
      cases other with
      | nil => rfl
      | cons asked below =>
        rw [look_put_directory]
        by_cases hasked : asked = step
        · subst hasked
          rw [if_pos rfl, hinner, Option.getD_some, ih hinside hplace below, look_directory_cons,
            hinner]
          simp only [List.cons.injEq, true_and, Option.bind_some]
        · rw [if_neg hasked, if_neg (fun heq => hasked (List.head_eq_of_cons_eq heq))]

end FileNode

namespace FileTree

variable {tree next last : FileTree}

/-- What stands at a place of a tree. -/
def look (tree : FileTree) (place : Place) : Option Standing :=
  (FileNode.directory tree.entries).look place

theorem look_eq (tree : FileTree) (place : Place) :
    tree.look place = (tree.node? place).map FileNode.standing := rfl

theorem isDirectory_iff {place : Place} :
    tree.isDirectory place ↔ tree.look place = some .directory := by
  rw [isDirectory, look_eq]
  cases tree.node? place with
  | none => simp
  | some node => cases node <;> simp [FileNode.standing]

/-- The root is a directory. -/
@[simp] theorem isDirectory_root (tree : FileTree) : tree.isDirectory [] := rfl

/-- A directory is in a directory. -/
theorem isDirectory_dropLast {place : Place} (h : tree.isDirectory place) :
    tree.isDirectory place.dropLast := by
  rcases List.eq_nil_or_concat place with rfl | ⟨parent, name, rfl⟩
  · exact h
  · rw [List.concat_eq_append, List.dropLast_concat, isDirectory_iff]
    rw [List.concat_eq_append, isDirectory_iff] at h
    by_cases hparent : tree.look parent = some .directory
    · exact hparent
    · have hnone : tree.look (parent ++ [name]) = none :=
        FileNode.look_append_of_ne hparent name []
      rw [hnone] at h
      cases h

/-! ### Putting a node at a place -/

section

variable {new : FileNode} {parent : Place} {name : Text}

@[simp] theorem workingDirectory_put (tree : FileTree) (place : Place) (new : FileNode) :
    (tree.put place new).workingDirectory = tree.workingDirectory := by
  rw [put]
  split <;> rfl

/-- **What stands where after a node has been put into a directory.** -/
theorem look_put (hnew : new.HoldsNothing) (hparent : tree.isDirectory parent)
    (hplace : ¬ tree.isDirectory (parent ++ [name])) (other : Place) :
    (tree.put (parent ++ [name]) new).look other =
      if other = parent ++ [name] then some new.standing else tree.look other := by
  rw [isDirectory_iff] at hparent hplace
  have hput := FileNode.look_put hnew hparent hplace
  have hroot : FileNode.put new (.directory tree.entries) (parent ++ [name]) =
      .directory (tree.put (parent ++ [name]) new).entries := by
    have hstanding : (FileNode.put new (.directory tree.entries) (parent ++ [name])).standing =
        .directory := by cases parent <;> rfl
    obtain ⟨entries, hentries⟩ := FileNode.exists_eq_directory hstanding
    rw [put, hentries]
  rw [look, ← hroot, hput]
  rfl

end

/-! ### Making directories -/

/-- What stood at a place has been **kept**, or a directory has been made where nothing stood. -/
def Keeps (before after : Option Standing) : Prop :=
  after = before ∨ before = none ∧ after = some .directory

theorem Keeps.trans {first second third : Option Standing} (h : Keeps first second)
    (h' : Keeps second third) : Keeps first third := by
  rcases h with rfl | ⟨hnone, hmade⟩
  · exact h'
  · rcases h' with rfl | ⟨hnone', -⟩
    · exact .inr ⟨hnone, hmade⟩
    · rw [hmade] at hnone'
      cases hnone'

/-- A tree **grows** if directories are made where nothing stood. -/
structure Grows (tree next : FileTree) : Prop where
  workingDirectory : next.workingDirectory = tree.workingDirectory
  keeps (place : Place) : Keeps (tree.look place) (next.look place)

theorem Grows.refl (tree : FileTree) : Grows tree tree := ⟨rfl, fun _ => .inl rfl⟩

theorem Grows.trans (h : Grows tree next) (h' : Grows next last) : Grows tree last where
  workingDirectory := h'.workingDirectory.trans h.workingDirectory
  keeps place := (h.keeps place).trans (h'.keeps place)

/-- Only the step to a name can lead to a place where nothing stands. -/
theorem step?_eq_some_of_look_eq_none {place reached : Place} {step : FilePath.Step}
    (h : tree.step? place step = some reached) (hnone : tree.look reached = none) :
    ∃ name, reached = place ++ [name] ∧ tree.isDirectory place := by
  have hstands {other : Place} (hdir : tree.isDirectory other) : tree.look other ≠ none := by
    rw [isDirectory_iff.1 hdir]
    exact Option.some_ne_none _
  cases step with
  | root =>
    obtain rfl : [] = reached := Option.some.inj h
    exact absurd hnone (hstands (isDirectory_root tree))
  | current =>
    obtain ⟨hdir, rfl⟩ : tree.isDirectory place ∧ place = reached := by simpa [step?] using h
    exact absurd hnone (hstands hdir)
  | parent =>
    obtain ⟨hdir, rfl⟩ : tree.isDirectory place ∧ place.dropLast = reached := by
      simpa [step?] using h
    exact absurd hnone (hstands (isDirectory_dropLast hdir))
  | name name =>
    obtain ⟨⟨hdir, -⟩, rfl⟩ : (tree.isDirectory place ∧ isName name) ∧
        place ++ [name] = reached := by simpa [step?] using h
    exact ⟨name, rfl, hdir⟩

/-- A step that makes a directory lets the tree grow. -/
theorem grows_of_makeStep? {place reached : Place} {step : FilePath.Step}
    (h : makeStep? (tree, place) step = some (next, reached)) : Grows tree next := by
  obtain ⟨found, hstep, h⟩ := Option.bind_eq_some_iff.1 h
  split at h
  · obtain ⟨rfl, rfl⟩ := Prod.mk.inj (Option.some.inj h)
    exact .refl tree
  · cases h
  · rename_i hnone
    obtain ⟨rfl, rfl⟩ := Prod.mk.inj (Option.some.inj h)
    have hlook : tree.look found = none := by rw [look_eq, hnone, Option.map_none]
    obtain ⟨name, rfl, hdir⟩ := step?_eq_some_of_look_eq_none hstep hlook
    refine ⟨workingDirectory_put _ _ _, fun other => ?_⟩
    have hplace : ¬ tree.isDirectory (place ++ [name]) := by
      rw [isDirectory_iff, hlook]
      simp
    rw [look_put FileNode.holdsNothing_directory hdir hplace]
    by_cases hother : other = place ++ [name]
    · rw [if_pos hother]
      exact .inr ⟨hother ▸ hlook, rfl⟩
    · rw [if_neg hother]
      exact .inl rfl

theorem grows_of_foldlM {steps : List FilePath.Step} {place reached : Place}
    (h : steps.foldlM makeStep? (tree, place) = some (next, reached)) : Grows tree next := by
  induction steps generalizing tree place with
  | nil =>
    obtain ⟨rfl, rfl⟩ := Prod.mk.inj (Option.some.inj h)
    exact .refl tree
  | cons step rest ih =>
    rw [List.foldlM_cons] at h
    obtain ⟨⟨middle, found⟩, hstep, h⟩ := Option.bind_eq_some_iff.1 h
    exact (grows_of_makeStep? hstep).trans (ih h)

/-- **A tree in which directories have been made has grown.** -/
theorem grows_of_makeDirectory? {path : Text} (h : tree.makeDirectory? path = some next) :
    Grows tree next := by
  rw [makeDirectory?] at h
  split at h
  · cases h
  · obtain ⟨⟨made, reached⟩, hmade, rfl⟩ := Option.map_eq_some_iff.1 h
    exact grows_of_foldlM hmade

/-! ### Writing a file -/

/-- `next` is the tree with a file **written** to a place. What stood at any other place has been
kept, or directories have been made. -/
structure Writes (tree : FileTree) (place : Place) (bytes : ByteArray) (next : FileTree) :
    Prop where
  workingDirectory : next.workingDirectory = tree.workingDirectory
  look_self : next.look place = some (.file bytes)
  keeps (other : Place) (h : other ≠ place) : Keeps (tree.look other) (next.look other)

/-- Directories may be made before a file is written. -/
theorem Grows.trans_writes {place : Place} {bytes : ByteArray} (h : Grows tree next)
    (h' : Writes next place bytes last) : Writes tree place bytes last where
  workingDirectory := h'.workingDirectory.trans h.workingDirectory
  look_self := h'.look_self
  keeps other hother := (h.keeps other).trans (h'.keeps other hother)

/-- The place to which the steps of a path lead. -/
def walk? (tree : FileTree) (path : Text) : Option Place :=
  (FilePath.steps path).foldlM tree.step? tree.workingDirectory

/-- Steps depend on the directories of a tree, and on nothing else that it holds. -/
theorem step?_congr (h : ∀ place, next.isDirectory place = tree.isDirectory place) :
    next.step? = tree.step? := by
  funext place step
  cases step with
  | root => rfl
  | current | parent | name name => simp only [step?, h]

theorem walk?_congr (h : ∀ place, next.isDirectory place = tree.isDirectory place)
    (hworking : next.workingDirectory = tree.workingDirectory) (path : Text) :
    next.walk? path = tree.walk? path := by
  rw [walk?, walk?, step?_congr h, hworking]

theorem walk?_of_resolve?_eq_some {path : Text} {place : Place}
    (h : tree.resolve? path = some place) : tree.walk? path = some place := by
  rw [resolve?] at h
  split at h
  · cases h
  · obtain ⟨found, hfound, h⟩ := Option.bind_eq_some_iff.1 h
    split at h
    · cases h
    · exact hfound.trans h

/-- A walk to a single name is one to its directory, and then the step to the name. -/
theorem exists_walk?_of_walk?_join {directory name : Text} {place : Place}
    (hname : IsSingleName name) (h : tree.walk? (FilePath.join directory name) = some place) :
    ∃ parent, tree.walk? directory = some parent ∧ tree.isDirectory parent ∧
      place = parent ++ [name] := by
  rw [walk?, FilePath.steps_join hname, List.foldlM_append] at h
  obtain ⟨parent, hparent, h⟩ := Option.bind_eq_some_iff.1 h
  obtain ⟨⟨hdir, -⟩, rfl⟩ : (tree.isDirectory parent ∧ isName name) ∧ parent ++ [name] = place := by
    simpa [step?] using h
  exact ⟨parent, hparent, hdir, rfl⟩

theorem write?_eq_some {path content : Text} (h : tree.write? path content = some next) :
    ∃ place, tree.resolve? path = some place ∧ ¬ tree.isDirectory place ∧
      next = tree.put place (.file (Text.toString content).toUTF8) := by
  obtain ⟨place, hplace, h⟩ := Option.bind_eq_some_iff.1 h
  split at h
  · cases h
  · rename_i hdir
    exact ⟨place, hplace, hdir, (Option.some.inj h).symm⟩

/-- **A file with a single name is written into the directory that the rest of the path leads to**,
and nothing else is. -/
theorem writes_of_write?_join {directory name content : Text} (hname : IsSingleName name)
    (h : tree.write? (FilePath.join directory name) content = some next) :
    ∃ parent, next.walk? directory = some parent ∧ next.isDirectory parent ∧
      Writes tree (parent ++ [name]) (Text.toString content).toUTF8 next := by
  obtain ⟨place, hplace, hnot, rfl⟩ := write?_eq_some h
  obtain ⟨parent, hparent, hdir, rfl⟩ :=
    exists_walk?_of_walk?_join hname (walk?_of_resolve?_eq_some hplace)
  have hlook := look_put (FileNode.holdsNothing_file (Text.toString content).toUTF8) hdir hnot
  have hdirs (other : Place) : (tree.put (parent ++ [name])
      (.file (Text.toString content).toUTF8)).isDirectory other = tree.isDirectory other := by
    rw [Bool.eq_iff_iff, isDirectory_iff, isDirectory_iff, hlook]
    by_cases hother : other = parent ++ [name]
    · rw [isDirectory_iff] at hnot
      rw [if_pos hother, hother]
      simp [FileNode.standing, hnot]
    · rw [if_neg hother]
  refine ⟨parent, ?_, (hdirs parent).trans hdir, workingDirectory_put _ _ _, ?_, ?_⟩
  · rw [walk?_congr hdirs (workingDirectory_put _ _ _), hparent]
  · rw [hlook, if_pos rfl, FileNode.standing]
  · intro other hother
    rw [hlook, if_neg hother]
    exact .inl rfl

end FileTree

end BoundReport
