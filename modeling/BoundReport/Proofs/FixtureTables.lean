import Mathlib.Data.List.Nodup
import BoundReport.Fixture

/-!
# Fixtures as Tables

Fixtures are made by setting the rows of one routine after the other. What they answer can be told
from two views: which datasources are **known**, and which **rows** stand under a datasource and a
routine. Setting rows changes both at one place. So of several entries for one routine the last one
counts, and entries for different routines may be set in any order.

## Main results

* `answer_eq_ok_iff`, `connection_iff`, `execution_iff`: the answers of fixtures.
* `isKnown_withRows`, `rows?_withRows`: what setting rows changes.
* `rows?_withEntries`: the last entry counts.
* `rows?_ofEntries_eq_some_iff`: entries for different routines are all there.
-/

namespace BoundReport

/-- Setting a key changes what stands under this key, and nothing else. -/
theorem lookup_setKey {α : Type} (key other : Text) (value : α) (pairs : List (Text × α)) :
    (setKey key value pairs).lookup other =
      if other = key then some value else pairs.lookup other := by
  induction pairs with
  | nil =>
    rw [setKey, List.lookup_cons, List.lookup_nil]
    by_cases h : other = key
    · rw [if_pos h, h, beq_self_eq_true]
    · rw [if_neg h, beq_false_of_ne h]
  | cons pair rest ih =>
    obtain ⟨found, old⟩ := pair
    rw [setKey]
    split_ifs with hfound hother hother
    · rw [hother, List.lookup_cons, beq_self_eq_true]
    · have hne : (other == key) = false := beq_false_of_ne hother
      rw [List.lookup_cons, List.lookup_cons, hfound, hne]
    · have hne : (other == found) = false := beq_false_of_ne fun h => hfound (h.symm.trans hother)
      rw [List.lookup_cons, hne, ih, if_pos hother]
    · rw [List.lookup_cons, List.lookup_cons, ih, if_neg hother]

namespace Fixtures

variable {fixtures : Fixtures} {source object : Text}

/-! ### The answers of fixtures -/

/-- A datasource is **known** if anything has been set for it. -/
def IsKnown (fixtures : Fixtures) (source : Text) : Prop :=
  (fixtures.sources.lookup source).isSome

/-- The **rows** under a datasource and a routine. -/
def rows? (fixtures : Fixtures) (source object : Text) : Option (List Row) :=
  (fixtures.sources.lookup source).bind (·.lookup object)

/-- What is under a datasource and a routine is the answer. -/
theorem answer_eq_ok_iff {rows : List Row} :
    fixtures.answer source object = .ok rows ↔ fixtures.rows? source object = some rows := by
  rw [answer, rows?]
  cases fixtures.sources.lookup source with
  | none => simp
  | some routines => cases h : routines.lookup object <;> simp [h]

/-- The connection fails if and only if the datasource is not known. -/
theorem connection_iff :
    (∃ reason, fixtures.answer source object = .error (.connection source reason)) ↔
      ¬ fixtures.IsKnown source := by
  rw [answer, IsKnown]
  cases fixtures.sources.lookup source with
  | none => simp
  | some routines => cases h : routines.lookup object <;> simp [h]

/-- The execution fails if and only if the datasource is known and the routine has no rows. -/
theorem execution_iff :
    (∃ reason, fixtures.answer source object = .error (.execution object reason)) ↔
      fixtures.IsKnown source ∧ fixtures.rows? source object = none := by
  rw [answer, IsKnown, rows?]
  cases fixtures.sources.lookup source with
  | none => simp
  | some routines => cases h : routines.lookup object <;> simp [h]

/-! ### Setting rows -/

theorem not_isKnown_empty : ¬ empty.IsKnown source := Bool.false_ne_true

@[simp] theorem rows?_empty : empty.rows? source object = none := rfl

/-- Setting rows makes one datasource known. -/
theorem isKnown_withRows {other routine : Text} {rows : List Row} :
    (fixtures.withRows other routine rows).IsKnown source ↔
      source = other ∨ fixtures.IsKnown source := by
  rw [IsKnown, withRows, lookup_setKey, IsKnown]
  split_ifs with h <;> simp [h]

/-- Setting rows changes the rows of one routine. -/
theorem rows?_withRows {other routine : Text} {rows : List Row} :
    (fixtures.withRows other routine rows).rows? source object =
      if other = source ∧ routine = object then some rows else fixtures.rows? source object := by
  rw [rows?, withRows, lookup_setKey, rows?]
  by_cases hsource : source = other
  · subst hsource
    rw [if_pos rfl, Option.bind_some, lookup_setKey]
    by_cases hobject : object = routine
    · simp [hobject]
    · rw [if_neg hobject, if_neg fun h => hobject h.2.symm]
      cases fixtures.sources.lookup source <;> rfl
  · rw [if_neg hsource, if_neg fun h => hsource h.1.symm]

/-! ### Setting entries -/

/-- An **entry** of fixtures: the rows that a routine of a datasource returns. -/
structure Entry where
  source : Text
  object : Text
  rows : List Row

/-- The place of an entry: its datasource and its routine. -/
def Entry.place (entry : Entry) : Text × Text := (entry.source, entry.object)

/-- Sets entries one after the other. -/
def withEntries (fixtures : Fixtures) (entries : List Entry) : Fixtures :=
  entries.foldl (fun fixtures entry => fixtures.withRows entry.source entry.object entry.rows)
    fixtures

/-- The fixtures with certain entries. -/
def ofEntries (entries : List Entry) : Fixtures := empty.withEntries entries

@[simp] theorem withEntries_nil : fixtures.withEntries [] = fixtures := rfl

@[simp] theorem withEntries_cons (entry : Entry) (entries : List Entry) :
    fixtures.withEntries (entry :: entries) =
      (fixtures.withRows entry.source entry.object entry.rows).withEntries entries := rfl

theorem withEntries_append (entries more : List Entry) :
    fixtures.withEntries (entries ++ more) = (fixtures.withEntries entries).withEntries more :=
  List.foldl_append

/-- Entries make their datasources known. -/
theorem isKnown_withEntries {entries : List Entry} :
    (fixtures.withEntries entries).IsKnown source ↔
      (∃ entry ∈ entries, entry.source = source) ∨ fixtures.IsKnown source := by
  induction entries generalizing fixtures with
  | nil => simp
  | cons entry entries ih =>
    rw [withEntries_cons, ih, isKnown_withRows, List.exists_mem_cons_iff, or_assoc, or_left_comm,
      eq_comm (a := source)]

/-- **The last entry counts** of those for one routine. -/
theorem rows?_withEntries {entries : List Entry} :
    (fixtures.withEntries entries).rows? source object =
      ((entries.reverse.find? (·.place = (source, object))).map Entry.rows).or
        (fixtures.rows? source object) := by
  induction entries generalizing fixtures with
  | nil => rfl
  | cons entry entries ih =>
    rw [withEntries_cons, ih, rows?_withRows, List.reverse_cons, List.find?_append]
    cases entries.reverse.find? (·.place = (source, object)) with
    | some found => rfl
    | none =>
      by_cases h : entry.source = source ∧ entry.object = object
      · simp [Entry.place, h]
      · simp [Entry.place, h]

/-- Entries add rows for their routines. -/
theorem isSome_rows?_withEntries {entries : List Entry} :
    ((fixtures.withEntries entries).rows? source object).isSome ↔
      (∃ entry ∈ entries, entry.place = (source, object)) ∨
        (fixtures.rows? source object).isSome := by
  rw [rows?_withEntries, Option.isSome_or, Bool.or_eq_true, Option.isSome_map, List.find?_isSome]
  simp only [List.mem_reverse, decide_eq_true_eq]

/-- **Entries for different routines are all there.** -/
theorem rows?_ofEntries_eq_some_iff {entries : List Entry}
    (h : (entries.map Entry.place).Nodup) {rows : List Row} :
    (ofEntries entries).rows? source object = some rows ↔ ⟨source, object, rows⟩ ∈ entries := by
  rw [ofEntries, rows?_withEntries, rows?_empty, Option.or_none, Option.map_eq_some_iff]
  constructor
  · rintro ⟨⟨found, routine, rows⟩, hfound, rfl⟩
    have hplace := List.find?_some hfound
    obtain ⟨rfl, rfl⟩ := Prod.mk.inj (of_decide_eq_true hplace)
    exact List.mem_reverse.1 (List.mem_of_find?_eq_some hfound)
  · intro hmem
    have hsome : (entries.reverse.find? (·.place = (source, object))).isSome :=
      List.find?_isSome.2 ⟨_, List.mem_reverse.2 hmem, decide_eq_true rfl⟩
    obtain ⟨found, hfound⟩ := Option.isSome_iff_exists.1 hsome
    have hplace := List.find?_some hfound
    obtain rfl := List.inj_on_of_nodup_map h
      (List.mem_reverse.1 (List.mem_of_find?_eq_some hfound)) hmem (of_decide_eq_true hplace)
    exact ⟨_, hfound, rfl⟩

end Fixtures

end BoundReport
