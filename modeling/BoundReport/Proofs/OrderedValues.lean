import Mathlib.Tactic.SplitIfs
import BoundReport.Json.Reader

/-!
# Ordered Values

Members are put into an object under their keys, in ascending order and each key once. So every
value that is read from a text is **ordered**: this holds of all objects in it.

## Main results

* `isAscending_insertKey`: putting in a member keeps the order.
* `Json.ordered_ofMembers`: an object is ordered whatever the order of its members was.
* `Json.ordered_of_parse?`: a value that is read is ordered.
-/

namespace BoundReport

/-! ### Ascending members -/

section

variable {α : Type} {key : Text} {value : α} {members : List (Text × α)}

/-- Members are in **ascending** order if each key comes before all later ones. -/
def IsAscending (members : List (Text × α)) : Prop :=
  members.Pairwise fun one two => one.1.precedes two.1

instance : Decidable (IsAscending members) :=
  inferInstanceAs (Decidable (members.Pairwise fun one two => one.1.precedes two.1))

/-- Ascending members have different keys. -/
theorem IsAscending.nodup (h : IsAscending members) : (members.map Prod.fst).Nodup := by
  refine List.pairwise_map.2 (h.imp fun {one two} hprecedes heq => ?_)
  rw [heq, Text.precedes_irrefl] at hprecedes
  cases hprecedes

/-- What holds of the members and of a new one holds of all when it has been put in. -/
theorem forall_mem_insertKey {P : Text × α → Prop} (hnew : P (key, value))
    (h : ∀ member ∈ members, P member) : ∀ member ∈ insertKey key value members, P member := by
  induction members with
  | nil => exact List.forall_mem_singleton.2 hnew
  | cons first rest ih =>
    obtain ⟨hfirst, hrest⟩ := List.forall_mem_cons.1 h
    rw [insertKey]
    split_ifs
    · exact List.forall_mem_cons.2 ⟨hnew, h⟩
    · exact List.forall_mem_cons.2 ⟨hnew, hrest⟩
    · exact List.forall_mem_cons.2 ⟨hfirst, ih hrest⟩

/-- **Putting in a member keeps the order.** -/
theorem isAscending_insertKey (h : IsAscending members) :
    IsAscending (insertKey key value members) := by
  induction members with
  | nil => exact List.pairwise_singleton _ _
  | cons first rest ih =>
    obtain ⟨hfirst, hrest⟩ := List.pairwise_cons.1 h
    rw [insertKey]
    split_ifs with hless heq
    · have hlater : ∀ member ∈ rest, key.precedes member.1 := fun member hmem =>
        Text.precedes_trans hless (hfirst member hmem)
      exact List.pairwise_cons.2 ⟨List.forall_mem_cons.2 ⟨hless, hlater⟩, h⟩
    · subst heq
      exact List.pairwise_cons.2 ⟨hfirst, hrest⟩
    · have hnew : first.1.precedes key :=
        Text.precedes_of_not_precedes heq (Bool.eq_false_iff.2 hless)
      exact List.pairwise_cons.2 ⟨forall_mem_insertKey hnew hfirst, ih hrest⟩

end

/-! ### Ordered values -/

namespace Json

/-- A value is **ordered** if the members of every object in it are in ascending order. -/
inductive Ordered : Json → Prop
  | null : Ordered .null
  | bool (value : Bool) : Ordered (.bool value)
  | int (value : Int) : Ordered (.int value)
  | float (value : Double) : Ordered (.float value)
  | string (value : Text) : Ordered (.string value)
  | array {items : List Json} (h : ∀ item ∈ items, Ordered item) : Ordered (.array items)
  | object {members : List (Text × Json)} (hkeys : IsAscending members)
      (h : ∀ member ∈ members, Ordered member.2) : Ordered (.object members)

attribute [simp] Ordered.null Ordered.bool Ordered.int Ordered.float Ordered.string

@[simp] theorem ordered_array_iff {items : List Json} :
    (array items).Ordered ↔ ∀ item ∈ items, item.Ordered := by
  constructor
  · intro h
    cases h with
    | array h => exact h
  · exact .array

@[simp] theorem ordered_object_iff {members : List (Text × Json)} :
    (object members).Ordered ↔ IsAscending members ∧ ∀ member ∈ members, member.2.Ordered := by
  constructor
  · intro h
    cases h with
    | object hkeys h => exact ⟨hkeys, h⟩
  · rintro ⟨hkeys, h⟩
    exact .object hkeys h

/-- **An object is ordered** whatever the order of its members was. -/
theorem ordered_ofMembers {members : List (Text × Json)}
    (h : ∀ member ∈ members, member.2.Ordered) : (ofMembers members).Ordered := by
  -- the members that have been put in so far are ordered
  have hfold (sorted : List (Text × Json)) (hkeys : IsAscending sorted)
      (hsorted : ∀ member ∈ sorted, member.2.Ordered) : (Json.object (members.foldl
        (fun sorted member => insertKey member.1 member.2 sorted) sorted)).Ordered := by
    induction members generalizing sorted with
    | nil => exact .object hkeys hsorted
    | cons first rest ih =>
      obtain ⟨hfirst, hrest⟩ := List.forall_mem_cons.1 h
      exact ih hrest _ (isAscending_insertKey hkeys) (forall_mem_insertKey hfirst hsorted)
  exact hfold [] .nil (List.forall_mem_nil _)

/-! ### Reading

A number is a single value, so there is nothing in it to be out of order. -/

theorem ordered_of_doubleOfParts {negative : Bool} {whole fraction : Text} {exponent : Int}
    {value : Json} (h : doubleOfParts negative whole fraction exponent = some value) :
    value.Ordered := by
  obtain ⟨x, -, rfl⟩ := Option.map_eq_some_iff.1 h
  exact .float _

theorem ordered_of_valueOfDigits {negative : Bool} {whole : Text} {value : Json}
    (h : valueOfDigits negative whole = some value) : value.Ordered := by
  rw [valueOfDigits] at h
  split_ifs at h
  · cases h
    exact .float _
  · cases h
    exact .int _
  · exact ordered_of_doubleOfParts h
  · cases h
    exact .int _
  · exact ordered_of_doubleOfParts h

theorem ordered_of_readNumber? {t rest : Text} {value : Json}
    (h : readNumber? t = some (value, rest)) : value.Ordered := by
  simp only [readNumber?, Option.bind_eq_bind] at h
  split_ifs at h
  obtain ⟨⟨fraction, behind⟩, -, h⟩ := Option.bind_eq_some_iff.1 h
  obtain ⟨⟨exponent, behind⟩, -, h⟩ := Option.bind_eq_some_iff.1 h
  split at h
  · obtain ⟨found, hfound, h⟩ := Option.bind_eq_some_iff.1 h
    cases h
    exact ordered_of_valueOfDigits hfound
  · obtain ⟨found, hfound, h⟩ := Option.bind_eq_some_iff.1 h
    cases h
    exact ordered_of_doubleOfParts hfound

/-- What is read with some fuel is ordered. -/
structure ReadsOrdered (fuel : Nat) : Prop where
  value {depth : Nat} {t rest : Text} {value : Json}
    (h : readValue? fuel depth t = some (value, rest)) : value.Ordered
  items {depth : Nat} {t rest : Text} {items : List Json}
    (h : readItems? fuel depth t = some (items, rest)) : ∀ item ∈ items, item.Ordered
  members {depth : Nat} {t rest : Text} {members : List (Text × Json)}
    (h : readMembers? fuel depth t = some (members, rest)) : ∀ member ∈ members, member.2.Ordered

namespace ReadsOrdered

variable {fuel depth : Nat} {t rest : Text}

/-- A value is ordered if its items or its members are. -/
theorem value_succ (reads : ReadsOrdered fuel) {value : Json}
    (h : readValue? (fuel + 1) depth t = some (value, rest)) : value.Ordered := by
  rw [readValue?] at h
  split at h
  · cases h
    exact .null
  · cases h
    exact .bool true
  · cases h
    exact .bool false
  · obtain ⟨⟨text, rest⟩, -, h⟩ := Option.map_eq_some_iff.1 h
    cases h
    exact .string text
  · split_ifs at h
    split at h
    · cases h
      exact .array (List.forall_mem_nil _)
    · obtain ⟨⟨items, rest⟩, hitems, h⟩ := Option.map_eq_some_iff.1 h
      cases h
      exact .array (reads.items hitems)
  · split_ifs at h
    split at h
    · cases h
      exact .object .nil (List.forall_mem_nil _)
    · obtain ⟨⟨members, rest⟩, hmembers, h⟩ := Option.map_eq_some_iff.1 h
      cases h
      exact ordered_ofMembers (reads.members hmembers)
  · exact ordered_of_readNumber? h

/-- Items are ordered if the first one is and those behind it are. -/
theorem items_succ (reads : ReadsOrdered fuel) {items : List Json}
    (h : readItems? (fuel + 1) depth t = some (items, rest)) : ∀ item ∈ items, item.Ordered := by
  simp only [readItems?, Option.bind_eq_bind] at h
  obtain ⟨⟨item, behind⟩, hitem, h⟩ := Option.bind_eq_some_iff.1 h
  split at h
  · obtain ⟨⟨more, behind⟩, hmore, h⟩ := Option.bind_eq_some_iff.1 h
    cases h
    exact List.forall_mem_cons.2 ⟨reads.value hitem, reads.items hmore⟩
  · cases h
    exact List.forall_mem_singleton.2 (reads.value hitem)
  · cases h

/-- Members are ordered if the first one is and those behind it are. -/
theorem members_succ (reads : ReadsOrdered fuel) {members : List (Text × Json)}
    (h : readMembers? (fuel + 1) depth t = some (members, rest)) :
    ∀ member ∈ members, member.2.Ordered := by
  simp only [readMembers?, Option.bind_eq_bind] at h
  split at h
  · obtain ⟨⟨key, behind⟩, -, h⟩ := Option.bind_eq_some_iff.1 h
    split at h
    · obtain ⟨⟨value, behind⟩, hvalue, h⟩ := Option.bind_eq_some_iff.1 h
      split at h
      · obtain ⟨⟨more, behind⟩, hmore, h⟩ := Option.bind_eq_some_iff.1 h
        cases h
        exact List.forall_mem_cons.2 ⟨reads.value hvalue, reads.members hmore⟩
      · cases h
        exact List.forall_mem_singleton.2 (reads.value hvalue)
      · cases h
    · cases h
  · cases h

end ReadsOrdered

/-- Whatever the fuel, what is read is ordered. -/
theorem readsOrdered (fuel : Nat) : ReadsOrdered fuel := by
  induction fuel with
  | zero => exact ⟨nofun, nofun, nofun⟩
  | succ fuel reads => exact ⟨reads.value_succ, reads.items_succ, reads.members_succ⟩

/-- **A value that is read is ordered.** -/
theorem ordered_of_parse? {t : Text} {value : Json} (h : parse? t = some value) :
    value.Ordered := by
  rw [parse?] at h
  split at h
  · next hread =>
    split_ifs at h
    cases h
    exact (readsOrdered _).value hread
  · cases h

end Json

end BoundReport
