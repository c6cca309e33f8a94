import Mathlib.Data.List.Count
import BoundReport.Definition.DataSource
import BoundReport.Proofs.ItemLists
import BoundReport.Proofs.Statements

/-!
# The Order of Attributes

A definition is read from its attributes by their keys, and the faults of attributes are looked for
in a fixed order of keys. So it does not matter in which order attributes with different keys are
written, neither for what they define nor for the error that they give. Of attributes with the same
key the order matters: the first one counts, and parameters keep their order.

## Main results

* `Reordered.perm`: reordered items are the same items.
* `Attributes.parse_reordered`: reordered items define the same.
* `ListsItems.of_spaced`: items with spaces between them are a list of attributes.
-/

namespace BoundReport

/-! ### Reordered items -/

/-- Items are **reordered** if under each key the same items stand in the same order. Only the order
of items with different keys may have changed. -/
def Reordered (items items' : List (Text × Text)) : Prop :=
  ∀ key, items.filter (·.1 = key) = items'.filter (·.1 = key)

/-- Only keys that some item has need to be looked at. -/
theorem reordered_iff {items items' : List (Text × Text)} :
    Reordered items items' ↔ ∀ item ∈ items ++ items',
      items.filter (·.1 = item.1) = items'.filter (·.1 = item.1) := by
  constructor
  · exact fun h item _ => h item.1
  · intro h key
    by_cases hkey : ∃ item ∈ items ++ items', item.1 = key
    · obtain ⟨item, hmem, rfl⟩ := hkey
      exact h item hmem
    · have hnone (more : List (Text × Text)) (hsub : more ⊆ items ++ items') :
          more.filter (·.1 = key) = [] :=
        List.filter_eq_nil_iff.2 fun item hmem heq =>
          hkey ⟨item, hsub hmem, of_decide_eq_true heq⟩
      rw [hnone items (List.subset_append_left _ _), hnone items' (List.subset_append_right _ _)]

instance (items items' : List (Text × Text)) : Decidable (Reordered items items') :=
  decidable_of_iff _ reordered_iff.symm

namespace Reordered

variable {items items' : List (Text × Text)}

/-- Reordered items are the same items, each as often as before. -/
theorem perm (h : Reordered items items') : items.Perm items' := by
  rw [List.perm_iff_count]
  intro item
  rw [← List.count_filter (l := items) (p := (·.1 = item.1)) (by simp), h item.1,
    List.count_filter (by simp)]

/-- The first item with a key is the same. -/
theorem find?_eq (h : Reordered items items') (key : Text) :
    items.find? (·.1 = key) = items'.find? (·.1 = key) := by
  rw [← List.head?_filter, h key, List.head?_filter]

/-- Attributes are found among reordered items as before. -/
theorem get?_eq (h : Reordered items items') (key : Text) :
    (Attributes.ofItems items).get? key = (Attributes.ofItems items').get? key := by
  by_cases hkey : key = Attributes.paramKey
  · rw [Attributes.get?, Attributes.get?, if_pos hkey, if_pos hkey]
  · rw [Attributes.get?_ofItems hkey, Attributes.get?_ofItems hkey, h.find?_eq]

/-- Reordered items have the same parameters in the same order. -/
theorem params_eq (h : Reordered items items') :
    (Attributes.ofItems items).params = (Attributes.ofItems items').params := by
  rw [Attributes.params_ofItems, Attributes.params_ofItems, h]

end Reordered

/-! ### What a definition depends on -/

/-- A mandatory attribute depends on what is found under its key. -/
theorem Attributes.require_congr {one two : Attributes} {key : Text}
    (h : one.get? key = two.get? key) : one.require key = two.require key := by
  rw [require, require, h]

/-- **A datasource depends on what is found under keys.** -/
theorem DataSource.ofAttributes_congr {one two : Attributes}
    (hget : ∀ key, one.get? key = two.get? key) : ofAttributes one = ofAttributes two := by
  simp only [ofAttributes, Attributes.require_congr (hget _)]

/-- A dataset depends on what is found under keys, and on what its parameters are read as. -/
theorem DataSet.ofAttributes_congr_parseParameters {one two : Attributes}
    (hget : ∀ key, one.get? key = two.get? key)
    (hparams : parseParameters one.params = parseParameters two.params) :
    ofAttributes one = ofAttributes two := by
  simp only [ofAttributes, typeOfAttributes, Attributes.require_congr (hget _), hget, hparams]

/-- **A dataset depends on what is found under keys, and on the parameters.** -/
theorem DataSet.ofAttributes_congr {one two : Attributes}
    (hget : ∀ key, one.get? key = two.get? key) (hparams : one.params = two.params) :
    ofAttributes one = ofAttributes two :=
  ofAttributes_congr_parseParameters hget (congrArg parseParameters hparams)

/-! ### Spaced items -/

/-- Spaces may stand in front of items. -/
theorem ListsItems.spaces_append {spaces text : Text} {items : List (Text × Text)}
    (hspaces : ∀ c ∈ spaces, isSpace c) (h : ListsItems text items) :
    ListsItems (spaces ++ text) items := by
  cases h with
  | nil hmore => exact .nil (List.forall_mem_append.2 ⟨hspaces, hmore⟩)
  | cons hlead hkey hbefore hafter hvalue hrest =>
    rw [← List.append_assoc]
    exact .cons (List.forall_mem_append.2 ⟨hspaces, hlead⟩) hkey hbefore hafter hvalue hrest

/-- An item may be written in front of others. -/
theorem ListsItems.writeAttribute_append {item : Text × Text} {rest : Text}
    {items : List (Text × Text)} (hkey : IsWord item.1) (hvalue : '"' ∉ item.2)
    (hrest : ListsItems rest items) : ListsItems (writeAttribute item ++ rest) (item :: items) := by
  have hnone : ∀ c ∈ ([] : Text), isSpace c := List.forall_mem_nil _
  have hlists := ListsItems.cons hnone hkey hnone hnone hvalue hrest
  simpa [writeAttribute] using hlists

/-- **Written items with spaces between them** are a list of attributes. -/
theorem ListsItems.of_spaced {text : Text} {items : List (Text × Text)}
    (h : Spaced (items.map writeAttribute) text)
    (hitems : ∀ item ∈ items, IsWord item.1 ∧ '"' ∉ item.2) : ListsItems text items := by
  induction items generalizing text with
  | nil => cases h
  | cons item rest ih =>
    obtain ⟨⟨hkey, hvalue⟩, hrest⟩ := List.forall_mem_cons.1 hitems
    cases rest with
    | nil =>
      rw [spaced_one.1 h, ← List.append_nil (writeAttribute item)]
      exact .writeAttribute_append hkey hvalue (.nil (List.forall_mem_nil _))
    | cons next others =>
      obtain ⟨gap, more, hgap, hmore, rfl⟩ := spaced_cons.1 h
      exact .writeAttribute_append hkey hvalue ((ih hmore hrest).spaces_append hgap.2)

/-- Attributes as they are written have a space between them. -/
theorem spaced_writeAttributes (first : Text × Text) (rest : List (Text × Text)) :
    Spaced ((first :: rest).map writeAttribute) (writeAttributes (first :: rest)) := by
  induction rest generalizing first with
  | nil =>
    rw [writeAttributes, List.flatMap_nil, List.append_nil]
    exact .one
  | cons next rest ih =>
    have hspace : IsSpaces [' '] := by decide
    have htext : writeAttributes (first :: next :: rest) =
        writeAttribute first ++ ([' '] ++ writeAttributes (next :: rest)) := rfl
    rw [htext]
    exact .cons hspace (ih next)

namespace Attributes

/-- **Reordered items define the same.** If the items of two texts are reordered, both texts are
lists of attributes, and they define the same datasource or give the same error, and so for
datasets. -/
theorem parse_reordered {text text' : Text} {items items' : List (Text × Text)}
    (htext : ListsItems text items) (htext' : ListsItems text' items')
    (h : Reordered items items') :
    parse text = .ok (ofItems items) ∧ parse text' = .ok (ofItems items') ∧
      DataSource.parse text = DataSource.parse text' ∧
      DataSet.parse text = DataSet.parse text' := by
  have hparse : parse text = .ok (ofItems items) :=
    parse_eq_ok_iff_listsItems.2 ⟨items, htext, rfl⟩
  have hparse' : parse text' = .ok (ofItems items') :=
    parse_eq_ok_iff_listsItems.2 ⟨items', htext', rfl⟩
  refine ⟨hparse, hparse', ?_, ?_⟩
  · rw [DataSource.parse, DataSource.parse, hparse, hparse']
    exact DataSource.ofAttributes_congr h.get?_eq
  · rw [DataSet.parse, DataSet.parse, hparse, hparse']
    exact DataSet.ofAttributes_congr h.get?_eq h.params_eq

/-- A dataset with an unknown type, a faulty parameter among two, an object that is missing, and two
names. -/
def faultyItems : List (Text × Text) :=
  [("param", "a,INT"), ("object", " "), ("name", "n"), ("datasource", "d"), ("param", "b,INT,4"),
    ("type", "list"), ("name", "m")]

/-- The same in another order. -/
def reorderedItems : List (Text × Text) :=
  [("name", "n"), ("type", "list"), ("name", "m"), ("param", "a,INT"), ("param", "b,INT,4"),
    ("datasource", "d"), ("object", " ")]

/-- The fault that counts is that of the type, wherever it stands. -/
theorem parse_reordered_faulty :
    ListsItems (writeAttributes faultyItems) faultyItems ∧
      ListsItems (writeAttributes reorderedItems) reorderedItems ∧
      Reordered faultyItems reorderedItems ∧
      DataSet.parse (writeAttributes faultyItems) = .error (.invalidDataSetType "list") ∧
      DataSet.parse (writeAttributes reorderedItems) = .error (.invalidDataSetType "list") := by
  have hitems : ∀ item ∈ faultyItems ++ reorderedItems, IsWord item.1 ∧ '"' ∉ item.2 := by
    decide +kernel
  obtain ⟨hfaulty, hreordered⟩ := List.forall_mem_append.1 hitems
  have htext := ListsItems.of_spaced (spaced_writeAttributes _ _) hfaulty
  have htext' := ListsItems.of_spaced (spaced_writeAttributes _ _) hreordered
  have h : Reordered faultyItems reorderedItems := by decide
  have herror : DataSet.parse (writeAttributes faultyItems) =
      .error (.invalidDataSetType "list") := by decide +kernel
  obtain ⟨-, -, -, hsame⟩ := parse_reordered htext htext' h
  exact ⟨htext, htext', h, herror, hsame.symm.trans herror⟩

end Attributes

end BoundReport
