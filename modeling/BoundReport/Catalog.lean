import BoundReport.Definition.DataSet
import BoundReport.Definition.DataSource
import BoundReport.ReportError

/-!
# Catalogs

A **registry** holds the definitions of one kind, each under its own name. The first definition
of a name stays; a second one is refused. The definitions are kept in ascending order of their
names, by code points, so every list made from a registry has that order.

The **catalog** of a template is the registry of its datasources with that of its datasets.
-/

namespace BoundReport

/-- A kind of definitions with names. -/
class Named (α : Type) where
  kind : DeclarationKind
  name : α → Text

instance : Named DataSource := ⟨.dataSource, DataSource.name⟩
instance : Named DataSet := ⟨.dataSet, DataSet.name⟩

/-- Definitions in ascending order of their names. -/
structure Registry (α : Type) [Named α] where
  entries : List α
  sorted : entries.Pairwise fun a b => (Named.name a).precedes (Named.name b)

namespace Registry

variable {α : Type} [Named α]

/-- The definition with this name among some definitions. -/
def find? (name : Text) (entries : List α) : Option α :=
  entries.find? fun entry => Named.name entry = name

/-- Puts a definition in front of the first one whose name is greater. -/
def insertEntry (value : α) : List α → List α
  | [] => [value]
  | first :: rest =>
    if (Named.name value).precedes (Named.name first) then value :: first :: rest
    else first :: insertEntry value rest

theorem mem_insertEntry {value entry : α} {entries : List α} :
    entry ∈ insertEntry value entries ↔ entry = value ∨ entry ∈ entries := by
  induction entries with
  | nil => simp [insertEntry]
  | cons first rest ih =>
    rw [insertEntry]
    split
    · simp
    · simp only [List.mem_cons, ih]
      exact or_left_comm

theorem find?_eq_none_iff {name : Text} {entries : List α} :
    find? name entries = none ↔ ∀ entry ∈ entries, Named.name entry ≠ name := by
  simp [find?]

/-- Inserting a definition of a new name keeps the order. -/
theorem sorted_insertEntry {value : α} {entries : List α}
    (hsorted : entries.Pairwise fun a b => (Named.name a).precedes (Named.name b))
    (hfresh : find? (Named.name value) entries = none) :
    (insertEntry value entries).Pairwise fun a b => (Named.name a).precedes (Named.name b) := by
  rw [find?_eq_none_iff] at hfresh
  induction entries with
  | nil => simp [insertEntry]
  | cons first rest ih =>
    obtain ⟨hfirst, hrest⟩ := List.pairwise_cons.1 hsorted
    rw [insertEntry]
    split
    case isTrue hless =>
      refine List.pairwise_cons.2 ⟨fun entry hmem => ?_, hsorted⟩
      rcases List.mem_cons.1 hmem with rfl | hmem
      · exact hless
      · exact Text.precedes_trans hless (hfirst entry hmem)
    case isFalse hless =>
      refine List.pairwise_cons.2 ⟨fun entry hmem => ?_,
        ih hrest fun entry hmem => hfresh entry (List.mem_cons_of_mem _ hmem)⟩
      rcases mem_insertEntry.1 hmem with rfl | hmem
      · exact Text.precedes_of_not_precedes (hfresh first List.mem_cons_self).symm
          (Bool.eq_false_iff.2 hless)
      · exact hfirst entry hmem

/-- The registry without definitions. -/
def empty : Registry α := ⟨[], .nil⟩

/-- The definition with this name. -/
def get? (registry : Registry α) (name : Text) : Option α := find? name registry.entries

/-- Whether a definition has this name. -/
def contains (registry : Registry α) (name : Text) : Bool := (registry.get? name).isSome

/-- The number of definitions. -/
def size (registry : Registry α) : Nat := registry.entries.length

/-- Whether there are no definitions. -/
def isEmpty (registry : Registry α) : Bool := registry.entries.isEmpty

/-- The definitions in ascending order of their names. -/
def toList (registry : Registry α) : List α := registry.entries

/-- Adds a definition under its name, unless the name is taken. -/
def register (registry : Registry α) (value : α) : Except ReportError (Registry α) :=
  if hfresh : find? (Named.name value) registry.entries = none then
    .ok ⟨insertEntry value registry.entries, sorted_insertEntry registry.sorted hfresh⟩
  else .error (.duplicateDefinition (Named.kind α) (Named.name value))

end Registry

/-- The datasources and the datasets of a template. -/
structure Catalog where
  dataSources : Registry DataSource
  dataSets : Registry DataSet

namespace Catalog

/-- The catalog without definitions. -/
def empty : Catalog := ⟨.empty, .empty⟩

/-- Adds a datasource. -/
def registerDataSource (catalog : Catalog) (source : DataSource) : Except ReportError Catalog :=
  (catalog.dataSources.register source).map fun sources => { catalog with dataSources := sources }

/-- Adds a dataset. -/
def registerDataSet (catalog : Catalog) (dataSet : DataSet) : Except ReportError Catalog :=
  (catalog.dataSets.register dataSet).map fun dataSets => { catalog with dataSets := dataSets }

/-- The datasource that a dataset is read through. -/
def dataSourceFor? (catalog : Catalog) (dataSet : DataSet) : Option DataSource :=
  catalog.dataSources.get? dataSet.dataSource

end Catalog

end BoundReport
