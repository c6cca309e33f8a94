import BoundReport.Catalog

/-!
# What a Registry Holds

A registry is looked at through the list of its definitions, up to their order: the order is
that of the names, whatever the order in which they came. Registering adds one definition and
drops none, and fails only if the name is taken.

## Main results

* `Registry.exists_register`: a definition with a new name can be registered.
* `Registry.register_eq_ok`: what a registration that succeeds has done.
* `Registry.contains_iff`: the names of a registry are those of its definitions.
* `Registry.eq_of_perm`: registries with the same definitions are equal.
-/

namespace BoundReport

namespace Registry

variable {α : Type} [Named α] {registry next : Registry α} {value : α} {name : Text}

/-- Inserting adds the definition, wherever it is put. -/
theorem insertEntry_perm (value : α) (entries : List α) :
    (insertEntry value entries).Perm (value :: entries) := by
  induction entries with
  | nil => exact .refl _
  | cons first rest ih =>
    rw [insertEntry]
    split
    · exact .refl _
    · exact (ih.cons first).trans (.swap value first rest)

/-- **A definition with a new name can be registered.** -/
theorem exists_register (h : ∀ entry ∈ registry.toList, Named.name entry ≠ Named.name value) :
    ∃ next, registry.register value = .ok next ∧ next.toList.Perm (value :: registry.toList) :=
  ⟨_, dif_pos (find?_eq_none_iff.2 h), insertEntry_perm value registry.entries⟩

/-- **What a registration that succeeds has done**: the name was new, and the definition is
there beside those that were there before. -/
theorem register_eq_ok (h : registry.register value = .ok next) :
    (∀ entry ∈ registry.toList, Named.name entry ≠ Named.name value) ∧
      next.toList.Perm (value :: registry.toList) := by
  rw [register] at h
  split at h
  · rename_i hfresh
    cases h
    exact ⟨find?_eq_none_iff.1 hfresh, insertEntry_perm value registry.entries⟩
  · exact absurd h (by simp)

/-- A registration that succeeds adds one definition. -/
theorem size_of_register (h : registry.register value = .ok next) :
    next.size = registry.size + 1 :=
  (register_eq_ok h).2.length_eq

/-- The definition found under a name is in the registry and has the name. -/
theorem mem_of_get?_eq_some (h : registry.get? name = some value) :
    value ∈ registry.toList ∧ Named.name value = name :=
  ⟨List.mem_of_find?_eq_some h, by simpa using List.find?_some h⟩

/-- **The names of a registry are those of its definitions.** -/
theorem contains_iff :
    registry.contains name ↔ ∃ entry ∈ registry.toList, Named.name entry = name := by
  simp [contains, get?, find?, toList, List.find?_isSome]

/-- **Registering fails just if the name is taken.** -/
theorem register_eq_error_iff {error : ReportError} :
    registry.register value = .error error ↔ registry.contains (Named.name value) ∧
      error = .duplicateDefinition (Named.kind α) (Named.name value) := by
  rw [register, contains, get?]
  split
  · rename_i hfresh
    simp [hfresh]
  · rename_i htaken
    rw [Option.isSome_iff_ne_none]
    exact ⟨fun h => ⟨htaken, (Except.error.inj h).symm⟩, fun ⟨_, herror⟩ => herror ▸ rfl⟩

/-- **A registry is its definitions**, whatever the order in which they are listed. -/
theorem eq_of_perm (h : registry.toList.Perm next.toList) : registry = next := by
  have hentries : registry.entries = next.entries := by
    refine h.eq_of_pairwise (fun a b _ _ hab hba => ?_) registry.sorted next.sorted
    -- names in ascending order differ, so no definition comes both before and behind another one
    have hself : (Named.name a).precedes (Named.name a) := Text.precedes_trans hab hba
    rw [Text.precedes_irrefl] at hself
    exact absurd hself Bool.false_ne_true
  cases registry
  cases next
  obtain rfl := hentries
  rfl

end Registry

end BoundReport
