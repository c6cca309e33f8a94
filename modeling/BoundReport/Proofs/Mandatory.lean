import BoundReport.Definition.DataSource
import BoundReport.Proofs.ItemLists

/-!
# Mandatory Attributes

The attributes of a definition are read in a fixed order, and the first one that is at fault gives
the error. A mandatory attribute is **missing** if it is not there, or if the first one with its
key has nothing but spaces between its quotes. The type of a dataset is the one that differs: it
has to be there, but an empty one is an unknown type and not a missing one.

## Main results

* `errorOf?_bind`, `errorOf?_mapM`: of computations in a row the first one that fails gives the
  error.
* `DataSource.errorOf?_ofAttributes`, `DataSet.errorOf?_ofAttributes`: the error of a definition.
* `ofAttributes_missing`: what becomes of a missing attribute behind attributes without fault.
-/

namespace BoundReport

/-! ### The first error -/

section

variable {ε α β : Type}

/-- The error of a computation, if it fails. -/
def errorOf? : Except ε α → Option ε
  | .error error => some error
  | .ok _ => none

theorem errorOf?_eq_some_iff {result : Except ε α} {error : ε} :
    errorOf? result = some error ↔ result = .error error := by
  cases result <;> simp [errorOf?]

theorem errorOf?_eq_none_iff {result : Except ε α} :
    errorOf? result = none ↔ ∃ value, result = .ok value := by
  cases result <;> simp [errorOf?]

/-- **The first error counts**: a computation in front of others whose errors do not depend on its
value adds its own error in front of theirs. -/
theorem errorOf?_bind {κ : Type} {fault? : κ → Option ε} {key : κ} {keys : List κ}
    {last : Option ε} {first : Except ε α} {next : α → Except ε β}
    (hfirst : errorOf? first = fault? key)
    (hnext : ∀ a, errorOf? (next a) = (keys.findSome? fault?).or last) :
    errorOf? (first >>= next) = ((key :: keys).findSome? fault?).or last := by
  rw [List.findSome?_cons, ← hfirst]
  cases first with
  | error error => rfl
  | ok a => exact hnext a

/-- The error of a computation on each of some values is that of the first one at fault. -/
theorem errorOf?_mapM {f : α → Except ε β} (values : List α) :
    errorOf? (values.mapM f) = values.findSome? fun value => errorOf? (f value) := by
  induction values with
  | nil => rfl
  | cons value values ih =>
    rw [List.mapM_cons, ← Option.or_none (o := List.findSome? _ _)]
    refine errorOf?_bind rfl fun b => ?_
    rw [Option.or_none, ← ih]
    cases values.mapM f <;> rfl

end

/-! ### Missing attributes -/

/-- An attribute is **given** in items if one of them has its key. -/
def IsGiven (items : List (Text × Text)) (key : Text) : Prop := ∃ item ∈ items, item.1 = key

/-- An attribute is **missing** from items if none of them has its key, or nothing but spaces is
the value of the first one that has. -/
def IsMissing (items : List (Text × Text)) (key : Text) : Prop :=
  ∀ item ∈ items.find? (·.1 = key), Text.trim item.2 = []

instance (items : List (Text × Text)) (key : Text) : Decidable (IsGiven items key) :=
  inferInstanceAs (Decidable (∃ item ∈ items, item.1 = key))

instance (items : List (Text × Text)) (key : Text) : Decidable (IsMissing items key) :=
  inferInstanceAs (Decidable (∀ item ∈ items.find? (·.1 = key), Text.trim item.2 = []))

variable {items : List (Text × Text)} {key : Text}

theorem not_isGiven_iff : ¬ IsGiven items key ↔ items.find? (·.1 = key) = none := by
  simp only [IsGiven, not_exists, not_and, List.find?_eq_none, decide_eq_true_eq]

/-- Reading a mandatory attribute fails only because it is missing. -/
theorem eq_of_errorOf?_require {attributes : Attributes} {error : DefinitionError}
    (h : errorOf? (attributes.require key) = some error) : error = .missingAttribute key := by
  rw [Attributes.require] at h
  split at h <;> cases h
  rfl

/-- Reading a mandatory attribute fails if it is missing, and only then. -/
theorem errorOf?_require (h : key ≠ Attributes.paramKey) :
    errorOf? ((Attributes.ofItems items).require key) =
      if IsMissing items key then some (.missingAttribute key) else none := by
  rw [Attributes.require, Attributes.get?_ofItems h]
  cases hfind : items.find? (·.1 = key) with
  | none => simp [IsMissing, hfind, errorOf?]
  | some item =>
    cases htrim : Text.trim item.2 <;> simp [IsMissing, hfind, htrim, errorOf?]

/-- Among reads that name their own keys, the first one behind reads without fault decides whether
its attribute is missing. -/
theorem findSome?_eq_missingAttribute_iff {fault? : Text → Option DefinitionError}
    {before after : List Text} {last : Option DefinitionError}
    (hown : ∀ other found, fault? other = some (.missingAttribute found) → other = found)
    (hlast : last ≠ some (.missingAttribute key)) (hnodup : (before ++ key :: after).Nodup)
    (hbefore : ∀ other ∈ before, fault? other = none) :
    ((before ++ key :: after).findSome? fault?).or last = some (.missingAttribute key) ↔
      fault? key = some (.missingAttribute key) := by
  rw [List.findSome?_append, List.findSome?_eq_none_iff.2 hbefore, Option.none_or,
    List.findSome?_cons]
  cases hkey : fault? key with
  | some error => simp
  | none =>
    have hafter : after.findSome? fault? ≠ some (.missingAttribute key) := by
      intro hfound
      obtain ⟨other, hother, hfault⟩ := List.exists_of_findSome?_eq_some hfound
      obtain rfl := hown other key hfault
      exact (List.nodup_cons.1 (List.nodup_append.1 hnodup).2.1).1 hother
    cases hfound : after.findSome? fault? with
    | none => simpa using hlast
    | some error => simpa [hfound] using hafter

/-! ### Datasources -/

namespace DataSource

/-- The mandatory attributes of a datasource, in the order in which they are read. -/
def mandatory : List Text := ["name", "server", "database", "user", "password"]

/-- **The error of a datasource** is that of its first mandatory attribute at fault. -/
theorem errorOf?_ofAttributes (attributes : Attributes) : errorOf? (ofAttributes attributes) =
    mandatory.findSome? fun key => errorOf? (attributes.require key) := by
  rw [ofAttributes, ← Option.or_none (o := List.findSome? _ _)]
  exact errorOf?_bind rfl fun _ => errorOf?_bind rfl fun _ => errorOf?_bind rfl fun _ =>
    errorOf?_bind rfl fun _ => errorOf?_bind rfl fun _ => rfl

theorem nodup_mandatory : mandatory.Nodup := by decide

theorem ne_paramKey_of_mem_mandatory : ∀ key ∈ mandatory, key ≠ Attributes.paramKey := by decide

/-- Behind given attributes a mandatory attribute is the error if it is missing, and only then. -/
theorem ofAttributes_eq_missingAttribute_iff {before after : List Text}
    (hkeys : mandatory = before ++ key :: after)
    (hbefore : ∀ other ∈ before, ¬ IsMissing items other) :
    ofAttributes (.ofItems items) = .error (.missingAttribute key) ↔ IsMissing items key := by
  have hnodup := nodup_mandatory
  have hparam := ne_paramKey_of_mem_mandatory
  rw [hkeys] at hnodup hparam
  have hown (other found : Text) (h : errorOf? ((Attributes.ofItems items).require other) =
      some (.missingAttribute found)) : other = found := by
    cases eq_of_errorOf?_require h
    rfl
  have hgiven : ∀ other ∈ before, errorOf? ((Attributes.ofItems items).require other) = none := by
    intro other hother
    rw [errorOf?_require (hparam other (List.mem_append_left _ hother)),
      if_neg (hbefore other hother)]
  rw [← errorOf?_eq_some_iff, errorOf?_ofAttributes, hkeys,
    ← Option.or_none (o := List.findSome? _ _),
    findSome?_eq_missingAttribute_iff hown (Option.some_ne_none _).symm hnodup hgiven,
    errorOf?_require (hparam key (List.mem_append_right _ List.mem_cons_self))]
  simp

end DataSource

/-! ### Datasets -/

namespace DataSet

/-- The key of the attribute that names the type. -/
def typeKey : Text := "type"

/-- The mandatory attributes of a dataset, in the order in which they are read. -/
def mandatory : List Text := ["datasource", "name", typeKey, "object"]

/-- The error that reading a mandatory attribute gives. -/
def fault? (attributes : Attributes) (key : Text) : Option DefinitionError :=
  if key = typeKey then errorOf? (typeOfAttributes attributes)
  else errorOf? (attributes.require key)

/-- **The error of a dataset** is that of its first mandatory attribute at fault, or else that of
its first parameter at fault. -/
theorem errorOf?_ofAttributes (attributes : Attributes) : errorOf? (ofAttributes attributes) =
    (mandatory.findSome? (fault? attributes)).or
      (errorOf? (parseParameters attributes.params)) := by
  refine errorOf?_bind rfl fun _ => errorOf?_bind rfl fun _ => errorOf?_bind rfl fun _ =>
    errorOf?_bind rfl fun _ => ?_
  cases parseParameters attributes.params <;> rfl

/-- The items have an attribute **without fault** under a mandatory key: it is not missing, and
the type has to be one of the known ones. -/
def IsSound (items : List (Text × Text)) (key : Text) : Prop :=
  ¬ IsMissing items key ∧ (key = typeKey →
    ∃ item ∈ items.find? (·.1 = key), ∃ type, DataSetType.parse (Text.trim item.2) = .ok type)

/-- A type that is not given is missing, and one that is given has to be known. -/
theorem typeOfAttributes_ofItems : typeOfAttributes (.ofItems items) =
    match items.find? (·.1 = typeKey) with
    | none => .error (.missingAttribute typeKey)
    | some item => DataSetType.parse (Text.trim item.2) := by
  have hread (attributes : Attributes) : typeOfAttributes attributes =
      match attributes.get? typeKey with
      | none => .error (.missingAttribute typeKey)
      | some value => DataSetType.parse value := by
    rw [typeOfAttributes]
    split <;> simp_all [typeKey]
  have hkey : typeKey ≠ Attributes.paramKey := by decide
  rw [hread, Attributes.get?_ofItems hkey]
  cases items.find? (·.1 = typeKey) <;> rfl

/-- Reading a mandatory attribute calls no other one missing. -/
theorem eq_of_fault? {attributes : Attributes} {other found : Text}
    (h : fault? attributes other = some (.missingAttribute found)) : other = found := by
  rw [fault?] at h
  split_ifs at h with htype
  · rw [errorOf?_eq_some_iff, typeOfAttributes] at h
    split at h
    · rw [DataSetType.parse] at h
      split at h <;> cases h
    · cases h
      exact htype
  · cases eq_of_errorOf?_require h
    rfl

/-- A mandatory attribute is read without fault if the items have one. -/
theorem fault?_eq_none (h : key ≠ Attributes.paramKey) (hsound : IsSound items key) :
    fault? (.ofItems items) key = none := by
  obtain ⟨hgiven, htype⟩ := hsound
  rw [fault?]
  split_ifs with hkey
  · obtain ⟨item, hitem, type, hparse⟩ := htype hkey
    subst hkey
    rw [typeOfAttributes_ofItems, Option.mem_def.1 hitem]
    exact errorOf?_eq_none_iff.2 ⟨type, hparse⟩
  · rw [errorOf?_require h, if_neg hgiven]

/-- A mandatory attribute is read as missing if it is, but a type has to be absent. -/
theorem fault?_eq_missingAttribute_iff (h : key ≠ Attributes.paramKey) :
    fault? (.ofItems items) key = some (.missingAttribute key) ↔
      IsMissing items key ∧ (key = typeKey → ¬ IsGiven items key) := by
  rw [fault?]
  split_ifs with hkey
  · subst hkey
    rw [typeOfAttributes_ofItems, not_isGiven_iff]
    cases hfind : items.find? (·.1 = typeKey) with
    | none => simp [errorOf?, IsMissing, hfind]
    | some item =>
      have hparse : DataSetType.parse (Text.trim item.2) ≠ .error (.missingAttribute typeKey) := by
        rw [DataSetType.parse]
        split <;> simp
      simpa [errorOf?_eq_some_iff] using hparse
  · rw [errorOf?_require h]
    simp [hkey]

/-- An empty type is an unknown one. -/
theorem fault?_typeKey_of_isGiven (hmissing : IsMissing items typeKey)
    (hgiven : IsGiven items typeKey) :
    fault? (.ofItems items) typeKey = some (.invalidDataSetType []) := by
  rw [fault?, if_pos rfl, typeOfAttributes_ofItems]
  cases hfind : items.find? (·.1 = typeKey) with
  | none => exact absurd hgiven (not_isGiven_iff.2 hfind)
  | some item =>
    show errorOf? (DataSetType.parse (Text.trim item.2)) = _
    rw [hmissing item hfind]
    rfl

/-- No faulty parameter is called a missing attribute. -/
theorem errorOf?_parseParameters_ne (values : List Text) :
    errorOf? (parseParameters values) ≠ some (.missingAttribute key) := by
  intro h
  rw [parseParameters, errorOf?_mapM] at h
  obtain ⟨value, -, hvalue⟩ := List.exists_of_findSome?_eq_some h
  rw [errorOf?_eq_some_iff, Parameter.parse] at hvalue
  split at hvalue
  · rcases ParsedTemplate.bind_eq_error_iff.1 hvalue with htype | ⟨type, -, hsize⟩
    · rw [ColumnType.parse] at htype
      split at htype <;> cases htype
    · split at hsize <;> cases hsize
  · cases hvalue

theorem nodup_mandatory : mandatory.Nodup := by decide

theorem ne_paramKey_of_mem_mandatory : ∀ key ∈ mandatory, key ≠ Attributes.paramKey := by decide

section

variable {before after : List Text}

/-- The mandatory attributes before one of them are read without fault. -/
theorem fault?_eq_none_of_mem (hkeys : mandatory = before ++ key :: after)
    (hbefore : ∀ other ∈ before, IsSound items other) :
    ∀ other ∈ before, fault? (.ofItems items) other = none := by
  intro other hother
  have hmem : other ∈ mandatory := hkeys ▸ List.mem_append_left _ hother
  exact fault?_eq_none (ne_paramKey_of_mem_mandatory other hmem) (hbefore other hother)

/-- Behind attributes without fault a mandatory attribute is the error if it is missing, and only
then; but a type has to be absent. -/
theorem ofAttributes_eq_missingAttribute_iff (hkeys : mandatory = before ++ key :: after)
    (hbefore : ∀ other ∈ before, IsSound items other) :
    ofAttributes (.ofItems items) = .error (.missingAttribute key) ↔
      IsMissing items key ∧ (key = typeKey → ¬ IsGiven items key) := by
  have hmem : key ∈ mandatory := hkeys ▸ List.mem_append_right _ List.mem_cons_self
  have hown (other found : Text) : fault? (.ofItems items) other = some (.missingAttribute found) →
      other = found := eq_of_fault?
  rw [← errorOf?_eq_some_iff, errorOf?_ofAttributes, hkeys,
    findSome?_eq_missingAttribute_iff hown (errorOf?_parseParameters_ne _)
      (hkeys ▸ nodup_mandatory) (fault?_eq_none_of_mem hkeys hbefore),
    fault?_eq_missingAttribute_iff (ne_paramKey_of_mem_mandatory key hmem)]

/-- Behind attributes without fault an empty type is the error. -/
theorem ofAttributes_of_emptyType (hkeys : mandatory = before ++ typeKey :: after)
    (hbefore : ∀ other ∈ before, IsSound items other) (hmissing : IsMissing items typeKey)
    (hgiven : IsGiven items typeKey) :
    ofAttributes (.ofItems items) = .error (.invalidDataSetType []) := by
  rw [← errorOf?_eq_some_iff, errorOf?_ofAttributes, hkeys, List.findSome?_append,
    List.findSome?_eq_none_iff.2 (fault?_eq_none_of_mem hkeys hbefore), List.findSome?_cons,
    fault?_typeKey_of_isGiven hmissing hgiven]
  rfl

end

end DataSet

/-! ### Definitions that lack an attribute -/

/-- **What becomes of a missing attribute.** If all mandatory attributes before it are without
fault, a definition fails because of this attribute if and only if it is missing. For the type of
a dataset this holds only if the type is not given at all: if it is given and empty, the
definition fails because its type is unknown. -/
theorem ofAttributes_missing (items : List (Text × Text)) :
    (∀ before key after, DataSource.mandatory = before ++ key :: after →
      (∀ other ∈ before, ¬ IsMissing items other) →
      (DataSource.ofAttributes (.ofItems items) = .error (.missingAttribute key) ↔
        IsMissing items key)) ∧
      ∀ before key after, DataSet.mandatory = before ++ key :: after →
        (∀ other ∈ before, DataSet.IsSound items other) →
        (DataSet.ofAttributes (.ofItems items) = .error (.missingAttribute key) ↔
          IsMissing items key ∧ (key = DataSet.typeKey → ¬ IsGiven items key)) ∧
        (key = DataSet.typeKey → IsMissing items key → IsGiven items key →
          DataSet.ofAttributes (.ofItems items) = .error (.invalidDataSetType [])) := by
  refine ⟨fun before key after hkeys hbefore => ?_, fun before key after hkeys hbefore => ⟨?_, ?_⟩⟩
  · exact DataSource.ofAttributes_eq_missingAttribute_iff hkeys hbefore
  · exact DataSet.ofAttributes_eq_missingAttribute_iff hkeys hbefore
  · rintro rfl hmissing hgiven
    exact DataSet.ofAttributes_of_emptyType hkeys hbefore hmissing hgiven

/-- A datasource whose first server is nothing but spaces. -/
def emptyServerItems : List (Text × Text) := [("name", "n"), ("server", " "), ("server", "s")]

theorem ofAttributes_missing_emptyServer :
    DataSource.mandatory = ["name"] ++ "server" :: ["database", "user", "password"] ∧
      (∀ other ∈ [("name" : Text)], ¬ IsMissing emptyServerItems other) ∧
      IsMissing emptyServerItems "server" ∧
      DataSource.ofAttributes (.ofItems emptyServerItems) = .error (.missingAttribute "server") := by
  have hname : ∀ other ∈ [("name" : Text)], ¬ IsMissing emptyServerItems other := by decide
  have hserver : IsMissing emptyServerItems "server" := by decide
  exact ⟨rfl, hname, hserver, ((ofAttributes_missing emptyServerItems).1 _ _ _ rfl hname).2 hserver⟩

/-- A dataset whose type is given and empty. -/
def emptyTypeItems : List (Text × Text) :=
  [("datasource", "d"), ("name", "n"), ("type", ""), ("object", "o")]

/-- An empty type is missing behind attributes without fault, and yet it is not the missing
attribute that the dataset fails because of. -/
theorem ofAttributes_emptyTypeItems :
    DataSet.mandatory = [("datasource" : Text), "name"] ++ DataSet.typeKey :: ["object"] ∧
      (∀ other ∈ [("datasource" : Text), "name"], DataSet.IsSound emptyTypeItems other) ∧
      IsMissing emptyTypeItems DataSet.typeKey ∧
      DataSet.ofAttributes (.ofItems emptyTypeItems) ≠
        .error (.missingAttribute DataSet.typeKey) := by
  have hsound {key : Text} (hgiven : ¬ IsMissing emptyTypeItems key)
      (hkey : key ≠ DataSet.typeKey) : DataSet.IsSound emptyTypeItems key :=
    ⟨hgiven, fun heq => absurd heq hkey⟩
  refine ⟨rfl, ?_, by decide, by decide⟩
  rw [List.forall_mem_cons, List.forall_mem_singleton]
  exact ⟨hsound (by decide) (by decide), hsound (by decide) (by decide)⟩

end BoundReport
