import BoundReport.Proofs.FixtureTables
import BoundReport.Proofs.OrderedValues

/-!
# Fixtures from Values

A value lists fixtures if it is an object of datasources, each an object of routines, each an array
of rows, each an object of cells. Such a value is a **listing** that is written down, and what is
loaded from it are the entries of the listing in their order. Any other value has a first fault,
and it is this fault that loading ends with.

## Main results

* `listing_or_fault`: a value is a written listing, or has a first fault.
* `ofJson_toJson`, `FirstFault.ofJson_eq`: what is loaded from the one, and from the other.
* `execute_ofJson`: a datasource is known if and only if a routine is listed for it.
* `ordered_of_readValue`: the keys of a file that is written as JSON are in order.
* `ofJson_listed`: loading takes everything or nothing, and answers with what is listed.
-/

namespace BoundReport

/-! ### Lists up to a first exception -/

/-- A list is written with a printer, or has a first element that is not. -/
theorem exists_eq_map_or_first {α β : Type} (print : β → α) (list : List α) :
    (∃ values, list = List.map print values) ∨
      ∃ before first after, list = List.map print before ++ first :: after ∧
        ∀ value, first ≠ print value := by
  induction list with
  | nil => exact .inl ⟨[], rfl⟩
  | cons first rest ih =>
    by_cases hfirst : ∃ value, first = print value
    · obtain ⟨value, rfl⟩ := hfirst
      rcases ih with ⟨values, rfl⟩ | ⟨before, other, after, rfl, hother⟩
      · exact .inl ⟨value :: values, rfl⟩
      · exact .inr ⟨value :: before, other, after, rfl, hother⟩
    · exact .inr ⟨[], first, rest, rfl, fun value heq => hfirst ⟨value, heq⟩⟩

/-! ### Listings -/

/-- A row as a value: the object of its cells. -/
def Row.toJson (row : Row) : Json := .object row.cells

namespace Fixtures

/-- A **listing** names datasources, and under each its routines with their rows. -/
abbrev Listing := List (Text × Routines)

/-- A routine as the member of an object. -/
def routineMember (routine : Text × List Row) : Text × Json :=
  (routine.1, .array (routine.2.map Row.toJson))

/-- A datasource as the member of an object. -/
def sourceMember (source : Text × Routines) : Text × Json :=
  (source.1, .object (source.2.map routineMember))

/-- The value that a listing is written as. -/
def toJson (listing : Listing) : Json := .object (listing.map sourceMember)

/-- The entries of the routines of a datasource. -/
def routineEntries (source : Text) (routines : Routines) : List Entry :=
  routines.map fun routine => ⟨source, routine.1, routine.2⟩

/-- The entries of a listing, in its order. -/
def entries (listing : Listing) : List Entry :=
  listing.flatMap fun source => routineEntries source.1 source.2

/-! ### First faults -/

/-- The **first fault** in the value of a routine: it is no array, or an item behind some rows is
no object. -/
inductive RowsFault (source object : Text) : Json → FixtureFault → Prop
  | notList {value : Json} (h : ∀ items, value ≠ .array items) :
      RowsFault source object value (.rowsNotList source object)
  | row {first : List Row} {item : Json} {last : List Json}
      (h : ∀ members, item ≠ .object members) :
      RowsFault source object (.array (first.map Row.toJson ++ item :: last))
        (.rowNotTable source object)

/-- The **first fault** in the value of a datasource: it is no object, or a routine behind others
without fault has one. -/
inductive SourceFault (source : Text) : Json → FixtureFault → Prop
  | notTable {value : Json} (h : ∀ members, value ≠ .object members) :
      SourceFault source value (.sourceNotTable source)
  | routine {earlier : Routines} {object : Text} {value : Json} {later : List (Text × Json)}
      {fault : FixtureFault} (h : RowsFault source object value fault) :
      SourceFault source (.object (earlier.map routineMember ++ (object, value) :: later)) fault

/-- The **first fault** in a value: it is no object, or a datasource behind others without fault
has one. -/
inductive FirstFault : Json → FixtureFault → Prop
  | notTable {value : Json} (h : ∀ members, value ≠ .object members) : FirstFault value .notTable
  | source {earlier : Listing} {source : Text} {value : Json} {later : List (Text × Json)}
      {fault : FixtureFault} (h : SourceFault source value fault) :
      FirstFault (.object (earlier.map sourceMember ++ (source, value) :: later)) fault

/-- The value of a routine is a list of rows, or has a first fault. -/
theorem rows_or_fault (source object : Text) (value : Json) :
    (∃ rows : List Row, value = .array (rows.map Row.toJson)) ∨
      ∃ fault, RowsFault source object value fault := by
  by_cases harray : ∃ items, value = .array items
  · obtain ⟨items, rfl⟩ := harray
    rcases exists_eq_map_or_first Row.toJson items with
      ⟨rows, rfl⟩ | ⟨first, item, last, rfl, hitem⟩
    · exact .inl ⟨rows, rfl⟩
    · exact .inr ⟨_, .row fun members => hitem ⟨members⟩⟩
  · exact .inr ⟨_, .notList fun items heq => harray ⟨items, heq⟩⟩

/-- The value of a datasource is a table of routines, or has a first fault. -/
theorem routines_or_fault (source : Text) (value : Json) :
    (∃ routines : Routines, value = .object (routines.map routineMember)) ∨
      ∃ fault, SourceFault source value fault := by
  by_cases hobject : ∃ members, value = .object members
  · obtain ⟨members, rfl⟩ := hobject
    rcases exists_eq_map_or_first routineMember members with
      ⟨routines, rfl⟩ | ⟨earlier, ⟨object, found⟩, later, rfl, hfirst⟩
    · exact .inl ⟨routines, rfl⟩
    · rcases rows_or_fault source object found with ⟨rows, rfl⟩ | ⟨fault, hfault⟩
      · exact absurd rfl (hfirst (object, rows))
      · exact .inr ⟨fault, .routine hfault⟩
  · exact .inr ⟨_, .notTable fun members heq => hobject ⟨members, heq⟩⟩

/-- **A value is a written listing, or has a first fault.** -/
theorem listing_or_fault (value : Json) :
    (∃ listing, value = toJson listing) ∨ ∃ fault, FirstFault value fault := by
  by_cases hobject : ∃ members, value = .object members
  · obtain ⟨members, rfl⟩ := hobject
    rcases exists_eq_map_or_first sourceMember members with
      ⟨listing, rfl⟩ | ⟨earlier, ⟨source, found⟩, later, rfl, hfirst⟩
    · exact .inl ⟨listing, rfl⟩
    · rcases routines_or_fault source found with ⟨routines, rfl⟩ | ⟨fault, hfault⟩
      · exact absurd rfl (hfirst (source, routines))
      · exact .inr ⟨fault, .source hfault⟩
  · exact .inr ⟨_, .notTable fun members heq => hobject ⟨members, heq⟩⟩

/-! ### Loading -/

/-- Written rows are read as themselves. -/
theorem rowsOfJson_map_toJson (source object : Text) (rows : List Row) :
    rowsOfJson source object (.array (rows.map Row.toJson)) = .ok rows := by
  have hread : (rows.map Row.toJson).mapM rowOfJson? = some rows := by
    induction rows with
    | nil => rfl
    | cons row rows ih =>
      rw [List.map_cons, List.mapM_cons, ih]
      rfl
  rw [rowsOfJson, hread]

/-- A fault in the value of a routine is found. -/
theorem RowsFault.rowsOfJson_eq {source object : Text} {value : Json} {fault : FixtureFault}
    (h : RowsFault source object value fault) : rowsOfJson source object value = .error fault := by
  cases h with
  | notList h =>
    cases value with
    | array items => exact absurd rfl (h items)
    | _ => rfl
  | @row first item last h =>
    have hitem : rowOfJson? item = none := by
      cases item with
      | object members => exact absurd rfl (h members)
      | _ => rfl
    have hread : (first.map Row.toJson ++ item :: last).mapM rowOfJson? = none := by
      induction first with
      | nil =>
        rw [List.map_nil, List.nil_append, List.mapM_cons, hitem]
        rfl
      | cons row first ih =>
        rw [List.map_cons, List.cons_append, List.mapM_cons, ih]
        rfl
    rw [rowsOfJson, hread]

/-- Written routines are added one after the other, and then what stands behind them. -/
theorem addRoutines_append (source : Text) (fixtures : Fixtures) (routines : Routines)
    (later : List (Text × Json)) :
    addRoutines source fixtures (routines.map routineMember ++ later) =
      addRoutines source (fixtures.withEntries (routineEntries source routines)) later := by
  induction routines generalizing fixtures with
  | nil => rfl
  | cons routine routines ih =>
    rw [List.map_cons, List.cons_append, routineMember, addRoutines, rowsOfJson_map_toJson]
    exact ih _

/-- Written datasources are added one after the other, and then what stands behind them. -/
theorem addSources_append (fixtures : Fixtures) (listing : Listing) (later : List (Text × Json)) :
    addSources fixtures (listing.map sourceMember ++ later) =
      addSources (fixtures.withEntries (entries listing)) later := by
  induction listing generalizing fixtures with
  | nil => rfl
  | cons source listing ih =>
    have hadd := addRoutines_append source.1 fixtures source.2 []
    rw [List.append_nil] at hadd
    rw [List.map_cons, List.cons_append, sourceMember, addSources, hadd, entries,
      List.flatMap_cons, withEntries_append]
    exact ih _

/-- **What is loaded from a written listing** are its entries in order. -/
theorem ofJson_toJson (listing : Listing) :
    ofJson (toJson listing) = .ok (ofEntries (entries listing)) := by
  have hadd := addSources_append empty listing []
  rw [List.append_nil] at hadd
  exact hadd

/-- **A first fault ends the loading.** -/
theorem FirstFault.ofJson_eq {value : Json} {fault : FixtureFault} (h : FirstFault value fault) :
    ofJson value = .error fault := by
  cases h with
  | notTable h =>
    cases value with
    | object members => exact absurd rfl (h members)
    | _ => rfl
  | @source earlier source value later fault h =>
    rw [ofJson, addSources_append]
    cases h with
    | notTable h =>
      cases value with
      | object members => exact absurd rfl (h members)
      | _ => rfl
    | @routine earlier object value later fault h =>
      rw [addSources, addRoutines_append, addRoutines, h.rowsOfJson_eq]
      rfl

/-- Loading succeeds on written listings, and on nothing else. -/
theorem ofJson_eq_ok_iff {value : Json} {fixtures : Fixtures} :
    ofJson value = .ok fixtures ↔
      ∃ listing, value = toJson listing ∧ fixtures = ofEntries (entries listing) := by
  constructor
  · intro h
    rcases listing_or_fault value with ⟨listing, rfl⟩ | ⟨fault, hfault⟩
    · exact ⟨listing, rfl, Except.ok.inj (h.symm.trans (ofJson_toJson listing))⟩
    · cases h.symm.trans hfault.ofJson_eq
  · rintro ⟨listing, rfl, rfl⟩
    exact ofJson_toJson listing

/-- **Loading fails with the first fault**, and with nothing else. -/
theorem ofJson_eq_error_iff {value : Json} {fault : FixtureFault} :
    ofJson value = .error fault ↔ FirstFault value fault := by
  constructor
  · intro h
    rcases listing_or_fault value with ⟨listing, rfl⟩ | ⟨found, hfound⟩
    · cases h.symm.trans (ofJson_toJson listing)
    · obtain rfl : fault = found := Except.error.inj (h.symm.trans hfound.ofJson_eq)
      exact hfound
  · exact FirstFault.ofJson_eq

/-! ### Known datasources -/

/-- A routine is **listed** for a datasource if there are rows under both names. -/
def IsListed (listing : Listing) (source object : Text) : Prop :=
  ∃ routines rows, (source, routines) ∈ listing ∧ (object, rows) ∈ routines

/-- The entries of a listing are its routines. -/
theorem mem_entries {listing : Listing} {source object : Text} {rows : List Row} :
    ⟨source, object, rows⟩ ∈ entries listing ↔
      ∃ routines, (source, routines) ∈ listing ∧ (object, rows) ∈ routines := by
  simp only [entries, routineEntries, List.mem_flatMap, List.mem_map, Prod.exists,
    Entry.mk.injEq]
  constructor
  · rintro ⟨_, routines, hsource, _, _, hobject, rfl, rfl, rfl⟩
    exact ⟨routines, hsource, hobject⟩
  · rintro ⟨routines, hsource, hobject⟩
    exact ⟨source, routines, hsource, object, rows, hobject, rfl, rfl, rfl⟩

/-- A datasource is known if it is listed with a routine. -/
theorem isKnown_ofEntries_iff {listing : Listing} {source : Text} :
    (ofEntries (entries listing)).IsKnown source ↔
      ∃ routines, (source, routines) ∈ listing ∧ routines ≠ [] := by
  rw [ofEntries, isKnown_withEntries, or_iff_left not_isKnown_empty]
  constructor
  · rintro ⟨⟨_, object, rows⟩, hmem, rfl⟩
    obtain ⟨routines, hsource, hobject⟩ := mem_entries.1 hmem
    exact ⟨routines, hsource, List.ne_nil_of_mem hobject⟩
  · rintro ⟨routines, hsource, hne⟩
    obtain ⟨⟨object, rows⟩, hobject⟩ := List.exists_mem_of_ne_nil routines hne
    exact ⟨⟨source, object, rows⟩, mem_entries.2 ⟨routines, hsource, hobject⟩, rfl⟩

/-- There are rows for the routines that are listed. -/
theorem isSome_rows?_ofEntries_iff {listing : Listing} {source object : Text} :
    ((ofEntries (entries listing)).rows? source object).isSome ↔
      IsListed listing source object := by
  rw [ofEntries, isSome_rows?_withEntries, rows?_empty, IsListed]
  constructor
  · rintro (⟨⟨_, _, rows⟩, hmem, hplace⟩ | hnone)
    · obtain ⟨rfl, rfl⟩ := Prod.mk.inj hplace
      obtain ⟨routines, hlisted⟩ := mem_entries.1 hmem
      exact ⟨routines, rows, hlisted⟩
    · cases hnone
  · rintro ⟨routines, rows, hlisted⟩
    exact .inl ⟨_, mem_entries.2 ⟨routines, hlisted⟩, rfl⟩

/-- **A datasource is known if and only if a routine is listed for it.** The connection to it fails
if there is none, also if the datasource is listed with an empty table. If there are some the
execution fails for the routines that are not listed, and succeeds for those that are. -/
theorem execute_ofJson {value : Json} {fixtures : Fixtures} (h : ofJson value = .ok fixtures) :
    ∃ listing, value = toJson listing ∧ ∀ (source : DataSource) (invocation : Invocation),
      ((∃ reason, (engine.execute source invocation fixtures).1 =
          .error (.connection source.name reason)) ↔
        ∀ routines, (source.name, routines) ∈ listing → routines = []) ∧
      ((∃ reason, (engine.execute source invocation fixtures).1 =
          .error (.execution invocation.object reason)) ↔
        (∃ routines, (source.name, routines) ∈ listing ∧ routines ≠ []) ∧
          ¬ IsListed listing source.name invocation.object) ∧
      ((∃ rows, (engine.execute source invocation fixtures).1 = .ok rows) ↔
        IsListed listing source.name invocation.object) := by
  obtain ⟨listing, rfl, rfl⟩ := ofJson_eq_ok_iff.1 h
  refine ⟨listing, rfl, fun source invocation => ⟨?_, ?_, ?_⟩⟩
  · refine connection_iff.trans ?_
    rw [isKnown_ofEntries_iff]
    simp only [not_exists, not_and, not_not]
  · refine execution_iff.trans ?_
    rw [isKnown_ofEntries_iff, ← isSome_rows?_ofEntries_iff, Option.not_isSome_iff_eq_none]
  · refine (exists_congr fun rows => answer_eq_ok_iff).trans ?_
    rw [← Option.isSome_iff_exists, isSome_rows?_ofEntries_iff]

/-- A datasource with the name of a listed one. -/
def primary : DataSource := ⟨"primary", "s", "b", "u", "w"⟩

/-- The rows of a routine, the last one of them without cells. -/
def sampleRows : List Row := [⟨[("x", .int 1), ("y", .null)]⟩, ⟨[]⟩]

/-- A listing of three datasources, one of them without routines and one with a routine that has
no rows. -/
def sampleListing : Listing :=
  [("archive", []), ("primary", [("sp_a", sampleRows), ("sp_b", [])]),
    ("spare", [("sp_a", [⟨[("x", .string "s")]⟩])])]

theorem execute_ofJson_sampleListing :
    ofJson (toJson sampleListing) = .ok (ofEntries (entries sampleListing)) ∧
      ∃ listing, toJson sampleListing = toJson listing ∧
        ∀ (source : DataSource) (invocation : Invocation),
          ((∃ reason,
            (engine.execute source invocation (ofEntries (entries sampleListing))).1 =
              .error (.connection source.name reason)) ↔
            ∀ routines, (source.name, routines) ∈ listing → routines = []) ∧
          ((∃ reason,
            (engine.execute source invocation (ofEntries (entries sampleListing))).1 =
              .error (.execution invocation.object reason)) ↔
            (∃ routines, (source.name, routines) ∈ listing ∧ routines ≠ []) ∧
              ¬ IsListed listing source.name invocation.object) ∧
          ((∃ rows,
            (engine.execute source invocation (ofEntries (entries sampleListing))).1 =
              .ok rows) ↔
            IsListed listing source.name invocation.object) :=
  ⟨ofJson_toJson sampleListing, execute_ofJson (ofJson_toJson sampleListing)⟩

/-- A datasource that is listed with an empty table is not known: the connection to it fails, and
not the execution of a routine that its table lacks. -/
theorem execute_emptyTable :
    ofJson (toJson [("primary", [])]) = .ok empty ∧ ¬ IsListed [("primary", [])] "primary" "sp" ∧
      (∃ reason, (engine.execute primary (.storedProcedure "sp" []) empty).1 =
        .error (.connection "primary" reason)) ∧
      ¬ ∃ reason, (engine.execute primary (.storedProcedure "sp" []) empty).1 =
        .error (.execution "sp" reason) := by
  refine ⟨rfl, ?_, ⟨_, rfl⟩, ?_⟩
  · rintro ⟨routines, rows, hsource, hobject⟩
    obtain ⟨-, rfl⟩ := Prod.mk.inj (List.mem_singleton.1 hsource)
    cases hobject
  · rintro ⟨reason, h⟩
    cases h

/-! ### What is listed is answered -/

/-- A written listing is ordered if its datasources, their routines and the rows are. -/
theorem ordered_toJson_iff {listing : Listing} : (toJson listing).Ordered ↔
    IsAscending listing ∧ ∀ source ∈ listing, IsAscending source.2 ∧
      ∀ routine ∈ source.2, ∀ row ∈ routine.2, row.toJson.Ordered := by
  rw [toJson, Json.ordered_object_iff, List.forall_mem_map]
  refine and_congr List.pairwise_map (forall₂_congr fun source _ => ?_)
  rw [sourceMember, Json.ordered_object_iff, List.forall_mem_map]
  refine and_congr List.pairwise_map (forall₂_congr fun routine _ => ?_)
  rw [routineMember, Json.ordered_array_iff, List.forall_mem_map]

/-- The entries of an ordered listing are for different routines. -/
theorem nodup_place_entries {listing : Listing} (h : (toJson listing).Ordered) :
    ((entries listing).map Entry.place).Nodup := by
  obtain ⟨hsources, hroutines⟩ := ordered_toJson_iff.1 h
  have hplaces (source : Text × Routines) : (routineEntries source.1 source.2).map Entry.place =
      (source.2.map Prod.fst).map (Prod.mk source.1) := by
    rw [routineEntries, List.map_map, List.map_map]
    rfl
  simp only [entries, List.map_flatMap, hplaces]
  -- places under one datasource differ in their routines, others in their datasources
  refine List.nodup_flatMap.2 ⟨fun source hsource => ?_, ?_⟩
  · exact (hroutines source hsource).1.nodup.map fun _ _ heq => (Prod.mk.inj heq).2
  · refine (List.pairwise_map.1 hsources.nodup).imp fun {one two} hne place hone htwo => ?_
    obtain ⟨_, -, rfl⟩ := List.mem_map.1 hone
    obtain ⟨_, -, heq⟩ := List.mem_map.1 htwo
    exact hne (congrArg Prod.fst heq).symm

/-- Ordered entries may be set in any order. -/
theorem answer_ofEntries_of_perm {listing : Listing} (h : (toJson listing).Ordered)
    {order : List Entry} (hperm : order.Perm (entries listing)) {source object : Text}
    {routines : Routines} {rows : List Row} (hsource : (source, routines) ∈ listing)
    (hobject : (object, rows) ∈ routines) : (ofEntries order).answer source object = .ok rows := by
  have hnodup : (order.map Entry.place).Nodup :=
    (hperm.map Entry.place).nodup_iff.2 (nodup_place_entries h)
  rw [answer_eq_ok_iff, rows?_ofEntries_eq_some_iff hnodup, hperm.mem_iff]
  exact mem_entries.2 ⟨routines, hsource, hobject⟩

/-- The value of a file that is written as JSON is ordered. -/
theorem ordered_of_readValue {content path : Text} {value : Json}
    (h : readValue content "json" path = .ok value) : value.Ordered := by
  rw [readValue, if_pos rfl] at h
  cases hparse : Json.parse? content with
  | none =>
    rw [hparse] at h
    cases h
  | some found =>
    rw [hparse] at h
    cases h
    exact Json.ordered_of_parse? hparse

/-- A text that writes a value is loaded as the value is, and the error names its path. -/
theorem parse_eq_error_iff {content format path : Text} {value : Json}
    (hread : readValue content format path = .ok value) {error : ReportError} :
    Fixtures.parse content format path = .error error ↔
      ∃ fault, ofJson value = .error fault ∧ error = .fixtureFile path fault := by
  have hparse : Fixtures.parse content format path =
      (ofJson value).mapError (.fixtureFile path) := by
    simp only [Fixtures.parse, hread, bind, Except.bind]
    cases ofJson value <;> rfl
  rw [hparse]
  cases ofJson value <;> simp [Except.mapError, eq_comm]

/-- **Loading takes everything or nothing, and answers with what is listed.** A value is loaded if
and only if it is a written listing. Any other value has a first fault, and loading ends with it.
What is loaded answers every query for a routine of the listing with the rows that are listed
there, and so do the fixtures that have the same entries set in any other order. -/
theorem ofJson_listed {value : Json} (h : value.Ordered) :
    ((∃ fixtures, ofJson value = .ok fixtures) ↔ ∃ listing, value = toJson listing) ∧
      (∀ fault, ofJson value = .error fault ↔ FirstFault value fault) ∧
      (∀ content format path error, readValue content format path = .ok value →
        (Fixtures.parse content format path = .error error ↔
          ∃ fault, FirstFault value fault ∧ error = .fixtureFile path fault)) ∧
      ∀ listing fixtures, value = toJson listing → ofJson value = .ok fixtures →
        ∀ (source : DataSource) (invocation : Invocation) routines rows,
          (source.name, routines) ∈ listing → (invocation.object, rows) ∈ routines →
          engine.execute source invocation fixtures = (.ok rows, fixtures) ∧
            ∀ order, order.Perm (entries listing) →
              (engine.execute source invocation (ofEntries order)).1 =
                (engine.execute source invocation fixtures).1 := by
  refine ⟨⟨?_, ?_⟩, fun fault => ofJson_eq_error_iff, ?_, ?_⟩
  · rintro ⟨fixtures, hload⟩
    obtain ⟨listing, hlisting, -⟩ := ofJson_eq_ok_iff.1 hload
    exact ⟨listing, hlisting⟩
  · rintro ⟨listing, rfl⟩
    exact ⟨_, ofJson_toJson listing⟩
  · intro content format path error hread
    simp only [parse_eq_error_iff hread, ofJson_eq_error_iff]
  · rintro listing fixtures rfl hload source invocation routines rows hsource hobject
    obtain rfl : ofEntries (entries listing) = fixtures :=
      Except.ok.inj ((ofJson_toJson listing).symm.trans hload)
    have hanswer {order : List Entry} (hperm : order.Perm (entries listing)) :
        (engine.execute source invocation (ofEntries order)).1 = .ok rows :=
      answer_ofEntries_of_perm h hperm hsource hobject
    refine ⟨Prod.ext (hanswer (.refl _)) rfl, fun order hperm => ?_⟩
    rw [hanswer hperm, hanswer (.refl _)]

theorem ordered_sampleListing : (toJson sampleListing).Ordered := by
  rw [ordered_toJson_iff]
  refine ⟨by decide, ?_⟩
  simp +decide [sampleListing, sampleRows, Row.toJson, or_imp, forall_and]

theorem ofJson_listed_sampleListing :
    (toJson sampleListing).Ordered ∧
      (∃ fixtures, ofJson (toJson sampleListing) = .ok fixtures) ∧
      engine.execute primary (.storedProcedure "sp_a" []) (ofEntries (entries sampleListing)) =
        (.ok sampleRows, ofEntries (entries sampleListing)) ∧
      (engine.execute primary (.storedProcedure "sp_a" [])
        (ofEntries (entries sampleListing).reverse)).1 = .ok sampleRows := by
  obtain ⟨hload, -, -, hanswer⟩ := ofJson_listed ordered_sampleListing
  obtain ⟨hexecute, hany⟩ := hanswer sampleListing _ rfl (ofJson_toJson sampleListing) primary
    (.storedProcedure "sp_a" []) [("sp_a", sampleRows), ("sp_b", [])] sampleRows
    (List.mem_cons_of_mem _ List.mem_cons_self) List.mem_cons_self
  have hreverse := hany _ (List.reverse_perm _)
  rw [hexecute] at hreverse
  exact ⟨ordered_sampleListing, hload.2 ⟨sampleListing, rfl⟩, hexecute, hreverse⟩

end Fixtures

end BoundReport
