import BoundReport.Proofs.AttributeOrder
import BoundReport.Proofs.Mandatory

/-!
# Lists of Parameters

The parameters of a dataset are a list of values, and not all of them count. The list ends at its
first empty value, and of what stands before it at most a hundred values are looked at. With valid
attributes under the other keys, a dataset can be read if and only if every value that counts is a
parameter, and the first one that is none gives the error. What is written behind the values that
count makes no difference, whatever it is.

## Main results

* `mapM_eq_ok_iff`, `mapM_eq_error_iff`: what becomes of a computation on each of some values.
* `DataSet.parseParameters_eq`: the order of the two cuts does not matter.
* `DataSet.countedValues_append`: values behind the end do not count.
* `DataSet.ofAttributes_parameters`: which datasets can be read, and what their parameters are.
-/

namespace BoundReport

/-! ### Computations on each of some values -/

section

variable {ε α β : Type} {f : α → Except ε β} {values : List α}

/-- **A computation on each of some values succeeds** if it succeeds on every one of them. -/
theorem mapM_eq_ok_iff {results : List β} : values.mapM f = .ok results ↔
    List.Forall₂ (fun value result => f value = .ok result) values results := by
  induction values generalizing results with
  | nil =>
    rw [List.mapM_nil, List.forall₂_nil_left_iff]
    exact ⟨fun h => (Except.ok.inj h).symm, fun h => h ▸ rfl⟩
  | cons value rest ih =>
    rw [List.mapM_cons, ParsedTemplate.bind_eq_ok_iff]
    constructor
    · rintro ⟨result, hfirst, hmore⟩
      obtain ⟨others, hrest, hresults⟩ := ParsedTemplate.bind_eq_ok_iff.1 hmore
      cases hresults
      exact .cons hfirst (ih.1 hrest)
    · intro h
      cases h with
      | cons hfirst hrest =>
        exact ⟨_, hfirst, ParsedTemplate.bind_eq_ok_iff.2 ⟨_, ih.2 hrest, rfl⟩⟩

/-- **A computation on each of some values fails** with the error of the first one that it fails
on. -/
theorem mapM_eq_error_iff {error : ε} : values.mapM f = .error error ↔
    ∃ before value after, values = before ++ value :: after ∧
      (∀ earlier ∈ before, ∃ result, f earlier = .ok result) ∧ f value = .error error := by
  rw [← errorOf?_eq_some_iff, errorOf?_mapM, List.findSome?_eq_some_iff]
  simp only [errorOf?_eq_some_iff, errorOf?_eq_none_iff]
  constructor
  · rintro ⟨before, value, after, hvalues, hvalue, hbefore⟩
    exact ⟨before, value, after, hvalues, hbefore, hvalue⟩
  · rintro ⟨before, value, after, hvalues, hbefore, hvalue⟩
    exact ⟨before, value, after, hvalues, hvalue, hbefore⟩

/-- Where every value succeeds, so does the computation on all of them. -/
theorem exists_mapM_eq_ok_iff : (∃ results, values.mapM f = .ok results) ↔
    ∀ value ∈ values, ∃ result, f value = .ok result := by
  rw [← errorOf?_eq_none_iff, errorOf?_mapM, List.findSome?_eq_none_iff]
  simp only [errorOf?_eq_none_iff]

end

namespace DataSet

variable {attributes : Attributes} {header : DataSet}

/-! ### The values that count -/

/-- The values that **count** as parameters: those before the first empty one, and of these the
first hundred. -/
def countedValues (values : List Text) : List Text := (values.takeWhile (· ≠ [])).take 100

/-- The parameters are read from the values that count. It does not matter whether the list is cut
at its first empty value or at its length first. -/
theorem parseParameters_eq (values : List Text) :
    parseParameters values = (countedValues values).mapM Parameter.parse := by
  rw [countedValues, List.take_takeWhile]
  rfl

/-- A list of values is **closed** if no value behind it counts: one of its values is empty, or it
has a hundred values. -/
def IsClosed (values : List Text) : Prop := [] ∈ values ∨ 100 ≤ values.length

/-- **Values behind a closed list do not count.** -/
theorem countedValues_append {values : List Text} (h : IsClosed values) (more : List Text) :
    countedValues (values ++ more) = countedValues values := by
  rcases h with hempty | hlength
  · -- the values before the first empty one are not all of the list, so it is cut inside
    have hcut : (values.takeWhile (· ≠ [])).length ≠ values.length := by
      intro hlength
      have hself := (List.takeWhile_prefix _).eq_of_length hlength
      exact of_decide_eq_true (List.takeWhile_eq_self_iff.1 hself [] hempty) rfl
    rw [countedValues, countedValues, List.takeWhile_append, if_neg hcut]
  · rw [countedValues, countedValues, List.take_takeWhile, List.take_takeWhile,
      List.take_append_of_le_length hlength]

/-! ### The attributes with other keys -/

/-- The attributes with other keys than that of parameters are **valid**: the names of a dataset and
of its datasource and object are there and not empty, and the type is the name of a type. They are
the **header** of a dataset. -/
structure IsHeader (attributes : Attributes) (header : DataSet) : Prop where
  dataSource : attributes.get? "datasource" = some header.dataSource
  dataSource_ne_nil : header.dataSource ≠ []
  name : attributes.get? "name" = some header.name
  name_ne_nil : header.name ≠ []
  type : attributes.get? "type" = some header.type.name
  object : attributes.get? "object" = some header.object
  object_ne_nil : header.object ≠ []

/-- A mandatory attribute that is there and not empty is found. -/
theorem require_of_get? {key value : Text} (h : attributes.get? key = some value)
    (hne : value ≠ []) : attributes.require key = .ok value := by
  obtain ⟨c, rest, rfl⟩ := List.exists_cons_of_ne_nil hne
  rw [Attributes.require, h]

/-- **Behind a valid header a dataset depends on its parameters alone.** -/
theorem ofAttributes_of_isHeader (h : IsHeader attributes header) : ofAttributes attributes =
    ((countedValues attributes.params).mapM Parameter.parse).map fun parameters =>
      { header with parameters } := by
  have htype : typeOfAttributes attributes = .ok header.type := by
    rw [typeOfAttributes, h.type]
    exact header.type.parse_name
  rw [← parseParameters_eq]
  simp only [ofAttributes, require_of_get? h.dataSource h.dataSource_ne_nil,
    require_of_get? h.name h.name_ne_nil, htype, require_of_get? h.object h.object_ne_nil]
  cases parseParameters attributes.params <;> rfl

/-- The dataset that is read has the header and a parameter for each value that counts. -/
theorem ofAttributes_eq_ok_iff (h : IsHeader attributes header) {dataSet : DataSet} :
    ofAttributes attributes = .ok dataSet ↔
      List.Forall₂ (fun value parameter => Parameter.parse value = .ok parameter)
        (countedValues attributes.params) dataSet.parameters ∧
      dataSet = { header with parameters := dataSet.parameters } := by
  rw [ofAttributes_of_isHeader h, ParsedTemplate.map_eq_ok_iff]
  constructor
  · rintro ⟨parameters, hparameters, rfl⟩
    exact ⟨mapM_eq_ok_iff.1 hparameters, rfl⟩
  · rintro ⟨hparameters, hdataSet⟩
    exact ⟨dataSet.parameters, mapM_eq_ok_iff.2 hparameters, hdataSet.symm⟩

/-- The key of a parameter is `param` with its number, counted from one. -/
theorem getElem?_keyedParameters (dataSet : DataSet) (index : Nat) :
    dataSet.keyedParameters[index]? = dataSet.parameters[index]?.map fun parameter =>
      ("param" ++ Text.ofNat (index + 1), parameter) := by
  rw [keyedParameters, List.getElem?_map, List.getElem?_zipIdx, Option.map_map, Nat.zero_add]
  rfl

/-! ### Attributes behind the parameters that count -/

/-- More parameters are found under no other key. -/
theorem get?_of_params {before added after : List (Text × Text)}
    (hadded : ∀ item ∈ added, item.1 = Attributes.paramKey) (key : Text) :
    Attributes.get? ⟨before ++ (added ++ after)⟩ key = Attributes.get? ⟨before ++ after⟩ key := by
  rw [Attributes.get?, Attributes.get?]
  split_ifs with hkey
  · rfl
  · have hnone : added.lookup key = none := by
      rw [List.lookup_eq_none_iff]
      intro item hitem
      rw [hadded item hitem]
      exact bne_iff_ne.2 hkey
    rw [List.lookup_append, List.lookup_append, List.lookup_append, hnone, Option.none_or]

/-- **Parameters behind a closed list make no difference.** -/
theorem ofAttributes_of_isClosed {before added after : List (Text × Text)}
    (hclosed : IsClosed (Attributes.params ⟨before⟩))
    (hadded : ∀ item ∈ added, item.1 = Attributes.paramKey) :
    ofAttributes ⟨before ++ (added ++ after)⟩ = ofAttributes ⟨before ++ after⟩ := by
  have hparams (more : List (Text × Text)) : Attributes.params ⟨before ++ more⟩ =
      Attributes.params ⟨before⟩ ++ Attributes.params ⟨more⟩ := by
    rw [Attributes.params, List.filter_append, List.map_append]
    rfl
  refine ofAttributes_congr_parseParameters (get?_of_params hadded) ?_
  rw [parseParameters_eq, parseParameters_eq, hparams, hparams, countedValues_append hclosed,
    countedValues_append hclosed]

/-! ### Datasets with parameters -/

/-- Behind a valid header, attributes are read **by the parameters that count**. -/
structure ReadsParameters (attributes : Attributes) (header : DataSet) : Prop where
  /-- There is a dataset if and only if every value that counts is a parameter. -/
  exists_iff : (∃ dataSet, ofAttributes attributes = .ok dataSet) ↔
    ∀ value ∈ countedValues attributes.params, ∃ parameter, Parameter.parse value = .ok parameter
  /-- It has a parameter for each value that counts, in order. -/
  parameters : ∀ dataSet, ofAttributes attributes = .ok dataSet →
    List.Forall₂ (fun value parameter => Parameter.parse value = .ok parameter)
      (countedValues attributes.params) dataSet.parameters
  /-- All else is as in the header. -/
  header_eq : ∀ dataSet, ofAttributes attributes = .ok dataSet →
    dataSet = { header with parameters := dataSet.parameters }
  /-- The parameters are numbered from one. -/
  keyed : ∀ dataSet, ofAttributes attributes = .ok dataSet →
    ∀ index, dataSet.keyedParameters[index]? = dataSet.parameters[index]?.map fun parameter =>
      ("param" ++ Text.ofNat (index + 1), parameter)
  /-- The first value that counts and is no parameter gives the error. -/
  error_iff : ∀ error, ofAttributes attributes = .error error ↔
    ∃ before value after, countedValues attributes.params = before ++ value :: after ∧
      (∀ earlier ∈ before, ∃ parameter, Parameter.parse earlier = .ok parameter) ∧
      Parameter.parse value = .error error

/-- **The parameters of a dataset are a capped prefix.** If the attributes with other keys are
valid, a dataset can be read if and only if every value that counts is a parameter. It then has
just these parameters, in order and numbered from one; otherwise the first value that counts and is
no parameter gives the error. More parameters behind an empty one, or behind a hundred, never change
what is read. -/
theorem ofAttributes_parameters (attributes : Attributes) :
    (∀ header, IsHeader attributes header → ReadsParameters attributes header) ∧
      ∀ before added after, attributes.items = before ++ after →
        IsClosed (Attributes.params ⟨before⟩) →
        (∀ item ∈ added, item.1 = Attributes.paramKey) →
        ofAttributes ⟨before ++ (added ++ after)⟩ = ofAttributes attributes := by
  refine ⟨fun header hheader => ⟨?_, fun dataSet hdataSet => ?_, fun dataSet hdataSet => ?_,
    fun dataSet _ => getElem?_keyedParameters dataSet, fun error => ?_⟩, ?_⟩
  · rw [ofAttributes_of_isHeader hheader, ← exists_mapM_eq_ok_iff]
    simp only [ParsedTemplate.map_eq_ok_iff]
    constructor
    · rintro ⟨dataSet, parameters, hparameters, -⟩
      exact ⟨parameters, hparameters⟩
    · rintro ⟨parameters, hparameters⟩
      exact ⟨_, parameters, hparameters, rfl⟩
  · exact ((ofAttributes_eq_ok_iff hheader).1 hdataSet).1
  · exact ((ofAttributes_eq_ok_iff hheader).1 hdataSet).2
  · rw [ofAttributes_of_isHeader hheader, ParsedTemplate.map_eq_error_iff, mapM_eq_error_iff]
  · intro before added after hitems hclosed hadded
    obtain rfl : attributes = ⟨before ++ after⟩ := by rw [← hitems]
    exact ofAttributes_of_isClosed hclosed hadded

/-- A hundred parameters behind a header. -/
def crowdedItems : List (Text × Text) :=
  ("datasource", "d") :: ("name", "n") :: ("type", "table") :: ("object", "o") ::
    List.replicate 100 ("param", "a,INT,4")

/-- A parameter with one field only. -/
def faultyParameter : Text × Text := ("param", "b")

/-- All hundred are read, and a faulty one behind them is not looked at. -/
theorem ofAttributes_parameters_crowded :
    IsHeader ⟨crowdedItems⟩ ⟨"d", .table, "n", "o", []⟩ ∧
      (∃ dataSet, ofAttributes ⟨crowdedItems⟩ = .ok dataSet ∧ dataSet.parameters.length = 100) ∧
      IsClosed (Attributes.params ⟨crowdedItems⟩) ∧
      Parameter.parse faultyParameter.2 = .error (.parameterFieldCount "b" 1) ∧
      ofAttributes ⟨crowdedItems ++ ([faultyParameter] ++ [])⟩ = ofAttributes ⟨crowdedItems⟩ := by
  have hheader : IsHeader ⟨crowdedItems⟩ ⟨"d", .table, "n", "o", []⟩ := by
    constructor <;> decide +kernel
  have hvalues : countedValues (Attributes.params ⟨crowdedItems⟩) =
      List.replicate 100 "a,INT,4".toList := by decide +kernel
  have hclosed : IsClosed (Attributes.params ⟨crowdedItems⟩) := .inr (by decide +kernel)
  have hparam : ∀ item ∈ [faultyParameter], item.1 = Attributes.paramKey := by decide
  have hread : Parameter.parse "a,INT,4" = .ok ⟨"a", .int, 4⟩ := by decide +kernel
  obtain ⟨hsound, hbehind⟩ := ofAttributes_parameters ⟨crowdedItems⟩
  have hreads := hsound _ hheader
  obtain ⟨dataSet, hdataSet⟩ := hreads.exists_iff.2 fun value hvalue => by
    rw [hvalues] at hvalue
    exact ⟨_, List.eq_of_mem_replicate hvalue ▸ hread⟩
  have hlength : dataSet.parameters.length = 100 := by
    rw [← (hreads.parameters dataSet hdataSet).length_eq, hvalues, List.length_replicate]
  exact ⟨hheader, ⟨dataSet, hdataSet, hlength⟩, hclosed, by decide +kernel,
    hbehind crowdedItems _ [] (List.append_nil _).symm hclosed hparam⟩

end DataSet

end BoundReport
