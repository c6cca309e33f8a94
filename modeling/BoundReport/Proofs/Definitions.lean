import BoundReport.Definition.DataSource
import BoundReport.Proofs.Attributes
import BoundReport.Proofs.Lines

/-!
# Written Definitions

A datasource is written with its five attributes; a dataset with four attributes and one more
for each parameter. What is written is read again, if every name can stand between quotes on a
line.

## Main results

* `DataSource.parse_writeAttributes`: a written datasource is read as itself.
* `DataSet.parse_writeAttributes`: a written dataset is read as itself, parameters included.
* `DataSource.declaration?_toText`, `DataSet.declaration?_toText`: a written definition is found
  on its line.
-/

namespace BoundReport

/-- A **value** can stand between quotes on a line and is read as itself. -/
structure IsValue (text : Text) : Prop extends IsField text, IsLine text where
  quote : '"' ∉ text

instance (text : Text) : Decidable (IsValue text) :=
  decidable_of_iff
    ((text ≠ [] ∧ Text.trim text = text) ∧ ('\n' ∉ text ∧ '\r' ∉ text) ∧ '"' ∉ text)
    ⟨fun ⟨⟨hne, htrim⟩, ⟨hlf, hcr⟩, hquote⟩ => ⟨⟨hne, htrim⟩, ⟨hlf, hcr⟩, hquote⟩,
      fun h => ⟨⟨h.ne_nil, h.trim_eq⟩, ⟨h.lineFeed, h.carriageReturn⟩, h.quote⟩⟩

/-- A value with a word as its key is an attribute. -/
theorem IsValue.isAttribute {key value : Text} (hkey : IsWord key) (h : IsValue value) :
    IsAttribute (key, value) :=
  ⟨hkey, h.trim_eq, h.quote⟩

/-- Written attributes can stand on one line if their keys and values can. -/
theorem isLine_writeAttribute {item : Text × Text} (hkey : IsLine item.1) (h : IsLine item.2) :
    IsLine (writeAttribute item) := by
  have hquote : IsLine ['"'] := by decide
  exact hkey.append (.cons (by decide) (by decide) (.cons (by decide) (by decide)
    (h.append hquote)))

/-- A word can stand on one line. -/
theorem IsWord.isLine {text : Text} (h : IsWord text) : IsLine text :=
  ⟨fun hmem => absurd (h.2 _ hmem) (by decide), fun hmem => absurd (h.2 _ hmem) (by decide)⟩

/-- Attributes can be written as a **definition** if there is one at least and each has a word as
its key and a value. -/
def IsDefinition (items : List (Text × Text)) : Prop :=
  items ≠ [] ∧ ∀ item ∈ items, IsWord item.1 ∧ IsValue item.2

namespace IsDefinition

variable {items : List (Text × Text)}

/-- A written definition can stand on one line. -/
theorem isLine (h : IsDefinition items) : IsLine (writeAttributes items) := by
  have hitem : ∀ item ∈ items, IsLine (writeAttribute item) := fun item hmem =>
    isLine_writeAttribute (h.2 item hmem).1.isLine (h.2 item hmem).2.toIsLine
  cases items with
  | nil => exact absurd rfl h.1
  | cons first rest =>
    obtain ⟨hfirst, hrest⟩ := List.forall_mem_cons.1 hitem
    exact hfirst.append (.flatMap fun item hmem =>
      .cons (by decide) (by decide) (hrest item hmem))

/-- A written definition is not empty and has no space at its ends. -/
theorem isField (h : IsDefinition items) : IsField (writeAttributes items) := by
  cases items with
  | nil => exact absurd rfl h.1
  | cons first rest =>
    obtain ⟨hkey, -⟩ := h.2 first List.mem_cons_self
    have hlast : (writeAttributes (first :: rest)).getLast? = some '"' := by
      have hone (item : Text × Text) : (writeAttribute item).getLast? = some '"' := by
        simp [writeAttribute, List.getLast?_append, List.getLast?_cons]
      rcases List.eq_nil_or_concat rest with rfl | ⟨before, last, rfl⟩
      · simpa [writeAttributes] using hone first
      · simp [writeAttributes, List.getLast?_append, List.getLast?_cons, hone]
    refine ⟨fun hnil => ?_, Text.trim_eq_self_iff.2 ⟨?_, ?_⟩⟩
    · rw [hnil] at hlast
      exact absurd hlast (by decide)
    · rw [writeAttributes, writeAttribute, List.append_assoc]
      exact hkey.head_append
    · intro c hc
      obtain rfl : '"' = c := by simpa [hlast] using hc
      decide

/-- A written definition is read as its attributes. -/
theorem parse_eq (h : IsDefinition items) :
    Attributes.parse (writeAttributes items) = .ok ⟨items⟩ :=
  Attributes.parse_writeAttributes fun item hmem =>
    (h.2 item hmem).2.isAttribute (h.2 item hmem).1

/-- A declaration of a written definition can stand on one line. -/
theorem isLine_writeDeclaration (h : IsDefinition items) (kind : DeclarationKind) :
    IsLine (writeDeclaration kind (writeAttributes items)) := by
  have hopen : IsLine ['{', '%', ' '] := by decide
  have hclose : IsLine [' ', '%', '}'] := by decide
  exact (hopen.append kind.isWord_keyword.isLine).append
    (.cons (by decide) (by decide) (h.isLine.append hclose))

end IsDefinition

/-- A mandatory attribute with a value is found. -/
theorem Attributes.require_of_lookup (items : List (Text × Text)) (key : Text) {value : Text}
    (hkey : key ≠ paramKey) (h : items.lookup key = some value) (hne : value ≠ []) :
    Attributes.require ⟨items⟩ key = .ok value := by
  cases value with
  | nil => exact absurd rfl hne
  | cons c rest => rw [require, get?, if_neg hkey, h]

/-! ### Datasources -/

namespace DataSource

/-- The attributes of a datasource, in the order in which they are written. -/
def attributes (source : DataSource) : List (Text × Text) :=
  [("name", source.name), ("server", source.server), ("database", source.database),
    ("user", source.user), ("password", source.password)]

/-- A datasource can be **written** if its five fields are values. -/
structure Writable (source : DataSource) : Prop where
  name : IsValue source.name
  server : IsValue source.server
  database : IsValue source.database
  user : IsValue source.user
  password : IsValue source.password

/-- The line that declares a datasource. -/
def toText (source : DataSource) : Text :=
  writeDeclaration .dataSource (writeAttributes source.attributes)

variable {source : DataSource}

theorem Writable.isDefinition (h : source.Writable) : IsDefinition source.attributes := by
  have hword : ∀ key ∈ [("name" : Text), "server", "database", "user", "password"],
      IsWord key := by decide +kernel
  simp only [List.forall_mem_cons] at hword
  obtain ⟨hname, hserver, hdatabase, huser, hpassword, -⟩ := hword
  refine ⟨List.cons_ne_nil _ _, ?_⟩
  simp only [attributes, List.forall_mem_cons]
  exact ⟨⟨hname, h.name⟩, ⟨hserver, h.server⟩, ⟨hdatabase, h.database⟩, ⟨huser, h.user⟩,
    ⟨hpassword, h.password⟩, by simp⟩

/-- **A written datasource is read as itself.** -/
theorem parse_writeAttributes (h : source.Writable) :
    DataSource.parse (writeAttributes source.attributes) = .ok source := by
  have hname := Attributes.require_of_lookup source.attributes "name"
    (by decide) rfl h.name.ne_nil
  have hserver := Attributes.require_of_lookup source.attributes "server"
    (by decide) rfl h.server.ne_nil
  have hdatabase := Attributes.require_of_lookup source.attributes "database"
    (by decide) rfl h.database.ne_nil
  have huser := Attributes.require_of_lookup source.attributes "user"
    (by decide) rfl h.user.ne_nil
  have hpassword := Attributes.require_of_lookup source.attributes "password"
    (by decide) rfl h.password.ne_nil
  rw [DataSource.parse, h.isDefinition.parse_eq]
  simp only [Except.bind, ofAttributes, hname, hserver, hdatabase, huser, hpassword]
  rfl

/-- The line that declares a datasource declares it. -/
theorem declaration?_toText (h : source.Writable) :
    declaration? DeclarationKind.dataSource.keyword (lex source.toText) =
      some (writeAttributes source.attributes) := by
  rw [toText, declaration?_writeDeclaration _ _ h.isDefinition.isField, if_pos rfl]

end DataSource

/-! ### Datasets -/

/-- The name of a column type can stand between quotes on a line. -/
theorem ColumnType.isLine_name (type : ColumnType) : IsLine type.name ∧ '"' ∉ type.name := by
  cases type <;> decide

/-- The name of a dataset type can stand between quotes on a line. -/
theorem DataSetType.isValue_name (type : DataSetType) : IsValue type.name := by
  cases type <;> decide

/-- The digits of a number can stand between quotes on a line. -/
theorem Text.isLine_ofNat (n : Nat) : IsLine (Text.ofNat n) ∧ '"' ∉ Text.ofNat n := by
  have hdigit {c : Char} (hc : c.isDigit = false) : c ∉ Text.ofNat n := by
    intro hmem
    rw [Text.isDigit_of_mem_ofNat hmem] at hc
    exact absurd hc (by decide)
  exact ⟨⟨hdigit (by decide), hdigit (by decide)⟩, hdigit (by decide)⟩

/-- A written parameter is a value if its name is one. -/
theorem Parameter.isValue_toText {parameter : Parameter} (h : IsValue parameter.name) :
    IsValue parameter.toText := by
  obtain ⟨htype, htypeQuote⟩ := parameter.type.isLine_name
  obtain ⟨hsize, hsizeQuote⟩ := Text.isLine_ofNat parameter.size.toNat
  obtain ⟨⟨hsizeNe, hsizeTrim⟩, -⟩ := Text.isField_ofNat parameter.size.toNat
  have hcomma : IsLine [','] := by decide
  refine ⟨⟨?_, Text.trim_eq_self_iff.2 ⟨?_, ?_⟩⟩, ?_, ?_⟩
  · simp [toText]
  · have hfirst := (Text.trim_eq_self_iff.1 h.trim_eq).1
    cases hname : parameter.name with
    | nil => exact absurd hname h.ne_nil
    | cons c rest =>
      rw [hname] at hfirst
      simpa [toText, hname] using hfirst
  · have hlast := (Text.trim_eq_self_iff.1 hsizeTrim).2
    rw [toText, List.getLast?_append_of_ne_nil _ hsizeNe]
    exact hlast
  · exact (((h.toIsLine.append hcomma).append htype).append hcomma).append hsize
  · simp [toText, h.quote, htypeQuote, hsizeQuote]

namespace DataSet

/-- The attributes of a dataset, in the order in which they are written. -/
def attributes (dataSet : DataSet) : List (Text × Text) :=
  ("datasource", dataSet.dataSource) :: ("name", dataSet.name) :: ("object", dataSet.object) ::
    ("type", dataSet.type.name) ::
    dataSet.parameters.map fun parameter => (Attributes.paramKey, parameter.toText)

/-- A dataset can be **written** if its texts are values, and it has no more parameters than are
read, none with a comma in its name. -/
structure Writable (dataSet : DataSet) : Prop where
  dataSource : IsValue dataSet.dataSource
  name : IsValue dataSet.name
  object : IsValue dataSet.object
  count : dataSet.parameters.length ≤ maxParameters
  parameter : ∀ parameter ∈ dataSet.parameters, IsValue parameter.name ∧ ',' ∉ parameter.name

/-- The line that declares a dataset. -/
def toText (dataSet : DataSet) : Text :=
  writeDeclaration .dataSet (writeAttributes dataSet.attributes)

variable {dataSet : DataSet}

theorem Writable.isDefinition (h : dataSet.Writable) : IsDefinition dataSet.attributes := by
  have hword : ∀ key ∈ [("datasource" : Text), "name", "object", "type", Attributes.paramKey],
      IsWord key := by decide +kernel
  simp only [List.forall_mem_cons] at hword
  obtain ⟨hdataSource, hname, hobject, htype, hparam, -⟩ := hword
  refine ⟨List.cons_ne_nil _ _, ?_⟩
  simp only [attributes, List.forall_mem_cons]
  refine ⟨⟨hdataSource, h.dataSource⟩, ⟨hname, h.name⟩, ⟨hobject, h.object⟩,
    ⟨htype, dataSet.type.isValue_name⟩, fun item hitem => ?_⟩
  obtain ⟨parameter, hparameter, rfl⟩ := List.mem_map.1 hitem
  exact ⟨hparam, Parameter.isValue_toText (h.parameter parameter hparameter).1⟩

/-- The values of the written parameters are the written parameters. -/
theorem params_attributes (dataSet : DataSet) :
    Attributes.params ⟨dataSet.attributes⟩ = dataSet.parameters.map Parameter.toText := by
  have hkeys : ∀ key ∈ [("datasource" : Text), "name", "object", "type"],
      key ≠ Attributes.paramKey := by decide
  simp only [List.forall_mem_cons] at hkeys
  obtain ⟨hdataSource, hname, hobject, htype, -⟩ := hkeys
  have hskip {key value : Text} (hkey : key ≠ Attributes.paramKey) (rest : List (Text × Text)) :
      ((key, value) :: rest).filter (·.1 = Attributes.paramKey) =
        rest.filter (·.1 = Attributes.paramKey) :=
    List.filter_cons_of_neg (by simpa using hkey)
  rw [Attributes.params, attributes, hskip hdataSource, hskip hname, hskip hobject, hskip htype]
  simp [List.filter_map, Function.comp_def]

/-- Written parameters are read as themselves, up to the greatest number that is read. -/
theorem parseParameters_map_toText (h : dataSet.Writable) :
    parseParameters (dataSet.parameters.map Parameter.toText) = .ok dataSet.parameters := by
  have hne : ∀ value ∈ dataSet.parameters.map Parameter.toText, decide (value ≠ []) = true := by
    intro value hvalue
    obtain ⟨parameter, hparameter, rfl⟩ := List.mem_map.1 hvalue
    exact decide_eq_true (Parameter.isValue_toText (h.parameter parameter hparameter).1).ne_nil
  have hread : ∀ parameters : List Parameter,
      (∀ parameter ∈ parameters, IsValue parameter.name ∧ ',' ∉ parameter.name) →
      (parameters.map Parameter.toText).mapM Parameter.parse = .ok parameters := by
    intro parameters hall
    induction parameters with
    | nil => rfl
    | cons parameter rest ih =>
      obtain ⟨⟨hname, hcomma⟩, hrest⟩ := List.forall_mem_cons.1 hall
      rw [List.map_cons, List.mapM_cons, Parameter.parse_toText hname.toIsField hcomma, ih hrest]
      rfl
  rw [parseParameters, List.take_of_length_le (by rw [List.length_map]; exact h.count),
    List.takeWhile_eq_self_iff.2 hne, hread dataSet.parameters h.parameter]

/-- **A written dataset is read as itself**, parameters included. -/
theorem parse_writeAttributes (h : dataSet.Writable) :
    DataSet.parse (writeAttributes dataSet.attributes) = .ok dataSet := by
  have hdataSource := Attributes.require_of_lookup dataSet.attributes
    "datasource" (by decide) rfl h.dataSource.ne_nil
  have hname := Attributes.require_of_lookup dataSet.attributes "name"
    (by decide) rfl h.name.ne_nil
  have hobject := Attributes.require_of_lookup dataSet.attributes "object"
    (by decide) rfl h.object.ne_nil
  have htype : typeOfAttributes ⟨dataSet.attributes⟩ = .ok dataSet.type := by
    have hget : Attributes.get? ⟨dataSet.attributes⟩ "type" = some dataSet.type.name := rfl
    rw [typeOfAttributes, hget]
    exact dataSet.type.parse_name
  have hparameters : parseParameters (Attributes.params ⟨dataSet.attributes⟩) =
      .ok dataSet.parameters := by
    rw [params_attributes, parseParameters_map_toText h]
  rw [DataSet.parse, h.isDefinition.parse_eq]
  simp only [Except.bind, ofAttributes, hdataSource, hname, htype, hobject, hparameters]
  rfl

/-- The line that declares a dataset declares it, and no datasource. -/
theorem declaration?_toText (h : dataSet.Writable) :
    declaration? DeclarationKind.dataSource.keyword (lex dataSet.toText) = none ∧
      declaration? DeclarationKind.dataSet.keyword (lex dataSet.toText) =
        some (writeAttributes dataSet.attributes) := by
  rw [toText, declaration?_writeDeclaration _ _ h.isDefinition.isField,
    declaration?_writeDeclaration _ _ h.isDefinition.isField, if_neg (by decide), if_pos rfl]
  exact ⟨rfl, rfl⟩

end DataSet

end BoundReport
