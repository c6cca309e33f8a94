import BoundReport.Proofs.Acceptance
import BoundReport.Proofs.AttributeLists
import BoundReport.Proofs.Lines
import BoundReport.Proofs.Redaction
import BoundReport.Proofs.RoundTrip

/-!
# Passwords

A password is read from the declaration of its datasource and given to the engine with every call
to this datasource. It goes nowhere else: with another password in its place a template gives the
same report, the same warnings and the same errors. The password may be written with tags and
markers in it, and still nothing but the engine is told of it.

## Main results

* `exists_passwordPlace`: every password that is found has a place.
* `readLines_password`: templates with different passwords in one place are taken apart alike.
* `generate_password`: they make the same report.
-/

namespace BoundReport

/-! ### The place of a password -/

/-- The keyword of the attribute that holds the password. -/
def passwordKey : Text := "password"

/-- A text can be given as a **password** if it is not empty without the spaces around it, and has
no quote and no line end in it. -/
structure IsPassword (value : Text) : Prop extends IsLine value where
  quote : '"' ∉ value
  trim_ne_nil : Text.trim value ≠ []

/-- The **place of a password**: the envelope of a declaration, and the place of the first password
in its definition. -/
structure PasswordPlace extends AttributePlace passwordKey where
  envelope : Envelope
  isSpace_earlier : ∀ c ∈ earlier.head?, isSpace c = false
  isSpace_later : ∀ c ∈ later.getLast?, isSpace c = false

namespace PasswordPlace

variable {value value₁ value₂ : Text}

/-- The declaration with a value in the place. -/
def line (place : PasswordPlace) (value : Text) : Text :=
  place.envelope.line DeclarationKind.dataSource.keyword (place.definition value)

theorem isWord_passwordKey : IsWord passwordKey := by decide +kernel

/-- The definition has no space at its ends, whatever stands in the place. -/
theorem isField_definition (place : PasswordPlace) (value : Text) :
    IsField (place.definition value) := by
  refine ⟨by simp [AttributePlace.definition],
    Text.trim_eq_self_iff.2 ⟨fun c hc => ?_, fun c hc => ?_⟩⟩
  · cases hearlier : place.earlier with
    | nil =>
      rw [AttributePlace.definition, hearlier] at hc
      exact isWord_passwordKey.head_append c hc
    | cons d earlier =>
      rw [AttributePlace.definition, hearlier] at hc
      exact place.isSpace_earlier c (hearlier ▸ hc)
  · rw [place.getLast?_definition] at hc
    cases hlater : place.later.getLast? with
    | none =>
      obtain rfl : '"' = c := by simpa [hlater] using hc
      decide
    | some d =>
      obtain rfl : d = c := by simpa [hlater] using hc
      exact place.isSpace_later d hlater

/-- The line is a declaration, whatever stands in the place. -/
theorem definition?_line (place : PasswordPlace) (value : Text) :
    definition? .dataSource (place.line value) = some (place.definition value) := by
  rw [definition?, line, place.envelope.declaration?_line
    (DeclarationKind.isWord_keyword .dataSource) (place.isField_definition value), if_pos rfl]

/-- The line stands on one line if the place does, and what stands in it. -/
theorem isLine_line {place : PasswordPlace} (hplace : IsLine (place.line []))
    (h : IsLine value) : IsLine (place.line value) := by
  have hmem {c : Char} (hc : c ∈ place.line value) : c ∈ place.line [] ∨ c ∈ value := by
    simp only [line, Envelope.line, AttributePlace.definition, List.mem_append, List.mem_cons,
      List.nil_append] at hc ⊢
    grind
  exact ⟨fun hc => (hmem hc).elim hplace.lineFeed h.lineFeed,
    fun hc => (hmem hc).elim hplace.carriageReturn h.carriageReturn⟩

/-- The attributes in the place are the same but for the password. -/
theorem parse_definition (place : PasswordPlace) (h : IsPassword value) :
    Attributes.parse (place.definition value) =
      .ok ⟨place.first ++ (passwordKey, Text.trim value) :: place.last⟩ :=
  place.toAttributePlace.parse_definition isWord_passwordKey h.quote

end PasswordPlace

/-- **Every password that is found has a place.** -/
theorem exists_passwordPlace {line definition password : Text} {attributes : Attributes}
    (hline : definition? .dataSource line = some definition)
    (hparse : Attributes.parse definition = .ok attributes)
    (hget : attributes.get? passwordKey = some password) :
    ∃ (place : PasswordPlace) (value : Text), '"' ∉ value ∧ place.line value = line ∧
      Text.trim value = password := by
  obtain ⟨hfield, envelope, rfl⟩ := exists_envelope_of_declaration? hline
  obtain ⟨place, value, hvalue, rfl, htrim⟩ := exists_attributePlace hparse hget
  obtain ⟨hhead, hlast⟩ := Text.trim_eq_self_iff.1 hfield.trim_eq
  refine ⟨⟨place, envelope, fun c hc => hhead c ?_, fun c hc => hlast c ?_⟩, value, hvalue, rfl,
    htrim⟩
  · rw [AttributePlace.definition, List.head?_append, hc]
    rfl
  · rw [place.getLast?_definition, hc]
    rfl

/-! ### Reading with another password -/

namespace PasswordPlace

variable {value₁ value₂ : Text}

/-- Another password does not matter to another attribute. -/
theorem require_congr (place : PasswordPlace) {key : Text} (hkey : key ≠ passwordKey)
    (password₁ password₂ : Text) :
    Attributes.require ⟨place.first ++ (passwordKey, password₁) :: place.last⟩ key =
      Attributes.require ⟨place.first ++ (passwordKey, password₂) :: place.last⟩ key := by
  have hlookup (password : Text) :
      (place.first ++ (passwordKey, password) :: place.last).lookup key =
        (place.first.lookup key).or (place.last.lookup key) := by
    rw [List.lookup_append, List.lookup_cons, beq_false_of_ne hkey]
  rw [Attributes.require, Attributes.require, Attributes.get?, Attributes.get?, hlookup, hlookup]

/-- A password is found in its place. -/
theorem require_password (place : PasswordPlace) {password : Text} (hne : password ≠ []) :
    Attributes.require ⟨place.first ++ (passwordKey, password) :: place.last⟩ passwordKey =
      .ok password := by
  have hfirst : place.first.lookup passwordKey = none :=
    List.lookup_eq_none_iff.2 fun item hitem => by simpa using (place.ne_key item hitem).symm
  have hlookup : (place.first ++ (passwordKey, password) :: place.last).lookup passwordKey =
      some password := by
    rw [List.lookup_append, hfirst, List.lookup_cons, beq_self_eq_true]
    rfl
  obtain ⟨c, rest, rfl⟩ := List.exists_cons_of_ne_nil hne
  rw [Attributes.require, Attributes.get?, if_neg (by decide), hlookup]

/-- With another password a declaration makes a datasource with this password, or has the same
fault. -/
theorem parse_congr (place : PasswordPlace) (h₁ : IsPassword value₁) (h₂ : IsPassword value₂) :
    EndAlike (fun source₁ source₂ => { source₁ with password := Text.trim value₂ } = source₂)
      (DataSource.parse (place.definition value₁))
      (DataSource.parse (place.definition value₂)) := by
  rw [DataSource.parse, DataSource.parse, place.parse_definition h₁, place.parse_definition h₂]
  simp only [Except.bind]
  have hcongr {key : Text} (hkey : key ≠ passwordKey) :=
    place.require_congr hkey (Text.trim value₁) (Text.trim value₂)
  have hpassword {password : Text} (hne : password ≠ []) : Attributes.require
      ⟨place.first ++ (passwordKey, password) :: place.last⟩ "password" = .ok password :=
    place.require_password hne
  rw [DataSource.ofAttributes, DataSource.ofAttributes, hcongr (by decide), hcongr (by decide),
    hcongr (by decide), hcongr (by decide)]
  refine .bind .rfl fun name _ hname => .bind .rfl fun server _ hserver =>
    .bind .rfl fun database _ hdatabase => .bind .rfl fun user _ huser => ?_
  subst hname hserver hdatabase huser
  rw [hpassword h₁.trim_ne_nil, hpassword h₂.trim_ne_nil]
  exact .ok rfl

/-- The datasource that the declaration makes **is named** so, if it makes one. -/
def IsNamed (place : PasswordPlace) (value name : Text) : Prop :=
  ∀ source, DataSource.parse (place.definition value) = .ok source → source.name = name

/-- With another password the datasource of this name is alike. -/
theorem parse_alike (place : PasswordPlace) {name : Text} (hname : place.IsNamed value₁ name)
    (h₁ : IsPassword value₁) (h₂ : IsPassword value₂) :
    EndAlike (DataSource.Alike name) (DataSource.parse (place.definition value₁))
      (DataSource.parse (place.definition value₂)) := by
  refine (place.parse_congr h₁ h₂).mono fun source₁ source₂ hparse h => ?_
  subst h
  rw [DataSource.Alike, DataSource.redacted, DataSource.redacted, if_pos (hname source₁ hparse),
    if_pos (hname source₁ hparse)]

variable {name : Text} {limits : DeclarationLimits}
  {progress₁ progress₂ : ParsedTemplate.Progress}

/-- With another password a declaration within its limit is read alike. -/
theorem step_alike (place : PasswordPlace) (hname : place.IsNamed value₁ name)
    (h₁ : IsPassword value₁) (h₂ : IsPassword value₂)
    (h : ParsedTemplate.Progress.Alike name progress₁ progress₂)
    (hlimit : progress₁.sourceLines ≤ limits.maxDataSources) :
    EndAlike (ParsedTemplate.StepAlike name)
      (ParsedTemplate.step limits progress₁ (place.line value₁))
      (ParsedTemplate.step limits progress₂ (place.line value₂)) := by
  have hline (value : Text) : declaration? DeclarationKind.dataSource.keyword
      (lex (place.line value)) = some (place.definition value) := place.definition?_line value
  obtain ⟨hcatalog, hnumber, hsources, hsets⟩ := h
  rw [hsources] at hlimit
  rw [ParsedTemplate.step, ParsedTemplate.step, hnumber, hsources, hsets]
  simp only [hline, if_pos hlimit]
  exact (ParsedTemplate.declareDataSource_alike hcatalog _ (place.parse_alike hname h₁ h₂)).bind
    fun _ _ h => .ok ⟨⟨h, rfl, rfl, rfl⟩, rfl⟩

/-- **Templates with different passwords in one place are taken apart alike.** -/
theorem readLines_password (place : PasswordPlace) (hname : place.IsNamed value₁ name)
    (h₁ : IsPassword value₁) (h₂ : IsPassword value₂) {before : List Text} (after : List Text)
    (h : ParsedTemplate.Progress.Alike name progress₁ progress₂)
    (hlimit : progress₁.sourceLines + (definitionsOf .dataSource before).length ≤
      limits.maxDataSources) :
    EndAlike (ParsedTemplate.Alike name)
      (ParsedTemplate.readLines limits progress₁ (before ++ place.line value₁ :: after))
      (ParsedTemplate.readLines limits progress₂ (before ++ place.line value₂ :: after)) := by
  induction before generalizing progress₁ progress₂ with
  | nil =>
    exact ParsedTemplate.readLines_cons_alike (place.step_alike hname h₁ h₂ h hlimit)
      fun _ _ _ _ hnext => ParsedTemplate.readLines_alike hnext after
  | cons line rest ih =>
    refine ParsedTemplate.readLines_cons_alike (ParsedTemplate.step_alike h line)
      fun next₁ next₂ left hstep hnext => ih hnext ?_
    have hcount : next₁.sourceLines =
        progress₁.sourceLines + (definition? .dataSource line).toList.length :=
      (ParsedTemplate.step_eq_ok_iff.1 hstep).linesOf_eq .dataSource
    have hdefinitions : (definitionsOf .dataSource (line :: rest)).length =
        (definition? .dataSource line).toList.length +
          (definitionsOf .dataSource rest).length := by
      rw [definitionsOf, List.filterMap_cons, definitionsOf]
      cases definition? .dataSource line with
      | none => simp
      | some definition => simp [Nat.add_comm]
    omega

end PasswordPlace

/-! ### Reports -/

/-- Two reports are **alike** if they have the same text and the same warnings, and have been made
with the same calls up to the password of the datasource with this name. -/
structure Generation.Alike {σ : Type} (name : Text) (first second : Generation σ) : Prop where
  document : first.document = second.document
  warnings : first.warnings = second.warnings
  calls : first.calls.map (Call.redacted name) = second.calls.map (Call.redacted name)

/-- A declaration between line ends is a line of its own, whatever stands in the place. -/
theorem splitLines_password {place : PasswordPlace} {head tail value : Text} (hhead : EndsLine head)
    (hplace : IsLine (place.line [])) (htail : ∀ c ∈ tail.head?, c = '\r' ∨ c = '\n')
    (h : IsPassword value) :
    splitLines (head ++ (place.line value ++ tail)) =
      splitLines head ++ place.line value :: (splitLines tail).tail := by
  have hline : IsLine (place.line value) := PasswordPlace.isLine_line hplace h.toIsLine
  have hne : place.line value ≠ [] := by simp [PasswordPlace.line, Envelope.line]
  have hfirst : (place.line value ++ tail).head? ≠ some '\n' := by
    obtain ⟨c, rest, hc⟩ := List.exists_cons_of_ne_nil hne
    rw [hc] at hline
    rw [hc, List.cons_append, List.head?_cons, ne_eq, Option.some.injEq]
    exact hline.of_cons.1
  rw [splitLines_append hhead hfirst, splitLines_line_append hline hne htail]

/-- **Passwords do not flow into reports.** Two templates that differ in one place of a password,
in a declaration that is read, end alike: both have the same error, or both make the same report
with the same warnings and the same calls up to this password. What is shown of the datasource is
the same, too. -/
theorem generate_password {limits : DeclarationLimits} {place : PasswordPlace}
    {head tail value₁ value₂ name : Text} (hhead : EndsLine head)
    (hplace : IsLine (place.line [])) (htail : ∀ c ∈ tail.head?, c = '\r' ∨ c = '\n')
    (h₁ : IsPassword value₁) (h₂ : IsPassword value₂) (hname : place.IsNamed value₁ name)
    (hlimit : (definitionsOf .dataSource (splitLines head)).length ≤ limits.maxDataSources)
    {σ : Type} {engine : Engine σ} {state : σ} (hengine : engine.IgnoresPassword name state) :
    EndAlike (Generation.Alike name)
        (generate (head ++ (place.line value₁ ++ tail)) limits engine state)
        (generate (head ++ (place.line value₂ ++ tail)) limits engine state) ∧
      EndAlike (fun source₁ source₂ : DataSource => source₁.describe = source₂.describe ∧
          source₁.serialized = source₂.serialized)
        (DataSource.parse (place.definition value₁))
        (DataSource.parse (place.definition value₂)) := by
  refine ⟨?_, (place.parse_alike hname h₁ h₂).mono fun _ _ _ h => h.shown⟩
  have hstart : ParsedTemplate.Progress.Alike name ParsedTemplate.Progress.start
      ParsedTemplate.Progress.start :=
    ⟨.rfl, rfl, rfl, rfl⟩
  have hparse : EndAlike (ParsedTemplate.Alike name)
      (ParsedTemplate.parse (head ++ (place.line value₁ ++ tail)) limits)
      (ParsedTemplate.parse (head ++ (place.line value₂ ++ tail)) limits) := by
    rw [ParsedTemplate.parse, ParsedTemplate.parse, splitLines_password hhead hplace htail h₁,
      splitLines_password hhead hplace htail h₂]
    exact place.readLines_password hname h₁ h₂ _ hstart (by
      rw [show ParsedTemplate.Progress.start.sourceLines = 0 from rfl, Nat.zero_add]
      exact hlimit)
  cases hfirst : ParsedTemplate.parse (head ++ (place.line value₁ ++ tail)) limits with
  | error error =>
    have hsecond := hparse.eq_error hfirst
    rw [generate, generate, run_makeReport_of_parse_error hfirst,
      run_makeReport_of_parse_error hsecond]
    exact .error error
  | ok parsed₁ =>
    obtain ⟨parsed₂, hsecond, hparsed⟩ := hparse.exists_eq_ok hfirst
    obtain ⟨hdocument, hwarnings, hcalls, -⟩ :=
      process_alike hparsed.catalog parsed₁.body state state hengine
    rw [generate_of_parse_ok hfirst, generate_of_parse_ok hsecond, ← hparsed.body]
    exact .ok ⟨hdocument, hwarnings, hcalls⟩

/-! ### A password with markers in it -/

/-- The place of the password in a declaration that has a second password, which does not count. -/
def samplePlace : PasswordPlace where
  earlier := "name=\"p\" server=\"s\" database=\"b\" user=\"u\" "
  before := []
  after := " "
  later := " password=\"none\""
  first := [("name", "p"), ("server", "s"), ("database", "b"), ("user", "u")]
  last := [("password", "none")]
  parse_earlier := by decide +kernel
  ne_key := by simp; decide
  isSpace_before := Envelope.plain.isSpace_lead
  isSpace_after := List.all_eq_true.1 (by decide)
  parse_later := by decide +kernel
  envelope := .plain
  isSpace_earlier := by simp; decide
  isSpace_later := by simp; decide

/-- An engine that keeps all calls, and answers with the user of the datasource `p` and with the
password of every other one. -/
def ledgerEngine : Engine (List Call) :=
  ⟨fun source invocation calls =>
    (.ok [⟨[("f", .string (if source.name = "p" then source.user else source.password))]⟩],
      calls ++ [⟨source, invocation⟩])⟩

theorem ignoresPassword_ledgerEngine (calls : List Call) :
    ledgerEngine.IgnoresPassword "p" calls := by
  have hanswer (call : Call) (state : List Call) :
      (ledgerEngine.execute call.source call.invocation state).1 =
        (ledgerEngine.execute (call.redacted "p").source (call.redacted "p").invocation []).1 := by
    by_cases hp : call.source.name = "p".toList
    · have hredacted : (call.redacted "p").source = { call.source with password := [] } := if_pos hp
      simp only [ledgerEngine, hredacted, if_pos hp]
    · have hredacted : (call.redacted "p").source = call.source := if_neg hp
      simp only [ledgerEngine, hredacted]
  have hstates (state₁ state₂ : List Call) : ledgerEngine.Indistinguishable "p" state₁ state₂ := by
    intro calls₁
    induction calls₁ generalizing state₁ state₂ with
    | nil =>
      intro calls₂ h
      obtain rfl := List.map_eq_nil_iff.1 h.symm
      rfl
    | cons call₁ rest₁ ih =>
      intro calls₂ h
      obtain ⟨call₂, rest₂, rfl, hcall, hrest⟩ := List.map_eq_cons_iff.1 h.symm
      rw [Engine.answersTo, Engine.answersTo]
      exact congrArg₂ List.cons (by rw [hanswer call₁, hanswer call₂, hcall])
        (ih _ _ _ hrest.symm)
  exact hstates calls calls

/-- A password may hold a marker and a tag: no more than with another one is seen of it. -/
theorem generate_password_markers :
    let value₁ : Text := "%\x7d \x7b\x7b D.f \x7d\x7d"
    let value₂ : Text := " w "
    let tail : Text := '\n' :: writeTemplate [.declareSet ⟨"p", .storedProcedure, "D", "o", []⟩,
      .body "\x7b\x7b D.f \x7d\x7d"]
    EndsLine [] ∧ IsLine (samplePlace.line []) ∧ (∀ c ∈ tail.head?, c = '\r' ∨ c = '\n') ∧
      IsPassword value₁ ∧ IsPassword value₂ ∧ samplePlace.IsNamed value₁ "p" ∧
      (definitionsOf .dataSource (splitLines [])).length ≤
        (⟨0, 0⟩ : DeclarationLimits).maxDataSources ∧
      ledgerEngine.IgnoresPassword "p" [] ∧
      EndAlike (Generation.Alike "p")
        (generate ([] ++ (samplePlace.line value₁ ++ tail)) ⟨0, 0⟩ ledgerEngine [])
        (generate ([] ++ (samplePlace.line value₂ ++ tail)) ⟨0, 0⟩ ledgerEngine []) ∧
      EndAlike (fun source₁ source₂ : DataSource => source₁.describe = source₂.describe ∧
          source₁.serialized = source₂.serialized)
        (DataSource.parse (samplePlace.definition value₁))
        (DataSource.parse (samplePlace.definition value₂)) := by
  intro value₁ value₂ tail
  have hhead : EndsLine [] := by simp [EndsLine]
  have hplace : IsLine (samplePlace.line []) := by decide +kernel
  have htail : ∀ c ∈ tail.head?, c = '\r' ∨ c = '\n' := by simp [tail]
  have h₁ : IsPassword value₁ := ⟨by decide, by decide, by decide⟩
  have h₂ : IsPassword value₂ := ⟨by decide, by decide, by decide⟩
  have hname : samplePlace.IsNamed value₁ "p" := by
    have hparse : DataSource.parse (samplePlace.definition value₁) =
        .ok ⟨"p", "s", "b", "u", value₁⟩ := by decide +kernel
    intro source hsource
    obtain rfl := Except.ok.inj (hparse.symm.trans hsource)
    rfl
  have hlimit : (definitionsOf .dataSource (splitLines [])).length ≤
      (⟨0, 0⟩ : DeclarationLimits).maxDataSources := Nat.le_refl 0
  have hengine := ignoresPassword_ledgerEngine []
  obtain ⟨hreports, hshown⟩ := generate_password hhead hplace htail h₁ h₂ hname hlimit hengine
  exact ⟨hhead, hplace, htail, h₁, h₂, hname, hlimit, hengine, hreports, hshown⟩

end BoundReport
