import BoundReport.Proofs.AttributeLists

/-!
# Attribute Lists, Character by Character

Whether a text is a list of attributes can be told from its characters, with no regard to lexemes.
It is a row of **items**, and an item is a key, an equals sign and a value between quotes, with any
spaces between these and around the items. A value may hold anything but a quote. Nothing has to
stand between the quote that ends an item and the key of the next one.

## Main results

* `listsAttributes_lex_iff`: what a text lists can be told from its lexemes.
* `Attributes.parse_eq_ok_iff_listsItems`: the texts that are lists of attributes.
* `Attributes.parse_items`: these texts are read, no others are, and what is found are the trimmed
  values of their items.
-/

namespace BoundReport

/-! ### Items -/

/-- A text **lists** items, each a key and what stands between its quotes, if it is these items in
order with spaces around them and inside of them. -/
inductive ListsItems : Text → List (Text × Text) → Prop
  | nil {spaces : Text} (h : ∀ c ∈ spaces, isSpace c) : ListsItems spaces []
  | cons {lead key before after value rest : Text} {items : List (Text × Text)}
      (hlead : ∀ c ∈ lead, isSpace c) (hkey : IsWord key) (hbefore : ∀ c ∈ before, isSpace c)
      (hafter : ∀ c ∈ after, isSpace c) (hvalue : '"' ∉ value) (hrest : ListsItems rest items) :
      ListsItems (lead ++ (key ++ (before ++ '=' :: (after ++ '"' :: (value ++ '"' :: rest)))))
        ((key, value) :: items)

/-- An item without the spaces at the ends of its value. -/
def trimValue (item : Text × Text) : Text × Text := (item.1, Text.trim item.2)

/-- The attributes that items give: a value is kept without the spaces at its ends. -/
def Attributes.ofItems (items : List (Text × Text)) : Attributes := ⟨items.map trimValue⟩

/-- The text of an attribute. -/
theorem SpacedAttribute.unlex_lexemes (spaced : SpacedAttribute) :
    Lexeme.unlex spaced.lexemes = spaced.key ++ (Lexeme.unlex spaced.before ++ '=' ::
      (Lexeme.unlex spaced.after ++ '"' :: (Lexeme.unlex spaced.value ++ ['"']))) := by
  simp [lexemes, Lexeme.unlex]

/-- The parts of an attribute among the lexemes of a text are spaces, a word and a value. -/
theorem SpacedAttribute.listsItems_cons {spaces : List Lexeme} {spaced : SpacedAttribute}
    {rest : Text} {items : List (Text × Text)} (hvalid : ∀ l ∈ spaces ++ spaced.lexemes, l.Valid)
    (hspaces : ∀ l ∈ spaces, l.token = .space) (hrest : ListsItems rest items) :
    ListsItems (Lexeme.unlex spaces ++ (Lexeme.unlex spaced.lexemes ++ rest))
      ((spaced.key, Lexeme.unlex spaced.value) :: items) := by
  simp only [lexemes, List.forall_mem_append, List.forall_mem_cons] at hvalid
  obtain ⟨hvspaces, hword, hvbefore, -, hvafter, -, hvvalue, -⟩ := hvalid
  have hquote : '"' ∉ Lexeme.unlex spaced.value := by
    intro hmem
    obtain ⟨l, hl, hmem⟩ := List.mem_flatMap.1 hmem
    exact (hvvalue l hl).quote_notMem (spaced.ne_quote l hl) hmem
  have hlists := ListsItems.cons (Lexeme.isSpace_of_mem_unlex hvspaces hspaces) hword.isWord
    (Lexeme.isSpace_of_mem_unlex hvbefore spaced.isSpace_before)
    (Lexeme.isSpace_of_mem_unlex hvafter spaced.isSpace_after) hquote hrest
  simpa [spaced.unlex_lexemes] using hlists

/-- **What a text lists can be told from its lexemes.** -/
theorem listsAttributes_lex_iff {definition : Text} {attributes : List (Text × Text)} :
    ListsAttributes (lex definition) attributes ↔
      ∃ items, ListsItems definition items ∧ attributes = items.map trimValue := by
  constructor
  · intro h
    generalize hlexemes : lex definition = lexemes at h
    induction h generalizing definition with
    | @nil spaces hspaces =>
      have hvalid : ∀ l ∈ spaces, l.Valid := hlexemes ▸ valid_of_mem_lex
      have hspace : ∀ c ∈ definition, isSpace c := by
        rw [← unlex_lex definition, hlexemes]
        exact Lexeme.isSpace_of_mem_unlex hvalid hspaces
      exact ⟨[], .nil hspace, rfl⟩
    | @cons spaces rest attributes spaced hspaces _ ih =>
      rw [← List.append_assoc] at hlexemes
      -- the lexemes behind the first attribute are those of the text behind it
      obtain ⟨items, hitems, rfl⟩ := ih (lex_unlex_of_append hlexemes).2
      have hvalid : ∀ l ∈ (spaces ++ spaced.lexemes) ++ rest, l.Valid :=
        hlexemes ▸ valid_of_mem_lex
      have htext : definition =
          Lexeme.unlex spaces ++ (Lexeme.unlex spaced.lexemes ++ Lexeme.unlex rest) := by
        rw [← unlex_lex definition, hlexemes]
        simp [Lexeme.unlex]
      rw [htext]
      exact ⟨_, spaced.listsItems_cons (List.forall_mem_append.1 hvalid).1 hspaces hitems, rfl⟩
  · rintro ⟨items, h, rfl⟩
    induction h with
    | nil hspaces => exact .nil (token_eq_space_of_isSpace hspaces)
    | @cons lead key before after value rest items hlead hkey hbefore hafter hvalue _ ih =>
      let spaced : SpacedAttribute := ⟨key, lex before, lex after, lex value,
        token_eq_space_of_isSpace hbefore, token_eq_space_of_isSpace hafter,
        token_ne_quote hvalue⟩
      have hlexemes : lex (lead ++ (key ++ (before ++ '=' :: (after ++ '"' :: (value ++
          '"' :: rest))))) = lex lead ++ (spaced.lexemes ++ lex rest) := by
        rw [lex_append_of_isSpace hlead hkey.head_append,
          lex_attribute_append hkey hbefore hafter]
        simp [SpacedAttribute.lexemes, spaced]
      have hitem : spaced.item = trimValue (key, value) := by
        rw [SpacedAttribute.item, trimValue, unlex_lex]
      rw [hlexemes, List.map_cons, ← hitem]
      exact .cons spaced (token_eq_space_of_isSpace hlead) ih

namespace Attributes

/-- **The texts that are lists of attributes.** -/
theorem parse_eq_ok_iff_listsItems {definition : Text} {attributes : Attributes} :
    parse definition = .ok attributes ↔
      ∃ items, ListsItems definition items ∧ attributes = ofItems items := by
  obtain ⟨found⟩ := attributes
  rw [parse_eq_ok_iff, listsAttributes_lex_iff]
  simp only [ofItems, mk.injEq]

/-- Nothing has to stand between two items. -/
example : parse "a = \"1\"b=\" x  y \"" = .ok (ofItems [("a", "1"), ("b", "x  y")]) := by
  decide +kernel

/-! ### What is found among items -/

/-- The value under a key is that of the first item with this key. -/
theorem get?_ofItems {items : List (Text × Text)} {key : Text} (h : key ≠ paramKey) :
    (ofItems items).get? key = (items.find? (·.1 = key)).map fun item => Text.trim item.2 := by
  rw [get?, if_neg h, ofItems]
  induction items with
  | nil => rfl
  | cons item items ih =>
    rw [List.map_cons, trimValue, List.lookup_cons, List.find?_cons]
    by_cases hkey : item.1 = key
    · simp [hkey]
    · have hne : (key == item.1) = false := beq_false_of_ne (Ne.symm hkey)
      simp only [hne, hkey, decide_false, ih]

/-- The parameters are the values of all items with their key. -/
theorem params_ofItems (items : List (Text × Text)) :
    (ofItems items).params = (items.filter (·.1 = paramKey)).map fun item => Text.trim item.2 := by
  rw [params, ofItems, List.filter_map, List.map_map]
  rfl

/-! ### Texts that are no lists -/

/-- What cannot be read as attributes has a fault in its syntax. -/
theorem exists_fault_of_attributeItems {state : AttributeState} {lexemes : List Lexeme}
    {error : DefinitionError} (h : attributeItems state lexemes = .error error) :
    ∃ fault, error = .attributeSyntax fault := by
  induction lexemes generalizing state with
  | nil =>
    cases state with
    | key => cases h
    | equals | openQuote | value => exact ⟨_, (Except.error.inj h).symm⟩
  | cons l rest ih =>
    cases state with
    | key | equals | openQuote =>
      rw [attributeItems] at h
      split_ifs at h
      · exact ih h
      · exact ih h
      · exact ⟨_, (Except.error.inj h).symm⟩
    | value key value =>
      rw [attributeItems] at h
      split_ifs at h
      · exact ih (ParsedTemplate.map_eq_error_iff.1 h)
      · exact ih h

/-- **Parsing attributes is exact.** A text is read if and only if it lists items, and any other
text has a fault in its syntax. Under a key stands the trimmed value of the first item with this
key. The values of all `param` items are the parameters, and none of them stands under its key. -/
theorem parse_items (definition : Text) :
    ((∃ attributes, parse definition = .ok attributes) ↔ ∃ items, ListsItems definition items) ∧
      (∀ error, parse definition = .error error → ∃ fault, error = .attributeSyntax fault) ∧
      ∀ attributes items, parse definition = .ok attributes → ListsItems definition items →
        (∀ key, key ≠ paramKey →
          attributes.get? key = (items.find? (·.1 = key)).map fun item => Text.trim item.2) ∧
        attributes.params =
          (items.filter (·.1 = paramKey)).map (fun item => Text.trim item.2) ∧
        attributes.get? paramKey = none := by
  have hread {items : List (Text × Text)} (hitems : ListsItems definition items) :
      parse definition = .ok (ofItems items) := parse_eq_ok_iff_listsItems.2 ⟨items, hitems, rfl⟩
  refine ⟨⟨?_, ?_⟩, ?_, ?_⟩
  · rintro ⟨attributes, hparse⟩
    obtain ⟨items, hitems, -⟩ := parse_eq_ok_iff_listsItems.1 hparse
    exact ⟨items, hitems⟩
  · rintro ⟨items, hitems⟩
    exact ⟨ofItems items, hread hitems⟩
  · intro error herror
    exact exists_fault_of_attributeItems (ParsedTemplate.map_eq_error_iff.1 herror)
  · intro attributes items hparse hitems
    obtain rfl : attributes = ofItems items :=
      Except.ok.inj (hparse.symm.trans (hread hitems))
    exact ⟨fun key hkey => get?_ofItems hkey, params_ofItems items, if_pos rfl⟩

end Attributes

end BoundReport
