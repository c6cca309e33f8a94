import BoundReport.Proofs.Attributes
import BoundReport.Proofs.Envelope
import BoundReport.Proofs.Reading

/-!
# The Form of an Attribute List

A text is a list of attributes if and only if it consists of attributes with spaces between them.
An attribute is a key, an equals sign and a value between quotes, with spaces between any two of
these. The spaces in front of an attribute may be missing, for its key cannot run into the quote
or the space that the attributes before it end with.

So every attribute has a **place** in its list, and another value may stand there. The list is
then read with this value, and with no other change.

## Main results

* `attributeItems_eq_ok_iff`: the lexemes that are lists of attributes.
* `AttributePlace.parse_definition`: what is read with a value in its place.
* `exists_attributePlace`: every attribute that is found has a place.
-/

namespace BoundReport

/-! ### Attributes with spaces -/

/-- An attribute with any spaces around its equals sign, as lexemes. -/
structure SpacedAttribute where
  key : Text
  before : List Lexeme
  after : List Lexeme
  value : List Lexeme
  isSpace_before : ∀ l ∈ before, l.token = .space
  isSpace_after : ∀ l ∈ after, l.token = .space
  ne_quote : ∀ l ∈ value, l.token ≠ .quote

namespace SpacedAttribute

/-- The lexemes of an attribute. -/
def lexemes (spaced : SpacedAttribute) : List Lexeme :=
  ⟨.word, spaced.key⟩ :: (spaced.before ++ ⟨.equals, ['=']⟩ :: (spaced.after ++
    ⟨.quote, ['"']⟩ :: (spaced.value ++ [⟨.quote, ['"']⟩])))

/-- An attribute ends in a quote. -/
theorem getLast?_lexemes (spaced : SpacedAttribute) :
    spaced.lexemes.getLast? = some ⟨.quote, ['"']⟩ :=
  List.getLast?_eq_some_iff.2 ⟨⟨.word, spaced.key⟩ :: (spaced.before ++ ⟨.equals, ['=']⟩ ::
    (spaced.after ++ ⟨.quote, ['"']⟩ :: spaced.value)), by simp [lexemes]⟩

/-- The key and the value of an attribute. -/
def item (spaced : SpacedAttribute) : Text × Text :=
  (spaced.key, Text.trim (Lexeme.unlex spaced.value))

end SpacedAttribute

/-- A lexeme that is no quote has no quote in it. -/
theorem Lexeme.Valid.quote_notMem {l : Lexeme} (h : l.Valid) (hne : l.token ≠ .quote) :
    '"' ∉ l.text := by
  intro hmem
  have hquote : Token.ofChar '"' = .quote := by decide
  cases h with
  | @marker c d token hm =>
    have hparts : (∀ d, Token.ofMarker? '"' d = none) ∧ ∀ c, Token.ofMarker? c '"' = none :=
      ⟨by simp [Token.ofMarker?], by simp [Token.ofMarker?]⟩
    rcases List.mem_cons.1 hmem with rfl | hmem
    · rw [hparts.1] at hm; cases hm
    · obtain rfl := List.mem_singleton.1 hmem
      rw [hparts.2] at hm; cases hm
  | char c =>
    obtain rfl := List.mem_singleton.1 hmem
    exact hne hquote
  | run _ _ hall => exact hne ((hall _ hmem).symm.trans hquote)

/-- Lexemes **list** attributes if they are attributes with spaces in front of each, and spaces
at the end. -/
inductive ListsAttributes : List Lexeme → List (Text × Text) → Prop
  | nil {spaces : List Lexeme} (h : ∀ l ∈ spaces, l.token = .space) : ListsAttributes spaces []
  | cons {spaces rest : List Lexeme} {items : List (Text × Text)} (spaced : SpacedAttribute)
      (h : ∀ l ∈ spaces, l.token = .space) (hrest : ListsAttributes rest items) :
      ListsAttributes (spaces ++ (spaced.lexemes ++ rest)) (spaced.item :: items)

/-- In the states between the parts of an attribute spaces are passed over. -/
theorem attributeItems_spaces {state : AttributeState}
    (hstate : ∀ key value, state ≠ .value key value) {spaces : List Lexeme}
    (h : ∀ l ∈ spaces, l.token = .space) (rest : List Lexeme) :
    attributeItems state (spaces ++ rest) = attributeItems state rest := by
  induction spaces with
  | nil => rfl
  | cons l spaces ih =>
    obtain ⟨hl, hspaces⟩ := List.forall_mem_cons.1 h
    rw [← ih hspaces, List.cons_append]
    cases state with
    | key => rw [attributeItems, if_pos hl]
    | equals key => rw [attributeItems, if_pos hl]
    | openQuote key => rw [attributeItems, if_pos hl]
    | value key value => exact absurd rfl (hstate key value)

/-- An attribute in front of lexemes is the first one that is read. -/
theorem attributeItems_spacedAttribute (spaced : SpacedAttribute) (rest : List Lexeme) :
    attributeItems .key (spaced.lexemes ++ rest) =
      (attributeItems .key rest).map (spaced.item :: ·) := by
  have hlexemes : spaced.lexemes ++ rest = ⟨.word, spaced.key⟩ :: (spaced.before ++
      ⟨.equals, ['=']⟩ :: (spaced.after ++ ⟨.quote, ['"']⟩ ::
        (spaced.value ++ ⟨.quote, ['"']⟩ :: rest))) := by
    simp [SpacedAttribute.lexemes]
  have hvalue := attributeItems_value spaced.ne_quote spaced.key [] rest
  rw [List.nil_append] at hvalue
  rw [hlexemes, attributeItems, if_neg Token.noConfusion, if_pos rfl,
    attributeItems_spaces (by simp) spaced.isSpace_before, attributeItems, if_neg (by decide),
    if_pos rfl, attributeItems_spaces (by simp) spaced.isSpace_after, attributeItems,
    if_neg (by decide), if_pos rfl, hvalue]
  rfl

/-- Lexemes are spaces, and then begin with another lexeme or end. -/
theorem exists_spaces (lexemes : List Lexeme) :
    ∃ spaces rest, (∀ l ∈ spaces, l.token = .space) ∧ lexemes = spaces ++ rest ∧
      ∀ l ∈ rest.head?, l.token ≠ .space := by
  refine ⟨lexemes.takeWhile (·.token = .space), lexemes.dropWhile (·.token = .space),
    fun l hl => by simpa using List.mem_takeWhile_imp hl,
    List.takeWhile_append_dropWhile.symm, fun l hl => ?_⟩
  have := List.head?_dropWhile_not (fun l : Lexeme => decide (l.token = .space)) lexemes
  rw [hl] at this
  simpa using this

section

variable {lexemes : List Lexeme} {key value : Text} {items : List (Text × Text)}

/-- Attributes that are read are none, or begin with a word. -/
theorem exists_of_attributeItems_key (h : attributeItems .key lexemes = .ok items) :
    (∀ l ∈ lexemes, l.token = .space) ∧ items = [] ∨
      ∃ spaces key rest, (∀ l ∈ spaces, l.token = .space) ∧
        lexemes = spaces ++ ⟨.word, key⟩ :: rest ∧
        attributeItems (.equals key) rest = .ok items := by
  obtain ⟨spaces, found, hspaces, rfl, hfound⟩ := exists_spaces lexemes
  rw [attributeItems_spaces (by simp) hspaces] at h
  cases found with
  | nil =>
    cases h
    exact .inl ⟨by simpa using hspaces, rfl⟩
  | cons l rest =>
    rw [attributeItems, if_neg (hfound l rfl)] at h
    split at h
    · rename_i hword
      obtain ⟨token, key⟩ := l
      obtain rfl : token = .word := hword
      exact .inr ⟨spaces, key, rest, hspaces, rfl, h⟩
    · cases h

/-- What is read behind a key begins with an equals sign. -/
theorem exists_of_attributeItems_equals
    (h : attributeItems (.equals key) lexemes = .ok items) :
    ∃ spaces equals rest, (∀ l ∈ spaces, l.token = .space) ∧
      lexemes = spaces ++ ⟨.equals, equals⟩ :: rest ∧
      attributeItems (.openQuote key) rest = .ok items := by
  obtain ⟨spaces, found, hspaces, rfl, hfound⟩ := exists_spaces lexemes
  rw [attributeItems_spaces (by simp) hspaces] at h
  cases found with
  | nil => cases h
  | cons l rest =>
    rw [attributeItems, if_neg (hfound l rfl)] at h
    split at h
    · rename_i hequals
      obtain ⟨token, equals⟩ := l
      obtain rfl : token = .equals := hequals
      exact ⟨spaces, equals, rest, hspaces, rfl, h⟩
    · cases h

/-- What is read behind an equals sign begins with a quote. -/
theorem exists_of_attributeItems_openQuote
    (h : attributeItems (.openQuote key) lexemes = .ok items) :
    ∃ spaces quote rest, (∀ l ∈ spaces, l.token = .space) ∧
      lexemes = spaces ++ ⟨.quote, quote⟩ :: rest ∧
      attributeItems (.value key []) rest = .ok items := by
  obtain ⟨spaces, found, hspaces, rfl, hfound⟩ := exists_spaces lexemes
  rw [attributeItems_spaces (by simp) hspaces] at h
  cases found with
  | nil => cases h
  | cons l rest =>
    rw [attributeItems, if_neg (hfound l rfl)] at h
    split at h
    · rename_i hquote
      obtain ⟨token, quote⟩ := l
      obtain rfl : token = .quote := hquote
      exact ⟨spaces, quote, rest, hspaces, rfl, h⟩
    · cases h

/-- A value that is read ends in a quote, and attributes follow it. -/
theorem exists_of_attributeItems_value
    (h : attributeItems (.value key value) lexemes = .ok items) :
    ∃ found quote rest others, (∀ l ∈ found, l.token ≠ .quote) ∧
      lexemes = found ++ ⟨.quote, quote⟩ :: rest ∧ attributeItems .key rest = .ok others ∧
        items = (key, Text.trim (value ++ Lexeme.unlex found)) :: others := by
  induction lexemes generalizing value with
  | nil => rw [attributeItems] at h; cases h
  | cons l rest ih =>
    rw [attributeItems] at h
    split at h
    · rename_i hquote
      obtain ⟨others, hothers, rfl⟩ := ParsedTemplate.map_eq_ok_iff.1 h
      obtain ⟨token, quote⟩ := l
      obtain rfl : token = .quote := hquote
      exact ⟨[], quote, rest, others, by simp, rfl, hothers, by simp⟩
    · rename_i hquote
      obtain ⟨found, quote, rest, others, hfound, rfl, hothers, rfl⟩ := ih h
      refine ⟨l :: found, quote, rest, others, List.forall_mem_cons.2 ⟨hquote, hfound⟩, rfl,
        hothers, ?_⟩
      rw [Lexeme.unlex_cons, List.append_assoc]

/-- Attributes that are read are none, or begin with a spaced attribute. -/
theorem exists_of_attributeItems (hvalid : ∀ l ∈ lexemes, l.Valid)
    (h : attributeItems .key lexemes = .ok items) :
    (∀ l ∈ lexemes, l.token = .space) ∧ items = [] ∨
      ∃ (spaces : List Lexeme) (spaced : SpacedAttribute) (rest : List Lexeme)
        (others : List (Text × Text)), (∀ l ∈ spaces, l.token = .space) ∧
        lexemes = spaces ++ (spaced.lexemes ++ rest) ∧
        attributeItems .key rest = .ok others ∧ items = spaced.item :: others := by
  rcases exists_of_attributeItems_key h with hnone | ⟨spaces, key, found, hspaces, rfl, hkey⟩
  · exact .inl hnone
  obtain ⟨before, equals, found, hbefore, rfl, hopen⟩ := exists_of_attributeItems_equals hkey
  obtain ⟨after, quote, found, hafter, rfl, hread⟩ := exists_of_attributeItems_openQuote hopen
  obtain ⟨value, close, rest, others, hvalue, rfl, hrest, rfl⟩ :=
    exists_of_attributeItems_value hread
  simp only [List.forall_mem_append, List.forall_mem_cons] at hvalid
  obtain ⟨-, -, -, hequals, -, hquote, -, hclose, -⟩ := hvalid
  have hequals : equals = ['='] := hequals.text_of_punctuation rfl
  have hquote : quote = ['"'] := hquote.text_of_punctuation rfl
  have hclose : close = ['"'] := hclose.text_of_punctuation rfl
  refine .inr ⟨spaces, ⟨key, before, after, value, hbefore, hafter, hvalue⟩, rest, others, hspaces,
    ?_, hrest, by simp [SpacedAttribute.item]⟩
  rw [hequals, hquote, hclose]
  simp [SpacedAttribute.lexemes]

/-- **The lexemes that are lists of attributes** are read as the attributes that they list. -/
theorem attributeItems_eq_ok_iff (hvalid : ∀ l ∈ lexemes, l.Valid) :
    attributeItems .key lexemes = .ok items ↔ ListsAttributes lexemes items := by
  constructor
  · intro h
    induction items generalizing lexemes with
    | nil =>
      rcases exists_of_attributeItems hvalid h with ⟨hspaces, -⟩ | ⟨_, _, _, _, -, -, -, heq⟩
      · exact .nil hspaces
      · cases heq
    | cons item items ih =>
      rcases exists_of_attributeItems hvalid h with
        ⟨-, heq⟩ | ⟨spaces, spaced, rest, others, hspaces, rfl, hrest, heq⟩
      · cases heq
      · obtain ⟨rfl, rfl⟩ := List.cons.inj heq
        simp only [List.forall_mem_append] at hvalid
        exact .cons spaced hspaces (ih hvalid.2.2 hrest)
  · intro h
    clear hvalid
    induction h with
    | @nil spaces hspaces =>
      have hend : attributeItems .key (spaces ++ []) = attributeItems .key [] :=
        attributeItems_spaces (by simp) hspaces []
      rw [← List.append_nil spaces, hend]
      rfl
    | cons spaced hspaces _ ih =>
      rw [attributeItems_spaces (by simp) hspaces, attributeItems_spacedAttribute, ih]
      rfl

end

namespace ListsAttributes

variable {lexemes more : List Lexeme} {items others : List (Text × Text)}

/-- Spaces in front of a list of attributes belong to it. -/
theorem spaces_append {spaces : List Lexeme} (hspaces : ∀ l ∈ spaces, l.token = .space)
    (h : ListsAttributes lexemes items) : ListsAttributes (spaces ++ lexemes) items := by
  cases h with
  | nil h => exact .nil (List.forall_mem_append.2 ⟨hspaces, h⟩)
  | cons spaced h hrest =>
    rw [← List.append_assoc]
    exact .cons spaced (List.forall_mem_append.2 ⟨hspaces, h⟩) hrest

/-- Lists of attributes one behind the other are a list of attributes. -/
theorem append (h : ListsAttributes lexemes items) (hmore : ListsAttributes more others) :
    ListsAttributes (lexemes ++ more) (items ++ others) := by
  induction h with
  | nil hspaces => exact hmore.spaces_append hspaces
  | cons spaced hspaces _ ih =>
    rw [List.append_assoc, List.append_assoc]
    exact .cons spaced hspaces ih

/-- A list of attributes ends in a space or a quote. -/
theorem getLast? (h : ListsAttributes lexemes items) :
    ∀ l ∈ lexemes.getLast?, l.token = .space ∨ l.token = .quote := by
  induction h with
  | nil hspaces => exact fun l hl => .inl (hspaces l (List.mem_of_getLast? hl))
  | @cons spaces rest _ spaced hspaces _ ih =>
    intro l hl
    by_cases hrest : rest = []
    · rw [hrest, List.append_nil, List.getLast?_append, spaced.getLast?_lexemes] at hl
      obtain rfl := Option.some.inj hl
      exact .inr rfl
    · rw [← List.append_assoc, List.getLast?_append_of_ne_nil _ hrest] at hl
      exact ih l hl

/-- The first attribute with a key stands between attributes with other keys and the rest. -/
theorem exists_of_lookup {key value : Text} (h : ListsAttributes lexemes items)
    (hlookup : items.lookup key = some value) :
    ∃ (earlier later : List Lexeme) (spaced : SpacedAttribute) (first last : List (Text × Text)),
      lexemes = earlier ++ (spaced.lexemes ++ later) ∧ ListsAttributes earlier first ∧
        (∀ item ∈ first, item.1 ≠ key) ∧ spaced.item = (key, value) ∧
          ListsAttributes later last := by
  induction h with
  | nil => cases hlookup
  | @cons spaces rest others spaced hspaces hrest ih =>
    rw [List.lookup_cons] at hlookup
    split at hlookup
    · rename_i hkey
      obtain rfl : key = spaced.key := eq_of_beq hkey
      obtain rfl := Option.some.inj hlookup
      exact ⟨spaces, rest, spaced, [], others, rfl, .nil hspaces, by simp, rfl, hrest⟩
    · rename_i hkey
      obtain ⟨earlier, later, found, first, last, rfl, hearlier, hfirst, hfound, hlater⟩ :=
        ih hlookup
      refine ⟨spaces ++ (spaced.lexemes ++ earlier), later, found, spaced.item :: first, last,
        by simp, .cons spaced hspaces hearlier, List.forall_mem_cons.2 ⟨?_, hfirst⟩, hfound, hlater⟩
      rintro rfl
      simp [SpacedAttribute.item] at hkey

end ListsAttributes

/-- A definition is a list of attributes if its lexemes are. -/
theorem Attributes.parse_eq_ok_iff {definition : Text} {items : List (Text × Text)} :
    Attributes.parse definition = .ok ⟨items⟩ ↔ ListsAttributes (lex definition) items := by
  rw [← attributeItems_eq_ok_iff valid_of_mem_lex, Attributes.parse, ParsedTemplate.map_eq_ok_iff]
  constructor
  · rintro ⟨items, h, heq⟩
    cases heq
    exact h
  · intro h
    exact ⟨items, h, rfl⟩

/-! ### Places of attributes -/

/-- The **place** of the first attribute with a key: the text before it, which lists attributes with
other keys, the spaces around its equals sign, and the text behind it. -/
structure AttributePlace (key : Text) where
  earlier : Text
  before : Text
  after : Text
  later : Text
  first : List (Text × Text)
  last : List (Text × Text)
  parse_earlier : Attributes.parse earlier = .ok ⟨first⟩
  ne_key : ∀ item ∈ first, item.1 ≠ key
  isSpace_before : ∀ c ∈ before, isSpace c
  isSpace_after : ∀ c ∈ after, isSpace c
  parse_later : Attributes.parse later = .ok ⟨last⟩

namespace AttributePlace

variable {key : Text}

/-- The definition with a value in the place. -/
def definition (place : AttributePlace key) (value : Text) : Text :=
  place.earlier ++ (key ++ (place.before ++ '=' ::
    (place.after ++ '"' :: (value ++ '"' :: place.later))))

/-- The definition ends in the quote behind the value, or as the text behind it does. -/
theorem getLast?_definition (place : AttributePlace key) (value : Text) :
    (place.definition value).getLast? = some (place.later.getLast?.getD '"') := by
  have hsplit : place.definition value = place.earlier ++ key ++ place.before ++ '=' ::
      place.after ++ '"' :: value ++ '"' :: place.later := by
    simp [definition]
  rw [hsplit, List.getLast?_append_of_ne_nil _ (List.cons_ne_nil _ _), List.getLast?_cons]

/-- The lexemes of the attribute with a value in the place. -/
def spaced (place : AttributePlace key) {value : Text} (hvalue : '"' ∉ value) :
    SpacedAttribute where
  key := key
  before := lex place.before
  after := lex place.after
  value := lex value
  isSpace_before := token_eq_space_of_isSpace place.isSpace_before
  isSpace_after := token_eq_space_of_isSpace place.isSpace_after
  ne_quote := token_ne_quote hvalue

/-- A list of attributes ends in a space or a quote. -/
theorem ofChar_of_parse {earlier : Text} {items : List (Text × Text)}
    (h : Attributes.parse earlier = .ok ⟨items⟩) :
    ∀ c ∈ earlier.getLast?, Token.ofChar c = .space ∨ Token.ofChar c = .quote := by
  intro c hc
  rcases List.eq_nil_or_concat (lex earlier) with hnil | ⟨before, l, hlex⟩
  · have htext := unlex_lex earlier
    rw [hnil] at htext
    rw [← htext] at hc
    cases hc
  · rw [List.concat_eq_append] at hlex
    have hl : l ∈ lex earlier := by simp [hlex]
    have hvalid : l.Valid := valid_of_mem_lex l hl
    have htext : earlier = Lexeme.unlex before ++ l.text := by
      have hunlex := unlex_lex earlier
      rw [hlex, Lexeme.unlex, List.flatMap_append] at hunlex
      rw [← hunlex]
      simp [Lexeme.unlex]
    rw [htext, List.getLast?_append_of_ne_nil _ hvalid.text_ne_nil] at hc
    rcases (Attributes.parse_eq_ok_iff.1 h).getLast? l (by simp [hlex]) with hspace | hquote
    · exact .inl ((hvalid.run_text (hspace ▸ rfl)).2 c (List.mem_of_getLast? hc) |>.trans hspace)
    · have hone : l.text = ['"'] := hvalid.text_of_punctuation (by rw [hquote]; rfl)
      rw [hone] at hc
      obtain rfl : '"' = c := by simpa using hc
      exact .inr (by decide)

/-- A key behind a list of attributes is cut on its own. -/
theorem lex_append_of_parse {earlier : Text} {items : List (Text × Text)}
    (h : Attributes.parse earlier = .ok ⟨items⟩) (hkey : IsWord key) (rest : Text) :
    lex (earlier ++ (key ++ rest)) = lex earlier ++ lex (key ++ rest) := by
  refine lex_append fun c hc d hd => ?_
  have hword : Token.ofChar d = .word := by
    obtain ⟨hne, hword⟩ := hkey
    obtain ⟨e, key, rfl⟩ := List.exists_cons_of_ne_nil hne
    obtain rfl : e = d := by simpa using hd
    exact Token.ofChar_eq_word_iff.2 (hword e List.mem_cons_self)
  refine .of_isRun_right (hword ▸ rfl) ?_
  rcases ofChar_of_parse h c hc with hspace | hquote
  · rw [hspace, hword]; decide
  · rw [hquote, hword]; decide

/-- An attribute in its place is cut on its own. -/
theorem lex_definition (place : AttributePlace key) (hkey : IsWord key) {value : Text}
    (hvalue : '"' ∉ value) :
    lex (place.definition value) =
      lex place.earlier ++ ((place.spaced hvalue).lexemes ++ lex place.later) := by
  rw [definition, lex_append_of_parse place.parse_earlier hkey,
    lex_attribute_append hkey place.isSpace_before place.isSpace_after]
  simp [SpacedAttribute.lexemes, spaced]

/-- **What is read with a value in its place**: this value, without the spaces around it, and
otherwise the same whatever the value. -/
theorem parse_definition (place : AttributePlace key) (hkey : IsWord key) {value : Text}
    (hvalue : '"' ∉ value) :
    Attributes.parse (place.definition value) =
      .ok ⟨place.first ++ (key, Text.trim value) :: place.last⟩ := by
  have hplace : ListsAttributes ((place.spaced hvalue).lexemes ++ lex place.later)
      ((place.spaced hvalue).item :: place.last) := by
    have hlater := Attributes.parse_eq_ok_iff.1 place.parse_later
    have hnone : ∀ l ∈ ([] : List Lexeme), l.token = .space := by simp
    exact .cons (place.spaced hvalue) hnone hlater
  have hitem : (place.spaced hvalue).item = (key, Text.trim value) := by
    rw [SpacedAttribute.item, spaced, unlex_lex]
  rw [Attributes.parse_eq_ok_iff, place.lex_definition hkey hvalue, ← hitem]
  exact (Attributes.parse_eq_ok_iff.1 place.parse_earlier).append hplace

end AttributePlace

/-- **Every attribute that is found has a place.** -/
theorem exists_attributePlace {definition key value : Text} {attributes : Attributes}
    (h : Attributes.parse definition = .ok attributes) (hget : attributes.get? key = some value) :
    ∃ (place : AttributePlace key) (written : Text), '"' ∉ written ∧
      place.definition written = definition ∧ Text.trim written = value := by
  obtain ⟨items⟩ := attributes
  have hlookup : items.lookup key = some value := by
    rw [Attributes.get?] at hget
    split at hget
    · cases hget
    · exact hget
  obtain ⟨earlier, later, spaced, first, last, hlex, hearlier, hfirst, hitem, hlater⟩ :=
    (Attributes.parse_eq_ok_iff.1 h).exists_of_lookup hlookup
  obtain ⟨key, before, after, found, hbefore, hafter, hfound⟩ := spaced
  obtain ⟨rfl, rfl⟩ := Prod.mk.inj hitem
  have hvalid : ∀ l ∈ lex definition, l.Valid := valid_of_mem_lex
  simp only [hlex, SpacedAttribute.lexemes, List.forall_mem_append, List.forall_mem_cons] at hvalid
  obtain ⟨-, ⟨-, hvbefore, -, hvafter, -, hvfound, -⟩, -⟩ := hvalid
  have hcut := lex_unlex_of_append hlex
  have hcutLater : lex (Lexeme.unlex later) = later := (lex_unlex_of_append hcut.2).2
  refine ⟨⟨Lexeme.unlex earlier, Lexeme.unlex before, Lexeme.unlex after, Lexeme.unlex later, first,
      last, Attributes.parse_eq_ok_iff.2 (hcut.1.symm ▸ hearlier), hfirst,
      Lexeme.isSpace_of_mem_unlex hvbefore hbefore, Lexeme.isSpace_of_mem_unlex hvafter hafter,
      Attributes.parse_eq_ok_iff.2 (hcutLater.symm ▸ hlater)⟩,
    Lexeme.unlex found, ?_, ?_, rfl⟩
  · intro hmem
    obtain ⟨l, hl, hmem⟩ := List.mem_flatMap.1 hmem
    exact (hvfound l hl).quote_notMem (hfound l hl) hmem
  · rw [← unlex_lex definition, hlex]
    simp [AttributePlace.definition, SpacedAttribute.lexemes, Lexeme.unlex]

end BoundReport
