import BoundReport.Proofs.Envelope

/-!
# Written Attributes and Declarations

A list of attributes is written with one space between any two, and a declaration as its
keyword and its definition between statement markers. A value may hold anything but a quote,
markers and equals signs included: between its quotes nothing else is looked at, and the
declaration ends at the last marker of its line.

## Main results

* `Attributes.parse_writeAttributes`: written attributes are read as themselves.
* `declaration?_writeDeclaration`: a written declaration has its keyword and its definition.
-/

namespace BoundReport

/-! ### Attributes -/

/-- An attribute as it is written: `key="value"`. -/
def writeAttribute (item : Text × Text) : Text :=
  item.1 ++ '=' :: '"' :: (item.2 ++ ['"'])

/-- Attributes as they are written, with a space in front of every one but the first. -/
def writeAttributes : List (Text × Text) → Text
  | [] => []
  | first :: rest =>
    writeAttribute first ++ rest.flatMap fun item => ' ' :: writeAttribute item

/-- The lexemes of a written attribute. -/
def attributeLexemes (item : Text × Text) : List Lexeme :=
  ⟨.word, item.1⟩ :: ⟨.equals, ['=']⟩ :: ⟨.quote, ['"']⟩ ::
    (lex item.2 ++ [⟨.quote, ['"']⟩])

/-- An attribute can be **written** if its key is a word and its value has no quote and no space
at its ends. -/
structure IsAttribute (item : Text × Text) : Prop where
  key : IsWord item.1
  trim_eq : Text.trim item.2 = item.2
  quote : '"' ∉ item.2

/-- A text without quotes has no quote lexemes. -/
theorem token_ne_quote {text : Text} (h : '"' ∉ text) : ∀ l ∈ lex text, l.token ≠ .quote := by
  intro l hl hquote
  have htext : l.text = ['"'] :=
    (valid_of_mem_lex l hl).text_of_punctuation (by rw [hquote]; rfl)
  have hmem : '"' ∈ Lexeme.unlex (lex text) :=
    List.mem_flatMap.2 ⟨l, hl, htext ▸ List.mem_singleton_self _⟩
  rw [unlex_lex] at hmem
  exact h hmem

/-- An equals sign is a lexeme of its own wherever it stands. -/
theorem lex_equals (rest : Text) : lex ('=' :: rest) = ⟨.equals, ['=']⟩ :: lex rest := by
  cases rest with
  | nil => rfl
  | cons d rest =>
    exact lex_cons_of_parts ⟨by simp [Token.ofMarker?], fun hrun => absurd hrun (by decide)⟩

/-- **An attribute in front of a text is cut on its own**, and so is each of its parts. -/
theorem lex_attribute_append {key before after : Text} (hkey : IsWord key)
    (hbefore : ∀ c ∈ before, isSpace c) (hafter : ∀ c ∈ after, isSpace c) (value rest : Text) :
    lex (key ++ (before ++ '=' :: (after ++ '"' :: (value ++ '"' :: rest)))) =
      ⟨.word, key⟩ :: (lex before ++ ⟨.equals, ['=']⟩ :: (lex after ++
        ⟨.quote, ['"']⟩ :: (lex value ++ ⟨.quote, ['"']⟩ :: lex rest))) := by
  have hword (rest : Text) : ∀ d ∈ (before ++ '=' :: rest).head?, isWordChar d = false := by
    intro d hd
    cases before with
    | nil =>
      obtain rfl : '=' = d := by simpa using hd
      decide
    | cons c before =>
      obtain rfl : c = d := by simpa using hd
      rw [Bool.eq_false_iff]
      intro hword
      have hspace := hbefore c List.mem_cons_self
      rw [isSpace_eq_false_of_isWordChar hword] at hspace
      cases hspace
  have hquote (rest : Text) : lex ('"' :: rest) = ⟨.quote, ['"']⟩ :: lex rest :=
    lex_append_quote [] rest
  rw [hkey.lex_append (hword _), lex_append_of_isSpace hbefore (by simp; decide), lex_equals,
    lex_append_of_isSpace hafter (by simp; decide), hquote, lex_append_quote]

/-- A written attribute in front of a text is cut into its own lexemes. -/
theorem lex_writeAttribute_append {item : Text × Text} (h : IsWord item.1)
    (rest : Text) :
    lex (writeAttribute item ++ rest) = attributeLexemes item ++ lex rest := by
  have hnone : ∀ c ∈ ([] : Text), isSpace c := List.forall_mem_nil _
  have hlex := lex_attribute_append h hnone hnone item.2 rest
  simpa [writeAttribute, attributeLexemes, lex] using hlex

/-- Spaces between attributes are passed over. -/
theorem attributeItems_space (space : Text) (rest : List Lexeme) :
    attributeItems .key (⟨.space, space⟩ :: rest) = attributeItems .key rest := by
  rw [attributeItems, if_pos rfl]

/-- A value is read up to its closing quote. -/
theorem attributeItems_value {lexemes : List Lexeme} (h : ∀ l ∈ lexemes, l.token ≠ .quote)
    (key value : Text) (rest : List Lexeme) :
    attributeItems (.value key value) (lexemes ++ ⟨.quote, ['"']⟩ :: rest) =
      (attributeItems .key rest).map ((key, Text.trim (value ++ Lexeme.unlex lexemes)) :: ·) := by
  induction lexemes generalizing value with
  | nil => rw [List.nil_append, attributeItems, if_pos rfl, Lexeme.unlex_nil, List.append_nil]
  | cons l lexemes ih =>
    obtain ⟨hl, hlexemes⟩ := List.forall_mem_cons.1 h
    rw [List.cons_append, attributeItems, if_neg hl, ih hlexemes, Lexeme.unlex_cons,
      List.append_assoc]

/-- A written attribute is the first one that is read. -/
theorem attributeItems_attributeLexemes {item : Text × Text} (h : IsAttribute item)
    (rest : List Lexeme) :
    attributeItems .key (attributeLexemes item ++ rest) =
      (attributeItems .key rest).map (item :: ·) := by
  have hvalue := attributeItems_value (token_ne_quote h.quote) item.1 [] rest
  rw [List.nil_append, unlex_lex, h.trim_eq] at hvalue
  rw [← hvalue]
  simp [attributeLexemes, attributeItems]

/-- A word begins a text with a character that is no space. -/
theorem IsWord.lex_space_append {key : Text} (h : IsWord key) (rest : Text) :
    lex (' ' :: (key ++ rest)) = ⟨.space, [' ']⟩ :: lex (key ++ rest) :=
  have hspace : IsSpaces [' '] := by decide
  hspace.lex_append h.head_append

/-- Attributes behind others are read in order. -/
theorem attributeItems_lex_flatMap {items : List (Text × Text)}
    (h : ∀ item ∈ items, IsAttribute item) :
    attributeItems .key
        (lex (items.flatMap fun item => ' ' :: writeAttribute item)) =
      .ok items := by
  induction items with
  | nil => rfl
  | cons item rest ih =>
    obtain ⟨hfirst, hrest⟩ := List.forall_mem_cons.1 h
    have hspace (t : Text) : lex (' ' :: (writeAttribute item ++ t)) =
        ⟨.space, [' ']⟩ :: lex (writeAttribute item ++ t) := by
      rw [writeAttribute, List.append_assoc]
      exact hfirst.key.lex_space_append _
    rw [List.flatMap_cons, List.cons_append, hspace, attributeItems_space,
      lex_writeAttribute_append hfirst.key, attributeItems_attributeLexemes hfirst, ih hrest]
    rfl

/-- **Written attributes are read as themselves**, in their order. -/
theorem Attributes.parse_writeAttributes {items : List (Text × Text)}
    (h : ∀ item ∈ items, IsAttribute item) :
    Attributes.parse (writeAttributes items) = .ok ⟨items⟩ := by
  cases items with
  | nil => rfl
  | cons first rest =>
    obtain ⟨hfirst, hrest⟩ := List.forall_mem_cons.1 h
    rw [Attributes.parse, writeAttributes, lex_writeAttribute_append hfirst.key,
      attributeItems_attributeLexemes hfirst, attributeItems_lex_flatMap hrest]
    rfl

/-! ### Declarations -/

/-- A declaration as it is written, on a line of its own. -/
def writeDeclaration (kind : DeclarationKind) (definition : Text) : Text :=
  ['{', '%', ' '] ++ kind.keyword ++ ' ' :: (definition ++ [' ', '%', '}'])

/-- The envelope of a written declaration, with one space wherever there has to be one. -/
def Envelope.plain : Envelope :=
  ⟨[], [' '], [' '], [' '], [], by simp, by decide, by decide, by decide, by simp⟩

theorem writeDeclaration_eq_line (kind : DeclarationKind) (definition : Text) :
    writeDeclaration kind definition = Envelope.plain.line kind.keyword definition := by
  simp [writeDeclaration, Envelope.line, Envelope.plain]

/-- A keyword is a word. -/
theorem DeclarationKind.isWord_keyword (kind : DeclarationKind) : IsWord kind.keyword := by
  cases kind <;> decide +kernel

/-- **A written declaration has its keyword and its definition**, and no other keyword. -/
theorem declaration?_writeDeclaration (kind : DeclarationKind) (keyword : Text)
    {definition : Text} (h : IsField definition) :
    declaration? keyword (lex (writeDeclaration kind definition)) =
      if kind.keyword = keyword then some definition else none := by
  rw [writeDeclaration_eq_line]
  exact Envelope.plain.declaration?_line kind.isWord_keyword h keyword

end BoundReport
