import BoundReport.Yaml.Scalar

/-!
# Tokens of YAML

The indentation of a YAML text is made explicit by tokens that begin and end block collections.
That a scalar is a key is only known at the colon after it; the tokens that precede a key are
then inserted before the scalar. A scalar that may still turn out to be a key is a **candidate**;
it has to be followed by its colon on the same line, after at most 1024 bytes.
-/

namespace BoundReport.Yaml

/-- The parts of a YAML text. -/
inductive Token
  | blockSequenceStart
  | blockMappingStart
  | blockEnd
  | flowSequenceStart
  | flowSequenceEnd
  | flowMappingStart
  | flowMappingEnd
  | blockEntry
  | flowEntry
  | key
  | value
  | alias (name : Text)
  | anchor (name : Text)
  | scalar (plain : Bool) (text : Text)
  | documentStart
  | documentEnd
  deriving DecidableEq

/-- A token that may turn out to begin a key. -/
structure Candidate where
  /-- The number of tokens before it. -/
  place : Nat
  line : Nat
  column : Nat
  index : Nat
  /-- Whether nothing but a key can stand there. -/
  required : Bool

/-- A text of which a part has been cut into tokens. -/
structure Scanner where
  cursor : Cursor
  tokens : List Token
  /-- The column of the innermost block collection; negative outside of all of them. -/
  indent : Int
  /-- The columns of the block collections around that one. -/
  outer : List Int
  /-- Whether a key may begin here. -/
  keyAllowed : Bool
  /-- The candidate at the present level. -/
  candidate : Option Candidate
  /-- The candidates at the levels around the present flow collection, one for each. -/
  suspended : List (Option Candidate)

namespace Scanner

/-- The scanner at the start of a text. -/
def start (t : Text) : Scanner := ⟨.start t, [], -1, [], true, none, []⟩

/-- Whether the scanner is inside a flow collection. -/
def inFlow (s : Scanner) : Bool := !s.suspended.isEmpty

/-- Adds a token. -/
def emit (token : Token) (s : Scanner) : Scanner := { s with tokens := s.tokens ++ [token] }

/-- Forgets the candidate, unless it has to be a key. -/
def dropCandidate? (s : Scanner) : Option Scanner :=
  match s.candidate with
  | some c => if c.required then none else some { s with candidate := none }
  | none => some s

/-- Whether a candidate is too far back to be a key. -/
def isStale (cursor : Cursor) (c : Candidate) : Bool :=
  c.line < cursor.line || c.index + 1024 < cursor.index

/-- Forgets the candidates that are too far back. -/
def dropStale? (s : Scanner) : Option Scanner := do
  let check : Option Candidate → Option (Option Candidate)
    | some c =>
      if isStale s.cursor c then (if c.required then none else some none) else some (some c)
    | none => some none
  let candidate ← check s.candidate
  let suspended ← s.suspended.mapM check
  return { s with candidate := candidate, suspended := suspended }

/-- Makes the next token a candidate, if a key may begin here. -/
def nominate? (s : Scanner) : Option Scanner :=
  if s.keyAllowed then do
    let s ← s.dropCandidate?
    let cursor := s.cursor
    return { s with candidate := some ⟨s.tokens.length, cursor.line, cursor.column, cursor.index,
      !s.inFlow && s.indent == cursor.column⟩ }
  else some s

/-- Begins a block collection at a column, if this is to the right of the present one. Its first
token goes to `place`. -/
def indentTo (column : Nat) (token : Token) (place : Nat) (s : Scanner) : Scanner :=
  if !s.inFlow && s.indent < column then
    { s with
      tokens := s.tokens.take place ++ token :: s.tokens.drop place
      indent := column
      outer := s.indent :: s.outer }
  else s

/-- Ends the block collections to the right of a column. -/
def dedentTo (column : Int) (s : Scanner) : Scanner :=
  if s.inFlow then s
  else
    let open_ := (s.indent :: s.outer).takeWhile (column < ·)
    match (s.indent :: s.outer).drop open_.length with
    | [] => s
    | indent :: outer =>
      { s with
        tokens := s.tokens ++ List.replicate open_.length .blockEnd
        indent := indent
        outer := outer }

/-- Skips blanks, comments and line ends. Where a key may begin, a tab is no blank. A byte order
mark may begin a line, and takes up its first column. -/
def skipToToken (fuel : Nat) (s : Scanner) : Scanner :=
  match fuel with
  | 0 => s
  | fuel + 1 =>
    let tabs := s.inFlow || !s.keyAllowed
    let cursor := if s.cursor.column = 0 ∧ s.cursor.isAt '\ufeff' then s.cursor.skip 1 else s.cursor
    let cursor := cursor.skipWhile fun c => c == ' ' || (tabs && c == '\t')
    let cursor := if cursor.isAt '#' then cursor.skipWhile fun c => !isBreak c else cursor
    if cursor.isAtBreak then
      skipToToken fuel
        { s with cursor := cursor.next, keyAllowed := s.keyAllowed || !s.inFlow }
    else { s with cursor := cursor }

/-! ### Tokens by their first character -/

/-- A mark that begins or ends a document. -/
def fetchBorder? (token : Token) (s : Scanner) : Option Scanner := do
  let s ← (s.dedentTo (-1)).dropCandidate?
  return { s with cursor := s.cursor.skip 3, keyAllowed := false }.emit token

/-- An opening bracket. -/
def fetchFlowStart? (token : Token) (s : Scanner) : Option Scanner := do
  let s ← s.nominate?
  return { s with
    cursor := s.cursor.skip 1
    keyAllowed := true
    candidate := none
    suspended := s.candidate :: s.suspended }.emit token

/-- A closing bracket. -/
def fetchFlowEnd? (token : Token) (s : Scanner) : Option Scanner := do
  let s ← s.dropCandidate?
  let s := match s.suspended with
    | candidate :: suspended => { s with candidate := candidate, suspended := suspended }
    | [] => s
  return { s with cursor := s.cursor.skip 1, keyAllowed := false }.emit token

/-- A comma between the items of a flow collection. -/
def fetchFlowEntry? (s : Scanner) : Option Scanner := do
  let s ← s.dropCandidate?
  return { s with cursor := s.cursor.skip 1, keyAllowed := true }.emit .flowEntry

/-- A dash before an item of a block sequence. -/
def fetchBlockEntry? (s : Scanner) : Option Scanner := do
  if !s.inFlow && !s.keyAllowed then none
  let s := s.indentTo s.cursor.column .blockSequenceStart s.tokens.length
  let s ← s.dropCandidate?
  return { s with cursor := s.cursor.skip 1, keyAllowed := true }.emit .blockEntry

/-- A question mark before a key. -/
def fetchKey? (s : Scanner) : Option Scanner := do
  if !s.inFlow && !s.keyAllowed then none
  let s := s.indentTo s.cursor.column .blockMappingStart s.tokens.length
  let s ← s.dropCandidate?
  return { s with cursor := s.cursor.skip 1, keyAllowed := !s.inFlow }.emit .key

/-- A colon before a value. -/
def fetchValue? (s : Scanner) : Option Scanner :=
  match s.candidate with
  | some c =>
    let s := { s with tokens := s.tokens.take c.place ++ Token.key :: s.tokens.drop c.place }
    let s := s.indentTo c.column .blockMappingStart c.place
    some ({ s with
      cursor := s.cursor.skip 1, keyAllowed := false, candidate := none }.emit .value)
  | none =>
    if !s.inFlow && !s.keyAllowed then none
    else
      let s := s.indentTo s.cursor.column .blockMappingStart s.tokens.length
      some ({ s with cursor := s.cursor.skip 1, keyAllowed := !s.inFlow }.emit .value)

/-- The name of an anchor or of an alias, after its mark. -/
def fetchName? (token : Text → Token) (s : Scanner) : Option Scanner := do
  let s ← s.nominate?
  let cursor := s.cursor.skip 1
  let name := cursor.rest.takeWhile fun c => c.isAlphanum || c == '_' || c == '-'
  let cursor := cursor.skip name.length
  let ends := beginsBlank cursor.rest ||
    (cursor.rest.head?.map fun c => "?:,]\x7d%@`".toList.contains c).getD false
  if name = [] || !ends then none
  else return { s with cursor := cursor, keyAllowed := false }.emit (token name)

/-- A scalar as a block of lines. -/
def fetchBlock? (literal : Bool) (s : Scanner) : Option Scanner := do
  let s ← s.dropCandidate?
  let (text, cursor) ← readBlock? literal s.indent (s.cursor.skip 1)
  return { s with cursor := cursor, keyAllowed := true }.emit (.scalar false text)

/-- A scalar between quotes. -/
def fetchQuoted? (quote : Char) (s : Scanner) : Option Scanner := do
  let s ← s.nominate?
  let (text, cursor) ← readQuoted? quote (s.cursor.rest.length + 1) [] (s.cursor.skip 1)
  return { s with cursor := cursor, keyAllowed := false }.emit (.scalar false text)

/-- A plain scalar. A key may follow it on the next line. -/
def fetchPlain? (s : Scanner) : Option Scanner := do
  let s ← s.nominate?
  let (text, endsLine, cursor) ←
    readPlain? s.inFlow (s.indent + 1) (s.cursor.rest.length + 1) [] ⟨[], []⟩ s.cursor
  return { s with cursor := cursor, keyAllowed := endsLine }.emit (.scalar true text)

/-- Whether no plain scalar begins with this character. -/
def isIndicator (c : Char) : Bool :=
  "-?:,[]\x7b\x7d#&*!|>'\"%@`".toList.contains c

/-- Cuts off the next token, or tells that there is none. -/
def fetch? (s : Scanner) : Option (Scanner × Bool) := do
  let s ← (skipToToken (s.cursor.rest.length + 1) s).dropStale?
  let s := s.dedentTo s.cursor.column
  match s.cursor.rest with
  | [] =>
    let s ← (s.dedentTo (-1)).dropCandidate?
    return (s, false)
  | c :: rest =>
    let more (next : Option Scanner) : Option (Scanner × Bool) := next.map fun s => (s, true)
    if s.cursor.column = 0 ∧ c = '%' then none
    else if s.cursor.isAtMarker "---" then more (s.fetchBorder? .documentStart)
    else if s.cursor.isAtMarker "..." then more (s.fetchBorder? .documentEnd)
    else if c = '[' then more (s.fetchFlowStart? .flowSequenceStart)
    else if c = '{' then more (s.fetchFlowStart? .flowMappingStart)
    else if c = ']' then more (s.fetchFlowEnd? .flowSequenceEnd)
    else if c = '}' then more (s.fetchFlowEnd? .flowMappingEnd)
    else if c = ',' then more s.fetchFlowEntry?
    else if c = '-' ∧ beginsBlank rest then more s.fetchBlockEntry?
    else if c = '?' ∧ (s.inFlow ∨ beginsBlank rest) then more s.fetchKey?
    else if c = ':' ∧ (s.inFlow ∨ beginsBlank rest) then more s.fetchValue?
    else if c = '*' then more (s.fetchName? .alias)
    else if c = '&' then more (s.fetchName? .anchor)
    else if c = '|' ∧ !s.inFlow then more (s.fetchBlock? true)
    else if c = '>' ∧ !s.inFlow then more (s.fetchBlock? false)
    else if c = '\'' ∨ c = '"' then more (s.fetchQuoted? c)
    else if (!isIndicator c && !isBlank c) || (c == '-' && !beginsBlank rest) ||
        (!s.inFlow && (c == '?' || c == ':') && !beginsBlank rest) then more s.fetchPlain?
    else none

/-- Cuts the rest of a text into tokens. -/
def run? (fuel : Nat) (s : Scanner) : Option (List Token) :=
  match fuel with
  | 0 => none
  | fuel + 1 => do
    let (s, more) ← s.fetch?
    if more then run? fuel s else return s.tokens

end Scanner

/-- Cuts a text into tokens. -/
def tokens? (t : Text) : Option (List Token) := (Scanner.start t).run? (t.length + 2)

end BoundReport.Yaml
