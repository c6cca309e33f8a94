import BoundReport.Toml.Scalar

/-!
# Reading TOML

A document is a sequence of lines: headers `[key]` and `[[key]]`, and pairs `key = value`. While
it is read, the document is a tree that remembers how each of its tables came about, because
that decides who may add to it.

* A table **implied** by a longer header may still get a header of its own, or be passed by a
  dotted key.
* A table made or passed by a **dotted** key of a pair grows by further dotted keys only, and by
  headers of tables below it.
* A table **defined** by a header grows by the pairs below that header, and by headers of tables
  below it.
* A value, an inline table or array included, never changes.
-/

namespace BoundReport.Toml

/-- How a table came about. -/
inductive TableOrigin
  | implied
  | dotted
  | defined
  deriving DecidableEq

/-- A part of the tree of a document that is being read. -/
inductive Entry
  | value (value : Toml)
  | table (origin : TableOrigin) (members : List (Text × Entry))
  /-- The tables of headers in double brackets: those before the last one, and the last one,
  which may still grow. -/
  | tables (earlier : List (List (Text × Entry))) (last : List (Text × Entry))

/-- The members of a table that is being read. -/
abbrev Members := List (Text × Entry)

/-- Changes the entry under a key; a new key goes to the end. -/
def alter (key : Text) (change : Option Entry → Option Entry) : Members → Option Members
  | [] => (change none).map fun entry => [(key, entry)]
  | (other, entry) :: rest =>
    if other = key then (change (some entry)).map fun entry => (other, entry) :: rest
    else (alter key change rest).map ((other, entry) :: ·)

/-- Changes the table at the end of a path, and makes the tables that are missing on the way.
The path is that of a dotted key or of a header. -/
def changeTable (dotted : Bool) (change : TableOrigin → Members → Option Members) :
    List Text → TableOrigin → Members → Option Members
  | [], origin, members => change origin members
  | key :: path, _, members =>
    alter key (fun
      | none =>
        let origin := if dotted then .dotted else .implied
        (changeTable dotted change path origin []).map (.table origin)
      | some (.table origin inner) =>
        if dotted ∧ origin = .defined then none
        else
          let origin := if dotted then .dotted else origin
          (changeTable dotted change path origin inner).map (.table origin)
      | some (.tables earlier last) =>
        (changeTable dotted change path .defined last).map (.tables earlier)
      | some (.value _) => none) members

/-- The members with one more value. -/
def addValue (key : Text) (value : Toml) (members : Members) : Option Members :=
  alter key (fun | none => some (.value value) | some _ => none) members

/-- The members of a table with the value of a pair added. -/
def addPair (key : List Text) (value : Toml) (members : Members) : Option Members := do
  let last ← key.getLast?
  let path := key.dropLast
  changeTable true (fun origin inner =>
    if path ≠ [] ∧ origin ≠ .dotted then none else addValue last value inner)
    path .defined members

/-- The document with the table of a header. -/
def addHeader (key : List Text) (root : Members) : Option Members := do
  let last ← key.getLast?
  changeTable false (fun _ inner =>
    alter last (fun
      | none => some (.table .defined [])
      | some (.table .implied members) => some (.table .defined members)
      | some _ => none) inner)
    key.dropLast .defined root

/-- The document with one more table of a header in double brackets. -/
def addArrayHeader (key : List Text) (root : Members) : Option Members := do
  let last ← key.getLast?
  changeTable false (fun _ inner =>
    alter last (fun
      | none => some (.tables [] [])
      | some (.tables earlier members) => some (.tables (earlier ++ [members]) [])
      | some _ => none) inner)
    key.dropLast .defined root

mutual

/-- The value of an entry that is complete. -/
def Entry.toToml : Entry → Toml
  | .value value => value
  | .table _ members => .table (sortMembers members)
  | .tables earlier last => .array (tablesToToml earlier ++ [.table (sortMembers last)])

/-- The members of a table that is complete, in the order of their keys. -/
def sortMembers : List (Text × Entry) → List (Text × Toml)
  | [] => []
  | (key, entry) :: rest => insertKey key entry.toToml (sortMembers rest)

/-- The values of complete tables. -/
def tablesToToml : List (List (Text × Entry)) → List Toml
  | [] => []
  | members :: rest => .table (sortMembers members) :: tablesToToml rest

end

/-! ### Values -/

mutual

/-- Reads a value. -/
def readValue? : (fuel depth : Nat) → Text → Option (Toml × Text)
  | 0, _, _ => none
  | fuel + 1, depth, t =>
    match t with
    | '"' :: '"' :: '"' :: rest =>
      (readMultiline? false (dropLineEnd rest)).map fun (text, rest) => (.string text, rest)
    | '\'' :: '\'' :: '\'' :: rest =>
      (readMultilineLiteral? (dropLineEnd rest)).map fun (text, rest) => (.string text, rest)
    | '"' :: rest => (readBasic? rest).map fun (text, rest) => (.string text, rest)
    | '\'' :: rest => (readLiteral? rest).map fun (text, rest) => (.string text, rest)
    | '[' :: rest =>
      if depth = 0 then none
      else (readItems? fuel (depth - 1) rest).map fun (items, rest) => (.array items, rest)
    | '{' :: rest =>
      if depth = 0 then none
      else
        (readPairs? fuel (depth - 1) [] rest).map fun (members, rest) =>
          (.table (sortMembers members), rest)
    | _ => readScalar? t

/-- Reads the rest of an array up to its closing bracket. A comma may stand after the last
item. -/
def readItems? : (fuel depth : Nat) → Text → Option (List Toml × Text)
  | 0, _, _ => none
  | fuel + 1, depth, t =>
    match skipLines (t.length + 1) t with
    | ']' :: rest => some ([], rest)
    | start => do
      let (item, rest) ← readValue? fuel depth start
      match skipLines (rest.length + 1) rest with
      | ',' :: rest =>
        let (items, rest) ← readItems? fuel depth rest
        return (item :: items, rest)
      | ']' :: rest => return ([item], rest)
      | _ => none

/-- Reads the rest of an inline table up to its closing brace, adding to the members that have
been read. -/
def readPairs? : (fuel depth : Nat) → Members → Text → Option (Members × Text)
  | 0, _, _, _ => none
  | fuel + 1, depth, members, t =>
    match skipLines (t.length + 1) t with
    | '}' :: rest => some (members, rest)
    | start => do
      let (key, rest) ← readKey? start
      match skipBlanks rest with
      | '=' :: rest =>
        let (value, rest) ← readValue? fuel depth (skipBlanks rest)
        let members ← addPair key value members
        match skipLines (rest.length + 1) rest with
        | ',' :: rest => readPairs? fuel depth members rest
        | '}' :: rest => return (members, rest)
        | _ => none
      | _ => none

end

/-! ### Documents -/

/-- Reads the rest of a document. `current` is the path of the last header. -/
def readDocument? : (fuel : Nat) → (current : List Text) → Members → Text → Option Members
  | 0, _, _, _ => none
  | fuel + 1, current, root, t =>
    match skipLines (t.length + 1) t with
    | [] => some root
    | '[' :: '[' :: rest => do
      let (key, rest) ← readKey? rest
      match rest with
      | ']' :: ']' :: rest =>
        let root ← addArrayHeader key root
        readDocument? fuel key root (← endLine? rest)
      | _ => none
    | '[' :: rest => do
      let (key, rest) ← readKey? rest
      match rest with
      | ']' :: rest =>
        let root ← addHeader key root
        readDocument? fuel key root (← endLine? rest)
      | _ => none
    | start => do
      let (key, rest) ← readKey? start
      match rest with
      | '=' :: rest =>
        let (value, rest) ← readValue? (2 * rest.length + 2) maxDepth (skipBlanks rest)
        let root ← changeTable false (fun _ members => addPair key value members)
          current .defined root
        readDocument? fuel current root (← endLine? rest)
      | _ => none

/-- Reads a text as a TOML document. -/
def parse? (t : Text) : Option Toml :=
  let body := match t with
    | '\ufeff' :: rest => rest
    | _ => t
  (readDocument? (body.length + 1) [] [] body).map fun members => .table (sortMembers members)

end BoundReport.Toml
