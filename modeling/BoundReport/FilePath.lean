import BoundReport.Text

/-!
# File paths

A path is a text in which slashes separate names. Nothing is normalised when paths are joined,
so a path is shown as it was put together. Read as a walk through directories, a path has
**steps**: repeated slashes and dots count for nothing, except for a slash or a dot at the
very start.
-/

namespace BoundReport.FilePath

/-- A step of a walk along a path. -/
inductive Step
  | root
  | current
  | parent
  | name (name : Text)
  deriving DecidableEq, Repr

/-- Whether a path starts at the root. -/
def isAbsolute (path : Text) : Bool := path.head? == some '/'

/-- `right` as seen from `left`. An absolute `right` is taken as it is. -/
def join (left right : Text) : Text :=
  if isAbsolute right then right
  else if left = [] ∨ left.getLast? = some '/' then left ++ right
  else left ++ '/' :: right

/-- The steps that the segments between slashes make, each with the segments after it.
`first` holds at the start of a relative path, where a dot is a step. -/
def stepsOfSegments (first : Bool) : List Text → List (Step × List Text)
  | [] => []
  | segment :: rest =>
    if segment = [] then stepsOfSegments false rest
    else if segment = ['.'] then
      if first then (.current, rest) :: stepsOfSegments false rest
      else stepsOfSegments false rest
    else if segment = ['.', '.'] then (.parent, rest) :: stepsOfSegments false rest
    else (.name segment, rest) :: stepsOfSegments false rest

/-- The steps of a path, each with the segments after it. -/
def stepsWithRest (path : Text) : List (Step × List Text) :=
  let segments := Text.splitOn '/' path
  if isAbsolute path then (.root, segments.drop 1) :: stepsOfSegments false (segments.drop 1)
  else stepsOfSegments true segments

/-- The steps of a path. -/
def steps (path : Text) : List Step := (stepsWithRest path).map (·.1)

/-- The path up to its last step but one, which is where the last step is taken from; none if
there is at most one step. -/
def parent? (path : Text) : Option Text :=
  (stepsWithRest path).dropLast.getLast?.map fun (step, rest) =>
    match step with
    | .root => ['/']
    | _ => path.take (path.length - (rest.map fun segment => segment.length + 1).foldl (· + ·) 0)

/-- Whether the last name between the slashes of a path is a dot. -/
def endsInDot (path : Text) : Bool :=
  ((Text.splitOn '/' path).filter fun segment => segment ≠ []).getLast? == some ['.']

/-- The name of the file or directory that a path leads to, unless it leads to the root or ends
with a dot step. -/
def fileName? (path : Text) : Option Text :=
  match (steps path).getLast? with
  | some (.name name) => some name
  | _ => none

/-- A name cut at its last dot, if that is not its first character. -/
def splitAtDot (name : Text) : Text × Option Text :=
  let after := (name.reverse.takeWhile (· ≠ '.')).reverse
  let before := (name.reverse.dropWhile (· ≠ '.')).drop 1
  if before = [] then (name, none) else (before.reverse, some after)

/-- The name that a path leads to without its extension. -/
def stem? (path : Text) : Option Text := (fileName? path).map fun name => (splitAtDot name).1

/-- The extension of the name that a path leads to: what follows its last dot. -/
def extension? (path : Text) : Option Text := (fileName? path).bind fun name => (splitAtDot name).2

/-- Whether a segment between slashes counts for nothing. -/
def isVoid (segment : Text) : Bool := segment == [] || segment == ['.']

/-- Segments joined by slashes, without void segments at either end. -/
def ofSegments (segments : List Text) : Text :=
  let trimmed := ((segments.dropWhile isVoid).reverse.dropWhile isVoid).reverse
  (trimmed.intersperse ['/']).flatten

/-- What is left of a path after the steps of another one, if these are its first steps. -/
def stripPrefix? (path base : Text) : Option Text :=
  let walk := stepsWithRest path
  let start := steps base
  if start.isPrefixOf (walk.map (·.1)) then
    match (walk.take start.length).getLast? with
    | some (_, rest) => some (ofSegments rest)
    | none => some path
  else none

/-- A path as seen from a base, or the path itself if it does not begin with the base. -/
def relativeTo (path base : Text) : Text := (stripPrefix? path base).getD path

end BoundReport.FilePath
