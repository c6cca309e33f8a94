import BoundReport.Text
import BoundReport.Decimal.Double

/-!
# JSON values

The cells of a row are JSON values. The members of an object are kept in ascending order of
their keys, each key once.
-/

namespace BoundReport

/-- Puts a pair into a list of pairs in ascending order of their keys, in place of a pair with
the same key if there is one. -/
def insertKey {α : Type} (key : Text) (value : α) : List (Text × α) → List (Text × α)
  | [] => [(key, value)]
  | (other, old) :: rest =>
    if Text.precedes key other then (key, value) :: (other, old) :: rest
    else if key = other then (key, value) :: rest
    else (other, old) :: insertKey key value rest

/-- A JSON value. Numbers are integers or doubles. -/
inductive Json
  | null
  | bool (value : Bool)
  | int (value : Int)
  | float (value : Double)
  | string (value : Text)
  | array (items : List Json)
  | object (members : List (Text × Json))

namespace Json

instance : Inhabited Json := ⟨.null⟩

/-- The object with these members; of several members with one key the last one counts. -/
def ofMembers (members : List (Text × Json)) : Json :=
  .object (members.foldl (fun sorted (key, value) => insertKey key value sorted) [])

/-- The member of an object with this key. -/
def get? (value : Json) (key : Text) : Option Json :=
  match value with
  | .object members => members.lookup key
  | _ => none

end Json

end BoundReport
