import BoundReport.Text

/-!
# Faulty definitions

The reasons for which the attributes of a declaration do not define anything.
-/

namespace BoundReport

/-- Where a list of attributes stops being one. -/
inductive AttributeFault
  /-- Something other than a name stands where an attribute begins. -/
  | noName (found : Text)
  | noEquals (key : Text)
  | noQuote (key : Text)
  /-- The value has no closing quote. -/
  | unterminated (key : Text)
  deriving DecidableEq, Repr

/-- Why attributes do not make a definition. -/
inductive DefinitionError
  | missingAttribute (key : Text)
  | invalidDataSetType (value : Text)
  /-- A parameter has another number of fields than three. -/
  | parameterFieldCount (definition : Text) (found : Nat)
  | invalidParameterType (value : Text)
  | invalidParameterSize (value : Text)
  | attributeSyntax (fault : AttributeFault)
  deriving DecidableEq, Repr

/-- The wording of an attribute fault. -/
def AttributeFault.message : AttributeFault → Text
  | .noName found => "expected an attribute name, found `" ++ found ++ "`"
  | .noEquals key => "expected `=` after `" ++ key ++ "`"
  | .noQuote key => "expected a quoted value for `" ++ key ++ "`"
  | .unterminated key => "unterminated value for `" ++ key ++ "`"

/-- The wording of a definition error. -/
def DefinitionError.message : DefinitionError → Text
  | .missingAttribute key => "missing mandatory attribute `" ++ key ++ "`"
  | .invalidDataSetType value =>
    "invalid dataset type `" ++ value ++
      "`, expected one of: table, view, stored procedure, function"
  | .parameterFieldCount definition found =>
    "parameter definition `" ++ definition ++ "` has " ++ Text.ofNat found ++
      " field(s), expected 3 (name,type,size)"
  | .invalidParameterType value => "invalid parameter data type `" ++ value ++ "`"
  | .invalidParameterSize value => "invalid parameter size `" ++ value ++ "`"
  | .attributeSyntax fault => "invalid attribute syntax: " ++ fault.message

end BoundReport
