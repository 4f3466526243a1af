import FieldQuery.Dialect
import FieldQuery.Field
import FieldQuery.Operator
import FieldQuery.Text.Quoted

/-!
Everything that can go wrong in a compilation, by cause, and the one place where the causes are put
into words.
-/

namespace FieldQuery

/-- Why a value does not suit the type of its field. -/
inductive ValueFault where
  | notNumber (type : FieldType)
  | notBoolean
  | notDate
  | timeOfDay
  | outOfRange
  deriving DecidableEq

inductive GroupFault where
  | nothingToClose
  | leftOpen
  deriving DecidableEq

inductive SettingsFault where
  | emptyDatePattern
  | badDatePattern (pattern : String)
  /-- The settings text is no document of the expected shape. -/
  | malformed
  | unreadable (path cause : String)
  deriving DecidableEq

inductive Error where
  | multiValueNotAllowed (field : String) (count : Nat)
  | unsupportedRange (field : String) (type : FieldType) (operator : Operator)
  | unknownField (field : String)
  | unresolved (cause : String)
  | invalidValue (field value : String) (fault : ValueFault)
  | missingValue (field : String)
  | unknownOperator (token : String)
  | unknownConjunction (code : Nat)
  | misplacedConjunction
  | unbalancedGroup (fault : GroupFault)
  | dialectMismatch (expected found : Family)
  | settings (fault : SettingsFault)
  /-- A date had to be written by a pattern that asks for what a date without a time zone lacks, or
  that is no pattern at all. Unlike the other errors it is no answer to a caller's mistake, and a
  caller ends its work on it. -/
  | unwritableDate (pattern : String)
  deriving DecidableEq

def ValueFault.message : ValueFault → String
  | .notNumber type => "not a " ++ type.name ++ " literal"
  | .notBoolean => "not a boolean"
  | .notDate => "not a date"
  | .timeOfDay => "time of day on a date field"
  | .outOfRange => "date out of range"

def GroupFault.message : GroupFault → String
  | .nothingToClose => "no group to close"
  | .leftOpen => "group left open"

def SettingsFault.message : SettingsFault → String
  | .emptyDatePattern => "search_date_format is empty"
  | .badDatePattern pattern => "invalid search_date_format: " ++ pattern
  | .malformed => "TOML parse error"
  | .unreadable path cause => "cannot read " ++ path ++ ": " ++ cause

def Error.message : Error → String
  | .multiValueNotAllowed field count =>
    "field " ++ field ++ " accepts a single value, got " ++ Nat.repr count
  | .unsupportedRange field type operator =>
    "range query on " ++ field ++ " (" ++ type.name ++ ") with operator " ++ operator.name
      ++ " is not supported"
  | .unknownField field => field ++ " is not a known EPQL field"
  | .unresolved cause => "could not resolve term: " ++ cause
  | .invalidValue field value fault =>
    "invalid value " ++ Text.quoted value ++ " for field " ++ field ++ ": " ++ fault.message
  | .missingValue field => "no value given for field " ++ field
  | .unknownOperator token => "unknown operator: " ++ token
  | .unknownConjunction code => "unknown conjunction code: " ++ Nat.repr code
  | .misplacedConjunction => "conjunction NONE is only valid on the first term"
  | .unbalancedGroup fault => "unbalanced group: " ++ fault.message
  | .dialectMismatch expected found =>
    "a " ++ found.name ++ " query cannot be added to a " ++ expected.name ++ " query"
  | .settings fault => "invalid configuration: " ++ fault.message
  | .unwritableDate pattern => "no date can be written by " ++ Text.quoted pattern

end FieldQuery
