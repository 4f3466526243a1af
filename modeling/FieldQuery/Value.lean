import FieldQuery.Calendar.Format
import FieldQuery.Calendar.Reading
import FieldQuery.Error
import FieldQuery.Text.Reading

/-!
Values as they are given for a field, read by the type of the field. Blanks around a value do not
matter; an error shows the value with them.
-/

namespace FieldQuery
namespace Value

open Calendar

/-- A number stays as it was written. -/
def number (field : String) (type : FieldType) (value : String) : Except Error String :=
  let cs := Text.trim value.toList
  if if type = .integer then Text.isInteger cs else Text.isNumber cs then .ok (String.ofList cs)
  else .error (.invalidValue field value (.notNumber type))

/-- Only ASCII letters are compared without regard to case. -/
def boolean (field value : String) : Except Error Bool :=
  match String.ofList ((Text.trim value.toList).map Char.toLower) with
  | "true" | "1" => .ok true
  | "false" | "0" => .ok false
  | _ => .error (.invalidValue field value .notBoolean)

def moment (field value : String) : Except Error Moment :=
  match Moment.read? (Text.trim value.toList) with
  | some moment => .ok moment
  | none => .error (.invalidValue field value .notDate)

/-- A date, or a moment that is exactly midnight; any other time of day is refused. -/
def date (field value : String) : Except Error Date :=
  match Date.read? (Text.trim value.toList) with
  | some date => .ok date
  | none => do
    let moment ← moment field value
    if moment.time = .midnight then .ok moment.date
    else .error (.invalidValue field value .timeOfDay)

def formatted (pattern : String) (moment : Moment) : Except Error String :=
  match moment.format? pattern with
  | some text => .ok text
  | none => .error (.unwritableDate pattern)

/-- The form in which a search index stores a value of an ordered type: numbers as written, dates by
the pattern. -/
def indexed (pattern field : String) (type : FieldType) (value : String) : Except Error String :=
  match type with
  | .date => do
    match (← date field value).atTime? 0 0 0 with
    | some midnight => formatted pattern midnight
    | none => .error (.invalidValue field value .outOfRange)
  | .dateTime => do formatted pattern (← moment field value)
  | _ => number field type value

end Value
end FieldQuery
