/-!
What is known about a field: its name in the target, the type of its values, and how values are
matched. Sort orders are fields with a direction, the most significant first.
-/

namespace FieldQuery

inductive FieldType where
  | string
  /-- Free text, usually analyzed. -/
  | text
  | enum
  | boolean
  | integer
  | float
  | decimal
  | date
  | dateTime
  deriving DecidableEq

namespace FieldType

def isNumeric : FieldType → Bool
  | .integer | .float | .decimal => true
  | _ => false

def isTemporal : FieldType → Bool
  | .date | .dateTime => true
  | _ => false

/-- Types with a total order, the ones a search range can be built on. -/
def isOrdered (type : FieldType) : Bool := type.isNumeric || type.isTemporal

def name : FieldType → String
  | .string => "String"
  | .text => "Text"
  | .enum => "Enum"
  | .boolean => "Boolean"
  | .integer => "Integer"
  | .float => "Float"
  | .decimal => "Decimal"
  | .date => "Date"
  | .dateTime => "DateTime"

/-- Reads the spelling used in stored field descriptions. -/
def ofKey? : String → Option FieldType
  | "string" => some .string
  | "text" => some .text
  | "enum" => some .enum
  | "boolean" => some .boolean
  | "integer" => some .integer
  | "float" => some .float
  | "decimal" => some .decimal
  | "date" => some .date
  | "date_time" => some .dateTime
  | _ => none

end FieldType

structure FieldDescriptor where
  nativeName : String
  type : FieldType
  /-- Several values are matched as any-of. -/
  multiValued : Bool := false
  /-- The search index tokenizes the field, so a search compares tokens; relational dialects compare
  the literal as given. -/
  analyzed : Bool := false
  deriving DecidableEq

inductive SortDirection where
  | ascending
  | descending
  deriving DecidableEq

structure SortClause where
  field : String
  direction : SortDirection := .ascending
  deriving DecidableEq

end FieldQuery
