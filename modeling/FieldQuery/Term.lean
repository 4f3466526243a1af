import FieldQuery.Error
import FieldQuery.Text.Reading

/-!
A term before and after its field is resolved. Resolution replaces the logical field by the native
one and may replace the values; a resolver is any function from terms to resolved terms that may
refuse, and a field table is the one that looks fields up by their logical name and keeps the
values. Callers hand an operator over as a token, perhaps between blanks, and a conjunction as a
number.
-/

namespace FieldQuery

structure Term where
  field : String
  operator : Operator
  values : List String
  deriving DecidableEq

structure ResolvedTerm where
  field : String
  values : List String
  descriptor : FieldDescriptor
  deriving DecidableEq

namespace ResolvedTerm

def ofDescriptor (descriptor : FieldDescriptor) (values : List String) : ResolvedTerm :=
  ⟨descriptor.nativeName, values, descriptor⟩

def type (term : ResolvedTerm) : FieldType := term.descriptor.type

def tooManyValues (term : ResolvedTerm) : Error :=
  .multiValueNotAllowed term.field term.values.length

/-- Several values need a field that is matched as any-of. -/
def checkCount (term : ResolvedTerm) : Except Error Unit :=
  if term.values.length > 1 && !term.descriptor.multiValued then .error term.tooManyValues
  else .ok ()

/-- The one value of a term, where more cannot be taken. -/
def singleValue (term : ResolvedTerm) : Except Error String :=
  match term.values with
  | [value] => .ok value
  | [] => .error (.missingValue term.field)
  | _ => .error term.tooManyValues

end ResolvedTerm

abbrev Resolver := Term → Except Error ResolvedTerm

structure FieldTable where
  entries : List (String × FieldDescriptor) := []

namespace FieldTable

/-- An entry of the same name is superseded. -/
def insert (table : FieldTable) (name : String) (descriptor : FieldDescriptor) : FieldTable :=
  ⟨(name, descriptor) :: table.entries⟩

/-- Inserts a field whose searches compare the tokens of the analysis. -/
def insertAnalyzed (table : FieldTable) (name : String) (descriptor : FieldDescriptor) :
    FieldTable :=
  table.insert name { descriptor with analyzed := true }

def find? (table : FieldTable) (name : String) : Option FieldDescriptor :=
  table.entries.lookup name

def resolve (table : FieldTable) : Resolver := fun term =>
  match table.find? term.field with
  | some descriptor => .ok (.ofDescriptor descriptor term.values)
  | none => .error (.unknownField term.field)

end FieldTable

def Operator.read (text : String) : Except Error Operator :=
  match Operator.ofToken? (Text.trimText text) with
  | some operator => .ok operator
  | none => .error (.unknownOperator (Text.trimText text))

def Conjunction.read (code : Nat) : Except Error Conjunction :=
  match Conjunction.ofCode? code with
  | some conjunction => .ok conjunction
  | Option.none => .error (.unknownConjunction code)

end FieldQuery
