import FieldQuery.Calendar.Pattern
import FieldQuery.Error
import FieldQuery.Toml.Reading

/-!
Settings of a compilation. They are checked as a whole before anything is compiled. In a TOML
document every key is optional, and no other key is allowed.
-/

namespace FieldQuery

/-- Date, the letter T, time and the letter Z. -/
def defaultDatePattern : String := "%Y-%m-%dT%H:%M:%SZ"

structure Settings where
  dialect : Dialect := .search
  /-- What a relational statement begins with; a search has no use for it. -/
  preamble : Option String := none
  /-- How dates are written in a search. -/
  datePattern : String := defaultDatePattern
  deriving DecidableEq

namespace Settings

def check (settings : Settings) : Except Error Unit :=
  if settings.datePattern.isEmpty then .error (.settings .emptyDatePattern)
  else if (Calendar.Pattern.read? settings.datePattern.toList).isNone then
    .error (.settings (.badDatePattern settings.datePattern))
  else .ok ()

end Settings

/-- A dialect is given by its name, or by a table whose only entry has that name and is empty. -/
def Dialect.ofNode? : Toml.Node → Option Dialect
  | .text key => Dialect.ofKey? key
  | .inline [(key, node)] | .table _ [(key, node)] =>
    if node.isEmpty then Dialect.ofKey? key else none
  | _ => none

namespace Settings

def setting? (settings : Settings) (key : String) (node : Toml.Node) : Option Settings :=
  match key, node with
  | "dialect", node => (Dialect.ofNode? node).map fun dialect => { settings with dialect }
  | "prefix", .text preamble => some { settings with preamble := some preamble }
  | "search_date_format", .text datePattern => some { settings with datePattern }
  | _, _ => none

def ofEntries? (entries : Toml.Entries) : Option Settings :=
  entries.foldlM (fun settings entry => settings.setting? entry.1 entry.2) {}

/-- The shape of the document is judged before the settings in it. -/
def read (text : String) : Except Error Settings :=
  match (Toml.read? text).bind ofEntries? with
  | none => .error (.settings .malformed)
  | some settings => do
    settings.check
    return settings

end Settings
end FieldQuery
