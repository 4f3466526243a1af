/-!
TOML documents of texts and tables. Values of other kinds carry no settings and are not represented;
of lists only the empty one is. A table remembers how it came about, because that decides what may
be added to it later.
-/

namespace FieldQuery
namespace Toml

inductive Origin where
  /-- Named by a longer header only. -/
  | implied
  | header
  /-- Named by a dotted key. -/
  | dotted
  deriving DecidableEq

inductive Node where
  | text (value : String)
  | emptyList
  /-- A table in braces, to which nothing can be added. -/
  | inline (entries : List (String × Node))
  | table (origin : Origin) (entries : List (String × Node))

abbrev Entries := List (String × Node)

def Node.isEmpty : Node → Bool
  | .emptyList | .inline [] | .table _ [] => true
  | _ => false

namespace Entries

def find? (entries : Entries) (key : String) : Option Node := entries.lookup key

/-- Puts a node in the place of the one that has the key, or at the end. -/
def put (entries : Entries) (key : String) (node : Node) : Entries :=
  if (entries.find? key).isSome then
    entries.map fun e => if e.1 = key then (key, node) else e
  else entries ++ [(key, node)]

/-- Gives a value to a key. A dotted key reaches through tables that dotted keys or longer headers
made, and makes those that are missing. -/
def assign (entries : Entries) (node : Node) : List String → Option Entries
  | [] => none
  | [key] => if (entries.find? key).isSome then none else some (entries.put key node)
  | key :: path =>
    match entries.find? key with
    | none => (assign [] node path).map fun inner => entries.put key (.table .dotted inner)
    | some (.table origin inner) =>
      if origin = .header then none
      else (assign inner node path).map fun inner => entries.put key (.table origin inner)
    | some _ => none

/-- Opens the table of a header. A table has at most one header, none if a dotted key made it. -/
def define (entries : Entries) : List String → Option Entries
  | [] => none
  | [key] =>
    match entries.find? key with
    | none => some (entries.put key (.table .header []))
    | some (.table .implied inner) => some (entries.put key (.table .header inner))
    | some _ => none
  | key :: path =>
    match entries.find? key with
    | none => (define [] path).map fun inner => entries.put key (.table .implied inner)
    | some (.table origin inner) =>
      (define inner path).map fun inner => entries.put key (.table origin inner)
    | some _ => none

/-- Changes the entries of the table at a path. -/
def update (entries : Entries) (change : Entries → Option Entries) :
    List String → Option Entries
  | [] => change entries
  | key :: path =>
    match entries.find? key with
    | some (.table origin inner) =>
      (update inner change path).map fun inner => entries.put key (.table origin inner)
    | _ => none

end Entries

inductive Statement where
  | header (path : List String)
  | entry (path : List String) (node : Node)

/-- Carries the statements out in order; `path` is that of the latest header. -/
def buildFrom (entries : Entries) (path : List String) : List Statement → Option Entries
  | [] => some entries
  | .header path :: statements => do
    let entries ← entries.define path
    buildFrom entries path statements
  | .entry key node :: statements => do
    let entries ← entries.update (fun inner => inner.assign node key) path
    buildFrom entries path statements

def build (statements : List Statement) : Option Entries := buildFrom [] [] statements

end Toml
end FieldQuery
