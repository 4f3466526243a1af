import FieldQuery.Text.Reading
import FieldQuery.Toml.Document
import FieldQuery.Toml.Quoted

/-!
TOML documents from text. A document is a sequence of lines, each empty, a header or an assignment,
and each perhaps with a comment at its end. A value that is neither a text, a table in braces nor an
empty list is refused on sight. Nesting is bounded by the length of the text.
-/

namespace FieldQuery
namespace Toml

open Text (expect)

def skipSpaces (cs : List Char) : List Char := cs.dropWhile isSpace

/-- The end of the text, or a line end. -/
def readNewline? : List Char → Option (List Char)
  | [] => some []
  | '\n' :: cs | '\r' :: '\n' :: cs => some cs
  | _ => none

/-- What may stand on a line after its content: blanks and a comment. -/
def readLineEnd? (cs : List Char) : Option (List Char) :=
  match skipSpaces cs with
  | '#' :: cs => readNewline? (cs.dropWhile isTextChar)
  | cs => readNewline? cs

def isBareKeyChar (c : Char) : Bool := c.isAlphanum || c == '_' || c == '-'

def readKeyPart? (cs : List Char) : Option (String × List Char) :=
  match cs.takeWhile isBareKeyChar with
  | [] => readLineString? cs
  | key => some (String.ofList key, cs.dropWhile isBareKeyChar)

/-- A key, of one part or of several with points between them. -/
def readKeyWithin : Nat → List Char → Option (List String × List Char)
  | 0, _ => none
  | bound + 1, cs => do
    let (part, cs) ← readKeyPart? (skipSpaces cs)
    match skipSpaces cs with
    | '.' :: cs =>
      let (path, cs) ← readKeyWithin bound cs
      return (part :: path, cs)
    | cs => return ([part], cs)

def readKey? (cs : List Char) : Option (List String × List Char) :=
  readKeyWithin (cs.length + 1) cs

/-- The end of a list that holds blanks, line ends and comments only. -/
def readListEnd? (inComment : Bool) : List Char → Option (List Char)
  | [] => none
  | '\r' :: '\n' :: cs | '\n' :: cs => readListEnd? false cs
  | c :: cs =>
    if inComment then if isTextChar c then readListEnd? true cs else none
    else if isSpace c then readListEnd? false cs
    else if c = '#' then readListEnd? true cs
    else if c = ']' then some cs
    else none

mutual

def readValueWithin : Nat → List Char → Option (Node × List Char)
  | 0, _ => none
  | bound + 1, cs =>
    match cs with
    | '[' :: cs => (readListEnd? false cs).map fun cs => (.emptyList, cs)
    | '\x7b' :: cs =>
      match skipSpaces cs with
      | '\x7d' :: cs => some (.inline [], cs)
      | cs => readEntriesWithin bound [] cs
    | cs => (readString? cs).map fun r => (.text r.1, r.2)

/-- The assignments of a table in braces, up to the closing one. -/
def readEntriesWithin : Nat → Entries → List Char → Option (Node × List Char)
  | 0, _, _ => none
  | bound + 1, entries, cs => do
    let (key, cs) ← readKey? cs
    let cs ← expect '=' cs
    let (node, cs) ← readValueWithin bound (skipSpaces cs)
    let entries ← entries.assign node key
    match skipSpaces cs with
    | ',' :: cs => readEntriesWithin bound entries cs
    | '\x7d' :: cs => return (.inline entries, cs)
    | _ => none

end

def readValue? (cs : List Char) : Option (Node × List Char) :=
  readValueWithin (cs.length + 1) cs

def readHeader? (cs : List Char) : Option (Statement × List Char) := do
  let (path, cs) ← readKey? cs
  let cs ← expect ']' cs
  return (.header path, cs)

def readAssignment? (cs : List Char) : Option (Statement × List Char) := do
  let (path, cs) ← readKey? cs
  let cs ← expect '=' cs
  let (node, cs) ← readValue? (skipSpaces cs)
  return (.entry path node, cs)

/-- A line that says nothing is blank but for a comment. -/
def isSilentStart (c : Char) : Bool := c == '#' || c == '\n' || c == '\r'

def readStatementsWithin : Nat → List Char → Option (List Statement)
  | 0, _ => none
  | bound + 1, cs =>
    match skipSpaces cs with
    | [] => some []
    | c :: cs =>
      if isSilentStart c then do
        let cs ← readLineEnd? (c :: cs)
        readStatementsWithin bound cs
      else do
        let (statement, cs) ← if c = '[' then readHeader? cs else readAssignment? (c :: cs)
        let cs ← readLineEnd? cs
        let statements ← readStatementsWithin bound cs
        return statement :: statements

def byteOrderMark : Char := '\ufeff'

/-- Reads a document, which may begin with a byte order mark. -/
def read? (text : String) : Option Entries := do
  let cs := text.toList
  let cs := if cs.head? = some byteOrderMark then cs.tail else cs
  let statements ← readStatementsWithin (cs.length + 1) cs
  build statements

end Toml
end FieldQuery
