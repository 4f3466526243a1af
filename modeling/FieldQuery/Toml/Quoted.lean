/-!
The four kinds of TOML strings, read by one machine. A kind fixes the quote, whether the string may
run over several lines, and whether a backslash introduces an escape. The machine stands after the
opening quotes and hands back the content and the text after the closing ones.
-/

namespace FieldQuery
namespace Toml

structure StringKind where
  quote : Char
  multiline : Bool
  escapes : Bool

/-- Characters that may stand in a string or a comment as they are. -/
def isTextChar (c : Char) : Bool :=
  c == '\t' || (' ' ≤ c && c ≤ '~') || '\u0080' ≤ c

def isSpace (c : Char) : Bool := c == ' ' || c == '\t'

def shortEscape? : Char → Option Char
  | 'b' => some '\x08'
  | 't' => some '\t'
  | 'n' => some '\n'
  | 'f' => some '\x0c'
  | 'r' => some '\r'
  | '"' => some '"'
  | '\\' => some '\\'
  | _ => none

def hexDigit? (c : Char) : Option Nat :=
  if c.isDigit then some (c.toNat - 48)
  else if 'a' ≤ c ∧ c ≤ 'f' then some (c.toNat - 87)
  else if 'A' ≤ c ∧ c ≤ 'F' then some (c.toNat - 55)
  else none

def scalar? (n : Nat) : Option Char := if n.isValidChar then some (Char.ofNat n) else none

namespace StringKind

inductive Mode where
  | text
  /-- So many quotes were passed that may close a string of several lines. -/
  | quotes (count : Nat)
  | escape
  | hex (left value : Nat)
  /-- A backslash and blanks were passed; the line has to end. -/
  | lineEnd
  /-- An escaped line end was passed; blanks and line ends are dropped. -/
  | skip
  /-- A carriage return was passed; a line feed has to follow. -/
  | carriage (skipping : Bool)

inductive Move where
  /-- The string is over, with or without the character at hand. -/
  | close (content : List Char) (consumed : Bool)
  | go (content : List Char) (mode : Mode)

def Move.after (content : List Char) : Move → Move
  | .close rest consumed => .close (content ++ rest) consumed
  | .go rest mode => .go (content ++ rest) mode

def stepText (kind : StringKind) (c : Char) : Option Move :=
  if c = kind.quote then some (if kind.multiline then .go [] (.quotes 1) else .close [] true)
  else if c = '\\' ∧ kind.escapes then some (.go [] .escape)
  else if c = '\n' ∧ kind.multiline then some (.go ['\n'] .text)
  else if c = '\r' ∧ kind.multiline then some (.go [] (.carriage false))
  else if isTextChar c then some (.go [c] .text)
  else none

def stepLineEnd (c : Char) : Option Move :=
  if isSpace c then some (.go [] .lineEnd)
  else if c = '\n' then some (.go [] .skip)
  else if c = '\r' then some (.go [] (.carriage true))
  else none

def stepEscape (kind : StringKind) (c : Char) : Option Move :=
  match c, shortEscape? c with
  | 'u', _ => some (.go [] (.hex 4 0))
  | 'U', _ => some (.go [] (.hex 8 0))
  | _, some escaped => some (.go [escaped] .text)
  | c, none => if kind.multiline then stepLineEnd c else none

/-- Three quotes close a string of several lines, and up to two more before them belong to it. -/
def stepQuotes (kind : StringKind) (count : Nat) (c : Char) : Option Move :=
  if c = kind.quote then
    some (if count = 4 then .close [kind.quote, kind.quote] true else .go [] (.quotes (count + 1)))
  else if 3 ≤ count then some (.close (List.replicate (count - 3) kind.quote) false)
  else (kind.stepText c).map (Move.after (List.replicate count kind.quote))

def step (kind : StringKind) (mode : Mode) (c : Char) : Option Move :=
  match mode with
  | .text => kind.stepText c
  | .quotes count => kind.stepQuotes count c
  | .escape => kind.stepEscape c
  | .hex left value => do
    let digit ← hexDigit? c
    let value := 16 * value + digit
    if left ≤ 1 then return .go [← scalar? value] .text else return .go [] (.hex (left - 1) value)
  | .lineEnd => stepLineEnd c
  | .skip => if isSpace c ∨ c = '\n' then some (.go [] .skip)
    else if c = '\r' then some (.go [] (.carriage true))
    else kind.stepText c
  | .carriage skipping =>
    if c = '\n' then some (if skipping then .go [] .skip else .go ['\n'] .text) else none

def scanFrom (kind : StringKind) (mode : Mode) : List Char → Option (List Char × List Char)
  | [] =>
    match mode with
    | .quotes count =>
      if 3 ≤ count then some (List.replicate (count - 3) kind.quote, []) else none
    | _ => none
  | c :: cs =>
    match kind.step mode c with
    | none => none
    | some (.close content true) => some (content, cs)
    | some (.close content false) => some (content, c :: cs)
    | some (.go content next) =>
      (kind.scanFrom next cs).map fun r => (content ++ r.1, r.2)

def scan (kind : StringKind) (cs : List Char) : Option (String × List Char) :=
  (kind.scanFrom .text cs).map fun r => (String.ofList r.1, r.2)

end StringKind

/-- A line end right after the opening quotes does not belong to the string. -/
def dropLineEnd : List Char → List Char
  | '\n' :: cs | '\r' :: '\n' :: cs => cs
  | cs => cs

def basicQuote : Char := '"'

def literalQuote : Char := '\x27'

/-- A string on one line. -/
def readLineString? (cs : List Char) : Option (String × List Char) :=
  match cs with
  | [] => none
  | c :: cs =>
    if c = basicQuote then StringKind.scan ⟨basicQuote, false, true⟩ cs
    else if c = literalQuote then StringKind.scan ⟨literalQuote, false, false⟩ cs
    else none

def readString? (cs : List Char) : Option (String × List Char) :=
  if cs.take 3 = List.replicate 3 basicQuote then
    StringKind.scan ⟨basicQuote, true, true⟩ (dropLineEnd (cs.drop 3))
  else if cs.take 3 = List.replicate 3 literalQuote then
    StringKind.scan ⟨literalQuote, true, false⟩ (dropLineEnd (cs.drop 3))
  else readLineString? cs

end Toml
end FieldQuery
