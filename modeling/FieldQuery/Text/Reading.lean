import FieldQuery.Text.CharacterClasses

/-!
The first steps of reading. A reader takes characters and hands back what it found together with the
characters after it. Blanks around a text can be trimmed. Which texts are numbers is decided without
evaluating them, since a number is passed on as it was written: the digits may be those of any
script, while sign, point and exponent mark are fixed characters.
-/

namespace FieldQuery
namespace Text

/-- Passes over one fixed character. -/
def expect (c : Char) : List Char → Option (List Char)
  | [] => none
  | d :: rest => if d = c then some rest else none

/-- Accepts a result only if nothing is left of the text. -/
def complete {α : Type} : α × List Char → Option α
  | (a, []) => some a
  | (_, _ :: _) => none

def skipBlanks (cs : List Char) : List Char := cs.dropWhile isBlank

def trim (cs : List Char) : List Char := (skipBlanks (skipBlanks cs).reverse).reverse

def trimText (s : String) : String := String.ofList (trim s.toList)

def skipSign : List Char → List Char
  | '+' :: cs | '-' :: cs => cs
  | cs => cs

/-- An optional sign and at least one digit. -/
def isInteger (cs : List Char) : Bool :=
  !(skipSign cs).isEmpty && (skipSign cs).all isDecimalDigit

/-- Nothing, or an exponent mark and an integer. -/
def isExponent : List Char → Bool
  | [] => true
  | c :: cs => (c == 'e' || c == 'E') && isInteger cs

/-- An optional sign, digits with an optional point that has a digit on at least one side, and an
optional exponent. -/
def isNumber (cs : List Char) : Bool :=
  let whole := (skipSign cs).takeWhile isDecimalDigit
  match (skipSign cs).dropWhile isDecimalDigit with
  | '.' :: rest =>
    let part := rest.takeWhile isDecimalDigit
    (!whole.isEmpty || !part.isEmpty) && isExponent (rest.dropWhile isDecimalDigit)
  | rest => !whole.isEmpty && isExponent rest

end Text
end FieldQuery
