import SensorAlerting.Text.Blank
import SensorAlerting.Value.Use

set_option autoImplicit false

/-!
Headers of a mail. A text with several lines is folded: a later line must start with a blank. One
that does not is refused, and so is one that reads as a header of its own. Texts beyond ASCII are
written encoded, which no line of theirs can spoil.
-/

namespace SensorAlerting.Delivery

open SensorAlerting.Text

inductive HeaderFault where
  | embedded
  | unfolded
  | notText
deriving DecidableEq, Repr

/-- Characters of ASCII that end a line; a carriage return and a line feed end one together. -/
def endsLine (letter : Char) : Bool :=
  ('\n' <= letter && letter <= '\r') || ('\x1c' <= letter && letter <= '\x1e')

def headerLines : List Char -> List (List Char)
  | [] => []
  | '\r' :: '\n' :: rest => [] :: headerLines rest
  | letter :: rest =>
    if endsLine letter then [] :: headerLines rest
    else match headerLines rest, rest.head? with
    | first :: lines, some next =>
      if endsLine next then [letter] :: first :: lines else (letter :: first) :: lines
    | lines, _ => [letter] :: lines

def isFold (letter : Char) : Bool := letter == ' ' || letter == '\t'

def dropLastSpace (line : List Char) : List Char :=
  match line.reverse with
  | [' '] => []
  | ' ' :: before :: rest => if isFold before then line else (before :: rest).reverse
  | _ => line

/-- The first line and the later ones; blank lines are joined to the lines before them. -/
def joinBlankLines : List Char -> List (List Char) -> List (List Char)
  | first, [] => [first]
  | first, line :: rest =>
    if line.all isBlank then joinBlankLines (first ++ line) rest
    else first :: joinBlankLines line rest

def foldedLines (content : List Char) : List (List Char) :=
  match (headerLines content).map dropLastSpace with
  | [] => []
  | first :: rest => joinBlankLines first rest

def reachesColon : Bool -> List Char -> Bool
  | _, [] => false
  | begun, letter :: rest =>
    (begun && letter == ':') || (!isFold letter && reachesColon true rest)

def embedsHeader : List (List Char) -> Bool
  | [] => false
  | _ :: rest => reachesColon false (List.intercalate ['\n'] rest) || embedsHeader rest

def headerFault? : Value -> Option HeaderFault
  | .null => none
  | .text content =>
    let letters := content.toList
    let lines := foldedLines letters
    if letters.any fun letter => 128 <= letter.toNat then none
    else if embedsHeader lines then some .embedded
    else if (lines.drop 1).any fun line => !(line.head?.any isFold) then some .unfolded
    else none
  | _ => some .notText

end SensorAlerting.Delivery
