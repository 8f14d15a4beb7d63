set_option autoImplicit false

/-!
A place in a text that is being read: what is left from there, its line and column, and whether a
character that does not exist was asked for before it. Line breaks of every kind count.
-/

namespace SensorAlerting.Yaml

structure Cursor where
  rest : List Char
  index : Nat
  line : Nat
  column : Int
  strayed : Bool

def isSpace (letter : Char) : Bool := letter == ' '

def isBlank (letter : Char) : Bool := letter == ' ' || letter == '\t'

def isPlainBreak (letter : Char) : Bool :=
  letter == '\n' || letter == '\r' || letter == '\x85'

def isBreak (letter : Char) : Bool :=
  isPlainBreak letter || letter == '\u2028' || letter == '\u2029'

def endsWord (letter : Option Char) : Bool :=
  letter.all fun letter => isBlank letter || isBreak letter

def endsField (letter : Option Char) : Bool :=
  letter.all fun letter => isSpace letter || isBreak letter

def isPrintable (letter : Char) : Bool :=
  let code := letter.toNat
  letter == '\t' || letter == '\n' || letter == '\r' || letter == '\x85' ||
    (0x20 <= code && code <= 0x7E) || (0xA0 <= code && code <= 0xFFFD) || 0x10000 <= code

namespace Cursor

def start (letters : List Char) : Cursor :=
  { rest := letters, index := 0, line := 0, column := 0, strayed := false }

def peek (cursor : Cursor) : Option Char := cursor.rest.head?

def peekAt (cursor : Cursor) (distance : Nat) : Option Char := (cursor.rest.drop distance).head?

/-- The place after one more character. The mark of the byte order has no width. -/
def advance (cursor : Cursor) : Cursor :=
  match cursor.rest with
  | [] => cursor
  | letter :: rest =>
    let ends := isBreak letter && !(letter == '\r' && rest.head? == some '\n')
    { cursor with
      rest
      index := cursor.index + 1
      line := if ends then cursor.line + 1 else cursor.line
      column :=
        if ends then 0
        else if letter == '\ufeff' then cursor.column
        else cursor.column + 1 }

def skip (cursor : Cursor) : Nat -> Cursor
  | 0 => cursor
  | count + 1 => cursor.advance.skip count

def takeWhile (keep : Char -> Bool) (cursor : Cursor) : List Char × Cursor :=
  let taken := cursor.rest.takeWhile keep
  (taken, cursor.skip taken.length)

def skipWhile (keep : Char -> Bool) (cursor : Cursor) : Cursor := (cursor.takeWhile keep).2

def takeBreak? (cursor : Cursor) : Option (Char × Cursor) :=
  match cursor.rest with
  | '\r' :: '\n' :: _ => some ('\n', cursor.skip 2)
  | letter :: _ =>
    if isPlainBreak letter then some ('\n', cursor.advance)
    else if isBreak letter then some (letter, cursor.advance)
    else none
  | [] => none

def skipIndent (cursor : Cursor) (indent : Int) : Cursor :=
  let spaces := cursor.rest.takeWhile isSpace
  cursor.skip (min spaces.length (indent - cursor.column).toNat)

def skipComment (cursor : Cursor) : Cursor :=
  if cursor.peek == some '#' then cursor.skipWhile fun letter => !isBreak letter else cursor

def endLine? (cursor : Cursor) : Option Cursor :=
  let after := (cursor.skipWhile isSpace).skipComment
  match after.takeBreak? with
  | some (_, next) => some next
  | none => if after.rest.isEmpty then some after else none

def atMark (cursor : Cursor) (mark : String) : Bool :=
  cursor.rest.take 3 == mark.toList && endsWord (cursor.peekAt 3)

def atSeparator (cursor : Cursor) : Bool := cursor.atMark "---" || cursor.atMark "..."

def fuel (cursor : Cursor) : Nat := cursor.rest.length + 1

end Cursor

end SensorAlerting.Yaml
