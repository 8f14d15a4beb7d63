import SensorAlerting.Json.Reader
import SensorAlerting.Yaml.Cursor

set_option autoImplicit false

/-!
Scalars as they are written: quoted, plain, or as an indented block of lines. Lines that a scalar
runs over are folded: a single break reads as a space, and further breaks stay.
-/

namespace SensorAlerting.Yaml

def foldBreaks (first : Char) (more : List Char) : List Char :=
  if first != '\n' then first :: more
  else if more.isEmpty then [' ']
  else more

/-- Breaks with blank lines among them; a mark of a document spoils them. -/
def quotedBreaks? : Nat -> Cursor -> Option (List Char × Cursor)
  | 0, _ => none
  | fuel + 1, cursor =>
    if cursor.atSeparator then none
    else
      let after := cursor.skipWhile isBlank
      match after.takeBreak? with
      | none => some ([], after)
      | some (lineBreak, next) =>
        (quotedBreaks? fuel next).map fun (breaks, last) => (lineBreak :: breaks, last)

def quotedBlanks? (cursor : Cursor) : Option (List Char × Cursor) :=
  let (blanks, after) := cursor.takeWhile isBlank
  match after.takeBreak? with
  | none => some (blanks, after)
  | some (first, next) =>
    (quotedBreaks? next.fuel next).map fun (more, last) => (foldBreaks first more, last)

def escaped? (letter : Char) : Option Char :=
  match letter with
  | '0' => some '\x00'
  | 'a' => some '\x07'
  | 'b' => some '\x08'
  | 't' | '\t' => some '\t'
  | 'n' => some '\n'
  | 'v' => some '\x0b'
  | 'f' => some '\x0c'
  | 'r' => some '\r'
  | 'e' => some '\x1b'
  | ' ' | '"' | '\\' | '/' => some letter
  | 'N' => some '\x85'
  | '_' => some '\xa0'
  | 'L' => some '\u2028'
  | 'P' => some '\u2029'
  | _ => none

def codeLength? (letter : Char) : Option Nat :=
  match letter with
  | 'x' => some 2
  | 'u' => some 4
  | 'U' => some 8
  | _ => none

def hexNumber? (digits : List Char) : Option Nat :=
  digits.foldlM (fun value digit => (Json.hexValue? digit).map fun unit => 16 * value + unit) 0

def code? (length : Nat) (letters : List Char) : Option Nat :=
  let digits := letters.take length
  if digits.length < length then none else hexNumber? digits

def escapedCode? : List Char -> Option (Nat × Nat)
  | '\\' :: letter :: rest => do
    let length <- codeLength? letter
    let code <- code? length rest
    some (code, length + 2)
  | _ => none

def joinHalves? (high low : Nat) : Option Char :=
  if 0xD800 <= high && high <= 0xDBFF && 0xDC00 <= low && low <= 0xDFFF then
    some (Char.ofNat (0x10000 + (high - 0xD800) * 0x400 + (low - 0xDC00)))
  else none

/-- The character with a code from just before a place; a half may be joined with the other half
there, and has no character of its own. -/
def charOfCode (code : Nat) (cursor : Cursor) : List Char × Cursor :=
  let joined := (escapedCode? cursor.rest).bind fun (low, length) =>
    (joinHalves? code low).map fun letter => ([letter], cursor.skip length)
  joined.getD <|
    if 0x10FFFF < code then ([], { cursor with strayed := true })
    else if 0xD800 <= code && code <= 0xDFFF then (['\ufffd'], cursor)
    else ([Char.ofNat code], cursor)

/-- What stands after a backslash: a character, a code, or a break that is passed over. -/
def escape? (cursor : Cursor) : Option (List Char × Cursor) :=
  match cursor.peek with
  | none => none
  | some letter =>
    match escaped? letter, codeLength? letter with
    | some escaped, _ => some ([escaped], cursor.advance)
    | none, some length => do
      let after := cursor.advance
      let code <- code? length after.rest
      some (charOfCode code (after.skip length))
    | none, none =>
      match cursor.takeBreak? with
      | some (_, next) => quotedBreaks? next.fuel next
      | none => none

/-- A quoted scalar from behind its opening quote, or its part in front of a character that does
not exist. -/
def quoted? (double : Bool) : Nat -> Cursor -> Option (List Char × Cursor)
  | 0, _ => none
  | fuel + 1, cursor =>
    let go := fun (piece : List Char × Cursor) =>
      if piece.2.strayed then some piece
      else (quoted? double fuel piece.2).map fun (more, last) => (piece.1 ++ more, last)
    match cursor.rest with
    | [] => none
    | letter :: rest =>
      if letter == (if double then '"' else '\'') then
        if !double && rest.head? == some '\'' then go (['\''], cursor.skip 2)
        else some ([], cursor.advance)
      else if isBlank letter || isBreak letter then (quotedBlanks? cursor).bind go
      else if double && letter == '\\' then (escape? cursor.advance).bind go
      else go ([letter], cursor.advance)

/-- What has been read of a plain scalar: its text, the place after it and the blanks behind it,
and whether there is a break among those. -/
structure PlainRun where
  text : List Char
  cursor : Cursor
  broken : Bool

def endsPlain (inFlow : Bool) (letter : Char) (next : Option Char) : Bool :=
  isBlank letter || isBreak letter ||
    (letter == ':' && (endsWord next || (inFlow && next.any ",[]\x7b\x7d".toList.contains))) ||
    (inFlow && ",?[]\x7b\x7d".toList.contains letter)

def plainWord (inFlow : Bool) : List Char -> List Char
  | [] => []
  | letter :: rest =>
    if endsPlain inFlow letter rest.head? then [] else letter :: plainWord inFlow rest

def plainBreaks : Nat -> Cursor -> Option (List Char) × Cursor
  | 0, cursor => (none, cursor)
  | fuel + 1, cursor =>
    if cursor.atSeparator then (none, cursor)
    else
      let after := cursor.skipWhile isSpace
      match after.takeBreak? with
      | none => (some [], after)
      | some (lineBreak, next) =>
        let (breaks, last) := plainBreaks fuel next
        (breaks.map (lineBreak :: ·), last)

def plainGap (cursor : Cursor) : PlainRun :=
  let (spaces, after) := cursor.takeWhile isSpace
  match after.takeBreak? with
  | none => { text := spaces, cursor := after, broken := false }
  | some (first, next) =>
    let (breaks, last) := plainBreaks next.fuel next
    { text := (breaks.map (foldBreaks first)).getD [], cursor := last, broken := true }

def plainWords (inFlow : Bool) (indent : Int) : Nat -> PlainRun -> PlainRun
  | 0, gap => { gap with text := [] }
  | fuel + 1, gap =>
    let word := if gap.cursor.peek == some '#' then [] else plainWord inFlow gap.cursor.rest
    if word.isEmpty then { gap with text := [] }
    else
      let after := plainGap (gap.cursor.skip word.length)
      let ends := after.text.isEmpty || after.cursor.peek == some '#' ||
        (!inFlow && after.cursor.column < indent)
      if ends then { after with text := gap.text ++ word }
      else
        let more := plainWords inFlow indent fuel after
        { more with text := gap.text ++ word ++ more.text }

def plain (inFlow : Bool) (indent : Int) (cursor : Cursor) : PlainRun :=
  plainWords inFlow indent cursor.fuel { text := [], cursor, broken := false }

inductive Chomping where
  | strip
  | clip
  | keep
deriving DecidableEq, Repr

structure BlockHead where
  chomping : Chomping
  indent : Option Nat
deriving DecidableEq, Repr

def chomping? : Option Char -> Option Chomping
  | some '+' => some .keep
  | some '-' => some .strip
  | _ => none

def indentDigit? (letter : Option Char) : Option Nat :=
  letter.bind fun letter =>
    if '0' <= letter && letter <= '9' then some (letter.toNat - 48) else none

def blockHead? (cursor : Cursor) : Option (BlockHead × Cursor) := do
  let first := chomping? cursor.peek
  let cursor := if first.isSome then cursor.advance else cursor
  let digit := indentDigit? cursor.peek
  let cursor := if digit.isSome then cursor.advance else cursor
  let second := if first.isNone && digit.isSome then chomping? cursor.peek else none
  let cursor := if second.isSome then cursor.advance else cursor
  if digit == some 0 || !endsField cursor.peek then none
  let after <- cursor.endLine?
  some ({ chomping := (first.or second).getD .clip, indent := digit }, after)

def leadingBreaks : Nat -> Cursor -> List Char × Int × Cursor
  | 0, cursor => ([], 0, cursor)
  | fuel + 1, cursor =>
    let after := cursor.skipWhile isSpace
    match after.takeBreak? with
    | none => ([], after.column, after)
    | some (lineBreak, next) =>
      let (breaks, widest, last) := leadingBreaks fuel next
      (lineBreak :: breaks, max after.column widest, last)

def blockBreaks (indent : Int) : Nat -> Cursor -> List Char × Cursor
  | 0, cursor => ([], cursor)
  | fuel + 1, cursor =>
    let after := cursor.skipIndent indent
    match after.takeBreak? with
    | none => ([], after)
    | some (lineBreak, next) =>
      let (breaks, last) := blockBreaks indent fuel next
      (lineBreak :: breaks, last)

structure BlockRun where
  text : List Char
  lastBreak : List Char
  breaks : List Char
  cursor : Cursor

def startsBlank (cursor : Cursor) : Bool := cursor.peek.any isBlank

/-- The break between two lines of a block: it is folded unless one of them starts with a blank. -/
def blockGlue (folded : Bool) (lastBreak breaks : List Char) (blank : Bool) : List Char :=
  if folded && lastBreak == ['\n'] && !blank then (if breaks.isEmpty then [' '] else [])
  else lastBreak

def blockLines (folded : Bool) (indent : Int) : Nat -> List Char -> Cursor -> BlockRun
  | 0, breaks, cursor => { text := [], lastBreak := [], breaks, cursor }
  | fuel + 1, breaks, cursor =>
    if cursor.column != indent || cursor.rest.isEmpty then
      { text := [], lastBreak := [], breaks, cursor }
    else
      let (line, after) := cursor.takeWhile fun letter => !isBreak letter
      let (lastBreak, after) := match after.takeBreak? with
        | some (lineBreak, next) => ([lineBreak], next)
        | none => ([], after)
      let (more, next) := blockBreaks indent after.fuel after
      if next.column != indent || next.rest.isEmpty then
        { text := breaks ++ line, lastBreak, breaks := more, cursor := next }
      else
        let glue := blockGlue folded lastBreak more (startsBlank cursor || startsBlank next)
        let later := blockLines folded indent fuel more next
        { later with text := breaks ++ line ++ glue ++ later.text }

def BlockRun.chomp (run : BlockRun) : Chomping -> List Char
  | .strip => run.text
  | .clip => run.text ++ run.lastBreak
  | .keep => run.text ++ run.lastBreak ++ run.breaks

def block? (folded : Bool) (least : Int) (cursor : Cursor) : Option (List Char × Cursor) := do
  let (head, after) <- blockHead? cursor
  let (breaks, indent, first) :=
    match head.indent with
    | some width =>
      let indent := least + width - 1
      let (breaks, first) := blockBreaks indent after.fuel after
      (breaks, indent, first)
    | none =>
      let (breaks, widest, first) := leadingBreaks after.fuel after
      (breaks, max least widest, first)
  let run := blockLines folded indent first.fuel breaks first
  some (run.chomp head.chomping, run.cursor)

end SensorAlerting.Yaml
