import SensorAlerting.Yaml.Scalar

set_option autoImplicit false

/-!
Tokens of a YAML text. Indentation opens and closes blocks. That a word was the key of a mapping is
known only at the colon behind it, so a place where a key may have started is kept, and the tokens
that open the key are put in there later. Such a key takes one line and not more than 1024
characters.
-/

namespace SensorAlerting.Yaml

inductive Token where
  | version (major : Nat)
  | handle (name replacement : String)
  | directive
  | documentStart
  | documentEnd
  | sequenceStart
  | mappingStart
  | blockEnd
  | flowSequenceStart
  | flowSequenceEnd
  | flowMappingStart
  | flowMappingEnd
  | blockEntry
  | flowEntry
  | key
  | value
  | alias (name : String)
  | anchor (name : String)
  | tag (handle : Option String) (suffix : String)
  | scalar (content : String) (plain : Bool)
  | strayScalar
  | tooDeep
deriving DecidableEq, Repr

def isNameLetter (letter : Char) : Bool :=
  letter.isAlphanum || letter == '-' || letter == '_'

def isUriLetter (letter : Char) : Bool :=
  letter.isAlphanum || "-;/?:@&=+$,_.!~*'()[]".toList.contains letter

def anchorName? (cursor : Cursor) : Option (String × Cursor) :=
  let (name, after) := cursor.takeWhile isNameLetter
  let ends := endsWord after.peek || after.peek.any "?:,]\x7d%@\x60".toList.contains
  if name.isEmpty || !ends then none else some (String.ofList name, after)

def uriBytes? : Nat -> Cursor -> Option (List UInt8 × Cursor)
  | 0, _ => none
  | fuel + 1, cursor =>
    match cursor.rest with
    | '%' :: high :: low :: _ => do
      let byte <- hexNumber? [high, low]
      let (bytes, last) <- uriBytes? fuel (cursor.skip 3)
      some (byte.toUInt8 :: bytes, last)
    | '%' :: _ => none
    | _ => some ([], cursor)

def uri? : Nat -> Cursor -> Option (List Char × Cursor)
  | 0, _ => none
  | fuel + 1, cursor =>
    let (letters, after) := cursor.takeWhile isUriLetter
    if after.peek == some '%' then do
      let (bytes, next) <- uriBytes? after.fuel after
      let content <- String.fromUTF8? (ByteArray.mk bytes.toArray)
      let (more, last) <- uri? fuel next
      some (letters ++ content.toList ++ more, last)
    else some (letters, after)

def tagUri? (cursor : Cursor) : Option (String × Cursor) :=
  (uri? cursor.fuel cursor).bind fun (letters, after) =>
    if letters.isEmpty then none else some (String.ofList letters, after)

def tagHandle? (cursor : Cursor) : Option (String × Cursor) :=
  let (name, after) := cursor.advance.takeWhile isNameLetter
  if cursor.peek != some '!' then none
  else if name.isEmpty && after.peek == some ' ' then some ("!", after)
  else if after.peek == some '!' then
    some ("!" ++ String.ofList name ++ "!", after.advance)
  else none

def hasHandle (letters : List Char) : Bool :=
  (letters.takeWhile fun letter => !endsField (some letter)).contains '!'

def tagToken? (cursor : Cursor) : Option (Token × Cursor) := do
  let (token, after) <-
    if cursor.peekAt 1 == some '<' then do
      let (suffix, after) <- tagUri? (cursor.skip 2)
      if after.peek == some '>' then some (Token.tag none suffix, after.advance) else none
    else if endsWord (cursor.peekAt 1) then some (Token.tag none "!", cursor.advance)
    else do
      let (handle, after) <-
        if hasHandle (cursor.rest.drop 1) then tagHandle? cursor else some ("!", cursor.advance)
      let (suffix, after) <- tagUri? after
      some (Token.tag (some handle) suffix, after)
  if endsField after.peek then some (token, after) else none

def versionNumber? (cursor : Cursor) : Option (Nat × Cursor) :=
  let (digits, after) := cursor.takeWhile Text.isAsciiDigit
  if digits.isEmpty then none else some (Text.digitsValue digits, after)

def directive? (cursor : Cursor) : Option (Token × Cursor) := do
  let (name, after) := cursor.advance.takeWhile isNameLetter
  if name.isEmpty || !endsField after.peek then none
  let content := after.skipWhile isSpace
  let (token, last) <-
    if name == "YAML".toList then do
      let (major, after) <- versionNumber? content
      if after.peek != some '.' then none
      let (_, after) <- versionNumber? after.advance
      if endsField after.peek then some (Token.version major, after) else none
    else if name == "TAG".toList then do
      let (handle, after) <- tagHandle? content
      if after.peek != some ' ' then none
      let (replacement, after) <- tagUri? (after.skipWhile isSpace)
      if endsField after.peek then some (Token.handle handle replacement, after) else none
    else some (Token.directive, after.skipWhile fun letter => !isBreak letter)
  let next <- last.endLine?
  some (token, next)

/-- A place where a key may have started. In the first column of a block there must be one. -/
structure Candidate where
  position : Nat
  required : Bool
  index : Nat
  line : Nat
  column : Int

/-- The tokens so far, the latest first, the indentations of the open blocks, and a candidate for
each open flow collection and for the blocks around them. -/
structure Scanner where
  cursor : Cursor
  latest : List Token
  count : Nat
  indent : Int
  outer : List Int
  keyAllowed : Bool
  candidate : Option Candidate
  suspended : List (Option Candidate)

namespace Scanner

def start (letters : List Char) : Scanner :=
  { cursor := .start letters
    latest := []
    count := 0
    indent := -1
    outer := []
    keyAllowed := true
    candidate := none
    suspended := [] }

def inFlow (scanner : Scanner) : Bool := !scanner.suspended.isEmpty

def push (scanner : Scanner) (token : Token) : Scanner :=
  { scanner with latest := token :: scanner.latest, count := scanner.count + 1 }

def insert (scanner : Scanner) (position : Nat) (token : Token) : Scanner :=
  let later := scanner.count - position
  { scanner with
    latest := scanner.latest.take later ++ token :: scanner.latest.drop later
    count := scanner.count + 1 }

def tokens (scanner : Scanner) : List Token := scanner.latest.reverse

def depth (scanner : Scanner) : Nat := scanner.outer.length + scanner.suspended.length

def deepest : Nat := 485

def skip (scanner : Scanner) (count : Nat) : Scanner :=
  { scanner with cursor := scanner.cursor.skip count }

def longestKey : Nat := 1024

/-- Drops candidates that are over; one that is required must not be. -/
def dropStale? (scanner : Scanner) : Option Scanner := do
  let keep := fun (candidate : Option Candidate) =>
    match candidate with
    | none => some none
    | some found =>
      if found.line == scanner.cursor.line &&
          scanner.cursor.index <= found.index + longestKey then some (some found)
      else if found.required then none
      else some none
  let candidate <- keep scanner.candidate
  let suspended <- scanner.suspended.mapM keep
  some { scanner with candidate, suspended }

def dropCandidate? (scanner : Scanner) : Option Scanner :=
  if scanner.candidate.any Candidate.required then none
  else some { scanner with candidate := none }

def noteCandidate? (scanner : Scanner) : Option Scanner :=
  if !scanner.keyAllowed then some scanner
  else scanner.dropCandidate?.map fun scanner =>
    { scanner with
      candidate := some
        { position := scanner.count
          required := !scanner.inFlow && scanner.indent == scanner.cursor.column
          index := scanner.cursor.index
          line := scanner.cursor.line
          column := scanner.cursor.column } }

def unwind (scanner : Scanner) (column : Int) : Scanner :=
  if scanner.inFlow then scanner
  else close scanner.outer scanner
where
  close : List Int -> Scanner -> Scanner
    | [], scanner => scanner
    | indent :: outer, scanner =>
      if column < scanner.indent then
        close outer ({ scanner with indent, outer }.push .blockEnd)
      else scanner

/-- Starts a block at a column unless there is one already, with its first token in some place. -/
def openBlock (scanner : Scanner) (column : Int) (position : Nat) (token : Token) : Scanner :=
  if scanner.indent < column then
    { scanner with indent := column, outer := scanner.indent :: scanner.outer }.insert
      position token
  else scanner

def skipToToken : Nat -> Scanner -> Scanner
  | 0, scanner => scanner
  | fuel + 1, scanner =>
    let after := (scanner.cursor.skipWhile isSpace).skipComment
    match after.takeBreak? with
    | none => { scanner with cursor := after }
    | some (_, next) =>
      skipToToken fuel
        { scanner with cursor := next, keyAllowed := scanner.keyAllowed || !scanner.inFlow }

def documentMark? (scanner : Scanner) (token : Token) : Option Scanner :=
  (scanner.unwind (-1)).dropCandidate?.map fun scanner =>
    ({ scanner with keyAllowed := false }.skip 3).push token

def directiveLine? (scanner : Scanner) : Option Scanner := do
  let scanner <- (scanner.unwind (-1)).dropCandidate?
  let (token, cursor) <- directive? scanner.cursor
  some ({ scanner with keyAllowed := false, cursor }.push token)

def flowStart? (scanner : Scanner) (token : Token) : Option Scanner :=
  scanner.noteCandidate?.map fun scanner =>
    ({ scanner with
        keyAllowed := true
        candidate := none
        suspended := scanner.candidate :: scanner.suspended }.skip 1).push token

def flowEnd? (scanner : Scanner) (token : Token) : Option Scanner := do
  let scanner <- scanner.dropCandidate?
  match scanner.suspended with
  | [] => none
  | candidate :: suspended =>
    some (({ scanner with keyAllowed := false, candidate, suspended }.skip 1).push token)

def flowEntry? (scanner : Scanner) : Option Scanner :=
  scanner.dropCandidate?.map fun scanner =>
    ({ scanner with keyAllowed := true }.skip 1).push .flowEntry

def openHere? (scanner : Scanner) (token : Token) : Option Scanner :=
  if scanner.inFlow then some scanner
  else if scanner.keyAllowed then
    some (scanner.openBlock scanner.cursor.column scanner.count token)
  else none

def blockEntry? (scanner : Scanner) : Option Scanner := do
  let scanner <- scanner.openHere? .sequenceStart
  let scanner <- scanner.dropCandidate?
  some (({ scanner with keyAllowed := true }.skip 1).push .blockEntry)

def keyMark? (scanner : Scanner) : Option Scanner := do
  let scanner <- scanner.openHere? .mappingStart
  let scanner <- scanner.dropCandidate?
  some (({ scanner with keyAllowed := !scanner.inFlow }.skip 1).push .key)

def valueMark? (scanner : Scanner) : Option Scanner :=
  match scanner.candidate with
  | some candidate =>
    let opened := scanner.insert candidate.position .key
    let opened :=
      if scanner.inFlow then opened
      else opened.openBlock candidate.column candidate.position .mappingStart
    some (({ opened with keyAllowed := false, candidate := none }.skip 1).push .value)
  | none => do
    let scanner <- scanner.openHere? .mappingStart
    let scanner <- scanner.dropCandidate?
    some (({ scanner with keyAllowed := !scanner.inFlow }.skip 1).push .value)

def simple? (scanner : Scanner) (found : Option (Token × Cursor)) : Option Scanner := do
  let scanner <- scanner.noteCandidate?
  let (token, cursor) <- found
  some ({ scanner with keyAllowed := false, cursor }.push token)

def anchorMark? (scanner : Scanner) (token : String -> Token) : Option Scanner :=
  scanner.simple? <| (anchorName? scanner.cursor.advance).map fun (name, cursor) =>
    (token name, cursor)

def quotedScalar? (scanner : Scanner) (double : Bool) : Option Scanner :=
  let cursor := scanner.cursor.advance
  scanner.simple? <| (quoted? double cursor.fuel cursor).map fun (letters, cursor) =>
    (if cursor.strayed then .strayScalar else .scalar (String.ofList letters) false, cursor)

def plainScalar? (scanner : Scanner) : Option Scanner :=
  let run := plain scanner.inFlow (scanner.indent + 1) scanner.cursor
  (scanner.simple? (some (.scalar (String.ofList run.text) true, run.cursor))).map fun scanner =>
    { scanner with keyAllowed := run.broken }

def blockScalar? (scanner : Scanner) (folded : Bool) : Option Scanner := do
  let scanner <- scanner.dropCandidate?
  let least := max 1 (scanner.indent + 1)
  let (letters, cursor) <- block? folded least scanner.cursor.advance
  some ({ scanner with keyAllowed := true, cursor }.push (.scalar (String.ofList letters) false))

def startsPlain (scanner : Scanner) (letter : Char) : Bool :=
  let next := scanner.cursor.peekAt 1
  !(endsWord (some letter) || "-?:,[]\x7b\x7d#&*!|>'\"%@\x60".toList.contains letter) ||
    (!endsWord next && (letter == '-' || (!scanner.inFlow && (letter == '?' || letter == ':'))))

def token? (scanner : Scanner) (letter : Char) : Option Scanner :=
  let cursor := scanner.cursor
  let inFlow := scanner.inFlow
  let alone := endsWord (cursor.peekAt 1)
  if letter == '%' && cursor.column == 0 then scanner.directiveLine?
  else if cursor.column == 0 && cursor.atMark "---" then scanner.documentMark? .documentStart
  else if cursor.column == 0 && cursor.atMark "..." then scanner.documentMark? .documentEnd
  else if letter == '[' then scanner.flowStart? .flowSequenceStart
  else if letter == '\x7b' then scanner.flowStart? .flowMappingStart
  else if letter == ']' then scanner.flowEnd? .flowSequenceEnd
  else if letter == '\x7d' then scanner.flowEnd? .flowMappingEnd
  else if letter == ',' then scanner.flowEntry?
  else if letter == '-' && alone then scanner.blockEntry?
  else if letter == '?' && (inFlow || alone) then scanner.keyMark?
  else if letter == ':' && (inFlow || alone) then scanner.valueMark?
  else if letter == '*' then scanner.anchorMark? .alias
  else if letter == '&' then scanner.anchorMark? .anchor
  else if letter == '!' then scanner.simple? (tagToken? cursor)
  else if letter == '|' && !inFlow then scanner.blockScalar? false
  else if letter == '>' && !inFlow then scanner.blockScalar? true
  else if letter == '\'' then scanner.quotedScalar? false
  else if letter == '"' then scanner.quotedScalar? true
  else if scanner.startsPlain letter then scanner.plainScalar?
  else none

/-- Scans the tokens up to the end, where every block ends, or up to a character that does not
exist or a collection that lies too deep. -/
def run? : Nat -> Scanner -> Option (List Token)
  | 0, _ => none
  | fuel + 1, scanner => do
    let scanner <- (scanner.skipToToken fuel).dropStale?
    let scanner := scanner.unwind scanner.cursor.column
    match scanner.cursor.peek with
    | none => (scanner.unwind (-1)).dropCandidate?.map Scanner.tokens
    | some letter =>
      let next <- scanner.token? letter
      if next.cursor.strayed then some next.tokens
      else if deepest < next.depth then some (next.push .tooDeep).tokens
      else next.run? fuel

end Scanner

def dropOrderMark : List Char -> List Char
  | '\ufeff' :: rest => rest
  | letters => letters

def tokens? (content : String) : Option (List Token) :=
  let letters := dropOrderMark content.toList
  if letters.all isPrintable then Scanner.run? (letters.length + 2) (.start letters) else none

end SensorAlerting.Yaml
