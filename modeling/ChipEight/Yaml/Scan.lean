import ChipEight.Yaml.Source
import ChipEight.Yaml.Token

/-!
# Reading the tokens of a document

Tokens are read one after the other.  A key mark is not written, and that a text
is a key is known only when its colon follows, so a key mark may belong in front
of tokens that have been read before.  It does so only on the same line and only
within a bounded distance; tokens that no key mark can come in front of any more
are settled.

If reading stops at a fault, only the settled tokens count.
-/

namespace ChipEight
namespace Yaml

/-- Tokens, and the fault that reading stopped at, if there is one. -/
structure TokenStream where
  /-- The tokens that are settled. -/
  tokens : List Token
  /-- Why there are no more. -/
  fault : Option SyntaxFault

/-- A place that becomes a key when a colon follows. -/
structure KeyPlace where
  /-- The number of brackets that are open around it. -/
  depth : Nat
  /-- The number of tokens in front of it. -/
  place : Nat
  /-- Whether it must become a key, because of its indentation. -/
  required : Bool
  /-- Where it begins. -/
  cursor : Cursor

/-- A reading in progress. -/
structure Scan where
  /-- Where the next token begins. -/
  cursor : Cursor
  /-- Why the text breaks off at its end, if it does. -/
  ending : Option SyntaxFault
  /-- One more than the column of each open block, the innermost first. -/
  margins : List Nat
  /-- The number of open brackets. -/
  depth : Nat
  /-- The places that may still become keys, the innermost first; there is at
  most one for each number of open brackets. -/
  keys : List KeyPlace
  /-- Whether a key may begin here. -/
  keyAllowed : Bool
  /-- The number of settled tokens. -/
  settled : Nat
  /-- The tokens behind them. -/
  pending : List Token

namespace Scan

/-- The beginning of a text. -/
def start (source : Source) : Scan where
  cursor := Cursor.ofText source.chars
  ending := source.ending
  margins := []
  depth := 0
  keys := []
  keyAllowed := true
  settled := 0
  pending := []

/-- Whether a bracket is open. -/
def inFlow (scan : Scan) : Bool :=
  0 < scan.depth

/-- The least column at which a text inside the innermost block may stand. -/
def margin (scan : Scan) : Nat :=
  scan.margins.headD 0

/-- The number of tokens that have been read. -/
def count (scan : Scan) : Nat :=
  scan.settled + scan.pending.length

/-- Append tokens. -/
def pushAll (scan : Scan) (tokens : List Token) : Scan :=
  { scan with pending := scan.pending ++ tokens }

/-- Append a token. -/
def push (scan : Scan) (token : Token) : Scan :=
  scan.pushAll [token]

/-- Put tokens in front of a token that is not settled. -/
def insertAt (scan : Scan) (place : Nat) (tokens : List Token) : Scan :=
  let (front, back) := scan.pending.splitAt (place - scan.settled)
  { scan with pending := front ++ tokens ++ back }

/-- Move to another place. -/
def moveTo (scan : Scan) (cursor : Cursor) : Scan :=
  { scan with cursor }

/-- Append the token for one character and pass it. -/
def pushMark (scan : Scan) (length : Nat) (token : Token) : Scan :=
  (scan.moveTo (scan.cursor.skip length)).push token

/-- Say whether a key may begin at the next token. -/
def allowKey (scan : Scan) (allowed : Bool) : Scan :=
  { scan with keyAllowed := allowed }

/-! ## Places for keys -/

/-- The greatest distance of a key from its colon. -/
def keyReach : Nat := 1024

/-- Whether it is too late for a colon: another line has begun, or the key is
too far away. -/
def isStale (cursor : Cursor) (key : KeyPlace) : Bool :=
  key.cursor.line < cursor.line || key.cursor.index + keyReach < cursor.index

/-- Give up the places for which it is too late. -/
def dropStale (scan : Scan) : Except SyntaxFault Scan :=
  let stale := isStale scan.cursor
  if scan.keys.any fun key => stale key && key.required then .error .missingColon
  else .ok { scan with keys := scan.keys.filter fun key => !stale key }

/-- The place inside the innermost bracket, if it may become a key. -/
def key? (scan : Scan) : Option KeyPlace :=
  scan.keys.head?.filter (·.depth == scan.depth)

/-- Give up the place inside the innermost bracket. -/
def dropKey (scan : Scan) : Except SyntaxFault Scan :=
  match scan.key? with
  | none => .ok scan
  | some key =>
    if key.required then .error .missingColon else .ok { scan with keys := scan.keys.drop 1 }

/-- Remember this place, if a key may begin here. -/
def saveKey (scan : Scan) : Except SyntaxFault Scan :=
  if scan.keyAllowed then do
    let required := !scan.inFlow && scan.margin == scan.cursor.column + 1
    let scan ← scan.dropKey
    .ok { scan with keys := ⟨scan.depth, scan.count, required, scan.cursor⟩ :: scan.keys }
  else .ok scan

/-- Take out the tokens that are settled: those in front of every place that may
still become a key. -/
def settle (scan : Scan) : List Token × Scan :=
  let count := match scan.keys.getLast? with
    | some key => key.place - scan.settled
    | none => scan.pending.length
  let (tokens, pending) := scan.pending.splitAt count
  (tokens, { scan with settled := scan.settled + count, pending })

/-! ## Blocks -/

/-- Outside brackets, end the blocks that are indented further than the column
whose successor is `margin`. -/
def endBlocks (scan : Scan) (margin : Nat) : Scan :=
  if scan.inFlow then scan
  else
    let left := scan.margins.takeWhile (margin < ·)
    { scan with margins := scan.margins.drop left.length }.pushAll
      (left.map fun _ => Token.blockEnd)

/-- Outside brackets, begin a block if the indentation has grown to the given
column.  Answers the block's first token, if one begins. -/
def beginBlock (scan : Scan) (column : Nat) (token : Token) : List Token × Scan :=
  if !scan.inFlow && scan.margin ≤ column then
    ([token], { scan with margins := (column + 1) :: scan.margins })
  else ([], scan)

/-- Begin a block at this place if the indentation has grown. -/
def beginBlockHere (scan : Scan) (token : Token) : Scan :=
  let (tokens, scan) := scan.beginBlock scan.cursor.column token
  scan.pushAll tokens

/-! ## Blanks and comments -/

/-- Pass the mark of a text's encoding, which may stand at the beginning of a
line. -/
def skipEncodingMark (cursor : Cursor) : Cursor :=
  if cursor.column == 0 && cursor.rest.head? == some '\uFEFF' then cursor.skip 1 else cursor

/-- Pass blanks, comments and line breaks.  A tab does not count as a blank
where a key may begin, outside brackets. -/
def skipSpace : Nat → Scan → Scan
  | 0, scan => scan
  | fuel + 1, scan =>
    let tabs := scan.inFlow || !scan.keyAllowed
    let cursor := (skipEncodingMark scan.cursor).skipWhile fun c => c == ' ' || (tabs && c == '\t')
    let cursor := if cursor.rest.head? == some '#' then cursor.skipLine else cursor
    if cursor.rest.head?.any isBreak then
      skipSpace fuel { scan with
        cursor := cursor.skipBreak
        keyAllowed := scan.keyAllowed || !scan.inFlow }
    else scan.moveTo cursor

/-! ## Tokens that begin with a sign -/

/-- Append a text that is not plain. -/
def pushText (scan : Scan) (style : Style) (read : List Char × Cursor) : Scan :=
  (scan.moveTo read.2).push (.scalar (String.ofList read.1) style)

/-- End all blocks, in front of a mark between documents. -/
def endDocument (scan : Scan) : Except SyntaxFault Scan := do
  let scan ← (scan.endBlocks 0).dropKey
  .ok (scan.allowKey false)

/-- An opening bracket may itself be part of a key. -/
def openBracket (scan : Scan) (token : Token) : Except SyntaxFault Scan := do
  let scan ← scan.saveKey
  .ok (({ scan with depth := scan.depth + 1 }.allowKey true).pushMark 1 token)

/-- A closing bracket. -/
def closeBracket (scan : Scan) (token : Token) : Except SyntaxFault Scan := do
  let scan ← scan.dropKey
  .ok (({ scan with depth := scan.depth - 1 }.allowKey false).pushMark 1 token)

/-- A comma inside brackets. -/
def comma (scan : Scan) : Except SyntaxFault Scan := do
  let scan ← scan.dropKey
  .ok ((scan.allowKey true).pushMark 1 .flowEntry)

/-- The dash of an entry. -/
def dash (scan : Scan) : Except SyntaxFault Scan := do
  if !scan.inFlow && !scan.keyAllowed then .error .misplacedEntry
  let scan ← (scan.beginBlockHere .blockSequenceStart).dropKey
  .ok ((scan.allowKey true).pushMark 1 .blockEntry)

/-- A question mark in front of a key. -/
def questionMark (scan : Scan) : Except SyntaxFault Scan := do
  if !scan.inFlow && !scan.keyAllowed then .error .misplacedKey
  let scan ← (scan.beginBlockHere .blockMappingStart).dropKey
  .ok ((scan.allowKey !scan.inFlow).pushMark 1 .key)

/-- A colon.  What stands in front of it on the same line becomes a key. -/
def colon (scan : Scan) : Except SyntaxFault Scan :=
  match scan.key? with
  | some key =>
    let (block, scan) := scan.beginBlock key.cursor.column .blockMappingStart
    let scan := scan.insertAt key.place (block ++ [Token.key])
    .ok (({ scan with keys := scan.keys.drop 1 }.allowKey false).pushMark 1 .value)
  | none =>
    if !scan.inFlow && !scan.keyAllowed then .error .misplacedValue
    else
      let scan := scan.beginBlockHere .blockMappingStart
      .ok ((scan.allowKey !scan.inFlow).pushMark 1 .value)

/-- A name or a reference to one. -/
def name (scan : Scan) (token : String → Token) : Except SyntaxFault Scan := do
  let scan ← scan.saveKey
  let (name, cursor) ← readName scan.cursor
  .ok (((scan.allowKey false).moveTo cursor).push (token name))

/-- A tag, which ends like a word or, inside brackets, at a comma. -/
def tag (scan : Scan) : Except SyntaxFault Scan := do
  let scan ← scan.saveKey
  let (token, cursor) ← readTag scan.cursor
  if !endsWord cursor.rest && !(scan.inFlow && cursor.rest.head? == some ',') then
    .error .badTag
  .ok (((scan.allowKey false).moveTo cursor).push token)

/-- A block of text. -/
def blockText (scan : Scan) (isLiteral : Bool) : Except SyntaxFault Scan := do
  let scan ← scan.dropKey
  let read ← block isLiteral scan.margin scan.cursor
  .ok ((scan.allowKey true).pushText (if isLiteral then .literal else .folded) read)

/-- A quoted text. -/
def quotedText (scan : Scan) (double : Bool) : Except SyntaxFault Scan := do
  let scan ← scan.saveKey
  let read ← quoted double scan.cursor
  .ok ((scan.allowKey false).pushText (if double then .doubleQuoted else .singleQuoted) read)

/-- A plain text; behind it a key may begin if that is on another line. -/
def plainText (scan : Scan) : Except SyntaxFault Scan := do
  let scan ← scan.saveKey
  let read ← plain scan.margin scan.inFlow scan.cursor
  .ok ((scan.allowKey read.broken).pushText .plain (read.text, read.cursor))

/-- Whether a plain text may begin here. -/
def startsPlain (inFlow : Bool) : List Char → Bool
  | [] => false
  | c :: rest =>
    let sign := ['-', '?', ':', ',', '[', ']', '\x7b', '\x7d', '#', '&', '*', '!', '|', '>',
      '\x27', '\x22', '%', '@', '\x60'].contains c
    !(sign || endsWord [c])
      || (c == '-' && !rest.head?.any isBlank)
      || (!inFlow && (c == '?' || c == ':') && !endsWord rest)

/-- The end of the text. -/
def finish (scan : Scan) : Except SyntaxFault Scan := do
  let scan ← ((scan.moveTo scan.cursor.toLineStart).endBlocks 0).dropKey
  .ok ((scan.allowKey false).push .streamEnd)

/-- Read one token that begins at this very place with the given character. -/
def sign (scan : Scan) (c : Char) (rest : List Char) : Except SyntaxFault Scan :=
  if scan.cursor.column == 0 && c == '%' then do
    let scan ← scan.endDocument
    let (token, cursor) ← readDirective scan.cursor
    .ok ((scan.moveTo cursor).push token)
  else if scan.cursor.atMark '-' then
    return (← scan.endDocument).pushMark 3 .documentStart
  else if scan.cursor.atMark '.' then
    return (← scan.endDocument).pushMark 3 .documentEnd
  else if c == '[' then scan.openBracket .flowSequenceStart
  else if c == '\x7b' then scan.openBracket .flowMappingStart
  else if c == ']' then scan.closeBracket .flowSequenceEnd
  else if c == '\x7d' then scan.closeBracket .flowMappingEnd
  else if c == ',' then scan.comma
  else if c == '-' && endsWord rest then scan.dash
  else if c == '?' && (scan.inFlow || endsWord rest) then scan.questionMark
  else if c == ':' && (scan.inFlow || endsWord rest) then scan.colon
  else if c == '*' then scan.name .alias
  else if c == '&' then scan.name .anchor
  else if c == '!' then scan.tag
  else if c == '|' && !scan.inFlow then scan.blockText true
  else if c == '>' && !scan.inFlow then scan.blockText false
  else if c == '\x27' then scan.quotedText false
  else if c == '\x22' then scan.quotedText true
  else if startsPlain scan.inFlow (c :: rest) then scan.plainText
  else .error .strayCharacter

/-- Fail if something behind the end of the text has been looked for, and the
text breaks off there. -/
def checkEnding (scan : Scan) : Except SyntaxFault Scan :=
  match if scan.cursor.overrun then scan.ending else none with
  | some fault => .error fault
  | none => .ok scan

/-- Read one token, or the end of the text. -/
def next (scan : Scan) : Except SyntaxFault Scan := do
  let scan ← (skipSpace (scan.cursor.size + 1) scan).dropStale
  let scan := (scan.endBlocks (scan.cursor.column + 1)).moveTo (scan.cursor.look 4)
  let scan ← match scan.cursor.rest with
    | [] => scan.finish
    | c :: rest => scan.sign c rest
  (← scan.checkEnding).dropStale

/-! ## All tokens -/

/-- Read on until the end or a fault, with the settled tokens so far, the latest
first. -/
def readAll : Nat → List Token → Scan → TokenStream
  | 0, tokens, _ => ⟨tokens.reverse, none⟩
  | fuel + 1, tokens, scan =>
    match scan.next with
    | .error fault => ⟨tokens.reverse, some fault⟩
    | .ok scan =>
      let (settled, scan) := scan.settle
      let tokens := settled.reverse ++ tokens
      if tokens.head? == some .streamEnd then ⟨tokens.reverse, none⟩
      else readAll fuel tokens scan

end Scan

namespace TokenStream

/-- The tokens of a text. -/
def ofSource (source : Source) : TokenStream :=
  Scan.readAll (source.chars.length + 1) [] (Scan.start source)

end TokenStream
end Yaml
end ChipEight
