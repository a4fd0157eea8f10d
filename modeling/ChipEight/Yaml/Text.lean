import ChipEight.Text.Numeral
import ChipEight.Yaml.Cursor
import ChipEight.Yaml.Fault

/-!
# Reading texts out of a document

A text in a document is plain, quoted or a block.  Plain and quoted texts may
go over several lines: the blanks around a line break are dropped, a single
line break becomes a blank, and of several line breaks the first is dropped.  A
block keeps its line breaks, or folds them in the same way, and its indentation
tells where it ends.

Each reader answers the text and the place behind it.
-/

namespace ChipEight
namespace Yaml

/-- How a text is written. -/
inductive Style where
  /-- Without quotes. -/
  | plain
  /-- In single quotes. -/
  | singleQuoted
  /-- In double quotes, with escapes. -/
  | doubleQuoted
  /-- A block that keeps its line breaks. -/
  | literal
  /-- A block whose lines are joined. -/
  | folded
deriving DecidableEq

/-! ## Gaps between words -/

/-- Blanks and line breaks between two words. -/
structure Gap where
  /-- The blanks before the first line break, the latest first. -/
  blanks : List Char
  /-- What the first line break stands for, if there is one. -/
  first : Option (List Char)
  /-- The other line breaks, the latest first. -/
  more : List Char

namespace Gap

/-- No gap at all. -/
def empty : Gap :=
  ⟨[], none, []⟩

/-- The gap after a line break that has been escaped: it stands for nothing. -/
def escaped : Gap :=
  ⟨[], some [], []⟩

/-- Whether the next word stands on another line. -/
def isBroken (gap : Gap) : Bool :=
  gap.first.isSome

/-- What the gap stands for. -/
def text (gap : Gap) : List Char :=
  match gap.first with
  | none => gap.blanks.reverse
  | some first =>
    if first == ['\n'] then
      if gap.more.isEmpty then [' '] else gap.more.reverse
    else first ++ gap.more.reverse

/-- Read on in a gap.  After a line break no tab may stand left of `margin`. -/
def read (margin : Nat) : Nat → Gap → Cursor → Except SyntaxFault (Gap × Cursor)
  | 0, gap, cursor => .ok (gap, cursor)
  | fuel + 1, gap, cursor =>
    match cursor.rest with
    | [] => .ok (gap, cursor.look 1)
    | c :: _ =>
      if isBlank c then
        if gap.isBroken then
          if c == '\t' && cursor.column < margin then .error .tabIndentation
          else read margin fuel gap (cursor.skip 1)
        else read margin fuel { gap with blanks := c :: gap.blanks } (cursor.skip 1)
      else if isBreak c then
        let gap :=
          if gap.isBroken then { gap with more := breakText c :: gap.more }
          else { gap with blanks := [], first := some [breakText c] }
        read margin fuel gap cursor.skipBreak
      else .ok (gap, cursor)

end Gap

/-! ## Plain texts -/

/-- Characters that end a word inside brackets. -/
def isFlowMark (c : Char) : Bool :=
  [',', '[', ']', '\x7b', '\x7d'].contains c

/-- Read a word of a plain text: up to a blank, to a colon that ends a word,
and inside brackets to a comma or a bracket.  Answers the word and what follows
it. -/
def plainWord (inFlow : Bool) : List Char → Except SyntaxFault (List Char × List Char)
  | [] => .ok ([], [])
  | c :: rest =>
    if isBlank c || isBreak c then .ok ([], c :: rest)
    else if inFlow && c == ':' && rest.head?.any (fun d => isFlowMark d || d == '?') then
      .error .unexpectedColon
    else if (c == ':' && endsWord rest) || (inFlow && isFlowMark c) then .ok ([], c :: rest)
    else
      match plainWord inFlow rest with
      | .ok (word, rest) => .ok (c :: word, rest)
      | .error fault => .error fault

/-- A plain text that has been read. -/
structure PlainText where
  text : List Char
  broken : Bool
  /-- The place behind it. -/
  cursor : Cursor

/-- Read on in a plain text, with the words so far, the latest character first,
and the gap behind them. -/
def plainOn (margin : Nat) (inFlow : Bool) :
    Nat → List Char → Gap → Cursor → Except SyntaxFault PlainText
  | 0, text, gap, cursor => .ok ⟨text.reverse, gap.isBroken, cursor⟩
  | fuel + 1, text, gap, cursor =>
    let cursor := cursor.look 4
    if cursor.atDocumentMark || cursor.rest.head? == some '#' then
      .ok ⟨text.reverse, gap.isBroken, cursor⟩
    else do
      let (word, rest) ← plainWord inFlow cursor.rest
      let cursor := (cursor.pass word rest).look 2
      let (text, gap) :=
        if word.isEmpty then (text, gap)
        else (word.reverse ++ gap.text.reverse ++ text, Gap.empty)
      match rest with
      | [] => .ok ⟨text.reverse, gap.isBroken, cursor⟩
      | c :: _ =>
        if isBlank c || isBreak c then
          let (gap, cursor) ← gap.read margin (cursor.size + 1) cursor
          if !inFlow && cursor.column < margin then .ok ⟨text.reverse, gap.isBroken, cursor⟩
          else plainOn margin inFlow fuel text gap cursor
        else .ok ⟨text.reverse, gap.isBroken, cursor⟩

/-- Read a plain text.  Outside brackets its lines stand right of `margin`. -/
def plain (margin : Nat) (inFlow : Bool) (cursor : Cursor) : Except SyntaxFault PlainText :=
  plainOn margin inFlow (cursor.size + 1) [] Gap.empty cursor

/-! ## Quoted texts -/

/-- A part of a quoted text without blanks. -/
structure QuotedWord where
  text : List Char
  length : Nat
  /-- Whether it ends with a backslash at the end of a line. -/
  escapesBreak : Bool

namespace QuotedWord

/-- No word at all. -/
def empty : QuotedWord :=
  ⟨[], 0, false⟩

/-- The word behind one more character of the text. -/
def after (c : Char) (length : Nat) (word : QuotedWord) : QuotedWord :=
  { word with text := c :: word.text, length := word.length + length }

end QuotedWord

/-- Read a word in single quotes, where a quote is written twice. -/
def singleQuotedWord : List Char → QuotedWord
  | [] => .empty
  | '\x27' :: '\x27' :: rest => (singleQuotedWord rest).after '\x27' 2
  | c :: rest =>
    if c == '\x27' || isBlank c || isBreak c then .empty
    else (singleQuotedWord rest).after c 1

/-- What a backslash and one character stand for. -/
def simpleEscape? : Char → Option Char
  | '0' => some '\x00'
  | 'a' => some '\x07'
  | 'b' => some '\x08'
  | 't' => some '\t'
  | '\t' => some '\t'
  | 'n' => some '\n'
  | 'v' => some '\x0B'
  | 'f' => some '\x0C'
  | 'r' => some '\r'
  | 'e' => some '\x1B'
  | ' ' => some ' '
  | '\x22' => some '\x22'
  | '/' => some '/'
  | '\\' => some '\\'
  | 'N' => some '\u0085'
  | '_' => some '\u00A0'
  | 'L' => some '\u2028'
  | 'P' => some '\u2029'
  | _ => none

/-- How many digits of a character number follow a backslash and a letter. -/
def escapeDigits? : Char → Option Nat
  | 'x' => some 2
  | 'u' => some 4
  | 'U' => some 8
  | _ => none

/-- The character with the number that the given digits write. -/
def numberedChar? (digits : List Char) : Option Char :=
  match Numeral.read? 16 digits with
  | some number => if number.isValidChar then some (Char.ofNat number) else none
  | none => none

/-- Read a word in double quotes. -/
def doubleQuotedWord : Nat → List Char → Except SyntaxFault QuotedWord
  | 0, _ => .ok .empty
  | _ + 1, [] => .ok .empty
  | fuel + 1, '\\' :: c :: rest =>
    if isBreak c then .ok ⟨[], 1, true⟩
    else
      match simpleEscape? c, escapeDigits? c with
      | some meant, _ => (doubleQuotedWord fuel rest).map (·.after meant 2)
      | none, some count =>
        if (rest.take count).length < count then .error .badEscape
        else
          match numberedChar? (rest.take count) with
          | some meant =>
            (doubleQuotedWord fuel (rest.drop count)).map (·.after meant (count + 2))
          | none => .error .badEscape
      | none, none => .error .badEscape
  | fuel + 1, c :: rest =>
    if c == '\\' then .error .badEscape
    else if c == '\x22' || isBlank c || isBreak c then .ok .empty
    else (doubleQuotedWord fuel rest).map (·.after c 1)

/-- Read a word of a quoted text. -/
def quotedWord (double : Bool) (rest : List Char) : Except SyntaxFault QuotedWord :=
  if double then doubleQuotedWord (rest.length + 1) rest else .ok (singleQuotedWord rest)

/-- Read on in a quoted text, with what has been read so far, the latest
character first. -/
def quotedOn (double : Bool) : Nat → List Char → Cursor → Except SyntaxFault (List Char × Cursor)
  | 0, _, _ => .error .unclosedQuote
  | fuel + 1, text, cursor =>
    let cursor := cursor.look 4
    if cursor.atDocumentMark then .error .quotedDocumentMark
    else do
      let word ← quotedWord double cursor.rest
      let text := word.text.reverse ++ text
      let cursor := cursor.skip word.length
      match cursor.rest with
      | [] => .error .unclosedQuote
      | c :: _ =>
        if word.escapesBreak then
          let cursor := cursor.skipBreak
          let (gap, cursor) ← Gap.escaped.read 0 (cursor.size + 1) cursor
          quotedOn double fuel (gap.text.reverse ++ text) cursor
        else if isBlank c || isBreak c then
          let (gap, cursor) ← Gap.empty.read 0 (cursor.size + 1) cursor
          quotedOn double fuel (gap.text.reverse ++ text) cursor
        else .ok (text.reverse, (cursor.skip 1).look 1)

/-- Read a quoted text from its opening quote on. -/
def quoted (double : Bool) (cursor : Cursor) : Except SyntaxFault (List Char × Cursor) :=
  quotedOn double (cursor.size + 1) [] (cursor.skip 1)

/-! ## Blocks -/

/-- What happens to the line breaks at the end of a block. -/
inductive Chomping where
  /-- One is kept. -/
  | clip
  /-- None is kept. -/
  | strip
  /-- All are kept. -/
  | keep
deriving DecidableEq

/-- The sign for how a block ends. -/
def chomping? : Char → Option Chomping
  | '+' => some .keep
  | '-' => some .strip
  | _ => none

/-- A digit for how far a block is indented. -/
def indentDigit? (c : Char) : Option Nat :=
  if c.isDigit then some (c.toNat - '0'.toNat) else none

/-- Read the signs at the head of a block, in either order. -/
def blockSigns (cursor : Cursor) : Chomping × Option Nat × Cursor :=
  let a := cursor.rest.head?
  let b := (cursor.rest.drop 1).head?
  match a.bind chomping?, a.bind indentDigit? with
  | some chomping, _ =>
    match b.bind indentDigit? with
    | some digit => (chomping, some digit, cursor.skip 2)
    | none => (chomping, none, cursor.skip 1)
  | none, some digit =>
    match b.bind chomping? with
    | some chomping => (chomping, some digit, cursor.skip 2)
    | none => (.clip, some digit, cursor.skip 1)
  | none, none => (.clip, none, cursor)

/-- Pass indentation and empty lines.  Answers the line breaks, the latest
first, and the greatest column that was reached. -/
def blockBreaks (indent : Option Nat) :
    Nat → Nat → List Char → Cursor → Except SyntaxFault (List Char × Nat × Cursor)
  | 0, deepest, breaks, cursor => .ok (breaks, deepest, cursor)
  | fuel + 1, deepest, breaks, cursor =>
    let spaces := (cursor.rest.takeWhile (· == ' ')).length
    let cursor := cursor.skip (match indent with
      | some column => min spaces (column - cursor.column)
      | none => spaces)
    let deepest := max deepest cursor.column
    let short := match indent with
      | some column => cursor.column < column
      | none => true
    match cursor.rest with
    | [] => .ok (breaks, deepest, cursor)
    | c :: _ =>
      if short && c == '\t' then .error .tabIndentation
      else if isBreak c then
        blockBreaks indent fuel deepest (breakText c :: breaks) cursor.skipBreak
      else .ok (breaks, deepest, cursor)

/-- What has been read of a block. -/
structure BlockText where
  text : List Char
  /-- The line break behind the last line, if there is one. -/
  lastBreak : List Char
  /-- The empty lines behind it, the latest first. -/
  trailing : List Char
  /-- Whether the last line begins with a blank. -/
  indented : Bool

namespace BlockText

/-- Add a line. -/
def addLine (isLiteral : Bool) (block : BlockText) (line : List Char) : BlockText :=
  let indented := line.head?.any isBlank
  let joint :=
    if !isLiteral && block.lastBreak == ['\n'] && !block.indented && !indented then
      if block.trailing.isEmpty then [' '] else []
    else block.lastBreak
  { block with
    text := line.reverse ++ block.trailing ++ joint ++ block.text
    lastBreak := []
    trailing := []
    indented }

/-- The whole text of a block that has come to its end. -/
def finish (block : BlockText) (chomping : Chomping) : List Char :=
  match chomping with
  | .strip => block.text.reverse
  | .clip => block.text.reverse ++ block.lastBreak
  | .keep => block.text.reverse ++ block.lastBreak ++ block.trailing.reverse

end BlockText

/-- Read the lines of a block that is indented to the given column. -/
def blockLines (isLiteral : Bool) (indent : Nat) :
    Nat → BlockText → Cursor → Except SyntaxFault (BlockText × Cursor)
  | 0, block, cursor => .ok (block, cursor)
  | fuel + 1, block, cursor =>
    if cursor.column == indent && !cursor.rest.isEmpty then do
      let line := cursor.rest.takeWhile fun c => !isBreak c
      let block := block.addLine isLiteral line
      let cursor := cursor.skip line.length
      let lastBreak := (cursor.rest.head?.map breakText).toList
      let cursor := cursor.skipBreak
      let (trailing, _, cursor) ←
        blockBreaks (some indent) (cursor.size + 1) 0 [] cursor
      blockLines isLiteral indent fuel { block with lastBreak, trailing } cursor
    else .ok (block, cursor)

/-- Read a block from its sign on.  Unless the block says otherwise, the first
line with text tells how far it is indented, and that is at least `margin` and
at least one. -/
def block (isLiteral : Bool) (margin : Nat) (cursor : Cursor) :
    Except SyntaxFault (List Char × Cursor) := do
  let (chomping, digit, cursor) := blockSigns (cursor.skip 1)
  if digit == some 0 then .error .badBlockHeader
  let cursor := cursor.skipWhile isBlank
  let cursor := if cursor.rest.head? == some '#' then cursor.skipLine else cursor
  if cursor.rest.head?.any (fun c => !isBreak c) then .error .badBlockHeader
  let cursor := cursor.skipBreak
  let given := digit.map fun digit => margin - 1 + digit
  let (trailing, deepest, cursor) ← blockBreaks given (cursor.size + 1) 0 [] cursor
  let indent := given.getD (max deepest (max margin 1))
  let (block, cursor) ←
    blockLines isLiteral indent (cursor.size + 1) ⟨[], [], trailing, false⟩ cursor
  .ok (block.finish chomping, cursor.look 1)

end Yaml
end ChipEight
