import ChipEight.Text.Utf8

/-!
# Places in a text

A cursor is what is left of a text together with the place where it begins.
Indentation is measured in columns, so the cursor counts them; a key must stand
on one line with its colon and not far from it, so it counts lines and octets as
well.

Where more of the text may follow that cannot be read, it matters whether
somebody has looked for it.  So a cursor also remembers whether reading has
looked behind the end.
-/

namespace ChipEight
namespace Yaml

/-! ## Characters -/

/-- A space or a tab. -/
def isBlank (c : Char) : Bool :=
  c == ' ' || c == '\t'

/-- A character that ends a line. -/
def isBreak (c : Char) : Bool :=
  c == '\n' || c == '\r' || c == '\u0085' || c == '\u2028' || c == '\u2029'

/-- A character of names: a letter, a digit, a dash or an underscore. -/
def isNameChar (c : Char) : Bool :=
  c.isAlphanum || c == '-' || c == '_'

/-- Whether a text is at its end, at a blank or at the end of a line. -/
def endsWord : List Char → Bool
  | [] => true
  | c :: _ => isBlank c || isBreak c

/-- What a line break stands for: a line feed, unless it is one of the two
separators that keep their meaning. -/
def breakText (c : Char) : Char :=
  if c == '\u2028' || c == '\u2029' then c else '\n'

/-! ## Cursors -/

/-- What is left of a text, and where it begins. -/
structure Cursor where
  /-- What is left. -/
  rest : List Char
  /-- The number of lines before. -/
  line : Nat
  /-- The number of characters before on the same line. -/
  column : Nat
  /-- The number of octets before. -/
  index : Nat
  /-- The number of characters of the whole text, which bounds every reading. -/
  size : Nat
  /-- Whether something behind the end of the text has been looked for. -/
  overrun : Bool

namespace Cursor

/-- The beginning of a text. -/
def ofText (text : List Char) : Cursor :=
  ⟨text, 0, 0, 0, text.length, false⟩

/-- Look at the next characters, at least one. -/
def look (cursor : Cursor) (count : Nat) : Cursor :=
  { cursor with overrun := cursor.overrun || (cursor.rest.drop (count - 1)).isEmpty }

/-- Pass the characters `taken` of one line; `rest` is what follows them. -/
def pass (cursor : Cursor) (taken rest : List Char) : Cursor :=
  { cursor with
    rest
    column := cursor.column + taken.length
    index := cursor.index + Utf8.size taken }

/-- Pass characters of one line. -/
def skip (cursor : Cursor) (count : Nat) : Cursor :=
  cursor.pass (cursor.rest.take count) (cursor.rest.drop count)

/-- Pass a line break of `count` octets; `rest` is what follows it. -/
def nextLine (cursor : Cursor) (count : Nat) (rest : List Char) : Cursor :=
  { cursor with rest, line := cursor.line + 1, column := 0, index := cursor.index + count }

/-- Pass a line break. -/
def skipBreak (cursor : Cursor) : Cursor :=
  match cursor.rest with
  | '\r' :: '\n' :: rest => cursor.nextLine 2 rest
  | c :: rest => cursor.nextLine c.utf8Size rest
  | [] => cursor

/-- Pass the characters that satisfy a condition, none of them a line break, and
look at the one behind them. -/
def skipWhile (condition : Char → Bool) (cursor : Cursor) : Cursor :=
  (cursor.pass (cursor.rest.takeWhile condition) (cursor.rest.dropWhile condition)).look 1

/-- Pass everything up to the end of the line. -/
def skipLine (cursor : Cursor) : Cursor :=
  cursor.skipWhile fun c => !isBreak c

/-- The end of the text stands on a line of its own. -/
def toLineStart (cursor : Cursor) : Cursor :=
  if cursor.column = 0 then cursor else cursor.nextLine 0 cursor.rest

/-- Whether three equal characters at the beginning of a line stand alone. -/
def atMark (cursor : Cursor) (c : Char) : Bool :=
  cursor.column == 0 && cursor.rest.take 3 == [c, c, c] && endsWord (cursor.rest.drop 3)

/-- Whether a document begins or ends here. -/
def atDocumentMark (cursor : Cursor) : Bool :=
  cursor.atMark '-' || cursor.atMark '.'

end Cursor
end Yaml
end ChipEight
