import ChipEight.Text.Numeral
import ChipEight.Text.Utf8
import ChipEight.Yaml.Cursor
import ChipEight.Yaml.Fault

/-!
# Tags

A tag says what a node should be.  It is a sequence of octets, written with a
small set of characters; any other octet is written as a percent sign and two
digits.  Octets written like this must make up the octets of characters, as far
as the first octet of each one tells, but the characters themselves need not
exist.  A zero octet ends a tag.
-/

namespace ChipEight
namespace Yaml

/-- A tag, in octets. -/
abbrev Tag := List UInt8

namespace Tag

/-- The tag with the given name. -/
def ofName (name : String) : Tag :=
  Utf8.encode name.toList

/-- A standard tag. -/
def standard (name : String) : Tag :=
  ofName ("tag:yaml.org,2002:" ++ name)

/-- The tag that leaves open what a text is. -/
def unspecific : Tag :=
  ofName "!"

/-- Whether a tag has a meaning of its own in this document only. -/
def isLocal (tag : Tag) : Bool :=
  unspecific.isPrefixOf tag

/-! ## Reading -/

/-- Characters of tags apart from those of names. -/
def isMark (c : Char) : Bool :=
  [';', '/', '?', ':', '@', '&', '=', '+', '$', '.', '!', '~', '*', '\x27', '(', ')',
    '%'].contains c

/-- A character of tags; between angle brackets there are three more. -/
def isTagChar (bracketed : Bool) (c : Char) : Bool :=
  isNameChar c || isMark c || (bracketed && [',', '[', ']'].contains c)

/-- How many octets are still to come of a character, if `owed` of them were to
come and this one is the next. -/
def owedBehind? (owed : Nat) (octet : UInt8) : Option Nat :=
  if owed = 0 then (Utf8.width? octet).map (· - 1)
  else if Utf8.isTail octet then some (owed - 1)
  else none

/-- The octets that the characters of a tag stand for, while `owed` octets are
still to come of a character. -/
def unescape? (owed : Nat) : List Char → Option (List UInt8)
  | [] => if owed = 0 then some [] else none
  | '%' :: high :: low :: rest =>
    let octet? := (Numeral.read? 16 [high, low]).map UInt8.ofNat
    match octet?, octet?.bind (owedBehind? owed) with
    | some octet, some owed => (unescape? owed rest).map (octet :: ·)
    | _, _ => none
  | c :: rest =>
    if c == '%' || owed != 0 then none
    else (unescape? 0 rest).map (UInt8.ofNat c.toNat :: ·)

/-- Read the characters of a tag, at least one. -/
def read (bracketed : Bool) (cursor : Cursor) : Except SyntaxFault (Tag × Cursor) :=
  let text := cursor.rest.takeWhile (isTagChar bracketed)
  match if text.isEmpty then none else unescape? 0 text with
  | some octets => .ok (octets.takeWhile (· != 0), cursor.skipWhile (isTagChar bracketed))
  | none => .error .badTag

end Tag
end Yaml
end ChipEight
