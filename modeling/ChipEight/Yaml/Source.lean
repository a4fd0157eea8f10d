import ChipEight.Text.Utf8
import ChipEight.Yaml.Fault

/-!
# What can be read of a text

A text comes in octets and is read in portions of a bounded size.  A portion is
taken as a whole: if it holds something that is no character, or a character
that no document may contain, then nothing of it can be read, while the portions
in front of it can.  A character that does not fit into a portion opens the next
one.

That a text breaks off is a fault only when somebody looks for what follows, so
the reason is kept beside the characters.
-/

namespace ChipEight
namespace Yaml

/-- A character that a document may contain. -/
def isAllowed (c : Char) : Bool :=
  let n := c.toNat
  c == '\t' || c == '\n' || c == '\r' || (0x20 ≤ n && n ≤ 0x7E) || n == 0x85
    || (0xA0 ≤ n && n ≤ 0xFFFD) || 0x10000 ≤ n

/-- What can be read of a text. -/
structure Source where
  /-- The characters that can be read. -/
  chars : List Char
  /-- Why they are not the whole text, if they are not. -/
  ending : Option SyntaxFault

namespace Source

/-- The number of octets of a portion. -/
def portionSize : Nat := 16384

/-- What can be read if a portion is taken up to here: the characters of the
portions before and those of the portion itself, both with the latest first. -/
def upTo (before portion : List Char) (ending : Option SyntaxFault) : Source :=
  ⟨(portion ++ before).reverse, ending⟩

/-- Read on, with the characters of the portions before, those of this portion,
and the number of octets that it has room for. -/
def readOn : Nat → List Char → List Char → Nat → List UInt8 → Source
  | 0, before, portion, _, _ => upTo before portion none
  | _ + 1, before, portion, _, [] => upTo before portion none
  | fuel + 1, before, portion, room, first :: rest =>
    let width := Utf8.width? first
    let needed := width.getD 1
    let (before, portion, room) :=
      if room < needed then (portion ++ before, [], portionSize) else (before, portion, room)
    let tail := rest.take (needed - 1)
    if tail.length + 1 < needed then upTo before portion (some .notText)
    else
      match width.bind fun _ => Utf8.char? first tail with
      | none => upTo before [] (some .notText)
      | some c =>
        if isAllowed c then
          readOn fuel before (c :: portion) (room - needed) (rest.drop (needed - 1))
        else upTo before [] (some .controlCharacter)

/-- What can be read of octets. -/
def ofOctets (octets : List UInt8) : Source :=
  readOn octets.length [] [] portionSize octets

end Source
end Yaml
end ChipEight
