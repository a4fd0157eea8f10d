/-!
# Characters in octets

A character is written in one to four octets.  The first octet tells how many
there are, and the others have bits by which they are known.  Every character
has one form only: the number of octets is the least that the character needs.
-/

namespace ChipEight
namespace Utf8

/-- The number of octets of a character, by the first of them. -/
def width? (first : UInt8) : Option Nat :=
  if first &&& 0x80 == 0x00 then some 1
  else if first &&& 0xE0 == 0xC0 then some 2
  else if first &&& 0xF0 == 0xE0 then some 3
  else if first &&& 0xF8 == 0xF0 then some 4
  else none

/-- Whether an octet is one of those behind the first. -/
def isTail (octet : UInt8) : Bool :=
  octet &&& 0xC0 == 0x80

/-- The number that the octets of a character make up.  An octet behind the
first has six bits of it, and the first has those that are not needed to tell
how many octets there are. -/
def number (first : UInt8) (tail : List UInt8) : Nat :=
  let bits := if tail.isEmpty then 7 else 6 - tail.length
  tail.foldl (fun value octet => value * 64 + octet.toNat % 64) (first.toNat % (1 <<< bits))

/-- The character that octets write. -/
def char? (first : UInt8) (tail : List UInt8) : Option Char :=
  let value := number first tail
  let c := Char.ofNat value
  if tail.all isTail && value.isValidChar && c.utf8Size == tail.length + 1 then some c else none

/-- The octets of a text. -/
def encode (text : List Char) : List UInt8 :=
  text.flatMap String.utf8EncodeChar

/-- The number of octets of a text. -/
def size (text : List Char) : Nat :=
  text.foldl (fun size c => size + c.utf8Size) 0

end Utf8
end ChipEight
