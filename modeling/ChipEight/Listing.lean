import ChipEight.Instruction.Form
import ChipEight.Memory

/-!
# Listing programs

A listing shows a program as assembly text, one line for each word: its address
once loaded, the word, and the instruction it means.  A word without a meaning
is shown as data, and so is a single byte left over at the end.

A listing is written piece by piece into a sink: what a line has of its own, every
number and name in it, and every character that fills one up are pieces.  A sink may
refuse a piece, and then nothing more is written.
-/

namespace ChipEight
namespace Listing

/-! ## Lines -/

/-- The line of one word, piece by piece. -/
def wordPieces (address : Nat) (word : Word) : List String :=
  Numeral.hexPieces 4 address ++ ": " :: word.pieces ++ " "
    :: (match word.form? with
        | some form => form.pieces word
        | none => "DW 0x" :: word.pieces)
    ++ ["\n"]

/-- The line of a single byte, piece by piece. -/
def bytePieces (address : Nat) (byte : UInt8) : List String :=
  Numeral.hexPieces 4 address ++ ": " :: Numeral.hexPieces 2 byte.toNat
    ++ "   DB 0x" :: Numeral.hexPieces 2 byte.toNat ++ ["\n"]

/-- The lines of a program whose first byte is at the given address, each piece
by piece. -/
def linePieces (address : Nat) : List UInt8 → List (List String)
  | [] => []
  | [byte] => [bytePieces address byte]
  | high :: low :: rest =>
    wordPieces address (Word.ofBytes high low) :: linePieces (address + 2) rest

/-- The pieces of the listing of a program. -/
def pieces (program : List UInt8) : List String :=
  (linePieces programStart program).flatten

/-- The line of one word. -/
def wordLine (address : Nat) (word : Word) : String :=
  String.join (wordPieces address word)

/-- The listing of a program. -/
def text (program : List UInt8) : String :=
  String.join (pieces program)

theorem length_linePieces (address : Nat) (program : List UInt8) :
    (linePieces address program).length = (program.length + 1) / 2 := by
  fun_induction linePieces address program with
  | case1 => rfl
  | case2 => simp
  | case3 address high low rest ih => simp [ih]; omega

/-! ## Sinks -/

/-- What takes text and may refuse it. -/
class Sink (ω : Type) where
  /-- Take a piece of text, or refuse it.  Either may leave a trace in the sink. -/
  write : ω → String → Except Unit Unit × ω

/-- Write pieces one after the other.  After the first refusal nothing more is
offered to the sink. -/
def writeAll {ω : Type} [Sink ω] (sink : ω) : List String → Except Unit Unit × ω
  | [] => (.ok (), sink)
  | piece :: rest =>
    match Sink.write sink piece with
    | (.ok (), after) => writeAll after rest
    | (.error refusal, after) => (.error refusal, after)

/-- Write the listing of a program into a sink. -/
def writeTo {ω : Type} [Sink ω] (sink : ω) (program : List UInt8) : Except Unit Unit × ω :=
  writeAll sink (pieces program)

/-- A text takes everything. -/
instance : Sink String where
  write text piece := (.ok (), text ++ piece)

theorem writeAll_text (written : String) (pieces : List String) :
    writeAll written pieces = (.ok (), written ++ String.join pieces) := by
  induction pieces generalizing written with
  | nil => simp [writeAll]
  | cons piece rest ih =>
    change writeAll (written ++ piece) rest = _
    rw [ih, String.join_cons, String.append_assoc]

/-- A sink that refuses a piece that would take it over its limit, counted in
bytes. -/
structure LimitedSink where
  /-- What has been taken so far. -/
  content : String
  /-- The greatest number of bytes. -/
  limit : Nat
deriving DecidableEq

namespace LimitedSink

/-- How many bytes may still be written. -/
def left (sink : LimitedSink) : Nat :=
  sink.limit - sink.content.utf8ByteSize

instance : Sink LimitedSink where
  write sink piece :=
    if sink.content.utf8ByteSize + piece.utf8ByteSize ≤ sink.limit then
      (.ok (), { sink with content := sink.content ++ piece })
    else (.error (), sink)

end LimitedSink

/-- The message for a listing that a sink refused. -/
def refusalMessage : String :=
  "an error occurred when formatting an argument"

end Listing
end ChipEight
