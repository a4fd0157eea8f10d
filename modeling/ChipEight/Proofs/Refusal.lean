import Mathlib
import ChipEight.Listing

/-!
# Listings that do not fit

A listing is offered to a sink piece by piece, and the first piece that the sink refuses
is the last one it is offered (`writeAll_ends`).  So a sink with a limit holds the whole
listing if that fits, and otherwise a part of it from the beginning, which ends in front of
the refused piece (`writeTo_stopsAtLimit`).  A later piece may be short enough to fit; it
is not offered either.

A sink does not show what it was offered and refused.  This is seen by a sink that notes
what it is offered and passes it on to another one, which takes or refuses it.
-/

namespace ChipEight
namespace Listing

/-! ## Any sink -/

section Sink

variable {ω : Type} [Sink ω]

/-- A sink takes pieces one after the other. -/
inductive Takes : ω → List String → ω → Prop where
  | nil (sink : ω) : Takes sink [] sink
  | cons {sink between after : ω} {piece : String} {rest : List String}
      (hpiece : Sink.write sink piece = (.ok (), between)) (hrest : Takes between rest after) :
      Takes sink (piece :: rest) after

/-- How it ends when pieces are offered to a sink: all are taken, or one is refused, and
those behind it have no say. -/
inductive Ends (sink : ω) : List String → Except Unit Unit × ω → Prop where
  | taken {pieces : List String} {after : ω} (htakes : Takes sink pieces after) :
    Ends sink pieces (.ok (), after)
  | refused {taken : List String} {refused : String} (rest : List String) {between after : ω}
      (htakes : Takes sink taken between)
      (hrefused : Sink.write between refused = (.error (), after)) :
    Ends sink (taken ++ refused :: rest) (.error (), after)

theorem Ends.cons {sink between : ω} {piece : String} {rest : List String}
    {outcome : Except Unit Unit × ω} (hpiece : Sink.write sink piece = (.ok (), between))
    (hends : Ends between rest outcome) : Ends sink (piece :: rest) outcome := by
  cases hends with
  | taken htakes => exact .taken (.cons hpiece htakes)
  | refused rest htakes hrefused => exact .refused rest (.cons hpiece htakes) hrefused

theorem writeAll_ends (sink : ω) (pieces : List String) :
    Ends sink pieces (writeAll sink pieces) := by
  induction pieces generalizing sink with
  | nil => exact .taken (.nil sink)
  | cons piece rest ih =>
      rw [writeAll]
      split
      next after hpiece => exact (ih after).cons hpiece
      next refusal after hpiece => exact .refused rest (.nil sink) hpiece

end Sink

/-! ## What a sink is offered -/

/-- A sink that notes every piece it is offered, also one that is refused. -/
structure NotingSink (ω : Type) where
  /-- The sink that takes or refuses the pieces. -/
  sink : ω
  /-- What it has been offered so far, in this order. -/
  offered : List String
deriving DecidableEq

namespace NotingSink

variable {ω : Type} [Sink ω]

instance : Sink (NotingSink ω) where
  write noting piece :=
    ((Sink.write noting.sink piece).1,
      ⟨(Sink.write noting.sink piece).2, noting.offered ++ [piece]⟩)

variable {noting after : NotingSink ω}

theorem write_eq {piece : String} {result : Except Unit Unit}
    (hwrite : Sink.write noting piece = (result, after)) :
    Sink.write noting.sink piece = (result, after.sink) ∧
      after.offered = noting.offered ++ [piece] := by
  cases hwrite
  exact ⟨rfl, rfl⟩

theorem takes {pieces : List String} (htakes : Takes noting pieces after) :
    Takes noting.sink pieces after.sink ∧ after.offered = noting.offered ++ pieces := by
  induction htakes with
  | nil noting => exact ⟨.nil _, (List.append_nil _).symm⟩
  | cons hpiece _ ih =>
      obtain ⟨hwrite, hoffered⟩ := write_eq hpiece
      exact ⟨.cons hwrite ih.1, by rw [ih.2, hoffered, List.append_assoc, List.singleton_append]⟩

/-- To note what a sink is offered changes nothing of what it does. -/
theorem writeAll_sink (noting : NotingSink ω) (pieces : List String) :
    writeAll noting.sink pieces = ((writeAll noting pieces).1, (writeAll noting pieces).2.sink) := by
  induction pieces generalizing noting with
  | nil => rfl
  | cons piece rest ih =>
      rw [writeAll, writeAll]
      cases hwrite : Sink.write noting piece with
      | mk result after =>
          rw [(write_eq hwrite).1]
          cases result with
          | ok _ => exact ih after
          | error refusal => rfl

end NotingSink

/-! ## A limit -/

namespace LimitedSink

variable {sink after : LimitedSink}

theorem write_of_ok {piece : String} (hwrite : Sink.write sink piece = (.ok (), after)) :
    after = ⟨sink.content ++ piece, sink.limit⟩ ∧
      sink.content.utf8ByteSize + piece.utf8ByteSize ≤ sink.limit := by
  change (if _ then _ else _) = _ at hwrite
  split at hwrite
  next hfits => exact ⟨(Prod.mk.inj hwrite).2.symm, hfits⟩
  next => cases hwrite

theorem write_of_error {piece : String} (hwrite : Sink.write sink piece = (.error (), after)) :
    after = sink ∧ sink.limit < sink.content.utf8ByteSize + piece.utf8ByteSize := by
  change (if _ then _ else _) = _ at hwrite
  split at hwrite
  next => cases hwrite
  next hlarge => exact ⟨(Prod.mk.inj hwrite).2.symm, Nat.lt_of_not_le hlarge⟩

/-- What is taken stands behind what the sink holds, and all of it is within the limit. -/
theorem takes {pieces : List String} (htakes : Takes sink pieces after)
    (hfits : sink.content.utf8ByteSize ≤ sink.limit) :
    after = ⟨sink.content ++ String.join pieces, sink.limit⟩ ∧
      after.content.utf8ByteSize ≤ sink.limit := by
  induction htakes with
  | nil sink => exact ⟨by simp, hfits⟩
  | cons hpiece _ ih =>
      obtain ⟨rfl, hbetween⟩ := write_of_ok hpiece
      rw [← String.utf8ByteSize_append] at hbetween
      obtain ⟨hafter, hwithin⟩ := ih hbetween
      exact ⟨by rw [hafter, String.join_cons, String.append_assoc], hwithin⟩

end LimitedSink

/-- A sink with a limit that is empty, and that has not been offered anything. -/
def NotingSink.empty (limit : Nat) : NotingSink LimitedSink :=
  ⟨⟨"", limit⟩, []⟩

/-- Pieces that are offered to an empty sink with a limit are all taken, or all up to the
first one that does not fit any more. -/
theorem Ends.limited {limit : Nat} {pieces : List String}
    {outcome : Except Unit Unit × NotingSink LimitedSink}
    (hends : Ends (.empty limit) pieces outcome) :
    outcome.2.sink.content.utf8ByteSize ≤ limit ∧
      ((outcome.1 = .ok () ∧ outcome.2.sink.content = String.join pieces ∧
          outcome.2.offered = pieces) ∨
        (outcome.1 = .error () ∧ ∃ taken refused rest, pieces = taken ++ refused :: rest ∧
          outcome.2.offered = taken ++ [refused] ∧
          outcome.2.sink.content = String.join taken ∧
          limit < outcome.2.sink.content.utf8ByteSize + refused.utf8ByteSize)) := by
  have hempty : "".utf8ByteSize ≤ limit := Nat.zero_le limit
  cases hends with
  | @taken _ after htakes =>
      obtain ⟨htakes, hoffered⟩ := NotingSink.takes htakes
      obtain ⟨hafter, hwithin⟩ := LimitedSink.takes htakes hempty
      have hcontent : after.sink.content = String.join pieces := by
        rw [hafter]
        exact String.empty_append
      exact ⟨hwithin, .inl ⟨rfl, hcontent, hoffered⟩⟩
  | @refused taken refused rest between after htakes hrefused =>
      obtain ⟨htakes, hoffered⟩ := NotingSink.takes htakes
      obtain ⟨hbetween, hwithin⟩ := LimitedSink.takes htakes hempty
      obtain ⟨hrefused, hnoted⟩ := NotingSink.write_eq hrefused
      obtain ⟨hafter, hlarge⟩ := LimitedSink.write_of_error hrefused
      have hcontent : between.sink.content = String.join taken := by
        rw [hbetween]
        exact String.empty_append
      have hlimit : between.sink.limit = limit := by
        rw [hbetween]
        rfl
      rw [hoffered] at hnoted
      rw [hlimit] at hlarge
      -- The refused piece leaves the sink as the pieces before it have left it.
      rw [← hafter] at hcontent hlarge hwithin
      exact ⟨hwithin, .inr ⟨rfl, taken, refused, rest, rfl, hnoted, hcontent, hlarge⟩⟩

/-! ## Listings -/

/-- What is promised about listing a program into an empty sink with a limit. -/
structure StopsAtLimit (program : List UInt8) (limit : Nat)
    (outcome : Except Unit Unit × NotingSink LimitedSink) : Prop where
  /-- It is the outcome of a sink that notes nothing. -/
  unnoted : writeTo (LimitedSink.mk "" limit) program = (outcome.1, outcome.2.sink)
  succeeds : outcome.1 = .ok () ↔ (text program).utf8ByteSize ≤ limit
  whole : outcome.1 = .ok () →
    outcome.2.sink.content = text program ∧ outcome.2.offered = pieces program
  /-- Something is missing of a listing that was refused. -/
  part : outcome.1 = .error () →
    ∃ missing, missing ≠ "" ∧ outcome.2.sink.content ++ missing = text program
  within : outcome.2.sink.content.utf8ByteSize ≤ limit
  /-- The refused piece is the last that is offered, and all before it are taken. -/
  last : outcome.1 = .error () → ∃ taken refused rest,
    pieces program = taken ++ refused :: rest ∧ outcome.2.offered = taken ++ [refused] ∧
      outcome.2.sink.content = String.join taken ∧
      limit < outcome.2.sink.content.utf8ByteSize + refused.utf8ByteSize

/-- A program of any length is listed into a sink with any limit up to the first piece that
does not fit. -/
theorem writeTo_stopsAtLimit (program : List UInt8) (limit : Nat) :
    StopsAtLimit program limit (writeTo (NotingSink.empty limit) program) := by
  generalize houtcome : writeTo (NotingSink.empty limit) program = outcome
  have hunnoted : writeTo (LimitedSink.mk "" limit) program = (outcome.1, outcome.2.sink) :=
    houtcome ▸ (NotingSink.empty limit).writeAll_sink (pieces program)
  have htext : text program = String.join (pieces program) := rfl
  have hends : Ends (.empty limit) (pieces program) outcome := houtcome ▸ writeAll_ends _ _
  obtain ⟨hwithin, ⟨hok, hcontent, hoffered⟩ |
    ⟨herror, taken, refused, rest, hpieces, hoffered, hcontent, hlarge⟩⟩ := hends.limited
  · rw [← htext] at hcontent
    exact {
      unnoted := hunnoted
      succeeds := iff_of_true hok (hcontent ▸ hwithin)
      whole := fun _ => ⟨hcontent, hoffered⟩
      part := fun herror => nomatch hok.symm.trans herror
      within := hwithin
      last := fun herror => nomatch hok.symm.trans herror }
  · have hall : outcome.2.sink.content ++ (refused ++ String.join rest) = text program := by
      rw [htext, hpieces, String.join_append, String.join_cons, hcontent]
    have hsize : outcome.2.sink.content.utf8ByteSize + (refused.utf8ByteSize +
        (String.join rest).utf8ByteSize) = (text program).utf8ByteSize := by
      rw [← hall, String.utf8ByteSize_append, String.utf8ByteSize_append]
    have hmissing : refused ++ String.join rest ≠ "" := by
      intro hnothing
      have hzero := congrArg String.utf8ByteSize hnothing
      rw [String.utf8ByteSize_append, String.utf8ByteSize_empty] at hzero
      omega
    exact {
      unnoted := hunnoted
      succeeds := iff_of_false (fun hok => nomatch hok.symm.trans herror) (by omega)
      whole := fun hok => nomatch hok.symm.trans herror
      part := fun _ => ⟨_, hmissing, hall⟩
      within := hwithin
      last := fun _ => ⟨taken, refused, rest, hpieces, hoffered, hcontent, hlarge⟩ }

/-- The digits of the word do not fit behind the colon, but the blank behind them would. -/
example : (writeTo (NotingSink.empty 9) [0xFF, 0x80]).2 =
    ⟨⟨"0200: ", 9⟩, ["0", "200", ": ", "FF80"]⟩ := by
  decide +kernel

end Listing
end ChipEight
