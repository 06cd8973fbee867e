import Gatehouse.Pattern.Tree

/-!
# Searching a text for a pattern

A pattern is run on all starting positions at once.  A set of positions is a
natural number with a bit for each, and a tree takes the set of positions where
a match may start to the set where it may end.  A repetition without a bound is
run until no new position turns up, so an empty match inside it does no harm.
-/

namespace Gatehouse

/-- A set of positions, as a number with a bit for each. -/
abbrev Positions := Nat

namespace Positions

def single (position : Nat) : Positions :=
  1 <<< position

/-- The positions of a set, the greatest first. -/
def toList (positions : Positions) : List Nat :=
  if _h : positions = 0 then []
  else
    let greatest := positions.log2
    greatest :: toList (positions - Nat.pow 2 greatest)
termination_by positions
decreasing_by
  exact Nat.sub_lt (Nat.pos_of_ne_zero _h) (Nat.two_pow_pos positions.log2)

/-- The positions of one set that are not in another. -/
def without (positions others : Positions) : Positions :=
  positions ^^^ (positions &&& others)

/-- Applies a step a number of times, or until it changes nothing. -/
def iterate (step : Positions → Positions) : Nat → Positions → Positions
  | 0, positions => positions
  | count + 1, positions =>
      let next := step positions
      if next = positions then positions else iterate step count next

/-- What a step reaches in at most a number of rounds: `seen` so far, of which
`fresh` was reached last. -/
def spread (step : Positions → Positions) : Nat → Positions → Positions → Positions
  | 0, seen, _ => seen
  | count + 1, seen, fresh =>
      let next := without (step fresh) seen
      if next = 0 then seen else spread step count (seen ||| next) next

end Positions

namespace Look

/-- The character before a position has a property. -/
def before (text : Array Nat) (position : Nat) (property : Nat → Bool) : Bool :=
  position != 0 && (text[position - 1]?).any property

/-- The character behind a position has a property. -/
def behind (text : Array Nat) (position : Nat) (property : Nat → Bool) : Bool :=
  (text[position]?).any property

/-- A position passes the test. -/
def holds (look : Look) (text : Array Nat) (position : Nat) : Bool :=
  match look with
  | .start => position == 0
  | .finish => position == text.size
  | .lineStart => position == 0 || before text position (· == 0x0A)
  | .lineEnd => position == text.size || behind text position (· == 0x0A)
  | .lineStartCrlf =>
      position == 0 || before text position (· == 0x0A) ||
        (before text position (· == 0x0D) && !behind text position (· == 0x0A))
  | .lineEndCrlf =>
      position == text.size || behind text position (· == 0x0D) ||
        (behind text position (· == 0x0A) && !before text position (· == 0x0D))
  | .wordEdge word => before text position word.contains != behind text position word.contains
  | .noWordEdge word => before text position word.contains == behind text position word.contains
  | .wordStart word => !before text position word.contains && behind text position word.contains
  | .wordEnd word => before text position word.contains && !behind text position word.contains
  | .wordStartHalf word => !before text position word.contains
  | .wordEndHalf word => !behind text position word.contains

end Look

namespace PatternTree

/-- Where a match may end, of those that start at one of the given positions. -/
def ends (text : Array Nat) : PatternTree → Positions → Positions
  | .empty, starts => starts
  | .one set, starts =>
      starts.toList.foldl (fun reached position =>
        if (text[position]?).any set.contains then reached ||| Positions.single (position + 1)
        else reached) 0
  | .look test, starts =>
      starts.toList.foldl (fun reached position =>
        if test.holds text position then reached ||| Positions.single position else reached) 0
  | .sequence first second, starts => second.ends text (first.ends text starts)
  | .choice first second, starts => first.ends text starts ||| second.ends text starts
  | .times body least most, starts =>
      let reached := Positions.iterate (body.ends text) least starts
      let more := match most with
        | some most => most - least
        | none => text.size + 1
      Positions.spread (body.ends text) more reached reached
  | .group body, starts => body.ends text starts

/-- The text has a match somewhere. -/
def isIn (tree : PatternTree) (text : String) : Bool :=
  let codes := (text.toList.map Char.toNat).toArray
  tree.ends codes (Nat.pow 2 (codes.size + 1) - 1) != 0

end PatternTree

end Gatehouse
