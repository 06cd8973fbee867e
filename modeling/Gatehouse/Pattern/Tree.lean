import Gatehouse.Pattern.CharSet

/-!
# Pattern trees

What a pattern means, as a tree: characters, tests of a position, sequences,
alternatives and repetitions.  Which of several matches is preferred does not
matter here, because a pattern only says whether a text has a match, so lazy
and greedy repetitions are one.
-/

namespace Gatehouse

/-- A test of a position in a text. -/
inductive Look where
  | start
  | finish
  | lineStart
  | lineEnd
  /-- The start of a line, where a carriage return also ends lines. -/
  | lineStartCrlf
  /-- The end of a line, where a carriage return also ends lines. -/
  | lineEndCrlf
  | wordEdge (word : CharSet)
  | noWordEdge (word : CharSet)
  | wordStart (word : CharSet)
  | wordEnd (word : CharSet)
  /-- No word character stands before. -/
  | wordStartHalf (word : CharSet)
  /-- No word character follows. -/
  | wordEndHalf (word : CharSet)
  deriving Repr

/-- The meaning of a pattern. -/
inductive PatternTree where
  | empty
  | one (set : CharSet)
  /-- Nothing, at a position that passes a test. -/
  | look (test : Look)
  | sequence (first second : PatternTree)
  | choice (first second : PatternTree)
  /-- A part a number of times; without `most`, any number from `least` on. -/
  | times (body : PatternTree) (least : Nat) (most : Option Nat)
  /-- A part that is remembered. -/
  | group (body : PatternTree)
  deriving Repr

end Gatehouse
