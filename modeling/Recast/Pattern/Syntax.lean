import Recast.Pattern.CharSet

/-!
# Patterns

What a pattern means once its flags are applied: characters of a set, conditions on a place, and
their combinations.
-/

namespace Recast.Pattern

/-- A condition on a place in the text. -/
inductive Look where
  | start
  | stop
  | lineStart
  | lineStop
  /-- Ends of lines that may end in a carriage return and a line feed. -/
  | returnLineStart
  | returnLineStop
  | wordBoundary (ascii : Bool)
  | noWordBoundary (ascii : Bool)
  | wordStart (ascii : Bool)
  | wordStop (ascii : Bool)
  | wordStartHalf (ascii : Bool)
  | wordStopHalf (ascii : Bool)
deriving DecidableEq, Repr

inductive Expr where
  | empty
  | set (ranges : Ranges)
  | look (l : Look)
  | seq (a b : Expr)
  | either (a b : Expr)
  | times (e : Expr) (least : Nat) (most : Option Nat) (greedy : Bool)
  | group (number : Nat) (e : Expr)
  /-- A place at which the pattern matches, or does not match; nothing is taken from the text. -/
  | ahead (negated : Bool) (e : Expr)
deriving Repr, Inhabited

/-- Whether the pattern can match the empty text. -/
def Expr.nullable : Expr → Bool
  | empty => true
  | set _ => false
  | look _ => true
  | seq a b => a.nullable && b.nullable
  | either a b => a.nullable || b.nullable
  | times e least _ _ => least == 0 || e.nullable
  | group _ e => e.nullable
  | ahead .. => true

end Recast.Pattern
