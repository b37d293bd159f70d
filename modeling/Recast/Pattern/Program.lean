import Recast.Pattern.Syntax

/-!
# Programs of patterns

A pattern becomes a list of states. Where a state has several successors the first ones are
preferred, so that the first match found is the preferred one.
-/

namespace Recast.Pattern

inductive State where
  | set (ranges : Ranges) (next : Nat)
  | look (l : Look) (next : Nat)
  | save (slot : Nat) (next : Nat)
  | ahead (negated : Bool) (entry next : Nat)
  | choice (nexts : List Nat)
  | accept
deriving Inhabited

abbrev Program := Array State

namespace Program

/-- A choice between going on with the loop and leaving it. -/
def fork (greedy : Bool) (body leave : Nat) : State :=
  .choice (if greedy then [body, leave] else [leave, body])

/-- Builds a piece of program `count` times, each copy leading to the one built before it. -/
def copies (build : Nat → Program → Nat × Program) : (count : Nat) → (next : Nat) → Program →
    Nat × Program
  | 0, next, p => (next, p)
  | count + 1, next, p =>
    let (entry, p) := build next p
    copies build count entry p

/-- Optional copies, each inside the one before it: all of them leave to the same place. -/
def nested (build : Nat → Program → Nat × Program) (greedy : Bool) (leave : Nat) :
    (count : Nat) → (next : Nat) → Program → Nat × Program
  | 0, next, p => (next, p)
  | count + 1, next, p =>
    let (body, p) := build next p
    nested build greedy leave count p.size (p.push (fork greedy body leave))

/-- Copies that may go on without end, the last one in a loop; at least one. -/
def unbounded (build : Nat → Program → Nat × Program) (greedy : Bool) (least next : Nat)
    (p : Program) : Nat × Program :=
  let again := p.size
  let (body, p) := build again (p.push .accept)
  copies build (least - 1) body (p.set! again (fork greedy body next))

/-- Any number of copies. A body that can match the empty text is entered once at most in its place,
and leaving the loop then comes before anything else it could try. -/
def star (build : Nat → Program → Nat × Program) (nullable greedy : Bool) (next : Nat)
    (p : Program) :
    Nat × Program :=
  let again := p.size
  let (body, p) := build again (p.push .accept)
  let p := p.set! again (fork greedy body next)
  if nullable then (p.size, p.push (fork greedy body next)) else (again, p)

/-- Adds the states of a pattern that goes on at `next`, and gives its first state. -/
def build : Expr → (next : Nat) → Program → Nat × Program
  | .empty, next, p => (next, p)
  | .set ranges, next, p => (p.size, p.push (.set ranges next))
  | .look l, next, p => (p.size, p.push (.look l next))
  | .seq a b, next, p =>
    let (entry, p) := build b next p
    build a entry p
  | .either a b, next, p =>
    let (first, p) := build a next p
    let (second, p) := build b next p
    (p.size, p.push (.choice [first, second]))
  | .group n e, next, p =>
    let (entry, p) := build e p.size (p.push (.save (2 * n + 1) next))
    (p.size, p.push (.save (2 * n) entry))
  | .ahead negated e, next, p =>
    let (entry, p) := build e p.size (p.push .accept)
    (p.size, p.push (.ahead negated entry next))
  | .times e least none greedy, next, p =>
    if least == 0 then star (build e) e.nullable greedy next p
    else unbounded (build e) greedy least next p
  | .times e least (some most) greedy, next, p =>
    let (entry, p) := nested (build e) greedy next (most - least) next p
    copies (build e) least entry p

/-- The program of a pattern, and its first state. -/
def ofExpr (e : Expr) : Nat × Program := build e 0 #[.accept]

end Program

end Recast.Pattern
