import OrderedLexer.Regex.Expr
import OrderedLexer.Unicode.Letter

/-!
# Programs

* `Program.ofExpr` turns an expression into steps that consume a character, test a position, or
  choose between several ways to go on, the first preferred.
* `Program.closure` follows the steps that consume nothing. Each step is followed once, by the most
  preferred way to it, which is what ends empty repetitions.
* `Program.matchLength?` gives the length of the preferred match at the start of a text.
-/

namespace OrderedLexer.Regex

open Unicode (isWord isAsciiWord)

/-- A step of a program, with the places of the steps that follow it. -/
inductive Step where
  | char (set : CharSet) (next : Nat)
  | look (l : Look) (next : Nat)
  | choose (nexts : List Nat)
  | accept
deriving DecidableEq, Inhabited

/-- The number of steps that a step hands on to without consuming a character. -/
def Step.fanOut : Step → Nat
  | .look _ _ => 1
  | .choose nexts => nexts.length
  | _ => 0

/-- Steps under construction. -/
abbrev Steps := Array Step

/-- Append a step and give its place. -/
def Steps.add (steps : Steps) (step : Step) : Nat × Steps := (steps.size, steps.push step)

/-! ### From expressions to steps -/

/-- The step that enters `body` or goes on, in the order of preference. -/
def branch (greedy : Bool) (body next : Nat) : Step :=
  .choose (if greedy then [body, next] else [next, body])

/-- Something that can be put in front of the step at a given place: it gives its first place. -/
abbrev Emitter := Nat → Steps → Nat × Steps

/-- Put `n` copies in front. -/
def Emitter.times (body : Emitter) : Nat → Emitter
  | 0, next, steps => (next, steps)
  | n + 1, next, steps =>
    let (next, steps) := body.times n next steps
    body next steps

/-- Put up to `n` copies in front, each of which may be the last. -/
def Emitter.upTo (body : Emitter) (greedy : Bool) (last : Nat) : Nat → Steps → Nat × Steps
  | 0, steps => (last, steps)
  | n + 1, steps =>
    let (rest, steps) := body.upTo greedy last n steps
    let (entry, steps) := body rest steps
    steps.add (branch greedy entry last)

/-- Put a loop in front that runs at least once: the place of its body and that of its choice. -/
def Emitter.loop (body : Emitter) (greedy : Bool) (next : Nat) (steps : Steps) :
    Nat × Nat × Steps :=
  let (choice, steps) := steps.add (.choose [])
  let (entry, steps) := body choice steps
  (entry, choice, steps.setIfInBounds choice (branch greedy entry next))

/-- Put a loop in front that may be left at once. A body that may be empty is tried before the loop
    is left, and again only after it has consumed something. -/
def Emitter.star (body : Emitter) (mayBeEmpty greedy : Bool) : Emitter := fun next steps =>
  let (entry, choice, steps) := body.loop greedy next steps
  if mayBeEmpty then steps.add (branch greedy entry next) else (choice, steps)

/-- Put a repetition in front. -/
def Emitter.repeated (body : Emitter) (mayBeEmpty greedy : Bool) (min : Nat) (max : Option Nat) :
    Emitter := fun next steps =>
  match max, min with
  | none, 0 => body.star mayBeEmpty greedy next steps
  | none, n + 1 =>
    let (entry, _, steps) := body.loop greedy next steps
    body.times n entry steps
  | some max, min =>
    let (entry, steps) := body.upTo greedy next (max - min) steps
    body.times min entry steps

mutual

/-- Put an expression in front of the step at `next`. -/
def Expr.emit : Expr → Emitter
  | .empty => fun next steps => (next, steps)
  | .literal text => fun next steps =>
    text.foldr (fun c (next, steps) => Steps.add steps (.char (CharSet.singleton c) next))
      (next, steps)
  | .cls set => fun next steps => steps.add (.char set next)
  | .look l => fun next steps => steps.add (.look l next)
  | .repetition min max greedy sub =>
    Emitter.repeated sub.emit (!sub.minLength?.any (0 < ·)) greedy min max
  | .capture _ sub => sub.emit
  | .concat items => emitConcat items
  | .alternation items => fun next steps =>
    let (entries, steps) := emitEach items next steps
    steps.add (.choose entries)

/-- Put expressions in front, the first foremost. -/
def emitConcat : List Expr → Emitter
  | [] => fun next steps => (next, steps)
  | item :: rest => fun next steps =>
    let (next, steps) := emitConcat rest next steps
    item.emit next steps

/-- Put each expression in front of the same step. -/
def emitEach : List Expr → Nat → Steps → List Nat × Steps
  | [], _, steps => ([], steps)
  | item :: rest, next, steps =>
    let (entry, steps) := item.emit next steps
    let (entries, steps) := emitEach rest next steps
    (entry :: entries, steps)

end

/-- A pattern in the form in which it runs. -/
structure Program where
  steps : Array Step
  /-- The place of the first step. -/
  start : Nat
  /-- The sum of the steps' fan-outs. -/
  fanOut : Nat
deriving DecidableEq

def Program.ofExpr (e : Expr) : Program :=
  let (start, steps) := e.emit 0 #[.accept]
  ⟨steps, start, steps.foldl (fun n s => n + s.fanOut) 0⟩

/-! ### Positions -/

def WordTest.holds (test : WordTest) (before after : Bool) : Bool :=
  match test with
  | .boundary => before != after
  | .noBoundary => before == after
  | .start => !before && after
  | .finish => before && !after
  | .startHalf => !before
  | .finishHalf => !after

/-- Whether an assertion holds between two characters; `none` is the edge of the text. -/
def Look.holds (l : Look) (before after : Option Char) : Bool :=
  match l with
  | .textStart => before.isNone
  | .textEnd => after.isNone
  | .lineStart => before.all (· = '\n')
  | .lineEnd => after.all (· = '\n')
  | .lineStartCrlf => before.all (· = '\n') || (before = some '\r' && after != some '\n')
  | .lineEndCrlf => after.all (· = '\r') || (after = some '\n' && before != some '\r')
  | .word test unicode =>
    let isWord := if unicode then isWord else isAsciiWord
    test.holds (before.any isWord) (after.any isWord)

/-! ### Running -/

/-- The ways to go on at a position, the most preferred first, as sets of characters with the steps
    behind them; and whether, after all these, the program accepts there. -/
structure Frontier where
  ways : List (CharSet × Nat)
  accepts : Bool
deriving DecidableEq

/-- Follow the steps on the stack until one accepts; `fuel` bounds the steps taken off the stack.
    The ways found come last first. -/
def Program.follow (p : Program) (before after : Option Char) :
    Nat → List Nat → Array Bool → List (CharSet × Nat) → Frontier
  | 0, _, _, ways => ⟨ways.reverse, false⟩
  | _, [], _, ways => ⟨ways.reverse, false⟩
  | fuel + 1, place :: stack, seen, ways =>
    if seen.getD place true then p.follow before after fuel stack seen ways
    else
      let seen := seen.setIfInBounds place true
      match p.steps.getD place .accept with
      | .char set next => p.follow before after fuel stack seen ((set, next) :: ways)
      | .look l next =>
        let stack := if l.holds before after then next :: stack else stack
        p.follow before after fuel stack seen ways
      | .choose nexts => p.follow before after fuel (nexts ++ stack) seen ways
      | .accept => ⟨ways.reverse, true⟩

/-- The ways to go on from the given steps, the first preferred. -/
def Program.closure (p : Program) (before after : Option Char) (places : List Nat) : Frontier :=
  p.follow before after (places.length + p.fanOut) places
    (Array.replicate p.steps.size false) []

/-- The steps behind the ways that take a character. -/
def Frontier.after (f : Frontier) (c : Char) : List Nat :=
  f.ways.filterMap fun (set, next) => if set.contains c then some next else none

/-- Go on from a frontier through a text of which `consumed` characters are passed. `best` is the
    length of the preferred match so far; a way that is still open is preferred to it. -/
def Program.run (p : Program) (f : Frontier) (consumed : Nat) (best : Option Nat) :
    List Char → Option Nat
  | [] => if f.accepts then some consumed else best
  | c :: rest =>
    let best := if f.accepts then some consumed else best
    match f.after c with
    | [] => best
    | places => p.run (p.closure (some c) rest.head? places) (consumed + 1) best rest

/-- The length of the preferred match at the start of a text. -/
def Program.matchLength? (p : Program) (text : List Char) : Option Nat :=
  p.run (p.closure none text.head? [p.start]) 0 none text

end OrderedLexer.Regex
