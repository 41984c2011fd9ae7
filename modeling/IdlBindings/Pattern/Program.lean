/-
# IdlBindings.Pattern.Program: regular expressions as programs.

A program is an array of instructions.  A thread runs through it: it takes a character, checks a
condition, notes its place, or goes on at several instructions at once, the preferred one first.
-/
import IdlBindings.Pattern.Regex

namespace IdlBindings.Pattern

/-- One step of a thread. -/
inductive Instruction where
  /-- Takes a character of a set. -/
  | chars (set : CharSet) (next : Nat)
  /-- Goes on if a condition holds. -/
  | look (condition : Look) (next : Nat)
  /-- Goes on at every target, the preferred ones first. -/
  | split (targets : List Nat)
  /-- Notes the place. -/
  | save (slot : Nat) (next : Nat)
  /-- The match is complete. -/
  | done

/-- A program with the instruction at which it starts. -/
structure Program where
  code : Array Instruction
  start : Nat

namespace Program

/-- Builds a program. -/
abbrev Builder := StateM (Array Instruction)

/-- Adds an instruction and gives its number. -/
def emit (instruction : Instruction) : Builder Nat := fun code =>
  (code.size, code.push instruction)

/-- Puts an instruction at a number that was given out before. -/
def place (number : Nat) (instruction : Instruction) : Builder Unit :=
  modify fun code => code.setIfInBounds number instruction

/-- The targets of a choice between a turn and the end: a greedy choice prefers the turn. -/
def choice (greedy : Bool) (turn next : Nat) : Instruction :=
  .split (if greedy then [turn, next] else [next, turn])

/-- The code in front of `next`, a number of times. -/
def times (piece : Nat → Builder Nat) : Nat → Nat → Builder Nat
  | 0, next => pure next
  | n + 1, next => do
    let front ← piece next
    times piece n front

/-- Up to a number of turns in front of `behind`, each of which may lead to `next` instead. -/
def upTo (piece : Nat → Builder Nat) (greedy : Bool) (next : Nat) : Nat → Nat → Builder Nat
  | 0, behind => pure behind
  | n + 1, behind => do
    let turn ← piece behind
    let front ← emit (choice greedy turn next)
    upTo piece greedy next n front

/-- At least one turn: gives the start of the turn and the choice behind it. -/
def loop (piece : Nat → Builder Nat) (greedy : Bool) (next : Nat) : Builder (Nat × Nat) := do
  let again ← emit .done
  let turn ← piece again
  place again (choice greedy turn next)
  pure (turn, again)

mutual
/-- The code of an expression in front of `next`; gives the number of its first instruction. -/
def build : Regex → Nat → Builder Nat
  | .empty, next => pure next
  | .literal text, next => text.foldrM (fun c behind => emit (.chars (CharSet.single c) behind)) next
  | .chars set _, next => emit (.chars set next)
  | .look condition, next => emit (.look condition next)
  | .repeated sub least most greedy, next =>
    match most with
    | some most => do
      let tail ← upTo (build sub) greedy next (most - least) next
      times (build sub) least tail
    | none => do
      let (turn, again) ← loop (build sub) greedy next
      match least with
      | 0 =>
        -- A turn that may take no character needs a choice of its own in front, so that the end is
        -- reached in the right order of preference.
        if sub.takesChar then pure again else emit (choice greedy turn next)
      | least + 1 => times (build sub) least turn
  | .capture index sub, next => do
    let close ← emit (.save (2 * index + 1) next)
    let inner ← build sub close
    emit (.save (2 * index) inner)
  | .alternation branches, next => do
    let starts ← buildEach branches next
    emit (.split starts)
  | .concat parts, next => buildAll parts next
/-- The code of expressions that follow each other. -/
def buildAll : List Regex → Nat → Builder Nat
  | [], next => pure next
  | r :: rest, next => do
    let behind ← buildAll rest next
    build r behind
/-- The code of expressions that stand beside each other. -/
def buildEach : List Regex → Nat → Builder (List Nat)
  | [], _ => pure []
  | r :: rest, next => do
    let first ← build r next
    let others ← buildEach rest next
    pure (first :: others)
end

/-- The program of an expression. -/
def ofRegex (regex : Regex) : Program :=
  let (start, code) := build regex 0 #[.done]
  ⟨code, start⟩

/-- How many steps a round through the program can take without a character. -/
def edges (program : Program) : Nat :=
  program.code.foldl (fun n instruction => n + match instruction with
    | .split targets => targets.length + 1
    | _ => 2) 1

end Program

end IdlBindings.Pattern
