/-
# IdlBindings.Pattern.Search: the leftmost match.

The threads of a program run through the text side by side, in order of preference.  Of two threads
at one instruction only the preferred one goes on, so the number of threads is bounded by the
program.  The match is the one of the preferred thread among those that start leftmost.
-/
import IdlBindings.Pattern.Program

namespace IdlBindings.Pattern

/-! ## Places -/

/-- A place in a text: the characters on either side of it and how many stand in front. -/
structure Place where
  before : Option Char
  behind : Option Char
  offset : Nat

/-- Whether a character on one side of a place belongs to a word. -/
def isWordAt (ascii : Bool) : Option Char → Bool
  | some c => if ascii then Text.CharRanges.has CharSet.asciiWord c else Text.isWord c
  | none => false

/-- Whether a condition holds at a place. -/
def Look.holds (place : Place) : Look → Bool
  | .startText => place.offset == 0
  | .endText => place.behind.isNone
  | .startLine => place.before.all (· == '\n')
  | .endLine => place.behind.all (· == '\n')
  | .startLineCrlf =>
    match place.before with
    | none => true
    | some c => c == '\n' || (c == '\r' && place.behind != some '\n')
  | .endLineCrlf =>
    match place.behind with
    | none => true
    | some c => c == '\r' || (c == '\n' && place.before != some '\r')
  | .word kind ascii =>
    let before := isWordAt ascii place.before
    let behind := isWordAt ascii place.behind
    match kind with
    | .wordBoundary => before != behind
    | .notWordBoundary => before == behind
    | .wordStart => !before && behind
    | .wordEnd => before && !behind
    | .wordStartHalf => !before
    | .wordEndHalf => !behind
    | _ => false

/-! ## Threads -/

/-- The places that a thread has noted: two for each group, and for the whole match. -/
abbrev Slots := List (Nat × Nat)

/-- A thread that waits for a character: where it goes on after one of the set. -/
structure Thread where
  set : CharSet
  next : Nat
  slots : Slots

/-- The threads at a place, the preferred ones first.  They end at the first complete match. -/
structure Threads where
  waiting : List Thread
  complete : Option Slots

/-- Runs threads up to their next character.  An instruction that a preferred thread has reached is
not entered again. -/
def settle (program : Program) (place : Place) :
    Nat → List (Nat × Slots) → Array Bool → List Thread → Threads
  | 0, _, _, waiting => ⟨waiting.reverse, none⟩
  | _, [], _, waiting => ⟨waiting.reverse, none⟩
  | fuel + 1, (number, slots) :: rest, seen, waiting =>
    if seen[number]?.getD true then
      settle program place fuel rest seen waiting
    else
      let seen := seen.setIfInBounds number true
      match program.code[number]? with
      | none => settle program place fuel rest seen waiting
      | some (.chars set next) => settle program place fuel rest seen (⟨set, next, slots⟩ :: waiting)
      | some (.look condition next) =>
        if condition.holds place then
          settle program place fuel ((next, slots) :: rest) seen waiting
        else
          settle program place fuel rest seen waiting
      | some (.split targets) =>
        settle program place fuel (targets.map (·, slots) ++ rest) seen waiting
      | some (.save slot next) =>
        settle program place fuel ((next, (slot, place.offset) :: slots) :: rest) seen waiting
      | some .done => ⟨waiting.reverse, some ((1, place.offset) :: slots)⟩

/-- Runs threads over the text behind a place.  A new thread starts at every place until a match is
complete; `best` is the last complete match. -/
def run (program : Program) (before : Option Char) (offset : Nat) (threads : List (Nat × Slots))
    (best : Option Slots) (text : List Char) : Option Slots :=
  let place : Place := ⟨before, text.head?, offset⟩
  let threads := if best.isNone then threads ++ [(program.start, [(0, offset)])] else threads
  let fuel := program.edges + threads.length
  let settled := settle program place fuel threads (Array.replicate program.code.size false) []
  let best := match settled.complete with
    | some slots => some slots
    | none => best
  match text with
  | [] => best
  | c :: rest =>
    let next := settled.waiting.filterMap fun thread =>
      if Text.CharRanges.has thread.set c then some (thread.next, thread.slots) else none
    if next.isEmpty && best.isSome then best
    else run program (some c) (offset + 1) next best rest

/-! ## Matches -/

/-- A match: where it starts and ends, and the places of its groups. -/
structure Match where
  start : Nat
  stop : Nat
  slots : Slots

/-- The match that complete slots stand for. -/
def Match.ofSlots (slots : Slots) : Match :=
  ⟨(slots.lookup 0).getD 0, (slots.lookup 1).getD 0, slots⟩

/-- The text of a group, if it took part in the match. -/
def Match.group? (found : Match) (text : List Char) (index : Nat) : Option (List Char) :=
  if index = 0 then
    some ((text.drop found.start).take (found.stop - found.start))
  else
    match found.slots.lookup (2 * index), found.slots.lookup (2 * index + 1) with
    | some start, some stop => some ((text.drop start).take (stop - start))
    | _, _ => none

/-- The leftmost match at or behind an offset. -/
def search (program : Program) (text : List Char) (offset : Nat) : Option Match :=
  if offset ≤ text.length then
    let before := if offset = 0 then none else text[offset - 1]?
    (run program before offset [] none (text.drop offset)).map Match.ofSlots
  else
    none

/-- All matches that do not overlap, from an offset on.  An empty match right behind the previous
match does not count; `last` is where that one ended. -/
def searchAll (program : Program) (text : List Char) :
    Nat → Nat → Option Nat → List Match
  | 0, _, _ => []
  | fuel + 1, offset, last =>
    match search program text offset with
    | none => []
    | some found =>
      if found.start = found.stop ∧ some found.stop = last then
        match search program text (offset + 1) with
        | none => []
        | some found => found :: searchAll program text fuel found.stop (some found.stop)
      else
        found :: searchAll program text fuel found.stop (some found.stop)

/-- All matches in a text. -/
def allMatches (program : Program) (text : List Char) : List Match :=
  searchAll program text (2 * text.length + 2) 0 none

end IdlBindings.Pattern
