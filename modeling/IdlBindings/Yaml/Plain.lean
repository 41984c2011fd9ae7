/-
# IdlBindings.Yaml.Plain: texts without quotes.

A plain text ends where structure begins: at a colon before a blank, at a comment, at the edge of a
document, at a line that is not indented, and inside brackets at a comma or a bracket.
-/
import IdlBindings.Yaml.Cursor

namespace IdlBindings.Yaml.Plain

/-- The marks that end a plain text inside brackets. -/
def flowMarks : List Char :=
  [',', '[', ']', '\x7b', '\x7d']

/-- Whether the word ends here. -/
def endsWord (inFlow : Bool) (cursor : Cursor) : Bool :=
  match cursor.next? with
  | none => true
  | some c =>
    isBlank c || isBreak c || (c == ':' && isSpaceOrEnd (cursor.peek? 1))
      || (inFlow && flowMarks.contains c)

/-- Whether a colon stands where it has no meaning: inside brackets before a mark. -/
def isStrayColon (inFlow : Bool) (cursor : Cursor) : Bool :=
  inFlow && cursor.startsWith ':'
    && (cursor.peek? 1).any fun c => c == '?' || flowMarks.contains c

/-- Reads a word. -/
def word (inFlow : Bool) : Nat → Cursor → Option (List Char × Cursor)
  | 0, cursor => some ([], cursor)
  | steps + 1, cursor =>
    match cursor.next? with
    | none => some ([], cursor)
    | some c =>
      if isStrayColon inFlow cursor then none
      else if endsWord inFlow cursor then some ([], cursor)
      else do
        let (cs, after) ← word inFlow steps (cursor.skip 1)
        some (c :: cs, after)

/-- Reads words until structure begins.  `gap` is what was read since the last word; it belongs to the
text only if another word follows.  The answer says whether a line has ended behind the last word. -/
def scan (inFlow : Bool) (indent : Int) : Nat → Gap → Cursor → Option (List Char × Bool × Cursor)
  | 0, gap, cursor => some ([], gap.broken, cursor)
  | steps + 1, gap, cursor =>
    if cursor.atDocumentEdge || cursor.startsWith '#' then some ([], gap.broken, cursor)
    else do
      let (cs, after) ← word inFlow cursor.rest.length cursor
      let pending : Gap := if cs.isEmpty then gap else {}
      let text := if cs.isEmpty then [] else gap.fold ++ cs
      if !after.next?.any fun c => isBlank c || isBreak c then some (text, pending.broken, after)
      else
        let (next, start) ← Gap.scan indent after.rest.length pending after
        if !inFlow && (start.column : Int) < indent then some (text, next.broken, start)
        else
          let (more, broken, stop) ← scan inFlow indent steps next start
          some (text ++ more, broken, stop)

/-- Reads a plain text inside a block of the given indentation. -/
def read (inFlow : Bool) (indent : Int) (cursor : Cursor) : Option (List Char × Bool × Cursor) :=
  scan inFlow (indent + 1) (cursor.rest.length + 1) {} cursor

end IdlBindings.Yaml.Plain
