/-
# IdlBindings.Yaml.Node: from tokens to a tree.

A document is one node.  A node can have an anchor, and an alias stands for the node of an anchor in
front of it.
-/
import IdlBindings.Yaml.Lexer

namespace IdlBindings.Yaml

/-- A node of a document.  Anchors are known by numbers. -/
inductive Node where
  | scalar (anchor : Option Nat) (tag : Option String) (form : ScalarForm) (text : String)
  | sequence (anchor : Option Nat) (items : List Node)
  | mapping (anchor : Option Nat) (pairs : List (Node × Node))
  | aliasOf (number : Nat)

namespace Node

/-! ## Anchors -/

mutual

/-- The nodes with an anchor, in the order in which they begin. -/
def anchors : Node → List (Nat × Node)
  | scalar anchor tag form text =>
    anchor.toList.map fun number => (number, scalar anchor tag form text)
  | sequence anchor items =>
    (anchor.toList.map fun number => (number, sequence anchor items)) ++ anchorsOfItems items
  | mapping anchor pairs =>
    (anchor.toList.map fun number => (number, mapping anchor pairs)) ++ anchorsOfPairs pairs
  | aliasOf _ => []

/-- The nodes with an anchor in a list. -/
def anchorsOfItems : List Node → List (Nat × Node)
  | [] => []
  | item :: rest => anchors item ++ anchorsOfItems rest

/-- The nodes with an anchor in keys and values. -/
def anchorsOfPairs : List (Node × Node) → List (Nat × Node)
  | [] => []
  | (key, value) :: rest => anchors key ++ anchors value ++ anchorsOfPairs rest

end

/-- A node that is not written: an empty text. -/
def absent : Node :=
  scalar none none .plain ""

/-! ## Parsing -/

/-- What is still to be parsed, and what is known by then. -/
structure Parsing where
  tokens : List Token
  /-- The anchors in front, with their numbers. -/
  names : List (String × Nat) := []
  /-- The handles of tags, with their meanings. -/
  handles : List (String × String) := []

/-- A parser of nodes. -/
abbrev Parser := StateT Parsing Option

/-- The next token. -/
def peek : Parser (Option Token) := do
  pure (← get).tokens.head?

/-- Passes the next token. -/
def advance : Parser Unit :=
  modify fun parsing => { parsing with tokens := parsing.tokens.drop 1 }

/-- Passes the next token if it is the given one, and says so. -/
def eat (token : Token) : Parser Bool := do
  if (← peek) = some token then
    advance
    pure true
  else pure false

/-- Whether the next token is one of the given ones. -/
def nextIn (tokens : List Token) : Parser Bool := do
  pure ((← peek).any tokens.contains)

/-- Names an anchor.  It gets the number of different names in front of it. -/
def nameAnchor (name : String) : Parser Nat := do
  let parsing ← get
  let number := parsing.names.length
  let others := parsing.names.filter fun entry => entry.1 != name
  set { parsing with names := (name, number) :: others }
  pure number

/-- The number of the anchor of a name. -/
def anchorNumber (name : String) : Parser Nat := do
  ((← get).names.lookup name : Option Nat)

/-- A tag in full. -/
def fullTag (handle suffix : String) : Parser String := do
  if handle.isEmpty then pure suffix
  else
    let meaning ← ((← get).handles.lookup handle : Option String)
    pure (meaning ++ suffix)

/-- Reads an anchor, if it is next. -/
def anchor? : Parser (Option Nat) := do
  match ← peek with
  | some (.anchor name) =>
    advance
    some <$> nameAnchor name
  | _ => pure none

/-- Reads a tag, if it is next. -/
def tag? : Parser (Option String) := do
  match ← peek with
  | some (.tag handle suffix) =>
    advance
    some <$> fullTag handle suffix
  | _ => pure none

/-- Reads an anchor and a tag, in either order. -/
def properties : Parser (Option Nat × Option String) := do
  match ← anchor? with
  | some anchor => pure (some anchor, ← tag?)
  | none =>
    match ← tag? with
    | some tag => pure (← anchor?, some tag)
    | none => pure (none, none)

/-- The tag of a text.  A lone exclamation mark says nothing. -/
def textTag (tag : Option String) : Option String :=
  tag.filter (· != "!")

mutual

/-- A node.  Blocks are possible outside of brackets; the items of a list without an indentation of its
own are possible where `bare` says so. -/
def parseNode (block bare : Bool) : Nat → Parser Node
  | 0 => failure
  | depth + 1 => do
    if let some (.aliasOf name) ← peek then
      advance
      return .aliasOf (← anchorNumber name)
    let (anchor, tag) ← properties
    match ← peek with
    | some (.scalar form text) =>
      advance
      return .scalar anchor (textTag tag) form text
    | some .flowSequenceStart =>
      advance
      return .sequence anchor (← parseFlowItems true depth)
    | some .flowMappingStart =>
      advance
      return .mapping anchor (← parseFlowPairs true depth)
    | some .blockEntry =>
      if bare then return .sequence anchor (← parseBareItems depth)
      else parseAbsent anchor tag
    | some .blockSequenceStart =>
      if block then
        advance
        return .sequence anchor (← parseItems depth)
      else parseAbsent anchor tag
    | some .blockMappingStart =>
      if block then
        advance
        return .mapping anchor (← parsePairs depth)
      else parseAbsent anchor tag
    | _ => parseAbsent anchor tag

/-- A node of which only an anchor or a tag is written. -/
def parseAbsent (anchor : Option Nat) (tag : Option String) : Parser Node := do
  if anchor.isSome || tag.isSome then return .scalar anchor tag .plain "" else failure

/-- The items of a list in a block. -/
def parseItems : Nat → Parser (List Node)
  | 0 => failure
  | depth + 1 => do
    if ← eat .blockEntry then
      let item ← if ← nextIn [.blockEntry, .blockEnd] then pure absent
        else parseNode true false depth
      return item :: (← parseItems depth)
    else if ← eat .blockEnd then return []
    else failure

/-- The items of a list without an indentation of its own. -/
def parseBareItems : Nat → Parser (List Node)
  | 0 => failure
  | depth + 1 => do
    if ← eat .blockEntry then
      let item ← if ← nextIn [.blockEntry, .key, .value, .blockEnd] then pure absent
        else parseNode true false depth
      return item :: (← parseBareItems depth)
    else return []

/-- The pairs of a block. -/
def parsePairs : Nat → Parser (List (Node × Node))
  | 0 => failure
  | depth + 1 => do
    if ← eat .key then
      let key ← if ← nextIn [.key, .value, .blockEnd] then pure absent
        else parseNode true true depth
      let value ← if ← eat .value then
          if ← nextIn [.key, .value, .blockEnd] then pure absent else parseNode true true depth
        else pure absent
      return (key, value) :: (← parsePairs depth)
    else if ← eat .blockEnd then return []
    else failure

/-- The items of a list in brackets.  A pair is an item too. -/
def parseFlowItems (first : Bool) : Nat → Parser (List Node)
  | 0 => failure
  | depth + 1 => do
    if ← eat .flowSequenceEnd then return []
    if !first then
      if !(← eat .flowEntry) then failure
    if ← eat .flowSequenceEnd then return []
    let item ← if ← eat .key then parseSinglePair depth else parseNode false false depth
    return item :: (← parseFlowItems false depth)

/-- A pair in a list in brackets.  Where the key is missing, a token is passed in its place. -/
def parseSinglePair : Nat → Parser Node
  | 0 => failure
  | depth + 1 => do
    let key ← if ← nextIn [.value, .flowEntry, .flowSequenceEnd] then
        advance
        pure absent
      else parseNode false false depth
    let value ← if ← eat .value then
        if ← nextIn [.flowEntry, .flowSequenceEnd] then pure absent else parseNode false false depth
      else pure absent
    return .mapping none [(key, value)]

/-- The pairs in brackets. -/
def parseFlowPairs (first : Bool) : Nat → Parser (List (Node × Node))
  | 0 => failure
  | depth + 1 => do
    if ← eat .flowMappingEnd then return []
    if !first then
      if !(← eat .flowEntry) then failure
    if ← eat .flowMappingEnd then return []
    if ← eat .key then
      let key ← if ← nextIn [.value, .flowEntry, .flowMappingEnd] then pure absent
        else parseNode false false depth
      let value ← if ← eat .value then
          if ← nextIn [.flowEntry, .flowMappingEnd] then pure absent else parseNode false false depth
        else pure absent
      return (key, value) :: (← parseFlowPairs false depth)
    else
      let key ← parseNode false false depth
      return (key, absent) :: (← parseFlowPairs false depth)

end

/-! ## Documents -/

/-- The handles that every document has. -/
def defaultHandles : List (String × String) :=
  [("!", "!"), ("!!", "tag:yaml.org,2002:")]

/-- Reads directives.  There is at most one version, and every handle has one meaning. -/
def directives (version : Bool) (handles : List (String × String)) :
    List Token → Option (List (String × String) × List Token)
  | .version major minor :: rest =>
    if version || major != 1 || (minor != 1 && minor != 2) then none
    else directives true handles rest
  | .tagDirective handle meaning :: rest =>
    if (handles.lookup handle).isSome then none
    else directives version (handles ++ [(handle, meaning)]) rest
  | tokens => some (handles, tokens)

/-- The only node of a stream of tokens.  A stream may be empty. -/
def ofTokens? (tokens : List Token) : Option Node := do
  let (handles, rest) ← directives false [] tokens
  let explicit := rest.head? == some .documentStart
  if rest.length < tokens.length && !explicit then none
  else if tokens == [.streamEnd] then some absent
  else
    let start := if explicit then rest.drop 1 else rest
    let (node, parsing) ←
      if explicit && (start.head?.any fun token =>
          [Token.documentStart, .documentEnd, .streamEnd].contains token || isDirective token) then
        some (absent, { tokens := start })
      else
        StateT.run (parseNode true false (2 * start.length + 2))
          { tokens := start, handles := handles ++ defaultHandles }
    if parsing.tokens.dropWhile (· == .documentEnd) == [.streamEnd] then some node else none
where
  /-- Whether a token is a directive. -/
  isDirective : Token → Bool
    | .version _ _ | .tagDirective _ _ => true
    | _ => false

/-- The node of a text. -/
def parse? (text : String) : Option Node := do
  ofTokens? (← tokens? text)

end Node

end IdlBindings.Yaml
