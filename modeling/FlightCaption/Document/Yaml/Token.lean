import FlightCaption.Document.Yaml.Scalar

/-!
# YAML tokens

A YAML text is cut into tokens: scalars, punctuation, and the starts and ends of block collections,
which are not written but follow from indentation. Anchors, tags, directives, folded blocks and
explicit keys are not read; a text that uses them has no tokens, like one that is not well formed.

* A block collection starts where a dash or a key stands right of the column of the collection
  around it, and ends before the first token that stands left of its own column.
* That something was a key shows only at the colon behind it, so the reader remembers where a key
  may have started: in blocks at the start of a line or behind a dash, in flow collections behind
  the opening mark or a comma.
* A scalar or flow collection at the start of a line, in the very column of a block collection, has
  to be a key. A literal block is never a key and may start there all the same.
-/

namespace FlightCaption.Document.Yaml

/-! ## Tokens -/

/-- A token of a YAML text. -/
inductive Token where
  | scalar (plain : Bool) (text : List Char)
  /-- A block sequence starts. -/
  | blockSequence
  /-- A block mapping starts. -/
  | blockMapping
  /-- A block collection ends. -/
  | blockEnd
  /-- The dash of an item of a block sequence. -/
  | dash
  /-- A key follows. -/
  | key
  /-- The colon behind a key. -/
  | colon
  | openSequence
  | closeSequence
  | openMapping
  | closeMapping
  | comma
  /-- The mark of a document's start. -/
  | documentStart
  /-- The mark of a document's end. -/
  | documentEnd
deriving DecidableEq, Repr

/-! ## Keys and indentation -/

/-- A place where a key may have started. -/
structure KeyStart where
  position : Position
  /-- How many tokens stand before it. -/
  index : Nat
  /-- Whether what starts here has to be a key. -/
  required : Bool

/-- The tokens read so far, and what they leave open. -/
structure Layout where
  /-- The tokens, the latest first. -/
  tokens : List Token := []
  /-- How many they are. -/
  count : Nat := 0
  /-- The columns of the open block collections, the innermost first. -/
  columns : List Nat := []
  /-- For each open flow collection, the innermost first, the key that may have started with it. -/
  flows : List (Option KeyStart) := []
  /-- The key that may have started with one of the latest tokens. -/
  keyStart? : Option KeyStart := none
  /-- Whether a key may start with the next token. -/
  keyAllowed : Bool := true

namespace Layout

/-- Whether a flow collection is open. -/
def inFlow (layout : Layout) : Bool :=
  ! layout.flows.isEmpty

/-- The least column that lies inside the innermost block collection. -/
def least (layout : Layout) : Nat :=
  match layout.columns with
  | [] => 0
  | column :: _ => column + 1

/-- Adds a token. -/
def push (layout : Layout) (token : Token) : Layout :=
  { layout with tokens := token :: layout.tokens, count := layout.count + 1 }

/-- Ends the block collections whose column is `least` or further right. In a flow collection
indentation does not count. -/
def closeBlocks (layout : Layout) (least : Nat) : Layout :=
  if layout.inFlow then layout
  else
    let (closed, columns) := layout.columns.span (least ≤ ·)
    closed.foldl (fun layout _ => layout.push .blockEnd) { layout with columns }

/-- Starts a block collection in a column, unless that lies outside the innermost one. -/
def openBlock (layout : Layout) (column : Nat) (token : Token) : Layout :=
  if layout.inFlow || column < layout.least then layout
  else { layout.push token with columns := column :: layout.columns }

/-- Gives up the key that may have started, unless there has to be one. -/
def dropKey? (layout : Layout) : Option Layout :=
  if layout.keyStart?.any (·.required) then none else some { layout with keyStart? := none }

/-- Notes that a key may start here. -/
def startKey? (layout : Layout) (p : Position) : Option Layout :=
  if ! layout.keyAllowed then some layout
  else do
    let layout ← layout.dropKey?
    let required := ! layout.inFlow && layout.least = p.column + 1
    return { layout with keyStart? := some ⟨p, layout.count, required⟩ }

/-- Reads a colon: the tokens since the key's start are the key. In a block, the key may be the
first of a mapping. -/
def closeKey? (layout : Layout) (p : Position) : Option Layout := do
  let start ← layout.keyStart?
  if ! start.position.isKeySpan p then none
  else
    let (later, earlier) := layout.tokens.splitAt (layout.count - start.index)
    let before : Layout := { layout with tokens := earlier, count := start.index }
    let behind := (before.openBlock start.position.column .blockMapping).push .key
    let whole := { behind with
      tokens := later ++ behind.tokens, count := later.length + behind.count }
    return { whole.push .colon with keyStart? := none, keyAllowed := false }

/-! ## Reading tokens -/

/-- Reads the mark of a document, which ends all block collections. -/
def readMark? (layout : Layout) (token : Token) : Option Layout := do
  let layout ← (layout.closeBlocks 0).dropKey?
  return { layout.push token with keyAllowed := false }

/-- Reads the mark that opens a flow collection. The collection may be a key. -/
def openFlow? (layout : Layout) (p : Position) (token : Token) : Option Layout := do
  let layout ← layout.startKey? p
  return { layout.push token with
    flows := layout.keyStart? :: layout.flows, keyStart? := none, keyAllowed := true }

/-- Reads the mark that closes a flow collection. -/
def closeFlow? (layout : Layout) (token : Token) : Option Layout := do
  let layout ← layout.dropKey?
  return { layout.push token with
    flows := layout.flows.tail, keyStart? := layout.flows.head?.join, keyAllowed := false }

/-- Reads a comma. -/
def readComma? (layout : Layout) : Option Layout := do
  let layout ← layout.dropKey?
  return { layout.push .comma with keyAllowed := true }

/-- Reads the dash of an item, which may be the first of a block sequence. -/
def readDash? (layout : Layout) (p : Position) : Option Layout :=
  if ! layout.inFlow && ! layout.keyAllowed then none
  else do
    let layout ← (layout.openBlock p.column .blockSequence).dropKey?
    return { layout.push .dash with keyAllowed := true }

/-- Reads a scalar that may be a key. Behind a scalar whose reading went on to another line, a key
may start again. -/
def readScalar? (layout : Layout) (p : Position) (plain endedLine : Bool) (text : List Char) :
    Option Layout := do
  let layout ← layout.startKey? p
  return { layout.push (.scalar plain text) with keyAllowed := endedLine }

/-- Reads a literal block, which is never a key. -/
def readBlock? (layout : Layout) (text : List Char) : Option Layout := do
  let layout ← layout.dropKey?
  return { layout.push (.scalar false text) with keyAllowed := true }

/-- Reads one token: the layout and the position afterwards. -/
def step? (layout : Layout) (here : Cursor) : Option (Layout × Cursor) :=
  let p := here.toPosition
  if here.atMarker '-' then
    (layout.readMark? .documentStart).map (·, here.next.next.next)
  else if here.atMarker '.' then
    (layout.readMark? .documentEnd).map (·, here.next.next.next)
  else match here.rest with
    | '[' :: _ => (layout.openFlow? p .openSequence).map (·, here.next)
    | '\x7b' :: _ => (layout.openFlow? p .openMapping).map (·, here.next)
    | ']' :: _ => (layout.closeFlow? .closeSequence).map (·, here.next)
    | '\x7d' :: _ => (layout.closeFlow? .closeMapping).map (·, here.next)
    | ',' :: _ => layout.readComma?.map (·, here.next)
    | '"' :: cs => do
      let (text, after) ← doubleQuoted [] {} .text (p.after '"') cs
      return (← layout.readScalar? p false false text, after)
    | '\'' :: cs => do
      let (text, after) ← singleQuoted [] {} (p.after '\'') cs
      return (← layout.readScalar? p false false text, after)
    | c :: cs =>
      if c = '-' && atSpace cs then (layout.readDash? p).map (·, here.next)
      else if c = ':' && (layout.inFlow || atSpace cs) then
        (layout.closeKey? p).map (·, here.next)
      else if c = '|' && ! layout.inFlow then do
        let (text, after) ← literalBlock? layout.least here.next
        return (← layout.readBlock? text, after)
      else do
        let (text, endedLine, after) ← plain? layout.inFlow layout.least here
        return (← layout.readScalar? p true endedLine text, after)
    | [] => none

/-- Reads the rest of a text. Each step reads a character at least, which bounds their number. -/
def tokens? : (fuel : Nat) → Layout → Cursor → Option (List Token)
  | 0, _, _ => none
  | fuel + 1, layout, cursor =>
    let (keyAllowed, here) :=
      Cursor.skipGap layout.inFlow layout.keyAllowed false cursor.toPosition cursor.rest
    let layout := { layout with keyAllowed }
    if here.rest.isEmpty then
      (layout.closeBlocks 0).dropKey?.map (·.tokens.reverse)
    else do
      let (layout, after) ← (layout.closeBlocks (here.column + 1)).step? here
      tokens? fuel layout after

end Layout

/-- The tokens of a YAML text. -/
def tokens? (text : String) : Option (List Token) :=
  let cs := normalized text.toList
  if cs.all isAllowed then Layout.tokens? (cs.length + 1) {} ⟨{}, cs⟩ else none

end FlightCaption.Document.Yaml
