import FlightCaption.Document.Reader
import FlightCaption.Document.Yaml.Node
import FlightCaption.Document.Yaml.Token

/-!
# Reading YAML

How tokens make up nodes. A value may be left out and stands for nothing, and so may the item of a
block sequence, but not the item of a flow sequence. A pair in a flow sequence is a mapping with
one member, and a node without colon in a flow mapping is a key. Under a key of a block, a sequence
may stand in the column of the key; such a sequence has no tokens for its start and its end.

A text holds at most one document. The functions take a bound on their steps that the number of
tokens never reaches (`Node.ofTokens?`).

This is the reader that the program has for YAML. It reads a part of the notation only (the ways of
writing without tokens are listed with the tokens); nothing that is proved about documents is about
this part, as they may come from any reader.
-/

namespace FlightCaption.Document.Yaml

/-! ## Nodes -/

mutual

/-- Reads a node. Only under a key may it be a sequence without a token for its start. -/
def node? (underKey : Bool) : (fuel : Nat) → List Token → Option (Node × List Token)
  | 0, _ => none
  | fuel + 1, tokens =>
    match tokens with
    | .scalar plain text :: rest => some (.scalar plain text, rest)
    | .openSequence :: rest => flowItems? fuel [] rest
    | .openMapping :: rest => flowMembers? fuel [] rest
    | .blockSequence :: rest => blockItems? fuel [] rest
    | .blockMapping :: rest => blockMembers? fuel [] rest
    | .dash :: _ => if underKey then openItems? fuel [] tokens else none
    | _ => none

/-- Reads a node that may be left out in front of some tokens and at the end of the text. -/
def optional? (marks : List Token) (underKey : Bool) :
    (fuel : Nat) → List Token → Option (Node × List Token)
  | 0, _ => none
  | fuel + 1, tokens =>
    match tokens with
    | [] => some (.nothing, [])
    | token :: _ =>
      if token ∈ marks then some (.nothing, tokens) else node? underKey fuel tokens

/-- Reads a key, the colon behind it and the value, which may be left out before some tokens. -/
def member? (marks : List Token) (underKey : Bool) :
    (fuel : Nat) → List Token → Option ((Node × Node) × List Token)
  | 0, _ => none
  | fuel + 1, tokens => do
    let (key, rest) ← node? false fuel tokens
    match rest with
    | .colon :: rest => do
      let (value, rest) ← optional? marks underKey fuel rest
      return ((key, value), rest)
    | _ => none

/-- Reads the rest of a block sequence. -/
def blockItems? : (fuel : Nat) → List Node → List Token → Option (Node × List Token)
  | 0, _, _ => none
  | fuel + 1, items, tokens =>
    match tokens with
    | .blockEnd :: rest => some (.sequence items.reverse, rest)
    | .dash :: rest => do
      let (item, rest) ← optional? [.dash, .blockEnd] false fuel rest
      blockItems? fuel (item :: items) rest
    | _ => none

/-- Reads the rest of a block sequence in the column of its key, up to the next key. -/
def openItems? : (fuel : Nat) → List Node → List Token → Option (Node × List Token)
  | 0, _, _ => none
  | fuel + 1, items, tokens =>
    match tokens with
    | .dash :: rest => do
      let (item, rest) ← optional? [.dash, .key, .blockEnd] false fuel rest
      openItems? fuel (item :: items) rest
    | _ => some (.sequence items.reverse, tokens)

/-- Reads the rest of a block mapping. -/
def blockMembers? : (fuel : Nat) → List (Node × Node) → List Token → Option (Node × List Token)
  | 0, _, _ => none
  | fuel + 1, members, tokens =>
    match tokens with
    | .blockEnd :: rest => some (.mapping members.reverse, rest)
    | .key :: rest => do
      let (member, rest) ← member? [.key, .blockEnd] true fuel rest
      blockMembers? fuel (member :: members) rest
    | _ => none

/-- Reads the rest of a flow sequence. -/
def flowItems? : (fuel : Nat) → List Node → List Token → Option (Node × List Token)
  | 0, _, _ => none
  | fuel + 1, items, tokens =>
    match tokens with
    | .closeSequence :: rest => some (.sequence items.reverse, rest)
    | _ => do
      let (item, rest) ← match tokens with
        | .key :: rest => do
          let (member, rest) ← member? [.comma, .closeSequence] false fuel rest
          pure (.mapping [member], rest)
        | _ => node? false fuel tokens
      match rest with
      | .comma :: rest => flowItems? fuel (item :: items) rest
      | .closeSequence :: rest => some (.sequence (item :: items).reverse, rest)
      | _ => none

/-- Reads the rest of a flow mapping. -/
def flowMembers? : (fuel : Nat) → List (Node × Node) → List Token → Option (Node × List Token)
  | 0, _, _ => none
  | fuel + 1, members, tokens =>
    match tokens with
    | .closeMapping :: rest => some (.mapping members.reverse, rest)
    | _ => do
      let (member, rest) ← match tokens with
        | .key :: rest => member? [.comma, .closeMapping] false fuel rest
        | _ => do
          let (key, rest) ← node? false fuel tokens
          pure ((key, .nothing), rest)
      match rest with
      | .comma :: rest => flowMembers? fuel (member :: members) rest
      | .closeMapping :: rest => some (.mapping (member :: members).reverse, rest)
      | _ => none

end

/-! ## Whole texts -/

/-- Reads the content of a document, which may be missing behind the mark of its start. -/
def document? (fuel : Nat) : List Token → Option (Node × List Token)
  | .documentStart :: rest => optional? [.documentStart, .documentEnd] false fuel rest
  | tokens => optional? [] false fuel tokens

/-- The node that tokens make up. Only marks of the document's end may stand behind it. -/
def Node.ofTokens? (tokens : List Token) : Option Node := do
  let (node, rest) ← document? (3 * tokens.length + 3) tokens
  if rest.all (· = .documentEnd) then some node else none

/-- The node of a YAML text. A text without content is a place where nothing is written. -/
def read? (text : String) : Option Node := do
  Node.ofTokens? (← tokens? text)

/-- The reader of YAML texts, as far as they are read here. A misfit is told in the words of
`Misfit.message`, but for scalars and collections that are of the wrong kind for their place. -/
def reader : Document.Reader where
  value schema text :=
    match read? text with
    | none => .error "the text is not well formed or written in a way that is not read"
    | some node =>
      match node.value? schema with
      | some value => .ok value
      | none => .error "the text has something in a place where nothing of its kind may stand"
  wording _ misfit := misfit.message

end FlightCaption.Document.Yaml
