import FlightCaption.Document.Json.Number
import FlightCaption.Document.Schema

/-!
# YAML nodes

A YAML text makes a tree of scalars, sequences and mappings. A scalar is only text; what it stands
for depends on the place: under a text schema `5` and `true` are text, under a number schema a
plain `5` is a number. `Node.value?` reads a node the way a schema asks for and answers with a
document value.

* Only plain scalars are numbers or null; a quoted one is always text.
* A plain scalar without any characters stands for null, for an empty list and for a record without
  members.
-/

namespace FlightCaption.Document.Yaml

open Numeric (Binary64)

/-- A node of a YAML text. -/
inductive Node where
  | scalar (plain : Bool) (text : List Char)
  | sequence (items : List Node)
  | mapping (members : List (Node × Node))
deriving Inhabited

/-- The node of a text or a place where nothing is written. -/
def Node.nothing : Node := .scalar true []

/-! ## Plain scalars -/

/-- Whether a plain scalar is one of the words for null. -/
def isNullWord (cs : List Char) : Bool :=
  cs ∈ ([[], ['~'], "null".toList, "Null".toList, "NULL".toList] : List (List Char))

/-- A text without its plus sign; two signs are refused. -/
def withoutPlus? : List Char → Option (List Char)
  | '+' :: '+' :: _ => none
  | '+' :: '-' :: _ => none
  | '+' :: cs => some cs
  | cs => some cs

/-- A decimal number: digits before or after an optional point, and an optional exponent. -/
def decimal? (cs : List Char) : Option Binary64 :=
  let (negative, cs) := match cs with
    | '-' :: rest => (true, rest)
    | rest => (false, rest)
  let (whole, cs) := Json.digitRun cs
  let (fraction, cs) := match cs with
    | '.' :: rest => Json.digitRun rest
    | rest => ([], rest)
  let exponent? := match cs with
    | [] => some 0
    | c :: rest => if c = 'e' ∨ c = 'E' then Json.exponent? rest else none
  if whole.isEmpty && fraction.isEmpty then none
  else exponent?.map fun exponent =>
    Binary64.ofDecimal negative (Json.digitValue (whole ++ fraction)) (exponent - fraction.length)

/-- The words for the infinities and for not-a-number. -/
def realWord? (cs : List Char) : Option Binary64 :=
  let unsigned := match cs with
    | '+' :: rest => rest
    | rest => rest
  if unsigned ∈ ([".inf", ".Inf", ".INF"].map String.toList) then some (.infinity false)
  else if cs ∈ (["-.inf", "-.Inf", "-.INF"].map String.toList) then some (.infinity true)
  else if cs ∈ ([".nan", ".NaN", ".NAN"].map String.toList) then some .nan
  else none

/-- The double that a plain scalar stands for. A decimal that is too large for a double is none. -/
def real? (cs : List Char) : Option Binary64 :=
  match realWord? cs with
  | some x => some x
  | none => do
    let x ← decimal? (← withoutPlus? cs)
    if x.isFinite then some x else none

/-- The value of a digit in some base up to sixteen. -/
def digitIn? (base : Nat) (c : Char) : Option Nat :=
  let value :=
    if '0' ≤ c ∧ c ≤ '9' then c.toNat - '0'.toNat
    else if 'a' ≤ c ∧ c ≤ 'f' then c.toNat - 'a'.toNat + 10
    else if 'A' ≤ c ∧ c ≤ 'F' then c.toNat - 'A'.toNat + 10
    else base
  if value < base then some value else none

/-- The number that digits of a base stand for; at least one is needed. -/
def natural? (base : Nat) : List Char → Option Nat
  | [] => none
  | cs => cs.foldlM (fun value c => (digitIn? base c).map (value * base + ·)) 0

/-- The integer after an optional minus sign: decimal without leading zeros, or in base sixteen,
eight or two after `0x`, `0o` or `0b`. -/
def signedInteger? (cs : List Char) : Option Int :=
  let (negative, cs) := match cs with
    | '-' :: rest => (true, rest)
    | rest => (false, rest)
  let size? := match cs with
    | '0' :: 'x' :: rest => natural? 16 rest
    | '0' :: 'o' :: rest => natural? 8 rest
    | '0' :: 'b' :: rest => natural? 2 rest
    | '0' :: _ :: _ => none
    | rest => natural? 10 rest
  size?.map fun size => if negative then -(size : Int) else size

/-- The 64-bit integer that a plain scalar stands for. -/
def integer? (cs : List Char) : Option Int := do
  let n ← signedInteger? (← withoutPlus? cs)
  if Int64.minValue.toInt ≤ n ∧ n ≤ Int64.maxValue.toInt then some n else none

/-! ## Nodes as values -/

namespace Node

/-- Whether a node stands for null where null is allowed. -/
def isNull : Node → Bool
  | scalar true text => isNullWord text
  | _ => false

/-- The name that a key gives to a member; only a scalar gives one. -/
def name? : Node → Option String
  | scalar _ text => some (String.ofList text)
  | _ => none

mutual

/-- The value that a node stands for in a place of a schema, if its kind fits there. -/
def value? : Schema → Node → Option Value
  | .real, scalar true text => (real? text).map .real
  | .integer, scalar true text => (integer? text).map .integer
  | .text, scalar _ text => some (.text (String.ofList text))
  | .choice _, scalar _ text => some (.text (String.ofList text))
  | .list items, sequence nodes => (values? items nodes).map .array
  | .list _, scalar true [] => some (.array [])
  | .record _ _ fields, mapping nodes => (members? fields nodes).map .object
  | .record _ _ _, scalar true [] => some (.object [])
  | _, _ => none

/-- The values of a sequence. -/
def values? (schema : Schema) : List Node → Option (List Value)
  | [] => some []
  | node :: nodes => do
    let value ← value? schema node
    return value :: (← values? schema nodes)

/-- The members of a record. What stands under a name that the record does not know is not read. -/
def members? (fields : List (String × Presence × Schema)) :
    List (Node × Node) → Option (List (String × Value))
  | [] => some []
  | (key, node) :: nodes => do
    let name ← key.name?
    let value ← match fields.lookup name with
      | none => some .null
      | some (presence, schema) =>
        if presence = .nullable ∧ node.isNull then some .null else value? schema node
    return (name, value) :: (← members? fields nodes)

end

end Node

end FlightCaption.Document.Yaml
