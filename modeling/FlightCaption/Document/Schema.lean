import FlightCaption.Calendar.Fault
import FlightCaption.Document.Value

/-!
# Schemas

A schema says which values a document may hold in a place. `Schema.conform` goes through a value in
the order of its text and reports the first misfit.

* An integer may stand where a real number is wanted, not the reverse.
* A choice is one of several words; it may also be an object whose only member has such a word as
  its key and null as its value.
* A record is an object with known members, or an array of their values in the order of the schema,
  which may end early where the missing members are optional. A strict record refuses members that
  it does not know, another one skips them.
-/

namespace FlightCaption.Document

/-! ## Schemas and misfits -/

/-- Whether a member of a record must be there, may be left out, or may also be null. -/
inductive Presence where
  | required
  | optional
  | nullable
deriving DecidableEq, Repr

/-- Which values may stand in a place. -/
inductive Schema where
  | real
  | integer
  | text
  | list (items : Schema)
  | choice (words : List String)
  | record (title : String) (strict : Bool) (fields : List (String × Presence × Schema))
deriving Inhabited

/-- Why a value does not fit. -/
inductive Misfit where
  | unknownField (name : String) (known : List String)
  | duplicateField (name : String)
  | missingField (name : String)
  | unknownWord (word : String) (known : List String)
  | wrongType (found : Value) (wanted : String)
  | integerOutOfRange (found : Int)
  /-- An array that is too short for a record. -/
  | tooShort (found : Nat) (title : String) (size : Nat)
  /-- An array that is too long for a record. -/
  | tooLong
  /-- Something that cannot stand for a choice. -/
  | noChoice
  /-- A calendar that does not pass its own checks. -/
  | refused (fault : CalendarFault)

namespace Misfit

/-- The words that would have been right. -/
def expected (known : List String) : String :=
  "expected one of " ++ ", ".intercalate (known.map Value.backquoted)

/-- The wording of each misfit. -/
def message : Misfit → String
  | unknownField name known =>
    "unknown field " ++ Value.backquoted name ++ ", " ++ expected known
  | duplicateField name => "duplicate field " ++ Value.backquoted name
  | missingField name => "missing field " ++ Value.backquoted name
  | unknownWord word known =>
    "unknown variant " ++ Value.backquoted word ++ ", " ++ expected known
  | wrongType found wanted => "invalid type: " ++ found.described ++ ", expected " ++ wanted
  | integerOutOfRange found =>
    "invalid value: " ++ (Value.integer found).described ++ ", expected i64"
  | tooShort found title size =>
    "invalid length " ++ Text.integer found ++ ", expected struct " ++ title ++ " with " ++
      Text.integer size ++ " elements"
  | tooLong => "trailing characters"
  | noChoice => "expected value"
  | refused fault => fault.message

end Misfit

namespace Schema

/-- What a complaint says was wanted. -/
def wanted : Schema → String
  | real => "f64"
  | integer => "i64"
  | text => "a string"
  | list _ => "a sequence"
  | choice _ => "unit"
  | record title _ _ => "struct " ++ title

/-! ## Conforming -/

/-- A word is one of those that a choice knows. -/
def checkWord (words : List String) (word : String) : Except Misfit Unit :=
  if word ∈ words then .ok () else .error (.unknownWord word words)

/-- A record whose text is at its end lacks no required member. -/
def checkMissing (fields : List (String × Presence × Schema)) (seen : List String) :
    Except Misfit Unit :=
  match fields.find? fun (name, presence, _) => presence = .required ∧ name ∉ seen with
  | some (name, _) => .error (.missingField name)
  | none => .ok ()

mutual

/-- The first misfit of a value, in the order of its text. -/
def conform : Schema → Value → Except Misfit Unit
  | real, .real _ => .ok ()
  | real, .integer _ => .ok ()
  | integer, .integer n =>
    if Int64.minValue.toInt ≤ n ∧ n ≤ Int64.maxValue.toInt then .ok ()
    else .error (.integerOutOfRange n)
  | text, .text _ => .ok ()
  | list items, .array values => conformAll items values
  | choice words, .text word => checkWord words word
  -- an object names the word by its first key
  | choice words, .object [(word, value)] => do
    checkWord words word
    if value.isNull then .ok () else .error (.wrongType value "unit")
  | choice words, .object ((word, value) :: _ :: _) => do
    checkWord words word
    if value.isNull then .error .noChoice else .error (.wrongType value "unit")
  | choice _, _ => .error .noChoice
  | record _ strict fields, .object members => conformMembers strict fields [] members
  | record title _ fields, .array values => conformItems title fields.length 0 fields values
  | schema, value => .error (.wrongType value schema.wanted)

/-- Every value of a list conforms. -/
def conformAll (schema : Schema) : List Value → Except Misfit Unit
  | [] => .ok ()
  | value :: values => do
    conform schema value
    conformAll schema values

/-- The members of an object fit a record: each is known (or skipped) and comes once, its value
conforms, and at the end none is missing. -/
def conformMembers (strict : Bool) (fields : List (String × Presence × Schema))
    (seen : List String) : List (String × Value) → Except Misfit Unit
  | [] => checkMissing fields seen
  | (name, value) :: members =>
    match fields.lookup name with
    | none =>
      if strict then .error (.unknownField name (fields.map (·.1)))
      else conformMembers strict fields seen members
    | some (presence, schema) => do
      if name ∈ seen then .error (.duplicateField name)
      else if presence = .nullable ∧ value.isNull then .ok ()
      else conform schema value
      conformMembers strict fields (name :: seen) members

/-- The elements of an array fit the members of a record, one after the other. -/
def conformItems (title : String) (size read : Nat) :
    List (String × Presence × Schema) → List Value → Except Misfit Unit
  | [], [] => .ok ()
  | [], _ :: _ => .error .tooLong
  | fields, [] =>
    if fields.any fun (_, presence, _) => presence = .required then
      .error (.tooShort read title size)
    else .ok ()
  | (_, presence, schema) :: fields, value :: values => do
    if presence = .nullable ∧ value.isNull then .ok () else conform schema value
    conformItems title size (read + 1) fields values

end

end Schema

end FlightCaption.Document
