import FlightCaption.Document.Json.Lexeme
import FlightCaption.Document.Reader

/-!
# Reading JSON

A JSON text is one value. The reader goes through the pieces of the text with a stack of the arrays
and objects that are open, and there is no answer where the text is not well formed: commas stand
between elements only, keys are strings, and words are `true`, `false`, `null` or numbers.

A number that no double can hold, a string that is no text and an object with such a key are
unreadable values. They do no harm where nobody asks for them.
-/

namespace FlightCaption.Document.Json

/-! ## Scalars -/

/-- The value of a word. -/
def wordValue? (cs : List Char) : Option Value :=
  if cs = "null".toList then some .null
  else if cs = "true".toList then some (.boolean true)
  else if cs = "false".toList then some (.boolean false)
  else (NumberText.ofChars? cs).map NumberText.value

/-- The value of a string. -/
def textValue : Option String → Value
  | some s => .text s
  | none => .unreadable

/-! ## The stack -/

/-- The members of an object that were read, latest first, unless a key among them is no text. -/
abbrev Members := Option (List (String × Value))

/-- One more member. -/
def Members.add (members : Members) (key? : Option String) (value : Value) : Members := do
  let earlier ← members
  let key ← key?
  return (key, value) :: earlier

/-- The object with some members. -/
def Members.value : Members → Value
  | some members => .object members.reverse
  | none => .unreadable

/-- A container in which a value is being read. The finished elements of an array come latest
first. -/
inductive Frame where
  | array (items : List Value)
  | object (members : Members) (key? : Option String)

/-- What has just been read in the innermost container, and so what may come next. -/
inductive Place where
  /-- A value must come. -/
  | value
  /-- An array was opened. -/
  | arrayStart
  /-- An element was read. -/
  | afterItem (items : List Value)
  /-- An object was opened. -/
  | objectStart
  /-- A member was read. -/
  | afterMember (members : Members)
  /-- A comma in an object was read, so a key must come. -/
  | nextKey (members : Members)
  /-- A key was read. -/
  | afterKey (members : Members) (key? : Option String)
  /-- The whole value was read. -/
  | finished (value : Value)

/-- The open containers, the innermost first, and the place in the innermost. -/
structure ReaderState where
  frames : List Frame := []
  place : Place := .value

namespace ReaderState

/-- The state after a finished value. -/
def deliver (frames : List Frame) (value : Value) : ReaderState :=
  match frames with
  | [] => ⟨[], .finished value⟩
  | .array items :: rest => ⟨rest, .afterItem (value :: items)⟩
  | .object members key? :: rest => ⟨rest, .afterMember (members.add key? value)⟩

/-- Reads the first piece of a value that goes into the innermost of some containers. -/
def start (frames : List Frame) (lexeme : Lexeme) : Option ReaderState :=
  match lexeme with
  | .text s? => some (deliver frames (textValue s?))
  | .word cs => (wordValue? cs).map (deliver frames)
  | .openArray => some ⟨frames, .arrayStart⟩
  | .openObject => some ⟨frames, .objectStart⟩
  | _ => none

/-- Reads one piece. -/
def step (state : ReaderState) (lexeme : Lexeme) : Option ReaderState :=
  let frames := state.frames
  match state.place, lexeme with
  | .value, _ => start frames lexeme
  | .arrayStart, .closeArray => some (deliver frames (.array []))
  | .arrayStart, _ => start (.array [] :: frames) lexeme
  | .afterItem items, .comma => some ⟨.array items :: frames, .value⟩
  | .afterItem items, .closeArray => some (deliver frames (.array items.reverse))
  | .objectStart, .closeObject => some (deliver frames (.object []))
  | .objectStart, .text key? => some ⟨frames, .afterKey (some []) key?⟩
  | .afterMember members, .comma => some ⟨frames, .nextKey members⟩
  | .afterMember members, .closeObject => some (deliver frames members.value)
  | .nextKey members, .text key? => some ⟨frames, .afterKey members key?⟩
  | .afterKey members key?, .colon => some ⟨.object members key? :: frames, .value⟩
  | _, _ => none

end ReaderState

/-! ## Whole texts -/

/-- The value that pieces make up. -/
def value? (lexemes : List Lexeme) : Option Value :=
  match lexemes.foldlM ReaderState.step {} with
  | some ⟨_, .finished value⟩ => some value
  | _ => none

/-- The value of a JSON text. -/
def read? (text : String) : Option Value := do
  value? (← lexemes? text)

/-- The reader of JSON texts. A misfit is told in the words of `Misfit.message`. -/
def reader : Document.Reader where
  value _ text :=
    match read? text with
    | some value => .ok value
    | none => .error "the text is not well formed"
  wording _ misfit := misfit.message

theorem value_reader_eq_ok_iff (schema : Schema) {text : String} {value : Value} :
    reader.value schema text = .ok value ↔ read? text = some value := by
  dsimp only [reader]
  split
  · next found hfound => rw [hfound, Except.ok.injEq, Option.some.injEq]
  · next hnone => simp [hnone]

end FlightCaption.Document.Json
