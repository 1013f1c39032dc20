import FlightCaption.Document.Form

/-!
# Readers of documents

A document is a text, and a *reader* knows the notation that it is written in: which value a text
stands for, or what is wrong with it, and in which words a misfit of the value is told. Readers come
from outside; `Reader.read` needs to know no more of one than this, and neither does what is proved
about reading. The readers of the program are `Json.reader` and `Yaml.reader`.
-/

namespace FlightCaption.Document

/-! ## Readers -/

/-- A reader of a notation. What a text stands for can depend on what is wanted in each place: in
YAML the scalar `5` is a number under one schema and a text under another. -/
structure Reader where
  /-- The value of a text under a schema, or the reader's message about the text. -/
  value : Schema → String → Except String Value
  /-- The reader's message about a misfit in the value of a text. -/
  wording : String → Misfit → String

namespace Reader

/-- Reads a text. -/
def read {α : Type} [Decodable α] (reader : Reader) (text : String) : Except String α := do
  let value ← reader.value (Decodable.form (α := α)).schema text
  (decode value).mapError (reader.wording text)

/-- What a reader promises of its messages: a check's own words are in them, with nothing but a
position or the like before or after. -/
def TellsRefusals (reader : Reader) : Prop :=
  ∀ text fault, ∃ before after,
    reader.wording text (.refused fault) = before ++ fault.message ++ after

section

variable {α : Type} [Decodable α] {reader : Reader} {text : String}

theorem read_of_value {value : Value}
    (h : reader.value (Decodable.form (α := α)).schema text = .ok value) :
    (reader.read text : Except String α) = (decode value).mapError (reader.wording text) := by
  rw [read, h]
  rfl

/-- What is read is decoded from the value that the text stands for. -/
theorem read_eq_ok_iff {a : α} :
    reader.read text = .ok a ↔
      ∃ value, reader.value (Decodable.form (α := α)).schema text = .ok value ∧
        decode value = .ok a := by
  cases hvalue : reader.value (Decodable.form (α := α)).schema text with
  | error message =>
    have hread : (reader.read text : Except String α) = .error message := by
      rw [read, hvalue]
      rfl
    simp [hread]
  | ok value =>
    rw [read_of_value hvalue]
    cases hdecode : (decode value : Except Misfit α) with
    | ok found =>
      show Except.ok found = .ok a ↔ _
      simp [hdecode]
    | error misfit =>
      show Except.error (reader.wording text misfit) = .ok a ↔ _
      simp [hdecode]

end

end Reader

end FlightCaption.Document
