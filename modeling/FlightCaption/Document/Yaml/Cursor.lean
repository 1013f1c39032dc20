/-!
# Positions in a YAML text

Indentation carries meaning in YAML, so a position knows its line and its column. It also knows how
many bytes of its line stand before it, because the length of a key is limited in bytes. This
module says which characters a YAML text may hold and how the gaps between its pieces are skipped.

A byte-order mark is skipped at the start of a line, but it fills a column of that line.
-/

namespace FlightCaption.Document.Yaml

/-! ## Characters -/

/-- Space or tab. -/
def isBlank (c : Char) : Bool :=
  c = ' ' || c = '\t'

/-- The line feed and the two separators of Unicode end a line. -/
def isBreak (c : Char) : Bool :=
  c = '\n' || c = '\u2028' || c = '\u2029'

/-- Space, tab or line break. -/
def isSpace (c : Char) : Bool :=
  isBlank c || isBreak c

/-- Whether a text starts with a space or a line break, or is at its end. -/
def atSpace : List Char → Bool
  | [] => true
  | c :: _ => isSpace c

/-- The characters that separate and enclose the nodes of a flow collection. -/
def isFlowMark (c : Char) : Bool :=
  c = ',' || c = '[' || c = ']' || c = '\x7b' || c = '\x7d'

/-- Control characters have no place in a YAML text. -/
def isAllowed (c : Char) : Bool :=
  let n := c.toNat
  n = 0x09 || n = 0x0A || n = 0x0D || (0x20 ≤ n && n ≤ 0x7E) || n = 0x85 ||
    (0xA0 ≤ n && n ≤ 0xFFFD) || 0x10000 ≤ n

/-- A text in which carriage returns and the control character for a new line have become line
feeds. -/
def normalized : List Char → List Char
  | '\r' :: '\n' :: cs => '\n' :: normalized cs
  | '\r' :: cs => '\n' :: normalized cs
  | '\x85' :: cs => '\n' :: normalized cs
  | c :: cs => c :: normalized cs
  | [] => []

/-! ## Positions -/

/-- A position in a text. -/
structure Position where
  line : Nat := 0
  /-- How many characters of the line stand before it. -/
  column : Nat := 0
  /-- How many bytes of the line stand before it. -/
  width : Nat := 0
deriving DecidableEq, Repr

/-- The position behind a character. -/
def Position.after (p : Position) (c : Char) : Position :=
  if isBreak c then ⟨p.line + 1, 0, 0⟩ else ⟨p.line, p.column + 1, p.width + c.utf8Size⟩

/-- Whether a key may reach from one position to another: it stands on one line and has at most 1024
bytes. -/
def Position.isKeySpan (start stop : Position) : Bool :=
  start.line = stop.line && stop.width ≤ start.width + 1024

/-- What is left of a text, and where that starts. -/
structure Cursor extends Position where
  rest : List Char

namespace Cursor

/-- The position one character further on. -/
def next (cursor : Cursor) : Cursor :=
  match cursor.rest with
  | [] => cursor
  | c :: cs => ⟨cursor.after c, cs⟩

/-- Whether three marks make up the start of a line. -/
def atMarker (mark : Char) (cursor : Cursor) : Bool :=
  cursor.column = 0 && match cursor.rest with
    | a :: b :: c :: rest => a = mark && b = mark && c = mark && atSpace rest
    | _ => false

/-- Whether a document starts or ends here. -/
def atDocumentMark (cursor : Cursor) : Bool :=
  cursor.atMarker '-' || cursor.atMarker '.'

/-! ## Gaps -/

/-- Skips spaces, line breaks and comments. Tabs are skipped inside flow collections and where no
key may start; in blocks a key may start on each new line. The answer says whether one may start
behind the gap. -/
def skipGap (flow : Bool) :
    (keyAllowed inComment : Bool) → Position → List Char → Bool × Cursor
  | keyAllowed, inComment, p, c :: cs =>
    if isBreak c then skipGap flow (keyAllowed || ! flow) false (p.after c) cs
    else if inComment || c = ' ' || (c = '\t' && (flow || ! keyAllowed)) ||
        (c = '\ufeff' && p.column = 0) then
      skipGap flow keyAllowed inComment (p.after c) cs
    else if c = '#' then skipGap flow keyAllowed true (p.after c) cs
    else (keyAllowed, ⟨p, c :: cs⟩)
  | keyAllowed, _, p, [] => (keyAllowed, ⟨p, []⟩)

end Cursor

end FlightCaption.Document.Yaml
