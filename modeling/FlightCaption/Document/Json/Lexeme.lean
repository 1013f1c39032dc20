import FlightCaption.Document.Json.Number

/-!
# JSON lexemes

The smallest meaningful pieces of a JSON text: punctuation, strings with their escapes resolved, and
words, which are the stretches of all other characters. Blanks between them are dropped. The text is
read one character at a time; there is no answer where a string is not well formed.

An escape by code gives a unit of 16 bits. A character beyond them is escaped as a pair of halves; a
string in which a half stands alone is well formed, but no text.
-/

namespace FlightCaption.Document.Json

/-! ## Pieces -/

/-- A piece of a JSON text. -/
inductive Lexeme where
  | openArray
  | closeArray
  | openObject
  | closeObject
  | comma
  | colon
  /-- A string, if it is a text. -/
  | text (s? : Option String)
  | word (cs : List Char)
deriving DecidableEq, Repr

/-- Blanks between pieces: space, line feed, carriage return and tab. -/
def isGap (c : Char) : Bool :=
  c = ' ' || c = '\n' || c = '\r' || c = '\t'

/-- Punctuation. -/
def Lexeme.ofPunctuation? (c : Char) : Option Lexeme :=
  match c with
  | '[' => some openArray
  | ']' => some closeArray
  | '\x7b' => some openObject
  | '\x7d' => some closeObject
  | ',' => some comma
  | ':' => some colon
  | _ => none

/-- What an escape of one letter stands for. -/
def escape? (c : Char) : Option Char :=
  match c with
  | '"' => some '"'
  | '\\' => some '\\'
  | '/' => some '/'
  | 'b' => some '\x08'
  | 'f' => some '\x0c'
  | 'n' => some '\n'
  | 'r' => some '\r'
  | 't' => some '\t'
  | _ => none

/-- The value of a hexadecimal digit of either case. -/
def hexDigit? (c : Char) : Option Nat :=
  if '0' ≤ c ∧ c ≤ '9' then some (c.toNat - '0'.toNat)
  else if 'a' ≤ c ∧ c ≤ 'f' then some (c.toNat - 'a'.toNat + 10)
  else if 'A' ≤ c ∧ c ≤ 'F' then some (c.toNat - 'A'.toNat + 10)
  else none

/-! ## Units -/

/-- Whether a unit is the first half of a character. -/
def isFirstHalf (unit : Nat) : Bool :=
  0xD800 ≤ unit && unit < 0xDC00

/-- Whether a unit is the second half of a character. -/
def isSecondHalf (unit : Nat) : Bool :=
  0xDC00 ≤ unit && unit < 0xE000

/-- The character that two halves make up. -/
def joined (first second : Nat) : Char :=
  Char.ofNat (0x10000 + (first - 0xD800) * 0x400 + (second - 0xDC00))

/-- The characters that units stand for, the latest unit coming first, in front of characters that
follow them. Half a character alone stands for none. -/
def charsOfUnits? (later : List Char) : List Nat → Option (List Char)
  | [] => some later
  | unit :: units =>
    if isSecondHalf unit then
      match units with
      | first :: units =>
        if isFirstHalf first then charsOfUnits? (joined first unit :: later) units else none
      | [] => none
    else if isFirstHalf unit then none
    else charsOfUnits? (Char.ofNat unit :: later) units

/-- The text of units, the latest of which comes first. -/
def textOfUnits? (units : List Nat) : Option String :=
  (charsOfUnits? [] units).map String.ofList

/-! ## Reading characters -/

/-- Where in a JSON text the reader is. Lists hold the latest element first. -/
inductive LexerState where
  /-- Between pieces. -/
  | gap
  /-- In a word. -/
  | word (read : List Char)
  /-- In a string. -/
  | text (units : List Nat)
  /-- After a backslash in a string. -/
  | escape (units : List Nat)
  /-- In an escape by code, with `left` digits to come. -/
  | code (units : List Nat) (left value : Nat)

namespace LexerState

/-- Reads a character outside strings. -/
def stepGap (c : Char) : List Lexeme × LexerState :=
  if isGap c then ([], gap)
  else if c = '"' then ([], text [])
  else match Lexeme.ofPunctuation? c with
    | some lexeme => ([lexeme], gap)
    | none => ([], word [c])

/-- Reads a character: the pieces that it finishes, and the state afterwards. -/
def step (state : LexerState) (c : Char) : Option (List Lexeme × LexerState) :=
  match state with
  | gap => some (stepGap c)
  | word read =>
    match stepGap c with
    | ([], word _) => some ([], word (c :: read))
    | (lexemes, next) => some (.word read.reverse :: lexemes, next)
  | text units =>
    if c = '"' then some ([.text (textOfUnits? units)], gap)
    else if c = '\\' then some ([], escape units)
    else if c.toNat < 0x20 then none
    else some ([], text (c.toNat :: units))
  | escape units =>
    if c = 'u' then some ([], code units 4 0)
    else (escape? c).map fun meant => ([], text (meant.toNat :: units))
  | code units left value => do
    let value := value * 16 + (← hexDigit? c)
    if left ≤ 1 then return ([], text (value :: units))
    else return ([], code units (left - 1) value)

/-- Reads the rest of a text; the pieces come in front of those read before, latest first. -/
def lexemes? (read : List Lexeme) : LexerState → List Char → Option (List Lexeme)
  | gap, [] => some read.reverse
  | word cs, [] => some (.word cs.reverse :: read).reverse
  | _, [] => none
  | state, c :: cs =>
    match state.step c with
    | none => none
    | some (lexemes, next) => lexemes? (lexemes.reverse ++ read) next cs

end LexerState

/-- The pieces of a JSON text, in order. -/
def lexemes? (text : String) : Option (List Lexeme) :=
  LexerState.lexemes? [] .gap text.toList

end FlightCaption.Document.Json
