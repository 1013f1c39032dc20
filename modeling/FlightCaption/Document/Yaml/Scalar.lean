import FlightCaption.Document.Json.Lexeme
import FlightCaption.Document.Yaml.Cursor

/-!
# YAML scalars

The ways to write a scalar: plain, between single or double quotes, and as a literal block after a
bar. Where a plain or quoted scalar goes over several lines, a single line break stands for a space
and each further one for itself, and the blanks around the breaks do not count. A literal block
keeps its lines as they are, less the indentation of the first.

Each reader answers with the text of the scalar and the position after it.
-/

namespace FlightCaption.Document.Yaml

/-! ## Folding -/

/-- The space inside a scalar that has been read and may turn out to be followed by more text. -/
structure Fold where
  /-- Blanks on the current line, latest first; they count only where no line break follows. -/
  blanks : List Char := []
  /-- The line breaks that were read, latest first. -/
  breaks : List Char := []
  /-- The first of the breaks was escaped and stands for nothing. -/
  escaped : Bool := false

namespace Fold

/-- Whether no space was read. -/
def isEmpty (fold : Fold) : Bool :=
  fold.blanks.isEmpty && fold.breaks.isEmpty

/-- Reads one more space. -/
def add (fold : Fold) (c : Char) : Fold :=
  if isBreak c then { fold with blanks := [], breaks := c :: fold.breaks }
  else if fold.breaks.isEmpty then { fold with blanks := c :: fold.blanks }
  else fold

/-- What the space stands for, latest character first. A first break that is not a line feed counts
as itself. -/
def text (fold : Fold) : List Char :=
  match fold.breaks.reverse with
  | [] => fold.blanks
  | first :: more =>
    if fold.escaped then more.reverse
    else if first ≠ '\n' then fold.breaks
    else if more.isEmpty then [' ']
    else more.reverse

end Fold

/-! ## Plain scalars -/

/-- Where a plain scalar ends in the middle of a line: before a colon that is followed by space
and, in a flow collection, before the marks of collections. -/
def endsPlain (flow : Bool) : List Char → Bool
  | ':' :: rest => atSpace rest
  | c :: _ => flow && isFlowMark c
  | [] => true

/-- In a flow collection a colon directly before a mark of collections is an error. -/
def misplacedColon (flow : Bool) : List Char → Bool
  | ':' :: c :: _ => flow && (isFlowMark c || c = '?')
  | _ => false

/-- Reads on in a plain scalar and the space after it. Outside flow collections a line that is
indented less than `indent` is not part of the scalar. The answer also says whether the space
reaches to another line. -/
def plainRest (flow : Bool) (indent : Nat) (text : List Char) (fold : Fold) :
    Position → List Char → Option (List Char × Bool × Cursor)
  | p, [] => some (text.reverse, ! fold.breaks.isEmpty, ⟨p, []⟩)
  | p, c :: cs =>
    let isNewLine := ! fold.breaks.isEmpty
    if isSpace c then
      if isNewLine && p.column < indent && c = '\t' then none
      else plainRest flow indent text (fold.add c) (p.after c) cs
    else
      let here : Cursor := ⟨p, c :: cs⟩
      -- a comment, a mark of the document, a line of an outer node, or the mark after a node
      if (! fold.isEmpty && c = '#') || here.atDocumentMark ||
          (isNewLine && ! flow && p.column < indent) || endsPlain flow here.rest then
        some (text.reverse, isNewLine, here)
      else if misplacedColon flow here.rest then none
      else plainRest flow indent (c :: (fold.text ++ text)) {} (p.after c) cs

/-- Whether a plain scalar may start here. -/
def startsPlain (flow : Bool) : List Char → Bool
  | [] => false
  | '-' :: rest => ! atSpace rest
  | c :: rest =>
    if c = '?' || c = ':' then ! flow && ! atSpace rest
    else ! (isSpace c || isFlowMark c || c ∈ ("#&*!|>'\"%@\x60".toList))

/-- Reads a plain scalar and the space after it. -/
def plain? (flow : Bool) (indent : Nat) (cursor : Cursor) : Option (List Char × Bool × Cursor) :=
  if startsPlain flow cursor.rest then
    plainRest flow indent [] {} cursor.toPosition cursor.rest
  else none

/-! ## Quoted scalars -/

/-- Reads the rest of a scalar between single quotes, in which a quote is written twice. No line of
it may look like the mark of a document. -/
def singleQuoted (text : List Char) (fold : Fold) :
    Position → List Char → Option (List Char × Cursor)
  | p, '\'' :: '\'' :: cs =>
    singleQuoted ('\'' :: (fold.text ++ text)) {} ((p.after '\'').after '\'') cs
  | p, '\'' :: cs => some ((fold.text ++ text).reverse, ⟨p.after '\'', cs⟩)
  | p, c :: cs =>
    if isSpace c then singleQuoted text (fold.add c) (p.after c) cs
    else if (⟨p, c :: cs⟩ : Cursor).atDocumentMark then none
    else singleQuoted (c :: (fold.text ++ text)) {} (p.after c) cs
  | _, [] => none

/-- What an escape of one letter stands for. -/
def escape? (c : Char) : Option Char :=
  match c with
  | '0' => some '\x00'
  | 'a' => some '\x07'
  | 'b' => some '\x08'
  | 't' => some '\t'
  | '\t' => some '\t'
  | 'n' => some '\n'
  | 'v' => some '\x0b'
  | 'f' => some '\x0c'
  | 'r' => some '\r'
  | 'e' => some '\x1b'
  | ' ' => some ' '
  | '"' => some '"'
  | '/' => some '/'
  | '\\' => some '\\'
  | 'N' => some '\x85'
  | '_' => some '\u00a0'
  | 'L' => some '\u2028'
  | 'P' => some '\u2029'
  | _ => none

/-- How many digits an escape by code has. -/
def codeLength? (c : Char) : Option Nat :=
  match c with
  | 'x' => some 2
  | 'u' => some 4
  | 'U' => some 8
  | _ => none

/-- Where in a double-quoted scalar the reader is. -/
inductive QuotePlace where
  | text
  /-- After a backslash. -/
  | escape
  /-- In an escape by code, with `left` digits to come. -/
  | code (left value : Nat)

/-- Reads the rest of a scalar between double quotes. No line of it may look like the mark of a
document. -/
def doubleQuoted (text : List Char) (fold : Fold) :
    QuotePlace → Position → List Char → Option (List Char × Cursor)
  | .text, p, '"' :: cs => some ((fold.text ++ text).reverse, ⟨p.after '"', cs⟩)
  | .text, p, '\\' :: cs =>
    -- space before an escape counts, also where the escape is a line break
    doubleQuoted (fold.text ++ text) {} .escape (p.after '\\') cs
  | .text, p, c :: cs =>
    if isSpace c then doubleQuoted text (fold.add c) .text (p.after c) cs
    else if (⟨p, c :: cs⟩ : Cursor).atDocumentMark then none
    else doubleQuoted (c :: (fold.text ++ text)) {} .text (p.after c) cs
  | .escape, p, c :: cs =>
    if isBreak c then
      doubleQuoted text { breaks := [c], escaped := true } .text (p.after c) cs
    else match codeLength? c with
      | some left => doubleQuoted text {} (.code left 0) (p.after c) cs
      | none =>
        match escape? c with
        | some meant => doubleQuoted (meant :: text) {} .text (p.after c) cs
        | none => none
  | .code left value, p, c :: cs =>
    match Json.hexDigit? c with
    | none => none
    | some digit =>
      let value := value * 16 + digit
      if 1 < left then doubleQuoted text {} (.code (left - 1) value) (p.after c) cs
      else if value.isValidChar then
        doubleQuoted (Char.ofNat value :: text) {} .text (p.after c) cs
      else none
  | _, _, [] => none

/-! ## Literal blocks -/

/-- What happens to the line breaks at the end of a literal block: one is kept, none, or all. -/
inductive Chomping where
  | clip
  | strip
  | keep
deriving DecidableEq, Repr

/-- The chomping that an indicator after the bar asks for. -/
def chomping? (c : Char) : Option Chomping :=
  if c = '-' then some .strip else if c = '+' then some .keep else none

/-- The indentation that an indicator after the bar gives. -/
def givenIndent? (c : Char) : Option Nat :=
  if '1' ≤ c ∧ c ≤ '9' then some (c.toNat - '0'.toNat) else none

/-- The indicators after the bar, at most one of each kind in either order, and what follows. -/
def blockHeader (cs : List Char) : Chomping × Option Nat × List Char :=
  match cs.head? >>= chomping?, cs.head? >>= givenIndent? with
  | some chomping, _ =>
    match cs.tail.head? >>= givenIndent? with
    | some given => (chomping, some given, cs.tail.tail)
    | none => (chomping, none, cs.tail)
  | none, some given =>
    match cs.tail.head? >>= chomping? with
    | some chomping => (chomping, some given, cs.tail.tail)
    | none => (.clip, some given, cs.tail)
  | none, none => (.clip, none, cs)

/-- The lines of a text, each with its break. -/
def splitLines : List Char → List (List Char)
  | [] => []
  | c :: cs =>
    if isBreak c then [c] :: splitLines cs
    else match splitLines cs with
      | line :: lines => (c :: line) :: lines
      | [] => [[c]]

/-- How many spaces a line starts with. -/
def indentation (line : List Char) : Nat :=
  (line.takeWhile (· = ' ')).length

/-- Whether a line holds nothing but spaces. -/
def isSpaceLine (line : List Char) : Bool :=
  line.all fun c => c = ' ' || isBreak c

/-- Whether a tab follows the spaces that a line starts with. -/
def isTabbed (line : List Char) : Bool :=
  (line.drop (indentation line)).head? = some '\t'

/-- Whether a line belongs to a block: it is indented enough, or empty. -/
def inBlock (indent : Nat) (line : List Char) : Bool :=
  indent ≤ indentation line || isSpaceLine line

/-- The indentation of a block when none is given: that of its first line with text, or of an empty
line before it that is longer, and at least `least`. A tab there leaves it open. -/
def blockIndent? (least : Nat) (lines : List (List Char)) : Option Nat :=
  let empty := lines.takeWhile isSpaceLine
  let first := (lines.dropWhile isSpaceLine).take 1
  if first.any isTabbed then none
  else some (((empty ++ first).map indentation).foldl max (max least 1))

/-- The text of a block with its line breaks, chomped. -/
def chomp (chomping : Chomping) (text : List Char) : List Char :=
  let body := (text.reverse.dropWhile isBreak).reverse
  match chomping with
  | .strip => body
  | .clip => if body.isEmpty then [] else text.take (body.length + 1)
  | .keep => text

/-- Reads a literal block from behind its bar, inside a collection whose content stands in the
column `least` or further right. After the indicators only a comment may stand on the line, and no
tab may stand in the indentation of the line that ends the block. -/
def literalBlock? (least : Nat) (cursor : Cursor) : Option (List Char × Cursor) :=
  let (chomping, given, header) := blockHeader cursor.rest
  let rest := header.dropWhile isBlank
  let rest := if rest.head? = some '#' then rest.dropWhile (! isBreak ·) else rest
  match rest with
  | [] => some ([], ⟨⟨cursor.line + 1, 0, 0⟩, []⟩)
  | c :: cs =>
    if ! isBreak c then none
    else do
      let lines := splitLines cs
      -- a given indentation counts from the column of the collection around the block
      let indent ← match given with
        | some more => some ((least - 1) + more)
        | none => blockIndent? least lines
      let block := lines.takeWhile (inBlock indent)
      let others := lines.drop block.length
      if others.head?.any isTabbed then none
      else
        let text := block.flatMap fun line => line.drop (min indent (indentation line))
        return (chomp chomping text, ⟨⟨cursor.line + 1 + block.length, 0, 0⟩, others.flatten⟩)

end FlightCaption.Document.Yaml
