import FlightCaption.Text.Blank
import FlightCaption.Template.Token

/-!
# Scanning a template

The scanner reads a template one character at a time and never fails: what does not become a tag
stays as literal text, character for character.

* `<` starts a tag wherever it stands; what was pending before it becomes a literal.
* In a tag, `(` opens a group of arguments, `>` closes the tag, anything else belongs to the key,
  also between and after groups. A tag with an empty key is literal text.
* In a group, `,` ends an argument, `)` ends the last one and the group; anything else, `>` and
  `(` included, belongs to the argument. Blanks at the ends of an argument do not count.
* At the end of the template, what is pending becomes a literal.
-/

namespace FlightCaption

/-! ## The scanner's state -/

/-- What has been read since the last finished token. Each list holds its latest element first. -/
inductive Pending where
  /-- Text outside any tag. -/
  | text (source : List Char)
  /-- A tag outside its groups: all its source, its key, its arguments. -/
  | name (source key : List Char) (args : List String)
  /-- A tag inside a group: all its source, its key, its finished arguments and the current one. -/
  | group (source key : List Char) (args : List String) (arg : List Char)
deriving DecidableEq, Repr

namespace Pending

/-- The characters read since the last finished token, in order. -/
def source : Pending → List Char
  | text source => source.reverse
  | name source _ _ => source.reverse
  | group source _ _ _ => source.reverse

/-- What is pending, as literal text. -/
def flush (p : Pending) : Option Token :=
  if p.source.isEmpty then none else some (.literal (String.ofList p.source))

/-- A finished argument, read backwards. -/
def argument (arg : List Char) : String :=
  String.ofList (Text.trim arg.reverse)

/-- The token that a `>` outside any group finishes. -/
def close (source key : List Char) (args : List String) : Token :=
  if key.isEmpty then .literal (String.ofList ('>' :: source).reverse)
  else .tag (String.ofList key.reverse) args.reverse

/-- Reads one character: the token it finishes, if any, and what is pending afterwards. -/
def step (p : Pending) (c : Char) : Option Token × Pending :=
  if c = '<' then (p.flush, name ['<'] [] [])
  else match p with
    | text source => (none, text (c :: source))
    | name source key args =>
      if c = '>' then (some (close source key args), text [])
      else if c = '(' then (none, group (c :: source) key args [])
      else (none, name (c :: source) (c :: key) args)
    | group source key args arg =>
      if c = ',' then (none, group (c :: source) key (argument arg :: args) [])
      else if c = ')' then (none, name (c :: source) key (argument arg :: args))
      else (none, group (c :: source) key args (c :: arg))

/-- Reads the rest of a template. -/
def scan (p : Pending) : List Char → List Token
  | [] => p.flush.toList
  | c :: cs => (p.step c).1.toList ++ (p.step c).2.scan cs

end Pending

/-! ## Whole templates -/

/-- The tokens of a template. -/
def tokenize (template : String) : List Token :=
  (Pending.text []).scan template.toList

end FlightCaption
