import FlightCaption.Numeric.Shortest
import FlightCaption.Text.Quoted

/-!
# Document values

What a settings or snapshot document holds, whatever it is written in: a tree of scalars, arrays and
objects. An object keeps its members in the order of the text, repeated ones included, since the
first misfit of a document is the one that is reported.

Some well-written content has no value, such as a number that no double can hold. It does no harm
where nobody asks for it, so it has a place in the tree.
-/

namespace FlightCaption.Document

/-- A value of a document. -/
inductive Value where
  | null
  | boolean (b : Bool)
  | integer (n : Int)
  | real (x : Numeric.Binary64)
  | text (s : String)
  | array (items : List Value)
  | object (members : List (String × Value))
  /-- Something is written, but it stands for nothing. -/
  | unreadable
deriving Inhabited

namespace Value

/-- A text between backquotes. -/
def backquoted (s : String) : String :=
  "\x60" ++ s ++ "\x60"

/-- A value as a complaint names it: scalars are shown, arrays and objects only named. -/
def described : Value → String
  | null => "null"
  | boolean b => "boolean " ++ backquoted (if b then "true" else "false")
  | integer n => "integer " ++ backquoted (Text.integer n)
  | real x => "floating point " ++ backquoted x.shortest
  | text s => "string " ++ Text.quoted s
  | array _ => "sequence"
  | object _ => "map"
  | unreadable => "nothing"

/-- Whether the value is null. -/
def isNull : Value → Bool
  | null => true
  | _ => false

end Value

end FlightCaption.Document
