/-!
# Tokens of a caption template

A template is literal text with tags in it. A tag has a key and a list of arguments; it is
written `<key>` or `<key(first,second)>`. A token list can come from a template or be built
directly, so nothing here forbids a key or an argument that no template could hold.
-/

namespace FlightCaption

/-- A stretch of literal text, or a tag with its key and arguments. -/
inductive Token where
  | literal (text : String)
  | tag (key : String) (args : List String)
deriving DecidableEq, Repr

namespace Token

/-- Whether the token is literal text. -/
def isLiteral : Token → Bool
  | literal _ => true
  | tag _ _ => false

/-- The name under which a tag is looked up; a literal answers with its text. -/
def key : Token → String
  | literal text => text
  | tag key _ => key

/-- The arguments of a tag that has some. -/
def args? : Token → Option (List String)
  | literal _ => none
  | tag _ [] => none
  | tag _ (arg :: args) => some (arg :: args)

/-- The token as it stands in a template: a literal is itself, a tag is put in angle brackets, with
its arguments, if any, in one parenthesised group. -/
def written : Token → String
  | literal text => text
  | tag key [] => "<" ++ key ++ ">"
  | tag key (arg :: args) => "<" ++ key ++ "(" ++ ",".intercalate (arg :: args) ++ ")>"

end Token

end FlightCaption
