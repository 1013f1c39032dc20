/-!
# Commands

What the program can be asked to do: to list the built-in tags, and to render a caption from files.
The arguments are read by a parser, which is an argument of the program: it finds a command in them,
or replies by itself, be it with help, with the version or with a complaint.
-/

namespace FlightCaption.CommandLine

/-- Which files and which template to render. -/
structure RenderArguments where
  snapshot : String
  calendar : Option String := none
  overlay : Option String := none
  template : Option String := none
deriving DecidableEq, Repr

/-- What the arguments ask for. -/
inductive Command where
  | tags
  | render (arguments : RenderArguments)
deriving DecidableEq, Repr

/-- What a parser replies to arguments that hold no command. -/
structure Reply where
  code : Nat := 0
  output : String := ""
  complaint? : Option String := none
deriving DecidableEq, Repr

/-- A parser of the arguments after the program's name. -/
abbrev Parser := List String → Except Reply Command

end FlightCaption.CommandLine
