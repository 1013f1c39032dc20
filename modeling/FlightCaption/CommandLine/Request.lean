import FlightCaption.CommandLine.Command

/-!
# Command line arguments

The parser of the program. It knows two commands, `tags` and `render`, and two requests that need
none, for its version and for help. Before a command stand flags only; the command `render` takes
four options with values, each at most once, and needs the snapshot. A value stands in the next
argument or, attached, in the same one; short flags can be written together. Arguments are read in
order; the first request for the version or for help is answered at once, and the first misuse ends
the reading.
-/

namespace FlightCaption.CommandLine

/-! ## Requests -/

/-- An option of the command `render`. -/
inductive RenderOption where
  | snapshot
  | calendar
  | overlay
  | template
deriving DecidableEq, Repr

namespace RenderOption

def all : List RenderOption := [snapshot, calendar, overlay, template]

/-- The option's long name. -/
def long : RenderOption → String
  | snapshot => "snapshot"
  | calendar => "calendar"
  | overlay => "overlay"
  | template => "template"

/-- The option's letter. -/
def letter : RenderOption → Char
  | snapshot => 's'
  | calendar => 'c'
  | overlay => 'o'
  | template => 't'

/-- Whether a value is accepted: a path is not empty. -/
def accepts (option : RenderOption) (value : String) : Bool :=
  option = template || value ≠ ""

end RenderOption

/-- What the arguments ask for. -/
inductive Request where
  | command (command : Command)
  | version
  | help
deriving DecidableEq, Repr

/-- Why the arguments ask for nothing. -/
inductive UsageFault where
  | noCommand
  | unknownCommand (word : String)
  | unexpectedArgument (argument : String)
  | unexpectedValue (argument : String)
  | missingValue (option : RenderOption)
  | repeatedOption (option : RenderOption)
  | missingOption (option : RenderOption)
deriving DecidableEq, Repr

/-- The wording of a misuse. -/
def UsageFault.message : UsageFault → String
  | noCommand => "a command is required"
  | unknownCommand word => "unrecognized subcommand '" ++ word ++ "'"
  | unexpectedArgument argument => "unexpected argument '" ++ argument ++ "' found"
  | unexpectedValue argument => "unexpected value in '" ++ argument ++ "'"
  | missingValue option => "a value is required for '--" ++ option.long ++ "' but none was supplied"
  | repeatedOption option => "the argument '--" ++ option.long ++ "' cannot be used multiple times"
  | missingOption option => "the argument '--" ++ option.long ++ "' is required"

/-! ## Reading arguments -/

/-- A kind of argument, by its first characters. -/
inductive Shape where
  /-- Only `--`: what follows are no options. -/
  | separator
  /-- A long name, with the value attached to it. -/
  | long (name : String) (attached : Option String)
  /-- Letters after one dash. -/
  | letters (letters : List Char)
  /-- Anything else, a single dash included. -/
  | word

/-- The kind of an argument. -/
def Shape.of (argument : String) : Shape :=
  match argument.toList with
  | ['-', '-'] => separator
  | '-' :: '-' :: cs =>
    match cs.dropWhile (· ≠ '=') with
    | _ :: value => long (String.ofList (cs.takeWhile (· ≠ '='))) (some (String.ofList value))
    | [] => long (String.ofList cs) none
  | ['-'] => word
  | '-' :: cs => letters cs
  | _ => word

/-- What a flag leads to: reading goes on, or the request is settled. -/
inductive Flag where
  | goOn
  | settled (request : Request)

/-- The flags that stand before a command and, but for the version, after it. -/
def flagNamed? (top : Bool) (name : String) : Option Flag :=
  if name = "verbose" then some .goOn
  else if name = "help" then some (.settled .help)
  else if name = "version" ∧ top then some (.settled .version)
  else none

/-- The same flags by their letters. -/
def flagLetter? (top : Bool) (letter : Char) : Option Flag :=
  match letter with
  | 'v' => some .goOn
  | 'h' => some (.settled .help)
  | 'V' => if top then some (.settled .version) else none
  | _ => none

/-- What one argument of letters holds: flags, then possibly an option with the value attached to
it, if any is. -/
inductive Letters where
  | flags
  | settled (request : Request)
  | option (option : RenderOption) (attached : Option String)
  | unknown

/-- Reads letters; options are known only to some commands. -/
def Letters.of (top options : Bool) : List Char → Letters
  | [] => flags
  | c :: cs =>
    match flagLetter? top c with
    | some .goOn => Letters.of top options cs
    | some (.settled request) => settled request
    | none =>
      match if options then RenderOption.all.find? (·.letter = c) else none with
      | none => unknown
      | some found =>
        -- the rest of the argument is the option's value, with or without an equals sign
        match cs with
        | [] => option found none
        | '=' :: value => option found (some (String.ofList value))
        | value => option found (some (String.ofList value))

/-- The options given so far. -/
abbrev Given := List (RenderOption × String)

/-- Adds an option's value. -/
def give (given : Given) (option : RenderOption) (value : String) : Except UsageFault Given :=
  if (given.lookup option).isSome then .error (.repeatedOption option)
  else if option.accepts value then .ok (given ++ [(option, value)])
  else .error (.missingValue option)

/-- The request of a `render` command whose options are all read. -/
def requestOf (given : Given) : Except UsageFault Request :=
  match given.lookup .snapshot with
  | none => .error (.missingOption .snapshot)
  | some snapshot => .ok <| .command <| .render
    { snapshot
      calendar := given.lookup .calendar
      overlay := given.lookup .overlay
      template := given.lookup .template }

/-- Reads the arguments of `render`. -/
def readRender (given : Given) : List String → Except UsageFault Request
  | [] => requestOf given
  | argument :: rest =>
    match Shape.of argument with
    | .separator =>
      match rest with
      | [] => requestOf given
      | extra :: _ => .error (.unexpectedArgument extra)
    | .word => .error (.unexpectedArgument argument)
    | .long name attached =>
      match RenderOption.all.find? (·.long = name), attached with
      | some option, some value => do readRender (← give given option value) rest
      | some option, none => takeValue given option rest
      | none, _ =>
        match flagNamed? false name, attached with
        | none, _ => .error (.unexpectedArgument argument)
        | some _, some _ => .error (.unexpectedValue argument)
        | some .goOn, none => readRender given rest
        | some (.settled request), none => .ok request
    | .letters cs =>
      match Letters.of false true cs with
      | .flags => readRender given rest
      | .settled request => .ok request
      | .option option (some value) => do readRender (← give given option value) rest
      | .option option none => takeValue given option rest
      | .unknown => .error (.unexpectedArgument argument)
where
  /-- The value of an option is the next argument, unless that looks like a flag. -/
  takeValue (given : Given) (option : RenderOption) : List String → Except UsageFault Request
    | [] => .error (.missingValue option)
    | value :: rest =>
      match Shape.of value with
      | .word => do readRender (← give given option value) rest
      | _ => .error (.missingValue option)

/-- Reads the arguments of `tags`, which takes none of its own. -/
def readTags : List String → Except UsageFault Request
  | [] => .ok (.command .tags)
  | argument :: rest =>
    match Shape.of argument with
    | .separator =>
      match rest with
      | [] => .ok (.command .tags)
      | extra :: _ => .error (.unexpectedArgument extra)
    | .word => .error (.unexpectedArgument argument)
    | .long name attached =>
      match flagNamed? false name, attached with
      | none, _ => .error (.unexpectedArgument argument)
      | some _, some _ => .error (.unexpectedValue argument)
      | some .goOn, none => readTags rest
      | some (.settled request), none => .ok request
    | .letters cs =>
      match Letters.of false false cs with
      | .flags => readTags rest
      | .settled request => .ok request
      | _ => .error (.unexpectedArgument argument)

/-- Reads the arguments of `help`: the command to describe, if any. -/
def readHelp : List String → Except UsageFault Request
  | [] => .ok .help
  | [word] => if word ∈ ["render", "tags", "help"] then .ok .help else .error (.unknownCommand word)
  | _ :: word :: _ => .error (.unknownCommand word)

/-- Reads all arguments after the program's name. -/
def Request.ofArguments : List String → Except UsageFault Request
  | [] => .error .noCommand
  | argument :: rest =>
    match Shape.of argument with
    | .separator =>
      match rest with
      | [] => .error .noCommand
      | extra :: _ => .error (.unexpectedArgument extra)
    | .word =>
      if argument = "render" then readRender [] rest
      else if argument = "tags" then readTags rest
      else if argument = "help" then readHelp rest
      else .error (.unknownCommand argument)
    | .long name attached =>
      match flagNamed? true name, attached with
      | none, _ => .error (.unexpectedArgument argument)
      | some _, some _ => .error (.unexpectedValue argument)
      | some .goOn, none => Request.ofArguments rest
      | some (.settled request), none => .ok request
    | .letters cs =>
      match Letters.of true false cs with
      | .flags => Request.ofArguments rest
      | .settled request => .ok request
      | _ => .error (.unexpectedArgument argument)

/-! ## Replies -/

/-- The program's name and version. -/
def versionLine : String := "caption 0.3.0\n"

/-- A short description of the arguments. -/
def helpText : String :=
  "Render overlay caption templates\n\n" ++
    "Usage: caption [-v]... render -s FILE [-c FILE] [-o FILE] [-t TEXT]\n" ++
    "       caption [-v]... tags\n" ++
    "       caption --version\n"

/-- The parser of the program: finds a command, or replies to what is none. -/
def parser : Parser := fun arguments =>
  match Request.ofArguments arguments with
  | .ok (.command command) => .ok command
  | .ok .version => .error { output := versionLine }
  | .ok .help => .error { output := helpText }
  | .error fault => .error { code := 2, complaint? := some ("error: " ++ fault.message) }

end FlightCaption.CommandLine
