import FlightCaption.CommandLine.Command
import FlightCaption.Load.File
import FlightCaption.Renderer

/-!
# Running the command line

A run ends in one of three ways: with output, with a failure to load a file, or with a reply of the
parser to arguments without a command. The files are loaded in the order snapshot, calendar,
overlay; after the first one that fails no other is touched and nothing is printed.

The parser of the arguments, the readers of documents and the way to read a path are arguments. The
lines that the program logs on its error output are left out, and with them how many of them are
asked for.
-/

namespace FlightCaption.CommandLine

/-! ## Outcomes -/

/-- Which file could not be loaded. -/
inductive LoadStage where
  | snapshot
  | calendar
  | overlay
deriving DecidableEq, Repr

/-- What a failure line calls the file. -/
def LoadStage.noun : LoadStage → String
  | snapshot => "snapshot"
  | calendar => "calendar"
  | overlay => "overlay settings"

/-- How a run ends. -/
inductive Outcome where
  | printed (output : String)
  | notLoaded (stage : LoadStage) (fault : LoadFault)
  | replied (reply : Reply)

namespace Outcome

/-- The exit code. -/
def code : Outcome → Nat
  | printed _ => 0
  | notLoaded _ _ => 1
  | replied reply => reply.code

/-- The standard output. -/
def output : Outcome → String
  | printed output => output
  | notLoaded _ _ => ""
  | replied reply => reply.output

/-- The line that reports a file that could not be loaded, with its chain of causes. The cause of an
unreadable file is in the fault's own words, and is told once more at the end. -/
def failureLine (stage : LoadStage) (fault : LoadFault) : String :=
  "Error: failed to load " ++ stage.noun ++ ": " ++ fault.message ++ match fault with
    | .unreadable _ cause => ": " ++ cause.message
    | _ => ""

/-- What is said on the error output. -/
def complaint? : Outcome → Option String
  | printed _ => none
  | notLoaded stage fault => some (failureLine stage fault)
  | replied reply => reply.complaint?

end Outcome

/-! ## Running -/

/-- Loads a file where one is named; otherwise there is a default. -/
def loadOr {m : Type → Type} [Monad m] {α : Type} [Document.Decodable α] (readers : Readers)
    (readPath : String → m FileContent) (default : α) : Option String → m (Except LoadFault α)
  | none => return .ok default
  | some path => loadFile readers readPath path

/-- The overlay settings with a template that was given in place of their own. -/
def overrideTemplate (overlay : Overlay) : Option String → Overlay
  | none => overlay
  | some template => { overlay with template }

/-- Renders a caption from files. -/
def renderFiles {m : Type → Type} [Monad m] (readers : Readers)
    (readPath : String → m FileContent) (arguments : RenderArguments) : m Outcome := do
  match ← loadFile (α := Snapshot) readers readPath arguments.snapshot with
  | .error fault => return .notLoaded .snapshot fault
  | .ok snapshot =>
    match ← loadOr (α := Calendar) readers readPath default arguments.calendar with
    | .error fault => return .notLoaded .calendar fault
    | .ok calendar =>
      match ← loadOr (α := Overlay) readers readPath {} arguments.overlay with
      | .error fault => return .notLoaded .overlay fault
      | .ok overlay =>
        let overlay := overrideTemplate overlay arguments.template
        let caption := ((Renderer.new calendar overlay).render? 1 snapshot).get
          (Renderer.isSome_render?_new 0 calendar overlay snapshot)
        return .printed (caption.text ++ "\n")

/-- Runs the program with the arguments after its name. -/
def run {m : Type → Type} [Monad m] (parse : Parser) (readers : Readers)
    (readPath : String → m FileContent) (arguments : List String) : m Outcome :=
  match parse arguments with
  | .error reply => return .replied reply
  | .ok .tags => return .printed (String.join (Registry.builtins.names.map (· ++ "\n")))
  | .ok (.render arguments) => renderFiles readers readPath arguments

end FlightCaption.CommandLine
