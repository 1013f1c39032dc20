import FlightCaption.Load.Format

/-!
# Loading files

A file is loaded in three steps, each with a failure of its own: the format is taken from the path,
the file is read as UTF-8 text, and the text is read as a document. The readers of texts are an
argument, and so is how a path is read, in any monad: loading means the same on a disk and on files
held in memory.
-/

namespace FlightCaption

/-! ## Failures -/

/-- Why a file has no text. -/
inductive FileFault where
  /-- The system does not give its content, in the system's own words. -/
  | refused (message : String)
  /-- The content is not UTF-8. -/
  | notText
deriving DecidableEq, Repr

def FileFault.message : FileFault → String
  | refused message => message
  | notText => "stream did not contain valid UTF-8"

/-- Why a document could not be loaded. -/
inductive LoadFault where
  | unsupportedFormat (path : String)
  | unreadable (path : String) (fault : FileFault)
  /-- The text from some origin, a path or memory, is refused by its reader with a message. -/
  | unparsed (origin message : String)
deriving DecidableEq, Repr

namespace LoadFault

/-- Where a text comes from that was not loaded from a file. -/
def inlineOrigin : String := "<inline>"

/-- The wording of each cause. -/
def message : LoadFault → String
  | unsupportedFormat path =>
    "unsupported config format: " ++ path ++ " (expected .yaml, .yml or .json)"
  | unreadable path fault => "failed to read " ++ path ++ ": " ++ fault.message
  | unparsed origin message => "failed to parse " ++ origin ++ ": " ++ message

/-- The fault of a text that turns out to come from a file. -/
def inFile (path : String) : LoadFault → LoadFault
  | unparsed _ message => unparsed path message
  | fault => fault

end LoadFault

/-! ## Texts in memory -/

/-- Reads a text held in memory. -/
def parseText {α : Type} [Document.Decodable α] (readers : Readers) (format : Format)
    (text : String) : Except LoadFault α :=
  ((format.reader readers).read text).mapError (.unparsed LoadFault.inlineOrigin)

/-- Reads a calendar's text on its own. -/
def Calendar.ofText (reader : Document.Reader) (text : String) : Except CalendarFault Calendar :=
  (reader.read text).mapError .unparsed

/-! ## Files -/

/-- What reading a path gives. -/
abbrev FileContent := Except FileFault ByteArray

/-- The document in a file's content. -/
def parseFile {α : Type} [Document.Decodable α] (readers : Readers) (format : Format)
    (path : String) (content : FileContent) : Except LoadFault α := do
  let bytes ← content.mapError (.unreadable path)
  match String.fromUTF8? bytes with
  | none => .error (.unreadable path .notText)
  | some text => (parseText readers format text).mapError (.inFile path)

/-- Loads a file. It is not touched where its path names no supported format. -/
def loadFile {m : Type → Type} [Monad m] {α : Type} [Document.Decodable α] (readers : Readers)
    (readPath : String → m FileContent) (path : String) : m (Except LoadFault α) :=
  match Format.ofPath? path with
  | none => return .error (.unsupportedFormat path)
  | some format => return parseFile readers format path (← readPath path)

end FlightCaption
