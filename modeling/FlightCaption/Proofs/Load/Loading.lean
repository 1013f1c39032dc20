import FlightCaption.Load.File
import FlightCaption.Proofs.Results

/-!
# How loading a file ends

Loading a file can go wrong at three points, and the first of them decides: the extension of its
path, its bytes, and its text. `Loads` has one constructor for each of them and one for success, and
`loadFile_eq_iff` says that loading ends in the way that the constructors describe.

Files are any map from paths to contents here, and readers say anything of a text, so that nothing
is assumed of the disk or of the notations.
-/

namespace FlightCaption

/-! ## The ways in which it ends -/

/-- The extensions of files that can be loaded. -/
def loadableExtensions : List String := ["yaml", "yml", "json"]

/-- The text that a file's content is, if it has one. -/
def FileContent.text (content : FileContent) : Except FileFault String :=
  match content with
  | .error fault => .error fault
  | .ok bytes =>
    match String.fromUTF8? bytes with
    | some text => .ok text
    | none => .error .notText

/-- Loading the file at a path ends in this way. -/
inductive Loads {α : Type} [Document.Decodable α] (readers : Readers)
    (files : String → FileContent) (path : String) : Except LoadFault α → Prop where
  /-- The extension is none of those known; whether the file exists makes no difference. -/
  | unsupported (hextension : ∀ extension ∈ extension? path, extension ∉ loadableExtensions) :
      Loads readers files path (.error (.unsupportedFormat path))
  /-- The file cannot be read, or not as text. -/
  | unreadable {format : Format} {fault : FileFault} (hformat : Format.ofPath? path = some format)
      (htext : (files path).text = .error fault) :
      Loads readers files path (.error (.unreadable path fault))
  /-- The same text is refused in memory, with the same message but for where it comes from. -/
  | unparsed {format : Format} {text message : String}
      (hformat : Format.ofPath? path = some format) (htext : (files path).text = .ok text)
      (hparse : (parseText readers format text : Except LoadFault α) =
        .error (.unparsed LoadFault.inlineOrigin message)) :
      Loads readers files path (.error (.unparsed path message))
  | loaded {format : Format} {text : String} {value : α}
      (hformat : Format.ofPath? path = some format) (htext : (files path).text = .ok text)
      (hparse : parseText readers format text = .ok value) :
      Loads readers files path (.ok value)

/-! ## The steps of loading -/

theorem ofPath?_eq_none_iff {path : String} :
    Format.ofPath? path = none ↔
      ∀ extension ∈ extension? path, extension ∉ loadableExtensions := by
  rw [Format.ofPath?]
  cases extension? path with
  | none => simp
  | some extension =>
    split
    · next heq => simp_all [loadableExtensions]
    · next heq => simp_all [loadableExtensions]
    · next heq => simp_all [loadableExtensions]
    · next hyaml hyml hjson => simp_all [loadableExtensions]

section

variable {α : Type} [Document.Decodable α] {readers : Readers} {format : Format}

theorem parseText_eq_ok_iff {text : String} {value : α} :
    parseText readers format text = .ok value ↔
      (format.reader readers).read text = .ok value :=
  mapError_eq_ok_iff

/-- A text in memory is refused with its reader's message. -/
theorem parseText_eq_error_iff {text : String} {fault : LoadFault} :
    (parseText readers format text : Except LoadFault α) = .error fault ↔
      ∃ message, ((format.reader readers).read text : Except String α) = .error message ∧
        .unparsed LoadFault.inlineOrigin message = fault :=
  mapError_eq_error_iff

/-- A file is parsed like a text in memory, once it has one. -/
theorem parseFile_eq (path : String) (content : FileContent) :
    (parseFile readers format path content : Except LoadFault α) =
      content.text.mapError (.unreadable path) >>= fun text =>
        (parseText readers format text).mapError (.inFile path) := by
  cases content with
  | error fault => rfl
  | ok bytes =>
    rw [parseFile, FileContent.text, mapError_ok, ok_bind]
    cases String.fromUTF8? bytes with
    | none => rfl
    | some text => rfl

theorem loadFile_of_unsupported (files : String → FileContent) {path : String}
    (hformat : Format.ofPath? path = none) :
    (loadFile (m := Id) readers files path : Except LoadFault α) =
      .error (.unsupportedFormat path) := by
  unfold loadFile
  rw [hformat]
  rfl

theorem loadFile_of_format (files : String → FileContent) {path : String}
    (hformat : Format.ofPath? path = some format) :
    (loadFile (m := Id) readers files path : Except LoadFault α) =
      (files path).text.mapError (.unreadable path) >>= fun text =>
        (parseText readers format text).mapError (.inFile path) := by
  unfold loadFile
  rw [hformat]
  exact parseFile_eq path (files path)

/-- **Loading ends in one of the four ways**, and in no other. -/
theorem loadFile_eq_iff {files : String → FileContent} {path : String}
    {result : Except LoadFault α} :
    loadFile (m := Id) readers files path = result ↔ Loads readers files path result := by
  constructor
  · rintro rfl
    cases hformat : Format.ofPath? path with
    | none =>
      rw [loadFile_of_unsupported files hformat]
      exact .unsupported (ofPath?_eq_none_iff.mp hformat)
    | some format =>
      rw [loadFile_of_format files hformat]
      cases htext : (files path).text with
      | error fault => exact .unreadable hformat htext
      | ok text =>
        rw [mapError_ok, ok_bind]
        -- What is left is the text, which is read or refused as it is in memory
        cases hparse : (parseText readers format text : Except LoadFault α) with
        | error fault =>
          obtain ⟨message, -, rfl⟩ := parseText_eq_error_iff.mp hparse
          exact .unparsed hformat htext hparse
        | ok value => exact .loaded hformat htext hparse
  · intro h
    cases h with
    | unsupported hextension =>
      exact loadFile_of_unsupported files (ofPath?_eq_none_iff.mpr hextension)
    | unreadable hformat htext =>
      rw [loadFile_of_format files hformat, htext]
      rfl
    | unparsed hformat htext hparse =>
      rw [loadFile_of_format files hformat, htext, mapError_ok, ok_bind, hparse]
      rfl
    | loaded hformat htext hparse =>
      rw [loadFile_of_format files hformat, htext, mapError_ok, ok_bind, hparse]
      rfl

/-- Of all files only the one at the path matters. -/
theorem loads_congr {files files' : String → FileContent} {path : String}
    (h : files' path = files path) {result : Except LoadFault α} :
    Loads readers files' path result ↔ Loads readers files path result := by
  have hload : (loadFile (m := Id) readers files' path : Except LoadFault α) =
      loadFile (m := Id) readers files path := by
    unfold loadFile
    rw [h]
  rw [← loadFile_eq_iff, ← loadFile_eq_iff, hload]

/-- A file's loading ends in one way only. -/
theorem Loads.unique {files : String → FileContent} {path : String}
    {result result' : Except LoadFault α} (h : Loads readers files path result)
    (h' : Loads readers files path result') : result = result' :=
  (loadFile_eq_iff.mpr h).symm.trans (loadFile_eq_iff.mpr h')

end

end FlightCaption
