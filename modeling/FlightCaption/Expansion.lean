import FlightCaption.Tag.Registry
import FlightCaption.Template.Scan

/-!
# Expansion

A pass goes through a list of tokens and writes a caption, a text with a log. Literals are copied. A
tag runs its handler; a tag without one is left in place, and so is the custom tag where it is not
allowed. A handler that fails loses the text that it has written, gets a marker in its place and an
entry in the log, and costs no other tag anything.

Handlers can have markup expanded, which is a pass of its own inside theirs, with the custom tag
switched off. How deep passes may nest is an argument here: `expand?` has no answer when the limit
is reached. Main statement: with the built-in tags one level is enough (`isSome_expand?_builtins`).
-/

namespace FlightCaption

/-! ## Captions -/

/-- What a pass notes about a tag. The note at the start of each pass, which only tracing shows and
which is about no tag, is left out. -/
inductive Event where
  /-- The handler failed. -/
  | failed (tag : String) (fault : TagFault)
  /-- The tag was left in place. -/
  | left (tag : String)
deriving DecidableEq, Repr

/-- How much an event of a log matters. -/
inductive LogLevel where
  | warn
  | debug
deriving DecidableEq, Repr

/-- An event as a log shows it: a message, with the tag's name and, if there is one, the wording of
a fault beside it. -/
structure LogRecord where
  level : LogLevel
  tag : String
  error : Option String := none
  message : String
deriving DecidableEq, Repr

/-- The record of an event. -/
def Event.record : Event → LogRecord
  | failed tag fault =>
    { level := .warn, tag, error := some fault.message, message := "tag expansion failed" }
  | left tag => { level := .debug, tag, message := "leaving unresolved tag in place" }

/-- A text and the events met while writing it, in order. -/
structure Caption where
  text : String := ""
  log : List Event := []
deriving DecidableEq, Repr

namespace Caption

/-- Writes text at the end. -/
def write (caption : Caption) (text : String) : Caption :=
  { caption with text := caption.text ++ text }

/-- Adds events at the end of the log. -/
def note (caption : Caption) (events : List Event) : Caption :=
  { caption with log := caption.log ++ events }

/-- What stands in a caption for a tag that failed. -/
def marker (tag : String) : String :=
  "Error expanding <" ++ tag ++ ">"

end Caption

/-! ## One pass -/

namespace Script

/-- Performs a script at the end of a caption: the caption afterwards, and the fault if the script
fails. Markup is expanded by `nested`; there is no answer where that has none. -/
def run (nested : String → Option Caption) :
    Script → Caption → Option (Caption × Option TagFault)
  | done, caption => some (caption, none)
  | fail fault, caption => some (caption, some fault)
  | write text next, caption => next.run nested (caption.write text)
  | expand markup next, caption =>
    match nested markup with
    | some inner => (next inner.text).run nested (caption.note inner.log)
    | none => none

end Script

namespace Expansion

/-- The handler that a tag gets in a pass. -/
def handler? (registry : Registry) (allowCustom : Bool) (key : String) : Option Handler :=
  if allowCustom ∨ key ≠ customTagName then registry.get? key else none

theorem handler?_eq_some_iff {registry : Registry} {allowCustom : Bool} {key : String}
    {handler : Handler} :
    handler? registry allowCustom key = some handler ↔
      (allowCustom ∨ key ≠ customTagName) ∧ registry.get? key = some handler := by
  unfold handler?
  by_cases allowed : allowCustom = true ∨ key ≠ customTagName <;> simp [allowed]

/-- Writes one token at the end of a caption. -/
def writeToken (nested : String → Option Caption) (registry : Registry) (scope : Scope)
    (caption : Caption) : Token → Option Caption
  | .literal text => some (caption.write text)
  | .tag key args =>
    match handler? registry scope.allowCustom key with
    | none => some ((caption.write (Token.tag key args).written).note [.left key])
    | some handler =>
      match (handler scope args).run nested caption with
      | none => none
      | some (after, none) => some after
      | some (after, some fault) =>
        -- the text goes back to where the tag started, the log keeps what nested passes met
        some ({ after with text := caption.text ++ Caption.marker key }.note [.failed key fault])

/-- Writes tokens at the end of a caption, in order. -/
def writeTokens (nested : String → Option Caption) (registry : Registry) (scope : Scope)
    (caption : Caption) (tokens : List Token) : Option Caption :=
  tokens.foldlM (writeToken nested registry scope) caption

/-- What a handler sees in a pass. -/
def scope (registry : Registry) (context : Context) (allowCustom : Bool) : Scope :=
  { context, allowCustom, tagNames := registry.names }

/-- Expands markup inside a pass, `depth` more levels being allowed. -/
def nested? (registry : Registry) (context : Context) : Nat → String → Option Caption
  | 0, _ => none
  | depth + 1, markup =>
    writeTokens (nested? registry context depth) registry (scope registry context false) {}
      (tokenize markup)

end Expansion

/-! ## Whole expansions -/

/-- Expands tokens at the end of a caption. Passes nest at most `depth` levels below this one; where
they need more there is no answer. -/
def expandOnto? (depth : Nat) (registry : Registry) (context : Context) (allowCustom : Bool)
    (caption : Caption) (tokens : List Token) : Option Caption :=
  Expansion.writeTokens (Expansion.nested? registry context depth) registry
    (Expansion.scope registry context allowCustom) caption tokens

/-- Expands tokens into a new caption. -/
def expand? (depth : Nat) (registry : Registry) (context : Context) (allowCustom : Bool)
    (tokens : List Token) : Option Caption :=
  expandOnto? depth registry context allowCustom {} tokens

/-! ## The built-in tags nest one level -/

namespace Expansion

/-- A pass has an answer if every handler that it runs has one. -/
theorem isSome_writeTokens {nested : String → Option Caption} {registry : Registry}
    {scope : Scope} {tokens : List Token}
    (h : ∀ key handler, handler? registry scope.allowCustom key = some handler →
      ∀ args caption, ((handler scope args).run nested caption).isSome) (caption : Caption) :
    (writeTokens nested registry scope caption tokens).isSome := by
  induction tokens generalizing caption with
  | nil => rfl
  | cons token tokens ih =>
    have step : (writeToken nested registry scope caption token).isSome := by
      cases token with
      | literal text => rfl
      | tag key args =>
        simp only [writeToken]
        split
        · rfl
        · next handler found =>
          have answer := h key handler found args caption
          split
          · next none => simp [none] at answer
          · rfl
          · rfl
    obtain ⟨after, eq⟩ := Option.isSome_iff_exists.1 step
    simpa [writeTokens, List.foldlM_cons, eq] using ih after

/-- The script of a built-in tag has an answer as soon as markup has one where the tag is the custom
tag. -/
theorem isSome_run_handler (tag : Builtin) {nested : String → Option Caption}
    (h : tag = .custom → ∀ markup, (nested markup).isSome) (scope : Scope) (args : List String)
    (caption : Caption) : ((tag.handler scope args).run nested caption).isSome := by
  by_cases custom : tag = .custom
  · subst custom
    obtain ⟨inner, eq⟩ := Option.isSome_iff_exists.1 (h rfl scope.context.overlay.customText)
    simp [Builtin.handler, Script.inline, Script.run, eq]
  · rw [Builtin.handler_of_ne_custom custom]
    cases tag.text scope args <;> simp [Script.ofResult, Script.text, Script.run]

/-- Where the custom tag is switched off, the built-in tags expand no markup. -/
theorem isSome_nested?_builtins (context : Context) (depth : Nat) (markup : String) :
    (nested? .builtins context (depth + 1) markup).isSome := by
  refine isSome_writeTokens (fun key handler found args caption => ?_) {}
  obtain ⟨allowed, found⟩ := handler?_eq_some_iff.1 found
  obtain ⟨tag, name, rfl⟩ := Registry.eq_handler_of_get?_builtins found
  refine isSome_run_handler tag (fun custom => ?_) _ args caption
  subst custom
  simp [scope, ← name, Builtin.name] at allowed

end Expansion

/-- With the built-in tags, one level of nesting is enough for any tokens. -/
theorem isSome_expand?_builtins (depth : Nat) (context : Context) (allowCustom : Bool)
    (tokens : List Token) :
    (expand? (depth + 1) .builtins context allowCustom tokens).isSome := by
  refine Expansion.isSome_writeTokens (fun key handler found args caption => ?_) {}
  obtain ⟨_, found⟩ := Expansion.handler?_eq_some_iff.1 found
  obtain ⟨tag, _, rfl⟩ := Registry.eq_handler_of_get?_builtins found
  exact Expansion.isSome_run_handler tag
    (fun _ => Expansion.isSome_nested?_builtins context depth) _ args caption

/-- Expands tokens with the built-in tags. -/
def expand (context : Context) (allowCustom : Bool) (tokens : List Token) : Caption :=
  (expand? 1 .builtins context allowCustom tokens).get
    (isSome_expand?_builtins 0 context allowCustom tokens)

end FlightCaption
