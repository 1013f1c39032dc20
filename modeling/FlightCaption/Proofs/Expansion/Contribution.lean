import FlightCaption.Expansion

/-!
# What each token adds to a caption

A pass writes at the end of a caption that other tokens have begun, and takes back what a failing
handler has written. This module describes the same pass without a shared buffer: each token has a
caption of its own, and the pass puts them one after the other.

- A handler's script is *performed* by itself: the text that it writes, the passes that it asks
  for and the fault that it ends with, if any.
- A token *contributes* a caption that depends on nothing that stands before it.

Main statement: the captions of two lists of tokens follow one another, and a token's caption is
fixed by its own text or handler alone (`expand?_isolates_tokens`).
-/

namespace FlightCaption

/-! ## Captions in a row -/

namespace Caption

/-- One caption after another: texts and logs are put together. -/
instance : Append Caption where
  append first second := { text := first.text ++ second.text, log := first.log ++ second.log }

@[simp] theorem text_append (first second : Caption) :
    (first ++ second).text = first.text ++ second.text := rfl

@[simp] theorem log_append (first second : Caption) :
    (first ++ second).log = first.log ++ second.log := rfl

theorem eq_of_text_of_log {first second : Caption} (htext : first.text = second.text)
    (hlog : first.log = second.log) : first = second := by
  cases first
  cases second
  simp_all

@[simp] theorem empty_append (caption : Caption) : ({} : Caption) ++ caption = caption := by
  apply eq_of_text_of_log <;> simp

@[simp] theorem append_empty (caption : Caption) : caption ++ ({} : Caption) = caption := by
  apply eq_of_text_of_log <;> simp

theorem append_assoc (first second third : Caption) :
    first ++ second ++ third = first ++ (second ++ third) := by
  apply eq_of_text_of_log
  · simp [String.append_assoc]
  · simp [List.append_assoc]

theorem write_eq_append (caption : Caption) (text : String) :
    caption.write text = caption ++ { text } := by
  apply eq_of_text_of_log <;> simp [write]

end Caption

/-! ## Scripts by themselves -/

/-- What a handler does: the text that it writes, its nested passes in order, and the fault that
    it ends with, if it fails. -/
structure Performance where
  text : String := ""
  passes : List Caption := []
  fault : Option TagFault := none

namespace Performance

/-- The events of all nested passes, in order. -/
def events (performance : Performance) : List Event :=
  performance.passes.flatMap Caption.log

/-- What stays of a performance in the caption: the text and the events of the nested passes if
    the handler succeeds, and otherwise a marker and, behind those events, the fault. -/
def caption (tag : String) (performance : Performance) : Caption :=
  match performance.fault with
  | none => { text := performance.text, log := performance.events }
  | some fault =>
    { text := Caption.marker tag, log := performance.events ++ [.failed tag fault] }

end Performance

namespace Script

/-- Performs a script without a caption to write to. -/
def perform (nested : String → Option Caption) : Script → Option Performance
  | done => some {}
  | fail fault => some { fault := some fault }
  | write text next =>
    (next.perform nested).map fun rest => { rest with text := text ++ rest.text }
  | expand markup next =>
    (nested markup).bind fun inner =>
      ((next inner.text).perform nested).map fun rest =>
        { rest with passes := inner :: rest.passes }

/-- A script writes at the end of a caption what it writes by itself. -/
theorem run_eq_perform (nested : String → Option Caption) (script : Script) (before : Caption) :
    script.run nested before = (script.perform nested).map fun performance =>
      (before ++ { text := performance.text, log := performance.events },
        performance.fault) := by
  induction script generalizing before with
  | done => simp [run, perform, Performance.events]
  | fail fault => simp [run, perform, Performance.events]
  | write text next ih =>
    rw [run, ih, perform, Option.map_map]
    -- The text goes in front of what the other steps write
    congr 1
    funext rest
    simp only [Function.comp_apply, Prod.mk.injEq, and_true]
    apply Caption.eq_of_text_of_log
    · simp [Caption.write, String.append_assoc]
    · simp [Caption.write, Performance.events]
  | expand markup next ih =>
    rw [run, perform]
    cases hinner : nested markup with
    | none => rfl
    | some inner =>
      show (next inner.text).run nested (before.note inner.log) = _
      rw [Option.bind_some, ih, Option.map_map]
      -- The log of the pass goes in front of those of the passes that follow
      congr 1
      funext rest
      simp only [Function.comp_apply, Prod.mk.injEq, and_true]
      apply Caption.eq_of_text_of_log
      · simp [Caption.note]
      · simp [Caption.note, Performance.events, List.append_assoc]

end Script

/-! ## Tokens by themselves -/

namespace Expansion

variable {nested : String → Option Caption} {registry : Registry} {scope : Scope}

/-- The caption of one token. -/
def contribution (nested : String → Option Caption) (registry : Registry) (scope : Scope) :
    Token → Option Caption
  | .literal text => some { text }
  | .tag key args =>
    match handler? registry scope.allowCustom key with
    | none => some { text := (Token.tag key args).written, log := [.left key] }
    | some handler =>
      ((handler scope args).perform nested).map (Performance.caption key)

/-- A tag has the same caption in two passes that give it the same handler, if the handler performs
    in the same way. -/
theorem contribution_tag_congr {nested' : String → Option Caption} {registry' : Registry}
    {scope' : Scope} {key : String} {args : List String}
    (hsame : handler? registry scope.allowCustom key = handler? registry' scope'.allowCustom key)
    (hperform : ∀ handler, handler? registry scope.allowCustom key = some handler →
      (handler scope args).perform nested = (handler scope' args).perform nested') :
    contribution nested registry scope (.tag key args) =
      contribution nested' registry' scope' (.tag key args) := by
  rw [contribution, contribution, ← hsame]
  cases hhandler : handler? registry scope.allowCustom key with
  | none => rfl
  | some handler =>
    show ((handler scope args).perform nested).map _ = ((handler scope' args).perform nested').map _
    rw [hperform handler hhandler]

/-- A token is written at the end of a caption as it is by itself. The text of a handler that
    fails is taken back exactly; the events of its nested passes stay. -/
theorem writeToken_eq_contribution (before : Caption) (token : Token) :
    writeToken nested registry scope before token =
      (contribution nested registry scope token).map (before ++ ·) := by
  cases token with
  | literal text => simp [writeToken, contribution, Caption.write_eq_append]
  | tag key args =>
    cases hhandler : handler? registry scope.allowCustom key with
    | none =>
      -- The tag is written out and noted
      simp only [writeToken, contribution, hhandler, Option.map_some, Option.some.injEq]
      apply Caption.eq_of_text_of_log <;> simp [Caption.write, Caption.note]
    | some handler =>
      simp only [writeToken, contribution, hhandler, Script.run_eq_perform]
      cases hperform : (handler scope args).perform nested with
      | none => rfl
      | some performance =>
        cases hfault : performance.fault with
        | none => simp [Performance.caption, hfault]
        | some fault =>
          -- The text is put back to `before`, the log is not
          simp only [Option.map_some, hfault, Performance.caption, Option.some.injEq]
          apply Caption.eq_of_text_of_log
          · rfl
          · simp [Caption.note, List.append_assoc]

/-- A pass writes at the end of a caption what it writes into an empty one. -/
theorem writeTokens_eq_append (before : Caption) (tokens : List Token) :
    writeTokens nested registry scope before tokens =
      (writeTokens nested registry scope {} tokens).map (before ++ ·) := by
  induction tokens generalizing before with
  | nil => simp [writeTokens]
  | cons token tokens ih =>
    -- Wherever the pass writes, the first token adds its own caption there
    have hcons : ∀ caption, writeTokens nested registry scope caption (token :: tokens) =
        (contribution nested registry scope token).bind fun own =>
          (writeTokens nested registry scope {} tokens).map (caption ++ own ++ ·) := by
      intro caption
      rw [writeTokens, List.foldlM_cons, writeToken_eq_contribution]
      cases contribution nested registry scope token with
      | none => rfl
      | some own => exact ih (caption ++ own)
    rw [hcons before, hcons {}]
    cases contribution nested registry scope token with
    | none => rfl
    | some own => simp [Caption.append_assoc, Function.comp_def]

end Expansion

/-! ## Whole expansions -/

section

variable (depth : Nat) (registry : Registry) (context : Context) (allowCustom : Bool)

theorem expandOnto?_eq_append (before : Caption) (tokens : List Token) :
    expandOnto? depth registry context allowCustom before tokens =
      (expand? depth registry context allowCustom tokens).map (before ++ ·) :=
  Expansion.writeTokens_eq_append before tokens

theorem expand?_singleton (token : Token) :
    expand? depth registry context allowCustom [token] =
      Expansion.contribution (Expansion.nested? registry context depth) registry
        (Expansion.scope registry context allowCustom) token := by
  show Expansion.writeTokens _ _ _ {} [token] = _
  simp [Expansion.writeTokens, Expansion.writeToken_eq_contribution]

theorem expand?_append (tokens tokens' : List Token) :
    expand? depth registry context allowCustom (tokens ++ tokens') =
      (expand? depth registry context allowCustom tokens).bind fun first =>
        (expand? depth registry context allowCustom tokens').map (first ++ ·) := by
  show Expansion.writeTokens _ _ _ {} (tokens ++ tokens') = _
  rw [Expansion.writeTokens, List.foldlM_append]
  show Option.bind (expand? depth registry context allowCustom tokens) _ = _
  congr 1
  funext first
  exact expandOnto?_eq_append depth registry context allowCustom first tokens'

theorem expand?_cons (token : Token) (tokens : List Token) :
    expand? depth registry context allowCustom (token :: tokens) =
      (expand? depth registry context allowCustom [token]).bind fun first =>
        (expand? depth registry context allowCustom tokens).map (first ++ ·) :=
  expand?_append depth registry context allowCustom [token] tokens

/-- A pass has the same caption in another registry if each of its tokens has. -/
theorem expand?_congr_of_forall_token {registry' : Registry} {tokens : List Token}
    (h : ∀ token ∈ tokens, expand? depth registry context allowCustom [token] =
      expand? depth registry' context allowCustom [token]) :
    expand? depth registry context allowCustom tokens =
      expand? depth registry' context allowCustom tokens := by
  induction tokens with
  | nil => rfl
  | cons token tokens ih =>
    obtain ⟨htoken, htokens⟩ := List.forall_mem_cons.mp h
    rw [expand?_cons, expand?_cons depth registry', htoken, ih htokens]

/-- A nested pass is an expansion with one level less, in which the custom tag is switched off. -/
theorem nested?_succ (markup : String) :
    Expansion.nested? registry context (depth + 1) markup =
      expand? depth registry context false (tokenize markup) := rfl

/-- A tag that has no handler in a pass is left in place. -/
theorem expand?_left {key : String}
    (h : registry.get? key = none ∨ key = customTagName ∧ allowCustom = false)
    (args : List String) :
    expand? depth registry context allowCustom [.tag key args] =
      some { text := (Token.tag key args).written, log := [.left key] } := by
  have hnone : Expansion.handler? registry allowCustom key = none := by
    rcases h with hmissing | ⟨hcustom, hoff⟩
    · simp [Expansion.handler?, hmissing]
    · simp [Expansion.handler?, hcustom, hoff]
  rw [expand?_singleton, Expansion.contribution]
  simp [Expansion.scope, hnone]

/-- A tag that has a handler in a pass gets the caption of the handler's performance. -/
theorem expand?_handled {key : String} {handler : Handler}
    (h : registry.get? key = some handler) (hallowed : key = customTagName → allowCustom = true)
    (args : List String) :
    expand? depth registry context allowCustom [.tag key args] =
      ((handler (Expansion.scope registry context allowCustom) args).perform
        (Expansion.nested? registry context depth)).map (Performance.caption key) := by
  have hsome : Expansion.handler? registry allowCustom key = some handler := by
    rw [Expansion.handler?_eq_some_iff]
    refine ⟨?_, h⟩
    by_cases hcustom : key = customTagName
    · exact .inl (hallowed hcustom)
    · exact .inr hcustom
  rw [expand?_singleton, Expansion.contribution]
  simp [Expansion.scope, hsome]

/-- **Tokens are isolated from one another.** What stands before a pass is kept, and the captions
    of two lists of tokens follow one another. The caption of a single token is its text for a
    literal, its written form with one event for a tag that has no handler in the pass, and the
    caption of the handler's own performance otherwise: all its text and the events of its nested
    passes if it succeeds, a marker and those events with one more for the fault if it fails. In a
    log that event is a warning with the wording of the fault. -/
theorem expand?_isolates_tokens :
    (∀ before tokens tokens',
      expandOnto? depth registry context allowCustom before (tokens ++ tokens') =
        (expand? depth registry context allowCustom tokens).bind fun first =>
          (expand? depth registry context allowCustom tokens').map fun second =>
            before ++ first ++ second) ∧
    (∀ text, expand? depth registry context allowCustom [.literal text] =
      some { text, log := [] }) ∧
    (∀ key args, registry.get? key = none ∨ key = customTagName ∧ allowCustom = false →
      expand? depth registry context allowCustom [.tag key args] =
        some { text := (Token.tag key args).written, log := [.left key] }) ∧
    (∀ key args handler, registry.get? key = some handler →
      (key = customTagName → allowCustom = true) →
      expand? depth registry context allowCustom [.tag key args] =
        ((handler (Expansion.scope registry context allowCustom) args).perform
          (Expansion.nested? registry context depth)).map fun performance =>
            match performance.fault with
            | none => { text := performance.text, log := performance.events }
            | some fault =>
              { text := "Error expanding <" ++ key ++ ">"
                log := performance.events ++ [.failed key fault] }) ∧
    (∀ key fault, (Event.failed key fault).record =
      { level := .warn, tag := key, error := some fault.message
        message := "tag expansion failed" }) ∧
    ∀ key, (Event.left key).record =
      { level := .debug, tag := key, message := "leaving unresolved tag in place" } := by
  refine ⟨?_, fun _ => rfl, ?_, ?_, fun _ _ => rfl, fun _ => rfl⟩
  · intro before tokens tokens'
    rw [expandOnto?_eq_append, expand?_append, Option.map_bind]
    congr 1
    funext first
    simp [Function.comp_def, Caption.append_assoc]
  · intro key args h
    exact expand?_left depth registry context allowCustom h args
  · intro key args handler h hallowed
    exact expand?_handled depth registry context allowCustom h hallowed args

end

/-- Writes a text, has a tag expanded that nothing handles, and breaks off. -/
def halfway : Handler := fun _ _ =>
  .write "half" (.inline "<X>" (.fail (.broken (some "boom"))))

/-- A handler that breaks off after a nested pass loses the output of both, but not the event. -/
theorem expand?_halfway :
    (Registry.empty.insert "Boom" halfway).get? "Boom" = some halfway ∧
      ("Boom" = customTagName → true = true) ∧
      (Registry.empty.insert "Boom" halfway).get? "X" = none ∧
      expand? 0 (Registry.empty.insert "Boom" halfway) {} false [.tag "X" []] =
        some { text := "<X>", log := [.left "X"] } ∧
      expand? 1 (Registry.empty.insert "Boom" halfway) {} true [.tag "Boom" []] =
        some { text := "Error expanding <Boom>",
               log := [.left "X", .failed "Boom" (.broken (some "boom"))] } := by
  have hboom : (Registry.empty.insert "Boom" halfway).get? "Boom" = some halfway := by
    simp [Registry.get?_insert]
  have hx : (Registry.empty.insert "Boom" halfway).get? "X" = none := by
    rw [Registry.get?_insert, if_neg (by decide)]
    rfl
  have htokens : tokenize "<X>" = [.tag "X" []] := by decide +kernel
  have hleft := (expand?_isolates_tokens 0 (Registry.empty.insert "Boom" halfway) {} false).2.2.1
    "X" [] (.inl hx)
  have hfailed := (expand?_isolates_tokens 1 (Registry.empty.insert "Boom" halfway) {} true).2.2.2.1
    "Boom" [] halfway hboom (fun _ => rfl)
  refine ⟨hboom, fun _ => rfl, hx, hleft, ?_⟩
  rw [hfailed]
  have hnested : Expansion.nested? (Registry.empty.insert "Boom" halfway) {} 1 "<X>" =
      some { text := "<X>", log := [.left "X"] } := by
    rw [nested?_succ, htokens, hleft]
    rfl
  simp only [halfway, Script.inline, Script.perform, hnested, Option.bind_some, Option.map_some]
  rfl

end FlightCaption
