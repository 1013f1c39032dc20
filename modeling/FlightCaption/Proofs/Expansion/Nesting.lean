import FlightCaption.Proofs.Expansion.Builtin
import FlightCaption.Proofs.Template.Canonical
import FlightCaption.Renderer

/-!
# How deep passes nest

A handler can have markup expanded, and the handlers of that markup can do so again. Nothing counts
how deep this goes, so a registry may well nest without end. It cannot if its handlers *keep to
their own text*, that is, have nothing expanded but the arguments of their tags, or the overlay's
custom text in the case of the custom tag:

1. In a nested pass the custom tag is switched off, so that only arguments can be expanded there.
2. The tags of a nested pass come from a text, and an argument that was read from a text holds
   no `<`. A pass over such an argument meets no tag.

The passes that go on at one time are described by a *stack*, the list of their markups from the
outermost nested pass inwards. An expansion has an answer under any limit that its stacks obey
(`isSome_expand?_of_forall_isStack`), so it is enough to bound the stacks.

Main statement: where handlers keep to their own text, stacks hold at most two passes, and a second
one copies its text (`expand?_nests_two_levels`).
-/

namespace FlightCaption

/-! ## What scripts ask for -/

namespace Script

/-- Markup that a script may have expanded, whatever is answered to what it has expanded before. -/
def Asks : Script → String → Prop
  | done, _ => False
  | fail _, _ => False
  | write _ next, markup => next.Asks markup
  | expand first next, markup => markup = first ∨ ∃ result, (next result).Asks markup

/-- A script gets to its end if there is an answer to all that it asks for. -/
theorem isSome_perform {nested : String → Option Caption} {script : Script}
    (h : ∀ markup, script.Asks markup → (nested markup).isSome) :
    (script.perform nested).isSome := by
  induction script with
  | done => rfl
  | fail fault => rfl
  | write text next ih =>
    rw [perform, Option.isSome_map]
    exact ih h
  | expand first next ih =>
    obtain ⟨inner, hinner⟩ := Option.isSome_iff_exists.mp (h first (.inl rfl))
    have hnext : ((next inner.text).perform nested).isSome := by
      apply ih
      intro markup hasks
      exact h markup (.inr ⟨inner.text, hasks⟩)
    rw [perform, hinner, Option.bind_some, Option.isSome_map]
    exact hnext

/-- A script that writes one text or fails asks for nothing. -/
theorem not_asks_ofResult (result : Except TagFault String) (markup : String) :
    ¬ (ofResult result).Asks markup := by
  cases result with
  | ok written => simp [ofResult, text, Asks]
  | error fault => simp [ofResult, Asks]

end Script

/-- The handlers of a registry have only their own text expanded: the arguments of their tags, and
    the overlay's custom text in the case of the custom tag. -/
def Registry.KeepsToOwnText (registry : Registry) : Prop :=
  ∀ key handler, registry.get? key = some handler → ∀ scope args markup,
    (handler scope args).Asks markup →
      markup ∈ args ∨ key = customTagName ∧ markup = scope.context.overlay.customText

/-! ## Stacks of passes -/

namespace Expansion

/-- The passes that may go on at one time below a pass, given by their markups from the outermost
    one inwards: each is asked for by the handler of a tag that stands in the pass around it. -/
inductive IsStack (registry : Registry) (context : Context) :
    Bool → List Token → List String → Prop where
  /-- No nested pass goes on. -/
  | empty {allowCustom : Bool} {tokens : List Token} :
      IsStack registry context allowCustom tokens []
  /-- A nested pass goes on, with a stack of its own. -/
  | nest {allowCustom : Bool} {tokens : List Token} {key : String} {args : List String}
      {handler : Handler} {markup : String} {stack : List String} :
      .tag key args ∈ tokens →
      handler? registry allowCustom key = some handler →
      (handler (scope registry context allowCustom) args).Asks markup →
      IsStack registry context false (tokenize markup) stack →
      IsStack registry context allowCustom tokens (markup :: stack)

end Expansion

section

variable {registry : Registry} {context : Context} {allowCustom : Bool} {tokens : List Token}

/-- A pass has an answer if there is one to all that the handlers of its tags ask for. -/
theorem isSome_expand?_of_forall_asks {depth : Nat}
    (h : ∀ key args handler markup, .tag key args ∈ tokens →
      Expansion.handler? registry allowCustom key = some handler →
      (handler (Expansion.scope registry context allowCustom) args).Asks markup →
      (Expansion.nested? registry context depth markup).isSome) :
    (expand? depth registry context allowCustom tokens).isSome := by
  induction tokens with
  | nil => rfl
  | cons token tokens ih =>
    have htokens : (expand? depth registry context allowCustom tokens).isSome := by
      apply ih
      intro key args handler markup hmem
      exact h key args handler markup (List.mem_cons_of_mem token hmem)
    have htoken : (expand? depth registry context allowCustom [token]).isSome := by
      rw [expand?_singleton]
      cases token with
      | literal text => rfl
      | tag key args =>
        cases hhandler : Expansion.handler? registry allowCustom key with
        | none => simp [Expansion.contribution, Expansion.scope, hhandler]
        | some handler =>
          simp only [Expansion.contribution, Expansion.scope, hhandler, Option.isSome_map]
          apply Script.isSome_perform
          intro markup hasks
          exact h key args handler markup List.mem_cons_self hhandler hasks
    obtain ⟨first, hfirst⟩ := Option.isSome_iff_exists.mp htoken
    rw [expand?_cons, hfirst, Option.bind_some, Option.isSome_map]
    exact htokens

/-- **Stacks decide which limit is enough**: where no stack is higher than a limit, the expansion
    has an answer under it. -/
theorem isSome_expand?_of_forall_isStack {depth : Nat}
    (h : ∀ stack, Expansion.IsStack registry context allowCustom tokens stack →
      stack.length ≤ depth) :
    (expand? depth registry context allowCustom tokens).isSome := by
  induction depth generalizing allowCustom tokens with
  | zero =>
    -- A pass that is asked for would be a stack of one
    apply isSome_expand?_of_forall_asks
    intro key args handler markup htag hhandler hasks
    have hone := h [markup] (.nest htag hhandler hasks .empty)
    simp at hone
  | succ depth ih =>
    -- The stacks below a pass that is asked for are lower by one
    apply isSome_expand?_of_forall_asks
    intro key args handler markup htag hhandler hasks
    rw [nested?_succ]
    apply ih
    intro stack hstack
    have hlength := h (markup :: stack) (.nest htag hhandler hasks hstack)
    simpa using hlength

/-- Below a pass without tags there is no other. -/
theorem Expansion.IsStack.eq_nil {stack : List String}
    (h : Expansion.IsStack registry context allowCustom tokens stack)
    (hliteral : ∀ token ∈ tokens, token.isLiteral) : stack = [] := by
  cases h with
  | empty => rfl
  | nest htag _ _ _ =>
    have htoken := hliteral _ htag
    simp [Token.isLiteral] at htoken

end

/-! ## Tags that come from a text -/

/-- A text without `<` is at most one literal. -/
theorem tokenize_of_lt_not_mem {text : String} (h : '<' ∉ text.toList) :
    tokenize text = Grammar.stretch text.toList := by
  have hbreak : Grammar.AtBreak [] := by simp [Grammar.AtBreak]
  simpa [tokenize, Pending.scan, Pending.flush, Pending.source] using
    Grammar.scan_stretch h hbreak

theorem isLiteral_of_mem_stretch {text : List Char} {token : Token}
    (h : token ∈ Grammar.stretch text) : token.isLiteral := by
  by_cases hempty : text = []
  · simp [Grammar.stretch, hempty] at h
  · rw [Grammar.stretch, if_neg hempty, List.mem_singleton] at h
    rw [h]
    rfl

/-- An argument that was read from a text holds no `<`. -/
theorem lt_not_mem_of_tag_mem_tokenize {text key arg : String} {args : List String}
    (htag : .tag key args ∈ tokenize text) (harg : arg ∈ args) : '<' ∉ arg.toList := by
  have hreadable := (Grammar.isCanonical_tokenize text).isReadable _ htag
  -- Of the four kinds of tokens only one is a tag
  rcases hreadable with ⟨-, -, hargs⟩ | hplain | hnameless | hunterminated
  · exact (hargs arg harg).lt_not_mem
  · exact hplain.elim
  · exact hnameless.elim
  · exact hunterminated.elim

/-- A pass over a text without `<` copies it. -/
theorem expand?_stretch (depth : Nat) (registry : Registry) (context : Context)
    (allowCustom : Bool) (text : String) :
    expand? depth registry context allowCustom (Grammar.stretch text.toList) =
      some { text } := by
  by_cases hempty : text.toList = []
  · have htext : text = "" := by simpa using hempty
    rw [Grammar.stretch, if_pos hempty, htext]
    rfl
  · rw [Grammar.stretch, if_neg hempty, String.ofList_toList]
    rfl

/-! ## Two levels -/

section

variable {registry : Registry} {context : Context}

/-- Below a nested pass there is at most one more, over an argument without `<`. -/
theorem Expansion.IsStack.below_nested (hown : registry.KeepsToOwnText) {text : String}
    {stack : List String} (h : IsStack registry context false (tokenize text) stack) :
    stack = [] ∨ ∃ arg, '<' ∉ arg.toList ∧ stack = [arg] := by
  cases h with
  | empty => exact .inl rfl
  | @nest _ _ key args handler markup stack htag hhandler hasks hstack =>
    obtain ⟨hallowed, hregistered⟩ := handler?_eq_some_iff.mp hhandler
    -- The custom tag is switched off, so the markup is an argument
    have harg : markup ∈ args := by
      rcases hown key handler hregistered _ args markup hasks with harg | ⟨hcustom, -⟩
      · exact harg
      · exact absurd hcustom (by simpa using hallowed)
    have hlt : '<' ∉ markup.toList := lt_not_mem_of_tag_mem_tokenize htag harg
    -- It has no tags, so nothing is asked for in its pass
    have hnil : stack = [] := by
      apply hstack.eq_nil
      intro token htoken
      rw [tokenize_of_lt_not_mem hlt] at htoken
      exact isLiteral_of_mem_stretch htoken
    exact .inr ⟨markup, hlt, by rw [hnil]⟩

theorem Expansion.IsStack.length_le_two (hown : registry.KeepsToOwnText) {allowCustom : Bool}
    {tokens : List Token} {stack : List String}
    (h : IsStack registry context allowCustom tokens stack) : stack.length ≤ 2 := by
  cases h with
  | empty => simp
  | nest _ _ _ hstack =>
    rcases hstack.below_nested hown with hnil | ⟨arg, -, hone⟩
    · simp [hnil]
    · simp [hone]

/-- Built-in tags other than the custom tag have nothing expanded. -/
theorem Registry.keepsToOwnText_builtins : builtins.KeepsToOwnText := by
  intro key handler hhandler scope args markup hasks
  obtain ⟨tag, rfl, rfl⟩ := eq_handler_of_get?_builtins hhandler
  by_cases hcustom : tag = .custom
  · subst hcustom
    simp only [Builtin.handler, Script.inline, Script.Asks, exists_false, or_false] at hasks
    exact .inr ⟨rfl, hasks⟩
  · rw [Builtin.handler_of_ne_custom hcustom] at hasks
    exact absurd hasks (Script.not_asks_ofResult _ _)

end

/-- **Passes nest two levels at most**, for every registry whose handlers keep to their own text,
    whatever the tokens hold that an expansion starts with. The expansion has an answer, the same
    one under every limit from two on; no stack of nested passes holds more than two; and a second
    one meets no tag, so that its text is copied as it stands. The built-in tags keep to their own
    text, and so every template can be rendered. -/
theorem expand?_nests_two_levels :
    (∀ registry : Registry, registry.KeepsToOwnText → ∀ context allowCustom tokens,
      (∃ caption, ∀ depth, 2 ≤ depth →
        expand? depth registry context allowCustom tokens = some caption) ∧
      (∀ stack, Expansion.IsStack registry context allowCustom tokens stack →
        stack.length ≤ 2) ∧
      ∀ outer inner, Expansion.IsStack registry context allowCustom tokens [outer, inner] →
        (∀ token ∈ tokenize inner, token.isLiteral) ∧
        ∀ depth, Expansion.nested? registry context (depth + 1) inner =
          some { text := inner, log := [] }) ∧
    Registry.builtins.KeepsToOwnText ∧
    ∀ template context depth, 2 ≤ depth →
      expand? depth .builtins context true (tokenize template) =
        some (render template context) := by
  refine ⟨?_, Registry.keepsToOwnText_builtins, ?_⟩
  · intro registry hown context allowCustom tokens
    have hstacks : ∀ stack, Expansion.IsStack registry context allowCustom tokens stack →
        stack.length ≤ 2 := fun stack hstack => hstack.length_le_two hown
    refine ⟨?_, hstacks, ?_⟩
    · obtain ⟨caption, hcaption⟩ :=
        Option.isSome_iff_exists.mp (isSome_expand?_of_forall_isStack hstacks)
      exact ⟨caption, fun depth hdepth => expand?_mono hdepth hcaption⟩
    · intro outer inner hstack
      -- The second pass is the one below the first
      have hlt : '<' ∉ inner.toList := by
        cases hstack with
        | nest _ _ _ hbelow =>
          rcases hbelow.below_nested hown with hnil | ⟨arg, hlt, hone⟩
          · simp at hnil
          · obtain rfl : inner = arg := by simpa using hone
            exact hlt
      have htokens := tokenize_of_lt_not_mem hlt
      refine ⟨?_, ?_⟩
      · intro token htoken
        rw [htokens] at htoken
        exact isLiteral_of_mem_stretch htoken
      · intro depth
        rw [nested?_succ, htokens]
        exact expand?_stretch depth registry context false inner
  · intro template context depth hdepth
    exact expand?_mono (Nat.le_of_succ_le hdepth) (expand?_one_builtins context true _)

/-! ## A registry that nests -/

/-- Has its first argument expanded, between brackets. -/
def bracketed : Handler := fun _ args =>
  match args with
  | [] => .done
  | arg :: _ => .write "[" (.inline arg (.text "]"))

/-- The registry of one tag, which puts an argument in brackets. -/
def bracketing : Registry :=
  Registry.empty.insert "Nest" bracketed

theorem Registry.keepsToOwnText_bracketing : bracketing.KeepsToOwnText := by
  intro key handler hhandler scope args markup hasks
  have hbracketed : handler = bracketed := by
    rw [bracketing, get?_insert] at hhandler
    split at hhandler
    · exact (Option.some.inj hhandler).symm
    · simp [get?, empty] at hhandler
  subst hbracketed
  cases args with
  | nil => exact hasks.elim
  | cons arg args =>
    obtain rfl : markup = arg := by
      simpa [bracketed, Script.inline, Script.text, Script.Asks] using hasks
    exact .inl List.mem_cons_self

/-- An argument in brackets is expanded in a nested pass. -/
theorem expand?_bracketing (depth : Nat) (context : Context) (allowCustom : Bool) (arg : String) :
    expand? depth bracketing context allowCustom [.tag "Nest" [arg]] =
      (Expansion.nested? bracketing context depth arg).map fun inner =>
        { text := "[" ++ (inner.text ++ "]"), log := inner.log } := by
  have hnest : bracketing.get? "Nest" = some bracketed := by
    simp [bracketing, Registry.get?_insert]
  rw [expand?_handled depth bracketing context allowCustom hnest
    (fun hname => absurd hname (by decide))]
  cases hinner : Expansion.nested? bracketing context depth arg with
  | none => simp [bracketed, Script.inline, Script.perform, hinner]
  | some inner =>
    simp [bracketed, Script.inline, Script.text, Script.perform, hinner, Performance.caption,
      Performance.events]

/-- A tag with a tag in its argument takes both levels: the pass over the inner argument is a
    second one, and one level is not enough. -/
theorem expand?_bracketing_twice :
    bracketing.KeepsToOwnText ∧
      Expansion.IsStack bracketing {} true [.tag "Nest" ["a<Nest(b)>"]] ["a<Nest(b)>", "b"] ∧
      (∀ token ∈ tokenize "b", token.isLiteral) ∧
      expand? 1 bracketing {} true [.tag "Nest" ["a<Nest(b)>"]] = none ∧
      ∀ depth, 2 ≤ depth →
        expand? depth bracketing {} true [.tag "Nest" ["a<Nest(b)>"]] =
          some { text := "[a[b]]", log := [] } := by
  have htokens : tokenize "a<Nest(b)>" = [.literal "a", .tag "Nest" ["b"]] := by decide +kernel
  have hhandler : ∀ allowCustom,
      Expansion.handler? bracketing allowCustom "Nest" = some bracketed := by
    intro allowCustom
    rw [Expansion.handler?_eq_some_iff]
    exact ⟨.inr (by decide), by simp [bracketing, Registry.get?_insert]⟩
  have hasks : ∀ scope arg, (bracketed scope [arg]).Asks arg := fun _ _ => .inl rfl
  have hstack : Expansion.IsStack bracketing {} true [.tag "Nest" ["a<Nest(b)>"]]
      ["a<Nest(b)>", "b"] := by
    apply Expansion.IsStack.nest List.mem_cons_self (hhandler true) (hasks _ _)
    rw [htokens]
    exact .nest (List.mem_cons_of_mem _ List.mem_cons_self) (hhandler false) (hasks _ _) .empty
  obtain ⟨⟨caption, hcaption⟩, -, hinner⟩ :=
    expand?_nests_two_levels.1 bracketing Registry.keepsToOwnText_bracketing {} true
      [.tag "Nest" ["a<Nest(b)>"]]
  obtain ⟨hliteral, hcopy⟩ := hinner "a<Nest(b)>" "b" hstack
  -- The first pass under a limit, given the pass over the inner argument
  have hfirst : ∀ depth, Expansion.nested? bracketing {} (depth + 1) "a<Nest(b)>" =
      (Expansion.nested? bracketing {} depth "b").map fun inner =>
        { text := "a[" ++ (inner.text ++ "]"), log := inner.log } := by
    intro depth
    rw [nested?_succ, htokens, expand?_cons, expand?_bracketing]
    cases Expansion.nested? bracketing {} depth "b" with
    | none => rfl
    | some inner => rfl
  refine ⟨Registry.keepsToOwnText_bracketing, hstack, hliteral, ?_, ?_⟩
  · rw [expand?_bracketing, hfirst]
    rfl
  · intro depth hdepth
    rw [hcaption depth hdepth, ← hcaption 2 (Nat.le_refl 2), expand?_bracketing, hfirst, hcopy 0]
    rfl

end FlightCaption
