import FlightCaption.Proofs.Expansion.Builtin
import FlightCaption.Renderer

/-!
# Custom text as a macro

The custom tag has the overlay's custom text expanded in a pass of its own, in which the tag is
switched off. This module describes the same caption by a single pass over a longer list of tokens:

1. In the custom text, custom tags are *frozen*, that is, turned into literals.
2. In the template, each custom tag is replaced by the tokens of the frozen custom text.

The proof goes the other way round. A pass with the custom tag switched off is a pass over frozen
tokens, up to the events that it notes for the tags left in place, and so the nested pass of a
custom tag can be moved into the pass around it.

Main statement: `render_eq_expand_inlined`.
-/

namespace FlightCaption

/-! ## Inlining -/

/-- The tag that stands for the custom text, whatever its arguments. -/
def Token.isCustom : Token → Bool
  | .literal _ => false
  | .tag key _ => decide (key = customTagName)

@[simp] theorem Token.isCustom_literal (text : String) : (Token.literal text).isCustom = false :=
  rfl

@[simp] theorem Token.isCustom_tag_iff {key : String} {args : List String} :
    (Token.tag key args).isCustom = true ↔ key = customTagName :=
  decide_eq_true_iff

theorem Token.isCustom_tag_eq_false_iff {key : String} {args : List String} :
    (Token.tag key args).isCustom = false ↔ key ≠ customTagName :=
  decide_eq_false_iff_not

/-- A token of the custom text: there, the custom tag is nothing but text. -/
def Token.frozen (token : Token) : Token :=
  if token.isCustom then .literal token.written else token

theorem Token.isCustom_frozen (token : Token) : token.frozen.isCustom = false := by
  unfold Token.frozen
  split
  · rfl
  · next hcustom => exact eq_false_of_ne_true hcustom

/-- Other tags stand in the frozen custom text where they stand in the custom text itself. -/
theorem Token.frozen_eq_tag_iff {token : Token} {key : String} {args : List String}
    (hkey : key ≠ customTagName) : token.frozen = .tag key args ↔ token = .tag key args := by
  unfold Token.frozen
  split
  · next hcustom =>
    refine iff_of_false (by simp) ?_
    rintro rfl
    exact hkey (Token.isCustom_tag_iff.mp hcustom)
  · rfl

/-- The tokens of a template with the custom text in the places of the custom tags. -/
def inlined (customText : String) (tokens : List Token) : List Token :=
  tokens.flatMap fun token =>
    if token.isCustom then (tokenize customText).map Token.frozen else [token]

theorem inlined_cons (customText : String) (token : Token) (tokens : List Token) :
    inlined customText (token :: tokens) =
      (if token.isCustom then (tokenize customText).map Token.frozen else [token]) ++
        inlined customText tokens :=
  List.flatMap_cons

/-- Nothing is left to inline. -/
theorem isCustom_of_mem_inlined {customText : String} {tokens : List Token} {token : Token}
    (h : token ∈ inlined customText tokens) : token.isCustom = false := by
  -- A token comes from the custom text, where it is frozen, or stands for itself
  obtain ⟨source, _, hmem⟩ := List.mem_flatMap.mp h
  by_cases hcustom : source.isCustom
  · rw [if_pos hcustom] at hmem
    obtain ⟨inner, _, rfl⟩ := List.mem_map.mp hmem
    exact inner.isCustom_frozen
  · rw [if_neg hcustom, List.mem_singleton] at hmem
    subst hmem
    exact eq_false_of_ne_true hcustom

/-- Another tag comes from the template, or from the custom text if the template asks for that. -/
theorem tag_mem_inlined_iff {customText : String} {tokens : List Token} {key : String}
    {args : List String} (hkey : key ≠ customTagName) :
    .tag key args ∈ inlined customText tokens ↔
      .tag key args ∈ tokens ∨
        (∃ args', .tag customTagName args' ∈ tokens) ∧ .tag key args ∈ tokenize customText := by
  have hfrozen : .tag key args ∈ (tokenize customText).map Token.frozen ↔
      .tag key args ∈ tokenize customText := by
    simp [List.mem_map, Token.frozen_eq_tag_iff hkey]
  constructor
  · intro h
    obtain ⟨source, hsource, hmem⟩ := List.mem_flatMap.mp h
    by_cases hcustom : source.isCustom
    · rw [if_pos hcustom] at hmem
      cases source with
      | literal text => simp at hcustom
      | tag key' args' =>
        obtain rfl : key' = customTagName := Token.isCustom_tag_iff.mp hcustom
        exact .inr ⟨⟨args', hsource⟩, hfrozen.mp hmem⟩
    · rw [if_neg hcustom, List.mem_singleton] at hmem
      exact .inl (hmem ▸ hsource)
  · rintro (h | ⟨⟨args', hcustom⟩, h⟩)
    · exact List.mem_flatMap.mpr ⟨_, h, by simp [hkey]⟩
    · exact List.mem_flatMap.mpr ⟨_, hcustom, by simpa using hfrozen.mpr h⟩

/-! ## Captions without the events of the custom tag -/

/-- A caption with no word of the custom tags that were left in place. -/
def Caption.withoutCustom (caption : Caption) : Caption :=
  { caption with log := caption.log.filter fun event => event ≠ .left customTagName }

namespace Caption

@[simp] theorem withoutCustom_text (caption : Caption) :
    caption.withoutCustom.text = caption.text := rfl

@[simp] theorem withoutCustom_log (caption : Caption) :
    caption.withoutCustom.log =
      caption.log.filter fun event => event ≠ .left customTagName := rfl

theorem withoutCustom_append (first second : Caption) :
    (first ++ second).withoutCustom = first.withoutCustom ++ second.withoutCustom := by
  apply eq_of_text_of_log
  · rfl
  · simp

theorem withoutCustom_captionOfResult (tag : String) (result : Except TagFault String) :
    (captionOfResult tag result).withoutCustom = captionOfResult tag result := by
  cases result with
  | ok text => rfl
  | error fault => rfl

end Caption

/-! ## Passes without custom tags -/

section

variable (context : Context) (allowCustom : Bool)

/-- A token that is not the custom tag has the same caption in every pass, and leaves no event of
    the custom tag in it. -/
theorem withoutCustom_expand_of_not_isCustom {token : Token} (h : token.isCustom = false)
    (allowCustom' : Bool) :
    (expand context allowCustom [token]).withoutCustom = expand context allowCustom' [token] := by
  cases token with
  | literal text =>
    rw [expand_literal, expand_literal]
    rfl
  | tag key args =>
    have hkey : key ≠ customTagName := Token.isCustom_tag_eq_false_iff.mp h
    -- A tag without a handler is left in place by every pass, and none but the custom tag's
    -- handler tells the passes apart
    cases hhandler : Registry.builtins.get? key with
    | none =>
      rw [expand_left context allowCustom (.inl hhandler),
        expand_left context allowCustom' (.inl hhandler)]
      apply Caption.eq_of_text_of_log
      · rfl
      · simp [hkey]
    | some handler =>
      obtain ⟨tag, rfl, -⟩ := Registry.eq_handler_of_get?_builtins hhandler
      have htag : tag ≠ .custom := by
        rintro rfl
        exact hkey rfl
      rw [expand_tag context allowCustom htag, expand_tag context allowCustom' htag]
      exact Caption.withoutCustom_captionOfResult _ _

/-- Where the custom tag is switched off, it is as good as its own text. -/
theorem withoutCustom_expand_frozen (tokens : List Token) :
    (expand context false tokens).withoutCustom =
      expand context allowCustom (tokens.map Token.frozen) := by
  induction tokens with
  | nil =>
    rw [List.map_nil, expand_nil, expand_nil]
    rfl
  | cons token tokens ih =>
    have htoken : (expand context false [token]).withoutCustom =
        expand context allowCustom [token.frozen] := by
      by_cases hcustom : token.isCustom
      · -- The tag is left in place, and all that is kept of it is its text
        rw [Token.frozen, if_pos hcustom, expand_literal]
        cases token with
        | literal text => simp at hcustom
        | tag key args =>
          rw [expand_left context false (.inr ⟨Token.isCustom_tag_iff.mp hcustom, rfl⟩)]
          apply Caption.eq_of_text_of_log
          · rfl
          · simp [Token.isCustom_tag_iff.mp hcustom]
      · rw [Token.frozen, if_neg hcustom]
        exact withoutCustom_expand_of_not_isCustom context false
          (eq_false_of_ne_true hcustom) allowCustom
    rw [List.map_cons, expand_cons, expand_cons context allowCustom, Caption.withoutCustom_append,
      htoken, ih]

/-- A pass in which the custom tag may expand is one over the inlined tokens. -/
theorem withoutCustom_expand_inlined (tokens : List Token) :
    (expand context true tokens).withoutCustom =
      expand context allowCustom (inlined context.overlay.customText tokens) := by
  -- Token by token, since both passes treat each of them by itself
  induction tokens with
  | nil =>
    rw [inlined, List.flatMap_nil, expand_nil, expand_nil]
    rfl
  | cons token tokens ih =>
    rw [expand_cons, Caption.withoutCustom_append, ih, inlined_cons, expand_append]
    congr 1
    by_cases hcustom : token.isCustom
    · -- The nested pass becomes a part of the pass around it
      rw [if_pos hcustom]
      cases token with
      | literal text => simp at hcustom
      | tag key args =>
        obtain rfl : key = customTagName := Token.isCustom_tag_iff.mp hcustom
        rw [expand_custom]
        exact withoutCustom_expand_frozen context allowCustom _
    · rw [if_neg hcustom]
      exact withoutCustom_expand_of_not_isCustom context true
        (eq_false_of_ne_true hcustom) allowCustom

end

/-! ## Rendering -/

/-- **Custom text is a macro.** A rendered caption has the text of a single pass over the template
    with the custom text inlined, in which no custom tag is left, so that it does not matter
    whether that pass allows them. The logs are the same up to the events for custom tags that the
    nested passes leave in place. -/
theorem render_eq_expand_inlined (template : String) (context : Context) (allowCustom : Bool) :
    (render template context).text =
        (expand context allowCustom
          (inlined context.overlay.customText (tokenize template))).text ∧
      ((render template context).log.filter fun event => event ≠ .left customTagName) =
        (expand context allowCustom
          (inlined context.overlay.customText (tokenize template))).log ∧
      ∀ token ∈ inlined context.overlay.customText (tokenize template),
        token.isCustom = false := by
  have hcaption := withoutCustom_expand_inlined context allowCustom (tokenize template)
  refine ⟨?_, ?_, fun token => isCustom_of_mem_inlined⟩
  · rw [← hcaption]
    rfl
  · rw [← hcaption]
    rfl

/-- A custom text that names the custom tag is inlined once, and the tag stays in it as text. -/
theorem render_eq_expand_inlined_ofItself :
    let context : Context :=
      { snapshot := { target := some "Duna" }, calendar := default
        overlay := { customText := "<Target>, <Custom>" } }
    (render "To <Custom>!" context).text = "To Duna, <Custom>!" ∧
      ((render "To <Custom>!" context).log.filter fun event => event ≠ .left customTagName) =
        [] := by
  intro context
  obtain ⟨htext, hlog, -⟩ := render_eq_expand_inlined "To <Custom>!" context false
  have hinlined : inlined "<Target>, <Custom>" (tokenize "To <Custom>!") =
      [.literal "To ", .tag "Target" [], .literal ", ", .literal "<Custom>", .literal "!"] := by
    decide +kernel
  have htarget : expand context false [.tag "Target" []] = { text := "Duna" } :=
    expand_tag context false (show Builtin.target ≠ .custom by decide) []
  have hcaption : expand context false (inlined "<Target>, <Custom>" (tokenize "To <Custom>!")) =
      { text := "To Duna, <Custom>!" } := by
    rw [hinlined, expand_cons, expand_literal, expand_cons, htarget, expand_cons, expand_literal,
      expand_cons, expand_literal, expand_literal]
    rfl
  exact ⟨htext.trans (congrArg Caption.text hcaption), hlog.trans (congrArg Caption.log hcaption)⟩

end FlightCaption
