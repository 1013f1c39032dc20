import FlightCaption.Proofs.Expansion.Depth
import FlightCaption.Proofs.Tag.Lookup

/-!
# Expansion with the built-in tags

With the built-in tags every expansion has an answer, so the general facts about expansions become
equations. This module states them token by token.

- A built-in tag other than the custom tag writes its text or fails, and does so in the same way
  in every pass, since none of them looks at whether the custom tag may expand.
- The custom tag is replaced by the expansion of the custom text, with itself switched off.
-/

namespace FlightCaption

/-! ## Answers -/

section

variable (context : Context) (allowCustom : Bool)

theorem expand?_one_builtins (tokens : List Token) :
    expand? 1 .builtins context allowCustom tokens = some (expand context allowCustom tokens) :=
  (Option.some_get (isSome_expand?_builtins 0 context allowCustom tokens)).symm

/-- An answer under any limit up to one is the expansion. -/
theorem expand_eq_of_expand? {depth : Nat} (hdepth : depth ≤ 1) {tokens : List Token}
    {caption : Caption} (h : expand? depth .builtins context allowCustom tokens = some caption) :
    expand context allowCustom tokens = caption := by
  have hone := expand?_mono hdepth h
  rw [expand?_one_builtins] at hone
  exact Option.some.inj hone

@[simp] theorem expand_nil : expand context allowCustom [] = {} :=
  expand_eq_of_expand? context allowCustom (Nat.le_refl 1) rfl

theorem expand_append (tokens tokens' : List Token) :
    expand context allowCustom (tokens ++ tokens') =
      expand context allowCustom tokens ++ expand context allowCustom tokens' := by
  apply expand_eq_of_expand? context allowCustom (Nat.le_refl 1)
  rw [expand?_append, expand?_one_builtins, expand?_one_builtins]
  rfl

theorem expand_cons (token : Token) (tokens : List Token) :
    expand context allowCustom (token :: tokens) =
      expand context allowCustom [token] ++ expand context allowCustom tokens :=
  expand_append context allowCustom [token] tokens

/-! ## Single tokens -/

@[simp] theorem expand_literal (text : String) :
    expand context allowCustom [.literal text] = { text } :=
  expand_eq_of_expand? context allowCustom (Nat.le_refl 1) rfl

/-- A tag that is no built-in one is left in place, and so is the custom tag where it may not
    expand. -/
theorem expand_left {key : String}
    (h : Registry.builtins.get? key = none ∨ key = customTagName ∧ allowCustom = false)
    (args : List String) :
    expand context allowCustom [.tag key args] =
      { text := (Token.tag key args).written, log := [.left key] } :=
  expand_eq_of_expand? context allowCustom (Nat.le_refl 1)
    (expand?_left 1 .builtins context allowCustom h args)

end

/-- No built-in tag but the custom tag looks at more than the data of the caption. -/
theorem Builtin.text_congr {scope scope' : Scope} (h : scope.context = scope'.context)
    (args : List String) (tag : Builtin) : tag.text scope args = tag.text scope' args := by
  obtain ⟨context, allowCustom, names⟩ := scope
  obtain ⟨context', allowCustom', names'⟩ := scope'
  obtain rfl : context = context' := h
  cases tag <;> rfl

/-- The text of a built-in tag in a caption, whichever pass meets it. -/
def Builtin.textIn (context : Context) (args : List String) (tag : Builtin) :
    Except TagFault String :=
  tag.text (Expansion.scope .builtins context false) args

/-- The caption of a text or a fault. -/
def captionOfResult (tag : String) : Except TagFault String → Caption
  | .ok text => { text }
  | .error fault => { text := Caption.marker tag, log := [.failed tag fault] }

/-- A script that writes one text or fails has no nested passes. -/
theorem perform_ofResult (nested : String → Option Caption) (tag : String)
    (result : Except TagFault String) :
    ((Script.ofResult result).perform nested).map (Performance.caption tag) =
      some (captionOfResult tag result) := by
  cases result with
  | ok text => simp [Script.ofResult, Script.text, Script.perform, Performance.caption,
      Performance.events, captionOfResult]
  | error fault => simp [Script.ofResult, Script.perform, Performance.caption,
      Performance.events, captionOfResult]

/-- A built-in tag other than the custom tag writes its text, or a marker if it fails, whether or
    not the custom tag may expand. -/
theorem expand_tag (context : Context) (allowCustom : Bool) {tag : Builtin}
    (htag : tag ≠ .custom) (args : List String) :
    expand context allowCustom [.tag tag.name args] =
      captionOfResult tag.name (tag.textIn context args) := by
  have hkey : tag.name = customTagName → allowCustom = true := by
    intro hname
    exact absurd (Builtin.name_injective (hname : tag.name = Builtin.custom.name)) htag
  -- Its script is its text, and that is the same in every pass
  have hscript : tag.handler (Expansion.scope .builtins context allowCustom) args =
      .ofResult (tag.textIn context args) := by
    have htext : tag.text (Expansion.scope .builtins context allowCustom) args =
        tag.textIn context args := Builtin.text_congr rfl args tag
    rw [Builtin.handler_of_ne_custom htag, htext]
  apply expand_eq_of_expand? context allowCustom (Nat.le_refl 1)
  rw [expand?_handled 1 .builtins context allowCustom (Registry.get?_builtins_name tag) hkey,
    hscript, perform_ofResult]

/-- The custom tag stands for the expansion of the custom text, in which it may not expand. -/
theorem expand_custom (context : Context) (args : List String) :
    expand context true [.tag customTagName args] =
      expand context false (tokenize context.overlay.customText) := by
  -- The nested pass has an answer, and it is that of an expansion of its own
  obtain ⟨inner, hinner⟩ := Option.isSome_iff_exists.mp
    (Expansion.isSome_nested?_builtins context 0 context.overlay.customText)
  have hpass : expand context false (tokenize context.overlay.customText) = inner := by
    rw [nested?_succ] at hinner
    exact expand_eq_of_expand? context false (Nat.zero_le 1) hinner
  have hhandler : Registry.builtins.get? customTagName = some Builtin.custom.handler :=
    Registry.get?_builtins_name .custom
  apply expand_eq_of_expand? context true (Nat.le_refl 1)
  rw [expand?_handled 1 .builtins context true hhandler (fun _ => rfl), hpass]
  simp [Builtin.handler, Script.inline, Script.perform, Expansion.scope, hinner,
    Performance.caption, Performance.events]

/-! ## Every tag -/

/-- A pass leaves a tag in place, runs a built-in tag that writes a text of its own, or expands the
    custom text. -/
theorem left_or_builtin_or_custom (allowCustom : Bool) (key : String) :
    (Registry.builtins.get? key = none ∨ key = customTagName ∧ allowCustom = false) ∨
      (∃ tag : Builtin, tag ≠ .custom ∧ tag.name = key) ∨
        key = customTagName ∧ allowCustom = true := by
  cases hhandler : Registry.builtins.get? key with
  | none => exact .inl (.inl rfl)
  | some handler =>
    obtain ⟨tag, rfl, -⟩ := Registry.eq_handler_of_get?_builtins hhandler
    by_cases htag : tag = .custom
    · subst htag
      cases allowCustom with
      | false => exact .inl (.inr ⟨rfl, rfl⟩)
      | true => exact .inr (.inr ⟨rfl, rfl⟩)
    · exact .inr (.inl ⟨tag, htag, rfl⟩)

section

variable {context context' : Context}

/-- Where the built-in tags have the same texts, a pass has the same caption, provided that the
    custom text has. -/
theorem expand_congr_of_custom (allowCustom : Bool)
    (htext : ∀ tag args, tag ≠ Builtin.custom →
      tag.textIn context args = tag.textIn context' args)
    (hcustom : allowCustom = true → expand context false (tokenize context.overlay.customText) =
      expand context' false (tokenize context'.overlay.customText)) (tokens : List Token) :
    expand context allowCustom tokens = expand context' allowCustom tokens := by
  induction tokens with
  | nil => rw [expand_nil, expand_nil]
  | cons token tokens ih =>
    have htoken : expand context allowCustom [token] = expand context' allowCustom [token] := by
      cases token with
      | literal text => rw [expand_literal, expand_literal]
      | tag key args =>
        rcases left_or_builtin_or_custom allowCustom key with
          hleft | ⟨tag, htag, rfl⟩ | ⟨rfl, hallowed⟩
        · rw [expand_left _ _ hleft, expand_left _ _ hleft]
        · rw [expand_tag _ _ htag, expand_tag _ _ htag, htext tag args htag]
        · rw [hallowed, expand_custom, expand_custom, hcustom hallowed]
    rw [expand_cons, expand_cons context', htoken, ih]

/-- A caption depends on the data by the texts of the built-in tags and by the custom text alone. -/
theorem expand_congr (allowCustom : Bool)
    (htext : ∀ tag args, tag ≠ Builtin.custom →
      tag.textIn context args = tag.textIn context' args)
    (hcustom : context.overlay.customText = context'.overlay.customText) (tokens : List Token) :
    expand context allowCustom tokens = expand context' allowCustom tokens := by
  apply expand_congr_of_custom allowCustom htext
  intro _
  -- In the custom text the custom tag is switched off, so no further pass is asked for
  rw [hcustom]
  exact expand_congr_of_custom false htext (fun hallowed => absurd hallowed (by decide)) _

end

end FlightCaption
