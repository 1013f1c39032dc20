import FlightCaption.Proofs.Expansion.Builtin
import FlightCaption.Proofs.Template.Concatenation
import FlightCaption.Renderer

/-!
# Captions in a row

Malformed markup reaches no further than the next `<`: the caption of two templates in a row is
that of the first one followed by that of the second one, where the second one begins with a `<` or
the first one ends with a closed tag.

For any registry, this holds of every answer that an expansion has, under every limit on the nesting
of passes. Main statement: `expand?_tokenize_append`.
-/

namespace FlightCaption

/-! ## Expansions that end -/

/-- The expansion of tokens ends, whatever nesting it needs, and this is its caption. -/
def ExpandsTo (registry : Registry) (context : Context) (allowCustom : Bool)
    (tokens : List Token) (caption : Caption) : Prop :=
  ∃ depth, expand? depth registry context allowCustom tokens = some caption

section

variable {registry : Registry} {context : Context} {allowCustom : Bool}

theorem expandsTo_append_iff {tokens tokens' : List Token} {caption : Caption} :
    ExpandsTo registry context allowCustom (tokens ++ tokens') caption ↔
      ∃ first second, ExpandsTo registry context allowCustom tokens first ∧
        ExpandsTo registry context allowCustom tokens' second ∧ caption = first ++ second := by
  constructor
  · rintro ⟨depth, h⟩
    rw [expand?_append] at h
    obtain ⟨first, hfirst, hmap⟩ := Option.bind_eq_some_iff.mp h
    obtain ⟨second, hsecond, rfl⟩ := Option.map_eq_some_iff.mp hmap
    exact ⟨first, second, ⟨depth, hfirst⟩, ⟨depth, hsecond⟩, rfl⟩
  · rintro ⟨first, second, ⟨depth, hfirst⟩, ⟨depth', hsecond⟩, rfl⟩
    refine ⟨max depth depth', ?_⟩
    rw [expand?_append, expand?_mono (Nat.le_max_left depth depth') hfirst,
      expand?_mono (Nat.le_max_right depth depth') hsecond]
    rfl

end

/-! ## Two templates -/

/-- **Rendering is compositional at every `<`**, and behind every closed tag. An expansion of both
    templates in a row ends exactly if those of the two templates do; its text and its log are then
    theirs, one after the other. The same holds of the answers under any one limit. -/
theorem expand?_tokenize_append {first second : String}
    (h : Grammar.AtBreak second.toList ∨ Grammar.EndsWithTag first.toList) (registry : Registry)
    (context : Context) (allowCustom : Bool) :
    (∀ caption, ExpandsTo registry context allowCustom (tokenize (first ++ second)) caption ↔
      ∃ caption₁ caption₂, ExpandsTo registry context allowCustom (tokenize first) caption₁ ∧
        ExpandsTo registry context allowCustom (tokenize second) caption₂ ∧
        caption.text = caption₁.text ++ caption₂.text ∧
        caption.log = caption₁.log ++ caption₂.log) ∧
    ∀ depth, expand? depth registry context allowCustom (tokenize (first ++ second)) =
      (expand? depth registry context allowCustom (tokenize first)).bind fun caption₁ =>
        (expand? depth registry context allowCustom (tokenize second)).map fun caption₂ =>
          { text := caption₁.text ++ caption₂.text, log := caption₁.log ++ caption₂.log } := by
  rw [Grammar.tokenize_append h]
  constructor
  · intro caption
    rw [expandsTo_append_iff]
    -- A caption is its text and its log
    constructor
    · rintro ⟨caption₁, caption₂, h₁, h₂, rfl⟩
      exact ⟨caption₁, caption₂, h₁, h₂, rfl, rfl⟩
    · rintro ⟨caption₁, caption₂, h₁, h₂, htext, hlog⟩
      exact ⟨caption₁, caption₂, h₁, h₂, Caption.eq_of_text_of_log htext hlog⟩
  · intro depth
    exact expand?_append depth registry context allowCustom _ _

/-- An argument list that never ends is cut short by the next `<`, and text may follow a nameless
    tag. -/
theorem expand?_tokenize_open_group :
    Grammar.AtBreak "<B> y".toList ∧ Grammar.EndsWithTag "x <(a)>".toList ∧
      expand? 0 .empty {} true (tokenize ("x <A(1, " ++ "<B> y")) =
        some { text := "x <A(1, <B> y", log := [.left "B"] } ∧
      expand? 0 .empty {} true (tokenize ("x <(a)>" ++ "b>")) =
        some { text := "x <(a)>b>", log := [] } := by
  have hbreak : Grammar.AtBreak "<B> y".toList := by simp [Grammar.AtBreak]
  have hends : Grammar.EndsWithTag "x <(a)>".toList :=
    ⟨['x', ' '], [.group ['a']], ⟨by decide, by simp [Grammar.Part.IsWhole]⟩, rfl⟩
  refine ⟨hbreak, hends, ?_, ?_⟩
  · rw [(@expand?_tokenize_append "x <A(1, " _ (.inl hbreak) .empty {} true).2 0]
    decide +kernel
  · rw [(@expand?_tokenize_append _ "b>" (.inr hends) .empty {} true).2 0]
    decide +kernel

end FlightCaption
