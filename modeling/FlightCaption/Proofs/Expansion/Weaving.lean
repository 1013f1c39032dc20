import FlightCaption.Proofs.Expansion.Builtin
import FlightCaption.Renderer

/-!
# A name in a caption

The name of a vessel is the player's own text and may hold anything, markup included. It gets into
a caption by the tag `Vessel` alone, and is never read there: a caption is woven from fragments that
do not depend on the name, with the name as it is in the gaps between them.

The statement is about all names at once, so it compares any two captions for vessels that differ in
their names alone. It is built up along a pass:

1. The caption of a token has no gap, or one where it is the tag `Vessel`.
2. Captions in a row have the gaps of both.
3. The custom tag has the gaps of the custom text.

Main statement: `render_weaves_name`.
-/

namespace FlightCaption

/-! ## Woven captions -/

/-- The caption holds the name in some gaps, and depends on it in no other way. -/
def IsWoven (gaps : Nat) (captionOf : String → Caption) : Prop :=
  ∃ (fragments : List String) (log : List Event), fragments.length = gaps + 1 ∧
    ∀ name, captionOf name = { text := name.intercalate fragments, log }

theorem isWoven_of_forall_eq {captionOf : String → Caption} {caption : Caption}
    (h : ∀ name, captionOf name = caption) : IsWoven 0 captionOf :=
  ⟨[caption.text], caption.log, rfl, by simpa using h⟩

/-- The name by itself stands between two empty fragments. -/
theorem isWoven_name : IsWoven 1 fun name => { text := name } :=
  ⟨["", ""], [], rfl, by simp⟩

/-- Where two lists of fragments meet, the last fragment of the one and the first fragment of the
    other become one fragment. -/
theorem exists_intercalate_append {fragments fragments' : List String} (h : fragments ≠ [])
    (h' : fragments' ≠ []) :
    ∃ joined : List String, joined.length + 1 = fragments.length + fragments'.length ∧
      ∀ name : String, name.intercalate joined =
        name.intercalate fragments ++ name.intercalate fragments' := by
  induction fragments with
  | nil => exact absurd rfl h
  | cons fragment others ih =>
    by_cases hothers : others = []
    · -- The only fragment grows by the first one of the other list
      obtain ⟨first, rest, rfl⟩ := List.exists_cons_of_ne_nil h'
      exact ⟨(fragment ++ first) :: rest, by simp [hothers]; omega, by simp [hothers]⟩
    · obtain ⟨joined, hlength, hjoined⟩ := ih hothers
      have hne : joined ≠ [] := by
        have hpos := List.length_pos_iff.mpr hothers
        have hpos' := List.length_pos_iff.mpr h'
        apply List.ne_nil_of_length_pos
        omega
      refine ⟨fragment :: joined, by simp only [List.length_cons]; omega, ?_⟩
      intro name
      rw [String.intercalate_cons_of_ne_nil hne, String.intercalate_cons_of_ne_nil hothers, hjoined]
      simp only [String.append_assoc]

theorem IsWoven.append {gaps gaps' : Nat} {first second whole : String → Caption}
    (h : IsWoven gaps first) (h' : IsWoven gaps' second)
    (hwhole : ∀ name, whole name = first name ++ second name) :
    IsWoven (gaps + gaps') whole := by
  obtain ⟨fragments, log, hlength, hfirst⟩ := h
  obtain ⟨fragments', log', hlength', hsecond⟩ := h'
  have hne : fragments ≠ [] := List.ne_nil_of_length_eq_add_one hlength
  have hne' : fragments' ≠ [] := List.ne_nil_of_length_eq_add_one hlength'
  obtain ⟨joined, hjoined, htext⟩ := exists_intercalate_append hne hne'
  refine ⟨joined, log ++ log', by omega, fun name => ?_⟩
  rw [hwhole, hfirst, hsecond]
  apply Caption.eq_of_text_of_log
  · exact (htext name).symm
  · rfl

/-! ## Tags that write the name -/

/-- How many tags of a name the tokens hold, whatever the arguments of the tags. -/
def tagCount (name : String) (tokens : List Token) : Nat :=
  tokens.countP fun
    | .literal _ => false
    | .tag key _ => key = name

@[simp] theorem tagCount_nil (name : String) : tagCount name [] = 0 := rfl

theorem tagCount_tag (name key : String) (args : List String) :
    tagCount name [.tag key args] = if key = name then 1 else 0 := by
  simp [tagCount]

theorem tagCount_cons (name : String) (token : Token) (tokens : List Token) :
    tagCount name (token :: tokens) = tagCount name [token] + tagCount name tokens := by
  rw [tagCount, ← List.singleton_append, List.countP_append]
  rfl

/-- The data of a caption for a vessel of some name. -/
def Context.withName (context : Context) (vessel : Vessel) (name : String) : Context :=
  { context with snapshot := { context.snapshot with vessel := some { vessel with name } } }

section

variable (context : Context) (vessel : Vessel)

/-- No other built-in tag looks at the name. -/
theorem Builtin.textIn_withName {tag : Builtin} (htag : tag ≠ .vessel .name) (args : List String)
    (name : String) :
    tag.textIn (context.withName vessel name) args =
      tag.textIn (context.withName vessel "") args := by
  cases tag with
  | vessel reading =>
    cases reading with
    | name => exact absurd rfl htag
    | _ => rfl
  | _ => rfl

theorem isWoven_expand_builtin (allowCustom : Bool) {tag : Builtin} (hcustom : tag ≠ .custom)
    (args : List String) :
    IsWoven (tagCount "Vessel" [.tag tag.name args]) fun name =>
      expand (context.withName vessel name) allowCustom [.tag tag.name args] := by
  by_cases htag : tag = .vessel .name
  · subst htag
    have hname : (Builtin.vessel .name).name = "Vessel" := rfl
    have hcaption : ∀ name, expand (context.withName vessel name) allowCustom
        [.tag (Builtin.vessel .name).name args] = { text := name } := by
      intro name
      rw [expand_tag _ allowCustom hcustom]
      rfl
    rw [tagCount_tag, if_pos hname, funext hcaption]
    exact isWoven_name
  · have hname : tag.name ≠ "Vessel" := fun hname => htag (Builtin.name_injective hname)
    rw [tagCount_tag, if_neg hname]
    apply isWoven_of_forall_eq
    intro name
    rw [expand_tag _ allowCustom hcustom, Builtin.textIn_withName context vessel htag]

/-- A token that does not expand the custom text has one gap if it is the tag `Vessel`, and none
    otherwise. -/
theorem isWoven_expand_singleton (allowCustom : Bool) {token : Token}
    (htoken : allowCustom = false ∨ tagCount customTagName [token] = 0) :
    IsWoven (tagCount "Vessel" [token]) fun name =>
      expand (context.withName vessel name) allowCustom [token] := by
  cases token with
  | literal text => exact isWoven_of_forall_eq fun name => expand_literal _ _ _
  | tag key args =>
    rcases left_or_builtin_or_custom allowCustom key with
      hleft | ⟨tag, htag, rfl⟩ | ⟨rfl, hallowed⟩
    · -- The tag is left in place, and it is not `Vessel`, which has a handler
      have hkey : key ≠ "Vessel" := by
        rintro rfl
        rcases hleft with hnone | hcustom
        · have hsome := Registry.get?_builtins_name (.vessel .name)
          rw [Builtin.name, hnone] at hsome
          contradiction
        · exact absurd hcustom.1 (by decide)
      rw [tagCount_tag, if_neg hkey]
      exact isWoven_of_forall_eq fun name => expand_left _ _ hleft args
    · exact isWoven_expand_builtin context vessel allowCustom htag args
    · -- The custom tag expands, which is what the hypothesis rules out
      simp [hallowed, tagCount_tag] at htoken

/-- Where the custom tag is switched off, only the tags `Vessel` of the tokens make gaps. -/
theorem isWoven_expand_off (tokens : List Token) :
    IsWoven (tagCount "Vessel" tokens) fun name =>
      expand (context.withName vessel name) false tokens := by
  induction tokens with
  | nil => exact isWoven_of_forall_eq fun name => expand_nil _ _
  | cons token tokens ih =>
    rw [tagCount_cons]
    exact (isWoven_expand_singleton context vessel false (.inl rfl)).append ih
      fun name => expand_cons _ _ token tokens

/-- A custom tag makes the gaps of the custom text, which does not depend on the name. -/
theorem isWoven_expand_custom (args : List String) :
    IsWoven (tagCount "Vessel" (tokenize context.overlay.customText)) fun name =>
      expand (context.withName vessel name) true [.tag customTagName args] := by
  have hpass : ∀ name, expand (context.withName vessel name) true [.tag customTagName args] =
      expand (context.withName vessel name) false (tokenize context.overlay.customText) :=
    fun name => expand_custom _ args
  rw [funext hpass]
  exact isWoven_expand_off context vessel (tokenize context.overlay.customText)

/-- The gaps of a whole template's tokens: those of its own tags `Vessel`, and those of the custom
    text each time that it is expanded. -/
def gapCount (context : Context) (tokens : List Token) : Nat :=
  tagCount "Vessel" tokens +
    tagCount customTagName tokens * tagCount "Vessel" (tokenize context.overlay.customText)

theorem gapCount_cons (token : Token) (tokens : List Token) :
    gapCount context (token :: tokens) = gapCount context [token] + gapCount context tokens := by
  rw [gapCount, tagCount_cons "Vessel", tagCount_cons customTagName, Nat.add_mul]
  simp only [gapCount]
  omega

theorem isWoven_expand_token (token : Token) :
    IsWoven (gapCount context [token]) fun name =>
      expand (context.withName vessel name) true [token] := by
  rw [gapCount]
  by_cases hcustom : tagCount customTagName [token] = 0
  · rw [hcustom, Nat.zero_mul, Nat.add_zero]
    exact isWoven_expand_singleton context vessel true (.inr hcustom)
  · -- The token is the custom tag, and that is not the tag `Vessel`
    cases token with
    | literal text => exact absurd rfl hcustom
    | tag key args =>
      obtain rfl : key = customTagName := Decidable.byContradiction fun hkey =>
        hcustom (by rw [tagCount_tag, if_neg hkey])
      have hcount : tagCount "Vessel" [.tag customTagName args] = 0 := by
        rw [tagCount_tag, if_neg (by decide)]
      rw [hcount, tagCount_tag, if_pos rfl, Nat.zero_add, Nat.one_mul]
      exact isWoven_expand_custom context vessel args

theorem isWoven_expand (tokens : List Token) :
    IsWoven (gapCount context tokens) fun name =>
      expand (context.withName vessel name) true tokens := by
  induction tokens with
  | nil =>
    have hnone : gapCount context [] = 0 := by simp [gapCount]
    rw [hnone]
    exact isWoven_of_forall_eq fun name => expand_nil _ _
  | cons token tokens ih =>
    rw [gapCount_cons]
    exact (isWoven_expand_token context vessel token).append ih
      fun name => expand_cons _ _ token tokens

/-- **A name is never read as markup.** There are fragments and a log such that the rendered caption
    of every name is the fragments with the name between them, and that log. There is one gap for
    each tag `Vessel` of the template, and for each custom tag as many as the custom text has. -/
theorem render_weaves_name (template : String) :
    ∃ (fragments : List String) (log : List Event),
      fragments.length = tagCount "Vessel" (tokenize template) +
        tagCount "Custom" (tokenize template) *
          tagCount "Vessel" (tokenize context.overlay.customText) + 1 ∧
      ∀ name, render template (context.withName vessel name) =
        { text := name.intercalate fragments, log } :=
  isWoven_expand context vessel (tokenize template)

end

/-- A name that reads like a tag stands in its two gaps as it is. -/
theorem render_weaves_name_likeTag :
    let context : Context := { calendar := default, overlay := { customText := "<Vessel>" } }
    ∃ (fragments : List String) (log : List Event), fragments.length = 3 ∧
      render "<Vessel> or <Custom>" (context.withName {} "<UT>") =
        { text := "<UT>".intercalate fragments, log } ∧
      render "<Vessel> or <Custom>" (context.withName {} "Kestrel") =
        { text := "Kestrel".intercalate fragments, log } := by
  intro context
  obtain ⟨fragments, log, hlength, hrender⟩ :=
    render_weaves_name context {} "<Vessel> or <Custom>"
  have hcount : tagCount "Vessel" (tokenize "<Vessel> or <Custom>") +
      tagCount "Custom" (tokenize "<Vessel> or <Custom>") *
        tagCount "Vessel" (tokenize "<Vessel>") + 1 = 3 := by
    decide +kernel
  exact ⟨fragments, log, hlength.trans hcount, hrender "<UT>", hrender "Kestrel"⟩

end FlightCaption
