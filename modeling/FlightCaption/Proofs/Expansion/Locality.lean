import FlightCaption.Proofs.Expansion.Nesting
import FlightCaption.Proofs.Expansion.Suppression

/-!
# Which names a caption depends on

A pass looks up the tags that it meets, and its handlers can have further texts expanded. If these
are their own arguments or the overlay's custom text, no names are looked up but those that stand in
the template or in the custom text, however deep passes nest:

1. A script has the same performance for two ways of expanding markup that agree on what it asks
   for, and so a pass has the same caption for two registries that agree on its tags, if nested
   markup has.
2. Arguments that were read from a text hold no tags, so their passes look up no name.
3. The custom text has the same caption under every limit, by induction on the limit: its own tags
   ask for arguments, or for the custom text again, one level deeper.

It does not matter whether passes nest without end, since this is so for both registries or for
neither.

Main statement: `expand?_depends_on_names`.
-/

namespace FlightCaption

/-! ## Handlers and names -/

/-- A handler whose only way to the registry is to have its own arguments or the overlay's custom
    text expanded. -/
structure ReachesByOwnTexts (handler : Handler) : Prop where
  ignoresNames : IgnoresNames handler
  asks : ∀ scope args markup, (handler scope args).Asks markup →
    markup ∈ args ∨ markup = scope.context.overlay.customText

/-- All handlers of a registry are of this kind. -/
def Registry.ReachesByOwnTexts (registry : Registry) : Prop :=
  ∀ key handler, registry.get? key = some handler → FlightCaption.ReachesByOwnTexts handler

/-- The registries have the same handlers, or none, under some names. -/
def Registry.AgreeOn (names : List String) (registry registry' : Registry) : Prop :=
  ∀ key ∈ names, registry.get? key = registry'.get? key

/-- The keys of the tags in a text. -/
def tagKeys (text : String) : List String :=
  (tokenize text).filterMap fun
    | .literal _ => none
    | .tag key _ => some key

theorem key_mem_tagKeys {text key : String} {args : List String}
    (htag : .tag key args ∈ tokenize text) : key ∈ tagKeys text :=
  List.mem_filterMap.mpr ⟨_, htag, rfl⟩

/-- The names that stand in a caption: in its template, or in the custom text. -/
def Context.namesIn (context : Context) (template : String) : List String :=
  tagKeys template ++ tagKeys context.overlay.customText

/-! ## One pass -/

/-- A script performs in the same way where all that it asks for is expanded in the same way. -/
theorem Script.perform_congr {nested nested' : String → Option Caption} {script : Script}
    (h : ∀ markup, script.Asks markup → nested markup = nested' markup) :
    script.perform nested = script.perform nested' := by
  induction script with
  | done => rfl
  | fail fault => rfl
  | write text next ih => rw [perform, perform, ih h]
  | expand first next ih =>
    rw [perform, perform, h first (.inl rfl)]
    congr 1
    funext inner
    rw [ih inner.text fun markup hasks => h markup (.inr ⟨inner.text, hasks⟩)]

section

variable {registry registry' : Registry} {context : Context}

/-- A tag has the same caption for two registries that agree on its key, if what its handler can ask
    for has. -/
theorem Expansion.contribution_congr_of_agree (hreach : registry.ReachesByOwnTexts)
    {nested nested' : String → Option Caption} (allowCustom : Bool) {key : String}
    {args : List String} (hkey : registry.get? key = registry'.get? key)
    (hnested : ∀ markup, markup ∈ args ∨ markup = context.overlay.customText →
      nested markup = nested' markup) :
    contribution nested registry (scope registry context allowCustom) (.tag key args) =
      contribution nested' registry' (scope registry' context allowCustom) (.tag key args) := by
  apply contribution_tag_congr
  · rw [handler?, handler?, hkey]
    rfl
  · intro handler hhandler
    obtain ⟨hignores, hasks⟩ := hreach key handler (handler?_eq_some_iff.mp hhandler).2
    -- The registries' names make no difference to the script, nor the registries to its passes
    have hscript : handler (scope registry context allowCustom) args =
        handler (scope registry' context allowCustom) args :=
      hignores (scope registry' context allowCustom) registry.names args
    rw [hscript]
    apply Script.perform_congr
    intro markup hmarkup
    exact hnested markup (hasks (scope registry' context allowCustom) args markup hmarkup)

/-- A pass has the same caption for two registries that agree on its tags, if what their handlers
    can ask for has. -/
theorem expand?_congr_of_agree (hreach : registry.ReachesByOwnTexts) {depth : ℕ}
    (allowCustom : Bool) {tokens : List Token}
    (hkeys : ∀ key args, .tag key args ∈ tokens → registry.get? key = registry'.get? key)
    (hnested : ∀ key args markup, .tag key args ∈ tokens →
      markup ∈ args ∨ markup = context.overlay.customText →
        Expansion.nested? registry context depth markup =
          Expansion.nested? registry' context depth markup) :
    expand? depth registry context allowCustom tokens =
      expand? depth registry' context allowCustom tokens := by
  apply expand?_congr_of_forall_token
  intro token htoken
  rw [expand?_singleton, expand?_singleton]
  cases token with
  | literal text => rfl
  | tag key args =>
    exact Expansion.contribution_congr_of_agree hreach allowCustom (hkeys key args htoken)
      (fun markup => hnested key args markup htoken)

/-! ## Nested passes -/

/-- The pass over a text without `<` looks up no name. -/
theorem nested?_eq_of_lt_not_mem (registry registry' : Registry) (depth : ℕ) {text : String}
    (hlt : '<' ∉ text.toList) :
    Expansion.nested? registry context depth text =
      Expansion.nested? registry' context depth text := by
  cases depth with
  | zero => rfl
  | succ depth =>
    rw [nested?_succ, nested?_succ, tokenize_of_lt_not_mem hlt, expand?_stretch, expand?_stretch]

/-- Of a text that has been read, all that handlers can ask for is the custom text and arguments
    without tags. -/
theorem expand?_congr_of_customText (hreach : registry.ReachesByOwnTexts) {depth : ℕ}
    (allowCustom : Bool) {text : String} (hagree : registry.AgreeOn (tagKeys text) registry')
    (hcustom : Expansion.nested? registry context depth context.overlay.customText =
      Expansion.nested? registry' context depth context.overlay.customText) :
    expand? depth registry context allowCustom (tokenize text) =
      expand? depth registry' context allowCustom (tokenize text) := by
  apply expand?_congr_of_agree hreach
  · intro key args htag
    exact hagree key (key_mem_tagKeys htag)
  · intro key args markup htag hmarkup
    rcases hmarkup with harg | rfl
    · exact nested?_eq_of_lt_not_mem registry registry' depth
        (lt_not_mem_of_tag_mem_tokenize htag harg)
    · exact hcustom

/-- The custom text has the same caption in nested passes, under every limit. -/
theorem nested?_customText_congr (hreach : registry.ReachesByOwnTexts)
    (hagree : registry.AgreeOn (tagKeys context.overlay.customText) registry') (depth : ℕ) :
    Expansion.nested? registry context depth context.overlay.customText =
      Expansion.nested? registry' context depth context.overlay.customText := by
  induction depth with
  | zero => rfl
  | succ depth ih =>
    rw [nested?_succ, nested?_succ]
    exact expand?_congr_of_customText hreach false hagree ih

/-! ## Whole captions -/

/-- Where no name of a caption tells two registries apart, they give the caption alike. -/
theorem expand?_congr_of_agreeOn (hreach : registry.ReachesByOwnTexts) {template : String}
    (hagree : registry.AgreeOn (context.namesIn template) registry') (depth : ℕ)
    (allowCustom : Bool) :
    expand? depth registry context allowCustom (tokenize template) =
      expand? depth registry' context allowCustom (tokenize template) := by
  have htemplate : registry.AgreeOn (tagKeys template) registry' :=
    fun key hkey => hagree key (List.mem_append_left _ hkey)
  have hcustom : registry.AgreeOn (tagKeys context.overlay.customText) registry' :=
    fun key hkey => hagree key (List.mem_append_right _ hkey)
  exact expand?_congr_of_customText hreach allowCustom htemplate
    (nested?_customText_congr hreach hcustom depth)

/-- **A caption depends on the registry at the names that stand in it alone**: those of the tags in
    its template and in the overlay's custom text. Two registries that agree on them give the same
    text and the same log, or nest without end both. So a tag that is registered or replaced changes
    no caption that does not name it, whatever its handler does. -/
theorem expand?_depends_on_names (hreach : registry.ReachesByOwnTexts) (template : String)
    (context : Context) (allowCustom : Bool) (depth : ℕ) :
    (∀ registry', registry.AgreeOn (context.namesIn template) registry' →
      expand? depth registry context allowCustom (tokenize template) =
        expand? depth registry' context allowCustom (tokenize template)) ∧
    ∀ name handler, name ∉ context.namesIn template →
      expand? depth (registry.insert name handler) context allowCustom (tokenize template) =
        expand? depth registry context allowCustom (tokenize template) := by
  refine ⟨fun registry' hagree => expand?_congr_of_agreeOn hreach hagree depth allowCustom, ?_⟩
  intro name handler hname
  symm
  apply expand?_congr_of_agreeOn hreach
  intro key hkey
  have hne : name ≠ key := fun heq => hname (heq ▸ hkey)
  rw [Registry.get?_insert, if_neg hne]

end

/-! ## The built-in tags -/

/-- Built-in tags look at the data of the caption only, and the custom tag at its text. -/
theorem Registry.reachesByOwnTexts_builtins : builtins.ReachesByOwnTexts := by
  intro key handler hhandler
  refine ⟨?_, ?_⟩
  · intro scope names args
    obtain ⟨tag, rfl, rfl⟩ := eq_handler_of_get?_builtins hhandler
    by_cases hcustom : tag = .custom
    · subst hcustom
      rfl
    · rw [Builtin.handler_of_ne_custom hcustom, Builtin.handler_of_ne_custom hcustom]
      exact congrArg Script.ofResult (Builtin.text_congr rfl args tag)
  · intro scope args markup hasks
    exact (keepsToOwnText_builtins key handler hhandler scope args markup hasks).imp_right And.right

/-- A snapshot at the epoch with a custom text, in the default calendar. -/
def Context.withCustomText (customText : String) : Context :=
  { overlay := { customText }, calendar := default }

/-- Replacing the tag of the vessel's name does not change a caption that names it in lower case. -/
theorem expand?_depends_on_names_lowerCase :
    Registry.builtins.ReachesByOwnTexts ∧
      "Vessel" ∉ (Context.withCustomText "<Day> <vessel>").namesIn "Day <Custom>" ∧
      expand? 1 (Registry.builtins.insert "Vessel" fun _ _ => .text "Surprise")
        (Context.withCustomText "<Day> <vessel>") true (tokenize "Day <Custom>") =
          some { text := "Day 1 <vessel>", log := [.left "vessel"] } := by
  have hreach := Registry.reachesByOwnTexts_builtins
  have hname : "Vessel" ∉ (Context.withCustomText "<Day> <vessel>").namesIn "Day <Custom>" := by
    decide +kernel
  refine ⟨hreach, hname, ?_⟩
  rw [(expand?_depends_on_names hreach _ _ true 1).2 _ _ hname]
  decide +kernel

end FlightCaption
