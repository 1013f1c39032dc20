import FlightCaption.Proofs.Expansion.Contribution

/-!
# The custom tag where it is switched off

A pass that has the custom tag switched off never looks at its handler, and the passes nested in it
have the tag switched off as well. So two registries that differ in that handler alone give the same
captions there, however deep passes nest. Handlers know the registry by the names in it too, which
may differ as well, so they must not look at these.

1. In one pass, each token has the same caption for both registries if nested markup has.
2. Nested markup has the same caption under every limit, by induction on the limit.

Main statement: `expand?_suppresses_custom`.
-/

namespace FlightCaption

/-! ## Registries that differ in the custom tag -/

/-- The registries have the same handlers but for the custom tag, for which each of them has any
    handler or none. -/
def Registry.AgreeOffCustom (registry registry' : Registry) : Prop :=
  ∀ key, key ≠ customTagName → registry.get? key = registry'.get? key

/-- A handler that does not depend on the names that are registered. It has no other way to the
    registry than to have markup expanded. -/
def IgnoresNames (handler : Handler) : Prop :=
  ∀ (scope : Scope) (names : List String) (args : List String),
    handler { scope with tagNames := names } args = handler scope args

/-- All handlers but that of the custom tag ignore the names that are registered. -/
def Registry.IgnoresNamesOffCustom (registry : Registry) : Prop :=
  ∀ key handler, key ≠ customTagName → registry.get? key = some handler → IgnoresNames handler

/-! ## Passes with the custom tag switched off -/

section

variable {registry registry' : Registry}

/-- Where nested markup has the same captions, a token has the same caption for both registries. -/
theorem Expansion.contribution_congr_offCustom (hagree : registry.AgreeOffCustom registry')
    (hnames : registry.IgnoresNamesOffCustom) (context : Context)
    (nested : String → Option Caption) (token : Token) :
    contribution nested registry (scope registry context false) token =
      contribution nested registry' (scope registry' context false) token := by
  cases token with
  | literal text => rfl
  | tag key args =>
    by_cases hcustom : key = customTagName
    · -- The custom tag is left in place before its handler is looked up
      simp [contribution, scope, handler?, hcustom]
    · apply contribution_tag_congr
      · simp [scope, handler?, hcustom, hagree key hcustom]
      · intro handler hhandler
        have hregistered : registry.get? key = some handler :=
          (handler?_eq_some_iff.mp hhandler).2
        exact congrArg (Script.perform nested)
          (hnames key handler hcustom hregistered (scope registry' context false) registry.names
            args)

/-- Where nested markup has the same captions, a whole pass has the same caption. -/
theorem expand?_congr_offCustom (hagree : registry.AgreeOffCustom registry')
    (hnames : registry.IgnoresNamesOffCustom) {context : Context} {depth : Nat}
    (hnested : Expansion.nested? registry context depth =
      Expansion.nested? registry' context depth) (tokens : List Token) :
    expand? depth registry context false tokens = expand? depth registry' context false tokens := by
  apply expand?_congr_of_forall_token
  intro token _
  rw [expand?_singleton, expand?_singleton, hnested]
  exact Expansion.contribution_congr_offCustom hagree hnames context _ token

/-- Nested passes have the custom tag switched off, so their captions never differ. -/
theorem nested?_congr_offCustom (hagree : registry.AgreeOffCustom registry')
    (hnames : registry.IgnoresNamesOffCustom) (context : Context) (depth : Nat) :
    Expansion.nested? registry context depth = Expansion.nested? registry' context depth := by
  induction depth with
  | zero => rfl
  | succ depth ih =>
    funext markup
    rw [nested?_succ, nested?_succ]
    exact expand?_congr_offCustom hagree hnames ih (tokenize markup)

/-- **Where the custom tag is switched off, its handler is never run.** Two registries that agree on
    all other names give the same answers, or none, to every list of tokens, and so do all nested
    passes, whether or not the pass that they are nested in allows the custom tag. Wherever a custom
    tag stands in such a pass, it is left in place with one event. -/
theorem expand?_suppresses_custom (hagree : registry.AgreeOffCustom registry')
    (hnames : registry.IgnoresNamesOffCustom) (context : Context) (depth : Nat) :
    (∀ tokens, expand? depth registry context false tokens =
      expand? depth registry' context false tokens) ∧
    (∀ markup, Expansion.nested? registry context depth markup =
      Expansion.nested? registry' context depth markup) ∧
    ∀ before args after,
      expand? depth registry context false (before ++ .tag customTagName args :: after) =
        (expand? depth registry context false before).bind fun first =>
          (expand? depth registry context false after).map fun rest =>
            { text := first.text ++ ((Token.tag customTagName args).written ++ rest.text)
              log := first.log ++ .left customTagName :: rest.log } := by
  have hnested := nested?_congr_offCustom hagree hnames context depth
  refine ⟨expand?_congr_offCustom hagree hnames hnested, fun markup => by rw [hnested], ?_⟩
  intro before args after
  rw [expand?_append, expand?_cons, expand?_left depth registry context false (.inr ⟨rfl, rfl⟩)]
  congr 1
  funext first
  rw [Option.bind_some, Option.map_map]
  rfl

end

/-! ## A custom tag in an argument -/

/-- Has its first argument expanded. -/
def inlining : Handler := fun _ args => .inline (args.headD "") .done

/-- The registry of one tag, which stands for its first argument. -/
def inliningOnly : Registry :=
  Registry.empty.insert "Inline" inlining

/-- The same with a handler for the custom tag that has nothing to do with the custom text. -/
def inliningWithSurprise : Registry :=
  inliningOnly.insert customTagName fun _ _ => .text "Surprise"

/-- A custom tag in an argument is not touched by a handler that would be run outside it. -/
theorem expand?_suppresses_surprise :
    inliningOnly.AgreeOffCustom inliningWithSurprise ∧ inliningOnly.IgnoresNamesOffCustom ∧
      expand? 1 inliningWithSurprise {} true [.tag customTagName []] =
        some { text := "Surprise", log := [] } ∧
      expand? 1 inliningOnly {} false [.tag "Inline" ["<Custom(a)>"]] =
        some { text := "<Custom(a)>", log := [.left customTagName] } ∧
      expand? 1 inliningWithSurprise {} false [.tag "Inline" ["<Custom(a)>"]] =
        some { text := "<Custom(a)>", log := [.left customTagName] } := by
  have hagree : inliningOnly.AgreeOffCustom inliningWithSurprise := by
    intro key hkey
    rw [inliningWithSurprise, Registry.get?_insert, if_neg (Ne.symm hkey)]
  have hnames : inliningOnly.IgnoresNamesOffCustom := by
    intro key handler _ hhandler
    rw [inliningOnly, Registry.get?_insert] at hhandler
    split at hhandler
    · obtain rfl := Option.some.inj hhandler
      exact fun _ _ _ => rfl
    · simp [Registry.get?, Registry.empty] at hhandler
  have htokens : tokenize "<Custom(a)>" = [.tag customTagName ["a"]] := by decide +kernel
  have hsurprise : inliningWithSurprise.get? customTagName = some fun _ _ => .text "Surprise" := by
    simp [inliningWithSurprise, Registry.get?_insert]
  have hinlining : inliningOnly.get? "Inline" = some inlining := by
    simp [inliningOnly, Registry.get?_insert]
  have hinlined : expand? 1 inliningOnly {} false [.tag "Inline" ["<Custom(a)>"]] =
      some { text := "<Custom(a)>", log := [.left customTagName] } := by
    rw [expand?_handled 1 inliningOnly {} false hinlining (fun hname => absurd hname (by decide))]
    simp only [inlining, List.headD_cons, Script.inline, Script.perform, nested?_succ, htokens,
      expand?_left 0 inliningOnly {} false (.inr ⟨rfl, rfl⟩)]
    rfl
  refine ⟨hagree, hnames, ?_, hinlined, ?_⟩
  · rw [expand?_handled 1 inliningWithSurprise {} true hsurprise (fun _ => rfl)]
    rfl
  · rw [← (expand?_suppresses_custom hagree hnames {} 1).1]
    exact hinlined

end FlightCaption
