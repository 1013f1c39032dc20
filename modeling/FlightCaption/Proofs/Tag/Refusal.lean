import FlightCaption.Proofs.Expansion.Inlining
import FlightCaption.Proofs.Expansion.Locality
import FlightCaption.Proofs.Tag.CrewCaption

/-!
# Refused arguments

The crew tags are the only built-in ones that refuse an argument: they know a few words, and take
any other first argument for a mistake. The fault in the log carries that argument and the name of a
tag. The name is always that of the tag of the whole crew, also where a tag of one role has failed.
So a reader of the log finds the failed tag in the event, and not in the fault.

1. Texts that come from data or from the calendar alone never fail for an argument
   (`NeverRefuses`), and all tags but those of the crew write such texts.
2. A token has at most one refusal in the log of its caption, told by its key and its first argument
   (`Token.refusal?`).
3. A pass has the refusals of its tokens in their order. The custom text counts as if it stood in
   the template, since the events for custom tags are no refusals.

Main statement: `render_refusals_nameCrew`.
-/

namespace FlightCaption

/-! ## Refusals in a log -/

/-- What a log says of a refused argument. -/
structure Refusal where
  /-- The tag that has failed, which the event is about. -/
  tag : String
  /-- The tag that the fault names. -/
  named : String
  /-- The argument. -/
  value : String
deriving DecidableEq, Repr

/-- An event for a refused argument. -/
def Event.refusal? : Event → Option Refusal
  | .failed tag (.invalidArgument named value) => some { tag, named, value }
  | _ => none

theorem Event.refusal?_eq_some_iff {event : Event} {refusal : Refusal} :
    event.refusal? = some refusal ↔
      event = .failed refusal.tag (.invalidArgument refusal.named refusal.value) := by
  obtain ⟨tag, named, value⟩ := refusal
  cases event with
  | left tag' => simp [refusal?]
  | failed tag' fault => cases fault <;> simp [refusal?]

namespace Caption

/-- The refusals in the log of a caption, in order. -/
def refusals (caption : Caption) : List Refusal :=
  caption.log.filterMap Event.refusal?

theorem mem_refusals_iff {caption : Caption} {refusal : Refusal} :
    refusal ∈ caption.refusals ↔
      .failed refusal.tag (.invalidArgument refusal.named refusal.value) ∈ caption.log := by
  simp [refusals, List.mem_filterMap, Event.refusal?_eq_some_iff]

theorem refusals_append (first second : Caption) :
    (first ++ second).refusals = first.refusals ++ second.refusals :=
  List.filterMap_append

theorem refusals_withoutCustom (caption : Caption) :
    caption.withoutCustom.refusals = caption.refusals := by
  rw [refusals, withoutCustom_log, List.filterMap_filter, refusals]
  congr 1
  funext event
  -- What is left out is never a refusal
  by_cases hcustom : event = .left customTagName
  · simp [hcustom, Event.refusal?]
  · simp [hcustom]

end Caption

/-! ## Texts without refusals -/

/-- A result that is no refusal of an argument. -/
def NeverRefuses {α : Type} (result : Except TagFault α) : Prop :=
  ∀ named value, result ≠ .error (.invalidArgument named value)

section

variable {α β : Type}

theorem neverRefuses_ok (value : α) : NeverRefuses (.ok value) := by
  simp [NeverRefuses]

theorem neverRefuses_missing (data : String) :
    NeverRefuses (.error (.missing data) : Except TagFault α) := by
  simp [NeverRefuses]

theorem NeverRefuses.bind {result : Except TagFault α} {next : α → Except TagFault β}
    (h : NeverRefuses result) (hnext : ∀ value, NeverRefuses (next value)) :
    NeverRefuses (result >>= next) := by
  intro named value hfault
  rcases bind_eq_error_iff.mp hfault with hfirst | ⟨first, -, hsecond⟩
  · exact h named value hfirst
  · exact hnext first named value hsecond

theorem NeverRefuses.bind_pure {result : Except TagFault α} (h : NeverRefuses result)
    (f : α → β) : NeverRefuses (result >>= fun value => pure (f value)) :=
  h.bind fun value => neverRefuses_ok (f value)

/-- The calendar knows nothing of arguments. -/
theorem neverRefuses_ofCalendar (result : Except CalendarFault α) :
    NeverRefuses (result.mapError TagFault.ofCalendar) := by
  intro named value hfault
  obtain ⟨cause, -, hcause⟩ := mapError_eq_error_iff.mp hfault
  cases cause <;> simp [TagFault.ofCalendar] at hcause

end

theorem Scope.neverRefuses_vessel (scope : Scope) : NeverRefuses scope.vessel := by
  rw [Scope.vessel]
  cases scope.context.snapshot.vessel with
  | none => exact neverRefuses_missing "vessel"
  | some vessel => exact neverRefuses_ok vessel

theorem Scope.neverRefuses_orbit (scope : Scope) : NeverRefuses scope.orbit := by
  rw [Scope.orbit]
  refine scope.neverRefuses_vessel.bind fun vessel => ?_
  cases vessel.orbit with
  | none => exact neverRefuses_missing "orbit"
  | some orbit => exact neverRefuses_ok orbit

namespace Builtin

theorem neverRefuses_require (data : String) (found : Option String) :
    NeverRefuses (require data found) := by
  cases found with
  | none => exact neverRefuses_missing data
  | some text => exact neverRefuses_ok text

/-- Only the crew tags refuse an argument. -/
theorem neverRefuses_textIn (context : Context) (args : List String) {tag : Builtin}
    (htag : ∀ role, tag ≠ .crew role) : NeverRefuses (tag.textIn context args) := by
  -- The others need data, which may be missing, or an answer of the calendar
  cases tag with
  | newline => exact neverRefuses_ok _
  | custom => exact neverRefuses_ok _
  | clock part => exact neverRefuses_ok _
  | universalTime => exact neverRefuses_ofCalendar _
  | date => exact neverRefuses_ofCalendar _
  | year => exact neverRefuses_ofCalendar _
  | missionTime => exact (Scope.neverRefuses_vessel _).bind_pure _
  | vessel reading => exact (Scope.neverRefuses_vessel _).bind_pure _
  | biome => exact (Scope.neverRefuses_vessel _).bind fun _ => neverRefuses_require _ _
  | landingZone => exact (Scope.neverRefuses_vessel _).bind fun _ => neverRefuses_require _ _
  | target => exact neverRefuses_require _ _
  | orbit reading => exact (Scope.neverRefuses_orbit _).bind_pure _
  | period => exact (Scope.neverRefuses_orbit _).bind_pure _
  | crew role => exact absurd rfl (htag role)

end Builtin

/-! ## Crew tags -/

/-- The names of the tags that list the crew or a part of it. -/
def crewTags : List String :=
  ["Crew", "Pilots", "Engineers", "Scientists", "Tourists"]

/-- The first arguments that they know. -/
def styleWords : List String :=
  ["", "full", "short"]

theorem mem_crewTags_iff {key : String} :
    key ∈ crewTags ↔ ∃ role, (Builtin.crew role).name = key := by
  constructor
  · intro hkey
    simp only [crewTags, List.mem_cons, List.not_mem_nil, or_false] at hkey
    rcases hkey with rfl | rfl | rfl | rfl | rfl
    · exact ⟨none, rfl⟩
    · exact ⟨some .pilot, rfl⟩
    · exact ⟨some .engineer, rfl⟩
    · exact ⟨some .scientist, rfl⟩
    · exact ⟨some .tourist, rfl⟩
  · rintro ⟨role, rfl⟩
    cases role with
    | none => decide
    | some role => cases role <;> decide

theorem NameStyle.ofWord?_some_eq_none_iff {word : String} :
    ofWord? (some word) = none ↔ word ∉ styleWords := by
  simp [ofWord?_eq_none_iff, styleWords]

namespace Builtin

/-- An unknown word is refused in the name of the whole crew, before the vessel is looked at. -/
theorem textIn_crew_of_not_mem (context : Context) (role : Option CrewRole) {word : String}
    (hword : word ∉ styleWords) (rest : List String) :
    (crew role).textIn context (word :: rest) = .error (.invalidArgument "Crew" word) := by
  rw [textIn, text, crewText, List.head?_cons, NameStyle.ofWord?_some_eq_none_iff.mpr hword]
  rfl

/-- A known word, or none, is not refused, whatever else is missing. -/
theorem neverRefuses_textIn_crew (context : Context) (role : Option CrewRole) {args : List String}
    (hargs : ∀ word ∈ args.head?, word ∈ styleWords) :
    NeverRefuses ((crew role).textIn context args) := by
  rw [textIn, text, crewText]
  cases hstyle : NameStyle.ofWord? args.head? with
  | some style => exact (Scope.neverRefuses_vessel _).bind_pure _
  | none =>
    obtain ⟨word, hhead, hword⟩ := NameStyle.ofWord?_eq_none_iff.mp hstyle
    exact absurd (hargs word hhead) (by simpa [styleWords] using hword)

end Builtin

/-! ## Refusals of tokens -/

/-- The refusal of a token in its caption: a crew tag refuses a first argument that it does not
    know, and names the tag of the whole crew. -/
def Token.refusal? : Token → Option Refusal
  | .tag key (word :: _) =>
    if key ∈ crewTags ∧ word ∉ styleWords then some { tag := key, named := "Crew", value := word }
    else none
  | _ => none

theorem Token.refusal?_eq_some_iff {token : Token} {refusal : Refusal} :
    token.refusal? = some refusal ↔
      refusal.named = "Crew" ∧ refusal.tag ∈ crewTags ∧ refusal.value ∉ styleWords ∧
        ∃ rest, token = .tag refusal.tag (refusal.value :: rest) := by
  obtain ⟨tag, named, value⟩ := refusal
  unfold Token.refusal?
  split
  · next key word rest =>
    rw [Option.ite_none_right_eq_some]
    constructor
    · rintro ⟨⟨hkey, hword⟩, hrefusal⟩
      obtain ⟨rfl, rfl, rfl⟩ : key = tag ∧ "Crew" = named ∧ word = value := by simpa using hrefusal
      exact ⟨rfl, hkey, hword, rest, rfl⟩
    · rintro ⟨rfl, hkey, hword, rest', htoken⟩
      obtain ⟨rfl, rfl, rfl⟩ : key = tag ∧ word = value ∧ rest = rest' := by simpa using htoken
      exact ⟨⟨hkey, hword⟩, rfl⟩
  · next hother =>
    refine iff_of_false (by simp) ?_
    rintro ⟨-, -, -, rest, rfl⟩
    exact hother tag value rest rfl

theorem mem_filterMap_refusal?_iff {tokens : List Token} {refusal : Refusal} :
    refusal ∈ tokens.filterMap Token.refusal? ↔
      refusal.named = "Crew" ∧ refusal.tag ∈ crewTags ∧ refusal.value ∉ styleWords ∧
        ∃ rest, .tag refusal.tag (refusal.value :: rest) ∈ tokens := by
  simp only [List.mem_filterMap, Token.refusal?_eq_some_iff]
  constructor
  · rintro ⟨token, htoken, hnamed, hkey, hword, rest, rfl⟩
    exact ⟨hnamed, hkey, hword, rest, htoken⟩
  · rintro ⟨hnamed, hkey, hword, rest, htoken⟩
    exact ⟨_, htoken, hnamed, hkey, hword, rest, rfl⟩

theorem Token.refusal?_tag_eq_none {key : String} {args : List String}
    (h : key ∈ crewTags → ∀ word ∈ args.head?, word ∈ styleWords) :
    (Token.tag key args).refusal? = none := by
  rw [Option.eq_none_iff_forall_ne_some]
  intro refusal hrefusal
  obtain ⟨-, hkey, hword, rest, htoken⟩ := Token.refusal?_eq_some_iff.mp hrefusal
  obtain ⟨rfl, rfl⟩ := Token.tag.inj htoken
  exact hword (h hkey _ rfl)

/-! ## Refusals of captions -/

theorem NeverRefuses.refusals_captionOfResult {result : Except TagFault String}
    (h : NeverRefuses result) (tag : String) : (captionOfResult tag result).refusals = [] := by
  rw [List.eq_nil_iff_forall_not_mem]
  rintro ⟨failed, named, value⟩ hmem
  rw [Caption.mem_refusals_iff] at hmem
  cases result with
  | ok text => simp [captionOfResult] at hmem
  | error fault =>
    obtain ⟨-, rfl⟩ : failed = tag ∧ .invalidArgument named value = fault := by
      simpa [captionOfResult] using hmem
    exact h named value rfl

section

variable (context : Context) (allowCustom : Bool)

/-- A crew tag with an unknown word fails, and its event is about the tag itself. -/
theorem expand_crew_of_not_mem (role : Option CrewRole) {word : String} (hword : word ∉ styleWords)
    (rest : List String) :
    expand context allowCustom [.tag (Builtin.crew role).name (word :: rest)] =
      { text := Caption.marker (Builtin.crew role).name
        log := [.failed (Builtin.crew role).name (.invalidArgument "Crew" word)] } := by
  have hcustom : Builtin.crew role ≠ .custom := by simp
  rw [expand_tag context allowCustom hcustom, Builtin.textIn_crew_of_not_mem context role hword]
  rfl

/-- The caption of a crew tag has a refusal exactly for an unknown word. -/
theorem refusals_expand_crew (role : Option CrewRole) (args : List String) :
    (expand context allowCustom [.tag (Builtin.crew role).name args]).refusals =
      (Token.tag (Builtin.crew role).name args).refusal?.toList := by
  by_cases hargs : ∀ word ∈ args.head?, word ∈ styleWords
  · have hcustom : Builtin.crew role ≠ .custom := by simp
    rw [expand_tag context allowCustom hcustom, Token.refusal?_tag_eq_none fun _ => hargs,
      (Builtin.neverRefuses_textIn_crew context role hargs).refusals_captionOfResult]
    rfl
  · obtain ⟨word, hhead, hword⟩ : ∃ word ∈ args.head?, word ∉ styleWords := by
      simpa using hargs
    obtain ⟨rest, rfl⟩ := List.head?_eq_some_iff.mp hhead
    have hkey : (Builtin.crew role).name ∈ crewTags := mem_crewTags_iff.mpr ⟨role, rfl⟩
    rw [expand_crew_of_not_mem context allowCustom role hword, Token.refusal?,
      if_pos ⟨hkey, hword⟩]
    rfl

/-- Each token but the custom tag has its own refusal in its caption, if any. -/
theorem refusals_expand_singleton {token : Token} (htoken : token.isCustom = false) :
    (expand context allowCustom [token]).refusals = token.refusal?.toList := by
  cases token with
  | literal text =>
    rw [expand_literal]
    rfl
  | tag key args =>
    by_cases hkey : key ∈ crewTags
    · obtain ⟨role, rfl⟩ := mem_crewTags_iff.mp hkey
      exact refusals_expand_crew context allowCustom role args
    · -- The tag is left in place, or it runs a handler that has no words to refuse
      rw [Token.refusal?_tag_eq_none fun hmem => absurd hmem hkey]
      rcases left_or_builtin_or_custom allowCustom key with
        hleft | ⟨tag, hcustom, rfl⟩ | ⟨hname, -⟩
      · rw [expand_left context allowCustom hleft]
        rfl
      · have hcrew : ∀ role, tag ≠ .crew role := by
          rintro role rfl
          exact hkey (mem_crewTags_iff.mpr ⟨role, rfl⟩)
        rw [expand_tag context allowCustom hcustom]
        exact (Builtin.neverRefuses_textIn context args hcrew).refusals_captionOfResult tag.name
      · exact absurd hname (Token.isCustom_tag_eq_false_iff.mp htoken)

/-- A pass without custom tags has the refusals of its tokens, in their order. -/
theorem refusals_expand {tokens : List Token} (h : ∀ token ∈ tokens, token.isCustom = false) :
    (expand context allowCustom tokens).refusals = tokens.filterMap Token.refusal? := by
  induction tokens with
  | nil =>
    rw [expand_nil]
    rfl
  | cons token tokens ih =>
    obtain ⟨htoken, htokens⟩ := List.forall_mem_cons.mp h
    rw [expand_cons, Caption.refusals_append, refusals_expand_singleton context allowCustom htoken,
      ih htokens, List.filterMap_cons]
    cases token.refusal? <;> rfl

/-- A whole caption has the refusals of the template with the custom text inlined. -/
theorem refusals_render (template : String) :
    (render template context).refusals =
      (inlined context.overlay.customText (tokenize template)).filterMap Token.refusal? := by
  rw [← Caption.refusals_withoutCustom, render, withoutCustom_expand_inlined context true]
  exact refusals_expand context true fun token => isCustom_of_mem_inlined

end

/-- **A refused argument is reported with the tag of the whole crew, whichever tag has failed.** The
    refusals in the log of a caption are those of the crew tags in the template and in the custom
    text in its places, in order and one for each. The event is about the tag that has failed and
    carries its first argument, which is none of the words that crew tags know; but the fault names
    that tag only where it is the tag of the whole crew. -/
theorem render_refusals_nameCrew (template : String) (context : Context) :
    (render template context).refusals =
        (inlined context.overlay.customText (tokenize template)).filterMap Token.refusal? ∧
      (∀ tag named value,
        .failed tag (.invalidArgument named value) ∈ (render template context).log ↔
          named = "Crew" ∧ tag ∈ crewTags ∧ value ∉ styleWords ∧
            ∃ rest, .tag tag (value :: rest) ∈ tokenize template ∨
              (∃ args, .tag "Custom" args ∈ tokenize template) ∧
                .tag tag (value :: rest) ∈ tokenize context.overlay.customText) ∧
      ∀ refusal ∈ (render template context).refusals,
        (∀ allowCustom rest,
          expand context allowCustom [.tag refusal.tag (refusal.value :: rest)] =
            { text := "Error expanding <" ++ refusal.tag ++ ">"
              log := [.failed refusal.tag (.invalidArgument refusal.named refusal.value)] }) ∧
        (refusal.named = refusal.tag ↔ refusal.tag = "Crew") := by
  have hrefusals := refusals_render context template
  refine ⟨hrefusals, ?_, ?_⟩
  · intro tag named value
    have hmem := @Caption.mem_refusals_iff (render template context) ⟨tag, named, value⟩
    rw [← hmem, hrefusals, mem_filterMap_refusal?_iff]
    refine and_congr_right fun _ => and_congr_right fun hkey => ?_
    -- A crew tag is not the custom tag, so it is inlined as it stands
    have hother : tag ≠ customTagName := by
      have hcustom : customTagName ∉ crewTags := by decide
      rintro rfl
      exact hcustom hkey
    simp only [tag_mem_inlined_iff hother]
    rfl
  · rintro ⟨tag, named, value⟩ hrefusal
    rw [hrefusals, mem_filterMap_refusal?_iff] at hrefusal
    obtain ⟨rfl, hkey, hvalue, -⟩ := hrefusal
    obtain ⟨role, rfl⟩ := mem_crewTags_iff.mp hkey
    refine ⟨fun allowCustom rest => ?_, eq_comm⟩
    exact expand_crew_of_not_mem context allowCustom role hvalue rest

/-- A tag of the whole crew in a template, and two tags of one role in its custom text, the second
    of which knows its argument. No vessel is needed to refuse the others. -/
theorem render_refusals_inCustomText :
    let context := Context.withCustomText "<Pilots(first, last)><Tourists(short)>"
    let caption := render "<Crew(initials)> <Custom(x)>" context
    caption.refusals = [⟨"Crew", "Crew", "initials"⟩, ⟨"Pilots", "Crew", "first"⟩] ∧
      .failed "Pilots" (.invalidArgument "Crew" "first") ∈ caption.log ∧
      (∃ refusal ∈ caption.refusals, refusal.tag = "Pilots" ∧ refusal.named ≠ refusal.tag) ∧
      expand context false [.tag "Pilots" ["first", "last"]] =
        { text := "Error expanding <Pilots>",
          log := [.failed "Pilots" (.invalidArgument "Crew" "first")] } := by
  intro context caption
  obtain ⟨hrefusals, hlog, hnamed⟩ :=
    render_refusals_nameCrew "<Crew(initials)> <Custom(x)>" context
  have htwo : caption.refusals = [⟨"Crew", "Crew", "initials"⟩, ⟨"Pilots", "Crew", "first"⟩] :=
    hrefusals.trans (by decide +kernel)
  have hpilots : ⟨"Pilots", "Crew", "first"⟩ ∈ caption.refusals := by simp [htwo]
  have hcustom : .tag "Custom" ["x"] ∈ tokenize "<Crew(initials)> <Custom(x)>" := by
    decide +kernel
  have hinner : .tag "Pilots" ["first", "last"] ∈ tokenize context.overlay.customText := by
    decide +kernel
  obtain ⟨hfails, hsame⟩ := hnamed _ hpilots
  refine ⟨htwo, ?_, ⟨_, hpilots, rfl, fun hname => ?_⟩, hfails false ["last"]⟩
  · exact (hlog "Pilots" "Crew" "first").mpr
      ⟨rfl, by decide, by decide, ["last"], .inr ⟨⟨["x"], hcustom⟩, hinner⟩⟩
  · exact absurd (hsame.mp hname) (by decide)

/-- **A tag of one role is reported with the tag of the whole crew.** The event is about the tag of
    the pilots, which is the one that fails, and its fault names another. -/
theorem render_refusals_ofPilots :
    let caption := render "<Pilots(initials)>" .crewOfThree
    caption = { text := "Error expanding <Pilots>",
                log := [.failed "Pilots" (.invalidArgument "Crew" "initials")] } ∧
      (TagFault.invalidArgument "Crew" "initials").message =
        "invalid argument 'initials' for <Crew>" ∧
      ¬ ∀ refusal ∈ caption.refusals, refusal.named = refusal.tag := by
  intro caption
  have htokens : tokenize "<Pilots(initials)>" = [.tag "Pilots" ["initials"]] := by decide +kernel
  have hcaption : caption = { text := "Error expanding <Pilots>",
                              log := [.failed "Pilots" (.invalidArgument "Crew" "initials")] } := by
    show expand .crewOfThree true (tokenize "<Pilots(initials)>") = _
    rw [htokens]
    exact expand_crew_of_not_mem .crewOfThree true (some .pilot) (by decide) []
  refine ⟨hcaption, by decide, ?_⟩
  rw [hcaption]
  decide

end FlightCaption
