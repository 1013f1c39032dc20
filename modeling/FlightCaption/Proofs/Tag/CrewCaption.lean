import FlightCaption.Proofs.Tag.Failure
import Mathlib.Data.List.TakeWhile

/-!
# Captions of crews

Five tags list the crew of a vessel: one lists everyone on board, the others list the members of one
role each. All of them write full names or first words of names, with commas between them.

1. A name is shown in full, or by the word that it begins with behind blanks. Either way there is
   exactly one text that shows it (`NameStyle.Shows`).
2. Each tag of a role lists the members of the role in the order of the crew. No member is left out
   by all of them, and none is listed by two: the four lists together are the crew in another order.

Main statement: `expand_crew_lists`.
-/

namespace FlightCaption

/-! ## First words -/

namespace Text

/-- A word is the first one of a text: blanks stand before it, none in it, and one behind it unless
    the text ends there. Only a text of blanks has the empty word. -/
def IsFirstWord (text word : List Char) : Prop :=
  ∃ blanks rest, text = blanks ++ word ++ rest ∧ (∀ c ∈ blanks, isBlank c = true) ∧
    (∀ c ∈ word, isBlank c = false) ∧ (∀ c ∈ rest.head?, isBlank c = true) ∧
    (word = [] → ∀ c ∈ text, isBlank c = true)

theorem isFirstWord_firstWord (text : List Char) : IsFirstWord text (firstWord text) := by
  refine ⟨text.takeWhile isBlank, (text.dropWhile isBlank).dropWhile (! isBlank ·), ?_, ?_, ?_, ?_,
    ?_⟩
  · rw [firstWord, List.append_assoc, List.takeWhile_append_dropWhile,
      List.takeWhile_append_dropWhile]
  · exact fun c hc => List.all_eq_true.mp List.all_takeWhile c hc
  · exact fun c hc => isBlank_of_mem_firstWord hc
  · -- What is dropped behind the word starts where the word could not go on
    intro c hc
    have hstop := List.head?_dropWhile_not (! isBlank ·) (text.dropWhile isBlank)
    rw [Option.mem_def.mp hc] at hstop
    simpa using hstop
  · intro hempty c hc
    have hdrop : text.dropWhile isBlank = [] := by
      cases hdrop : text.dropWhile isBlank with
      | nil => rfl
      | cons d rest =>
        have hstop := List.head?_dropWhile_not isBlank text
        rw [hdrop] at hstop
        rw [firstWord, hdrop, List.takeWhile_cons_of_pos (by simpa using hstop)] at hempty
        contradiction
    exact List.dropWhile_eq_nil_iff.mp hdrop c hc

theorem IsFirstWord.eq_firstWord {text word : List Char} (h : IsFirstWord text word) :
    word = firstWord text := by
  obtain ⟨blanks, rest, rfl, hblanks, hword, hrest, hempty⟩ := h
  cases word with
  | nil => rw [firstWord, List.dropWhile_eq_nil_iff.mpr (hempty rfl), List.takeWhile_nil]
  | cons c word =>
    have hstart : isBlank c = false := hword c List.mem_cons_self
    have hstop : rest.takeWhile (! isBlank ·) = [] := by
      cases rest with
      | nil => rfl
      | cons d rest => exact List.takeWhile_cons_of_neg (by simpa using hrest d rfl)
    rw [firstWord, List.append_assoc, List.dropWhile_append_of_pos hblanks, List.cons_append,
      List.dropWhile_cons_of_neg (by simp [hstart]), ← List.cons_append,
      List.takeWhile_append_of_pos (by simpa using hword), hstop, List.append_nil]

/-- Every text has exactly one first word. -/
theorem isFirstWord_iff {text word : List Char} :
    IsFirstWord text word ↔ word = firstWord text :=
  ⟨IsFirstWord.eq_firstWord, fun h => h ▸ isFirstWord_firstWord text⟩

end Text

/-! ## Displayed names -/

namespace NameStyle

/-- The style that the arguments of a tag ask for. -/
inductive AskedBy (args : List String) : NameStyle → Prop where
  /-- Without an argument, or with one that says nothing else, names are written in full. -/
  | full (h : ∀ word ∈ args.head?, word = "" ∨ word = "full") : AskedBy args .full
  | short (h : args.head? = some "short") : AskedBy args .short

theorem ofWord?_of_askedBy {args : List String} {style : NameStyle} (h : style.AskedBy args) :
    ofWord? args.head? = some style := by
  cases h with
  | full h =>
    cases hhead : args.head? with
    | none => rfl
    | some word => rw [ofWord?, if_pos (h word hhead)]
  | short h =>
    rw [h]
    rfl

/-- A text shows a name in a style: it is the name, or the first word of the name. -/
def Shows : NameStyle → String → String → Prop
  | full, name, text => text = name
  | short, name, text => Text.IsFirstWord name.toList text.toList

/-- Every name is shown by exactly one text. -/
theorem shows_iff {style : NameStyle} {member : CrewMember} {text : String} :
    style.Shows member.name text ↔ text = style.nameOf member := by
  cases style with
  | full => rfl
  | short =>
    rw [Shows, Text.isFirstWord_iff, nameOf, CrewMember.shortName, ← String.toList_inj,
      String.toList_ofList]

end NameStyle

/-! ## Rosters -/

/-- The tags that list the members of one role. -/
def roleTags : List (String × CrewRole) :=
  [("Pilots", .pilot), ("Engineers", .engineer), ("Scientists", .scientist),
    ("Tourists", .tourist)]

/-- Every role has one tag. -/
theorem existsUnique_roleTag (role : CrewRole) :
    ∃! entry, entry ∈ roleTags ∧ entry.2 = role := by
  cases role <;> simp [roleTags, ExistsUnique, or_imp, forall_and]

/-- The rosters of all roles together are the crew, in another order. -/
theorem flatMap_roster_perm (vessel : Vessel) :
    (roleTags.flatMap fun entry => vessel.roster (some entry.2)).Perm vessel.crew := by
  apply List.perm_iff_count.mpr
  intro member
  -- Of the four rosters, the one of the member's role holds it as often as the crew
  have hcount : ∀ role, (vessel.roster (some role)).count member =
      if member.role = role then vessel.crew.count member else 0 := by
    intro role
    rw [Vessel.roster]
    split
    · next hrole => exact List.count_filter (by simpa using hrole)
    · next hrole =>
      apply List.count_eq_zero_of_not_mem
      intro hmem
      exact hrole (by simpa using (List.mem_filter.mp hmem).2)
  simp only [roleTags, List.flatMap_cons, List.flatMap_nil, List.count_append, List.count_nil,
    hcount]
  cases member.role <;> simp

/-! ## Tags -/

section

variable {context : Context} {vessel : Vessel} (hvessel : context.snapshot.vessel = some vessel)
  {args : List String} {style : NameStyle} (hstyle : style.AskedBy args)
include hvessel hstyle

theorem textIn_crew (role : Option CrewRole) :
    (Builtin.crew role).textIn context args = .ok (vessel.rosterText role style) := by
  rw [Builtin.textIn, Builtin.text, Builtin.crewText, NameStyle.ofWord?_of_askedBy hstyle,
    Scope.vessel]
  simp only [Expansion.scope, hvessel]
  rfl

theorem expand_crew (allowCustom : Bool) (role : Option CrewRole) :
    expand context allowCustom [.tag (Builtin.crew role).name args] =
      { text := ", ".intercalate ((vessel.roster role).map style.nameOf) } := by
  have htag : Builtin.crew role ≠ .custom := by simp
  rw [expand_tag context allowCustom htag, textIn_crew hvessel hstyle]
  rfl

/-- **The crew tags list every member once, in order and under the right role.** The members of the
    whole crew, or those of one role, stand in the caption in the order of the crew, each by the
    only text that shows its name in the style. Each member is listed by exactly one tag of a role,
    and as often as it is in the crew. -/
theorem expand_crew_lists (allowCustom : Bool) :
    ∃ shown : CrewMember → String,
      (∀ member text, style.Shows member.name text ↔ text = shown member) ∧
      expand context allowCustom [.tag "Crew" args] =
        { text := ", ".intercalate (vessel.crew.map shown) } ∧
      (∀ entry ∈ roleTags, expand context allowCustom [.tag entry.1 args] =
        { text := ", ".intercalate ((vessel.crew.filter (·.role = entry.2)).map shown) }) ∧
      (∀ member ∈ vessel.crew, ∃! entry, entry ∈ roleTags ∧
        member ∈ vessel.crew.filter (·.role = entry.2)) ∧
      (roleTags.flatMap fun entry => vessel.crew.filter (·.role = entry.2)).Perm vessel.crew := by
  refine ⟨style.nameOf, fun _ _ => NameStyle.shows_iff, ?_, ?_, ?_, flatMap_roster_perm vessel⟩
  · exact expand_crew hvessel hstyle allowCustom none
  · -- One tag for each role
    have hrole := fun role => expand_crew hvessel hstyle allowCustom (some role)
    simp only [roleTags, List.forall_mem_cons]
    exact ⟨hrole .pilot, hrole .engineer, hrole .scientist, hrole .tourist, by simp⟩
  · intro member hmem
    simpa [hmem, eq_comm] using existsUnique_roleTag member.role

end

/-- Two pilots around an engineer. The name of the second begins with a blank and ends its first
    word by a line separator, and that of the engineer is blank. -/
def Context.crewOfThree : Context :=
  { snapshot := { vessel := some { crew := [⟨"Jebediah Kerman", .pilot⟩, ⟨" \t", .engineer⟩,
      ⟨"\u00a0Val\u2028Kerman", .pilot⟩] } }
    calendar := default }

theorem expand_crew_lists_ofThree :
    (∃ vessel, Context.crewOfThree.snapshot.vessel = some vessel) ∧
      NameStyle.short.AskedBy ["short", "long"] ∧ NameStyle.full.AskedBy [] ∧
      expand .crewOfThree true [.tag "Crew" ["short", "long"]] = { text := "Jebediah, , Val" } ∧
      expand .crewOfThree false [.tag "Pilots" []] =
        { text := "Jebediah Kerman, \u00a0Val\u2028Kerman" } := by
  have hshort : NameStyle.short.AskedBy ["short", "long"] := .short rfl
  have hfull : NameStyle.full.AskedBy [] := .full (by simp)
  refine ⟨⟨_, rfl⟩, hshort, hfull, ?_, ?_⟩
  · obtain ⟨shown, hshown, hcrew, -⟩ :=
      @expand_crew_lists .crewOfThree _ rfl ["short", "long"] _ hshort true
    rw [hcrew]
    obtain rfl : NameStyle.short.nameOf = shown :=
      funext fun member => (hshown member _).mp (NameStyle.shows_iff.mpr rfl)
    decide +kernel
  · obtain ⟨shown, hshown, -, hroles, -⟩ := @expand_crew_lists .crewOfThree _ rfl [] _ hfull false
    rw [hroles ("Pilots", .pilot) (by simp [roleTags])]
    obtain rfl : NameStyle.full.nameOf = shown :=
      funext fun member => (hshown member _).mp (NameStyle.shows_iff.mpr rfl)
    decide +kernel

end FlightCaption
