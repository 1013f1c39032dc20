import FlightCaption.Proofs.Template.Reading

/-!
# Templates in a row

A template can be cut in two so that the tokens of the whole are those of the two parts, one after
the other. There are two kinds of such places:

- before a `<`, since it flushes whatever is pending, whichever state the scanner is in;
- behind a closed tag, since nothing is pending there.

Everything else in this module follows from the first kind: a tag begins with a `<`, so the tokens
of a template with a tag in it are those before the tag, its own, and those behind it
(`scan_append_tag`). Main statement: `tokenize_append`.
-/

namespace FlightCaption.Grammar

/-! ## Bodies between angle brackets -/

/-- A body that can stand between the `<` and the `>` of a tag. -/
structure IsBody (parts : List Part) : Prop where
  lt_not_mem : '<' ∉ source parts
  isWhole : ∀ part ∈ parts, part.IsWhole

/-- A closed tag with this body, named or not, stands in the template. -/
def HasTag (template : String) (parts : List Part) : Prop :=
  IsBody parts ∧ ∃ before after, template.toList = before ++ ('<' :: source parts ++ '>' :: after)

/-- The text ends with the `>` that closes a tag, named or not. It does not matter what stands
    before the tag, since its `<` starts it in any case. -/
def EndsWithTag (text : List Char) : Prop :=
  ∃ before parts, IsBody parts ∧ text = before ++ ('<' :: source parts ++ ['>'])

@[simp] theorem key_name_group (name inner : List Char) :
    key (name.map Part.letter ++ [.group inner]) = name := by
  rw [key_append, key_letters]
  exact List.append_nil name

@[simp] theorem arguments_name_group (name inner : List Char) :
    arguments (name.map Part.letter ++ [.group inner]) = (Part.group inner).arguments := by
  rw [arguments_append, arguments_letters]
  exact List.append_nil _

/-- The token of a tag that has one group, behind its key. -/
theorem tagToken_group {name : List Char} (hname : name ≠ []) (inner : List Char) :
    tagToken (name.map Part.letter ++ [.group inner]) =
      .tag (String.ofList name) (Part.group inner).arguments := by
  rw [tagToken, key_name_group, if_neg hname, arguments_name_group]

/-! ## Cutting the scan -/

/-- Before a `<` the scan can be cut, and it goes on without anything pending. -/
theorem scan_append_of_atBreak (p : Pending) (text : List Char) {rest : List Char}
    (h : AtBreak rest) : p.scan (text ++ rest) = p.scan text ++ (Pending.text []).scan rest := by
  induction text generalizing p with
  | nil => exact scan_of_atBreak p h
  | cons c text ih =>
    -- The first character leads to some other state, and the cut is as good from there
    rw [List.cons_append, Pending.scan, Pending.scan, ih, List.append_assoc]

theorem scan_tag {parts : List Part} (h : IsBody parts) (rest : List Char) :
    (Pending.text []).scan ('<' :: source parts ++ '>' :: rest) =
      tagToken parts :: (Pending.text []).scan rest := by
  have hlt : '<' ∉ source parts ++ ['>'] := by simp [h.lt_not_mem]
  simpa using scan_closes ⟨rfl, h.isWhole⟩ hlt rest

/-- The tokens around a closed tag do not depend on it, nor on one another. -/
theorem scan_append_tag {parts : List Part} (h : IsBody parts) (p : Pending)
    (before after : List Char) :
    p.scan (before ++ ('<' :: source parts ++ '>' :: after)) =
      p.scan before ++ tagToken parts :: (Pending.text []).scan after := by
  rw [scan_append_of_atBreak p before (by simp [AtBreak]), scan_tag h]

/-! ## Whole templates -/

/-- A template that is one closed tag. -/
theorem tokenize_tag {parts : List Part} (h : IsBody parts) :
    tokenize (String.ofList ('<' :: source parts ++ ['>'])) = [tagToken parts] := by
  simpa [tokenize, Pending.scan, Pending.flush, Pending.source] using scan_tag h []

/-- The tokens of two templates in a row, where the second one begins with a `<` or the first one
    ends with a closed tag. -/
theorem tokenize_append {first second : String}
    (h : AtBreak second.toList ∨ EndsWithTag first.toList) :
    tokenize (first ++ second) = tokenize first ++ tokenize second := by
  rw [tokenize, tokenize, tokenize, String.toList_append]
  rcases h with hbreak | ⟨before, parts, hbody, htext⟩
  · exact scan_append_of_atBreak _ _ hbreak
  · -- The tag is cut off at its own `<`, once with the second template behind it and once without
    have hwhole := scan_append_tag hbody (.text []) before second.toList
    have hfirst := scan_append_tag hbody (.text []) before []
    rw [htext, hfirst]
    simpa [Pending.scan, Pending.flush, Pending.source] using hwhole

end FlightCaption.Grammar
