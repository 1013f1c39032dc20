import FlightCaption.Proofs.Template.Canonical
import FlightCaption.Proofs.Template.Concatenation

/-!
# Written forms and their sources

A tag is written with one group, behind its key, and without blanks around its arguments. A template
may have it in another form, with several groups, with groups inside its key or with such blanks,
and then writing its tokens out again changes it. This module says when, in three steps:

1. A body in some other form is longer than the written one, or as long but different; a body in
   the written form is kept (`written_tagToken_eq_iff`).
2. No token is longer in its written form than its source in the template, so the written tokens of
   a template are never longer than the template (`length_written_tokenize_le`).
3. Hence they are the template only if each tag is kept (`written_tokenize_eq_iff`).
-/

namespace FlightCaption.Grammar

/-! ## Forms of a body -/

/-- A body in the written form: it has no group, or only one, at its end, whose pieces have no
    blanks around them. -/
def IsWrittenForm (parts : List Part) : Prop :=
  (∃ name : List Char, parts = name.map Part.letter) ∨
    ∃ (name inner : List Char), parts = name.map Part.letter ++ [.group inner] ∧
      ∀ piece ∈ inner.splitOn ',', Text.IsTrimmed piece

/-- A body is read in one way only. -/
theorem eq_of_source_eq {parts parts' : List Part} (h : ∀ part ∈ parts, part.IsWhole)
    (h' : ∀ part ∈ parts', part.IsWhole) (heq : source parts = source parts') :
    parts = parts' := by
  -- Closed by a `>`, both are what reading finds
  have hread : closing (source parts ++ ['>']) = some (parts, []) :=
    closing_eq_some_iff.mpr ⟨rfl, h⟩
  have hread' : closing (source parts ++ ['>']) = some (parts', []) :=
    closing_eq_some_iff.mpr ⟨by rw [heq], h'⟩
  rw [hread] at hread'
  exact (Prod.mk.inj (Option.some.inj hread')).1

/-- The parts of a tag in its written form are in the written form, and no others are. -/
theorem eq_written_iff {parts : List Part} (h : IsBody parts) :
    parts = (key parts).map Part.letter ++ groupOf (arguments parts) ↔ IsWrittenForm parts := by
  constructor
  · intro heq
    by_cases hargs : arguments parts = []
    · rw [hargs, groupOf, if_pos rfl, List.append_nil] at heq
      exact .inl ⟨_, heq⟩
    · rw [groupOf, if_neg hargs] at heq
      refine .inr ⟨_, _, heq, ?_⟩
      -- The pieces of the group are the arguments, which are trimmed
      have harguments : ∀ piece ∈ (arguments parts).map String.toList, IsArgument piece := by
        intro piece hpiece
        obtain ⟨arg, harg, rfl⟩ := List.mem_map.mp hpiece
        exact isArgument_of_mem_arguments h.isWhole h.lt_not_mem harg
      rw [List.splitOn_intercalate ',' (fun piece hpiece => (harguments piece hpiece).comma_not_mem)
        (by simpa using hargs)]
      exact fun piece hpiece => (harguments piece hpiece).isTrimmed
  · rintro (⟨name, rfl⟩ | ⟨name, inner, rfl, htrimmed⟩)
    · simp [groupOf]
    · -- Trimming leaves the pieces alone, so they are put together to what the group holds
      have htrim : (inner.splitOn ',').map Text.trim = inner.splitOn ',' := by
        conv_rhs => rw [← List.map_id (inner.splitOn ',')]
        exact List.map_congr_left fun piece hpiece => Text.trim_eq_self (htrimmed piece hpiece)
      have hargs : arguments (name.map Part.letter ++ [.group inner]) =
          (inner.splitOn ',').map fun piece => String.ofList (Text.trim piece) :=
        arguments_name_group name inner
      have hinner : [','].intercalate ((arguments (name.map Part.letter ++ [.group inner])).map
          String.toList) = inner := by
        simp only [hargs, List.map_map, Function.comp_def, String.toList_ofList]
        rw [htrim]
        exact List.intercalate_splitOn ','
      have hne : arguments (name.map Part.letter ++ [.group inner]) ≠ [] := by
        simp [hargs, List.splitOn_ne_nil]
      rw [groupOf, if_neg hne, hinner, key_name_group]

/-! ## Lengths -/

/-- The characters of arguments, each with the comma or the parenthesis behind it. -/
def room (args : List String) : Nat :=
  Text.room (args.map String.toList)

@[simp] theorem room_nil : room [] = 0 := rfl

@[simp] theorem room_append (args args' : List String) :
    room (args ++ args') = room args + room args' := by
  rw [room, List.map_append, Text.room_append, room, room]

theorem length_source_groupOf (args : List String) :
    (source (groupOf args)).length = if args = [] then 0 else room args + 1 := by
  by_cases hargs : args = []
  · simp [groupOf, hargs]
  · -- The two parentheses are the one behind the last argument and one more
    have hne : args.map String.toList ≠ [] := by simpa using hargs
    have hlength := Text.length_intercalate_succ hne ','
    simp only [groupOf, hargs, if_false, source_cons, Part.source, source_nil, room]
    simp only [List.append_nil, List.length_append, List.length_cons, List.length_nil]
    omega

/-- Trimming and cutting leave the arguments of a group no more room than the group has. -/
theorem room_arguments_group_le (inner : List Char) :
    room (Part.group inner).arguments ≤ inner.length + 1 := by
  have hinner := Text.length_intercalate_succ (List.splitOn_ne_nil ',' inner) ','
  rw [List.intercalate_splitOn] at hinner
  have hpieces : (Part.group inner).arguments.map String.toList =
      (inner.splitOn ',').map Text.trim := by
    simp [Part.arguments, Function.comp_def]
  rw [hinner, room, hpieces]
  exact Text.room_map_trim_le (inner.splitOn ',')

/-- The written form of a body is never longer than the body. -/
theorem length_written_body_le (parts : List Part) :
    (key parts).length + (source (groupOf (arguments parts))).length ≤ (source parts).length := by
  induction parts with
  | nil => simp [key, arguments, groupOf]
  | cons part parts ih =>
    cases part with
    | letter c =>
      simp only [key_letter, arguments_cons, Part.arguments, List.nil_append, source_cons,
        Part.source, List.length_cons, List.length_append, List.length_nil]
      omega
    | group inner =>
      have hroom := room_arguments_group_le inner
      have hne : (Part.group inner).arguments ≠ [] := by
        simp [Part.arguments, List.splitOn_ne_nil]
      -- The groups behind this one are joined to it, which saves their parentheses
      rw [length_source_groupOf] at ih
      simp only [key_group, arguments_cons, length_source_groupOf, List.append_eq_nil_iff, hne,
        false_and, if_false, room_append, source_cons, Part.source, List.length_append,
        List.length_cons, List.length_nil]
      split at ih
      · next hargs =>
        simp only [hargs, room_nil] at hroom ⊢
        omega
      · omega

/-! ## Tags -/

theorem written_tagToken {parts : List Part} (hkey : key parts ≠ []) :
    (tagToken parts).written.toList =
      '<' :: source ((key parts).map Part.letter ++ groupOf (arguments parts)) ++ ['>'] := by
  rw [tagToken, if_neg hkey, toList_written_tag, String.toList_ofList]

/-- A nameless tag is literal text. -/
theorem written_tagToken_nameless {parts : List Part} (hkey : key parts = []) :
    (tagToken parts).written.toList = '<' :: source parts ++ ['>'] := by
  rw [tagToken, if_pos hkey, Token.written, String.toList_ofList]

theorem length_written_tagToken_le (parts : List Part) :
    (tagToken parts).written.toList.length ≤ ('<' :: source parts ++ ['>']).length := by
  by_cases hkey : key parts = []
  · rw [written_tagToken_nameless hkey]
  · have hbody := length_written_body_le parts
    rw [written_tagToken hkey]
    simp only [source_append, source_letters, List.length_append, List.length_cons,
      List.length_nil]
    omega

/-- A named tag is kept where its body is in the written form, and only there. -/
theorem written_tagToken_eq_iff {parts : List Part} (h : IsBody parts) (hkey : key parts ≠ []) :
    (tagToken parts).written.toList = '<' :: source parts ++ ['>'] ↔ IsWrittenForm parts := by
  have hnamed : IsNamed (.tag (String.ofList (key parts)) (arguments parts)) := by
    rcases isNamed_or_isNameless_tagToken h.isWhole h.lt_not_mem with hnamed | hnameless
    · simpa [tagToken, hkey] using hnamed
    · simp [tagToken, hkey, IsNameless] at hnameless
  have hwhole := isWhole_written_named hnamed
  rw [String.toList_ofList] at hwhole
  rw [written_tagToken hkey, ← eq_written_iff h]
  -- The brackets are the same, and a body is known by its source
  constructor
  · intro heq
    have hsource := List.append_cancel_right (List.cons.inj heq).2
    exact (eq_of_source_eq hwhole h.isWhole hsource).symm
  · intro heq
    rw [← heq]

/-! ## Templates -/

theorem written_append (tokens tokens' : List Token) :
    (written (tokens ++ tokens')).toList = (written tokens).toList ++ (written tokens').toList := by
  simp [toList_written]

theorem written_cons (token : Token) (tokens : List Token) :
    (written (token :: tokens)).toList = token.written.toList ++ (written tokens).toList := by
  simp [toList_written]

/-- The written form of a token is never longer than a source of it. -/
theorem length_written_le_of_isSourceOf {segment : List Char} {token : Token}
    (h : IsSourceOf segment token) : token.written.toList.length ≤ segment.length := by
  cases token with
  | literal text => rw [h.2, Token.written]
  | tag name args =>
    obtain ⟨-, parts, -, -, hname, rfl, rfl⟩ := h
    have hbody := length_written_body_le parts
    rw [toList_written_tag, hname]
    simp only [source_append, source_letters, List.length_append, List.length_cons,
      List.length_nil]
    omega

theorem length_written_le_of_isCoveredBy {text : List Char} {tokens : List Token}
    (h : IsCoveredBy text tokens) : (written tokens).toList.length ≤ text.length := by
  obtain ⟨segments, rfl, hsegments⟩ := h
  induction hsegments with
  | nil => simp [written]
  | cons hsegment _ ih =>
    rw [written_cons, List.flatten_cons, List.length_append, List.length_append]
    exact Nat.add_le_add (length_written_le_of_isSourceOf hsegment) ih

theorem length_written_scan_le (text : List Char) :
    (written ((Pending.text []).scan text)).toList.length ≤ text.length := by
  have hcovered := isCoveredBy_tokens (String.ofList text)
  rw [← tokenize_eq, tokenize, String.toList_ofList] at hcovered
  exact length_written_le_of_isCoveredBy hcovered

theorem length_written_tokenize_le (template : String) :
    (written (tokenize template)).length ≤ template.length := by
  rw [← String.length_toList, ← String.length_toList]
  exact length_written_scan_le template.toList

/-- Pieces that are no longer than those of another text, and make the same text, are the same. -/
theorem eq_of_append_eq_of_length_le {before middle after before' middle' after' : List Char}
    (heq : before ++ (middle ++ after) = before' ++ (middle' ++ after'))
    (hbefore : before.length ≤ before'.length) (hmiddle : middle.length ≤ middle'.length)
    (hafter : after.length ≤ after'.length) : middle = middle' := by
  have hlength := congrArg List.length heq
  simp only [List.length_append] at hlength
  have hrest := List.append_inj_right heq (by omega)
  exact List.append_inj_left hrest (by omega)

/-- Each tag of a template is kept where the whole template is. -/
theorem written_tagToken_eq_of_hasTag {template : String} {parts : List Part}
    (h : HasTag template parts) (heq : written (tokenize template) = template) :
    (tagToken parts).written.toList = '<' :: source parts ++ ['>'] := by
  obtain ⟨hbody, before, after, htemplate⟩ := h
  have htokens : tokenize template =
      (Pending.text []).scan before ++ tagToken parts :: (Pending.text []).scan after := by
    rw [tokenize, htemplate, scan_append_tag hbody]
  have hwritten := congrArg String.toList heq
  rw [htokens, written_append, written_cons, htemplate] at hwritten
  -- What stands around the tag has not become longer, so the tag has not become shorter
  refine eq_of_append_eq_of_length_le ?_ (length_written_scan_le before)
    (length_written_tagToken_le parts) (length_written_scan_le after)
  simpa using hwritten

/-- Readable tokens are written as their sources where those of the tags are in the written form. -/
theorem written_eq_flatten {segments : List (List Char)} {tokens : List Token}
    (h : List.Forall₂ IsSourceOf segments tokens) (hreadable : ∀ token ∈ tokens, IsReadable token)
    (hform : ∀ parts, IsBody parts → key parts ≠ [] → '<' :: source parts ++ ['>'] ∈ segments →
      IsWrittenForm parts) : (written tokens).toList = segments.flatten := by
  induction h with
  | nil => rfl
  | @cons segment token segments tokens hsegment _ ih =>
    have hrest := ih (fun other hother => hreadable other (List.mem_cons_of_mem _ hother))
      fun parts hbody hkey hmem => hform parts hbody hkey (List.mem_cons_of_mem _ hmem)
    rw [written_cons, List.flatten_cons, hrest]
    congr 1
    cases token with
    | literal text => exact hsegment.2.symm
    | tag name args =>
      obtain ⟨-, parts, hlt, hwhole, hname, rfl, rfl⟩ := hsegment
      -- The name of a readable tag is not empty, so the segment is that of a named tag
      have hkey : key parts ≠ [] := by
        have hnamed : IsNamed (.tag name (arguments parts)) := by
          simpa [IsReadable, IsPlain, IsNameless, IsUnterminated] using
            hreadable _ List.mem_cons_self
        simpa [← hname] using hnamed.1
      have htoken : tagToken parts = .tag name (arguments parts) := by
        rw [tagToken, if_neg hkey, ← hname, String.ofList_toList]
      rw [← htoken]
      exact (written_tagToken_eq_iff ⟨hlt, hwhole⟩ hkey).mpr
        (hform parts ⟨hlt, hwhole⟩ hkey List.mem_cons_self)

/-- **Writing the tokens of a template out again** gives the template exactly if all of its named
    tags are in the written form. -/
theorem written_tokenize_eq_iff (template : String) :
    written (tokenize template) = template ↔
      ∀ parts, HasTag template parts → key parts ≠ [] → IsWrittenForm parts := by
  constructor
  · intro heq parts htag hkey
    exact (written_tagToken_eq_iff htag.1 hkey).mp (written_tagToken_eq_of_hasTag htag heq)
  · intro h
    obtain ⟨segments, htemplate, hsegments⟩ := isCoveredBy_tokens template
    rw [← tokenize_eq] at hsegments
    rw [← String.toList_inj, ← htemplate]
    apply written_eq_flatten hsegments (isCanonical_tokenize template).isReadable
    intro parts hbody hkey hmem
    -- A segment stands somewhere in the template
    obtain ⟨before, after, hsplit⟩ := List.append_of_mem hmem
    apply h parts ⟨hbody, before.flatten, after.flatten, _⟩ hkey
    rw [← htemplate, hsplit]
    simp

end FlightCaption.Grammar
