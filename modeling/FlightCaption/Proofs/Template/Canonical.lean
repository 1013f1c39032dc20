import Mathlib.Data.List.Chain
import FlightCaption.Proofs.Template.Reading

/-!
# Canonical token lists

Not every list of tokens comes from a template: a key cannot hold a `>`, an argument cannot end in
a blank, and two stretches of plain text in a row would be one. This module says which lists do,
token by token and pair by pair of neighbours, and shows that these are the lists that survive
being written and read again.

Main statement: a list of tokens is the tokens of some template exactly if it is canonical, and a
canonical list is read back from its written form (`tokenize_eq_iff_isCanonical`).
-/

namespace FlightCaption.Grammar

/-! ## Canonical tokens -/

/-- An argument that a group can hold. -/
structure IsArgument (arg : List Char) : Prop where
  lt_not_mem : '<' ∉ arg
  comma_not_mem : ',' ∉ arg
  close_not_mem : ')' ∉ arg
  isTrimmed : Text.IsTrimmed arg

/-- A tag whose key and arguments can be written. -/
def IsNamed : Token → Prop
  | .literal _ => False
  | .tag name args => name ≠ "" ∧ (∀ c ∈ name.toList, c ≠ '<' ∧ c ≠ '>' ∧ c ≠ '(') ∧
      ∀ arg ∈ args, IsArgument arg.toList

/-- A literal in which no tag starts. -/
def IsPlain : Token → Prop
  | .literal text => text ≠ "" ∧ '<' ∉ text.toList
  | .tag _ _ => False

/-- A literal that is a tag with an empty key: nothing but groups in angle brackets. -/
def IsNameless : Token → Prop
  | .literal text => ∃ groups : List (List Char), (∀ inner ∈ groups, '<' ∉ inner ∧ ')' ∉ inner) ∧
      text.toList = '<' :: source (groups.map Part.group) ++ ['>']
  | .tag _ _ => False

/-- A literal that is a tag without its `>`. -/
def IsUnterminated : Token → Prop
  | .literal text => ∃ body, text.toList = '<' :: body ∧ '<' ∉ body ∧ Unclosed body
  | .tag _ _ => False

/-- A token that a template can have. -/
def IsReadable (token : Token) : Prop :=
  IsNamed token ∨ IsPlain token ∨ IsNameless token ∨ IsUnterminated token

/-- Which token may stand directly behind which: plain text would go on with plain text, and so
    would an unterminated tag. -/
def MayPrecede (first second : Token) : Prop :=
  IsPlain first ∨ IsUnterminated first → ¬ IsPlain second

/-- A list of tokens that a template can have. -/
structure IsCanonical (tokens : List Token) : Prop where
  isReadable : ∀ token ∈ tokens, IsReadable token
  isChain : tokens.IsChain MayPrecede

/-- Tokens as they stand in a template, one after the other. -/
def written (tokens : List Token) : String :=
  String.join (tokens.map Token.written)

/-! ## Tokens of templates are canonical -/

theorem mem_key_iff {c : Char} {parts : List Part} : c ∈ key parts ↔ Part.letter c ∈ parts := by
  rw [key, List.mem_filterMap]
  constructor
  · rintro ⟨part, hpart, hc⟩
    cases part with
    | letter d =>
      obtain rfl : d = c := by simpa [Part.letter?] using hc
      exact hpart
    | group inner => simp [Part.letter?] at hc
  · intro hc
    exact ⟨_, hc, rfl⟩

/-- A body with an empty key consists of groups. -/
theorem exists_groups_of_key_eq_nil {parts : List Part} (h : key parts = []) :
    ∃ groups : List (List Char), parts = groups.map Part.group := by
  induction parts with
  | nil => exact ⟨[], rfl⟩
  | cons part parts ih =>
    cases part with
    | letter c => simp at h
    | group inner =>
      obtain ⟨groups, rfl⟩ := ih (by simpa using h)
      exact ⟨inner :: groups, rfl⟩

/-- What a part holds stands in the source of its body. -/
theorem mem_source_of_mem {c : Char} {part : Part} {parts : List Part} (hpart : part ∈ parts)
    (hc : c ∈ part.source) : c ∈ source parts :=
  List.mem_flatMap.mpr ⟨part, hpart, hc⟩

theorem isArgument_of_mem_arguments {parts : List Part} (hparts : ∀ part ∈ parts, part.IsWhole)
    (hlt : '<' ∉ source parts) {arg : String} (harg : arg ∈ arguments parts) :
    IsArgument arg.toList := by
  obtain ⟨part, hpart, harg⟩ := List.mem_flatMap.mp harg
  cases part with
  | letter c => simp [Part.arguments] at harg
  | group inner =>
    obtain ⟨piece, hpiece, rfl⟩ := List.mem_map.mp harg
    rw [String.toList_ofList]
    -- An argument holds only characters of its group
    have hinner : ∀ c ∈ Text.trim piece, c ∈ inner := by
      intro c hc
      exact Text.mem_of_mem_splitOn hpiece (Text.mem_of_mem_trim hc)
    have hclose : ')' ∉ inner := hparts _ hpart
    refine ⟨?_, ?_, ?_, Text.isTrimmed_trim piece⟩
    · intro hmem
      apply hlt
      exact mem_source_of_mem hpart (by simp [Part.source, hinner _ hmem])
    · intro hmem
      exact Text.not_mem_of_mem_splitOn hpiece (Text.mem_of_mem_trim hmem)
    · intro hmem
      exact hclose (hinner _ hmem)

/-- The token of a closed tag is a named tag or a nameless literal. -/
theorem isNamed_or_isNameless_tagToken {parts : List Part}
    (hparts : ∀ part ∈ parts, part.IsWhole) (hlt : '<' ∉ source parts) :
    IsNamed (tagToken parts) ∨ IsNameless (tagToken parts) := by
  by_cases hkey : key parts = []
  · -- Without a key the body has groups only, and the token is its source
    right
    obtain ⟨groups, rfl⟩ := exists_groups_of_key_eq_nil hkey
    rw [tagToken, if_pos hkey]
    refine ⟨groups, ?_, by simp⟩
    intro inner hinner
    have hpart : Part.group inner ∈ groups.map Part.group := List.mem_map_of_mem hinner
    refine ⟨?_, hparts _ hpart⟩
    intro hmem
    exact hlt (mem_source_of_mem hpart (by simp [Part.source, hmem]))
  · -- With a key the token is a tag; what its body cannot hold, it cannot hold either
    left
    rw [tagToken, if_neg hkey]
    refine ⟨by simpa using hkey, ?_, fun arg harg => isArgument_of_mem_arguments hparts hlt harg⟩
    intro c hc
    rw [String.toList_ofList, mem_key_iff] at hc
    refine ⟨?_, hparts _ hc⟩
    rintro rfl
    exact hlt (mem_source_of_mem hc (by simp [Part.source]))

theorem not_isPlain_of_isNameless {token : Token} (h : IsNameless token) : ¬ IsPlain token := by
  cases token with
  | literal text =>
    obtain ⟨groups, -, htext⟩ := h
    intro hplain
    exact hplain.2 (by simp [htext])
  | tag name args => exact h.elim

theorem isWhole_map_group {groups : List (List Char)} (h : ∀ inner ∈ groups, ')' ∉ inner) :
    ∀ part ∈ groups.map Part.group, part.IsWhole := by
  intro part hpart
  obtain ⟨inner, hinner, rfl⟩ := List.mem_map.mp hpart
  exact h inner hinner

/-- The `>` of a nameless tag stands outside its groups. -/
theorem not_isUnterminated_of_isNameless {token : Token} (h : IsNameless token) :
    ¬ IsUnterminated token := by
  cases token with
  | literal text =>
    obtain ⟨groups, hgroups, htext⟩ := h
    rintro ⟨body, hbody, -, hunclosed⟩
    obtain rfl : body = source (groups.map Part.group) ++ ['>'] := by
      simpa [htext, eq_comm] using hbody
    -- One reading cannot both close and stay open
    have hparts := isWhole_map_group fun inner hinner => (hgroups inner hinner).2
    have hcloses := closing_eq_some_iff.mpr (⟨rfl, hparts⟩ : Closes _ _ [])
    rw [closing_eq_none_iff.mpr hunclosed] at hcloses
    simp at hcloses
  | tag name args => exact h.elim

/-- Behind a closed tag any token may stand. -/
theorem mayPrecede_tagToken {parts : List Part} (hparts : ∀ part ∈ parts, part.IsWhole)
    (hlt : '<' ∉ source parts) (second : Token) : MayPrecede (tagToken parts) second := by
  intro hfirst
  -- A closed tag is neither plain text nor unterminated
  rcases isNamed_or_isNameless_tagToken hparts hlt with hnamed | hnameless
  · cases htoken : tagToken parts with
    | literal text => simp [htoken, IsNamed] at hnamed
    | tag name args => simp [htoken, IsPlain, IsUnterminated] at hfirst
  · rcases hfirst with hplain | hunterminated
    · exact absurd hplain (not_isPlain_of_isNameless hnameless)
    · exact absurd hunterminated (not_isUnterminated_of_isNameless hnameless)

theorem IsCanonical.append {tokens tokens' : List Token} (h : IsCanonical tokens)
    (h' : IsCanonical tokens') (hhead : ∀ token ∈ tokens'.head?, ¬ IsPlain token) :
    IsCanonical (tokens ++ tokens') := by
  refine ⟨List.forall_mem_append.mpr ⟨h.isReadable, h'.isReadable⟩, ?_⟩
  apply h.isChain.append h'.isChain
  -- Where the lists meet, it is enough that no plain text follows
  intro first _ second hsecond _
  exact hhead second hsecond

theorem isCanonical_nil : IsCanonical [] :=
  ⟨by simp, .nil⟩

theorem isCanonical_stretch {text : List Char} (htext : '<' ∉ text) :
    IsCanonical (stretch text) := by
  by_cases hempty : text = []
  · rw [stretch, if_pos hempty]
    exact isCanonical_nil
  · rw [stretch, if_neg hempty]
    refine ⟨?_, .singleton _⟩
    intro token htoken
    rw [List.mem_singleton.mp htoken]
    exact .inr (.inl ⟨by simpa using hempty, by simpa using htext⟩)

theorem isCanonical_chunk {text : List Char} (htext : '<' ∉ text) :
    IsCanonical (chunk text) := by
  cases hclosing : closing text with
  | none =>
    simp only [chunk, hclosing]
    refine ⟨?_, .singleton _⟩
    intro token htoken
    rw [List.mem_singleton.mp htoken]
    exact .inr (.inr (.inr ⟨text, by simp, htext, closing_eq_none_iff.mp hclosing⟩))
  | some found =>
    obtain ⟨parts, rest⟩ := found
    obtain ⟨rfl, hparts⟩ := closing_eq_some_iff.mp hclosing
    simp only [List.mem_append, List.mem_cons, not_or] at htext
    have hrest := isCanonical_stretch htext.2.2
    simp only [chunk, hclosing]
    -- The tag is one token more in front of the stretch behind it
    constructor
    · intro token htoken
      rcases List.mem_cons.mp htoken with rfl | htoken
      · rcases isNamed_or_isNameless_tagToken hparts htext.1 with hnamed | hnameless
        · exact .inl hnamed
        · exact .inr (.inr (.inl hnameless))
      · exact hrest.isReadable token htoken
    · rw [List.isChain_cons]
      exact ⟨fun second _ => mayPrecede_tagToken hparts htext.1 second, hrest.isChain⟩

/-- A chunk never begins with plain text. -/
theorem not_isPlain_head_chunks {chunks : List (List Char)} (h : ∀ text ∈ chunks, '<' ∉ text) :
    ∀ token ∈ (chunks.flatMap chunk).head?, ¬ IsPlain token := by
  cases chunks with
  | nil => simp
  | cons text chunks =>
    have htext := h text List.mem_cons_self
    intro token htoken
    cases hclosing : closing text with
    | none =>
      obtain rfl : Token.literal (String.ofList ('<' :: text)) = token := by
        simpa [chunk, hclosing] using htoken
      simp [IsPlain]
    | some found =>
      obtain ⟨parts, rest⟩ := found
      obtain ⟨rfl, hparts⟩ := closing_eq_some_iff.mp hclosing
      obtain rfl : tagToken parts = token := by simpa [chunk, hclosing] using htoken
      rw [List.mem_append, not_or] at htext
      intro hplain
      exact mayPrecede_tagToken hparts htext.1 (tagToken parts) (.inl hplain) hplain

theorem isCanonical_chunks {chunks : List (List Char)} (h : ∀ text ∈ chunks, '<' ∉ text) :
    IsCanonical (chunks.flatMap chunk) := by
  induction chunks with
  | nil => exact isCanonical_nil
  | cons text chunks ih =>
    obtain ⟨htext, hchunks⟩ := List.forall_mem_cons.mp h
    rw [List.flatMap_cons]
    exact (isCanonical_chunk htext).append (ih hchunks) (not_isPlain_head_chunks hchunks)

/-- The tokens of a template are canonical. -/
theorem isCanonical_tokenize (template : String) : IsCanonical (tokenize template) := by
  obtain ⟨lead, chunks, hcut, hlead, hchunks⟩ := exists_lead_chunks template.toList
  rw [tokenize_eq, tokens, hcut]
  exact (isCanonical_stretch hlead).append (isCanonical_chunks hchunks)
    (not_isPlain_head_chunks hchunks)

/-! ## Canonical tokens are read back -/

/-- The parts that write arguments: one group, or none where there are no arguments. -/
def groupOf (args : List String) : List Part :=
  if args = [] then [] else [.group ([','].intercalate (args.map String.toList))]

theorem toList_written_tag (name : String) (args : List String) :
    (Token.tag name args).written.toList =
      '<' :: source (name.toList.map Part.letter ++ groupOf args) ++ ['>'] := by
  cases args with
  | nil => simp [Token.written, groupOf]
  | cons arg args => simp [Token.written, groupOf, Part.source, String.toList_intercalate]

theorem key_groupOf (args : List String) : key (groupOf args) = [] := by
  by_cases hargs : args = []
  · rw [groupOf, if_pos hargs]
    rfl
  · rw [groupOf, if_neg hargs]
    rfl

/-- Writing arguments into a group and cutting the group gives them back. -/
theorem arguments_groupOf {args : List String} (h : ∀ arg ∈ args, IsArgument arg.toList) :
    arguments (groupOf args) = args := by
  by_cases hargs : args = []
  · rw [groupOf, if_pos hargs, hargs]
    rfl
  · -- Cutting undoes putting together, since no argument holds a comma
    have hcut : ([','].intercalate (args.map String.toList)).splitOn ',' =
        args.map String.toList := by
      apply List.splitOn_intercalate
      · intro piece hpiece
        obtain ⟨arg, harg, rfl⟩ := List.mem_map.mp hpiece
        exact (h arg harg).comma_not_mem
      · simpa using hargs
    -- Trimming changes nothing, since no argument has blanks at its ends
    have htrim : ∀ arg ∈ args, String.ofList (Text.trim arg.toList) = arg := by
      intro arg harg
      rw [Text.trim_eq_self (h arg harg).isTrimmed, String.ofList_toList]
    rw [groupOf, if_neg hargs, arguments_cons, Part.arguments, hcut, List.map_map]
    have hmap : args.map (fun arg => String.ofList (Text.trim arg.toList)) = args :=
      (List.map_congr_left htrim).trans (List.map_id args)
    simpa [arguments, Function.comp_def] using hmap

theorem not_mem_groupOf {c : Char} {args : List String} (hcomma : c ≠ ',')
    (h : ∀ arg ∈ args, c ∉ arg.toList) : c ∉ [','].intercalate (args.map String.toList) := by
  intro hc
  rcases Text.mem_of_mem_intercalate hc with heq | ⟨piece, hpiece, hc⟩
  · exact hcomma heq
  · obtain ⟨arg, harg, rfl⟩ := List.mem_map.mp hpiece
    exact h arg harg hc

theorem isWhole_groupOf {args : List String} (h : ∀ arg ∈ args, IsArgument arg.toList) :
    ∀ part ∈ groupOf args, part.IsWhole := by
  by_cases hargs : args = []
  · simp [groupOf, hargs]
  · rw [groupOf, if_neg hargs, List.forall_mem_singleton]
    exact not_mem_groupOf (by decide) fun arg harg => (h arg harg).close_not_mem

theorem lt_not_mem_source_groupOf {args : List String} (h : ∀ arg ∈ args, IsArgument arg.toList) :
    '<' ∉ source (groupOf args) := by
  by_cases hargs : args = []
  · simp [groupOf, hargs]
  · have hlt := not_mem_groupOf (by decide) fun arg harg => (h arg harg).lt_not_mem
    simpa [groupOf, hargs, Part.source] using hlt

/-- In the written form of a named tag no part ends early. -/
theorem isWhole_written_named {name : String} {args : List String}
    (h : IsNamed (.tag name args)) :
    ∀ part ∈ name.toList.map Part.letter ++ groupOf args, part.IsWhole := by
  obtain ⟨-, hkey, hargs⟩ := h
  intro part hpart
  rcases List.mem_append.mp hpart with hletter | hgroup
  · obtain ⟨c, hc, rfl⟩ := List.mem_map.mp hletter
    exact (hkey c hc).2
  · exact isWhole_groupOf hargs part hgroup

/-- A named tag is read back from its written form. -/
theorem scan_written_named {name : String} {args : List String} (h : IsNamed (.tag name args))
    (more : List Char) :
    (Pending.text []).scan ((Token.tag name args).written.toList ++ more) =
      .tag name args :: (Pending.text []).scan more := by
  -- The written form is a closed tag, and its body reads as the key and the arguments
  have hparts := isWhole_written_named h
  obtain ⟨hname, hkey, hargs⟩ := h
  have hlt : '<' ∉ source (name.toList.map Part.letter ++ groupOf args) ++ ['>'] := by
    have hname : '<' ∉ name.toList := fun hc => (hkey _ hc).1 rfl
    simp [hname, lt_not_mem_source_groupOf hargs]
  have htoken : tagToken (name.toList.map Part.letter ++ groupOf args) = .tag name args := by
    simp [tagToken, key_groupOf, arguments_groupOf hargs, hname]
  have hread := scan_closes ⟨rfl, hparts⟩ hlt more
  rw [htoken] at hread
  simpa [toList_written_tag] using hread

/-- A nameless tag is read back as the literal that it is. -/
theorem scan_written_nameless {text : String} (h : IsNameless (.literal text))
    (more : List Char) :
    (Pending.text []).scan (text.toList ++ more) =
      .literal text :: (Pending.text []).scan more := by
  obtain ⟨groups, hgroups, htext⟩ := h
  have hparts := isWhole_map_group fun inner hinner => (hgroups inner hinner).2
  have hlt : '<' ∉ source (groups.map Part.group) ++ ['>'] := by
    intro hmem
    rw [List.mem_append] at hmem
    rcases hmem with hmem | hmem
    · obtain ⟨part, hpart, hmem⟩ := List.mem_flatMap.mp hmem
      obtain ⟨inner, hinner, rfl⟩ := List.mem_map.mp hpart
      simp [Part.source, (hgroups inner hinner).1] at hmem
    · simp at hmem
  have htoken : tagToken (groups.map Part.group) = .literal text := by
    rw [tagToken, if_pos (key_groups groups), ← htext, String.ofList_toList]
  have hread := scan_closes ⟨rfl, hparts⟩ hlt more
  rw [htoken] at hread
  simpa [htext] using hread

/-- A canonical token is read back. Where it could go on, a break has to follow. -/
theorem scan_written {token : Token} (h : IsReadable token) {more : List Char}
    (hmore : IsPlain token ∨ IsUnterminated token → AtBreak more) :
    (Pending.text []).scan (token.written.toList ++ more) =
      token :: (Pending.text []).scan more := by
  cases token with
  | tag name args =>
    have hnamed : IsNamed (.tag name args) := by
      simpa [IsReadable, IsPlain, IsNameless, IsUnterminated] using h
    exact scan_written_named hnamed more
  | literal text =>
    show (Pending.text []).scan (text.toList ++ more) = _
    -- One case for each kind of literal
    rcases h with hnamed | hplain | hnameless | hunterminated
    · exact hnamed.elim
    · have hne : text.toList ≠ [] := by simpa using hplain.1
      rw [scan_stretch hplain.2 (hmore (.inl hplain)), stretch, if_neg hne, String.ofList_toList,
        List.singleton_append]
    · exact scan_written_nameless hnameless more
    · have hbreak := hmore (.inr hunterminated)
      obtain ⟨body, htext, hlt, hunclosed⟩ := hunterminated
      rw [htext, List.cons_append, scan_unclosed hunclosed hlt hbreak, ← htext,
        String.ofList_toList]

/-- Every canonical token but plain text begins with a `<`. -/
theorem atBreak_written {token : Token} (h : IsReadable token)
    (hplain : ¬ IsPlain token) (more : List Char) : AtBreak (token.written.toList ++ more) := by
  cases token with
  | tag name args =>
    rw [toList_written_tag]
    simp [AtBreak]
  | literal text =>
    rcases h with hnamed | hplain' | ⟨groups, -, htext⟩ | ⟨body, htext, -⟩
    · exact hnamed.elim
    · exact absurd hplain' hplain
    · simp [Token.written, htext, AtBreak]
    · simp [Token.written, htext, AtBreak]

theorem toList_written (tokens : List Token) :
    (written tokens).toList = tokens.flatMap fun token => token.written.toList := by
  rw [written, String.toList_join, List.flatMap_map]

/-- A canonical list is read back from its written form. -/
theorem tokenize_written {tokens : List Token} (h : IsCanonical tokens) :
    tokenize (written tokens) = tokens := by
  rw [tokenize, toList_written]
  induction tokens with
  | nil => rfl
  | cons token tokens ih =>
    have htail : IsCanonical tokens :=
      ⟨fun t ht => h.isReadable t (List.mem_cons_of_mem _ ht), h.isChain.tail⟩
    -- What may run on has something other than plain text behind it
    have hbreak : IsPlain token ∨ IsUnterminated token →
        AtBreak (tokens.flatMap fun token => token.written.toList) := by
      intro hrunsOn
      cases tokens with
      | nil => simp [AtBreak]
      | cons second tokens =>
        have hsecond := h.isReadable second (by simp)
        exact atBreak_written hsecond (h.isChain.rel hrunsOn) _
    rw [List.flatMap_cons, scan_written (h.isReadable token List.mem_cons_self) hbreak, ih htail]

/-! ## The image of the scanner -/

/-- **The canonical lists are the lists of tokens that templates have**, and the ones that are
    read back from their written form; in particular, so are the tokens of every template. -/
theorem tokenize_eq_iff_isCanonical (tokens : List Token) :
    ((∃ template, tokenize template = tokens) ↔ IsCanonical tokens) ∧
      (IsCanonical tokens → tokenize (written tokens) = tokens) ∧
      ∀ template, tokenize (written (tokenize template)) = tokenize template := by
  refine ⟨⟨?_, fun h => ⟨written tokens, tokenize_written h⟩⟩, tokenize_written, ?_⟩
  · rintro ⟨template, rfl⟩
    exact isCanonical_tokenize template
  · intro template
    exact tokenize_written (isCanonical_tokenize template)

/-- Plain text with a stray `>`, an empty argument, a nameless tag, an unterminated group and a
    key with a comma, side by side. -/
theorem tokenize_written_mixed :
    IsCanonical [.literal "a > ", .tag "Date" ["dd MMM", ""], .literal "<(x>)>", .literal "b)",
        .literal "<U(>", .tag "k,1" []] ∧
      tokenize (written [.literal "a > ", .tag "Date" ["dd MMM", ""], .literal "<(x>)>",
        .literal "b)", .literal "<U(>", .tag "k,1" []]) =
        [.literal "a > ", .tag "Date" ["dd MMM", ""], .literal "<(x>)>", .literal "b)",
          .literal "<U(>", .tag "k,1" []] := by
  have hread : tokenize "a > <Date( dd MMM ,)><(x>)>b)<U(><k,1>" =
      [.literal "a > ", .tag "Date" ["dd MMM", ""], .literal "<(x>)>", .literal "b)",
        .literal "<U(>", .tag "k,1" []] := by
    decide +kernel
  have hcanonical := (tokenize_eq_iff_isCanonical _).1.mp ⟨_, hread⟩
  exact ⟨hcanonical, (tokenize_eq_iff_isCanonical _).2.1 hcanonical⟩

end FlightCaption.Grammar
