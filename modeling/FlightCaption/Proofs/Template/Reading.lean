import Mathlib.Data.List.Forall2
import FlightCaption.Proofs.Template.Grammar

/-!
# The scanner follows the grammar

The scanner's state is compared with the grammar span by span: for each kind of span, one lemma
says which state the scanner is in after it. From these follow the tokens of a closed tag, of an
unclosed one and of a stretch of text, and with them those of a whole chunk.

Main statement: the tokens of a template are those of its grammar, and each of them has a source
of its own in the template (`tokenize_eq_tokens`).
-/

namespace FlightCaption.Grammar

/-! ## Spans -/

/-- A place where a chunk ends: a `<`, or the end of the template. -/
def AtBreak (rest : List Char) : Prop :=
  ∀ c ∈ rest.head?, c = '<'

/-- At a break, whatever is pending becomes a literal. -/
theorem scan_of_atBreak (p : Pending) {rest : List Char} (h : AtBreak rest) :
    p.scan rest = p.flush.toList ++ (Pending.text []).scan rest := by
  cases rest with
  | nil => simp [Pending.scan, Pending.flush, Pending.source]
  | cons c rest =>
    have hc : c = '<' := h c rfl
    subst hc
    simp [Pending.scan, Pending.step, Pending.flush, Pending.source]

/-- Plain text is kept. -/
theorem scan_text {text : List Char} (htext : '<' ∉ text) (source rest : List Char) :
    (Pending.text source).scan (text ++ rest) =
      (Pending.text (text.reverse ++ source)).scan rest := by
  induction text generalizing source with
  | nil => rfl
  | cons c text ih =>
    simp only [List.mem_cons, not_or] at htext
    simp [Pending.scan, Pending.step, Ne.symm htext.1, ih htext.2]

/-- In a whole group the text between the parentheses is cut at its commas. The characters `arg`
    of the first piece have been read before. -/
theorem scan_group {inner arg : List Char} (hlt : '<' ∉ inner) (hend : ')' ∉ inner)
    (harg : ',' ∉ arg) (source key : List Char) (args : List String) (rest : List Char) :
    (Pending.group source key args arg).scan (inner ++ ')' :: rest) =
      (Pending.name (')' :: inner.reverse ++ source) key
        ((Part.group (arg.reverse ++ inner)).arguments.reverse ++ args)).scan rest := by
  induction inner generalizing source args arg with
  | nil =>
    have hpieces : arg.reverse.splitOn ',' = [arg.reverse] :=
      List.splitOn_eq_singleton (by simpa using harg)
    simp [Pending.scan, Pending.step, Pending.argument, Part.arguments, hpieces]
  | cons c inner ih =>
    simp only [List.mem_cons, not_or] at hlt hend
    by_cases hcomma : c = ','
    · -- The first piece is finished, and the next one starts empty
      subst hcomma
      have hpieces : (arg.reverse ++ ',' :: inner).splitOn ',' =
          arg.reverse :: inner.splitOn ',' :=
        List.splitOn_append_cons_self_of_not_mem (by simpa using harg) inner
      simp [Pending.scan, Pending.step, Pending.argument, Part.arguments, hpieces,
        ih hlt.2 hend.2 (List.not_mem_nil)]
    · -- The first piece grows by one character
      have harg' : ',' ∉ c :: arg := by simp [Ne.symm hcomma, harg]
      have hread := ih hlt.2 hend.2 harg'
      simpa [Pending.scan, Pending.step, Ne.symm hlt.1, Ne.symm hend.1, hcomma] using
        hread (c :: source) args

/-- In a group that lacks its `)`, whatever becomes of the arguments, the source is kept. -/
theorem scan_open_group {inner : List Char} (hlt : '<' ∉ inner) (hend : ')' ∉ inner)
    (source key : List Char) (args : List String) (arg rest : List Char) :
    ∃ args' arg', (Pending.group source key args arg).scan (inner ++ rest) =
      (Pending.group (inner.reverse ++ source) key args' arg').scan rest := by
  induction inner generalizing source args arg with
  | nil => exact ⟨args, arg, rfl⟩
  | cons c inner ih =>
    simp only [List.mem_cons, not_or] at hlt hend
    by_cases hcomma : c = ','
    · obtain ⟨args', arg', hread⟩ :=
        ih hlt.2 hend.2 (c :: source) (Pending.argument arg :: args) []
      exact ⟨args', arg', by simpa [Pending.scan, Pending.step, hcomma] using hread⟩
    · obtain ⟨args', arg', hread⟩ := ih hlt.2 hend.2 (c :: source) args (c :: arg)
      refine ⟨args', arg', ?_⟩
      simpa [Pending.scan, Pending.step, Ne.symm hlt.1, Ne.symm hend.1, hcomma] using hread

/-- The parts of a body add to the source, to the key and to the arguments. -/
theorem scan_source {parts : List Part} (hparts : ∀ part ∈ parts, part.IsWhole)
    (hlt : '<' ∉ source parts) (src k : List Char) (args : List String) (rest : List Char) :
    (Pending.name src k args).scan (source parts ++ rest) =
      (Pending.name ((source parts).reverse ++ src) ((key parts).reverse ++ k)
        ((arguments parts).reverse ++ args)).scan rest := by
  -- Part by part: a letter is one step, a group is entered and read as a whole
  induction parts generalizing src k args with
  | nil => rfl
  | cons part parts ih =>
    have hpart := hparts part List.mem_cons_self
    have hrest := fun p hp => hparts p (List.mem_cons_of_mem _ hp)
    rw [source_cons, List.mem_append, not_or] at hlt
    cases part with
    | letter c =>
      have hc : c ≠ '<' := by simpa [Part.source, eq_comm] using hlt.1
      simp [Part.source, Part.arguments, Pending.scan, Pending.step, hc, hpart.1, hpart.2,
        ih hrest hlt.2]
    | group inner =>
      have hinner : '<' ∉ inner := by simpa [Part.source] using hlt.1
      have hread := scan_group hinner hpart List.not_mem_nil ('(' :: src) k args
        (source parts ++ rest)
      simp [Part.source, Pending.scan, Pending.step, hread, ih hrest hlt.2]

/-! ## Tags and chunks -/

/-- A `<` behind a finished token starts a tag. -/
theorem scan_open (rest : List Char) :
    (Pending.text []).scan ('<' :: rest) = (Pending.name ['<'] [] []).scan rest := by
  simp [Pending.scan, Pending.step, Pending.flush, Pending.source]

/-- What has been read since the last token, if anything has, becomes a literal. -/
theorem flush_eq_literal {p : Pending} (h : p.source ≠ []) :
    p.flush.toList = [.literal (String.ofList p.source)] := by
  simp [Pending.flush, h]

/-- A closed tag becomes its token, and scanning starts again behind it. -/
theorem scan_closes {text rest : List Char} {parts : List Part} (h : Closes text parts rest)
    (hlt : '<' ∉ text) (more : List Char) :
    (Pending.text []).scan ('<' :: (text ++ more)) =
      tagToken parts :: (Pending.text []).scan (rest ++ more) := by
  obtain ⟨rfl, hparts⟩ := h
  rw [List.mem_append, not_or] at hlt
  -- The `>` finishes the token of the body, the lists being kept backwards
  have hclose : Pending.close ((source parts).reverse ++ ['<']) (key parts).reverse
      (arguments parts).reverse = tagToken parts := by
    by_cases hkey : key parts = [] <;> simp [Pending.close, tagToken, hkey]
  rw [scan_open, List.append_assoc, scan_source hparts hlt.1]
  simp [Pending.scan, Pending.step, hclose]

/-- An unclosed tag becomes literal text at the next break. -/
theorem scan_unclosed {text : List Char} (h : Unclosed text) (hlt : '<' ∉ text)
    {more : List Char} (hmore : AtBreak more) :
    (Pending.text []).scan ('<' :: (text ++ more)) =
      .literal (String.ofList ('<' :: text)) :: (Pending.text []).scan more := by
  obtain ⟨parts, tail, rfl, hparts, htail⟩ := h
  rw [List.mem_append, not_or] at hlt
  rw [scan_open, List.append_assoc, scan_source hparts hlt.1]
  -- The break is met outside groups or in one that lacks its `)`; the source is the same
  rcases htail with rfl | ⟨inner, rfl, hinner⟩
  · rw [List.nil_append, scan_of_atBreak _ hmore, flush_eq_literal (by simp [Pending.source])]
    simp [Pending.source]
  · have hltInner : '<' ∉ inner := by simpa using hlt.2
    obtain ⟨args, arg, hopen⟩ := scan_open_group hltInner hinner
      ('(' :: ((source parts).reverse ++ ['<'])) ((key parts).reverse ++ [])
      ((arguments parts).reverse ++ []) [] more
    have hstep : ∀ src k args, (Pending.name src k args).scan ('(' :: inner ++ more) =
        (Pending.group ('(' :: src) k args []).scan (inner ++ more) := fun _ _ _ => rfl
    rw [hstep, hopen, scan_of_atBreak _ hmore, flush_eq_literal (by simp [Pending.source])]
    simp [Pending.source]

/-- A stretch of plain text becomes a literal at the next break, unless it is empty. -/
theorem scan_stretch {text : List Char} (htext : '<' ∉ text) {more : List Char}
    (hmore : AtBreak more) :
    (Pending.text []).scan (text ++ more) = stretch text ++ (Pending.text []).scan more := by
  rw [scan_text htext, scan_of_atBreak _ hmore]
  by_cases hempty : text = [] <;> simp [Pending.flush, Pending.source, stretch, hempty]

/-- A chunk becomes its tokens at the next break. -/
theorem scan_chunk {text : List Char} (htext : '<' ∉ text) {more : List Char}
    (hmore : AtBreak more) :
    (Pending.text []).scan ('<' :: (text ++ more)) =
      chunk text ++ (Pending.text []).scan more := by
  cases hclosing : closing text with
  | none =>
    rw [scan_unclosed (closing_eq_none_iff.mp hclosing) htext hmore]
    simp only [chunk, hclosing, List.singleton_append]
  | some found =>
    obtain ⟨parts, rest⟩ := found
    have hcloses := closing_eq_some_iff.mp hclosing
    -- The text behind the tag is plain, as all of the chunk is
    have hrest : '<' ∉ rest := by
      intro hmem
      rw [hcloses.1] at htext
      exact htext (by simp [hmem])
    rw [scan_closes hcloses htext, scan_stretch hrest hmore]
    simp only [chunk, hclosing, List.cons_append]

theorem atBreak_chunks (chunks : List (List Char)) : AtBreak (chunks.flatMap ('<' :: ·)) := by
  cases chunks with
  | nil => simp [AtBreak]
  | cons chunk chunks => simp [AtBreak]

theorem scan_chunks {chunks : List (List Char)} (h : ∀ text ∈ chunks, '<' ∉ text) :
    (Pending.text []).scan (chunks.flatMap ('<' :: ·)) = chunks.flatMap chunk := by
  induction chunks with
  | nil => rfl
  | cons text chunks ih =>
    obtain ⟨htext, hchunks⟩ := List.forall_mem_cons.mp h
    rw [List.flatMap_cons, List.cons_append, scan_chunk htext (atBreak_chunks chunks),
      ih hchunks, List.flatMap_cons]

/-! ## The source of each token -/

/-- A segment of a template stands for a token: a literal for itself, and a tag for a span in
    angle brackets, without a second `<`, whose body reads as its key and its arguments. -/
def IsSourceOf (segment : List Char) (token : Token) : Prop :=
  segment ≠ [] ∧
    match token with
    | .literal text => segment = text.toList
    | .tag name args => ∃ parts, '<' ∉ source parts ∧ (∀ part ∈ parts, part.IsWhole) ∧
        name.toList = key parts ∧ args = arguments parts ∧
        segment = '<' :: source parts ++ ['>']

/-- A text is covered by tokens: cut into segments, one for each token, in order. -/
def IsCoveredBy (text : List Char) (tokens : List Token) : Prop :=
  ∃ segments : List (List Char), segments.flatten = text ∧ List.Forall₂ IsSourceOf segments tokens

theorem IsCoveredBy.append {text text' : List Char} {tokens tokens' : List Token}
    (h : IsCoveredBy text tokens) (h' : IsCoveredBy text' tokens') :
    IsCoveredBy (text ++ text') (tokens ++ tokens') := by
  obtain ⟨segments, rfl, hsegments⟩ := h
  obtain ⟨segments', rfl, hsegments'⟩ := h'
  exact ⟨segments ++ segments', List.flatten_append, List.rel_append hsegments hsegments'⟩

theorem isCoveredBy_singleton {text : List Char} {token : Token} (h : IsSourceOf text token) :
    IsCoveredBy text [token] :=
  ⟨[text], List.flatten_singleton, .cons h .nil⟩

theorem isCoveredBy_stretch (text : List Char) : IsCoveredBy text (stretch text) := by
  by_cases hempty : text = []
  · exact ⟨[], by simp [hempty], by simp [stretch, hempty]⟩
  · rw [stretch, if_neg hempty]
    exact isCoveredBy_singleton ⟨hempty, by simp⟩

theorem isSourceOf_tagToken {parts : List Part} (hparts : ∀ part ∈ parts, part.IsWhole)
    (hlt : '<' ∉ source parts) : IsSourceOf ('<' :: source parts ++ ['>']) (tagToken parts) := by
  refine ⟨by simp, ?_⟩
  by_cases hkey : key parts = []
  · simp [tagToken, hkey]
  · rw [tagToken, if_neg hkey]
    exact ⟨parts, hlt, hparts, by simp, rfl, rfl⟩

theorem isCoveredBy_chunk {text : List Char} (htext : '<' ∉ text) :
    IsCoveredBy ('<' :: text) (chunk text) := by
  cases hclosing : closing text with
  | none =>
    simp only [chunk, hclosing]
    exact isCoveredBy_singleton ⟨by simp, by simp⟩
  | some found =>
    obtain ⟨parts, rest⟩ := found
    obtain ⟨rfl, hparts⟩ := closing_eq_some_iff.mp hclosing
    rw [List.mem_append, not_or] at htext
    have htag := isCoveredBy_singleton (isSourceOf_tagToken hparts htext.1)
    simpa [chunk, hclosing] using htag.append (isCoveredBy_stretch rest)

theorem isCoveredBy_chunks {chunks : List (List Char)} (h : ∀ text ∈ chunks, '<' ∉ text) :
    IsCoveredBy (chunks.flatMap ('<' :: ·)) (chunks.flatMap chunk) := by
  induction chunks with
  | nil => exact ⟨[], rfl, .nil⟩
  | cons text chunks ih =>
    obtain ⟨htext, hchunks⟩ := List.forall_mem_cons.mp h
    exact (isCoveredBy_chunk htext).append (ih hchunks)

/-! ## Whole templates -/

theorem tokenize_eq (template : String) : tokenize template = tokens template := by
  -- The lead ends at the first chunk, and every chunk at the next one
  obtain ⟨lead, chunks, hcut, hlead, hchunks⟩ := exists_lead_chunks template.toList
  rw [tokenize, eq_append_of_splitOn hcut, scan_stretch hlead (atBreak_chunks chunks),
    scan_chunks hchunks, tokens, hcut]

theorem isCoveredBy_tokens (template : String) :
    IsCoveredBy template.toList (tokens template) := by
  obtain ⟨lead, chunks, hcut, -, hchunks⟩ := exists_lead_chunks template.toList
  rw [tokens, hcut, eq_append_of_splitOn hcut]
  exact (isCoveredBy_stretch lead).append (isCoveredBy_chunks hchunks)

/-- **Scanning is reading by the grammar, and loses no text**: the scanner's tokens are those of
    the template's lead and chunks, and the template is the concatenation of one segment for each
    token, in order. -/
theorem tokenize_eq_tokens (template : String) :
    tokenize template = tokens template ∧
      IsCoveredBy template.toList (tokenize template) := by
  rw [tokenize_eq]
  exact ⟨rfl, isCoveredBy_tokens template⟩

end FlightCaption.Grammar
