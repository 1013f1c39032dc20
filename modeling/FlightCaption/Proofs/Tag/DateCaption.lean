import FlightCaption.Proofs.Tag.TimeCaption
import FlightCaption.Proofs.Template.Concatenation

/-!
# Captions of dates

A date tag can have the pattern of its date in its group. The pattern gets there in pieces: reading
the template cuts it at its commas and trims what is between them, and the tag puts the pieces
together again, with a comma and a blank. Where nothing is left of any piece, the tag uses the
pattern of the overlay instead.

So the tag writes the date by an effective pattern, which is the one in its group if that has
exactly one blank behind each comma, no other blanks around its pieces, and not only empty pieces.

Main statement: `render_date_effectivePattern`.
-/

namespace FlightCaption

open Grammar (Part source IsBody tokenize_tag tagToken_group)

/-! ## Patterns in pieces -/

/-- The pieces of a pattern: what stands between its commas, without the blanks around it. -/
def patternPieces (pattern : String) : List String :=
  (pattern.toList.splitOn ',').map fun piece => String.ofList (Text.trim piece)

/-- The pattern by which a date tag writes the date, for a pattern in its group: that of the overlay
    if all pieces are empty, and otherwise the pieces with a comma and a blank between them. -/
def Overlay.effectivePattern (overlay : Overlay) (pattern : String) : String :=
  if ∀ piece ∈ patternPieces pattern, piece = "" then overlay.datePattern
  else ", ".intercalate (patternPieces pattern)

/-- The tag looks for a piece that is not empty. -/
theorem Builtin.datePattern_patternPieces (overlay : Overlay) (pattern : String) :
    datePattern overlay (patternPieces pattern) = overlay.effectivePattern pattern := by
  rw [datePattern, Overlay.effectivePattern]
  by_cases hempty : ∀ piece ∈ patternPieces pattern, piece = ""
  · rw [if_pos hempty, if_neg (by simpa using hempty)]
  · rw [if_neg hempty, if_pos (by simpa using hempty)]

/-! ## The tag -/

/-- A date tag with a pattern in its group is read as a tag with the pieces of the pattern. The
    pattern can hold what starts a group or closes a tag elsewhere. -/
theorem tokenize_date {pattern : String} (hlt : '<' ∉ pattern.toList)
    (hend : ')' ∉ pattern.toList) :
    tokenize ("<Date(" ++ pattern ++ ")>") = [.tag "Date" (patternPieces pattern)] := by
  have hbody : IsBody ("Date".toList.map Part.letter ++ [.group pattern.toList]) := by
    refine ⟨?_, ?_⟩
    · simpa [Part.source] using hlt
    · simpa [Part.IsWhole] using hend
  have hsource : "<Date(" ++ pattern ++ ")>" = String.ofList
      ('<' :: source ("Date".toList.map Part.letter ++ [.group pattern.toList]) ++ ['>']) := by
    apply String.toList_inj.mp
    simp [Part.source]
  rw [hsource, tokenize_tag hbody, tagToken_group (by decide)]
  rfl

/-- The caption of a date tag is the date by the effective pattern, or a marker. -/
theorem render_date {pattern : String} (hlt : '<' ∉ pattern.toList) (hend : ')' ∉ pattern.toList)
    (context : Context) :
    render ("<Date(" ++ pattern ++ ")>") context =
      captionOfResult "Date" ((context.calendar.formatTime context.snapshot.time
        (context.overlay.effectivePattern pattern)).mapError TagFault.ofCalendar) := by
  have htag : Builtin.date ≠ .custom := by decide
  have htext : Builtin.date.textIn context (patternPieces pattern) =
      (context.calendar.formatTime context.snapshot.time
        (context.overlay.effectivePattern pattern)).mapError TagFault.ofCalendar := by
    rw [← Builtin.datePattern_patternPieces]
    rfl
  rw [← htext]
  exact render_singleTag htag (tokenize_date hlt hend) context

/-- **A date pattern survives the trip through the arguments of a tag** up to the blanks around its
    pieces. The caption of a date tag is the date by the effective pattern, with nothing in the log,
    if it can be written, and otherwise the marker of the tag with a single event. The effective
    pattern is the one that is given, if this is its own pieces with a comma and a blank between
    them and some piece is not empty. -/
theorem render_date_effectivePattern {pattern : String} (hlt : '<' ∉ pattern.toList)
    (hend : ')' ∉ pattern.toList) (context : Context) :
    (∀ text, context.calendar.formatTime context.snapshot.time
        (context.overlay.effectivePattern pattern) = .ok text →
      render ("<Date(" ++ pattern ++ ")>") context = { text, log := [] }) ∧
    (∀ fault, context.calendar.formatTime context.snapshot.time
        (context.overlay.effectivePattern pattern) = .error fault →
      render ("<Date(" ++ pattern ++ ")>") context =
        { text := "Error expanding <Date>", log := [.failed "Date" (.ofCalendar fault)] }) ∧
    ((∃ piece ∈ patternPieces pattern, piece ≠ "") →
      ", ".intercalate (patternPieces pattern) = pattern →
        context.overlay.effectivePattern pattern = pattern) := by
  rw [render_date hlt hend]
  refine ⟨?_, ?_, ?_⟩
  · intro text htext
    rw [htext]
    rfl
  · intro fault hfault
    rw [hfault]
    rfl
  · intro hpiece hjoined
    rw [Overlay.effectivePattern, if_neg (by simpa using hpiece), hjoined]

/-- A pattern with a `>` in it, and with too many blanks around its second piece. -/
theorem render_date_effectivePattern_greater :
    '<' ∉ "d > MMMM,  yyy ".toList ∧ ')' ∉ "d > MMMM,  yyy ".toList ∧
      (default : Calendar).formatTime 1641600
        ((Context.atTime 1641600).overlay.effectivePattern "d > MMMM,  yyy ") =
          .ok "6 > Floris, 001" ∧
      render "<Date(d > MMMM,  yyy )>" (.atTime 1641600) = { text := "6 > Floris, 001" } ∧
      (∃ piece ∈ patternPieces "d > MMMM, yyy", piece ≠ "") ∧
      ", ".intercalate (patternPieces "d > MMMM, yyy") = "d > MMMM, yyy" ∧
      (Context.atTime 1641600).overlay.effectivePattern "d > MMMM, yyy" = "d > MMMM, yyy" := by
  have hlt : '<' ∉ "d > MMMM,  yyy ".toList := by decide
  have hend : ')' ∉ "d > MMMM,  yyy ".toList := by decide
  have hformat : (default : Calendar).formatTime 1641600
      ((Context.atTime 1641600).overlay.effectivePattern "d > MMMM,  yyy ") =
        .ok "6 > Floris, 001" := by
    decide +kernel
  have hpiece : ∃ piece ∈ patternPieces "d > MMMM, yyy", piece ≠ "" := by decide +kernel
  have hjoined : ", ".intercalate (patternPieces "d > MMMM, yyy") = "d > MMMM, yyy" := by
    decide +kernel
  refine ⟨hlt, hend, hformat, ?_, hpiece, hjoined, ?_⟩
  · exact (render_date_effectivePattern hlt hend (.atTime 1641600)).1 _ hformat
  · exact (render_date_effectivePattern (by decide) (by decide) (.atTime 1641600)).2.2 hpiece
      hjoined

/-- **A pattern of commas and blanks alone does not survive**, even where it is its own pieces with
    a comma and a blank between them. The pattern can be written, but the tag uses that of the
    overlay, since all the pieces are empty. -/
theorem render_date_commaBlank :
    '<' ∉ ", ".toList ∧ ')' ∉ ", ".toList ∧ (∃ c ∈ ", ".toList, Text.isBlank c = false) ∧
      ", ".intercalate (patternPieces ", ") = ", " ∧
      (default : Calendar).formatTime 0 ", " = .ok ", " ∧
      render "<Date(, )>" (.atTime 0) = { text := "001-01-01" } ∧
      (render "<Date(, )>" (.atTime 0)).text ≠ ", " := by
  have hlt : '<' ∉ ", ".toList := by decide
  have hend : ')' ∉ ", ".toList := by decide
  have hformat : (Context.atTime 0).calendar.formatTime (Context.atTime 0).snapshot.time
      ((Context.atTime 0).overlay.effectivePattern ", ") = .ok "001-01-01" := by
    decide +kernel
  have hrender : render "<Date(, )>" (.atTime 0) = { text := "001-01-01" } := by
    have hcaption := render_date hlt hend (.atTime 0)
    rw [hformat] at hcaption
    exact hcaption
  have hcomma : ∃ c ∈ ", ".toList, Text.isBlank c = false := ⟨',', List.mem_cons_self, rfl⟩
  refine ⟨hlt, hend, hcomma, by decide +kernel, by decide +kernel, hrender, ?_⟩
  rw [hrender]
  decide

end FlightCaption
