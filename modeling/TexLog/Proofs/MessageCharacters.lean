import TexLog.Proofs.Readings

/-!
# The characters of messages

A message is put together from pieces of lines, so each of its characters stands in a line of the
log (`DirectScanner.mem_line_of_mem_message`), and a line ends before its line end. The report on a
text therefore has only characters of the text, and none that belongs to line ends
(`LogReader.mem_of_mem_message`). What carries the induction over the lines is that the line before
the next one, and all that is in progress or delivered, has only characters of lines
(`DirectScanner.Within`).
-/

namespace TexLog

/-- The message of an error is a part of the text that shows it. -/
theorem ErrorRule.mem_of_message? {rule : ErrorRule} {text message : Text}
    (hmessage : rule.message? text = some message) {c : Char} (hc : c ∈ message) : c ∈ text := by
  obtain ⟨found, hsearch, hnamed⟩ := Option.bind_eq_some_iff.1 hmessage
  obtain ⟨marks, -, rfl⟩ := Option.map_eq_some_iff.1 hsearch
  obtain ⟨number, -, hspan⟩ := Option.bind_eq_some_iff.1 hnamed
  obtain ⟨⟨first, last⟩, -, htaken⟩ := Option.bind_eq_some_iff.1 hspan
  obtain rfl := Option.some.inj htaken
  exact List.mem_of_mem_drop (List.mem_of_mem_take hc)

namespace Settings

variable {settings : Settings}

/-- What is recognised in a text keeps a part of it. -/
theorem mem_of_recognise {text : Text} {diagnostic : Diagnostic}
    (hfound : settings.recognise text = some diagnostic) {c : Char}
    (hc : c ∈ diagnostic.message) : c ∈ text := by
  unfold recognise recogniseError recogniseWarning at hfound
  cases hmessage : settings.errorRule.message? text with
  | some message =>
    rw [hmessage] at hfound
    cases hfound
    exact ErrorRule.mem_of_message? hmessage hc
  | none =>
    rw [hmessage] at hfound
    split at hfound
    · cases hfound
      exact hc
    · cases hfound

/-- What is recognised after a line keeps parts of the two lines. -/
theorem mem_of_recogniseAfter {previous : Option Text} {line : Text} {diagnostic : Diagnostic}
    (hfound : settings.recogniseAfter previous line = some diagnostic) {c : Char}
    (hc : c ∈ diagnostic.message) : (∃ before, previous = some before ∧ c ∈ before) ∨ c ∈ line := by
  rcases settings.recogniseAfter_cases previous line with
    ⟨before, other, hprevious, -, hjoined, hfound'⟩ | ⟨-, halone⟩
  · obtain rfl : other = diagnostic := Option.some.inj (hfound'.symm.trans hfound)
    rcases List.mem_append.1 (mem_of_recognise hjoined hc) with hbefore | hline
    · exact .inl ⟨before, hprevious, hbefore⟩
    · exact .inr hline
  · exact .inr (mem_of_recognise (halone ▸ hfound) hc)

end Settings

namespace DirectScanner

/-- All that a scan keeps of a log has only characters of a kind. -/
structure Within (kind : Char → Prop) (direct : DirectScanner) : Prop where
  previous : ∀ line, direct.previous = some line → ∀ c ∈ line, kind c
  messages : ∀ diagnostic ∈ direct.joiner.diagnostics, ∀ c ∈ diagnostic.message, kind c

variable {kind : Char → Prop} {direct : DirectScanner}

/-- A new scanner has no characters. -/
theorem Within.ofSettings (settings : Settings) : Within kind (.ofSettings settings) where
  previous _ h := nomatch h
  messages _ h := nomatch h

/-- A diagnostic that begins or goes on with a line keeps a scan within a kind of characters. -/
theorem Within.start (h : direct.Within kind) {diagnostic : Diagnostic} {line : Text}
    (hmessage : ∀ c ∈ diagnostic.message, kind c) (hline : ∀ c ∈ line, kind c) (width : Int) :
    Within kind { direct with
      previous := some line
      joiner := (direct.joiner.start width diagnostic line).1 } where
  previous := by
    rintro other ⟨⟩
    exact hline
  messages := by
    intro other hother
    rw [Joiner.diagnostics_start] at hother
    rcases List.mem_append.1 hother with hother | hother
    · exact h.messages other (List.mem_append_left _ hother)
    · obtain rfl := List.mem_singleton.1 hother
      exact hmessage

/-- A line adds no other characters than its own. -/
theorem Within.feed (h : direct.Within kind) {text : Text}
    (htext : ∀ c ∈ text.stripLineEnd, kind c) : (direct.feed text).Within kind := by
  cases hpending : direct.joiner.pending with
  | some diagnostic =>
    rw [feed_of_pending hpending]
    have hbefore : ∀ c ∈ diagnostic.message, kind c :=
      h.messages diagnostic (by simp [Joiner.diagnostics, hpending])
    refine h.start (fun c hc => ?_) htext _
    rcases List.mem_append.1 hc with hc | hc
    · exact hbefore c hc
    · exact htext c hc
  | none =>
    rw [feed_of_idle hpending]
    cases hfound : direct.settings.recogniseAfter direct.previous text.stripLineEnd with
    | none => exact ⟨by rintro other ⟨⟩; exact htext, h.messages⟩
    | some diagnostic =>
      refine h.start (fun c hc => ?_) htext _
      rcases Settings.mem_of_recogniseAfter hfound hc with ⟨before, hbefore, hc⟩ | hc
      · exact h.previous before hbefore c hc
      · exact htext c hc

/-- Lines add no other characters than their own. -/
theorem Within.run (h : direct.Within kind) {lines : List Text}
    (hlines : ∀ line ∈ lines, ∀ c ∈ line.stripLineEnd, kind c) :
    (direct.run (lines.map .line)).Within kind := by
  induction lines generalizing direct with
  | nil => exact h
  | cons line lines ih =>
    obtain ⟨hline, hlater⟩ := List.forall_mem_cons.1 hlines
    exact ih (h.feed hline) hlater

/-- Each character of a message stands in a line of the log, before the line end. -/
theorem mem_line_of_mem_message {settings : Settings} {lines : List Text} {diagnostic : Diagnostic}
    (hdiagnostic : diagnostic ∈ diagnosticsOf settings lines) {c : Char}
    (hc : c ∈ diagnostic.message) : ∃ line ∈ lines, c ∈ line.stripLineEnd := by
  have hwithin : Within (fun c => ∃ line ∈ lines, c ∈ line.stripLineEnd)
      ((ofSettings settings).run (lines.map .line)) :=
    (Within.ofSettings settings).run fun line hline c hc => ⟨line, hline, hc⟩
  rw [diagnosticsOf, received_finish] at hdiagnostic
  exact hwithin.messages diagnostic hdiagnostic c hc

end DirectScanner

/-! ## Texts -/

namespace Text

/-- A line without its line end has only characters of the line. -/
theorem stripLineEnd_subset (line : Text) : line.stripLineEnd ⊆ line := by
  intro c hc
  have hreversed := (List.dropWhile_sublist isLineEnd).subset (List.mem_reverse.1 hc)
  exact List.mem_reverse.1 hreversed

/-- A line feed at the end of a line is left out. -/
theorem stripLineEnd_concat_feed (line : Text) :
    stripLineEnd (line ++ ['\n']) = stripLineEnd line := by
  simp [stripLineEnd, isLineEnd]

/-- What a line has before its line end, the text has, and it belongs to no line end. -/
theorem CutsInto.mem_of_mem_line {text : Text} {lines : List Text} (h : CutsInto text lines)
    {line : Text} (hline : line ∈ lines) {c : Char} (hc : c ∈ line.stripLineEnd) :
    c ∈ text ∧ isLineEnd c = false := by
  induction h with
  | nil => cases hline
  | last _ hunbroken =>
    obtain rfl := List.mem_singleton.1 hline
    have hmem := stripLineEnd_subset _ hc
    exact ⟨hmem, hunbroken c hmem⟩
  | @line first ending rest lines hunbroken hending _ ih =>
    rcases List.mem_cons.1 hline with rfl | hlater
    · rw [stripLineEnd_concat_feed] at hc
      have hmem := stripLineEnd_subset _ hc
      exact ⟨by simp [hmem], hunbroken c hmem⟩
    · obtain ⟨hmem, hplain⟩ := ih hlater
      exact ⟨List.mem_append_right _ hmem, hplain⟩

end Text

/-- **The report on a text has only characters of the text**, and none that belongs to line ends. -/
theorem LogReader.mem_of_mem_message {Source : Type} {reader : LogReader} {source : Source}
    {text : Text} {diagnostic : Diagnostic}
    (hdiagnostic : diagnostic ∈ (reader.ofText source text).diagnostics)
    {c : Char} (hc : c ∈ diagnostic.message) : c ∈ text ∧ Text.isLineEnd c = false := by
  have hmem : diagnostic ∈ Scanner.diagnosticsOf reader.settings text.lines := by
    rw [Scanner.diagnosticsOf, Scanner.received_finish]
    rw [ofText, ofLines_eq, close] at hdiagnostic
    simp only at hdiagnostic
    split at hdiagnostic
    · rwa [Scanner.received_finish] at hdiagnostic
    · exact List.mem_append_left _ hdiagnostic
  rw [Scanner.diagnosticsOf_eq_direct] at hmem
  obtain ⟨line, hline, hchar⟩ := DirectScanner.mem_line_of_mem_message hmem hc
  exact (Text.cutsInto_iff.2 rfl).mem_of_mem_line hline hchar

end TexLog
