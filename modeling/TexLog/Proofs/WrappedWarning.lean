import TexLog.Proofs.Wrapping

/-!
# Wrapped warnings

A warning is its whole text, and what it begins with stands on the first of the pieces into which it
is cut. So the scanner recognises it on the first piece and takes the other pieces for its message
without looking at them, since each piece but the last is full. Whatever else these pieces seem to
show, the warning is reported with its whole text and nothing besides.
-/

namespace TexLog

namespace DirectScanner

/-- **A message goes on over full lines.** A diagnostic that has begun on a line takes all lines
that come after it, whatever they show, if all of them but the last are full. -/
theorem received_finish_of_start {rest : List Text} :
    ∀ {direct : DirectScanner} {joiner : Joiner} {diagnostic : Diagnostic} {line : Text},
      direct.joiner = (joiner.start direct.settings.wrapWidth diagnostic line).1 →
      (∀ full ∈ (line :: rest.map Text.stripLineEnd).dropLast,
        direct.settings.wrapWidth ≤ full.length) →
      (direct.run (rest.map .line)).finish.received =
        joiner.outbox.received ++
          [⟨diagnostic.kind, diagnostic.message ++ (rest.map Text.stripLineEnd).flatten⟩] := by
  -- at each line the joiner is as if the diagnostic had begun there with the message so far
  induction rest with
  | nil =>
    intro direct joiner diagnostic line hjoiner _
    have hdiagnostics := joiner.diagnostics_start direct.settings.wrapWidth diagnostic line
    rw [← hjoiner, ← received_finish] at hdiagnostics
    simpa [run] using hdiagnostics
  | cons next rest ih =>
    intro direct joiner diagnostic line hjoiner hfull
    rw [List.map_cons, List.dropLast_cons_cons] at hfull
    obtain ⟨hline, hrest⟩ := List.forall_mem_cons.1 hfull
    have hends : isShort direct.settings.wrapWidth line = false := by
      simpa [isShort] using hline
    rw [Joiner.start_of_not_isShort hends] at hjoiner
    have hfeed := feed_of_pending (congrArg Joiner.pending hjoiner) next
    rw [hjoiner, Joiner.start_pending] at hfeed
    have hnext : (direct.feed next).joiner = (joiner.start direct.settings.wrapWidth
        ⟨diagnostic.kind, diagnostic.message ++ next.stripLineEnd⟩ next.stripLineEnd).1 := by
      rw [hfeed]
    have hall := ih hnext hrest
    simpa [run, step] using hall

/-- A diagnostic that begins on the first line of a log is all there is, if all lines but the last
are full. -/
theorem diagnosticsOf_of_recognise {settings : Settings} {line : Text} {rest : List Text}
    {diagnostic : Diagnostic} (hfound : settings.recognise line.stripLineEnd = some diagnostic)
    (hfull : ∀ full ∈ ((line :: rest).map Text.stripLineEnd).dropLast,
      settings.wrapWidth ≤ full.length) :
    diagnosticsOf settings (line :: rest) =
      [⟨diagnostic.kind, diagnostic.message ++ (rest.map Text.stripLineEnd).flatten⟩] := by
  have hbegun : ((ofSettings settings).feed line).joiner =
      (({} : Joiner).start settings.wrapWidth diagnostic line.stripLineEnd).1 := by
    rw [feed_of_idle rfl]
    simp [ofSettings, hfound]
  exact received_finish_of_start hbegun hfull

end DirectScanner

/-! ## Pieces -/

section
variable {text : Text} {width : Nat}

/-- The first piece is what fits on one line. -/
theorem exists_wrap_eq_cons (hwidth : 0 < width) (hne : text ≠ []) :
    ∃ rest, text.wrap width = text.take width :: rest := by
  have hpos : 0 < (text.wrap width).length :=
    (lt_length_wrap hwidth).2 (by simpa [List.length_pos_iff] using hne)
  have hfirst := getElem?_wrap hpos
  rw [Nat.zero_mul, List.drop_zero] at hfirst
  exact List.head?_eq_some_iff.1 (List.head?_eq_getElem?.trans hfirst)

/-- Nothing is taken off the pieces of a text without line ends. -/
theorem map_stripLineEnd_wrap (hwidth : 0 < width)
    (hunbroken : ∀ c ∈ text, Text.isLineEnd c = false) :
    (text.wrap width).map Text.stripLineEnd = text.wrap width := by
  refine Eq.trans (List.map_congr_left fun piece hpiece => ?_) (List.map_id _)
  exact stripLineEnd_of_mem_wrap hwidth hunbroken hpiece

/-- Pieces that others follow have the whole width. -/
theorem le_length_of_mem_dropLast_wrap {settings : Settings} {piece : Text}
    (hpiece : piece ∈ (text.wrap settings.wrapWidth).dropLast) :
    settings.wrapWidth ≤ piece.length := by
  obtain ⟨i, hi, rfl⟩ := List.mem_iff_getElem.1 hpiece
  rw [List.length_dropLast] at hi
  obtain ⟨full, hget, hwide⟩ : settings.FullAt (text.wrap settings.wrapWidth) i :=
    fullAt_wrap (by omega)
  rw [List.getElem_dropLast, (List.getElem_eq_iff _).2 hget]
  exact hwide

end

/-! ## Lines that begin a warning -/

namespace Settings

/-- A line that begins a warning, and no error, as far as its first piece tells. -/
structure BeginsWarning (settings : Settings) (text : Text) : Prop where
  /-- What it begins with fits on one line. -/
  start : ∃ start ∈ settings.warningPrefixes,
    start <+: text ∧ start.length ≤ settings.wrapWidth
  noError : settings.recogniseError (text.take settings.wrapWidth) = none
  unbroken : ∀ c ∈ text, Text.isLineEnd c = false

namespace BeginsWarning
variable {settings : Settings} {text : Text}

/-- A text that begins a warning is not empty. -/
theorem ne_nil (h : settings.BeginsWarning text) : text ≠ [] := by
  obtain ⟨start, hstart, hbegins, -⟩ := h.start
  rintro rfl
  exact settings.warningPrefixes_ne start hstart (List.prefix_nil.1 hbegins)

/-- The first piece shows the warning. -/
theorem recognise_take (h : settings.BeginsWarning text) :
    settings.recognise (text.take settings.wrapWidth) =
      some ⟨.warning, text.take settings.wrapWidth⟩ := by
  obtain ⟨start, hstart, hbegins, hfits⟩ := h.start
  have hpiece : start.isPrefixOf (Str.ofText (text.take settings.wrapWidth)) = true := by
    rw [← Str.take_ofText]
    exact List.isPrefixOf_iff_prefix.2 (List.prefix_take_iff.2 ⟨hbegins, hfits⟩)
  have hwarning : settings.recogniseWarning (text.take settings.wrapWidth) =
      some ⟨.warning, text.take settings.wrapWidth⟩ :=
    if_pos (List.any_eq_true.2 ⟨start, hstart, hpiece⟩)
  rw [recognise, h.noError, hwarning]
  rfl

/-- The pieces of the line show the warning, and nothing else. -/
theorem diagnosticsOf_wrap (h : settings.BeginsWarning text) :
    DirectScanner.diagnosticsOf settings (text.wrap settings.wrapWidth) = [⟨.warning, text⟩] := by
  have hwidth := settings.wrapWidth_pos
  have hstrip := map_stripLineEnd_wrap hwidth h.unbroken
  have hall : (text.wrap settings.wrapWidth).flatten = text := flatten_wrap hwidth
  have hfull : ∀ full ∈ ((text.wrap settings.wrapWidth).map Text.stripLineEnd).dropLast,
      settings.wrapWidth ≤ full.length := by
    rw [hstrip]
    exact fun _ => le_length_of_mem_dropLast_wrap
  -- only the first piece is looked at
  obtain ⟨rest, hpieces⟩ := exists_wrap_eq_cons hwidth h.ne_nil
  rw [hpieces] at hstrip hall hfull ⊢
  obtain ⟨hfirst, hrest⟩ := List.cons.inj hstrip
  have hfound := h.recognise_take
  rw [← hfirst] at hfound
  rw [DirectScanner.diagnosticsOf_of_recognise hfound hfull, hrest, hfirst, ← List.flatten_cons,
    hall]

end BeginsWarning
end Settings

/-! ## The diagnostics of a wrapped warning -/

namespace Scanner

/-- **A warning that was cut into pieces is reported as if it had not been cut**, for any settings
and whatever the other pieces show: between the diagnostics of the lines before the pieces, the last
of which is short, and those of the lines after. No line may follow if the last piece is full, since
it would be taken for a part of the message. -/
theorem diagnosticsOf_wrapped_warning {settings : Settings} {before after : List Text} {text : Text}
    (hbegins : settings.BeginsWarning text)
    (hbefore : ∀ last, before.getLast? = some last →
      last.stripLineEnd.length < settings.wrapWidth)
    (hafter : settings.wrapWidth ∣ text.length → after = []) :
    diagnosticsOf settings (before ++ text.wrap settings.wrapWidth ++ after) =
      diagnosticsOf settings before ++ ⟨.warning, text⟩ :: diagnosticsOf settings after := by
  have hwidth := settings.wrapWidth_pos
  have hlast : after = [] ∨ ∀ last, (text.wrap settings.wrapWidth).getLast? = some last →
      last.stripLineEnd.length < settings.wrapWidth := by
    by_cases hrest : settings.wrapWidth ∣ text.length
    · exact .inl (hafter hrest)
    · refine .inr fun last hlast => ?_
      rw [stripLineEnd_of_mem_wrap hwidth hbegins.unbroken (List.mem_of_getLast? hlast)]
      exact length_getLast?_wrap hwidth hrest hlast
  simp only [diagnosticsOf_eq_direct]
  rw [DirectScanner.diagnosticsOf_between settings hbefore hlast, hbegins.diagnosticsOf_wrap,
    List.append_assoc, List.singleton_append]

/-- A warning of which the second piece shows an error and the third begins as a warning does. -/
theorem diagnosticsOf_wrapped_warning_misleading :
    diagnosticsOf (.ofWidth 16 (by decide))
        (["b:3: c".toList, []] ++
          Text.wrap "LaTeX Warning: xa.tex:1: unclearLaTeX Warning: y!".toList 16 ++
          [":4: d".toList]) =
      [⟨.error, "c".toList⟩, ⟨.warning, "LaTeX Warning: xa.tex:1: unclearLaTeX Warning: y!".toList⟩,
        ⟨.error, "d".toList⟩] := by
  have hbegins : Settings.BeginsWarning (.ofWidth 16 (by decide))
      "LaTeX Warning: xa.tex:1: unclearLaTeX Warning: y!".toList := by
    have hunbroken : "LaTeX Warning: xa.tex:1: unclearLaTeX Warning: y!".toList.all
        (!Text.isLineEnd ·) = true := by decide
    exact ⟨⟨Str.of "LaTeX Warning: ", by decide, by decide, by decide⟩, by decide +kernel,
      fun c hc => by simpa using List.all_eq_true.1 hunbroken c hc⟩
  exact (diagnosticsOf_wrapped_warning hbegins
    (by intro last hlast; cases hlast; decide) (by decide)).trans (by decide +kernel)

end Scanner
end TexLog
