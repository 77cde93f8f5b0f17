import TexLog.Proofs.Holding

/-!
# Short lines are boundaries

No message goes on after a short line, and no diagnostic straddles it. So a scan that comes to a
short line goes on like a new scan (`DirectScanner.Ahead`), and the diagnostics of a log are those
of the part up to the short line and those of the rest.
-/

namespace TexLog.DirectScanner

/-- One scan has delivered `before` and then what the other has delivered, and the two go on in the
same way. -/
structure Ahead (before : List Diagnostic) (direct other : DirectScanner) : Prop where
  settings : direct.settings = other.settings
  /-- A line shows the same in both. -/
  previous : direct.settings.recogniseAfter direct.previous =
    other.settings.recogniseAfter other.previous
  pending : direct.joiner.pending = other.joiner.pending
  received : direct.received = before ++ other.received

variable {before : List Diagnostic} {direct other : DirectScanner}

/-- A scan that has come to a short line with no message in progress goes on like a new one. -/
theorem ahead_of_short (hidle : direct.joiner.pending = none)
    (hshort : ∀ line, direct.previous = some line → line.length < direct.settings.wrapWidth) :
    Ahead direct.received direct (ofSettings direct.settings) where
  settings := rfl
  previous := by
    funext line
    rw [Settings.recogniseAfter_of_short _ hshort, Settings.recogniseAfter_of_short]
    · rfl
    · intro _ h
      cases h
  pending := hidle
  received := by simp [DirectScanner.received, ofSettings]

/-- What the two have in progress ends with the same line. -/
theorem Ahead.joiner_start (hreceived : direct.received = before ++ other.received) (width : Int)
    (diagnostic : Diagnostic) (line : Text) :
    (direct.joiner.start width diagnostic line).1.outbox.received =
      before ++ (other.joiner.start width diagnostic line).1.outbox.received := by
  unfold DirectScanner.received at hreceived
  cases hshort : isShort width line with
  | true =>
    simp [Joiner.start_of_isShort hshort, Joiner.finish, Outbox.deliver, hreceived]
  | false => simpa [Joiner.start_of_not_isShort hshort] using hreceived

/-- The two go on in the same way after a line that shows the same in both. -/
theorem ahead_feed (hsettings : direct.settings = other.settings)
    (hpending : direct.joiner.pending = other.joiner.pending)
    (hreceived : direct.received = before ++ other.received) {text : Text}
    (hsame : direct.settings.recogniseAfter direct.previous text.stripLineEnd =
      other.settings.recogniseAfter other.previous text.stripLineEnd) :
    Ahead before (direct.feed text) (other.feed text) := by
  have hafter : ∀ joiner joiner' : Joiner, joiner.pending = joiner'.pending →
      joiner.outbox.received = before ++ joiner'.outbox.received →
      Ahead before ⟨direct.settings, some text.stripLineEnd, joiner⟩
        ⟨other.settings, some text.stripLineEnd, joiner'⟩ := fun _ _ h h' =>
    ⟨hsettings, by rw [hsettings], h, h'⟩
  cases hother : other.joiner.pending with
  | some diagnostic =>
    rw [feed_of_pending (hpending.trans hother), feed_of_pending hother]
    refine hafter _ _ ?_ ?_
    · rw [Joiner.pending_start, Joiner.pending_start, hsettings]
    · rw [hsettings]
      exact Ahead.joiner_start hreceived ..
  | none =>
    rw [feed_of_idle (hpending.trans hother), feed_of_idle hother, hsame, hsettings]
    rw [hsettings] at hafter
    cases other.settings.recogniseAfter other.previous text.stripLineEnd with
    | none => exact hafter _ _ hpending hreceived
    | some diagnostic =>
      refine hafter _ _ ?_ (Ahead.joiner_start hreceived ..)
      simp only [Joiner.begin_some, Joiner.pending_start]

/-- A line keeps the one scanner ahead of the other. -/
theorem Ahead.feed (h : Ahead before direct other) (text : Text) :
    Ahead before (direct.feed text) (other.feed text) :=
  ahead_feed h.settings h.pending h.received (congrFun h.previous text.stripLineEnd)

/-- At its end the one scanner has received what it was ahead, and what the other has received. -/
theorem Ahead.finish (h : Ahead before direct other) :
    direct.finish.received = before ++ other.finish.received := by
  simp only [received_finish, Joiner.diagnostics, h.pending, ← List.append_assoc]
  exact congrArg (· ++ _) h.received

/-- Two scans that go on in the same way do so with all the lines of a log. -/
theorem Ahead.run_lines (h : Ahead before direct other) (lines : List Text) :
    Ahead before (direct.run (lines.map .line)) (other.run (lines.map .line)) := by
  induction lines generalizing direct other with
  | nil => exact h
  | cons line lines ih => exact ih (h.feed line)

/-- No message is in progress after a short line. -/
theorem pending_feed_of_short (direct : DirectScanner) {text : Text}
    (hshort : text.stripLineEnd.length < direct.settings.wrapWidth) :
    (direct.feed text).joiner.pending = none := by
  have hends : isShort direct.settings.wrapWidth text.stripLineEnd = true := by
    simpa [isShort] using hshort
  cases hpending : direct.joiner.pending with
  | some diagnostic => simp [feed_of_pending hpending, Joiner.pending_start, hends]
  | none =>
    rw [feed_of_idle hpending]
    exact Joiner.pending_begin hpending hends _

/-- The diagnostics of a log are those up to a short line and those of the rest. -/
theorem diagnosticsOf_append (settings : Settings) {first : List Text}
    (hshort : ∀ last, first.getLast? = some last →
      last.stripLineEnd.length < settings.wrapWidth) (rest : List Text) :
    diagnosticsOf settings (first ++ rest) =
      diagnosticsOf settings first ++ diagnosticsOf settings rest := by
  rcases List.eq_nil_or_concat first with rfl | ⟨lines, last, rfl⟩
  · rfl
  · have hlast := hshort last (by simp)
    rw [List.concat_eq_append]
    have hsettings : ((ofSettings settings).run (lines.map .line)).settings = settings :=
      settings_run ..
    have hfirst := (ofSettings settings).run_lines_concat lines last
    generalize (ofSettings settings).run (lines.map .line) = direct at hsettings hfirst
    subst hsettings
    have hidle := direct.pending_feed_of_short hlast
    have hahead := ahead_of_short hidle (fun line hline => by cases hline; exact hlast)
    calc diagnosticsOf direct.settings (lines ++ [last] ++ rest)
        = ((direct.feed last).run (rest.map .line)).finish.received := by
          rw [diagnosticsOf, List.map_append, run_append, hfirst]
      _ = (direct.feed last).received ++ diagnosticsOf direct.settings rest :=
          (hahead.run_lines rest).finish
      _ = diagnosticsOf direct.settings (lines ++ [last]) ++
            diagnosticsOf direct.settings rest := by
          rw [diagnosticsOf, diagnosticsOf, hfirst, received_finish_of_idle hidle]

/-- The diagnostics of lines between others are found by themselves, if short lines are the
boundaries, or if nothing comes after the lines. -/
theorem diagnosticsOf_between (settings : Settings) {before lines after : List Text}
    (hbefore : ∀ last, before.getLast? = some last →
      last.stripLineEnd.length < settings.wrapWidth)
    (hafter : after = [] ∨ ∀ last, lines.getLast? = some last →
      last.stripLineEnd.length < settings.wrapWidth) :
    diagnosticsOf settings (before ++ lines ++ after) =
      diagnosticsOf settings before ++ diagnosticsOf settings lines ++
        diagnosticsOf settings after := by
  have hrest : diagnosticsOf settings (lines ++ after) =
      diagnosticsOf settings lines ++ diagnosticsOf settings after := by
    rcases hafter with rfl | hshort
    · rw [List.append_nil]
      exact (List.append_nil _).symm
    · exact diagnosticsOf_append settings hshort after
  rw [List.append_assoc, diagnosticsOf_append settings hbefore, hrest, List.append_assoc]

end TexLog.DirectScanner

namespace TexLog.Scanner

/-- **A short line is a boundary.** The diagnostics of a log are those of the part up to a short
line, parsed to its end, and those of the rest, parsed from a new start. -/
theorem diagnosticsOf_append_of_short (settings : Settings) (first rest : List Text)
    (hshort : ∀ last, first.getLast? = some last →
      last.stripLineEnd.length < settings.wrapWidth) :
    diagnosticsOf settings (first ++ rest) =
      diagnosticsOf settings first ++ diagnosticsOf settings rest := by
  simp only [diagnosticsOf_eq_direct]
  exact DirectScanner.diagnosticsOf_append settings hshort rest

/-- A wrapped message, a blank line as the boundary, and an error after it. -/
theorem diagnosticsOf_append_of_blank :
    diagnosticsOf (.ofWidth 6 (by decide))
        (["a:1: b".toList, "c".toList, []] ++ [":2: y".toList]) =
      [⟨.error, "bc".toList⟩, ⟨.error, "y".toList⟩] :=
  (diagnosticsOf_append_of_short (.ofWidth 6 (by decide)) ["a:1: b".toList, "c".toList, []]
    [":2: y".toList] (by intro last hlast; cases hlast; decide)).trans (by decide +kernel)

end TexLog.Scanner
