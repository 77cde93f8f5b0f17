import TexLog.Proofs.Boundary
import TexLog.Proofs.Completed

/-!
# One log after another

A scanner that has come to the end of a log can take another one. It has nothing of the first log in
progress and holds nothing of it back, but it still knows the last line. So it finds in the second
log what a scan finds that starts after this line (`scan_scan`): the same as a new scanner, unless
the last line is full and shows a diagnostic together with the first line of the second log. In that
case the second log seems to begin in the middle of a line of the first, and text of the first log
is reported once more.
-/

namespace TexLog

/-- The last line of a text, without its line end. -/
def Text.lastLine? (text : Text) : Option Text := text.lines.getLast?.map stripLineEnd

/-- The diagnostics of a log of which the line before is known. -/
def DirectScanner.diagnosticsAfter (settings : Settings) (previous : Option Text)
    (lines : List Text) : List Diagnostic :=
  (({ settings, previous } : DirectScanner).run (lines.map .line)).finish.received

namespace DirectScanner
variable {settings : Settings} {previous : Option Text} {lines : List Text}

/-- The line that a new scan knows is the last one that has come. -/
theorem previous_run (settings : Settings) (lines : List Text) :
    ((ofSettings settings).run (lines.map .line)).previous =
      lines.getLast?.map Text.stripLineEnd := by
  rcases List.eq_nil_or_concat lines with rfl | ⟨before, last, rfl⟩
  · rfl
  · rw [List.concat_eq_append, run_lines_concat]
    simp [feed]

/-- What a scan delivered before a log, while nothing was in progress, stands before the diagnostics
of the log. -/
theorem received_finish_run {direct : DirectScanner} (hidle : direct.joiner.pending = none)
    (lines : List Text) :
    (direct.run (lines.map .line)).finish.received =
      direct.received ++ diagnosticsAfter direct.settings direct.previous lines := by
  have hahead : Ahead direct.received direct ⟨direct.settings, direct.previous, {}⟩ :=
    ⟨rfl, rfl, hidle, by simp [received]⟩
  exact (hahead.run_lines lines).finish

/-- The line before a log does not matter if it does not change what the first line shows. -/
theorem diagnosticsAfter_eq_diagnosticsOf
    (hsame : ∀ next, lines.head? = some next →
      settings.recogniseAfter previous next.stripLineEnd = settings.recognise next.stripLineEnd) :
    diagnosticsAfter settings previous lines = diagnosticsOf settings lines := by
  cases lines with
  | nil => rfl
  | cons next rest =>
    have hnew := settings.recogniseAfter_none next.stripLineEnd
    have hahead : Ahead [] ((⟨settings, previous, {}⟩ : DirectScanner).feed next)
        ((ofSettings settings).feed next) := by
      refine ahead_feed ?_ ?_ ?_ ?_
      · rfl
      · rfl
      · rfl
      · exact (hsame next rfl).trans hnew.symm
    exact (hahead.run_lines rest).finish

end DirectScanner

namespace Scanner

/-- A scan of a whole log does the same to a scanner and to the one that holds no line back. -/
theorem direct_scan {scanner : Scanner} (hscanner : scanner.Consistent) (text : Text) :
    (scanner.scan text true).1.direct = (scanner.direct.run (text.lines.map .line)).finish := by
  calc (scanner.scan text true).1.direct
      = (scanner.feedLines text.lines).1.finish.1.direct := rfl
    _ = (scanner.direct.run (text.lines.map .line)).finish := by
        rw [feedLines_fst, direct_finish (hscanner.run _), direct_run hscanner]

/-- Nothing is in progress or held back at the end of a log. -/
theorem scan_quiet {scanner : Scanner} (hscanner : scanner.Consistent) (text : Text) :
    (scanner.scan text true).1.Consistent ∧ (scanner.scan text true).1.held = none ∧
      (scanner.scan text true).1.joiner.pending = none := by
  have hlines := hscanner.run (text.lines.map .line)
  rw [← feedLines_fst] at hlines
  exact ⟨hlines.finish, hlines.finish_quiet⟩

/-- A scanner with nothing in progress and nothing held back finds in a log what can be found after
the line that it knows. -/
theorem scan_of_quiet {scanner : Scanner} (hscanner : scanner.Consistent)
    (hheld : scanner.held = none) (hidle : scanner.joiner.pending = none) (text : Text) :
    (scanner.scan text true).2 =
      DirectScanner.diagnosticsAfter scanner.settings scanner.newest? text.lines := by
  have hbefore := joiner_direct_of_held_eq_none hheld
  have hafter := joiner_direct_of_held_eq_none (scan_quiet hscanner text).2.1
  have hdirect := DirectScanner.received_finish_run
    ((congrArg Joiner.pending hbefore).trans hidle) text.lines
  rw [← direct_scan hscanner, DirectScanner.received, DirectScanner.received, hafter, hbefore]
    at hdirect
  exact List.append_cancel_left ((scanner.received_scan text true).symm.trans hdirect)

/-- A new scanner finds the diagnostics of a log. -/
theorem scan_ofSettings (settings : Settings) (text : Text) :
    ((ofSettings settings).scan text true).2 = DirectScanner.diagnosticsOf settings text.lines :=
  scan_of_quiet (consistent_ofSettings settings) rfl rfl text

/-- **Nothing but its last line is left over of a log.** In a second log a scanner finds what can be
found after this line. That is what a new scanner finds, if the line does not change what the first
line of the second log shows. -/
theorem scan_scan (settings : Settings) (first second : Text) :
    let again := (((ofSettings settings).scan first true).1.scan second true).2
    again = DirectScanner.diagnosticsAfter settings first.lastLine? second.lines ∧
      ((∀ next, second.lines.head? = some next →
          settings.recogniseAfter first.lastLine? next.stripLineEnd =
            settings.recognise next.stripLineEnd) →
        again = ((ofSettings settings).scan second true).2) := by
  intro again
  have hnew := consistent_ofSettings settings
  obtain ⟨hconsistent, hheld, hidle⟩ := scan_quiet hnew first
  have hdirect := direct_scan hnew first
  have hsettings : ((ofSettings settings).scan first true).1.settings = settings :=
    (congrArg DirectScanner.settings hdirect).trans (DirectScanner.settings_run ..)
  have hnewest : ((ofSettings settings).scan first true).1.newest? = first.lastLine? :=
    (congrArg DirectScanner.previous hdirect).trans (DirectScanner.previous_run ..)
  have hagain : again =
      DirectScanner.diagnosticsAfter settings first.lastLine? second.lines := by
    have hscan := scan_of_quiet hconsistent hheld hidle second
    rwa [hsettings, hnewest] at hscan
  refine ⟨hagain, fun hsame => ?_⟩
  rw [hagain, scan_ofSettings]
  exact DirectScanner.diagnosticsAfter_eq_diagnosticsOf hsame

/-- An error that ends the first log on a full line is reported once more with the first line of the
second log, in which a new scanner finds nothing. -/
theorem scan_scan_repeats_error :
    let message := List.replicate 67 'x'
    let ended := (ofSettings .standard).scan ("main.tex:1: ".toList ++ message) true
    ended.2 = [⟨.error, message⟩] ∧
      (ended.1.scan "tail".toList true).2 = [⟨.error, message ++ "tail".toList⟩] ∧
      ((ofSettings .standard).scan "tail".toList true).2 = [] := by
  decide +kernel

end Scanner

end TexLog
