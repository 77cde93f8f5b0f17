import TexLog.Log.Scanner

/-!
# Scanning without holding lines back

`DirectScanner` scans a log like `Scanner` but looks at every line as soon as it comes. It knows the
line before, the message in progress and what was delivered. It is what the scanner is compared
with: the scanner that holds lines back comes to the same diagnostics, some of them one line later
(`TexLog.Proofs.Holding`).

A run of either scanner is a list of signals: lines, and ends of the log.
-/

namespace TexLog

/-- What a scanner is told: the next line of the log, or that the log ends. -/
inductive Signal
  /-- The next line, with or without its line end. -/
  | line (text : Text)
  /-- The end of the log. -/
  | ending
  deriving DecidableEq, Repr

namespace Joiner

/-- Begins the diagnostic that was recognised, if there is one, on the given line. -/
def begin (joiner : Joiner) (width : Int) (found : Option Diagnostic) (line : Text) : Joiner :=
  match found with
  | some diagnostic => (joiner.start width diagnostic line).1
  | none => joiner

/-- The diagnostics delivered and the one in progress. -/
def diagnostics (joiner : Joiner) : List Diagnostic :=
  joiner.outbox.received ++ joiner.pending.toList

@[simp] theorem begin_none (joiner : Joiner) (width : Int) (line : Text) :
    joiner.begin width none line = joiner := rfl

@[simp] theorem begin_some (joiner : Joiner) (width : Int) (diagnostic : Diagnostic)
    (line : Text) :
    joiner.begin width (some diagnostic) line = (joiner.start width diagnostic line).1 := rfl

/-- A diagnostic begins in the same way whatever was in progress. -/
theorem start_pending (joiner : Joiner) (pending : Option Diagnostic) (width : Int)
    (diagnostic : Diagnostic) (line : Text) :
    { joiner with pending }.start width diagnostic line = joiner.start width diagnostic line := by
  simp [start, finish]

/-- A diagnostic stays in progress after a full line. -/
theorem pending_start (joiner : Joiner) (width : Int) (diagnostic : Diagnostic) (line : Text) :
    (joiner.start width diagnostic line).1.pending =
      if isShort width line then none else some diagnostic := by
  cases hshort : isShort width line with
  | true => simp [start_of_isShort hshort, finish]
  | false => simp [start_of_not_isShort hshort]

/-- Nothing is in progress after a short line on which nothing was in progress before. -/
theorem pending_begin {joiner : Joiner} (hidle : joiner.pending = none) {width : Int}
    {line : Text} (hshort : isShort width line = true) (found : Option Diagnostic) :
    (joiner.begin width found line).pending = none := by
  cases found with
  | none => exact hidle
  | some diagnostic => simp [pending_start, hshort]

/-- A line is added only to a message in progress. -/
theorem feed?_of_idle {joiner : Joiner} (hidle : joiner.pending = none) (width : Int)
    (line : Text) : joiner.feed? width line = none := by
  simp [feed?, hidle]

/-- A line is added at the end of the message in progress. -/
theorem feed?_of_pending {joiner : Joiner} {diagnostic : Diagnostic}
    (hpending : joiner.pending = some diagnostic) (width : Int) (line : Text) :
    joiner.feed? width line =
      some (joiner.start width ⟨diagnostic.kind, diagnostic.message ++ line⟩ line) := by
  simp [feed?, hpending]

/-- At the end of a log the message in progress is delivered after what was delivered before. -/
@[simp] theorem received_flush (joiner : Joiner) :
    joiner.flush.1.outbox.received = joiner.diagnostics := by
  cases hpending : joiner.pending <;>
    simp [flush, hpending, finish, diagnostics, Outbox.deliver]

/-- A diagnostic that begins at the end of a log is delivered at once. -/
theorem flush_start (joiner : Joiner) (width : Int) (diagnostic : Diagnostic) (line : Text) :
    (joiner.start width diagnostic line).1.flush.1 = (joiner.finish diagnostic).1 := by
  cases hshort : isShort width line with
  | true => simp [start_of_isShort hshort, finish, flush]
  | false => simp [start_of_not_isShort hshort, finish, flush]

/-- A diagnostic is reported by the end of a log once it has begun, complete or not. -/
theorem diagnostics_start (joiner : Joiner) (width : Int) (diagnostic : Diagnostic) (line : Text) :
    (joiner.start width diagnostic line).1.diagnostics =
      joiner.outbox.received ++ [diagnostic] := by
  rw [← received_flush, flush_start]
  rfl

@[simp] theorem pending_flush (joiner : Joiner) : joiner.flush.1.pending = none := by
  cases hpending : joiner.pending <;> simp [flush, hpending, finish]

end Joiner

/-- The state of a scan that holds no line back. -/
@[ext] structure DirectScanner where
  /-- What is known about the output of the compiler. -/
  settings : Settings
  /-- The line before the next one; there is none at the start. -/
  previous : Option Text := none
  /-- The message in progress and the finished diagnostics. -/
  joiner : Joiner := {}

namespace Settings

/-- The output format of the usual compilers, wrapped at another width. -/
def ofWidth (width : Nat) (hwidth : 0 < width) : Settings :=
  { standard with wrapWidth := width, wrapWidth_pos := hwidth }

/-- The diagnostic that a line shows: joined to the line before it, if that one is full and the two
show a diagnostic together, else by itself. -/
def recogniseAfter (settings : Settings) (previous : Option Text) (line : Text) :
    Option Diagnostic :=
  let straddling := previous.bind fun before =>
    if settings.wrapWidth ≤ before.length then settings.recognise (before ++ line) else none
  straddling <|> settings.recognise line

/-- The first line is looked at by itself. -/
@[simp] theorem recogniseAfter_none (settings : Settings) (line : Text) :
    settings.recogniseAfter none line = settings.recognise line := by
  simp [recogniseAfter]

/-- A line after a short one, or after none, is looked at by itself. -/
theorem recogniseAfter_of_short (settings : Settings) {previous : Option Text}
    (hshort : ∀ before, previous = some before → before.length < settings.wrapWidth)
    (line : Text) : settings.recogniseAfter previous line = settings.recognise line := by
  cases previous with
  | none => simp [recogniseAfter]
  | some before => simp [recogniseAfter, Nat.not_le.2 (hshort before rfl)]

/-- What a line shows, it shows joined to a full line before it, or else by itself. -/
theorem recogniseAfter_cases (settings : Settings) (previous : Option Text) (line : Text) :
    (∃ before diagnostic, previous = some before ∧ settings.wrapWidth ≤ before.length ∧
      settings.recognise (before ++ line) = some diagnostic ∧
      settings.recogniseAfter previous line = some diagnostic) ∨
    (∀ before, previous = some before → settings.wrapWidth ≤ before.length →
      settings.recognise (before ++ line) = none) ∧
      settings.recogniseAfter previous line = settings.recognise line := by
  cases previous with
  | none => exact .inr ⟨fun _ h => (nomatch h), by simp [recogniseAfter]⟩
  | some before =>
    by_cases hfull : settings.wrapWidth ≤ before.length
    · cases hjoined : settings.recognise (before ++ line) with
      | some diagnostic =>
        refine .inl ⟨before, diagnostic, rfl, hfull, hjoined, ?_⟩
        simp [recogniseAfter, hfull, hjoined]
      | none =>
        refine .inr ⟨fun _ h _ => ?_, by simp [recogniseAfter, hfull, hjoined]⟩
        cases h
        exact hjoined
    · refine .inr ⟨fun _ h hfull' => ?_, by simp [recogniseAfter, hfull]⟩
      cases h
      exact absurd hfull' hfull

end Settings

namespace DirectScanner

/-- The start of a scan. -/
def ofSettings (settings : Settings) : DirectScanner := { settings }

/-- The diagnostics delivered. -/
def received (direct : DirectScanner) : List Diagnostic := direct.joiner.outbox.received

/-- Takes the next line: a message in progress goes on with it, else it is looked at together with
the line before it. -/
def feed (direct : DirectScanner) (text : Text) : DirectScanner :=
  let line := text.stripLineEnd
  let width := direct.settings.wrapWidth
  { direct with
    previous := some line
    joiner :=
      match direct.joiner.feed? width line with
      | some (joiner, _) => joiner
      | none =>
        direct.joiner.begin width (direct.settings.recogniseAfter direct.previous line) line }

/-- Ends the log: a message in progress is delivered as it is. -/
def finish (direct : DirectScanner) : DirectScanner :=
  { direct with joiner := direct.joiner.flush.1 }

/-- Deals with a signal. -/
def step (direct : DirectScanner) : Signal → DirectScanner
  | .line text => direct.feed text
  | .ending => direct.finish

/-- Deals with signals, one after the other. -/
def run (direct : DirectScanner) (signals : List Signal) : DirectScanner :=
  signals.foldl step direct

/-- The diagnostics of a log: those delivered when its lines have come and it ends. -/
def diagnosticsOf (settings : Settings) (lines : List Text) : List Diagnostic :=
  ((ofSettings settings).run (lines.map .line)).finish.received

/-- A message in progress goes on with the next line. -/
theorem feed_of_pending {direct : DirectScanner} {diagnostic : Diagnostic}
    (hpending : direct.joiner.pending = some diagnostic) (text : Text) :
    direct.feed text =
      { direct with
        previous := some text.stripLineEnd
        joiner := (direct.joiner.start direct.settings.wrapWidth
          ⟨diagnostic.kind, diagnostic.message ++ text.stripLineEnd⟩ text.stripLineEnd).1 } := by
  simp [feed, Joiner.feed?_of_pending hpending]

/-- A line begins what it shows after the line before it, when nothing is in progress. -/
theorem feed_of_idle {direct : DirectScanner} (hidle : direct.joiner.pending = none)
    (text : Text) :
    direct.feed text =
      { direct with
        previous := some text.stripLineEnd
        joiner := direct.joiner.begin direct.settings.wrapWidth
          (direct.settings.recogniseAfter direct.previous text.stripLineEnd)
          text.stripLineEnd } := by
  simp [feed, Joiner.feed?_of_idle hidle]

@[simp] theorem settings_run (direct : DirectScanner) (signals : List Signal) :
    (direct.run signals).settings = direct.settings := by
  induction signals generalizing direct with
  | nil => rfl
  | cons signal signals ih =>
    have hstep : (direct.step signal).settings = direct.settings := by cases signal <;> rfl
    exact (ih (direct.step signal)).trans hstep

/-- Running through two lists of signals is running through one after the other. -/
theorem run_append (direct : DirectScanner) (first second : List Signal) :
    direct.run (first ++ second) = (direct.run first).run second := List.foldl_append

/-- The last line of a log comes after the lines before it. -/
theorem run_lines_concat (direct : DirectScanner) (lines : List Text) (last : Text) :
    direct.run ((lines ++ [last]).map .line) = (direct.run (lines.map .line)).feed last := by
  rw [List.map_append, run_append]
  rfl

@[simp] theorem received_finish (direct : DirectScanner) :
    direct.finish.received = direct.joiner.diagnostics := by
  simp [finish, received]

/-- The end of a log delivers nothing if no message is in progress. -/
theorem received_finish_of_idle {direct : DirectScanner}
    (hidle : direct.joiner.pending = none) : direct.finish.received = direct.received := by
  rw [received_finish, Joiner.diagnostics, hidle]
  simp [received]

end DirectScanner

namespace Scanner

/-- Deals with a signal. -/
def step (scanner : Scanner) : Signal → Scanner
  | .line text => (scanner.feed text).1
  | .ending => scanner.finish.1

/-- Deals with signals, one after the other. -/
def run (scanner : Scanner) (signals : List Signal) : Scanner := signals.foldl step scanner

/-- The diagnostics of a log: those delivered when its lines have come and it ends. -/
def diagnosticsOf (settings : Settings) (lines : List Text) : List Diagnostic :=
  ((ofSettings settings).feedLines lines).1.finish.1.received

/-- Running through two lists of signals is running through one after the other. -/
theorem run_append (scanner : Scanner) (first second : List Signal) :
    scanner.run (first ++ second) = (scanner.run first).run second := List.foldl_append

end Scanner

end TexLog
