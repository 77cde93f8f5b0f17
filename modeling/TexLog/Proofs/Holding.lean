import TexLog.Proofs.DirectScanner

/-!
# A line held back only delays what is delivered

`Scanner.Fed` says, case by case, what one line makes of a scanner. A scanner is `Consistent` if it
holds a line back only while no message is in progress, and then the newest one. Looking at the held
line at once turns a consistent scanner into a scanner that holds no line back (`Scanner.direct`),
and this commutes with every signal (`direct_run`). So the two deliver the same by the end of a log,
and before that the scanner that holds lines back is behind by the diagnostic of the held line at
most.
-/

namespace TexLog

namespace Joiner

/-- A line is added to a message that has just begun on a full line. -/
theorem feed?_start_of_full {width : Int} {held : Text} (hfull : isShort width held = false)
    (joiner : Joiner) (diagnostic : Diagnostic) (line : Text) :
    (joiner.start width diagnostic held).1.feed? width line =
      some (joiner.start width ⟨diagnostic.kind, diagnostic.message ++ line⟩ line) := by
  rw [start_of_not_isShort hfull, feed?_of_pending rfl, start_pending]

end Joiner

namespace Scanner

/-- A line is full if it is as long as lines get. -/
theorem isFull_iff (scanner : Scanner) (line : Text) :
    scanner.isFull line = true ↔ scanner.settings.wrapWidth ≤ line.length := decide_eq_true_iff

/-- No message ends on a full line. -/
theorem isShort_of_isFull {scanner : Scanner} {line : Text} (hfull : scanner.isFull line = true) :
    isShort scanner.width line = false := by
  have := (scanner.isFull_iff line).1 hfull
  rw [isShort, decide_eq_false_iff_not, width]
  omega

/-- A message can end on a line that is not full. -/
theorem isShort_of_not_isFull {scanner : Scanner} {line : Text}
    (hfull : scanner.isFull line = false) : isShort scanner.width line = true := by
  have := mt (scanner.isFull_iff line).2 (Bool.eq_false_iff.1 hfull)
  rw [isShort, decide_eq_true_eq, width]
  omega

/-- The newest line. -/
def newest? (scanner : Scanner) : Option Text := scanner.recent.lines.getLast?

/-- What a scanner becomes when a line comes: the scanner after it and the diagnostic that the line
completes. -/
inductive Fed (scanner : Scanner) (line : Text) : Scanner × Option Diagnostic → Prop
  /-- The message in progress goes on. -/
  | continued {diagnostic : Diagnostic} (hpending : scanner.joiner.pending = some diagnostic) :
    Fed scanner line <|
      { scanner with recent := scanner.recent.push line }.joined <|
        scanner.joiner.start scanner.width ⟨diagnostic.kind, diagnostic.message ++ line⟩ line
  /-- The message goes on that begins on the line held back, a full one. -/
  | released {held : Text} {diagnostic : Diagnostic} (hidle : scanner.joiner.pending = none)
    (hheld : scanner.held = some held) (hfound : scanner.settings.recognise held = some diagnostic)
    (hfull : scanner.isFull held = true) :
    Fed scanner line <|
      { scanner with recent := scanner.recent.push line, held := none }.joined <|
        scanner.joiner.start scanner.width ⟨diagnostic.kind, diagnostic.message ++ line⟩ line
  /-- The line held back is a diagnostic of its own, and the new line is held in its place. -/
  | replaced {held : Text} {diagnostic : Diagnostic} (hidle : scanner.joiner.pending = none)
    (hheld : scanner.held = some held) (hfound : scanner.settings.recognise held = some diagnostic)
    (hshort : scanner.isFull held = false) :
    Fed scanner line <|
      { scanner with recent := scanner.recent.push line, held := some line }.joined <|
        scanner.joiner.finish diagnostic
  /-- The line comes after an empty one and is held back. -/
  | delayed (hidle : scanner.joiner.pending = none)
    (hquiet : scanner.held.bind scanner.settings.recognise = none)
    (hempty : (scanner.recent.push line).oldestIsEmpty = true) :
    Fed scanner line
      ({ scanner with recent := scanner.recent.push line, held := some line }, none)
  /-- A diagnostic begins on the line or on the one before it. -/
  | begun {diagnostic : Diagnostic} (hidle : scanner.joiner.pending = none)
    (hquiet : scanner.held.bind scanner.settings.recognise = none)
    (hempty : (scanner.recent.push line).oldestIsEmpty = false)
    (hfound : scanner.settings.recogniseAfter scanner.newest? line = some diagnostic) :
    Fed scanner line <|
      { scanner with recent := scanner.recent.push line, held := none }.joined <|
        scanner.joiner.start scanner.width diagnostic line
  /-- The line shows nothing. -/
  | passed (hidle : scanner.joiner.pending = none)
    (hquiet : scanner.held.bind scanner.settings.recognise = none)
    (hempty : (scanner.recent.push line).oldestIsEmpty = false)
    (hfound : scanner.settings.recogniseAfter scanner.newest? line = none) :
    Fed scanner line ({ scanner with recent := scanner.recent.push line, held := none }, none)

/-- Looking at the newest line together with the line before it. -/
theorem recogniseRecent_push (scanner : Scanner) (line : Text) (held : Option Text) :
    { scanner with recent := scanner.recent.push line, held := held }.recogniseRecent line =
      scanner.settings.recogniseAfter scanner.newest? line := by
  simp only [recogniseRecent_eq, Settings.recogniseAfter, RecentLines.previous?, RecentLines.text,
    RecentLines.lines_push_two, isFull_iff, newest?]
  cases scanner.recent.lines.getLast? <;> simp

/-- The newest line is looked at if nothing else is to be done. -/
theorem fed_examine {scanner : Scanner} {line : Text} (hidle : scanner.joiner.pending = none)
    (hquiet : scanner.held.bind scanner.settings.recognise = none) :
    scanner.Fed line
      ({ scanner with recent := scanner.recent.push line, held := none }.examine line) := by
  rw [examine_eq]
  cases hempty : (scanner.recent.push line).oldestIsEmpty with
  | true => simpa using Fed.delayed hidle hquiet hempty
  | false =>
    simp only [recogniseRecent_push, Bool.false_eq_true, if_false]
    cases hfound : scanner.settings.recogniseAfter scanner.newest? line with
    | some diagnostic => exact .begun hidle hquiet hempty hfound
    | none => exact .passed hidle hquiet hempty hfound

/-- The cases of `Fed` are all there is. -/
theorem fed_feed (scanner : Scanner) (text : Text) :
    scanner.Fed text.stripLineEnd (scanner.feed text) := by
  generalize hline : text.stripLineEnd = line
  rw [feed_eq]
  simp only [hline]
  cases hpending : scanner.joiner.pending with
  | some diagnostic =>
    simp only [Joiner.feed?_of_pending hpending]
    exact .continued hpending
  | none =>
    simp only [Joiner.feed?_of_idle hpending]
    cases hheld : scanner.held with
    | none => exact fed_examine hpending (by simp [hheld])
    | some held =>
      cases hfound : scanner.settings.recognise held with
      | none =>
        simp only [hfound]
        exact fed_examine hpending (by simp [hheld, hfound])
      | some diagnostic =>
        simp only [hfound, releaseHeld]
        split
        · next hfull =>
          have hfed := Joiner.feed?_start_of_full (isShort_of_isFull hfull) scanner.joiner
            diagnostic line
          simp only [width] at hfed
          simp only [width, hfed, Option.getD_some]
          exact .released hpending hheld hfound hfull
        · next hshort => exact .replaced hpending hheld hfound (Bool.eq_false_iff.2 hshort)

/-! ## What holds in every state of a scan -/

/-- What holds in every state that a scan comes to. -/
structure Consistent (scanner : Scanner) : Prop where
  /-- No line is held back while a message is in progress. -/
  idle : ∀ {held}, scanner.held = some held → scanner.joiner.pending = none
  /-- The line held back is the newest one. -/
  newest : ∀ {held}, scanner.held = some held → scanner.newest? = some held
  /-- While a message is in progress the newest line is full. -/
  full : ∀ {diagnostic}, scanner.joiner.pending = some diagnostic →
    ∃ line, scanner.newest? = some line ∧ isShort scanner.width line = false

/-- No line is held back while a message is in progress. -/
theorem Consistent.held_eq_none {scanner : Scanner} (hscanner : scanner.Consistent)
    {diagnostic : Diagnostic} (hpending : scanner.joiner.pending = some diagnostic) :
    scanner.held = none := by
  cases hheld : scanner.held with
  | none => rfl
  | some held => rw [hscanner.idle hheld] at hpending; cases hpending

/-- A scanner whose newest line is the given one, and full if a message is in progress, is
consistent if it holds back nothing, or the line while no message is in progress. -/
theorem Consistent.of_newest {scanner : Scanner} {line : Text}
    (hnewest : scanner.newest? = some line)
    (hheld : scanner.held = none ∨ scanner.held = some line ∧ scanner.joiner.pending = none)
    (hfull : isShort scanner.width line = true → scanner.joiner.pending = none) :
    scanner.Consistent where
  idle h := by
    rcases hheld with hnone | ⟨-, hidle⟩
    · rw [hnone] at h; cases h
    · exact hidle
  newest h := by
    rcases hheld with hnone | ⟨hsome, -⟩
    · rw [hnone] at h; cases h
    · rw [hnewest, ← hsome, h]
  full h := by
    refine ⟨line, hnewest, Bool.eq_false_iff.2 fun hshort => ?_⟩
    rw [hfull hshort] at h
    cases h

/-- A new scanner is consistent. -/
theorem consistent_ofSettings (settings : Settings) : (ofSettings settings).Consistent where
  idle h := nomatch h
  newest h := nomatch h
  full h := nomatch h

/-- A scanner that was reset is consistent. -/
theorem consistent_reset (scanner : Scanner) : scanner.reset.Consistent where
  idle h := nomatch h
  newest h := nomatch h
  full h := nomatch h

/-- The newest line is the one pushed last. -/
theorem newest?_push (recent : RecentLines 2) (line : Text) :
    (recent.push line).lines.getLast? = some line := by
  simp [RecentLines.lines_push_two]

/-- A line keeps a scanner consistent. -/
theorem Consistent.feed {scanner : Scanner} (hscanner : scanner.Consistent) (text : Text) :
    (scanner.feed text).1.Consistent := by
  have hfed := scanner.fed_feed text
  generalize text.stripLineEnd = line at hfed
  have hnewest := newest?_push scanner.recent line
  cases hresult : scanner.feed text with
  | mk next completed =>
  rw [hresult] at hfed
  cases hfed with
  | continued hpending =>
    refine .of_newest hnewest (.inl (hscanner.held_eq_none hpending)) fun hshort => ?_
    exact (Joiner.pending_start ..).trans (if_pos hshort)
  | released hidle hheld hfound hfull | begun hidle =>
    exact .of_newest hnewest (.inl rfl) fun hshort =>
      (Joiner.pending_start ..).trans (if_pos hshort)
  | replaced hidle hheld hfound hshort =>
    exact .of_newest hnewest (.inr ⟨rfl, rfl⟩) fun _ => rfl
  | delayed hidle => exact .of_newest hnewest (.inr ⟨rfl, hidle⟩) fun _ => hidle
  | passed hidle => exact .of_newest hnewest (.inl rfl) fun _ => hidle

/-- At the end of a log nothing is left over. -/
theorem Consistent.finish_quiet {scanner : Scanner} (hscanner : scanner.Consistent) :
    scanner.finish.1.held = none ∧ scanner.finish.1.joiner.pending = none := by
  rw [finish_eq]
  cases hpending : scanner.joiner.pending with
  | some diagnostic => exact ⟨hscanner.held_eq_none hpending, Joiner.pending_flush _⟩
  | none =>
    cases hfound : scanner.held.bind scanner.settings.recognise with
    | some diagnostic => exact ⟨rfl, rfl⟩
    | none => exact ⟨rfl, hpending⟩

/-- The end of a log keeps a scanner consistent. -/
theorem Consistent.finish {scanner : Scanner} (hscanner : scanner.Consistent) :
    scanner.finish.1.Consistent := by
  obtain ⟨hheld, hpending⟩ := hscanner.finish_quiet
  constructor <;> intro _ h
  · rw [hheld] at h; cases h
  · rw [hheld] at h; cases h
  · rw [hpending] at h; cases h

/-- A signal keeps a scanner consistent. -/
theorem Consistent.step {scanner : Scanner} (hscanner : scanner.Consistent) (signal : Signal) :
    (scanner.step signal).Consistent := by
  cases signal with
  | line text => exact hscanner.feed text
  | ending => exact hscanner.finish

/-- A run keeps a scanner consistent. -/
theorem Consistent.run {scanner : Scanner} (hscanner : scanner.Consistent)
    (signals : List Signal) : (scanner.run signals).Consistent := by
  induction signals generalizing scanner with
  | nil => exact hscanner
  | cons signal signals ih => exact ih (hscanner.step signal)

/-! ## Looking at the held line at once -/

/-- The scanner that holds no line back and is as far as this one: the line held back has been
looked at. -/
def direct (scanner : Scanner) : DirectScanner where
  settings := scanner.settings
  previous := scanner.newest?
  joiner :=
    match scanner.held with
    | some held => scanner.joiner.begin scanner.width (scanner.settings.recognise held) held
    | none => scanner.joiner

/-- Nothing is put off while no line is held back. -/
theorem joiner_direct_of_held_eq_none {scanner : Scanner} (hheld : scanner.held = none) :
    scanner.direct.joiner = scanner.joiner := by
  simp [direct, hheld]

/-- What is put off is the diagnostic that the line held back shows. -/
theorem joiner_direct_of_held {scanner : Scanner} {held : Text}
    (hheld : scanner.held = some held) :
    scanner.direct.joiner =
      scanner.joiner.begin scanner.width (scanner.settings.recognise held) held := by
  simp [direct, hheld]

/-- Nothing is put off if the line held back shows nothing. -/
theorem joiner_direct_of_quiet {scanner : Scanner}
    (hquiet : scanner.held.bind scanner.settings.recognise = none) :
    scanner.direct.joiner = scanner.joiner := by
  cases hheld : scanner.held with
  | none => exact joiner_direct_of_held_eq_none hheld
  | some held =>
    rw [hheld, Option.bind_some] at hquiet
    rw [joiner_direct_of_held hheld, hquiet, Joiner.begin_none]

/-- A line that makes the oldest one empty comes after an empty line or after none. -/
theorem newest?_of_oldestIsEmpty {scanner : Scanner} {line : Text}
    (hempty : (scanner.recent.push line).oldestIsEmpty = true) {before : Text}
    (hnewest : scanner.newest? = some before) : before = [] := by
  rw [newest?] at hnewest
  simpa [RecentLines.oldestIsEmpty, RecentLines.lines_push_two, hnewest] using hempty

/-- **A line does the same to a scanner and to the one that holds no line back.** -/
theorem direct_feed {scanner : Scanner} (hscanner : scanner.Consistent) (text : Text) :
    (scanner.feed text).1.direct = scanner.direct.feed text := by
  have hfed := scanner.fed_feed text
  generalize hline : text.stripLineEnd = line at hfed
  have hnewest := newest?_push scanner.recent line
  cases hresult : scanner.feed text with
  | mk next completed =>
  rw [hresult] at hfed
  cases hfed with
  | continued hpending =>
    have hheld := hscanner.held_eq_none hpending
    have hjoiner := joiner_direct_of_held_eq_none hheld
    rw [DirectScanner.feed_of_pending (hjoiner ▸ hpending), hjoiner, hline]
    exact DirectScanner.ext rfl hnewest (joiner_direct_of_held_eq_none hheld)
  | @released held diagnostic hidle hheld hfound hfull =>
    have hjoiner := joiner_direct_of_held hheld
    rw [hfound, Joiner.begin_some, Joiner.start_of_not_isShort (isShort_of_isFull hfull)] at hjoiner
    rw [DirectScanner.feed_of_pending (congrArg Joiner.pending hjoiner), hjoiner, hline,
      Joiner.start_pending]
    exact DirectScanner.ext rfl hnewest (joiner_direct_of_held_eq_none rfl)
  | @replaced held diagnostic hidle hheld hfound hfull =>
    have hjoiner := joiner_direct_of_held hheld
    rw [hfound, Joiner.begin_some, Joiner.start_of_isShort (isShort_of_not_isFull hfull)] at hjoiner
    have hshort : ∀ before, scanner.newest? = some before →
        before.length < scanner.settings.wrapWidth := by
      intro before hbefore
      rw [hscanner.newest hheld] at hbefore
      cases hbefore
      simpa [isFull_iff] using Bool.eq_false_iff.1 hfull
    have halone := scanner.settings.recogniseAfter_of_short hshort line
    rw [DirectScanner.feed_of_idle (congrArg Joiner.pending hjoiner), hjoiner, hline]
    refine DirectScanner.ext rfl hnewest ((joiner_direct_of_held rfl).trans ?_)
    exact (congrArg ((scanner.joiner.finish diagnostic).1.begin _ · line) halone).symm
  | delayed hidle hquiet hempty =>
    have hjoiner := joiner_direct_of_quiet hquiet
    have hshort : ∀ before, scanner.newest? = some before →
        before.length < scanner.settings.wrapWidth := by
      intro before hbefore
      rw [newest?_of_oldestIsEmpty hempty hbefore]
      exact scanner.settings.wrapWidth_pos
    have halone := scanner.settings.recogniseAfter_of_short hshort line
    rw [DirectScanner.feed_of_idle (hjoiner ▸ hidle), hjoiner, hline]
    refine DirectScanner.ext rfl hnewest ((joiner_direct_of_held rfl).trans ?_)
    exact (congrArg (scanner.joiner.begin _ · line) halone).symm
  | begun hidle hquiet hempty hfound =>
    have hjoiner := joiner_direct_of_quiet hquiet
    rw [DirectScanner.feed_of_idle (hjoiner ▸ hidle), hjoiner, hline]
    refine DirectScanner.ext rfl hnewest ((joiner_direct_of_held_eq_none rfl).trans ?_)
    exact (congrArg (scanner.joiner.begin _ · line) hfound).symm
  | passed hidle hquiet hempty hfound =>
    have hjoiner := joiner_direct_of_quiet hquiet
    rw [DirectScanner.feed_of_idle (hjoiner ▸ hidle), hjoiner, hline]
    refine DirectScanner.ext rfl hnewest ((joiner_direct_of_held_eq_none rfl).trans ?_)
    exact (congrArg (scanner.joiner.begin _ · line) hfound).symm

/-- **The end of a log does the same to a scanner and to the one that holds no line back.** -/
theorem direct_finish {scanner : Scanner} (hscanner : scanner.Consistent) :
    scanner.finish.1.direct = scanner.direct.finish := by
  cases hpending : scanner.joiner.pending with
  | some diagnostic =>
    have hheld := hscanner.held_eq_none hpending
    simp [finish_eq, DirectScanner.finish, direct, joined, newest?, hheld, hpending]
  | none =>
    have hidle : scanner.joiner.flush.1 = scanner.joiner := by simp [Joiner.flush, hpending]
    cases hheld : scanner.held with
    | none => simp [finish_eq, DirectScanner.finish, direct, newest?, hheld, hpending, hidle]
    | some held =>
      cases hfound : scanner.settings.recognise held with
      | none =>
        simp [finish_eq, DirectScanner.finish, direct, newest?, hheld, hpending, hfound, hidle]
      | some diagnostic =>
        simp [finish_eq, DirectScanner.finish, direct, joined, newest?, hheld, hpending, hfound,
          Joiner.flush_start]

/-- A signal does the same with and without holding lines back. -/
theorem direct_step {scanner : Scanner} (hscanner : scanner.Consistent) (signal : Signal) :
    (scanner.step signal).direct = scanner.direct.step signal := by
  cases signal with
  | line text => exact direct_feed hscanner text
  | ending => exact direct_finish hscanner

/-- A run does the same to a scanner and to the one that holds no line back. -/
theorem direct_run {scanner : Scanner} (hscanner : scanner.Consistent) (signals : List Signal) :
    (scanner.run signals).direct = scanner.direct.run signals := by
  induction signals generalizing scanner with
  | nil => rfl
  | cons signal signals ih =>
    rw [run, List.foldl_cons, DirectScanner.run, List.foldl_cons, ← direct_step hscanner signal]
    exact ih (hscanner.step signal)

/-- What is put off is the diagnostic of the line held back. -/
theorem received_direct (scanner : Scanner) :
    ∃ late, scanner.direct.received = scanner.received ++ late ∧
      (late = [] ∨ ∃ held diagnostic, scanner.held = some held ∧
        scanner.settings.recognise held = some diagnostic ∧ late = [diagnostic]) := by
  cases hheld : scanner.held with
  | none =>
    refine ⟨[], ?_, .inl rfl⟩
    simp [DirectScanner.received, received, joiner_direct_of_held_eq_none hheld]
  | some held =>
    cases hfound : scanner.settings.recognise held with
    | none =>
      refine ⟨[], ?_, .inl rfl⟩
      simp [DirectScanner.received, received, joiner_direct_of_held hheld, hfound]
    | some diagnostic =>
      cases hshort : isShort scanner.width held with
      | true =>
        refine ⟨[diagnostic], ?_, .inr ⟨held, diagnostic, rfl, hfound, rfl⟩⟩
        simp [DirectScanner.received, received, joiner_direct_of_held hheld, hfound,
          Joiner.start_of_isShort hshort, Joiner.finish, Outbox.deliver]
      | false =>
        refine ⟨[], ?_, .inl rfl⟩
        simp [DirectScanner.received, received, joiner_direct_of_held hheld, hfound,
          Joiner.start_of_not_isShort hshort]

/-- Nothing is put off at the end of a log. -/
theorem received_direct_finish {scanner : Scanner} (hscanner : scanner.Consistent) :
    scanner.finish.1.received = scanner.direct.finish.received := by
  rw [← direct_finish hscanner, DirectScanner.received,
    joiner_direct_of_held_eq_none hscanner.finish_quiet.1, received]

end Scanner

/-! ## Runs from the start -/

/-- Feeding lines is a run. -/
theorem Scanner.feedLines_fst (scanner : Scanner) (lines : List Text) :
    (scanner.feedLines lines).1 = scanner.run (lines.map .line) := by
  suffices h : ∀ completed, (lines.foldl (fun (state : Scanner × List Diagnostic) line =>
      ((state.1.feed line).1, state.2 ++ (state.1.feed line).2.toList))
      (scanner, completed)).1 = scanner.run (lines.map .line) by
    rw [feedLines_eq]
    exact h []
  induction lines generalizing scanner with
  | nil => exact fun _ => rfl
  | cons line lines ih => exact fun completed => ih (scanner.feed line).1 _

/-- A log has the same diagnostics for a scanner as for one that holds no line back. -/
theorem Scanner.diagnosticsOf_eq_direct (settings : Settings) (lines : List Text) :
    Scanner.diagnosticsOf settings lines = DirectScanner.diagnosticsOf settings lines := by
  have hscanner := consistent_ofSettings settings
  rw [Scanner.diagnosticsOf, feedLines_fst, received_direct_finish (hscanner.run _),
    direct_run hscanner]
  rfl

/-- **Holding lines back only delays diagnostics.** By the end of a log a scanner delivers what it
would deliver if it held no line back. Before that it has delivered as much, or all but the
diagnostic of the line that it holds back. -/
theorem run_delivers_as_directly (settings : Settings) (signals : List Signal) :
    let scanner := (Scanner.ofSettings settings).run signals
    let direct := (DirectScanner.ofSettings settings).run signals
    ((Scanner.ofSettings settings).run (signals ++ [.ending])).received =
        ((DirectScanner.ofSettings settings).run (signals ++ [.ending])).received ∧
      ∃ late, direct.received = scanner.received ++ late ∧
        (late = [] ∨ ∃ held diagnostic, scanner.held = some held ∧
          settings.recognise held = some diagnostic ∧ late = [diagnostic]) := by
  intro scanner direct
  have hscanner : scanner.Consistent := (Scanner.consistent_ofSettings settings).run signals
  have hdirect : scanner.direct = direct :=
    Scanner.direct_run (Scanner.consistent_ofSettings settings) signals
  have hsettings : scanner.settings = settings :=
    (congrArg DirectScanner.settings hdirect).trans (DirectScanner.settings_run _ signals)
  constructor
  · rw [Scanner.run_append, DirectScanner.run_append]
    exact (Scanner.received_direct_finish hscanner).trans (by rw [hdirect]; rfl)
  · rw [← hdirect, ← hsettings]
    exact scanner.received_direct

end TexLog
