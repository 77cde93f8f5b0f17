import TexLog.Log.Reading
import TexLog.Proofs.Completed
import TexLog.Proofs.Decoding
import TexLog.Proofs.LineEnds

/-!
# Logs as texts and as files

A scan takes the same steps whether its searches are answered or may break off. So what comes of it
is what it finds if every search is answered, or else the failure of one of its searches
(`Attempt`); nothing is found by the way if it breaks off.

A log can be scanned as a text, for which the scanner returns what it finds, or reported on as a
text or as a file, for which what the scanner delivers is gathered. All of this comes to the same
(`LogReader.readings_agree`). What the text of a file is does not depend on the file being
well-formed: it is the only text for which its bytes stand, in the sense of `Utf8.Decodes`.
-/

namespace TexLog

/-! ## Searches that break off -/

/-- What may come of something that finds `answered` if every search for a pattern is answered. -/
inductive Attempt {α : Type} (pattern : Pattern) (answered : α) :
    Except Scanner.Breakdown α → Prop
  /-- Every search is answered. -/
  | answered : Attempt pattern answered (.ok answered)
  /-- A search breaks off. -/
  | broken {breakdown : Scanner.Breakdown} {text : Text}
    (h : pattern.failure? text = some breakdown.error) :
    Attempt pattern answered (.error breakdown)

namespace Attempt

/-- What is done with what has been found may break off as well. -/
theorem bind {α β : Type} {pattern : Pattern} {answered : α} {tried : Except Scanner.Breakdown α}
    (h : Attempt pattern answered tried) {result : β} {next : α → Except Scanner.Breakdown β}
    (hnext : Attempt pattern result (next answered)) : Attempt pattern result (tried >>= next) := by
  cases h with
  | answered => exact hnext
  | broken hbroken => exact .broken hbroken

end Attempt

namespace Scanner

/-- A look at a text finds what it shows, or breaks off. -/
theorem attempt_attempt (scanner : Scanner) (text : Text) :
    Attempt scanner.settings.errorRule.pattern (scanner.settings.recognise text)
      (scanner.attempt text) := by
  rw [attempt, Settings.look_eq]
  cases hfailure : scanner.settings.errorRule.pattern.failure? text with
  | some error => exact .broken hfailure
  | none => exact .answered

/-- The newest line is looked at as it is if every search is answered. -/
theorem attempt_recogniseRecent (scanner : Scanner) (line : Text) :
    Attempt scanner.settings.errorRule.pattern (scanner.recogniseRecent line)
      (scanner.recogniseRecentWith attempt line) := by
  have hline := scanner.attempt_attempt line
  rw [recogniseRecent_eq, recogniseRecentWith]
  cases scanner.recent.previous? with
  | none => exact Attempt.answered.bind hline
  | some previous =>
    simp only [Option.bind_eq_bind, Option.bind_some]
    split
    · refine (scanner.attempt_attempt _).bind ?_
      cases scanner.settings.recognise scanner.recent.text with
      | none => exact hline
      | some diagnostic => exact .answered
    · exact Attempt.answered.bind hline

/-- Examining a line does the same as if every search were answered, or a search breaks off. -/
theorem attempt_examine (scanner : Scanner) (line : Text) :
    Attempt scanner.settings.errorRule.pattern (scanner.examine line)
      (scanner.examineWith attempt line) := by
  rw [examine_eq, examineWith]
  split
  · exact .answered
  · refine (scanner.attempt_recogniseRecent line).bind ?_
    cases scanner.recogniseRecent line <;> exact .answered

/-- **A line does the same as if every search were answered, or a search breaks off.** -/
theorem attempt_feed (scanner : Scanner) (text : Text) :
    Attempt scanner.settings.errorRule.pattern (scanner.feed text) (scanner.tryFeed text) := by
  let free : Scanner :=
    { scanner with recent := scanner.recent.push text.stripLineEnd, held := none }
  rw [feed_eq, tryFeed, feedWith]
  dsimp only
  split
  · exact .answered
  · cases scanner.held with
    | none => exact free.attempt_examine _
    | some held =>
      refine Attempt.bind (free.attempt_attempt held) ?_
      dsimp only [free]
      cases scanner.settings.recognise held with
      | none => exact free.attempt_examine _
      | some diagnostic => exact .answered

/-- The end of a log does the same as if every search were answered, or a search breaks off. -/
theorem attempt_finish (scanner : Scanner) :
    Attempt scanner.settings.errorRule.pattern scanner.finish scanner.tryFinish := by
  rw [finish_eq, tryFinish, finishWith]
  split
  · exact .answered
  · cases scanner.held with
    | none => exact .answered
    | some held =>
      refine Attempt.bind (attempt_attempt { scanner with held := none } held) ?_
      dsimp only [Option.bind_some]
      cases scanner.settings.recognise held <;> exact .answered

/-- A line does not change what is known about the output of the compiler. -/
theorem settings_feed (scanner : Scanner) (text : Text) :
    (scanner.feed text).1.settings = scanner.settings := by
  have hfed := scanner.fed_feed text
  generalize scanner.feed text = result at hfed
  cases hfed <;> rfl

/-- Several lines do the same as if every search were answered, or a search breaks off. -/
theorem attempt_feedLines (scanner : Scanner) (lines : List Text) :
    Attempt scanner.settings.errorRule.pattern (scanner.feedLines lines)
      (scanner.tryFeedLines lines) := by
  rw [feedLines_eq, tryFeedLines, feedLinesWith]
  generalize ([] : List Diagnostic) = completed
  induction lines generalizing scanner completed with
  | nil => exact .answered
  | cons line lines ih =>
    have hline : Attempt scanner.settings.errorRule.pattern
        ((scanner.feed line).1, completed ++ (scanner.feed line).2.toList)
        (scanner.tryFeed line >>= fun result =>
          .ok (result.1, completed ++ result.2.toList)) :=
      (scanner.attempt_feed line).bind .answered
    refine hline.bind ?_
    rw [← scanner.settings_feed line]
    exact ih _ _

/-- Lines do not change what is known about the output of the compiler. -/
theorem settings_feedLines (scanner : Scanner) (lines : List Text) :
    (scanner.feedLines lines).1.settings = scanner.settings := by
  rw [feedLines_fst]
  induction lines generalizing scanner with
  | nil => rfl
  | cons line lines ih => exact (ih _).trans (scanner.settings_feed line)

/-- **A whole log comes to what it comes to if every search is answered, or a search breaks
off.** -/
theorem attempt_scan (scanner : Scanner) (text : Text) (flush : Bool) :
    Attempt scanner.settings.errorRule.pattern (scanner.scan text flush)
      (scanner.tryScan text flush) := by
  rw [scan_eq, tryScan, scanWith]
  refine (scanner.attempt_feedLines text.lines).bind ?_
  dsimp only
  split
  · rw [← scanner.settings_feedLines text.lines]
    exact (attempt_finish _).bind .answered
  · exact .answered

end Scanner

/-! ## Reports -/

namespace LogReader
variable {Source : Type}

/-- What a report on a text gathers is what a scan of the text returns. -/
theorem ofText_eq (reader : LogReader) (source : Source) (text : Text) :
    reader.ofText source text =
      ⟨source, ((Scanner.ofSettings reader.settings).scan text reader.flush).2⟩ := by
  have hgathered : reader.ofText source text =
      ⟨source, ((Scanner.ofSettings reader.settings).scan text reader.flush).1.received⟩ := by
    unfold ofText
    rw [ofLines_eq, close]
    cases reader.flush <;> rfl
  rw [hgathered, Scanner.received_scan]
  rfl

section
variable {m : Type → Type} [Monad m] [LawfulMonad m] (look : Scanner → Text → m (Option Diagnostic))

/-- A report on a text takes the steps of a scan of the text. -/
theorem ofLinesWith_lines (reader : LogReader) (source : Source) (text : Text) :
    reader.ofLinesWith look source text.lines =
      (fun result => ⟨source, result.1.received⟩) <$>
        (Scanner.ofSettings reader.settings).scanWith look text reader.flush := by
  unfold ofLinesWith Scanner.scanWith closeWith
  rw [map_bind]
  refine congrArg _ (funext fun _ => ?_)
  cases reader.flush <;> simp

end

/-- What comes of a report on a text is what comes of a scan of the text. -/
theorem tryText_eq (reader : LogReader) (source : Source) (text : Text) :
    reader.tryText source text =
      (((Scanner.ofSettings reader.settings).tryScan text reader.flush).map fun result =>
        (⟨source, result.2⟩ : ReportOn Source)).mapError (·.error) := by
  rw [tryText, tryLines, ofLinesWith_lines, Scanner.tryScan]
  have hscan := (Scanner.ofSettings reader.settings).attempt_scan text reader.flush
  rw [Scanner.tryScan] at hscan
  generalize (Scanner.ofSettings reader.settings).scanWith Scanner.attempt text reader.flush =
    tried at hscan ⊢
  cases hscan with
  | broken hbroken => rfl
  | answered =>
    have hreceived := (Scanner.ofSettings reader.settings).received_scan text reader.flush
    exact congrArg (fun found => Except.ok (⟨source, found⟩ : ReportOn Source)) hreceived

/-- The report on a text is that of which every search is answered, or a search breaks off. -/
theorem tryText_cases (reader : LogReader) (source : Source) (text : Text) :
    reader.tryText source text = .ok (reader.ofText source text) ∨
      ∃ searched error, reader.settings.errorRule.pattern.failure? searched = some error ∧
        reader.tryText source text = .error error := by
  rw [tryText_eq, ofText_eq]
  have hscan := (Scanner.ofSettings reader.settings).attempt_scan text reader.flush
  generalize (Scanner.ofSettings reader.settings).tryScan text reader.flush = tried at hscan ⊢
  cases hscan with
  | answered => exact .inl rfl
  | broken hbroken => exact .inr ⟨_, _, hbroken, rfl⟩

/-- A report on a file is one on the text of its bytes. -/
theorem exists_of_ofFile {reader : LogReader} {tree : Tree} {path : Path} {report : FileReport}
    (h : reader.ofFile tree path = .ok report) :
    ∃ bytes, tree.read path = .ok bytes ∧
      report = reader.ofText path.toStr (Utf8.decode bytes) := by
  cases hread : tree.read path with
  | error error =>
    rw [reader.ofFile_of_read_error hread] at h
    cases h
  | ok bytes =>
    rw [reader.ofFile_of_read hread, tryBytes] at h
    refine ⟨bytes, rfl, ?_⟩
    rcases reader.tryText_cases path.toStr (Utf8.decode bytes) with hanswered | ⟨_, _, -, hbroken⟩
    · rw [hanswered] at h
      exact (Except.ok.inj h).symm
    · rw [hbroken] at h
      cases h

/-- **All ways to read a log agree.** A report on a text has the diagnostics that a scan of the text
returns, and it does not matter whether the text or its lines are given; if a search for the pattern
of errors breaks off in one of them, it does in all of them, and else all come to the same as if
every search were answered. The report on a file is that on the text that was encoded in it, and,
whatever its bytes are, that on the one text for which they stand. -/
theorem readings_agree (reader : LogReader) :
    (∀ source text : Text,
      let scanner := Scanner.ofSettings reader.settings
      reader.ofText source text = ⟨source, (scanner.scan text reader.flush).2⟩ ∧
        (reader.tryText source text =
          ((scanner.tryScan text reader.flush).map fun result =>
            (⟨source, result.2⟩ : Report)).mapError (·.error)) ∧
        (reader.tryText source text = .ok (reader.ofText source text) ∨
          ∃ searched error, reader.settings.errorRule.pattern.failure? searched = some error ∧
            reader.tryText source text = .error error) ∧
        ∃ lines, (∀ other, text.CutsInto other ↔ other = lines) ∧
          reader.ofText source text = reader.ofLines source lines ∧
          reader.tryText source text = reader.tryLines source lines) ∧
    (∀ tree path text, tree.read path = .ok (Utf8.encode text) →
      reader.ofFile tree path = (reader.tryText path.toStr text).mapError .searchFailed) ∧
    ∀ tree path bytes, tree.read path = .ok bytes →
      ∃ text, (∀ other, Utf8.Decodes bytes other ↔ other = text) ∧
        reader.ofFile tree path = (reader.tryText path.toStr text).mapError .searchFailed := by
  refine ⟨fun source text => ?_, fun tree path text hread => ?_, fun tree path bytes hread => ?_⟩
  · exact ⟨reader.ofText_eq source text, reader.tryText_eq source text,
      reader.tryText_cases source text, text.lines, fun _ => Text.cutsInto_iff, rfl, rfl⟩
  · rw [reader.ofFile_of_read hread, tryBytes, Utf8.decode_encode]
  · exact ⟨_, fun _ => Utf8.decodes_iff, reader.ofFile_of_read hread⟩

/-- A file that is well-formed, and one that begins with a byte order mark and has a character that
a carriage return cuts off. -/
theorem readings_agree_malformed :
    let text := "a:1: \u00e9\r\nb:2: c".toList
    let broken := [0xEF, 0xBB, 0xBF] ++ Utf8.encode "a:1: b".toList ++ [0xE2, 0x82] ++
      Utf8.encode "\r\x0cc:2: d".toList
    let tree : Tree := { entries := [
      ([Utf8.encode "plain.log".toList], .file (Utf8.encode text)),
      ([Utf8.encode "broken.log".toList], .file broken)] }
    ({} : LogReader).ofFile tree ⟨[], ["plain.log".toList]⟩ =
        .ok ⟨Str.of "plain.log", [⟨.error, "\u00e9".toList⟩, ⟨.error, "c".toList⟩]⟩ ∧
      ({} : LogReader).ofFile tree ⟨[], ["broken.log".toList]⟩ =
        .ok ⟨Str.of "broken.log", [⟨.error, "b\ufffd".toList⟩, ⟨.error, "d".toList⟩]⟩ := by
  intro text broken tree
  obtain ⟨-, hencoded, hread⟩ := readings_agree {}
  constructor
  · exact (hencoded tree ⟨[], ["plain.log".toList]⟩ text (by decide +kernel)).trans
      (by decide +kernel)
  · obtain ⟨decoded, hdecoded, hfile⟩ :=
      hread tree ⟨[], ["broken.log".toList]⟩ broken (by decide +kernel)
    obtain rfl := Utf8.decodes_iff.1 ((hdecoded decoded).2 rfl)
    exact hfile.trans (by decide +kernel)

end LogReader

end TexLog
