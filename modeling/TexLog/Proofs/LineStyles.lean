import Mathlib.Data.List.DropRight
import TexLog.Log.Reading
import TexLog.Proofs.DirectScanner
import TexLog.Proofs.LineEnds

/-!
# The style of line ends

The lines of a log may end in line feeds, in carriage returns, or in both. A text in one of these
styles is cut into the lines that were written, whatever other characters they have
(`LineStyle.Writes.lines`), and the scanner takes all line ends off the end of a line
(`Scanner.feed_stripLineEnd`). So a log gives the same report in every style, as a text and as a
list of lines with or without their line ends (`LogReader.ofText_of_writes`).
-/

namespace TexLog

/-! ## Lines without their line ends -/

namespace Text

/-- No line end is in a text. -/
def Unbroken (text : Text) : Prop := ∀ c ∈ text, isLineEnd c = false

instance (text : Text) : Decidable text.Unbroken := List.decidableBAll _ text

/-- Line ends are taken off only once. -/
theorem stripLineEnd_stripLineEnd (line : Text) :
    line.stripLineEnd.stripLineEnd = line.stripLineEnd :=
  List.rdropWhile_idempotent isLineEnd line

/-- All line ends at the end of a line are taken off. -/
theorem stripLineEnd_append {ending : Text} (hending : ∀ c ∈ ending, isLineEnd c = true)
    (line : Text) : (line ++ ending).stripLineEnd = line.stripLineEnd := by
  have hreversed : ∀ c ∈ ending.reverse, isLineEnd c = true := fun c hc =>
    hending c (List.mem_reverse.1 hc)
  rw [stripLineEnd, List.reverse_append, List.dropWhile_append_of_pos hreversed]
  rfl

/-- Nothing is taken off a line that has no line end. -/
theorem Unbroken.stripLineEnd {line : Text} (hline : line.Unbroken) : line.stripLineEnd = line := by
  refine List.rdropWhile_eq_self_iff.2 fun hne => ?_
  simp [hline _ (List.getLast_mem hne)]

/-- Lines come back when the ends that were put to them are taken off. -/
theorem map_stripLineEnd_append {lines : List Text} (hlines : ∀ line ∈ lines, line.Unbroken)
    {ending : Text} (hending : ∀ c ∈ ending, isLineEnd c = true) :
    (lines.map (· ++ ending)).map Text.stripLineEnd = lines := by
  rw [List.map_map]
  refine Eq.trans (List.map_congr_left fun line hline => ?_) (List.map_id _)
  exact (stripLineEnd_append hending line).trans (hlines line hline).stripLineEnd

/-- Unbroken lines have no line ends to be left out. -/
theorem map_stripLineEnd {lines : List Text} (hlines : ∀ line ∈ lines, line.Unbroken) :
    lines.map Text.stripLineEnd = lines := by
  have hnothing : ∀ c ∈ ([] : Text), isLineEnd c = true := by simp
  simpa using map_stripLineEnd_append hlines hnothing

end Text

section
variable {m : Type → Type} [Monad m] (look : Scanner → Text → m (Option Diagnostic))

namespace Scanner

/-- A line does the same with and without its line end. -/
theorem feedWith_stripLineEnd (scanner : Scanner) (text : Text) :
    scanner.feedWith look text.stripLineEnd = scanner.feedWith look text := by
  unfold feedWith
  rw [Text.stripLineEnd_stripLineEnd]

/-- Lines are taken in the same way without their line ends. -/
theorem feedLinesWith_map_stripLineEnd (scanner : Scanner) (lines : List Text) :
    scanner.feedLinesWith look (lines.map Text.stripLineEnd) =
      scanner.feedLinesWith look lines := by
  simp only [feedLinesWith, List.foldlM_map, feedWith_stripLineEnd]

end Scanner

namespace LogReader
variable [LawfulMonad m] {Source Other : Type}

/-- The source of a report does not matter for its diagnostics. -/
theorem closeWith_eq_map (reader : LogReader) (source : Source) (other : Other)
    (scanner : Scanner) :
    reader.closeWith look source scanner =
      (fun report => ⟨source, report.diagnostics⟩) <$> reader.closeWith look other scanner := by
  unfold closeWith
  split <;> simp

/-- Lines that are the same without their line ends have the same diagnostics. -/
theorem ofLinesWith_of_map_stripLineEnd (reader : LogReader) {first second : List Text}
    (hsame : first.map Text.stripLineEnd = second.map Text.stripLineEnd) (source : Source)
    (other : Other) :
    reader.ofLinesWith look source first =
      (fun report => ⟨source, report.diagnostics⟩) <$> reader.ofLinesWith look other second := by
  unfold ofLinesWith
  rw [← Scanner.feedLinesWith_map_stripLineEnd, hsame, Scanner.feedLinesWith_map_stripLineEnd,
    map_bind]
  exact congrArg _ (funext fun _ => reader.closeWith_eq_map look source other _)

end LogReader

end

namespace LogReader
variable {Source Other : Type}

/-- Lines that differ in their line ends only have the same diagnostics. -/
theorem ofLines_of_map_stripLineEnd (reader : LogReader) {first second : List Text}
    (hsame : first.map Text.stripLineEnd = second.map Text.stripLineEnd) (source : Source)
    (other : Other) :
    reader.ofLines source first = ⟨source, (reader.ofLines other second).diagnostics⟩ :=
  reader.ofLinesWith_of_map_stripLineEnd Scanner.answer hsame source other

/-- Of lines that differ in their line ends only comes the same. -/
theorem tryLines_of_map_stripLineEnd (reader : LogReader) {first second : List Text}
    (hsame : first.map Text.stripLineEnd = second.map Text.stripLineEnd) (source : Source)
    (other : Other) :
    reader.tryLines source first =
      (reader.tryLines other second).map fun report => ⟨source, report.diagnostics⟩ := by
  unfold tryLines
  rw [reader.ofLinesWith_of_map_stripLineEnd Scanner.attempt hsame source other]
  cases reader.ofLinesWith Scanner.attempt other second <;> rfl

end LogReader

/-! ## Styles -/

/-- How lines are ended. -/
inductive LineStyle
  /-- By line feeds. -/
  | feed
  /-- By carriage returns with line feeds after them. -/
  | both
  /-- By carriage returns. -/
  | carriageReturn
  deriving DecidableEq, Repr

namespace LineStyle

/-- The end of a line. -/
def ending : LineStyle → Text
  | feed => ['\n']
  | both => ['\r', '\n']
  | carriageReturn => ['\r']

/-- Lines one after the other, each with its end. -/
def write (style : LineStyle) (lines : List Text) : Text := lines.flatMap (· ++ style.ending)

/-- A text that has the given lines, each with its end; the last one may lack it, unless it is
empty. -/
inductive Writes (style : LineStyle) : List Text → Text → Prop
  | ended (lines : List Text) : Writes style lines (style.write lines)
  | unended (lines : List Text) {last : Text} (hlast : last ≠ []) :
    Writes style (lines ++ [last]) (style.write lines ++ last)

variable {style : LineStyle} {lines : List Text}

/-- The line ends of a style are characters of line ends. -/
theorem isLineEnd_of_mem_ending {c : Char} (hc : c ∈ style.ending) :
    Text.isLineEnd c = true := by
  have hall : style.ending.all Text.isLineEnd = true := by cases style <;> decide
  exact List.all_eq_true.1 hall c hc

/-- What is written after a carriage return does not begin with a line feed, so that the two are not
taken for one line end. -/
theorem head?_write_append (hlines : ∀ line ∈ lines, line.Unbroken) {tail : Text}
    (htail : tail.head? ≠ some '\n') :
    (carriageReturn.write lines ++ tail).head? ≠ some '\n' := by
  cases lines with
  | nil => exact htail
  | cons line lines =>
    have hline := hlines line (by simp)
    cases line with
    | nil => simp [write, ending]
    | cons c line =>
      have hc : c ≠ '\n' := by
        rintro rfl
        exact absurd (hline '\n' (by simp)) (by decide)
      simpa [write] using hc

/-- The end of a line is one line end for whoever reads the text. -/
theorem lineEnding_ending (style : LineStyle) (hlines : ∀ line ∈ lines, line.Unbroken)
    {tail : Text} (htail : tail.head? ≠ some '\n') :
    Text.LineEnding style.ending (style.write lines ++ tail) := by
  cases style with
  | feed => exact .feed
  | both => exact .both
  | carriageReturn => exact .carriageReturn (head?_write_append hlines htail)

/-- A text is cut after the lines that were written, and what comes after them is cut by itself. -/
theorem cutsInto_write_append (style : LineStyle) (hlines : ∀ line ∈ lines, line.Unbroken)
    {tail : Text} {rest : List Text} (htail : tail.head? ≠ some '\n') (hrest : tail.CutsInto rest) :
    (style.write lines ++ tail).CutsInto (lines.map (· ++ ['\n']) ++ rest) := by
  induction lines with
  | nil => exact hrest
  | cons line lines ih =>
    obtain ⟨hline, hlater⟩ := List.forall_mem_cons.1 hlines
    have hcut := Text.CutsInto.line hline (style.lineEnding_ending hlater htail) (ih hlater)
    simpa [write] using hcut

/-- **A text is cut into the lines that were written**, and nowhere else. -/
theorem Writes.map_stripLineEnd_lines (hlines : ∀ line ∈ lines, line.Unbroken) {text : Text}
    (htext : style.Writes lines text) : text.lines.map Text.stripLineEnd = lines := by
  -- Lines that are cut from a text end in a line feed, in whatever style they were written.
  have hfeed : ∀ c ∈ ['\n'], Text.isLineEnd c = true := List.forall_mem_singleton.2 rfl
  cases htext with
  | ended lines =>
    have hcut : (style.write lines ++ []).CutsInto (lines.map (· ++ ['\n']) ++ []) :=
      style.cutsInto_write_append hlines (by simp) .nil
    rw [List.append_nil, List.append_nil] at hcut
    rw [← hcut.eq_lines]
    exact Text.map_stripLineEnd_append hlines hfeed
  | @unended before last hlast =>
    obtain ⟨hbefore, hunbroken⟩ := List.forall_mem_append.1 hlines
    have hline : last.Unbroken := hunbroken last (by simp)
    have hhead : last.head? ≠ some '\n' := by
      intro hhead
      exact absurd (hline '\n' (List.mem_of_mem_head? hhead)) (by decide)
    have hcut := style.cutsInto_write_append hbefore hhead (.last hlast hline)
    rw [← hcut.eq_lines, List.map_append, Text.map_stripLineEnd_append hbefore hfeed,
      Text.map_stripLineEnd hunbroken]

end LineStyle

/-! ## Reports -/

namespace LogReader

/-- **The style of line ends does not matter.** A text that has lines in any style is cut after
these lines and nowhere else, whatever other characters they have. The report on it has the
diagnostics of the report on the lines alone, and so has the report on the lines with their ends. If
a search breaks off in one of them, it does in all of them. -/
theorem ofText_of_writes (reader : LogReader) {style : LineStyle} {lines : List Text}
    {text : Text} (hlines : ∀ line ∈ lines, line.Unbroken) (htext : style.Writes lines text)
    (source other : Text) :
    let found := (reader.ofLines other lines).diagnostics
    let outcome := (reader.tryLines other lines).map fun report =>
      (⟨source, report.diagnostics⟩ : Report)
    text.lines.map Text.stripLineEnd = lines ∧
      reader.ofText source text = ⟨source, found⟩ ∧
      reader.ofLines source (lines.map (· ++ style.ending)) = ⟨source, found⟩ ∧
      reader.tryText source text = outcome ∧
      reader.tryLines source (lines.map (· ++ style.ending)) = outcome := by
  have hplain := Text.map_stripLineEnd hlines
  have hcut := htext.map_stripLineEnd_lines hlines
  have hended : (lines.map (· ++ style.ending)).map Text.stripLineEnd = lines :=
    Text.map_stripLineEnd_append hlines fun _ => LineStyle.isLineEnd_of_mem_ending
  have hwhole := hcut.trans hplain.symm
  have hapart := hended.trans hplain.symm
  exact ⟨hcut, reader.ofLines_of_map_stripLineEnd hwhole source other,
    reader.ofLines_of_map_stripLineEnd hapart source other,
    reader.tryLines_of_map_stripLineEnd hwhole source other,
    reader.tryLines_of_map_stripLineEnd hapart source other⟩

/-- Carriage returns, the last of which is missing, after a full line, an empty line and a line with
other characters that end lines elsewhere. -/
theorem ofText_of_writes_carriage_returns :
    let reader : LogReader := { settings := .ofWidth 8 (by decide) }
    let text : Text := "a:1: xyz\r\x0c\u0085\r\rb:2: c\u2028".toList
    let lines : List Text := ["a:1: xyz".toList, "\x0c\u0085".toList, [], "b:2: c\u2028".toList]
    let found : List Diagnostic :=
      [⟨.error, "xyz\x0c\u0085".toList⟩, ⟨.error, "c\u2028".toList⟩]
    let report : Report := ⟨[], found⟩
    text.lines.map Text.stripLineEnd = lines ∧ reader.ofText [] text = report ∧
      reader.ofLines [] (lines.map (· ++ ['\r'])) = report ∧
      reader.tryText [] text = .ok report ∧
      reader.tryLines [] (lines.map (· ++ ['\r'])) = .ok report := by
  intro reader text lines found report
  have hlines : ∀ line ∈ lines, line.Unbroken := by decide
  have htext : LineStyle.carriageReturn.Writes lines text :=
    .unended ["a:1: xyz".toList, "\x0c\u0085".toList, []] (by decide)
  have hfound : (reader.ofLines ([] : Text) lines).diagnostics = found := by decide +kernel
  have houtcome : reader.tryLines ([] : Text) lines = .ok report := by decide +kernel
  obtain ⟨hcut, hwhole, hapart, htried, htries⟩ := reader.ofText_of_writes hlines htext [] []
  rw [hfound] at hwhole hapart
  rw [houtcome] at htried htries
  exact ⟨hcut, hwhole, hapart, htried, htries⟩

end LogReader

end TexLog
