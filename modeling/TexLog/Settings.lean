import TexLog.Pattern.Basic

/-!
# Settings

What is known about the output of a compiler: the width at which it wraps its lines, the texts with
which its warnings begin, and the pattern of its errors. The fields carry what makes them usable, so
that whoever holds settings need not ask again.
-/

namespace TexLog

/-- The name of the group that captures the message of an error. -/
def messageGroup : Text := "message".toList

/-- A pattern for errors, as written and as read. -/
structure ErrorRule where
  /-- The written pattern. -/
  written : Str
  /-- The pattern that it denotes. -/
  pattern : Pattern
  hasMessage : pattern.hasGroup messageGroup = true
  deriving DecidableEq

namespace ErrorRule

/-- Whether the pattern is what the written pattern denotes. -/
def IsRead [Runtime] (rule : ErrorRule) : Prop := Pattern.read rule.written = .ok rule.pattern

/-- What a written pattern denotes is determined by it. -/
theorem IsRead.eq [Runtime] {a b : ErrorRule} (ha : a.IsRead) (hb : b.IsRead)
    (h : a.written = b.written) : a = b := by
  obtain ⟨written, pattern, _⟩ := a
  obtain ⟨_, pattern', _⟩ := b
  subst h
  obtain rfl : pattern = pattern' := Except.ok.inj (ha.symm.trans hb)
  rfl

/-- The message of an error that a text shows, if the pattern matches and captures one. -/
def message? (rule : ErrorRule) (text : Text) : Option Text := do
  let found ← rule.pattern.leftmost text
  found.named? rule.pattern messageGroup

/-- What comes of looking for the message of an error in a text. The search may break off. -/
def search (rule : ErrorRule) (text : Text) : Except PatternError (Option Text) :=
  (rule.pattern.search text).map fun found =>
    found.bind (·.named? rule.pattern messageGroup)

/-- What `standard` denotes: an optional file name up to a colon, a line number up to a colon and a
space, and the message up to the end of the line. -/
def standardPattern : Pattern :=
  let digits := Pattern.Node.one (.set false [.ofClass .digit true])
  let anything := Pattern.Node.repeated .greedy 1 none (.one .any)
  { node := .sequence [
      .anchor .lineStart,
      .repeated .greedy 0 (some 1) (.group (some 1) [] [] anything),
      .one (.literal 0x3A),
      .group (some 2) [] [] (.repeated .greedy 1 none digits),
      .one (.literal 0x3A),
      .one (.literal 0x20),
      .group (some 3) [] [] anything,
      .anchor .lineEnd]
    modes := []
    names := [("file".toList, 1), ("line".toList, 2), (messageGroup, 3)] }

/-- The pattern of errors that are reported with their file and line. -/
def standard : ErrorRule where
  written := Str.of "^(?P<file>.+)?:(?P<line>\\d+): (?P<message>.+)$"
  pattern := standardPattern
  hasMessage := by decide

end ErrorRule

/-- The output format of a compiler. -/
structure Settings where
  /-- The number of characters at which lines are wrapped. -/
  wrapWidth : Nat
  /-- The strings with which warnings begin. -/
  warningPrefixes : List Str
  /-- The pattern of errors. -/
  errorRule : ErrorRule
  wrapWidth_pos : 0 < wrapWidth
  warningPrefixes_ne : ∀ start ∈ warningPrefixes, start ≠ []
  deriving DecidableEq

namespace Settings

@[ext] theorem ext {a b : Settings} (width : a.wrapWidth = b.wrapWidth)
    (prefixes : a.warningPrefixes = b.warningPrefixes) (rule : a.errorRule = b.errorRule) :
    a = b := by
  obtain ⟨_, _, _, _, _⟩ := a
  obtain ⟨_, _, _, _, _⟩ := b
  simp_all

/-- How the warnings of the usual compilers begin. -/
def standardPrefixes : List Str := [
  Str.of "LaTeX Warning: ",
  Str.of "LaTeX Font Warning: ",
  Str.of "AVAIL list clobbered at",
  Str.of "Double-AVAIL list clobbered at",
  Str.of "Doubly free location at",
  Str.of "Bad flag at",
  Str.of "Runaway definition",
  Str.of "Runaway argument",
  Str.of "Runaway text",
  Str.of "Missing character: There is no",
  Str.of "No pages of output.",
  Str.of "Underfull \\hbox",
  Str.of "Overfull \\hbox",
  Str.of "Loose \\hbox",
  Str.of "Tight \\hbox",
  Str.of "Underfull \\vbox",
  Str.of "Overfull \\vbox",
  Str.of "Loose \\vbox",
  Str.of "Tight \\vbox"]

/-- The output format of the usual compilers. -/
def standard : Settings where
  wrapWidth := 79
  warningPrefixes := standardPrefixes
  errorRule := .standard
  wrapWidth_pos := by decide
  warningPrefixes_ne := by decide

end Settings

end TexLog
