import TexLog.Text.Basic

/-!
# Physical lines

A line of a text file ends at a line feed, at a carriage return, or at a carriage return with a line
feed after it; nothing else ends a line. `Text.lines` cuts a text into its lines with every line end
written as one line feed, and `Text.stripLineEnd` takes line ends of any style off a single line.
-/

namespace TexLog.Text

/-- What a character becomes when line ends are unified, given the character before it: a carriage
return becomes a line feed, and a line feed right after it belongs to the same line end. -/
def unifiedChar (previous : Option Char) (c : Char) : Text :=
  if c = '\r' then ['\n']
  else if c = '\n' ∧ previous = some '\r' then []
  else [c]

/-- The text with its line ends unified, given the character before it. -/
def unifyAfter (previous : Option Char) (text : Text) : Text :=
  (text.zip (previous :: text.map some)).flatMap fun (c, before) => unifiedChar before c

/-- The text with every line end written as one line feed. -/
def unifyLineEnds (text : Text) : Text := unifyAfter none text

/-- Puts a character in front of lines: a line feed is a line of its own, anything else joins the
first line. -/
def consLine (c : Char) (lines : List Text) : List Text :=
  match c, lines with
  | '\n', _ => ['\n'] :: lines
  | _, [] => [[c]]
  | _, line :: rest => (c :: line) :: rest

/-- The lines of a text in which only line feeds end lines, each with its line feed. -/
def splitAfterFeeds (text : Text) : List Text := text.foldr consLine []

/-- The lines of a text, each with one line feed for its line end; the last may have none. -/
def lines (text : Text) : List Text := splitAfterFeeds (unifyLineEnds text)

/-- Whether a character belongs to line ends. -/
def isLineEnd (c : Char) : Bool := c == '\n' || c == '\r'

/-- A line without the line feeds and carriage returns at its end. -/
def stripLineEnd (line : Text) : Text := (line.reverse.dropWhile isLineEnd).reverse

@[simp] theorem unifyAfter_nil (previous : Option Char) : unifyAfter previous [] = [] := rfl

/-- Line ends are unified one character after the other. -/
theorem unifyAfter_cons (previous : Option Char) (c : Char) (rest : Text) :
    unifyAfter previous (c :: rest) = unifiedChar previous c ++ unifyAfter (some c) rest := by
  simp [unifyAfter]

@[simp] theorem splitAfterFeeds_cons (c : Char) (rest : Text) :
    splitAfterFeeds (c :: rest) = consLine c (splitAfterFeeds rest) := rfl

end TexLog.Text
