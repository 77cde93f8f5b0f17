import TexLog.Text.Basic

/-!
# Patterns

The abstract syntax of the regular expressions that recognise error messages and select diagnostics,
and how it is put together when a pattern is read.
-/

/-! ## Patterns

The abstract syntax of the regular expressions that recognise error messages and select diagnostics.
A `Node` is read from its written form by `TexLog.Pattern.Reader` and given its meaning by
`TexLog.Pattern.Matching`. The modes that change the meaning of a node (such as ignoring case) are
not part of it, except where a group switches them for its body.
-/

namespace TexLog.Pattern

/-- A mode of matching that a pattern can ask for by a letter. -/
inductive Mode
  /-- Letters that differ only in case match each other. -/
  | ignoreCase
  /-- Characters are classified by the locale of the system; no text pattern may ask for it. -/
  | localeBound
  /-- The line anchors hold at every line, not only at the ends of the text. -/
  | multiline
  /-- The dot takes line feeds as well. -/
  | dotAll
  /-- Blanks and comments in the written pattern are left out. -/
  | verbose
  /-- The character classes and letter case know ASCII only. -/
  | ascii
  /-- A pattern without repetitions. -/
  | template
  /-- The character classes know all of Unicode; this is so unless `ascii` is asked for. -/
  | unicode
  deriving DecidableEq, Repr

namespace Mode

/-- The mode that a letter stands for. -/
def ofLetter? : Char → Option Mode
  | 'i' => some ignoreCase
  | 'L' => some localeBound
  | 'm' => some multiline
  | 's' => some dotAll
  | 'x' => some verbose
  | 'a' => some ascii
  | 't' => some template
  | 'u' => some unicode
  | _ => none

/-- Whether the mode chooses the repertoire by which characters are classified. -/
def isRepertoire : Mode → Bool
  | ascii | localeBound | unicode => true
  | _ => false

end Mode

/-- The modes in force, in any order. -/
abbrev Modes := List Mode

/-- The modes inside a group that asks for `on` and dismisses `off`: a repertoire that is asked for
takes the place of the one in force. -/
def Modes.change (modes on off : Modes) : Modes :=
  let kept := if on.any Mode.isRepertoire then modes.filter (!·.isRepertoire) else modes
  (kept ++ on).filter (!off.contains ·)

/-- A class of characters with a letter of its own. -/
inductive CharClass
  /-- Decimal digits. -/
  | digit
  /-- Blanks. -/
  | blank
  /-- Letters, numbers and the underscore. -/
  | word
  deriving DecidableEq, Repr

/-- What a set of characters lists. -/
inductive SetItem
  /-- A single code point. -/
  | char (code : Nat)
  /-- All code points from the first to the last. -/
  | range (first last : Nat)
  /-- The characters of a class, or all others if `inside` is false. -/
  | ofClass (charClass : CharClass) (inside : Bool)
  deriving DecidableEq, Repr

/-- A test of one character. -/
inductive CharTest
  /-- The character with the given code. -/
  | literal (code : Nat)
  /-- Any character but the one with the given code. -/
  | other (code : Nat)
  /-- Any character but a line feed. -/
  | any
  /-- A listed character, or one that is not listed if `negated`. -/
  | set (negated : Bool) (items : List SetItem)
  deriving DecidableEq, Repr

/-- A test of a position that takes no character. -/
inductive Anchor
  /-- The start of the text, or of any line in `multiline` mode. -/
  | lineStart
  /-- The end of the text or before a line feed that ends it, or the end of any line in `multiline`
  mode. -/
  | lineEnd
  /-- The start of the text. -/
  | textStart
  /-- The end of the text. -/
  | textEnd
  /-- Between a word character and something else. -/
  | wordEdge
  /-- Between two word characters or outside words; never in the empty text. -/
  | noWordEdge
  deriving DecidableEq, Repr

/-- In which order a repetition tries its counts. -/
inductive Greed
  /-- The largest count first. -/
  | greedy
  /-- The smallest count first. -/
  | lazy
  /-- The largest count only. What comes next goes on from the end of the last round or, unless
  `goesBack`, from where a round came to that failed after it. -/
  | possessive (goesBack : Bool)
  deriving DecidableEq, Repr

/-- Whether only the largest count is tried. -/
def Greed.isPossessive : Greed → Bool
  | possessive _ => true
  | greedy | lazy => false

/-- How many characters a node may take; no `most` means that there is no bound. -/
structure Width where
  /-- The least number of characters. -/
  least : Nat
  /-- The largest number of characters, if there is one. -/
  most : Option Nat
  deriving DecidableEq, Repr

/-- Where an assertion looks. -/
inductive Sight
  /-- At what follows. -/
  | ahead
  /-- At what precedes, which has the given width. -/
  | behind (width : Width)
  deriving DecidableEq, Repr

/-- A regular expression. Several alternatives are a chain of `alt` that ends in `never`. -/
inductive Node
  /-- The empty text. -/
  | empty
  /-- Nothing at all, not even the empty text. -/
  | never
  /-- One character that passes a test. -/
  | one (test : CharTest)
  /-- A position that passes a test. -/
  | anchor (place : Anchor)
  /-- The text that a capturing group took last. -/
  | backref (number : Nat)
  /-- One expression after another. -/
  | cat (first second : Node)
  /-- One expression or else the alternatives after it. -/
  | alt (first others : Node)
  /-- An expression in parentheses: its number if it captures, and the modes that it switches. -/
  | group (number : Option Nat) (on off : Modes) (body : Node)
  /-- An expression several times. -/
  | repeated (greed : Greed) (least : Nat) (most : Option Nat) (body : Node)
  /-- An assertion that the body does, or does not, match nearby. -/
  | look (sight : Sight) (positive : Bool) (body : Node)
  /-- An expression of which only the first match counts. -/
  | atomic (body : Node)
  /-- One expression if a capturing group has taken part, another if not. -/
  | ifGroup (number : Nat) (yes no : Node)
  deriving DecidableEq, Repr

namespace Width

/-- The width of one thing after another. -/
def add (first second : Width) : Width :=
  ⟨first.least + second.least, first.most.bind fun m => second.most.map (m + ·)⟩

/-- The width of one thing or another. -/
def union (first second : Width) : Width :=
  ⟨min first.least second.least, first.most.bind fun m => second.most.map (max m ·)⟩

/-- The width of a thing repeated between `least` and `most` times. -/
def times (width : Width) (least : Nat) (most : Option Nat) : Width where
  least := width.least * least
  most :=
    match width.most, most with
    | some 0, _ | _, some 0 => some 0
    | some m, some n => some (m * n)
    | _, _ => none

end Width

namespace Node

/-- Nodes one after another. -/
def sequence : List Node → Node
  | [] => empty
  | [node] => node
  | node :: rest => cat node (sequence rest)

/-- The nodes that follow one another in a sequence. -/
def items : Node → List Node
  | empty => []
  | cat first second => first :: second.items
  | node => [node]

/-- Nodes one instead of another. -/
def choice : List Node → Node
  | [] => never
  | node :: others => alt node (choice others)

/-- The width of a node, given the widths of the groups that it refers back to. -/
def width (groupWidth : Nat → Width) : Node → Width
  | empty | never | anchor _ | look .. => ⟨0, some 0⟩
  | one _ => ⟨1, some 1⟩
  | backref number => groupWidth number
  | cat first second => (first.width groupWidth).add (second.width groupWidth)
  | alt first never => first.width groupWidth
  | alt first others => (first.width groupWidth).union (others.width groupWidth)
  | group _ _ _ body | atomic body => body.width groupWidth
  | repeated _ least most body => (body.width groupWidth).times least most
  | ifGroup _ yes no => (yes.width groupWidth).union (no.width groupWidth)

end Node

end TexLog.Pattern

/-! ## Sequences and alternatives

How items are put together when a pattern is read. Groups that only hold things together disappear
into the sequence around them; a first item that all alternatives share goes in front of them; and
alternatives that are single characters become one set.
-/

namespace TexLog.Pattern.Node

/-- The body of a group that only holds things together; any other node itself. -/
def unwrapped : Node → Node
  | group none [] [] body => body
  | node => node

/-- A sequence of items, in which the groups that only hold things together disappear. -/
def ofItems (items : List Node) : Node := sequence (items.flatMap fun item => item.unwrapped.items)

/-- Whether a node is simple enough to be recognised as the same in another alternative. -/
def isSimple : Node → Bool
  | one _ | anchor _ | backref _ => true
  | _ => false

/-- Takes off the simple items with which all alternatives begin. The result has these items and
what is left of the alternatives. -/
def splitShared : (first : List Node) → (others : List (List Node)) →
    List Node × List (List Node)
  | [], others => ([], [] :: others)
  | item :: first, others =>
    if item.isSimple && others.all (·.head? == some item) then
      let (shared, alternatives) := splitShared first (others.map List.tail)
      (item :: shared, alternatives)
    else ([], (item :: first) :: others)

/-- What a single character or a set of characters lists. -/
def listed? : Node → Option (List SetItem)
  | one (.literal code) => some [.char code]
  | one (.set false items) => some items
  | _ => none

/-- The set of characters that alternatives amount to. -/
def asSet? (alternatives : List (List Node)) : Option CharTest := do
  let lists ← alternatives.mapM fun
    | [node] => node.listed?
    | _ => none
  return .set false lists.flatten.eraseDups

/-- Alternatives, of which there is one at least. -/
def ofAlternatives (first : Node) (others : List Node) : Node :=
  if others.isEmpty then first
  else
    let (shared, alternatives) := splitShared first.items (others.map items)
    let last := match asSet? alternatives with
      | some test => one test
      | none => choice (alternatives.map sequence)
    sequence (shared ++ [last])

end TexLog.Pattern.Node
