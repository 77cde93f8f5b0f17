import TexLog.Pattern.Character

/-!
# Where a match stands

The position in a text at which a pattern is matched, and what is noted while it is.
-/

/-! ## Positions in a text

A `Cursor` is a position together with the text on both sides of it. Patterns are matched by moving
cursors, and anchors hold at a cursor or do not.
-/

namespace TexLog.Pattern

/-- A position in a text: what lies before it, nearest first, and what lies after it. -/
structure Cursor where
  /-- The characters before the position, nearest first. -/
  before : Text
  /-- The characters after the position. -/
  after : Text
  /-- How many characters lie before the position. -/
  index : Nat
  index_eq : index = before.length

namespace Cursor

/-- The position before a text. -/
def start (text : Text) : Cursor := ⟨[], text, 0, rfl⟩

/-- The position after a character `c` that is followed by `rest`. -/
def step (cursor : Cursor) (c : Char) (rest : Text) : Cursor :=
  ⟨c :: cursor.before, rest, cursor.index + 1, by simp [cursor.index_eq]⟩

/-- The next character and the position after it. -/
def next? (cursor : Cursor) : Option (Char × Cursor) :=
  match cursor.after with
  | [] => none
  | c :: rest => some (c, cursor.step c rest)

/-- The position `count` characters earlier. -/
def back? (cursor : Cursor) (count : Nat) : Option Cursor :=
  if count ≤ cursor.index then
    let moved := cursor.before.take count
    some ⟨cursor.before.drop count, moved.reverse ++ cursor.after, cursor.index - count,
      by simp [cursor.index_eq]⟩
  else none

/-- The characters of the whole text between two indices. -/
def slice (cursor : Cursor) (first last : Nat) : Text :=
  ((cursor.before.reverse ++ cursor.after).drop first).take (last - first)

/-- The position after `wanted`, if that is what follows in the given modes. -/
def skip? (modes : Modes) : Text → Cursor → Option Cursor
  | [], cursor => some cursor
  | w :: wanted, cursor =>
    match cursor.next? with
    | some (c, cursor) =>
      if modes.normal w.toNat == modes.normal c.toNat then cursor.skip? modes wanted else none
    | none => none

/-- The positions that can be reached from `cursor` over characters that pass the test, at most
`limit` of them: the farthest first, `cursor` itself last before what `nearer` holds. -/
def reach (passes : Char → Bool) : Text → Option Nat → Cursor → List Cursor → List Cursor
  | [], _, cursor, nearer => cursor :: nearer
  | c :: rest, limit, cursor, nearer =>
    if limit = some 0 || !passes c then cursor :: nearer
    else reach passes rest (limit.map (· - 1)) (cursor.step c rest) (cursor :: nearer)

end Cursor

/-- Whether an anchor holds at a position. -/
def Anchor.holds (modes : Modes) (cursor : Cursor) : Anchor → Bool
  | .textStart => cursor.before.isEmpty
  | .textEnd => cursor.after.isEmpty
  | .lineStart =>
    cursor.before.isEmpty || (modes.contains .multiline && cursor.before.head? == some '\n')
  | .lineEnd =>
    cursor.after.isEmpty || cursor.after == ['\n'] ||
      (modes.contains .multiline && cursor.after.head? == some '\n')
  | .wordEdge => !empty && left != right
  | .noWordEdge => !empty && left == right
where
  empty : Bool := cursor.before.isEmpty && cursor.after.isEmpty
  left : Bool := cursor.before.head?.any (CharClass.word.holds (modes.contains .ascii))
  right : Bool := cursor.after.head?.any (CharClass.word.holds (modes.contains .ascii))

end TexLog.Pattern

/-! ## What a match notes

While a pattern is matched it is noted where its groups begin and end, and which position was looked
at last. Attempts that fail leave notes behind: the position stays where they came to, and outside
repetitions so do the changes they made to older marks. A possessive repetition goes on from the
position looked at last, and the marks tell what the groups took, so the notes of failed attempts
can be seen in the result.
-/

namespace TexLog.Pattern

/-- Where the capturing groups began and ended, as far as it is noted: the beginning of each group
and its end, in the order of the groups. -/
abbrev Marks := List (Option Nat)

namespace Marks

/-- The place of the beginning of a group. -/
def opening (group : Nat) : Nat := 2 * (group - 1)

/-- The place of the end of a group. -/
def closing (group : Nat) : Nat := 2 * (group - 1) + 1

/-- Notes an index of the text at a place. -/
def note (marks : Marks) (place index : Nat) : Marks :=
  (marks ++ List.replicate (place + 1 - marks.length) none).set place (some index)

/-- What is noted at a place can be found there. -/
@[simp] theorem getElem?_note_self (marks : Marks) (place index : Nat) :
    (marks.note place index)[place]? = some (some index) := by
  have : place < (marks ++ List.replicate (place + 1 - marks.length) none).length := by
    simp; omega
  simp [note, List.getElem?_set_self this]

/-- The beginning and the end of a group, if both are noted; the end may be older. -/
def ends? (marks : Marks) (group : Nat) : Option (Nat × Nat) :=
  match marks[opening group]?, marks[closing group]? with
  | some (some first), some (some last) => some (first, last)
  | _, _ => none

/-- The span that a group took last; none if it took no part or was entered again since. -/
def span? (marks : Marks) (group : Nat) : Option (Nat × Nat) :=
  (marks.ends? group).filter fun (first, last) => first ≤ last

/-- Whether some group ends before it begins. -/
def areCrossed (marks : Marks) : Bool :=
  (List.range marks.length).any fun group =>
    (marks.ends? (group + 1)).any fun (first, last) => last < first

end Marks

/-- What is noted while a pattern is matched. -/
structure Memory where
  /-- Where the groups began and ended. -/
  marks : Marks
  /-- The position looked at last. -/
  spot : Cursor

namespace Memory

/-- Notes an index at a place of the marks. -/
def note (memory : Memory) (place index : Nat) : Memory :=
  { memory with marks := memory.marks.note place index }

/-- Looks at a position. -/
def lookAt (memory : Memory) (spot : Cursor) : Memory := { memory with spot := spot }

/-- The notes to go on with after an attempt that failed and had begun with the marks `saved`:
inside a repetition these are put back, elsewhere only the marks added since are taken off. -/
def backTo (memory : Memory) (looping : Bool) (saved : Marks) : Memory :=
  { memory with marks := if looping then saved else memory.marks.take saved.length }

end Memory

/-- How an attempt ends, and what is noted then. -/
inductive Outcome
  /-- There is a match. -/
  | matched (memory : Memory)
  /-- There is none. -/
  | failed (memory : Memory)

namespace Outcome

/-- What is noted at the end of a match. -/
def memory? : Outcome → Option Memory
  | matched memory => some memory
  | failed _ => none

/-- Goes on with another attempt if this one failed. -/
def orElse (outcome : Outcome) (next : Memory → Outcome) : Outcome :=
  match outcome with
  | matched memory => matched memory
  | failed memory => next memory

/-- Goes on after a match. -/
def andThen (outcome : Outcome) (next : Memory → Outcome) : Outcome :=
  match outcome with
  | matched memory => next memory
  | failed memory => failed memory

/-- Looks at a position again if the attempt failed. -/
def orLookAt (outcome : Outcome) (spot : Cursor) : Outcome :=
  outcome.orElse fun memory => failed (memory.lookAt spot)

end Outcome

/-- The rest of a pattern: it goes on from a position to the end of the match, or fails. -/
abbrev Rest := Cursor → Memory → Outcome

/-- The ways to match something at a position, tried in turn with the rest of the pattern. -/
abbrev Matcher := Cursor → Memory → Rest → Outcome

/-- The end of a match, which is noted. -/
def Rest.accept : Rest := fun here memory => .matched (memory.lookAt here)

end TexLog.Pattern
