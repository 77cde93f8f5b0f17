import TexLog.Pattern.Memory

/-!
# Matching by backtracking

`Node.run` matches a node at a position of a text and hands every way to do so, in order of
preference, to the rest of the pattern, until the rest succeeds. The order of preference is what
fixes the result: alternatives from left to right, greedy repetitions from the largest count down,
lazy ones from the smallest count up. A repetition begins no further round at the position where the
round before began, so it ends although its body may take nothing.

Besides the text, a matcher sees what is noted in a `Memory`, and says what is noted in the end,
also when it fails.
-/

namespace TexLog.Pattern

/-! ## What comes first -/

namespace Node

/-- Whether a node asks for nothing. -/
def isVoid : Node → Bool
  | empty => true
  | cat first second => first.isVoid && second.isVoid
  | group none _ _ body => body.isVoid
  | _ => false

/-- The test of a character with which a node begins, and the modes in force there. -/
def firstTest? (modes : Modes) : Node → Option (Modes × CharTest)
  | one test => some (modes, test)
  | cat first second => if first.isVoid then second.firstTest? modes else first.firstTest? modes
  | group none on off body => body.firstTest? (modes.change on off)
  | _ => none

/-- The code point with which a node begins, if there is only one. -/
def firstCode? (modes : Modes) (node : Node) : Option Nat :=
  (node.firstTest? modes).bind fun (modes, test) => test.code? modes

/-- Whether it shows at once that a node does not match at a position. -/
def isHopeless (modes : Modes) (node : Node) (here : Cursor) : Bool :=
  (node.firstTest? modes).any fun (modes, test) =>
    test.isSelective modes && !here.after.head?.any (test.holds modes)

/-- The test of a node that is nothing but a test, and the modes in force there. -/
def test? (modes : Modes) : Node → Option (Modes × CharTest)
  | one test => some (modes, test)
  | group none on off body => body.test? (modes.change on off)
  | _ => none

end Node

/-! ## Repetitions of a test -/

/-- How often something is to be repeated; no `most` means that there is no bound. -/
structure Bounds where
  /-- The least number of rounds. -/
  least : Nat
  /-- The largest number of rounds, if there is one. -/
  most : Option Nat

/-- Whether another round may follow so many rounds. -/
def Bounds.allow (bounds : Bounds) (count : Nat) : Bool := bounds.most.all (count < ·)

/-- A repetition of a single test, in a pattern of which the rest may begin with the code point
`next`. -/
structure TestLoop where
  /-- How often the test is repeated. -/
  bounds : Bounds
  /-- The test. -/
  passes : Char → Bool
  /-- Whether the characters are gone over one after the other, noting each. -/
  stepwise : Bool
  /-- Whether the repetition is inside another. -/
  looping : Bool
  /-- The code point with which the rest begins, if there is only one. -/
  next : Option Nat

namespace TestLoop

/-- Whether the rest may match at a position. -/
def admits (loop : TestLoop) (there : Cursor) : Bool :=
  loop.next.all fun code => there.after.head?.any (·.toNat == code)

/-- The positions within reach over at most `limit` characters, the farthest first, and the notes
after looking for them. -/
def reach (loop : TestLoop) (limit : Option Nat) (here : Cursor) (memory : Memory) :
    List Cursor × Memory :=
  let reached := here.reach loop.passes here.after limit []
  (reached, memory.lookAt (if loop.stepwise then reached.headD here else here))

/-- Tries the positions in turn. -/
def tryEach (loop : TestLoop) (rest : Rest) (saved : Marks) : List Cursor → Memory → Outcome
  | [], memory => .failed memory
  | there :: nearer, memory =>
    if loop.admits there then
      (rest there (memory.lookAt there)).orElse fun left =>
        loop.tryEach rest saved nearer (left.backTo loop.looping saved)
    else loop.tryEach rest saved nearer memory

/-- Tries a position and then those after it, as long as the characters of the text `after` it pass
the test; `room` says how many may be taken. -/
def tryFurther (loop : TestLoop) (rest : Rest) (saved : Marks) :
    (after : Text) → (room : Option Nat) → (there : Cursor) → Memory → Outcome
  | [], _, there, memory =>
    (rest there (memory.lookAt there)).orElse fun left =>
      .failed ((left.backTo loop.looping saved).lookAt there)
  | c :: after, room, there, memory =>
    (rest there (memory.lookAt there)).orElse fun left =>
      let left := (left.backTo loop.looping saved).lookAt there
      if loop.passes c then
        let beyond := there.step c after
        let left := if loop.stepwise then left.lookAt beyond else left
        if room = some 0 then .failed left
        else loop.tryFurther rest saved after (room.map (· - 1)) beyond left
      else .failed left

/-- The ways to match the repetition. -/
def run (loop : TestLoop) (greed : Greed) : Matcher := fun here memory rest =>
  let { least, most } := loop.bounds
  if (here.after.take least).length < least then .failed memory
  else
    let limit := if greed = .lazy then some least else most
    let (reached, seen) := loop.reach limit here memory
    match greed, reached.take (reached.length - least) with
    | _, [] => .failed seen
    | .greedy, there => loop.tryEach rest memory.marks there seen
    | .lazy, nearest :: _ =>
      let room := most.map (· - least)
      loop.tryFurther rest memory.marks nearest.after room nearest seen
    | .possessive _, farthest :: _ => rest farthest seen

end TestLoop

/-! ## Repetitions -/

namespace Matcher

/-- A greedy repetition after `count` rounds; `last` is where the latest optional round began. -/
def greedy (body : Matcher) (bounds : Bounds) (rest : Rest) :
    (fuel count : Nat) → (last : Option Nat) → Rest
  | 0, _, _ => fun _ memory => .failed memory
  | fuel + 1, count, last => fun here memory =>
    let entered := memory.lookAt here
    if count < bounds.least then
      (body here entered (greedy body bounds rest fuel (count + 1) last)).orLookAt here
    else if bounds.allow count && last != some here.index then
      (body here entered (greedy body bounds rest fuel (count + 1) (some here.index))).orElse
        fun _ => (rest here entered).orLookAt here
    else (rest here entered).orLookAt here

/-- A lazy repetition after `count` rounds; `last` is where the latest optional round began, and
`looping` says whether the repetition is inside another. -/
def lazy (body : Matcher) (bounds : Bounds) (looping : Bool) (rest : Rest) :
    (fuel count : Nat) → (last : Option Nat) → Rest
  | 0, _, _ => fun _ memory => .failed memory
  | fuel + 1, count, last => fun here memory =>
    let entered := memory.lookAt here
    if count < bounds.least then
      (body here entered (lazy body bounds looping rest fuel (count + 1) last)).orLookAt here
    else
      (rest here entered).orElse fun left =>
        let left := (left.backTo looping memory.marks).lookAt here
        if bounds.allow count && last != some here.index then
          let further := lazy body bounds looping rest fuel (count + 1) (some here.index)
          (body here left further).orLookAt here
        else .failed left

/-- The rounds of a possessive repetition that began at `start`, each of which keeps its first
match; `last` is where the latest optional round began. A round begins at the position looked at
last, and a round that fails leaves it where it came to, unless the repetition goes back. -/
def rounds (body : Matcher) (bounds : Bounds) (goesBack : Bool) (start : Cursor) :
    (fuel count : Nat) → (last : Option Nat) → Memory → Outcome
  | 0, _, _, memory => .failed memory
  | fuel + 1, count, last, memory =>
    let here := memory.spot
    if count < bounds.least then
      ((body here memory Rest.accept).andThen
        (rounds body bounds goesBack start fuel (count + 1) last)).orLookAt start
    else if bounds.allow count && last != some here.index then
      match body here memory Rest.accept with
      | .matched there => rounds body bounds goesBack start fuel (count + 1) (some here.index) there
      | .failed left => .matched ⟨memory.marks, if goesBack then here else left.spot⟩
    else .matched memory

/-- A repetition, of which every optional round but the last takes a character; `fuel` bounds the
number of those. -/
def repeated (body : Matcher) (greed : Greed) (bounds : Bounds) (looping : Bool) (fuel : Nat) :
    Matcher := fun here memory rest =>
  let fuel := bounds.least + fuel
  match greed with
  | .greedy => body.greedy bounds rest fuel 0 none here memory
  | .lazy => body.lazy bounds looping rest fuel 0 none here memory
  | .possessive goesBack =>
    (body.rounds bounds goesBack here fuel 0 none (memory.lookAt here)).andThen fun there =>
      rest there.spot there

end Matcher

/-! ## Nodes -/

/-- The start of what an assertion looks at. -/
def Sight.start? (here : Cursor) : Sight → Option Cursor
  | .ahead => some here
  | .behind width => here.back? width.least

/-- The ways to match a node in the given modes. The rest of the pattern begins with the code point
`next`, if that is known; `looping` says whether the node is inside a repetition, and `fuel` exceeds
the number of rounds that any repetition makes beyond the least. -/
def Node.run (fuel : Nat) (looping : Bool) (modes : Modes) (next : Option Nat) : Node → Matcher
  | .empty, here, memory, rest => rest here memory
  | .never, _, memory, _ => .failed memory
  | .one test, here, memory, rest =>
    match here.next? with
    | some (c, there) => if test.holds modes c then rest there memory else .failed memory
    | none => .failed memory
  | .anchor place, here, memory, rest =>
    if place.holds modes here then rest here memory else .failed memory
  | .backref number, here, memory, rest =>
    match memory.marks.span? number with
    | some (first, last) =>
      match here.skip? modes (here.slice first last) with
      | some there => rest there memory
      | none => .failed memory
    | none => .failed memory
  | .cat first second, here, memory, rest =>
    let following := if second.isVoid then next else second.firstCode? modes
    first.run fuel looping modes following here memory fun there memory =>
      second.run fuel looping modes next there memory rest
  | .alt first others, here, memory, rest =>
    if first.isHopeless modes here then others.run fuel looping modes next here memory rest
    else
      (first.run fuel looping modes none here (memory.lookAt here) rest).orElse fun left =>
        others.run fuel looping modes next here (left.backTo looping memory.marks) rest
  | .group none on off body, here, memory, rest =>
    body.run fuel looping (modes.change on off) next here memory rest
  | .group (some number) on off body, here, memory, rest =>
    body.run fuel looping (modes.change on off) none here
      (memory.note (Marks.opening number) here.index)
      fun there memory => rest there (memory.note (Marks.closing number) there.index)
  | .repeated greed least most body, here, memory, rest =>
    match body.test? modes with
    | some (inner, test) =>
      TestLoop.run ⟨⟨least, most⟩, test.holds inner, test.isStepwise inner, looping, next⟩ greed
        here memory rest
    | none =>
      Matcher.repeated (body.run fuel (looping || !greed.isPossessive) modes none) greed
        ⟨least, most⟩ looping fuel here memory rest
  | .look sight positive body, here, memory, rest =>
    match sight.start? here, positive with
    | none, true => .failed memory
    | none, false => rest here memory
    | some start, true =>
      (body.run fuel looping modes none start (memory.lookAt start) Rest.accept).andThen (rest here)
    | some start, false =>
      match body.run fuel looping modes none start (memory.lookAt start) Rest.accept with
      | .matched memory => .failed memory
      | .failed left => rest here (left.backTo looping memory.marks)
  | .atomic body, here, memory, rest =>
    match body.run fuel looping modes none here (memory.lookAt here) Rest.accept with
    | .matched there => rest there.spot there
    | .failed left => .failed (left.lookAt here)
  | .ifGroup number yes no, here, memory, rest =>
    if (memory.marks.span? number).isSome then
      yes.run fuel looping modes (if no = .empty then next else none) here memory rest
    else no.run fuel looping modes next here memory rest

end TexLog.Pattern
