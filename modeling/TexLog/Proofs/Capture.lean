import TexLog.Pattern.Basic

/-!
# What a group captures

A matcher hands the ways to match a node to the rest of the pattern, which goes on from a position
with what is noted in a memory. For the patterns considered here the notes do not matter: what comes
of the rest of the pattern is a function of the text that follows, namely the text that one group of
the pattern takes, or nothing if the rest does not match (`Rest.Captures`). Each kind of node turns
the function for what comes after it into the function for itself (`Matcher.Captures`): a test looks
at one character (`afterChar`), a greedy repetition of a test tries the positions that it reaches,
the farthest first (`afterMost`), an optional node is tried before it is left out. A search then
asks the function of the whole pattern at each place of the text in turn (`anywhere`).
-/

namespace TexLog.Pattern

namespace Marks

/-- What is noted at other places stays. -/
theorem getElem?_note_of_ne {marks : Marks} {place other index value : Nat} (hne : place ≠ other)
    (hother : marks[other]? = some (some value)) :
    (marks.note place index)[other]? = some (some value) := by
  have hlt : other < marks.length := (List.getElem?_eq_some_iff.1 hother).1
  rw [note, List.getElem?_set_ne hne, List.getElem?_append_left hlt, hother]

/-- A group that was entered at `entered`, if anywhere, still is. -/
def Entered (marks : Marks) (group : Nat) (entered : Option Nat) : Prop :=
  ∀ first ∈ entered, marks[opening group]? = some (some first)

/-- Nothing is asked of a group that has not been entered. -/
theorem Entered.none (marks : Marks) (group : Nat) : marks.Entered group none :=
  fun _ h => nomatch h

/-- Where a group is opened it is entered. -/
theorem Entered.opening (marks : Marks) (group first : Nat) :
    (marks.note (opening group) first).Entered group (some first) := by
  intro _ h
  cases h
  exact getElem?_note_self marks _ first

/-- The span of a group that is left where it was not before it was entered. -/
theorem Entered.span?_closing {marks : Marks} {group first last : Nat}
    (h : marks.Entered group (some first)) (hle : first ≤ last) :
    (marks.note (closing group) last).span? group = some (first, last) := by
  have hopening : (marks.note (closing group) last)[Marks.opening group]? = some (some first) :=
    getElem?_note_of_ne (by simp [closing, Marks.opening]) (h first rfl)
  simp [span?, ends?, hopening, hle]

end Marks

/-- A group that was entered before an attempt is entered again after the attempt has failed. -/
theorem Memory.entered_backTo {saved : Marks} {left : Memory} {group : Nat} {entered : Option Nat}
    (hsaved : saved.Entered group entered) (hleft : left.marks.Entered group entered)
    (looping : Bool) : (left.backTo looping saved).marks.Entered group entered := by
  cases looping with
  | true => exact hsaved
  | false =>
    intro first hfirst
    have hlt := (List.getElem?_eq_some_iff.1 (hsaved first hfirst)).1
    exact (List.getElem?_take_of_lt hlt).trans (hleft first hfirst)

/-- A position of a text, not before the place where a group was entered. -/
structure Cursor.In (text : Text) (entered : Option Nat) (cursor : Cursor) : Prop where
  whole : cursor.before.reverse ++ cursor.after = text
  entered_le : ∀ first ∈ entered, first ≤ cursor.index

namespace Cursor

/-- The start of a text is a place in it. -/
theorem in_start (text : Text) : (start text).In text none where
  whole := rfl
  entered_le _ h := nomatch h

variable {text : Text} {entered : Option Nat} {cursor : Cursor}

/-- The place after a character of a text is a place in the text. -/
theorem In.step (h : cursor.In text entered) {c : Char} {rest : Text}
    (hafter : cursor.after = c :: rest) : (cursor.step c rest).In text entered where
  whole := by
    rw [← h.whole, hafter]
    simp [Cursor.step]
  entered_le first hfirst := Nat.le_succ_of_le (h.entered_le first hfirst)

/-- What lies before a place and what lies after it make up the text. -/
theorem In.index_add_length (h : cursor.In text entered) :
    cursor.index + cursor.after.length = text.length := by
  rw [← h.whole, cursor.index_eq]
  simp

/-- What follows a position is the rest of the text. -/
theorem In.drop_index (h : cursor.In text entered) : text.drop cursor.index = cursor.after := by
  rw [← h.whole, cursor.index_eq, List.drop_left' (by simp)]

end Cursor

/-- An attempt ends as expected: it matches, and the group takes the expected text; or it fails if
none is expected. -/
inductive Outcome.Captures (text : Text) (group : Nat) (entered : Option Nat) :
    Outcome → Option Text → Prop
  | matched {memory : Memory} {first last : Nat}
    (hspan : memory.marks.span? group = some (first, last)) :
    Captures text group entered (.matched memory) (some ((text.drop first).take (last - first)))
  | failed {memory : Memory} (hentered : memory.marks.Entered group entered) :
    Captures text group entered (.failed memory) none

/-- What comes of the rest of a pattern depends only on the text that follows: the group takes what
`answer` says, if the rest matches. -/
def Rest.Captures (text : Text) (group : Nat) (entered : Option Nat) (rest : Rest)
    (answer : Text → Option Text) : Prop :=
  ∀ ⦃here : Cursor⦄ ⦃memory : Memory⦄, here.In text entered → memory.marks.Entered group entered →
    (rest here memory).Captures text group entered (answer here.after)

/-- What comes of a matcher and the rest of the pattern is what `before` makes of what comes of the
rest. -/
def Matcher.Captures (text : Text) (group : Nat) (entered : Option Nat) (matcher : Matcher)
    (before : (Text → Option Text) → Text → Option Text) : Prop :=
  ∀ ⦃rest : Rest⦄ ⦃answer : Text → Option Text⦄, rest.Captures text group entered answer →
    Rest.Captures text group entered (matcher · · rest) (before answer)

variable {text : Text} {group : Nat} {entered : Option Nat}

namespace Outcome
variable {outcome : Outcome} {answer answer' : Option Text}

/-- Another attempt is made if the first one fails. -/
theorem Captures.orElse (h : outcome.Captures text group entered answer) {next : Memory → Outcome}
    (hnext : ∀ {left : Memory}, left.marks.Entered group entered →
      (next left).Captures text group entered answer') :
    (outcome.orElse next).Captures text group entered (answer <|> answer') := by
  cases h with
  | matched hspan => exact .matched hspan
  | failed hentered => exact hnext hentered

/-- It does not matter afterwards whether the group was entered before the attempt. -/
theorem Captures.forget (h : outcome.Captures text group entered answer) :
    outcome.Captures text group none answer := by
  cases h with
  | matched hspan => exact .matched hspan
  | failed hentered => exact .failed (Marks.Entered.none _ group)

/-- Noting how far was looked changes nothing of what is captured. -/
theorem Captures.orLookAt (h : outcome.Captures text group entered answer) (spot : Cursor) :
    (outcome.orLookAt spot).Captures text group entered answer := by
  cases h with
  | matched hspan => exact .matched hspan
  | failed hentered => exact .failed hentered

end Outcome

/-! ## Repetitions of a test -/

/-- What comes of looking at one character and going on after it. -/
def afterChar (passes : Char → Bool) (answer : Text → Option Text) : Text → Option Text
  | [] => none
  | c :: rest => if passes c then answer rest else none

/-- What comes of going on after as many characters that pass a test as possible, and at least so
many. -/
def afterMost (passes : Char → Bool) (answer : Text → Option Text) : Nat → Text → Option Text
  | least, [] => if least = 0 then answer [] else none
  | least, c :: rest =>
    (if passes c then afterMost passes answer (least - 1) rest else none) <|>
      if least = 0 then answer (c :: rest) else none

/-- There are not enough characters. -/
theorem afterMost_of_short {passes : Char → Bool} {answer : Text → Option Text} :
    ∀ {least : Nat} {after : Text}, after.length < least →
      afterMost passes answer least after = none
  | least, [], h => by simp [afterMost, Nat.ne_of_gt (show 0 < least from h)]
  | least + 1, c :: rest, h => by
    simp [afterMost, afterMost_of_short (show rest.length < least by simpa using h)]

/-- What comes of it comes of going on after a character that passes. -/
theorem exists_of_afterChar {passes : Char → Bool} {answer : Text → Option Text}
    {after taken : Text} (h : afterChar passes answer after = some taken) :
    ∃ c rest, after = c :: rest ∧ passes c = true ∧ answer rest = some taken := by
  cases after with
  | nil => cases h
  | cons c rest =>
    rw [afterChar] at h
    split at h
    · next hpasses => exact ⟨c, rest, rfl, hpasses, h⟩
    · cases h

/-- What comes of it comes of going on after a run of characters that pass. -/
theorem exists_of_afterMost {passes : Char → Bool} {answer : Text → Option Text} {taken : Text} :
    ∀ {least : Nat} {after : Text}, afterMost passes answer least after = some taken →
      ∃ run left, run ++ left = after ∧ least ≤ run.length ∧ (∀ c ∈ run, passes c = true) ∧
        answer left = some taken
  | least, [], h => by
    rw [afterMost] at h
    split at h
    · next hleast => exact ⟨[], [], rfl, Nat.le_of_eq hleast, by simp, h⟩
    · cases h
  | least, c :: rest, h => by
    rw [afterMost, Option.orElse_eq_orElse, Option.orElse_eq_or, Option.or_eq_some_iff] at h
    rcases h with hfar | ⟨-, hnear⟩
    · split at hfar
      · next hpasses =>
        obtain ⟨run, left, rfl, hleast, hrun, hanswer⟩ := exists_of_afterMost hfar
        refine ⟨c :: run, left, rfl, ?_, ?_, hanswer⟩
        · rw [List.length_cons]
          omega
        · simpa [hpasses] using hrun
      · cases hfar
    · split at hnear
      · next hleast => exact ⟨[], c :: rest, rfl, Nat.le_of_eq hleast, by simp, hnear⟩
      · cases hnear

/-- Something comes of it if something comes of going on after one such run. -/
theorem isSome_afterMost {passes : Char → Bool} {answer : Text → Option Text} {left : Text}
    (hanswer : (answer left).isSome) :
    ∀ {least : Nat} {run : Text}, least ≤ run.length → (∀ c ∈ run, passes c = true) →
      (afterMost passes answer least (run ++ left)).isSome
  | least, [], hleast, _ => by
    obtain rfl : least = 0 := by simpa using hleast
    cases left with
    | nil => simpa [afterMost] using hanswer
    | cons c rest => simp [afterMost, hanswer]
  | least, c :: run, hleast, hrun => by
    rw [List.length_cons] at hleast
    have hfar : (afterMost passes answer (least - 1) (run ++ left)).isSome :=
      isSome_afterMost hanswer (by omega) fun d hd => hrun d (List.mem_cons_of_mem c hd)
    simp [afterMost, hrun c List.mem_cons_self, hfar]

/-- What comes of it comes of going on after the longest run after which something comes of it. -/
theorem exists_longest_of_afterMost {passes : Char → Bool} {answer : Text → Option Text}
    {taken : Text} : ∀ {after : Text}, afterMost passes answer 0 after = some taken →
      ∃ run left, run ++ left = after ∧ (∀ c ∈ run, passes c = true) ∧ answer left = some taken ∧
        ∀ run' left', run' ++ left' = after → (∀ c ∈ run', passes c = true) →
          (answer left').isSome → run'.length ≤ run.length
  | [], h => by
    refine ⟨[], [], rfl, by simp, by simpa [afterMost] using h, fun run' left' hwhole _ _ => ?_⟩
    exact Nat.le_of_eq (congrArg List.length (List.append_eq_nil_iff.1 hwhole).1)
  | c :: rest, h => by
    rw [afterMost, if_pos rfl, Option.orElse_eq_orElse, Option.orElse_eq_or,
      Option.or_eq_some_iff] at h
    rcases h with hfar | ⟨hfar, hnear⟩
    · split at hfar
      · next hpasses =>
        obtain ⟨run, left, rfl, hrun, hanswer, hlongest⟩ := exists_longest_of_afterMost hfar
        refine ⟨c :: run, left, rfl, by simpa [hpasses] using hrun, hanswer, ?_⟩
        rintro (_ | ⟨d, run'⟩) left' hwhole hrun' hsome
        · exact Nat.zero_le _
        · exact Nat.succ_le_succ <| hlongest run' left' (List.cons.inj hwhole).2
            (fun e he => hrun' e (List.mem_cons_of_mem d he)) hsome
      · cases hfar
    · refine ⟨[], c :: rest, rfl, by simp, hnear, ?_⟩
      rintro (_ | ⟨d, run'⟩) left' hwhole hrun' hsome
      · exact Nat.le_refl _
      · -- something would have come of going on after a character
        obtain ⟨rfl, rfl⟩ := List.cons.inj hwhole
        obtain ⟨hpasses, hrun'⟩ := List.forall_mem_cons.1 hrun'
        have hfound : (afterMost passes answer 0 (run' ++ left')).isSome :=
          isSome_afterMost hsome (Nat.zero_le _) hrun'
        have hnone : afterMost passes answer 0 (run' ++ left') = none := by
          simpa [hpasses] using hfar
        rw [hnone] at hfound
        cases hfound

/-- Going on after at least one character, or else at once, is going on after any number. -/
theorem afterMost_one_orElse (passes : Char → Bool) (answer : Text → Option Text) (after : Text) :
    (afterMost passes answer 1 after <|> answer after) = afterMost passes answer 0 after := by
  cases after <;> simp [afterMost]

/-- The positions that can be reached are those that can be reached from the next one, and the first
one. -/
theorem Cursor.reach_append (passes : Char → Bool) :
    ∀ (after : Text) (here : Cursor) (nearer : List Cursor),
      Cursor.reach passes after none here nearer = Cursor.reach passes after none here [] ++ nearer
  | [], _, _ => rfl
  | c :: rest, here, nearer => by
    simp only [Cursor.reach, Option.map_none]
    split
    · rfl
    · rw [reach_append passes rest (here.step c rest) (here :: nearer),
        reach_append passes rest (here.step c rest) [here], List.append_assoc]
      rfl

/-- How far a repetition reaches, by the next character. -/
theorem Cursor.reach_cons (passes : Char → Bool) (c : Char) (rest : Text) (here : Cursor) :
    Cursor.reach passes (c :: rest) none here [] =
      if passes c then Cursor.reach passes rest none (here.step c rest) [] ++ [here]
      else [here] := by
  rw [Cursor.reach]
  cases hpasses : passes c with
  | true => simpa using reach_append passes rest (here.step c rest) [here]
  | false => simp

/-- The positions that can be reached are positions of the text. -/
theorem Cursor.In.of_mem_reach (passes : Char → Bool) {after : Text} :
    ∀ {here there : Cursor}, here.In text entered → here.after = after →
      there ∈ Cursor.reach passes after none here [] → there.In text entered := by
  induction after with
  | nil =>
    intro here there hhere _ hthere
    obtain rfl : there = here := by simpa [reach] using hthere
    exact hhere
  | cons c rest ih =>
    intro here there hhere hafter hthere
    rw [reach_cons] at hthere
    split at hthere
    · rcases List.mem_append.1 hthere with hfar | hnear
      · exact ih (hhere.step hafter) rfl hfar
      · obtain rfl := List.mem_singleton.1 hnear
        exact hhere
    · obtain rfl := List.mem_singleton.1 hthere
      exact hhere

/-- Trying the positions in turn, the farthest first, is going on after as many characters as
possible. -/
theorem findSome?_reach (passes : Char → Bool) (answer : Text → Option Text) {after : Text} :
    ∀ {here : Cursor} (least : Nat), here.after = after →
      ((Cursor.reach passes after none here []).take
        ((Cursor.reach passes after none here []).length - least)).findSome?
          (fun there => answer there.after) = afterMost passes answer least after := by
  induction after with
  | nil =>
    intro here least hafter
    cases least with
    | zero => simp [Cursor.reach, afterMost, hafter]
    | succ least => simp [Cursor.reach, afterMost]
  | cons c rest ih =>
    intro here least hafter
    rw [Cursor.reach_cons, afterMost]
    cases hpasses : passes c with
    | false => cases least <;> simp [hafter]
    | true =>
      have hfar := @ih (here.step c rest) (least - 1) rfl
      cases least with
      | zero =>
        rw [List.take_of_length_le (by simp)] at hfar ⊢
        simp [List.findSome?_append, hfar, hafter]
      | succ least =>
        simp only [if_true, List.length_append, List.length_singleton, Nat.add_sub_add_right]
        rw [List.take_append_of_le_length (by omega)]
        simpa using hfar

namespace TestLoop
variable {loop : TestLoop} {rest : Rest} {answer : Text → Option Text}

/-- What comes of trying positions in turn. -/
theorem captures_tryEach (hnext : loop.next = none)
    (hrest : rest.Captures text group entered answer) {saved : Marks}
    (hsaved : saved.Entered group entered) :
    ∀ {positions : List Cursor} {memory : Memory}, (∀ there ∈ positions, there.In text entered) →
      memory.marks.Entered group entered →
      (loop.tryEach rest saved positions memory).Captures text group entered
        (positions.findSome? fun there => answer there.after)
  | [], _, _, hmemory => .failed hmemory
  | there :: nearer, memory, hpositions, hmemory => by
    have hadmits : loop.admits there = true := by simp [admits, hnext]
    have hthere : (rest there (memory.lookAt there)).Captures text group entered
        (answer there.after) := hrest (hpositions there (by simp)) hmemory
    have hboth := hthere.orElse fun hleft =>
      captures_tryEach hnext hrest hsaved
        (fun other hother => hpositions other (List.mem_cons_of_mem there hother))
        (Memory.entered_backTo hsaved hleft loop.looping)
    rw [tryEach, if_pos hadmits, List.findSome?_cons]
    cases hanswer : answer there.after <;> simpa [hanswer] using hboth

/-- What comes of a greedy repetition without a bound. -/
theorem captures_run (hnext : loop.next = none) (hmost : loop.bounds.most = none) :
    Matcher.Captures text group entered (loop.run .greedy)
      (afterMost loop.passes · loop.bounds.least) := by
  intro rest answer hrest here memory hhere hmemory
  obtain ⟨⟨least, most⟩, passes, stepwise, looping, next⟩ := loop
  subst hmost
  simp only [TestLoop.run, TestLoop.reach]
  split
  · next hshort =>
    rw [afterMost_of_short (by simp at hshort; omega)]
    exact .failed hmemory
  · rw [← findSome?_reach passes answer least rfl]
    have hpositions : ∀ there ∈ (Cursor.reach passes here.after none here []).take
        ((Cursor.reach passes here.after none here []).length - least), there.In text entered :=
      fun there hthere => hhere.of_mem_reach passes rfl (List.mem_of_mem_take hthere)
    simp only [reduceCtorEq, if_false]
    -- the matcher looks first whether there is a position to try
    generalize (Cursor.reach passes here.after none here []).take _ = positions at hpositions ⊢
    cases positions with
    | nil => exact .failed hmemory
    | cons there nearer => exact captures_tryEach hnext hrest hmemory hpositions hmemory

end TestLoop

/-! ## Nodes -/

/-- A group that switches no modes leaves them as they are. -/
theorem Modes.change_nil (modes : Modes) : modes.change [] [] = modes := by
  simp [Modes.change]

namespace Node
variable {before : (Text → Option Text) → Text → Option Text} {fuel : Nat} {looping : Bool}
  {modes : Modes} {next : Option Nat}

/-- What comes of one node after another. -/
theorem captures_cat {first second : Node} {rest : Rest} {answer : Text → Option Text}
    (hfirst : ∀ following, Matcher.Captures text group entered
      (first.run fuel looping modes following) before)
    (hsecond : Rest.Captures text group entered (second.run fuel looping modes next · · rest)
      answer) :
    Rest.Captures text group entered ((cat first second).run fuel looping modes next · · rest)
      (before answer) :=
  hfirst _ hsecond

/-- What comes of a test of one character. -/
theorem captures_one {test : CharTest} {passes : Char → Bool}
    (hpasses : ∀ c, test.holds modes c = passes c) :
    Matcher.Captures text group entered ((one test).run fuel looping modes next)
      (afterChar passes) := by
  intro rest answer hrest here memory hhere hmemory
  simp only [run, Cursor.next?]
  cases hafter : here.after with
  | nil => exact .failed hmemory
  | cons c after =>
    simp only [afterChar, hpasses]
    split
    · exact hrest (hhere.step hafter) hmemory
    · exact .failed hmemory

/-- What comes of a greedy repetition of a test. -/
theorem captures_repeated_one (least : Nat) {test : CharTest} {passes : Char → Bool}
    (hpasses : ∀ c, test.holds modes c = passes c) :
    Matcher.Captures text group entered
      ((repeated .greedy least none (one test)).run fuel looping modes none)
      (afterMost passes · least) := by
  intro rest answer hrest here memory hhere hmemory
  simp only [run, test?, hpasses]
  exact TestLoop.captures_run rfl rfl hrest hhere hmemory

/-- What comes of a group other than the one in question is what comes of its body. -/
theorem captures_group {number : Nat} {body : Node}
    (hbody : Matcher.Captures text group none (body.run fuel looping modes none) before) :
    Matcher.Captures text group none
      ((Node.group (some number) [] [] body).run fuel looping modes next) before := by
  intro rest answer hrest here memory hhere hmemory
  simp only [run, Modes.change_nil]
  have hclosed : Rest.Captures text group none
      (fun there memory => rest there (memory.note (Marks.closing number) there.index)) answer :=
    fun _ _ hthere _ => hrest hthere (Marks.Entered.none _ _)
  exact hbody hclosed hhere (Marks.Entered.none _ _)

/-- What comes of an optional node: it is tried before it is left out. -/
theorem captures_optional {body : Node} (htest : body.test? modes = none)
    (hbody : Matcher.Captures text group entered (body.run (fuel + 2) true modes none) before) :
    Matcher.Captures text group entered
      ((repeated .greedy 0 (some 1) body).run (fuel + 2) looping modes next)
      (fun answer after => before answer after <|> answer after) := by
  intro rest answer hrest here memory hhere hmemory
  have hout : ∀ {there : Cursor} {memory : Memory}, there.In text entered →
      memory.marks.Entered group entered →
      ((rest there (memory.lookAt there)).orLookAt there).Captures text group entered
        (answer there.after) := fun {there memory} hthere hmemory =>
    Outcome.Captures.orLookAt
      (hrest hthere (show (memory.lookAt there).marks.Entered _ _ from hmemory)) there
  have hround : ∀ last, Rest.Captures text group entered
      ((body.run (fuel + 2) true modes none).greedy ⟨0, some 1⟩ rest (fuel + 1) 1 last) answer := by
    intro last there memory hthere hmemory
    have hbound : (Bounds.mk 0 (some 1)).allow 1 = false := rfl
    simpa [Matcher.greedy, hbound] using hout hthere hmemory
  have hlooping : (looping || !Greed.greedy.isPossessive) = true := by simp [Greed.isPossessive]
  have hbound : (Bounds.mk 0 (some 1)).allow 0 = true := rfl
  simp only [run, htest, Matcher.repeated, Nat.zero_add, hlooping]
  rw [Matcher.greedy]
  simp only [Nat.lt_irrefl, if_false, hbound, Bool.true_and, if_true,
    show (none != some here.index) = true from rfl]
  exact Outcome.Captures.orElse
    (hbody (hround _) hhere (show (memory.lookAt here).marks.Entered _ _ from hmemory))
    fun _ => hout hhere hmemory

/-- What comes of the anchor at the start of the text. -/
theorem captures_lineStart :
    Matcher.Captures text group entered ((anchor .lineStart).run fuel looping [] next)
      (fun answer after => if after.length = text.length then answer after else none) := by
  intro rest answer hrest here memory hhere hmemory
  have hindex := hhere.index_add_length
  have hbefore := here.index_eq
  simp only [run, Anchor.holds, List.contains_nil, Bool.false_and, Bool.or_false,
    List.isEmpty_iff_length_eq_zero]
  by_cases hstart : here.after.length = text.length
  · rw [if_pos (by omega), if_pos hstart]
    exact hrest hhere hmemory
  · rw [if_neg (by omega), if_neg hstart]
    exact .failed hmemory

/-- What comes of the group in question, at the end of a pattern that ends where the text that
follows is as `ends` says. -/
theorem captures_capturing {body : Node} {rest : Rest} {ends : Text → Bool}
    (hbody : ∀ first, Matcher.Captures text group (some first)
      (body.run fuel looping modes none) before)
    (hrest : ∀ here memory,
      rest here memory = if ends here.after then .matched (memory.lookAt here) else .failed memory)
    (next : Option Nat) :
    Rest.Captures text group none
      ((Node.group (some group) [] [] body).run fuel looping modes next · · rest)
      (fun after => before
        (fun left => if ends left then some (after.take (after.length - left.length)) else none)
        after) := by
  intro here memory hhere hmemory
  simp only [run, Modes.change_nil]
  have hindex := hhere.index_add_length
  have hentered : (memory.note (Marks.opening group) here.index).marks.Entered group
      (some here.index) := Marks.Entered.opening _ group here.index
  refine Outcome.Captures.forget (hbody here.index ?_ ⟨hhere.whole, ?_⟩ hentered)
  · intro there left hthere hleft
    have hthereIndex := hthere.index_add_length
    have hle : here.index ≤ there.index := hthere.entered_le _ rfl
    simp only [hrest]
    by_cases hends : ends there.after = true
    · have hspan : ((left.note (Marks.closing group) there.index).lookAt there).marks.span? group =
          some (here.index, there.index) := hleft.span?_closing hle
      rw [if_pos hends, if_pos hends, ← hhere.drop_index, List.length_drop,
        show text.length - here.index - there.after.length = there.index - here.index by omega]
      exact .matched hspan
    · rw [if_neg hends, if_neg hends]
      refine .failed fun first hfirst => ?_
      exact Marks.getElem?_note_of_ne (by simp [Marks.closing, Marks.opening]) (hleft first hfirst)
  · intro first hfirst
    cases hfirst
    exact Nat.le_refl _

end Node

/-! ## Searching -/

/-- What comes of the first place of a text at which something comes of it. -/
def anywhere (answer : Text → Option Text) : Text → Option Text
  | [] => answer []
  | c :: rest => answer (c :: rest) <|> anywhere answer rest

/-- Only the first place counts if nothing comes of the others. -/
theorem anywhere_of_start {answer : Text → Option Text} :
    ∀ {after : Text}, (∀ later, later.length < after.length → answer later = none) →
      anywhere answer after = answer after
  | [], _ => rfl
  | c :: rest, h => by
    have hrest : anywhere answer rest = none := by
      rw [anywhere_of_start fun later hlater => h later (Nat.lt_succ_of_lt hlater)]
      exact h rest (Nat.lt_succ_self _)
    simp [anywhere, hrest]

variable {pattern : Pattern} {name : Text} {rounds : Nat} {answer : Text → Option Text}

/-- Either there is a match at a position, and the named group takes the expected text, or there is
none, and no text is expected. -/
theorem marksAt_cases (hname : pattern.names.lookup name = some group)
    (hanswer : Rest.Captures text group none
      (pattern.node.run rounds false pattern.modes none · · Rest.accept) answer)
    {here : Cursor} (hhere : here.In text none) :
    (∃ marks taken, pattern.marksAt rounds here = some marks ∧ answer here.after = some taken ∧
      (Match.mk text marks).named? pattern name = some taken) ∨
    pattern.marksAt rounds here = none ∧ answer here.after = none := by
  have hcaptures : (pattern.node.run rounds false pattern.modes none here ⟨[], here⟩
    Rest.accept).Captures text group none (answer here.after) :=
      hanswer hhere (Marks.Entered.none _ group)
  rw [marksAt]
  generalize pattern.node.run rounds false pattern.modes none here ⟨[], here⟩ Rest.accept = outcome
    at hcaptures
  generalize answer here.after = taken at hcaptures
  cases hcaptures with
  | @matched memory _ _ hspan =>
    exact .inl ⟨memory.marks, _, rfl, rfl, by simp [Match.named?, hname, hspan]⟩
  | failed => exact .inr ⟨rfl, rfl⟩

/-- What a named group takes in the first match from a position on. -/
theorem named?_marksFrom (hname : pattern.names.lookup name = some group)
    (hanswer : Rest.Captures text group none
      (pattern.node.run rounds false pattern.modes none · · Rest.accept) answer) :
    ∀ {after : Text} {here : Cursor}, here.In text none → here.after = after →
      (pattern.marksFrom rounds after here).bind
        (fun marks => (Match.mk text marks).named? pattern name) = anywhere answer after
  | [], here, hhere, hafter => by
    have hcases := marksAt_cases hname hanswer hhere
    rw [hafter] at hcases
    rcases hcases with ⟨marks, taken, hmarks, htaken, hnamed⟩ | ⟨hmarks, hnone⟩
    · simp [marksFrom, anywhere, hmarks, htaken, hnamed]
    · simp [marksFrom, anywhere, hmarks, hnone]
  | c :: rest, here, hhere, hafter => by
    have hlater := named?_marksFrom hname hanswer (hhere.step hafter)
      (show (here.step c rest).after = rest from rfl)
    have hcases := marksAt_cases hname hanswer hhere
    rw [hafter] at hcases
    rcases hcases with ⟨marks, taken, hmarks, htaken, hnamed⟩ | ⟨hmarks, hnone⟩
    · simp [marksFrom, anywhere, hmarks, htaken, hnamed]
    · simpa [marksFrom, anywhere, hmarks, hnone] using hlater

/-- What a named group takes in the match found in a text. -/
theorem named?_leftmost (hname : pattern.names.lookup name = some group)
    (hanswer : Rest.Captures text group none
      (pattern.node.run ((text.length + 2) * (text.length + 2)) false pattern.modes none · ·
        Rest.accept) answer) :
    (pattern.leftmost text).bind (·.named? pattern name) = anywhere answer text := by
  rw [leftmost, Option.bind_map]
  exact named?_marksFrom hname hanswer (Cursor.in_start text) rfl

end TexLog.Pattern
