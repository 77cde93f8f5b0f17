import TexLog.Proofs.StandardRule

/-!
# Groups end after they begin

A search cannot be answered if some group of the match ends before it begins, which is what the
notes of failed attempts can come to. By the standard rule it never is so (`standard_failure?`): a
group that takes part in a match is noted from its beginning to its end after everything that was
noted of it before, and the group that may be left out leaves no notes then.
-/

namespace TexLog.Pattern

/-! ## What is kept of notes -/

/-- Whether a group does not end before it begins, as far as both is noted. -/
def Marks.InOrder (group : Nat) (marks : Marks) : Prop :=
  ∀ first last, marks.ends? group = some (first, last) → first ≤ last

/-- Whether a group began at an index and did not end before. -/
structure Marks.Closed (group first : Nat) (marks : Marks) : Prop where
  entered : marks.Entered group (some first)
  inOrder : marks.InOrder group

/-- Whether something about the notes lasts when an attempt fails. -/
def Marks.Lasting (kept : Marks → Prop) : Prop :=
  ∀ ⦃saved : Marks⦄ ⦃left : Memory⦄ (looping : Bool), kept saved → kept left.marks →
    kept (left.backTo looping saved).marks

/-- Whether something about the notes lasts whatever is noted of a group. -/
def Marks.Ignores (group : Nat) (kept : Marks → Prop) : Prop :=
  ∀ ⦃marks : Marks⦄ (index : Nat), kept marks →
    kept (marks.note (opening group) index) ∧ kept (marks.note (closing group) index)

namespace Marks
variable {group first : Nat} {marks : Marks}

/-- A group has ends just if both are noted. -/
theorem ends?_eq_some_iff {last : Nat} :
    marks.ends? group = some (first, last) ↔
      marks[opening group]? = some (some first) ∧ marks[closing group]? = some (some last) := by
  unfold ends?
  split
  · next hfirst hlast => simp [hfirst, hlast]
  · next hnone =>
    exact ⟨fun h => (nomatch h), fun h => (hnone first last h.1 h.2).elim⟩

/-- A note at a place is not one at another. -/
theorem getElem?_note_iff {place other index value : Nat} (hne : place ≠ other) :
    (marks.note place index)[other]? = some (some value) ↔ marks[other]? = some (some value) := by
  refine ⟨fun h => ?_, getElem?_note_of_ne hne⟩
  rw [note, List.getElem?_set_ne hne, List.getElem?_append] at h
  split at h
  · exact h
  · rw [List.getElem?_replicate] at h
    split at h <;> cases h

/-- Without marks every group is in order. -/
theorem inOrder_nil (group : Nat) : InOrder group [] := by
  intro first last h
  simp [ends?] at h

/-- If all groups are in order none is crossed. -/
theorem areCrossed_eq_false (h : ∀ group, 0 < group → marks.InOrder group) :
    marks.areCrossed = false := by
  simp only [areCrossed, List.any_eq_false, Bool.not_eq_true, Option.any_eq_false,
    decide_eq_false_iff_not, Nat.not_lt]
  exact fun group _ ends hends => h (group + 1) group.succ_pos ends.1 ends.2 hends

/-- A group that is left where it was not before it was entered is in order. -/
theorem Entered.closed {last : Nat} (h : marks.Entered group (some first)) (hle : first ≤ last) :
    (marks.note (closing group) last).Closed group first := by
  have hopening : (marks.note (closing group) last)[Marks.opening group]? = some (some first) :=
    getElem?_note_of_ne (by simp [closing, Marks.opening]) (h first rfl)
  refine ⟨fun _ hfirst => hfirst ▸ hopening, fun first' last' hends => ?_⟩
  obtain ⟨hfirst, hlast⟩ := ends?_eq_some_iff.1 hends
  rw [hopening] at hfirst
  rw [getElem?_note_self] at hlast
  cases hfirst
  cases hlast
  exact hle

/-! ### Notes that last -/

/-- What always holds lasts. -/
theorem lasting_true : Lasting fun _ => True := fun _ _ _ _ _ => trivial

/-- That a group was entered at a place lasts. -/
theorem lasting_entered (group first : Nat) : Lasting (Entered · group (some first)) :=
  fun _ _ looping hsaved hleft => Memory.entered_backTo hsaved hleft looping

/-- That a group is in order lasts. -/
theorem lasting_inOrder (group : Nat) : Lasting (InOrder group) := by
  intro saved left looping hsaved hleft
  cases looping with
  | true => exact hsaved
  | false =>
    have hmarks : (left.backTo false saved).marks = left.marks.take saved.length := rfl
    intro first last hends
    rw [hmarks, ends?_eq_some_iff, List.getElem?_take, List.getElem?_take] at hends
    obtain ⟨hfirst, hlast⟩ := hends
    split at hfirst
    · split at hlast
      · exact hleft first last (ends?_eq_some_iff.2 ⟨hfirst, hlast⟩)
      · cases hlast
    · cases hfirst

/-- That a group was closed lasts. -/
theorem lasting_closed (group first : Nat) : Lasting (Closed group first) :=
  fun _ _ looping hsaved hleft =>
    ⟨lasting_entered group first looping hsaved.entered hleft.entered,
      lasting_inOrder group looping hsaved.inOrder hleft.inOrder⟩

/-! ### Notes of other groups -/

/-- What always holds does so whatever is noted. -/
theorem ignores_true (group : Nat) : Ignores group fun _ => True :=
  fun _ _ _ => ⟨trivial, trivial⟩

section
variable {other : Nat} (hother : 0 < other) (hgroup : 0 < group) (hne : other ≠ group)
include hother hgroup hne

/-- The places of a group are none of those of another group. -/
theorem places_ne : opening other ≠ opening group ∧ opening other ≠ closing group ∧
    closing other ≠ opening group ∧ closing other ≠ closing group := by
  simp only [opening, closing]
  omega

/-- That a group is in order lasts whatever is noted of another one. -/
theorem ignores_inOrder : Ignores other (InOrder group) := by
  obtain ⟨hoo, hoc, hco, hcc⟩ := places_ne hother hgroup hne
  intro marks index hkept
  constructor <;> intro first last hends <;> rw [ends?_eq_some_iff] at hends
  · rw [getElem?_note_iff hoo, getElem?_note_iff hoc] at hends
    exact hkept first last (ends?_eq_some_iff.2 hends)
  · rw [getElem?_note_iff hco, getElem?_note_iff hcc] at hends
    exact hkept first last (ends?_eq_some_iff.2 hends)

/-- That a group was closed lasts whatever is noted of another one. -/
theorem ignores_closed (first : Nat) : Ignores other (Closed group first) := by
  obtain ⟨hoo, -, hco, -⟩ := places_ne hother hgroup hne
  intro marks index hkept
  obtain ⟨hopening, hclosing⟩ := ignores_inOrder hother hgroup hne index hkept.inOrder
  exact ⟨⟨fun first hfirst => getElem?_note_of_ne hoo (hkept.entered first hfirst), hopening⟩,
    ⟨fun first hfirst => getElem?_note_of_ne hco (hkept.entered first hfirst), hclosing⟩⟩

end

end Marks

/-! ## Attempts -/

/-- An attempt that fails leaves notes that are kept, and one that matches leaves sound ones. -/
def Outcome.Leaves (kept sound : Marks → Prop) : Outcome → Prop
  | .matched memory => sound memory.marks
  | .failed memory => kept memory.marks

/-- Where the notes are kept, what comes of the rest of a pattern leaves them so if it fails, and
sound ones if it matches. -/
def Rest.Leaves (text : Text) (entered : Option Nat) (kept sound : Marks → Prop) (rest : Rest) :
    Prop :=
  ∀ ⦃here : Cursor⦄ ⦃memory : Memory⦄, here.In text entered → kept memory.marks →
    (rest here memory).Leaves kept sound

variable {text : Text} {entered : Option Nat} {kept kept' sound : Marks → Prop} {outcome : Outcome}

namespace Outcome

/-- A second attempt begins with what the first one leaves. -/
theorem Leaves.orElse (h : outcome.Leaves kept sound) {next : Memory → Outcome}
    (hnext : ∀ {left : Memory}, kept left.marks → (next left).Leaves kept' sound) :
    (outcome.orElse next).Leaves kept' sound := by
  cases outcome with
  | matched memory => exact h
  | failed memory => exact hnext h

/-- Noting how far was looked changes nothing of what is left. -/
theorem Leaves.orLookAt (h : outcome.Leaves kept sound) (spot : Cursor) :
    (outcome.orLookAt spot).Leaves kept sound := by
  cases outcome <;> exact h

/-- Less may be kept of what is left. -/
theorem Leaves.mono (h : outcome.Leaves kept sound) (hkept : ∀ marks, kept marks → kept' marks) :
    outcome.Leaves kept' sound := by
  cases outcome with
  | matched memory => exact h
  | failed memory => exact hkept _ h

end Outcome

namespace TestLoop
variable {loop : TestLoop} {rest : Rest}

/-- Trying places one after another leaves what each of them does. -/
theorem leaves_tryEach (hlasting : Marks.Lasting kept) (hnext : loop.next = none)
    (hrest : rest.Leaves text entered kept sound) {saved : Marks} (hsaved : kept saved) :
    ∀ {positions : List Cursor} {memory : Memory}, (∀ there ∈ positions, there.In text entered) →
      kept memory.marks → (loop.tryEach rest saved positions memory).Leaves kept sound
  | [], _, _, hmemory => hmemory
  | there :: nearer, memory, hpositions, hmemory => by
    have hadmits : loop.admits there = true := by simp [admits, hnext]
    rw [tryEach, if_pos hadmits]
    have hthere : (rest there (memory.lookAt there)).Leaves kept sound :=
      hrest (hpositions there (by simp)) hmemory
    exact hthere.orElse fun hleft => leaves_tryEach hlasting hnext hrest hsaved
      (fun other hother => hpositions other (List.mem_cons_of_mem there hother))
      (hlasting loop.looping hsaved hleft)

/-- A greedy repetition without a bound leaves what the rest of the pattern leaves. -/
theorem leaves_run (hlasting : Marks.Lasting kept) (hnext : loop.next = none)
    (hmost : loop.bounds.most = none) (hrest : rest.Leaves text entered kept sound) :
    Rest.Leaves text entered kept sound (loop.run .greedy · · rest) := by
  intro here memory hhere hmemory
  obtain ⟨⟨least, most⟩, passes, stepwise, looping, next⟩ := loop
  subst hmost
  simp only [TestLoop.run, TestLoop.reach]
  split
  · exact hmemory
  · have hpositions : ∀ there ∈ (Cursor.reach passes here.after none here []).take
        ((Cursor.reach passes here.after none here []).length - least), there.In text entered :=
      fun there hthere => hhere.of_mem_reach passes rfl (List.mem_of_mem_take hthere)
    simp only [reduceCtorEq, if_false]
    -- the matcher looks first whether there is a position to try
    generalize (Cursor.reach passes here.after none here []).take _ = positions at hpositions ⊢
    cases positions with
    | nil => exact hmemory
    | cons there nearer => exact leaves_tryEach hlasting hnext hrest hmemory hpositions hmemory

end TestLoop

namespace Node
variable {fuel : Nat} {looping : Bool} {modes : Modes} {next : Option Nat} {rest : Rest}

/-- One node after another. -/
theorem leaves_cat {first second : Node}
    (h : ∀ following, Rest.Leaves text entered kept sound
      (first.run fuel looping modes following · · (second.run fuel looping modes next · · rest))) :
    Rest.Leaves text entered kept sound
      ((cat first second).run fuel looping modes next · · rest) :=
  h _

/-- A test of one character notes nothing. -/
theorem leaves_one (test : CharTest) (hrest : rest.Leaves text entered kept sound) :
    Rest.Leaves text entered kept sound ((one test).run fuel looping modes next · · rest) := by
  intro here memory hhere hmemory
  simp only [run, Cursor.next?]
  cases hafter : here.after with
  | nil => exact hmemory
  | cons c after =>
    dsimp only
    split
    · exact hrest (hhere.step hafter) hmemory
    · exact hmemory

/-- An anchor notes nothing. -/
theorem leaves_anchor (place : Anchor) (hrest : rest.Leaves text entered kept sound) :
    Rest.Leaves text entered kept sound ((anchor place).run fuel looping modes next · · rest) := by
  intro here memory hhere hmemory
  simp only [run]
  split
  · exact hrest hhere hmemory
  · exact hmemory

/-- A greedy repetition of a test notes nothing. -/
theorem leaves_repeated_one (least : Nat) (test : CharTest) (hlasting : Marks.Lasting kept)
    (hrest : rest.Leaves text entered kept sound) :
    Rest.Leaves text entered kept sound
      ((repeated .greedy least none (one test)).run fuel looping modes none · · rest) := by
  intro here memory hhere hmemory
  simp only [run, test?]
  exact TestLoop.leaves_run hlasting rfl rfl hrest hhere hmemory

/-- A group keeps what does not depend on it. -/
theorem leaves_group {number : Nat} {body : Node} (hignores : Marks.Ignores number kept)
    (hrest : rest.Leaves text entered kept sound)
    (hbody : ∀ {rest : Rest}, rest.Leaves text entered kept sound →
      Rest.Leaves text entered kept sound (body.run fuel looping modes none · · rest)) :
    Rest.Leaves text entered kept sound
      ((Node.group (some number) [] [] body).run fuel looping modes next · · rest) := by
  intro here memory hhere hmemory
  simp only [run, Modes.change_nil]
  exact hbody (fun there left hthere hleft => hrest hthere (hignores there.index hleft).2) hhere
    (hignores here.index hmemory).1

/-- A group is in order after it was left. -/
theorem leaves_closed {number : Nat} {body : Node}
    (hrest : ∀ first, rest.Leaves text none (Marks.Closed number first) sound)
    (hbody : ∀ first {rest : Rest},
      rest.Leaves text (some first) (Marks.Entered · number (some first)) sound →
      Rest.Leaves text (some first) (Marks.Entered · number (some first)) sound
        (body.run fuel looping modes none · · rest)) :
    Rest.Leaves text none (fun _ => True) sound
      ((Node.group (some number) [] [] body).run fuel looping modes next · · rest) := by
  intro here memory hhere _
  simp only [run, Modes.change_nil]
  have hin : here.In text (some here.index) :=
    ⟨hhere.whole, fun first hfirst => by cases hfirst; exact Nat.le_refl _⟩
  refine Outcome.Leaves.mono (hbody here.index ?_ hin (Marks.Entered.opening _ number here.index))
    fun _ _ => trivial
  intro there left hthere hleft
  have hout : there.In text none := ⟨hthere.whole, fun _ hfirst => by cases hfirst⟩
  exact (hrest here.index hout (hleft.closed (hthere.entered_le _ rfl))).mono
    fun _ => Marks.Closed.entered

/-- What a node that may be left out leaves does not depend on what a failed attempt at it leaves,
since the notes are put back then. -/
theorem leaves_optional {body : Node} (htest : body.test? modes = none)
    (hrest : rest.Leaves text entered kept sound)
    (hbody : ∀ {further : Rest},
      (∀ there memory, further there memory = (rest there (memory.lookAt there)).orLookAt there) →
      Rest.Leaves text entered kept' sound (body.run (fuel + 2) true modes none · · further))
    (hkept : ∀ marks, kept marks → kept' marks) :
    Rest.Leaves text entered kept sound
      ((repeated .greedy 0 (some 1) body).run (fuel + 2) looping modes next · · rest) := by
  intro here memory hhere hmemory
  have hround : ∀ last there memory,
      (body.run (fuel + 2) true modes none).greedy ⟨0, some 1⟩ rest (fuel + 1) 1 last there memory =
        (rest there (memory.lookAt there)).orLookAt there := by
    intro last there memory
    have hbound : (Bounds.mk 0 (some 1)).allow 1 = false := rfl
    simp [Matcher.greedy, hbound]
  have hlooping : (looping || !Greed.greedy.isPossessive) = true := by simp [Greed.isPossessive]
  have hbound : (Bounds.mk 0 (some 1)).allow 0 = true := rfl
  simp only [run, htest, Matcher.repeated, Nat.zero_add, hlooping]
  rw [Matcher.greedy]
  simp only [Nat.lt_irrefl, if_false, hbound, Bool.true_and, if_true,
    show (none != some here.index) = true from rfl]
  have hentered : kept (memory.lookAt here).marks := hmemory
  exact (hbody (hround _) hhere (hkept _ hentered)).orElse fun _ =>
    (hrest hhere hentered).orLookAt here

end Node

/-! ## Searching -/

variable {pattern : Pattern} {rounds : Nat} {marks : Marks}

/-- The marks that are found are those at some position of the text. -/
theorem exists_marksAt_of_marksFrom :
    ∀ {after : Text} {here : Cursor}, here.In text none → here.after = after →
      pattern.marksFrom rounds after here = some marks →
      ∃ there : Cursor, there.In text none ∧ pattern.marksAt rounds there = some marks
  | [], here, hhere, _, hmarks => ⟨here, hhere, hmarks⟩
  | c :: rest, here, hhere, hafter, hmarks => by
    rw [marksFrom] at hmarks
    split at hmarks
    · next found hfound => exact ⟨here, hhere, hfound.trans hmarks⟩
    · exact exists_marksAt_of_marksFrom (hhere.step hafter) rfl hmarks

/-- The marks at a position are what is noted in a match there. -/
theorem exists_matched_of_marksAt {here : Cursor} (h : pattern.marksAt rounds here = some marks) :
    ∃ memory, pattern.node.run rounds false pattern.modes none here ⟨[], here⟩ Rest.accept =
      .matched memory ∧ memory.marks = marks := by
  rw [marksAt] at h
  cases houtcome : pattern.node.run rounds false pattern.modes none here ⟨[], here⟩ Rest.accept with
  | matched memory =>
    rw [houtcome] at h
    exact ⟨memory, rfl, Option.some.inj h⟩
  | failed memory =>
    rw [houtcome] at h
    cases h

end TexLog.Pattern

/-! ## The standard rule -/

namespace TexLog.ErrorRule

open Pattern

/-- What the standard pattern asks for after the line number. -/
def afterNumber : Node :=
  .cat (.one (.literal 0x3A)) <| .cat (.one (.literal 0x20)) <|
    .cat (.group (some 3) [] [] (.repeated .greedy 1 none (.one .any))) (.anchor .lineEnd)

/-- What the standard pattern asks for after the name of the file. -/
def afterFile : Node :=
  .cat (.one (.literal 0x3A)) <|
    .cat (.group (some 2) [] []
      (.repeated .greedy 1 none (.one (.set false [.ofClass .digit true])))) afterNumber

/-- The name of the file in the standard pattern. -/
def fileName : Node :=
  .repeated .greedy 0 (some 1) (.group (some 1) [] [] (.repeated .greedy 1 none (.one .any)))

section
variable {text : Text} {entered : Option Nat} {kept sound : Marks → Prop} {fuel : Nat}
  {looping : Bool} {next : Option Nat}

/-- A match that is accepted leaves what is sound. -/
theorem leaves_accept (hsound : ∀ marks, kept marks → sound marks) :
    Rest.accept.Leaves text entered kept sound :=
  fun _ memory _ hmemory => hsound memory.marks hmemory

/-- What is kept is kept after the line number if it does not depend on the message. -/
theorem leaves_afterNumber (hlasting : Marks.Lasting kept) (hmessage : Marks.Ignores 3 kept)
    (hsound : ∀ marks, kept marks → sound marks) :
    Rest.Leaves text entered kept sound
      (afterNumber.run fuel looping [] next · · Rest.accept) :=
  Node.leaves_cat fun _ => Node.leaves_one _ <|
  Node.leaves_cat fun _ => Node.leaves_one _ <|
  Node.leaves_cat fun _ => Node.leaves_group hmessage
    (Node.leaves_anchor _ (leaves_accept hsound)) (Node.leaves_repeated_one _ _ hlasting)

/-- What is kept is kept after the name of the file if it depends neither on the line number nor on
the message. -/
theorem leaves_afterFile (hlasting : Marks.Lasting kept) (hnumber : Marks.Ignores 2 kept)
    (hmessage : Marks.Ignores 3 kept) (hsound : ∀ marks, kept marks → sound marks) :
    Rest.Leaves text entered kept sound
      (afterFile.run fuel looping [] next · · Rest.accept) :=
  Node.leaves_cat fun _ => Node.leaves_one _ <|
  Node.leaves_cat fun _ => Node.leaves_group hnumber
    (leaves_afterNumber hlasting hmessage hsound) (Node.leaves_repeated_one _ _ hlasting)

/-- What is kept is kept by the name of the file if it does not depend on it. -/
theorem leaves_fileName {rest : Rest} (hlasting : Marks.Lasting kept) (hfile : Marks.Ignores 1 kept)
    (hrest : rest.Leaves text entered kept sound) :
    Rest.Leaves text entered kept sound
      (fileName.run (fuel + 2) looping [] next · · rest) := by
  refine Node.leaves_optional rfl hrest (fun hfurther => ?_) fun _ => id
  refine Node.leaves_group hfile (fun there memory hthere hmemory => ?_)
    (Node.leaves_repeated_one _ _ hlasting)
  have hseen : kept (memory.lookAt there).marks := hmemory
  rw [hfurther]
  exact (hrest hthere hseen).orLookAt there

/-- What is noted of the file is in order, whether a file is named or not. -/
theorem leaves_standard_file :
    Rest.Leaves text none (Marks.InOrder 1) (Marks.InOrder 1)
      (standardPattern.node.run (fuel + 2) looping [] next · · Rest.accept) := by
  have hleftOut {following : Option Nat} : Rest.Leaves text none (Marks.InOrder 1) (Marks.InOrder 1)
      (afterFile.run (fuel + 2) looping [] following · · Rest.accept) :=
    leaves_afterFile (Marks.lasting_inOrder 1) (Marks.ignores_inOrder (by decide) (by decide)
      (by decide)) (Marks.ignores_inOrder (by decide) (by decide) (by decide)) fun _ => id
  have hnamed {following : Option Nat} (first : Nat) :
      Rest.Leaves text none (Marks.Closed 1 first) (Marks.InOrder 1)
        (afterFile.run (fuel + 2) looping [] following · · Rest.accept) :=
    leaves_afterFile (Marks.lasting_closed 1 first) (Marks.ignores_closed (by decide) (by decide)
      (by decide) first) (Marks.ignores_closed (by decide) (by decide) (by decide) first)
      fun _ => Marks.Closed.inOrder
  refine Node.leaves_cat fun _ => Node.leaves_anchor _ <| Node.leaves_cat fun _ =>
    Node.leaves_optional rfl hleftOut (fun hfurther => ?_) fun _ _ => trivial
  refine Node.leaves_closed (fun first there memory hthere hmemory => ?_) fun first =>
    Node.leaves_repeated_one _ _ (Marks.lasting_entered 1 first)
  have hseen : (memory.lookAt there).marks.Closed 1 first := hmemory
  rw [hfurther]
  exact (hnamed first hthere hseen).orLookAt there

/-- What the rest of the standard pattern leaves after the name of the file is what all of it
leaves. -/
theorem leaves_standard_of_afterFile (hlasting : Marks.Lasting kept) (hfile : Marks.Ignores 1 kept)
    (hrest : ∀ following, Rest.Leaves text none kept sound
      (afterFile.run (fuel + 2) looping [] following · · Rest.accept)) :
    Rest.Leaves text none kept sound
      (standardPattern.node.run (fuel + 2) looping [] next · · Rest.accept) :=
  Node.leaves_cat fun _ => Node.leaves_anchor _ <|
  Node.leaves_cat fun _ => leaves_fileName hlasting hfile (hrest _)

/-- What is noted of the line number is in order. -/
theorem leaves_standard_number :
    Rest.Leaves text none (fun _ => True) (Marks.InOrder 2)
      (standardPattern.node.run (fuel + 2) looping [] next · · Rest.accept) :=
  leaves_standard_of_afterFile Marks.lasting_true (Marks.ignores_true 1) fun _ =>
  Node.leaves_cat fun _ => Node.leaves_one _ <|
  Node.leaves_cat fun _ => Node.leaves_closed
    (fun first => leaves_afterNumber (Marks.lasting_closed 2 first)
      (Marks.ignores_closed (by decide) (by decide) (by decide) first) fun _ =>
        Marks.Closed.inOrder)
    fun first => Node.leaves_repeated_one _ _ (Marks.lasting_entered 2 first)

/-- What is noted of the message is in order. -/
theorem leaves_standard_message :
    Rest.Leaves text none (fun _ => True) (Marks.InOrder 3)
      (standardPattern.node.run (fuel + 2) looping [] next · · Rest.accept) :=
  leaves_standard_of_afterFile Marks.lasting_true (Marks.ignores_true 1) fun _ =>
  Node.leaves_cat fun _ => Node.leaves_one _ <|
  Node.leaves_cat fun _ => Node.leaves_group (Marks.ignores_true 2)
    (Node.leaves_cat fun _ => Node.leaves_one _ <|
     Node.leaves_cat fun _ => Node.leaves_one _ <|
     Node.leaves_cat fun _ => Node.leaves_closed
      (fun _ => Node.leaves_anchor _ (leaves_accept fun _ => Marks.Closed.inOrder))
      fun first => Node.leaves_repeated_one _ _ (Marks.lasting_entered 3 first))
    (Node.leaves_repeated_one _ _ Marks.lasting_true)

/-- What is noted of any group is in order. -/
theorem inOrder_of_matched {group : Nat} (hgroup : 0 < group) {here : Cursor}
    (hhere : here.In text none) {memory : Memory}
    (hmatched : standardPattern.node.run (fuel + 2) looping [] next here ⟨[], here⟩ Rest.accept =
      .matched memory) : memory.marks.InOrder group := by
  have hsound {kept : Marks → Prop} (hkept : kept [])
      (hleaves : Rest.Leaves text none kept (Marks.InOrder group)
        (standardPattern.node.run (fuel + 2) looping [] next · · Rest.accept)) :
      memory.marks.InOrder group := by
    have hnothing : kept (Memory.mk [] here).marks := hkept
    have hleft := hleaves hhere hnothing
    simp only [hmatched] at hleft
    exact hleft
  by_cases hfile : group = 1
  · subst hfile
    exact hsound (Marks.inOrder_nil 1) leaves_standard_file
  by_cases hnumber : group = 2
  · subst hnumber
    exact hsound trivial leaves_standard_number
  by_cases hmessage : group = 3
  · subst hmessage
    exact hsound trivial leaves_standard_message
  · -- nothing is noted of other groups
    have hlasting := Marks.lasting_inOrder group
    exact hsound (Marks.inOrder_nil group) <| leaves_standard_of_afterFile hlasting
      (Marks.ignores_inOrder (by decide) hgroup (Ne.symm hfile)) fun _ =>
        leaves_afterFile hlasting (Marks.ignores_inOrder (by decide) hgroup (Ne.symm hnumber))
          (Marks.ignores_inOrder (by decide) hgroup (Ne.symm hmessage)) fun _ => id

end

/-- **A search by the standard rule can always be answered.** -/
theorem standard_failure? (text : Text) : standardPattern.failure? text = none := by
  have hfound {marks : Marks} (hmarks : standardPattern.marksFrom
      ((text.length + 2) * (text.length + 2)) text (.start text) = some marks) :
      marks.areCrossed = false := by
    obtain ⟨there, hthere, hmarks⟩ := exists_marksAt_of_marksFrom (Cursor.in_start text) rfl hmarks
    obtain ⟨memory, hmatched, rfl⟩ := exists_matched_of_marksAt hmarks
    have hrounds : 2 ≤ (text.length + 2) * (text.length + 2) :=
      Nat.le_trans (Nat.le_add_left ..) (Nat.le_mul_of_pos_right _ (Nat.succ_pos _))
    rw [← Nat.sub_add_cancel hrounds] at hmatched
    exact Marks.areCrossed_eq_false fun group hgroup => inOrder_of_matched hgroup hthere hmatched
  rw [failure?, leftmost]
  cases hmarks : standardPattern.marksFrom ((text.length + 2) * (text.length + 2)) text
      (.start text) with
  | none => rfl
  | some marks => simp [hfound hmarks]

end TexLog.ErrorRule
