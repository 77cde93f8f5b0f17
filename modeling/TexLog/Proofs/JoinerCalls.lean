import TexLog.Proofs.Deliveries

/-!
# Calls of a joiner in any order

A joiner can be called in any order, and with any wrap width: a message may begin while another one
is in progress, and a line may come while none is. What a call does is said here by the calls before
it, and not by the state of the joiner. A message is in progress if the calls end with its beginning
and lines that were added since, none of them short (`InProgress`), and a call completes a message
by beginning it on a short line, by adding a short line to it or by flushing it (`Completes`). That
a joiner does this, and nothing else, is `Joiner.callAll_keeps_law`.
-/

namespace TexLog

namespace Joiner

/-- A call of an operation of a joiner. -/
inductive Call
  /-- Begins a diagnostic whose message so far ends on the line. -/
  | start (diagnostic : Diagnostic) (line : Text)
  /-- Adds a line to the message in progress. -/
  | feed (line : Text)
  /-- Delivers the message in progress as it is. -/
  | flush
  /-- Drops the message in progress. -/
  | reset
  deriving DecidableEq, Repr

/-- What a call returns, unless it fails: the diagnostic that it completes, if there is one. -/
abbrev Reply := Except Text (Option Diagnostic)

/-- The diagnostics that a call completes. -/
def completed : Reply → List Diagnostic
  | .ok diagnostic => diagnostic.toList
  | .error _ => []

/-- Calls an operation. -/
def call (joiner : Joiner) (width : Int) : Call → Joiner × Reply
  | .start diagnostic line => (joiner.start width diagnostic line).map id .ok
  | .feed line =>
    match joiner.feed? width line with
    | some result => result.map id .ok
    | none => (joiner, .error idleMessage)
  | .flush => joiner.flush.map id .ok
  | .reset => (joiner.reset, .ok none)

/-- Calls operations, one after the other. The result has what each call returns. -/
def callAll (joiner : Joiner) (width : Int) (calls : List Call) : Joiner × List Reply :=
  calls.foldl
    (fun (joiner, replies) call =>
      let (joiner, reply) := joiner.call width call
      (joiner, replies ++ [reply]))
    (joiner, [])

/-! ## What calls come to -/

/-- A message and what it was made of. -/
structure Passage where
  /-- The diagnostic as it began. -/
  begun : Diagnostic
  /-- The line on which its message ended then. -/
  line : Text
  /-- The lines that were added since. -/
  added : List Text := []

namespace Passage

/-- The calls that make the message. -/
def calls (passage : Passage) : List Call :=
  .start passage.begun passage.line :: passage.added.map .feed

/-- The diagnostic with the whole message. -/
def diagnostic (passage : Passage) : Diagnostic :=
  ⟨passage.begun.kind, passage.begun.message ++ passage.added.flatten⟩

/-- No line is short, so that the message goes on. -/
def IsOpen (width : Int) (passage : Passage) : Prop :=
  ∀ line ∈ passage.line :: passage.added, width ≤ line.length

/-- The message with one more line. -/
def add (passage : Passage) (line : Text) : Passage :=
  { passage with added := passage.added ++ [line] }

variable (width : Int) (passage : Passage) (line : Text)

@[simp] theorem calls_add : (passage.add line).calls = passage.calls ++ [.feed line] := by
  simp [add, calls]

@[simp] theorem diagnostic_add : (passage.add line).diagnostic =
    ⟨passage.diagnostic.kind, passage.diagnostic.message ++ line⟩ := by
  simp [add, diagnostic]

@[simp] theorem isOpen_add :
    (passage.add line).IsOpen width ↔ passage.IsOpen width ∧ width ≤ line.length := by
  simp [add, IsOpen, or_imp, forall_and, and_assoc]

/-- A message has just begun, or a line was added to it last. -/
theorem eq_begun_or_add : passage = ⟨passage.begun, passage.line, []⟩ ∨
    ∃ (before : Passage) (last : Text), passage = before.add last := by
  obtain ⟨begun, line, added⟩ := passage
  rcases List.eq_nil_or_concat added with rfl | ⟨added, last, rfl⟩
  · exact .inl rfl
  · exact .inr ⟨⟨begun, line, added⟩, last, by simp [add]⟩

end Passage

/-- After these calls a message is in progress that began with the call of number `first`. -/
def InProgress (width : Int) (calls : List Call) (first : Nat) (diagnostic : Diagnostic) : Prop :=
  ∃ (before : List Call) (passage : Passage), calls = before ++ passage.calls ∧
    passage.IsOpen width ∧ first = before.length ∧ diagnostic = passage.diagnostic

/-- After the other calls a call completes a message that began with the call of number `first`. -/
inductive Completes (width : Int) (calls : List Call) : Call → Nat → Diagnostic → Prop
  /-- It begins on a short line. -/
  | start {diagnostic : Diagnostic} {line : Text} (hshort : (line.length : Int) < width) :
    Completes width calls (.start diagnostic line) calls.length diagnostic
  /-- A short line is added to it. -/
  | feed {first : Nat} {diagnostic : Diagnostic} {line : Text}
    (hprogress : InProgress width calls first diagnostic)
    (hshort : (line.length : Int) < width) :
    Completes width calls (.feed line) first ⟨diagnostic.kind, diagnostic.message ++ line⟩
  /-- It is delivered as it is. -/
  | flush {first : Nat} {diagnostic : Diagnostic}
    (hprogress : InProgress width calls first diagnostic) :
    Completes width calls .flush first diagnostic

variable {width : Int} {calls : List Call} {first : Nat} {diagnostic : Diagnostic}

/-- Before any call nothing is in progress. -/
theorem not_inProgress_nil : ¬ InProgress width [] first diagnostic := by
  rintro ⟨before, passage, hcalls, -⟩
  simp [Passage.calls] at hcalls

/-- What is in progress after one more call. -/
theorem inProgress_concat (call : Call) :
    InProgress width (calls ++ [call]) first diagnostic ↔
      match call with
      | .start begun line => width ≤ line.length ∧ first = calls.length ∧ diagnostic = begun
      | .feed line => ∃ before, InProgress width calls first before ∧ width ≤ line.length ∧
          diagnostic = ⟨before.kind, before.message ++ line⟩
      | .flush | .reset => False := by
  constructor
  · rintro ⟨before, passage, hcalls, hopen, rfl, rfl⟩
    rcases passage.eq_begun_or_add with hbegun | ⟨shorter, last, rfl⟩
    · rw [hbegun] at hcalls hopen ⊢
      obtain ⟨rfl, hlast⟩ := List.append_inj' hcalls rfl
      obtain rfl := List.singleton_inj.1 hlast
      exact ⟨hopen passage.line (by simp), rfl, by simp [Passage.diagnostic]⟩
    · rw [Passage.calls_add, ← List.append_assoc] at hcalls
      obtain ⟨rfl, hlast⟩ := List.append_inj' hcalls rfl
      obtain rfl := List.singleton_inj.1 hlast
      obtain ⟨hopen, hlong⟩ := (Passage.isOpen_add ..).1 hopen
      exact ⟨_, ⟨before, shorter, rfl, hopen, rfl, rfl⟩, hlong, shorter.diagnostic_add last⟩
  · intro h
    cases call with
    | start begun line =>
      obtain ⟨hlong, rfl, rfl⟩ := h
      exact ⟨calls, ⟨diagnostic, line, []⟩, rfl, by simpa [Passage.IsOpen] using hlong, rfl,
        by simp [Passage.diagnostic]⟩
    | feed line =>
      obtain ⟨_, ⟨before, passage, rfl, hopen, rfl, rfl⟩, hlong, rfl⟩ := h
      exact ⟨before, passage.add line, by simp, (Passage.isOpen_add ..).2 ⟨hopen, hlong⟩, rfl,
        (passage.diagnostic_add line).symm⟩
    | flush => exact h.elim
    | reset => exact h.elim

/-- A call inside the making of a message is its beginning, or adds a line to it. -/
theorem InProgress.call_cases {before after : List Call} {call : Call}
    (h : InProgress width (before ++ call :: after) first diagnostic) :
    before.length < first ∨
      (first = before.length ∧ ∃ begun line, call = .start begun line ∧ width ≤ line.length) ∨
      (first < before.length ∧ ∃ line, call = .feed line ∧ width ≤ line.length) := by
  induction after using List.reverseRecOn generalizing diagnostic with
  | nil =>
    rw [inProgress_concat] at h
    cases call with
    | start begun line => exact .inr (.inl ⟨h.2.1, begun, line, rfl, h.1⟩)
    | feed line =>
      obtain ⟨_, ⟨earlier, passage, rfl, -, rfl, -⟩, hlong, -⟩ := h
      exact .inr (.inr ⟨by simp [Passage.calls], line, rfl, hlong⟩)
    | flush => exact h.elim
    | reset => exact h.elim
  | append_singleton after last ih =>
    rw [← List.cons_append, ← List.append_assoc, inProgress_concat] at h
    cases last with
    | start begun line => exact .inl (by simp [h.2.1])
    | feed line =>
      obtain ⟨_, hbefore, -, -⟩ := h
      exact ih hbefore
    | flush => exact h.elim
    | reset => exact h.elim

/-- A message that is completed later began after a call, unless the call is its beginning or adds a
line to it. -/
theorem Completes.call_cases {before after : List Call} {call last : Call}
    (h : Completes width (before ++ call :: after) last first diagnostic) :
    before.length < first ∨
      (first = before.length ∧ ∃ begun line, call = .start begun line ∧ width ≤ line.length) ∨
      (first < before.length ∧ ∃ line, call = .feed line ∧ width ≤ line.length) := by
  cases h with
  | start => exact .inl (by simp)
  | feed hprogress => exact hprogress.call_cases
  | flush hprogress => exact hprogress.call_cases

/-! ## What a joiner does -/

/-- The last of several calls is made after the others. -/
theorem callAll_concat (joiner : Joiner) (width : Int) (calls : List Call) (last : Call) :
    joiner.callAll width (calls ++ [last]) =
      (((joiner.callAll width calls).1.call width last).1,
        (joiner.callAll width calls).2 ++
          [((joiner.callAll width calls).1.call width last).2]) := by
  simp [callAll]

/-- A message goes on after a line that is not short. -/
theorem pending_start_eq_some (joiner : Joiner) {begun : Diagnostic} {line : Text} :
    (joiner.start width begun line).1.pending = some diagnostic ↔
      width ≤ line.length ∧ diagnostic = begun := by
  rw [pending_start, isShort]
  by_cases hshort : (line.length : Int) < width
  · simp [hshort, Int.not_le.2 hshort]
  · simp [hshort, Int.not_lt.1 hshort, eq_comm]

/-- A message is complete with a short line. -/
theorem start_eq_some (joiner : Joiner) {begun : Diagnostic} {line : Text} :
    (joiner.start width begun line).2 = some diagnostic ↔
      (line.length : Int) < width ∧ diagnostic = begun := by
  rw [start, isShort]
  by_cases hshort : (line.length : Int) < width
  · simp [hshort, finish, eq_comm]
  · simp [hshort]

/-- What a call leaves in progress. -/
theorem pending_call (joiner : Joiner) (call : Call) :
    (joiner.call width call).1.pending = some diagnostic ↔
      match call with
      | .start begun line => width ≤ line.length ∧ diagnostic = begun
      | .feed line => ∃ before, joiner.pending = some before ∧ width ≤ line.length ∧
          diagnostic = ⟨before.kind, before.message ++ line⟩
      | .flush | .reset => False := by
  cases call with
  | start begun line => exact joiner.pending_start_eq_some
  | feed line =>
    cases hpending : joiner.pending with
    | none => simp [Joiner.call, feed?_of_idle hpending, hpending]
    | some before =>
      simp only [Joiner.call, feed?_of_pending hpending, Option.some.injEq, exists_eq_left']
      exact joiner.pending_start_eq_some
  | flush => simp [Joiner.call]
  | reset => simp [Joiner.call, reset]

/-- What a call completes. -/
theorem reply_call (joiner : Joiner) (call : Call) :
    (joiner.call width call).2 = .ok (some diagnostic) ↔
      match call with
      | .start begun line => (line.length : Int) < width ∧ diagnostic = begun
      | .feed line => ∃ before, joiner.pending = some before ∧ (line.length : Int) < width ∧
          diagnostic = ⟨before.kind, before.message ++ line⟩
      | .flush => joiner.pending = some diagnostic
      | .reset => False := by
  cases call with
  | start begun line => simpa [Joiner.call] using joiner.start_eq_some
  | feed line =>
    cases hpending : joiner.pending with
    | none => simp [Joiner.call, feed?_of_idle hpending]
    | some before =>
      simp only [Joiner.call, feed?_of_pending hpending, Option.some.injEq, exists_eq_left']
      simpa using joiner.start_eq_some
  | flush => cases hpending : joiner.pending <;> simp [Joiner.call, flush, finish, hpending]
  | reset => simp [Joiner.call]

/-- A call fails if it adds a line although no message is in progress, and only then. -/
theorem call_eq_error (joiner : Joiner) (call : Call) {words : Text} :
    (joiner.call width call).2 = .error words ↔
      words = idleMessage ∧ joiner.pending = none ∧ ∃ line, call = .feed line := by
  cases call with
  | start begun line => simp [Joiner.call]
  | feed line =>
    cases hpending : joiner.pending with
    | none => simp [Joiner.call, feed?_of_idle hpending, eq_comm]
    | some before => simp [Joiner.call, feed?_of_pending hpending]
  | flush => simp [Joiner.call]
  | reset => simp [Joiner.call]

/-- A call that fails changes nothing. -/
theorem call_of_error {joiner : Joiner} {call : Call} {words : Text}
    (hfails : (joiner.call width call).2 = .error words) : (joiner.call width call).1 = joiner := by
  obtain ⟨-, hidle, line, rfl⟩ := (joiner.call_eq_error call).1 hfails
  simp [Joiner.call, feed?_of_idle hidle]

/-- A call that completes a diagnostic leaves none in progress. -/
theorem pending_of_reply {joiner : Joiner} {call : Call}
    (hcompletes : (joiner.call width call).2 = .ok (some diagnostic)) :
    (joiner.call width call).1.pending = none := by
  rw [reply_call] at hcompletes
  rw [Option.eq_none_iff_forall_ne_some]
  intro other hpending
  rw [pending_call] at hpending
  cases call with
  | start begun line => exact Int.not_lt.2 hpending.1 hcompletes.1
  | feed line =>
    obtain ⟨_, -, hshort, -⟩ := hcompletes
    obtain ⟨_, -, hlong, -⟩ := hpending
    exact Int.not_lt.2 hlong hshort
  | flush => exact hpending
  | reset => exact hpending

/-- A call delivers what it completes. -/
theorem outbox_call (joiner : Joiner) (width : Int) (call : Call) :
    (joiner.call width call).1.outbox =
      joiner.outbox.deliverAll (completed (joiner.call width call).2) := by
  cases call with
  | start begun line =>
    exact congrArg (·.1.outbox) (joiner.start_withOutbox joiner.outbox width begun line)
  | feed line =>
    cases hpending : joiner.pending with
    | none => simp [Joiner.call, feed?_of_idle hpending, completed]
    | some before =>
      simp only [Joiner.call, feed?_of_pending hpending]
      exact congrArg (·.1.outbox) (joiner.start_withOutbox joiner.outbox width _ line)
  | flush => exact congrArg (·.1.outbox) (joiner.flush_withOutbox joiner.outbox)
  | reset => rfl

/-- What calls complete is delivered, in the order of the calls. -/
theorem outbox_callAll (joiner : Joiner) (width : Int) (calls : List Call) :
    (joiner.callAll width calls).1.outbox =
      joiner.outbox.deliverAll ((joiner.callAll width calls).2.flatMap completed) := by
  induction calls using List.reverseRecOn with
  | nil => rfl
  | append_singleton calls last ih =>
    simp only [callAll_concat, outbox_call, ih, List.flatMap_append, List.flatMap_singleton,
      Outbox.deliverAll_append]

/-- A joiner has in progress what the calls have left in progress. -/
theorem pending_callAll (width : Int) (calls : List Call) (diagnostic : Diagnostic) :
    (callAll {} width calls).1.pending = some diagnostic ↔
      ∃ first, InProgress width calls first diagnostic := by
  induction calls using List.reverseRecOn generalizing diagnostic with
  | nil => simp [callAll, not_inProgress_nil]
  | append_singleton calls last ih =>
    rw [callAll_concat, pending_call]
    simp only [inProgress_concat]
    cases last with
    | start begun line => simp
    | feed line =>
      simp only [ih]
      exact ⟨fun ⟨before, ⟨first, hbefore⟩, h⟩ => ⟨first, before, hbefore, h⟩,
        fun ⟨first, before, hbefore, h⟩ => ⟨before, ⟨first, hbefore⟩, h⟩⟩
    | flush => simp
    | reset => simp

/-- A joiner is idle if the calls have left nothing in progress. -/
theorem pending_callAll_eq_none (width : Int) (calls : List Call) :
    (callAll {} width calls).1.pending = none ↔
      ∀ first diagnostic, ¬ InProgress width calls first diagnostic := by
  rw [Option.eq_none_iff_forall_ne_some]
  simp only [ne_eq, pending_callAll, not_exists]
  exact forall_comm

/-- A call completes what the calls before it have made. -/
theorem reply_callAll (width : Int) (calls : List Call) (call : Call) (diagnostic : Diagnostic) :
    ((callAll {} width calls).1.call width call).2 = .ok (some diagnostic) ↔
      ∃ first, Completes width calls call first diagnostic := by
  rw [reply_call]
  cases call with
  | start begun line =>
    constructor
    · rintro ⟨hshort, rfl⟩
      exact ⟨_, .start hshort⟩
    · rintro ⟨_, h⟩
      cases h with
      | start hshort => exact ⟨hshort, rfl⟩
  | feed line =>
    simp only [pending_callAll]
    constructor
    · rintro ⟨before, ⟨first, hprogress⟩, hshort, rfl⟩
      exact ⟨first, .feed hprogress hshort⟩
    · rintro ⟨first, h⟩
      cases h with
      | feed hprogress hshort => exact ⟨_, ⟨first, hprogress⟩, hshort, rfl⟩
  | flush =>
    simp only [pending_callAll]
    constructor
    · rintro ⟨first, hprogress⟩
      exact ⟨first, .flush hprogress⟩
    · rintro ⟨first, h⟩
      cases h with
      | flush hprogress => exact ⟨first, hprogress⟩
  | reset => exact ⟨False.elim, fun ⟨_, h⟩ => nomatch h⟩

/-! ## The law of a run -/

/-- What is to be said of a call after other calls. -/
structure KeepsLaw (width : Int) (calls : List Call) (call : Call) : Prop where
  /-- The calls before it have left in progress what the joiner has in progress. -/
  inProgress (diagnostic : Diagnostic) : (callAll {} width calls).1.pending = some diagnostic ↔
    ∃ first, InProgress width calls first diagnostic
  /-- It fails if it adds a line while no message is in progress, and only then. -/
  fails (words : Text) : ((callAll {} width calls).1.call width call).2 = .error words ↔
    words = idleMessage ∧ (∀ first diagnostic, ¬ InProgress width calls first diagnostic) ∧
      ∃ line, call = .feed line
  /-- If it fails it changes nothing. -/
  unchanged (words : Text)
    (hfails : ((callAll {} width calls).1.call width call).2 = .error words) :
    ((callAll {} width calls).1.call width call).1 = (callAll {} width calls).1
  /-- It returns the diagnostic that it completes, if it completes one. -/
  completes (diagnostic : Diagnostic) :
    ((callAll {} width calls).1.call width call).2 = .ok (some diagnostic) ↔
      ∃ first, Completes width calls call first diagnostic
  /-- It leaves nothing in progress if it completes a diagnostic or drops it. -/
  idle (hends : call = .reset ∨ ∃ first diagnostic, Completes width calls call first diagnostic) :
    ((callAll {} width calls).1.call width call).1.pending = none
  /-- If it completes a diagnostic, those that are completed later begin later. -/
  apart {first next : Nat} {diagnostic other : Diagnostic} {between : List Call} {later : Call}
    (hcompletes : Completes width calls call first diagnostic)
    (hlater : Completes width (calls ++ call :: between) later next other) :
    first ≤ calls.length ∧ calls.length < next
  /-- If it begins a diagnostic, no other one that began before is completed any more. -/
  drops {begun other : Diagnostic} {line : Text} {between : List Call} {later : Call} {next : Nat}
    (hstart : call = .start begun line)
    (hlater : Completes width (calls ++ call :: between) later next other) : calls.length ≤ next

/-- What a call completes began before it, or with it. -/
theorem Completes.first_le {call : Call} (h : Completes width calls call first diagnostic) :
    first ≤ calls.length := by
  have hbegun {other : Diagnostic} (hprogress : InProgress width calls first other) :
      first ≤ calls.length := by
    obtain ⟨before, passage, rfl, -, rfl, -⟩ := hprogress
    simp
  cases h with
  | start => exact Nat.le_refl _
  | feed hprogress => exact hbegun hprogress
  | flush hprogress => exact hbegun hprogress

/-- No message goes on after a call that completed one. -/
theorem Completes.lt_of_later {call later : Call} {between : List Call} {next : Nat}
    {other : Diagnostic} (h : Completes width calls call first diagnostic)
    (hlater : Completes width (calls ++ call :: between) later next other) :
    calls.length < next := by
  rcases hlater.call_cases with hlt | ⟨-, begun, line, rfl, hlong⟩ | ⟨-, line, rfl, hlong⟩
  · exact hlt
  · cases h with
    | start hshort => exact absurd hshort (Int.not_lt.2 hlong)
  · cases h with
    | feed _ hshort => exact absurd hshort (Int.not_lt.2 hlong)

/-- **What a joiner does in a run of calls**, for any width. What the calls complete is delivered,
in their order and each once, and counted, and each call keeps the law. -/
theorem callAll_keeps_law (width : Int) (calls : List Call) :
    let run := callAll {} width calls
    let found := run.2.flatMap completed
    run.1.outbox.received = found ∧
      (∀ kind, run.1.outbox.delivered.get kind = found.countP (·.kind = kind)) ∧
      ∀ call, KeepsLaw width calls call := by
  intro run found
  have houtbox : run.1.outbox = Outbox.deliverAll {} found := outbox_callAll ..
  refine ⟨by rw [houtbox, Outbox.received_deliverAll]; rfl, fun kind => ?_, fun call => ?_⟩
  · rw [houtbox, Outbox.get_delivered_deliverAll]
    cases kind <;> exact Nat.zero_add _
  · have hreply := reply_callAll width calls call
    exact {
      inProgress := pending_callAll width calls
      fails words := by
        rw [call_eq_error, pending_callAll_eq_none]
      unchanged words := call_of_error
      completes := hreply
      idle hends := by
        rcases hends with rfl | ⟨first, diagnostic, hcompletes⟩
        · rfl
        · exact pending_of_reply ((hreply diagnostic).2 ⟨first, hcompletes⟩)
      apart hcompletes hlater := ⟨hcompletes.first_le, hcompletes.lt_of_later hlater⟩
      drops hstart hlater := by
        rcases hlater.call_cases with hlt | ⟨heq, -⟩ | ⟨-, line, hfeed, -⟩
        · exact Nat.le_of_lt hlt
        · exact Nat.le_of_eq heq.symm
        · rw [hstart] at hfeed
          cases hfeed }

/-- A message that begins while another one is in progress takes its place, and a line that comes
after its end is refused. -/
example :
    let first : Call := .start ⟨.error, ['a']⟩ "long".toList
    let second : Call := .start ⟨.warning, ['b']⟩ "long".toList
    (callAll {} 3 [first, second, .feed ['c'], .feed ['d']]).2 =
      [.ok none, .ok none, .ok (some ⟨.warning, "bc".toList⟩), .error idleMessage] := by
  decide

end Joiner

end TexLog
