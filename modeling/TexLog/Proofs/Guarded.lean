import TexLog.Proofs.Completed

/-!
# No step of a scan fails

The steps of a scanner take things for granted: a line is added only to a message in progress, a
message is completed only while it is in progress, none begins while another one is in progress, and
the pattern of errors has the group that captures the message. The guarded steps below look each of
these up before they rely on it, and break off with a `Breach` if it does not hold.

A consistent scanner gives no reason to break off: each guarded step does what the plain one does
(`feedGuarded_eq`, `finishGuarded_eq`). Each step also keeps the scanner consistent and its recent
lines the last two that came since it was last reset (`Tracks`), so no sequence of requests comes to
a breach (`serveAll_safe`).
-/

namespace TexLog

/-- What a step takes for granted and does not find. -/
inductive Breach
  /-- A line is added although no message is in progress. -/
  | idleFeed
  /-- A message is completed although none is in progress. -/
  | idleCompletion
  /-- A message begins although another one is in progress, which would be lost. -/
  | lostMessage
  /-- The message of an error is asked for, and the pattern has no group of that name. -/
  | noMessageGroup
  deriving DecidableEq, Repr

/-! ## Guarded steps -/

namespace Joiner

/-- Completes the message in progress. -/
def completeGuarded (joiner : Joiner) : Except Breach (Joiner × Option Diagnostic) :=
  match joiner.pending with
  | some diagnostic =>
    .ok ({ joiner with pending := none, outbox := joiner.outbox.deliver diagnostic },
      some diagnostic)
  | none => .error .idleCompletion

/-- Has a diagnostic in progress whose message so far ends on the given line, and completes it if
the line is short. -/
def growGuarded (joiner : Joiner) (width : Int) (diagnostic : Diagnostic) (line : Text) :
    Except Breach (Joiner × Option Diagnostic) :=
  let grown := { joiner with pending := some diagnostic }
  if isShort width line then grown.completeGuarded else .ok (grown, none)

/-- Begins a diagnostic, unless one is in progress. -/
def startGuarded (joiner : Joiner) (width : Int) (diagnostic : Diagnostic) (line : Text) :
    Except Breach (Joiner × Option Diagnostic) :=
  if joiner.pending.isSome then .error .lostMessage else joiner.growGuarded width diagnostic line

/-- Adds a line to the message in progress. -/
def feedGuarded (joiner : Joiner) (width : Int) (line : Text) :
    Except Breach (Joiner × Option Diagnostic) :=
  match joiner.pending with
  | some ⟨kind, message⟩ => joiner.growGuarded width ⟨kind, message ++ line⟩ line
  | none => .error .idleFeed

/-- Delivers the message in progress, if there is one, as it is. -/
def flushGuarded (joiner : Joiner) : Except Breach (Joiner × Option Diagnostic) :=
  if joiner.pending.isSome then joiner.completeGuarded else .ok (joiner, none)

end Joiner

/-- The message of an error that a text shows, from the group of that name. -/
def ErrorRule.messageGuarded (rule : ErrorRule) (text : Text) : Except Breach (Option Text) :=
  match rule.pattern.leftmost text with
  | none => .ok none
  | some found =>
    if rule.pattern.hasGroup messageGroup then .ok (found.named? rule.pattern messageGroup)
    else .error .noMessageGroup

/-- The diagnostic that a text begins: an error if it shows one, else a warning. -/
def Settings.recogniseGuarded (settings : Settings) (text : Text) :
    Except Breach (Option Diagnostic) := do
  let message ← settings.errorRule.messageGuarded text
  return message.map (⟨.error, ·⟩) <|> settings.recogniseWarning text

namespace Scanner

/-- The diagnostic that begins on the newest line or straddles the line before it, if that is a full
one, and the newest line. -/
def recogniseRecentGuarded (scanner : Scanner) (line : Text) :
    Except Breach (Option Diagnostic) := do
  let straddling ←
    if scanner.recent.previous?.any scanner.isFull then
      scanner.settings.recogniseGuarded scanner.recent.text
    else .ok none
  match straddling with
  | some diagnostic => .ok (some diagnostic)
  | none => scanner.settings.recogniseGuarded line

/-- Examines the newest line when neither a message is in progress nor a line held back that begins
one. -/
def examineGuarded (scanner : Scanner) (line : Text) :
    Except Breach (Scanner × Option Diagnostic) := do
  if scanner.recent.oldestIsEmpty then return ({ scanner with held := some line }, none)
  match ← scanner.recogniseRecentGuarded line with
  | some diagnostic =>
    return scanner.joined (← scanner.joiner.startGuarded scanner.width diagnostic line)
  | none => return (scanner, none)

/-- Deals with the newest line when a line was held back and begins a diagnostic. -/
def releaseHeldGuarded (scanner : Scanner) (held line : Text) (diagnostic : Diagnostic) :
    Except Breach (Scanner × Option Diagnostic) := do
  if scanner.isFull held then
    let (joiner, _) ← scanner.joiner.startGuarded scanner.width diagnostic held
    return scanner.joined (← joiner.feedGuarded scanner.width line)
  else
    let joiner := { scanner.joiner with outbox := scanner.joiner.outbox.deliver diagnostic }
    return { scanner with held := some line }.joined (joiner, some diagnostic)

/-- Takes the next line: it goes on with the message in progress, or else the line held back and
then the new line are looked at. -/
def feedGuarded (scanner : Scanner) (text : Text) :
    Except Breach (Scanner × Option Diagnostic) := do
  let line := text.stripLineEnd
  let scanner := { scanner with recent := scanner.recent.push line }
  if scanner.joiner.pending.isSome then
    return scanner.joined (← scanner.joiner.feedGuarded scanner.width line)
  let free := { scanner with held := none }
  match scanner.held with
  | none => free.examineGuarded line
  | some held =>
    match ← scanner.settings.recogniseGuarded held with
    | some diagnostic => free.releaseHeldGuarded held line diagnostic
    | none => free.examineGuarded line

/-- Ends the log: a message in progress is delivered as it is, and a line held back is looked at on
its own. -/
def finishGuarded (scanner : Scanner) : Except Breach (Scanner × Option Diagnostic) := do
  if scanner.joiner.pending.isSome then return scanner.joined (← scanner.joiner.flushGuarded)
  let free := { scanner with held := none }
  match scanner.held with
  | none => return (free, none)
  | some held =>
    match ← scanner.settings.recogniseGuarded held with
    | some diagnostic =>
      let joiner := { scanner.joiner with outbox := scanner.joiner.outbox.deliver diagnostic }
      return free.joined (joiner, some diagnostic)
    | none => return (free, none)

/-- Takes several lines. -/
def feedLinesGuarded (scanner : Scanner) (lines : List Text) :
    Except Breach (Scanner × List Diagnostic) :=
  lines.foldlM
    (fun (scanner, completed) line => do
      let (scanner, diagnostic) ← scanner.feedGuarded line
      return (scanner, completed ++ diagnostic.toList))
    (scanner, [])

/-- Takes a whole log, and ends it if `flush` is set. -/
def scanGuarded (scanner : Scanner) (text : Text) (flush : Bool) :
    Except Breach (Scanner × List Diagnostic) := do
  let (scanner, completed) ← scanner.feedLinesGuarded text.lines
  if flush then
    let (scanner, diagnostic) ← scanner.finishGuarded
    return (scanner, completed ++ diagnostic.toList)
  else return (scanner, completed)

end Scanner

/-! ## Guarded steps do what the plain ones do -/

/-- What follows a step that is not broken off. -/
theorem Breach.ok_bind {α β : Type} (result : α) (next : α → Except Breach β) :
    (Except.ok result >>= next) = next result := rfl

namespace Joiner

/-- A message that has just been put in progress can be completed. -/
theorem growGuarded_eq (joiner : Joiner) (width : Int) (diagnostic : Diagnostic) (line : Text) :
    joiner.growGuarded width diagnostic line = .ok (joiner.start width diagnostic line) := by
  cases hshort : isShort width line with
  | true => simp [growGuarded, completeGuarded, start_of_isShort, hshort, finish]
  | false => simp [growGuarded, start_of_not_isShort, hshort]

/-- A diagnostic can begin when none is in progress. -/
theorem startGuarded_of_idle {joiner : Joiner} (hidle : joiner.pending = none) (width : Int)
    (diagnostic : Diagnostic) (line : Text) :
    joiner.startGuarded width diagnostic line = .ok (joiner.start width diagnostic line) := by
  simp [startGuarded, hidle, growGuarded_eq]

/-- A line can be added whenever there is something to add it to. -/
theorem feedGuarded_eq (joiner : Joiner) (width : Int) (line : Text) :
    joiner.feedGuarded width line =
      match joiner.feed? width line with
      | some result => .ok result
      | none => .error .idleFeed := by
  cases hpending : joiner.pending <;> simp [feedGuarded, feed?, hpending, growGuarded_eq]

/-- The message in progress can always be delivered. -/
theorem flushGuarded_eq (joiner : Joiner) : joiner.flushGuarded = .ok joiner.flush := by
  cases hpending : joiner.pending <;>
    simp [flushGuarded, completeGuarded, flush, finish, hpending]

/-- A diagnostic that is delivered while none is in progress leaves none in progress. -/
theorem finish_of_idle {joiner : Joiner} (hidle : joiner.pending = none)
    (diagnostic : Diagnostic) :
    joiner.finish diagnostic =
      ({ joiner with outbox := joiner.outbox.deliver diagnostic }, some diagnostic) := by
  simp [finish, hidle]

end Joiner

/-- The pattern of errors has a group for the message. -/
theorem ErrorRule.messageGuarded_eq (rule : ErrorRule) (text : Text) :
    rule.messageGuarded text = .ok (rule.message? text) := by
  unfold messageGuarded message?
  cases rule.pattern.leftmost text <;> simp [rule.hasMessage]

/-- No group is missing when a text is looked at. -/
theorem Settings.recogniseGuarded_eq (settings : Settings) (text : Text) :
    settings.recogniseGuarded text = .ok (settings.recognise text) := by
  rw [recogniseGuarded, ErrorRule.messageGuarded_eq]
  rfl

namespace Scanner

/-- No group is missing when the recent lines are looked at. -/
theorem recogniseRecentGuarded_eq (scanner : Scanner) (line : Text) :
    scanner.recogniseRecentGuarded line = .ok (scanner.recogniseRecent line) := by
  rw [recogniseRecent_eq, recogniseRecentGuarded]
  cases scanner.recent.previous? with
  | none => simp [Settings.recogniseGuarded_eq, Breach.ok_bind]
  | some previous =>
    cases hfull : scanner.isFull previous with
    | false => simp [Settings.recogniseGuarded_eq, Breach.ok_bind, hfull]
    | true =>
      cases hfound : scanner.settings.recognise scanner.recent.text <;>
        simp [Settings.recogniseGuarded_eq, Breach.ok_bind, hfull, hfound]

/-- Examining a line breaks no rule as long as no message is in progress. -/
theorem examineGuarded_eq {scanner : Scanner} (hidle : scanner.joiner.pending = none)
    (line : Text) : scanner.examineGuarded line = .ok (scanner.examine line) := by
  rw [examine_eq, examineGuarded]
  cases scanner.recent.oldestIsEmpty with
  | true => rfl
  | false =>
    rw [recogniseRecentGuarded_eq, Breach.ok_bind]
    cases hfound : scanner.recogniseRecent line with
    | none => rfl
    | some diagnostic =>
      simp only [Joiner.startGuarded_of_idle hidle]
      rfl

/-- Dealing with a line that was held back breaks no rule as long as no message is in progress. -/
theorem releaseHeldGuarded_eq {scanner : Scanner} (hidle : scanner.joiner.pending = none)
    (held line : Text) (diagnostic : Diagnostic) :
    scanner.releaseHeldGuarded held line diagnostic =
      .ok (scanner.releaseHeld held line diagnostic) := by
  unfold releaseHeldGuarded releaseHeld
  cases hfull : scanner.isFull held with
  | false =>
    rw [Joiner.finish_of_idle hidle]
    rfl
  | true =>
    -- a full line leaves the message in progress, so there is one to which to add the next line
    have hfeed :=
      Joiner.feed?_start_of_full (isShort_of_isFull hfull) scanner.joiner diagnostic line
    simp only [Joiner.startGuarded_of_idle hidle, Breach.ok_bind, Joiner.feedGuarded_eq, hfeed,
      if_true]
    rfl

/-- **No line makes a scanner fail.** -/
theorem feedGuarded_eq (scanner : Scanner) (text : Text) :
    scanner.feedGuarded text = .ok (scanner.feed text) := by
  rw [feed_eq, feedGuarded]
  cases hpending : scanner.joiner.pending with
  | some diagnostic =>
    simp only [Joiner.feedGuarded_eq, Joiner.feed?_of_pending hpending]
    rfl
  | none =>
    simp only [Joiner.feed?_of_idle hpending, Option.isSome_none, Bool.false_eq_true,
      if_false]
    cases scanner.held with
    | none =>
      refine examineGuarded_eq ?_ _
      exact hpending
    | some held =>
      simp only [Settings.recogniseGuarded_eq, Breach.ok_bind]
      cases scanner.settings.recognise held with
      | none =>
        refine examineGuarded_eq ?_ _
        exact hpending
      | some diagnostic =>
        refine releaseHeldGuarded_eq ?_ ..
        exact hpending

/-- **The end of a log does not make a scanner fail.** -/
theorem finishGuarded_eq (scanner : Scanner) :
    scanner.finishGuarded = .ok scanner.finish := by
  rw [finish_eq, finishGuarded]
  cases hpending : scanner.joiner.pending with
  | some diagnostic =>
    rw [Joiner.flushGuarded_eq]
    rfl
  | none =>
    cases scanner.held with
    | none => rfl
    | some held =>
      simp only [Settings.recogniseGuarded_eq, Breach.ok_bind, Option.bind_some]
      cases scanner.settings.recognise held with
      | none => rfl
      | some diagnostic =>
        simp only [Joiner.finish_of_idle hpending]
        rfl

/-- Lines and whole logs do not make a scanner fail either. -/
theorem feedLinesGuarded_eq (scanner : Scanner) (lines : List Text) :
    scanner.feedLinesGuarded lines = .ok (scanner.feedLines lines) := by
  induction lines using List.reverseRecOn with
  | nil => rfl
  | append_singleton lines last ih =>
    unfold feedLinesGuarded at ih ⊢
    rw [List.foldlM_append, ih, feedLines_concat, Breach.ok_bind, List.foldlM_cons]
    simp only [feedGuarded_eq]
    rfl

/-- Taking a whole log breaks no rule. -/
theorem scanGuarded_eq (scanner : Scanner) (text : Text) (flush : Bool) :
    scanner.scanGuarded text flush = .ok (scanner.scan text flush) := by
  rw [scan_eq, scanGuarded]
  rw [feedLinesGuarded_eq, Breach.ok_bind]
  cases flush with
  | false => rfl
  | true => simp only [if_true, finishGuarded_eq]; rfl

end Scanner

/-! ## Requests -/

/-- What a scanner is asked to do. -/
inductive Request
  /-- To take the next line. -/
  | line (text : Text)
  /-- To take what comes on a channel. -/
  | output (channel : Channel) (text : Text)
  /-- To take several lines. -/
  | lines (texts : List Text)
  /-- To take a whole log. -/
  | log (text : Text) (flush : Bool)
  /-- To end the log. -/
  | ending
  /-- To forget what it knows of the log. -/
  | reset
  deriving DecidableEq, Repr

/-- The lines that have come since a scanner was last reset, after a request and before it. -/
def Request.linesAfter (before : List Text) : Request → List Text
  | line text => before ++ [text.stripLineEnd]
  | output channel text => if channel.isProcessOutput then before ++ [text.stripLineEnd] else before
  | lines texts => before ++ texts.map Text.stripLineEnd
  | log text _ => before ++ text.lines.map Text.stripLineEnd
  | ending => before
  | reset => []

/-- The lines that have come since the last of several requests to reset. -/
def Request.linesSinceReset (requests : List Request) : List Text :=
  requests.foldl linesAfter []

namespace Scanner

/-- Does what is asked for. The result has the diagnostics that are returned. -/
def serve (scanner : Scanner) : Request → Scanner × List Diagnostic
  | .line text => (scanner.feed text).map id Option.toList
  | .output channel text => (scanner.feedFrom channel text).map id Option.toList
  | .lines texts => scanner.feedLines texts
  | .log text flush => scanner.scan text flush
  | .ending => scanner.finish.map id Option.toList
  | .reset => (scanner.reset, [])

/-- Does what is asked for, with guarded steps. -/
def serveGuarded (scanner : Scanner) : Request → Except Breach (Scanner × List Diagnostic)
  | .line text => return (← scanner.feedGuarded text).map id Option.toList
  | .output channel text =>
    if channel.isProcessOutput then return (← scanner.feedGuarded text).map id Option.toList
    else return (scanner, [])
  | .lines texts => scanner.feedLinesGuarded texts
  | .log text flush => scanner.scanGuarded text flush
  | .ending => return (← scanner.finishGuarded).map id Option.toList
  | .reset => return (scanner.reset, [])

/-- Deals with requests, one after the other. The result has what each of them returns. -/
def serveAll (scanner : Scanner) (requests : List Request) : Scanner × List (List Diagnostic) :=
  requests.foldl
    (fun (scanner, answers) request =>
      let (scanner, answer) := scanner.serve request
      (scanner, answers ++ [answer]))
    (scanner, [])

/-- Deals with requests, one after the other, with guarded steps. -/
def serveAllGuarded (scanner : Scanner) (requests : List Request) :
    Except Breach (Scanner × List (List Diagnostic)) :=
  requests.foldlM
    (fun (scanner, answers) request => do
      let (scanner, answer) ← scanner.serveGuarded request
      return (scanner, answers ++ [answer]))
    (scanner, [])

/-- No request makes a scanner fail. -/
theorem serveGuarded_eq (scanner : Scanner) (request : Request) :
    scanner.serveGuarded request = .ok (scanner.serve request) := by
  cases request with
  | line text => simp only [serveGuarded, feedGuarded_eq]; rfl
  | output channel text =>
    simp only [serveGuarded, serve, feedFrom_eq, feedGuarded_eq]
    split <;> rfl
  | lines texts => exact feedLinesGuarded_eq ..
  | log text flush => exact scanGuarded_eq ..
  | ending => simp only [serveGuarded, finishGuarded_eq]; rfl
  | reset => rfl

/-- The last of several requests is served after the others. -/
theorem serveAll_concat (scanner : Scanner) (requests : List Request) (last : Request) :
    scanner.serveAll (requests ++ [last]) =
      (((scanner.serveAll requests).1.serve last).1,
        (scanner.serveAll requests).2 ++ [((scanner.serveAll requests).1.serve last).2]) := by
  simp [serveAll]

/-- Requests do not make a scanner fail. -/
theorem serveAllGuarded_eq (scanner : Scanner) (requests : List Request) :
    scanner.serveAllGuarded requests = .ok (scanner.serveAll requests) := by
  induction requests using List.reverseRecOn with
  | nil => rfl
  | append_singleton requests last ih =>
    unfold serveAllGuarded at ih ⊢
    rw [List.foldlM_append, ih, serveAll_concat, Breach.ok_bind, List.foldlM_cons]
    simp only [serveGuarded_eq]
    rfl

/-! ## The state of a scanner between requests -/

end Scanner

/-- If the recent lines are the last two that came, they are so after one more. -/
theorem RecentLines.lines_push_of_eq_drop {recent : RecentLines 2} {lines : List Text}
    (hrecent : recent.lines = lines.drop (lines.length - 2)) (line : Text) :
    (recent.push line).lines = (lines ++ [line]).drop ((lines ++ [line]).length - 2) := by
  rw [lines_push_two, hrecent]
  rcases List.eq_nil_or_concat lines with rfl | ⟨before, last, rfl⟩
  · rfl
  · have hnonempty : ¬ (before ++ [last]).length ≤ (before ++ [last]).length - 2 := by
      rw [List.length_append, List.length_singleton]
      omega
    rw [List.concat_eq_append, List.getLast?_drop, if_neg hnonempty]
    simp

namespace Scanner

/-- Each line becomes a recent one. -/
theorem recent_feed (scanner : Scanner) (text : Text) :
    (scanner.feed text).1.recent = scanner.recent.push text.stripLineEnd := by
  have hfed := scanner.fed_feed text
  cases hresult : scanner.feed text with
  | mk next completed =>
  rw [hresult] at hfed
  cases hfed <;> rfl

/-- The end of a log leaves the recent lines. -/
theorem recent_finish (scanner : Scanner) : scanner.finish.1.recent = scanner.recent := by
  rw [finish_eq]
  split
  · rfl
  · split <;> rfl

/-- What is known of a scanner after the given lines have come since it was last reset. -/
structure Tracks (scanner : Scanner) (lines : List Text) : Prop where
  consistent : scanner.Consistent
  /-- The last two of the lines are kept, or as many as there are. -/
  recent : scanner.recent.lines = lines.drop (lines.length - 2)

namespace Tracks
variable {scanner : Scanner} {lines : List Text}

/-- A new scanner has seen no lines. -/
theorem ofSettings (settings : Settings) : (ofSettings settings).Tracks [] :=
  ⟨consistent_ofSettings settings, rfl⟩

/-- A scanner that takes a line has seen it last. -/
theorem feed (h : scanner.Tracks lines) (text : Text) :
    (scanner.feed text).1.Tracks (lines ++ [text.stripLineEnd]) where
  consistent := h.consistent.feed text
  recent := by rw [recent_feed, RecentLines.lines_push_of_eq_drop h.recent]

/-- The end of a log changes nothing of what was seen. -/
theorem finish (h : scanner.Tracks lines) : scanner.finish.1.Tracks lines where
  consistent := h.consistent.finish
  recent := by rw [recent_finish, h.recent]

/-- A scanner that was reset has seen no lines. -/
theorem reset (scanner : Scanner) : scanner.reset.Tracks [] where
  consistent := scanner.consistent_reset
  recent := rfl

/-- A scanner that takes several lines has seen them last. -/
theorem feedLines (h : scanner.Tracks lines) (texts : List Text) :
    (scanner.feedLines texts).1.Tracks (lines ++ texts.map Text.stripLineEnd) := by
  induction texts using List.reverseRecOn with
  | nil => simpa [Scanner.feedLines_eq] using h
  | append_singleton texts last ih =>
    rw [feedLines_concat, List.map_append, ← List.append_assoc]
    exact ih.feed last

/-- A request keeps what is known of the scanner. -/
theorem serve (h : scanner.Tracks lines) (request : Request) :
    (scanner.serve request).1.Tracks (request.linesAfter lines) := by
  cases request with
  | line text => exact h.feed text
  | output channel text =>
    cases houtput : channel.isProcessOutput with
    | true => simpa [Scanner.serve, feedFrom_eq, Request.linesAfter, houtput] using h.feed text
    | false => simpa [Scanner.serve, feedFrom_eq, Request.linesAfter, houtput] using h
  | lines texts => exact h.feedLines texts
  | log text flush =>
    cases flush with
    | true => exact (h.feedLines text.lines).finish
    | false => exact h.feedLines text.lines
  | ending => exact h.finish
  | reset => exact .reset scanner

/-- What is known of a scanner after requests from the start. -/
theorem serveAll (settings : Settings) (requests : List Request) :
    ((Scanner.ofSettings settings).serveAll requests).1.Tracks
      (Request.linesSinceReset requests) := by
  induction requests using List.reverseRecOn with
  | nil => exact .ofSettings settings
  | append_singleton requests last ih =>
    rw [serveAll_concat, Request.linesSinceReset, List.foldl_append]
    exact ih.serve last

end Tracks

/-- **No sequence of requests makes a scanner fail or lose a message in progress.** With guarded
steps it goes through the same states and gives the same answers. In each of these states no line is
held back while a message is in progress, a line held back is the newest one, a message in progress
goes on after a full line, and the recent lines are the last two since the scanner was reset. -/
theorem serveAll_safe (settings : Settings) (requests : List Request) :
    (ofSettings settings).serveAllGuarded requests =
        .ok ((ofSettings settings).serveAll requests) ∧
      ((ofSettings settings).serveAll requests).1.Consistent ∧
      ((ofSettings settings).serveAll requests).1.recent.lines =
        (Request.linesSinceReset requests).drop
          ((Request.linesSinceReset requests).length - 2) := by
  have htracks := Tracks.serveAll settings requests
  exact ⟨serveAllGuarded_eq _ requests, htracks.consistent, htracks.recent⟩

end Scanner

end TexLog
