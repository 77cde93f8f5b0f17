import Mathlib.Data.List.Induction
import TexLog.Proofs.Holding

/-!
# What a scan returns is what it delivers

No operation of a scanner looks at what has been delivered. With any other outbox it comes to the
same and returns the same diagnostics, and it delivers to that outbox what it returns
(`feed_withOutbox`, `finish_withOutbox`, and with them `feedLines_withOutbox` and
`scan_withOutbox`). So what was received after an operation is what was received before it and then
what it returned (`received_finish`, `received_scan`).
-/

namespace TexLog

/-! ## Outboxes -/

namespace Outbox

/-- Delivers several diagnostics, one after the other. -/
def deliverAll (outbox : Outbox) (diagnostics : List Diagnostic) : Outbox :=
  diagnostics.foldl deliver outbox

@[simp] theorem deliverAll_nil (outbox : Outbox) : outbox.deliverAll [] = outbox := rfl

@[simp] theorem deliverAll_singleton (outbox : Outbox) (diagnostic : Diagnostic) :
    outbox.deliverAll [diagnostic] = outbox.deliver diagnostic := rfl

/-- Delivering two lists is delivering the first and then the second. -/
theorem deliverAll_append (outbox : Outbox) (first second : List Diagnostic) :
    outbox.deliverAll (first ++ second) = (outbox.deliverAll first).deliverAll second :=
  List.foldl_append

@[simp] theorem received_deliverAll (outbox : Outbox) (diagnostics : List Diagnostic) :
    (outbox.deliverAll diagnostics).received = outbox.received ++ diagnostics := by
  induction diagnostics generalizing outbox with
  | nil => simp
  | cons diagnostic diagnostics ih => exact (ih _).trans (by simp [deliver])

end Outbox

/-! ## Operations with another outbox -/

namespace Joiner

/-- The joiner with another outbox. -/
def withOutbox (joiner : Joiner) (outbox : Outbox) : Joiner := { joiner with outbox }

/-- What an operation would have come to with another outbox. -/
def redirect (outbox : Outbox) (result : Joiner × Option Diagnostic) :
    Joiner × Option Diagnostic :=
  (result.1.withOutbox (outbox.deliverAll result.2.toList), result.2)

variable (joiner : Joiner) (outbox : Outbox)

/-- A finished diagnostic goes to the outbox, whatever has been delivered. -/
theorem finish_withOutbox (diagnostic : Diagnostic) :
    (joiner.withOutbox outbox).finish diagnostic = redirect outbox (joiner.finish diagnostic) := rfl

/-- A diagnostic begins in the same way whatever has been delivered. -/
theorem start_withOutbox (width : Int) (diagnostic : Diagnostic) (line : Text) :
    (joiner.withOutbox outbox).start width diagnostic line =
      redirect outbox (joiner.start width diagnostic line) := by
  cases hshort : isShort width line with
  | true => simp only [start_of_isShort hshort, finish_withOutbox]
  | false => simp only [start_of_not_isShort hshort]; rfl

/-- Giving up what is in progress does the same whatever has been delivered. -/
theorem flush_withOutbox :
    (joiner.withOutbox outbox).flush = redirect outbox joiner.flush := by
  cases hpending : joiner.pending <;> simp [flush, withOutbox, redirect, finish, hpending]

end Joiner

namespace Scanner

/-- The scanner with another outbox. -/
def withOutbox (scanner : Scanner) (outbox : Outbox) : Scanner :=
  { scanner with joiner := scanner.joiner.withOutbox outbox }

/-- What an operation would have come to with another outbox. -/
def redirect (outbox : Outbox) (result : Scanner × Option Diagnostic) :
    Scanner × Option Diagnostic :=
  (result.1.withOutbox (outbox.deliverAll result.2.toList), result.2)

variable (scanner : Scanner) (outbox : Outbox)

/-- A line is examined in the same way whatever has been delivered. -/
theorem examine_withOutbox (line : Text) :
    (scanner.withOutbox outbox).examine line = redirect outbox (scanner.examine line) := by
  have hsame : (scanner.withOutbox outbox).recogniseRecent line = scanner.recogniseRecent line :=
    rfl
  rw [examine_eq, examine_eq, hsame]
  cases hempty : scanner.recent.oldestIsEmpty with
  | true => simp [withOutbox, redirect, hempty]
  | false =>
    cases scanner.recogniseRecent line with
    | none => simp [withOutbox, redirect, hempty]
    | some diagnostic =>
      have hstart := scanner.joiner.start_withOutbox outbox scanner.width diagnostic line
      simp only [withOutbox, hempty, width, Bool.false_eq_true, if_false] at hstart ⊢
      rw [hstart]
      rfl

/-- A line that was held back is dealt with in the same way whatever has been delivered. -/
theorem releaseHeld_withOutbox (held line : Text) (diagnostic : Diagnostic) :
    (scanner.withOutbox outbox).releaseHeld held line diagnostic =
      redirect outbox (scanner.releaseHeld held line diagnostic) := by
  unfold releaseHeld
  cases hfull : scanner.isFull held with
  | false =>
    have hshort : (scanner.withOutbox outbox).isFull held = false := hfull
    rw [hshort]
    rfl
  | true =>
    have hfull' : (scanner.withOutbox outbox).isFull held = true := hfull
    -- a full line leaves the message in progress, and the new line is added to it
    have hfeed (joiner : Joiner) :=
      Joiner.feed?_start_of_full (isShort_of_isFull hfull) joiner diagnostic line
    have hwidth : (scanner.withOutbox outbox).width = scanner.width := rfl
    simp only [hfull', hwidth, hfeed, Option.getD_some, if_true]
    exact congrArg (scanner.withOutbox outbox).joined (Joiner.start_withOutbox ..)

/-- **A line does the same whatever has been delivered.** -/
theorem feed_withOutbox (text : Text) :
    (scanner.withOutbox outbox).feed text = redirect outbox (scanner.feed text) := by
  let free : Scanner :=
    { scanner with recent := scanner.recent.push text.stripLineEnd, held := none }
  rw [feed_eq, feed_eq]
  cases hpending : scanner.joiner.pending with
  | some diagnostic =>
    have hpending' : (scanner.joiner.withOutbox outbox).pending = some diagnostic := hpending
    simp only [withOutbox, width, Joiner.feed?_of_pending hpending,
      Joiner.feed?_of_pending hpending', Joiner.start_withOutbox]
    rfl
  | none =>
    have hpending' : (scanner.joiner.withOutbox outbox).pending = none := hpending
    simp only [withOutbox, Joiner.feed?_of_idle hpending, Joiner.feed?_of_idle hpending']
    cases scanner.held with
    | none => exact free.examine_withOutbox ..
    | some held =>
      cases hfound : scanner.settings.recognise held with
      | none =>
        simp only [hfound]
        exact free.examine_withOutbox ..
      | some diagnostic =>
        simp only [hfound]
        exact free.releaseHeld_withOutbox ..

/-- **The end of a log does the same whatever has been delivered.** -/
theorem finish_withOutbox :
    (scanner.withOutbox outbox).finish = redirect outbox scanner.finish := by
  rw [finish_eq, finish_eq]
  cases hpending : scanner.joiner.pending with
  | some diagnostic =>
    have hpending' : (scanner.withOutbox outbox).joiner.pending = some diagnostic := hpending
    rw [hpending', Option.isSome_some, if_pos rfl, if_pos rfl]
    exact congrArg (scanner.withOutbox outbox).joined (scanner.joiner.flush_withOutbox outbox)
  | none =>
    have hpending' : (scanner.withOutbox outbox).joiner.pending = none := hpending
    rw [hpending', Option.isSome_none, if_neg Bool.false_ne_true, if_neg Bool.false_ne_true]
    have hfound : (scanner.withOutbox outbox).held.bind
        (scanner.withOutbox outbox).settings.recognise =
          scanner.held.bind scanner.settings.recognise := rfl
    rw [hfound]
    cases scanner.held.bind scanner.settings.recognise <;> rfl

/-- Several lines are taken one after the other. -/
theorem feedLines_concat (lines : List Text) (last : Text) :
    scanner.feedLines (lines ++ [last]) =
      (((scanner.feedLines lines).1.feed last).1,
        (scanner.feedLines lines).2 ++ ((scanner.feedLines lines).1.feed last).2.toList) := by
  simp [feedLines_eq]

/-- What several operations would have come to with another outbox. -/
def redirectAll (outbox : Outbox) (result : Scanner × List Diagnostic) :
    Scanner × List Diagnostic :=
  (result.1.withOutbox (outbox.deliverAll result.2), result.2)

/-- Lines do the same whatever has been delivered. -/
theorem feedLines_withOutbox (lines : List Text) :
    (scanner.withOutbox outbox).feedLines lines = redirectAll outbox (scanner.feedLines lines) := by
  induction lines using List.reverseRecOn with
  | nil => rfl
  | append_singleton lines last ih =>
    rw [feedLines_concat, feedLines_concat, ih]
    simp only [redirectAll, feed_withOutbox, redirect, Outbox.deliverAll_append]

/-- A whole log does the same whatever has been delivered. -/
theorem scan_withOutbox (text : Text) (flush : Bool) :
    (scanner.withOutbox outbox).scan text flush = redirectAll outbox (scanner.scan text flush) := by
  rw [scan_eq, scan_eq, feedLines_withOutbox]
  cases flush with
  | false => rfl
  | true =>
    simp only [redirectAll, if_true, finish_withOutbox, redirect, Outbox.deliverAll_append]

/-! ## What is received -/

/-- What the end of a log completes is delivered. -/
theorem received_finish :
    scanner.finish.1.received = scanner.received ++ scanner.finish.2.toList := by
  have hsame := scanner.finish_withOutbox scanner.joiner.outbox
  exact (congrArg (·.1.received) hsame).trans (Outbox.received_deliverAll ..)

/-- What a whole log completes is delivered. -/
theorem received_scan (text : Text) (flush : Bool) :
    (scanner.scan text flush).1.received =
      scanner.received ++ (scanner.scan text flush).2 := by
  have hsame := scanner.scan_withOutbox scanner.joiner.outbox text flush
  exact (congrArg (·.1.received) hsame).trans (Outbox.received_deliverAll ..)

end Scanner

end TexLog
