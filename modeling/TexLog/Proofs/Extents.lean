import Mathlib.Data.List.Forall2
import Mathlib.Data.List.Induction
import TexLog.Proofs.Holding

/-!
# Where the diagnostics of a log stand

Each diagnostic of a log fills an extent of lines (`Extent.Holds`): it is recognised on one line, or
on that line and the full one before it, and its message goes on over the full lines that follow up
to a short one or the end of the log. The extents of a log do not overlap and come in the order of
the diagnostics, and a line in none of them shows nothing (`Settings.SilentAt`).

`Accounted` says this of the lines that a scan has taken so far, of which the last extent may be
unfinished. One line keeps it (`Accounted.feed`), so it holds after all the lines of a log.
-/

namespace TexLog

/-- The lines of a log from one index to another, one after another. -/
def joinLines (lines : List Text) (first last : Nat) : Text :=
  ((lines.take (last + 1)).drop first).flatten

/-- Lines that come later do not change the lines before. -/
theorem joinLines_append {lines : List Text} {last : Nat} (hlast : last < lines.length)
    (first : Nat) (more : List Text) :
    joinLines (lines ++ more) first last = joinLines lines first last := by
  rw [joinLines, joinLines, List.take_append_of_le_length (by omega)]

/-- The lines up to a new one are those before it and the new one. -/
theorem joinLines_concat {lines : List Text} {first last : Nat} (hlast : last + 1 = lines.length)
    (hfirst : first ≤ lines.length) (line : Text) :
    joinLines (lines ++ [line]) first lines.length = joinLines lines first last ++ line := by
  have hall : (lines ++ [line]).take (lines.length + 1) = lines ++ [line] :=
    List.take_of_length_le (by simp)
  rw [joinLines, joinLines, hall, hlast, List.take_length, List.drop_append_of_le_length hfirst]
  simp

/-- A single line. -/
theorem joinLines_self {lines : List Text} {i : Nat} {line : Text} (hline : lines[i]? = some line) :
    joinLines lines i i = line := by
  have hi : i < lines.length := (List.getElem?_eq_some_iff.1 hline).1
  rw [joinLines, List.take_add_one, hline, List.drop_append_of_le_length (by simp; omega)]
  simp

/-- The lines up to an index are those before another index and those from there on. -/
theorem flatten_take_append_joinLines (lines : List Text) {first last : Nat}
    (hle : first ≤ last + 1) :
    (lines.take first).flatten ++ joinLines lines first last = (lines.take (last + 1)).flatten := by
  have htake : lines.take first = (lines.take (last + 1)).take first := by
    rw [List.take_take, Nat.min_eq_left hle]
  rw [joinLines, htake, ← List.flatten_append, List.take_append_drop]

namespace Settings

variable (settings : Settings) (lines : List Text)

/-- A line of a log is full. -/
def FullAt (i : Nat) : Prop :=
  ∃ line, lines[i]? = some line ∧ settings.wrapWidth ≤ line.length

/-- A line of a log is short. -/
def ShortAt (i : Nat) : Prop :=
  ∃ line, lines[i]? = some line ∧ line.length < settings.wrapWidth

/-- A line of a log shows no diagnostic, neither by itself nor joined to a full line before it. -/
structure SilentAt (i : Nat) : Prop where
  alone : settings.recognise (joinLines lines i i) = none
  joined : ∀ before, before + 1 = i → settings.FullAt lines before →
    settings.recognise (joinLines lines before i) = none

variable {settings lines} {i : Nat}

/-- A full line is one of the log. -/
theorem FullAt.lt (h : settings.FullAt lines i) : i < lines.length := by
  obtain ⟨line, hline, -⟩ := h
  exact (List.getElem?_eq_some_iff.1 hline).1

/-- A short line is one of the log. -/
theorem ShortAt.lt (h : settings.ShortAt lines i) : i < lines.length := by
  obtain ⟨line, hline, -⟩ := h
  exact (List.getElem?_eq_some_iff.1 hline).1

/-- No line is both full and short. -/
theorem FullAt.not_shortAt (h : settings.FullAt lines i) : ¬ settings.ShortAt lines i := by
  rintro ⟨line, hline, hshort⟩
  obtain ⟨line', hline', hfull⟩ := h
  rw [hline] at hline'
  cases hline'
  omega

/-- Whether a line is full does not depend on the lines after it. -/
theorem fullAt_append (hi : i < lines.length) (more : List Text) :
    settings.FullAt (lines ++ more) i ↔ settings.FullAt lines i := by
  simp only [FullAt, List.getElem?_append_left hi]

/-- Whether a line is short does not depend on the lines after it. -/
theorem ShortAt.append (h : settings.ShortAt lines i) (more : List Text) :
    settings.ShortAt (lines ++ more) i := by
  obtain ⟨line, hline, hshort⟩ := h
  refine ⟨line, ?_, hshort⟩
  rw [List.getElem?_append_left (List.getElem?_eq_some_iff.1 hline).1, hline]

/-- Whether a line is silent does not depend on the lines after it. -/
theorem SilentAt.append (h : settings.SilentAt lines i) (hi : i < lines.length)
    (more : List Text) : settings.SilentAt (lines ++ more) i where
  alone := by rw [joinLines_append hi]; exact h.alone
  joined before hbefore hfull := by
    rw [joinLines_append hi]
    exact h.joined before hbefore ((fullAt_append (by omega) more).1 hfull)

end Settings

/-- Where a diagnostic stands in a log. -/
structure Extent where
  /-- The first line that belongs to it. -/
  first : Nat
  /-- The line on which it is recognised. -/
  found : Nat
  /-- The last line that belongs to it. -/
  last : Nat
  deriving DecidableEq, Repr

namespace Extent

/-- The lines of an extent. -/
def Contains (extent : Extent) (i : Nat) : Prop := extent.first ≤ i ∧ i ≤ extent.last

/-- A diagnostic fills an extent of the lines of a log. -/
structure Holds (settings : Settings) (lines : List Text) (extent : Extent)
    (diagnostic : Diagnostic) : Prop where
  found_le : extent.found ≤ extent.last
  last_lt : extent.last < lines.length
  /-- It is recognised on its first line, or on the next one if the first is full. -/
  straddles : extent.found = extent.first ∨
    extent.found = extent.first + 1 ∧ settings.FullAt lines extent.first
  /-- What is recognised there has its kind and the beginning of its message; the rest of the
  message is the rest of the extent. -/
  recognised : ∃ message,
    settings.recognise (joinLines lines extent.first extent.found) =
      some ⟨diagnostic.kind, message⟩ ∧
    diagnostic.message = message ++ joinLines lines (extent.found + 1) extent.last
  /-- Its message goes on only after full lines. -/
  full : ∀ i, extent.found ≤ i → i < extent.last → settings.FullAt lines i
  /-- It is recognised on its first line only if there is no full line before it, or the two
  together show nothing. -/
  alone : extent.found = extent.first → ∀ before, before + 1 = extent.first →
    settings.FullAt lines before → settings.recognise (joinLines lines before extent.first) = none

variable {settings : Settings} {lines : List Text} {extent : Extent} {diagnostic : Diagnostic}

/-- An extent does not begin after it was found. -/
theorem Holds.first_le (h : extent.Holds settings lines diagnostic) :
    extent.first ≤ extent.found := by
  rcases h.straddles with heq | ⟨heq, -⟩ <;> omega

/-- A diagnostic fills the same extent when more lines come. -/
theorem Holds.append (h : extent.Holds settings lines diagnostic) (more : List Text) :
    extent.Holds settings (lines ++ more) diagnostic := by
  have hfirst := h.first_le
  have hfound := h.found_le
  have hlast := h.last_lt
  constructor
  · exact hfound
  · rw [List.length_append]; omega
  · rcases h.straddles with heq | ⟨heq, hfull⟩
    · exact .inl heq
    · exact .inr ⟨heq, (Settings.fullAt_append hfull.lt more).2 hfull⟩
  · rw [joinLines_append (by omega), joinLines_append hlast]
    exact h.recognised
  · exact fun i hi hi' => (Settings.fullAt_append (by omega) more).2 (h.full i hi hi')
  · intro heq before hbefore hfull
    rw [joinLines_append (by omega)]
    exact h.alone heq before hbefore ((Settings.fullAt_append (by omega) more).1 hfull)

/-- The lines of a log before an extent that ends it, and in the extent. -/
theorem Holds.flatten_eq (h : extent.Holds settings lines diagnostic)
    (hend : ¬ extent.last + 1 < lines.length) :
    (lines.take extent.first).flatten ++ joinLines lines extent.first extent.found ++
      joinLines lines (extent.found + 1) extent.last = lines.flatten := by
  have hfirst := h.first_le
  have hfound := h.found_le
  rw [flatten_take_append_joinLines _ (by omega), flatten_take_append_joinLines _ (by omega),
    List.take_of_length_le (by omega)]

/-- The extent of a message that goes on with a new line. -/
theorem Holds.concat (h : extent.Holds settings lines diagnostic)
    (hlast : extent.last + 1 = lines.length) (hfull : settings.FullAt lines extent.last)
    (line : Text) :
    { extent with last := lines.length }.Holds settings (lines ++ [line])
      ⟨diagnostic.kind, diagnostic.message ++ line⟩ := by
  have hfound := h.found_le
  have hnew := h.append [line]
  obtain ⟨message, hrecognised, hmessage⟩ := hnew.recognised
  constructor
  · exact (by omega : extent.found ≤ lines.length)
  · simp
  · exact hnew.straddles
  · refine ⟨message, hrecognised, ?_⟩
    rw [hmessage, joinLines_append h.last_lt, List.append_assoc,
      ← joinLines_concat hlast (show extent.found + 1 ≤ lines.length by omega)]
  · intro i hi hi'
    rcases Nat.lt_or_ge i extent.last with hlt | hge
    · exact hnew.full i hi hlt
    · have heq : i = extent.last := by simp only at hi'; omega
      exact heq ▸ (Settings.fullAt_append (by omega) [line]).2 hfull
  · exact hnew.alone

end Extent

/-! ## Recognising on a new line -/

section
variable {settings : Settings} {lines : List Text} {line : Text}

/-- The newest line of a log is the last one. -/
theorem getLast?_eq_getElem?_of_add_one {before : Nat} (hbefore : before + 1 = lines.length) :
    lines.getLast? = lines[before]? := by
  rw [List.getLast?_eq_getElem?, ← hbefore, Nat.add_sub_cancel]

/-- A new line joined to the one before it. -/
theorem joinLines_pair {before : Nat} {newest : Text} (hbefore : before + 1 = lines.length)
    (hnewest : lines.getLast? = some newest) (line : Text) :
    joinLines (lines ++ [line]) before lines.length = newest ++ line := by
  rw [getLast?_eq_getElem?_of_add_one hbefore] at hnewest
  rw [joinLines_concat hbefore (by omega), joinLines_self hnewest]

/-- A new line by itself. -/
theorem joinLines_new (lines : List Text) (line : Text) :
    joinLines (lines ++ [line]) lines.length lines.length = line := joinLines_self (by simp)

/-- A new line shows nothing joined to the one before it if the two together show nothing. -/
theorem recognise_joinLines_of_previous
    (hnone : ∀ newest, lines.getLast? = some newest → settings.wrapWidth ≤ newest.length →
      settings.recognise (newest ++ line) = none) {before : Nat}
    (hbefore : before + 1 = lines.length) (hfull : settings.FullAt (lines ++ [line]) before) :
    settings.recognise (joinLines (lines ++ [line]) before lines.length) = none := by
  obtain ⟨newest, hnewest, hwide⟩ := (Settings.fullAt_append (by omega) _).1 hfull
  rw [← getLast?_eq_getElem?_of_add_one hbefore] at hnewest
  rw [joinLines_pair hbefore hnewest]
  exact hnone newest hnewest hwide

/-- The extent of a diagnostic that is recognised on a new line. -/
theorem exists_extent_of_recogniseAfter {diagnostic : Diagnostic}
    (hfound : settings.recogniseAfter lines.getLast? line = some diagnostic) :
    ∃ extent : Extent, extent.last = lines.length ∧
      extent.Holds settings (lines ++ [line]) diagnostic ∧
      (extent.first = lines.length ∨
        extent.first + 1 = lines.length ∧ settings.FullAt lines extent.first) := by
  have hrest : joinLines (lines ++ [line]) (lines.length + 1) lines.length = [] := by
    simp [joinLines]
  have hmessage : diagnostic.message =
      diagnostic.message ++ joinLines (lines ++ [line]) (lines.length + 1) lines.length := by
    rw [hrest, List.append_nil]
  have hnew : lines.length < (lines ++ [line]).length := by simp
  rcases settings.recogniseAfter_cases lines.getLast? line with
    ⟨newest, diagnostic', hnewest, hwide, hjoined, hfound'⟩ | ⟨hnone, halone⟩
  · obtain rfl : diagnostic' = diagnostic := Option.some.inj (hfound'.symm.trans hfound)
    have hbefore : lines.length - 1 + 1 = lines.length :=
      Nat.sub_add_cancel (List.length_pos_of_mem (List.mem_of_getLast? hnewest))
    have hfull : settings.FullAt lines (lines.length - 1) :=
      ⟨newest, (getLast?_eq_getElem?_of_add_one hbefore).symm.trans hnewest, hwide⟩
    rw [← joinLines_pair hbefore hnewest] at hjoined
    refine ⟨⟨lines.length - 1, lines.length, lines.length⟩, rfl, ?_, .inr ⟨hbefore, hfull⟩⟩
    exact {
      found_le := Nat.le_refl _
      last_lt := hnew
      straddles := .inr ⟨hbefore.symm, (Settings.fullAt_append hfull.lt _).2 hfull⟩
      recognised := ⟨diagnostic'.message, hjoined, hmessage⟩
      full := fun i hi hi' => absurd hi' (Nat.not_lt.2 hi)
      alone := fun heq => absurd heq (by simp only; omega) }
  · rw [halone, ← joinLines_new lines line] at hfound
    refine ⟨⟨lines.length, lines.length, lines.length⟩, rfl, ?_, .inl rfl⟩
    exact {
      found_le := Nat.le_refl _
      last_lt := hnew
      straddles := .inl rfl
      recognised := ⟨diagnostic.message, hfound, hmessage⟩
      full := fun i hi hi' => absurd hi' (Nat.not_lt.2 hi)
      alone := fun _ before hbefore hfull => recognise_joinLines_of_previous hnone hbefore hfull }

/-- A new line on which nothing is recognised shows nothing. -/
theorem silentAt_of_recogniseAfter (hfound : settings.recogniseAfter lines.getLast? line = none) :
    settings.SilentAt (lines ++ [line]) lines.length := by
  rcases settings.recogniseAfter_cases lines.getLast? line with
    ⟨_, _, _, _, _, hfound'⟩ | ⟨hnone, halone⟩
  · rw [hfound'] at hfound
    cases hfound
  · constructor
    · rw [joinLines_new, ← halone, hfound]
    · exact fun before hbefore hfull => recognise_joinLines_of_previous hnone hbefore hfull

end

/-! ## The lines taken so far -/

/-- What a scan that holds no line back knows about the lines it has taken: the diagnostics that it
has delivered fill the extents `done`, and the one in progress fills `current`. -/
structure Accounted (lines : List Text) (direct : DirectScanner) (done : List Extent)
    (current : Option Extent) : Prop where
  previous : direct.previous = lines.getLast?
  delivered : List.Forall₂ (Extent.Holds direct.settings lines) done direct.received
  /-- A diagnostic that is delivered ends on a short line. -/
  short : ∀ extent ∈ done, direct.settings.ShortAt lines extent.last
  /-- The diagnostic in progress goes on up to the newest line, a full one. -/
  progress : Option.Rel (fun extent diagnostic =>
    extent.Holds direct.settings lines diagnostic ∧ extent.last + 1 = lines.length ∧
      direct.settings.FullAt lines extent.last) current direct.joiner.pending
  apart : (done ++ current.toList).Pairwise fun a b => a.last < b.first
  silent : ∀ i < lines.length, (∀ extent ∈ done ++ current.toList, ¬ extent.Contains i) →
    direct.settings.SilentAt lines i

namespace Accounted
variable {lines : List Text} {direct : DirectScanner} {done : List Extent}
  {current : Option Extent}

/-- At the start nothing has to be accounted for. -/
theorem ofSettings (settings : Settings) : Accounted [] (.ofSettings settings) [] none where
  previous := rfl
  delivered := .nil
  short _ h := nomatch h
  progress := .none
  apart := .nil
  silent _ h := nomatch h

/-- The lines after one more, when a diagnostic begins or goes on with it that fills the extent. -/
theorem start {extent : Extent} {diagnostic : Diagnostic} {line : Text}
    (h : Accounted lines direct done current)
    (hholds : extent.Holds direct.settings (lines ++ [line]) diagnostic)
    (hlast : extent.last = lines.length)
    (hapart : (done ++ [extent]).Pairwise fun a b => a.last < b.first)
    (hsilent : ∀ i < lines.length, (∀ other ∈ done ++ [extent], ¬ other.Contains i) →
      direct.settings.SilentAt lines i) :
    ∃ done' current', Accounted (lines ++ [line])
      { direct with
        previous := some line
        joiner := (direct.joiner.start direct.settings.wrapWidth diagnostic line).1 }
      done' current' := by
  have hdelivered : List.Forall₂ (Extent.Holds direct.settings (lines ++ [line])) done
      direct.received := h.delivered.imp fun _ _ hd => hd.append [line]
  have hshort : ∀ other ∈ done, direct.settings.ShortAt (lines ++ [line]) other.last :=
    fun other hother => (h.short other hother).append [line]
  have hline : (lines ++ [line])[extent.last]? = some line := by simp [hlast]
  have hsilent' : ∀ i < (lines ++ [line]).length,
      (∀ other ∈ done ++ [extent], ¬ other.Contains i) →
      direct.settings.SilentAt (lines ++ [line]) i := by
    intro i hi hout
    have hne : i ≠ lines.length := fun heq => hout extent (by simp)
      ⟨by have := hholds.first_le; have := hholds.found_le; omega, by omega⟩
    have hi' : i < lines.length := by simp at hi; omega
    exact (hsilent i hi' hout).append hi' [line]
  cases hends : isShort direct.settings.wrapWidth line with
  | true =>
    refine ⟨done ++ [extent], none, ?_⟩
    rw [Joiner.start_of_isShort hends]
    exact {
      previous := by simp
      delivered := List.rel_append hdelivered (.cons hholds .nil)
      short := by
        intro other hother
        rcases List.mem_append.1 hother with hother | hother
        · exact hshort other hother
        · obtain rfl := List.mem_singleton.1 hother
          exact ⟨line, hline, by simpa [isShort] using hends⟩
      progress := .none
      apart := by simpa using hapart
      silent := by simpa using hsilent' }
  | false =>
    refine ⟨done, some extent, ?_⟩
    rw [Joiner.start_of_not_isShort hends]
    exact {
      previous := by simp
      delivered := hdelivered
      short := hshort
      progress := .some ⟨hholds, by simp [hlast], line, hline, by simpa [isShort] using hends⟩
      apart := hapart
      silent := hsilent' }

/-- The lines after one more, when a message in progress goes on with it. -/
theorem feed_of_pending {diagnostic : Diagnostic} (h : Accounted lines direct done current)
    (hpending : direct.joiner.pending = some diagnostic) (text : Text) :
    ∃ done' current', Accounted (lines ++ [text.stripLineEnd]) (direct.feed text) done'
      current' := by
  have hprogress := h.progress
  rw [hpending] at hprogress
  cases hprogress with
  | @some extent _ hextent =>
  obtain ⟨hholds, hlast, hfull⟩ := hextent
  rw [DirectScanner.feed_of_pending hpending]
  refine h.start (hholds.concat hlast hfull text.stripLineEnd) rfl ?_ ?_
  · obtain ⟨hdone, -, hbefore⟩ := List.pairwise_append.1 h.apart
    refine List.pairwise_append.2 ⟨hdone, List.pairwise_singleton .., fun a ha b hb => ?_⟩
    obtain rfl := List.mem_singleton.1 hb
    exact hbefore a ha extent (by simp)
  · refine fun i hi hout => h.silent i hi fun other hother hcontains => ?_
    rcases List.mem_append.1 hother with hother | hother
    · exact hout other (List.mem_append_left _ hother) hcontains
    · obtain rfl : other = extent := by simpa using hother
      exact hout { other with last := lines.length } (by simp) ⟨hcontains.1, Nat.le_of_lt hi⟩

/-- The lines after one more, when no message is in progress. -/
theorem feed_of_idle (h : Accounted lines direct done current)
    (hidle : direct.joiner.pending = none) (text : Text) :
    ∃ done' current', Accounted (lines ++ [text.stripLineEnd]) (direct.feed text) done'
      current' := by
  have hprogress := h.progress
  rw [hidle] at hprogress
  cases hprogress
  rw [DirectScanner.feed_of_idle hidle, h.previous]
  have hsilent : ∀ i < lines.length, (∀ other ∈ done, ¬ other.Contains i) →
      direct.settings.SilentAt lines i := by simpa using h.silent
  cases hfound : direct.settings.recogniseAfter lines.getLast? text.stripLineEnd with
  | some diagnostic =>
    obtain ⟨extent, hlast, hholds, hfirst⟩ := exists_extent_of_recogniseAfter hfound
    refine h.start hholds hlast ?_ ?_
    · refine List.pairwise_append.2
        ⟨by simpa using h.apart, List.pairwise_singleton .., fun a ha b hb => ?_⟩
      obtain rfl := List.mem_singleton.1 hb
      have hshort := h.short a ha
      have hlt := hshort.lt
      rcases hfirst with heq | ⟨heq, hfull⟩
      · omega
      · have hne : a.last ≠ b.first := fun heq' => hfull.not_shortAt (heq' ▸ hshort)
        omega
    · exact fun i hi hout => hsilent i hi fun other hother =>
        hout other (List.mem_append_left _ hother)
  | none =>
    refine ⟨done, none, ?_⟩
    exact {
      previous := by simp
      delivered := h.delivered.imp fun _ _ hd => hd.append _
      short := fun other hother => (h.short other hother).append _
      progress := by rw [Joiner.begin_none, hidle]; exact .none
      apart := h.apart
      silent := by
        intro i hi hout
        rcases Nat.lt_or_ge i lines.length with hlt | hge
        · exact (hsilent i hlt (by simpa using hout)).append hlt _
        · obtain rfl : i = lines.length := by simp at hi; omega
          exact silentAt_of_recogniseAfter hfound }

/-- **One more line is accounted for as well.** -/
theorem feed (h : Accounted lines direct done current) (text : Text) :
    ∃ done' current', Accounted (lines ++ [text.stripLineEnd]) (direct.feed text) done'
      current' := by
  cases hpending : direct.joiner.pending with
  | some diagnostic => exact h.feed_of_pending hpending text
  | none => exact h.feed_of_idle hpending text

/-- All lines of a log are accounted for. -/
theorem exists_of_run (settings : Settings) (lines : List Text) :
    ∃ done current, Accounted (lines.map Text.stripLineEnd)
      ((DirectScanner.ofSettings settings).run (lines.map .line)) done current := by
  induction lines using List.reverseRecOn with
  | nil => exact ⟨[], none, ofSettings settings⟩
  | append_singleton lines last ih =>
    obtain ⟨done, current, h⟩ := ih
    rw [List.map_append, DirectScanner.run_lines_concat]
    exact h.feed last

/-- The diagnostics delivered and the one in progress fill their extents. -/
theorem diagnostics (h : Accounted lines direct done current) :
    List.Forall₂ (Extent.Holds direct.settings lines) (done ++ current.toList)
      direct.joiner.diagnostics := by
  have hprogress := h.progress
  refine List.rel_append h.delivered ?_
  generalize direct.joiner.pending = pending at hprogress
  cases hprogress with
  | none => exact .nil
  | some hextent => exact .cons hextent.1 .nil

/-- A diagnostic ends on a short line or at the end of the lines taken so far. -/
theorem shortAt (h : Accounted lines direct done current) {extent : Extent}
    (hextent : extent ∈ done ++ current.toList) (hlast : extent.last + 1 < lines.length) :
    direct.settings.ShortAt lines extent.last := by
  rcases List.mem_append.1 hextent with hdone | hcurrent
  · exact h.short extent hdone
  · have hprogress := h.progress
    rw [Option.mem_toList.1 hcurrent] at hprogress
    generalize direct.joiner.pending = pending at hprogress
    cases hprogress with
    | some hopen => omega

end Accounted

/-! ## The lines of a log -/

/-- The diagnostics of a log fill extents of its lines, which come one after the other, end on a
short line or with the log, and leave out only lines that show nothing. -/
structure Fill (settings : Settings) (lines : List Text) (extents : List Extent)
    (diagnostics : List Diagnostic) : Prop where
  holds : List.Forall₂ (Extent.Holds settings lines) extents diagnostics
  apart : extents.Pairwise fun a b => a.last < b.first
  short : ∀ extent ∈ extents, extent.last + 1 < lines.length → settings.ShortAt lines extent.last
  silent : ∀ i < lines.length, (∀ extent ∈ extents, ¬ extent.Contains i) →
    settings.SilentAt lines i

/-- The diagnostics found without holding lines back fill extents. -/
theorem DirectScanner.exists_fill (settings : Settings) (texts : List Text) :
    ∃ extents, Fill settings (texts.map Text.stripLineEnd) extents
      (diagnosticsOf settings texts) := by
  obtain ⟨done, current, h⟩ := Accounted.exists_of_run settings texts
  have hsettings : ((ofSettings settings).run (texts.map .line)).settings = settings :=
    settings_run ..
  have hdiagnostics := h.diagnostics
  have hshort := fun extent hextent => h.shortAt (show extent ∈ done ++ current.toList from hextent)
  have hsilent := h.silent
  rw [hsettings] at hdiagnostics hshort hsilent
  refine ⟨done ++ current.toList, ?_, h.apart, hshort, hsilent⟩
  rw [diagnosticsOf, received_finish]
  exact hdiagnostics

/-- **No diagnostic is lost, doubled or mixed up with another.** The diagnostics of a log fill
extents of its lines, which come one after the other and do not overlap. Each extent ends on a short
line or with the log, and the lines outside all extents show nothing. -/
theorem diagnosticsOf_fill_extents (settings : Settings) (texts : List Text) :
    let lines := texts.map Text.stripLineEnd
    ∃ extents : List Extent,
      List.Forall₂ (Extent.Holds settings lines) extents (Scanner.diagnosticsOf settings texts) ∧
      extents.Pairwise (fun a b => a.last < b.first) ∧
      (∀ extent ∈ extents, extent.last + 1 < lines.length →
        settings.ShortAt lines extent.last) ∧
      ∀ i < lines.length, (∀ extent ∈ extents, ¬ extent.Contains i) →
        settings.SilentAt lines i := by
  intro lines
  obtain ⟨extents, hfill⟩ := DirectScanner.exists_fill settings texts
  rw [← Scanner.diagnosticsOf_eq_direct] at hfill
  exact ⟨extents, hfill.holds, hfill.apart, hfill.short, hfill.silent⟩

end TexLog
