import TexLog.Proofs.Holding
import TexLog.Proofs.LastLocation

/-!
# A line looked at together with the one before it

A full line that shows nothing by itself is looked at together with the next line. A location that
the two show lies in the second of them or is cut where they meet (`MessageAt.suffix`), so what is
taken for the message is always the end of the second line. Nothing that this line shows by itself
is lost or changed by the text put before it.
-/

namespace TexLog

namespace ErrorRule

variable {previous line text message : Text} {index : Nat}

/-- No message is empty. -/
theorem MessageAt.ne_nil (h : MessageAt text index message) : message ≠ [] := by
  obtain ⟨-, -, hmessage, -⟩ := h
  exact hmessage

/-- A location is where some message begins. -/
theorem locationAt_iff : LocationAt text index ↔ ∃ message, MessageAt text index message :=
  exists_comm.trans <| exists_congr fun _ => exists_congr fun _ => Iff.rfl

/-- Text put before a line moves what stands in it. -/
theorem messageAt_append_iff :
    MessageAt (previous ++ line) (previous.length + index) message ↔
      MessageAt line index message := by
  simp only [MessageAt, List.drop_length_add_append]

/-- A location on the second of two lines is one of this line alone. -/
theorem locationAt_append_iff :
    LocationAt (previous ++ line) (previous.length + index) ↔ LocationAt line index := by
  simp only [locationAt_iff, messageAt_append_iff]

/-- Text put before a line does not change which location is the last. -/
theorem LastMessage.append_left (h : LastMessage line message) :
    LastMessage (previous ++ line) message := by
  obtain ⟨index, hat, hlast⟩ := h
  refine ⟨previous.length + index, messageAt_append_iff.2 hat, fun later hlater => ?_⟩
  rcases Nat.lt_or_ge later previous.length with hbefore | hbehind
  · omega
  · obtain ⟨behind, rfl⟩ := Nat.exists_eq_add_of_le hbehind
    exact Nat.add_le_add_left (hlast behind (locationAt_append_iff.1 hlater)) _

/-- The message after a location that is cut where two lines meet is the end of the second. -/
theorem MessageAt.suffix (h : MessageAt (previous ++ line) index message)
    (hindex : index ≤ previous.length) (hcut : ¬ LocationAt previous index) : message <:+ line := by
  obtain ⟨digits, hdigits, hmessage, hdrop⟩ := h
  rw [List.drop_append_of_le_length hindex, ← List.nil_append message, ← errorLine_append] at hdrop
  rcases List.append_eq_append_iff.1 hdrop with ⟨begun, -, hline⟩ | ⟨shown, hprevious, hrest⟩
  · exact ⟨begun, hline.symm⟩
  · -- the message begins in the first line, which has the whole location then, or where it ends
    rcases List.eq_nil_or_concat shown with rfl | ⟨front, last, rfl⟩
    · exact hrest ▸ List.suffix_refl line
    · rw [errorLine_append] at hprevious
      exact absurd ⟨digits, _, hdigits, by simp, hprevious⟩ hcut

/-- A text without line feeds is one line. -/
theorem isLine_of_unbroken (hunbroken : ∀ c ∈ text, c ≠ '\n') : IsLine text text :=
  ⟨.inl rfl, hunbroken⟩

/-- What the standard rule takes for the message of an error on a line. -/
theorem message?_eq_some_iff_of_unbroken (hunbroken : ∀ c ∈ line, c ≠ '\n') :
    standard.message? line = some message ↔ LastMessage line message := by
  rw [standard_message?_eq_some_iff]
  refine ⟨?_, fun h => ⟨line, isLine_of_unbroken hunbroken, h⟩⟩
  rintro ⟨line', hline', h⟩
  rwa [(isLine_of_unbroken hunbroken).unique hline']

/-- A line shows an error just if there is a location in it. -/
theorem isSome_message?_iff_of_unbroken (hunbroken : ∀ c ∈ line, c ≠ '\n') :
    (standard.message? line).isSome ↔ ∃ index, LocationAt line index := by
  constructor
  · intro h
    obtain ⟨message, hmessage⟩ := Option.isSome_iff_exists.1 h
    obtain ⟨index, hat, -⟩ := (message?_eq_some_iff_of_unbroken hunbroken).1 hmessage
    exact ⟨index, hat.locationAt⟩
  · rintro ⟨index, hlocation⟩
    exact hlocation.isSome_message? (isLine_of_unbroken hunbroken)

end ErrorRule

namespace Settings

open ErrorRule

variable {settings : Settings} {previous line : Text}

/-- A text shows no diagnostic if it shows neither an error nor a warning. -/
theorem recognise_eq_none_iff (settings : Settings) (text : Text) :
    settings.recognise text = none ↔
      settings.recogniseError text = none ∧ settings.recogniseWarning text = none := by
  simp [recognise]

/-- A full line that begins no warning does not begin one with more text after it. -/
theorem recogniseWarning_append_eq_none
    (hprefixes : ∀ start ∈ settings.warningPrefixes, start.length ≤ settings.wrapWidth)
    (hfull : settings.wrapWidth ≤ previous.length)
    (hsilent : settings.recogniseWarning previous = none) (line : Text) :
    settings.recogniseWarning (previous ++ line) = none := by
  simp only [recogniseWarning_eq, ite_eq_right_iff, reduceCtorEq] at hsilent ⊢
  rintro ⟨start, hstart, hbegins⟩
  have hfits : start.length ≤ (Str.ofText previous).length := by
    simpa using Nat.le_trans (hprefixes start hstart) hfull
  exact hsilent ⟨start, hstart, List.prefix_of_prefix_length_le hbegins (by simp) hfits⟩

section
variable (hrule : settings.errorRule = .standard)
include hrule

/-- A line shows no error just if there is no location in it. -/
theorem recogniseError_eq_none_iff (hline : ∀ c ∈ line, c ≠ '\n') :
    settings.recogniseError line = none ↔ ∀ index, ¬ LocationAt line index := by
  rw [recogniseError, hrule, Option.map_eq_none_iff, ← not_exists, ← Option.not_isSome_iff_eq_none,
    isSome_message?_iff_of_unbroken hline]

/-- An error on a line is the message after the last location in it. -/
theorem recogniseError_eq_some_iff_of_unbroken (hline : ∀ c ∈ line, c ≠ '\n') {message : Text} :
    settings.recogniseError line = some ⟨.error, message⟩ ↔ LastMessage line message := by
  rw [recogniseError, hrule, ← message?_eq_some_iff_of_unbroken hline]
  simp

/-- A line shows the same error with other text before it. -/
theorem recogniseError_append {error : Diagnostic} (hunbroken : ∀ c ∈ previous ++ line, c ≠ '\n')
    (herror : settings.recogniseError line = some error) :
    settings.recogniseError (previous ++ line) = some error := by
  have hline : ∀ c ∈ line, c ≠ '\n' := fun c hc => hunbroken c (List.mem_append_right _ hc)
  obtain ⟨kind, message⟩ := error
  obtain rfl : kind = .error := ((recogniseError_eq_some_iff hrule).1 herror).1
  rw [recogniseError_eq_some_iff_of_unbroken hrule hline] at herror
  exact (recogniseError_eq_some_iff_of_unbroken hrule hunbroken).2 herror.append_left

/-- What a line shows after a full line that shows nothing by itself: the error that the two show
together, or else the warning that the line begins. -/
theorem recogniseAfter_of_silent
    (hprefixes : ∀ start ∈ settings.warningPrefixes, start.length ≤ settings.wrapWidth)
    (hfull : settings.wrapWidth ≤ previous.length) (hunbroken : ∀ c ∈ previous ++ line, c ≠ '\n')
    (hsilent : settings.recognise previous = none) :
    settings.recogniseAfter (some previous) line =
      (settings.recogniseError (previous ++ line) <|> settings.recogniseWarning line) := by
  obtain ⟨-, hsilent⟩ := (settings.recognise_eq_none_iff previous).1 hsilent
  have hjoined := recogniseWarning_append_eq_none hprefixes hfull hsilent line
  cases herror : settings.recogniseError (previous ++ line) with
  | some error => simp [recogniseAfter, hfull, recognise, herror]
  | none =>
    have halone : settings.recogniseError line = none := by
      cases hline : settings.recogniseError line with
      | none => rfl
      | some error => rw [recogniseError_append hrule hunbroken hline] at herror; cases herror
    simp [recogniseAfter, hfull, recognise, herror, hjoined, halone]

/-- An error that two lines show only together has its location cut where they meet, and its message
is the end of the second. -/
theorem exists_message_of_cut {index : Nat} (hunbroken : ∀ c ∈ previous ++ line, c ≠ '\n')
    (hprevious : settings.recogniseError previous = none)
    (hline : settings.recogniseError line = none)
    (hlocation : LocationAt (previous ++ line) index) :
    index < previous.length ∧ ∃ message, LastMessage (previous ++ line) message ∧ message ≠ [] ∧
      message <:+ line ∧ settings.recogniseError (previous ++ line) = some ⟨.error, message⟩ := by
  rw [recogniseError_eq_none_iff hrule fun c hc => hunbroken c (List.mem_append_left _ hc)]
    at hprevious
  rw [recogniseError_eq_none_iff hrule fun c hc => hunbroken c (List.mem_append_right _ hc)]
    at hline
  have hcut : ∀ index, LocationAt (previous ++ line) index → index < previous.length := by
    refine fun index h => Nat.not_le.1 fun hbehind => ?_
    obtain ⟨behind, rfl⟩ := Nat.exists_eq_add_of_le hbehind
    exact hline behind (locationAt_append_iff.1 h)
  obtain ⟨message, hmessage⟩ := Option.isSome_iff_exists.1 <|
    (isSome_message?_iff_of_unbroken hunbroken).2 ⟨index, hlocation⟩
  have hlast := (message?_eq_some_iff_of_unbroken hunbroken).1 hmessage
  have herror := (recogniseError_eq_some_iff_of_unbroken hrule hunbroken).2 hlast
  have ⟨last, hat, _⟩ := hlast
  have hend : message <:+ line :=
    hat.suffix (Nat.le_of_lt (hcut last hat.locationAt)) (hprevious last)
  exact ⟨hcut index hlocation, message, hlast, hat.ne_nil, hend, herror⟩

end

end Settings

namespace Scanner

open ErrorRule

/-- A line is looked at after the one before it among the recent lines. -/
theorem recogniseRecent_of_pair {scanner : Scanner} {previous line : Text}
    (hrecent : scanner.recent.lines = [previous, line]) :
    scanner.recogniseRecent line = scanner.settings.recogniseAfter (some previous) line := by
  simp [recogniseRecent_eq, Settings.recogniseAfter, RecentLines.previous?, RecentLines.text,
    hrecent, isFull_iff]

/-- **Looking at two lines together hides nothing.** A full line that shows nothing by itself is
looked at together with the line after it. An error that this line shows is found as it is. If it
shows none, any location that the two show begins in the first of them, and what is found is an
error whose message, after the last of these locations, is the end of the second line. If they show
no location, the line is found to begin a warning just if it does so by itself. -/
theorem recogniseRecent_standard {scanner : Scanner} {previous line : Text}
    (hsettings : scanner.settings = .standard) (hrecent : scanner.recent.lines = [previous, line])
    (hfull : 79 ≤ previous.length) (hprevious : ∀ c ∈ previous, c ≠ '\n')
    (hline : ∀ c ∈ line, c ≠ '\n') (hsilent : scanner.settings.recognise previous = none) :
    (∀ error, scanner.settings.recogniseError line = some error →
      scanner.recogniseRecent line = some error) ∧
    (scanner.settings.recogniseError line = none →
      (∀ index, LocationAt (previous ++ line) index →
        index < previous.length ∧ ∃ message, LastMessage (previous ++ line) message ∧
          message ≠ [] ∧ message <:+ line ∧
          scanner.recogniseRecent line = some ⟨.error, message⟩) ∧
      ((∀ index, ¬ LocationAt (previous ++ line) index) →
        scanner.recogniseRecent line = scanner.settings.recogniseWarning line)) := by
  have hunbroken : ∀ c ∈ previous ++ line, c ≠ '\n' := by
    simpa [or_imp, forall_and] using And.intro hprevious hline
  rw [recogniseRecent_of_pair hrecent]
  rw [hsettings] at hsilent ⊢
  rw [Settings.recogniseAfter_of_silent rfl (by decide) hfull hunbroken hsilent]
  refine ⟨fun error herror => ?_, fun hnone => ⟨fun index hlocation => ?_, fun hlocation => ?_⟩⟩
  · rw [Settings.recogniseError_append rfl hunbroken herror]
    rfl
  · obtain ⟨hcut, message, hlast, hmessage, hend, herror⟩ := Settings.exists_message_of_cut rfl
      hunbroken ((Settings.recognise_eq_none_iff _ _).1 hsilent).1 hnone hlocation
    exact ⟨hcut, message, hlast, hmessage, hend, by rw [herror]; rfl⟩
  · rw [(Settings.recogniseError_eq_none_iff rfl hunbroken).2 hlocation]
    rfl

/-- A line number that is cut. -/
theorem recogniseRecent_standard_cut :
    let previous := List.replicate 76 'a' ++ ":12".toList
    let line := "3: b".toList
    let fresh := ofSettings .standard
    let scanner := { fresh with recent := (fresh.recent.push previous).push line }
    scanner.recogniseRecent line = some ⟨.error, "b".toList⟩ := by
  intro previous line fresh scanner
  have hat : MessageAt (previous ++ line) 76 "b".toList :=
    ⟨"123".toList, ⟨by decide, List.all_eq_true.1 (by decide)⟩, by decide, by decide +kernel⟩
  have hlast : LastMessage (previous ++ line) "b".toList := by
    refine ⟨76, hat, fun later hlater => Nat.not_lt.1 fun hlt => ?_⟩
    have hcheck : ∀ index < 83, 76 < index → (previous ++ line)[index]? = some ':' →
        (previous ++ line)[index + 1]?.any Text.isDigit = false := by decide +kernel
    obtain ⟨hcolon, hdigit⟩ := hlater.getElem?
    rw [hcheck later (List.getElem?_eq_some_iff.1 hcolon).1 hlt hcolon] at hdigit
    cases hdigit
  obtain ⟨-, halone⟩ := @recogniseRecent_standard scanner previous line rfl rfl (by decide)
    (ne_lineFeed_of_all (by decide)) (ne_lineFeed_of_all (by decide)) (by decide +kernel)
  obtain ⟨-, message, hlast', -, -, hfound⟩ := (halone (by decide +kernel)).1 76 hat.locationAt
  rwa [hlast'.unique hlast] at hfound

end Scanner

end TexLog
