import TexLog.Log.Scanner
import TexLog.Proofs.GroupOrder

/-!
# The last location of a line

By the standard rule a text shows an error if it is one line with a location in it, and the message
is what follows the last location there, however many there are and whatever else stands in the
line.
-/

namespace TexLog

namespace ErrorRule

open Pattern

/-- The message after the location at an index of a text. -/
def MessageAt (text : Text) (index : Nat) (message : Text) : Prop :=
  ∃ digits, IsLineNumber digits ∧ message ≠ [] ∧ text.drop index = errorLine [] digits message

/-- The message after the last location in a text. -/
def LastMessage (text message : Text) : Prop :=
  ∃ index, MessageAt text index message ∧ ∀ later, LocationAt text later → later ≤ index

/-- Whether a text is the given line, perhaps with a line feed after it. -/
structure IsLine (text line : Text) : Prop where
  eq_or : text = line ∨ text = line ++ ['\n']
  unbroken : ∀ c ∈ line, c ≠ '\n'

/-- Where a message begins there is a location. -/
theorem MessageAt.locationAt {text message : Text} {index : Nat}
    (h : MessageAt text index message) : LocationAt text index := by
  obtain ⟨digits, hdigits, hmessage, hdrop⟩ := h
  exact ⟨digits, message, hdigits, hmessage, hdrop⟩

/-- There is one message after a location. -/
theorem MessageAt.unique {text message message' : Text} {index : Nat}
    (h : MessageAt text index message) (h' : MessageAt text index message') :
    message = message' := by
  obtain ⟨digits, hdigits, -, hdrop⟩ := h
  obtain ⟨digits', hdigits', -, hdrop'⟩ := h'
  exact (errorLine_nil_inj hdigits hdigits' (hdrop.symm.trans hdrop')).2

/-- There is one message after the last location. -/
theorem LastMessage.unique {text message message' : Text} (h : LastMessage text message)
    (h' : LastMessage text message') : message = message' := by
  obtain ⟨index, hat, hlast⟩ := h
  obtain ⟨index', hat', hlast'⟩ := h'
  obtain rfl : index = index' :=
    Nat.le_antisymm (hlast' index hat.locationAt) (hlast index' hat'.locationAt)
  exact hat.unique hat'

/-- Whether there are no line feeds can be computed. -/
theorem ne_lineFeed_of_all {text : Text} (h : text.all (· != '\n') = true) :
    ∀ c ∈ text, c ≠ '\n' := by
  simpa using h

/-- A text is one line in one way. -/
theorem IsLine.unique {text line line' : Text} (h : IsLine text line) (h' : IsLine text line') :
    line = line' := by
  have hfeed {line line' : Text} (h : line = line' ++ ['\n']) (hline : ∀ c ∈ line, c ≠ '\n') :
      False := hline '\n' (by simp [h]) rfl
  rcases h.eq_or with rfl | rfl <;> rcases h'.eq_or with heq | heq
  · exact heq
  · exact (hfeed heq h.unbroken).elim
  · exact (hfeed heq.symm h'.unbroken).elim
  · exact List.append_cancel_right heq

/-- A location in a line stands behind some other text of it. -/
theorem LocationAt.exists_errorLine {line : Text} {index : Nat} (h : LocationAt line index) :
    ∃ digits message, IsLineNumber digits ∧ message ≠ [] ∧
      line = errorLine (line.take index) digits message := by
  obtain ⟨digits, message, hdigits, hmessage, hdrop⟩ := h
  refine ⟨digits, message, hdigits, hmessage, ?_⟩
  calc line = line.take index ++ line.drop index := (List.take_append_drop index line).symm
    _ = errorLine (line.take index) digits message := by
      rw [hdrop, append_errorLine, List.append_nil]

/-! ## What the standard rule takes -/

/-- No line number has a line feed. -/
theorem IsLineNumber.ne_lineFeed {digits : Text} (h : IsLineNumber digits) {c : Char}
    (hc : c ∈ digits) : c ≠ '\n' := by
  rintro rfl
  exact absurd (h.isDigit _ hc) (by decide)

/-- A line is unbroken if the name of the file and the message are. -/
theorem unbroken_errorLine_iff {file digits message : Text} (hdigits : IsLineNumber digits) :
    (∀ c ∈ errorLine file digits message, c ≠ '\n') ↔
      (∀ c ∈ file, c ≠ '\n') ∧ ∀ c ∈ message, c ≠ '\n' := by
  constructor
  · intro h
    exact ⟨fun c hc => h c (by simp [errorLine, hc]), fun c hc => h c (by simp [errorLine, hc])⟩
  · rintro ⟨hfile, hmessage⟩ c hc
    simp only [errorLine, List.mem_append, List.mem_cons] at hc
    rcases hc with (hc | rfl | hc) | rfl | rfl | hc
    · exact hfile c hc
    · decide
    · exact hdigits.ne_lineFeed hc
    · decide
    · decide
    · exact hmessage c hc

/-- A line with a location in it shows an error. -/
theorem LocationAt.isSome_message? {text line : Text} {index : Nat} (h : LocationAt line index)
    (hline : IsLine text line) : (standard.message? text).isSome := by
  obtain ⟨digits, message, hdigits, hmessage, heq⟩ := h.exists_errorLine
  obtain ⟨hfile, hfeed⟩ := (unbroken_errorLine_iff hdigits).1 (heq ▸ hline.unbroken)
  obtain ⟨left, hleft, rfl⟩ : ∃ left, endsLine left = true ∧ text = line ++ left := by
    rcases hline.eq_or with rfl | rfl
    · exact ⟨[], rfl, (List.append_nil _).symm⟩
    · exact ⟨['\n'], rfl, rfl⟩
  rw [heq, errorLine_append]
  exact isSome_standard_message? hfile hdigits hmessage hfeed hleft

/-- An error that is shown is the message after the last location. -/
theorem exists_lastMessage {text message : Text} (h : standard.message? text = some message) :
    ∃ line, IsLine text line ∧ LastMessage line message := by
  rw [standard_message?] at h
  obtain ⟨file, after, rfl, hfile, hlocated, hlongest⟩ := exists_longest_of_afterMost h
  obtain ⟨digits, left, hdigits, hmessage, hfeed, hleft, rfl⟩ := locatedMessage?_eq_some hlocated
  have hunbroken : ∀ c ∈ errorLine file digits message, c ≠ '\n' :=
    (unbroken_errorLine_iff hdigits).2 ⟨by simpa using hfile, hfeed⟩
  have htext : file ++ errorLine [] digits (message ++ left) =
      errorLine file digits message ++ left := by
    rw [append_errorLine, List.append_nil, errorLine_append]
  refine ⟨errorLine file digits message, ⟨?_, hunbroken⟩, file.length,
    ⟨digits, hdigits, hmessage, ?_⟩, fun later hlater => ?_⟩
  · rcases endsLine_iff.1 hleft with rfl | rfl
    · exact .inl (by rw [htext, List.append_nil])
    · exact .inr htext
  · rw [drop_errorLine (Nat.le_refl _), List.drop_length]
  · -- the text before a later location would have been taken for the name of the file
    obtain ⟨digits', message', hdigits', hmessage', heq⟩ := hlater.exists_errorLine
    obtain ⟨hfile', hfeed'⟩ := (unbroken_errorLine_iff hdigits').1 (heq ▸ hunbroken)
    have hwhole : (errorLine file digits message).take later ++
        errorLine [] digits' (message' ++ left) =
          file ++ errorLine [] digits (message ++ left) := by
      rw [htext, append_errorLine, List.append_nil, ← errorLine_append, ← heq]
    have hbefore := hlongest _ _ hwhole (by simpa using hfile')
      (isSome_locatedMessage? hdigits' hmessage' hfeed' hleft)
    have hlength := length_errorLine file digits message
    rw [List.length_take] at hbefore
    omega

/-- **What the standard rule takes for the message of an error.** -/
theorem standard_message?_eq_some_iff {text message : Text} :
    standard.message? text = some message ↔
      ∃ line, IsLine text line ∧ LastMessage line message := by
  refine ⟨exists_lastMessage, ?_⟩
  rintro ⟨line, hline, index, hat, hlater⟩
  obtain ⟨found, hfound⟩ := Option.isSome_iff_exists.1 (hat.locationAt.isSome_message? hline)
  obtain ⟨line', hline', hlast'⟩ := exists_lastMessage hfound
  obtain rfl := hline.unique hline'
  rw [hfound, LastMessage.unique ⟨index, hat, hlater⟩ hlast']

end ErrorRule

namespace Settings

open ErrorRule

variable {settings : Settings}

/-- What a text shows as an error by the standard rule. -/
theorem recogniseError_eq_some_iff (hrule : settings.errorRule = .standard) {text : Text}
    {error : Diagnostic} :
    settings.recogniseError text = some error ↔
      error.kind = .error ∧ ∃ line, IsLine text line ∧ LastMessage line error.message := by
  rw [recogniseError, hrule, Option.map_eq_some_iff]
  constructor
  · rintro ⟨message, hmessage, rfl⟩
    exact ⟨rfl, standard_message?_eq_some_iff.1 hmessage⟩
  · obtain ⟨kind, message⟩ := error
    rintro ⟨rfl, hlast⟩
    exact ⟨message, standard_message?_eq_some_iff.2 hlast, rfl⟩

/-- A text shows an error by the standard rule just if it is a line with a location. -/
theorem isSome_recogniseError_iff (hrule : settings.errorRule = .standard) {text : Text} :
    (settings.recogniseError text).isSome ↔
      ∃ line index, IsLine text line ∧ LocationAt line index := by
  constructor
  · intro h
    obtain ⟨error, herror⟩ := Option.isSome_iff_exists.1 h
    obtain ⟨-, line, hline, index, hat, -⟩ := (recogniseError_eq_some_iff hrule).1 herror
    exact ⟨line, index, hline, hat.locationAt⟩
  · rintro ⟨line, index, hline, hlocation⟩
    rw [recogniseError, hrule, Option.isSome_map]
    exact hlocation.isSome_message? hline

/-- A text begins a warning just if it begins as one. -/
theorem recogniseWarning_eq (settings : Settings) (text : Text) :
    settings.recogniseWarning text =
      if ∃ start ∈ settings.warningPrefixes, start <+: text then some ⟨.warning, text⟩
      else none := by
  simp [recogniseWarning, List.any_eq_true, List.isPrefixOf_iff_prefix]

/-- **What the standard rule means.** Whether a text shows an error can always be said. It does just
if it is one line, perhaps with a line feed after it, in which a line number stands between colons
with a blank and something more after it. The message is all that follows the last such place. A
text that shows no error begins a warning just if it begins as one of the warnings does. -/
theorem recognise_standard_rule (hrule : settings.errorRule = .standard) (text : Text) :
    settings.look text = .ok (settings.recognise text) ∧
    ((settings.recogniseError text).isSome ↔
      ∃ line index, IsLine text line ∧ LocationAt line index) ∧
    (∀ error, settings.recogniseError text = some error ↔
      error.kind = .error ∧ ∃ line, IsLine text line ∧ LastMessage line error.message) ∧
    settings.recognise text =
      match settings.recogniseError text with
      | some error => some error
      | none =>
        if ∃ start ∈ settings.warningPrefixes, start <+: text then some ⟨.warning, text⟩
        else none := by
  refine ⟨?_, isSome_recogniseError_iff hrule, fun _ => recogniseError_eq_some_iff hrule, ?_⟩
  · have hanswered : ErrorRule.standard.pattern.failure? text = none := standard_failure? text
    rw [look_eq, hrule, hanswered]
  · rw [recognise, recogniseWarning_eq]
    cases settings.recogniseError text <;> rfl

/-- A line that names no file, with digits of two scripts in two locations and a line feed after
it. -/
theorem recognise_standard_rule_two_locations :
    let text := ":1: b:\u0662: c\n".toList
    standard.recogniseError text = some ⟨.error, "c".toList⟩ ∧
      standard.recognise text = some ⟨.error, "c".toList⟩ := by
  intro text
  have hline : IsLine text ":1: b:\u0662: c".toList := ⟨.inr rfl, ne_lineFeed_of_all (by decide)⟩
  have hlast : LastMessage ":1: b:\u0662: c".toList "c".toList := by
    refine ⟨5, ⟨['\u0662'], ⟨by decide, List.all_eq_true.1 (by decide)⟩, by decide, by decide⟩,
      fun later hlater => ?_⟩
    have hcheck : ∀ index < 10, 5 < index → ":1: b:\u0662: c".toList[index]? = some ':' →
        ":1: b:\u0662: c".toList[index + 1]?.any Text.isDigit = false := by decide
    obtain ⟨hcolon, hdigit⟩ := hlater.getElem?
    refine Nat.not_lt.1 fun hlt => ?_
    have hnone := hcheck later (List.getElem?_eq_some_iff.1 hcolon).1 hlt hcolon
    rw [hnone] at hdigit
    cases hdigit
  have hrule : standard.errorRule = .standard := rfl
  obtain ⟨-, -, herror, hall⟩ := recognise_standard_rule hrule text
  have hfound := (herror ⟨.error, "c".toList⟩).2 ⟨rfl, _, hline, hlast⟩
  rw [hfound] at hall
  exact ⟨hfound, hall⟩

end Settings

end TexLog
