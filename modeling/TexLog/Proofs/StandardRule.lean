import TexLog.Proofs.Capture
import TexLog.Settings

/-!
# The standard rule for errors

The standard pattern takes what follows the last location in a line as the message of an error. A
location is a line number between colons, with a blank and something more after it.
-/

namespace TexLog.ErrorRule

open Pattern

/-! ## What the standard pattern takes -/

/-- Whether nothing follows but a last line feed, if that. -/
def endsLine (left : Text) : Bool := left.isEmpty || left == ['\n']

/-- A line ends at the end of the text, or at a last line feed. -/
theorem endsLine_iff {left : Text} : endsLine left = true ↔ left = [] ∨ left = ['\n'] := by
  simp [endsLine]

/-- The message that a text is up to its end, if it is more than a line feed. -/
def wholeMessage? (after : Text) : Option Text :=
  afterMost (· != '\n')
    (fun left => if endsLine left then some (after.take (after.length - left.length)) else none) 1
    after

/-- The message after the location with which a text begins. -/
def locatedMessage? : Text → Option Text :=
  afterChar (· == ':')
    (afterMost Text.isDigit (afterChar (· == ':') (afterChar (· == ' ') wholeMessage?)) 1)

/-- The test of a literal asks for its character. -/
theorem holds_literal (c d : Char) : (CharTest.literal d.toNat).holds [] c = (c == d) := by
  have hvariants : Modes.variants [] c = [c.toNat] := rfl
  rw [Bool.eq_iff_iff, beq_iff_eq, CharTest.holds, List.contains_iff_mem, hvariants,
    List.mem_singleton, Char.toNat_inj, eq_comm]

/-- The test of a set of digits asks for a decimal digit of any script. -/
theorem holds_digit (c : Char) :
    (CharTest.set false [.ofClass .digit true]).holds [] c = Text.isDigit c := by
  simp [CharTest.holds, SetItem.holds, CharClass.holds, Modes.isAscii]

/-- The test of the dot asks for anything but a line feed. -/
theorem holds_any (c : Char) : CharTest.any.holds [] c = (c != '\n') := by
  simp [CharTest.holds]

section
variable {text : Text} {fuel : Nat} {looping : Bool} {next : Option Nat}

/-- What comes of a literal. -/
theorem captures_literal (d : Char) :
    Matcher.Captures text 3 none ((Node.one (.literal d.toNat)).run fuel looping [] next)
      (afterChar (· == d)) := Node.captures_one (holds_literal · d)

/-- What comes of the name of the file, of which all but a line feed can be part. -/
theorem captures_file :
    Matcher.Captures text 3 none
      ((Node.repeated .greedy 0 (some 1)
        (.group (some 1) [] [] (.repeated .greedy 1 none (.one .any)))).run (fuel + 2) looping []
          next)
      (fun answer after => afterMost (· != '\n') answer 0 after) := by
  have hgroup : Matcher.Captures text 3 none
      ((Node.group (some 1) [] [] (.repeated .greedy 1 none (.one .any))).run (fuel + 2) true []
        none) (afterMost (· != '\n') · 1) :=
    Node.captures_group (Node.captures_repeated_one 1 holds_any)
  simpa only [afterMost_one_orElse] using Node.captures_optional rfl hgroup

/-- What comes of the line number. -/
theorem captures_digits :
    Matcher.Captures text 3 none
      ((Node.group (some 2) [] []
        (.repeated .greedy 1 none (.one (.set false [.ofClass .digit true])))).run fuel looping []
          next)
      (afterMost Text.isDigit · 1) :=
  Node.captures_group (Node.captures_repeated_one 1 holds_digit)

/-- What comes of the message up to the end of the line. -/
theorem captures_message :
    Rest.Captures text 3 none
      ((Node.cat (.group (some 3) [] [] (.repeated .greedy 1 none (.one .any)))
        (.anchor .lineEnd)).run fuel looping [] next · · Rest.accept)
      wholeMessage? := by
  have hany : ∀ first, Matcher.Captures text 3 (some first)
      ((Node.repeated .greedy 1 none (.one .any)).run fuel looping [] none)
      (afterMost (· != '\n') · 1) := fun _ => Node.captures_repeated_one 1 holds_any
  have hend : ∀ here memory,
      (Node.anchor .lineEnd).run fuel looping [] next here memory Rest.accept =
        if endsLine here.after then .matched (memory.lookAt here) else .failed memory := by
    intro here memory
    simp [Node.run, Anchor.holds, endsLine, Rest.accept]
  exact Node.captures_capturing hany hend none

end

/-- What the standard pattern takes as the message, from the start of the text. -/
theorem captures_standard (text : Text) (fuel : Nat) :
    Rest.Captures text 3 none
      (standardPattern.node.run (fuel + 2) false standardPattern.modes none · · Rest.accept)
      (fun after => if after.length = text.length then
        afterMost (· != '\n') locatedMessage? 0 after else none) :=
  Node.captures_cat (fun _ => Node.captures_lineStart) <|
  Node.captures_cat (fun _ => captures_file) <|
  Node.captures_cat (fun _ => captures_literal ':') <|
  Node.captures_cat (fun _ => captures_digits) <|
  Node.captures_cat (fun _ => captures_literal ':') <|
  Node.captures_cat (fun _ => captures_literal ' ') captures_message

/-- The message of an error that a text shows by the standard rule is what follows the last location
in its first line. -/
theorem standard_message? (text : Text) :
    standard.message? text = afterMost (· != '\n') locatedMessage? 0 text := by
  have hrounds : 2 ≤ (text.length + 2) * (text.length + 2) :=
    Nat.le_trans (Nat.le_add_left ..) (Nat.le_mul_of_pos_right _ (Nat.succ_pos _))
  have hcaptures := captures_standard text ((text.length + 2) * (text.length + 2) - 2)
  rw [Nat.sub_add_cancel hrounds] at hcaptures
  have hname : standardPattern.names.lookup messageGroup = some 3 := by decide
  calc standard.message? text
      = anywhere _ text := named?_leftmost hname hcaptures
    _ = afterMost (· != '\n') locatedMessage? 0 text := by
      rw [anywhere_of_start fun later hlater => if_neg (Nat.ne_of_lt hlater), if_pos rfl]

/-! ## Locations -/

/-- A line number as it may be written. -/
structure IsLineNumber (digits : Text) : Prop where
  ne_nil : digits ≠ []
  isDigit : ∀ c ∈ digits, Text.isDigit c = true

/-- A line that reports an error: the name of a file, a location and a message. -/
def errorLine (file digits message : Text) : Text := file ++ ':' :: digits ++ ':' :: ' ' :: message

/-- A location with something after it stands at an index of a text. -/
def LocationAt (text : Text) (index : Nat) : Prop :=
  ∃ digits message, IsLineNumber digits ∧ message ≠ [] ∧
    text.drop index = errorLine [] digits message

/-- The length of an error line is that of its parts. -/
theorem length_errorLine (file digits message : Text) :
    (errorLine file digits message).length = file.length + digits.length + 3 + message.length := by
  simp [errorLine]
  omega

/-- What follows an error line goes on with its message. -/
theorem errorLine_append (file digits message more : Text) :
    errorLine file digits message ++ more = errorLine file digits (message ++ more) := by
  simp [errorLine]

/-- What precedes an error line belongs to its file name. -/
theorem append_errorLine (before file digits message : Text) :
    before ++ errorLine file digits message = errorLine (before ++ file) digits message := by
  simp [errorLine]

/-- A line from within the name of the file on. -/
theorem drop_errorLine {file : Text} {count : Nat} (hcount : count ≤ file.length)
    (digits message : Text) :
    (errorLine file digits message).drop count = errorLine (file.drop count) digits message := by
  simp [errorLine, List.drop_append_of_le_length hcount]

/-- A line up to a place within the message. -/
theorem take_errorLine {file digits : Text} {count : Nat}
    (hcount : file.length + digits.length + 3 ≤ count) (message : Text) :
    (errorLine file digits message).take count =
      errorLine file digits (message.take (count - (file.length + digits.length + 3))) := by
  have hlocation := length_errorLine file digits []
  rw [List.length_nil, Nat.add_zero] at hlocation
  rw [← List.nil_append message, ← errorLine_append, List.take_append, hlocation,
    List.take_of_length_le (by omega), errorLine_append, List.nil_append, List.nil_append]

/-- A location begins with a colon and a digit. -/
theorem LocationAt.getElem? {text : Text} {index : Nat} (h : LocationAt text index) :
    text[index]? = some ':' ∧ text[index + 1]?.any Text.isDigit = true := by
  obtain ⟨digits, message, hdigits, -, hdrop⟩ := h
  rcases digits with - | ⟨c, digits⟩
  · exact absurd rfl hdigits.ne_nil
  · have hcolon : text[index + 0]? = some ':' := by
      rw [← List.getElem?_drop, hdrop]
      rfl
    have hdigit : text[index + 1]? = some c := by
      rw [← List.getElem?_drop, hdrop]
      rfl
    exact ⟨hcolon, by simp [hdigit, hdigits.isDigit]⟩

/-- The location at the beginning of a text is the only one there. -/
theorem errorLine_nil_inj {digits digits' message message' : Text} (hdigits : IsLineNumber digits)
    (hdigits' : IsLineNumber digits')
    (h : errorLine [] digits message = errorLine [] digits' message') :
    digits = digits' ∧ message = message' := by
  have hcolon : Text.isDigit ':' = false := by decide
  have htake : ∀ {number rest : Text}, IsLineNumber number →
      (number ++ ':' :: rest).takeWhile Text.isDigit = number := by
    intro number rest hnumber
    rw [List.takeWhile_append_of_pos hnumber.isDigit, List.takeWhile_cons_of_neg (by simp [hcolon]),
      List.append_nil]
  have hrest : digits ++ ':' :: ' ' :: message = digits' ++ ':' :: ' ' :: message' := by
    simpa [errorLine] using h
  obtain rfl : digits = digits' := by rw [← htake hdigits, hrest, htake hdigits']
  exact ⟨rfl, by simpa using hrest⟩

/-! ## Errors by the standard rule -/

/-- A message goes up to the end of its line and is not empty. -/
theorem wholeMessage?_eq_some {after message : Text} (h : wholeMessage? after = some message) :
    message ≠ [] ∧ (∀ c ∈ message, c ≠ '\n') ∧
      ∃ left, endsLine left = true ∧ after = message ++ left := by
  obtain ⟨run, left, rfl, hone, hfeed, htaken⟩ := exists_of_afterMost h
  split at htaken
  · next hleft =>
    obtain rfl : run = message := by simpa using htaken
    exact ⟨List.ne_nil_of_length_pos hone, by simpa using hfeed, left, hleft, rfl⟩
  · cases htaken

/-- There is a message where some text goes up to the end of its line. -/
theorem isSome_wholeMessage? {message left : Text} (hmessage : message ≠ [])
    (hfeed : ∀ c ∈ message, c ≠ '\n') (hleft : endsLine left = true) :
    (wholeMessage? (message ++ left)).isSome :=
  isSome_afterMost (by simp [hleft]) (List.length_pos_iff.2 hmessage) (by simpa using hfeed)

/-- A located message has a line number before it. -/
theorem locatedMessage?_eq_some {after message : Text} (h : locatedMessage? after = some message) :
    ∃ digits left, IsLineNumber digits ∧ message ≠ [] ∧ (∀ c ∈ message, c ≠ '\n') ∧
      endsLine left = true ∧ after = errorLine [] digits (message ++ left) := by
  obtain ⟨c, afterColon, rfl, hc, hnumber⟩ := exists_of_afterChar h
  obtain ⟨digits, afterDigits, rfl, hone, hdigits, hcolon⟩ := exists_of_afterMost hnumber
  obtain ⟨c', afterLocation, rfl, hc', hblank⟩ := exists_of_afterChar hcolon
  obtain ⟨c'', rest, rfl, hc'', hwhole⟩ := exists_of_afterChar hblank
  obtain ⟨hmessage, hfeed, left, hleft, rfl⟩ := wholeMessage?_eq_some hwhole
  rw [beq_iff_eq] at hc hc' hc''
  subst hc hc' hc''
  exact ⟨digits, left, ⟨List.ne_nil_of_length_pos hone, hdigits⟩, hmessage, hfeed, hleft, rfl⟩

/-- There is a located message after a line number. -/
theorem isSome_locatedMessage? {digits message left : Text} (hdigits : IsLineNumber digits)
    (hmessage : message ≠ []) (hfeed : ∀ c ∈ message, c ≠ '\n') (hleft : endsLine left = true) :
    (locatedMessage? (errorLine [] digits (message ++ left))).isSome := by
  have hwhole := isSome_wholeMessage? hmessage hfeed hleft
  have hblank : (afterChar (· == ':') (afterChar (· == ' ') wholeMessage?)
      (':' :: ' ' :: (message ++ left))).isSome := by simpa [afterChar] using hwhole
  have hnumber := isSome_afterMost hblank (List.length_pos_iff.2 hdigits.ne_nil) hdigits.isDigit
  simpa [errorLine, locatedMessage?, afterChar] using hnumber

/-- An error that a line shows stands after a location in it. -/
theorem standard_message?_eq_some {text message : Text}
    (h : standard.message? text = some message) :
    ∃ file digits left, IsLineNumber digits ∧ message ≠ [] ∧ endsLine left = true ∧
      text = errorLine file digits (message ++ left) := by
  rw [standard_message?] at h
  obtain ⟨file, after, rfl, -, -, hlocated⟩ := exists_of_afterMost h
  obtain ⟨digits, left, hdigits, hmessage, -, hleft, rfl⟩ := locatedMessage?_eq_some hlocated
  refine ⟨file, digits, left, hdigits, hmessage, hleft, ?_⟩
  rw [append_errorLine, List.append_nil]

/-- A line with a location and something after it shows an error. -/
theorem isSome_standard_message? {file digits message left : Text} (hfile : ∀ c ∈ file, c ≠ '\n')
    (hdigits : IsLineNumber digits) (hmessage : message ≠ []) (hfeed : ∀ c ∈ message, c ≠ '\n')
    (hleft : endsLine left = true) :
    (standard.message? (errorLine file digits (message ++ left))).isSome := by
  have hlocated := isSome_locatedMessage? hdigits hmessage hfeed hleft
  rw [standard_message?, ← List.append_nil file, ← append_errorLine]
  exact isSome_afterMost hlocated (Nat.zero_le _) (by simpa using hfile)

end TexLog.ErrorRule
