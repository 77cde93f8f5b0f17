import TexLog.Text.Lines

/-!
# The lines of a text

`CutsInto` says what it means that a text is cut into lines, without the unified text that
`Text.lines` goes through: a line feed, a carriage return, or the two together end a line, and the
line that comes out ends in a line feed in all three cases. A text is cut in exactly one way, which
is the one that `Text.lines` gives (`cutsInto_iff`).
-/

namespace TexLog.Text

/-- The end of a line, with what comes after it. -/
inductive LineEnding : (ending rest : Text) → Prop
  | feed {rest : Text} : LineEnding ['\n'] rest
  | both {rest : Text} : LineEnding ['\r', '\n'] rest
  | carriageReturn {rest : Text} (hrest : rest.head? ≠ some '\n') : LineEnding ['\r'] rest

/-- A text and the lines into which it is cut. Only the last line may lack a line end. -/
inductive CutsInto : Text → List Text → Prop
  | nil : CutsInto [] []
  | last {line : Text} (hne : line ≠ []) (hunbroken : ∀ c ∈ line, isLineEnd c = false) :
      CutsInto line [line]
  | line {line ending rest : Text} {lines : List Text}
      (hunbroken : ∀ c ∈ line, isLineEnd c = false) (hending : LineEnding ending rest)
      (hrest : CutsInto rest lines) : CutsInto (line ++ ending ++ rest) ((line ++ ['\n']) :: lines)

/-- It does not matter what stands before a text, unless it is a carriage return. -/
theorem unifyAfter_of_ne {previous : Option Char} (hprevious : previous ≠ some '\r') (text : Text) :
    unifyAfter previous text = unifyLineEnds text := by
  cases text with
  | nil => rfl
  | cons c rest => simp [unifyLineEnds, unifyAfter_cons, unifiedChar, hprevious]

/-- After a carriage return only a line feed is left out. -/
theorem unifyAfter_return {rest : Text} (hrest : rest.head? ≠ some '\n') :
    unifyAfter (some '\r') rest = unifyLineEnds rest := by
  cases rest with
  | nil => rfl
  | cons c rest =>
    have hc : c ≠ '\n' := by simpa using hrest
    simp [unifyLineEnds, unifyAfter_cons, unifiedChar, hc]

/-- What has no line end stays as it is. -/
theorem unifyLineEnds_append {line : Text} (hunbroken : ∀ c ∈ line, isLineEnd c = false)
    (rest : Text) : unifyLineEnds (line ++ rest) = line ++ unifyLineEnds rest := by
  induction line with
  | nil => rfl
  | cons c line ih =>
    obtain ⟨hc, hline⟩ := List.forall_mem_cons.1 hunbroken
    obtain ⟨hfeed, hreturn⟩ : c ≠ '\n' ∧ c ≠ '\r' := by simpa [isLineEnd] using hc
    have hlater : unifyAfter (some c) (line ++ rest) = line ++ unifyLineEnds rest := by
      rw [unifyAfter_of_ne (by simpa using hreturn), ih hline]
    simp [unifyLineEnds, unifyAfter_cons, unifiedChar, hfeed, hreturn, hlater]

/-- It does not matter what stands before a text that does not begin with a line feed. -/
theorem unifyAfter_of_head {text : Text} (htext : text.head? ≠ some '\n')
    (previous : Option Char) : unifyAfter previous text = unifyLineEnds text := by
  by_cases hprevious : previous = some '\r'
  · rw [hprevious, unifyAfter_return htext]
  · exact unifyAfter_of_ne hprevious text

/-- Where no carriage return stands, line ends are unified already. -/
theorem unifyLineEnds_append_of_not_mem {text : Text} (htext : '\r' ∉ text) (rest : Text) :
    unifyLineEnds (text ++ rest) = text ++ unifyLineEnds rest := by
  induction text with
  | nil => rfl
  | cons c text ih =>
    obtain ⟨hc, hlater⟩ := not_or.1 (mt List.mem_cons.2 htext)
    have hreturn : c ≠ '\r' := Ne.symm hc
    have hafter : unifyAfter (some c) (text ++ rest) = text ++ unifyLineEnds rest := by
      rw [unifyAfter_of_ne (by simpa using hreturn), ih hlater]
    simp [unifyLineEnds, unifyAfter_cons, unifiedChar, hreturn, hafter]

/-- A text without carriage returns has unified line ends. -/
theorem unifyLineEnds_of_not_mem {text : Text} (htext : '\r' ∉ text) :
    unifyLineEnds text = text := by
  simpa [unifyLineEnds] using unifyLineEnds_append_of_not_mem htext []

/-- Texts of which the second does not begin with a line feed have no line end in common. -/
theorem unifyAfter_append_of_head (previous : Option Char) (text : Text) {rest : Text}
    (hrest : rest.head? ≠ some '\n') :
    unifyAfter previous (text ++ rest) = unifyAfter previous text ++ unifyLineEnds rest := by
  induction text generalizing previous with
  | nil => exact unifyAfter_of_head hrest previous
  | cons c text ih =>
    rw [List.cons_append, unifyAfter_cons, unifyAfter_cons, ih, List.append_assoc]

/-- A line end becomes a line feed. -/
theorem unifyLineEnds_ending {ending rest : Text} (hending : LineEnding ending rest) :
    unifyLineEnds (ending ++ rest) = '\n' :: unifyLineEnds rest := by
  have hlater : unifyAfter (some '\n') rest = unifyLineEnds rest :=
    unifyAfter_of_ne (by decide) rest
  cases hending with
  | feed => rw [← hlater]; rfl
  | both => rw [← hlater]; rfl
  | carriageReturn hrest => rw [← unifyAfter_return hrest]; rfl

/-- An unbroken line and a line feed are the first line. -/
theorem splitAfterFeeds_append {line : Text} (hunbroken : ∀ c ∈ line, isLineEnd c = false)
    (rest : Text) :
    splitAfterFeeds (line ++ '\n' :: rest) = (line ++ ['\n']) :: splitAfterFeeds rest := by
  induction line with
  | nil => rfl
  | cons c line ih =>
    obtain ⟨hc, hline⟩ := List.forall_mem_cons.1 hunbroken
    have hfeed : c ≠ '\n' := by rintro rfl; exact absurd hc (by decide)
    rw [List.cons_append, splitAfterFeeds_cons, ih hline]
    simp [consLine]

/-- An unbroken text is a single line. -/
theorem splitAfterFeeds_of_unbroken {line : Text} (hne : line ≠ [])
    (hunbroken : ∀ c ∈ line, isLineEnd c = false) : splitAfterFeeds line = [line] := by
  induction line with
  | nil => exact absurd rfl hne
  | cons c line ih =>
    obtain ⟨hc, hline⟩ := List.forall_mem_cons.1 hunbroken
    have hfeed : c ≠ '\n' := by rintro rfl; exact absurd hc (by decide)
    rw [splitAfterFeeds_cons]
    cases line with
    | nil => simp [consLine, splitAfterFeeds]
    | cons next line =>
      rw [ih (by simp) hline]
      simp [consLine]

/-- A text is cut in one way only. -/
theorem CutsInto.eq_lines {text : Text} {lines : List Text} (h : CutsInto text lines) :
    lines = text.lines := by
  induction h with
  | nil => rfl
  | @last line hne hunbroken =>
    have hunified := unifyLineEnds_append hunbroken []
    rw [List.append_nil] at hunified
    rw [Text.lines, hunified]
    exact ((congrArg _ (List.append_nil _)).trans (splitAfterFeeds_of_unbroken hne hunbroken)).symm
  | @line line ending rest lines hunbroken hending _ ih =>
    rw [Text.lines, List.append_assoc, unifyLineEnds_append hunbroken,
      unifyLineEnds_ending hending, splitAfterFeeds_append hunbroken, ih, Text.lines]

/-- A line end has some character. -/
theorem LineEnding.ne_nil {ending rest : Text} (h : LineEnding ending rest) : ending ≠ [] := by
  cases h <;> simp

/-- Where a line ends it has one line end. -/
theorem exists_lineEnding {c : Char} (hend : isLineEnd c = true) (rest : Text) :
    ∃ ending after, c :: rest = ending ++ after ∧ LineEnding ending after := by
  obtain rfl | rfl : c = '\n' ∨ c = '\r' := by simpa [isLineEnd] using hend
  · exact ⟨['\n'], rest, rfl, .feed⟩
  · by_cases hrest : rest.head? = some '\n'
    · obtain ⟨after, rfl⟩ := List.head?_eq_some_iff.1 hrest
      exact ⟨['\r', '\n'], after, rfl, .both⟩
    · exact ⟨['\r'], rest, rfl, .carriageReturn hrest⟩

/-- Every text can be cut, also after the beginning of a line. -/
theorem exists_cutsInto_append (line text : Text) (hunbroken : ∀ c ∈ line, isLineEnd c = false) :
    ∃ lines, CutsInto (line ++ text) lines := by
  match text with
  | [] =>
    rw [List.append_nil]
    by_cases hne : line = []
    · exact ⟨[], hne ▸ .nil⟩
    · exact ⟨[line], .last hne hunbroken⟩
  | c :: rest =>
    cases hend : isLineEnd c with
    | true =>
      -- the line end may have two characters, so what comes after it need not be the rest
      obtain ⟨ending, after, hparts, hending⟩ := exists_lineEnding hend rest
      have hshorter : after.length < rest.length + 1 := by
        have hpos := List.length_pos_iff.2 hending.ne_nil
        rw [← List.length_cons, hparts, List.length_append]
        omega
      obtain ⟨lines, hlines⟩ := exists_cutsInto_append [] after (by simp)
      rw [hparts, ← List.append_assoc]
      exact ⟨_, .line hunbroken hending hlines⟩
    | false =>
      have hline : ∀ d ∈ line ++ [c], isLineEnd d = false := by
        simpa [or_imp, forall_and] using And.intro hunbroken hend
      simpa using exists_cutsInto_append (line ++ [c]) rest hline
termination_by text.length

/-- **A text is cut at its line ends**, and in no other way. -/
theorem cutsInto_iff {text : Text} {lines : List Text} :
    CutsInto text lines ↔ lines = text.lines := by
  refine ⟨CutsInto.eq_lines, ?_⟩
  rintro rfl
  obtain ⟨lines, h⟩ := exists_cutsInto_append [] text (by simp)
  exact h.eq_lines ▸ h

end TexLog.Text
