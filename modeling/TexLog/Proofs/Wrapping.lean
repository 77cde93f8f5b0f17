import TexLog.Proofs.Boundary
import TexLog.Proofs.Extents
import TexLog.Proofs.StandardRule

/-!
# Wrapped errors

A compiler that wraps its lines cuts an error into pieces of one width, wherever that may be. The
scanner reports the error as if it had not been cut. On one of the pieces the location is complete,
together with the piece before it, so something is recognised. What is recognised stands after the
location, of which there is only one. And the message goes on over the other pieces, since all but
the last are full.
-/

namespace TexLog

/-! ## Wrapping -/

/-- The pieces of a text that is wrapped at a width: all have this width, but the last may be
shorter. -/
def Text.wrap (text : Text) (width : Nat) : List Text :=
  (List.range ((text.length + width - 1) / width)).map fun i => (text.drop (i * width)).take width

section
variable {text : Text} {width : Nat}

/-- There is a piece for every place of the text that a piece can begin at. -/
theorem lt_length_wrap (hwidth : 0 < width) {i : Nat} :
    i < (text.wrap width).length ↔ i * width < text.length := by
  rw [Text.wrap, List.length_map, List.length_range, Nat.lt_iff_add_one_le,
    Nat.le_div_iff_mul_le hwidth, Nat.add_mul]
  omega

/-- Each line of a wrapped text is the next piece of it. -/
theorem getElem?_wrap {i : Nat} (hi : i < (text.wrap width).length) :
    (text.wrap width)[i]? = some ((text.drop (i * width)).take width) := by
  rw [Text.wrap, List.length_map, List.length_range] at hi
  simp [Text.wrap, hi]

/-- The pieces up to an index are the beginning of the text. -/
theorem flatten_take_wrap (hwidth : 0 < width) (count : Nat) :
    ((text.wrap width).take count).flatten = text.take (count * width) := by
  induction count with
  | zero => simp
  | succ count ih =>
    rw [List.take_add_one, List.flatten_append, ih, Nat.add_mul, Nat.one_mul, List.take_add]
    congr 1
    rcases Nat.lt_or_ge count (text.wrap width).length with hlt | hge
    · simp [getElem?_wrap hlt]
    · have hend : text.length ≤ count * width :=
        Nat.not_lt.1 fun h => Nat.not_lt.2 hge ((lt_length_wrap hwidth).2 h)
      simp [List.getElem?_eq_none hge, List.drop_eq_nil_of_le hend]

/-- The pieces are what the text was cut into. -/
theorem flatten_wrap (hwidth : 0 < width) : (text.wrap width).flatten = text := by
  have hend : text.length ≤ (text.wrap width).length * width :=
    Nat.not_lt.1 fun h => Nat.lt_irrefl _ ((lt_length_wrap hwidth).2 h)
  calc (text.wrap width).flatten
      = ((text.wrap width).take (text.wrap width).length).flatten := by rw [List.take_length]
    _ = text := by rw [flatten_take_wrap hwidth, List.take_of_length_le hend]

/-- Pieces that follow one another are a part of the text. -/
theorem joinLines_wrap (hwidth : 0 < width) {first last : Nat} (hle : first ≤ last + 1)
    (hfirst : first * width ≤ text.length) :
    joinLines (text.wrap width) first last =
      (text.take ((last + 1) * width)).drop (first * width) := by
  have hparts := flatten_take_append_joinLines (text.wrap width) hle
  rw [flatten_take_wrap hwidth, flatten_take_wrap hwidth] at hparts
  rw [← hparts, List.drop_left' (List.length_take_of_le hfirst)]

/-- Pieces that others follow are full. -/
theorem fullAt_wrap {settings : Settings} {i : Nat}
    (hi : i + 1 < (text.wrap settings.wrapWidth).length) :
    settings.FullAt (text.wrap settings.wrapWidth) i := by
  have hnext := (lt_length_wrap settings.wrapWidth_pos).1 hi
  rw [Nat.add_mul, Nat.one_mul] at hnext
  refine ⟨_, getElem?_wrap (by omega), ?_⟩
  rw [List.length_take, List.length_drop]
  omega

/-- The last piece is short unless the width goes into the length of the text. -/
theorem length_getLast?_wrap (hwidth : 0 < width) (hrest : ¬ width ∣ text.length) {last : Text}
    (hlast : (text.wrap width).getLast? = some last) : last.length < width := by
  have hpos : 0 < (text.wrap width).length := List.length_pos_of_mem (List.mem_of_getLast? hlast)
  have hi : (text.wrap width).length - 1 + 1 = (text.wrap width).length := Nat.sub_add_cancel hpos
  generalize (text.wrap width).length - 1 = i at hi
  have hend : ¬ (i + 1) * width < text.length :=
    fun h => Nat.lt_irrefl _ (hi ▸ (lt_length_wrap hwidth).2 h)
  have hne : text.length ≠ (i + 1) * width := fun h => hrest (h ▸ Nat.dvd_mul_left ..)
  rw [getLast?_eq_getElem?_of_add_one hi, getElem?_wrap (by omega)] at hlast
  cases hlast
  rw [Nat.add_mul, Nat.one_mul] at hend hne
  rw [List.length_take, List.length_drop]
  omega

/-- A piece of a text without line ends is not changed when line ends are taken off. -/
theorem stripLineEnd_of_mem_wrap (hwidth : 0 < width)
    (hunbroken : ∀ c ∈ text, Text.isLineEnd c = false) {piece : Text}
    (hpiece : piece ∈ text.wrap width) : piece.stripLineEnd = piece := by
  have hchars : ∀ c ∈ piece.reverse, Text.isLineEnd c = false := by
    intro c hc
    have hmem : c ∈ (text.wrap width).flatten :=
      List.mem_flatten_of_mem hpiece (List.mem_reverse.1 hc)
    rw [flatten_wrap hwidth] at hmem
    exact hunbroken c hmem
  have hdrop : piece.reverse.dropWhile Text.isLineEnd = piece.reverse := by
    rcases hreverse : piece.reverse with - | ⟨c, rest⟩
    · rfl
    · have hc := hchars c (by simp [hreverse])
      rw [List.dropWhile_cons_of_neg (by simp [hc])]
  rw [Text.stripLineEnd, hdrop, List.reverse_reverse]

end

/-! ## Lines that report an error -/

namespace ErrorRule

/-- A line in which an error and nothing else is reported: it has one location, and it shows no
warning wherever it is cut. -/
structure ReportsOnce (settings : Settings) (file digits message : Text) : Prop where
  isLineNumber : IsLineNumber digits
  message_ne : message ≠ []
  unbroken : ∀ c ∈ errorLine file digits message, Text.isLineEnd c = false
  noWarning : ∀ start ∈ settings.warningPrefixes, ¬ start <:+: errorLine file digits message
  location : ∀ index, LocationAt (errorLine file digits message) index → index = file.length

namespace ReportsOnce
variable {settings : Settings} {file digits message : Text}

/-- No line feed stands in an error that is reported once. -/
theorem ne_lineFeed (h : ReportsOnce settings file digits message) {c : Char}
    (hc : c ∈ errorLine file digits message) : c ≠ '\n' := by
  rintro rfl
  exact absurd (h.unbroken _ hc) (by decide)

/-- A part of the line shows an error or nothing. -/
theorem recognise_eq (h : ReportsOnce settings file digits message)
    (hrule : settings.errorRule = .standard) {part : Text}
    (hpart : part <:+: errorLine file digits message) :
    settings.recognise part = (standard.message? part).map (⟨.error, ·⟩) := by
  have hwarning : settings.recogniseWarning part = none := by
    refine if_neg fun hany => ?_
    obtain ⟨start, hstart, hprefix⟩ := List.any_eq_true.1 hany
    have hbegins : start <+: Str.ofText part := List.isPrefixOf_iff_prefix.1 hprefix
    exact h.noWarning start hstart (hbegins.isInfix.trans (hpart.map Symbol.char))
  simp [Settings.recognise, Settings.recogniseError, hwarning, hrule]

/-- A part of the line in which the location is complete shows an error. -/
theorem recognise_ne_none (h : ReportsOnce settings file digits message)
    (hrule : settings.errorRule = .standard) {first last : Nat} (hfirst : first ≤ file.length)
    (hlast : file.length + digits.length + 3 < last) :
    settings.recognise (((errorLine file digits message).take last).drop first) ≠ none := by
  have hpart : ((errorLine file digits message).take last).drop first <:+:
      errorLine file digits message :=
    (List.drop_suffix ..).isInfix.trans (List.take_prefix ..).isInfix
  have hshown : message.take (last - (file.length + digits.length + 3)) ≠ [] := by
    rw [Ne, List.take_eq_nil_iff]
    exact not_or.2 ⟨by omega, h.message_ne⟩
  have hsome : (standard.message? (errorLine (file.drop first) digits
      (message.take (last - (file.length + digits.length + 3)) ++ []))).isSome :=
    isSome_standard_message?
      (fun _ hc => h.ne_lineFeed (by simp [errorLine, List.mem_of_mem_drop hc])) h.isLineNumber
      hshown (fun _ hc => h.ne_lineFeed (by simp [errorLine, List.mem_of_mem_take hc])) rfl
  rw [List.append_nil, ← drop_errorLine hfirst, ← take_errorLine (Nat.le_of_lt hlast)] at hsome
  rw [h.recognise_eq hrule hpart]
  simpa [Option.isSome_iff_ne_none] using hsome

/-- An error that a part of the line shows stands after the location. -/
theorem eq_of_recognise (h : ReportsOnce settings file digits message)
    (hrule : settings.errorRule = .standard) {before part after : Text} {diagnostic : Diagnostic}
    (hparts : before ++ part ++ after = errorLine file digits message)
    (hfound : settings.recognise part = some diagnostic) :
    diagnostic.kind = .error ∧ diagnostic.message ++ after = message := by
  rw [h.recognise_eq hrule ⟨before, after, hparts⟩, Option.map_eq_some_iff] at hfound
  obtain ⟨found, hfound, rfl⟩ := hfound
  obtain ⟨file', digits', left, hdigits', hne, hleft, rfl⟩ := standard_message?_eq_some hfound
  have hnil : left = [] := by
    refine (endsLine_iff.1 hleft).resolve_right fun hfeed => ?_
    refine h.ne_lineFeed ?_ rfl
    rw [← hparts, hfeed]
    simp [errorLine]
  rw [hnil, List.append_nil, append_errorLine, errorLine_append] at hparts
  have hlater : (errorLine file digits message).drop (before ++ file').length =
      errorLine [] digits' (found ++ after) := by
    rw [← hparts, drop_errorLine (Nat.le_refl _), List.drop_length]
  have hindex : (before ++ file').length = file.length :=
    h.location _ ⟨digits', found ++ after, hdigits', by simp [hne], hlater⟩
  rw [hindex, drop_errorLine (Nat.le_refl _), List.drop_length] at hlater
  exact ⟨rfl, (errorLine_nil_inj h.isLineNumber hdigits' hlater).2.symm⟩

/-- On one piece the location is complete, together with the piece before it. -/
theorem exists_not_silentAt (h : ReportsOnce settings file digits message)
    (hrule : settings.errorRule = .standard) (hfits : digits.length + 4 ≤ settings.wrapWidth) :
    ∃ i < ((errorLine file digits message).wrap settings.wrapWidth).length,
      ¬ settings.SilentAt ((errorLine file digits message).wrap settings.wrapWidth) i := by
  have hwidth := settings.wrapWidth_pos
  have hlength := length_errorLine file digits message
  have hpos : 0 < message.length := List.length_pos_iff.2 h.message_ne
  -- the location is complete on the piece with the first character of the message
  obtain ⟨i, hle, hlt⟩ : ∃ i, i * settings.wrapWidth ≤ file.length + digits.length + 3 ∧
      file.length + digits.length + 3 < (i + 1) * settings.wrapWidth :=
    ⟨_, Nat.div_mul_le_self _ _, Nat.mul_comm .. ▸ Nat.lt_mul_div_succ _ hwidth⟩
  refine ⟨i, (lt_length_wrap hwidth).2 (by omega), fun hsilent => ?_⟩
  cases i with
  | zero =>
    have halone := hsilent.alone
    rw [joinLines_wrap hwidth (Nat.zero_le _) (by simp)] at halone
    exact h.recognise_ne_none hrule (by simp) hlt halone
  | succ before =>
    have hwhole : before * settings.wrapWidth + settings.wrapWidth ≤
        file.length + digits.length + 3 := by rwa [Nat.add_mul, Nat.one_mul] at hle
    have hfull : settings.FullAt ((errorLine file digits message).wrap settings.wrapWidth) before :=
      fullAt_wrap ((lt_length_wrap hwidth).2 (by omega))
    have hjoined := hsilent.joined before rfl hfull
    rw [joinLines_wrap hwidth (by omega) (by omega)] at hjoined
    exact h.recognise_ne_none hrule (by omega) hlt hjoined

/-- The pieces of the line, with or without line ends, show the error. -/
theorem diagnosticsOf_pieces (h : ReportsOnce settings file digits message)
    (hrule : settings.errorRule = .standard) (hfits : digits.length + 4 ≤ settings.wrapWidth)
    {pieces : List Text} (hpieces : pieces.map Text.stripLineEnd =
      (errorLine file digits message).wrap settings.wrapWidth) :
    DirectScanner.diagnosticsOf settings pieces = [⟨.error, message⟩] := by
  obtain ⟨extents, hfill⟩ := DirectScanner.exists_fill settings pieces
  rw [hpieces] at hfill
  obtain ⟨hholds, hapart, hshort, hsilent⟩ := hfill
  -- all pieces but the last are full, so no extent ends before the last piece
  have hend : ∀ extent ∈ extents,
      ¬ extent.last + 1 < ((errorLine file digits message).wrap settings.wrapWidth).length :=
    fun extent hextent hlt => (fullAt_wrap hlt).not_shortAt (hshort extent hextent hlt)
  generalize DirectScanner.diagnosticsOf settings pieces = diagnostics at hholds
  cases hholds with
  | nil =>
    obtain ⟨i, hi, hnot⟩ := h.exists_not_silentAt hrule hfits
    exact absurd (hsilent i hi (by simp)) hnot
  | @cons extent diagnostic others _ hfirst hothers =>
    have hlast := hend extent (by simp)
    cases hothers with
    | nil =>
      obtain ⟨shown, hrecognised, hmessage⟩ := hfirst.recognised
      have hparts := hfirst.flatten_eq hlast
      rw [flatten_wrap settings.wrapWidth_pos] at hparts
      obtain ⟨hkind, hrest⟩ := h.eq_of_recognise hrule hparts hrecognised
      obtain ⟨kind, text⟩ := diagnostic
      simp only at hkind hmessage hrest
      rw [hkind, hmessage, hrest]
    | @cons other _ _ _ hsecond _ =>
      have hlater : extent.last < other.first := List.rel_of_pairwise_cons hapart (by simp)
      have hfound := hsecond.first_le
      have hfound' := hsecond.found_le
      have hlt := hsecond.last_lt
      omega

end ReportsOnce

end ErrorRule

end TexLog

namespace TexLog.Scanner

open ErrorRule

/-- **Unwrapping undoes wrapping.** An error that is wrapped anywhere is reported with its whole
message, between what the lines before it and the lines after it show by themselves. -/
theorem diagnosticsOf_wrapped_error (settings : Settings) (before after : List Text)
    (file digits message : Text) (hrule : settings.errorRule = .standard)
    (h : ReportsOnce settings file digits message)
    (hfits : digits.length + 4 ≤ settings.wrapWidth)
    (hbefore : ∀ last, before.getLast? = some last →
      last.stripLineEnd.length < settings.wrapWidth)
    (hafter : settings.wrapWidth ∣ (errorLine file digits message).length → after = []) :
    diagnosticsOf settings
        (before ++ (errorLine file digits message).wrap settings.wrapWidth ++ after) =
      diagnosticsOf settings before ++ ⟨.error, message⟩ :: diagnosticsOf settings after := by
  have hstrip : ∀ piece ∈ (errorLine file digits message).wrap settings.wrapWidth,
      piece.stripLineEnd = piece := fun _ hpiece =>
    stripLineEnd_of_mem_wrap settings.wrapWidth_pos h.unbroken hpiece
  have hpieces := h.diagnosticsOf_pieces hrule hfits
    ((List.map_congr_left hstrip).trans (List.map_id' _))
  have hrest : DirectScanner.diagnosticsOf settings
      ((errorLine file digits message).wrap settings.wrapWidth ++ after) =
        ⟨.error, message⟩ :: DirectScanner.diagnosticsOf settings after := by
    by_cases hwhole : settings.wrapWidth ∣ (errorLine file digits message).length
    · rw [hafter hwhole, List.append_nil, hpieces]
      rfl
    · have hshort : ∀ last, ((errorLine file digits message).wrap settings.wrapWidth).getLast? =
          some last → last.stripLineEnd.length < settings.wrapWidth := by
        intro last hlast
        rw [hstrip last (List.mem_of_getLast? hlast)]
        exact length_getLast?_wrap settings.wrapWidth_pos hwhole hlast
      rw [DirectScanner.diagnosticsOf_append settings hshort, hpieces]
      rfl
  simp only [diagnosticsOf_eq_direct]
  rw [List.append_assoc, DirectScanner.diagnosticsOf_append settings hbefore, hrest]

/-- An error of which the location is cut. -/
theorem diagnosticsOf_wrapped_error_straddling :
    diagnosticsOf (.ofWidth 8 (by decide))
        (["b:3: c".toList] ++
          (errorLine "a.tex".toList "12".toList "Undefined".toList).wrap 8 ++ [":4: d".toList]) =
      [⟨.error, "c".toList⟩, ⟨.error, "Undefined".toList⟩, ⟨.error, "d".toList⟩] := by
  have h : ReportsOnce (.ofWidth 8 (by decide)) "a.tex".toList "12".toList "Undefined".toList := by
    have hunbroken : (errorLine "a.tex".toList "12".toList "Undefined".toList).all
        (!Text.isLineEnd ·) = true := by decide
    refine ⟨⟨by decide, List.all_eq_true.1 (by decide)⟩, by decide,
      fun c hc => by simpa using List.all_eq_true.1 hunbroken c hc, by decide +kernel,
      fun index hlocation => ?_⟩
    have hcheck : ∀ index < 19, (errorLine "a.tex".toList "12".toList "Undefined".toList)[index]? =
        some ':' → (errorLine "a.tex".toList "12".toList "Undefined".toList)[index + 1]?.any
          Text.isDigit = true → index = 5 := by decide +kernel
    obtain ⟨hcolon, hdigit⟩ := hlocation.getElem?
    exact hcheck index (List.getElem?_eq_some_iff.1 hcolon).1 hcolon hdigit
  exact (diagnosticsOf_wrapped_error (.ofWidth 8 (by decide)) ["b:3: c".toList] [":4: d".toList] _ _
    _ rfl h (by decide) (by intro last hlast; cases hlast; decide) (by decide)).trans
      (by decide +kernel)

end TexLog.Scanner
