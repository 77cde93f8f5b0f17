import TexLog.Text.Notation

/-!
# Written numbers are read back

What is written for a number is read as this number, for natural numbers and for integers.
-/

/-! ## Decimal numerals

What `Text.ofNat` writes for a number is the numeral of it (`Text.numeral_ofNat`). It consists of
digits, so a reader of digits takes it off the front of a text if no digit follows it
(`Text.takeWhile_ofNat_append`), and it begins with a zero only if it is the zero
(`Text.head?_ofNat`).
-/

namespace TexLog.Text

variable {n : Nat}

/-- A natural number is written with digits. -/
theorem isDigit_of_mem_ofNat {c : Char} (h : c ∈ ofNat n) : c.isDigit = true :=
  Nat.isDigit_of_mem_toDigits (by decide) (by decide) h

/-- No carriage return stands in a written number. -/
theorem return_not_mem_ofNat (n : Nat) : '\r' ∉ ofNat n := fun hmem =>
  absurd (isDigit_of_mem_ofNat hmem) (by decide)

/-- A number is written with some digits. -/
theorem ofNat_ne_nil (n : Nat) : ofNat n ≠ [] := Nat.toDigits_ne_nil

/-- What is written for a number begins with a digit. -/
theorem exists_ofNat_eq_cons (n : Nat) :
    ∃ c digits, ofNat n = c :: digits ∧ c.isDigit = true := by
  obtain ⟨c, digits, hdigits⟩ := List.exists_cons_of_ne_nil (ofNat_ne_nil n)
  exact ⟨c, digits, hdigits, isDigit_of_mem_ofNat (n := n) (by simp [hdigits])⟩

/-- A digit is not a character that is no digit. -/
theorem ne_of_isDigit {c other : Char} (hc : c.isDigit = true) (hother : other.isDigit = false) :
    c ≠ other := by
  rintro rfl
  simp [hother] at hc

/-- The sign of a number that is written with its digits. -/
def sign (negative : Bool) : Text := if negative then ['-'] else []

/-- An integer is written as its sign and its size. -/
theorem ofInt_eq (n : Int) : ofInt n = sign (n < 0) ++ ofNat n.natAbs := by
  cases n with
  | ofNat n => simp [ofInt, sign]
  | negSucc n => simp [ofInt, sign, Int.negSucc_lt_zero]

/-- Decimal digits make up the number that they make up for the library. -/
theorem numeral_of_digits {digits : Text} (hdigits : ∀ c ∈ digits, c.isDigit = true) :
    numeral 10 digits = Nat.ofDigitChars 10 digits 0 := by
  unfold numeral Nat.ofDigitChars
  generalize 0 = value
  induction digits generalizing value with
  | nil => rfl
  | cons c digits ih =>
    obtain ⟨hc, hlater⟩ := List.forall_mem_cons.1 hdigits
    rw [List.foldl_cons, List.foldl_cons, hexValue, if_pos hc, ih hlater]

/-- What is written for a number is read as this number. -/
theorem numeral_ofNat (n : Nat) : numeral 10 (ofNat n) = n := by
  rw [numeral_of_digits fun _ => isDigit_of_mem_ofNat]
  exact Nat.ofDigitChars_toDigits (by decide) (by decide)

/-- Only the zero begins with a zero. -/
theorem head?_ofNat (hn : n ≠ 0) : (ofNat n).head? ≠ some '0' := by
  induction n using Nat.strongRecOn with
  | ind n ih =>
  rw [ofNat, Nat.toDigits_eq_if (by decide)]
  split
  · next hlt =>
    have hdigit : ∀ d < 10, d ≠ 0 → d.digitChar ≠ '0' := by decide
    simpa using hdigit n hlt hn
  · next hge =>
    have hquotient := ih (n / 10) (by omega) (by omega)
    obtain ⟨c, digits, hdigits, -⟩ := exists_ofNat_eq_cons (n / 10)
    rw [hdigits] at hquotient
    rw [← ofNat, hdigits]
    exact hquotient

/-- A run of characters is taken up to what follows it. -/
theorem takeWhile_append_of_stop {p : Char → Bool} {run rest : Text}
    (hrun : ∀ c ∈ run, p c = true) (hrest : ∀ c, rest.head? = some c → p c = false) :
    (run ++ rest).takeWhile p = run := by
  rw [List.takeWhile_append_of_pos hrun]
  cases rest with
  | nil => simp
  | cons c rest => simp [hrest c rfl]

/-- A written number ends where no digit follows. -/
theorem takeWhile_ofNat_append {rest : Text}
    (hrest : ∀ c, rest.head? = some c → c.isDigit = false) :
    (ofNat n ++ rest).takeWhile Char.isDigit = ofNat n :=
  takeWhile_append_of_stop (fun _ => isDigit_of_mem_ofNat) hrest

end TexLog.Text

/-! ## Written integers are read back

What `Text.ofInt` writes for an integer is read as this integer, if it has no more digits than are
read (`Text.readInt?_ofInt`).
-/

namespace TexLog.Text

/-- What holds of the digits from zero to nine holds of every basic Latin digit. -/
theorem forall_of_isDigit {p : Char → Prop} (h : ∀ d < 10, p (Nat.digitChar d)) {c : Char}
    (hc : c.isDigit = true) : p c := by
  obtain ⟨hleast, hgreatest⟩ := Char.isDigit_iff_toNat.1 hc
  have hchar : ∀ d < 10, Nat.digitChar d = Char.ofNat (d + 48) := by decide
  have hd : c.toNat - 48 < 10 := by simp at hgreatest; omega
  have hsum : c.toNat - 48 + 48 = c.toNat := Nat.sub_add_cancel hleast
  have hdigit := h _ hd
  rwa [hchar _ hd, hsum, Char.ofNat_toNat] at hdigit

/-- The digits from zero to nine have the same value for all readers. -/
theorem digitValue?_of_isDigit {c : Char} (hc : c.isDigit = true) :
    digitValue? c = some (hexValue c) :=
  forall_of_isDigit (p := fun c => digitValue? c = some (hexValue c)) (by decide) hc

/-- A digit is no blank. -/
theorem isSpace_of_isDigit {c : Char} (hc : c.isDigit = true) : isSpace c = false :=
  forall_of_isDigit (p := fun c => isSpace c = false) (by decide) hc

/-- Digits without underscores are a group each. -/
theorem digitGroups?_of_digits {digits : Text} (hne : digits ≠ [])
    (hdigits : ∀ c ∈ digits, c.isDigit = true) :
    digitGroups? digits = some (digits.map hexValue) := by
  induction digits with
  | nil => exact absurd rfl hne
  | cons c digits ih =>
    obtain ⟨hc, hlater⟩ := List.forall_mem_cons.1 hdigits
    cases digits with
    | nil => simp [digitGroups?, digitValue?_of_isDigit hc]
    | cons next digits =>
      have hnext : next ≠ '_' := ne_of_isDigit (hlater next (by simp)) (by decide)
      rw [digitGroups?]
      · simp [digitValue?_of_isDigit hc, ih (by simp) hlater]
      · simp
      · simpa using fun h => absurd h hnext

/-- What is written for a number is read as this number, if it has not too many digits. -/
theorem readNat?_ofNat {n : Nat} (hn : (ofNat n).length ≤ maxDigits) :
    readNat? (ofNat n) = some n := by
  have hvalue : ofDigits ((ofNat n).map hexValue) = n := by
    rw [ofDigits, List.foldl_map]
    exact numeral_ofNat n
  rw [readNat?, digitGroups?_of_digits (ofNat_ne_nil n) fun _ => isDigit_of_mem_ofNat]
  simp [hn, hvalue]

/-- There is nothing to strip from a text without the characters that are stripped. -/
theorem stripWhile_of_forall {drop : Char → Bool} {text : Text}
    (htext : ∀ c ∈ text, drop c = false) : stripWhile drop text = text := by
  have hdrop {other : Text} (hother : ∀ c ∈ other, drop c = false) :
      other.dropWhile drop = other := by
    cases other with
    | nil => rfl
    | cons c other => simp [hother c (by simp)]
  rw [stripWhile, hdrop htext, hdrop (fun c hc => htext c (List.mem_reverse.1 hc)),
    List.reverse_reverse]

/-- No blank stands in a written integer. -/
theorem isSpace_of_mem_ofInt {n : Int} {c : Char} (hc : c ∈ ofInt n) : isSpace c = false := by
  rw [ofInt_eq, List.mem_append] at hc
  rcases hc with hsign | hdigit
  · have hminus : c = '-' := by
      unfold sign at hsign
      split at hsign
      · exact List.mem_singleton.1 hsign
      · cases hsign
    rw [hminus]
    decide
  · exact isSpace_of_isDigit (isDigit_of_mem_ofNat hdigit)

/-- **What is written for an integer is read as this integer**, if it has not too many digits. -/
theorem readInt?_ofInt {n : Int} (hn : (ofNat n.natAbs).length ≤ maxDigits) :
    readInt? (ofInt n) = some n := by
  rw [readInt?, stripWhile_of_forall fun _ => isSpace_of_mem_ofInt]
  cases n with
  | ofNat n =>
    have hread : readNat? (ofNat n) = some n := readNat?_ofNat hn
    obtain ⟨c, digits, hdigits, hc⟩ := exists_ofNat_eq_cons n
    have hminus : c ≠ '-' := ne_of_isDigit hc (by decide)
    have hplus : c ≠ '+' := ne_of_isDigit hc (by decide)
    rw [ofInt, hdigits]
    rw [hdigits] at hread
    split
    · next h => exact absurd (List.cons.inj h).1 hminus
    · next h => exact absurd (List.cons.inj h).1 hplus
    · rw [hread]
      rfl
  | negSucc n =>
    have hread : readNat? (ofNat (n + 1)) = some (n + 1) := readNat?_ofNat hn
    simp only [ofInt, hread]
    rfl

end TexLog.Text
