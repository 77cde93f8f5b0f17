import TexLog.Proofs.LineEnds
import TexLog.Proofs.Numerals
import TexLog.Proofs.WrittenFiles
import TexLog.Settings.Loading

/-!
# Reading printed JSON

What `Json.print` writes for a value, `Json.read` reads as this value (`Json.read_print`), if the
value is one that a text can stand for (`Json.Plain`): its containers do not lie too deep in each
other, its integers do not have too many digits, the names in its objects differ, and no string has
half of a surrogate pair. The characters that are escaped come back one by one
(`readSymbol_printedChar`), a number ends where no digit, point or exponent follows
(`Json.Ends`), and a container is read item by item, by an induction in which the fuel exceeds twice
the length of what is still to be read. No carriage return is printed, so the reading does not
depend on how line ends are unified before (`Json.not_mem_print`).
-/

namespace TexLog.Json

/-! ## Strings -/

/-- A printed text is its printed characters between quotes. -/
theorem printString_ofText (text : Text) :
    printString text = '"' :: text.flatMap printedChar ++ ['"'] := by
  simp only [printString, Str.ofText, List.flatMap_map]
  rfl

/-- A code below the blank is printed with four digits that are read as the code. -/
theorem fourHex?_hex : ∀ code < 0x20, (Text.hex 4 code).length = 4 ∧
    fourHex? (Text.hex 4 code) = some code := by
  decide

/-- A code below the blank is read as the code of one character. -/
theorem readCodeEscape_hex {code : Nat} (hcode : code < 0x20) {rest : Text} (hrest : rest ≠ []) :
    readCodeEscape (Text.hex 4 code ++ rest) = .ok (.char (Char.ofNat code), rest) := by
  obtain ⟨hlength, hread⟩ := fourHex?_hex code hcode
  have hhigh : isHighSurrogate code = false := by simp [isHighSurrogate]; omega
  have hsymbol : symbolOfCode code = .char (Char.ofNat code) := by
    rw [symbolOfCode, dif_neg]
    simp only [Symbol.firstHalf]
    omega
  have hmore : rest.isEmpty = false := by simpa using hrest
  simp only [readCodeEscape, List.take_left' hlength, List.drop_left' hlength, hmore, hread]
  simp [hsymbol, hhigh, pure, Except.pure]

/-- A printed character is read as it was. -/
theorem readSymbol_printedChar (start : Text) (c : Char) {rest : Text} (hrest : rest ≠ []) :
    readSymbol start (printedChar c ++ rest) = .ok (some (.char c), rest) := by
  unfold printedChar
  split
  · subst_vars; rfl
  split
  · subst_vars; rfl
  split
  · subst_vars; rfl
  split
  · subst_vars; rfl
  split
  · subst_vars; rfl
  split
  · subst_vars; rfl
  split
  · subst_vars; rfl
  split
  · next hcode =>
    show (readCodeEscape (Text.hex 4 c.toNat ++ rest) >>= fun read => .ok (some read.1, read.2)) = _
    rw [readCodeEscape_hex hcode hrest, Char.ofNat_toNat]
    rfl
  · next hcode =>
    rw [List.singleton_append, readSymbol.eq_def]
    split <;> simp_all [Nat.not_lt.2]

/-- A printed character takes some room. -/
theorem printedChar_ne_nil (c : Char) : printedChar c ≠ [] := by
  unfold printedChar
  repeat' split
  all_goals simp

/-- Printing makes no text shorter. -/
theorem length_le_length_printed (text : Text) :
    text.length ≤ (text.flatMap printedChar).length := by
  induction text with
  | nil => simp
  | cons c text ih =>
    have hc := List.length_pos_iff.2 (printedChar_ne_nil c)
    simp only [List.flatMap_cons, List.length_append, List.length_cons]
    omega

/-- A printed text is read up to the closing quote. -/
theorem readSymbols_printed (start : Text) (text rest : Text) {fuel : Nat}
    (hfuel : text.length < fuel) (read : Str) :
    readSymbols start fuel read (text.flatMap printedChar ++ '"' :: rest) =
      .ok (read.reverse ++ text, rest) := by
  induction text generalizing fuel read with
  | nil =>
    obtain ⟨fuel, rfl⟩ := Nat.exists_eq_add_of_lt hfuel
    simp [readSymbols, readSymbol, Str.ofText]
  | cons c text ih =>
    cases fuel with
    | zero => simp at hfuel
    | succ fuel =>
      rw [List.flatMap_cons, List.append_assoc, readSymbols,
        readSymbol_printedChar start c (by simp)]
      simp only
      rw [ih (by simpa using hfuel)]
      simp [Str.ofText]

/-- A printed string that is a text is read as this text, after its opening quote. -/
theorem readString_printed (text rest : Text) {fuel : Nat}
    (hfuel : (printString text).length ≤ fuel) :
    readString fuel (text.flatMap printedChar ++ '"' :: rest) = .ok (↑text, rest) := by
  have hlength := length_le_length_printed text
  have henough : text.length < fuel := by
    simp only [printString_ofText, List.length_cons, List.length_append] at hfuel
    omega
  exact readSymbols_printed _ text rest henough []

/-! ## Numbers -/

/-- What follows a number does not carry it on. -/
def Ends (rest : Text) : Prop :=
  ∀ c, rest.head? = some c → c.isDigit = false ∧ c ≠ '.' ∧ c ≠ 'e' ∧ c ≠ 'E'

/-- The digits of a number before which nothing stands are its whole part. -/
theorem wholePart_ofNat_append {n : Nat} {rest : Text}
    (hrest : ∀ c, rest.head? = some c → c.isDigit = false) :
    wholePart (Text.ofNat n ++ rest) = Text.ofNat n := by
  by_cases hn : n = 0
  · subst hn; rfl
  · have hhead := Text.head?_ofNat hn
    unfold wholePart
    split
    · next heq =>
      obtain ⟨c, digits, hdigits, -⟩ := Text.exists_ofNat_eq_cons n
      simp_all
    · exact Text.takeWhile_ofNat_append hrest

/-- Without a point there is no fraction. -/
theorem fractionPart_of_ne {rest : Text} (hrest : rest.head? ≠ some '.') :
    fractionPart rest = ([], rest) := by
  unfold fractionPart
  split
  · simp at hrest
  · rfl

/-- The sign of a written number is read apart from its digits. -/
theorem signPart_append (negative : Bool) (n : Nat) (rest : Text) :
    signPart (Text.sign negative ++ Text.ofNat n ++ rest) = (negative, Text.ofNat n ++ rest) := by
  cases negative with
  | true => rfl
  | false =>
    obtain ⟨c, digits, hdigits, hc⟩ := Text.exists_ofNat_eq_cons n
    rw [hdigits]
    show signPart (c :: (digits ++ rest)) = _
    unfold signPart
    split <;> simp_all

/-- A number is read by its sign and then by its digits. -/
theorem readNumber_sign (negative : Bool) (size : Nat) (after : Text) :
    readNumber (Text.sign negative ++ Text.ofNat size ++ after) =
      readUnsigned (Text.sign negative ++ Text.ofNat size ++ after) negative
        (Text.ofNat size ++ after) := by
  cases negative with
  | true => rfl
  | false =>
    obtain ⟨c, digits, hdigits, hc⟩ := Text.exists_ofNat_eq_cons size
    rw [hdigits]
    show readNumber (c :: (digits ++ after)) = _
    unfold readNumber
    split
    · simp_all
    · rfl

/-- The sign and the digits of a number are read up to their end. -/
theorem readNumber_append (negative : Bool) (size : Nat) {after : Text}
    (hafter : ∀ c, after.head? = some c → c.isDigit = false ∧ c ≠ '.') :
    readNumber (Text.sign negative ++ Text.ofNat size ++ after) =
      match exponentPart after with
      | (none, rest) =>
        if Text.maxDigits < (Text.ofNat size).length then
          .error (.tooManyDigits (Text.ofNat size).length)
        else .ok (.integer (signed negative size), rest)
      | (some power, rest) => .ok (.decimal ⟨negative, size, power⟩, rest) := by
  have hwhole : wholePart (Text.ofNat size ++ after) = Text.ofNat size :=
    wholePart_ofNat_append fun c hc => (hafter c hc).1
  have hfraction : fractionPart after = ([], after) :=
    fractionPart_of_ne fun hpoint => (hafter '.' hpoint).2 rfl
  rw [readNumber_sign, readUnsigned]
  simp only [hwhole, Text.ofNat_ne_nil, List.drop_left, hfraction]
  obtain ⟨power, rest⟩ := exponentPart after
  cases power with
  | none =>
    simp only [Text.numeral_ofNat, and_self, if_true, if_false]
    split <;> rfl
  | some power => simp [Text.numeral_ofNat, pure, Except.pure]

/-- An integer is its sign and its size. -/
theorem signed_natAbs (n : Int) : signed (n < 0) n.natAbs = n := by
  unfold signed
  split
  · next hneg =>
    have hlt : n < 0 := of_decide_eq_true hneg
    omega
  · next hneg =>
    have hle : ¬n < 0 := of_decide_eq_false (Bool.eq_false_iff.2 hneg)
    omega

/-- Where a number ends there is no exponent. -/
theorem exponentPart_of_ends {rest : Text} (hends : Ends rest) :
    exponentPart rest = (none, rest) := by
  cases rest with
  | nil => rfl
  | cons c rest =>
    obtain ⟨-, -, hsmall, hcapital⟩ := hends c rfl
    simp [exponentPart, hsmall, hcapital]

/-- A printed exponent is read as it was. -/
theorem exponentPart_ofInt (power : Int) {rest : Text} (hends : Ends rest) :
    exponentPart ('e' :: (Text.ofInt power ++ rest)) = (some power, rest) := by
  have hdigits := Text.takeWhile_ofNat_append (n := power.natAbs) fun c hc => (hends c hc).1
  have hsign := signPart_append (power < 0) power.natAbs rest
  rw [← Text.ofInt_eq] at hsign
  simp [exponentPart, hsign, hdigits, Text.ofNat_ne_nil, Text.numeral_ofNat, signed_natAbs]

/-- A printed integer is read as it was, if it does not have too many digits. -/
theorem readNumber_ofInt {n : Int} (hdigits : (Text.ofNat n.natAbs).length ≤ Text.maxDigits)
    {rest : Text} (hends : Ends rest) :
    readNumber (Text.ofInt n ++ rest) = .ok (.integer n, rest) := by
  rw [Text.ofInt_eq, readNumber_append (n < 0) n.natAbs
    fun c hc => ⟨(hends c hc).1, (hends c hc).2.1⟩, exponentPart_of_ends hends]
  simp only [if_neg (Nat.not_lt.2 hdigits), signed_natAbs]

/-- A printed decimal fraction is read as it was. -/
theorem readNumber_decimal (value : Decimal) {rest : Text} (hends : Ends rest) :
    readNumber (Text.sign value.negative ++ Text.ofNat value.digits ++
      'e' :: (Text.ofInt value.exponent ++ rest)) = .ok (.decimal value, rest) := by
  rw [readNumber_append value.negative value.digits (by rintro c ⟨⟩; decide),
    exponentPart_ofInt _ hends]

/-- No number begins as one of the names that stand for values. -/
theorem find?_constants_number (negative : Bool) (size : Nat) (after : Text) :
    (constants.find? fun (name, _) =>
      name.isPrefixOf (Text.sign negative ++ Text.ofNat size ++ after)) = none := by
  obtain ⟨c, digits, hdigits, hc⟩ := Text.exists_ofNat_eq_cons size
  have hne (letter : Char) (hletter : letter.isDigit = false) : letter ≠ c :=
    (Text.ne_of_isDigit hc hletter).symm
  cases negative <;> simp [constants, Text.sign, hdigits, hne]

/-- What begins neither a string nor a container is one of the names, or a number. -/
theorem readValue_of_head {fuel room : Nat} {c : Char} {text : Text}
    (hc : c ≠ '"' ∧ c ≠ '[' ∧ c ≠ '\x7b') :
    readValue (fuel + 1) room (c :: text) =
      match constants.find? fun (name, _) => name.isPrefixOf (c :: text) with
      | some (name, value) => .ok (value, (c :: text).drop name.length)
      | none => readNumber (c :: text) := by
  unfold readValue
  split
  · simp_all
  · simp_all
  · simp_all
  · simp_all
  · simp_all
  · rfl

/-- A number is read by the reader of numbers. -/
theorem readValue_number (fuel room : Nat) (negative : Bool) (size : Nat) (after : Text) :
    readValue (fuel + 1) room (Text.sign negative ++ Text.ofNat size ++ after) =
      readNumber (Text.sign negative ++ Text.ofNat size ++ after) := by
  have hno := find?_constants_number negative size after
  have hhead : ∃ c text, Text.sign negative ++ Text.ofNat size ++ after = c :: text ∧
      (c ≠ '"' ∧ c ≠ '[' ∧ c ≠ '\x7b') := by
    cases negative with
    | true => exact ⟨'-', _, rfl, by decide⟩
    | false =>
      obtain ⟨c, digits, hdigits, hc⟩ := Text.exists_ofNat_eq_cons size
      exact ⟨c, digits ++ after, by simp [Text.sign, hdigits], Text.ne_of_isDigit hc (by decide),
        Text.ne_of_isDigit hc (by decide), Text.ne_of_isDigit hc (by decide)⟩
  obtain ⟨c, text, htext, hc⟩ := hhead
  rw [htext] at hno ⊢
  rw [readValue_of_head hc, hno]

/-! ## What a value begins with -/

/-- Whether a text begins as a value can begin. -/
def opens : Text → Bool
  | [] => false
  | c :: _ => !isSpace c && c != ']' && c != '\ufeff'

/-- What begins as a value can begin goes on in any way. -/
theorem opens_append {text : Text} (hopens : opens text) (rest : Text) : opens (text ++ rest) := by
  cases text with
  | nil => cases hopens
  | cons c text => exact hopens

/-- There are no blanks in front of a value. -/
theorem skipSpace_of_opens {text : Text} (hopens : opens text) : skipSpace text = text := by
  cases text with
  | nil => rfl
  | cons c text =>
    have hc : isSpace c = false := by simp_all [opens]
    simp [skipSpace, hc]

/-- No value begins with the end of an array. -/
theorem not_opens_bracket (rest : Text) : ¬ opens (']' :: rest) := by
  simp [opens]

/-- A number begins as a value can begin. -/
theorem opens_ofNat (n : Nat) : opens (Text.ofNat n) := by
  obtain ⟨c, digits, hdigits, hc⟩ := Text.exists_ofNat_eq_cons n
  have hne (other : Char) (hother : other.isDigit = false) : c ≠ other :=
    Text.ne_of_isDigit hc hother
  simp [hdigits, opens, isSpace, hne]

/-- What is printed begins as a value can begin. -/
theorem opens_print (indent depth : Nat) (value : Json) : opens (print indent depth value) := by
  cases value with
  | null => rw [print]; rfl
  | bool value => cases value <;> (rw [print]; rfl)
  | integer n =>
    rw [print]
    cases n with
    | ofNat n => exact opens_ofNat n
    | negSucc n => rfl
  | decimal value =>
    obtain ⟨negative, digits, exponent⟩ := value
    rw [print]
    cases negative with
    | true => rfl
    | false => exact opens_append (opens_ofNat digits) _
  | infinite negative => cases negative <;> (rw [print]; rfl)
  | nan => rw [print]; rfl
  | string str => rw [print]; rfl
  | array items => cases items <;> (rw [print]; rfl)
  | object members => rcases members with _ | ⟨⟨_, _⟩, _⟩ <;> (rw [print]; rfl)

/-- The blanks that begin a line are left out. -/
theorem skipSpace_newLine (indent depth : Nat) (rest : Text) :
    skipSpace (newLine indent depth ++ rest) = skipSpace rest := by
  have hblank : ∀ c ∈ newLine indent depth, isSpace c = true := by
    intro c hc
    rcases List.mem_cons.1 hc with rfl | hc
    · rfl
    · obtain ⟨-, rfl⟩ := List.mem_replicate.1 hc
      rfl
  exact List.dropWhile_append_of_pos hblank

/-! ## Containers -/

/-- A value whose printed form is read as this value, wherever it stands. -/
def Reads (indent room : Nat) (value : Json) : Prop :=
  ∀ (depth fuel : Nat) (rest : Text), Ends rest → 2 * (print indent depth value).length ≤ fuel →
    readValue fuel room (print indent depth value ++ rest) = .ok (value, rest)

/-- A number ends at the end of its line. -/
theorem ends_newLine (indent depth : Nat) (rest : Text) : Ends (newLine indent depth ++ rest) := by
  rintro c ⟨⟩
  decide

/-- A number ends before a comma. -/
theorem ends_comma (rest : Text) : Ends (',' :: rest) := by
  rintro c ⟨⟩
  decide

section
variable {indent depth outer room fuel : Nat} {rest after more : Text}

/-- An item before a closing bracket is the last. -/
theorem readItems_last {item : Json} (hitem : Reads indent room item) (hends : Ends rest)
    (hfuel : 2 * (print indent depth item).length ≤ fuel) (hrest : skipSpace rest = ']' :: after) :
    readItems (fuel + 1) room (print indent depth item ++ rest) = .ok ([item], after) := by
  rw [readItems, hitem _ _ _ hends hfuel]
  simp only [bind, Except.bind, hrest]
  rfl

/-- After an item and a comma more items are read. -/
theorem readItems_more {item : Json} {items : List Json} (hitem : Reads indent room item)
    (hends : Ends rest) (hfuel : 2 * (print indent depth item).length ≤ fuel)
    (hrest : skipSpace rest = ',' :: more)
    (hmore : readItems fuel room (skipSpace more) = .ok (items, after)) :
    readItems (fuel + 1) room (print indent depth item ++ rest) = .ok (item :: items, after) := by
  rw [readItems, hitem _ _ _ hends hfuel]
  simp only [bind, Except.bind, hrest, hmore]
  rfl

/-- Printed items are read up to the end of their array. -/
theorem readItems_printItems {item : Json} {items : List Json}
    (hitems : ∀ item' ∈ item :: items, Reads indent room item')
    (hfuel : 2 * (print indent depth item ++ printItems indent depth items).length < fuel)
    (rest : Text) :
    readItems fuel room (print indent depth item ++ (printItems indent depth items ++
      (newLine indent outer ++ ']' :: rest))) = .ok (item :: items, rest) := by
  obtain ⟨fuel, rfl⟩ : ∃ more, fuel = more + 1 := Nat.exists_eq_add_one_of_ne_zero (by omega)
  induction items generalizing item fuel with
  | nil =>
    rw [printItems, List.append_nil] at hfuel
    rw [printItems, List.nil_append]
    exact readItems_last (hitems item (by simp)) (ends_newLine indent outer _) (by omega)
      (skipSpace_newLine indent outer _)
  | cons next items ih =>
    obtain ⟨hitem, hlater⟩ := List.forall_mem_cons.1 hitems
    simp only [printItems, List.cons_append, List.append_assoc, List.length_append,
      List.length_cons] at hfuel ⊢
    -- The comma after an item pays for the step from it to the next one.
    refine readItems_more hitem (ends_comma _) (by omega) rfl ?_
    rw [skipSpace_newLine, skipSpace_of_opens (opens_append (opens_print ..) _)]
    obtain ⟨less, rfl⟩ : ∃ less, fuel = less + 1 := Nat.exists_eq_add_one_of_ne_zero (by omega)
    exact ih hlater less (by simp only [List.length_append]; omega)

/-- A member with a new name becomes the last. -/
theorem setMember_of_fresh {name : Str} {value : Json} {members : List (Str × Json)}
    (hfresh : name ∉ members.map Prod.fst) :
    setMember name value members = members ++ [(name, value)] := by
  induction members with
  | nil => rfl
  | cons member members ih =>
    obtain ⟨other, old⟩ := member
    simp only [List.map_cons, List.mem_cons, not_or] at hfresh
    simp [setMember, Ne.symm hfresh.1, ih hfresh.2]

/-- A printed member is its name and its value with two characters between them. -/
theorem length_printMember (indent depth : Nat) (name : Str) (value : Json) :
    (printMember indent depth name value).length =
      (printString name).length + (print indent depth value).length + 2 := by
  simp only [printMember, List.length_append, List.length_cons]
  omega

/-- A printed member begins as a value can begin. -/
theorem opens_printMember (indent depth : Nat) (name : Str) (value : Json) :
    opens (printMember indent depth name value) := by
  rw [printMember]
  rfl

/-- A printed member is read up to what follows it. -/
theorem readMembers_printMember {name : Text} {value : Json} {read : List (Str × Json)} {c : Char}
    (hvalue : Reads indent room value) (hends : Ends rest)
    (hfuel : 2 * (printMember indent depth name value).length ≤ fuel)
    (hrest : skipSpace rest = c :: after) (hc : c = '\x7d' ∨ c = ',') :
    readMembers (fuel + 1) room read (printMember indent depth name value ++ rest) =
      if c = '\x7d' then .ok (setMember name value read, after)
      else readMembers fuel room (setMember name value read) (skipSpace after) := by
  rw [length_printMember] at hfuel
  have hname : (printString name).length ≤ fuel := by omega
  have hread := hvalue depth fuel rest hends (by omega)
  have hcolon (text : Text) : skipSpace (':' :: text) = ':' :: text := rfl
  have hblank (text : Text) : skipSpace (' ' :: text) = skipSpace text := rfl
  have hopens := skipSpace_of_opens (opens_append (opens_print indent depth value) rest)
  simp only [printMember, printString_ofText, List.cons_append, List.append_assoc, List.nil_append]
  rw [readMembers]
  simp only [bind, Except.bind, readString_printed _ _ hname, hcolon, hblank, hopens, hread, hrest]
  rcases hc with rfl | rfl <;> rfl

/-- If the names differ, the name of a member is none of those before it. -/
theorem not_mem_of_nodup {before members : List (Str × Json)} {name : Str} {value : Json}
    (hnames : ((before ++ (name, value) :: members).map Prod.fst).Nodup) :
    name ∉ before.map Prod.fst := by
  intro hname
  simp only [List.map_append, List.map_cons] at hnames
  exact (List.nodup_append.1 hnames).2.2 name hname name (by simp) rfl

/-- Printed members are read up to the end of their object, after members with other names. -/
theorem readMembers_printMembers (before : List (Str × Json)) {members : List (Str × Json)}
    {name : Str} {value : Json}
    (htexts : ∀ member ∈ (name, value) :: members, ∃ text : Text, member.1 = text)
    (hmembers : ∀ member ∈ (name, value) :: members, Reads indent room member.2)
    (hnames : ((before ++ (name, value) :: members).map Prod.fst).Nodup)
    (hfuel : 2 * (printMember indent depth name value ++ printMembers indent depth members).length <
      fuel) (rest : Text) :
    readMembers fuel room before (printMember indent depth name value ++
      (printMembers indent depth members ++ (newLine indent outer ++ '\x7d' :: rest))) =
      .ok (before ++ (name, value) :: members, rest) := by
  obtain ⟨fuel, rfl⟩ : ∃ less, fuel = less + 1 := Nat.exists_eq_add_one_of_ne_zero (by omega)
  induction members generalizing name value before fuel with
  | nil =>
    obtain ⟨text, rfl⟩ : ∃ text : Text, name = text := htexts (name, value) (by simp)
    have hvalue : Reads indent room value := hmembers (text, value) (by simp)
    rw [printMembers, List.append_nil] at hfuel
    rw [printMembers, List.nil_append, readMembers_printMember hvalue
      (ends_newLine indent outer _) (by omega) (skipSpace_newLine indent outer _) (.inl rfl),
      if_pos rfl, setMember_of_fresh (not_mem_of_nodup hnames)]
  | cons next members ih =>
    obtain ⟨nextName, nextValue⟩ := next
    obtain ⟨text, rfl⟩ : ∃ text : Text, name = text := htexts (name, value) (by simp)
    have hvalue : Reads indent room value := hmembers (text, value) (by simp)
    simp only [printMembers, List.cons_append, List.append_assoc, List.length_append,
      List.length_cons] at hfuel ⊢
    rw [readMembers_printMember hvalue (ends_comma _) (by omega) (skipSpace_of_opens rfl)
      (.inr rfl), if_neg (by decide), setMember_of_fresh (not_mem_of_nodup hnames),
      skipSpace_newLine,
      skipSpace_of_opens (opens_append (opens_printMember ..) _)]
    obtain ⟨less, rfl⟩ : ∃ less, fuel = less + 1 := Nat.exists_eq_add_one_of_ne_zero (by omega)
    have hnext := ih (before ++ [(Str.ofText text, value)])
      (fun member hmember => htexts member (.tail _ hmember))
      (fun member hmember => hmembers member (.tail _ hmember)) (by simpa using hnames) less
      (by simp only [List.length_append]; omega)
    simpa using hnext

end

/-- What is enough to read a value is enough for one step. -/
theorem exists_fuel {indent depth fuel : Nat} {value : Json}
    (hfuel : 2 * (print indent depth value).length ≤ fuel) : ∃ less, fuel = less + 1 := by
  have hopens := opens_print indent depth value
  cases hprinted : print indent depth value with
  | nil => simp [hprinted, opens] at hopens
  | cons c text =>
    rw [hprinted, List.length_cons] at hfuel
    exact Nat.exists_eq_add_one_of_ne_zero (by omega)

/-! ## Values -/

section
variable {indent room : Nat}

/-- A value with a name is read as it was printed. -/
theorem reads_constant (name : Text) {value : Json} (hmem : (name, value) ∈ constants) :
    Reads indent room value := by
  intro depth fuel rest hends hfuel
  obtain ⟨fuel, rfl⟩ := exists_fuel hfuel
  simp only [constants, List.mem_cons, List.not_mem_nil, or_false, Prod.mk.injEq] at hmem
  rcases hmem with ⟨-, rfl⟩ | ⟨-, rfl⟩ | ⟨-, rfl⟩ | ⟨-, rfl⟩ | ⟨-, rfl⟩ | ⟨-, rfl⟩ <;>
    (rw [print]; rfl)

/-- An integer is read as it was printed, if it does not have too many digits. -/
theorem reads_integer {n : Int} (hdigits : (Text.ofNat n.natAbs).length ≤ Text.maxDigits) :
    Reads indent room (.integer n) := by
  intro depth fuel rest hends hfuel
  obtain ⟨fuel, rfl⟩ := exists_fuel hfuel
  have hvalue := readValue_number fuel room (n < 0) n.natAbs rest
  rw [← Text.ofInt_eq] at hvalue
  rw [print, hvalue, readNumber_ofInt hdigits hends]

/-- A decimal fraction is read as it was printed. -/
theorem reads_decimal (value : Decimal) : Reads indent room (.decimal value) := by
  intro depth fuel rest hends hfuel
  obtain ⟨fuel, rfl⟩ := exists_fuel hfuel
  have hnumber := readNumber_decimal value hends
  rw [← readValue_number fuel room] at hnumber
  rw [print, List.append_assoc, List.cons_append]
  exact hnumber

/-- A string that is a text is read as it was printed. -/
theorem reads_string (text : Text) : Reads indent room (.string text) := by
  intro depth fuel rest hends hfuel
  obtain ⟨fuel, rfl⟩ := exists_fuel hfuel
  rw [print] at hfuel ⊢
  have henough : (printString text).length ≤ fuel := by omega
  simp only [printString_ofText, List.cons_append, List.append_assoc, List.nil_append]
  rw [readValue]
  simp only [bind, Except.bind, readString_printed text rest henough, pure, Except.pure]

/-- An array is read as it was printed, if its items are. -/
theorem reads_array {items : List Json} (hitems : ∀ item ∈ items, Reads indent room item) :
    Reads indent (room + 1) (.array items) := by
  intro depth fuel rest hends hfuel
  obtain ⟨fuel, rfl⟩ := exists_fuel hfuel
  cases items with
  | nil => rw [print]; rfl
  | cons item items =>
    rw [print] at hfuel ⊢
    simp only [List.cons_append, List.append_assoc, List.nil_append, List.length_cons,
      List.length_append] at hfuel ⊢
    have henough : 2 * (print indent (depth + 1) item ++
        printItems indent (depth + 1) items).length < fuel := by
      simp only [List.length_append]
      omega
    rw [readValue, skipSpace_newLine, skipSpace_of_opens (opens_append (opens_print ..) _)]
    split
    · next heq => exact absurd (opens_append (opens_print ..) _) (heq ▸ not_opens_bracket _)
    · simp only [bind, Except.bind, readItems_printItems hitems henough, pure, Except.pure]

/-- An object is read as it was printed, if its members are, which have different texts for their
names. -/
theorem reads_object {members : List (Str × Json)} (hnames : (members.map Prod.fst).Nodup)
    (htexts : ∀ member ∈ members, ∃ text : Text, member.1 = text)
    (hmembers : ∀ member ∈ members, Reads indent room member.2) :
    Reads indent (room + 1) (.object members) := by
  intro depth fuel rest hends hfuel
  obtain ⟨fuel, rfl⟩ := exists_fuel hfuel
  rcases members with _ | ⟨⟨name, value⟩, members⟩
  · rw [print]; rfl
  · rw [print] at hfuel ⊢
    simp only [List.cons_append, List.append_assoc, List.nil_append, List.length_cons,
      List.length_append] at hfuel ⊢
    have henough : 2 * (printMember indent (depth + 1) name value ++
        printMembers indent (depth + 1) members).length < fuel := by
      simp only [List.length_append]
      omega
    rw [readValue, skipSpace_newLine, skipSpace_of_opens (opens_append (opens_printMember ..) _)]
    split
    · next heq => simp [printMember, printString] at heq
    · simp [bind, Except.bind, readMembers_printMembers [] htexts hmembers hnames henough, pure,
        Except.pure]

end

/-- A value that a text can stand for, in which containers lie at most `room` deep in each other. -/
inductive Plain : (room : Nat) → Json → Prop
  | null {room : Nat} : Plain room null
  | bool {room : Nat} (value : Bool) : Plain room (bool value)
  | integer {room : Nat} {n : Int} (hdigits : (Text.ofNat n.natAbs).length ≤ Text.maxDigits) :
    Plain room (integer n)
  | decimal {room : Nat} (value : Decimal) : Plain room (decimal value)
  | infinite {room : Nat} (negative : Bool) : Plain room (infinite negative)
  | nan {room : Nat} : Plain room nan
  | string {room : Nat} (text : Text) : Plain room (string text)
  | array {room : Nat} {items : List Json} (hitems : ∀ item ∈ items, Plain room item) :
    Plain (room + 1) (array items)
  | object {room : Nat} {members : List (Str × Json)} (hnames : (members.map Prod.fst).Nodup)
    (htexts : ∀ member ∈ members, ∃ text : Text, member.1 = text)
    (hmembers : ∀ member ∈ members, Plain room member.2) : Plain (room + 1) (object members)

/-- **A printed value is read as this value.** -/
theorem reads_of_plain {room : Nat} {value : Json} (hplain : Plain room value) (indent : Nat) :
    Reads indent room value := by
  induction hplain with
  | null => exact reads_constant "null".toList (by simp [constants])
  | bool value =>
    cases value with
    | true => exact reads_constant "true".toList (by simp [constants])
    | false => exact reads_constant "false".toList (by simp [constants])
  | infinite negative =>
    cases negative with
    | true => exact reads_constant "-Infinity".toList (by simp [constants])
    | false => exact reads_constant "Infinity".toList (by simp [constants])
  | nan => exact reads_constant "NaN".toList (by simp [constants])
  | integer hdigits => exact reads_integer hdigits
  | decimal value => exact reads_decimal value
  | string text => exact reads_string text
  | array hitems ih => exact reads_array ih
  | object hnames htexts hmembers ih => exact reads_object hnames htexts ih

/-- **What is printed is read.** -/
theorem read_print [Runtime] {value : Json} (hplain : Plain Runtime.containerDepth value)
    (indent : Nat) :
    read (print indent 0 value) = .ok value := by
  have hopens := opens_print indent 0 value
  have hmark : (print indent 0 value).head? ≠ some '\ufeff' := by
    cases hprinted : print indent 0 value with
    | nil => simp
    | cons c text => simp_all [opens]
  -- Reading begins with fuel for twice the text and some more.
  have hread := reads_of_plain hplain indent 0 (2 * (print indent 0 value).length + 2) []
    (by simp [Ends]) (by omega)
  rw [List.append_nil] at hread
  rw [read, if_neg hmark, skipSpace_of_opens hopens]
  simp only [bind, Except.bind, hread, pure, Except.pure]
  rfl

/-! ## Line ends -/

/-- No carriage return stands in a printed code. -/
theorem not_mem_hex : ∀ code < 0x20, '\r' ∉ Text.hex 4 code := by decide

/-- No character is printed with a carriage return. -/
theorem not_mem_printedChar (c : Char) : '\r' ∉ printedChar c := by
  unfold printedChar
  repeat' split
  all_goals simp_all [not_mem_hex, eq_comm]

/-- No text is printed with a carriage return. -/
theorem not_mem_printString (text : Text) : '\r' ∉ printString text := by
  have hchars : '\r' ∉ text.flatMap printedChar := fun hmem => by
    obtain ⟨c, -, hc⟩ := List.mem_flatMap.1 hmem
    exact not_mem_printedChar c hc
  simp [printString_ofText, hchars]

/-- No integer is printed with a carriage return. -/
theorem not_mem_ofInt (n : Int) : '\r' ∉ Text.ofInt n := by
  have hdigits := Text.return_not_mem_ofNat n.natAbs
  rw [Text.ofInt_eq, Text.sign]
  split <;> simp [hdigits]

/-- The line ends that are printed are line feeds. -/
theorem not_mem_newLine (indent depth : Nat) : '\r' ∉ newLine indent depth := by
  simp [newLine]

/-- Items are printed without carriage returns if each of them is. -/
theorem not_mem_printItems {indent depth : Nat} {items : List Json}
    (hitems : ∀ item ∈ items, '\r' ∉ print indent depth item) :
    '\r' ∉ printItems indent depth items := by
  induction items with
  | nil => simp [printItems]
  | cons item items ih =>
    obtain ⟨hitem, hlater⟩ := List.forall_mem_cons.1 hitems
    simp [printItems, not_mem_newLine, hitem, ih hlater]

/-- A member is printed without a carriage return if its value is. -/
theorem not_mem_printMember {indent depth : Nat} {name : Str} {value : Json}
    (htext : ∃ text : Text, name = text) (hvalue : '\r' ∉ print indent depth value) :
    '\r' ∉ printMember indent depth name value := by
  obtain ⟨text, rfl⟩ := htext
  simp [printMember, not_mem_printString, hvalue]

/-- Members are printed without carriage returns if their values are. -/
theorem not_mem_printMembers {indent depth : Nat} {members : List (Str × Json)}
    (htexts : ∀ member ∈ members, ∃ text : Text, member.1 = text)
    (hmembers : ∀ member ∈ members, '\r' ∉ print indent depth member.2) :
    '\r' ∉ printMembers indent depth members := by
  induction members with
  | nil => simp [printMembers]
  | cons member members ih =>
    obtain ⟨name, value⟩ := member
    obtain ⟨htext, hlaterTexts⟩ := List.forall_mem_cons.1 htexts
    obtain ⟨hvalue, hlater⟩ := List.forall_mem_cons.1 hmembers
    simp [printMembers, not_mem_newLine, not_mem_printMember htext hvalue, ih hlaterTexts hlater]

/-- Nothing printed has a carriage return. -/
theorem not_mem_print {room : Nat} {value : Json} (hplain : Plain room value) (indent depth : Nat) :
    '\r' ∉ print indent depth value := by
  induction hplain generalizing depth with
  | null | nan => simp [print]
  | bool value => cases value <;> simp [print]
  | infinite negative => cases negative <;> simp [print]
  | integer hdigits => simpa [print] using not_mem_ofInt _
  | decimal value =>
    obtain ⟨negative, digits, exponent⟩ := value
    cases negative <;> simp [print, Text.return_not_mem_ofNat, not_mem_ofInt]
  | string text => simpa [print] using not_mem_printString text
  | @array room items hitems ih =>
    cases items with
    | nil => simp [print]
    | cons item items =>
      obtain ⟨hitem, hlater⟩ := List.forall_mem_cons.1 ih
      have hitems := not_mem_printItems fun item hmem => hlater item hmem (depth + 1)
      simp [print, not_mem_newLine, hitem, hitems]
  | @object room members hnames htexts hmembers ih =>
    rcases members with _ | ⟨⟨name, value⟩, members⟩
    · simp [print]
    · obtain ⟨htext, hlaterTexts⟩ := List.forall_mem_cons.1 htexts
      obtain ⟨hvalue, hlater⟩ := List.forall_mem_cons.1 ih
      have hmember : '\r' ∉ printMember indent (depth + 1) name value :=
        not_mem_printMember htext (hvalue (depth + 1))
      have hmembers := not_mem_printMembers hlaterTexts fun member hmem =>
        hlater member hmem (depth + 1)
      simp [print, not_mem_newLine, hmember, hmembers]

end TexLog.Json

/-! ## Reports -/

namespace TexLog

/-- A report as a value has objects and arrays up to three deep. -/
theorem Report.plain_toJson (report : Report) (room : Nat) :
    Json.Plain (room + 3) report.toJson := by
  have hdiagnostic : [Str.of "kind", Str.of "message"].Nodup := by decide
  have hreport : [Str.of "source", Str.of "diagnostics"].Nodup := by decide
  have hitems : ∀ item ∈ report.diagnostics.map Diagnostic.toJson, Json.Plain (room + 1) item := by
    intro item hitem
    obtain ⟨diagnostic, -, rfl⟩ := List.mem_map.1 hitem
    refine .object hdiagnostic ?_ ?_
    all_goals simp only [List.forall_mem_cons]
    · exact ⟨⟨_, rfl⟩, ⟨_, rfl⟩, by simp⟩
    · exact ⟨.string _, .string _, by simp⟩
  refine .object hreport ?_ ?_
  all_goals simp only [List.forall_mem_cons]
  · exact ⟨⟨_, rfl⟩, ⟨_, rfl⟩, by simp⟩
  · exact ⟨.string _, .array hitems, by simp⟩

/-- Different kinds have different names. -/
theorem Kind.name_injective : Function.Injective Kind.name := by
  intro kind other hname
  cases kind <;> cases other <;> first | rfl | exact absurd hname (by decide)

/-- Different diagnostics are different values. -/
theorem Diagnostic.toJson_injective : Function.Injective Diagnostic.toJson := by
  rintro ⟨kind, message⟩ ⟨kind', message'⟩ hsame
  simp only [Diagnostic.toJson, Json.object.injEq, List.cons.injEq, Prod.mk.injEq, true_and,
    Json.string.injEq, and_true] at hsame
  obtain rfl := Kind.name_injective (Str.ofText_injective hsame.1)
  obtain rfl := Str.ofText_injective hsame.2
  rfl

/-- Different reports are different values. -/
theorem Report.toJson_injective : Function.Injective Report.toJson := by
  rintro ⟨source, diagnostics⟩ ⟨source', diagnostics'⟩ hsame
  simp only [Report.toJson, Json.object.injEq, List.cons.injEq, Prod.mk.injEq, true_and,
    Json.string.injEq, Json.array.injEq, and_true] at hsame
  obtain rfl := Str.ofText_injective hsame.1
  obtain rfl := (List.map_inj_right fun _ _ h => Diagnostic.toJson_injective h).1 hsame.2
  rfl

/-- What settings are loaded from a file depends on the value that is read from its text. -/
theorem Settings.load_of_read [Runtime] {tree : Tree} {path : Path} {text : Text} {value : Json}
    (hread : tree.read path = .ok (Utf8.encode text))
    (hvalue : Json.read text.unifyLineEnds = .ok value) :
    load tree path = (ofJson value).mapError (.ofRefusal path) := by
  have hbytes : ofBytes path (Utf8.encode text) = (ofJson value).mapError (.ofRefusal path) := by
    rw [ofBytes, Utf8.decode?_encode]
    show ((Json.read text.unifyLineEnds).mapError (LoadError.ofReadError path) >>= fun value =>
      (ofJson value).mapError (LoadError.ofRefusal path)) = _
    rw [hvalue]
    rfl
  rw [load, Tree.pathExists_of_read hread, hread]
  exact hbytes

namespace Json

/-- **Printed values give the report back.** What stands in a file to which a report was written as
JSON is read as the value of the report, which no other report has; and the reader is the one by
which settings are loaded from the file, if it may be read. -/
theorem read_printed_report [Runtime] {report : Report} {output : Path} {before after : World}
    (h : (Export.writeReport report (.ok .json) output).run before = (.ok (), after)) :
    (after.files.text? output).map (fun text => read text.unifyLineEnds) =
        some (.ok report.toJson) ∧
      (∀ other : Report, other.toJson = report.toJson → other = report) ∧
      (after.files.read output ≠ .error (.refused .permissionDenied output) →
        Settings.load after.files output =
          (Settings.ofJson report.toJson).mapError (.ofRefusal output)) := by
  obtain ⟨room, hroom⟩ : ∃ room, Runtime.containerDepth = room + 3 :=
    Nat.exists_eq_add_of_le' (Nat.le_trans (by decide) Runtime.few_containers)
  have hplain := report.plain_toJson room
  rw [← hroom] at hplain
  have hunified := Text.unifyLineEnds_of_not_mem (not_mem_print hplain 2 0)
  have hread : read (report.write .json).unifyLineEnds = .ok report.toJson := by
    rw [Report.write, hunified, read_print hplain]
  refine ⟨?_, fun _ hsame => Report.toJson_injective hsame, fun hallowed => ?_⟩
  · rw [Export.text?_writeReport h, Option.map_some, hread]
  · exact Settings.load_of_read (Export.read_writeReport h hallowed) hread

/-- A source and messages with all that is escaped and with what looks like an escape. -/
theorem read_printed_report_special :
    letI := Runtime.standard
    let report : Report := ⟨"a\\b\".log".toList, [⟨.error, "\"\r\n\t\x00\x1f\"".toList⟩,
      ⟨.warning, "\\u0041é".toList⟩, ⟨.error, []⟩]⟩
    let output : Path := ⟨[], [Str.of "out.json"]⟩
    let written := (Export.writeReport report (.ok .json) output).run { files := {} }
    let diagnostic (kind message : String) : Json :=
      .object [(Str.of "kind", .string (Str.of kind)), (Str.of "message", .string (Str.of message))]
    let value : Json := .object [(Str.of "source", .string (Str.of "a\\b\".log")),
      (Str.of "diagnostics", .array [
        diagnostic "error" "\"\r\n\t\x00\x1f\"", diagnostic "warning" "\\u0041é",
        diagnostic "error" ""])]
    written.1 = .ok () ∧
      (written.2.files.text? output).map (fun text => read text.unifyLineEnds) =
        some (.ok value) ∧
      Settings.load written.2.files output =
        (Settings.ofJson value).mapError (.ofRefusal output) := by
  let _ := Runtime.standard
  intro report output written diagnostic value
  have hwritten : written = (.ok (), written.2) := rfl
  have hread : written.2.files.read output = .ok (Utf8.encode (report.write .json)) := rfl
  obtain ⟨hreads, -, hload⟩ := read_printed_report hwritten
  exact ⟨rfl, hreads, hload (by rw [hread]; exact nofun)⟩

end Json

end TexLog
