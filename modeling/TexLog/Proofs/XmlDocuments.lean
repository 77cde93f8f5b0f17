import Mathlib.Data.List.TakeWhile
import TexLog.Proofs.LineEnds
import TexLog.Proofs.Numerals
import TexLog.Xml.Reader

/-!
# Reading written XML

A document that `Xml.writeDocument` writes is accepted by `Xml.read` exactly if the texts in it have
only characters that documents may have, and then the element is read that was written, with the
line ends of its texts unified (`Xml.read_writeDocument`). Values of attributes come back as they
are, since in them line ends are escaped.

An escaped text holds no angle bracket, so it is read up to the next tag, and a written tag holds
none outside quotes. A written element therefore leaves the reader after the element, whatever was
read before it (`Xml.Reads`). This is shown by induction on the element (`Xml.Proper.reads`).
-/

namespace TexLog.Xml

/-! ## Characters -/

/-- A character of names is not one that names cannot have. -/
theorem ne_of_isNameChar {c other : Char} (hc : isNameChar c = true)
    (hother : isNameChar other = false) : c ≠ other := by
  rintro rfl
  simp [hother] at hc

/-- No white space stands in names. -/
theorem isSpace_of_isNameChar {c : Char} (hc : isNameChar c = true) : isSpace c = false := by
  have hblank : c ≠ ' ' := ne_of_isNameChar hc (by decide)
  have htab : c ≠ '\t' := ne_of_isNameChar hc (by decide)
  have hfeed : c ≠ '\n' := ne_of_isNameChar hc (by decide)
  have hreturn : c ≠ '\r' := ne_of_isNameChar hc (by decide)
  simp [isSpace, hblank, htab, hfeed, hreturn]

/-- Documents may have the characters of names. -/
theorem isChar_of_isNameChar {c : Char} (hc : isNameChar c = true) : isChar c = true := by
  have hranges : ∀ range ∈ nameStarts ++ nameOthers,
      0x20 ≤ range.1 ∧ (range.2 < 0xFFFE ∨ 0xFFFF < range.1) := by decide
  obtain ⟨range, hmem, hlow, hhigh⟩ : ∃ range ∈ nameStarts ++ nameOthers,
      range.1 ≤ c.toNat ∧ c.toNat ≤ range.2 := by
    rcases Bool.or_eq_true_iff.1 hc with hstart | hother
    · obtain ⟨range, hmem, hbounds⟩ := Ranges.exists_of_contains hstart
      exact ⟨range, List.mem_append_left _ hmem, hbounds⟩
    · obtain ⟨range, hmem, hbounds⟩ := Ranges.exists_of_contains hother
      exact ⟨range, List.mem_append_right _ hmem, hbounds⟩
  have hbounds := hranges range hmem
  have hlast (code : Nat) (hcode : code = 0xFFFE ∨ code = 0xFFFF) : c.toNat ≠ code := by omega
  have hle : ' ' ≤ c := show 0x20 ≤ c.toNat by omega
  have hne : c ≠ '\ufffe' ∧ c ≠ '\uffff' :=
    ⟨fun heq => hlast 0xFFFE (.inl rfl) (by rw [heq]; rfl),
      fun heq => hlast 0xFFFF (.inr rfl) (by rw [heq]; rfl)⟩
  simp [isChar, hle, hne]

/-- A name consists of characters of names. -/
theorem isNameChar_of_isName {name : Text} (hname : isName name = true) :
    ∀ c ∈ name, isNameChar c = true := by
  cases name with
  | nil => cases hname
  | cons c rest =>
    simp only [isName, Bool.and_eq_true, List.all_eq_true] at hname
    simp only [List.forall_mem_cons]
    exact ⟨by simp [isNameChar, hname.1], hname.2⟩

/-- Documents may have the characters of a name. -/
theorem all_isChar_of_isName {name : Text} (hname : isName name = true) :
    name.all isChar = true :=
  List.all_eq_true.2 fun c hc => isChar_of_isNameChar (isNameChar_of_isName hname c hc)

/-! ## Character data -/

/-- An escaped character of a text means this character. -/
theorem expand_escaped (c : Char) (rest : Text) :
    expand id none (escaped c ++ rest) = (expand id none rest).map (c :: ·) := by
  unfold escaped
  split
  · subst_vars; rfl
  split
  · subst_vars; rfl
  split
  · subst_vars; rfl
  · next hamp _ _ => simp [expand, hamp]

/-- An escaped character of a value means this character. -/
theorem expand_escapedInValue (c : Char) (rest : Text) :
    expand blanked none (escapedInValue c ++ rest) = (expand blanked none rest).map (c :: ·) := by
  unfold escapedInValue escaped
  split
  · subst_vars; rfl
  split
  · subst_vars; rfl
  split
  · subst_vars; rfl
  split
  · subst_vars; rfl
  split
  · subst_vars; rfl
  split
  · subst_vars; rfl
  split
  · subst_vars; rfl
  · next hreturn hfeed htab hamp _ _ =>
    have hsame : blanked c = c := by
      unfold blanked
      split
      · next hspace => simp_all [isSpace]
      · rfl
    simp [expand, hamp, hsame]

/-- An escaped value means this value. -/
theorem ofValue_escaped (value : Text) : ofValue (value.flatMap escapedInValue) = some value := by
  unfold ofValue
  induction value with
  | nil => rfl
  | cons c value ih => rw [List.flatMap_cons, expand_escapedInValue, ih]; rfl

/-- No section ends where no angle bracket closes. -/
theorem hasSectionEnd_of_not_mem {data : Text} (hdata : '>' ∉ data) :
    hasSectionEnd data = false := by
  induction data using hasSectionEnd.induct with
  | case1 rest => simp at hdata
  | case2 c rest hno ih =>
    rw [hasSectionEnd]
    · exact ih (by simp_all)
    · assumption
  | case3 => rfl

/-- What is written for character data ends no tag and begins none. -/
theorem not_mem_escaped {c : Char} (hc : c = '<' ∨ c = '>') (text : Text) :
    c ∉ text.flatMap escaped := by
  intro hmem
  obtain ⟨d, -, hd⟩ := List.mem_flatMap.1 hmem
  unfold escaped at hd
  split at hd
  · rcases hc with rfl | rfl <;> revert hd <;> decide
  split at hd
  · rcases hc with rfl | rfl <;> revert hd <;> decide
  split at hd
  · rcases hc with rfl | rfl <;> revert hd <;> decide
  · simp_all

/-- An escaped text means this text. -/
theorem ofData_escaped (text : Text) : ofData (text.flatMap escaped) = some text := by
  have hexpand : expand id none (text.flatMap escaped) = some text := by
    induction text with
    | nil => rfl
    | cons c text ih => rw [List.flatMap_cons, expand_escaped, ih]; rfl
  have hend := hasSectionEnd_of_not_mem (not_mem_escaped (.inr rfl) text)
  rw [ofData, hend, hexpand]
  rfl

/-- What is written for a value of an attribute ends neither the value nor the tag. -/
theorem ne_of_mem_escapedInValue {value : Text} {c : Char}
    (hc : c ∈ value.flatMap escapedInValue) : c ≠ '<' ∧ c ≠ '"' ∧ c ≠ '\r' := by
  obtain ⟨d, -, hd⟩ := List.mem_flatMap.1 hc
  unfold escapedInValue escaped at hd
  have hnamed : ∀ written ∈ ["&quot;", "&#13;", "&#10;", "&#09;", "&amp;", "&lt;", "&gt;"],
      (written.toList.all fun c => c ≠ '<' ∧ c ≠ '"' ∧ c ≠ '\r') = true := by decide
  simp only [List.forall_mem_cons, List.all_eq_true, decide_eq_true_eq] at hnamed
  obtain ⟨hquot, hreturn, hfeed, htab, hamp, hlt, hgt, -⟩ := hnamed
  split at hd
  · exact hquot c hd
  split at hd
  · exact hreturn c hd
  split at hd
  · exact hfeed c hd
  split at hd
  · exact htab c hd
  split at hd
  · exact hamp c hd
  split at hd
  · exact hlt c hd
  split at hd
  · exact hgt c hd
  · obtain rfl := List.mem_singleton.1 hd
    exact ⟨by assumption, by assumption, by assumption⟩

/-! ## Tags -/

variable {progress : Progress} {written rest : Text}

/-- A character that changes nothing about where in a document a reader is in a tag. -/
def Quiet (c : Char) : Prop := c ≠ '>' ∧ c ≠ '<' ∧ c ≠ '"' ∧ c ≠ '\''

instance : DecidablePred Quiet := fun _ => inferInstanceAs (Decidable (_ ∧ _))

/-- The characters of a name are quiet. -/
theorem quiet_of_isName {name : Text} (hname : isName name = true) : ∀ c ∈ name, Quiet c := by
  intro c hc
  have hchar := isNameChar_of_isName hname c hc
  exact ⟨ne_of_isNameChar hchar (by decide), ne_of_isNameChar hchar (by decide),
    ne_of_isNameChar hchar (by decide), ne_of_isNameChar hchar (by decide)⟩

/-- Quiet characters of a tag are gathered. -/
theorem readFrom_quiet {text : Text} (htext : ∀ c ∈ text, Quiet c) :
    readFrom progress .tag written (text ++ rest) =
      readFrom progress .tag (written ++ text) rest := by
  induction text generalizing written with
  | nil => simp
  | cons c text ih =>
    obtain ⟨⟨hclose, hopen, hdouble, hsingle⟩, hlater⟩ := List.forall_mem_cons.1 htext
    rw [List.cons_append, readFrom]
    simp [hclose, hopen, hdouble, hsingle, ih hlater]

/-- The rest of a value is gathered up to its closing quote. -/
theorem readFrom_value {value : Text} (hvalue : ∀ c ∈ value, c ≠ '<' ∧ c ≠ '"') :
    readFrom progress (.quoted '"') written (value ++ '"' :: rest) =
      readFrom progress .tag (written ++ value ++ ['"']) rest := by
  induction value generalizing written with
  | nil => simp [readFrom]
  | cons c value ih =>
    obtain ⟨hc, hlater⟩ := List.forall_mem_cons.1 hvalue
    rw [List.cons_append, readFrom]
    simp [hc, ih hlater]

/-- An attribute does not end the tag in which it stands. -/
theorem readFrom_writeAttribute {name value : Text} (hname : isName name = true) :
    readFrom progress .tag written (writeAttribute (name, value) ++ rest) =
      readFrom progress .tag (written ++ writeAttribute (name, value)) rest := by
  have hstart : ∀ c ∈ ' ' :: name ++ ['='], Quiet c := by
    intro c hc
    rcases List.mem_append.1 hc with hc | hc
    · rcases List.mem_cons.1 hc with rfl | hc
      · decide
      · exact quiet_of_isName hname c hc
    · obtain rfl := List.mem_singleton.1 hc
      decide
  have hvalue : ∀ c ∈ value.flatMap escapedInValue, c ≠ '<' ∧ c ≠ '"' := fun c hc =>
    ⟨(ne_of_mem_escapedInValue hc).1, (ne_of_mem_escapedInValue hc).2.1⟩
  have hsplit : ∀ more, writeAttribute (name, value) ++ more =
      (' ' :: name ++ ['=']) ++ '"' :: (value.flatMap escapedInValue ++ '"' :: more) := by
    intro more
    simp [writeAttribute]
  have hquote : ∀ written more, readFrom progress .tag written ('"' :: more) =
      readFrom progress (.quoted '"') (written ++ ['"']) more := fun written more => rfl
  rw [hsplit, readFrom_quiet hstart, hquote, readFrom_value hvalue]
  congr 1
  simp [writeAttribute]

/-- Written attributes are gathered, quotes and all. -/
theorem readFrom_writeAttributes {attributes : List (Text × Text)}
    (hnames : ∀ pair ∈ attributes, isName pair.1 = true) :
    readFrom progress .tag written (attributes.flatMap writeAttribute ++ rest) =
      readFrom progress .tag (written ++ attributes.flatMap writeAttribute) rest := by
  induction attributes generalizing written with
  | nil => simp
  | cons pair attributes ih =>
    obtain ⟨hname, hlater⟩ := List.forall_mem_cons.1 hnames
    rw [List.flatMap_cons, List.append_assoc, readFrom_writeAttribute hname, ih hlater,
      List.append_assoc]

/-! ## Attributes -/

/-- The name of an attribute is read up to the equals sign. -/
theorem readAttributes_name {name more : Text} (hmore : ∀ c ∈ more, isNameChar c = true) :
    readAttributes (.inName name) (more ++ '=' :: rest) =
      readAttributes (.beforeValue (name ++ more)) rest := by
  induction more generalizing name with
  | nil => simp [readAttributes]
  | cons c more ih =>
    obtain ⟨hc, hlater⟩ := List.forall_mem_cons.1 hmore
    have hequals : c ≠ '=' := ne_of_isNameChar hc (by decide)
    have hspace := isSpace_of_isNameChar hc
    rw [List.cons_append, readAttributes]
    simp [hequals, hspace, hc, ih hlater]

/-- The value of an attribute is read up to its closing quote. -/
theorem readAttributes_value {name value more : Text} (hmore : '"' ∉ more) :
    readAttributes (.inValue name '"' value) (more ++ '"' :: rest) = (do
      let value ← ofValue (value ++ more)
      let attributes ← readAttributes (.before false) rest
      return (name, value) :: attributes) := by
  induction more generalizing value with
  | nil => simp [readAttributes]
  | cons c more ih =>
    obtain ⟨hc, hlater⟩ := not_or.1 (mt List.mem_cons.2 hmore)
    rw [List.cons_append, readAttributes]
    simp [Ne.symm hc, ih hlater]

/-- A written attribute is read. -/
theorem readAttributes_writeAttribute {name value : Text} (hname : isName name = true)
    (spaced : Bool) :
    readAttributes (.before spaced) (writeAttribute (name, value) ++ rest) =
      (readAttributes (.before false) rest).map ((name, value) :: ·) := by
  have hquote : '"' ∉ value.flatMap escapedInValue := fun hmem =>
    (ne_of_mem_escapedInValue hmem).2.1 rfl
  cases name with
  | nil => cases hname
  | cons c more =>
    obtain ⟨hstart, hmore⟩ : isNameStart c = true ∧ ∀ c ∈ more, isNameChar c = true := by
      simpa [isName] using hname
    have hspace := isSpace_of_isNameChar (c := c) (by simp [isNameChar, hstart])
    have hsplit : writeAttribute (c :: more, value) ++ rest =
        ' ' :: c :: (more ++ '=' :: '"' :: (value.flatMap escapedInValue ++ '"' :: rest)) := by
      simp [writeAttribute]
    have hopening (tail : Text) : readAttributes (.beforeValue (c :: more)) ('"' :: tail) =
        readAttributes (.inValue (c :: more) '"' []) tail := rfl
    have hblank (tail : Text) : readAttributes (.before spaced) (' ' :: tail) =
        readAttributes (.before true) tail := rfl
    rw [hsplit, hblank, readAttributes, hspace, hstart]
    simp only [Bool.false_eq_true, if_false, Bool.and_self, if_true]
    rw [readAttributes_name hmore, List.singleton_append, hopening, readAttributes_value hquote,
      List.nil_append, ofValue_escaped]
    cases readAttributes (.before false) rest <;> rfl

/-- Nothing but white space has no attributes. -/
theorem readAttributes_space (spaced : Bool) {space : Text}
    (hspace : ∀ c ∈ space, isSpace c = true) :
    readAttributes (.before spaced) space = some [] := by
  induction space generalizing spaced with
  | nil => rfl
  | cons c space ih =>
    obtain ⟨hc, hlater⟩ := List.forall_mem_cons.1 hspace
    rw [readAttributes, if_pos hc, ih true hlater]

/-- Written attributes are read as they were. -/
theorem readAttributes_writeAttributes {attributes : List (Text × Text)}
    (hnames : ∀ pair ∈ attributes, isName pair.1 = true) (spaced : Bool) {space : Text}
    (hspace : ∀ c ∈ space, isSpace c = true) :
    readAttributes (.before spaced) (attributes.flatMap writeAttribute ++ space) =
      some attributes := by
  induction attributes generalizing spaced with
  | nil => exact readAttributes_space spaced hspace
  | cons pair attributes ih =>
    obtain ⟨hname, hlater⟩ := List.forall_mem_cons.1 hnames
    rw [List.flatMap_cons, List.append_assoc, readAttributes_writeAttribute hname,
      ih hlater false]
    rfl

/-- What is written at the start of a tag. -/
def writeStart (name : Text) (attributes : List (Text × Text)) : Text :=
  name ++ attributes.flatMap writeAttribute

/-- The names in a tag are names, and each attribute has another one. -/
structure ProperTag (name : Text) (attributes : List (Text × Text)) : Prop where
  isName : isName name = true
  isName_of_mem : ∀ pair ∈ attributes, Xml.isName pair.1 = true
  nodup : (attributes.map Prod.fst).Nodup

section
variable {name : Text} {attributes : List (Text × Text)}

/-- The name and the attributes of a tag are read as they were written. -/
theorem readNamed_writeStart (hproper : ProperTag name attributes) {space : Text}
    (hspace : ∀ c ∈ space, isSpace c = true) :
    readNamed (writeStart name attributes ++ space) = some (name, attributes) := by
  have hstop : ∀ c, (attributes.flatMap writeAttribute ++ space).head? = some c →
      isNameChar c = false := by
    intro c hc
    cases attributes with
    | nil =>
      have hblank := hspace c (List.mem_of_mem_head? hc)
      exact Bool.eq_false_iff.2 fun hname => by simp [isSpace_of_isNameChar hname] at hblank
    | cons pair attributes =>
      obtain rfl : ' ' = c := Option.some.inj hc
      decide
  have htake : (writeStart name attributes ++ space).takeWhile isNameChar = name := by
    rw [writeStart, List.append_assoc]
    exact Text.takeWhile_append_of_stop (isNameChar_of_isName hproper.isName) hstop
  rw [readNamed, htake]
  simp only [writeStart, List.append_assoc, List.drop_left,
    readAttributes_writeAttributes hproper.isName_of_mem false hspace]
  simp [hproper.isName, hproper.nodup]

/-- A start tag begins with the first letter of its name. -/
theorem head?_writeStart (hproper : ProperTag name attributes) (more : Text) {mark : Char}
    (hmark : isNameStart mark = false) :
    (writeStart name attributes ++ more).head? ≠ some mark := by
  have hname := hproper.isName
  cases name with
  | nil => cases hname
  | cons c rest =>
    intro hhead
    obtain rfl : c = mark := Option.some.inj hhead
    simp [Xml.isName, hmark] at hname

/-- A start tag does not end as an empty one does. -/
theorem getLast?_writeStart (hproper : ProperTag name attributes) :
    (writeStart name attributes).getLast? ≠ some '/' := by
  intro hlast
  rcases List.eq_nil_or_concat attributes with rfl | ⟨others, pair, rfl⟩
  · have hmem : '/' ∈ name := List.mem_of_getLast? (by simpa [writeStart] using hlast)
    exact absurd (isNameChar_of_isName hproper.isName _ hmem) (by decide)
  · have hquote : writeStart name (others.concat pair) = writeStart name others ++
        (' ' :: pair.1 ++ "=\"".toList ++ pair.2.flatMap escapedInValue) ++ ['"'] := by
      simp [writeStart, writeAttribute]
    rw [hquote, List.getLast?_concat] at hlast
    cases hlast

/-- A tag that is neither the end of an element nor a declaration is read by its last character. -/
theorem readTag_of_head (hslash : written.head? ≠ some '/') (hmark : written.head? ≠ some '?') :
    readTag written =
      if written.getLast? = some '/' then
        (readNamed written.dropLast).map fun (name, attributes) => .empty name attributes
      else (readNamed written).map fun (name, attributes) => .start name attributes := by
  unfold readTag
  split <;> simp_all

/-- A written start tag is read as one. -/
theorem readTag_start (hproper : ProperTag name attributes) :
    readTag (writeStart name attributes) = some (.start name attributes) := by
  have hread : readNamed (writeStart name attributes ++ []) = some (name, attributes) :=
    readNamed_writeStart hproper (by simp)
  have hhead (mark : Char) (hmark : isNameStart mark = false) :
      (writeStart name attributes ++ []).head? ≠ some mark := head?_writeStart hproper [] hmark
  simp only [List.append_nil] at hread hhead
  rw [readTag_of_head (hhead _ (by decide)) (hhead _ (by decide)),
    if_neg (getLast?_writeStart hproper), hread]
  rfl

/-- A written empty tag is read as one. -/
theorem readTag_empty (hproper : ProperTag name attributes) :
    readTag (writeStart name attributes ++ " /".toList) = some (.empty name attributes) := by
  have hread : readNamed (writeStart name attributes ++ [' ']) = some (name, attributes) :=
    readNamed_writeStart hproper (List.forall_mem_singleton.2 (by decide))
  have hdrop : (writeStart name attributes ++ " /".toList).dropLast =
      writeStart name attributes ++ [' '] := by
    simp
  rw [readTag_of_head (head?_writeStart hproper _ (by decide))
    (head?_writeStart hproper _ (by decide)), if_pos (by simp), hdrop, hread]
  rfl

/-- A written end tag is read as one. -/
theorem readTag_close (hname : isName name = true) :
    readTag ('/' :: name) = some (.close name) := by
  have htake : name.takeWhile isNameChar = name :=
    List.takeWhile_eq_self_iff.2 (isNameChar_of_isName hname)
  simp [readTag, htake, hname]

end

/-! ## Elements -/

/-- What is read of the text of an element. -/
def textPart (text : Text) : List Node := if text = [] then [] else [.text text]

mutual

/-- What is read of a written element whose texts have no carriage returns. -/
def toNode : Xml → Node
  | element name attributes text children =>
    .element name attributes (textPart text ++ toNodes children)

/-- What is read of written elements, one after another. -/
def toNodes : List Xml → List Node
  | [] => []
  | child :: children => child.toNode :: toNodes children

end

/-- An element in which all names are names and attributes have different ones. -/
inductive Proper : Xml → Prop
  | element {name : Text} {attributes : List (Text × Text)} (htag : ProperTag name attributes)
      (text : Text) {children : List Xml} (hchildren : ∀ child ∈ children, Proper child) :
      Proper (.element name attributes text children)

/-- An element whose written form is read as this element, wherever it may stand. -/
def Reads (root : Xml) : Prop :=
  ∀ {progress : Progress} {outer : List Opened} {rest : Text}, progress.opened? = some outer →
    readFrom progress .data [] (root.write ++ rest) =
      readFrom (.afterElement root.toNode outer) .data [] rest

/-- Character data is gathered up to the next tag. -/
theorem readFrom_data {data : Text} (hdata : '<' ∉ data) :
    readFrom progress .data written (data ++ rest) =
      readFrom progress .data (written ++ data) rest := by
  induction data generalizing written with
  | nil => simp
  | cons c data ih =>
    obtain ⟨hc, hlater⟩ := not_or.1 (mt List.mem_cons.2 hdata)
    rw [List.cons_append, readFrom, if_neg (Ne.symm hc), ih hlater]
    simp

/-- A tag is taken apart at its closing bracket. -/
theorem readFrom_tag {tag : Tag} {next : Progress} (htag : readTag written = some tag)
    (hnext : progress.addTag tag = some next) :
    readFrom progress .tag written ('>' :: rest) = readFrom next .data [] rest := by
  simp [readFrom, htag, hnext]

@[simp] theorem addData_nil (progress : Progress) : progress.addData [] = some progress := by
  cases progress <;> rfl

/-- Where no character data has been read, a tag begins. -/
theorem readFrom_opening (progress : Progress) (rest : Text) :
    readFrom progress .data [] ('<' :: rest) = readFrom progress .tag [] rest := by
  simp [readFrom]

section
variable {opened : Opened} {outer : List Opened} {name : Text}
  {attributes : List (Text × Text)}

/-- The text of an element is read up to the next tag. -/
theorem readFrom_text (text more : Text) :
    readFrom (.within opened outer) .data [] (text.flatMap escaped ++ '<' :: more) =
      readFrom (.within (opened.addText text) outer) .data [] ('<' :: more) := by
  rw [readFrom_data (not_mem_escaped (.inl rfl) text), readFrom_opening, readFrom]
  simp [Progress.addData, ofData_escaped]

/-- A written start tag is gathered up to its closing bracket. -/
theorem readFrom_writeStart (hproper : ProperTag name attributes) :
    readFrom progress .tag [] (writeStart name attributes ++ rest) =
      readFrom progress .tag (writeStart name attributes) rest := by
  rw [writeStart, List.append_assoc, readFrom_quiet (quiet_of_isName hproper.isName),
    readFrom_writeAttributes hproper.isName_of_mem, List.nil_append]

/-- At a written start tag an element begins. -/
theorem readFrom_start (hproper : ProperTag name attributes)
    (hopened : progress.opened? = some outer) :
    readFrom progress .data [] ('<' :: writeStart name attributes ++ '>' :: rest) =
      readFrom (.within { name, attributes } outer) .data [] rest := by
  rw [List.cons_append, readFrom_opening, readFrom_writeStart hproper]
  exact readFrom_tag (readTag_start hproper) (by simp [Progress.addTag, hopened])

/-- At a written empty tag an element begins and ends. -/
theorem readFrom_empty (hproper : ProperTag name attributes)
    (hopened : progress.opened? = some outer) :
    readFrom progress .data [] ('<' :: writeStart name attributes ++ " />".toList ++ rest) =
      readFrom (.afterElement (.element name attributes []) outer) .data [] rest := by
  have hsplit : '<' :: writeStart name attributes ++ " />".toList ++ rest =
      '<' :: (writeStart name attributes ++ (" /".toList ++ '>' :: rest)) := by simp
  rw [hsplit, readFrom_opening, readFrom_writeStart hproper, readFrom_quiet (by simp [Quiet])]
  exact readFrom_tag (readTag_empty hproper) (by simp [Progress.addTag, hopened])

/-- At a written end tag the innermost element ends. -/
theorem readFrom_close (hname : isName opened.name = true) :
    readFrom (.within opened outer) .data [] ("</".toList ++ opened.name ++ '>' :: rest) =
      readFrom (.afterElement opened.toNode outer) .data [] rest := by
  have hsplit : "</".toList ++ opened.name ++ '>' :: rest =
      '<' :: (['/'] ++ (opened.name ++ '>' :: rest)) := by simp
  rw [hsplit, readFrom_opening, readFrom_quiet (by simp [Quiet]),
    readFrom_quiet (quiet_of_isName hname)]
  exact readFrom_tag (readTag_close hname) (by simp [Progress.addTag])

/-- Written elements are read as the next parts of the element in which they stand. -/
theorem readFrom_writeAll {children : List Xml} (hchildren : ∀ child ∈ children, Reads child) :
    readFrom (.within opened outer) .data [] (writeAll children ++ rest) =
      readFrom (.within { opened with content := opened.content ++ toNodes children } outer) .data
        [] rest := by
  induction children generalizing opened with
  | nil => simp [writeAll, toNodes]
  | cons child children ih =>
    obtain ⟨hchild, hlater⟩ := List.forall_mem_cons.1 hchildren
    rw [writeAll, List.append_assoc, hchild rfl, Progress.afterElement, ih hlater]
    simp [Opened.add, toNodes]

end

/-- A written element begins with an angle bracket. -/
theorem exists_write_eq_cons (root : Xml) : ∃ tail, root.write = '<' :: tail := by
  obtain ⟨name, attributes, text, children⟩ := root
  rw [write]
  split <;> exact ⟨_, rfl⟩

/-- Written elements and what comes after them begin with an angle bracket. -/
theorem exists_writeAll_eq_cons (children : List Xml) (more : Text) :
    ∃ tail, writeAll children ++ '<' :: more = '<' :: tail := by
  cases children with
  | nil => exact ⟨more, rfl⟩
  | cons child children =>
    obtain ⟨tail, htail⟩ := exists_write_eq_cons child
    rw [writeAll, htail]
    exact ⟨_, rfl⟩

/-- **A written element is read as this element.** -/
theorem Proper.reads {root : Xml} (hproper : root.Proper) : root.Reads := by
  induction hproper with
  | @element name attributes htag text children hchildren ih =>
  intro progress outer rest hopened
  rw [write]
  split
  · next hnothing =>
    obtain ⟨rfl, rfl⟩ : text = [] ∧ children = [] := by simpa using hnothing
    exact readFrom_empty htag hopened
  -- Whether children follow or the closing tag does, the text goes on to an angle bracket.
  · obtain ⟨tail, htail⟩ := exists_writeAll_eq_cons children ('/' :: (name ++ '>' :: rest))
    let opened : Opened := { name, attributes, content := textPart text }
    have htext : Opened.addText { name, attributes } text = opened := by
      by_cases hempty : text = [] <;>
        simp [opened, Opened.addText, Opened.add, textPart, hempty]
    calc readFrom progress .data [] _
      _ = readFrom progress .data [] ('<' :: writeStart name attributes ++ '>' ::
            (text.flatMap escaped ++
              (writeAll children ++ '<' :: '/' :: (name ++ '>' :: rest)))) := by
          simp [writeStart]
      _ = readFrom (.within opened outer) .data []
            (writeAll children ++ ("</".toList ++ name ++ '>' :: rest)) := by
          rw [readFrom_start htag hopened, htail, readFrom_text, ← htail, htext]
          rfl
      _ = readFrom (.afterElement (.element name attributes (textPart text ++ toNodes children))
            outer) .data [] rest := by
          let whole : Opened := { opened with content := textPart text ++ toNodes children }
          rw [readFrom_writeAll ih]
          exact @readFrom_close rest whole outer htag.isName

/-! ## Line ends -/

mutual

/-- An element with the line ends of its texts unified. -/
def unified : Xml → Xml
  | element name attributes text children =>
    .element name attributes text.unifyLineEnds (unifiedAll children)

/-- Elements with the line ends of their texts unified. -/
def unifiedAll : List Xml → List Xml
  | [] => []
  | child :: children => child.unified :: unifiedAll children

end

/-- It makes no difference whether characters are escaped before line ends are unified. -/
theorem unifyAfter_escaped (previous : Option Char) (text : Text) :
    Text.unifyAfter previous (text.flatMap escaped) =
      (Text.unifyAfter previous text).flatMap escaped := by
  induction text generalizing previous with
  | nil => rfl
  | cons c text ih =>
    rw [List.flatMap_cons, Text.unifyAfter_cons, List.flatMap_append]
    by_cases hmarkup : c ∈ ['&', '<', '>']
    -- What is written for markup begins with no line feed, so it parts the line ends around it.
    · obtain ⟨hreturn, hhead, hne, hfeed⟩ : '\r' ∉ escaped c ∧ (escaped c).head? = some '&' ∧
          c ≠ '\r' ∧ c ≠ '\n' := by
        simp only [List.mem_cons, List.not_mem_nil, or_false] at hmarkup
        rcases hmarkup with rfl | rfl | rfl <;> decide
      have hbegin : (escaped c ++ text.flatMap escaped).head? ≠ some '\n' := by
        simp [List.head?_append, hhead]
      have hchar : Text.unifiedChar previous c = [c] := by simp [Text.unifiedChar, hne, hfeed]
      rw [Text.unifyAfter_of_head hbegin, Text.unifyLineEnds_append_of_not_mem hreturn, hchar,
        Text.unifyAfter_of_ne (by simpa using hne), Text.unifyLineEnds, ih, Text.unifyLineEnds]
      simp
    · have hsame : escaped c = [c] := by simp_all [escaped]
      have hchar : (Text.unifiedChar previous c).flatMap escaped = Text.unifiedChar previous c := by
        unfold Text.unifiedChar
        split
        · rfl
        · split
          · rfl
          · simp [hsame]
      rw [hsame, List.singleton_append, Text.unifyAfter_cons, ih, hchar]

/-- Unifying line ends leaves something of every text that is not empty. -/
theorem isEmpty_unifyLineEnds (text : Text) : text.unifyLineEnds.isEmpty = text.isEmpty := by
  cases text with
  | nil => rfl
  | cons c text =>
    rw [Text.unifyLineEnds, Text.unifyAfter_cons, Text.unifiedChar]
    split
    · rfl
    · simp

/-- Unifying line ends leaves all elements there. -/
theorem isEmpty_unifiedAll (children : List Xml) :
    (unifiedAll children).isEmpty = children.isEmpty := by
  cases children <;> simp [unifiedAll]

/-- The start of a tag has no carriage return, as those in values of attributes are escaped. -/
theorem not_mem_writeStart {name : Text} {attributes : List (Text × Text)}
    (hproper : ProperTag name attributes) : '\r' ∉ writeStart name attributes := by
  have hno : ∀ name, isName name = true → '\r' ∉ name := fun name hname hmem =>
    absurd (isNameChar_of_isName hname _ hmem) (by decide)
  have hattribute : ∀ pair ∈ attributes, '\r' ∉ writeAttribute pair := by
    rintro ⟨other, value⟩ hpair
    have hvalue : '\r' ∉ value.flatMap escapedInValue := fun hmem =>
      (ne_of_mem_escapedInValue hmem).2.2 rfl
    simp [writeAttribute, hno _ (hproper.isName_of_mem _ hpair), hvalue]
  intro hmem
  rcases List.mem_append.1 hmem with hmem | hmem
  · exact hno _ hproper.isName hmem
  · obtain ⟨pair, hpair, hmem⟩ := List.mem_flatMap.1 hmem
    exact hattribute pair hpair hmem

/-- An element whose line ends are unified where its texts are. -/
def Unifies (root : Xml) : Prop :=
  ∀ rest, (root.write ++ rest).unifyLineEnds = root.unified.write ++ rest.unifyLineEnds

/-- Unifying the line ends of written elements unifies those of each. -/
theorem unifyLineEnds_writeAll {children : List Xml}
    (hchildren : ∀ child ∈ children, Unifies child) (rest : Text) :
    (writeAll children ++ rest).unifyLineEnds =
      writeAll (unifiedAll children) ++ rest.unifyLineEnds := by
  induction children with
  | nil => simp [writeAll, unifiedAll]
  | cons child children ih =>
    obtain ⟨hchild, hlater⟩ := List.forall_mem_cons.1 hchildren
    rw [writeAll, List.append_assoc, hchild, ih hlater, unifiedAll, writeAll, List.append_assoc]

/-- Unifying the line ends of a written element is writing it with unified line ends. -/
theorem Proper.unifies {root : Xml} (hproper : root.Proper) : root.Unifies := by
  induction hproper with
  | @element name attributes htag text children hchildren ih =>
  intro rest
  have hstart := not_mem_writeStart htag
  have hname : '\r' ∉ name := fun hmem => hstart (List.mem_append_left _ hmem)
  rw [unified, write, write, isEmpty_unifyLineEnds, isEmpty_unifiedAll]
  split
  · have hwhole : '\r' ∉ '<' :: name ++ attributes.flatMap writeAttribute ++ " />".toList := by
      simpa [writeStart] using hstart
    exact Text.unifyLineEnds_append_of_not_mem hwhole rest
  · have hopening : '\r' ∉ '<' :: writeStart name attributes ++ ['>'] := by simpa using hstart
    have hclosing : '\r' ∉ "</".toList ++ name ++ ['>'] := by simpa using hname
    have hmarkup : (writeAll children ++ ("</".toList ++ name ++ ['>'] ++ rest)).head? ≠
        some '\n' := by
      obtain ⟨tail, htail⟩ := exists_writeAll_eq_cons children ('/' :: name ++ ['>'] ++ rest)
      have hsame : "</".toList ++ name ++ ['>'] ++ rest =
          '<' :: ('/' :: name ++ ['>'] ++ rest) := rfl
      rw [hsame, htail]
      simp
    calc Text.unifyLineEnds _
      _ = Text.unifyLineEnds ('<' :: writeStart name attributes ++ ['>'] ++
            (text.flatMap escaped ++
              (writeAll children ++ ("</".toList ++ name ++ ['>'] ++ rest)))) := by
          simp [writeStart]
      _ = '<' :: writeStart name attributes ++ ['>'] ++ (text.unifyLineEnds.flatMap escaped ++
            (writeAll (unifiedAll children) ++ ("</".toList ++ name ++ ['>'] ++
              rest.unifyLineEnds))) := by
          rw [Text.unifyLineEnds_append_of_not_mem hopening, Text.unifyLineEnds,
            Text.unifyAfter_append_of_head none _ hmarkup, unifyAfter_escaped,
            unifyLineEnds_writeAll ih, Text.unifyLineEnds_append_of_not_mem hclosing]
          rfl
      _ = _ := by simp [writeStart]

/-! ## Documents -/

mutual

/-- The texts in an element: values of attributes and character data. -/
def contents : Xml → List Text
  | element _ attributes text children => attributes.map Prod.snd ++ text :: contentsAll children

/-- The texts in elements. -/
def contentsAll : List Xml → List Text
  | [] => []
  | child :: children => child.contents ++ contentsAll children

end

/-- Escaping a character of a text lets documents have neither more nor fewer characters. -/
theorem all_isChar_escaped (c : Char) : (escaped c).all isChar = isChar c := by
  unfold escaped
  split
  · subst_vars; decide
  split
  · subst_vars; decide
  split
  · subst_vars; decide
  · simp

/-- Escaping a character of a value lets documents have it, or leaves it as it is. -/
theorem all_isChar_escapedInValue (c : Char) : (escapedInValue c).all isChar = isChar c := by
  unfold escapedInValue
  split
  · subst_vars; decide
  split
  · subst_vars; decide
  split
  · subst_vars; decide
  split
  · subst_vars; decide
  · exact all_isChar_escaped c

/-- Documents may have the characters of a start tag if they may have those of its values. -/
theorem all_isChar_writeStart {name : Text} {attributes : List (Text × Text)}
    (hproper : ProperTag name attributes) :
    (writeStart name attributes).all isChar = (attributes.map Prod.snd).all (·.all isChar) := by
  have hnames := hproper.isName_of_mem
  rw [writeStart, List.all_append, all_isChar_of_isName hproper.isName, Bool.true_and]
  clear hproper
  induction attributes with
  | nil => rfl
  | cons pair attributes ih =>
    obtain ⟨hname, hlater⟩ := List.forall_mem_cons.1 hnames
    have hmarks : isChar ' ' = true ∧ isChar '=' = true ∧ isChar '"' = true := by decide
    simp [writeAttribute, all_isChar_of_isName hname, hmarks, ih hlater, List.all_flatMap,
      all_isChar_escapedInValue]

/-- Documents may have the characters of written elements if they may have those of what is in them.
-/
theorem all_isChar_writeAll {children : List Xml}
    (hchildren : ∀ child ∈ children, child.write.all isChar = child.contents.all (·.all isChar)) :
    (writeAll children).all isChar = (contentsAll children).all (·.all isChar) := by
  induction children with
  | nil => rfl
  | cons child children ih =>
    obtain ⟨hchild, hlater⟩ := List.forall_mem_cons.1 hchildren
    rw [writeAll, List.all_append, hchild, ih hlater, contentsAll, List.all_append]

/-- A written element has the characters that its texts have. -/
theorem Proper.all_isChar_write {root : Xml} (hproper : root.Proper) :
    root.write.all isChar = root.contents.all (·.all isChar) := by
  induction hproper with
  | @element name attributes htag text children hchildren ih =>
  have hstart := all_isChar_writeStart htag
  have hname := all_isChar_of_isName htag.isName
  have hmarks : isChar '<' = true ∧ isChar '/' = true ∧ isChar '>' = true ∧ isChar ' ' = true := by
    decide
  rw [contents, write]
  split
  · next hnothing =>
    obtain ⟨rfl, rfl⟩ : text = [] ∧ children = [] := by simpa using hnothing
    show ('<' :: writeStart name attributes ++ " />".toList).all isChar = _
    rw [List.all_append, List.all_cons, hstart]
    simp [hmarks, contentsAll]
  · have hall := all_isChar_writeAll ih
    have htext : (text.flatMap escaped).all isChar = text.all isChar := by
      simp [List.all_flatMap, all_isChar_escaped]
    show ('<' :: writeStart name attributes ++ '>' :: text.flatMap escaped ++ writeAll children ++
      "</".toList ++ name ++ ['>']).all isChar = _
    simp only [List.all_append, List.all_cons, hstart, htext, hall, hname, hmarks]
    simp [hmarks, Bool.and_assoc]

/-- The line ends of elements are unified one by one. -/
theorem unifiedAll_eq_map (children : List Xml) : unifiedAll children = children.map unified := by
  induction children with
  | nil => rfl
  | cons child children ih => rw [unifiedAll, ih, List.map_cons]

/-- Unifying line ends keeps an element proper. -/
theorem Proper.unified {root : Xml} (hproper : root.Proper) : root.unified.Proper := by
  induction hproper with
  | @element name attributes htag text children hchildren ih =>
  rw [Xml.unified, unifiedAll_eq_map]
  refine .element htag _ fun child hchild => ?_
  obtain ⟨other, hother, rfl⟩ := List.mem_map.1 hchild
  exact ih other hother

/-- The declaration is read, and the line feed after it is kept. -/
theorem readFrom_declaration (rest : Text) :
    readFrom .start .data [] (declaration ++ rest) = readFrom .prolog .data ['\n'] rest := by
  let written := "?xml version='1.0' encoding='utf-8'?".toList
  have htag : readTag written = some (.declaration
      [("version".toList, "1.0".toList), ("encoding".toList, "utf-8".toList)]) := by rfl
  have hread : readFrom .start .tag [] (written ++ '>' :: '\n' :: rest) =
      readFrom .start .tag written ('>' :: '\n' :: rest) := by rfl
  have hsplit : declaration ++ rest = '<' :: (written ++ '>' :: '\n' :: rest) := by rfl
  rw [hsplit, readFrom_opening, hread, readFrom_tag htag rfl, readFrom]
  rfl

/-- **What is written is read**, with the line ends of texts unified, if the texts have only
characters that documents may have; else nothing is read. -/
theorem read_writeDocument {root : Xml} (hproper : root.Proper) :
    read root.writeDocument =
      if root.contents.all (·.all isChar) then some root.unified.toNode else none := by
  have hchars : root.writeDocument.all isChar = root.contents.all (·.all isChar) := by
    rw [writeDocument, List.all_append, hproper.all_isChar_write]
    rfl
  have hunified : root.writeDocument.unifyLineEnds = declaration ++ root.unified.write := by
    have hwrite := hproper.unifies []
    rw [List.append_nil] at hwrite
    rw [writeDocument, Text.unifyLineEnds_append_of_not_mem (by decide), hwrite]
    exact congrArg _ (List.append_nil _)
  have hread : readFrom .start .data [] (declaration ++ root.unified.write) =
      some (.epilog root.unified.toNode) := by
    obtain ⟨tail, htail⟩ := exists_write_eq_cons root.unified
    have hroot := @Proper.reads _ hproper.unified .prolog [] [] rfl
    rw [List.append_nil, htail, readFrom_opening] at hroot
    rw [htail, readFrom_declaration, readFrom]
    exact hroot
  rw [read, hchars, hunified, hread]

end TexLog.Xml
