import Mathlib.Algebra.Group.Nat.Defs
import TexLog.Text.Utf8

/-!
# The text of bytes

Bytes are taken one at a time, and what has been read of a character is kept until the character is
complete or cannot be completed. What comes out is described without this machine: `Decodes` takes
characters off the front of the bytes, and where no character stands it takes the longest sequence
with which a character could begin, or one byte if there is none. Bytes have exactly one text in
this sense, which is the one that `decode` gives (`decodes_iff`).

Strict decoding, which refuses ill-formed parts, takes the encoding of every text and nothing else
(`decode?_eq_ok_iff`): no piece of an encoding is ill-formed (`pieces_encode`), and bytes are the
encodings of their pieces where none of these is ill-formed (`Cuts.eq_encode`).
-/

namespace TexLog.Utf8

/-! ## Encodings of characters -/

/-- The last bytes of an encoding, each with six bits of the code. -/
def continuation : (count code : Nat) → Bytes
  | 0, _ => []
  | count + 1, code => UInt8.ofNat (0x80 + code / 64 ^ count % 64) :: continuation count code

/-- How many bytes follow the first one in the encoding of a code. -/
def continuationLength (code : Nat) : Nat :=
  if code < 0x80 then 0 else if code < 0x800 then 1 else if code < 0x10000 then 2 else 3

/-- The value of the first byte in the encoding of a code. -/
def leadValue (code : Nat) : Nat :=
  if code < 0x80 then code
  else if code < 0x800 then 0xC0 + code / 64
  else if code < 0x10000 then 0xE0 + code / 4096
  else 0xF0 + code / 262144

/-- The code of a character lies below the first number that is none. -/
theorem toNat_lt (c : Char) : c.toNat < 0x110000 := by
  have hvalid := c.valid
  simp only [UInt32.isValidChar, Nat.isValidChar, Char.toNat_val] at hvalid
  omega

/-- The character of a code has this code. -/
theorem toNat_ofNat {code : Nat} (hvalid : code.isValidChar) : (Char.ofNat code).toNat = code := by
  rw [Char.ofNat, dif_pos hvalid]
  rfl

/-- An encoding has one byte for a code of up to seven bits, two for one of up to eleven, three for
one of up to sixteen, and four for the others. -/
theorem leadValue_cases (code : Nat) :
    (code < 0x80 ∧ leadValue code = code ∧ continuationLength code = 0) ∨
    (0x80 ≤ code ∧ code < 0x800 ∧ leadValue code = 0xC0 + code / 64 ∧
      continuationLength code = 1) ∨
    (0x800 ≤ code ∧ code < 0x10000 ∧ leadValue code = 0xE0 + code / 4096 ∧
      continuationLength code = 2) ∨
    (0x10000 ≤ code ∧ leadValue code = 0xF0 + code / 262144 ∧ continuationLength code = 3) := by
  unfold leadValue continuationLength
  split
  · exact .inl ⟨‹_›, rfl, rfl⟩
  split
  · exact .inr (.inl ⟨by omega, ‹_›, rfl, rfl⟩)
  split
  · exact .inr (.inr (.inl ⟨by omega, ‹_›, rfl, rfl⟩))
  · exact .inr (.inr (.inr ⟨by omega, rfl, rfl⟩))

/-- A character is encoded as its lead byte and its continuation bytes. -/
theorem utf8EncodeChar_eq (c : Char) :
    String.utf8EncodeChar c = UInt8.ofNat (leadValue c.toNat) ::
      continuation (continuationLength c.toNat) c.toNat := by
  have hlt := toNat_lt c
  unfold String.utf8EncodeChar
  simp only [Char.toNat_val]
  generalize c.toNat = code at hlt
  obtain ⟨h, hlead, hlength⟩ | ⟨h, h', hlead, hlength⟩ | ⟨h, h', hlead, hlength⟩ |
    ⟨h, hlead, hlength⟩ := leadValue_cases code
  · rw [hlead, hlength, if_pos (by omega)]
    rfl
  · have hmod : code / 64 % 32 = code / 64 := Nat.mod_eq_of_lt (by omega)
    rw [hlead, hlength, if_neg (by omega), if_pos (by omega), hmod]
    simp [continuation, Nat.add_comm]
  · have hmod : code / 4096 % 16 = code / 4096 := Nat.mod_eq_of_lt (by omega)
    rw [hlead, hlength, if_neg (by omega), if_neg (by omega), if_pos (by omega), hmod]
    simp [continuation, Nat.add_comm]
  · have hmod : code / 262144 % 8 = code / 262144 := Nat.mod_eq_of_lt (by omega)
    rw [hlead, hlength, if_neg (by omega), if_neg (by omega), if_neg (by omega), hmod]
    simp [continuation, Nat.add_comm]

/-- It can be told where an encoding ends. -/
theorem utf8EncodeChar_append_inj {c d : Char} {rest rest' : Bytes}
    (h : String.utf8EncodeChar c ++ rest = String.utf8EncodeChar d ++ rest') :
    c = d ∧ rest = rest' := by
  have hdecoded := congrArg (fun bytes : Bytes => bytes.toByteArray.utf8DecodeChar? 0) h
  simp only [List.toByteArray_append, ByteArray.utf8DecodeChar?_utf8EncodeChar_append] at hdecoded
  obtain rfl := Option.some.inj hdecoded
  exact ⟨rfl, List.append_cancel_left h⟩

/-! ## The text that bytes stand for -/

/-- Bytes with which the encoding of a character begins. -/
def Begins (bytes : Bytes) : Prop := ∃ c, bytes <+: String.utf8EncodeChar c

/-- A maximal ill-formed part of bytes, with what comes after it: no character stands there, and the
part is the longest with which a character could begin, or one byte if there is none. -/
structure MaximalPart (part rest : Bytes) : Prop where
  ne_nil : part ≠ []
  noChar : ∀ c, ¬ String.utf8EncodeChar c <+: part ++ rest
  begins : part.length = 1 ∨ Begins part
  longest : ∀ longer, longer <+: part ++ rest → Begins longer → longer.length ≤ part.length

/-- The text that bytes stand for, with a replacement character for each maximal ill-formed part. -/
inductive Decodes : Bytes → Text → Prop
  | nil : Decodes [] []
  | char {rest : Bytes} {text : Text} (c : Char) (hrest : Decodes rest text) :
      Decodes (String.utf8EncodeChar c ++ rest) (c :: text)
  | illFormed {part rest : Bytes} {text : Text} (hpart : MaximalPart part rest)
      (hrest : Decodes rest text) : Decodes (part ++ rest) ('\ufffd' :: text)

/-- Bytes cut into pieces: a character where one stands, and elsewhere a maximal ill-formed part. -/
inductive Cuts : Bytes → List Piece → Prop
  | nil : Cuts [] []
  | char {rest : Bytes} {pieces : List Piece} (c : Char) (hrest : Cuts rest pieces) :
      Cuts (String.utf8EncodeChar c ++ rest) (.char c :: pieces)
  | illFormed {part rest : Bytes} {pieces : List Piece} (flaw : Flaw)
      (hpart : MaximalPart part rest) (hrest : Cuts rest pieces) :
      Cuts (part ++ rest) (.illFormed part flaw :: pieces)

/-- Bytes stand for the text of their pieces. -/
theorem Cuts.decodes {bytes : Bytes} {pieces : List Piece} (h : Cuts bytes pieces) :
    Decodes bytes (pieces.map Piece.toChar) := by
  induction h with
  | nil => exact .nil
  | char c hrest ih => exact .char c ih
  | illFormed flaw hpart hrest ih => exact .illFormed hpart ih

/-- What can begin a character can do so if less of it is there. -/
theorem Begins.mono {bytes longer : Bytes} (h : Begins longer) (hstands : bytes <+: longer) :
    Begins bytes := by
  obtain ⟨c, hc⟩ := h
  exact ⟨c, hstands.trans hc⟩

/-- An ill-formed part is maximal if no character has ended in it and none goes on after it. -/
theorem MaximalPart.of_not_begins {part rest : Bytes} (hne : part ≠ [])
    (hbegins : part.length = 1 ∨ Begins part) (hopen : ∀ c, ¬ String.utf8EncodeChar c <+: part)
    (hnext : ∀ byte, rest.head? = some byte → ¬ Begins (part ++ [byte])) :
    MaximalPart part rest := by
  have hlongest : ∀ longer, longer <+: part ++ rest → Begins longer →
      longer.length ≤ part.length := by
    intro longer hstands hlonger
    refine Nat.le_of_not_lt fun hlt => ?_
    cases rest with
    | nil => exact Nat.not_lt.2 hstands.length_le (by simpa using hlt)
    | cons byte rest =>
      -- a longer part goes on with the next byte
      refine hnext byte rfl (hlonger.mono ?_)
      refine List.prefix_of_prefix_length_le ?_ hstands (by simpa [Nat.succ_le_iff] using hlt)
      exact (List.prefix_append_right_inj part).2 (by simp)
  refine ⟨hne, fun c hc => hopen c ?_, hbegins, hlongest⟩
  exact List.prefix_of_prefix_length_le hc (List.prefix_append ..)
    (hlongest _ hc ⟨c, List.prefix_rfl⟩)

/-- A byte with which no character begins is a maximal ill-formed part. -/
theorem MaximalPart.singleton {byte : UInt8} {rest : Bytes} (hbyte : ¬ Begins [byte]) :
    MaximalPart [byte] rest := by
  refine .of_not_begins (by simp) (.inl rfl) (fun c hc => ?_)
    fun next _ hbegins => hbyte (hbegins.mono (List.prefix_append ..))
  rcases List.prefix_cons_iff.1 hc with hnil | ⟨more, hmore, hnil⟩
  · exact absurd hnil (by simp [utf8EncodeChar_eq])
  · rw [List.prefix_nil.1 hnil] at hmore
    exact hbyte ⟨c, hmore ▸ List.prefix_rfl⟩

/-- A part is maximal in one way only. -/
theorem MaximalPart.length_le {part rest part' rest' : Bytes} (h : MaximalPart part rest)
    (h' : MaximalPart part' rest') (hsame : part ++ rest = part' ++ rest') :
    part.length ≤ part'.length := by
  rcases h.begins with hone | hbegins
  · rw [hone]
    exact List.length_pos_iff.2 h'.ne_nil
  · exact h'.longest part (hsame ▸ List.prefix_append ..) hbegins

/-- Bytes stand for one text. -/
theorem Decodes.unique {bytes : Bytes} {text : Text} (h : Decodes bytes text) :
    ∀ {bytes' : Bytes} {text' : Text}, Decodes bytes' text' → bytes = bytes' → text = text' := by
  induction h with
  | nil =>
    intro bytes' text' h' hsame
    cases h' with
    | nil => rfl
    | char c => exact absurd hsame.symm (by simp [utf8EncodeChar_eq])
    | illFormed hpart => exact absurd hsame.symm (by simp [hpart.ne_nil])
  | @char rest text c hrest ih =>
    intro bytes' text' h' hsame
    cases h' with
    | nil => exact absurd hsame (by simp [utf8EncodeChar_eq])
    | char d hrest' =>
      obtain ⟨rfl, hrests⟩ := utf8EncodeChar_append_inj hsame
      rw [ih hrest' hrests]
    | illFormed hpart => exact absurd (hsame ▸ List.prefix_append ..) (hpart.noChar c)
  | @illFormed part rest text hpart hrest ih =>
    intro bytes' text' h' hsame
    cases h' with
    | nil => exact absurd hsame (by simp [hpart.ne_nil])
    | char d => exact absurd (hsame ▸ List.prefix_append ..) (hpart.noChar d)
    | illFormed hpart' hrest' =>
      have hlength := Nat.le_antisymm (hpart.length_le hpart' hsame)
        (hpart'.length_le hpart hsame.symm)
      rw [ih hrest' (List.append_inj hsame hlength).2]

/-- An encoding stands for the text that was encoded. -/
theorem decodes_encode (text : Text) : Decodes (encode text) text := by
  induction text with
  | nil => exact .nil
  | cons c rest ih => exact .char c ih

/-! ## Characters that are not finished -/

namespace Begun

/-- A code that could be that of a character of which some bytes have been read. -/
structure Fits (begun : Begun) (code : Nat) : Prop where
  bits : code / 64 ^ (begun.after + 1) = begun.code
  least : begun.least.toNat ≤ 0x80 + code / 64 ^ begun.after % 64
  greatest : 0x80 + code / 64 ^ begun.after % 64 ≤ begun.greatest.toNat

/-- What is known about a character of which some bytes have been read: the codes that it could have
are those of the characters with which these bytes begin. -/
structure Reads (begun : Begun) : Prop where
  ne_nil : begun.bytes ≠ []
  least : 0x80 ≤ begun.least.toNat
  greatest : begun.greatest.toNat ≤ 0xBF
  least_le : begun.least ≤ begun.greatest
  char : ∀ code, begun.Fits code → ∃ c : Char, c.toNat = code ∧
    String.utf8EncodeChar c = begun.bytes ++ continuation (begun.after + 1) code
  fits : ∀ c, begun.bytes <+: String.utf8EncodeChar c → begun.Fits c.toNat

namespace Reads
variable {begun : Begun} {byte : UInt8} {code : Nat}

/-- There is a character with which one can go on. -/
theorem exists_char (h : begun.Reads) :
    ∃ c code, String.utf8EncodeChar c = begun.bytes ++ continuation (begun.after + 1) code := by
  have hleast := h.least
  have hgreatest := h.greatest
  have hle := UInt8.le_iff_toNat_le.1 h.least_le
  have hpos : 0 < 64 ^ begun.after := Nat.pow_pos (by decide)
  -- the code in which the least byte comes next and then only zeros
  have hnext : ((64 * begun.code + (begun.least.toNat - 0x80)) * 64 ^ begun.after) /
      64 ^ begun.after = 64 * begun.code + (begun.least.toNat - 0x80) :=
    Nat.mul_div_cancel _ hpos
  obtain ⟨c, -, hc⟩ := h.char ((64 * begun.code + (begun.least.toNat - 0x80)) * 64 ^ begun.after) <|
    ⟨by rw [Nat.pow_succ, ← Nat.div_div_eq_div_mul, hnext]; omega,
      by rw [hnext]; omega, by rw [hnext]; omega⟩
  exact ⟨c, _, hc⟩

/-- No character has ended. -/
theorem not_ended (h : begun.Reads) (c : Char) : ¬ String.utf8EncodeChar c <+: begun.bytes := by
  rintro ⟨more, hmore⟩
  obtain ⟨d, code, hd⟩ := h.exists_char
  rw [← hmore, List.append_assoc, ← List.append_nil (String.utf8EncodeChar d)] at hd
  exact absurd (utf8EncodeChar_append_inj hd).2.symm (by simp [continuation])

/-- The byte with which a character goes on. -/
theorem byte_of_begins (h : begun.Reads) {c : Char}
    (hc : begun.bytes ++ [byte] <+: String.utf8EncodeChar c) :
    begun.Fits c.toNat ∧ byte.toNat = 0x80 + c.toNat / 64 ^ begun.after % 64 := by
  have hfits := h.fits c ((List.prefix_append ..).trans hc)
  obtain ⟨d, hcode, hd⟩ := h.char _ hfits
  rw [← Char.toNat_inj.1 hcode, hd, List.prefix_append_right_inj, continuation,
    List.cons_prefix_cons] at hc
  refine ⟨hfits, ?_⟩
  rw [hc.1, UInt8.toNat_ofNat_of_lt' (by simp only [UInt8.size]; omega)]

/-- A byte that goes on with the character lies between the bounds. -/
theorem mem_of_begins (h : begun.Reads) (hbegins : Begins (begun.bytes ++ [byte])) :
    begun.least ≤ byte ∧ byte ≤ begun.greatest := by
  obtain ⟨c, hc⟩ := hbegins
  obtain ⟨hfits, hbyte⟩ := h.byte_of_begins hc
  exact ⟨UInt8.le_iff_toNat_le.2 (hbyte ▸ hfits.least),
    UInt8.le_iff_toNat_le.2 (hbyte ▸ hfits.greatest)⟩

/-- What has been read is a maximal ill-formed part if no byte goes on with the character. -/
theorem maximalPart (h : begun.Reads) {rest : Bytes}
    (hnext : ∀ byte, rest.head? = some byte → ¬ (begun.least ≤ byte ∧ byte ≤ begun.greatest)) :
    MaximalPart begun.bytes rest := by
  obtain ⟨c, code, hc⟩ := h.exists_char
  exact .of_not_begins h.ne_nil (.inr ⟨c, hc ▸ List.prefix_append ..⟩) h.not_ended
    fun byte hbyte hbegins => hnext byte hbyte (h.mem_of_begins hbegins)

/-- The characters with which one can go on after a byte between the bounds. -/
theorem char_of_mem (h : begun.Reads) (hmem : begun.least ≤ byte ∧ byte ≤ begun.greatest)
    (hcode : code / 64 ^ begun.after = 64 * begun.code + byte.toNat % 64) :
    ∃ c : Char, c.toNat = code ∧
      String.utf8EncodeChar c = begun.bytes ++ [byte] ++ continuation begun.after code := by
  rw [UInt8.le_iff_toNat_le, UInt8.le_iff_toNat_le] at hmem
  have hlow := h.least
  have hhigh := h.greatest
  have hbyte : 0x80 + code / 64 ^ begun.after % 64 = byte.toNat := by omega
  obtain ⟨c, hc, hencode⟩ := h.char code
    ⟨by rw [Nat.pow_succ, ← Nat.div_div_eq_div_mul]; omega, by omega, by omega⟩
  refine ⟨c, hc, ?_⟩
  rw [hencode, continuation, hbyte, UInt8.ofNat_toNat, List.append_assoc, List.singleton_append]

/-- The last byte of a character. -/
theorem encode_of_mem (h : begun.Reads) (hmem : begun.least ≤ byte ∧ byte ≤ begun.greatest)
    (hafter : begun.after = 0) :
    String.utf8EncodeChar (Char.ofNat (64 * begun.code + byte.toNat % 64)) =
      begun.bytes ++ [byte] := by
  obtain ⟨c, hc, hencode⟩ := h.char_of_mem hmem (by rw [hafter, Nat.pow_zero, Nat.div_one])
  rw [← hc, Char.ofNat_toNat, hencode, hafter, continuation, List.append_nil]

/-- A byte between the bounds that is not the last of its character. -/
theorem next_of_mem (h : begun.Reads) (hmem : begun.least ≤ byte ∧ byte ≤ begun.greatest)
    {after : Nat} (hafter : begun.after = after + 1) :
    Reads { bytes := begun.bytes ++ [byte], code := 64 * begun.code + byte.toNat % 64, after } where
  ne_nil := by simp
  least := show 0x80 ≤ (0x80 : UInt8).toNat by decide
  greatest := show (0xBF : UInt8).toNat ≤ 0xBF by decide
  least_le := show (0x80 : UInt8) ≤ 0xBF by decide
  char code hfits := hafter ▸ h.char_of_mem hmem (hafter ▸ hfits.bits)
  fits c hc := by
    obtain ⟨hfits, hbyte⟩ := h.byte_of_begins hc
    have hbits := hfits.bits
    rw [Nat.pow_succ, ← Nat.div_div_eq_div_mul, hafter] at hbits
    rw [hafter] at hbyte
    refine ⟨?_, Nat.le_add_right .., ?_⟩
    · show c.toNat / 64 ^ (after + 1) = 64 * begun.code + byte.toNat % 64
      omega
    · show 0x80 + c.toNat / 64 ^ after % 64 ≤ 0xBF
      omega

end Reads
end Begun

/-! ## First bytes -/

/-- A byte begins the encoding of a character just if it is its lead byte. -/
theorem singleton_prefix_iff {byte : UInt8} {c : Char} :
    [byte] <+: String.utf8EncodeChar c ↔ leadValue c.toNat = byte.toNat := by
  have hlt : leadValue c.toNat < UInt8.size := by
    have hcode := toNat_lt c
    have hcases := leadValue_cases c.toNat
    unfold UInt8.size
    omega
  rw [utf8EncodeChar_eq, List.cons_prefix_cons, ← UInt8.toNat_inj, UInt8.toNat_ofNat_of_lt' hlt]
  simp [eq_comm]

/-- What is known about a character after its first byte. -/
theorem reads_begin {byte least greatest : UInt8} {bits after : Nat}
    (hleast : 0x80 ≤ least.toNat) (hgreatest : greatest.toNat ≤ 0xBF)
    (hle : least.toNat ≤ greatest.toNat)
    (hchar : ∀ code, Begun.Fits ⟨[byte], bits, after, least, greatest⟩ code →
      code.isValidChar ∧ leadValue code = byte.toNat ∧ continuationLength code = after + 1)
    (hfits : ∀ code, code.isValidChar → leadValue code = byte.toNat →
      Begun.Fits ⟨[byte], bits, after, least, greatest⟩ code) :
    Begun.Reads ⟨[byte], bits, after, least, greatest⟩ where
  ne_nil := by simp
  least := hleast
  greatest := hgreatest
  least_le := UInt8.le_iff_toNat_le.2 hle
  char code hcode := by
    obtain ⟨hvalid, hlead, hlength⟩ := hchar code hcode
    refine ⟨Char.ofNat code, toNat_ofNat hvalid, ?_⟩
    rw [utf8EncodeChar_eq, toNat_ofNat hvalid, hlead, hlength, UInt8.ofNat_toNat]
    rfl
  fits c hc := hfits c.toNat c.valid (singleton_prefix_iff.1 hc)

/-- What a byte can be where a character starts. -/
inductive Starts (byte : UInt8) : Step → Prop
  | char {c : Char} (hc : String.utf8EncodeChar c = [byte]) : Starts byte ([.char c], none)
  | illFormed (hbyte : ¬ Begins [byte]) : Starts byte ([.illFormed [byte] .start], none)
  | begun {begun : Begun} (hreads : begun.Reads) (hbytes : begun.bytes = [byte]) :
      Starts byte ([], some begun)

/-- A bound that is another one after a single first byte. -/
theorem toNat_bound (byte special restricted usual : UInt8) :
    (byte.toNat = special.toNat ∧
      (if byte = special then restricted else usual).toNat = restricted.toNat) ∨
    (byte.toNat ≠ special.toNat ∧
      (if byte = special then restricted else usual).toNat = usual.toNat) := by
  by_cases h : byte = special <;> simp [h, UInt8.toNat_inj]

/-- What is known after the first of two bytes. -/
theorem reads_two {byte : UInt8} (hlow : 0xC2 ≤ byte.toNat) (hhigh : byte.toNat < 0xE0) :
    Begun.Reads ⟨[byte], byte.toNat % 0x20, 0, 0x80, 0xBF⟩ := by
  refine reads_begin (by decide) (by decide) (by decide) ?_ ?_
  · rintro code ⟨hbits, -, -⟩
    have hcases := leadValue_cases code
    simp only [Nat.isValidChar, Nat.reduceAdd, Nat.pow_one] at hbits ⊢
    omega
  · intro code hvalid hvalue
    have hcases := leadValue_cases code
    refine ⟨?_, ?_, ?_⟩ <;> simp <;> omega

/-- What is known after the first of three bytes. -/
theorem reads_three {byte least greatest : UInt8} (hlow : 0xE0 ≤ byte.toNat)
    (hhigh : byte.toNat < 0xF0)
    (hleast : byte.toNat = 0xE0 ∧ least.toNat = 0xA0 ∨ byte.toNat ≠ 0xE0 ∧ least.toNat = 0x80)
    (hgreatest : byte.toNat = 0xED ∧ greatest.toNat = 0x9F ∨
      byte.toNat ≠ 0xED ∧ greatest.toNat = 0xBF) :
    Begun.Reads ⟨[byte], byte.toNat % 0x10, 1, least, greatest⟩ := by
  refine reads_begin (by omega) (by omega) (by omega) ?_ ?_
  · rintro code ⟨hbits, hcodelow, hcodehigh⟩
    have hcases := leadValue_cases code
    simp only [Nat.isValidChar, Nat.reduceAdd, Nat.pow_one, Nat.reducePow]
      at hbits hcodelow hcodehigh ⊢
    omega
  · intro code hvalid hvalue
    have hcases := leadValue_cases code
    simp only [Nat.isValidChar] at hvalid
    refine ⟨?_, ?_, ?_⟩ <;> simp <;> omega

/-- What is known after the first of four bytes. -/
theorem reads_four {byte least greatest : UInt8} (hlow : 0xF0 ≤ byte.toNat)
    (hhigh : byte.toNat < 0xF5)
    (hleast : byte.toNat = 0xF0 ∧ least.toNat = 0x90 ∨ byte.toNat ≠ 0xF0 ∧ least.toNat = 0x80)
    (hgreatest : byte.toNat = 0xF4 ∧ greatest.toNat = 0x8F ∨
      byte.toNat ≠ 0xF4 ∧ greatest.toNat = 0xBF) :
    Begun.Reads ⟨[byte], byte.toNat % 0x8, 2, least, greatest⟩ := by
  refine reads_begin (by omega) (by omega) (by omega) ?_ ?_
  · rintro code ⟨hbits, hcodelow, hcodehigh⟩
    have hcases := leadValue_cases code
    simp only [Nat.isValidChar, Nat.reduceAdd, Nat.reducePow] at hbits hcodelow hcodehigh ⊢
    omega
  · intro code hvalid hvalue
    have hcases := leadValue_cases code
    simp only [Nat.isValidChar] at hvalid
    refine ⟨?_, ?_, ?_⟩ <;> simp <;> omega

/-- What is known after a first byte is right. -/
theorem starts_first (byte : UInt8) : Starts byte (first byte) := by
  have hbounds := toNat_bound byte
  unfold first begin
  simp only [UInt8.lt_iff_toNat_lt, UInt8.reduceToNat]
  split
  · next hlt =>
    have hcode : (Char.ofNat byte.toNat).toNat = byte.toNat := toNat_ofNat (.inl (by omega))
    refine .char ?_
    obtain ⟨-, hlead, hlength⟩ : byte.toNat < 0x80 ∧ leadValue byte.toNat = byte.toNat ∧
        continuationLength byte.toNat = 0 := (leadValue_cases byte.toNat).resolve_right (by omega)
    rw [utf8EncodeChar_eq, hcode, hlead, hlength, continuation, UInt8.ofNat_toNat]
  split
  · refine .illFormed fun ⟨c, hc⟩ => ?_
    have hvalue := singleton_prefix_iff.1 hc
    have hcases := leadValue_cases c.toNat
    omega
  split
  · exact .begun (reads_two (by omega) ‹_›) rfl
  split
  · exact .begun (reads_three (by omega) ‹_› (hbounds 0xE0 0xA0 0x80) (hbounds 0xED 0x9F 0xBF)) rfl
  split
  · exact .begun (reads_four (by omega) ‹_› (hbounds 0xF0 0x90 0x80) (hbounds 0xF4 0x8F 0xBF)) rfl
  · refine .illFormed fun ⟨c, hc⟩ => ?_
    have hvalue := singleton_prefix_iff.1 hc
    have hcases := leadValue_cases c.toNat
    have hcode := toNat_lt c
    omega

/-! ## Decoding -/

/-- The pieces found before stand before those found later. -/
theorem piecesAfter_eq (done : List Piece) (begun : Option Begun) (bytes : Bytes) :
    piecesAfter done begun bytes = done.reverse ++ piecesAfter [] begun bytes := by
  induction bytes generalizing done begun with
  | nil => simp [piecesAfter]
  | cons byte rest ih =>
    calc piecesAfter done begun (byte :: rest)
        = piecesAfter ((next begun byte).1.reverseAux done) (next begun byte).2 rest := rfl
      _ = done.reverse ++ piecesAfter ((next begun byte).1.reverseAux []) (next begun byte).2
            rest := by
          rw [ih ((next begun byte).1.reverseAux done), ih ((next begun byte).1.reverseAux [])]
          simp [List.reverseAux_eq]

/-- What comes out of a byte stands before what comes out of the bytes after it. -/
theorem piecesAfter_cons (begun : Option Begun) (byte : UInt8) (rest : Bytes) :
    piecesAfter [] begun (byte :: rest) =
      (next begun byte).1 ++ piecesAfter [] (next begun byte).2 rest := by
  calc piecesAfter [] begun (byte :: rest)
      = piecesAfter (next begun byte).1.reverse (next begun byte).2 rest := rfl
    _ = (next begun byte).1 ++ piecesAfter [] (next begun byte).2 rest := by
        rw [piecesAfter_eq, List.reverse_reverse]

section
variable {begun : Begun} {byte : UInt8}

/-- A byte that cannot go on with a character begins anew. -/
theorem next_of_not_mem (hmem : ¬ (begun.least ≤ byte ∧ byte ≤ begun.greatest)) :
    next (some begun) byte =
      (.illFormed begun.bytes .continuation :: (first byte).1, (first byte).2) :=
  if_neg hmem

/-- The last byte of a character completes it. -/
theorem next_of_after_eq_zero (hmem : begun.least ≤ byte ∧ byte ≤ begun.greatest)
    (hafter : begun.after = 0) :
    next (some begun) byte =
      ([.char (Char.ofNat (64 * begun.code + byte.toNat % 64))], none) := by
  simp [next, hmem, hafter]

/-- A byte that goes on with a character is added to it. -/
theorem next_of_after_eq_succ (hmem : begun.least ≤ byte ∧ byte ≤ begun.greatest) {after : Nat}
    (hafter : begun.after = after + 1) :
    next (some begun) byte =
      ([], some { bytes := begun.bytes ++ [byte], code := 64 * begun.code + byte.toNat % 64,
                  after }) := by
  simp [next, hmem, hafter]

end

/-- Bytes are cut into pieces where a character starts and in one. -/
theorem cuts_piecesAfter (bytes : Bytes) :
    Cuts bytes (piecesAfter [] none bytes) ∧ ∀ begun : Begun, begun.Reads →
      Cuts (begun.bytes ++ bytes) (piecesAfter [] (some begun) bytes) := by
  induction bytes with
  | nil =>
    refine ⟨.nil, fun begun hreads => ?_⟩
    exact .illFormed .ending (hreads.maximalPart (by simp)) .nil
  | cons byte rest ih =>
    -- a byte that does not go on with a character is read once more as the start of one
    have hstart : Cuts (byte :: rest) (piecesAfter [] none (byte :: rest)) := by
      rw [piecesAfter_cons, next]
      have hfirst := starts_first byte
      generalize first byte = step at hfirst
      cases hfirst with
      | @char c hc =>
        have hchar := Cuts.char c ih.1
        rwa [hc] at hchar
      | illFormed hbyte =>
        have hpart : MaximalPart [byte] rest := .singleton hbyte
        exact .illFormed .start hpart ih.1
      | @begun begun hreads hbytes =>
        have hbegun := ih.2 begun hreads
        rwa [hbytes] at hbegun
    refine ⟨hstart, fun begun hreads => ?_⟩
    by_cases hmem : begun.least ≤ byte ∧ byte ≤ begun.greatest
    · rw [piecesAfter_cons]
      cases hafter : begun.after with
      | zero =>
        have hchar := Cuts.char (Char.ofNat (64 * begun.code + byte.toNat % 64)) ih.1
        rw [hreads.encode_of_mem hmem hafter, List.append_assoc] at hchar
        rwa [next_of_after_eq_zero hmem hafter]
      | succ after =>
        have hlater := ih.2 _ (hreads.next_of_mem hmem hafter)
        rw [List.append_assoc] at hlater
        rwa [next_of_after_eq_succ hmem hafter]
    · have hpart : MaximalPart begun.bytes (byte :: rest) :=
        hreads.maximalPart (by rintro _ ⟨⟩; exact hmem)
      have hlater := Cuts.illFormed .continuation hpart hstart
      rw [piecesAfter_cons, next] at hlater
      rwa [piecesAfter_cons, next_of_not_mem hmem]

/-- The pieces of bytes are cut out of them as they should be. -/
theorem cuts_pieces (bytes : Bytes) : Cuts bytes (pieces bytes) := (cuts_piecesAfter bytes).1

/-- What is decoded is what the bytes stand for. -/
theorem decodes_decode (bytes : Bytes) : Decodes bytes (decode bytes) := (cuts_pieces bytes).decodes

/-- **Decoding gives the text that bytes stand for**, and no other. -/
theorem decodes_iff {bytes : Bytes} {text : Text} : Decodes bytes text ↔ text = decode bytes :=
  ⟨fun h => h.unique (decodes_decode bytes) rfl, fun h => h ▸ decodes_decode bytes⟩

/-- Decoding undoes encoding. -/
theorem decode_encode (text : Text) : decode (encode text) = text :=
  (decodes_iff.1 (decodes_encode text)).symm

/-! ## Strict decoding -/

/-- The bytes that complete a character give it. -/
theorem piecesAfter_of_reads {begun : Begun} (hreads : begun.Reads) {c : Char} {more : Bytes}
    (hc : begun.bytes ++ more = String.utf8EncodeChar c) (rest : Bytes) :
    piecesAfter [] (some begun) (more ++ rest) = .char c :: piecesAfter [] none rest := by
  induction more generalizing begun with
  | nil =>
    rw [List.append_nil] at hc
    exact absurd (hc ▸ List.prefix_rfl) (hreads.not_ended c)
  | cons byte more ih =>
    have hstands : begun.bytes ++ [byte] <+: String.utf8EncodeChar c := ⟨more, by simp [← hc]⟩
    have hmem := hreads.mem_of_begins ⟨c, hstands⟩
    rw [List.cons_append, piecesAfter_cons]
    cases hafter : begun.after with
    | zero =>
      have hsame : String.utf8EncodeChar (Char.ofNat (64 * begun.code + byte.toNat % 64)) ++ more =
          String.utf8EncodeChar c ++ [] := by
        rw [hreads.encode_of_mem hmem hafter, ← hc]
        simp
      obtain ⟨hchar, rfl⟩ := utf8EncodeChar_append_inj hsame
      rw [next_of_after_eq_zero hmem hafter, hchar]
      rfl
    | succ after =>
      rw [next_of_after_eq_succ hmem hafter]
      exact ih (hreads.next_of_mem hmem hafter) (by simp [← hc])

/-- The bytes of a character give it. -/
theorem pieces_char_append (c : Char) (rest : Bytes) :
    pieces (String.utf8EncodeChar c ++ rest) = .char c :: pieces rest := by
  obtain ⟨byte, more, hbytes⟩ : ∃ byte more, String.utf8EncodeChar c = byte :: more :=
    ⟨_, _, utf8EncodeChar_eq c⟩
  rw [hbytes, List.cons_append, pieces, piecesAfter_cons, next]
  have hfirst := starts_first byte
  generalize first byte = step at hfirst
  cases hfirst with
  | @char d hd =>
    have hsame : String.utf8EncodeChar d ++ more = String.utf8EncodeChar c ++ [] := by
      simp [hd, hbytes]
    obtain ⟨rfl, rfl⟩ := utf8EncodeChar_append_inj hsame
    rfl
  | illFormed hbyte => exact absurd ⟨c, hbytes ▸ List.prefix_append [byte] more⟩ hbyte
  | begun hreads hread => exact piecesAfter_of_reads hreads (by rw [hread, hbytes]; rfl) rest

/-- The pieces of an encoded text are its characters. -/
theorem pieces_encode (text : Text) : pieces (encode text) = text.map .char := by
  induction text with
  | nil => rfl
  | cons c rest ih =>
    rw [encode, List.flatMap_cons, pieces_char_append, ← encode, ih, List.map_cons]

/-- Pieces that are all characters are decoded to these. -/
theorem charsOf_map_char (position : Nat) (done text : Text) :
    charsOf position done (text.map .char) = .ok (done.reverse ++ text) := by
  induction text generalizing position done with
  | nil => simp [charsOf]
  | cons c rest ih => simp [charsOf, ih]

/-- Strict decoding takes every encoding and undoes it. -/
theorem decode?_encode (text : Text) : decode? (encode text) = .ok text := by
  rw [decode?, pieces_encode, charsOf_map_char]
  rfl

end TexLog.Utf8
