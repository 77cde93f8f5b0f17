import TexLog.Text.Classes
import TexLog.Text.Lines
import TexLog.Text.Notation
import TexLog.Xml

/-!
# Reading XML documents

Reading takes a document of XML 1.0 without a document type: a declaration, if there is one, and the
root element, with white space around it. Comments, processing instructions and sections of
character data are not taken. The line ends of the document are unified first. After that it is read
one character at a time. Character data goes on to the next tag; a tag goes on to the next closing
angle bracket that does not stand in quotes, and is then taken apart. Elements that have begun and
not ended yet are kept, the innermost first.
-/

namespace TexLog.Xml

/-! ## Characters -/

/-- Whether a document may have a character. -/
def isChar (c : Char) : Bool :=
  c = '\t' || c = '\n' || c = '\r' || (' ' ≤ c && c ≠ '\ufffe' && c ≠ '\uffff')

/-- Whether a character is white space. -/
def isSpace (c : Char) : Bool := c = ' ' || c = '\t' || c = '\n' || c = '\r'

/-- The characters with which names begin. -/
def nameStarts : Ranges := [
  (0x3A, 0x3A), (0x41, 0x5A), (0x5F, 0x5F), (0x61, 0x7A), (0xC0, 0xD6), (0xD8, 0xF6),
  (0xF8, 0x2FF), (0x370, 0x37D), (0x37F, 0x1FFF), (0x200C, 0x200D), (0x2070, 0x218F),
  (0x2C00, 0x2FEF), (0x3001, 0xD7FF), (0xF900, 0xFDCF), (0xFDF0, 0xFFFD), (0x10000, 0xEFFFF)]

/-- The other characters of names. -/
def nameOthers : Ranges := [
  (0x2D, 0x2E), (0x30, 0x39), (0xB7, 0xB7), (0x300, 0x36F), (0x203F, 0x2040)]

/-- Whether a name may begin with a character. -/
def isNameStart (c : Char) : Bool := nameStarts.contains c.toNat

/-- Whether a character may stand in a name. -/
def isNameChar (c : Char) : Bool := isNameStart c || nameOthers.contains c.toNat

/-- Whether a text is a name. -/
def isName : Text → Bool
  | [] => false
  | c :: rest => isNameStart c && rest.all isNameChar

/-! ## Character data -/

/-- The characters that have names everywhere. -/
def namedChars : List (Text × Char) := [
  ("amp".toList, '&'), ("lt".toList, '<'), ("gt".toList, '>'), ("quot".toList, '"'),
  ("apos".toList, '\'')]

/-- The character whose code is written with the digits, if documents may have it. -/
def charOfDigits? (base : Nat) (isDigit : Char → Bool) (digits : Text) : Option Char :=
  let code := Text.numeral base digits
  if digits ≠ [] ∧ digits.all isDigit ∧ code.isValidChar ∧ isChar (Char.ofNat code) then
    some (Char.ofNat code)
  else none

/-- The character that is meant by what stands between an ampersand and a semicolon. -/
def referred? : Text → Option Char
  | '#' :: 'x' :: digits => charOfDigits? 16 Text.isHex digits
  | '#' :: digits => charOfDigits? 10 Char.isDigit digits
  | name => namedChars.lookup name

/-- The text that is meant by character data. Characters that stand for themselves may be changed;
`reference` is what has been read of a reference. -/
def expand (change : Char → Char) : (reference : Option Text) → Text → Option Text
  | none, [] => some []
  | some _, [] => none
  | none, c :: rest =>
    if c = '&' then expand change (some []) rest
    else (expand change none rest).map (change c :: ·)
  | some name, c :: rest =>
    if c = ';' then do
      let meant ← referred? name
      (expand change none rest).map (meant :: ·)
    else expand change (some (name ++ [c])) rest

/-- Whether the mark that ends a section of character data stands in a text. -/
def hasSectionEnd : Text → Bool
  | ']' :: ']' :: '>' :: _ => true
  | _ :: rest => hasSectionEnd rest
  | [] => false

/-- The text that is meant by character data in an element. -/
def ofData (data : Text) : Option Text :=
  if hasSectionEnd data then none else expand id none data

/-- White space in the value of an attribute is read as blanks. -/
def blanked (c : Char) : Char := if isSpace c then ' ' else c

/-- The text that is meant by the value of an attribute. -/
def ofValue (value : Text) : Option Text := expand blanked none value

/-! ## Tags -/

/-- Where among the attributes of a tag a reader is. -/
inductive Spot
  /-- Before an attribute or the end of the tag. -/
  | before (spaced : Bool)
  /-- In the name of an attribute. -/
  | inName (name : Text)
  /-- Between the name of an attribute and the equals sign. -/
  | afterName (name : Text)
  /-- Between the equals sign and the value of an attribute. -/
  | beforeValue (name : Text)
  /-- In the value of an attribute, which goes on to the next quote of the kind. -/
  | inValue (name : Text) (quote : Char) (value : Text)

/-- Reads attributes up to the end of a tag. -/
def readAttributes : Spot → Text → Option (List (Text × Text))
  | .before _, [] => some []
  | _, [] => none
  | .before spaced, c :: rest =>
    if isSpace c then readAttributes (.before true) rest
    else if spaced && isNameStart c then readAttributes (.inName [c]) rest
    else none
  | .inName name, c :: rest =>
    if c = '=' then readAttributes (.beforeValue name) rest
    else if isSpace c then readAttributes (.afterName name) rest
    else if isNameChar c then readAttributes (.inName (name ++ [c])) rest
    else none
  | .afterName name, c :: rest =>
    if c = '=' then readAttributes (.beforeValue name) rest
    else if isSpace c then readAttributes (.afterName name) rest
    else none
  | .beforeValue name, c :: rest =>
    if c = '"' || c = '\'' then readAttributes (.inValue name c []) rest
    else if isSpace c then readAttributes (.beforeValue name) rest
    else none
  | .inValue name quote value, c :: rest =>
    if c = quote then do
      let value ← ofValue value
      let attributes ← readAttributes (.before false) rest
      return (name, value) :: attributes
    else readAttributes (.inValue name quote (value ++ [c])) rest

/-- A tag. -/
inductive Tag
  /-- The declaration of the document, with what it declares. -/
  | declaration (attributes : List (Text × Text))
  /-- The start of an element. -/
  | start (name : Text) (attributes : List (Text × Text))
  /-- An element without content. -/
  | empty (name : Text) (attributes : List (Text × Text))
  /-- The end of an element. -/
  | close (name : Text)

/-- Reads a name and attributes, each of which has another name. -/
def readNamed (written : Text) : Option (Text × List (Text × Text)) := do
  let name := written.takeWhile isNameChar
  let attributes ← readAttributes (.before false) (written.drop name.length)
  if isName name ∧ (attributes.map Prod.fst).Nodup then return (name, attributes) else none

/-- The tag that is written with the text between angle brackets. -/
def readTag (written : Text) : Option Tag :=
  match written.head?, written.getLast? with
  | some '/', _ =>
    let name := written.tail.takeWhile isNameChar
    if isName name ∧ (written.tail.drop name.length).all isSpace then some (.close name) else none
  | some '?', some '?' => do
    let (name, attributes) ← readNamed written.tail.dropLast
    if name = "xml".toList then return .declaration attributes else none
  | _, some '/' => (readNamed written.dropLast).map fun (name, attributes) => .empty name attributes
  | _, _ => (readNamed written).map fun (name, attributes) => .start name attributes

/-- Whether a declaration may say the encoding; files are read as UTF-8. -/
def isEncoding : Text × Text → Bool
  | (name, value) => name = "encoding".toList && value.map Char.toLower = "utf-8".toList

/-- Whether a declaration may say this on whether the document stands alone. -/
def isStandalone : Text × Text → Bool
  | (name, value) =>
    name = "standalone".toList && (value = "yes".toList || value = "no".toList)

/-- Whether a declaration says what it must and may: the version first. -/
def isDeclaration : List (Text × Text) → Bool
  | [] => false
  | version :: rest =>
    version = ("version".toList, "1.0".toList) &&
      match rest with
      | [] => true
      | [only] => isEncoding only || isStandalone only
      | [first, second] => isEncoding first && isStandalone second
      | _ => false

/-! ## Documents -/

/-- A part of a document as it is read. -/
inductive Node
  /-- Character data. -/
  | text (text : Text)
  /-- An element with its name, its attributes in order, and its content. -/
  | element (name : Text) (attributes : List (Text × Text)) (content : List Node)

/-- An element that has not ended, with its content so far. -/
structure Opened where
  /-- Its name. -/
  name : Text
  /-- Its attributes. -/
  attributes : List (Text × Text)
  /-- Its content so far. -/
  content : List Node := []

namespace Opened

/-- Adds a part to the content. -/
def add (opened : Opened) (node : Node) : Opened :=
  { opened with content := opened.content ++ [node] }

/-- Adds character data to the content. -/
def addText (opened : Opened) (text : Text) : Opened :=
  if text = [] then opened else opened.add (.text text)

/-- The element, if it ends here. -/
def toNode (opened : Opened) : Node := .element opened.name opened.attributes opened.content

end Opened

/-- What has been read of a document. -/
inductive Progress
  /-- Nothing. -/
  | start
  /-- Something before the root element. -/
  | prolog
  /-- Up to somewhere in an element, itself in others. -/
  | within (opened : Opened) (outer : List Opened)
  /-- The root element and what follows it. -/
  | epilog (root : Node)

namespace Progress

/-- The elements that have not ended; there is no result after the root element. -/
def opened? : Progress → Option (List Opened)
  | start | prolog => some []
  | within opened outer => some (opened :: outer)
  | epilog _ => none

/-- What has been read after an element in other elements. -/
def afterElement (node : Node) : List Opened → Progress
  | [] => epilog node
  | opened :: outer => within (opened.add node) outer

/-- Goes on with character data. -/
def addData (progress : Progress) (data : Text) : Option Progress :=
  match progress with
  | within opened outer => (ofData data).map fun text => within (opened.addText text) outer
  | start => if data = [] then some start else if data.all isSpace then some prolog else none
  | prolog | epilog _ => if data.all isSpace then some progress else none

/-- Goes on with a tag. -/
def addTag (progress : Progress) : Tag → Option Progress
  | .declaration attributes =>
    match progress with
    | start => if isDeclaration attributes then some prolog else none
    | _ => none
  | .start name attributes => progress.opened?.map fun outer => within { name, attributes } outer
  | .empty name attributes => progress.opened?.map (afterElement (.element name attributes []))
  | .close name =>
    match progress with
    | within opened outer =>
      if opened.name = name then some (afterElement opened.toNode outer) else none
    | _ => none

end Progress

/-- Where in a document a reader is. -/
inductive Place
  /-- In character data. -/
  | data
  /-- In a tag, outside quotes. -/
  | tag
  /-- In a tag, between quotes of a kind. -/
  | quoted (quote : Char)

/-- Reads a document from a place on; `written` is what has been read of the character data or of
the tag there. -/
def readFrom (progress : Progress) : Place → (written : Text) → Text → Option Progress
  | .data, written, [] => progress.addData written
  | _, _, [] => none
  | .data, written, c :: rest =>
    if c = '<' then do readFrom (← progress.addData written) .tag [] rest
    else readFrom progress .data (written ++ [c]) rest
  | .tag, written, c :: rest =>
    if c = '>' then do readFrom (← progress.addTag (← readTag written)) .data [] rest
    else if c = '<' then none
    else if c = '"' || c = '\'' then readFrom progress (.quoted c) (written ++ [c]) rest
    else readFrom progress .tag (written ++ [c]) rest
  | .quoted quote, written, c :: rest =>
    if c = '<' then none
    else if c = quote then readFrom progress .tag (written ++ [c]) rest
    else readFrom progress (.quoted quote) (written ++ [c]) rest

/-- The root element of a document, if it is well-formed. -/
def read (document : Text) : Option Node :=
  if document.all isChar then
    match readFrom .start .data [] document.unifyLineEnds with
    | some (.epilog root) => some root
    | _ => none
  else none

/-! ## Looking into elements -/

namespace Node

/-- The elements of a name in the content of an element. -/
def elements (name : Text) : Node → List Node
  | text _ => []
  | element _ _ content => content.filter fun
    | element other _ _ => other = name
    | text _ => false

/-- The text of an element that holds nothing else, empty if it holds nothing. -/
def text? : Node → Option Text
  | element _ _ [] => some []
  | element _ _ [text only] => some only
  | _ => none

/-- The value of an attribute of an element. -/
def attribute? (name : Text) : Node → Option Text
  | text _ => none
  | element _ attributes _ => attributes.lookup name

end Node

end TexLog.Xml
