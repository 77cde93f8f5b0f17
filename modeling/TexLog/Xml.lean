import TexLog.Text.Basic

/-!
# XML documents

Elements with attributes, whose content is a text with elements after it. A document is written on
one line after its declaration; an element without content is written as a single tag.
-/

namespace TexLog

/-- An element of a document. -/
inductive Xml
  /-- An element with its name, its attributes in order, its text, and the elements after it. -/
  | element (name : Text) (attributes : List (Text × Text)) (text : Text) (children : List Xml)

namespace Xml

/-- A character in the text of an element: what begins markup is written by name. -/
def escaped (c : Char) : Text :=
  if c = '&' then "&amp;".toList
  else if c = '<' then "&lt;".toList
  else if c = '>' then "&gt;".toList
  else [c]

/-- A character in the value of an attribute: quotes are written by name too, and white space that
readers would change by its code. -/
def escapedInValue (c : Char) : Text :=
  if c = '"' then "&quot;".toList
  else if c = '\r' then "&#13;".toList
  else if c = '\n' then "&#10;".toList
  else if c = '\t' then "&#09;".toList
  else escaped c

/-- An attribute with the space before it. -/
def writeAttribute : Text × Text → Text
  | (name, value) => ' ' :: name ++ "=\"".toList ++ value.flatMap escapedInValue ++ ['"']

mutual

/-- A written element. -/
def write : Xml → Text
  | element name attributes text children =>
    let start := '<' :: name ++ attributes.flatMap writeAttribute
    if text.isEmpty && children.isEmpty then start ++ " />".toList
    else
      start ++ '>' :: text.flatMap escaped ++ writeAll children ++
        "</".toList ++ name ++ ['>']

/-- Written elements, one after another. -/
def writeAll : List Xml → Text
  | [] => []
  | child :: children => child.write ++ writeAll children

end

/-- The declaration in front of a document. -/
def declaration : Text := "<?xml version='1.0' encoding='utf-8'?>\n".toList

/-- A written document. -/
def writeDocument (root : Xml) : Text := declaration ++ root.write

/-- An element that holds a text. -/
def leaf (name text : Text) : Xml := element name [] text []

/-- An element that holds other elements. -/
def branch (name : Text) (children : List Xml) : Xml := element name [] [] children

end Xml

end TexLog
