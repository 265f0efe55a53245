import RdfXml.Xml.Attribute
import RdfXml.Xml.Markup
import RdfXml.Xml.Reference

/-
  Errors of documents that are not well-formed.

  Key definitions include:
    * `XmlFault`
    * `XmlError`
    * `XmlError.message`
-/

------------------------------------------------------------
-- Document Errors
------------------------------------------------------------

namespace RdfXml

/- What is wrong with the XML at a byte position. -/
inductive XmlFault where
| markup (cause : MarkupFault)
| declaration (cause : AttributeFault)
| encoding (cause : Utf8.Fault)
| reference (cause : Reference.Fault)
deriving DecidableEq, Repr

/- The text of a fault at a byte position. -/
def XmlFault.message : XmlFault → String
| .markup cause => cause.message
| .declaration cause =>
    "error while parsing attribute: " ++ cause.message
| .encoding cause =>
    "cannot decode input using UTF-8: " ++ cause.message
| .reference cause => cause.message

/- Why a document is refused. -/
inductive XmlError where
| syntaxAt (position : Nat) (cause : XmlFault)
| attribute (cause : AttributeFault)
| utf8 (cause : Utf8.Fault)
| mismatchedEndTag (expected found : String)
| unexpectedEndTag (found : String)
| unclosedElements (names : List String)
| unboundPrefix (label : String)
| invalidName (name : String)
| textOutsideRoot
| multipleRoots
| noRootElement
| unsupportedEncoding (encoding : String)
deriving DecidableEq, Repr

namespace XmlError

/- The text of an error. -/
def message : XmlError → String
| .syntaxAt position cause =>
    "XML syntax error at byte " ++ toString position ++
      ": " ++ cause.message
| .attribute cause =>
    "Invalid XML attribute: " ++ cause.message
| .utf8 cause =>
    "Invalid UTF-8 in document: " ++ cause.message
| .mismatchedEndTag expected found =>
    "Mismatched end tag: expected `</" ++ expected ++
      ">`, found `</" ++ found ++ ">`"
| .unexpectedEndTag found =>
    "Unexpected end tag `</" ++ found ++
      ">`: no element is open"
| .unclosedElements names =>
    "Document ended with unclosed elements: " ++
      " > ".intercalate names
| .unboundPrefix label =>
    "The namespace prefix `" ++ label ++ "` is not bound"
| .invalidName name =>
    "`" ++ name ++ "` is not a valid XML name"
| .textOutsideRoot =>
    "Character data is not allowed outside of the root " ++
      "element"
| .multipleRoots =>
    "The document has more than one root element"
| .noRootElement =>
    "The document has no root element"
| .unsupportedEncoding encoding =>
    "Unsupported document encoding `" ++ encoding ++
      "`: only UTF-8 is supported"

end XmlError

end RdfXml
