import RdfXml.Xml.Event

/-
  Namespace bindings in scope.

  Bindings are kept innermost first, so that the first match
  is the one in effect.

  Key definitions include:
    * `xmlNamespace`
    * `Bindings`
    * `Bindings.lookup?`
    * `Bindings.resolveElement`
    * `Bindings.resolveAttribute`
-/

------------------------------------------------------------
-- Namespace Bindings
------------------------------------------------------------

namespace RdfXml

/- The namespace that the prefix `xml` always stands for. -/
def xmlNamespace : String :=
  "http://www.w3.org/XML/1998/namespace"

/- The declarations in scope, innermost first. -/
abbrev Bindings :=
  List Declaration

namespace Bindings

/- The innermost declaration of a prefix. -/
def lookup?
    (bindings : Bindings)
    (label? : Option String) : Option String :=
  (bindings.find? (fun d => d.label? == label?)).map
    Declaration.uri

/-
  The innermost declaration of a prefix, unless it takes the
  prefix back with an empty namespace.
-/
def inEffect?
    (bindings : Bindings)
    (label? : Option String) : Option String :=
  (bindings.lookup? label?).filter (fun uri => uri != "")

/-
  The namespace of a prefix, or the prefix itself when it
  stands for no namespace.
-/
def resolvePrefix
    (bindings : Bindings)
    (label : String) : Except String String :=
  if label = "xml" then
    .ok xmlNamespace
  else
    match bindings.inEffect? (some label) with
    | some uri => .ok uri
    | none => .error label

/-
  The namespace of an element's name.  A name without a
  prefix takes the default namespace.
-/
def resolveElement
    (bindings : Bindings)
    (name : QName) : Except String Name :=
  match name.label? with
  | some label =>
      (bindings.resolvePrefix label).map
        (fun uri => ⟨name, some uri⟩)
  | none => .ok ⟨name, bindings.inEffect? none⟩

/-
  The namespace of an attribute's name.  A name without a
  prefix has none.
-/
def resolveAttribute
    (bindings : Bindings)
    (name : QName) : Except String Name :=
  match name.label? with
  | some label =>
      (bindings.resolvePrefix label).map
        (fun uri => ⟨name, some uri⟩)
  | none => .ok ⟨name, none⟩

end Bindings

end RdfXml
