import Mathlib.Data.List.Nodup
import RdfXml.Proofs.Xml.Resolved
import RdfXml.Proofs.Xml.Scopes

/-
  Lexical scope of namespace declarations.

  A prefix stands for what its innermost declaration says,
  among the declarations of the elements that are open.  The
  tokenizer keeps these in one flat list; looking a name up in
  it finds exactly that declaration.

  Main declarations:
    * `Innermost`
    * `Unbound`
    * `ElementResolves`
    * `AttributeResolves`
    * `FirstUnbound`
    * `Bindings.lookup?_scopes`
    * `Bindings.resolveElement_ok_iff`
    * `Bindings.resolveElement_error_iff`
    * `Tokenizer.resolveStartTag_unbound`
    * `Tokenizer.resolveStartTag_bound`
-/

------------------------------------------------------------
-- Scopes
------------------------------------------------------------

namespace RdfXml

/-
  The innermost declaration of a prefix gives it a namespace.
  Each scope holds the declarations of one element, and the
  innermost element comes first.
-/
inductive Innermost (label? : Option String) :
    List (List Declaration) → String → Prop
| here {scope : List Declaration}
    {outer : List (List Declaration)} {uri : String}
    (hDeclared : ⟨label?, uri⟩ ∈ scope) :
    Innermost label? (scope :: outer) uri
| outer {scope : List Declaration}
    {outer : List (List Declaration)} {uri : String}
    (hAbsent : ∀ d ∈ scope, d.label? ≠ label?)
    (hOuter : Innermost label? outer uri) :
    Innermost label? (scope :: outer) uri

/-
  A prefix stands for a namespace that is not empty; an empty
  one takes the prefix back.
-/
def InEffect
    (scopes : List (List Declaration))
    (label? : Option String)
    (uri : String) : Prop :=
  Innermost label? scopes uri ∧ uri ≠ ""

/- What a prefix stands for; `xml` is declared by itself. -/
def StandsFor
    (scopes : List (List Declaration))
    (label uri : String) : Prop :=
  (label = "xml" ∧ uri = xmlNamespace) ∨
    (label ≠ "xml" ∧ InEffect scopes (some label) uri)

/- A prefix that stands for nothing. -/
def Unbound
    (scopes : List (List Declaration))
    (label : String) : Prop :=
  label ≠ "xml" ∧ ∀ uri, ¬ InEffect scopes (some label) uri

/-
  The namespace of an element's name.  Without a prefix it is
  the default namespace, if one is in effect.
-/
def ElementResolves
    (scopes : List (List Declaration))
    (name : Name) : Prop :=
  match name.label?, name.space? with
  | some label, some uri => StandsFor scopes label uri
  | some _, none => False
  | none, some uri => InEffect scopes none uri
  | none, none => ∀ uri, ¬ InEffect scopes none uri

/-
  The namespace of an attribute's name.  Without a prefix it
  has none.
-/
def AttributeResolves
    (scopes : List (List Declaration))
    (name : Name) : Prop :=
  match name.label?, name.space? with
  | some label, some uri => StandsFor scopes label uri
  | some _, none => False
  | none, some _ => False
  | none, none => True

/- No element declares a prefix twice. -/
def DeclaredOnce (scopes : List (List Declaration)) : Prop :=
  ∀ scope ∈ scopes, (scope.map Declaration.label?).Nodup

/- The scopes of open elements, innermost first. -/
def scopesOf (tags : List StartTag) :
    List (List Declaration) :=
  tags.map StartTag.declarations

/-
  A prefix has at most one innermost declaration when no
  element declares it twice.
-/
theorem Innermost.unique
    {label? : Option String}
    {scopes : List (List Declaration)}
    {first second : String}
    (hFirst : Innermost label? scopes first)
    (hSecond : Innermost label? scopes second)
    (hOnce : DeclaredOnce scopes) :
    first = second := by
  induction hFirst with
  | here hDeclared =>
      cases hSecond with
      | here hAgain =>
          have hSame :=
            List.inj_on_of_nodup_map
              (hOnce _ List.mem_cons_self) hDeclared hAgain
              rfl
          exact congrArg Declaration.uri hSame
      | outer hAbsent _ =>
          exact absurd rfl (hAbsent _ hDeclared)
  | outer hAbsent _ ih =>
      cases hSecond with
      | here hDeclared =>
          exact absurd rfl (hAbsent _ hDeclared)
      | outer _ hOuter =>
          exact ih hOuter
            (fun scope hMember =>
              hOnce scope (List.mem_cons_of_mem _ hMember))

------------------------------------------------------------
-- Bindings Of Scopes
------------------------------------------------------------

namespace Bindings

/- The bindings that scopes give, innermost first. -/
def ofScopes (scopes : List (List Declaration)) : Bindings :=
  scopes.flatMap List.reverse

theorem bindingsOf_scopes (tags : List StartTag) :
    bindingsOf tags = ofScopes (scopesOf tags) := by
  simp [bindingsOf, ofScopes, scopesOf, List.flatMap_map]

/- Within one element there is one declaration to find. -/
theorem lookup?_scope
    {scope : List Declaration}
    (hOnce : (scope.map Declaration.label?).Nodup)
    (label? : Option String)
    (uri : String) :
    lookup? scope.reverse label? = some uri ↔
      ⟨label?, uri⟩ ∈ scope := by
  unfold lookup?
  constructor
  · intro hFound
    rcases Option.map_eq_some_iff.mp hFound with
      ⟨d, hFind, rfl⟩
    have hLabel : d.label? = label? := by
      simpa using List.find?_some hFind
    subst hLabel
    exact List.mem_reverse.mp (List.mem_of_find?_eq_some hFind)
  · intro hDeclared
    cases hFind :
        scope.reverse.find? (fun d => d.label? == label?) with
    | none =>
        have hNone :=
          List.find?_eq_none.mp hFind ⟨label?, uri⟩
            (List.mem_reverse.mpr hDeclared)
        simp at hNone
    | some d =>
        have hLabel : d.label? = label? := by
          simpa using List.find?_some hFind
        have hMember :=
          List.mem_reverse.mp (List.mem_of_find?_eq_some hFind)
        have hSame :=
          List.inj_on_of_nodup_map hOnce hMember hDeclared
            hLabel
        rw [Option.map_some, hSame]

theorem lookup?_absent
    (scope : List Declaration)
    (label? : Option String) :
    lookup? scope.reverse label? = none ↔
      ∀ d ∈ scope, d.label? ≠ label? := by
  simp [lookup?]

/- The first binding of a prefix is its innermost one. -/
theorem lookup?_scopes
    {scopes : List (List Declaration)}
    (hOnce : DeclaredOnce scopes)
    (label? : Option String)
    (uri : String) :
    (ofScopes scopes).lookup? label? = some uri ↔
      Innermost label? scopes uri := by
  induction scopes with
  | nil =>
      constructor
      · intro hFound
        cases hFound
      · intro hInnermost
        cases hInnermost
  | cons scope outer ih =>
      have hHere := hOnce scope List.mem_cons_self
      have hOuter :=
        ih (fun x hMember =>
          hOnce x (List.mem_cons_of_mem scope hMember))
      have hParts :
          (ofScopes (scope :: outer)).lookup? label? =
            (lookup? scope.reverse label?).or
              ((ofScopes outer).lookup? label?) :=
        lookup?_append scope.reverse (ofScopes outer) label?
      rw [hParts]
      cases hFound : lookup? scope.reverse label? with
      | some found =>
          have hDeclared :=
            (lookup?_scope hHere label? found).mp hFound
          rw [Option.some_or]
          constructor
          · intro hSame
            cases hSame
            exact .here hDeclared
          · intro hInnermost
            exact congrArg some
              ((Innermost.here hDeclared).unique hInnermost
                hOnce)
      | none =>
          have hAbsent :=
            (lookup?_absent scope label?).mp hFound
          rw [Option.none_or, hOuter]
          constructor
          · intro hInnermost
            exact .outer hAbsent hInnermost
          · intro hInnermost
            cases hInnermost with
            | here hDeclared =>
                exact absurd rfl (hAbsent _ hDeclared)
            | outer _ hInnermost => exact hInnermost

section Scoped

variable
  {scopes : List (List Declaration)}
  (hOnce : DeclaredOnce scopes)

include hOnce

theorem inEffect?_some
    (label? : Option String)
    (uri : String) :
    (ofScopes scopes).inEffect? label? = some uri ↔
      InEffect scopes label? uri := by
  unfold inEffect? InEffect
  rw [Option.filter_eq_some_iff, lookup?_scopes hOnce]
  simp

theorem inEffect?_none (label? : Option String) :
    (ofScopes scopes).inEffect? label? = none ↔
      ∀ uri, ¬ InEffect scopes label? uri := by
  rw [Option.eq_none_iff_forall_not_mem]
  simp only [Option.mem_def, inEffect?_some hOnce]

theorem resolvePrefix_ok_iff (label uri : String) :
    (ofScopes scopes).resolvePrefix label = .ok uri ↔
      StandsFor scopes label uri := by
  unfold resolvePrefix StandsFor
  by_cases hXml : label = "xml"
  · simp [hXml, eq_comm]
  · have hEffect := inEffect?_some hOnce (some label)
    cases hFound :
        (ofScopes scopes).inEffect? (some label) with
    | none =>
        rw [hFound] at hEffect
        simp [hXml, ← hEffect]
    | some found =>
        rw [hFound] at hEffect
        simp [hXml, ← hEffect]

theorem resolvePrefix_error_iff (label fault : String) :
    (ofScopes scopes).resolvePrefix label = .error fault ↔
      label = fault ∧ Unbound scopes label := by
  unfold resolvePrefix Unbound
  by_cases hXml : label = "xml"
  · simp [hXml]
  · have hNone := inEffect?_none hOnce (some label)
    cases hFound :
        (ofScopes scopes).inEffect? (some label) with
    | none =>
        rw [hFound] at hNone
        simp [hXml, hNone.mp rfl]
    | some found =>
        rw [hFound] at hNone
        simp [hXml, ← hNone]

------------------------------------------------------------
-- Names
------------------------------------------------------------

/- A name with a prefix takes what the prefix stands for. -/
theorem resolvePrefix_map_ok_iff
    (label : String)
    (written : QName)
    (resolved : Name) :
    ((ofScopes scopes).resolvePrefix label).map
          (fun uri => (⟨written, some uri⟩ : Name)) =
        .ok resolved ↔
      ∃ uri,
        resolved = ⟨written, some uri⟩ ∧
          StandsFor scopes label uri := by
  have hPrefix := resolvePrefix_ok_iff hOnce label
  constructor
  · intro hOk
    cases hResult :
        (ofScopes scopes).resolvePrefix label with
    | error fault =>
        rw [hResult] at hOk
        cases hOk
    | ok uri =>
        rw [hResult] at hOk
        cases hOk
        exact ⟨uri, rfl, (hPrefix uri).mp hResult⟩
  · rintro ⟨uri, rfl, hStands⟩
    rw [(hPrefix uri).mpr hStands]
    rfl

theorem resolvePrefix_map_error_iff
    (label : String)
    (written : QName)
    (fault : String) :
    ((ofScopes scopes).resolvePrefix label).map
          (fun uri => (⟨written, some uri⟩ : Name)) =
        .error fault ↔
      label = fault ∧ Unbound scopes label := by
  rw [← resolvePrefix_error_iff hOnce]
  cases (ofScopes scopes).resolvePrefix label with
  | error found => simp [Except.map]
  | ok uri => simp [Except.map]

/-
  An element's name is resolved to what its prefix, or the
  default namespace, stands for.
-/
theorem resolveElement_ok_iff
    (name : QName)
    (resolved : Name) :
    (ofScopes scopes).resolveElement name = .ok resolved ↔
      resolved.toQName = name ∧
        ElementResolves scopes resolved := by
  rcases name with ⟨label?, localName⟩
  rcases resolved with ⟨written, space?⟩
  unfold resolveElement ElementResolves
  cases label? with
  | some label =>
      rw [resolvePrefix_map_ok_iff hOnce]
      constructor
      · rintro ⟨uri, hSame, hStands⟩
        cases hSame
        exact ⟨rfl, hStands⟩
      · rintro ⟨rfl, hResolves⟩
        cases space? with
        | none => exact hResolves.elim
        | some uri => exact ⟨uri, rfl, hResolves⟩
  | none =>
      have hSome := inEffect?_some hOnce none
      have hNone := inEffect?_none hOnce none
      dsimp only
      constructor
      · intro hOk
        cases hOk
        cases hEffect : (ofScopes scopes).inEffect? none with
        | none => exact ⟨rfl, hNone.mp hEffect⟩
        | some uri => exact ⟨rfl, (hSome uri).mp hEffect⟩
      · rintro ⟨rfl, hResolves⟩
        cases space? with
        | none => rw [hNone.mpr hResolves]
        | some uri => rw [(hSome uri).mpr hResolves]

/-
  An attribute's name is resolved to what its prefix stands
  for, and to nothing without one.
-/
theorem resolveAttribute_ok_iff
    (name : QName)
    (resolved : Name) :
    (ofScopes scopes).resolveAttribute name =
        .ok resolved ↔
      resolved.toQName = name ∧
        AttributeResolves scopes resolved := by
  rcases name with ⟨label?, localName⟩
  rcases resolved with ⟨written, space?⟩
  unfold resolveAttribute AttributeResolves
  cases label? with
  | some label =>
      rw [resolvePrefix_map_ok_iff hOnce]
      constructor
      · rintro ⟨uri, hSame, hStands⟩
        cases hSame
        exact ⟨rfl, hStands⟩
      · rintro ⟨rfl, hResolves⟩
        cases space? with
        | none => exact hResolves.elim
        | some uri => exact ⟨uri, rfl, hResolves⟩
  | none =>
      dsimp only
      constructor
      · intro hOk
        cases hOk
        exact ⟨rfl, trivial⟩
      · rintro ⟨rfl, hResolves⟩
        cases space? with
        | none => rfl
        | some uri => exact hResolves.elim

/- Only an unbound prefix keeps a name from being resolved. -/
theorem resolveElement_error_iff
    (name : QName)
    (fault : String) :
    (ofScopes scopes).resolveElement name = .error fault ↔
      name.label? = some fault ∧ Unbound scopes fault := by
  unfold resolveElement
  cases hLabel : name.label? with
  | none => simp
  | some label =>
      dsimp only
      rw [resolvePrefix_map_error_iff hOnce]
      constructor
      · rintro ⟨rfl, hUnbound⟩
        exact ⟨rfl, hUnbound⟩
      · rintro ⟨hSame, hUnbound⟩
        cases hSame
        exact ⟨rfl, hUnbound⟩

theorem resolveAttribute_error_iff
    (name : QName)
    (fault : String) :
    (ofScopes scopes).resolveAttribute name =
        .error fault ↔
      name.label? = some fault ∧ Unbound scopes fault := by
  unfold resolveAttribute
  cases hLabel : name.label? with
  | none => simp
  | some label =>
      dsimp only
      rw [resolvePrefix_map_error_iff hOnce]
      constructor
      · rintro ⟨rfl, hUnbound⟩
        exact ⟨rfl, hUnbound⟩
      · rintro ⟨hSame, hUnbound⟩
        cases hSame
        exact ⟨rfl, hUnbound⟩

end Scoped

end Bindings

------------------------------------------------------------
-- Start Tags
------------------------------------------------------------

/- The first of some names whose prefix stands for nothing. -/
inductive FirstUnbound
    (scopes : List (List Declaration))
    (label : String) : List QName → Prop
| here {name : QName} {rest : List QName}
    (hLabel : name.label? = some label)
    (hUnbound : Unbound scopes label) :
    FirstUnbound scopes label (name :: rest)
| later {name : QName} {rest : List QName}
    (hBound : ∀ found,
      name.label? = some found → ¬ Unbound scopes found)
    (hRest : FirstUnbound scopes label rest) :
    FirstUnbound scopes label (name :: rest)

/- The prefixes of all of some names stand for something. -/
def AllBound
    (scopes : List (List Declaration))
    (names : List QName) : Prop :=
  ∀ name ∈ names, ∀ label,
    name.label? = some label → ¬ Unbound scopes label

/- The names of a start tag in the order of their lookup. -/
def namesOf
    (name : QName)
    (attributes : List TagAttribute) : List QName :=
  name ::
    (attributes.filterMap TagAttribute.other?).map Prod.fst

/- A start tag was written with this name and attributes. -/
structure StartTag.WrittenAs
    (tag : StartTag)
    (name : QName)
    (attributes : List TagAttribute) : Prop where
  name : tag.name.toQName = name
  declarations :
    tag.declarations =
      attributes.filterMap TagAttribute.declaration?
  others :
    tag.attributes.map (fun a => (a.name.toQName, a.value)) =
      attributes.filterMap TagAttribute.other?

/-
  The names of a start tag stand for what its declarations
  and those around it say.
-/
structure StartTag.LexicalIn
    (tag : StartTag)
    (outer : List (List Declaration)) : Prop where
  name : ElementResolves (tag.declarations :: outer) tag.name
  attributes : ∀ a ∈ tag.attributes,
    AttributeResolves (tag.declarations :: outer) a.name

/- Different attributes declare different prefixes. -/
theorem declaredOnce_of_keys
    {attributes : List TagAttribute}
    (hKeys : (attributes.map TagAttribute.key).Nodup) :
    ((attributes.filterMap TagAttribute.declaration?).map
      Declaration.label?).Nodup := by
  have hSame : ∀ d : Declaration,
      Declaration.key ⟨d.label?, ""⟩ = d.key :=
    fun _ => rfl
  have hDeclared :
      ((attributes.filterMap
        TagAttribute.declaration?).map
          Declaration.key).Sublist
        (attributes.map TagAttribute.key) := by
    induction attributes with
    | nil => exact List.Sublist.slnil
    | cons a attributes ih =>
        have hRest := ih (List.nodup_cons.mp hKeys).2
        cases a with
        | declaration d => exact hRest.cons_cons d.key
        | other name value => exact hRest.cons name.text
  have hNodup := hKeys.sublist hDeclared
  -- the key of a declaration is made of its prefix alone
  apply List.Nodup.of_map (fun label? =>
    Declaration.key ⟨label?, ""⟩)
  simpa [Function.comp_def, hSame] using hNodup

/- A tag that can be written declares no prefix twice. -/
theorem StartTag.Spelled.declaredOnce
    {tag : StartTag}
    (hSpelled : tag.Spelled) :
    (tag.declarations.map Declaration.label?).Nodup := by
  rw [← tag.parts_declarations]
  exact declaredOnce_of_keys hSpelled.distinct

/- A tag that was read is one that the scopes resolve. -/
theorem StartTag.lexicalIn
    {tag : StartTag}
    {outer : List StartTag}
    (hOnce :
      DeclaredOnce (tag.declarations :: scopesOf outer))
    (hResolved : tag.ResolvedIn (bindingsOf outer)) :
    tag.LexicalIn (scopesOf outer) := by
  have hBindings :
      tag.declarations.reverse ++ bindingsOf outer =
        Bindings.ofScopes
          (tag.declarations :: scopesOf outer) := by
    rw [Bindings.bindingsOf_scopes]
    rfl
  have hName := hResolved.name
  have hAttributes := hResolved.attributes
  rw [hBindings] at hName hAttributes
  constructor
  · exact
      ((Bindings.resolveElement_ok_iff hOnce _ _).mp hName).2
  · intro a hMember
    exact
      ((Bindings.resolveAttribute_ok_iff hOnce _ _).mp
        (hAttributes a hMember)).2

namespace Tokenizer

section Scoped

variable
  {scopes : List (List Declaration)}
  {t : Tokenizer}
  (hOnce : DeclaredOnce scopes)
  (hBound : t.bindings = Bindings.ofScopes scopes)

include hOnce hBound

theorem elementName_unbound
    {name : QName}
    {label : String}
    (hLabel : name.label? = some label)
    (hUnbound : Unbound scopes label) :
    t.elementName name = .error (.unboundPrefix label) := by
  have hError :=
    (Bindings.resolveElement_error_iff hOnce name label).mpr
      ⟨hLabel, hUnbound⟩
  unfold elementName boundOrError
  rw [hBound, hError]

theorem elementName_bound
    {name : QName}
    (hNames : ∀ found,
      name.label? = some found → ¬ Unbound scopes found) :
    ∃ resolved, t.elementName name = .ok resolved := by
  unfold elementName boundOrError
  rw [hBound]
  cases hResult :
      (Bindings.ofScopes scopes).resolveElement name with
  | ok resolved => exact ⟨resolved, rfl⟩
  | error label =>
      rcases (Bindings.resolveElement_error_iff hOnce name
        label).mp hResult with ⟨hLabel, hUnbound⟩
      exact absurd hUnbound (hNames label hLabel)

theorem resolveAttribute_unbound
    {part : QName × String}
    {label : String}
    (hLabel : part.1.label? = some label)
    (hUnbound : Unbound scopes label) :
    t.resolveAttribute part =
      .error (.unboundPrefix label) := by
  have hError :=
    (Bindings.resolveAttribute_error_iff hOnce part.1
      label).mpr ⟨hLabel, hUnbound⟩
  unfold resolveAttribute attributeName boundOrError
  rw [hBound, hError]
  rfl

theorem resolveAttribute_bound
    {part : QName × String}
    (hNames : ∀ found,
      part.1.label? = some found → ¬ Unbound scopes found) :
    ∃ a, t.resolveAttribute part = .ok a := by
  unfold resolveAttribute attributeName boundOrError
  rw [hBound]
  cases hResult :
      (Bindings.ofScopes scopes).resolveAttribute
        part.1 with
  | ok resolved => exact ⟨⟨resolved, part.2⟩, rfl⟩
  | error label =>
      rcases (Bindings.resolveAttribute_error_iff hOnce part.1
        label).mp hResult with ⟨hLabel, hUnbound⟩
      exact absurd hUnbound (hNames label hLabel)

theorem mapM_resolveAttribute_unbound
    {parts : List (QName × String)}
    {label : String}
    (hFirst :
      FirstUnbound scopes label (parts.map Prod.fst)) :
    parts.mapM t.resolveAttribute =
      .error (.unboundPrefix label) := by
  induction parts with
  | nil => cases hFirst
  | cons part parts ih =>
      rw [List.mapM_cons]
      cases hFirst with
      | here hLabel hUnbound =>
          rw [resolveAttribute_unbound hOnce hBound hLabel
            hUnbound]
          rfl
      | later hNames hRest =>
          rcases resolveAttribute_bound hOnce hBound
            hNames with ⟨a, hPart⟩
          rw [hPart, ih hRest]
          rfl

theorem mapM_resolveAttribute_bound
    {parts : List (QName × String)}
    (hNames : AllBound scopes (parts.map Prod.fst)) :
    ∃ attributes,
      parts.mapM t.resolveAttribute = .ok attributes := by
  induction parts with
  | nil => exact ⟨[], rfl⟩
  | cons part parts ih =>
      unfold AllBound at hNames
      rw [List.map_cons, List.forall_mem_cons] at hNames
      rcases resolveAttribute_bound hOnce hBound hNames.1 with
        ⟨a, hPart⟩
      rcases ih hNames.2 with ⟨attributes, hParts⟩
      refine ⟨a :: attributes, ?_⟩
      rw [List.mapM_cons, hPart, hParts]
      rfl

/-
  A start tag is refused for the first of its names whose
  prefix stands for nothing.
-/
theorem resolveStartTag_unbound
    {name : QName}
    {attributes : List TagAttribute}
    {label : String}
    (hFirst :
      FirstUnbound scopes label (namesOf name attributes)) :
    t.resolveStartTag name attributes =
      .error (.unboundPrefix label) := by
  unfold resolveStartTag
  cases hFirst with
  | here hLabel hUnbound =>
      rw [elementName_unbound hOnce hBound hLabel hUnbound]
      rfl
  | later hNames hRest =>
      rcases elementName_bound hOnce hBound hNames with
        ⟨resolved, hName⟩
      rw [hName, mapM_resolveAttribute_unbound hOnce hBound
        hRest]
      rfl

theorem resolveStartTag_bound
    {name : QName}
    {attributes : List TagAttribute}
    (hNames : AllBound scopes (namesOf name attributes)) :
    ∃ tag, t.resolveStartTag name attributes = .ok tag := by
  unfold AllBound namesOf at hNames
  rw [List.forall_mem_cons] at hNames
  rcases elementName_bound hOnce hBound hNames.1 with
    ⟨resolved, hName⟩
  rcases mapM_resolveAttribute_bound hOnce hBound
    hNames.2 with ⟨others, hOthers⟩
  unfold resolveStartTag
  rw [hName, hOthers]
  exact ⟨_, rfl⟩

end Scoped

theorem resolveStartTag_written
    {t : Tokenizer}
    {name : QName}
    {attributes : List TagAttribute}
    {tag : StartTag}
    (hTag : t.resolveStartTag name attributes = .ok tag) :
    tag.WrittenAs name attributes where
  name := resolveElement_toQName (resolveStartTag_ok hTag).1
  declarations := (resolveStartTag_ok hTag).2
  others :=
    (mapM_resolveAttribute_ok
      (resolveStartTag_attributes hTag)).1.symm

end Tokenizer

end RdfXml
