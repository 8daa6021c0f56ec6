import RegisterMap.Xml.Scan

/-!
# Namespaces

An attribute named `xmlns`, or qualified with it, binds a qualifier to the name of a
namespace for the element it stands on and everything inside. A name in a namespace
becomes `{uri}name`, so it can never be taken for a name without one. A qualifier
that is not bound is an error, and so is an attribute that occurs twice, whichever
way its name is written.
-/

namespace RegisterMap.Xml

/-- The namespaces that qualifiers are bound to, the innermost binding in front. The
namespace of names without a qualifier is bound to no qualifier. -/
abbrev Scope := List (Option String × String)

namespace Scope

/-- The namespace of the names that the language itself gives meaning to. -/
def languageUri : String := "http://www.w3.org/XML/1998/namespace"

/-- The namespace of the attributes that bind qualifiers. -/
def bindingUri : String := "http://www.w3.org/2000/xmlns/"

/-- The bindings around the root element. -/
def initial : Scope := [(some "xml", languageUri)]

/-- The binding that an attribute makes. -/
def bindingOf? : QualifiedName × String → Option (Option String × String)
  | ({ qualifier := none, name := "xmlns" }, uri) => some (none, uri)
  | ({ qualifier := some "xmlns", name }, uri) => some (some name, uri)
  | _ => none

/-- Whether a binding may be made. Only names without a qualifier can be taken out of
their namespace, the two names of the language are kept for it, and a closing brace
would end the name of the namespace early. -/
def isLegal (binding : Option String × String) : Bool :=
  let (qualifier, uri) := binding
  (qualifier.isNone || uri ≠ "") && qualifier ≠ some "xmlns"
    && (qualifier = some "xml") = (uri = languageUri) && uri ≠ bindingUri
    && !uri.toList.contains '\x7d'

/-- A name with the name of its namespace in front. -/
def expanded (uri name : String) : String := "\x7b" ++ uri ++ "\x7d" ++ name

/-- The name of an element, with its namespace. -/
def elementName? (scope : Scope) (name : QualifiedName) : Option String :=
  match name.qualifier, scope.lookup name.qualifier with
  | none, none => some name.name
  | none, some uri => some (if uri = "" then name.name else expanded uri name.name)
  | some _, none => none
  | some _, some uri => some (expanded uri name.name)

/-- The name of an attribute, with its namespace. An attribute without a qualifier is
in none. -/
def attributeName? (scope : Scope) (name : QualifiedName) : Option String :=
  match name.qualifier with
  | none => some name.name
  | some _ => (scope.lookup name.qualifier).map (expanded · name.name)

/-- Whether the elements of a list are different. -/
def allDifferent [BEq α] : List α → Bool
  | [] => true
  | a :: rest => !rest.contains a && allDifferent rest

/-- The bindings inside an element with some attributes. -/
def enter? (scope : Scope) (attributes : List (QualifiedName × String)) : Option Scope :=
  let bindings := attributes.filterMap bindingOf?
  if bindings.all isLegal then some (bindings ++ scope) else none

/-- The attributes of an element that bind nothing, with their namespaces. -/
def attributes? (scope : Scope) (attributes : List (QualifiedName × String)) :
    Option (List (String × String)) := do
  if !allDifferent (attributes.map (·.1)) then none
  else
    let others := attributes.filter fun a => (bindingOf? a).isNone
    let named ← others.mapM fun (name, value) => do return (← attributeName? scope name, value)
    if allDifferent (named.map (·.1)) then some named else none

end Scope

end RegisterMap.Xml
