/-
# TestDiscovery.Selector.Basic -- what to look for tests in

A selector names a package, a class, a method, a path or the unique id of a test.
Names are taken as they are: nothing is resolved and no path is looked at.
Selectors are equal (`==`) when their kinds and names are; paths are compared by
components.
-/
import TestDiscovery.Selector.Method

namespace TestDiscovery

set_option autoImplicit false

/-- How a class was named: by a type of the program, or by a plain name. -/
inductive ClassOrigin where
  | type
  | name
  deriving DecidableEq, Repr

/-- The word for the origin. -/
def ClassOrigin.word : ClassOrigin → String
  | .type => "type"
  | .name => "name"

/-- A class by its name. -/
structure ClassSelector where
  className : String
  origin : ClassOrigin
  deriving DecidableEq, Repr

/-- The kinds of selector. -/
inductive SelectorKind where
  | package
  | namedClass
  | method
  | path
  | uniqueId
  deriving DecidableEq, Repr

/-- The word for the kind. -/
def SelectorKind.word : SelectorKind → String
  | .package => "package"
  | .namedClass => "class"
  | .method => "method"
  | .path => "path"
  | .uniqueId => "unique-id"

/-- One target of discovery. -/
inductive Selector where
  | package (name : String)
  | namedClass (c : ClassSelector)
  | method (m : MethodSelector)
  | path (p : Path)
  | uniqueId (id : String)
  deriving Repr, BEq

namespace Selector

/-- A class by a plain name. -/
def className (name : String) : Selector := .namedClass ⟨name, .name⟩

/-- A method without parameter types. -/
def methodName (className methodName : String) : Selector :=
  .method ⟨className, methodName, none⟩

/-- The kind of the selector. -/
def kind : Selector → SelectorKind
  | .package _ => .package
  | .namedClass _ => .namedClass
  | .method _ => .method
  | .path _ => .path
  | .uniqueId _ => .uniqueId

/-- What the selector names, without its kind. -/
def label : Selector → String
  | .package name => name
  | .namedClass c => c.className
  | .method m => m.text
  | .path p => p.display
  | .uniqueId id => id

/-- The selector as listings show it. -/
def display (s : Selector) : String := s.kind.word ++ ":" ++ s.label

/-! ## Selectors of one kind -/

/-- The package that the selector names. -/
def asPackage? : Selector → Option String
  | .package name => some name
  | _ => none

/-- The class that the selector names. -/
def asClass? : Selector → Option ClassSelector
  | .namedClass c => some c
  | _ => none

/-- The method that the selector names. -/
def asMethod? : Selector → Option MethodSelector
  | .method m => some m
  | _ => none

/-- The path that the selector names. -/
def asPath? : Selector → Option Path
  | .path p => some p
  | _ => none

/-- The unique id that the selector names. -/
def asUniqueId? : Selector → Option String
  | .uniqueId id => some id
  | _ => none

end Selector

end TestDiscovery
