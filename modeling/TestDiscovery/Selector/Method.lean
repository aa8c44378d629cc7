/-
# TestDiscovery.Selector.Method -- methods and the text that names them

A method is written `Class#method`, or `Class#method(TypeA, TypeB)` with its
parameter types.  An empty list of types differs from none.  `parse` reads the
text and trims the parts; `text` writes it.
-/
import TestDiscovery.Fault
import TestDiscovery.Text.Blank
import TestDiscovery.Text.Cut

namespace TestDiscovery

set_option autoImplicit false

open TestDiscovery.Text

/-- A method of a class, with its parameter types if they were given. -/
structure MethodSelector where
  className : String
  methodName : String
  parameterTypes : Option (List String)
  deriving DecidableEq, Repr

namespace MethodSelector

/-- The written form of the method. -/
def text (m : MethodSelector) : String :=
  m.className ++ "#" ++ m.methodName ++
    match m.parameterTypes with
    | none => ""
    | some types => "(" ++ ", ".intercalate types ++ ")"

/-- The trimmed text of some characters, unless it is empty. -/
def filled? (cs : List Char) : Option String :=
  let name := String.ofList (trimChars cs)
  if name = "" then none else some name

/-- The types between the parentheses: none for a blank list, else the pieces between commas, of
which none may be blank. -/
def types? (cs : List Char) : Option (List String) :=
  if cs.all isSpace then some [] else (cs.splitOn ',').mapM filled?

/-- The types of a list whose opening parenthesis has been read: the closing one is the last
character, and there is no other parenthesis. -/
def typeList? (cs : List Char) : Option (List String) :=
  match cutAt ')' cs with
  | some (inside, []) => if '(' ∈ inside then none else types? inside
  | _ => none

/-- The method name and the types of the part after the number sign. -/
def member? (cs : List Char) : Option (String × Option (List String)) :=
  match cutAt '(' cs with
  | none => do return (← filled? cs, none)
  | some (name, list) => do
    let types ← typeList? list
    return (← filled? name, some types)

/-- The method that some characters write; there is exactly one number sign. -/
def ofChars? (cs : List Char) : Option MethodSelector :=
  match cutAt '#' cs with
  | none => none
  | some (cls, rest) =>
    if '#' ∈ rest then none
    else do
      let className ← filled? cls
      let (methodName, parameterTypes) ← member? rest
      return ⟨className, methodName, parameterTypes⟩

/-- The method that a text names. -/
def parse (text : String) : Except RequestFault MethodSelector :=
  match ofChars? text.toList with
  | some m => .ok m
  | none => .error (.malformedMethod text)

end MethodSelector

end TestDiscovery
