/-
# TestDiscovery.Unicode.Property -- asking for characters by a property name

A question names a property, a category or a script, or a property together with
one of its values.  Names are compared loosely: letter case, blanks, hyphens,
underscores, characters outside ASCII and a leading `is` make no difference.

Which names there are, and which characters have a property, depends on the version
of the standard.  All tables here are those of Unicode 15.0.  A pattern matcher that
carries a later version knows more characters, scripts and ages; patterns that ask
for these, or names with such characters, are outside what is said here.
-/
import TestDiscovery.Unicode.Age
import TestDiscovery.Unicode.Break
import TestDiscovery.Unicode.Script

namespace TestDiscovery.Unicode

set_option autoImplicit false

/-- The characters that make up words: letters, marks, digits, connectors and joiners. -/
def wordCharacter : CharSet :=
  .unions [alphabetic, mark, decimalNumber, connectorPunctuation, joinControl]

/-- The name without what a loose comparison ignores. -/
def looseChars (cs : List Char) : List Char :=
  (cs.filter fun c => c != ' ' && c != '_' && c != '-' && c.toNat < 0x80).map Char.toLower

/-- The loose form of a name.  A leading `is` is dropped, but `isc` is kept, since it would
otherwise read as the category `C`. -/
def looseName : List Char → String
  | i :: s :: rest =>
    if (i == 'i' || i == 'I') && (s == 's' || s == 'S') then
      let name := String.ofList (looseChars rest)
      if name = "c" then "isc" else name
    else String.ofList (looseChars (i :: s :: rest))
  | cs => String.ofList (looseChars cs)

/-- A question for the characters of a property. -/
inductive PropertyQuery where
  /-- A binary property, a general category or a script. -/
  | named (name : List Char)
  /-- A property that takes a value. -/
  | valued (name value : List Char)
  deriving DecidableEq, Repr

/-- The set listed under a name. -/
def listed? (table : List (List String × CharSet)) (name : String) : Option CharSet :=
  (table.find? fun (names, _) => names.contains name).map Prod.snd

/-- The set of a name alone.  `cf`, `sc` and `lc` are read as categories. -/
def namedSet? (name : String) : Option CharSet :=
  (if name = "cf" ∨ name = "sc" ∨ name = "lc" then none else listed? binaryProperties name)
    <|> listed? generalCategories name
    <|> (script? name).map Script.set

/-- The set of a property with a value. -/
def valuedSet? (name value : String) : Option CharSet :=
  match name with
  | "generalcategory" | "gc" => listed? generalCategories value
  | "script" | "sc" => (script? value).map Script.set
  | "scriptextensions" | "scx" => (script? value).map Script.extensions
  | "age" => age? value
  | "graphemeclusterbreak" | "gcb" => listed? graphemeClusterBreaks value
  | "sentencebreak" | "sb" => listed? sentenceBreaks value
  | "wordbreak" | "wb" => listed? wordBreaks value
  | _ => none

/-- The characters that a question asks for, or `none` when it names nothing known. -/
def PropertyQuery.set? : PropertyQuery → Option CharSet
  | .named name => namedSet? (looseName name)
  | .valued name value => valuedSet? (looseName name) (looseName value)

end TestDiscovery.Unicode
