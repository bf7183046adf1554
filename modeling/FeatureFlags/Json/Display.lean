import FeatureFlags.Json
import FeatureFlags.Text.Quoted

/-!
# Displayed values

How a value is shown inside a message. A string stands for itself, but inside a list or an object
it is quoted; truth values are `True` and `False`, nothing is `None`.
-/

namespace FeatureFlags.Json

/-- The texts between a separator of a comma and a space. -/
def commaSeparated : List (List Char) → List Char
  | [] => []
  | [cs] => cs
  | cs :: rest => cs ++ ',' :: ' ' :: commaSeparated rest

mutual

/-- A value as it is shown inside a list; `quote` shows strings. -/
def shownWith (quote : String → String) : Json → List Char
  | .null => "None".toList
  | .bool b => (if b then "True" else "False").toList
  | .int i => (toString i).toList
  | .real x => x.toText.toList
  | .string s => (quote s).toList
  | .unpaired => (quote "\ufffd").toList
  | .array items => '[' :: commaSeparated (shownItems quote items) ++ [']']
  | .object members => '\x7b' :: commaSeparated (shownMembers quote members) ++ ['\x7d']

def shownItems (quote : String → String) : List Json → List (List Char)
  | [] => []
  | v :: rest => shownWith quote v :: shownItems quote rest

def shownMembers (quote : String → String) : List (String × Json) → List (List Char)
  | [] => []
  | (name, v) :: rest =>
    ((quote name).toList ++ ':' :: ' ' :: shownWith quote v) :: shownMembers quote rest

end

/-- A value with its strings quoted (`repr`). -/
def shown (v : Json) : String := String.ofList (shownWith Text.quoted v)

/-- A value with its strings quoted in printable ASCII. -/
def shownAscii (v : Json) : String := String.ofList (shownWith Text.quotedAscii v)

/-- A value as part of a sentence (`str`): a string stands for itself. -/
def display : Json → String
  | .string s => s
  | v => shown v

/-- The kind of a value, as messages call it. -/
def kindName : Json → String
  | .null => "NoneType"
  | .bool _ => "bool"
  | .int _ => "int"
  | .real _ => "float"
  | .string _ => "str"
  | .unpaired => "str"
  | .array _ => "list"
  | .object _ => "dict"

end FeatureFlags.Json
