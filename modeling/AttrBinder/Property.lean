/-!
Bindable properties: the event that reports a change of the property, and the kind of value it
holds.
-/

namespace AttrBinder

inductive ValueKind where
  | boolean
  | string
deriving DecidableEq, Repr, Inhabited

namespace ValueKind

def typeName : ValueKind → String
  | boolean => "bool"
  | string => "str"

def name : ValueKind → String
  | boolean => "BOOLEAN"
  | string => "STRING"

def toNative (k : ValueKind) : String :=
  "to_native_" ++ k.typeName

def fromNative (k : ValueKind) : String :=
  "from_native_" ++ k.typeName

def text (k : ValueKind) : String :=
  "<ValueKind." ++ k.name ++ ": '" ++ k.typeName ++ "'>"

/-- The kind that a word names, in any case. The four words have ASCII letters only and no other
character has one of these letters as its lower case, so lowering ASCII is enough. -/
def ofWord? (word : String) : Option ValueKind :=
  let w := String.ofList (word.toList.map Char.toLower)
  if w == "bool" || w == "boolean" then some boolean
  else if w == "str" || w == "string" then some string
  else none

end ValueKind

structure PropertyDescriptor where
  event : String
  kind : ValueKind
deriving DecidableEq, Repr, Inhabited

namespace PropertyDescriptor

def text (d : PropertyDescriptor) : String :=
  "PropertyDescriptor(event='" ++ d.event ++ "', kind=" ++ d.kind.text ++ ")"

def ofProperty? (property : String) : Option PropertyDescriptor :=
  if property == "value" then some ⟨"input", .string⟩
  else if property == "checked" then some ⟨"change", .boolean⟩
  else none

end PropertyDescriptor

end AttrBinder
