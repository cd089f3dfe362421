import ReisOs.Core.Documents

/-!
# Documents with sorted keys

What a writer that sorts keys makes of a document: the members of every object come in the
order of their keys.
-/

namespace ReisOs.Core

open PyValue (sortKeys)

variable {N : Type}

mutual

/-- The document with the members of all objects in the order of their keys. -/
def canonical : Json N → Json N
  | .null => .null
  | .bool value => .bool value
  | .number value => .number value
  | .string value => .string value
  | .array items => .array (canonicalItems items)
  | .object fields => .object (sortKeys (canonicalFields fields))

def canonicalItems : List (Json N) → List (Json N)
  | [] => []
  | item :: items => canonical item :: canonicalItems items

def canonicalFields : List (String × Json N) → List (String × Json N)
  | [] => []
  | (key, item) :: fields => (key, canonical item) :: canonicalFields fields

end

end ReisOs.Core
