import Rollout.Json
import Rollout.Text.Dict

/-!
# JSON forms of values

`Codec.ofJson?` reads a value from its JSON form and `Codec.toJson` writes it. A record is read from an object, in which
other members do no harm, or from an array of exactly its fields in order; a field without a value reads as null.
-/

namespace Rollout

class Codec (α : Type) where
  ofJson? : Json → Option α
  toJson : α → Json

export Codec (ofJson? toJson)

namespace Codec

variable {α : Type}

instance : Codec String := ⟨Json.string?, .string⟩

instance [Codec α] : Codec (Option α) where
  ofJson?
    | .null => some none
    | j => (ofJson? j).map some
  toJson
    | none => .null
    | some a => toJson a

instance [Codec α] : Codec (Text.Dict α) where
  ofJson? j := do
    let members ← j.object?
    Text.Dict.ofList <$> members.mapM fun (k, v) => (ofJson? v).map (k, ·)
  toJson d := .object (d.entries.map fun (k, v) => (k, toJson v))

/-- The fields of a record with the given names. -/
def fields? (names : List String) : Json → Option (List Json)
  | .object members => some (names.map fun n => ((Json.object members).member? n).getD .null)
  | .array items => if items.length = names.length then some items else none
  | _ => none

/-- The word that names one of several cases: a string, or the only member of an object, with null as its value. -/
def word? : Json → Option String
  | .string s => some s
  | .object [(name, .null)] => some name
  | _ => none

end Codec

end Rollout
