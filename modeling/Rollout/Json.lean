/-!
# JSON values

A number keeps the literal it was written as, so that `1` and `1.0` stay apart. An object keeps its members in the order
they were written; of several members with one name, `member?` finds the last.
-/

namespace Rollout

inductive Json where
  | null
  | bool (b : Bool)
  | number (literal : String)
  | string (s : String)
  | array (items : List Json)
  | object (members : List (String × Json))
deriving Inhabited

namespace Json

def string? : Json → Option String
  | .string s => some s
  | _ => none

def bool? : Json → Option Bool
  | .bool b => some b
  | _ => none

def array? : Json → Option (List Json)
  | .array items => some items
  | _ => none

def object? : Json → Option (List (String × Json))
  | .object members => some members
  | _ => none

def member? (j : Json) (name : String) : Option Json :=
  match j with
  | .object members => (members.reverse.find? (·.1 = name)).map (·.2)
  | _ => none

/-- The value of a number written with digits alone. -/
def nat? : Json → Option Nat
  | .number literal => if literal.toList.all Char.isDigit then literal.toNat? else none
  | _ => none

/-- The value of a number written without fraction and exponent. The literal `-0` is no integer. -/
def int? : Json → Option Int
  | .number literal =>
    match literal.toList with
    | '-' :: ds =>
      if ds.all Char.isDigit then
        match (String.ofList ds).toNat? with
        | some (n + 1) => some (Int.negSucc n)
        | _ => none
      else none
    | ds => if ds.all Char.isDigit then literal.toNat?.map Int.ofNat else none
  | _ => none

def ofNat (n : Nat) : Json := .number (toString n)

def ofOption (encode : α → Json) : Option α → Json
  | none => .null
  | some a => encode a

end Json

end Rollout
