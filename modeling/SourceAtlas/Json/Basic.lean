import SourceAtlas.Association
import SourceAtlas.Decimal

/-!
JSON values. An object keeps its members in the order of their first appearance, each name once.
-/

namespace SourceAtlas

/-- A number as it is written: a whole number, a decimal fraction, or one of the three words that stand
for no finite number. -/
inductive Json.Number where
  | int (n : Int)
  | decimal (d : Decimal)
  | infinity (negative : Bool)
  | undefined
deriving DecidableEq, Repr

/-- A JSON value. -/
inductive Json where
  | null
  | bool (b : Bool)
  | number (n : Json.Number)
  | string (t : Text)
  | array (items : List Json)
  | object (members : List (Text × Json))

namespace Json

instance : Inhabited Json := ⟨.null⟩

/-! ## Equality -/

mutual

/-- Are two values the same? -/
def same : Json → Json → Bool
  | .null, .null => true
  | .bool a, .bool b => a = b
  | .number a, .number b => a = b
  | .string a, .string b => a = b
  | .array a, .array b => sameItems a b
  | .object a, .object b => sameMembers a b
  | _, _ => false

/-- Are two sequences of items the same? -/
def sameItems : List Json → List Json → Bool
  | [], [] => true
  | a :: as, b :: bs => same a b && sameItems as bs
  | _, _ => false

/-- Are two sequences of members the same, in this order? -/
def sameMembers : List (Text × Json) → List (Text × Json) → Bool
  | [], [] => true
  | (k, a) :: as, (l, b) :: bs => k = l && same a b && sameMembers as bs
  | _, _ => false

end

/-- The value of a member, if there is one of that name. -/
def member? (name : Text) (members : List (Text × Json)) : Option Json := Association.find? name members

/-! ## Kinds -/

/-- Does a value count as nothing? So do `null`, `false`, zero and everything empty. -/
def isBlank : Json → Bool
  | .null => true
  | .bool b => !b
  | .number (.int n) => n = 0
  | .number (.decimal d) => (Binary.ofDecimal d).isZero
  | .number _ => false
  | .string t => t.isEmpty
  | .array items => items.isEmpty
  | .object members => members.isEmpty

/-- The name by which messages call the kind of a value. -/
def kindName : Json → Text
  | .null => "NoneType"
  | .bool _ => "bool"
  | .number (.int _) => "int"
  | .number _ => "float"
  | .string _ => "str"
  | .array _ => "list"
  | .object _ => "dict"

end Json

end SourceAtlas
