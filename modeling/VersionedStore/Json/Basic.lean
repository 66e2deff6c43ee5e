import VersionedStore.Number.Decimal

/-!
Values of the data format JSON. Numbers keep the value that their text denotes:
a numeral without fraction and exponent is an integer of any size, every other
one a decimal or one of the three names beyond the decimals. The members of an
object stay in the order of the text, repeated names included.
-/

namespace VersionedStore

inductive Json where
  | null
  | bool (b : Bool)
  | integer (n : Int)
  | real (x : Numeral)
  | string (s : String)
  | array (items : List Json)
  | object (members : List (String × Json))
  deriving Inhabited, Repr

end VersionedStore
