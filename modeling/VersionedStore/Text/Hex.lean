/-!
Bytes as pairs of hexadecimal digits.
-/

namespace VersionedStore.Text

def hex (bytes : List UInt8) : String :=
  String.ofList (bytes.flatMap fun b => [Nat.digitChar (b.toNat / 16), Nat.digitChar (b.toNat % 16)])

end VersionedStore.Text
