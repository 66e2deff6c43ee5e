/-!
Bodies and payloads are arrays of bytes. Two of them are equal when they hold
the same bytes in the same order.
-/

namespace VersionedStore

instance bytesDecidableEq : DecidableEq ByteArray := fun a b =>
  decidable_of_iff (a.data = b.data) ⟨fun h => by cases a; cases b; cases h; rfl, congrArg _⟩

end VersionedStore
