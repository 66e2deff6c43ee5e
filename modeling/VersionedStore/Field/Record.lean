import VersionedStore.Field.Basic

/-!
Checks of lists and records. Every element and every field is checked, and the
issues come in the order of the elements and of the declared fields.
-/

namespace VersionedStore.Field

def elements {α : Type} (read : Raw → Checked α) : Nat → List Raw → Checked (List α)
  | _, [] => .ok []
  | i, r :: rs =>
    (Checked.inside (.index i) (read r)).map List.cons |> Checked.also (elements read (i + 1) rs)

def list {α : Type} (read : Raw → Checked α) : Raw → Checked (List α)
  | .list items => elements read 0 items
  | _ => fail .notList

/-- The value of a member; of members with one name the last counts. -/
def lookup? (name : String) (members : List (String × Raw)) : Option Raw :=
  (members.reverse.find? fun m => m.1 == name).map (·.2)

def required {α : Type} (members : List (String × Raw)) (name : String)
    (read : Raw → Checked α) : Checked α :=
  Checked.inside (.name name)
    (match lookup? name members with
     | some r => read r
     | none => fail .missing)

def withDefault {α : Type} (members : List (String × Raw)) (name : String) (default : α)
    (read : Raw → Checked α) : Checked α :=
  match lookup? name members with
  | some r => Checked.inside (.name name) (read r)
  | none => .ok default

def record {α : Type} (read : List (String × Raw) → Checked α) : Raw → Checked α
  | .record members => read members
  | _ => fail .notRecord

/-- Fields of a record that has been built are never assigned. -/
def assign {α : Type} (name : String) : Checked α := .error [⟨.frozen, [.name name]⟩]

end VersionedStore.Field
