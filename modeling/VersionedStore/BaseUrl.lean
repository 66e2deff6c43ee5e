import VersionedStore.Url.Basic

/-!
The address of a store: an absolute URL with the scheme http or https. It is
used as it was written, without the slashes at its end.
-/

namespace VersionedStore

inductive BaseUrlFault where
  | unreadable (fault : UrlFault)
  | notAbsolute
  | badHost (fault : HostName.NameFault)
  deriving DecidableEq, Repr

def BaseUrlFault.toFault (text : String) : BaseUrlFault → Fault
  | .unreadable f => ⟨.badValue, complaint ++ ": " ++ f.message⟩
  | .notAbsolute => ⟨.badValue, complaint⟩
  | .badHost f => f.toFault
where
  complaint : String :=
    "VSS base URL must be an absolute http:// or https:// URL, got '" ++ text ++ "'"

namespace BaseUrl

def schemes : List String := ["http", "https"]

def fault? (text : String) : Option BaseUrlFault :=
  match Url.ofText text.toList with
  | .error f => some (.unreadable f)
  | .ok u =>
    if String.ofList u.scheme ∈ schemes then
      match HostName.toUnicode u.host with
      | .error f => some (.badHost f)
      | .ok host => if host = [] then some .notAbsolute else none
    else some .notAbsolute

def withoutSlashes (text : String) : String :=
  String.ofList (Text.trimEnd (· == '/') text.toList)

def check (text : String) : Except Fault String :=
  match fault? text with
  | some f => .error (f.toFault text)
  | none => .ok (withoutSlashes text)

end BaseUrl

end VersionedStore
