import VersionedStore.HostName.Label
import VersionedStore.Text.Lowercase

/-!
Host names as rows of labels. Four characters count as the dot between labels,
and one dot may stand at the end. A name is written in ASCII for the wire and
is shown in its readable form where it starts with a label in ASCII.
-/

namespace VersionedStore.HostName

inductive NameFault where
  | emptyName
  | label (fault : LabelFault)
  | tooLong
  deriving DecidableEq, Repr

def NameFault.toFault : NameFault → Fault
  | .emptyName => ⟨.hostName, "Empty domain"⟩
  | .label f => f.toFault
  | .tooLong => ⟨.hostName, "Domain too long"⟩

/-- The longest name, in ASCII characters and without a dot at its end. -/
def maxName : Nat := 253

def isDot (c : Char) : Bool := c == '.' || c == '。' || c == '．' || c == '｡'

def cutAtDots : List Char → List (List Char)
  | [] => [[]]
  | c :: cs =>
    if isDot c then [] :: cutAtDots cs
    else
      match cutAtDots cs with
      | [] => [[c]]
      | label :: labels => (c :: label) :: labels

def labels (cs : List Char) : Except NameFault (List (List Char) × Bool) :=
  let parts := cutAtDots cs
  if parts = [[]] then .error .emptyName
  else if parts.getLast? = some [] then .ok (parts.dropLast, true)
  else .ok (parts, false)

def joinLabels : List (List Char) → List Char
  | [] => []
  | [label] => label
  | label :: labels => label ++ '.' :: joinLabels labels

def mapLabels (f : List Char → Except LabelFault (List Char)) (cs : List Char) :
    Except NameFault (List Char × Bool) := do
  let (parts, dotted) ← labels cs
  let parts ← (parts.mapM f).mapError .label
  return (joinLabels parts ++ (if dotted then ['.'] else []), dotted)

def toAscii (cs : List Char) : Except NameFault (List Char) := do
  let (name, dotted) ← mapLabels inAscii (Text.lower cs)
  if (if dotted then maxName + 1 else maxName) < name.length then throw .tooLong
  return name

/-- A label as it is shown. A code point that a label may hold is a character. -/
def shown (label : List Char) : Except LabelFault (List Char) :=
  (readable label).map fun codes => codes.map Char.ofNat

def toUnicode (cs : List Char) : Except NameFault (List Char) :=
  if !asciiMark.isPrefixOf cs then .ok cs
  else if maxName + 1 < cs.length then .error .tooLong
  else (mapLabels shown cs).map (·.1)

end VersionedStore.HostName
