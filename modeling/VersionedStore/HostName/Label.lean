import VersionedStore.HostName.Permitted
import VersionedStore.HostName.Context
import VersionedStore.HostName.Direction
import VersionedStore.HostName.Punycode
import VersionedStore.Text.Normal
import VersionedStore.Text.Ascii
import VersionedStore.Failure.Fault

/-!
Labels, the parts of a host name between its dots. A label with characters
beyond ASCII has two forms: the one that people read, and one in ASCII with a
mark at its front. The form in ASCII spells code points, which need not be
characters. The readable form is checked in a fixed order: composed text,
hyphens, the first code point, each code point where it stands, and the
direction as a whole.
-/

namespace VersionedStore.HostName

inductive LabelFault where
  | empty
  | notComposed
  | hyphenPair
  | outerHyphen
  | leadingMark
  | character (n : Nat) (position : Nat) (label : List Nat)
  | joiner (n : Nat) (position : Nat) (label : List Nat)
  | besideJoiner (n : Nat) (position : Nat) (label : List Nat)
  | context (n : Nat) (position : Nat) (label : List Nat)
  | direction (fault : DirectionFault) (label : List Nat)
  | noContent
  | endsWithHyphen
  | notEncoded
  | notCanonical
  | tooLong
  deriving DecidableEq, Repr

def codePoint (n : Nat) : String :=
  String.ofList ('U' :: '+' :: (Text.hexPadded 4 n).map Char.toUpper)

namespace DirectionFault

def message (label : List Nat) : DirectionFault → String
  | .unknown position =>
    "Unknown directionality in label " ++ Text.quotedCodes label ++
      " at position " ++ position.repr
  | .start =>
    "First codepoint in label " ++ Text.quotedCodes label ++ " must be directionality L, R or AL"
  | .inRightToLeft position =>
    "Invalid direction for codepoint at position " ++ position.repr ++ " in a right-to-left label"
  | .inLeftToRight position =>
    "Invalid direction for codepoint at position " ++ position.repr ++ " in a left-to-right label"
  | .mixedNumbers => "Can not mix numeral types in a right-to-left label"
  | .ending => "Label ends with illegal codepoint directionality"

end DirectionFault

namespace LabelFault

def message : LabelFault → String
  | .empty => "Empty Label"
  | .notComposed => "Label must be in Normalization Form C"
  | .hyphenPair => "Label has disallowed hyphens in 3rd and 4th position"
  | .outerHyphen => "Label must not start or end with a hyphen"
  | .leadingMark => "Label begins with an illegal combining character"
  | .character n position label =>
    "Codepoint " ++ codePoint n ++ " at position " ++ position.repr ++ " of " ++
      Text.quotedCodes label ++ " not allowed"
  | .joiner n position label =>
    "Joiner " ++ codePoint n ++ " not allowed at position " ++ position.repr ++ " in " ++
      Text.quotedCodes label
  | .besideJoiner n position label =>
    "Unknown codepoint adjacent to joiner " ++ codePoint n ++ " at position " ++ position.repr ++
      " in " ++ Text.quotedCodes label
  | .context n position label =>
    "Codepoint " ++ codePoint n ++ " not allowed at position " ++ position.repr ++ " in " ++
      Text.quotedCodes label
  | .direction fault label => fault.message label
  | .noContent => "Malformed A-label, no Punycode eligible content found"
  | .endsWithHyphen => "A-label must not end with a hyphen"
  | .notEncoded => "Invalid A-label"
  | .notCanonical => "A-label is not the canonical Punycode encoding of its U-label"
  | .tooLong => "Label too long"

def toFault (f : LabelFault) : Fault :=
  ⟨match f with
    | .character .. => .hostNameCharacter
    | .joiner .. | .context .. => .hostNameContext
    | .direction .. => .hostNameDirection
    | _ => .hostName,
    f.message⟩

end LabelFault

def maxLabel : Nat := 63

def asciiMark : List Char := "xn--".toList

def hyphen : Nat := '-'.toNat

/-- The first code point of `ns` that may not stand where it stands in `label`.
Those before it come last one first. What a joiner does is not known after a
code point without a combining class. -/
def characterFault? (label before : List Nat) : List Nat → Option LabelFault
  | [] => none
  | n :: ns =>
    let position := before.length + 1
    if isPermitted n then characterFault? label (n :: before) ns
    else if isJoiner n then
      if startsWith (!hasClass ·) before then some (.besideJoiner n position label)
      else if joinerFits before n ns then characterFault? label (n :: before) ns
      else some (.joiner n position label)
    else if isContextual n then
      if contextFits before n ns then characterFault? label (n :: before) ns
      else some (.context n position label)
    else some (.character n position label)

def labelFault? (label : List Nat) : Option LabelFault :=
  if label = [] then some .empty
  else if !Text.isComposed label then some .notComposed
  else if (label.drop 2).take 2 = [hyphen, hyphen] then some .hyphenPair
  else if label.head? = some hyphen ∨ label.getLast? = some hyphen then some .outerHyphen
  else if startsWith Text.isMark label then some .leadingMark
  else
    (characterFault? label [] label).or
      ((directionFault? (label.map direction?)).map fun f => .direction f label)

def checkedLabel (label : List Nat) : Except LabelFault (List Nat) :=
  match labelFault? label with
  | some f => .error f
  | none => .ok label

/-- The code points that the content of a label in ASCII spells, which it has to
spell in the one way in which they are written. -/
def spelt (content : List Char) : Except LabelFault (List Nat) :=
  if content = [] then .error .noContent
  else if content.getLast? = some '-' then .error .endsWithHyphen
  else
    match Punycode.decode? content with
    | none => .error .notEncoded
    | some label => if Punycode.encode label = content then .ok label else .error .notCanonical

def readable (label : List Char) : Except LabelFault (List Nat) := do
  let label := label.map Char.toLower
  if asciiMark.isPrefixOf label then
    checkedLabel (← spelt (label.drop asciiMark.length))
  else checkedLabel (label.map Char.toNat)

/-- The form of a label in ASCII. A label that is too long to read is too long
to write. -/
def inAscii (label : List Char) : Except LabelFault (List Char) :=
  if maxLabel < label.length then .error .tooLong
  else if label.all Text.isAscii then do
    let _ ← readable label
    return label
  else do
    let codes ← checkedLabel (label.map Char.toNat)
    let written := asciiMark ++ Punycode.encode codes
    if maxLabel < written.length then throw .tooLong
    return written

end VersionedStore.HostName
