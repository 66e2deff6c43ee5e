import Mathlib.Data.Int.Notation
import Mathlib.Data.Nat.Notation
import VersionedStore.Json.Basic

/-!
The language of JSON bodies as a grammar, which says of a row of characters which
value it denotes. It is the grammar of RFC 8259 with three more words, and with
limits on the length of numbers and on the nesting of containers. Each container
stands at a level, the outermost at level one.
-/

namespace VersionedStore.Json.Grammar

def Gap (g : List Char) : Prop :=
  ∀ c ∈ g, c = ' ' ∨ c = '\t' ∨ c = '\n' ∨ c = '\r'

inductive Word : List Char → Json → Prop where
  | null : Word "null".toList .null
  | true : Word "true".toList (.bool true)
  | false : Word "false".toList (.bool false)
  | nan : Word "NaN".toList (.real .nan)
  | infinity : Word "Infinity".toList (.real (.infinite false))
  | negativeInfinity : Word "-Infinity".toList (.real (.infinite true))

def Digits (ds : List Char) : Prop :=
  ds ≠ [] ∧ ∀ c ∈ ds, c.isDigit = true

def decimal (ds : List Char) : ℕ := Nat.ofDigitChars 10 ds 0

/-- The whole part of a number: zero alone, or digits that do not start with it. -/
structure Whole (ds : List Char) : Prop where
  digits : Digits ds
  zero : ds.head? = some '0' → ds = ['0']
  short : ds.length ≤ 4300

inductive Fraction : List Char → List Char → Prop where
  | absent : Fraction [] []
  | present {fs : List Char} (h : Digits fs) : Fraction ('.' :: fs) fs

inductive Sign : List Char → Bool → Prop where
  | absent : Sign [] false
  | plus : Sign ['+'] false
  | minus : Sign ['-'] true

inductive Exponent : List Char → ℤ → Prop where
  | absent : Exponent [] 0
  | present {e : Char} {s ds : List Char} {negative : Bool} (he : e = 'e' ∨ e = 'E')
    (hs : Sign s negative) (h : Digits ds) :
    Exponent (e :: (s ++ ds)) (Number.signed negative (decimal ds))

/-- A number after its sign. It is an integer if neither a fraction nor an
exponent follows the whole part. -/
inductive Magnitude (negative : Bool) : List Char → Json → Prop where
  | integer {ds : List Char} (h : Whole ds) :
    Magnitude negative ds (.integer (Number.signed negative (decimal ds)))
  | real {ds f fs x : List Char} {e : ℤ} (h : Whole ds) (hf : Fraction f fs) (hx : Exponent x e)
    (hne : f ++ x ≠ []) :
    Magnitude negative (ds ++ (f ++ x))
      (.real (.decimal ⟨negative, decimal (ds ++ fs), e - fs.length⟩))

def HexDigit (c : Char) (v : ℕ) : Prop :=
  v < 16 ∧ (c = Nat.digitChar v ∨ c = (Nat.digitChar v).toUpper)

def Hex (a b c d : Char) (n : ℕ) : Prop :=
  ∃ i j k l, HexDigit a i ∧ HexDigit b j ∧ HexDigit c k ∧ HexDigit d l ∧
    n = ((i * 16 + j) * 16 + k) * 16 + l

def shortEscapes : List (Char × Char) :=
  [('"', '"'), ('\\', '\\'), ('/', '/'), ('b', '\x08'), ('f', '\x0c'), ('n', '\n'), ('r', '\r'),
    ('t', '\t')]

/-- The text of a string between its quotes, with the characters that it
denotes. Four digits alone denote a character of the first plane, which is never
a half of a pair; two halves together denote a character beyond it. -/
inductive Characters : List Char → List Char → Prop where
  | nil : Characters [] []
  | plain {c : Char} {t s : List Char} (hcontrol : 0x20 ≤ c.toNat) (hquote : c ≠ '"')
    (hslash : c ≠ '\\') (h : Characters t s) : Characters (c :: t) (c :: s)
  | short {e c : Char} {t s : List Char} (he : (e, c) ∈ shortEscapes) (h : Characters t s) :
    Characters ('\\' :: e :: t) (c :: s)
  | unit {a b c d x : Char} {t s : List Char} (hx : Hex a b c d x.toNat) (h : Characters t s) :
    Characters ('\\' :: 'u' :: a :: b :: c :: d :: t) (x :: s)
  | pair {a b c d a' b' c' d' x : Char} {high low : ℕ} {t s : List Char}
    (hhigh : Hex a b c d high) (hlow : Hex a' b' c' d' low)
    (hrange : 0xd800 ≤ high ∧ high < 0xdc00) (hrange' : 0xdc00 ≤ low ∧ low < 0xe000)
    (hx : x.toNat = 0x10000 + (high - 0xd800) * 0x400 + (low - 0xdc00)) (h : Characters t s) :
    Characters ('\\' :: 'u' :: a :: b :: c :: d :: '\\' :: 'u' :: a' :: b' :: c' :: d' :: t)
      (x :: s)

mutual

/-- A value at a level, which is the level of the value itself if it is a
container. -/
inductive Value : ℕ → List Char → Json → Prop where
  | word {level : ℕ} {t : List Char} {j : Json} (h : Word t j) : Value level t j
  | positive {level : ℕ} {t : List Char} {j : Json} (h : Magnitude false t j) : Value level t j
  | negative {level : ℕ} {t : List Char} {j : Json} (h : Magnitude true t j) :
    Value level ('-' :: t) j
  | string {level : ℕ} {t s : List Char} (h : Characters t s) :
    Value level ('"' :: (t ++ ['"'])) (.string (String.ofList s))
  | emptyArray {level : ℕ} {g : List Char} (hlevel : level ≤ 201) (h : Gap g) :
    Value level ('[' :: (g ++ [']'])) (.array [])
  | array {level : ℕ} {t : List Char} {js : List Json} (hlevel : level ≤ 200)
    (h : Elements (level + 1) t js) : Value level ('[' :: (t ++ [']'])) (.array js)
  | emptyObject {level : ℕ} {g : List Char} (hlevel : level ≤ 201) (h : Gap g) :
    Value level ('{' :: (g ++ ['}'])) (.object [])
  | object {level : ℕ} {t : List Char} {ms : List (String × Json)} (hlevel : level ≤ 200)
    (h : Members (level + 1) t ms) : Value level ('{' :: (t ++ ['}'])) (.object ms)

inductive Elements : ℕ → List Char → List Json → Prop where
  | one {level : ℕ} {g t g' : List Char} {j : Json} (hg : Gap g) (h : Value level t j)
    (hg' : Gap g') : Elements level (g ++ (t ++ g')) [j]
  | cons {level : ℕ} {g t g' u : List Char} {j : Json} {js : List Json} (hg : Gap g)
    (h : Value level t j) (hg' : Gap g') (hs : Elements level u js) :
    Elements level (g ++ (t ++ (g' ++ ',' :: u))) (j :: js)

inductive Member : ℕ → List Char → String × Json → Prop where
  | mk {level : ℕ} {n s g g' t : List Char} {j : Json} (hn : Characters n s) (hg : Gap g)
    (hg' : Gap g') (h : Value level t j) :
    Member level ('"' :: (n ++ '"' :: (g ++ ':' :: (g' ++ t)))) (String.ofList s, j)

inductive Members : ℕ → List Char → List (String × Json) → Prop where
  | one {level : ℕ} {g t g' : List Char} {m : String × Json} (hg : Gap g) (h : Member level t m)
    (hg' : Gap g') : Members level (g ++ (t ++ g')) [m]
  | cons {level : ℕ} {g t g' u : List Char} {m : String × Json} {ms : List (String × Json)}
    (hg : Gap g) (h : Member level t m) (hg' : Gap g') (hs : Members level u ms) :
    Members level (g ++ (t ++ (g' ++ ',' :: u))) (m :: ms)

end

def Document (cs : List Char) (j : Json) : Prop :=
  ∃ g t g', Gap g ∧ Value 1 t j ∧ Gap g' ∧ cs = g ++ (t ++ g')

/-- A body of bytes that is a text in UTF-8 and denotes a value. A byte order
mark is no white space, so no such body starts with one. -/
def Denotes (body : ByteArray) (j : Json) : Prop :=
  ∃ s : String, s.toUTF8 = body ∧ Document s.toList j

end VersionedStore.Json.Grammar
