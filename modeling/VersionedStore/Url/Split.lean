/-!
How the text of a URL falls into parts. Every text does: the scheme ends at
the first colon if only scheme characters stand before it, two slashes open an
authority, and a question mark and a number sign open query and fragment. The
parts keep their characters as they are.
-/

namespace VersionedStore.Url

/-- The parts of the text of a URL, without the signs between them. A part
that may be there and empty is optional. -/
structure Parts where
  scheme : Option (List Char)
  authority : Option (List Char)
  path : List Char
  query : Option (List Char)
  fragment : Option (List Char)
  deriving DecidableEq, Repr

structure Authority where
  userinfo : List Char
  host : List Char
  port : List Char
  deriving DecidableEq, Repr

def isSchemeChar (c : Char) : Bool :=
  c.isAlphanum || c == '+' || c == '.' || c == '-'

/-- A scheme is empty or starts with a letter. -/
def isScheme (name : List Char) : Bool :=
  name.all isSchemeChar && (name.head?.map Char.isAlpha).getD true

def splitScheme (cs : List Char) : Option (List Char) × List Char :=
  match cs.span isSchemeChar with
  | (name, ':' :: rest) => if isScheme name then (some name, rest) else (none, cs)
  | _ => (none, cs)

def endsAuthority (c : Char) : Bool := c == '/' || c == '?' || c == '#'

def endsPath (c : Char) : Bool := c == '?' || c == '#'

def splitAuthority : List Char → Option (List Char) × List Char
  | '/' :: '/' :: cs =>
    let (authority, rest) := cs.span fun c => !endsAuthority c
    (some authority, rest)
  | cs => (none, cs)

def splitQuery : List Char → Option (List Char) × List Char
  | '?' :: cs =>
    let (query, rest) := cs.span (· != '#')
    (some query, rest)
  | cs => (none, cs)

def splitFragment : List Char → Option (List Char)
  | '#' :: cs => some cs
  | _ => none

def split (cs : List Char) : Parts :=
  let (scheme, cs) := splitScheme cs
  let (authority, cs) := splitAuthority cs
  let (path, cs) := cs.span fun c => !endsPath c
  let (query, cs) := splitQuery cs
  ⟨scheme, authority, path, query, splitFragment cs⟩

/-- A text cut at the last place where a character stands; nothing comes before
it if it stands nowhere. -/
def cutLast (c : Char) (cs : List Char) : List Char × List Char :=
  match cs.reverse.span (· != c) with
  | (after, _ :: before) => (before.reverse, after.reverse)
  | (_, []) => ([], cs)

/-- The host at the front of a text: up to the last closing bracket if it is
bracketed, else up to a colon. -/
def splitHost (cs : List Char) : List Char × List Char :=
  if cs.head? = some '[' ∧ ']' ∈ cs then
    let (inside, after) := cutLast ']' cs
    (inside ++ [']'], after)
  else cs.span fun c => c != ':'

/-- The parts of an authority: user information up to the last at sign, the
host, and what follows as the port, without its colon. -/
def splitUserHostPort (cs : List Char) : Authority :=
  let (userinfo, cs) := cutLast '@' cs
  match splitHost cs with
  | (host, ':' :: port) => ⟨userinfo, host, port⟩
  | (host, port) => ⟨userinfo, host, port⟩

end VersionedStore.Url
