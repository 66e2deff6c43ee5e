import VersionedStore.Url.Split
import VersionedStore.Url.Address
import VersionedStore.Url.Escape
import VersionedStore.HostName.Encode
import VersionedStore.Text.Blank
import VersionedStore.Text.Digit
import VersionedStore.Text.Ascii

/-!
URLs in their normal form: scheme and host in lower case, the standard port of
the scheme left out, steps up and in place resolved, and every part escaped.
Reading a text reports the first fault in the order length, control
characters, host, port, path.
-/

namespace VersionedStore

structure Url where
  scheme : List Char
  userinfo : List Char
  host : List Char
  port : Option Int
  path : List Char
  query : Option (List Char)
  fragment : Option (List Char)
  deriving DecidableEq, Repr

inductive UrlFault where
  | tooLong
  | control (c : Char) (position : Nat)
  | notIPv4 (host : List Char)
  | notIPv6 (host : List Char)
  | notHostName (host : List Char)
  | notPort (port : List Char)
  | doubleSlash
  | leadingColon
  deriving DecidableEq, Repr

namespace UrlFault

def message : UrlFault → String
  | .tooLong => "URL too long"
  | .control c position =>
    "Invalid non-printable ASCII character in URL, " ++ Text.quoted (String.singleton c) ++
      " at position " ++ position.repr ++ "."
  | .notIPv4 host => "Invalid IPv4 address: " ++ Text.quoted (String.ofList host)
  | .notIPv6 host => "Invalid IPv6 address: " ++ Text.quoted (String.ofList host)
  | .notHostName host => "Invalid IDNA hostname: " ++ Text.quoted (String.ofList host)
  | .notPort port => "Invalid port: " ++ Text.quoted (String.ofList port)
  | .doubleSlash => "Relative URLs cannot have a path starting with '//'"
  | .leadingColon => "Relative URLs cannot have a path starting with ':'"

end UrlFault

namespace Url

def maxLength : Nat := 65536

def maxPortDigits : Nat := 4300

def isControl (c : Char) : Bool := c.toNat < 0x20 || c.toNat == 0x7f

def normalHost (cs : List Char) : Except UrlFault (List Char) :=
  if looksLikeIPv4 cs then if isIPv4 cs then .ok cs else .error (.notIPv4 cs)
  else if cs.head? = some '[' ∧ cs.getLast? = some ']' then
    let inside := (cs.drop 1).dropLast
    if isIPv6 inside then .ok inside else .error (.notIPv6 cs)
  else if cs.all Text.isAscii then .ok (escape hostSafe (cs.map Char.toLower))
  else
    match HostName.toAscii cs with
    | .ok name => .ok name
    | .error _ => .error (.notHostName cs)

def standardPort? (scheme : List Char) : Option Int :=
  ([("ftp", 21), ("http", 80), ("https", 443), ("ws", 80), ("wss", 443)].find? fun p =>
    p.1.toList == scheme).map (·.2)

/-- The number that a port is written as: an optional sign and digits of any
script, with blanks around them. -/
def portNumber? (cs : List Char) : Option Int :=
  match Number.integer? Text.digit? (Text.trim Text.isBlank cs) with
  | some (negative, ds) =>
    if ds.length ≤ maxPortDigits then some (Number.signed negative (Number.ofDigits ds)) else none
  | none => none

/-- A port that has to be told, if there is one. The scheme counts as it is
written. -/
def normalPort (scheme cs : List Char) : Except UrlFault (Option Int) :=
  if cs = [] then .ok none
  else
    match portNumber? cs with
    | none => .error (.notPort cs)
    | some n => .ok (if standardPort? scheme = some n then none else some n)

/-- The segments that are left of a path, the last one first, after one more. A
step up from the root stays there. -/
def walk (done : List (List Char)) (segment : List Char) : List (List Char) :=
  if segment = ['.'] then done
  else if segment = ['.', '.'] then (if done = [[]] then done else done.drop 1)
  else segment :: done

def joinWith (sep : Char) : List (List Char) → List Char
  | [] => []
  | [part] => part
  | part :: parts => part ++ sep :: joinWith sep parts

def normalPath (cs : List Char) : List Char :=
  let segments := cutAt '/' cs
  if segments.contains ['.'] || segments.contains ['.', '.'] then
    joinWith '/' (segments.foldl walk []).reverse
  else cs

def ofParts (p : Parts) : Except UrlFault Url := do
  let scheme := p.scheme.getD []
  let authority := splitUserHostPort (p.authority.getD [])
  let host ← normalHost authority.host
  let port ← normalPort scheme authority.port
  let userinfo := escape userinfoSafe authority.userinfo
  let rooted := !(userinfo.isEmpty && host.isEmpty && port.isNone)
  if scheme = [] ∧ !rooted then
    if ['/', '/'].isPrefixOf p.path then throw .doubleSlash
    if p.path.head? = some ':' then throw .leadingColon
  let path := if scheme = [] ∧ !rooted then p.path else normalPath p.path
  return ⟨scheme.map Char.toLower, userinfo, host, port, escape pathSafe path,
    p.query.map (escape querySafe), p.fragment.map (escape fragmentSafe)⟩

def ofText (cs : List Char) : Except UrlFault Url :=
  if maxLength < cs.length then .error .tooLong
  else
    match cs.findIdx? isControl with
    | some i => .error (.control ((cs[i]?).getD '\x00') i)
    | none => ofParts (split cs)

def isAbsolute (u : Url) : Bool := !u.scheme.isEmpty && !u.host.isEmpty

/-- The host and the port, an address of version 6 in brackets. -/
def netloc (u : Url) : List Char :=
  (if u.host.contains ':' then '[' :: u.host ++ [']'] else u.host) ++
    (match u.port with
     | none => []
     | some n => ':' :: n.repr.toList)

def authority (u : Url) : List Char :=
  (if u.userinfo.isEmpty then [] else u.userinfo ++ ['@']) ++ u.netloc

def target (u : Url) : List Char :=
  (if u.path.isEmpty then ['/'] else u.path) ++ ((u.query.map ('?' :: ·)).getD [])

def toText (u : Url) : List Char :=
  (if u.scheme.isEmpty then [] else u.scheme ++ [':']) ++
    (if u.authority.isEmpty then [] else '/' :: '/' :: u.authority) ++ u.path ++
    ((u.query.map ('?' :: ·)).getD []) ++ ((u.fragment.map ('#' :: ·)).getD [])

end Url

end VersionedStore
