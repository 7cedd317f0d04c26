import LiveLint.Text.Basic
import LiveLint.Text.Lower
import LiveLint.Text.Quoted
import LiveLint.Url.Label

/-!
# Hosts

A host is an address of four bytes, an address of eight groups of digits in brackets, or a name. What
looks like the address of four bytes has to be one.
-/

/-!
## Addresses

The parts of an address on a network, how they are written, and why a text is no address.
-/

namespace LiveLint

structure Url where
  scheme : String := ""
  user : String := ""
  host : String := ""
  port : Option Int := none
  path : String := ""
  query : Option String := none
  fragment : Option String := none
  deriving DecidableEq, Repr

inductive UrlFault where
  | tooLong
  /-- It holds a control at some place. -/
  | control (c : Char) (position : Nat)
  | badAddress (version : Nat) (host : String)
  /-- The host cannot be written in ASCII. -/
  | badName (host : String)
  | badPort (port : String)
  /-- The path of a text with a host starts with something else than a slash. -/
  | pathAfterHost
  /-- The path of a text without scheme and host starts with something that needs one. -/
  | pathStart (start : String)
  /-- A bracket has no partner. -/
  | brackets
  /-- What stands in brackets is announced as a new kind of address but is none. -/
  | newAddress
  | bytesInBrackets
  | noAddress (text : String)
  deriving DecidableEq, Repr

def UrlFault.message : UrlFault → String
  | .tooLong => "URL too long"
  | .control c position =>
    "Invalid non-printable ASCII character in URL, " ++ Text.quoted (String.singleton c) ++
      " at position " ++ toString position ++ "."
  | .badAddress version host =>
    "Invalid IPv" ++ toString version ++ " address: " ++ Text.quoted host
  | .badName host => "Invalid IDNA hostname: " ++ Text.quoted host
  | .badPort port => "Invalid port: " ++ Text.quoted port
  | .pathAfterHost => "For absolute URLs, path must be empty or begin with '/'"
  | .pathStart start => "Relative URLs cannot have a path starting with '" ++ start ++ "'"
  | .brackets => "Invalid IPv6 URL"
  | .newAddress => "IPvFuture address is invalid"
  | .bytesInBrackets => "An IPv4 address cannot be in brackets"
  | .noAddress text => Text.quoted text ++ " does not appear to be an IPv4 or IPv6 address"

namespace Url

/-- The user, the host and the port of an address. -/
def authority (u : Url) : String :=
  (if u.user.isEmpty then "" else u.user ++ "@") ++
    (if u.host.toList.contains ':' then "[" ++ u.host ++ "]" else u.host) ++
    (u.port.map fun port => ":" ++ toString port).getD ""

/-- The path of an address, which is never empty, with its query. -/
def target (u : Url) : String :=
  (if u.path.isEmpty then "/" else u.path) ++ (u.query.map ("?" ++ ·)).getD ""

def text (u : Url) : String :=
  (if u.scheme.isEmpty then "" else u.scheme ++ ":") ++
    (if u.authority.isEmpty then "" else "//" ++ u.authority) ++ u.path ++
    (u.query.map ("?" ++ ·)).getD "" ++ (u.fragment.map ("#" ++ ·)).getD ""

end Url

end LiveLint

/-!
## Escapes in addresses

Characters that cannot stand in a part of an address are written as the bytes of their UTF-8 form,
each by a percent sign and two digits. The percent sign itself can stand everywhere, so that a text
that was escaped before stays as it is.
-/

namespace LiveLint.Url

def escapeByte (b : UInt8) : List Char := '%' :: (Text.hex 2 b.toNat).map Char.toUpper

def escapeChar (safe : Char → Bool) (c : Char) : List Char :=
  if safe c then [c] else (String.singleton c).toUTF8.toList.flatMap escapeByte

/-- A text in which only some characters stand for themselves. -/
def escape (safe : Char → Bool) (cs : List Char) : List Char := cs.flatMap (escapeChar safe)

/-- Visible characters of ASCII other than some. -/
def visibleBut (others : String) (c : Char) : Bool :=
  32 < c.toNat && c.toNat < 127 && !others.toList.contains c

def inFragment : Char → Bool := visibleBut "\"<>\x60"

def inQuery : Char → Bool := visibleBut "\"#<>"

def inPath : Char → Bool := visibleBut "\"#<>?\x60\x7b\x7d"

def inUser : Char → Bool := visibleBut "\"#<>?\x60\x7b\x7d/;=@[\\]^|"

def inHost : Char → Bool := visibleBut "#/:<>?@[]^"

theorem escape_append (safe : Char → Bool) (xs ys : List Char) :
    escape safe (xs ++ ys) = escape safe xs ++ escape safe ys := by
  simp [escape]

/-- A text of which all characters stand for themselves stays as it is. -/
theorem escape_of_safe (safe : Char → Bool) (cs : List Char) (all : ∀ c ∈ cs, safe c = true) :
    escape safe cs = cs := by
  induction cs with
  | nil => rfl
  | cons c rest ih =>
    have head : safe c = true := all c (by simp)
    have tail := ih fun x h => all x (by simp [h])
    simp_all [escape, escapeChar]

end LiveLint.Url

/-! ## Hosts -/

namespace LiveLint.Url.Host

/-- The most single characters that can stand between digits of a run and leave digits around them. -/
def gaps (run : List Char) : Nat := (run.length - 1) / 2

/-- Whether a text consists of four runs of digits with any single character between two of them,
which may be a digit itself. -/
def looksNumeric (host : List Char) : Bool :=
  let runs := host.splitOnP (!·.isDigit)
  runs.all (!·.isEmpty) && runs.length ≤ 4 &&
    4 ≤ runs.length + (runs.map gaps).foldl (· + ·) 0

def isByte (text : List Char) : Bool :=
  !text.isEmpty && text.length ≤ 3 && text.all Char.isDigit &&
    (text.length == 1 || text.head? != some '0') && Text.Hex.ofDigits 10 text ≤ 255

def isFour (host : List Char) : Bool :=
  let bytes := host.splitOn '.'
  bytes.length == 4 && bytes.all isByte

def isGroup (text : List Char) : Bool :=
  !text.isEmpty && text.length ≤ 4 && text.all Text.Hex.isDigit

/-- The number of groups on one side of a gap; none if they are not groups. A side may be empty. -/
def side? (groups : List (List Char)) : Option Nat :=
  if groups == [[]] then some 0 else if groups.all isGroup then some groups.length else none

/-- Whether groups make an address. Two colons may stand for groups that are left out, once. -/
def areGroups (groups : List (List Char)) : Bool :=
  let inner := (groups.drop 1).dropLast
  match inner.countP (·.isEmpty) with
  | 0 => groups.length == 8 && groups.all isGroup
  | 1 =>
    let cut := 1 + (inner.takeWhile (!·.isEmpty)).length
    match side? (groups.take cut), side? (groups.drop (cut + 1)) with
    | some high, some low => high + low ≤ 7
    | _, _ => false
  | _ => false

/-- Groups with an address of four bytes at their end replaced by two groups. -/
def unfoldFour (groups : List (List Char)) : Option (List (List Char)) :=
  match groups.getLast? with
  | some last =>
    if !last.contains '.' then some groups
    else if isFour last then some (groups.dropLast ++ [['0'], ['0']])
    else none
  | none => none

/-- Whether a text is an address of eight groups, perhaps with the name of a zone. -/
def isEight (text : List Char) : Bool :=
  let address := text.takeWhile (· != '%')
  let zone := (text.dropWhile (· != '%')).tail?
  let groups := address.splitOn ':'
  zone.all (fun zone => !zone.isEmpty && !zone.contains '%') && 3 ≤ groups.length &&
    (unfoldFour groups).any fun groups => groups.length ≤ 9 && areGroups groups

/-- A host as it is written in an address. -/
def read (host : List Char) : Except UrlFault (List Char) :=
  let text := String.ofList host
  if host.isEmpty then .ok []
  else if looksNumeric host then
    if isFour host then .ok host else .error (.badAddress 4 text)
  else if host.head? == some '[' && host.getLast? == some ']' && 1 < host.length then
    let inner := (host.drop 1).dropLast
    if isEight inner then .ok inner else .error (.badAddress 6 text)
  else
    let lowered := (Text.lower text).toList
    if host.all (·.toNat < 128) then .ok (escape inHost lowered)
    else
      match Label.hostAscii? lowered with
      | some name => .ok name
      | none => .error (.badName text)

end LiveLint.Url.Host
