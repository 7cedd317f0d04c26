import LiveLint.Text.Numeral
import LiveLint.Url.Host

/-!
# Reading addresses

A text is taken apart at the signs between the parts of an address. Then each part is brought into its
plain form: the scheme and the host in lower case, the port without its standard value, the path
without steps that lead nowhere, and everything in ASCII.
-/

namespace LiveLint.Url

structure Parts where
  scheme : List Char := []
  authority : List Char := []
  path : List Char := []
  query : Option (List Char) := none
  fragment : Option (List Char) := none

/-- A part up to the first of some characters, and the rest. -/
def upTo (ends : List Char) (cs : List Char) : List Char × List Char :=
  (cs.takeWhile (!ends.contains ·), cs.dropWhile (!ends.contains ·))

/-- What stands in front of the first colon if it can be a scheme, and the rest. -/
def takeScheme (cs : List Char) : List Char × List Char :=
  let name := cs.takeWhile fun c => c.isAlphanum || ['+', '.', '-'].contains c
  match cs.drop name.length with
  | ':' :: rest =>
    if (name.head?.map Char.isAlpha).getD true then (name, rest) else ([], cs)
  | _ => ([], cs)

def takeAuthority (cs : List Char) : List Char × List Char :=
  match cs with
  | '/' :: '/' :: rest => upTo ['/', '?', '#'] rest
  | _ => ([], cs)

def Parts.ofText (cs : List Char) : Parts :=
  let (scheme, cs) := takeScheme cs
  let (authority, cs) := takeAuthority cs
  let (path, cs) := upTo ['?', '#'] cs
  let (query, cs) := upTo ['#'] cs
  { scheme, authority, path, query := query.tail?, fragment := cs.tail? }

/-- The user, the host and the port in an authority. The user ends at the last at sign. -/
def authorityParts (cs : List Char) : List Char × List Char × List Char :=
  let behind := (cs.reverse.takeWhile (· != '@')).reverse
  let user := (cs.take (cs.length - behind.length)).dropLast
  let host :=
    if behind.head? == some '[' && behind.contains ']' then
      (behind.reverse.dropWhile (· != ']')).reverse
    else behind.takeWhile (· != ':')
  let rest := behind.drop host.length
  (user, host, if rest.head? == some ':' then rest.drop 1 else rest)

def standardPort (scheme : String) : Option Int :=
  match scheme with
  | "ftp" => some 21
  | "http" | "ws" => some 80
  | "https" | "wss" => some 443
  | _ => none

/-- The port that a text stands for, none if it is the standard one. -/
def readPort (scheme : String) (cs : List Char) : Except UrlFault (Option Int) :=
  if cs.isEmpty then .ok none
  else
    match Text.Numeral.whole? cs with
    | some port => .ok (if standardPort scheme == some port then none else some port)
    | none => .error (.badPort (String.ofList cs))

/-- The steps of a path without those that lead nowhere; a step back takes the one before it away. -/
def plainSteps (steps : List (List Char)) : List (List Char) :=
  steps.foldl
    (fun taken step =>
      if step == ['.'] then taken
      else if step == ['.', '.'] then if taken == [[]] then taken else taken.dropLast
      else taken ++ [step])
    []

/-- A path without steps that lead nowhere. -/
def plainPath (path : List Char) : List Char :=
  let steps := path.splitOn '/'
  if steps.any fun step => step == ['.'] || step == ['.', '.'] then
    ['/'].intercalate (plainSteps steps)
  else path

/-- A path can follow the parts in front of it. -/
def checkPath (hasScheme hasHost : Bool) (path : List Char) : Except UrlFault Unit :=
  if hasHost && !path.isEmpty && path.head? != some '/' then .error .pathAfterHost
  else if hasScheme || hasHost then .ok ()
  else if ['/', '/'].isPrefixOf path then .error (.pathStart "//")
  else if path.head? == some ':' then .error (.pathStart ":")
  else .ok ()

def ofParts (p : Parts) : Except UrlFault Url := do
  let (user, host, port) := authorityParts p.authority
  let scheme := String.ofList (p.scheme.map Char.toLower)
  let user := escape inUser user
  let host ← Host.read host
  let port ← readPort scheme port
  let hasScheme := !p.scheme.isEmpty
  let hasHost := !user.isEmpty || !host.isEmpty || port.isSome
  checkPath hasScheme hasHost p.path
  let path := if hasScheme || hasHost then plainPath p.path else p.path
  pure
    { scheme
      user := String.ofList user
      host := String.ofList host
      port
      path := String.ofList (escape inPath path)
      query := p.query.map fun cs => String.ofList (escape inQuery cs)
      fragment := p.fragment.map fun cs => String.ofList (escape inFragment cs) }

def maxLength : Nat := 65536

def ofText (text : String) : Except UrlFault Url :=
  let cs := text.toList
  if maxLength < cs.length then .error .tooLong
  else
    match cs.zipIdx.find? fun (c, _) => c.toNat < 32 || c.toNat == 127 with
    | some (c, position) => .error (.control c position)
    | none => ofParts (Parts.ofText cs)

/-- The address with another path and query, written as one text. -/
def withTarget (u : Url) (target : String) : Except UrlFault Url :=
  let (path, query) := upTo ['?'] target.toList
  ofParts
    { scheme := u.scheme.toList
      authority := u.authority.toList
      path
      query := query.tail?
      fragment := u.fragment.map String.toList }

/-- The address with a slash at its end. -/
def asFolder (u : Url) : Except UrlFault Url :=
  if u.target.endsWith "/" then .ok u else u.withTarget (u.target ++ "/")

def below (u : Url) (path : String) : Except UrlFault Url := do
  let folder ← u.asFolder
  folder.withTarget (folder.target ++ String.ofList (path.toList.dropWhile (· == '/')))

/-- Whether a text starts with something that can be the scheme of an exchange. -/
def namesScheme (text : String) : Bool :=
  let name := text.toList.takeWhile fun c => c != '/' && c != ':'
  !name.isEmpty && (text.toList.drop name.length).head? == some ':'

/-- Whether a text is a kind of address that is yet to come: a letter, a number, a point and more. -/
def isNewAddress (text : List Char) : Bool :=
  let behind := (text.drop 1).dropWhile Text.Hex.isDigit
  behind.length + 1 < text.length && behind.head? == some '.' && 1 < behind.length

/-- What is wrong with an address in brackets. -/
def addressFault? (text : List Char) : Option UrlFault :=
  if text.head? == some 'v' then if isNewAddress text then none else some .newAddress
  else if Host.isEight text then none
  else if Host.isFour text then some .bytesInBrackets
  else some (.noAddress (String.ofList text))

/-- What is wrong with the brackets of a text with a scheme. -/
def bracketFault? (text : String) : Option UrlFault :=
  let part := (Parts.ofText text.toList).authority
  match part.contains '[', part.contains ']' with
  | false, false => none
  | true, true => addressFault? (((part.dropWhile (· != '[')).drop 1).takeWhile (· != ']'))
  | _, _ => some .brackets

end LiveLint.Url
