import LiveLint.Language.Profile

/-!
# Masking

Comments and string literals are replaced by spaces, newlines excepted, so that brackets, words
and numbers found in the masked text are code and stand where they stand in the source.
-/

namespace LiveLint.Mask

inductive Mode where
  | code
  | lineComment
  | blockComment
  | quotation (quote : Char) (triple : Bool)
  deriving DecidableEq, Repr

/-- Characters that open a string literal. -/
def quotes (profile : Profile) : List Char :=
  match profile.blockStyle with
  | .brace => ['\x27', '"', '\x60']
  | .indent => ['\x27', '"']

/-- What a masked character leaves behind. -/
def blank (c : Char) : Char := if c == '\n' then '\n' else ' '

def blockOpener (profile : Profile) : List Char :=
  match profile.blockComment with
  | some (opener, _) => opener.toList
  | none => []

def blockCloser (profile : Profile) : List Char :=
  match profile.blockComment with
  | some (_, closer) => closer.toList
  | none => []

/-- The characters that close a string literal. -/
def delimiter (quote : Char) (triple : Bool) : List Char :=
  if triple then [quote, quote, quote] else [quote]

/-- Whether a string literal may run over the end of a line. -/
def spansLines (quote : Char) (triple : Bool) : Bool := triple || quote == '\x60'

/-- What code turns into at the head of a text: the mode of what begins there and the number of
characters of its opener, or nothing if the character is code. -/
def opening (profile : Profile) (cs : List Char) : Option (Mode × Nat) :=
  if Text.startsWith cs profile.lineComment.toList then
    some (.lineComment, profile.lineComment.toList.length)
  else if profile.blockComment.isSome && Text.startsWith cs (blockOpener profile) then
    some (.blockComment, (blockOpener profile).length)
  else
    match cs with
    | [] => none
    | c :: _ =>
      if (quotes profile).contains c then
        let triple := profile.blockStyle == .indent && Text.startsWith cs [c, c, c]
        some (.quotation c triple, (delimiter c triple).length)
      else none

/-- Masks a text. The next `skip` characters are masked whatever they are. -/
def maskFrom (profile : Profile) : Mode → Nat → List Char → List Char
  | _, _, [] => []
  | mode, skip + 1, c :: rest => blank c :: maskFrom profile mode skip rest
  | .code, 0, c :: rest =>
    match opening profile (c :: rest) with
    | some (mode, length) => blank c :: maskFrom profile mode (length - 1) rest
    | none => c :: maskFrom profile .code 0 rest
  | .lineComment, 0, c :: rest =>
    if c == '\n' then '\n' :: maskFrom profile .code 0 rest
    else ' ' :: maskFrom profile .lineComment 0 rest
  | .blockComment, 0, c :: rest =>
    if Text.startsWith (c :: rest) (blockCloser profile) then
      blank c :: maskFrom profile .code ((blockCloser profile).length - 1) rest
    else blank c :: maskFrom profile .blockComment 0 rest
  | .quotation quote triple, 0, c :: rest =>
    if c == '\\' then ' ' :: maskFrom profile (.quotation quote triple) 1 rest
    else if Text.startsWith (c :: rest) (delimiter quote triple) then
      ' ' :: maskFrom profile .code ((delimiter quote triple).length - 1) rest
    else if c == '\n' && !spansLines quote triple then
      '\n' :: maskFrom profile .code 0 rest
    else blank c :: maskFrom profile (.quotation quote triple) 0 rest

def mask (profile : Profile) (cs : List Char) : List Char := maskFrom profile .code 0 cs

end LiveLint.Mask
