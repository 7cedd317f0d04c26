import LiveLint.Fault
import LiveLint.Text.Basic
import LiveLint.Text.Lower
import LiveLint.Text.Word

/-!
# Language profiles

Everything the scanner, the tree normalizer and the queries need to know about a language. Sets of
names are kept as sorted lists.
-/

namespace LiveLint

inductive BlockStyle where
  | indent | brace
  deriving DecidableEq, Repr

def BlockStyle.label : BlockStyle → String
  | .indent => "indent"
  | .brace => "brace"

structure Profile where
  name : String
  grammar : String
  blockStyle : BlockStyle
  functionTypes : List String := []
  loopTypes : List String := []
  numberTypes : List String := []
  declarationTypes : List String := []
  /-- Assignments that declare a name when their value is a bare literal. -/
  constantAssignmentTypes : List String := []
  enumTypes : List String := []
  callTypes : List String := []
  comparisonTypes : List String := []
  parameterListTypes : List String := []
  lineComment : String := "#"
  blockComment : Option (String × String) := none
  /-- Names in a parameter list that are receivers and not parameters. -/
  implicitParameters : List String := []
  dangerousCalls : List String := []
  looseEqualityOperators : List String := []
  deriving DecidableEq, Repr

/-- Whether a trimmed line is a comment or lies in the usual layout of a block comment. -/
def Profile.isCommentLine (profile : Profile) (line : List Char) : Bool :=
  Text.startsWith line profile.lineComment.toList ||
    match profile.blockComment with
    | some (opener, _) => Text.startsWith line opener.toList || Text.startsWith line ['*']
    | none => false

end LiveLint

/-!
## The supported languages

Four profiles, and the host identifiers and file extensions that lead to them. TSX is TypeScript
with a grammar of its own.
-/

namespace LiveLint.Profile

private def functionTypesOfBraces : List String :=
  ["arrow_function", "function", "function_declaration", "function_expression",
    "generator_function", "generator_function_declaration", "method_definition"]

private def loopTypesOfBraces : List String :=
  ["do_statement", "for_in_statement", "for_statement", "while_statement"]

def python : Profile where
  name := "python"
  grammar := "python"
  blockStyle := .indent
  functionTypes := ["function_definition"]
  loopTypes := ["for_statement", "while_statement"]
  numberTypes := ["float", "integer"]
  constantAssignmentTypes := ["assignment"]
  callTypes := ["call"]
  parameterListTypes := ["parameters"]
  lineComment := "#"
  implicitParameters := ["cls", "self"]
  dangerousCalls := ["eval", "exec"]

def javascript : Profile where
  name := "javascript"
  grammar := "javascript"
  blockStyle := .brace
  functionTypes := functionTypesOfBraces
  loopTypes := loopTypesOfBraces
  numberTypes := ["number"]
  declarationTypes := ["field_definition", "lexical_declaration", "variable_declaration"]
  callTypes := ["call_expression", "new_expression"]
  comparisonTypes := ["binary_expression"]
  parameterListTypes := ["formal_parameters"]
  lineComment := "//"
  blockComment := some ("/*", "*/")
  implicitParameters := ["this"]
  dangerousCalls := ["Function", "eval"]
  looseEqualityOperators := ["!=", "=="]

def typescript : Profile :=
  { javascript with
    name := "typescript"
    grammar := "typescript"
    declarationTypes :=
      ["ambient_declaration", "lexical_declaration", "public_field_definition",
        "type_alias_declaration", "variable_declaration"]
    enumTypes := ["enum_declaration"] }

/-- TypeScript with embedded markup. -/
def tsx : Profile := { typescript with grammar := "tsx" }

/-- Host identifiers and file extensions, in the order in which extensions are tried. -/
def aliases : List (String × String × Profile) :=
  [("python", "python", python), ("py", "python", python), (".py", "python", python),
    ("javascript", "javascript", javascript), ("js", "javascript", javascript),
    (".js", "javascript", javascript), (".mjs", "javascript", javascript),
    (".cjs", "javascript", javascript), ("javascriptreact", "javascript", javascript),
    ("jsx", "javascript", javascript), (".jsx", "javascript", javascript),
    ("typescript", "typescript", typescript), ("ts", "typescript", typescript),
    (".ts", "typescript", typescript), ("typescriptreact", "tsx", tsx), ("tsx", "tsx", tsx),
    (".tsx", "tsx", tsx)]

def supported : List String := ["python", "javascript", "typescript"]

/-- The profile of a host identifier; none means limited support. -/
def find? (language : String) : Option Profile :=
  let key := Text.lower (String.ofList (Text.trim language.toList))
  (aliases.find? (·.1 == key)).map (·.2.2)

/-- Every supported language has one of four profiles. -/
theorem mem_of_find? {language : String} {profile : Profile} (found : find? language = some profile) :
    profile ∈ [python, javascript, typescript, tsx] := by
  unfold find? at found
  obtain ⟨entry, there, rfl⟩ := Option.map_eq_some_iff.1 found
  have all : ∀ entry ∈ aliases, entry.2.2 ∈ [python, javascript, typescript, tsx] := by
    decide +kernel
  exact all entry (List.mem_of_find?_eq_some there)

theorem find?_python : find? "python" = some python := by decide +kernel

/-- The profile of a language that must have one. -/
def require (language : String) : Except Fault Profile :=
  match find? language with
  | some profile => .ok profile
  | none =>
    let name := if language.isEmpty then "unknown" else language
    .error (.failure (.unsupportedLanguage name supported))

/-- The identifier a file name suggests by its extension. -/
def detect (path : String) : String :=
  let lowered := (Text.lower path).toList
  match aliases.find? fun (key, _) =>
      key.toList.head? == some '.' && key.toList.isSuffixOf lowered with
  | some (_, name, _) => name
  | none => "unknown"

end LiveLint.Profile
