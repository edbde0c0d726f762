import DirectorySchema.Description.Parser
import DirectorySchema.Text.Case

/-!
# Schema files

A schema file is a list of definitions. Each starts with its keyword at the
beginning of a line and goes on over the indented lines that follow; blank lines
and comments count for nothing wherever they stand.
-/

set_option autoImplicit false

namespace DirectorySchema.SchemaFile

structure Definition where
  keyword : Text
  text : Text
  deriving DecidableEq, Repr

def isSignificant (line : Text) : Bool :=
  match Text.trimLeft line with
  | [] => false
  | c :: _ => c != '#'

def isIndented : Text → Bool
  | [] => false
  | c :: _ => Text.isBlank c

def start (line : Text) : Text × Text :=
  match Text.trim line with
  | [] => ([], [])
  | c :: r => let p := Text.wordFrom c r; (Text.lower p.1, Text.trim p.2)

/-- The definitions of the remaining lines, behind the parts of an open one. -/
def collect (keyword : Text) (parts : List Text) : List Text → List Definition
  | [] => [⟨keyword, Text.unwords parts⟩]
  | line :: lines =>
    if isIndented line then collect keyword (parts ++ [Text.trim line]) lines
    else ⟨keyword, Text.unwords parts⟩ :: collect (start line).1 [(start line).2] lines

/-- Only an indented line in front of all definitions is refused. -/
def read (lines : List Text) : Except Description.Malformed (List Definition) :=
  match lines.filter isSignificant with
  | [] => .ok []
  | line :: rest =>
    if isIndented line then .error ⟨line, .orphanContinuation⟩
    else .ok (collect (start line).1 [(start line).2] rest)

end DirectorySchema.SchemaFile
