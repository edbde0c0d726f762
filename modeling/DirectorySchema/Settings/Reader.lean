import DirectorySchema.Settings.Basic
import DirectorySchema.Text.FileLines

/-!
# Reading settings files

A settings file is read line by line over the settings already there: headers of
sections, options with an equals sign or a colon, lines indented deeper than
their option that continue its value, and full-line comments. Within one file no
section and no option of a section may come twice. A line of no known form is
remembered and makes the file fail once it has been read to its end.
-/

set_option autoImplicit false

namespace DirectorySchema.Settings

structure Cursor where
  settings : Settings
  current? : Option Text := none
  pending? : Option Text := none
  indent : Nat := 0
  seenSections : List Text := []
  seenOptions : List (Text × Text) := []
  failed : Bool := false
  deriving DecidableEq, Repr

/-- The name in brackets that a line starts with, up to its last bracket. -/
def header? : Text → Option Text
  | '[' :: r =>
    match r.reverse.dropWhile (· != ']') with
    | _ :: c :: name => some (c :: name).reverse
    | _ => none
  | _ => none

def isDelimiter (c : Char) : Bool := c == '=' || c == ':'

def option? (s : Text) : Option (Text × Text) :=
  match s.dropWhile (!isDelimiter ·) with
  | [] => none
  | _ :: value => some (Text.trimRight (s.takeWhile (!isDelimiter ·)), Text.trim value)

namespace Cursor

def continueValue (c : Cursor) (line : Text) : Cursor :=
  match c.current?, c.pending? with
  | some s, some o =>
    { c with settings := c.settings.update s (Options.extend o ('\n' :: line)) }
  | _, _ => c

def enterSection (c : Cursor) (name : Text) : Except Fault Cursor :=
  let c := { c with current? := some name, pending? := none }
  if (c.settings.sections.lookup name).isSome then
    if c.seenSections.contains name then .error .duplicateSection
    else .ok { c with seenSections := name :: c.seenSections }
  else if name = defaultSection then .ok c
  else .ok { c with settings := c.settings.addSection name, seenSections := name :: c.seenSections }

def setOption (c : Cursor) (sect name value : Text) : Except Fault Cursor :=
  let name := Text.lower name
  if c.seenOptions.contains (sect, name) then .error .duplicateOption
  else .ok { c with
    settings := c.settings.update sect (Options.assign name value)
    pending? := if name.isEmpty then none else some name
    seenOptions := (sect, name) :: c.seenOptions
    failed := c.failed || name.isEmpty }

def readStatement (c : Cursor) (s : Text) : Except Fault Cursor :=
  match Settings.header? s with
  | some name => c.enterSection name
  | none =>
    match c.current? with
    | none => .error .noSectionHeader
    | some sect =>
      match Settings.option? s with
      | some (name, value) => c.setOption sect name value
      | none => .ok { c with failed := true }

def readLine (c : Cursor) (line : Text) : Except Fault Cursor :=
  match Text.trim line with
  | [] => .ok (c.continueValue [])
  | '#' :: _ => .ok c
  | ';' :: _ => .ok c
  | s =>
    let indent := (line.takeWhile Text.isBlank).length
    if c.current?.isSome && c.pending?.isSome && c.indent < indent then .ok (c.continueValue s)
    else { c with indent := indent }.readStatement s

end Cursor

def trimValues (o : Options) : Options := o.map fun p => (p.1, Text.trimRight p.2)

def readFile (s : Settings) (octets : List UInt8) : Except Fault Settings :=
  match (Text.fileLines octets).1.foldlM Cursor.readLine { settings := s } with
  | .error e => .error e
  | .ok c =>
    if !(Text.fileLines octets).2 then .error .undecodable
    else if c.failed then .error .malformedLine
    else .ok ⟨trimValues c.settings.defaults,
      c.settings.sections.map fun p => (p.1, trimValues p.2)⟩

end DirectorySchema.Settings
