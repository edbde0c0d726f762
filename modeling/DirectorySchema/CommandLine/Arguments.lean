import DirectorySchema.Settings.ManagerConfig

/-!
# Arguments

Options come before all other arguments. A long option may be shortened as long
as one option alone starts that way, and takes its value behind an equals sign
or from the next argument; a short option takes it from the rest of its argument
or from the next one. Two dashes end the options.
-/

set_option autoImplicit false

namespace DirectorySchema.CommandLine

inductive Switch where
  | config
  | onDuplicate
  | schema
  | schemaFile
  | help
  | version
  deriving DecidableEq, Repr

namespace Switch

def label : Switch → Text
  | config => "config"
  | onDuplicate => "on-duplicate"
  | schema => "schema"
  | schemaFile => "schema-file"
  | help => "help"
  | version => "version"

def takesValue : Switch → Bool
  | help | version => false
  | _ => true

end Switch

structure Form where
  settings : Bool
  schemas : Bool
  identifiers : Bool
  deriving DecidableEq, Repr

namespace Form

def report : Form := ⟨true, true, true⟩

def schemaOptions : Form := ⟨false, true, false⟩

def settingsOptions : Form := ⟨true, false, false⟩

def switches (f : Form) : List Switch :=
  (if f.settings then [.config] else []) ++
    (if f.schemas then [.onDuplicate, .schema, .schemaFile] else []) ++ [.help, .version]

/-- The option that a spelling stands for, exactly or as the start of one alone. -/
def switch (f : Form) (spelling : Text) : Except Fault Switch :=
  match f.switches.filter fun s => spelling.isPrefixOf s.label with
  | [] => .error (.unknownOption ("--" ++ spelling))
  | [s] => .ok s
  | found =>
    match found.find? (·.label == spelling) with
    | some s => .ok s
    | none => .error (.ambiguousOption ("--" ++ spelling))

end Form

def splitValue (s : Text) : Text × Option Text :=
  match s.dropWhile (· != '=') with
  | [] => (s, none)
  | _ :: value => (s.takeWhile (· != '='), some value)

/-- An option as it is used, with the spelling that messages show. Without a value
of its own it takes the next argument. -/
structure Use where
  switch : Switch
  spelling : Text
  value : Option Text
  deriving DecidableEq, Repr

def longOption (f : Form) (s : Text) : Except Fault Use :=
  match f.switch (splitValue s).1 with
  | .error e => .error e
  | .ok o =>
    let spelling := "--" ++ o.label
    match o.takesValue, (splitValue s).2 with
    | true, value => .ok ⟨o, spelling, value⟩
    | false, none => .ok ⟨o, spelling, some []⟩
    | false, some _ => .error (.unexpectedValue spelling)

def shortOption (f : Form) (c : Char) (value : Text) : Except Fault Use :=
  if f.settings && c == 'c' then
    .ok ⟨.config, ['-', c], if value.isEmpty then none else some value⟩
  else .error (.unknownOption ['-', c])

def use? (f : Form) : Text → Option (Except Fault Use)
  | '-' :: '-' :: s => some (longOption f s)
  | '-' :: c :: value => some (shortOption f c value)
  | _ => none

def split (f : Form) : List Text → Except Fault (List (Switch × Text) × List Text)
  | [] => .ok ([], [])
  | argument :: rest =>
    if argument = ['-', '-'] then .ok ([], rest)
    else match use? f argument with
      | none => .ok ([], argument :: rest)
      | some (.error e) => .error e
      | some (.ok ⟨o, _, some value⟩) =>
        (split f rest).map fun p => ((o, value) :: p.1, p.2)
      | some (.ok ⟨o, spelling, none⟩) =>
        match rest with
        | [] => .error (.missingValue spelling)
        | value :: rest => (split f rest).map fun p => ((o, value) :: p.1, p.2)

structure Arguments where
  config : Option Text := none
  schemas : Option (List Text) := none
  schemaFiles : List (Text × Text) := []
  onDuplicate : Option Text := none
  identifiers : List Text := []
  deriving DecidableEq, Repr

inductive Request where
  | answer (a : Arguments)
  | help
  | version
  deriving DecidableEq, Repr

def schemaFile (value : Text) : Except Fault (Text × Text) :=
  match value.takeWhile (· != ':'), value.dropWhile (· != ':') with
  | [], _ | _, [] | _, [_] => .error .fileForm
  | name, _ :: path => .ok (name, path)

/-- Takes the options in order; whoever asks for help gets nothing else. -/
def take : Arguments → List (Switch × Text) → Except Fault Request
  | a, [] => .ok (.answer a)
  | a, (.config, value) :: rest => take { a with config := some value } rest
  | a, (.onDuplicate, value) :: rest => take { a with onDuplicate := some value } rest
  | a, (.schema, value) :: rest =>
    take { a with schemas := some (a.schemas.getD [] ++ [value]) } rest
  | a, (.schemaFile, value) :: rest =>
    match schemaFile value with
    | .ok p => take { a with schemaFiles := Options.assign p.1 p.2 a.schemaFiles } rest
    | .error e => .error e
  | _, (.help, _) :: _ => .ok .help
  | _, (.version, _) :: _ => .ok .version

def takeIdentifiers (f : Form) (a : Arguments) (identifiers : List Text) : Except Fault Request :=
  match f.identifiers, identifiers with
  | true, [] => .error .noIdentifiers
  | false, _ :: _ => .error .unexpectedArguments
  | _, _ => .ok (.answer { a with identifiers := identifiers })

def read (f : Form) (arguments : List Text) : Except Fault Request := do
  let (options, identifiers) ← split f arguments
  match ← take {} options with
  | .answer a => takeIdentifiers f a identifiers
  | request => return request

namespace Arguments

def checkPolicy (a : Arguments) : Except Failure Unit :=
  match a.onDuplicate.map DuplicatePolicy.ofLabel with
  | some (.error _) => .error (.usage .policyForm)
  | _ => .ok ()

/-- Loads the settings anew if a file is named, and only then looks at the policy. -/
def settle (h : Host) (a : Arguments) : Except Failure Unit × Host :=
  match a.config with
  | none => (a.checkPolicy, h)
  | some path =>
    match h.load (some (h.settingsPaths ++ [path])) true with
    | (.ok _, h) => (a.checkPolicy, h)
    | (.error e, h) => (.error (.settings e), h)

def managerConfig (a : Arguments) : Except Failure ManagerConfig :=
  ManagerConfig.make a.schemas a.onDuplicate a.schemaFiles

end Arguments

end DirectorySchema.CommandLine
