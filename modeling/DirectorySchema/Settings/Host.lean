import DirectorySchema.Settings.Reader
import DirectorySchema.Failure
import DirectorySchema.Files

/-!
# The host

What a run finds around it: files, the home directories, the paths of the settings
files, and the settings that were loaded last. Settings are published as a whole
after everything that may fail, so a failed load leaves those before in place.
-/

set_option autoImplicit false

namespace DirectorySchema

structure Host where
  files : Files
  home : Text
  users : List (Text × Text) := []
  settingsPaths : List Text
  cached : Option Settings := none
  deriving DecidableEq, Repr

/-- What follows a directory, whose slashes at its end count for nothing. -/
def below (directory rest : Text) : Text :=
  match (directory.reverse.dropWhile (· == '/')).reverse ++ rest with
  | [] => ['/']
  | path => path

/-- A tilde at the front of a path, alone or before a slash, is the home directory,
and one with a name behind it that of another user. Unknown users change nothing. -/
def Host.expandHome (h : Host) : Text → Except Failure Text
  | '~' :: path =>
    let user := path.takeWhile (· != '/')
    let rest := path.dropWhile (· != '/')
    if user.contains '\x00' then .error .badPath
    else match if user.isEmpty then some h.home else h.users.lookup user with
      | some home => .ok (below home rest)
      | none => .ok ('~' :: path)
  | path => .ok path

namespace Settings

def builtIn : Settings :=
  ⟨[], [("schema", [("bootstrap", "system core cosine inetorgperson"), ("on-duplicate", "fail")])]⟩

/-- Reads the file at a path over what is there; where no file is, nothing changes. -/
def readPath (h : Host) (s : Settings) (path : Text) : Except Fault Settings :=
  if path.contains '\x00' then .error .badPath
  else match h.files.find path with
    | .file octets => s.readFile octets
    | _ => .ok s

def merge (h : Host) (paths : List Text) : Except Fault Settings :=
  paths.foldlM (readPath h) builtIn

end Settings

namespace Host

def load (h : Host) (paths : Option (List Text)) (reload : Bool) :
    Except Settings.Fault Settings × Host :=
  match h.cached with
  | some s => if reload then fresh else (.ok s, h)
  | none => fresh
where
  fresh : Except Settings.Fault Settings × Host :=
    match Settings.merge h (paths.getD h.settingsPaths) with
    | .ok s => (.ok s, { h with cached := some s })
    | .error e => (.error e, h)

def settings (h : Host) : Except Failure Settings :=
  (h.load none false).1.mapError .settings

def withSettings (h : Host) : Host := (h.load none false).2

def get (h : Host) (sect option : Text) : Except Failure Text := do
  ((← h.settings).get sect option).mapError .settings

end Host

end DirectorySchema
