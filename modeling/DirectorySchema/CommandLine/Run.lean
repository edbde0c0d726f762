import DirectorySchema.CommandLine.Arguments
import DirectorySchema.Manager.Additions
import DirectorySchema.Provenance

/-!
# The report command

A run of the command reads its arguments, opens the manager that they and the
settings ask for, and reports on each identifier. What the caller can mend is
told on the error side in one line; any other failure ends the run as it is.
The help shows a synopsis alone, and log entries carry no time.
-/

set_option autoImplicit false

namespace DirectorySchema.CommandLine

structure Run where
  status : Except Failure Nat
  output : Text
  errors : Text
  log : List Record

namespace Run

def complain (program message : Text) (log : List Record) : Run :=
  ⟨.ok 1, [], program ++ ": " ++ message ++ "\n", log⟩

def isTold : Failure → Bool
  | .refused _ | .malformed _ | .noFile _ | .isDirectory _ | .notDirectory _
  | .nameTooLong _ => true
  | _ => false

def ofFailure (program : Text) (e : Failure) (log : List Record) : Run :=
  match isTold e, e.message? with
  | true, some message => complain program (message ++ ".") log
  | _, _ => ⟨.error e, [], [], log⟩

def ofReport (r : Report) (log : List Record) : Run := ⟨.ok r.status, r.output, r.errors, log⟩

def open? (h : Host) (a : Arguments) : Except Failure Manager × List Record :=
  match a.managerConfig with
  | .ok config => Manager.ofConfig h config
  | .error e => (.error e, [])

def answer (program : Text) (h : Host) (a : Arguments) : Run :=
  match a.settle h with
  | (.error (.usage e), _) => complain program e.message []
  | (.error e, _) => ⟨.error e, [], [], []⟩
  | (.ok (), h) =>
    match open? h a with
    | (.ok m, log) => ofReport (Report.ofOids m a.identifiers) log
    | (.error e, log) => ofFailure program e log

def synopsis (program : Text) : Text := "Usage: " ++ program ++ " [options] OID...\n"

end Run

def settingsFiles (h : Host) (arguments : List Text) : List Text :=
  match read .report arguments with
  | .ok (.answer a) => h.settingsPaths ++ a.config.toList
  | _ => []

def schemaFiles (h : Host) (arguments : List Text) : List Text :=
  match read .report arguments with
  | .ok (.answer a) =>
    match a.settle h, a.managerConfig with
    | (.ok (), h), .ok config => (config.getSchemaFiles h).toOption.getD [] |>.map Prod.snd
    | _, _ => []
  | _ => []

def run (program : Text) (h : Host) (arguments : List Text) : Run :=
  match read .report arguments with
  | .error e => Run.complain program e.message []
  | .ok (.answer a) => Run.answer program h a
  | .ok _ => ⟨.ok 0, Run.synopsis program, [], []⟩

end DirectorySchema.CommandLine
