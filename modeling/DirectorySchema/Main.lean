import DirectorySchema.CommandLine.Run

/-!
# The program

Reads the files that a run of the report command may need, first the settings
and then the schema files these name, and writes what the run gives.
-/

set_option autoImplicit false

open DirectorySchema

namespace DirectorySchema.Program

def name : Text := "schemareg-oidinfo"

def readFiles (paths : List Text) : IO Files :=
  paths.filterMapM fun path => do
    match ← (IO.FS.readBinFile (String.ofList path)).toBaseIO with
    | .ok octets => return some (path, octets.toList)
    | .error _ => return none

def host : IO Host := do
  let home := ((← IO.getEnv "HOME").getD "").toList
  return {
    files := []
    home := home
    settingsPaths := ["/etc/schemareg/global.cfg", below home "/.schemareg/global.cfg"] }

def write (r : CommandLine.Run) : IO UInt32 := do
  for entry in r.log do
    IO.eprintln (String.ofList entry.text)
  IO.print (String.ofList r.output)
  IO.eprint (String.ofList r.errors)
  match r.status with
  | .ok status => return UInt32.ofNat status
  | .error e =>
    IO.eprintln (String.ofList (name ++ ": " ++ e.message?.getD "the settings cannot be used"))
    return 1

end DirectorySchema.Program

def main (arguments : List String) : IO UInt32 := do
  let arguments := arguments.map String.toList
  let h ← Program.host
  let settings ← Program.readFiles (CommandLine.settingsFiles h arguments)
  let h := { h with files := settings }
  let schemas ← Program.readFiles (CommandLine.schemaFiles h arguments)
  Program.write (CommandLine.run Program.name { h with files := settings ++ schemas } arguments)
