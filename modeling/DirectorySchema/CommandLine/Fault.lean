import DirectorySchema.Text.Quoted

/-!
# Faults of command lines

What is wrong with the arguments of a command, by cause. Options are shown as
they were spelled, with their dashes.
-/

set_option autoImplicit false

namespace DirectorySchema.CommandLine

inductive Fault where
  | unknownOption (spelling : Text)
  | ambiguousOption (spelling : Text)
  | missingValue (spelling : Text)
  | unexpectedValue (spelling : Text)
  | unexpectedArguments
  | noIdentifiers
  | fileForm
  | policyForm
  deriving DecidableEq, Repr

def Fault.message : Fault → Text
  | .unknownOption spelling => "option " ++ spelling ++ " not recognized"
  | .ambiguousOption spelling => "option " ++ spelling ++ " not a unique prefix"
  | .missingValue spelling => "option " ++ spelling ++ " requires argument"
  | .unexpectedValue spelling => "option " ++ spelling ++ " must not have an argument"
  | .unexpectedArguments => "Wrong number of arguments."
  | .noIdentifiers => "give at least one OID"
  | .fileForm => "schema-file must be given as NAME:PATH"
  | .policyForm => "on-duplicate must be one of fail, skip"

end DirectorySchema.CommandLine
