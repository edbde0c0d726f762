import DirectorySchema.Failure

/-!
# Authentication levels

How strongly a principal was authenticated, from not at all upwards.
-/

set_option autoImplicit false

namespace DirectorySchema

inductive AuthenticationLevel where
  | none
  | unauthenticated
  | simple
  | strong
  deriving DecidableEq, Repr

namespace AuthenticationLevel

def all : List AuthenticationLevel := [none, unauthenticated, simple, strong]

def value : AuthenticationLevel → Int
  | none => 0
  | unauthenticated => 1
  | simple => 2
  | strong => 3

def label : AuthenticationLevel → Text
  | none => "NONE"
  | unauthenticated => "UNAUTHENT"
  | simple => "SIMPLE"
  | strong => "STRONG"

def ofValue (n : Int) : Except Failure AuthenticationLevel :=
  match all.find? (·.value == n) with
  | some l => .ok l
  | Option.none => .error (.unknownLevel (Text.ofInt n))

def ofLabel (s : Text) : Except Failure AuthenticationLevel :=
  match all.find? (·.label == s) with
  | some l => .ok l
  | Option.none => .error (.unknownLevel s)

end AuthenticationLevel

end DirectorySchema
