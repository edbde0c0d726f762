import DirectorySchema.AuthenticationLevel
import DirectorySchema.Manager.Binding

/-!
# Principals

A principal is who a session acts for: a name bound to a schema manager, or the
root for a principal that is anonymous, with a level of authentication, perhaps
a password, and the addresses of the two ends of the session. Managers change,
so a principal holds only which one it belongs to, and the normalized text that
its name had when it was bound. A principal is changed field by field, and what
has been written when a change fails stays written.
-/

set_option autoImplicit false

namespace DirectorySchema

structure Binding (ι : Type) where
  manager : ι
  normalText : Text
  deriving DecidableEq, Repr

inductive GivenName (ι : Type) where
  | anonymous
  | value (v : Value)
  | name (n : Dn) (binding : Option (Binding ι))
  deriving DecidableEq, Repr

/-- Without a manager only a name without types has a binding, and that is none. -/
def Binding.make {ι : Type} (n : Dn) : Option (ι × Manager) → Except Failure (Option (Binding ι))
  | none => if n.rdns.all List.isEmpty then .ok none else .error .noSuchPart
  | some (i, m) =>
    match m.bind n with
    | .ok b => .ok (some ⟨i, b.normalText⟩)
    | .error e => .error e

structure Principal (ι : Type) where
  manager : Option ι
  dn : Dn
  binding : Option (Binding ι)
  level : AuthenticationLevel
  password : Option (List UInt8)
  client : Option Text := none
  server : Option Text := none
  deriving DecidableEq, Repr

namespace Principal

variable {ι : Type}

def readPassword : Value → Except Failure (List UInt8)
  | .text s => .error (.textPassword s)
  | v => v.asOctets

abbrev Change (ι α : Type) := EStateM Failure (Principal ι) α

def attempt {α : Type} : Except Failure α → Change ι α
  | .ok a => pure a
  | .error e => throw e

def setPassword (v : Value) : Change ι Unit := do
  let octets ← attempt (readPassword v)
  modify fun p => { p with password := some octets }

/-- An anonymous principal has no level of authentication, whatever is given. -/
def named (manager : Option ι) (level : AuthenticationLevel) :
    GivenName ι → Except Failure (Principal ι)
  | .anonymous => .ok ⟨manager, ⟨[]⟩, none, .none, none, none, none⟩
  | .name n (some b) => .ok ⟨manager, n, some b, level, none, none, none⟩
  | .name n none => .error (.refused (.unawareName n.text))
  | .value v => do throw (.refused (.unawareName (← v.shown)))

def make (manager : Option ι) (name : GivenName ι) (level : AuthenticationLevel)
    (password : Value) : Except Failure (Principal ι) := do
  let p ← named manager level name
  if !password.isGiven then return p
  match setPassword password p with
  | .ok _ p => return p
  | .error e _ => throw e

def name (p : Principal ι) : Text :=
  match p.binding with
  | some b => b.normalText
  | none => p.dn.text

/-- The root keeps the binding that it has. -/
def bindingUnder (p : Principal ι) (m : Option (ι × Manager)) :
    Except Failure (Option (Binding ι)) :=
  if p.dn.isRoot then .ok p.binding else Binding.make p.dn m

/-- The name comes with its binding and is written before the manager. -/
def setManager (m : Option (ι × Manager)) : Change ι Unit := do
  let p ← get
  let binding ← attempt (p.bindingUnder m)
  modify fun p => { p with binding := binding }
  modify fun p => { p with manager := m.map Prod.fst }

def setAddresses (p : Principal ι) (client server : Option Text) : Principal ι :=
  { p with client := client.orElse fun _ => p.client, server := server.orElse fun _ => p.server }

def addressText (side : Text) : Option Text → Text
  | some address => ", " ++ side ++ "@" ++ address
  | none => []

def boundMark (p : Principal ι) : Text := if p.binding.isSome then ['(', 'n', ')'] else []

def shown (p : Principal ι) : Text :=
  p.boundMark ++ "['" ++ p.dn.text ++ "'" ++ addressText "client" p.client ++
    addressText "server" p.server ++ "]"

end Principal

end DirectorySchema
