import DirectorySchema.Manager.Queries

/-!
# Names bound to a schema

Binding a name to a manager resolves each attribute type to its identifier and
brings each value into the canonical form of the type's equality rule. In the
normalized text the parts of a relative name are sorted.
-/

set_option autoImplicit false

namespace DirectorySchema

namespace Manager

/-- The text that is written in a name for a text once it has been normalized. -/
def normalizeText (m : Manager) (x s : Text) : Except Failure Text := do
  (← m.normalizeValue x (.text s)).asNamePart

def avaText (m : Manager) (a : Ava) : Except Failure Text :=
  match m.normalizeAttributeType a.type with
  | .error e => .error (.refused e)
  | .ok oid => (m.normalizeText oid a.value).map fun s => oid ++ '=' :: Dn.escape s

def sortTexts (ss : List Text) : List Text := ss.mergeSort fun s t => (compare s t).isLE

def rdnText (m : Manager) (r : Rdn) : Except Failure Text := do
  return Text.joinWith "+" (sortTexts (← r.mapM m.avaText))

def normalText (m : Manager) (n : Dn) : Except Failure Text := do
  return Text.joinWith "," (← n.rdns.mapM m.rdnText)

end Manager

structure BoundDn where
  name : Dn
  normalText : Text
  deriving DecidableEq, Repr

def Manager.bind (m : Manager) (n : Dn) : Except Failure BoundDn := do
  return ⟨n, ← m.normalText n⟩

end DirectorySchema
