import DirectorySchema.Dn.Escape
import DirectorySchema.Text.Case

/-!
# Distinguished names

A name is a list of relative names, the nearest to the entry first, and a
relative name is a list of attribute types with asserted values. Names are the
same when they agree up to case, place by place; they are ordered by the texts
of their relative names; and one contains another when it is where the other
ends up after going towards the root.
-/

set_option autoImplicit false

namespace DirectorySchema

structure Ava where
  type : Text
  value : Text
  deriving DecidableEq, Repr

abbrev Rdn := List Ava

structure Dn where
  rdns : List Rdn
  deriving DecidableEq, Repr

namespace Ava

def text (a : Ava) : Text := Dn.escape a.type ++ '=' :: Dn.escape a.value

def shown (a : Ava) : Text :=
  "LDAPAttributeTypeAndValue(attributeType=" ++ Text.quoted a.type ++ ", value=" ++
    Text.quoted a.value ++ ")"

def same (a b : Ava) : Bool := Text.alike a.type b.type && Text.alike a.value b.value

end Ava

namespace Rdn

def text (r : Rdn) : Text := Text.joinWith "+" (r.map Ava.text)

def shown (r : Rdn) : Text :=
  "RelativeDistinguishedName(attributeTypesAndValues=" ++
    Text.quotedTuple (r.map Ava.shown) ++ ")"

def same : Rdn → Rdn → Bool
  | [], [] => true
  | a :: r, b :: s => a.same b && same r s
  | _, _ => false

end Rdn

namespace Dn

def root : Dn := ⟨[]⟩

def isRoot (n : Dn) : Bool := n.rdns.isEmpty

def text (n : Dn) : Text := Text.joinWith "," (n.rdns.map Rdn.text)

def shown (n : Dn) : Text :=
  "DistinguishedName(listOfRDNs=" ++ Text.quotedTuple (n.rdns.map Rdn.shown) ++ ")"

def up (n : Dn) : Dn := ⟨n.rdns.tail⟩

def sameRdns : List Rdn → List Rdn → Bool
  | [], [] => true
  | r :: m, s :: n => Rdn.same r s && sameRdns m n
  | _, _ => false

def same (m n : Dn) : Bool := sameRdns m.rdns n.rdns

def before (m n : Dn) : Bool := compare (m.rdns.map Rdn.text) (n.rdns.map Rdn.text) == .lt

/-- After, at or before in the order of texts, where a name that is the same up
to case is never after another. -/
def after (m n : Dn) : Bool := !m.before n && !m.same n

def atOrBefore (m n : Dn) : Bool := m.before n || m.same n

def atOrAfter (m n : Dn) : Bool := !m.before n

def startsFromRoot : List Rdn → List Rdn → Bool
  | [], _ => true
  | _ :: _, [] => false
  | r :: m, s :: n => Rdn.same r s && startsFromRoot m n

def contains (m n : Dn) : Bool := startsFromRoot m.rdns.reverse n.rdns.reverse

def sorted (ns : List Dn) : List Dn := ns.mergeSort fun m n => !n.before m

end Dn

end DirectorySchema
