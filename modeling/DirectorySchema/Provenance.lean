import DirectorySchema.Manager.Queries

/-!
# Provenance reports

A report says for each identifier which schema contributed the elements that are
registered for it, one line an element, or on the error side why it cannot say.
-/

set_option autoImplicit false

namespace DirectorySchema

structure Report where
  failed : Bool
  output : Text
  errors : Text
  deriving DecidableEq, Repr

namespace Report

def empty : Report := ⟨false, [], []⟩

def append (r s : Report) : Report :=
  ⟨r.failed || s.failed, r.output ++ s.output, r.errors ++ s.errors⟩

def line (oid : Text) (c : ElementKind × Text) : Text :=
  oid ++ '\t' :: c.1.label ++ '\t' :: c.2 ++ "\n"

def ofOid (m : Manager) (oid : Text) : Report :=
  match m.describeOid oid with
  | .ok cs => ⟨false, cs.flatMap (line oid), []⟩
  | .error e => ⟨true, [], "fail: " ++ oid ++ ": " ++ e.message ++ "\n"⟩

def ofOids (m : Manager) : List Text → Report
  | [] => empty
  | oid :: oids => (ofOid m oid).append (ofOids m oids)

def status (r : Report) : Nat := if r.failed then 1 else 0

end Report

end DirectorySchema
