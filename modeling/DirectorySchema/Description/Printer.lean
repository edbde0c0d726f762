import DirectorySchema.Description.Basic

/-!
# Writing descriptions

Every description has one written form: its identifier and its terms in a fixed
order, experimental terms last in the order in which they were given, and a list
with a single member written as that member. Descriptions of comparable kinds
are equal when their written forms are.
-/

set_option autoImplicit false

namespace DirectorySchema.Description

def inQuotes (s : Text) : Text := '\'' :: s ++ "'"

def quotedNames (ns : List Text) : Text :=
  let inner := Text.unwords (ns.map inQuotes)
  if 1 < ns.length then "( " ++ inner ++ " )" else inner

def keyed (keyword value : Text) : Text := keyword ++ ' ' :: value

def Terms.parts (k : Kind) (t : Terms) : List Text :=
  (t.names.map fun ns => keyed "NAME" (quotedNames ns)).toList ++
    (t.desc.map fun s => keyed "DESC" (inQuotes s)).toList ++
    (if t.obsolete then [("OBSOLETE" : Text)] else []) ++
    k.references.filterMap (fun r => (t.reference? r).map (keyed r.keyword)) ++
    (k.flags.filter t.flag).map Flag.keyword ++
    t.extensions.map fun e => keyed e.1 (quotedNames e.2.values)

def text {k : Kind} (d : Description k) : Text :=
  "( " ++ Text.unwords (d.oid :: d.terms.parts k) ++ " )"

/-- A plain description may be compared with one of any kind. -/
def Kind.comparable (k l : Kind) : Bool := k == l || k == .plain || l == .plain

def same {k l : Kind} (d : Description k) (e : Description l) : Bool :=
  k.comparable l && d.text == e.text

end DirectorySchema.Description
