import DirectorySchema.Text.CharClass
import DirectorySchema.Text.CaseTable

/-!
# Full case mappings

Lower and upper case after Unicode 14. A character may map to several, and the
lower case of a capital sigma depends on its place: it is the final form when a
cased character stands before it and none after it, ignorable ones passed over.
-/

set_option autoImplicit false

namespace DirectorySchema.Text

def CaseRun.covers (r : CaseRun) (c : Char) : Bool :=
  r.first ≤ c.toNat && c.toNat ≤ r.last && (c.toNat - r.first) % r.stride == 0

def shiftCase (runs : List CaseRun) (c : Char) : Char :=
  match runs.find? (·.covers c) with
  | some r => Char.ofNat (r.image + (c.toNat - r.first))
  | none => c

def isCased (c : Char) : Bool := inRanges casedRanges c

def isCaseIgnorable (c : Char) : Bool := inRanges caseIgnorableRanges c

def lowerChar (c : Char) : Text :=
  if c = 'İ' then ['i', '\u0307'] else [shiftCase lowerRuns c]

def upperChar (c : Char) : Text :=
  match upperExpansions.lookup c.toNat with
  | some ns => ns.map Char.ofNat
  | none => [shiftCase upperRuns c]

def startsCased (s : Text) : Bool :=
  match s.dropWhile isCaseIgnorable with
  | [] => false
  | c :: _ => isCased c

def lowerAfter : Bool → Text → Text
  | _, [] => []
  | cased, c :: r =>
    (if c = 'Σ' then [if cased && !startsCased r then 'ς' else 'σ'] else lowerChar c) ++
      lowerAfter (if isCaseIgnorable c then cased else isCased c) r

def lower (s : Text) : Text := lowerAfter false s

def upper (s : Text) : Text := s.flatMap upperChar

def alike (s t : Text) : Bool := lower s == lower t

end DirectorySchema.Text
