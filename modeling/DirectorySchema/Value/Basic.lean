import DirectorySchema.Failure
import DirectorySchema.Text.Utf8
import DirectorySchema.Value.Row

/-!
# Values

What an attribute value, a name or a password may be given as. Octets come in a
fixed and in a changeable form, which compare alike; truth values count as the
numbers zero and one; values of other different kinds are not comparable.
-/

set_option autoImplicit false

namespace DirectorySchema

inductive Value where
  | text (s : Text)
  | octets (bs : List UInt8)
  | buffer (bs : List UInt8)
  | integer (n : Int)
  | truth (b : Bool)
  | absent
  | name (n : Dn)
  deriving DecidableEq, Repr

namespace Value

def shown : Value → Except Failure Text
  | .text s => .ok s
  | .octets bs => .ok (Text.quotedOctets bs)
  | .buffer bs => .ok (Text.quotedBuffer bs)
  | .integer n => (Text.writeInteger n).mapError .numeral
  | .truth b => .ok (if b then "True" else "False")
  | .absent => .ok "None"
  | .name n => .ok n.text

def decode (bs : List UInt8) : Except Failure Text :=
  match Text.ofUtf8? bs with
  | some s => .ok s
  | none => .error .undecodable

def asText : Value → Except Failure Text
  | .octets bs | .buffer bs => decode bs
  | v => v.shown

def fitsWord (n : Int) : Bool := -9223372036854775808 ≤ n && n ≤ 9223372036854775807

def maxLength : Int := 9223372036854775774

def zeros (n : Int) : Except Failure Row :=
  if !fitsWord n || maxLength < n then .error .countTooLarge
  else if n < 0 then .error .negativeCount
  else .ok ⟨n.toNat, []⟩

def asRow : Value → Except Failure Row
  | .octets bs | .buffer bs => .ok (Row.ofList bs)
  | .integer n => zeros n
  | .truth b => .ok ⟨if b then 1 else 0, []⟩
  | .text _ | .absent | .name _ => .error .wrongKind

def asOctets (v : Value) : Except Failure (List UInt8) := Row.toList <$> v.asRow

def asInteger? : Value → Option Int
  | .integer n => some n
  | .truth b => some (if b then 1 else 0)
  | _ => none

def compare? : Value → Value → Option Ordering
  | .text s, .text t => some (compare s t)
  | .octets a, .octets b | .octets a, .buffer b | .buffer a, .octets b | .buffer a, .buffer b =>
    some (compare a b)
  | .name m, .name n => some (if m.after n then .gt else if m.before n then .lt else .eq)
  | v, w =>
    match v.asInteger?, w.asInteger? with
    | some m, some n => some (compare m n)
    | _, _ => none

def placeOf (count : Nat) (index : Int) : Except Failure Nat :=
  let i := if index < 0 then index + count else index
  if 0 ≤ i && i < count then .ok i.toNat else .error .outOfRange

/-- A value with one octet replaced, where only changeable octets can be. That the
new one is no octet is noticed before that the index means no place. -/
def replaceOctet : Value → Int → Int → Except Failure Value
  | .buffer bs, index, new =>
    if !fitsWord index then .error .outOfRange
    else if new < 0 || 255 < new then .error .notOctet
    else do return .buffer (bs.set (← placeOf bs.length index) (UInt8.ofNat new.toNat))
  | _, _, _ => .error .wrongKind

/-- What a value is written by in a name, where an empty row of octets leaves nothing to write. -/
def asNamePart : Value → Except Failure Text
  | .text s => .ok s
  | .octets [] | .buffer [] => .ok []
  | _ => .error .wrongKind

def isEmpty : Value → Bool
  | .text s => s.isEmpty
  | .octets bs | .buffer bs => bs.isEmpty
  | .integer n => n == 0
  | .truth b => !b
  | .absent => true
  | .name _ => false

end Value

end DirectorySchema
