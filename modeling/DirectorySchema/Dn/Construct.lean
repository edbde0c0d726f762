import DirectorySchema.Value.Basic

/-!
# Names from values

How a name, a relative name or a type with a value comes about from the values
given for it: as a written text, as octets of one, or in parts. Each may be
given in one of these ways only, and the parts have to be texts.
-/

set_option autoImplicit false

namespace DirectorySchema

/-- A type and a value as given, where `none` stands for one that is no text. -/
structure Ava.Draft where
  type : Option Text
  value : Option Text
  deriving DecidableEq, Repr

def Value.isGiven (v : Value) : Bool := v != .absent

/-- Octets are decoded at once; that a part is no text shows only later. -/
def Value.asPart : Value → Except Failure (Option Text)
  | .text s => .ok (some s)
  | .octets bs => some <$> decode bs
  | .absent => .error .misuse
  | _ => .ok none

/-- The text of a written name. An empty value of any kind counts as the empty
text, where that is allowed. -/
def Value.asWritten (emptyAllowed : Bool) : Value → Except Failure Text
  | .text s => .ok s
  | .octets bs => decode bs
  | v => if emptyAllowed && v.isEmpty then .ok [] else .error .wrongKind

namespace Ava

def draft (type value : Value) : Except Failure Draft :=
  if !type.isGiven || !value.isGiven then .error .misuse
  else do return ⟨← type.asPart, ← value.asPart⟩

def Draft.complete : Draft → Except Failure Ava
  | ⟨some type, some value⟩ => .ok ⟨type, value⟩
  | _ => .error .wrongKind

def ofParts (written type value : Value) : Except Failure Ava :=
  if !written.isGiven then do (← draft type value).complete
  else if type.isGiven || value.isGiven then .error .misuse
  else do (Ava.parse (← written.asWritten false)).mapError .invalidRdn

end Ava

namespace Rdn

def ofWritten (v : Value) : Except Failure Rdn := do
  (Rdn.parse (← v.asWritten true)).mapError .invalidRdn

/-- A changeable octet string is taken for a list of parts, which its octets
are not. -/
def ofValue : Value → Except Failure Rdn
  | .text s => ofWritten (.text s)
  | .octets bs => ofWritten (.octets bs)
  | .buffer [] => .ok []
  | .buffer _ => .error .noSuchPart
  | .absent => .error .misuse
  | _ => .error .wrongKind

def copy (r : Rdn) (written : Value) (avas : Option (List Ava.Draft)) : Except Failure Rdn :=
  if written.isGiven || avas.isSome then .error .misuse else .ok r

def ofParts (source written : Value) (avas : Option (List Ava.Draft)) : Except Failure Rdn :=
  if source.isGiven then
    if written.isGiven || avas.isSome then .error .misuse else ofValue source
  else if written.isGiven then
    if avas.isSome then .error .misuse else ofWritten written
  else match avas with
    | none => .error .misuse
    | some drafts => drafts.mapM Ava.Draft.complete

end Rdn

namespace Dn

def ofWritten (v : Value) : Except Failure Dn := do
  (Dn.parse (← v.asWritten true)).mapError .invalidRdn

def ofValue : Value → Except Failure Dn
  | .name n => .ok n
  | .text s => ofWritten (.text s)
  | .octets bs => ofWritten (.octets bs)
  | .buffer [] => .ok root
  | .buffer _ => .error .misuse
  | .absent => .error .misuse
  | _ => .error .wrongKind

def ofParts (source written : Value) (rdns : Option (List (List Ava.Draft))) :
    Except Failure Dn :=
  if source.isGiven then
    if written.isGiven || rdns.isSome then .error .misuse else ofValue source
  else if written.isGiven then
    if rdns.isSome then .error .misuse else ofWritten written
  else match rdns with
    | none => .error .misuse
    | some rs => mk <$> rs.mapM (·.mapM Ava.Draft.complete)

end Dn

def Dn.equals (m : Dn) : Value → Bool
  | .text s => m.text == s
  | .octets bs => Text.toUtf8 m.text == bs
  | .name n => m.same n
  | _ => false

def Dn.containsValue (m : Dn) (v : Value) : Except Failure Bool := m.contains <$> ofValue v

def Dn.compareWith (relation : Dn → Dn → Bool) (m : Dn) : Value → Except Failure Bool
  | .name n => .ok (relation m n)
  | _ => .error .wrongKind

end DirectorySchema
