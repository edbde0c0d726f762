import DirectorySchema.Text.Utf8

/-!
# Lines of files

A file is a row of octets that is decoded block by block while its lines are
taken. Octets that cannot be decoded are noticed with their block, and octets cut
short at the end of the file with that end; the lines that are complete before
that are had all the same.
-/

set_option autoImplicit false

namespace DirectorySchema.Text

/-- Whether octets are a sequence that more octets may complete. The first two of a
surrogate count, as that is noticed with the third. -/
def isCutShort : List UInt8 → Bool
  | [a] => 0xC2 ≤ a && a ≤ 0xF4
  | [a, b] =>
    0xE0 ≤ a && a ≤ 0xF4 && (secondOctetOk a b || (a == 0xED && isContinuation b))
  | [a, b, c] => 0xF0 ≤ a && a ≤ 0xF4 && secondOctetOk a b && isContinuation c
  | _ => false

def ofUtf8Start? (octets : List UInt8) : Option Text :=
  (List.range 4).findSome? fun k =>
    let rest := octets.length - k
    if k = 0 || isCutShort (octets.drop rest) then ofUtf8? (octets.take rest) else none

def blockLength : Nat := 8192

/-- The text of the blocks before the first that cannot be decoded, given that it
is one of so many. -/
def decodableStart (octets : List UInt8) : Nat → Text
  | 0 => []
  | blocks + 1 =>
    (ofUtf8Start? (octets.take (blockLength * (blocks + 1)))).getD (decodableStart octets blocks)

/-- The lines of a text that more text may follow. Only what follows a carriage
return at its end tells whether that ends a line. -/
def completeLines (s : Text) : List Text :=
  (lines (unifyNewlines (if s.getLast? = some '\r' then s.dropLast else s))).filter
    fun l => l.getLast? == some '\n'

def fileLines (octets : List UInt8) : List Text × Bool :=
  match ofUtf8? octets with
  | some s => (lines (unifyNewlines s), true)
  | none => (completeLines (decodableStart octets (octets.length / blockLength + 1)), false)

end DirectorySchema.Text
