import DirectorySchema.Text.Basic

/-!
# UTF-8

Texts as octets and back. Decoding refuses overlong forms, surrogates, numbers
past the last code point and sequences that are cut short.
-/

set_option autoImplicit false

namespace DirectorySchema.Text

def toUtf8 (s : Text) : List UInt8 := s.flatMap String.utf8EncodeChar

def isContinuation (b : UInt8) : Bool := 0x80 ≤ b && b ≤ 0xBF

def charOfBits (lead : Nat) (tail : List UInt8) : Char :=
  Char.ofNat (tail.foldl (fun n b => n * 64 + (b.toNat - 0x80)) lead)

/-- Whether the octet behind a lead octet keeps the number in the range of its
length and off the surrogates. -/
def secondOctetOk (lead second : UInt8) : Bool :=
  isContinuation second && !(lead == 0xE0 && second < 0xA0) && !(lead == 0xED && 0x9F < second) &&
    !(lead == 0xF0 && second < 0x90) && !(lead == 0xF4 && 0x8F < second)

def ofUtf8? : List UInt8 → Option Text
  | [] => some []
  | a :: r =>
    if a < 0x80 then (ofUtf8? r).map (Char.ofNat a.toNat :: ·)
    else match r with
      | [] => none
      | b :: r =>
        if !secondOctetOk a b then none
        else if 0xC2 ≤ a && a ≤ 0xDF then
          (ofUtf8? r).map (charOfBits (a.toNat - 0xC0) [b] :: ·)
        else match r with
          | [] => none
          | c :: r =>
            if !isContinuation c then none
            else if 0xE0 ≤ a && a ≤ 0xEF then
              (ofUtf8? r).map (charOfBits (a.toNat - 0xE0) [b, c] :: ·)
            else match r with
              | [] => none
              | d :: r =>
                if isContinuation d && 0xF0 ≤ a && a ≤ 0xF4 then
                  (ofUtf8? r).map (charOfBits (a.toNat - 0xF0) [b, c, d] :: ·)
                else none

end DirectorySchema.Text
