/-!
# Rows of octets

A row of octets may be asked for by its length alone and is all zeros then. Such
zeros are counted and not written out; rows compare as the octets they stand for.
-/

set_option autoImplicit false

namespace DirectorySchema

structure Row where
  zeros : Nat
  octets : List UInt8
  deriving DecidableEq, Repr

namespace Row

def toList (r : Row) : List UInt8 := List.replicate r.zeros 0 ++ r.octets

def ofList (octets : List UInt8) : Row := ⟨0, octets⟩

theorem toList_ofList (octets : List UInt8) : (ofList octets).toList = octets := rfl

def compareWithZeros : List UInt8 → Nat → List UInt8 → Ordering
  | bs, 0, cs => Ord.compare bs cs
  | [], _ + 1, _ => .lt
  | b :: bs, zeros + 1, cs => if b = 0 then compareWithZeros bs zeros cs else .gt

theorem compareWithZeros_eq (bs : List UInt8) (zeros : Nat) (cs : List UInt8) :
    compareWithZeros bs zeros cs = Ord.compare bs (List.replicate zeros 0 ++ cs) := by
  induction zeros generalizing bs with
  | zero => simp [compareWithZeros]
  | succ zeros ih =>
    cases bs with
    | nil => rfl
    | cons b bs =>
      rw [compareWithZeros, ih, List.replicate_succ, List.cons_append, List.compare_cons_cons]
      by_cases hb : b = 0
      · simp [hb]
      · have hlt : ¬ b < 0 := by simp [UInt8.lt_iff_toNat_lt]
        have hgt : Ord.compare b 0 = .gt := by simp [Ord.compare, compareOfLessAndEq, hb, hlt]
        simp [hb, hgt]

theorem compare_replicate_append (n : Nat) (bs cs : List UInt8) :
    Ord.compare (List.replicate n 0 ++ bs) (List.replicate n 0 ++ cs) = Ord.compare bs cs := by
  induction n with
  | zero => rfl
  | succ n ih => simp [List.replicate_succ, List.compare_cons_cons, ih, Std.ReflOrd.compare_self]

protected def compare (r s : Row) : Ordering :=
  if r.zeros ≤ s.zeros then compareWithZeros r.octets (s.zeros - r.zeros) s.octets
  else (compareWithZeros s.octets (r.zeros - s.zeros) r.octets).swap

theorem compare_eq (r s : Row) : r.compare s = Ord.compare r.toList s.toList := by
  rcases r with ⟨m, bs⟩
  rcases s with ⟨n, cs⟩
  by_cases h : m ≤ n
  · obtain ⟨k, rfl⟩ := Nat.exists_eq_add_of_le h
    simp [Row.compare, toList, compareWithZeros_eq, ← List.replicate_append_replicate,
      List.append_assoc, compare_replicate_append]
  · obtain ⟨k, rfl⟩ := Nat.exists_eq_add_of_le (Nat.le_of_not_le h)
    simp [Row.compare, toList, compareWithZeros_eq, ← List.replicate_append_replicate,
      List.append_assoc, compare_replicate_append, h]
    exact Std.OrientedOrd.eq_swap.symm

end Row

end DirectorySchema
