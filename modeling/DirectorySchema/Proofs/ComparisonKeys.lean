import DirectorySchema.Comparator.Basic
import DirectorySchema.Proofs.Outcomes

/-!
# Keys of comparison

A matching order prepares a key of each value and compares the keys. The keys of texts compare
as equal when they are the same, whatever they are made of, so for texts a matching order says
the same as its keys.
-/

set_option autoImplicit false

namespace DirectorySchema

theorem Ava.order_eq_iff {a b : Ava} : a.order b = .eq ↔ a = b := by
  rw [order, compareLex_eq_eq, compareOn, compareOn, Std.LawfulEqCmp.compare_eq_iff_eq,
    Std.LawfulEqCmp.compare_eq_iff_eq]
  cases a
  cases b
  simp

instance : Std.LawfulEqCmp Ava.order where
  compare_self := Ava.order_eq_iff.mpr rfl
  eq_of_compare := Ava.order_eq_iff.mp

theorem Row.compare_ofList_eq_iff {bs cs : List UInt8} :
    (ofList bs).compare (ofList cs) = .eq ↔ bs = cs := by
  rw [Row.compare_eq, toList_ofList, toList_ofList, Std.LawfulEqCmp.compare_eq_iff_eq]

namespace MatchingOrder

def Key.OfText : Key → Prop
  | .value v => ∃ s, v = .text s
  | .octets r => ∃ bs, r = Row.ofList bs
  | _ => True

theorem Key.compare?_eq_iff {k l : Key} (hk : k.OfText) (hl : l.OfText) :
    k.compare? l = some .eq ↔ k = l := by
  cases k with
  | value v =>
    obtain ⟨s, rfl⟩ := hk
    cases l with
    | value w =>
      obtain ⟨t, rfl⟩ := hl
      simp [compare?, Value.compare?, Std.LawfulEqCmp.compare_eq_iff_eq]
    | _ => simp [compare?]
  | octets r =>
    obtain ⟨bs, rfl⟩ := hk
    cases l with
    | octets r =>
      obtain ⟨cs, rfl⟩ := hl
      rw [compare?, Option.some.injEq, Row.compare_ofList_eq_iff]
      simp [Row.ofList]
    | _ => simp [compare?]
  | _ =>
    cases l <;> simp [compare?, Std.LawfulEqCmp.compare_eq_iff_eq]

theorem compare_eq_ok_iff {o : MatchingOrder} {v w : Value} {c : Ordering} :
    o.compare v w = .ok c ↔
      ∃ k l, o.prepare v = .ok k ∧ o.prepare w = .ok l ∧ k.compare? l = some c := by
  rw [compare, bind_eq_ok_iff]
  refine exists_congr fun k => ?_
  rw [bind_eq_ok_iff, ← exists_and_left]
  refine exists_congr fun l => ?_
  cases k.compare? l <;> simp

theorem normalKey_eq_ok_iff {f : NormalForm} {s : Text} {k : Key} :
    normalKey f (.text s) = .ok k ↔ ∃ t, f.onText s = .ok t ∧ .text t = k := by
  rw [normalKey, bind_eq_ok_iff]
  constructor
  · rintro ⟨_, ⟨⟩, h⟩
    obtain ⟨t, ht, hk⟩ := bind_eq_ok_iff.mp h
    exact ⟨t, ht, Except.ok.inj hk⟩
  · rintro ⟨t, ht, rfl⟩
    exact ⟨s, rfl, bind_eq_ok_iff.mpr ⟨t, ht, rfl⟩⟩

theorem integerKey_eq_ok_iff {s : Text} {k : Key} :
    integerKey (.text s) = .ok k ↔
      ∃ n, Text.readInteger (Text.deepTrim s) = .ok n ∧ .number n = k := by
  have hkey : integerKey (.text s) =
      ((Text.readInteger (Text.deepTrim s)).map Key.number).mapError .numeral := rfl
  rw [hkey, mapError_eq_ok_iff, map_eq_ok_iff]

theorem oidKey_eq_ok_iff {s : Text} {k : Key} :
    oidKey s = .ok k ↔
      if Text.startsWithDigit s then
        ∃ ns, (s.splitOn '.').mapM Text.readInteger = .ok ns ∧ .arcs ns = k
      else .descriptor s = k := by
  unfold oidKey
  split
  · exact mapError_eq_ok_iff.trans map_eq_ok_iff
  · exact ⟨Except.ok.inj, congrArg Except.ok⟩

theorem prepare_name_eq_ok_iff {s : Text} {k : Key} :
    distinguishedName.prepare (.text s) = .ok k ↔
      ∃ n, Dn.parse s = .ok n ∧ .rdns (n.rdns.map Rdn.folded) = k := by
  have hkey : distinguishedName.prepare (.text s) =
      ((Dn.parse s).mapError .invalidRdn).map fun n => Key.rdns (n.rdns.map Rdn.folded) := rfl
  rw [hkey, map_eq_ok_iff]
  simp only [mapError_eq_ok_iff]

theorem prepare_oid (s : Text) :
    objectIdentifier.prepare (.text s) = oidKey (Text.lower (Text.trim s)) := rfl

theorem ofText_of_prepare {o : MatchingOrder} {s : Text} {k : Key}
    (h : o.prepare (.text s) = .ok k) : k.OfText := by
  cases o with
  | identity =>
    cases h
    exact ⟨s, rfl⟩
  | octetString =>
    cases h
    exact ⟨_, rfl⟩
  | integer =>
    obtain ⟨n, -, rfl⟩ := integerKey_eq_ok_iff.mp h
    trivial
  | objectIdentifier =>
    rw [prepare_oid, oidKey_eq_ok_iff] at h
    split at h
    · obtain ⟨ns, -, rfl⟩ := h
      trivial
    · cases h
      trivial
  | distinguishedName =>
    obtain ⟨n, -, rfl⟩ := prepare_name_eq_ok_iff.mp h
    trivial
  | _ =>
    obtain ⟨t, -, rfl⟩ := normalKey_eq_ok_iff.mp h
    trivial

theorem compare_texts_eq_iff {o : MatchingOrder} {s t : Text} {k l : Key}
    (hk : o.prepare (.text s) = .ok k) (hl : o.prepare (.text t) = .ok l) :
    o.compare (.text s) (.text t) = .ok .eq ↔ k = l := by
  rw [← Key.compare?_eq_iff (ofText_of_prepare hk) (ofText_of_prepare hl), compare_eq_ok_iff]
  simp [hk, hl]

end MatchingOrder
end DirectorySchema
