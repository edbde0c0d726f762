import DirectorySchema.Proofs.FoldedIdentifiers
import DirectorySchema.Proofs.RuleAgreement

/-!
# Comparators order values

The keys that a matching order prepares are of one shape, and keys of one shape are totally
preordered. So the values that a comparator takes are, whatever kinds of value they are.
Identifiers that start with a digit come before all others, and of two numeric ones that comes
first which ends before the other or has the smaller number where their arcs first differ.
-/

set_option autoImplicit false

namespace DirectorySchema

instance : Std.TransCmp Ava.order :=
  inferInstanceAs (Std.TransCmp (compareLex (compareOn Ava.type) (compareOn Ava.value)))

namespace MatchingOrder

namespace Key

inductive Shape where
  | value
  | text
  | number
  | octets
  | identifier
  | name
  deriving DecidableEq

def shape : Key → Shape
  | .value _ => .value
  | .text _ => .text
  | .number _ => .number
  | .octets _ => .octets
  | .arcs _ | .descriptor _ => .identifier
  | .rdns _ => .name

def letters : Key → Text
  | .text s | .descriptor s => s
  | _ => []

def integer : Key → Int
  | .number n => n
  | _ => 0

def bytes : Key → List UInt8
  | .octets r => r.toList
  | _ => []

def rank : Key → Nat
  | .descriptor _ => 1
  | _ => 0

def numbers : Key → List Int
  | .arcs ns => ns
  | _ => []

def parts : Key → List Rdn
  | .rdns rs => rs
  | _ => []

def Shape.order : Shape → Key → Key → Ordering
  | .value => fun _ _ => .eq
  | .text => compareOn letters
  | .number => compareOn integer
  | .octets => compareOn bytes
  | .identifier => compareLex (compareOn rank) (compareLex (compareOn numbers) (compareOn letters))
  | .name => fun k l => List.compareLex (List.compareLex Ava.order) k.parts l.parts

theorem transCmp_on {κ : Type} (cmp : κ → κ → Ordering) [Std.TransCmp cmp] (f : Key → κ) :
    Std.TransCmp fun k l => cmp (f k) (f l) where
  eq_swap {k l} := @Std.OrientedCmp.eq_swap _ cmp _ (f k) (f l)
  isLE_trans {k l m} := @Std.TransCmp.isLE_trans _ cmp _ (f k) (f l) (f m)

instance (s : Shape) : Std.TransCmp s.order := by
  cases s with
  | value => exact transCmp_on (compareOn fun _ : Unit => 0) fun _ => ()
  | text => exact inferInstanceAs (Std.TransCmp (compareOn letters))
  | number => exact inferInstanceAs (Std.TransCmp (compareOn integer))
  | octets => exact inferInstanceAs (Std.TransCmp (compareOn bytes))
  | identifier =>
    exact inferInstanceAs (Std.TransCmp
      (compareLex (compareOn rank) (compareLex (compareOn numbers) (compareOn letters))))
  | name => exact transCmp_on (List.compareLex (List.compareLex Ava.order)) parts

theorem compare?_eq_order {k l : Key} (h : k.shape = l.shape) (hvalue : k.shape ≠ .value) :
    k.compare? l = some (k.shape.order k l) := by
  cases k with
  | value v => exact absurd rfl hvalue
  | octets r =>
    cases l with
    | octets s => exact congrArg some (Row.compare_eq r s)
    | _ => cases h
  | arcs ns =>
    cases l with
    | arcs ms =>
      simp [compare?, shape, Shape.order, compareLex, compareOn, rank, numbers, letters]
    | descriptor t => rfl
    | _ => cases h
  | _ => cases l <;> first | rfl | cases h

end Key

def shape : MatchingOrder → Key.Shape
  | identity => .value
  | caseIgnore | caseExact | numericString | telephoneNumber | boolean => .text
  | integer => .number
  | octetString => .octets
  | objectIdentifier => .identifier
  | distinguishedName => .name

theorem shape_of_normalKey {f : NormalForm} {v : Value} {k : Key} (h : normalKey f v = .ok k) :
    k.shape = .text := by
  obtain ⟨s, -, h⟩ := bind_eq_ok_iff.mp h
  obtain ⟨t, -, h⟩ := bind_eq_ok_iff.mp h
  cases h
  rfl

theorem shape_of_integerKey {v : Value} {k : Key} (h : integerKey v = .ok k) :
    k.shape = .number := by
  unfold integerKey at h
  split at h
  · cases h
    rfl
  · obtain ⟨s, -, h⟩ := bind_eq_ok_iff.mp h
    obtain ⟨n, -, rfl⟩ := map_eq_ok_iff.mp (mapError_eq_ok_iff.mp h)
    rfl

theorem shape_of_octetKey {v : Value} {k : Key} (h : octetKey v = .ok k) : k.shape = .octets := by
  unfold octetKey at h
  split at h
  · cases h
    rfl
  · obtain ⟨r, -, rfl⟩ := map_eq_ok_iff.mp h
    rfl

theorem shape_of_oidKey {s : Text} {k : Key} (h : oidKey s = .ok k) : k.shape = .identifier := by
  rw [oidKey_eq_ok_iff] at h
  split at h
  · obtain ⟨ns, -, rfl⟩ := h
    rfl
  · cases h
    rfl

theorem shape_of_prepare {o : MatchingOrder} {v : Value} {k : Key} (h : o.prepare v = .ok k) :
    k.shape = o.shape := by
  cases o with
  | identity =>
    cases h
    rfl
  | integer => exact shape_of_integerKey h
  | octetString => exact shape_of_octetKey h
  | objectIdentifier =>
    obtain ⟨s, -, h⟩ := bind_eq_ok_iff.mp h
    obtain ⟨t, -, h⟩ := bind_eq_ok_iff.mp h
    exact shape_of_oidKey h
  | distinguishedName =>
    obtain ⟨n, -, h⟩ := bind_eq_ok_iff.mp h
    cases h
    rfl
  | _ => exact shape_of_normalKey h

structure TotalPreorder (o : MatchingOrder) : Prop where
  total : ∀ a b, o.Takes a → o.Takes b → ∃ x, o.compare a b = .ok x
  swap : ∀ a b x, o.compare a b = .ok x → o.compare b a = .ok x.swap
  refl : ∀ a, o.Takes a → o.compare a a = .ok .eq
  trans : ∀ a b c x y, o.compare a b = .ok x → x.isLE = true →
    o.compare b c = .ok y → y.isLE = true → ∃ z, o.compare a c = .ok z ∧ z.isLE = true
  congr : ∀ a b c, o.compare a b = .ok .eq → o.Takes c → o.compare a c = o.compare b c

theorem compare_of_prepare {o : MatchingOrder} (ho : o ≠ .identity) {a b : Value} {k l : Key}
    (hk : o.prepare a = .ok k) (hl : o.prepare b = .ok l) :
    o.compare a b = .ok (o.shape.order k l) := by
  have hkshape := shape_of_prepare hk
  have hvalue : o.shape ≠ .value := by
    cases o with
    | identity => exact absurd rfl ho
    | _ => nofun
  refine compare_eq_ok_iff.mpr ⟨k, l, hk, hl, ?_⟩
  rw [Key.compare?_eq_order (hkshape.trans (shape_of_prepare hl).symm) (hkshape ▸ hvalue), hkshape]

theorem takes_of_compare {o : MatchingOrder} {a b : Value} {x : Ordering}
    (h : o.compare a b = .ok x) : o.Takes a ∧ o.Takes b := by
  obtain ⟨k, l, hk, hl, -⟩ := compare_eq_ok_iff.mp h
  exact ⟨⟨k, hk⟩, l, hl⟩

theorem totalPreorder {o : MatchingOrder} (ho : o ≠ .identity) : o.TotalPreorder := by
  constructor
  · rintro a b ⟨k, hk⟩ ⟨l, hl⟩
    exact ⟨_, compare_of_prepare ho hk hl⟩
  · intro a b x h
    obtain ⟨⟨k, hk⟩, l, hl⟩ := takes_of_compare h
    rw [compare_of_prepare ho hk hl, Except.ok.injEq] at h
    rw [compare_of_prepare ho hl hk, ← h]
    exact congrArg Except.ok Std.OrientedCmp.eq_swap
  · rintro a ⟨k, hk⟩
    rw [compare_of_prepare ho hk hk]
    exact congrArg Except.ok Std.ReflCmp.compare_self
  · intro a b c x y hx hxle hy hyle
    obtain ⟨⟨k, hk⟩, l, hl⟩ := takes_of_compare hx
    obtain ⟨-, m, hm⟩ := takes_of_compare hy
    rw [compare_of_prepare ho hk hl, Except.ok.injEq] at hx
    rw [compare_of_prepare ho hl hm, Except.ok.injEq] at hy
    subst hx
    subst hy
    exact ⟨_, compare_of_prepare ho hk hm, Std.TransCmp.isLE_trans hxle hyle⟩
  · rintro a b c h ⟨m, hm⟩
    obtain ⟨⟨k, hk⟩, l, hl⟩ := takes_of_compare h
    rw [compare_of_prepare ho hk hl, Except.ok.injEq] at h
    rw [compare_of_prepare ho hk hm, compare_of_prepare ho hl hm, Std.TransCmp.congr_left h]

/-- One list of numbers before another: it ends first, or has the smaller number where the two
first differ. -/
def NumbersBefore (ms ns : List Int) : Prop :=
  (∃ n rest, ns = ms ++ n :: rest) ∨
    ∃ front m n r s, ms = front ++ m :: r ∧ ns = front ++ n :: s ∧ m < n

theorem numbersBefore_cons_iff {m n : Int} {ms ns : List Int} :
    NumbersBefore (m :: ms) (n :: ns) ↔ m < n ∨ m = n ∧ NumbersBefore ms ns := by
  constructor
  · rintro (⟨k, rest, h⟩ | ⟨front, k, l, r, s, hm, hn, hlt⟩)
    · rw [List.cons_append, List.cons.injEq] at h
      exact Or.inr ⟨h.1.symm, Or.inl ⟨k, rest, h.2⟩⟩
    · cases front with
      | nil =>
        rw [List.nil_append, List.cons.injEq] at hm hn
        rw [hm.1, hn.1]
        exact Or.inl hlt
      | cons f front =>
        rw [List.cons_append, List.cons.injEq] at hm hn
        exact Or.inr ⟨hm.1.trans hn.1.symm, Or.inr ⟨front, k, l, r, s, hm.2, hn.2, hlt⟩⟩
  · rintro (hlt | ⟨rfl, ⟨k, rest, rfl⟩ | ⟨front, k, l, r, s, rfl, rfl, hlt⟩⟩)
    · exact Or.inr ⟨[], m, n, ms, ns, rfl, rfl, hlt⟩
    · exact Or.inl ⟨k, rest, rfl⟩
    · exact Or.inr ⟨m :: front, k, l, r, s, rfl, rfl, hlt⟩

theorem compare_eq_lt_iff_numbersBefore {ms ns : List Int} :
    Ord.compare ms ns = .lt ↔ NumbersBefore ms ns := by
  induction ms generalizing ns with
  | nil =>
    cases ns with
    | nil => simp [NumbersBefore]
    | cons n ns => exact iff_of_true rfl (Or.inl ⟨n, ns, rfl⟩)
  | cons m ms ih =>
    cases ns with
    | nil => simp [NumbersBefore]
    | cons n ns =>
      rw [numbersBefore_cons_iff, List.compare_cons_cons, Ordering.then_eq_lt, ih,
        Std.LawfulEqCmp.compare_eq_iff_eq, Int.compare_eq_lt]

/-- Identifiers that start with a digit come before all others, numeric ones in the order of
their arcs. White space around an identifier does not count. -/
structure ArcwiseOrder : Prop where
  numeric_first : ∀ a b s t, a.asText = .ok s → b.asText = .ok t →
    Text.startsWithDigit (Text.trim s) = true → Text.startsWithDigit (Text.trim t) = false →
    objectIdentifier.Takes a → objectIdentifier.compare a b = .ok .lt
  by_arcs : ∀ a b s t, a.asText = .ok s → b.asText = .ok t →
    Text.isNumericOid (Text.trim s) = true → Text.isNumericOid (Text.trim t) = true →
    objectIdentifier.Takes a → objectIdentifier.Takes b →
    (objectIdentifier.compare a b = .ok .lt ↔
      NumbersBefore (Text.arcs (Text.trim s)) (Text.arcs (Text.trim t)))

theorem prepare_of_asText {a : Value} {s : Text} (h : a.asText = .ok s) :
    objectIdentifier.prepare a = oidKey (Text.lower (Text.trim s)) := by
  rw [prepare, h]
  rfl

theorem arcs_of_prepare {a : Value} {s : Text} {k : Key} (h : a.asText = .ok s)
    (hs : Text.isNumericOid (Text.trim s) = true) (hk : objectIdentifier.prepare a = .ok k) :
    k = .arcs (Text.arcs (Text.trim s)) := by
  have hdotted := Text.isDotted_of_isNumericOid hs (Text.trimmed_trim s)
  rw [prepare_of_asText h, Text.lower_of_isDotted hdotted, oidKey_eq_ok_iff,
    if_pos (Text.startsWithDigit_of_isNumericOid hs)] at hk
  obtain ⟨ns, hns, rfl⟩ := hk
  rw [Text.eq_arcs_of_read hdotted hns]

theorem arcwiseOrder : ArcwiseOrder := by
  constructor
  · rintro a b s t hs ht hdigit hother ⟨k, hk⟩
    have hl := prepare_of_asText ht
    rw [oidKey, Text.startsWithDigit_lower, hother] at hl
    have harcs := hk
    rw [prepare_of_asText hs, oidKey_eq_ok_iff, Text.startsWithDigit_lower, if_pos hdigit] at harcs
    obtain ⟨ns, -, rfl⟩ := harcs
    exact compare_eq_ok_iff.mpr ⟨_, _, hk, hl, rfl⟩
  · rintro a b s t hs ht hsnum htnum ⟨k, hk⟩ ⟨l, hl⟩
    have hkarcs := arcs_of_prepare hs hsnum hk
    have hlarcs := arcs_of_prepare ht htnum hl
    rw [← compare_eq_lt_iff_numbersBefore, compare_eq_ok_iff]
    simp [hk, hl, hkarcs, hlarcs, Key.compare?]

/-- Every comparator but the one that takes values as they are orders the values that it takes
as a total preorder, and identifiers are ordered arc by arc. -/
theorem comparators_order_values :
    (∀ o : MatchingOrder, o ≠ .identity → o.TotalPreorder) ∧ ArcwiseOrder :=
  ⟨fun _ ho => totalPreorder ho, arcwiseOrder⟩

/-- A numeric identifier before one that goes on, given as octets, and both before a name. -/
theorem sample_identifiers_ordered :
    let a : Value := .text " 2.05.4"
    let b : Value := .octets (Text.toUtf8 "2.5.4.10")
    let c : Value := .text "CN"
    objectIdentifier ≠ .identity ∧ objectIdentifier.compare a b = .ok .lt ∧
      objectIdentifier.compare b a = .ok .gt ∧ objectIdentifier.compare b c = .ok .lt ∧
      ∃ x, objectIdentifier.compare a c = .ok x ∧ x.isLE = true := by
  intro a b c
  have ho : objectIdentifier ≠ .identity := nofun
  have ha : objectIdentifier.prepare a = .ok (.arcs [2, 5, 4]) := by decide +kernel
  have hb : objectIdentifier.prepare b = .ok (.arcs [2, 5, 4, 10]) := by decide +kernel
  obtain ⟨hpreorder, harcwise⟩ := comparators_order_values
  have hlaws := hpreorder objectIdentifier ho
  have hab : objectIdentifier.compare a b = .ok .lt := by
    refine (harcwise.by_arcs a b " 2.05.4" "2.5.4.10" rfl (by decide +kernel) (by decide +kernel)
      (by decide +kernel) ⟨_, ha⟩ ⟨_, hb⟩).mpr (Or.inl ⟨10, [], ?_⟩)
    decide +kernel
  have hbc : objectIdentifier.compare b c = .ok .lt :=
    harcwise.numeric_first b c "2.5.4.10" "CN" (by decide +kernel) rfl (by decide +kernel)
      (by decide +kernel) ⟨_, hb⟩
  exact ⟨ho, hab, hlaws.swap a b _ hab, hbc, hlaws.trans a b c _ _ hab rfl hbc rfl⟩

end MatchingOrder

end DirectorySchema
