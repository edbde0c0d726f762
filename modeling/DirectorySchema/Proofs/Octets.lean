import DirectorySchema.Text.Utf8
import Mathlib.Tactic.SplitIfs

/-!
# Octets of texts

Decoding undoes encoding and nothing else: octets are decoded to a text exactly when they are
the octets of that text, so what is refused is the octets of no text at all.
-/

set_option autoImplicit false

namespace DirectorySchema.Text

theorem isContinuation_iff {b : UInt8} :
    isContinuation b = true ↔ 0x80 ≤ b.toNat ∧ b.toNat ≤ 0xBF := by
  simp [isContinuation, UInt8.le_iff_toNat_le]

theorem secondOctetOk_iff {a b : UInt8} :
    secondOctetOk a b = true ↔ (0x80 ≤ b.toNat ∧ b.toNat ≤ 0xBF) ∧
      (a.toNat = 0xE0 → 0xA0 ≤ b.toNat) ∧ (a.toNat = 0xED → b.toNat ≤ 0x9F) ∧
      (a.toNat = 0xF0 → 0x90 ≤ b.toNat) ∧ (a.toNat = 0xF4 → b.toNat ≤ 0x8F) := by
  simp only [secondOctetOk, Bool.and_eq_true, isContinuation_iff, Bool.not_eq_true',
    Bool.and_eq_false_imp, beq_iff_eq, decide_eq_false_iff_not, UInt8.lt_iff_toNat_lt,
    ← UInt8.toNat_inj, Nat.not_lt, and_assoc]
  rfl

theorem between_iff {low high a : UInt8} :
    (decide (low ≤ a) && decide (a ≤ high)) = true ↔
      low.toNat ≤ a.toNat ∧ a.toNat ≤ high.toNat := by
  rw [Bool.and_eq_true, decide_eq_true_eq, decide_eq_true_eq, UInt8.le_iff_toNat_le,
    UInt8.le_iff_toNat_le]

theorem not_between_iff {low high a : UInt8} :
    (decide (low ≤ a) && decide (a ≤ high)) = false ↔
      a.toNat < low.toNat ∨ high.toNat < a.toNat := by
  rw [← Bool.not_eq_true, between_iff]
  omega

theorem not_lt_of_le {a : UInt8} (h : 0x80 ≤ a.toNat) : ¬ a < 0x80 := by
  rw [UInt8.lt_iff_toNat_lt]
  exact Nat.not_lt.mpr h

theorem utf8EncodeChar_ofNat {n : Nat} (h : n.isValidChar) :
    String.utf8EncodeChar (Char.ofNat n) =
      if n ≤ 0x7F then [UInt8.ofNat n]
      else if n ≤ 0x7FF then [UInt8.ofNat (n / 64 % 32 + 192), UInt8.ofNat (n % 64 + 128)]
      else if n ≤ 0xFFFF then
        [UInt8.ofNat (n / 4096 % 16 + 224), UInt8.ofNat (n / 64 % 64 + 128),
          UInt8.ofNat (n % 64 + 128)]
      else
        [UInt8.ofNat (n / 262144 % 8 + 240), UInt8.ofNat (n / 4096 % 64 + 128),
          UInt8.ofNat (n / 64 % 64 + 128), UInt8.ofNat (n % 64 + 128)] := by
  have hn : (Char.ofNat n).val.toNat = n := by
    rw [Char.ofNat, dif_pos h]
    rfl
  simp only [String.utf8EncodeChar, hn]

section
variable {a b c d : UInt8}

theorem utf8EncodeChar_one (ha : a < 0x80) : String.utf8EncodeChar (Char.ofNat a.toNat) = [a] := by
  have hle : a.toNat ≤ 0x7F := Nat.le_of_lt_succ (UInt8.lt_iff_toNat_lt.mp ha)
  rw [utf8EncodeChar_ofNat (Or.inl (by omega)), if_pos hle, UInt8.ofNat_toNat]

theorem utf8EncodeChar_two (hb : secondOctetOk a b = true) (ha : 0xC2 ≤ a.toNat ∧ a.toNat ≤ 0xDF) :
    String.utf8EncodeChar (charOfBits (a.toNat - 0xC0) [b]) = [a, b] := by
  rw [secondOctetOk_iff] at hb
  rw [charOfBits, List.foldl_cons, List.foldl_nil]
  generalize hn : (a.toNat - 0xC0) * 64 + (b.toNat - 0x80) = n
  have hfirst : n / 64 % 32 + 192 = a.toNat := by omega
  have hsecond : n % 64 + 128 = b.toNat := by omega
  rw [utf8EncodeChar_ofNat (Or.inl (by omega)), if_neg (by omega), if_pos (by omega), hfirst,
    hsecond, UInt8.ofNat_toNat, UInt8.ofNat_toNat]

theorem utf8EncodeChar_three (hb : secondOctetOk a b = true) (hc : isContinuation c = true)
    (ha : 0xE0 ≤ a.toNat ∧ a.toNat ≤ 0xEF) :
    String.utf8EncodeChar (charOfBits (a.toNat - 0xE0) [b, c]) = [a, b, c] := by
  rw [secondOctetOk_iff] at hb
  rw [isContinuation_iff] at hc
  rw [charOfBits, List.foldl_cons, List.foldl_cons, List.foldl_nil]
  generalize hn : ((a.toNat - 0xE0) * 64 + (b.toNat - 0x80)) * 64 + (c.toNat - 0x80) = n
  have hfirst : n / 4096 % 16 + 224 = a.toNat := by omega
  have hsecond : n / 64 % 64 + 128 = b.toNat := by omega
  have hthird : n % 64 + 128 = c.toNat := by omega
  have hvalid : n.isValidChar := by
    unfold Nat.isValidChar
    omega
  rw [utf8EncodeChar_ofNat hvalid, if_neg (by omega), if_neg (by omega), if_pos (by omega), hfirst,
    hsecond, hthird, UInt8.ofNat_toNat, UInt8.ofNat_toNat, UInt8.ofNat_toNat]

theorem utf8EncodeChar_four (hb : secondOctetOk a b = true) (hc : isContinuation c = true)
    (hd : isContinuation d = true) (ha : 0xF0 ≤ a.toNat ∧ a.toNat ≤ 0xF4) :
    String.utf8EncodeChar (charOfBits (a.toNat - 0xF0) [b, c, d]) = [a, b, c, d] := by
  rw [secondOctetOk_iff] at hb
  rw [isContinuation_iff] at hc hd
  rw [charOfBits, List.foldl_cons, List.foldl_cons, List.foldl_cons, List.foldl_nil]
  generalize hn : (((a.toNat - 0xF0) * 64 + (b.toNat - 0x80)) * 64 + (c.toNat - 0x80)) * 64 +
    (d.toNat - 0x80) = n
  have hfirst : n / 262144 % 8 + 240 = a.toNat := by omega
  have hsecond : n / 4096 % 64 + 128 = b.toNat := by omega
  have hthird : n / 64 % 64 + 128 = c.toNat := by omega
  have hfourth : n % 64 + 128 = d.toNat := by omega
  rw [utf8EncodeChar_ofNat (Or.inr (by omega)), if_neg (by omega), if_neg (by omega),
    if_neg (by omega), hfirst, hsecond, hthird, hfourth, UInt8.ofNat_toNat, UInt8.ofNat_toNat,
    UInt8.ofNat_toNat, UInt8.ofNat_toNat]

end

theorem toUtf8_cons (c : Char) (s : Text) : toUtf8 (c :: s) = String.utf8EncodeChar c ++ toUtf8 s :=
  List.flatMap_cons

theorem toUtf8_of_ofUtf8? {octets : List UInt8} {s : Text} (h : ofUtf8? octets = some s) :
    toUtf8 s = octets := by
  fun_induction ofUtf8? octets generalizing s with
  | case1 =>
    cases h
    rfl
  | case2 a r ha ih =>
    obtain ⟨t, ht, rfl⟩ := Option.map_eq_some_iff.mp h
    rw [toUtf8_cons, utf8EncodeChar_one ha, ih ht, List.singleton_append]
  | case5 a ha b r hb hab ih =>
    obtain ⟨t, ht, rfl⟩ := Option.map_eq_some_iff.mp h
    rw [toUtf8_cons, utf8EncodeChar_two (by simpa using hb) (between_iff.mp hab), ih ht]
    rfl
  | case8 a ha b hb hab c r hc habc ih =>
    obtain ⟨t, ht, rfl⟩ := Option.map_eq_some_iff.mp h
    rw [toUtf8_cons, utf8EncodeChar_three (by simpa using hb) (by simpa using hc)
      (between_iff.mp habc), ih ht]
    rfl
  | case10 a ha b hb hab c hc habc d r hd ih =>
    obtain ⟨t, ht, rfl⟩ := Option.map_eq_some_iff.mp h
    rw [Bool.and_assoc, Bool.and_eq_true] at hd
    rw [toUtf8_cons, utf8EncodeChar_four (by simpa using hb) (by simpa using hc) hd.1
      (between_iff.mp hd.2), ih ht]
    rfl
  | _ => cases h

section
variable {a b c d : UInt8} (r : List UInt8)

theorem ofUtf8?_one (ha : a.toNat ≤ 0x7F) :
    ofUtf8? (a :: r) = (ofUtf8? r).map (Char.ofNat a.toNat :: ·) := by
  have hlt : a < 0x80 := UInt8.lt_iff_toNat_lt.mpr (Nat.lt_succ_of_le ha)
  rw [ofUtf8?.eq_def]
  simp only [hlt, if_true]

theorem ofUtf8?_two (ha : 0xC2 ≤ a.toNat ∧ a.toNat ≤ 0xDF) (hb : secondOctetOk a b = true) :
    ofUtf8? (a :: b :: r) = (ofUtf8? r).map (charOfBits (a.toNat - 0xC0) [b] :: ·) := by
  have hlt : ¬ a < 0x80 := not_lt_of_le (Nat.le_trans (by decide) ha.1)
  have hlead : (decide (0xC2 ≤ a) && decide (a ≤ 0xDF)) = true := between_iff.mpr ha
  rw [ofUtf8?.eq_def]
  simp only [hlt, hb, hlead, if_true, if_false, Bool.not_true, Bool.false_eq_true]

theorem ofUtf8?_three (ha : 0xE0 ≤ a.toNat ∧ a.toNat ≤ 0xEF) (hb : secondOctetOk a b = true)
    (hc : isContinuation c = true) :
    ofUtf8? (a :: b :: c :: r) = (ofUtf8? r).map (charOfBits (a.toNat - 0xE0) [b, c] :: ·) := by
  have hlt : ¬ a < 0x80 := not_lt_of_le (Nat.le_trans (by decide) ha.1)
  have hlead : (decide (0xC2 ≤ a) && decide (a ≤ 0xDF)) = false :=
    not_between_iff.mpr (Or.inr (Nat.lt_of_lt_of_le (by decide) ha.1))
  have hlead3 : (decide (0xE0 ≤ a) && decide (a ≤ 0xEF)) = true := between_iff.mpr ha
  rw [ofUtf8?.eq_def]
  simp only [hlt, hb, hc, hlead, hlead3, if_true, if_false, Bool.not_true,
    Bool.false_eq_true]

theorem ofUtf8?_four (ha : 0xF0 ≤ a.toNat ∧ a.toNat ≤ 0xF4) (hb : secondOctetOk a b = true)
    (hc : isContinuation c = true) (hd : isContinuation d = true) :
    ofUtf8? (a :: b :: c :: d :: r) =
      (ofUtf8? r).map (charOfBits (a.toNat - 0xF0) [b, c, d] :: ·) := by
  have hlt : ¬ a < 0x80 := not_lt_of_le (Nat.le_trans (by decide) ha.1)
  have hlead : (decide (0xC2 ≤ a) && decide (a ≤ 0xDF)) = false :=
    not_between_iff.mpr (Or.inr (Nat.lt_of_lt_of_le (by decide) ha.1))
  have hlead3 : (decide (0xE0 ≤ a) && decide (a ≤ 0xEF)) = false :=
    not_between_iff.mpr (Or.inr (Nat.lt_of_lt_of_le (by decide) ha.1))
  have hlead4 : (decide (0xF0 ≤ a) && decide (a ≤ 0xF4)) = true := between_iff.mpr ha
  rw [ofUtf8?.eq_def]
  simp only [hlt, hb, hc, hd, hlead, hlead3, Bool.and_assoc, hlead4, if_true, if_false,
    Bool.not_true, Bool.false_eq_true, Bool.and_self]

end

theorem ofUtf8?_utf8EncodeChar_append (c : Char) (r : List UInt8) :
    ofUtf8? (String.utf8EncodeChar c ++ r) = (ofUtf8? r).map (c :: ·) := by
  obtain ⟨n, hn, rfl⟩ : ∃ n : Nat, n.isValidChar ∧ Char.ofNat n = c :=
    ⟨c.toNat, c.valid, Char.ofNat_toNat c⟩
  have octet : ∀ {k : Nat}, k < 256 → (UInt8.ofNat k).toNat = k := UInt8.toNat_ofNat_of_lt'
  have hvalid : n < 0xD800 ∨ 0xDFFF < n ∧ n < 0x110000 := hn
  rw [utf8EncodeChar_ofNat hn]
  split_ifs with h1 h2 h3
  · rw [List.singleton_append, ofUtf8?_one _ (by rw [octet (by omega)]; omega), octet (by omega)]
  · have ha : (UInt8.ofNat (n / 64 % 32 + 192)).toNat = n / 64 % 32 + 192 := octet (by omega)
    have hb : (UInt8.ofNat (n % 64 + 128)).toNat = n % 64 + 128 := octet (by omega)
    have hn : (n / 64 % 32 + 192 - 0xC0) * 64 + (n % 64 + 128 - 0x80) = n := by omega
    rw [List.cons_append, List.singleton_append,
      ofUtf8?_two _ (by omega) (secondOctetOk_iff.mpr (by omega)), charOfBits, List.foldl_cons,
      List.foldl_nil, ha, hb, hn]
  · have ha : (UInt8.ofNat (n / 4096 % 16 + 224)).toNat = n / 4096 % 16 + 224 := octet (by omega)
    have hb : (UInt8.ofNat (n / 64 % 64 + 128)).toNat = n / 64 % 64 + 128 := octet (by omega)
    have hc : (UInt8.ofNat (n % 64 + 128)).toNat = n % 64 + 128 := octet (by omega)
    have hn : ((n / 4096 % 16 + 224 - 0xE0) * 64 + (n / 64 % 64 + 128 - 0x80)) * 64 +
        (n % 64 + 128 - 0x80) = n := by omega
    rw [List.cons_append, List.cons_append, List.singleton_append,
      ofUtf8?_three _ (by omega) (secondOctetOk_iff.mpr (by omega))
        (isContinuation_iff.mpr (by omega)),
      charOfBits, List.foldl_cons, List.foldl_cons, List.foldl_nil, ha, hb, hc, hn]
  · have ha : (UInt8.ofNat (n / 262144 % 8 + 240)).toNat = n / 262144 % 8 + 240 := octet (by omega)
    have hb : (UInt8.ofNat (n / 4096 % 64 + 128)).toNat = n / 4096 % 64 + 128 := octet (by omega)
    have hc : (UInt8.ofNat (n / 64 % 64 + 128)).toNat = n / 64 % 64 + 128 := octet (by omega)
    have hd : (UInt8.ofNat (n % 64 + 128)).toNat = n % 64 + 128 := octet (by omega)
    have hn : (((n / 262144 % 8 + 240 - 0xF0) * 64 + (n / 4096 % 64 + 128 - 0x80)) * 64 +
        (n / 64 % 64 + 128 - 0x80)) * 64 + (n % 64 + 128 - 0x80) = n := by omega
    rw [List.cons_append, List.cons_append, List.cons_append, List.singleton_append,
      ofUtf8?_four _ (by omega) (secondOctetOk_iff.mpr (by omega))
        (isContinuation_iff.mpr (by omega)) (isContinuation_iff.mpr (by omega)),
      charOfBits, List.foldl_cons, List.foldl_cons, List.foldl_cons, List.foldl_nil, ha, hb, hc,
      hd, hn]

theorem ofUtf8?_toUtf8 (s : Text) : ofUtf8? (toUtf8 s) = some s := by
  induction s with
  | nil => rfl
  | cons c s ih => rw [toUtf8_cons, ofUtf8?_utf8EncodeChar_append, ih, Option.map_some]

theorem toUtf8_injective : Function.Injective toUtf8 := by
  intro s t h
  have hsome := ofUtf8?_toUtf8 s
  rw [h, ofUtf8?_toUtf8] at hsome
  exact (Option.some.inj hsome).symm

theorem ofUtf8?_eq_some_iff {octets : List UInt8} {s : Text} :
    ofUtf8? octets = some s ↔ toUtf8 s = octets := by
  constructor
  · exact toUtf8_of_ofUtf8?
  · rintro rfl
    exact ofUtf8?_toUtf8 s

theorem ofUtf8?_eq_none_iff {octets : List UInt8} :
    ofUtf8? octets = none ↔ ∀ s, toUtf8 s ≠ octets := by
  simp only [Option.eq_none_iff_forall_ne_some, ne_eq, ofUtf8?_eq_some_iff]

end DirectorySchema.Text
