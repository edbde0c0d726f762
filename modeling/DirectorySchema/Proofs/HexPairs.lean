import DirectorySchema.Proofs.Octets
import DirectorySchema.Proofs.WrittenNames

/-!
# Hex pairs

In a written name the octets of a character may stand for it, each as a pair of hex digits
behind a backslash. Reading takes every pair for a character of its own: the characters of
ASCII, which are one octet, come back, and a character of more octets comes back as so many
characters. So a spelling with hex pairs is read as the plain one exactly when they were
written for characters of ASCII alone.
-/

set_option autoImplicit false

namespace DirectorySchema

namespace Dn

inductive OctetPairs : List UInt8 → Text → Prop
  | nil : OctetPairs [] []
  | cons {b : UInt8} {bs : List UInt8} {x y : Char} {w : Text} :
      hexValue? x = some (b.toNat / 16) → hexValue? y = some (b.toNat % 16) →
      OctetPairs bs w → OctetPairs (b :: bs) ('\\' :: x :: y :: w)

/-- The characters of a text, each with whether its octets are written for it. -/
abbrev MarkedText := List (Char × Bool)

/-- Marked characters are written by their octets, the others as escaping writes them where they
stand in the text. -/
inductive Spells : Bool → MarkedText → Text → Prop
  | nil {first : Bool} : Spells first [] []
  | escaped {first : Bool} {c : Char} {s : MarkedText} {w : Text} :
      Spells false s w → Spells first ((c, false) :: s) (escapeChar first s.isEmpty c ++ w)
  | octets {first : Bool} {c : Char} {s : MarkedText} {u w : Text} :
      OctetPairs (String.utf8EncodeChar c) u → Spells false s w →
      Spells first ((c, true) :: s) (u ++ w)

def octetwise (bs : List UInt8) : Text := bs.map fun b => Char.ofNat b.toNat

namespace MarkedText

def plain (s : MarkedText) : Text := s.map Prod.fst

def unit (p : Char × Bool) : Text :=
  if p.2 then octetwise (String.utf8EncodeChar p.1) else [p.1]

/-- The text with each marked character replaced by one character for each of its octets. -/
def apart (s : MarkedText) : Text := s.flatMap unit

def MarksAscii (s : MarkedText) : Prop := ∀ p ∈ s, p.2 = true → p.1.toNat ≤ 0x7F

instance (s : MarkedText) : Decidable s.MarksAscii :=
  inferInstanceAs (Decidable (∀ p ∈ s, p.2 = true → p.1.toNat ≤ 0x7F))

end MarkedText

theorem hexPair?_of_octet {b : UInt8} {x y : Char} (hx : hexValue? x = some (b.toNat / 16))
    (hy : hexValue? y = some (b.toNat % 16)) : hexPair? x y = some (Char.ofNat b.toNat) := by
  have hvalue : 16 * (b.toNat / 16) + b.toNat % 16 = b.toNat := Nat.div_add_mod _ _
  rw [hexPair?, hx, hy]
  simp only [hvalue]

theorem hexValue?_hexDigit {n : Nat} (h : n < 16) : hexValue? (Text.hexDigit n) = some n := by
  have htable : ∀ m : Fin 16, hexValue? (Text.hexDigit m) = some m.val := by decide
  exact htable ⟨n, h⟩

theorem exists_octetPairs (bs : List UInt8) : ∃ w, OctetPairs bs w := by
  induction bs with
  | nil => exact ⟨[], .nil⟩
  | cons b bs ih =>
    obtain ⟨w, hw⟩ := ih
    have hlt : b.toNat < 256 := b.toNat_lt
    exact ⟨_, .cons (hexValue?_hexDigit (by omega)) (hexValue?_hexDigit (by omega)) hw⟩

theorem exists_spells (first : Bool) (s : MarkedText) : ∃ w, Spells first s w := by
  induction s generalizing first with
  | nil => exact ⟨[], .nil⟩
  | cons p s ih =>
    obtain ⟨w, hw⟩ := ih false
    obtain ⟨c, marked⟩ := p
    cases marked with
    | false => exact ⟨_, .escaped hw⟩
    | true =>
      obtain ⟨u, hu⟩ := exists_octetPairs (String.utf8EncodeChar c)
      exact ⟨_, .octets hu hw⟩

theorem OctetPairs.unescape_append {bs : List UInt8} {u : Text} (h : OctetPairs bs u) (w : Text) :
    unescape (u ++ w) = octetwise bs ++ unescape w := by
  induction h with
  | nil => rfl
  | cons hx hy _ ih =>
    rw [List.cons_append, List.cons_append, List.cons_append,
      unescape_hex (hexPair?_of_octet hx hy), ih]
    rfl

theorem Spells.unescape_eq {first : Bool} {s : MarkedText} {w : Text} (h : Spells first s w) :
    unescape w = s.apart := by
  induction h with
  | nil => rfl
  | @escaped first c s w _ ih =>
    rw [(written_escapeChar first s.isEmpty c).unescape_append, ih]
    rfl
  | octets hu _ ih =>
    rw [hu.unescape_append, ih]
    rfl

theorem octetwise_of_ascii {c : Char} (h : c.toNat ≤ 0x7F) :
    octetwise (String.utf8EncodeChar c) = [c] := by
  have hencode := Text.utf8EncodeChar_ofNat (n := c.toNat) c.valid
  have hoctet : (UInt8.ofNat c.toNat).toNat = c.toNat :=
    UInt8.toNat_ofNat_of_lt' (Nat.lt_of_le_of_lt h (by decide))
  rw [Char.ofNat_toNat, if_pos h] at hencode
  rw [hencode, octetwise, List.map_singleton, hoctet, Char.ofNat_toNat]

theorem toNat_le_of_utf8Size {c : Char} (h : c.utf8Size = 1) : c.toNat ≤ 0x7F := by
  have hval := Char.utf8Size_eq_one_iff.mp h
  rwa [UInt32.le_iff_toNat_le] at hval

namespace MarkedText

theorem length_unit (p : Char × Bool) :
    (unit p).length = if p.2 then p.1.utf8Size else 1 := by
  unfold unit
  split
  · rw [octetwise, List.length_map, String.length_utf8EncodeChar]
  · rfl

theorem apart_cons (p : Char × Bool) (s : MarkedText) : apart (p :: s) = unit p ++ s.apart :=
  List.flatMap_cons

theorem length_apart (s : MarkedText) :
    s.length ≤ s.apart.length ∧ (s.apart.length = s.length → s.MarksAscii) := by
  induction s with
  | nil => exact ⟨Nat.le_refl 0, fun _ p hp => by cases hp⟩
  | cons p s ih =>
    obtain ⟨hle, hascii⟩ := ih
    have hpos := p.1.utf8Size_pos
    have hunit := length_unit p
    rw [apart_cons, List.length_append, List.length_cons]
    constructor
    · split at hunit <;> omega
    · intro hlength
      refine List.forall_mem_cons.mpr ⟨fun hmarked => ?_, hascii ?_⟩
      · rw [if_pos hmarked] at hunit
        exact toNat_le_of_utf8Size (by omega)
      · split at hunit <;> omega

theorem unit_of_ascii {p : Char × Bool} (h : p.2 = true → p.1.toNat ≤ 0x7F) : unit p = [p.1] := by
  unfold unit
  split
  · next hmarked => exact octetwise_of_ascii (h hmarked)
  · rfl

theorem apart_eq_plain_iff {s : MarkedText} : s.apart = s.plain ↔ s.MarksAscii := by
  constructor
  · intro h
    apply s.length_apart.2
    rw [h, plain, List.length_map]
  · intro h
    rw [apart, List.flatMap_congr fun p hp => unit_of_ascii (h p hp), plain,
      List.map_eq_flatMap]

end MarkedText

theorem utf8EncodeChar_ne_nil (c : Char) : String.utf8EncodeChar c ≠ [] := by
  rw [← List.length_pos_iff, String.length_utf8EncodeChar]
  exact c.utf8Size_pos

theorem isSpecial_of_hexValue? {c : Char} {n : Nat} (h : hexValue? c = some n) :
    isSpecial c = false := by
  rw [← Bool.not_eq_true]
  intro hc
  rw [hexValue?_eq_none (Or.inl hc)] at h
  cases h

theorem ne_of_isSpecial {c d : Char} (hc : isSpecial c = false) (hd : isSpecial d = true) :
    c ≠ d := by
  rintro rfl
  rw [hc] at hd
  cases hd

section
variable {separator : Char} (hsep : isSpecial separator = true)
include hsep

theorem OctetPairs.whole {bs : List UInt8} {u : Text} (h : OctetPairs bs u) :
    Whole separator u := by
  induction h with
  | nil => exact .nil
  | @cons b bs x y w _ hy _ ih =>
    have hplain := isSpecial_of_hexValue? hy
    exact .escaped x (.bare (ne_of_isSpecial hplain (by decide)) (ne_of_isSpecial hplain hsep) ih)

theorem Spells.whole {first : Bool} {s : MarkedText} {w : Text} (h : Spells first s w) :
    Whole separator w := by
  induction h with
  | nil => exact .nil
  | @escaped first c s w _ ih => exact ((written_escapeChar first s.isEmpty c).whole hsep).append ih
  | octets hu _ ih => exact (hu.whole hsep).append ih

theorem Spells.piece {s : MarkedText} {w : Text} (h : Spells true s w) : Piece separator w := by
  refine ⟨h.whole hsep, ?_⟩
  cases h with
  | nil => simp
  | @escaped _ c s w _ => exact (written_escapeChar true s.isEmpty c).flush w
  | @octets _ c s u w hu _ =>
    generalize hoctets : String.utf8EncodeChar c = bs at hu
    cases hu with
    | nil => exact absurd hoctets (utf8EncodeChar_ne_nil c)
    | cons => simp

end

end Dn

/-- A type with a value and one of the ways to write the value with marks. -/
structure Ava.Spelling where
  type : Text
  value : Dn.MarkedText
  written : Text
  spells : Dn.Spells true value written

namespace Ava.Spelling

def plain (a : Spelling) : Ava := ⟨a.type, a.value.plain⟩

def apart (a : Spelling) : Ava := ⟨a.type, a.value.apart⟩

def text (a : Spelling) : Text := Dn.escape a.type ++ '=' :: a.written

theorem fits_text (a : Spelling) : Ava.Fits a.text := by
  have hpiece : ∀ separator, Dn.isSpecial separator = true → '=' ≠ separator →
      Dn.Piece separator a.text := by
    intro separator hsep hne
    exact (Dn.piece_escape hsep a.type).append
      (.cons (by decide) (by decide) hne (a.spells.piece hsep))
  exact ⟨hpiece '+' (by decide) (by decide), hpiece ',' (by decide) (by decide), by simp [text]⟩

theorem parse_text {a : Spelling} (h : a.plain.Legible) :
    Ava.parse (Dn.unescape a.text) = .ok a.apart := by
  have hapart : a.apart.Legible := ⟨h.type_ne_nil, h.type_trimmed, h.no_equals⟩
  rw [text, Dn.unescape_escape_append, Dn.unescape_cons (by decide), a.spells.unescape_eq]
  exact Ava.parse_of_legible hapart

theorem apart_eq_plain_iff {a : Spelling} : a.apart = a.plain ↔ a.value.MarksAscii := by
  rw [apart, plain, Ava.mk.injEq, ← Dn.MarkedText.apart_eq_plain_iff]
  exact and_iff_right rfl

end Ava.Spelling

namespace Dn

structure Spelling where
  rdns : List (List Ava.Spelling)

namespace Spelling

def plain (n : Spelling) : Dn := ⟨n.rdns.map (List.map Ava.Spelling.plain)⟩

def apart (n : Spelling) : Dn := ⟨n.rdns.map (List.map Ava.Spelling.apart)⟩

def text (n : Spelling) : Text :=
  Text.joinWith "," ((n.rdns.map (List.map Ava.Spelling.text)).map (Text.joinWith "+"))

def MarksAscii (n : Spelling) : Prop := ∀ r ∈ n.rdns, ∀ a ∈ r, a.value.MarksAscii

theorem apart_eq_plain_iff {n : Spelling} : n.apart = n.plain ↔ n.MarksAscii := by
  rw [apart, plain, Dn.mk.injEq, List.map_inj_left]
  refine forall₂_congr fun r _ => ?_
  rw [List.map_inj_left]
  exact forall₂_congr fun a _ => Ava.Spelling.apart_eq_plain_iff

theorem parse_text {n : Spelling} (h : n.plain.Legible) : parse n.text = .ok n.apart := by
  refine parse_joined ?_ ?_ ?_
  · intro ss hss s hs
    obtain ⟨r, -, rfl⟩ := List.mem_map.mp hss
    obtain ⟨a, -, rfl⟩ := List.mem_map.mp hs
    exact a.fits_text
  · intro hblank
    obtain ⟨r, hr, hempty⟩ := List.map_eq_singleton_iff.mp hblank
    rw [List.map_eq_nil_iff.mp hempty] at hr
    exact h.ne_blank (by rw [plain, hr]; rfl)
  · rw [List.forall₂_map_left_iff, List.forall₂_map_right_iff, List.forall₂_same]
    intro r hr
    rw [List.forall₂_map_left_iff, List.forall₂_map_right_iff, List.forall₂_same]
    intro a ha
    exact Ava.Spelling.parse_text
      (h.avas _ (List.mem_map_of_mem hr) _ (List.mem_map_of_mem ha))

end Spelling

/-- Hex pairs are read one by one, each as the character with the number of its octet. A text
that is written with hex pairs for some characters is read as it is if and only if these are
characters of ASCII, and a name with such values is read as the plain name exactly then. -/
theorem hex_pairs_read_apart (s : MarkedText) (n : Spelling) :
    ((∃ w, Spells true s w) ∧ ∀ w, Spells true s w →
      unescape w = s.apart ∧ (unescape w = s.plain ↔ s.MarksAscii)) ∧
    (n.plain.Legible →
      parse n.text = .ok n.apart ∧ (parse n.text = parse n.plain.text ↔ n.MarksAscii)) := by
  constructor
  · refine ⟨exists_spells true s, fun w hw => ⟨hw.unescape_eq, ?_⟩⟩
    rw [hw.unescape_eq, MarkedText.apart_eq_plain_iff]
  · intro hn
    have hparse := Spelling.parse_text hn
    refine ⟨hparse, ?_⟩
    rw [hparse, parse_text hn, Except.ok.injEq, Spelling.apart_eq_plain_iff]

/-- A letter and the space at the end are written by their octets, a comma and a letter of two
octets are not. -/
theorem ascii_pairs_read_plainly :
    let s : MarkedText := [('L', true), (',', false), ('č', false), (' ', true)]
    let w : Text := "\\4c\\,č\\20"
    ∃ h : Spells true s w,
      let n : Spelling := ⟨[[⟨"SN", s, w, h⟩, ⟨"o", [], [], .nil⟩]]⟩
      unescape w = "L,č " ∧ n.plain.Legible ∧ n.text = "SN=\\4c\\,č\\20+o=" ∧
        parse n.text = parse n.plain.text := by
  intro s w
  have hletter : OctetPairs (String.utf8EncodeChar 'L') "\\4c" := .cons rfl rfl .nil
  have hspace : OctetPairs (String.utf8EncodeChar ' ') "\\20" := .cons rfl rfl .nil
  have hs : Spells true s w := .octets hletter (.escaped (.escaped (.octets hspace .nil)))
  refine ⟨hs, ?_⟩
  intro n
  have hmarks : s.MarksAscii := by decide
  have hn : n.plain.Legible := by
    have hplain : n.plain = ⟨[[⟨"SN", "L,č "⟩, ⟨"o", []⟩]]⟩ := rfl
    rw [hplain]
    decide +kernel
  have hall : n.MarksAscii := by
    simp only [Spelling.MarksAscii, n, List.forall_mem_singleton, List.forall_mem_cons]
    exact ⟨hmarks, nofun⟩
  obtain ⟨⟨-, htext⟩, hname⟩ := hex_pairs_read_apart s n
  exact ⟨(htext w hs).2.mpr hmarks, hn, rfl, (hname hn).2.mpr hall⟩

/-- The two octets of a letter are read as two characters. -/
theorem letter_of_two_octets_read_apart :
    let s : MarkedText := [('č', true)]
    let w : Text := "\\C4\\8D"
    (Spells true s w ∧ s.plain = "č" ∧ unescape w = "Ä\x8d") ∧
      parse "SN=Lu\\C4\\8Di\\C4\\87" = .ok ⟨[[⟨"SN", "LuÄ\x8diÄ\x87"⟩]]⟩ ∧
      parse "SN=Lučić" = .ok ⟨[[⟨"SN", "Lučić"⟩]]⟩ := by
  intro s w
  have hoctets : String.utf8EncodeChar 'č' = [0xC4, 0x8D] := by decide
  have hpairs : OctetPairs (String.utf8EncodeChar 'č') w := by
    rw [hoctets]
    exact .cons rfl rfl (.cons rfl rfl .nil)
  have hs : Spells true s w := .octets hpairs .nil
  exact ⟨⟨hs, rfl, by decide⟩, by decide +kernel, by decide +kernel⟩

end Dn

end DirectorySchema
