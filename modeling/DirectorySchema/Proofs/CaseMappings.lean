import DirectorySchema.Text.Case
import DirectorySchema.Proofs.Texts
import Mathlib.Data.Nat.ModEq

/-!
# Case mappings settle

Lower and upper case come from a table of expansions and one of shifted runs. No character
that a table leads to is mapped again by the same table, so mapping a text once more changes
nothing; and none is white space unless it was there before, so a case mapping keeps the
spaces of a text where they are. What a letter becomes depends on the letters around it, but
not across a character that ends words.
-/

set_option autoImplicit false

namespace DirectorySchema.Text

namespace CaseRun

/-- What covering asks of a code point, in the order that is cheap over a whole table. -/
def hits (q : CaseRun) (n : Nat) : Bool :=
  Nat.ble q.first n && Nat.ble n q.last && (n - q.first) % q.stride == 0

theorem covers_eq_hits (q : CaseRun) (c : Char) : q.covers c = q.hits c.toNat := by
  rw [Bool.eq_iff_iff]
  simp [covers, hits]

def single (n : Nat) : CaseRun := ⟨n, n, 1, n⟩

theorem covers_single_eq_false {n : Nat} {c : Char} :
    (single n).covers c = false ↔ c.toNat ≠ n := by
  rw [covers_eq_hits, ← Bool.not_eq_true, not_iff_not]
  simp only [hits, single, Nat.mod_one, Bool.and_eq_true, Nat.ble_eq, beq_self_eq_true, and_true]
  omega

def shift (r : CaseRun) (c : Char) : Char := Char.ofNat (r.image + (c.toNat - r.first))

def lands (r : CaseRun) : Bool :=
  Nat.blt (r.image + (r.last - r.first)) 0xD800 ||
    (Nat.blt 0xDFFF r.image && Nat.blt (r.image + (r.last - r.first)) 0x110000)

/-- Another run hits none of the images: they lie outside of its bounds or between its
points. -/
def misses (r q : CaseRun) : Bool :=
  Nat.blt (r.image + (r.last - r.first)) q.first || Nat.blt q.last r.image ||
    ((r.first == r.last || r.stride % q.stride == 0) && r.image % q.stride != q.first % q.stride)

theorem modEq_of_hits {q : CaseRun} {n : Nat} (h : q.hits n = true) :
    n ≡ q.first [MOD q.stride] := by
  simp only [hits, Bool.and_eq_true, Nat.ble_eq, beq_iff_eq] at h
  exact ((Nat.modEq_iff_dvd' h.1.1).mpr (Nat.dvd_of_mod_eq_zero h.2)).symm

theorem toNat_ofNat {n : Nat} (h : n.isValidChar) : (Char.ofNat n).toNat = n := by
  rw [Char.ofNat, dif_pos h]
  rfl

section
variable {r q : CaseRun} {c : Char} (hc : r.covers c = true)
include hc

theorem isValidChar_image (h : r.lands = true) :
    (r.image + (c.toNat - r.first)).isValidChar := by
  simp only [covers, Bool.and_eq_true, decide_eq_true_eq] at hc
  simp only [lands, Bool.and_eq_true, Bool.or_eq_true, Nat.blt_eq] at h
  rcases h with hlow | hhigh
  · exact Or.inl (by omega)
  · exact Or.inr (by omega)

theorem image_modEq (h : r.first = r.last ∨ r.stride % q.stride = 0) :
    r.image + (c.toNat - r.first) ≡ r.image [MOD q.stride] := by
  simp only [covers, Bool.and_eq_true, decide_eq_true_eq, beq_iff_eq] at hc
  have hdistance : c.toNat - r.first ≡ 0 [MOD q.stride] := by
    rw [Nat.modEq_zero_iff_dvd]
    rcases h with hone | hdvd
    · have hzero : c.toNat - r.first = 0 := by omega
      rw [hzero]
      exact Nat.dvd_zero _
    · exact (Nat.dvd_of_mod_eq_zero hdvd).trans (Nat.dvd_of_mod_eq_zero hc.2)
  exact hdistance.add_left _

theorem covers_shift_eq_false (hlands : r.lands = true) (hmisses : r.misses q = true) :
    q.covers (r.shift c) = false := by
  rw [covers_eq_hits, shift, toNat_ofNat (isValidChar_image hc hlands)]
  by_contra hhits
  rw [Bool.not_eq_false] at hhits
  have himage := modEq_of_hits hhits
  simp only [hits, Bool.and_eq_true, Nat.ble_eq] at hhits
  simp only [misses, Bool.and_eq_true, Bool.or_eq_true, Nat.blt_eq, beq_iff_eq,
    bne_iff_ne] at hmisses
  rcases hmisses with (hbelow | habove) | ⟨hdvd, hbetween⟩
  · simp only [covers, Bool.and_eq_true, decide_eq_true_eq] at hc
    omega
  · omega
  · exact hbetween ((image_modEq hc hdvd).symm.trans himage)

end

end CaseRun

theorem shiftCase_cases (runs : List CaseRun) (c : Char) :
    (shiftCase runs c = c ∧ ∀ r ∈ runs, r.covers c = false) ∨
      ∃ r ∈ runs, r.covers c = true ∧ shiftCase runs c = r.shift c := by
  unfold shiftCase
  cases h : runs.find? (·.covers c) with
  | none => exact Or.inl ⟨rfl, by simpa using h⟩
  | some r =>
    have hcovers := List.find?_some h
    exact Or.inr ⟨r, List.mem_of_find?_eq_some h, hcovers, rfl⟩

def blankRuns : List CaseRun :=
  [⟨9, 13, 1, 9⟩, ⟨28, 32, 1, 28⟩, .single 0x85, .single 0xA0, .single 0x1680,
    ⟨0x2000, 0x200A, 1, 0x2000⟩, .single 0x2028, .single 0x2029, .single 0x202F, .single 0x205F,
    .single 0x3000]

theorem isBlank_eq_any (c : Char) : isBlank c = blankRuns.any (·.covers c) := by
  rw [Bool.eq_iff_iff]
  simp [isBlank, blankRuns, CaseRun.covers, CaseRun.single, Nat.mod_one]
  omega

structure CaseTable where
  expansions : List (Nat × List Nat)
  runs : List CaseRun

namespace CaseTable

def map (t : CaseTable) (c : Char) : Text :=
  match t.expansions.lookup c.toNat with
  | some ns => ns.map Char.ofNat
  | none => [shiftCase t.runs c]

/-- What the table maps, each expanded character as a run of its own. -/
def domain (t : CaseTable) : List CaseRun :=
  t.expansions.map (fun e => .single e.1) ++ t.runs

def lands (t : CaseTable) : Bool :=
  t.runs.all CaseRun.lands &&
    t.expansions.all fun e => !e.2.isEmpty && e.2.all fun n => decide n.isValidChar

def avoids (t : CaseTable) (q : CaseRun) : Bool :=
  (t.runs.all fun r => r.misses q) && t.expansions.all fun e => e.2.all fun n => !q.hits n

variable {t : CaseTable} {c d : Char}

theorem mem_map_cases (ht : t.lands = true) (hd : d ∈ t.map c) :
    (d = c ∧ ∀ q ∈ t.domain, q.covers c = false) ∨
      ∀ q, t.avoids q = true → q.covers d = false := by
  simp only [lands, Bool.and_eq_true, List.all_eq_true] at ht
  unfold map at hd
  cases h : t.expansions.lookup c.toNat with
  | some ns =>
    right
    intro q hq
    obtain ⟨front, rest, heq, -⟩ := List.lookup_eq_some_iff.mp h
    have hmem : (c.toNat, ns) ∈ t.expansions := by simp [heq]
    simp only [h, List.mem_map] at hd
    obtain ⟨n, hn, rfl⟩ := hd
    simp only [avoids, Bool.and_eq_true, List.all_eq_true] at hq
    rw [CaseRun.covers_eq_hits, CaseRun.toNat_ofNat (of_decide_eq_true ((ht.2 _ hmem).2 n hn))]
    simpa using hq.2 _ hmem n hn
  | none =>
    simp only [h, List.mem_singleton] at hd
    rcases shiftCase_cases t.runs c with ⟨hsame, hruns⟩ | ⟨r, hr, hcovers, hshift⟩
    · left
      refine ⟨hd.trans hsame, ?_⟩
      intro q hq
      rcases List.mem_append.mp hq with hq | hq
      · obtain ⟨e, he, rfl⟩ := List.mem_map.mp hq
        exact CaseRun.covers_single_eq_false.mpr (by simpa using List.lookup_eq_none_iff.mp h e he)
      · exact hruns q hq
    · right
      intro q hq
      simp only [avoids, Bool.and_eq_true, List.all_eq_true] at hq
      rw [hd, hshift]
      exact CaseRun.covers_shift_eq_false hcovers (ht.1 r hr) (hq.1 r hr)

theorem covers_eq_false_of_mem_map {q : CaseRun} (ht : t.lands = true) (hq : t.avoids q = true)
    (hc : q.covers c = false) (hd : d ∈ t.map c) : q.covers d = false := by
  rcases mem_map_cases ht hd with ⟨rfl, -⟩ | havoids
  · exact hc
  · exact havoids q hq

theorem eq_of_mem_map (ht : t.lands = true) (hd : d ∈ t.map c)
    (havoids : t.avoids (.single d.toNat) = true) : c = d := by
  by_contra hne
  have hc : (CaseRun.single d.toNat).covers c = false :=
    CaseRun.covers_single_eq_false.mpr fun hn => hne (Char.toNat_inj.mp hn)
  exact CaseRun.covers_single_eq_false.mp (covers_eq_false_of_mem_map ht havoids hc hd) rfl

theorem map_ne_nil (ht : t.lands = true) (c : Char) : t.map c ≠ [] := by
  unfold map
  cases h : t.expansions.lookup c.toNat with
  | some ns =>
    obtain ⟨front, rest, heq, -⟩ := List.lookup_eq_some_iff.mp h
    simp only [lands, heq, Bool.and_eq_true, List.all_eq_true] at ht
    have hne := (ht.2 (c.toNat, ns) (by simp)).1
    simpa using hne
  | none => simp

theorem map_of_uncovered (hc : ∀ q ∈ t.domain, q.covers c = false) : t.map c = [c] := by
  have hlookup : t.expansions.lookup c.toNat = none := by
    rw [List.lookup_eq_none_iff]
    intro e he
    have hsingle := hc (.single e.1) (List.mem_append_left _ (List.mem_map_of_mem he))
    simpa using CaseRun.covers_single_eq_false.mp hsingle
  have hruns : shiftCase t.runs c = c := by
    rcases shiftCase_cases t.runs c with ⟨hsame, -⟩ | ⟨r, hr, hcovers, -⟩
    · exact hsame
    · rw [hc r (List.mem_append_right _ hr)] at hcovers
      cases hcovers
  rw [map, hlookup]
  exact congrArg (fun d => [d]) hruns

def settles (t : CaseTable) : Bool := t.domain.all t.avoids

theorem map_of_mem_map (ht : t.lands = true) (hsettles : t.settles = true) (hd : d ∈ t.map c) :
    t.map d = [d] := by
  apply map_of_uncovered
  intro q hq
  rcases mem_map_cases ht hd with ⟨rfl, hc⟩ | havoids
  · exact hc q hq
  · exact havoids q (List.all_eq_true.mp hsettles q hq)

end CaseTable

def lowerTable : CaseTable := ⟨[(0x130, [0x69, 0x307])], lowerRuns⟩

def upperTable : CaseTable := ⟨upperExpansions, upperRuns⟩

theorem upperChar_eq_map (c : Char) : upperChar c = upperTable.map c := rfl

theorem lowerChar_eq_map (c : Char) : lowerChar c = lowerTable.map c := by
  have hpoint : (c = 'İ') ↔ c.toNat = 0x130 := by
    constructor
    · rintro rfl
      rfl
    · intro h
      rw [← Char.ofNat_toNat c, h]
  unfold lowerChar CaseTable.map lowerTable
  by_cases h : c.toNat = 0x130
  · rw [if_pos (hpoint.mpr h), h]
    rfl
  · have hlookup : List.lookup c.toNat [(0x130, [0x69, 0x307])] = none := by
      simp [List.lookup_eq_none_iff, h]
    rw [if_neg (fun hc => h (hpoint.mp hc)), hlookup]

theorem lowerTable_lands : lowerTable.lands = true := by decide +kernel

theorem upperTable_lands : upperTable.lands = true := by decide +kernel

theorem lowerTable_settles : lowerTable.settles = true := by decide +kernel

theorem upperTable_settles : upperTable.settles = true := by decide +kernel

theorem upper_upper (s : Text) : upper (upper s) = upper s := by
  have hsettled : ∀ d ∈ upper s, upperChar d = [d] := by
    intro d hd
    obtain ⟨c, -, hc⟩ := List.mem_flatMap.mp hd
    rw [upperChar_eq_map] at hc ⊢
    exact CaseTable.map_of_mem_map upperTable_lands upperTable_settles hc
  rw [upper, List.flatMap_congr hsettled, List.flatMap_singleton']

theorem mem_lowerPlaced {c d : Char} {final : Bool}
    (hd : d ∈ if c = 'Σ' then [if final then 'ς' else 'σ'] else lowerChar c) :
    d = 'ς' ∨ d ∈ lowerTable.map c := by
  by_cases hsigma : c = 'Σ'
  · have hmap : lowerTable.map 'Σ' = ['σ'] := by decide +kernel
    rw [if_pos hsigma, List.mem_singleton] at hd
    split at hd
    · exact Or.inl hd
    · exact Or.inr (by rw [hsigma, hmap, hd]; simp)
  · rw [if_neg hsigma, lowerChar_eq_map] at hd
    exact Or.inr hd

theorem lowerPlaced_ne_nil {c : Char} {final : Bool} :
    (if c = 'Σ' then [if final then 'ς' else 'σ'] else lowerChar c) ≠ [] := by
  split
  · simp
  · rw [lowerChar_eq_map]
    exact CaseTable.map_ne_nil lowerTable_lands c

theorem mem_lowerAfter {cased : Bool} {s : Text} {d : Char} (hd : d ∈ lowerAfter cased s) :
    d = 'ς' ∨ ∃ c ∈ s, d ∈ lowerTable.map c := by
  induction s generalizing cased with
  | nil => cases hd
  | cons c s ih =>
    rw [lowerAfter, List.mem_append] at hd
    rcases hd with hd | hd
    · rcases mem_lowerPlaced hd with hfinal | hmap
      · exact Or.inl hfinal
      · exact Or.inr ⟨c, by simp, hmap⟩
    · rcases ih hd with hfinal | ⟨a, ha, hmap⟩
      · exact Or.inl hfinal
      · exact Or.inr ⟨a, by simp [ha], hmap⟩

theorem lowerAfter_of_settled {s : Text} (hs : ∀ d ∈ s, lowerTable.map d = [d]) (cased : Bool) :
    lowerAfter cased s = s := by
  induction s generalizing cased with
  | nil => rfl
  | cons c s ih =>
    rw [List.forall_mem_cons] at hs
    have hsigma : c ≠ 'Σ' := by
      rintro rfl
      exact absurd hs.1 (by decide +kernel)
    rw [lowerAfter, if_neg hsigma, lowerChar_eq_map, hs.1, ih hs.2]
    rfl

theorem lower_lower (s : Text) : lower (lower s) = lower s := by
  apply lowerAfter_of_settled
  intro d hd
  rcases mem_lowerAfter hd with rfl | ⟨c, -, hc⟩
  · decide +kernel
  · exact CaseTable.map_of_mem_map lowerTable_lands lowerTable_settles hc

theorem covers_eq_false_of_mem_lower {s : Text} {d : Char} (hd : d ∈ lower s) {q : CaseRun}
    (hs : ∀ c ∈ s, q.covers c = false) (hfinal : q.covers 'ς' = false)
    (hq : lowerTable.avoids q = true) : q.covers d = false := by
  rcases mem_lowerAfter hd with rfl | ⟨c, hc, hmap⟩
  · exact hfinal
  · exact CaseTable.covers_eq_false_of_mem_map lowerTable_lands hq (hs c hc) hmap

theorem toNat_ne_of_mem_lower {s : Text} {d : Char} (hd : d ∈ lower s) {n : Nat}
    (hs : ∀ c ∈ s, c.toNat ≠ n) (hfinal : 'ς'.toNat ≠ n)
    (hn : lowerTable.avoids (.single n) = true) : d.toNat ≠ n :=
  CaseRun.covers_single_eq_false.mp (covers_eq_false_of_mem_lower hd
    (fun c hc => CaseRun.covers_single_eq_false.mpr (hs c hc))
    (CaseRun.covers_single_eq_false.mpr hfinal) hn)

/-- Not changed by lower case, and the end of a word for what stands around it. -/
structure Neutral (c : Char) : Prop where
  uncased : isCased c = false
  minded : isCaseIgnorable c = false
  fixed : lowerTable.map c = [c]

section
variable {c : Char} (hc : Neutral c)
include hc

theorem Neutral.ne_sigma : c ≠ 'Σ' := by
  rintro rfl
  exact absurd hc.uncased (by decide +kernel)

theorem startsCased_cons_neutral (s : Text) : startsCased (c :: s) = false := by
  simp [startsCased, hc.minded, hc.uncased]

theorem startsCased_append_neutral (s t : Text) : startsCased (s ++ c :: t) = startsCased s := by
  induction s with
  | nil => exact startsCased_cons_neutral hc t
  | cons d s ih =>
    by_cases hd : isCaseIgnorable d = true
    · simpa [startsCased, hd] using ih
    · simp [startsCased, hd]

theorem lowerAfter_cons_neutral (cased : Bool) (s : Text) :
    lowerAfter cased (c :: s) = c :: lower s := by
  rw [lowerAfter, if_neg hc.ne_sigma, lowerChar_eq_map, hc.fixed, hc.minded, hc.uncased]
  rfl

theorem lower_append_neutral (s t : Text) : lower (s ++ c :: t) = lower s ++ c :: lower t := by
  have hafter : ∀ cased, lowerAfter cased (s ++ c :: t) = lowerAfter cased s ++ c :: lower t := by
    induction s with
    | nil => exact fun cased => lowerAfter_cons_neutral hc cased t
    | cons d s ih =>
      intro cased
      rw [List.cons_append, lowerAfter, lowerAfter, startsCased_append_neutral hc, ih,
        List.append_assoc]
  exact hafter false

end

structure KeepsSpace (c : Char) (w : Text) : Prop where
  word : isBlank c = false → IsWord w
  space : c = ' ' → w = [' ']

/-- A text that comes from another, character by character, with spaces where they were. -/
inductive Respaced : Text → Text → Prop where
  | nil : Respaced [] []
  | cons {c : Char} {w s t : Text} : KeepsSpace c w → Respaced s t → Respaced (c :: s) (w ++ t)

namespace Respaced

variable {s t : Text}

theorem append_inv {r : Text} (h : Respaced (s ++ r) t) :
    ∃ t₁ t₂, t = t₁ ++ t₂ ∧ Respaced s t₁ ∧ Respaced r t₂ := by
  induction s generalizing t with
  | nil => exact ⟨[], t, rfl, .nil, h⟩
  | cons c s ih =>
    cases h with
    | cons hkeeps h =>
      obtain ⟨t₁, t₂, rfl, h₁, h₂⟩ := ih h
      exact ⟨_ ++ t₁, t₂, by rw [List.append_assoc], .cons hkeeps h₁, h₂⟩

theorem solid (h : Respaced s t) (hs : Solid s) : Solid t := by
  induction h with
  | nil => exact hs
  | cons hkeeps _ ih =>
    obtain ⟨hc, hs⟩ := List.forall_mem_cons.mp hs
    exact List.forall_mem_append.mpr ⟨(hkeeps.word hc).solid, ih hs⟩

theorem isWord (h : Respaced s t) (hs : IsWord s) : IsWord t := by
  refine ⟨h.solid hs.solid, ?_⟩
  cases h with
  | nil => exact hs.ne_nil
  | cons hkeeps _ =>
    have hword := hkeeps.word (hs.solid _ (by simp))
    simp [hword.ne_nil]

theorem trimmed (h : Respaced s t) (hs : Trimmed s) : Trimmed t := by
  constructor
  · intro d hd
    cases h with
    | nil => cases hd
    | cons hkeeps _ =>
      have hword := hkeeps.word (hs.front _ rfl)
      rw [List.head?_append_of_ne_nil _ hword.ne_nil] at hd
      exact hword.solid d (List.mem_of_head? hd)
  · intro d hd
    rcases List.eq_nil_or_concat s with rfl | ⟨front, c, rfl⟩
    · cases h
      cases hd
    · rw [List.concat_eq_append] at h hs
      obtain ⟨t₁, t₂, rfl, -, h₂⟩ := h.append_inv
      have hc : isBlank c = false := hs.back c (by simp)
      have hword : IsWord t₂ := h₂.isWord ⟨by simpa [Solid] using hc, by simp⟩
      rw [List.getLast?_append_of_ne_nil _ hword.ne_nil] at hd
      exact hword.solid d (List.mem_of_getLast? hd)

theorem unwords {ws : List Text} (h : Respaced (unwords ws) t) (hws : ∀ w ∈ ws, IsWord w) :
    ∃ vs, vs.length = ws.length ∧ (∀ v ∈ vs, IsWord v) ∧ t = Text.unwords vs := by
  induction ws generalizing t with
  | nil =>
    cases h
    exact ⟨[], rfl, by simp, rfl⟩
  | cons w ws ih =>
    rw [List.forall_mem_cons] at hws
    cases ws with
    | nil =>
      rw [Text.unwords, joinWith_singleton] at h
      exact ⟨[t], rfl, by simpa using h.isWord hws.1, (joinWith_singleton _ _).symm⟩
    | cons v ws =>
      rw [Text.unwords, joinWith_cons_cons] at h
      obtain ⟨w', r, rfl, hw, hr⟩ := h.append_inv
      cases hr with
      | cons hspace hrest =>
        obtain ⟨vs, hlength, hvs, rfl⟩ := ih hrest hws.2
        obtain ⟨v', vs', rfl⟩ := List.exists_cons_of_length_eq_add_one hlength
        refine ⟨w' :: v' :: vs', by simpa using hlength, ?_, ?_⟩
        · exact List.forall_mem_cons.mpr ⟨hw.isWord hws.1, hvs⟩
        · rw [hspace.space rfl, Text.unwords, Text.unwords, joinWith_cons_cons]
          rfl

end Respaced

def CaseTable.keepsSpaces (t : CaseTable) : Bool :=
  blankRuns.all t.avoids && t.map ' ' == [' ']

theorem CaseTable.keepsSpace {t : CaseTable} (ht : t.lands = true) (hspaces : t.keepsSpaces = true)
    (c : Char) : KeepsSpace c (t.map c) := by
  simp only [keepsSpaces, Bool.and_eq_true, List.all_eq_true, beq_iff_eq] at hspaces
  constructor
  · intro hc
    refine ⟨?_, map_ne_nil ht c⟩
    intro d hd
    rw [isBlank_eq_any, List.any_eq_false] at hc ⊢
    intro q hq
    have hcovers := covers_eq_false_of_mem_map ht (hspaces.1 q hq) (by simpa using hc q hq) hd
    simp [hcovers]
  · rintro rfl
    exact hspaces.2

theorem respaced_upper (s : Text) : Respaced s (upper s) := by
  induction s with
  | nil => exact .nil
  | cons c s ih =>
    rw [upper, List.flatMap_cons, ← upper]
    exact .cons (CaseTable.keepsSpace upperTable_lands (by decide +kernel) c) ih

theorem respaced_lowerAfter (cased : Bool) (s : Text) : Respaced s (lowerAfter cased s) := by
  induction s generalizing cased with
  | nil => exact .nil
  | cons c s ih =>
    rw [lowerAfter]
    refine .cons ?_ (ih _)
    by_cases hsigma : c = 'Σ'
    · rw [if_pos hsigma, hsigma]
      refine ⟨fun _ => ⟨?_, by simp⟩, fun hspace => absurd hspace (by decide)⟩
      intro d hd
      rw [List.mem_singleton.mp hd]
      split <;> decide
    · rw [if_neg hsigma, lowerChar_eq_map]
      exact CaseTable.keepsSpace lowerTable_lands (by decide +kernel) c

theorem respaced_lower (s : Text) : Respaced s (lower s) := respaced_lowerAfter false s

end DirectorySchema.Text
