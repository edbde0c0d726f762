import DirectorySchema.Manager.Binding
import DirectorySchema.Proofs.Identifiers
import DirectorySchema.Proofs.Normalizers
import DirectorySchema.Proofs.Sorting
import DirectorySchema.Proofs.WrittenNames

/-!
# Normal names

The normalized text of a name is the text of another name: every type is replaced by its
identifier, every value by its normal form, and the parts of each relative name are sorted.
Texts tell such names apart, so the normalized texts of two names agree when the names
resolve to the same parts in whatever order. Normalizing a normal name changes nothing, as long
as the normalizers from elsewhere leave their own results alone.
-/

set_option autoImplicit false

namespace DirectorySchema

theorem Ava.legible_of_isDotted {a : Ava} (h : Text.isDotted a.type = true) : a.Legible := by
  refine ⟨Text.ne_nil_of_isDotted h, Text.trim_of_solid (Text.solid_of_isDotted h), ?_⟩
  intro hmem
  rcases Text.mem_of_isDotted h hmem with hdigit | hdot
  · exact absurd hdigit (by decide)
  · exact absurd hdot (by decide)

instance : Std.LawfulEqCmp (compareOn Ava.text) where
  eq_of_compare h := Ava.text_injective (Std.LawfulEqCmp.eq_of_compare h)

namespace Rdn

def arranged (r : Rdn) : Rdn := r.mergeSort fun a b => (compare a.text b.text).isLE

theorem arranged_perm (r : Rdn) : r.arranged.Perm r := List.mergeSort_perm r _

theorem mem_arranged {r : Rdn} {a : Ava} : a ∈ r.arranged ↔ a ∈ r := r.arranged_perm.mem_iff

theorem arranged_arranged (r : Rdn) : r.arranged.arranged = r.arranged :=
  List.mergeSort_of_pairwise (pairwise_mergeSort_cmp (compareOn Ava.text) r)

theorem map_arranged_eq_iff {ps qs : List Rdn} :
    ps.map arranged = qs.map arranged ↔ List.Forall₂ List.Perm ps qs :=
  map_mergeSort_cmp_eq_iff (compareOn Ava.text) ps qs

end Rdn

namespace Dn

def arranged (n : Dn) : Dn := ⟨n.rdns.map Rdn.arranged⟩

theorem legible_arranged {n : Dn} (hn : ∀ r ∈ n.rdns, ∀ a ∈ r, a.Legible)
    (hblank : n.arranged.rdns ≠ [[]]) : n.arranged.Legible := by
  refine ⟨hblank, ?_⟩
  intro r hr a ha
  obtain ⟨r', hr', rfl⟩ := List.mem_map.mp hr
  exact hn r' hr' a (Rdn.mem_arranged.mp ha)

theorem arranged_ne_blank {n : Dn} (hn : [] ∉ n.rdns) : n.arranged.rdns ≠ [[]] := by
  intro hblank
  obtain ⟨r, hr, hempty⟩ := List.map_eq_singleton_iff.mp hblank
  have hnil : r = [] := List.Perm.nil_eq (hempty ▸ r.arranged_perm) ▸ rfl
  exact hn (by simp [hr, hnil])

/-- Texts tell apart what names come to when the order within relative names is forgotten. -/
theorem text_arranged_eq_iff {m n : Dn} (hm : ∀ r ∈ m.rdns, ∀ a ∈ r, a.Legible)
    (hn : ∀ r ∈ n.rdns, ∀ a ∈ r, a.Legible) (hmne : [] ∉ m.rdns) (hnne : [] ∉ n.rdns) :
    m.arranged.text = n.arranged.text ↔ List.Forall₂ List.Perm m.rdns n.rdns := by
  rw [← Rdn.map_arranged_eq_iff]
  constructor
  · intro htext
    have heq := text_injective (legible_arranged hm (arranged_ne_blank hmne))
      (legible_arranged hn (arranged_ne_blank hnne)) htext
    exact congrArg Dn.rdns heq
  · intro hmap
    rw [arranged, hmap, arranged]

theorem arranged_arranged (n : Dn) : n.arranged.arranged = n.arranged := by
  simp only [arranged, List.map_map]
  rw [List.map_congr_left fun r _ => r.arranged_arranged]

end Dn

namespace Manager

section
variable (m : Manager) (normalize : Text → Text → Except Failure Text)

/-- The identifier of the type with the normal form of the value, normal forms being given by
the identifier of the type and the value. -/
def resolveAva (a : Ava) : Except Failure Ava :=
  match m.normalizeAttributeType a.type with
  | .error e => .error (.refused e)
  | .ok oid => (normalize oid a.value).map (Ava.mk oid)

def resolveRdn (r : Rdn) : Except Failure Rdn := r.mapM (m.resolveAva normalize)

def resolve (n : Dn) : Except Failure Dn := (n.rdns.mapM (m.resolveRdn normalize)).map Dn.mk

def avaTextBy (a : Ava) : Except Failure Text :=
  match m.normalizeAttributeType a.type with
  | .error e => .error (.refused e)
  | .ok oid => (normalize oid a.value).map fun s => oid ++ '=' :: Dn.escape s

def rdnTextBy (r : Rdn) : Except Failure Text := do
  return Text.joinWith "+" (sortTexts (← r.mapM (m.avaTextBy normalize)))

def normalTextBy (n : Dn) : Except Failure Text := do
  return Text.joinWith "," (← n.rdns.mapM (m.rdnTextBy normalize))

theorem normalText_eq_by : m.normalText = m.normalTextBy m.normalizeText := rfl

end

theorem bind_eq_map (m : Manager) (n : Dn) : m.bind n = (m.normalText n).map (BoundDn.mk n) := by
  unfold bind
  cases m.normalText n <;> rfl

theorem sortTexts_map_text (r : Rdn) : sortTexts (r.map Ava.text) = r.arranged.map Ava.text := by
  rw [sortTexts, Rdn.arranged, List.map_mergeSort]
  intro a _ b _
  rfl

theorem nil_notMem_of_resolve {m : Manager} {normalize : Text → Text → Except Failure Text}
    {n p : Dn} (h : m.resolve normalize n = .ok p) (hn : [] ∉ n.rdns) : [] ∉ p.rdns := by
  obtain ⟨rs, hrs, rfl⟩ := map_eq_ok_iff.mp h
  intro hmem
  obtain ⟨r, hr, hempty⟩ := exists_of_mem_mapM hrs hmem
  have hnil : r = [] := List.forall₂_nil_right_iff.mp (mapM_eq_ok_iff.mp hempty)
  rw [hnil] at hr
  exact hn hr

theorem normalizeText_eq (m : Manager) (x s : Text) :
    m.normalizeText x s = (m.normalizerFor x).mapError .refused >>= fun n => n.onText s := by
  unfold normalizeText normalizeValue
  cases m.normalizerFor x <;> rfl

/-- The normalizers that are not of the library write settled texts. -/
def ForeignSettled (m : Manager) : Prop :=
  ∀ e ∈ m.normalizers.whole.entries, e.element.form? = none → e.element.Settled

theorem ForeignSettled.settled {m : Manager} (hm : m.ForeignSettled) {x : Text} {n : Normalizer}
    (hn : m.normalizerFor x = .ok n) : n.Settled := by
  obtain ⟨rule, -, hlookup⟩ := bind_eq_ok_iff.mp hn
  obtain ⟨e, he, rfl⟩ := Registry.lookup_eq_ok_iff.mp hlookup
  rw [Registry.find?_eq_whole] at he
  cases hform : e.element.form? with
  | some f =>
    rw [Normalizer.form?_eq_some_iff.mp hform]
    exact Normalizer.settled_form f
  | none => exact hm e (Layer.mem_of_find? he).1 hform

theorem ForeignSettled.normalizeText_self {m : Manager} (hm : m.ForeignSettled) {x s t : Text}
    (h : m.normalizeText x s = .ok t) : m.normalizeText x t = .ok t := by
  rw [normalizeText_eq, bind_eq_ok_iff] at h ⊢
  obtain ⟨n, hn, ht⟩ := h
  exact ⟨n, hn, hm.settled (mapError_eq_ok_iff.mp hn) s t ht⟩

namespace TypesDotted

variable {m : Manager} (hm : m.TypesDotted) {normalize : Text → Text → Except Failure Text}
include hm

theorem legible_of_resolveAva {a p : Ava} (h : m.resolveAva normalize a = .ok p) : p.Legible := by
  unfold resolveAva at h
  split at h
  · cases h
  · next oid hoid =>
    obtain ⟨s, -, rfl⟩ := map_eq_ok_iff.mp h
    exact Ava.legible_of_isDotted (hm.isDotted hoid)

theorem legible_of_resolve {n p : Dn} (h : m.resolve normalize n = .ok p) :
    ∀ r ∈ p.rdns, ∀ a ∈ r, a.Legible := by
  obtain ⟨rs, hrs, rfl⟩ := map_eq_ok_iff.mp h
  intro r hr a ha
  obtain ⟨r', -, hr'⟩ := exists_of_mem_mapM hrs hr
  obtain ⟨a', -, ha'⟩ := exists_of_mem_mapM hr' ha
  exact hm.legible_of_resolveAva ha'

theorem avaTextBy_eq (a : Ava) :
    m.avaTextBy normalize a = (m.resolveAva normalize a).map Ava.text := by
  cases h : m.normalizeAttributeType a.type with
  | error e => simp only [avaTextBy, resolveAva, h, Except.map]
  | ok oid =>
    have hescape := Dn.escape_of_isDotted (hm.isDotted h)
    simp only [avaTextBy, resolveAva, h]
    cases normalize oid a.value with
    | error e => rfl
    | ok s => simp only [Except.map, Ava.text, hescape]

theorem rdnTextBy_eq (r : Rdn) :
    m.rdnTextBy normalize r = (m.resolveRdn normalize r).map fun p => p.arranged.text := by
  have htexts :
      r.mapM (m.avaTextBy normalize) = (m.resolveRdn normalize r).map (List.map Ava.text) := by
    rw [resolveRdn, ← mapM_map]
    exact congrArg (fun f => r.mapM f) (funext hm.avaTextBy_eq)
  rw [rdnTextBy, htexts]
  cases m.resolveRdn normalize r with
  | error e => rfl
  | ok p => exact congrArg (fun ss => Except.ok (Text.joinWith "+" ss)) (sortTexts_map_text p)

theorem normalTextBy_eq (n : Dn) :
    m.normalTextBy normalize n = (m.resolve normalize n).map fun p => p.arranged.text := by
  have htexts : n.rdns.mapM (m.rdnTextBy normalize) =
      (n.rdns.mapM (m.resolveRdn normalize)).map (List.map fun p => p.arranged.text) := by
    rw [← mapM_map]
    exact congrArg (fun f => n.rdns.mapM f) (funext hm.rdnTextBy_eq)
  rw [normalTextBy, htexts, resolve]
  cases n.rdns.mapM (m.resolveRdn normalize) with
  | error e => rfl
  | ok ps =>
    have hmap : ps.map (fun p => p.arranged.text) = (Dn.mk ps).arranged.rdns.map Rdn.text := by
      rw [Dn.arranged, List.map_map]
      rfl
    exact congrArg (fun ss => Except.ok (Text.joinWith "," ss)) hmap

section
variable (hforeign : m.ForeignSettled)
include hforeign

theorem resolveAva_self {a p : Ava} (h : m.resolveAva m.normalizeText a = .ok p) :
    m.resolveAva m.normalizeText p = .ok p := by
  unfold resolveAva at h
  split at h
  · cases h
  · next oid hoid =>
    obtain ⟨s, hs, rfl⟩ := map_eq_ok_iff.mp h
    simp only [resolveAva, hm.normalizeAttributeType_self hoid, hforeign.normalizeText_self hs]
    rfl

theorem resolve_arranged {n p : Dn} (h : m.resolve m.normalizeText n = .ok p) :
    m.resolve m.normalizeText p.arranged = .ok p.arranged := by
  obtain ⟨rs, hrs, rfl⟩ := map_eq_ok_iff.mp h
  have hsame : (Dn.mk rs).arranged.rdns.mapM (m.resolveRdn m.normalizeText) =
      .ok (Dn.mk rs).arranged.rdns := by
    rw [mapM_eq_ok_iff, List.forall₂_same]
    intro r hr
    obtain ⟨r', hr', rfl⟩ := List.mem_map.mp hr
    obtain ⟨source, -, hsource⟩ := exists_of_mem_mapM hrs hr'
    rw [resolveRdn, mapM_eq_ok_iff, List.forall₂_same]
    intro a ha
    obtain ⟨b, -, hb⟩ := exists_of_mem_mapM hsource (Rdn.mem_arranged.mp ha)
    exact hm.resolveAva_self hforeign hb
  rw [resolve, hsame]
  rfl

theorem bind_again {n : Dn} {b : BoundDn} (h : m.bind n = .ok b) :
    ∃ e f, Dn.parse b.normalText = .ok e ∧ m.bind e = .ok f ∧ f.normalText = b.normalText := by
  rw [bind_eq_map, normalText_eq_by, hm.normalTextBy_eq] at h
  obtain ⟨text, htext, rfl⟩ := map_eq_ok_iff.mp h
  obtain ⟨p, hp, rfl⟩ := map_eq_ok_iff.mp htext
  by_cases hblank : p.arranged.rdns = [[]]
  · -- one empty relative name is written like the root
    have hroot : p.arranged.text = [] := by
      rw [Dn.text, hblank]
      rfl
    exact ⟨Dn.root, ⟨Dn.root, []⟩, by rw [hroot]; rfl, rfl, hroot.symm⟩
  · have hparse := Dn.parse_text (Dn.legible_arranged (hm.legible_of_resolve hp) hblank)
    have hagain : m.bind p.arranged = .ok ⟨p.arranged, p.arranged.text⟩ := by
      rw [bind_eq_map, normalText_eq_by, hm.normalTextBy_eq, hm.resolve_arranged hforeign hp]
      simp only [Except.map, Dn.arranged_arranged]
    exact ⟨p.arranged, _, hparse, hagain, rfl⟩

end

end TypesDotted

end Manager

namespace Operation

/-- The normalized text decides whether names are the same under a schema: two names that can
be normalized have the same text if and only if they resolve, place by place, to the same
types with the same normal values, each as often. This does not depend on what brings values
into normal form. -/
theorem normalText_decides {schemas : List (Text × SchemaDefinition)} {names : List Text}
    {c : Catalogs} (hc : Catalogs.load schemas names = .ok c) (config : ManagerConfig)
    {os : List (Host × Operation)} (hos : ∀ ho ∈ os, ho.2.TypesDotted) :
    let m := reached config c os
    (∀ n, m.bind n = (m.normalTextBy m.normalizeText n).map (BoundDn.mk n)) ∧
    ∀ (normalize : Text → Text → Except Failure Text) (a b : Dn) (s t : Text),
      [] ∉ a.rdns → [] ∉ b.rdns →
      m.normalTextBy normalize a = .ok s → m.normalTextBy normalize b = .ok t →
      ∃ p q, m.resolve normalize a = .ok p ∧ m.resolve normalize b = .ok q ∧
        (s = t ↔ List.Forall₂ List.Perm p.rdns q.rdns) := by
  intro m
  have hm : m.TypesDotted := reached_typesDotted (Catalogs.loaded_of_load hc) config hos
  refine ⟨m.bind_eq_map, ?_⟩
  intro normalize a b s t ha hb hs ht
  rw [hm.normalTextBy_eq] at hs ht
  obtain ⟨p, hp, rfl⟩ := map_eq_ok_iff.mp hs
  obtain ⟨q, hq, rfl⟩ := map_eq_ok_iff.mp ht
  exact ⟨p, q, hp, hq, Dn.text_arranged_eq_iff (hm.legible_of_resolve hp)
    (hm.legible_of_resolve hq) (Manager.nil_notMem_of_resolve hp ha)
    (Manager.nil_notMem_of_resolve hq hb)⟩

section
open Catalogs.Sample

/-- The same parts in another order, under other names and in other spellings. -/
theorem sample_normalText_decides :
    let os := [(host, addAttributeType "nis" (.written "( 1.1 NAME 'nick' SUP cn )"))]
    let m := reached {} catalogs os
    let a : Dn := ⟨[[⟨"cn", "Ann  Lee"⟩, ⟨"nick", "A+name=b"⟩]]⟩
    let b : Dn := ⟨[[⟨"1.1", "a+name=B"⟩, ⟨"commonName", " ann lee"⟩]]⟩
    Catalogs.load schemas ["people"] = .ok catalogs ∧ (∀ ho ∈ os, ho.2.TypesDotted) ∧
      [] ∉ a.rdns ∧ [] ∉ b.rdns ∧
      ∃ s, m.normalTextBy m.normalizeText a = .ok s ∧ m.normalTextBy m.normalizeText b = .ok s := by
  intro os m a b
  have hos : ∀ ho ∈ os, ho.2.TypesDotted := by
    simp [os, TypesDotted, Description.Source.Meets]
  have hm : m.TypesDotted := reached_typesDotted (Catalogs.loaded_of_load load_eq) {} hos
  have hp : m.resolve m.normalizeText a =
      .ok ⟨[[⟨"2.5.4.3", "ann lee"⟩, ⟨"1.1", "a+name=b"⟩]]⟩ := by
    decide +kernel
  have hq : m.resolve m.normalizeText b =
      .ok ⟨[[⟨"1.1", "a+name=b"⟩, ⟨"2.5.4.3", "ann lee"⟩]]⟩ := by
    decide +kernel
  have hs : m.normalTextBy m.normalizeText a = _ := hm.normalTextBy_eq a
  have ht : m.normalTextBy m.normalizeText b = _ := hm.normalTextBy_eq b
  rw [hp] at hs
  rw [hq] at ht
  obtain ⟨p, q, hp', hq', hiff⟩ := (normalText_decides load_eq {} hos).2 m.normalizeText a b _ _
    (by simp [a]) (by simp [b]) hs ht
  rw [hp, Except.ok.injEq] at hp'
  rw [hq, Except.ok.injEq] at hq'
  subst hp' hq'
  have hsame := hiff.mpr (.cons (.swap _ _ _) .nil)
  exact ⟨load_eq, hos, by simp [a], by simp [b], _, hs, by rw [hsame]; exact ht⟩

end

/-- The normalized text of a name is the text of a name that has it as its normalized text, as
long as normalizers from outside the library leave alone the texts that they give. -/
theorem normalText_stable {schemas : List (Text × SchemaDefinition)} {names : List Text}
    {c : Catalogs} (hc : Catalogs.load schemas names = .ok c) (config : ManagerConfig)
    {os : List (Host × Operation)} (hos : ∀ ho ∈ os, ho.2.TypesDotted)
    (hforeign : (reached config c os).ForeignSettled) {n : Dn} {b : BoundDn}
    (hb : (reached config c os).bind n = .ok b) :
    ∃ e f, Dn.parse b.normalText = .ok e ∧ (reached config c os).bind e = .ok f ∧
      f.normalText = b.normalText :=
  (reached_typesDotted (Catalogs.loaded_of_load hc) config hos).bind_again hforeign hb

section
open Catalogs.Sample

def initialNormalizer : ForeignNormalizer where
  shown := "Initial()"
  normalize
    | .text s => .ok (.text (s.take 1))
    | v => .ok v

theorem settled_initialNormalizer : (Normalizer.foreign initialNormalizer).Settled := by
  intro s t h
  cases h
  exact congrArg Except.ok (by rw [List.take_take, Nat.min_self])

theorem sample_normalText_stable :
    let rule : RuleAddition :=
      ⟨.written "( 1.2 NAME 'initialMatch' SYNTAX 1.3 )", .order .caseExact,
        .foreign initialNormalizer⟩
    let type : TypeAddition := .written "( 1.1 NAME 'nick' EQUALITY initialMatch SYNTAX 1.3 )"
    let os := [(host, addMatchingRule "nis" rule), (host, addAttributeType "nis" type)]
    let n : Dn := ⟨[[⟨"nick", "É, ß"⟩, ⟨"cn", " #  A "⟩], [], [⟨"2.5.4.41", []⟩]]⟩
    Catalogs.load schemas ["people"] = .ok catalogs ∧ (∀ ho ∈ os, ho.2.TypesDotted) ∧
      (reached {} catalogs os).ForeignSettled ∧
      ∃ b, (reached {} catalogs os).bind n = .ok b ∧
        ∃ e f, Dn.parse b.normalText = .ok e ∧ (reached {} catalogs os).bind e = .ok f ∧
          f.normalText = b.normalText := by
  intro rule type os n
  have hos : ∀ ho ∈ os, ho.2.TypesDotted := by
    simp [os, type, TypesDotted, Description.Source.Meets]
  have hentries : (reached {} catalogs os).normalizers.whole.entries =
      [⟨"1.2", "nis", .foreign initialNormalizer⟩,
        ⟨"2.5.13.2", "people", .form .deepTrimToLower⟩] := by
    with_unfolding_all rfl
  have hforeign : (reached {} catalogs os).ForeignSettled := by
    intro e he hform
    rw [hentries] at he
    rcases List.mem_cons.mp he with rfl | he
    · exact settled_initialNormalizer
    · rw [List.eq_of_mem_singleton he] at hform
      cases hform
  have hm := reached_typesDotted (Catalogs.loaded_of_load load_eq) {} hos
  have hp : (reached {} catalogs os).resolve (reached {} catalogs os).normalizeText n =
      .ok ⟨[[⟨"1.1", "É"⟩, ⟨"2.5.4.3", "# a"⟩], [], [⟨"2.5.4.41", []⟩]]⟩ := by
    decide +kernel
  have hn := Manager.bind_eq_map (reached {} catalogs os) n
  rw [Manager.normalText_eq_by, hm.normalTextBy_eq, hp] at hn
  exact ⟨load_eq, hos, hforeign, _, hn, normalText_stable load_eq {} hos hforeign hn⟩

end

end Operation

end DirectorySchema
