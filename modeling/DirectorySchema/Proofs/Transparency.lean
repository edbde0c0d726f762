import DirectorySchema.Proofs.Loading
import DirectorySchema.Proofs.Registries

/-!
# Layers are transparent

Registering entries one after the other over a catalog and building one catalog of all of
them come to the same: both succeed when no two entries share an identifier or a name, and
then no question tells the registry from the catalog. So it does not matter which elements
of a schema are there from the start.
-/

set_option autoImplicit false

namespace DirectorySchema

variable {α : Type} [SchemaElement α]

structure Entry.Proper (e : Entry α) : Prop where
  declared : SchemaElement.declaredOid? e.element = some e.oid
  names_nodup : ((SchemaElement.names e.element).map Text.lower).Nodup

namespace Layer

structure Apart (es : List (Entry α)) : Prop where
  oids : (es.map Entry.oid).Nodup
  names : (es.flatMap fun e => (SchemaElement.names e.element).map Text.lower).Nodup

theorem exists_ofEntries_iff (es : List (Entry α)) :
    (∃ l, ofEntries es = .ok l) ↔ Apart es := by
  simp only [ofEntries_iff, map_lower_bearers]
  constructor
  · rintro ⟨l, hoids, hnames, -⟩
    exact ⟨hoids, hnames⟩
  · intro h
    exact ⟨_, h.oids, h.names, rfl⟩

theorem Apart.perm {es fs : List (Entry α)} (h : Apart es) (hperm : es.Perm fs) : Apart fs :=
  ⟨(hperm.map _).nodup_iff.mp h.oids, (hperm.flatMap_right _).nodup_iff.mp h.names⟩

theorem apart_append_left {es fs : List (Entry α)} (h : Apart (es ++ fs)) : Apart es := by
  obtain ⟨hoids, hnames⟩ := h
  rw [List.map_append] at hoids
  rw [List.flatMap_append] at hnames
  exact ⟨(List.nodup_append.mp hoids).1, (List.nodup_append.mp hnames).1⟩

theorem apart_cons_iff {e : Entry α} {es : List (Entry α)} (he : e.Proper) (hes : Apart es) :
    Apart (e :: es) ↔
      (∀ f ∈ es, f.oid ≠ e.oid) ∧ ∀ f ∈ es, ∀ n ∈ SchemaElement.names e.element, ¬ f.Bears n := by
  constructor
  · rintro ⟨hoids, hnames⟩
    rw [List.map_cons, List.nodup_cons] at hoids
    rw [List.flatMap_cons, List.nodup_append] at hnames
    refine ⟨?_, ?_⟩
    · intro f hf ho
      exact hoids.1 (ho ▸ List.mem_map_of_mem hf)
    · intro f hf n hn hb
      exact hnames.2.2 _ (List.mem_map_of_mem hn) _ (List.mem_flatMap.mpr ⟨f, hf, hb⟩) rfl
  · rintro ⟨hoid, hname⟩
    constructor
    · rw [List.map_cons, List.nodup_cons]
      refine ⟨?_, hes.oids⟩
      intro hmem
      obtain ⟨f, hf, ho⟩ := List.mem_map.mp hmem
      exact hoid f hf ho
    · rw [List.flatMap_cons, List.nodup_append]
      refine ⟨he.names_nodup, hes.names, ?_⟩
      rintro key hkey _ hmem rfl
      obtain ⟨n, hn, rfl⟩ := List.mem_map.mp hkey
      obtain ⟨f, hf, hb⟩ := List.mem_flatMap.mp hmem
      exact hname f hf n hn hb

end Layer

namespace Registry

variable {r r' : Registry α} {l : Layer α} {e : Entry α} {es fs : List (Entry α)}

def registerAll (r : Registry α) : List (Entry α) → Except Refusal (Registry α)
  | [] => .ok r
  | e :: es => do
    let (r', _) ← r.register e.schemaName e.oid e.element
    registerAll r' es

theorem registerAll_cons_iff :
    r.registerAll (e :: es) = .ok r' ↔ r.Admits e ∧ (r.insert e).registerAll es = .ok r' := by
  rw [registerAll, bind_eq_ok_iff]
  constructor
  · rintro ⟨⟨s, record⟩, hs, hrest⟩
    obtain ⟨hadmits, rfl, -⟩ := register_eq_ok_iff.mp hs
    exact ⟨hadmits, hrest⟩
  · rintro ⟨hadmits, hrest⟩
    exact ⟨_, register_eq_ok_iff.mpr ⟨hadmits, rfl, rfl⟩, hrest⟩

theorem admits_iff_apart (hr : r.Sound) (hes : r.whole.entries.Perm es) (ha : Layer.Apart es)
    (he : e.Proper) : r.Admits e ↔ Layer.Apart (e :: es) := by
  have hmem : ∀ f, f ∈ r.whole.entries ↔ f ∈ es := fun f => hes.mem_iff
  have hname : ∀ n, r.hasName n = false ↔ ∀ f ∈ es, ¬ f.Bears n := by
    intro n
    rw [hasName_eq_whole, ← Bool.not_eq_true, hr.hasName_iff]
    simp [hmem]
  rw [Layer.apart_cons_iff he ha]
  constructor
  · intro h
    refine ⟨?_, ?_⟩
    · intro f hf
      exact holds_eq_false_iff.mp h.free f ((hmem f).mpr hf)
    · intro f hf n hn
      exact (hname n).mp (h.names_free n hn) f hf
  · rintro ⟨hoid, hnames⟩
    refine ⟨?_, ?_, ?_⟩
    · exact holds_eq_false_iff.mpr fun f hf => hoid f ((hmem f).mp hf)
    · intro oid ho
      rw [he.declared, Option.some.injEq] at ho
      exact ho.symm
    · intro n hn
      exact (hname n).mpr fun f hf => hnames f hf n hn

theorem whole_insert_perm (hes : r.whole.entries.Perm es) :
    (r.insert e).whole.entries.Perm (e :: es) := by
  simp only [whole, insert, Layer.insert, List.append_assoc]
  exact List.perm_middle.trans (hes.cons e)

/-- Which entries the registry holds decides how far a registration gets, not where it
holds them. -/
theorem exists_registerAll_iff (hr : r.Sound) (hes : r.whole.entries.Perm es)
    (ha : Layer.Apart es) (hfs : ∀ f ∈ fs, f.Proper) :
    (∃ r', r.registerAll fs = .ok r') ↔ Layer.Apart (es ++ fs) := by
  induction fs generalizing r es with
  | nil =>
    rw [List.append_nil]
    exact iff_of_true ⟨r, rfl⟩ ha
  | cons f fs ih =>
    rw [List.forall_mem_cons] at hfs
    have hmiddle : (es ++ f :: fs).Perm (f :: es ++ fs) := List.perm_middle
    have hadmits := admits_iff_apart hr hes ha hfs.1
    simp only [registerAll_cons_iff]
    constructor
    · rintro ⟨r', hf, hrest⟩
      have hsound := sound_insert hr hf
      have hall := (ih hsound (whole_insert_perm hes) (hadmits.mp hf) hfs.2).mp ⟨r', hrest⟩
      exact hall.perm hmiddle.symm
    · intro hall
      have hall' := hall.perm hmiddle
      have hf := hadmits.mpr (Layer.apart_append_left hall')
      have hsound := sound_insert hr hf
      obtain ⟨r', hrest⟩ :=
        (ih hsound (whole_insert_perm hes) (hadmits.mp hf) hfs.2).mpr hall'
      exact ⟨r', hf, hrest⟩

theorem sound_registerAll (hr : r.Sound) (h : r.registerAll fs = .ok r') :
    r'.Sound ∧ r'.whole.entries.Perm (r.whole.entries ++ fs) := by
  induction fs generalizing r with
  | nil =>
    cases h
    exact ⟨hr, by rw [List.append_nil]⟩
  | cons f fs ih =>
    obtain ⟨hf, hrest⟩ := registerAll_cons_iff.mp h
    obtain ⟨hsound, hperm⟩ := ih (sound_insert hr hf) hrest
    exact ⟨hsound, hperm.trans (((whole_insert_perm (.refl _)).append_right fs).trans
      List.perm_middle.symm)⟩

/-- No question tells the registry from the layer. What is refused by both may be worded in
two ways where the schema of an identifier is asked for. -/
structure Mirrors (r : Registry α) (l : Layer α) : Prop where
  holds : ∀ x, r.holds x = l.holds x
  lookup : ∀ x, r.lookup x = l.element x
  hasName : ∀ x, r.hasName x = l.hasName x
  oidOf : ∀ x, r.oidOf x = l.oidOf x
  schemaNameOf : ∀ x, Text.startsWithDigit x = true →
    (∃ name, r.schemaNameOf x = .ok name ∧ l.schemaName x = .ok name) ∨
    ∃ e f, r.schemaNameOf x = .error e ∧ e.category = .notFound ∧
      l.schemaName x = .error f ∧ f.category = .notFound

theorem mirrors_of_perm (hr : r.Sound) (hl : l.Sound) (h : r.whole.entries.Perm l.entries) :
    r.Mirrors l := by
  have hfind : ∀ x, r.find? x = l.find? x := by
    intro x
    rw [find?_eq_whole]
    refine Option.ext fun e => ?_
    rw [hr.find?_iff, hl.find?_iff, h.mem_iff]
  have hresolve : ∀ x, r.whole.resolve? x = l.resolve? x := by
    intro x
    refine Option.ext fun oid => ?_
    rw [hr.resolve?_iff, hl.resolve?_iff]
    simp only [h.mem_iff]
  constructor
  · intro x
    rw [holds_eq_isSome, hfind, Layer.holds]
  · intro x
    rw [lookup, hfind]
    unfold Layer.element
    cases l.find? x <;> rfl
  · intro n
    rw [hasName_eq_whole, Bool.eq_iff_iff, hr.hasName_iff, hl.hasName_iff]
    simp only [h.mem_iff]
  · intro x
    rw [oidOf, resolve?_eq_whole, hresolve]
    unfold Layer.oidOf
    cases l.resolve? x <;> rfl
  · intro x hx
    rw [schemaNameOf, hfind, Layer.schemaName, hx]
    cases l.find? x with
    | some e => exact Or.inl ⟨e.schemaName, rfl, rfl⟩
    | none => exact Or.inr ⟨_, _, rfl, rfl, rfl, rfl⟩

/-- It makes no difference whether entries are in a catalog from the start or are registered
over it: one comes about exactly if the other does, and both give the same answers. -/
theorem registering_is_building {front back : List (Entry α)}
    (hproper : ∀ e ∈ front ++ back, e.Proper) :
    ((∃ c r, Layer.ofEntries front = .ok c ∧ (ofCatalog c).registerAll back = .ok r) ↔
      ∃ l, Layer.ofEntries (front ++ back) = .ok l) ∧
    ∀ c r l, Layer.ofEntries front = .ok c → (ofCatalog c).registerAll back = .ok r →
      Layer.ofEntries (front ++ back) = .ok l → r.Mirrors l := by
  have hdeclared : ∀ e ∈ front ++ back, ∀ oid,
      SchemaElement.declaredOid? e.element = some oid → oid = e.oid := by
    intro e he oid ho
    rw [(hproper e he).declared, Option.some.injEq] at ho
    exact ho.symm
  have hcatalog : ∀ c, Layer.ofEntries front = .ok c →
      (ofCatalog c).Sound ∧ (ofCatalog c).whole.entries = front := by
    intro c hc
    obtain ⟨hs, hes⟩ := Layer.ofEntries_sound hc fun e he =>
      hdeclared e (List.mem_append_left _ he)
    exact ⟨sound_ofCatalog hs, hes⟩
  have hback : ∀ e ∈ back, e.Proper := fun e he => hproper e (List.mem_append_right _ he)
  refine ⟨?_, ?_⟩
  · rw [Layer.exists_ofEntries_iff]
    constructor
    · rintro ⟨c, r, hc, hr⟩
      obtain ⟨hs, hes⟩ := hcatalog c hc
      have ha := (Layer.exists_ofEntries_iff front).mp ⟨c, hc⟩
      exact (exists_registerAll_iff hs (.of_eq hes) ha hback).mp ⟨r, hr⟩
    · intro hall
      have ha := Layer.apart_append_left hall
      obtain ⟨c, hc⟩ := (Layer.exists_ofEntries_iff front).mpr ha
      obtain ⟨hs, hes⟩ := hcatalog c hc
      obtain ⟨r, hr⟩ := (exists_registerAll_iff hs (.of_eq hes) ha hback).mpr hall
      exact ⟨c, r, hc, hr⟩
  · intro c r l hc hr hl
    obtain ⟨hs, hes⟩ := hcatalog c hc
    obtain ⟨hsound, hperm⟩ := sound_registerAll hs hr
    obtain ⟨hls, hles⟩ := Layer.ofEntries_sound hl hdeclared
    rw [hes] at hperm
    rw [← hles] at hperm
    exact mirrors_of_perm hsound hls hperm

section
open Catalogs.Sample

/-- A type with two names, registered over the catalog of the type above it. -/
theorem sample_registering_is_building :
    let front : List (Entry AttributeType) := [⟨"2.5.4.41", "people", name⟩]
    let back : List (Entry AttributeType) := [⟨"2.5.4.3", "people", commonName⟩]
    (∀ e ∈ front ++ back, e.Proper) ∧
      ∃ c r, Layer.ofEntries front = .ok c ∧ (ofCatalog c).registerAll back = .ok r ∧
        Layer.ofEntries (front ++ back) = .ok catalogs.attributeTypes ∧
        r.Mirrors catalogs.attributeTypes := by
  intro front back
  have hproper : ∀ e ∈ front ++ back, e.Proper := by
    simp only [front, back, List.cons_append, List.nil_append, List.forall_mem_cons]
    exact ⟨⟨rfl, by decide +kernel⟩, ⟨rfl, by decide +kernel⟩, by simp⟩
  have hbuilt : Layer.ofEntries (front ++ back) = .ok catalogs.attributeTypes := by decide +kernel
  obtain ⟨hiff, hmirrors⟩ := registering_is_building hproper
  obtain ⟨c, r, hc, hr⟩ := hiff.mpr ⟨_, hbuilt⟩
  exact ⟨hproper, c, r, hc, hr, hbuilt, hmirrors c r _ hc hr hbuilt⟩

end

end Registry

end DirectorySchema
