import DirectorySchema.Proofs.Transparency

/-!
# The order of registrations

An entry is kept out by what shares its identifier or a name with it, and of two entries each
keeps the other out or neither does. So entries that can be registered one after the other
can be registered in any order, and no question tells the registries apart that come of it.
-/

set_option autoImplicit false

namespace DirectorySchema

variable {α : Type}

def Entry.Apart [SchemaElement α] (e f : Entry α) : Prop :=
  e.oid ≠ f.oid ∧ ∀ n, e.Bears n → ¬ f.Bears n

theorem Entry.Apart.symm [SchemaElement α] {e f : Entry α} (h : e.Apart f) : f.Apart e :=
  ⟨h.1.symm, fun n hf he => h.2 n he hf⟩

namespace Registry

/-- No question tells the registries apart, nor which identifiers were registered. -/
structure Agrees [SchemaElement α] (r s : Registry α) : Prop where
  holds : ∀ x, r.holds x = s.holds x
  lookup : ∀ x, r.lookup x = s.lookup x
  schemaNameOf : ∀ x, r.schemaNameOf x = s.schemaNameOf x
  hasName : ∀ x, r.hasName x = s.hasName x
  oidOf : ∀ x, r.oidOf x = s.oidOf x
  oids : ∀ x, x ∈ r.oids ↔ x ∈ s.oids

/-- What the answers of a registry come from: the entry under each identifier, the owner of
each name and the identifiers registered at runtime. -/
structure Alike (r s : Registry α) : Prop where
  find? : ∀ x, r.find? x = s.find? x
  owner? : ∀ n, r.whole.owner? n = s.whole.owner? n
  oids : r.oids.Perm s.oids

namespace Alike

variable {r s t : Registry α}

theorem refl (r : Registry α) : r.Alike r := ⟨fun _ => rfl, fun _ => rfl, .refl _⟩

theorem trans (h : r.Alike s) (k : s.Alike t) : r.Alike t :=
  ⟨fun x => (h.find? x).trans (k.find? x), fun n => (h.owner? n).trans (k.owner? n),
    h.oids.trans k.oids⟩

theorem holds (h : r.Alike s) (x : Text) : r.holds x = s.holds x := by
  rw [holds_eq_isSome, holds_eq_isSome, h.find?]

theorem hasName (h : r.Alike s) (n : Text) : r.hasName n = s.hasName n := by
  rw [hasName_eq_whole, hasName_eq_whole, Layer.hasName, Layer.hasName, h.owner?]

variable [SchemaElement α]

theorem agrees (h : r.Alike s) : r.Agrees s := by
  refine ⟨h.holds, ?_, ?_, h.hasName, ?_, fun x => h.oids.mem_iff⟩
  · intro x
    rw [lookup, lookup, h.find?]
  · intro x
    rw [schemaNameOf, schemaNameOf, h.find?]
  · intro x
    rw [oidOf, oidOf, resolve?_eq_whole, resolve?_eq_whole, Layer.resolve?, Layer.resolve?,
      ← holds_eq_whole, ← holds_eq_whole, h.holds, h.owner?]

theorem admits {e : Entry α} (h : r.Alike s) (he : r.Admits e) : s.Admits e := by
  refine ⟨?_, he.declared, ?_⟩
  · rw [← h.holds]
    exact he.free
  · intro n hn
    rw [← h.hasName]
    exact he.names_free n hn

end Alike

variable [SchemaElement α] {r r' s : Registry α} {e f : Entry α} {es fs : List (Entry α)}

theorem whole_owner?_insert (he : r.Admits e) (n : Text) :
    (r.insert e).whole.owner? n = if e.Bears n then some e.oid else r.whole.owner? n := by
  rw [whole_owner?, whole_owner?, owner?_insert he]
  split <;> rfl

theorem hasName_insert_iff (he : r.Admits e) {n : Text} :
    (r.insert e).hasName n = true ↔ e.Bears n ∨ r.hasName n = true := by
  rw [hasName_eq_whole, hasName_eq_whole, Layer.hasName, Layer.hasName, whole_owner?_insert he]
  by_cases hn : e.Bears n <;> simp [hn]

theorem Alike.insert (h : r.Alike s) (he : r.Admits e) : (r.insert e).Alike (s.insert e) := by
  have hs := h.admits he
  constructor
  · intro x
    rw [find?_insert he, find?_insert hs, h.find?]
  · intro n
    rw [whole_owner?_insert he, whole_owner?_insert hs, h.owner?]
  · rw [oids_insert, oids_insert]
    exact h.oids.append_right _

/-- An entry that is admitted keeps out what shares something with it, and nothing else. -/
theorem admits_insert_iff (he : r.Admits e) :
    (r.insert e).Admits f ↔ r.Admits f ∧ e.Apart f := by
  constructor
  · intro h
    refine ⟨h.of_keeps (keeps_insert he), ?_, ?_⟩
    · intro ho
      exact not_admits_insert he ho.symm h
    · intro n hen hfn
      have hfree := h.hasName_of_bears hfn
      rw [(hasName_insert_iff he).mpr (Or.inl hen)] at hfree
      cases hfree
  · rintro ⟨hf, hoid, hnames⟩
    refine ⟨?_, hf.declared, ?_⟩
    · rw [← Bool.not_eq_true, holds_insert_iff he, hf.free]
      simp [hoid]
    · intro n hn
      rw [← Bool.not_eq_true, hasName_insert_iff he, hf.names_free n hn]
      have hborne : ¬ e.Bears n := fun hen => hnames n hen (Entry.bears_of_mem hn)
      simp [hborne]

theorem admits_swap (he : r.Admits e) (hf : (r.insert e).Admits f) :
    r.Admits f ∧ (r.insert f).Admits e := by
  obtain ⟨hrf, hapart⟩ := (admits_insert_iff he).mp hf
  exact ⟨hrf, (admits_insert_iff hrf).mpr ⟨he, hapart.symm⟩⟩

theorem insert_swap (he : r.Admits e) (hf : (r.insert e).Admits f) :
    ((r.insert e).insert f).Alike ((r.insert f).insert e) := by
  obtain ⟨hrf, hfe⟩ := admits_swap he hf
  obtain ⟨-, hoid, hnames⟩ := (admits_insert_iff he).mp hf
  constructor
  · intro x
    rw [find?_insert hf, find?_insert he, find?_insert hfe, find?_insert hrf]
    by_cases hx : e.oid = x
    · subst hx
      simp [hoid.symm]
    · simp [hx]
  · intro n
    rw [whole_owner?_insert hf, whole_owner?_insert he, whole_owner?_insert hfe,
      whole_owner?_insert hrf]
    by_cases hn : e.Bears n
    · simp [hn, hnames n hn]
    · simp [hn]
  · rw [oids_insert, oids_insert, oids_insert, oids_insert, List.append_assoc, List.append_assoc]
    exact (List.Perm.swap _ _ _).append_left _

theorem Alike.registerAll (h : r.Alike s) (hr : r.registerAll es = .ok r') :
    ∃ s', s.registerAll es = .ok s' ∧ r'.Alike s' := by
  induction es generalizing r s with
  | nil =>
    cases hr
    exact ⟨s, rfl, h⟩
  | cons e es ih =>
    obtain ⟨he, hrest⟩ := registerAll_cons_iff.mp hr
    obtain ⟨s', hs', halike⟩ := ih (h.insert he) hrest
    exact ⟨s', registerAll_cons_iff.mpr ⟨h.admits he, hs'⟩, halike⟩

theorem registerAll_perm (hperm : es.Perm fs) (h : r.registerAll es = .ok r') :
    ∃ s, r.registerAll fs = .ok s ∧ r'.Alike s := by
  induction hperm generalizing r r' with
  | nil => exact ⟨r', h, .refl r'⟩
  | cons e _ ih =>
    obtain ⟨he, hrest⟩ := registerAll_cons_iff.mp h
    obtain ⟨s, hs, halike⟩ := ih hrest
    exact ⟨s, registerAll_cons_iff.mpr ⟨he, hs⟩, halike⟩
  | swap f e es =>
    obtain ⟨he, hrest⟩ := registerAll_cons_iff.mp h
    obtain ⟨hf, hrest⟩ := registerAll_cons_iff.mp hrest
    obtain ⟨hrf, hfe⟩ := admits_swap he hf
    obtain ⟨s, hs, halike⟩ := (insert_swap he hf).registerAll hrest
    exact ⟨s, registerAll_cons_iff.mpr ⟨hrf, registerAll_cons_iff.mpr ⟨hfe, hs⟩⟩, halike⟩
  | trans _ _ ih₁ ih₂ =>
    obtain ⟨s, hs, halike⟩ := ih₁ h
    obtain ⟨t, ht, halike'⟩ := ih₂ hs
    exact ⟨t, ht, halike.trans halike'⟩

/-- Registrations that succeed in one order succeed in every other, whatever the registry
they start from, and the registries they lead to agree in every answer. -/
theorem registrations_commute (hperm : es.Perm fs) (h : r.registerAll es = .ok r') :
    ∃ s, r.registerAll fs = .ok s ∧ r'.Agrees s := by
  obtain ⟨s, hs, halike⟩ := registerAll_perm hperm h
  exact ⟨s, hs, halike.agrees⟩

section
open Catalogs.Sample

/-- Two types of two names each over a catalog, where only the list of identifiers shows which
came first. -/
theorem sample_registrations_commute :
    let r := ofCatalog catalogs.attributeTypes
    let surname : Entry AttributeType :=
      ⟨"2.5.4.4", "local", ⟨"2.5.4.4", { names := some ["sn", "surname"], sup := some "name" }⟩⟩
    let locality : Entry AttributeType :=
      ⟨"2.5.4.7", "site", ⟨"2.5.4.7", { names := some ["l", "localityName"], sup := some "name" }⟩⟩
    ∃ r' s, r.registerAll [surname, locality] = .ok r' ∧ r.registerAll [locality, surname] = .ok s ∧
      r'.Agrees s ∧ r'.oids = ["2.5.4.4", "2.5.4.7"] := by
  intro r surname locality
  have hfirst : r.registerAll [surname, locality] = .ok ((r.insert surname).insert locality) := by
    decide +kernel
  obtain ⟨s, hs, hagrees⟩ := registrations_commute (List.Perm.swap locality surname []) hfirst
  exact ⟨_, s, hfirst, hs, hagrees, rfl⟩

end

end Registry

end DirectorySchema
