import DirectorySchema.Registry.Layer
import Mathlib.Data.List.Nodup
import Mathlib.Data.List.Pairwise

/-!
# Sound layers

A layer is sound when its entries have identifiers of their own, agree with what their
elements declare and share no name, and when its index lists the names of its entries and
nothing else. What a sound layer answers depends on which entries it holds and not on their
order. A catalog is built exactly from entries without a repeated identifier or name.
-/

set_option autoImplicit false

namespace DirectorySchema

variable {α : Type}

theorem Layer.holds_iff {l : Layer α} {oid : Text} :
    l.holds oid = true ↔ ∃ e ∈ l.entries, e.oid = oid := by
  simp [holds, find?]

theorem Layer.mem_of_find? {l : Layer α} {oid : Text} {e : Entry α} (h : l.find? oid = some e) :
    e ∈ l.entries ∧ e.oid = oid :=
  ⟨List.mem_of_find?_eq_some h, by simpa using List.find?_some h⟩

variable [SchemaElement α]

namespace Entry

def Bears (e : Entry α) (name : Text) : Prop :=
  Text.lower name ∈ (SchemaElement.names e.element).map Text.lower

instance (e : Entry α) (name : Text) : Decidable (e.Bears name) :=
  inferInstanceAs (Decidable (Text.lower name ∈ (SchemaElement.names e.element).map Text.lower))

/-- An identifier is answered by the entry under it, and any other text by its bearers. -/
def AnswersTo (e : Entry α) (x : Text) : Prop :=
  if Text.isNumericOid x then e.oid = x else e.Bears x

theorem bears_of_mem {e : Entry α} {n : Text} (h : n ∈ SchemaElement.names e.element) :
    e.Bears n :=
  List.mem_map_of_mem h

end Entry

namespace Layer

structure Sound (l : Layer α) : Prop where
  oids_nodup : l.oids.Nodup
  declared : ∀ e ∈ l.entries, ∀ oid, SchemaElement.declaredOid? e.element = some oid → oid = e.oid
  names_apart : ∀ e ∈ l.entries, ∀ f ∈ l.entries, ∀ n, e.Bears n → f.Bears n → e.oid = f.oid
  indexed : ∀ p, p ∈ l.names ↔ ∃ e ∈ l.entries, p ∈ indexOf e

theorem mem_indexOf {e : Entry α} {key oid : Text} :
    (key, oid) ∈ indexOf e ↔
      e.oid = oid ∧ key ∈ (SchemaElement.names e.element).map Text.lower := by
  simp only [indexOf, List.mem_map, Prod.mk.injEq]
  constructor
  · rintro ⟨n, hn, rfl, rfl⟩
    exact ⟨rfl, n, hn, rfl⟩
  · rintro ⟨rfl, n, hn, rfl⟩
    exact ⟨n, hn, rfl, rfl⟩

theorem lookup_map_lower (ns : List Text) (n oid : Text) :
    (ns.map fun k => (Text.lower k, oid)).lookup (Text.lower n) =
      if Text.lower n ∈ ns.map Text.lower then some oid else none := by
  induction ns with
  | nil => simp
  | cons k ks ih =>
    by_cases hk : Text.lower n = Text.lower k
    · simp [hk]
    · rw [List.map_cons, List.lookup_cons, beq_eq_false_iff_ne.mpr hk, ih, List.map_cons]
      simp only [List.mem_cons, hk, false_or]

theorem owner?_insert (l : Layer α) (e : Entry α) (n : Text) :
    (l.insert e).owner? n = (l.owner? n).or (if e.Bears n then some e.oid else none) := by
  have hindex : (indexOf e).lookup (Text.lower n) = if e.Bears n then some e.oid else none :=
    lookup_map_lower _ n e.oid
  rw [insert, owner?, List.lookup_append, hindex, owner?]

namespace Sound

variable {l : Layer α}

theorem eq_of_oid (hl : l.Sound) {e f : Entry α} (he : e ∈ l.entries) (hf : f ∈ l.entries)
    (h : e.oid = f.oid) : e = f :=
  List.inj_on_of_nodup_map hl.oids_nodup he hf h

theorem find?_iff (hl : l.Sound) {oid : Text} {e : Entry α} :
    l.find? oid = some e ↔ e ∈ l.entries ∧ e.oid = oid := by
  constructor
  · exact mem_of_find?
  · rintro ⟨he, rfl⟩
    obtain ⟨f, hf⟩ := Option.isSome_iff_exists.mp (holds_iff.mpr ⟨e, he, rfl⟩)
    obtain ⟨hm, ho⟩ := mem_of_find? hf
    rw [hf, hl.eq_of_oid hm he ho]

theorem mem_names_iff (hl : l.Sound) {n oid : Text} :
    (Text.lower n, oid) ∈ l.names ↔ ∃ e ∈ l.entries, e.oid = oid ∧ e.Bears n := by
  rw [hl.indexed]
  simp only [mem_indexOf, Entry.Bears]

theorem owner?_iff (hl : l.Sound) {n oid : Text} :
    l.owner? n = some oid ↔ ∃ e ∈ l.entries, e.oid = oid ∧ e.Bears n := by
  rw [← hl.mem_names_iff, owner?]
  constructor
  · intro h
    obtain ⟨front, rest, heq, -⟩ := List.lookup_eq_some_iff.mp h
    simp [heq]
  · intro h
    cases hk : l.names.lookup (Text.lower n) with
    | none =>
      rw [List.lookup_eq_none_iff] at hk
      simpa using hk _ h
    | some first =>
      obtain ⟨front, rest, heq, -⟩ := List.lookup_eq_some_iff.mp hk
      have hm : (Text.lower n, first) ∈ l.names := by simp [heq]
      obtain ⟨e, he, rfl, hb⟩ := hl.mem_names_iff.mp hm
      obtain ⟨f, hf, rfl, hc⟩ := hl.mem_names_iff.mp h
      rw [hl.names_apart e he f hf n hb hc]

theorem hasName_iff (hl : l.Sound) {n : Text} :
    l.hasName n = true ↔ ∃ e ∈ l.entries, e.Bears n := by
  rw [hasName, Option.isSome_iff_exists]
  constructor
  · rintro ⟨oid, h⟩
    obtain ⟨e, he, -, hb⟩ := hl.owner?_iff.mp h
    exact ⟨e, he, hb⟩
  · rintro ⟨e, he, hb⟩
    exact ⟨e.oid, hl.owner?_iff.mpr ⟨e, he, rfl, hb⟩⟩

theorem resolve?_iff (hl : l.Sound) {x oid : Text} :
    l.resolve? x = some oid ↔ ∃ e ∈ l.entries, e.oid = oid ∧ e.AnswersTo x := by
  unfold resolve? Entry.AnswersTo
  by_cases hx : Text.isNumericOid x
  · simp only [hx, if_true, Option.ite_none_right_eq_some, Option.some.injEq, holds_iff]
    constructor
    · rintro ⟨⟨e, he, rfl⟩, rfl⟩
      exact ⟨e, he, rfl, rfl⟩
    · rintro ⟨e, he, rfl, rfl⟩
      exact ⟨⟨e, he, rfl⟩, rfl⟩
  · simp only [hx]
    exact hl.owner?_iff

theorem add (hl : l.Sound) {l' : Layer α} {e : Entry α}
    (hes : l'.entries.Perm (e :: l.entries))
    (hns : ∀ p, p ∈ l'.names ↔ p ∈ l.names ∨ p ∈ indexOf e)
    (hfree : ∀ f ∈ l.entries, f.oid ≠ e.oid)
    (hdeclared : ∀ oid, SchemaElement.declaredOid? e.element = some oid → oid = e.oid)
    (hnames : ∀ f ∈ l.entries, ∀ n, e.Bears n → ¬ f.Bears n) : l'.Sound := by
  have hmem : ∀ f, f ∈ l'.entries ↔ f = e ∨ f ∈ l.entries := by
    intro f
    rw [hes.mem_iff, List.mem_cons]
  constructor
  · rw [oids, (hes.map Entry.oid).nodup_iff, List.map_cons, List.nodup_cons]
    refine ⟨?_, hl.oids_nodup⟩
    intro h
    obtain ⟨f, hf, ho⟩ := List.mem_map.mp h
    exact hfree f hf ho
  · intro f hf
    rcases (hmem f).mp hf with rfl | hf
    · exact hdeclared
    · exact hl.declared f hf
  · intro f hf g hg n hbf hbg
    rcases (hmem f).mp hf with rfl | hf <;> rcases (hmem g).mp hg with rfl | hg
    · rfl
    · exact absurd hbg (hnames g hg n hbf)
    · exact absurd hbf (hnames f hf n hbg)
    · exact hl.names_apart f hf g hg n hbf hbg
  · intro p
    rw [hns, hl.indexed]
    constructor
    · rintro (⟨f, hf, hp⟩ | hp)
      · exact ⟨f, (hmem f).mpr (Or.inr hf), hp⟩
      · exact ⟨e, (hmem e).mpr (Or.inl rfl), hp⟩
    · rintro ⟨f, hf, hp⟩
      rcases (hmem f).mp hf with rfl | hf
      · exact Or.inr hp
      · exact Or.inl ⟨f, hf, hp⟩

end Sound

theorem foldl_insert_entries (es : List (Entry α)) (l : Layer α) :
    (es.foldl insert l).entries = l.entries ++ es := by
  induction es generalizing l with
  | nil => simp
  | cons e es ih => simp [ih, insert]

theorem foldl_insert_names (es : List (Entry α)) (l : Layer α) :
    (es.foldl insert l).names = l.names ++ es.flatMap indexOf := by
  induction es generalizing l with
  | nil => simp
  | cons e es ih => simp [ih, insert]

theorem nodup_snoc {β : Type} {bs : List β} {b : β} (hbs : bs.Nodup) (hb : b ∉ bs) :
    (bs ++ [b]).Nodup := by
  rw [List.nodup_append_comm]
  exact List.nodup_cons.mpr ⟨hb, hbs⟩

theorem claimOids_iff (es seen : List (Entry α)) (hseen : (seen.map Entry.oid).Nodup) :
    claimOids seen es = .ok () ↔ ((seen ++ es).map Entry.oid).Nodup := by
  induction es generalizing seen with
  | nil => simpa [claimOids] using hseen
  | cons e es ih =>
    rw [claimOids]
    cases hf : seen.find? (·.oid == e.oid) with
    | some first =>
      have hm := List.mem_of_find?_eq_some hf
      have ho : first.oid = e.oid := by simpa using List.find?_some hf
      simp only [reduceCtorEq, false_iff, List.map_append, List.map_cons, List.nodup_append]
      intro h
      exact h.2.2 first.oid (List.mem_map_of_mem hm) e.oid (by simp) ho
    | none =>
      have hnew : e.oid ∉ seen.map Entry.oid := by
        intro h
        obtain ⟨f, hm, ho⟩ := List.mem_map.mp h
        simpa [ho] using List.find?_eq_none.mp hf f hm
      have hs : ((seen ++ [e]).map Entry.oid).Nodup := by
        rw [List.map_append]
        exact nodup_snoc hseen hnew
      simpa using ih (seen ++ [e]) hs

theorem claimNames_iff (kind : ElementKind) (ps seen : List (Text × Text))
    (hseen : (seen.map Prod.fst).Nodup) :
    claimNames kind seen ps = .ok () ↔
      (seen.map Prod.fst ++ ps.map fun p => Text.lower p.1).Nodup := by
  induction ps generalizing seen with
  | nil => simpa [claimNames] using hseen
  | cons p ps ih =>
    obtain ⟨name, oid⟩ := p
    rw [claimNames]
    cases hk : seen.lookup (Text.lower name) with
    | some first =>
      obtain ⟨front, rest, rfl, -⟩ := List.lookup_eq_some_iff.mp hk
      simp only [reduceCtorEq, false_iff, List.map_cons, List.nodup_append]
      intro h
      exact h.2.2 (Text.lower name) (by simp) (Text.lower name) (by simp) rfl
    | none =>
      have hnew : Text.lower name ∉ seen.map Prod.fst := by
        intro h
        obtain ⟨q, hm, hq⟩ := List.mem_map.mp h
        simpa [hq] using List.lookup_eq_none_iff.mp hk q hm
      have hs : ((seen ++ [(Text.lower name, oid)]).map Prod.fst).Nodup := by
        rw [List.map_append]
        exact nodup_snoc hseen hnew
      simpa using ih _ hs

/-- A catalog of entries is built if and only if no two of them share an identifier and no
two of their names are alike. -/
theorem ofEntries_iff (es : List (Entry α)) (l : Layer α) :
    ofEntries es = .ok l ↔ (es.map Entry.oid).Nodup ∧
      ((bearers es).map fun p => Text.lower p.1).Nodup ∧ l = es.foldl insert empty := by
  have ho := claimOids_iff es [] List.nodup_nil
  have hn := claimNames_iff (SchemaElement.kind α) (bearers es) [] List.nodup_nil
  simp only [List.nil_append, List.map_nil] at ho hn
  rw [← ho, ← hn, ofEntries]
  cases claimOids [] es with
  | error e => simp [bind, Except.bind]
  | ok u =>
    cases claimNames (SchemaElement.kind α) [] (bearers es) with
    | error e => simp [bind, Except.bind]
    | ok v => simp [bind, Except.bind, pure, Except.pure, eq_comm]

theorem map_lower_bearers (es : List (Entry α)) :
    (bearers es).map (fun p => Text.lower p.1) =
      es.flatMap fun e => (SchemaElement.names e.element).map Text.lower := by
  simp [bearers, List.map_flatMap, List.map_map, Function.comp_def]

theorem names_apart_of_nodup {es : List (Entry α)}
    (h : ((bearers es).map fun p => Text.lower p.1).Nodup) :
    ∀ e ∈ es, ∀ f ∈ es, ∀ n, e.Bears n → f.Bears n → e.oid = f.oid := by
  intro e he f hf n hbe hbf
  rw [map_lower_bearers, List.nodup_flatMap] at h
  by_contra hne
  have hsymm : Std.Symm (Function.onFun List.Disjoint fun e : Entry α =>
      (SchemaElement.names e.element).map Text.lower) := ⟨fun _ _ hd _ hx hy => hd hy hx⟩
  exact h.2.forall he hf (fun heq => hne (congrArg Entry.oid heq)) hbe hbf

theorem entries_of_ofEntries {es : List (Entry α)} {l : Layer α} (h : ofEntries es = .ok l) :
    l.entries = es := by
  obtain ⟨-, -, rfl⟩ := (ofEntries_iff es l).mp h
  simp [foldl_insert_entries, empty]

theorem ofEntries_sound {es : List (Entry α)} {l : Layer α} (h : ofEntries es = .ok l)
    (hdeclared : ∀ e ∈ es, ∀ oid, SchemaElement.declaredOid? e.element = some oid → oid = e.oid) :
    l.Sound ∧ l.entries = es := by
  have hes := entries_of_ofEntries h
  obtain ⟨ho, hn, rfl⟩ := (ofEntries_iff es l).mp h
  have hsound : (es.foldl insert empty).Sound := by
    constructor
    · rwa [oids, hes]
    · rwa [hes]
    · rw [hes]
      exact names_apart_of_nodup hn
    · intro p
      rw [foldl_insert_names, hes]
      simp [empty]
  exact ⟨hsound, hes⟩

end Layer

end DirectorySchema
