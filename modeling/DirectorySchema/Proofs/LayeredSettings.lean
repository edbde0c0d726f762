import DirectorySchema.Settings.Reader
import DirectorySchema.Proofs.Overlays
import Mathlib.Data.List.DropRight

/-!
# Layered settings

Settings laid over others: a section that both have has the options of both, and an option that
both set has the upper value. What is done to a section of the upper settings, be it that it is
opened or that an option is set or goes on, may be done after they have been laid over the
others.
-/

set_option autoImplicit false

namespace DirectorySchema
open Overlay

namespace Options

def overlay (o u : Options) : Options := lay (fun v _ => v) o u

def above (u : Options) (below : Option Options) : Options := (below.getD []).overlay u

theorem assign_eq_alter (n v : Text) (o : Options) : assign n v o = alter n (fun _ => v) o := by
  induction o with
  | nil => rfl
  | cons p o ih =>
    obtain ⟨m, w⟩ := p
    rw [assign, alter, ih]

theorem extend_eq_alter {o : Options} (ho : (names o).Nodup) {n : Text} (hn : n ∈ names o)
    (x : Text) : extend n x o = alter n (fun v => v.getD [] ++ x) o := by
  rw [extend]
  exact map_if_eq_alter (g := (· ++ x)) ho hn fun _ => rfl

theorem names_extend (n x : Text) (o : Options) : names (extend n x o) = names o := by
  rw [extend, names, List.map_map]
  refine List.map_congr_left fun p _ => ?_
  simp only [Function.comp_apply]
  split <;> rfl

theorem nodup_overlay {o : Options} (h : (names o).Nodup) (u : Options) :
    (names (o.overlay u)).Nodup := nodup_lay h u

theorem lookup_overlay {u : Options} (hu : (names u).Nodup) (o : Options) (n : Text) :
    (o.overlay u).lookup n = (u.lookup n).or (o.lookup n) := by
  rw [overlay, lookup_lay hu, Option.map_id']

theorem overlay_assign {u : Options} (hu : (names u).Nodup) (n v : Text) (o : Options) :
    o.overlay (assign n v u) = assign n v (o.overlay u) := by
  rw [assign_eq_alter, assign_eq_alter]
  exact lay_alter hu rfl

theorem overlay_extend {o u : Options} (ho : (names o).Nodup) (hu : (names u).Nodup) {n : Text}
    (hn : n ∈ names u) (x : Text) : o.overlay (extend n x u) = extend n x (o.overlay u) := by
  obtain ⟨v, hv⟩ := Option.isSome_iff_exists.mp (mem_names_iff.mp hn)
  have hlaid : n ∈ names (o.overlay u) := (mem_names_lay o u).mpr (.inl hn)
  rw [extend_eq_alter hu hn, extend_eq_alter (nodup_overlay ho u) hlaid]
  refine lay_alter hu ?_
  rw [hv]
  rfl

end Options

namespace Settings

def overlay (s u : Settings) : Settings :=
  ⟨s.defaults.overlay u.defaults, lay Options.above s.sections u.sections⟩

/-- No section and no option of a section comes twice, and the default section is none of them. -/
structure Distinct (s : Settings) : Prop where
  sections : (names s.sections).Nodup
  defaults : (names s.defaults).Nodup
  options : ∀ n o, s.sections.lookup n = some o → (names o).Nodup
  no_default : defaultSection ∉ names s.sections

section
variable {s u : Settings} {n : Text} {o : Options} {f : Options → Options}

theorem own?_default (s : Settings) : s.own? defaultSection = some s.defaults := if_pos rfl

theorem own?_of_ne (h : n ≠ defaultSection) : s.own? n = s.sections.lookup n := if_neg h

theorem mem_names_of_own? (h : n ≠ defaultSection) (ho : s.own? n = some o) :
    n ∈ names s.sections := by
  rw [own?_of_ne h] at ho
  rw [mem_names_iff, ho]
  rfl

theorem Distinct.nodup (h : s.Distinct) (ho : s.own? n = some o) : (names o).Nodup := by
  unfold own? at ho
  split at ho
  · cases ho
    exact h.defaults
  · exact h.options n o ho

theorem Distinct.nodup_getD (h : s.Distinct) (n : Text) :
    (names ((s.sections.lookup n).getD [])).Nodup := by
  cases hn : s.sections.lookup n with
  | none => exact List.nodup_nil
  | some o => exact h.options n o hn

theorem update_default (s : Settings) (f : Options → Options) :
    s.update defaultSection f = { s with defaults := f s.defaults } := if_pos rfl

theorem update_section (hs : s.Distinct) (h : n ≠ defaultSection) (hn : n ∈ names s.sections) :
    s.update n f = { s with sections := alter n (fun o => f (o.getD [])) s.sections } := by
  rw [update, if_neg h, ← map_if_eq_alter (g := f) hs.sections hn fun _ => rfl]

theorem names_update (s : Settings) (n : Text) (f : Options → Options) :
    names (s.update n f).sections = names s.sections := by
  unfold update
  split
  · rfl
  · rw [names, List.map_map]
    refine List.map_congr_left fun p _ => ?_
    simp only [Function.comp_apply]
    split <;> rfl

theorem own?_update_self (hs : s.Distinct) (ho : s.own? n = some o) :
    (s.update n f).own? n = some (f o) := by
  by_cases h : n = defaultSection
  · subst h
    rw [own?_default, Option.some.injEq] at ho
    rw [update_default, own?_default, ← ho]
  · rw [update_section hs h (mem_names_of_own? h ho), own?_of_ne h, lookup_alter_self]
    rw [own?_of_ne h] at ho
    rw [ho]
    rfl

theorem own?_update_of_ne (hs : s.Distinct) (ho : s.own? n = some o) {m : Text}
    (hm : n ≠ m) : (s.update n f).own? m = s.own? m := by
  by_cases h : n = defaultSection
  · subst h
    rw [update_default, own?_of_ne (Ne.symm hm), own?_of_ne (Ne.symm hm)]
  · rw [update_section hs h (mem_names_of_own? h ho)]
    unfold own?
    split
    · rfl
    · exact lookup_alter_of_ne hm ..

theorem Distinct.update (hs : s.Distinct) (ho : s.own? n = some o) (hf : (names (f o)).Nodup) :
    (s.update n f).Distinct := by
  have hnodup : ∀ m w, (s.update n f).own? m = some w → (names w).Nodup := by
    intro m w hw
    by_cases hm : n = m
    · subst hm
      rw [own?_update_self hs ho, Option.some.injEq] at hw
      rwa [← hw]
    · rw [own?_update_of_ne hs ho hm] at hw
      exact hs.nodup hw
  have hnames := names_update s n f
  have hdefault : defaultSection ∉ names (s.update n f).sections := by
    rw [hnames]
    exact hs.no_default
  refine ⟨hnames ▸ hs.sections, hnodup _ _ (own?_default _), fun m w hw => ?_, hdefault⟩
  refine hnodup m w ?_
  rwa [own?_of_ne]
  rintro rfl
  exact hdefault (mem_names_iff.mpr (by rw [hw]; rfl))

theorem sections_addSection (h : n ∉ names s.sections) :
    (s.addSection n).sections = alter n (fun o => o.getD []) s.sections := by
  rw [alter_of_notMem _ h]
  rfl

theorem own?_addSection_self (h : n ≠ defaultSection) (hn : n ∉ names s.sections) :
    (s.addSection n).own? n = some [] := by
  rw [own?_of_ne h, sections_addSection hn, lookup_alter_self, lookup_eq_none hn]
  rfl

theorem Distinct.addSection (hs : s.Distinct) (h : n ≠ defaultSection)
    (hn : n ∉ names s.sections) : (s.addSection n).Distinct := by
  have hsections := sections_addSection hn
  refine ⟨?_, hs.defaults, fun m o ho => ?_, fun hmem => ?_⟩
  · rw [hsections]
    exact nodup_alter hs.sections
  · rw [hsections] at ho
    by_cases hm : n = m
    · subst hm
      rw [lookup_alter_self, lookup_eq_none hn] at ho
      cases ho
      exact List.nodup_nil
    · rw [lookup_alter_of_ne hm] at ho
      exact hs.options m o ho
  · rw [hsections, mem_names_alter] at hmem
    rcases hmem with heq | hmem
    · exact h heq.symm
    · exact hs.no_default hmem

theorem mem_names_overlay (s u : Settings) (n : Text) :
    n ∈ names (s.overlay u).sections ↔ n ∈ names u.sections ∨ n ∈ names s.sections := by
  rw [overlay]
  exact mem_names_lay ..

theorem own?_overlay (hu : u.Distinct) (s : Settings) (n : Text) :
    (s.overlay u).own? n = ((u.own? n).map fun o => o.above (s.own? n)).or (s.own? n) := by
  unfold own?
  split
  · rfl
  · rw [overlay]
    exact lookup_lay hu.sections s.sections n

theorem Distinct.overlay (hs : s.Distinct) (hu : u.Distinct) : (s.overlay u).Distinct := by
  refine ⟨?_, Options.nodup_overlay hs.defaults _, fun n o ho => ?_, fun hmem => ?_⟩
  · rw [Settings.overlay]
    exact nodup_lay hs.sections _
  · rw [Settings.overlay, lookup_lay hu.sections] at ho
    cases hn : u.sections.lookup n with
    | none =>
      rw [hn] at ho
      exact hs.options n o ho
    | some w =>
      rw [hn, Option.map_some, Option.some_or, Option.some.injEq] at ho
      rw [← ho]
      exact Options.nodup_overlay (hs.nodup_getD n) w
  · rcases (mem_names_overlay s u _).mp hmem with hmem | hmem
    · exact hu.no_default hmem
    · exact hs.no_default hmem

/-- What is done to a section before it is laid over another may be done afterwards. -/
theorem overlay_update (hs : s.Distinct) (hu : u.Distinct) (ho : u.own? n = some o)
    (hf : ∀ below : Options, (names below).Nodup → below.overlay (f o) = f (below.overlay o)) :
    s.overlay (u.update n f) = (s.overlay u).update n f := by
  by_cases h : n = defaultSection
  · subst h
    rw [own?_default, Option.some.injEq] at ho
    subst ho
    rw [update_default, update_default, overlay, hf _ hs.defaults]
    rfl
  · have hmem := mem_names_of_own? h ho
    have hlaid := (mem_names_overlay s u n).mpr (.inl hmem)
    rw [own?_of_ne h] at ho
    rw [update_section hu h hmem, update_section (hs.overlay hu) h hlaid, overlay, overlay,
      lay_alter hu.sections]
    rw [ho]
    exact hf _ (hs.nodup_getD n)

theorem overlay_addSection (hu : u.Distinct) (hn : n ∉ names u.sections) :
    (s.overlay (u.addSection n)).sections =
      alter n (fun o => o.getD []) (s.overlay u).sections := by
  rw [overlay, sections_addSection hn, lay_alter hu.sections]
  · rfl
  · rw [lookup_eq_none hn]
    rfl

theorem overlay_addSection_of_mem (hu : u.Distinct) (hn : n ∉ names u.sections)
    (hs : n ∈ names s.sections) : s.overlay (u.addSection n) = s.overlay u := by
  rw [Settings.mk.injEq]
  refine ⟨rfl, ?_⟩
  rw [overlay_addSection hu hn]
  exact alter_eq_self ((mem_names_overlay s u n).mpr (.inr hs)) fun _ => rfl

theorem overlay_addSection_of_notMem (hu : u.Distinct) (hn : n ∉ names u.sections)
    (hs : n ∉ names s.sections) : s.overlay (u.addSection n) = (s.overlay u).addSection n := by
  rw [Settings.mk.injEq]
  refine ⟨rfl, ?_⟩
  rw [overlay_addSection hu hn, sections_addSection]
  rw [mem_names_overlay]
  tauto

end

def empty : Settings := ⟨[], []⟩

def trimmed (s : Settings) : Settings :=
  ⟨trimValues s.defaults, mapValues trimValues s.sections⟩

structure Tidy (s : Settings) : Prop extends s.Distinct where
  trimmed_eq : s.trimmed = s

theorem trimValues_overlay (o u : Options) :
    trimValues (o.overlay u) = (trimValues o).overlay (trimValues u) :=
  mapValues_lay (fun _ _ => rfl) o u

theorem trimmed_overlay (s u : Settings) :
    (s.overlay u).trimmed = s.trimmed.overlay u.trimmed := by
  rw [trimmed, overlay, trimValues_overlay, mapValues_lay]
  · rfl
  · intro o below
    rw [Options.above, trimValues_overlay]
    cases below <;> rfl

theorem trimValues_trimValues (o : Options) : trimValues (trimValues o) = trimValues o :=
  mapValues_mapValues (fun v => List.rdropWhile_idempotent Text.isBlank v) o

theorem trimmed_trimmed (s : Settings) : s.trimmed.trimmed = s.trimmed := by
  rw [trimmed, trimmed, trimValues_trimValues, mapValues_mapValues trimValues_trimValues]

theorem Tidy.overlay {s u : Settings} (hs : s.Tidy) (hu : u.Tidy) : (s.overlay u).Tidy :=
  ⟨hs.toDistinct.overlay hu.toDistinct, by rw [trimmed_overlay, hs.trimmed_eq, hu.trimmed_eq]⟩

theorem Distinct.tidy_trimmed {s : Settings} (hs : s.Distinct) : s.trimmed.Tidy := by
  refine ⟨⟨?_, ?_, fun n o ho => ?_, ?_⟩, trimmed_trimmed s⟩
  · rw [trimmed, names_mapValues]
    exact hs.sections
  · rw [trimmed]
    exact (names_mapValues Text.trimRight s.defaults).symm ▸ hs.defaults
  · rw [trimmed, lookup_mapValues] at ho
    obtain ⟨w, hw, rfl⟩ := Option.map_eq_some_iff.mp ho
    exact (names_mapValues Text.trimRight w).symm ▸ hs.options n w hw
  · rw [trimmed, names_mapValues]
    exact hs.no_default

theorem distinct_empty : empty.Distinct := by
  constructor <;> simp [empty]

end Settings

end DirectorySchema
