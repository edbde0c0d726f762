import DirectorySchema.Text.Basic
import Mathlib.Data.List.Basic

/-!
# Overlays

Lists of values under names, in the order in which the names came. A list is altered at one
name, which keeps its place, and laid over another by altering that at each of its names in
turn. Altering the upper list is then altering the result.
-/

set_option autoImplicit false

namespace DirectorySchema.Overlay

variable {α β : Type}

abbrev names (l : List (Text × α)) : List Text := l.map Prod.fst

/-- Gives a name the value that is made of the one it has, if it has one. A new name comes last. -/
def alter (name : Text) (f : Option α → α) : List (Text × α) → List (Text × α)
  | [] => [(name, f none)]
  | (n, v) :: rest => if n = name then (n, f (some v)) :: rest else (n, v) :: alter name f rest

/-- The first list with the second laid over it. A value of the second is combined with the one
that the first has under the name. -/
def lay (combine : α → Option α → α) (l u : List (Text × α)) : List (Text × α) :=
  u.foldl (fun l p => alter p.1 (combine p.2) l) l

theorem alter_cons_self (n : Text) (f : Option α → α) (v : α) (l : List (Text × α)) :
    alter n f ((n, v) :: l) = (n, f (some v)) :: l := by
  rw [alter, if_pos rfl]

theorem alter_cons_of_ne {m n : Text} (h : m ≠ n) (f : Option α → α) (v : α)
    (l : List (Text × α)) : alter n f ((m, v) :: l) = (m, v) :: alter n f l := by
  rw [alter, if_neg h]

theorem lookup_cons_of_ne {m n : Text} (h : m ≠ n) (v : α) (l : List (Text × α)) :
    ((m, v) :: l).lookup n = l.lookup n := by
  have hbeq : (n == m) = false := by simpa using h.symm
  rw [List.lookup_cons, hbeq]

theorem mem_names_iff {l : List (Text × α)} {n : Text} :
    n ∈ names l ↔ (l.lookup n).isSome = true := by
  simp only [names, List.mem_map, List.lookup_isSome_iff, beq_iff_eq]
  exact exists_congr fun p => and_congr_right fun _ => eq_comm

theorem lookup_eq_none {l : List (Text × α)} {n : Text} (h : n ∉ names l) : l.lookup n = none := by
  rwa [← Option.not_isSome_iff_eq_none, ← mem_names_iff]

theorem mem_of_lookup {l : List (Text × α)} {n : Text} {v : α} (h : l.lookup n = some v) :
    (n, v) ∈ l := by
  obtain ⟨front, back, rfl, -⟩ := List.lookup_eq_some_iff.mp h
  simp

theorem lookup_alter_self (n : Text) (f : Option α → α) (l : List (Text × α)) :
    (alter n f l).lookup n = some (f (l.lookup n)) := by
  induction l with
  | nil => simp [alter]
  | cons p l ih =>
    obtain ⟨m, v⟩ := p
    by_cases h : m = n
    · subst h
      rw [alter_cons_self, List.lookup_cons_self, List.lookup_cons_self]
    · rw [alter_cons_of_ne h, lookup_cons_of_ne h, lookup_cons_of_ne h, ih]

theorem lookup_alter_of_ne {m n : Text} (h : m ≠ n) (f : Option α → α) (l : List (Text × α)) :
    (alter m f l).lookup n = l.lookup n := by
  induction l with
  | nil => rw [alter, lookup_cons_of_ne h]
  | cons p l ih =>
    obtain ⟨k, v⟩ := p
    by_cases hk : k = m
    · subst hk
      rw [alter_cons_self, lookup_cons_of_ne h, lookup_cons_of_ne h]
    · rw [alter_cons_of_ne hk]
      by_cases hn : k = n
      · subst hn
        rw [List.lookup_cons_self, List.lookup_cons_self]
      · rw [lookup_cons_of_ne hn, lookup_cons_of_ne hn, ih]

theorem mem_names_alter {m n : Text} (f : Option α → α) (l : List (Text × α)) :
    n ∈ names (alter m f l) ↔ n = m ∨ n ∈ names l := by
  rw [mem_names_iff, mem_names_iff]
  by_cases h : m = n
  · subst h
    simp [lookup_alter_self]
  · simp [lookup_alter_of_ne h, Ne.symm h]

theorem nodup_alter {n : Text} {f : Option α → α} {l : List (Text × α)} (h : (names l).Nodup) :
    (names (alter n f l)).Nodup := by
  induction l with
  | nil => simp [alter]
  | cons p l ih =>
    obtain ⟨m, v⟩ := p
    obtain ⟨hm, hl⟩ := List.nodup_cons.mp h
    by_cases hn : m = n
    · subst hn
      rwa [alter_cons_self]
    · rw [alter_cons_of_ne hn]
      refine List.nodup_cons.mpr ⟨fun hmem => ?_, ih hl⟩
      rcases (mem_names_alter f l).mp hmem with heq | hmem
      · exact hn heq
      · exact hm hmem

theorem alter_congr {n : Text} {f g : Option α → α} {l : List (Text × α)}
    (h : f (l.lookup n) = g (l.lookup n)) : alter n f l = alter n g l := by
  induction l with
  | nil => exact congrArg (fun v => [(n, v)]) h
  | cons p l ih =>
    obtain ⟨m, v⟩ := p
    by_cases hm : m = n
    · subst hm
      rw [List.lookup_cons_self] at h
      rw [alter_cons_self, alter_cons_self, h]
    · rw [lookup_cons_of_ne hm] at h
      rw [alter_cons_of_ne hm, alter_cons_of_ne hm, ih h]

theorem alter_alter (n : Text) (f g : Option α → α) (l : List (Text × α)) :
    alter n f (alter n g l) = alter n (fun v => f (some (g v))) l := by
  induction l with
  | nil => rw [alter, alter_cons_self, alter]
  | cons p l ih =>
    obtain ⟨m, v⟩ := p
    by_cases h : m = n
    · subst h
      rw [alter_cons_self, alter_cons_self, alter_cons_self]
    · rw [alter_cons_of_ne h, alter_cons_of_ne h, alter_cons_of_ne h, ih]

/-- Two names are altered in either order, if one of them is there already. -/
theorem alter_comm {m n : Text} (h : m ≠ n) (f g : Option α → α) {l : List (Text × α)}
    (hn : n ∈ names l) : alter n f (alter m g l) = alter m g (alter n f l) := by
  induction l with
  | nil => simp at hn
  | cons p l ih =>
    obtain ⟨k, v⟩ := p
    by_cases hm : k = m
    · subst hm
      rw [alter_cons_self, alter_cons_of_ne h, alter_cons_of_ne h, alter_cons_self]
    · by_cases hkn : k = n
      · subst hkn
        rw [alter_cons_of_ne hm, alter_cons_self, alter_cons_self, alter_cons_of_ne hm]
      · have hmem : n ∈ names l := by simpa [Ne.symm hkn] using hn
        rw [alter_cons_of_ne hm, alter_cons_of_ne hkn, alter_cons_of_ne hkn,
          alter_cons_of_ne hm, ih hmem]

theorem alter_of_notMem {n : Text} (f : Option α → α) {l : List (Text × α)} (h : n ∉ names l) :
    alter n f l = l ++ [(n, f none)] := by
  induction l with
  | nil => rfl
  | cons p l ih =>
    obtain ⟨m, v⟩ := p
    simp only [names, List.map_cons, List.mem_cons, not_or] at h
    rw [alter_cons_of_ne (Ne.symm h.1), ih h.2, List.cons_append]

theorem alter_eq_self {n : Text} {f : Option α → α} {l : List (Text × α)} (h : n ∈ names l)
    (hf : ∀ v, f (some v) = v) : alter n f l = l := by
  induction l with
  | nil => simp at h
  | cons p l ih =>
    obtain ⟨m, v⟩ := p
    by_cases hm : m = n
    · subst hm
      rw [alter_cons_self, hf]
    · have hmem : n ∈ names l := by simpa [Ne.symm hm] using h
      rw [alter_cons_of_ne hm, ih hmem]

theorem map_if_eq_alter {n : Text} {g : α → α} {f : Option α → α} {l : List (Text × α)}
    (hl : (names l).Nodup) (hn : n ∈ names l) (hf : ∀ v, f (some v) = g v) :
    l.map (fun p => if p.1 = n then (p.1, g p.2) else p) = alter n f l := by
  induction l with
  | nil => simp at hn
  | cons p l ih =>
    obtain ⟨m, v⟩ := p
    obtain ⟨hm, hl⟩ := List.nodup_cons.mp hl
    rw [List.map_cons]
    by_cases h : m = n
    · subst h
      have hrest : l.map (fun p => if p.1 = m then (p.1, g p.2) else p) = l := by
        refine (List.map_congr_left fun p hp => ?_).trans (List.map_id l)
        exact if_neg fun heq => hm (List.mem_map.mpr ⟨p, hp, heq⟩)
      rw [alter_cons_self, hf, hrest, if_pos rfl]
    · have hmem : n ∈ names l := by simpa [Ne.symm h] using hn
      rw [alter_cons_of_ne h, ih hl hmem, if_neg h]

section
variable {combine : α → Option α → α}

theorem lay_cons (p : Text × α) (l u : List (Text × α)) :
    lay combine l (p :: u) = lay combine (alter p.1 (combine p.2) l) u := rfl

theorem mem_names_lay {n : Text} (l u : List (Text × α)) :
    n ∈ names (lay combine l u) ↔ n ∈ names u ∨ n ∈ names l := by
  induction u generalizing l with
  | nil => simp [lay]
  | cons p u ih =>
    rw [lay_cons, ih, mem_names_alter]
    simp only [names, List.map_cons, List.mem_cons]
    tauto

theorem nodup_lay {l : List (Text × α)} (h : (names l).Nodup) (u : List (Text × α)) :
    (names (lay combine l u)).Nodup := by
  induction u generalizing l with
  | nil => exact h
  | cons p u ih => exact ih (nodup_alter h)

theorem lookup_lay_of_notMem {n : Text} {u : List (Text × α)} (h : n ∉ names u)
    (l : List (Text × α)) : (lay combine l u).lookup n = l.lookup n := by
  induction u generalizing l with
  | nil => rfl
  | cons p u ih =>
    simp only [names, List.map_cons, List.mem_cons, not_or] at h
    rw [lay_cons, ih h.2, lookup_alter_of_ne (Ne.symm h.1)]

theorem lookup_lay {u : List (Text × α)} (hu : (names u).Nodup) (l : List (Text × α)) (n : Text) :
    (lay combine l u).lookup n =
      ((u.lookup n).map fun v => combine v (l.lookup n)).or (l.lookup n) := by
  induction u generalizing l with
  | nil => rfl
  | cons p u ih =>
    obtain ⟨m, v⟩ := p
    obtain ⟨hm, hu⟩ := List.nodup_cons.mp hu
    rw [lay_cons]
    by_cases h : m = n
    · subst h
      rw [lookup_lay_of_notMem hm, lookup_alter_self, List.lookup_cons_self]
      rfl
    · rw [ih hu, lookup_alter_of_ne h, lookup_cons_of_ne h]

theorem lookup_lay_last (l u : List (Text × α)) (n : Text) :
    (lay (fun v _ => v) l u).lookup n = (u.reverse.lookup n).or (l.lookup n) := by
  induction u generalizing l with
  | nil => rfl
  | cons p u ih =>
    obtain ⟨m, v⟩ := p
    rw [lay_cons, ih, List.reverse_cons, List.lookup_append, Option.or_assoc]
    congr 1
    by_cases h : m = n
    · subst h
      rw [lookup_alter_self, List.lookup_cons_self]
      rfl
    · rw [lookup_alter_of_ne h, lookup_cons_of_ne h]
      rfl

theorem lay_alter_below {n : Text} (f : Option α → α) {l u : List (Text × α)} (hn : n ∈ names l)
    (hu : n ∉ names u) : lay combine (alter n f l) u = alter n f (lay combine l u) := by
  induction u generalizing l with
  | nil => rfl
  | cons p u ih =>
    simp only [names, List.map_cons, List.mem_cons, not_or] at hu
    rw [lay_cons, lay_cons, ← alter_comm (Ne.symm hu.1) f (combine p.2) hn,
      ih ((mem_names_alter _ _).mpr (.inr hn)) hu.2]

/-- Altering the upper list at a name alters the result, if it comes to the same whether a value
is altered before it is combined with the one below or after. -/
theorem lay_alter {n : Text} {f : Option α → α} {l u : List (Text × α)} (hu : (names u).Nodup)
    (hf : combine (f (u.lookup n)) (l.lookup n) =
      f (((u.lookup n).map fun v => combine v (l.lookup n)).or (l.lookup n))) :
    lay combine l (alter n f u) = alter n f (lay combine l u) := by
  induction u generalizing l with
  | nil => exact alter_congr hf
  | cons p u ih =>
    obtain ⟨m, v⟩ := p
    obtain ⟨hm, hu⟩ := List.nodup_cons.mp hu
    by_cases h : m = n
    · subst h
      rw [List.lookup_cons_self] at hf
      have hfirst : alter m (combine (f (some v))) l = alter m f (alter m (combine v) l) := by
        rw [alter_alter]
        exact alter_congr hf
      rw [alter_cons_self, lay_cons, lay_cons, hfirst,
        lay_alter_below f ((mem_names_alter _ _).mpr (.inl rfl)) hm]
    · rw [lookup_cons_of_ne h, ← lookup_alter_of_ne h (combine v) l] at hf
      rw [alter_cons_of_ne h, lay_cons, lay_cons, ih hu hf]

end

def mapValues (g : α → β) (l : List (Text × α)) : List (Text × β) := l.map fun p => (p.1, g p.2)

theorem names_mapValues (g : α → β) (l : List (Text × α)) : names (mapValues g l) = names l := by
  rw [mapValues, names, List.map_map]
  rfl

theorem lookup_mapValues (g : α → β) (l : List (Text × α)) (n : Text) :
    (mapValues g l).lookup n = (l.lookup n).map g := by
  induction l with
  | nil => rfl
  | cons p l ih =>
    obtain ⟨m, v⟩ := p
    rw [mapValues, List.map_cons, ← mapValues, List.lookup_cons, List.lookup_cons, ih]
    cases n == m <;> rfl

theorem mapValues_mapValues {g : α → α} (h : ∀ v, g (g v) = g v) (l : List (Text × α)) :
    mapValues g (mapValues g l) = mapValues g l := by
  rw [mapValues, mapValues, List.map_map]
  refine List.map_congr_left fun p _ => ?_
  simp only [Function.comp_apply, h]

theorem mapValues_alter {g : α → β} {f : Option α → α} {f' : Option β → β}
    (h : ∀ v, g (f v) = f' (v.map g)) (n : Text) (l : List (Text × α)) :
    mapValues g (alter n f l) = alter n f' (mapValues g l) := by
  induction l with
  | nil => exact congrArg (fun v => [(n, v)]) (h none)
  | cons p l ih =>
    obtain ⟨m, v⟩ := p
    by_cases hm : m = n
    · subst hm
      rw [alter_cons_self, mapValues, List.map_cons, h]
      exact (alter_cons_self ..).symm
    · rw [alter_cons_of_ne hm, mapValues, List.map_cons, ← mapValues, ih]
      exact (alter_cons_of_ne hm ..).symm

theorem mapValues_lay {g : α → α} {combine : α → Option α → α}
    (h : ∀ v w, g (combine v w) = combine (g v) (w.map g)) (l u : List (Text × α)) :
    mapValues g (lay combine l u) = lay combine (mapValues g l) (mapValues g u) := by
  induction u generalizing l with
  | nil => rfl
  | cons p u ih =>
    rw [lay_cons, ih, mapValues_alter (h p.2)]
    rfl

end DirectorySchema.Overlay
