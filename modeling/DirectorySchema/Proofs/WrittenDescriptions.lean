import DirectorySchema.Proofs.WrittenTerms

/-!
# Written descriptions

A description that was read has a text of its own, and that is read as the same description,
but for lists with one member among the experimental terms: they come back as that member,
which is written alike.
-/

set_option autoImplicit false

namespace DirectorySchema

namespace Description

/-- A list with a single member becomes that member. -/
def Extension.settled : Extension → Extension
  | .many [s] => .single s
  | e => e

theorem Extension.values_settled (e : Extension) : e.settled.values = e.values := by
  unfold settled
  split <;> rfl

theorem Extension.settled_settled (e : Extension) : e.settled.settled = e.settled := by
  cases e with
  | single s => rfl
  | many ss => rcases ss with _ | ⟨s, _ | ⟨t, ss⟩⟩ <;> rfl

namespace Term

def printed : Term → Text
  | .names ns => keyed "NAME" (quotedNames ns)
  | .desc s => keyed "DESC" (inQuotes s)
  | .obsolete => "OBSOLETE"
  | .reference r w => keyed r.keyword w
  | .flag f => f.keyword
  | .extension keyword e => keyed keyword (quotedNames e.values)

end Term

namespace Terms

/-- The terms that are written, in their order. -/
def listed (k : Kind) (ts : Terms) : List Term :=
  (ts.names.map Term.names).toList ++ (ts.desc.map Term.desc).toList ++
    (if ts.obsolete then [.obsolete] else []) ++
    k.references.filterMap (fun r => (ts.reference? r).map (Term.reference r)) ++
    (k.flags.filter ts.flag).map Term.flag ++
    ts.extensions.map fun x => .extension x.1 x.2.settled

def Says (k : Kind) (ts : Terms) : Term → Prop
  | .names ns => ts.names = some ns
  | .desc s => ts.desc = some s
  | .obsolete => ts.obsolete = true
  | .reference r w => r ∈ k.references ∧ ts.reference? r = some w
  | .flag f => f ∈ k.flags ∧ ts.flag f = true
  | .extension keyword e => ∃ x ∈ ts.extensions, x.1 = keyword ∧ x.2.settled = e

theorem mem_listed {k : Kind} {ts : Terms} {t : Term} : t ∈ ts.listed k ↔ ts.Says k t := by
  cases t <;> simp [listed, Says]

theorem parts_eq (k : Kind) (ts : Terms) : ts.parts k = (ts.listed k).map Term.printed := by
  have hnames : (ts.names.map fun ns => keyed "NAME" (quotedNames ns)).toList =
      (ts.names.map Term.names).toList.map Term.printed := by
    cases ts.names <;> rfl
  have hdesc : (ts.desc.map fun s => keyed "DESC" (inQuotes s)).toList =
      (ts.desc.map Term.desc).toList.map Term.printed := by
    cases ts.desc <;> rfl
  have hobsolete : (if ts.obsolete then [("OBSOLETE" : Text)] else []) =
      (if ts.obsolete then [Term.obsolete] else []).map Term.printed := by
    cases ts.obsolete <;> rfl
  have hreferences : k.references.filterMap (fun r => (ts.reference? r).map (keyed r.keyword)) =
      (k.references.filterMap fun r => (ts.reference? r).map (Term.reference r)).map Term.printed := by
    rw [List.map_filterMap]
    congr 1
    funext r
    rw [Option.map_map]
    cases ts.reference? r <;> rfl
  have hflags : (k.flags.filter ts.flag).map Flag.keyword =
      ((k.flags.filter ts.flag).map Term.flag).map Term.printed := by
    rw [List.map_map]
    rfl
  have hextensions : (ts.extensions.map fun x => keyed x.1 (quotedNames x.2.values)) =
      (ts.extensions.map fun x => Term.extension x.1 x.2.settled).map Term.printed := by
    rw [List.map_map]
    apply List.map_congr_left
    intro x _
    change _ = keyed x.1 (quotedNames x.2.settled.values)
    rw [Extension.values_settled]
  rw [parts, listed, hnames, hdesc, hobsolete, hreferences, hflags, hextensions]
  simp only [List.map_append]

end Terms

theorem parentheses_unwords (w : Text) (ws : List Text) :
    ("( " : Text) ++ Text.unwords (w :: ws) ++ (" )" : Text) =
      '(' :: (((w :: ws).flatMap (' ' :: ·) ++ [' ']) ++ [')']) := by
  rw [Text.unwords_cons, List.flatMap_cons]
  simp

theorem membersText_spaced {vs : List Text} (h : ∀ v ∈ vs, '\'' ∉ v) :
    MembersText vs ((vs.map inQuotes).flatMap (' ' :: ·) ++ [' ']) := by
  induction vs with
  | nil => exact .nil Text.gap_space.blank
  | cons v vs ih =>
    rw [List.forall_mem_cons] at h
    have hcons := MembersText.cons Text.gap_space.blank h.1 (ih h.2)
    simpa only [List.map_cons, List.flatMap_cons, List.cons_append, List.nil_append,
      List.append_assoc] using hcons

theorem listText_quotedNames {v w : Text} {vs : List Text} (h : Quotable (v :: w :: vs)) :
    ListText (v :: w :: vs) (quotedNames (v :: w :: vs)) := by
  have hlength : 1 < (v :: w :: vs).length := by simp
  rw [quotedNames, if_pos hlength, List.map_cons, parentheses_unwords]
  exact .mk (by simp) (h.no_parenthesis hlength) (membersText_spaced h.no_quote)

theorem quotedNames_singleton (v : Text) : quotedNames [v] = inQuotes v := by
  rw [quotedNames, if_neg (by simp)]
  exact Text.joinWith_singleton _ _

theorem namesText_quotedNames {ns : List Text} (h : Quotable ns) :
    NamesText ns (quotedNames ns) := by
  rcases ns with _ | ⟨v, _ | ⟨w, vs⟩⟩
  · exact absurd rfl h.ne_nil
  · rw [quotedNames_singleton]
    exact .single (h.no_quote v (by simp))
  · exact .list (listText_quotedNames h)

theorem extensionText_settled {e : Extension} (h : Quotable e.values) :
    ExtensionText e.settled (quotedNames e.values) := by
  cases e with
  | single v =>
    rw [Extension.values, quotedNames_singleton]
    exact .single (h.no_quote v (by simp [Extension.values]))
  | many vs =>
    rcases vs with _ | ⟨v, _ | ⟨w, vs⟩⟩
    · exact absurd rfl h.ne_nil
    · rw [Extension.values, quotedNames_singleton]
      exact .single (h.no_quote v (by simp [Extension.values]))
    · exact .many (listText_quotedNames h)

theorem termText_printed {k : Kind} {ts : Terms} {t : Term} (ht : ts.Says k t)
    (h : t.Legible k) : TermText k t t.printed := by
  cases t with
  | names ns => exact .names Text.gap_space (namesText_quotedNames h)
  | desc s => exact .desc Text.gap_space h
  | obsolete => exact .obsolete
  | reference r w => exact .reference h.1 Text.gap_space h.2
  | flag f => exact .flag h
  | extension keyword e =>
    obtain ⟨x, -, -, rfl⟩ := ht
    have hvalue := extensionText_settled h.2.2
    rw [Extension.settled_settled] at hvalue
    exact .extension h.1 h.2.1 Text.gap_space hvalue

theorem termsText_printed {k : Kind} {ts : List Term} (h : ∀ t ∈ ts, TermText k t t.printed) :
    TermsText k ts ((ts.map Term.printed).flatMap (' ' :: ·) ++ [' ']) := by
  induction ts with
  | nil => exact .nil Text.gap_space.blank
  | cons t ts ih =>
    rw [List.forall_mem_cons] at h
    have hcons := TermsText.cons Text.gap_space h.1 (ih h.2)
    simpa only [List.map_cons, List.flatMap_cons, List.cons_append, List.nil_append,
      List.append_assoc] using hcons

theorem findSome?_eq {α β : Type} {l : List α} {p : α → Option β} {o : Option β}
    (h : ∀ w, o = some w ↔ ∃ a ∈ l, p a = some w) : l.findSome? p = o := by
  cases hl : l.findSome? p with
  | none =>
    rw [List.findSome?_eq_none_iff] at hl
    cases o with
    | none => rfl
    | some w =>
      obtain ⟨a, ha, hw⟩ := (h w).mp rfl
      rw [hl a ha] at hw
      cases hw
  | some w => exact ((h w).mpr (List.exists_of_findSome?_eq_some hl)).symm

namespace Terms

def settled (ts : Terms) : Terms :=
  { ts with extensions := ts.extensions.map fun x => (x.1, x.2.settled) }

theorem reference?_settled (ts : Terms) (r : Reference) :
    ts.settled.reference? r = ts.reference? r := by
  cases r <;> rfl

theorem flag_settled (ts : Terms) (f : Flag) : ts.settled.flag f = ts.flag f := by
  cases f <;> rfl

structure Admitted (k : Kind) (ts : Terms) : Prop where
  references : ∀ r w, ts.reference? r = some w → r ∈ k.references
  flags : ∀ f, ts.flag f = true → f ∈ k.flags

theorem foldl_listed {k : Kind} {ts : Terms} (h : ts.Admitted k) :
    (ts.listed k).foldl add {} = ts.settled := by
  apply eq_of_said
  · rw [foldl_option _ _ names_add, Option.or_none]
    apply findSome?_eq
    intro ns
    simp only [List.mem_reverse, Term.names?_eq_some_iff, exists_eq_right, mem_listed]
    rfl
  · rw [foldl_option _ _ desc_add, Option.or_none]
    apply findSome?_eq
    intro s
    simp only [List.mem_reverse, Term.desc?_eq_some_iff, exists_eq_right, mem_listed]
    rfl
  · rw [foldl_bool _ _ obsolete_add, Bool.or_false, Bool.eq_iff_iff, List.any_eq_true]
    simp only [beq_iff_eq, exists_eq_right, mem_listed]
    rfl
  · intro r
    rw [foldl_option _ _ (v := (·.reference? r)) (fun ts t => reference?_add ts t r),
      reference?_empty, Option.or_none, reference?_settled]
    apply findSome?_eq
    intro w
    simp only [List.mem_reverse, Term.reference?_eq_some_iff, exists_eq_right, mem_listed]
    exact ⟨fun hw => ⟨h.references r w hw, hw⟩, And.right⟩
  · intro f
    rw [flag_foldl, flag_settled, Bool.eq_iff_iff, List.any_eq_true]
    simp only [beq_iff_eq, exists_eq_right, mem_listed]
    exact ⟨And.right, fun hf => ⟨h.flags f hf, hf⟩⟩
  · rw [foldl_extensions, listed, List.filterMap_append, List.filterMap_eq_nil_iff.mpr]
    · simp [settled, List.filterMap_map, Function.comp_def, Term.extension?]
    · intro t ht
      cases t with
      | extension keyword e => simp at ht
      | _ => rfl

end Terms

section
variable {k : Kind} {terms : List Term} (h : ∀ t ∈ terms, t.Legible k)
include h

/-- Among terms that reading may give, whatever is said in the end was read. -/
theorem legible_of_said {t : Term} (ht : (terms.foldl Terms.add {}).Says k t) : t.Legible k := by
  cases t with
  | names ns =>
    obtain ⟨u, hu, hns⟩ := Terms.exists_of_said Terms.names_add rfl ht
    rw [Term.names?_eq_some_iff] at hns
    exact hns ▸ h u hu
  | desc s =>
    obtain ⟨u, hu, hs⟩ := Terms.exists_of_said Terms.desc_add rfl ht
    rw [Term.desc?_eq_some_iff] at hs
    exact hs ▸ h u hu
  | obsolete => trivial
  | reference r w => exact h _ (Terms.exists_of_said_reference ht.2)
  | flag f => exact ht.1
  | extension keyword e =>
    obtain ⟨x, hx, rfl, rfl⟩ := ht
    rw [Terms.foldl_extensions, List.nil_append, List.mem_filterMap] at hx
    obtain ⟨u, hu, hx⟩ := hx
    rw [Term.extension?_eq_some_iff] at hx
    rw [hx] at hu
    have hlegible := h _ hu
    rw [Term.Legible, ← Extension.values_settled] at hlegible
    exact hlegible

theorem admitted_foldl : (terms.foldl Terms.add {}).Admitted k := by
  constructor
  · intro r w hw
    exact (h _ (Terms.exists_of_said_reference hw)).1
  · intro f hf
    rw [Terms.flag_foldl, List.any_eq_true] at hf
    obtain ⟨u, hu, hf⟩ := hf
    rw [eq_of_beq hf] at hu
    exact h _ hu

end

theorem check_settled (k : Kind) (ts : Terms) : k.check ts.settled = k.check ts := by
  cases k <;> rfl

theorem listed_settled (k : Kind) (ts : Terms) : ts.settled.listed k = ts.listed k := by
  have hreferences : ts.settled.reference? = ts.reference? := funext ts.reference?_settled
  have hflags : ts.settled.flag = ts.flag := funext ts.flag_settled
  have hextensions : (ts.settled.extensions.map fun x => Term.extension x.1 x.2.settled) =
      ts.extensions.map fun x => Term.extension x.1 x.2.settled := by
    simp only [Terms.settled, List.map_map, Function.comp_def, Extension.settled_settled]
  rw [Terms.listed, Terms.listed, hreferences, hflags, hextensions]
  rfl

theorem text_settled {k : Kind} (oid : Text) (ts : Terms) :
    text (⟨oid, ts.settled⟩ : Description k) = text (⟨oid, ts⟩ : Description k) := by
  have hparts : ts.settled.parts k = ts.parts k := by
    rw [Terms.parts_eq, Terms.parts_eq, listed_settled]
  rw [text, text, hparts]

theorem parse_text {k : Kind} {oid : Text} {terms : List Term} (hoid : Text.isDotted oid = true)
    (hterms : ∀ t ∈ terms, t.Legible k) (hcheck : k.check (terms.foldl Terms.add {}) = .ok ()) :
    parse k (text (⟨oid, terms.foldl Terms.add {}⟩ : Description k)) =
      .ok ⟨oid, (terms.foldl Terms.add {}).settled⟩ := by
  have hwritten : TermsText k ((terms.foldl Terms.add {}).listed k)
      ((((terms.foldl Terms.add {}).listed k).map Term.printed).flatMap (' ' :: ·) ++ [' ']) := by
    apply termsText_printed
    intro t ht
    rw [Terms.mem_listed] at ht
    exact termText_printed ht (legible_of_said hterms ht)
  have hfold := Terms.foldl_listed (admitted_foldl hterms)
  have hparsed := parse_of_text (k := k) Text.blank_nil Text.blank_nil Text.gap_space.blank hoid
    hwritten (by rw [hfold, check_settled, hcheck])
  rw [hfold] at hparsed
  rw [text, parentheses_unwords, Terms.parts_eq, List.flatMap_cons]
  simpa using hparsed

/-- Whatever text a description was read from, its own text is read as the same description,
experimental lists with a single member aside, and that has the same text. -/
theorem written_and_read {k : Kind} {s : Text} {d : Description k} (h : parse k s = .ok d) :
    ∃ e, parse k d.text = .ok e ∧ e.oid = d.oid ∧
      e.terms = { d.terms with
        extensions := d.terms.extensions.map fun x => (x.1, x.2.settled) } ∧
      d.same e = true ∧ e.same d = true ∧ e.text = d.text := by
  have hread : d.WasRead := ⟨s, h⟩
  have hoid := hread.dotted
  obtain ⟨inner, c, r, -, -, hbody⟩ := parse_eq_ok_iff.mp h
  obtain ⟨-, terms, hterms, hcheck, rfl⟩ := readBody_eq_ok_iff.mp hbody
  have htext := text_settled (k := k) (Text.wordFrom c r).1 (terms.foldl Terms.add {})
  refine ⟨_, parse_text hoid (readTerms_legible hterms) hcheck, rfl, rfl, ?_, ?_, htext⟩
  · simp [same, Kind.comparable, htext]
  · simp [same, Kind.comparable, htext]

/-- A list with one member, white space of other kinds, none after a string, and a term said
twice. -/
theorem crowded_written_and_read :
    let s : Text := "(2.5.4.3\tX-A ('one') DESC 'x) y'NAME ( 'cn''commonName' ) X-A'b ('p' 'q')\nSUP at SUP name )"
    let d : AttributeType := ⟨"2.5.4.3", {
      names := some ["cn", "commonName"]
      desc := some "x) y"
      sup := some "name"
      extensions := [("X-A", .many ["one"]), ("X-A'b", .many ["p", "q"])] }⟩
    parse .attributeType s = .ok d ∧ d.text ≠ s ∧
      ∃ e, parse .attributeType d.text = .ok e ∧ e.oid = d.oid ∧
        e.terms = { d.terms with
          extensions := [("X-A", .single "one"), ("X-A'b", .many ["p", "q"])] } ∧
        e.text = d.text := by
  intro s d
  have hs : parse .attributeType s = .ok d := by decide +kernel
  obtain ⟨e, he, hoid, hterms, -, -, htext⟩ := written_and_read hs
  exact ⟨hs, by decide +kernel, e, he, hoid, hterms, htext⟩

end Description

end DirectorySchema
