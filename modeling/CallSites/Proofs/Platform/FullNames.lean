import CallSites.Proofs.Platform.NamedTypes
import CallSites.Proofs.Platform.Profiles

/-!
# Types under their full names

The table of named types is written in three goes: the void type, the types that the profile lists,
and the two cache cell types that are not generic.  A type that is written later takes the place of
an earlier one of the same full name, so under a full name one finds the non-generic cache cell
type, or else the type of binders, or else a listed type, or else the void type (`find?_types`).

An accepted profile lists no full name twice.  Nothing keeps it from listing one that is also that of
a cache cell type or of the void type, or from giving both cache cell types one name, and then a type
is lost.  `finds_all_iff` says which accepted profiles lose no type.
-/

namespace CallSites

lemma qualified_inj {ns name name' : String} (h : qualified ns name = qualified ns name') :
    name = name' := by
  unfold qualified at h
  split at h
  · exact h
  · simpa using h

/-- The full names in a profile are apart: none is that of the void type, the cache cell types have
different ones, and a listed type that has one of theirs is the same class in all but identity. -/
def Profile.NamesApart (p : Profile) : Prop :=
  (∀ t ∈ p.types, t.fullName ≠ "void") ∧
  ∀ c ∈ p.cell, c.binder ≠ c.base ∧ ∀ name ∈ [c.base, c.binder],
    qualified c.ns name ≠ "void" ∧
    ∀ t ∈ p.types, t.fullName = qualified c.ns name →
      t.ns = c.ns ∧ t.name = name ∧ t.typeKind = .reference

instance (p : Profile) : Decidable p.NamesApart := inferInstanceAs (Decidable (_ ∧ _))

namespace Platform

variable {p : Platform} {prof : Profile} {name : String}

/-! ## What the table holds -/

/-- The listed type that is written last under a full name. -/
def listed? (p : Platform) (name : String) : Option Named :=
  (p.profile.types.zipIdx.reverse.find? fun e => e.1.fullName = name).map fun e =>
    ⟨.listed e.2, e.1.ns, e.1.name, e.1.typeKind⟩

/-- The cache cell type that is written last under a full name, of those that are not generic. -/
def cellNamed? (p : Platform) (name : String) : Option Named :=
  (p.cell?.filter fun t => t.text = name).or (p.binder?.filter fun t => t.text = name)

lemma find?_cells (p : Platform) (name : String) :
    (((p.binder?.toList ++ p.cell?.toList).map fun t => (t.text, Ty.named t)).reverse.find?
        fun e => e.1 = name).map Prod.snd = (p.cellNamed? name).map Ty.named := by
  rcases hc : p.profile.cell with _ | c
  · simp [cellNamed?, binder?, cell?, hc]
  · simp only [cellNamed?, binder?, cell?, hc, Option.map_some, Option.toList_some,
      List.singleton_append, List.map_cons, List.map_nil, List.reverse_cons, List.reverse_nil,
      List.nil_append, List.find?_cons, List.find?_nil, Option.filter_some]
    by_cases hcell : Named.text ⟨.cell, c.ns, c.base, .reference⟩ = name
    · simp [hcell]
    · by_cases hbinder : Named.text ⟨.binder, c.ns, c.binder, .reference⟩ = name <;>
        simp [hcell, hbinder]

lemma find?_listed (p : Platform) (name : String) :
    (((p.profile.types.zipIdx.map fun e =>
        (e.1.fullName, Ty.named ⟨.listed e.2, e.1.ns, e.1.name, e.1.typeKind⟩)).reverse.find?
          fun e => e.1 = name).map Prod.snd) = (p.listed? name).map Ty.named := by
  rw [← List.map_reverse, List.find?_map, listed?, Option.map_map, Option.map_map]
  rfl

/-- **What stands under a full name**: what is written last goes before everything else. -/
lemma find?_types (p : Platform) (name : String) :
    p.types.find? name =
      (((p.cellNamed? name).or (p.listed? name)).map Ty.named).or
        (if "void" = name then some .void else none) := by
  have hvoid : ([(Ty.void.text, Ty.void)].find? fun e => e.1 = name).map Prod.snd =
      if "void" = name then some Ty.void else none := by
    have htext : Ty.void.text = "void" := rfl
    by_cases hname : "void" = name <;> simp [htext, hname]
  simp only [types, OrderedMap.find?_ofList, List.reverse_append, List.reverse_cons,
    List.find?_append, Option.map_or, p.find?_cells, p.find?_listed, hvoid, Option.or_assoc]

lemma lookup_of_find? {x : Ty} (h : p.types.find? name = some x) : p.lookup name = .ok x := by
  simp only [lookup, h]
  rfl

lemma cellNamed?_eq_some {n : Named} (h : p.cellNamed? name = some n) :
    ∃ c ∈ p.profile.cell, ∃ own ∈ [c.base, c.binder], name = qualified c.ns own ∧ n.ns = c.ns ∧
      n.name = own ∧ n.kind = .reference := by
  rw [cellNamed?, Option.or_eq_some_iff] at h
  rcases h with h | ⟨-, h⟩
  · obtain ⟨hn, hname⟩ := Option.filter_eq_some_iff.mp h
    obtain ⟨c, hc, rfl⟩ := Option.map_eq_some_iff.mp hn
    exact ⟨c, hc, c.base, by simp, (of_decide_eq_true hname).symm, rfl, rfl, rfl⟩
  · obtain ⟨hn, hname⟩ := Option.filter_eq_some_iff.mp h
    obtain ⟨c, hc, rfl⟩ := Option.map_eq_some_iff.mp hn
    exact ⟨c, hc, c.binder, by simp, (of_decide_eq_true hname).symm, rfl, rfl, rfl⟩

lemma listed?_eq_some {n : Named} (h : p.listed? name = some n) :
    ∃ t ∈ p.profile.types, t.fullName = name ∧ n.ns = t.ns ∧ n.name = t.name ∧
      n.kind = t.typeKind := by
  obtain ⟨⟨t, i⟩, hfind, rfl⟩ := Option.map_eq_some_iff.mp h
  have hmem : (t, i) ∈ p.profile.types.zipIdx :=
    List.mem_reverse.mp (List.mem_of_find?_eq_some hfind)
  have hname : t.fullName = name := by simpa using List.find?_some hfind
  exact ⟨t, List.fst_mem_of_mem_zipIdx hmem, hname, rfl, rfl, rfl⟩

lemma listed?_eq_none_iff : p.listed? name = none ↔ ∀ t ∈ p.profile.types, t.fullName ≠ name := by
  rw [listed?, Option.map_eq_none_iff, List.find?_eq_none]
  constructor
  · intro h t ht
    obtain ⟨i, hi, rfl⟩ := List.getElem_of_mem ht
    have hmem : (p.profile.types[i], i) ∈ p.profile.types.zipIdx.reverse := by
      simp [List.mk_mem_zipIdx_iff_getElem?]
    simpa using h _ hmem
  · intro h e he
    simpa using h e.1 (List.fst_mem_of_mem_zipIdx (List.mem_reverse.mp he))

/-! ## Looking up -/

/-- Every type of a profile is found under its own full name. -/
@[mk_iff]
structure FindsAll (p : Platform) (prof : Profile) : Prop where
  /-- A listed type is found with its namespace, its name and its kind. -/
  listed : ∀ t ∈ prof.types, ∃ n : Named, p.lookup t.fullName = .ok (.named n) ∧
    n.ns = t.ns ∧ n.name = t.name ∧ n.kind = t.typeKind
  void : p.lookup "void" = .ok .void
  binder : ∀ c ∈ prof.cell, ∃ x, p.binder = .ok x ∧ p.lookup (qualified c.ns c.binder) = .ok x
  cell : ∀ c ∈ prof.cell, ∃ x, p.cell = .ok x ∧ p.lookup (qualified c.ns c.base) = .ok x

lemma cell?_of_mem {c : CellSpec} (hc : c ∈ p.profile.cell) :
    p.cell? = some ⟨.cell, c.ns, c.base, .reference⟩ := by
  rw [cell?, Option.mem_def.mp hc, Option.map_some]

lemma binder?_of_mem {c : CellSpec} (hc : c ∈ p.profile.cell) :
    p.binder? = some ⟨.binder, c.ns, c.binder, .reference⟩ := by
  rw [binder?, Option.mem_def.mp hc, Option.map_some]

lemma cell_of_mem {c : CellSpec} (hc : c ∈ p.profile.cell) :
    p.cell = .ok (.named ⟨.cell, c.ns, c.base, .reference⟩) := by
  rw [cell, cell?_of_mem hc]
  rfl

lemma binder_of_mem {c : CellSpec} (hc : c ∈ p.profile.cell) :
    p.binder = .ok (.named ⟨.binder, c.ns, c.binder, .reference⟩) := by
  rw [binder, binder?_of_mem hc]
  rfl

/-- Nothing goes before the cache cell type that is not generic. -/
lemma lookup_cell {c : CellSpec} (hc : c ∈ p.profile.cell) :
    p.lookup (qualified c.ns c.base) = .ok (.named ⟨.cell, c.ns, c.base, .reference⟩) := by
  apply lookup_of_find?
  simp [find?_types, cellNamed?, cell?_of_mem hc, Named.text]

/-- Only the cache cell type that is not generic goes before the type of binders. -/
lemma lookup_binder {c : CellSpec} (hc : c ∈ p.profile.cell) (hne : c.binder ≠ c.base) :
    p.lookup (qualified c.ns c.binder) = .ok (.named ⟨.binder, c.ns, c.binder, .reference⟩) := by
  have hfull : qualified c.ns c.base ≠ qualified c.ns c.binder :=
    fun h => hne (qualified_inj h).symm
  apply lookup_of_find?
  simp [find?_types, cellNamed?, cell?_of_mem hc, binder?_of_mem hc, Named.text, hfull]

/-- Everything goes before the void type. -/
lemma lookup_void (h : p.profile.NamesApart) : p.lookup "void" = .ok .void := by
  have hcell : p.cellNamed? "void" = none := by
    by_contra hne
    obtain ⟨n, hn⟩ := Option.ne_none_iff_exists'.mp hne
    obtain ⟨c, hc, own, hown, hvoid, -⟩ := cellNamed?_eq_some hn
    exact ((h.2 c hc).2 own hown).1 hvoid.symm
  have hlisted : p.listed? "void" = none := listed?_eq_none_iff.mpr h.1
  apply lookup_of_find?
  simp [find?_types, hcell, hlisted]

/-- A cache cell type that goes before a listed type has the same data. -/
lemma lookup_listed (h : p.profile.NamesApart)
    (hnodup : (p.profile.types.map TypeSpec.fullName).Nodup) {t : TypeSpec}
    (ht : t ∈ p.profile.types) :
    ∃ n : Named, p.lookup t.fullName = .ok (.named n) ∧
      n.ns = t.ns ∧ n.name = t.name ∧ n.kind = t.typeKind := by
  rcases hcell : p.cellNamed? t.fullName with _ | n
  · obtain ⟨n, hn⟩ : ∃ n, p.listed? t.fullName = some n := by
      rw [← Option.ne_none_iff_exists', Ne, listed?_eq_none_iff]
      exact fun hnone => hnone t ht rfl
    obtain ⟨t', ht', hfull, hsame⟩ := listed?_eq_some hn
    obtain rfl : t' = t := List.inj_on_of_nodup_map hnodup ht' ht hfull
    refine ⟨n, lookup_of_find? ?_, hsame⟩
    simp [find?_types, hcell, hn]
  · obtain ⟨c, hc, own, hown, hfull, hns, hname, hkind⟩ := cellNamed?_eq_some hcell
    obtain ⟨hns', hname', hkind'⟩ := ((h.2 c hc).2 own hown).2 t ht hfull
    refine ⟨n, lookup_of_find? ?_, hns.trans hns'.symm, hname.trans hname'.symm,
      hkind.trans hkind'.symm⟩
    simp [find?_types, hcell]

/-- Types that are found under their names have names that are apart, as a look-up has one answer. -/
lemma FindsAll.namesApart (h : p.FindsAll p.profile) : p.profile.NamesApart := by
  refine ⟨fun t ht hvoid => ?_, fun c hc => ?_⟩
  · obtain ⟨n, hn, -⟩ := h.listed t ht
    rw [hvoid, h.void] at hn
    cases hn
  have hne : c.binder ≠ c.base := by
    intro heq
    obtain ⟨x, hx, hlookup⟩ := h.binder c hc
    rw [heq, lookup_cell hc] at hlookup
    rw [binder_of_mem hc, ← hlookup] at hx
    cases hx
  have hown : ∀ own ∈ [c.base, c.binder], ∃ id,
      p.lookup (qualified c.ns own) = .ok (.named ⟨id, c.ns, own, .reference⟩) := by
    simp only [List.forall_mem_cons, List.not_mem_nil, false_imp_iff, implies_true, and_true]
    exact ⟨⟨_, lookup_cell hc⟩, ⟨_, lookup_binder hc hne⟩⟩
  refine ⟨hne, fun own hmem => ?_⟩
  obtain ⟨id, hid⟩ := hown own hmem
  refine ⟨fun hvoid => ?_, fun t ht hfull => ?_⟩
  · rw [hvoid, h.void] at hid
    cases hid
  · obtain ⟨n, hn, hns, hname, hkind⟩ := h.listed t ht
    rw [hfull, hid] at hn
    cases hn
    exact ⟨hns.symm, hname.symm, hkind.symm⟩

lemma findsAll_of_namesApart (h : p.profile.NamesApart)
    (hnodup : (p.profile.types.map TypeSpec.fullName).Nodup) : p.FindsAll p.profile where
  listed _ ht := lookup_listed h hnodup ht
  void := lookup_void h
  binder c hc := ⟨_, binder_of_mem hc, lookup_binder hc (h.2 c hc).1⟩
  cell _ hc := ⟨_, cell_of_mem hc, lookup_cell hc⟩

/-! ## Accepted profiles -/

/-- A kind that is filled in is that of a class, as no kind is. -/
lemma typeKind_typeDefaults (t : TypeSpec) : (Profile.typeDefaults t).typeKind = t.typeKind := by
  by_cases hkind : t.kind = "" <;> simp [Profile.typeDefaults, TypeSpec.typeKind, hkind]

/-- Defaults touch neither names nor kinds. -/
lemma namesApart_withDefaults : prof.withDefaults.NamesApart ↔ prof.NamesApart := by
  simp only [Profile.NamesApart, Profile.withDefaults, List.forall_mem_map, Option.forall_mem_map,
    typeKind_typeDefaults]
  rfl

lemma findsAll_withDefaults : p.FindsAll prof.withDefaults ↔ p.FindsAll prof := by
  simp only [findsAll_iff, Profile.withDefaults, List.forall_mem_map, Option.forall_mem_map,
    typeKind_typeDefaults]
  rfl

lemma nodup_fullNames (h : prof.violations = []) : (prof.types.map TypeSpec.fullName).Nodup := by
  rw [Profile.violations, List.append_eq_nil_iff] at h
  exact ((Profile.typeViolations_eq_nil_iff 0 [] prof.types).mp h.2).2

/-- **Which accepted profiles lose no type.**  A platform always finds the cache cell type that is
not generic.  It finds every type of its profile under the type's full name, with the namespace, name
and kind of a listed type, just when the names in the profile are apart. -/
theorem finds_all_iff (h : Platform.ofProfile prof = .ok p) :
    (∀ c ∈ prof.cell, ∃ x, p.cell = .ok x ∧ p.lookup (qualified c.ns c.base) = .ok x) ∧
      (p.FindsAll prof ↔ prof.NamesApart) := by
  obtain ⟨hrules, rfl⟩ := ofProfile_eq_ok.mp h
  have hnodup : (prof.withDefaults.types.map TypeSpec.fullName).Nodup :=
    nodup_fullNames (prof.violations_withDefaults.trans hrules)
  refine ⟨fun c hc => ?_, ?_⟩
  · have hmem : Profile.cellDefaults c ∈ prof.withDefaults.cell := Option.mem_map_of_mem _ hc
    have hlookup := lookup_cell (p := ⟨prof.withDefaults⟩) hmem
    exact ⟨_, cell_of_mem hmem, hlookup⟩
  · rw [← findsAll_withDefaults, ← namesApart_withDefaults]
    exact ⟨FindsAll.namesApart, fun hapart => findsAll_of_namesApart hapart hnodup⟩

/-- A runtime library with cache cell types and one listed type. -/
def listing (t : TypeSpec) : Profile where
  cell := some { ns := "Rt", base := "Site", binder := "Binder" }
  action := { name := "Action" }
  func := { name := "Func" }
  types := [t]

/-- A class may be listed under the name of the cache cell type. -/
theorem finds_all_of_same_class :
    ∃ p, Platform.ofProfile (listing ⟨"Rt", "Site", "class"⟩) = .ok p ∧
      p.FindsAll (listing ⟨"Rt", "Site", "class"⟩) := by
  have hok : Platform.ofProfile (listing ⟨"Rt", "Site", "class"⟩) =
      .ok ⟨(listing ⟨"Rt", "Site", "class"⟩).withDefaults⟩ := ofProfile_eq_ok.mpr ⟨by decide, rfl⟩
  exact ⟨_, hok, (finds_all_iff hok).2.mpr (by decide)⟩

/-- A structure that is listed under that name is lost, though the profile is accepted. -/
theorem loses_same_struct :
    ∃ p, Platform.ofProfile (listing ⟨"Rt", "Site", "struct"⟩) = .ok p ∧
      p.lookup "Rt.Site" = .ok (.named ⟨.cell, "Rt", "Site", .reference⟩) ∧
      ¬ p.FindsAll (listing ⟨"Rt", "Site", "struct"⟩) := by
  have hok : Platform.ofProfile (listing ⟨"Rt", "Site", "struct"⟩) =
      .ok ⟨(listing ⟨"Rt", "Site", "struct"⟩).withDefaults⟩ := ofProfile_eq_ok.mpr ⟨by decide, rfl⟩
  refine ⟨_, hok, ?_, fun h => ?_⟩
  · have hcell := lookup_cell (p := ⟨(listing ⟨"Rt", "Site", "struct"⟩).withDefaults⟩) rfl
    have hname : qualified "Rt" "Site" = "Rt.Site" := by decide
    exact hname ▸ hcell
  · have hapart := (findsAll_withDefaults.mpr h).namesApart
    revert hapart
    decide

end Platform

end CallSites
