import CallSites.Proofs.Report.SiteBySite
import CallSites.Proofs.Report.SiteOperands

/-!
# Which sites a platform admits

Whether a platform admits a site can be read off the names in the site.  Each name that is given has
to be that of one type (`Platform.Misnamed`).  On a platform where sites can be begun, every
argument has to be named and nothing that is passed may be void (`Platform.Misused`), and the
operands must be few enough to be stored (`SiteSpec.Oversized`).  Nothing else can go wrong with a
site that obeys the rules for descriptions (`Platform.admits_iff`), and what then goes wrong is told
as an error about types (`Platform.Refuses.failure`).
-/

namespace CallSites

/-! ## Errors about types -/

namespace Error

lemma AboutTypes.isInternal_eq_false {e : Error} (h : e.AboutTypes) : e.isInternal = false := by
  induction h with
  | unknown | ambiguous | argument => rfl
  | context note _ ih => exact ih
  | several _ ih =>
      rw [isClass_isInternal.parts, List.any_eq_false]
      exact fun e he => Bool.not_eq_true _ ▸ ih e he

lemma AboutTypes.of_ofList {es : List Error} {e : Error} (h : ∀ x ∈ es, x.AboutTypes)
    (he : ofList es = some e) : e.AboutTypes := by
  match es, h with
  | [], _ => cases he
  | [x], h =>
      cases he
      exact h e List.mem_cons_self
  | _ :: _ :: _, h =>
      cases he
      exact .several h

end Error

/-! ## Names -/

/-- The names of what is passed to the operation. -/
def SiteSpec.passedNames (spec : SiteSpec) : List String :=
  spec.receiver :: spec.args ++ [spec.right]

/-- The number of operands that are passed. -/
def SiteSpec.numPassed (spec : SiteSpec) : Nat :=
  (if spec.receiver = "" then 0 else 1) + spec.args.length + (if spec.right = "" then 0 else 1)

/-- With the cell as one parameter more, and the result, there are more types than can be stored. -/
def SiteSpec.Oversized (spec : SiteSpec) : Prop := maxLabels < (spec.numPassed : Int) + 2

namespace Platform

/-- A name in the site is not that of one type. -/
def Misnamed (p : Platform) (spec : SiteSpec) : Prop :=
  ∃ name ∈ spec.names, name ≠ "" ∧ ∀ t, p.lookup name ≠ .ok t

/-- An argument has no name, or something that is passed is void. -/
def Misused (p : Platform) (spec : SiteSpec) : Prop :=
  "" ∈ spec.args ∨
    ∃ name ∈ spec.passedNames, name ≠ "" ∧ ∃ t, p.lookup name = .ok t ∧ t.kind = .void

/-- Something is wrong with the site on this platform. -/
def Rejects (p : Platform) (spec : SiteSpec) : Prop :=
  p.Misnamed spec ∨ p.Offers .target ∧ (p.Misused spec ∨ spec.Oversized)

/-- The type of a name, if there is a name and a type for it. -/
def named? (p : Platform) (name : String) : Option Ty :=
  SiteSpec.found (SiteSpec.lookupOptional p.lookup name)

/-- The operands of a site as far as their types are found. -/
def operandsOf (p : Platform) (spec : SiteSpec) : Operands :=
  { receiver := p.named? spec.receiver
    receiverByRef := spec.receiverByRef
    args := spec.args.map p.named?
    argByRef := spec.argByRef
    right := p.named? spec.right
    result := p.named? spec.resultName }

section Names

variable {p : Platform} {spec : SiteSpec} {name : String} {x : Ty}

lemma lookup_eq_error {e : Error} (h : p.lookup name = .error e) : e.AboutTypes ∧ e.Single := by
  rw [lookup] at h
  split at h
  · cases h
  · split at h
    · cases h
      exact ⟨.unknown _ _, rfl⟩
    · cases h
    · cases h
      exact ⟨.ambiguous _ _, rfl⟩

lemma named?_eq_some_iff : p.named? name = some x ↔ name ≠ "" ∧ p.lookup name = .ok x := by
  rw [named?, SiteSpec.lookupOptional]
  split
  · next h => exact iff_of_false (fun hx => by cases hx) fun hx => hx.1 h
  · next h =>
      rw [and_iff_right h]
      rcases p.lookup name with e | y
      · exact iff_of_false (fun hx => by cases hx) fun hx => by cases hx
      · exact ⟨fun hx => by cases hx; rfl, fun hx => by cases hx; rfl⟩

lemma not_misnamed_iff :
    ¬ p.Misnamed spec ↔ ∀ name ∈ spec.names, name ≠ "" → ∃ t, p.lookup name = .ok t := by
  simp [Misnamed]

/-- A name is wrong when there is an error for it. -/
lemma misnamed_iff_failures : p.Misnamed spec ↔ SiteSpec.failures p.lookup spec.names ≠ [] := by
  rw [Misnamed, SiteSpec.failures_ne_nil_iff]
  refine exists_congr fun name => and_congr_right fun _ => and_congr_right fun _ => ?_
  rcases p.lookup name with e | t <;> simp

/-- The operands of a site are found unless a name is wrong. -/
lemma operands_cases (p : Platform) (spec : SiteSpec) :
    (p.Misnamed spec ∧ ∃ e, spec.operands p.lookup = .error e ∧ e.AboutTypes) ∨
      (¬ p.Misnamed spec ∧ spec.operands p.lookup = .ok (p.operandsOf spec)) := by
  have hsingle : ∀ name e, p.lookup name = .error e → e.Single :=
    fun _ _ he => (lookup_eq_error he).2
  rw [misnamed_iff_failures]
  obtain ⟨hnil, hops⟩ | ⟨e, hlist, hops⟩ := spec.operands_cases hsingle
  · exact .inr ⟨not_not.mpr hnil, hops⟩
  · refine .inl ⟨fun hnil => ?_, e, hops, .of_ofList (fun x hx => ?_) hlist⟩
    · rw [hnil] at hlist
      cases hlist
    · obtain ⟨name, -, -, he⟩ := SiteSpec.mem_failures.mp hx
      exact (lookup_eq_error he).1

/-! ## Operands -/

lemma IsNamed.kind_ne_invalid (h : p.IsNamed x) : x.kind ≠ .invalid := by
  rcases h.void_or_provides with rfl | hprovides
  · decide
  · cases hprovides with
    | @listed i e _ =>
        change e.typeKind ≠ .invalid
        rw [TypeSpec.typeKind]
        split <;> decide
    | binder hn | cell hn =>
        obtain ⟨c, -, rfl⟩ := Option.map_eq_some_iff.mp hn
        exact fun hkind => by cases hkind
    | genericCell hd =>
        obtain ⟨-, -, -, -, hkind, -⟩ := genericCell?_eq_some hd
        rw [Ty.kind, hkind]
        exact fun hkind => by cases hkind
    | family hd =>
        rw [family?] at hd
        split at hd
        · cases hd
        · cases hd
          exact fun hkind => by cases hkind

/-- A named type can be passed unless it is void. -/
lemma usable_iff_of_lookup (h : p.lookup name = .ok x) : x.Usable ↔ x.kind ≠ .void :=
  and_iff_left (isNamed_of_lookup h).kind_ne_invalid

lemma forall_named?_usable_iff :
    (∀ x, p.named? name = some x → x.Usable) ↔
      ¬ (name ≠ "" ∧ ∃ t, p.lookup name = .ok t ∧ t.kind = .void) := by
  simp only [named?_eq_some_iff]
  constructor
  · rintro huse ⟨hne, t, ht, hvoid⟩
    exact (huse t ⟨hne, ht⟩).1 hvoid
  · rintro hvoid x ⟨hne, hx⟩
    exact (usable_iff_of_lookup hx).mpr fun hkind => hvoid ⟨hne, x, hx, hkind⟩

lemma usableType_named?_iff (h : name ≠ "" → ∃ t, p.lookup name = .ok t) :
    UsableType (p.named? name) ↔
      name ≠ "" ∧ ¬ (name ≠ "" ∧ ∃ t, p.lookup name = .ok t ∧ t.kind = .void) := by
  rw [← forall_named?_usable_iff]
  constructor
  · rintro ⟨x, hx, huse⟩
    refine ⟨(named?_eq_some_iff.mp hx).1, fun y hy => ?_⟩
    rw [hx] at hy
    exact Option.some.inj hy ▸ huse
  · rintro ⟨hne, huse⟩
    obtain ⟨t, ht⟩ := h hne
    have hx := named?_eq_some_iff.mpr ⟨hne, ht⟩
    exact ⟨t, hx, huse t hx⟩

lemma length_named? (h : name ≠ "" → ∃ t, p.lookup name = .ok t) :
    (p.named? name).toList.length = if name = "" then 0 else 1 := by
  split
  · next hempty =>
      have hnone : p.named? name = none := by
        rw [Option.eq_none_iff_forall_ne_some]
        exact fun x hx => (named?_eq_some_iff.mp hx).1 hempty
      rw [hnone]
      rfl
  · next hne =>
      obtain ⟨t, ht⟩ := h hne
      rw [named?_eq_some_iff.mpr ⟨hne, ht⟩]
      rfl

lemma usable_operandsOf_iff (h : ¬ p.Misnamed spec) :
    (p.operandsOf spec).Usable ↔ ¬ p.Misused spec := by
  rw [not_misnamed_iff] at h
  have hargs : (∀ a ∈ (p.operandsOf spec).args, UsableType a) ↔ ∀ name ∈ spec.args, name ≠ "" ∧
      ¬ (name ≠ "" ∧ ∃ t, p.lookup name = .ok t ∧ t.kind = .void) := by
    refine List.forall_mem_map.trans (forall₂_congr fun name hname => ?_)
    exact usableType_named?_iff (h name (by simp [SiteSpec.names, hname]))
  have hresult : ∀ x, p.named? spec.resultName = some x → x.kind ≠ .invalid := fun x hx =>
    (isNamed_of_lookup (named?_eq_some_iff.mp hx).2).kind_ne_invalid
  rw [Misused, not_or, ← List.forall_mem_ne', not_exists]
  constructor
  · intro huse
    have hnames := hargs.mp huse.args
    refine ⟨fun name hname => (hnames name hname).1, ?_⟩
    rintro name ⟨hname, hvoid⟩
    simp only [SiteSpec.passedNames, List.cons_append, List.mem_cons, List.mem_append,
      List.not_mem_nil, or_false] at hname
    rcases hname with rfl | hname | rfl
    · exact forall_named?_usable_iff.mp huse.receiver hvoid
    · exact (hnames name hname).2 hvoid
    · exact forall_named?_usable_iff.mp huse.right hvoid
  · rintro ⟨hgiven, hpassed⟩
    have hpass : ∀ name ∈ spec.passedNames,
        ¬ (name ≠ "" ∧ ∃ t, p.lookup name = .ok t ∧ t.kind = .void) :=
      fun name hname hvoid => hpassed name ⟨hname, hvoid⟩
    refine ⟨forall_named?_usable_iff.mpr (hpass _ ?_), hargs.mpr fun name hname => ?_,
      forall_named?_usable_iff.mpr (hpass _ ?_), hresult⟩
    · simp [SiteSpec.passedNames]
    · exact ⟨hgiven name hname, hpass name (by simp [SiteSpec.passedNames, hname])⟩
    · simp [SiteSpec.passedNames]

lemma storable_operandsOf_iff (h : ¬ p.Misnamed spec) :
    (p.operandsOf spec).Storable ↔ ¬ spec.Oversized := by
  rw [not_misnamed_iff] at h
  have hlength : (p.operandsOf spec).flat.length = spec.numPassed := by
    rw [← List.length_map, Operands.types_flat, SiteSpec.numPassed,
      ← length_named? (h spec.receiver (by simp [SiteSpec.names])),
      ← length_named? (h spec.right (by simp [SiteSpec.names]))]
    simp [operandsOf, Nat.add_assoc]
  rw [Operands.Storable, hlength, SiteSpec.Oversized, not_lt]

lemma modesFit_operandsOf (h : spec.violations = []) : (p.operandsOf spec).modesFit = true :=
  SiteSpec.modesFit_of_violations h (List.length_map _) rfl

/-- **Which sites a platform admits.** -/
theorem admits_iff (h : spec.violations = []) : p.Admits spec ↔ ¬ p.Rejects spec := by
  rw [Rejects, not_or, not_and, not_or, Admits]
  rcases operands_cases p spec with ⟨hmis, e, he, -⟩ | ⟨hmis, hops⟩
  · refine iff_of_false ?_ fun hno => hno.1 hmis
    rintro ⟨ops, hops, -⟩
    rw [he] at hops
    cases hops
  · simp only [hops, Except.ok.injEq, exists_eq_left', modesFit_operandsOf h,
      usable_operandsOf_iff hmis, storable_operandsOf_iff hmis, hmis]
    simp

/-- A site that is not admitted is refused by an error about types, unless it is oversized. -/
lemma Refuses.failure {f : Failure} (hviol : spec.violations = []) (h : p.Refuses spec f) :
    (∃ e, f = .error e ∧ e.AboutTypes) ∨
      f = .range .capacity ∧ p.Offers .target ∧ spec.Oversized := by
  rcases operands_cases p spec with ⟨-, e, he, htypes⟩ | ⟨hmis, hops⟩
  · cases h with
    | names note h =>
        rw [he] at h
        cases h
        exact .inl ⟨_, rfl, .context note htypes⟩
    | modes _ h | oversized h | unusable h =>
        rw [he] at h
        cases h
  · cases h with
    | names note h =>
        rw [hops] at h
        cases h
    | modes _ h _ hmodes =>
        rw [hops] at h
        cases h
        rw [modesFit_operandsOf hviol] at hmodes
        cases hmodes
    | oversized h htarget hstore =>
        rw [hops] at h
        cases h
        rw [storable_operandsOf_iff hmis, not_not] at hstore
        exact .inr ⟨rfl, htarget, hstore⟩
    | unusable h _ _ htypes => exact .inl ⟨_, rfl, htypes⟩

end Names

end Platform

end CallSites
