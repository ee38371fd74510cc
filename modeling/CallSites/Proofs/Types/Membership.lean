import CallSites.Proofs.Types.Substitution

/-!
# Members of instances

An instance has the members of its definition, with its own arguments in the place of the type
parameters.  A member is made when it is first asked for and kept, so what an instance answers
depends on the history of the table.  `TypeTable.Cached` is the invariant that makes the history
irrelevant: every member that is kept is a specialisation of some declaration of that name
(`Member.Specialises`), and all types involved are known.

`Sound` joins this invariant to that of interning.  `Sound.member` says that asking for a member
keeps it, whatever comes of it; `Sound.member_succeeds` that an instance never fails to give a
member its definition declares; and `Sound.kept_specialises` what the member looks like.
-/

namespace CallSites

/-! ## What is kept -/

/-- The types in a declaration exist. -/
def Declaration.Known (K : Set Ty) (t : TypeTable) (decl : Declaration) : Prop :=
  KnownType K t decl.type ∧ ∀ p ∈ decl.params, KnownType K t p.type

/-- The member is a declaration carried over to an instance: nothing but the types changes, and in
these the type parameters are replaced. -/
structure Member.Specialises (m : Member) (decl : Declaration) (inst : Instance) : Prop where
  name : m.name = decl.name
  kind : m.kind = decl.kind
  static : m.static = decl.static
  container : m.container = inst.ty
  type : inst.ReplacedType decl.type m.type
  params : List.Forall₂ inst.ReplacedParam decl.params m.params

/-- The declarations of a definition, oldest first. -/
def TypeTable.declared (t : TypeTable) (d : Definition) : List Declaration :=
  d.declarations ++ (t.definition d).added

/-- **The invariant of members.** -/
structure TypeTable.Cached (K : Set Ty) (t : TypeTable) : Prop where
  /-- Nothing has happened to an instance that has not been filed. -/
  states : ∀ key s, t.instances.find? key = some s →
    ∃ d, .definition d ∈ K ∧ d.id = key.1 ∧ ∃ i ∈ t.filed d, i.serial = key.2
  declared : ∀ d, .definition d ∈ K → ∀ decl ∈ t.declared d, decl.Known K t
  cached : ∀ d, .definition d ∈ K → ∀ i ∈ t.filed d, ∀ name m,
    (t.instanceState i).members.find? name = some m →
      (∃ decl ∈ t.declared d, decl.name = name ∧ m.Specialises decl i) ∧
        m.toDeclaration.Known K t

/-- The table is in order. -/
structure TypeTable.Sound (K : Set Ty) (t : TypeTable) : Prop where
  interned : t.Interned K
  cached : t.Cached K

/-- What becomes of a table as time passes: no instance is lost and no member that was given out is
replaced. -/
structure TypeTable.Extends (t t' : TypeTable) : Prop where
  next : t.next ≤ t'.next
  filed : ∀ d, t.filed d ⊆ t'.filed d
  members : ∀ i name m, (t.instanceState i).members.find? name = some m →
    (t'.instanceState i).members.find? name = some m

/-- The same without new declarations. -/
structure TypeTable.Grows (t t' : TypeTable) : Prop extends t.Extends t' where
  added : ∀ d, (t'.definition d).added = (t.definition d).added

section

variable {K K' : Set Ty} {t t' t₁ t₂ t₃ : TypeTable}

lemma TypeTable.Extends.refl (t : TypeTable) : t.Extends t :=
  ⟨Nat.le_refl _, fun _ => List.Subset.refl _, fun _ _ _ h => h⟩

lemma TypeTable.Extends.trans (h : t₁.Extends t₂) (h' : t₂.Extends t₃) : t₁.Extends t₃ :=
  ⟨h.next.trans h'.next, fun d => List.Subset.trans (h.filed d) (h'.filed d),
    fun i name m hm => h'.members i name m (h.members i name m hm)⟩

lemma TypeTable.Grows.refl (t : TypeTable) : t.Grows t := ⟨Extends.refl t, fun _ => rfl⟩

lemma TypeTable.Grows.trans (h : t₁.Grows t₂) (h' : t₂.Grows t₃) : t₁.Grows t₃ :=
  ⟨h.toExtends.trans h'.toExtends, fun d => (h'.added d).trans (h.added d)⟩

lemma TypeTable.Files.grows (h : t.Files t') : t.Grows t' := by
  refine ⟨⟨h.next.ge, h.filed, fun i name m hm => ?_⟩, h.added⟩
  rw [instanceState, h.instances]
  exact hm

lemma Declaration.Known.mono {decl : Declaration} (h : decl.Known K t) (hK : K ⊆ K')
    (ht : ∀ d, t.filed d ⊆ t'.filed d) : decl.Known K' t' :=
  ⟨h.1.mono hK ht, fun p hp => (h.2 p hp).mono hK ht⟩

end

/-! ## The declarations of a definition -/

namespace TypeTable

lemma member?_eq (t : TypeTable) (d : Definition) (name : String) :
    t.member? d name =
      ((t.declared d).zipIdx.foldl
        (fun (ms : OrderedMap String Member) e =>
          ms.insert e.1.name ⟨e.1, .definition d, e.2⟩) ∅).find? name := rfl

lemma member?_eq_some {t : TypeTable} {d : Definition} {name : String} {m : Member}
    (h : t.member? d name = some m) :
    m.toDeclaration ∈ t.declared d ∧ m.name = name ∧ m.container = .definition d := by
  rw [member?_eq] at h
  rcases OrderedMap.find?_foldl_insert (fun e : Declaration × Nat => e.1.name) _ h with
    hm | ⟨e, he, hname, rfl⟩
  · cases hm
  · exact ⟨List.fst_mem_of_mem_zipIdx he, hname, rfl⟩

/-- A definition has a member of every name that it declares. -/
lemma exists_member? {t : TypeTable} {d : Definition} {decl : Declaration}
    (h : decl ∈ t.declared d) : ∃ m, t.member? d decl.name = some m := by
  obtain ⟨n, hn⟩ := List.getElem?_of_mem h
  rw [member?_eq]
  exact OrderedMap.exists_find?_foldl_insert (fun e : Declaration × Nat => e.1.name) _
    (.inl ⟨(decl, n), List.mk_mem_zipIdx_iff_getElem?.mpr hn, rfl⟩)

/-! ## Specialising a declaration -/

/-- Only filing has happened, so the members that are kept are still in order. -/
lemma Cached.files {K : Set Ty} {t t' : TypeTable} (h : t.Cached K) (hI : t.Interned K)
    (hI' : t'.Interned K) (hf : t.Files t') : t'.Cached K := by
  have hdecl : ∀ d, t'.declared d = t.declared d := fun d => by
    rw [TypeTable.declared, TypeTable.declared, hf.added d]
  refine { states := ?_, declared := ?_, cached := ?_ }
  · intro key s hs
    rw [hf.instances] at hs
    obtain ⟨d, hd, hid, i, hi, hn⟩ := h.states key s hs
    exact ⟨d, hd, hid, i, hf.filed d hi, hn⟩
  · intro d hd decl hmem
    rw [hdecl d] at hmem
    exact (h.declared d hd decl hmem).mono (Set.Subset.refl K) hf.filed
  · intro d hd i hi name m hm
    rw [instanceState, hf.instances] at hm
    -- an instance that something has happened to was filed before, under the same serial
    have hold : i ∈ t.filed d := by
      rcases hs : t.instances.find? (i.definition.id, i.serial) with _ | s
      · rw [OrderedMap.getD_of_find?_eq_none _ hs] at hm
        cases hm
      · obtain ⟨e, he, hid, j, hj, hn⟩ := h.states _ s hs
        rw [(hI'.known_of_filed hd hi).1] at hid
        obtain rfl := hI.definition_inj he hd hid
        rwa [← hI'.eq_of_serial_eq hd (hf.filed e hj) hi hn]
    obtain ⟨⟨decl, hmem, hname, hspec⟩, hknown⟩ := h.cached d hd i hold name m hm
    refine ⟨⟨decl, ?_, hname, hspec⟩, hknown.mono (Set.Subset.refl K) hf.filed⟩
    rw [hdecl d]
    exact hmem

/-- The table with another state for an instance. -/
def putState (t : TypeTable) (inst : Instance) (s : InstState) : TypeTable :=
  { t with instances := t.instances.insert (inst.definition.id, inst.serial) s }

lemma instanceState_congr (t : TypeTable) {i j : Instance}
    (h : (i.definition.id, i.serial) = (j.definition.id, j.serial)) :
    t.instanceState i = t.instanceState j := by
  rw [instanceState, instanceState, h]

lemma instanceState_putState (t : TypeTable) (inst i : Instance) (s : InstState) :
    (t.putState inst s).instanceState i =
      if (inst.definition.id, inst.serial) = (i.definition.id, i.serial) then s
      else t.instanceState i :=
  OrderedMap.getD_insert _ _ _ _ _

end TypeTable

/-- The member may be kept for an instance under a name. -/
def TypeTable.MayKeep (K : Set Ty) (t : TypeTable) (inst : Instance) (name : String) (m : Member) :
    Prop :=
  (∃ decl ∈ t.declared inst.definition, decl.name = name ∧ m.Specialises decl inst) ∧
    m.toDeclaration.Known K t

namespace TypeTable.Sound

variable {K : Set Ty} {t t' : TypeTable} {inst : Instance}

lemma files (h : t.Sound K) (hI' : t'.Interned K) (hf : t.Files t') : t'.Sound K :=
  ⟨hI', h.cached.files h.interned hI' hf⟩

/-- The state of a filed instance may change as long as every member it then keeps may be kept. -/
lemma putState (h : t.Sound K) (hi : inst.ty.Known K t) {s : InstState}
    (hs : ∀ name m, s.members.find? name = some m →
      (t.instanceState inst).members.find? name = some m ∨ t.MayKeep K inst name m) :
    (t.putState inst s).Sound K := by
  have hfiled : ∀ d, (t.putState inst s).filed d = t.filed d := fun _ => rfl
  have hsub : ∀ d, t.filed d ⊆ (t.putState inst s).filed d := fun _ => List.Subset.refl _
  refine ⟨⟨h.interned.ident_inj, h.interned.serial_lt_next, h.interned.listed, fun d hd => ?_⟩,
    ⟨?_, ?_, ?_⟩⟩
  · exact (h.interned.each d hd).of_buckets_eq (Set.Subset.refl K) hsub rfl
  · intro key s' hs'
    by_cases hkey : (inst.definition.id, inst.serial) = key
    · subst hkey
      exact ⟨inst.definition, hi.1, rfl, inst, hi.2, rfl⟩
    · rw [TypeTable.putState, OrderedMap.find?_insert_of_ne _ _ hkey] at hs'
      exact h.cached.states key s' hs'
  · intro d hd decl hmem
    exact (h.cached.declared d hd decl hmem).mono (Set.Subset.refl K) hsub
  · intro d hd i hmem name m hm
    -- an instance with the identity of the one that has changed is that one
    have hkeep : t.MayKeep K i name m := by
      have hdef := (h.interned.known_of_filed hd hmem).1
      rw [t.instanceState_putState] at hm
      split at hm
      · next hkey =>
          rw [Prod.mk.injEq] at hkey
          have hdd : inst.definition = d := by
            rw [hdef] at hkey
            exact h.interned.definition_inj hi.1 hd hkey.1
          have hinst : inst = i :=
            h.interned.eq_of_serial_eq hd (hdd ▸ hi.2) hmem hkey.2
          subst hinst
          rcases hs name m hm with hold | hnew
          · have hold' := h.cached.cached d hd inst hmem name m hold
            rwa [MayKeep, hdef]
          · exact hnew
      · have hold' := h.cached.cached d hd i hmem name m hm
        rwa [MayKeep, hdef]
    obtain ⟨⟨decl, hdecl, hname, hspec⟩, hknown⟩ := hkeep
    rw [(h.interned.known_of_filed hd hmem).1] at hdecl
    exact ⟨⟨decl, hdecl, hname, hspec⟩, hknown.mono (Set.Subset.refl K) hsub⟩

end TypeTable.Sound

lemma TypeTable.grows_putState {t : TypeTable} {inst : Instance} {s : InstState}
    (hs : ∀ name m, (t.instanceState inst).members.find? name = some m →
      s.members.find? name = some m) : t.Grows (t.putState inst s) := by
  refine ⟨⟨Nat.le_refl _, fun _ => List.Subset.refl _, fun i name m hm => ?_⟩, fun _ => rfl⟩
  rw [t.instanceState_putState]
  split
  · next hkey =>
      refine hs name m ?_
      rw [TypeTable.instanceState, hkey]
      exact hm
  · exact hm

/-! ## Running a request for a member -/

namespace Instance

variable {t : TypeTable} {inst : Instance} {name : String}

lemma member_run_of_kept {m : Member} (hm : (t.instanceState inst).members.find? name = some m) :
    (inst.member name).run t = (.ok m, t) := by
  rw [member]
  simp only [run_bind, run_get, hm, run_pure]

lemma member_run_of_lacks (hc : (t.instanceState inst).members.find? name = none)
    (hm : t.member? inst.definition name = none) :
    (inst.member name).run t =
      (.error (.error (.lacks (.member name inst.definition.text))), t) := by
  rw [member]
  simp only [run_bind, run_get, hc, hm]
  rfl

end Instance

namespace TypeTable.Sound

variable {K : Set Ty} {t t' : TypeTable} {inst : Instance}

/-- A member of a definition is carried over to an instance without fail. -/
lemma specialise_run (h : t.Sound K) (hi : inst.ty.Known K t) {m : Member}
    (hm : m.toDeclaration ∈ t.declared inst.definition)
    (hcon : m.container = .definition inst.definition) :
    ∃ m' t', (m.specialise inst).run t = (.ok m', t') ∧ t'.Sound K ∧ t.Grows t' ∧
      (∀ i, (t'.instanceState i).members = (t.instanceState i).members) ∧
      m'.Specialises m.toDeclaration inst ∧ t'.MayKeep K inst m.name m' := by
  obtain ⟨htype, hparams⟩ := h.cached.declared _ hi.1 _ hm
  obtain ⟨o, t₁, hrun₁, h₁, hf₁, ho, hrep⟩ := h.interned.substitute_run hi htype
  obtain ⟨qs, t₂, hrun₂, h₂, hf₂, hqs, hreps⟩ :=
    Interned.substituteParams_run m.params h₁ (hi.files hf₁)
      (fun p hp => (hparams p hp).mono (Set.Subset.refl K) hf₁.filed)
  have hf : t.Files t₂ := hf₁.trans hf₂
  have hs₂ : t₂.Sound K := h.files h₂ hf
  have hi₂ : inst.ty.Known K t₂ := hi.files hf
  let s : InstState := { t₂.instanceState inst with made := (t₂.instanceState inst).made + 1 }
  let m' : Member := ⟨⟨m.name, m.kind, m.static, o, qs⟩, inst, (t₂.instanceState inst).made⟩
  have hspec : m'.Specialises m.toDeclaration inst := ⟨rfl, rfl, rfl, rfl, hrep, hreps⟩
  refine ⟨m', t₂.putState inst s, ?_, hs₂.putState hi₂ (fun _ _ hold => .inl hold),
    hf.grows.trans (grows_putState fun _ _ hold => hold), ?_, hspec, ?_⟩
  · have hsame : m.container.same (.definition inst.definition) = true := by simp [hcon, Ty.same]
    rw [Member.specialise, hsame]
    simp only [if_true, run_bind, hrun₁, hrun₂, run_get, run_set, run_pure]
    rfl
  · intro i
    have hold : t.instanceState i = t₂.instanceState i := by
      rw [instanceState, instanceState, hf.instances]
    rw [instanceState_putState, hold]
    split
    · next hkey => rw [t₂.instanceState_congr hkey.symm]
    · rfl
  · refine ⟨⟨m.toDeclaration, ?_, rfl, hspec⟩, ?_, hqs⟩
    · have hdecl : t₂.declared inst.definition = t.declared inst.definition := by
        rw [declared, declared, hf.added]
      exact hdecl ▸ hm
    · exact ho.mono (Set.Subset.refl K) hf₂.filed

/-- A member that the definition has and the instance does not keep is made and kept.  Nothing else
becomes of what instances keep. -/
lemma member_run_of_declared (h : t.Sound K) (hi : inst.ty.Known K t) {name : String} {m : Member}
    (hc : (t.instanceState inst).members.find? name = none)
    (hm : t.member? inst.definition name = some m) :
    ∃ m' t', (inst.member name).run t = (.ok m', t') ∧ t'.Sound K ∧ t.Grows t' ∧
      m'.Specialises m.toDeclaration inst ∧
      ∀ (i : Instance) (n : String), (t'.instanceState i).members.find? n =
        if (inst.definition.id, inst.serial) = (i.definition.id, i.serial) ∧ name = n then some m'
        else (t.instanceState i).members.find? n := by
  obtain ⟨hdecl, rfl, hcon⟩ := member?_eq_some hm
  obtain ⟨m', t₁, hrun, h₁, hgrows, hsame, hspec, hkeep⟩ := h.specialise_run hi hdecl hcon
  have hi₁ : inst.ty.Known K t₁ := hi.mono (Set.Subset.refl K) hgrows.filed
  let s : InstState :=
    { t₁.instanceState inst with
      members := (t₁.instanceState inst).members.insert m.name m' }
  refine ⟨m', t₁.putState inst s, ?_, h₁.putState hi₁ ?_,
    hgrows.trans (grows_putState ?_), hspec, ?_⟩
  · rw [Instance.member]
    simp only [run_bind, run_get, hc, hm, hrun, run_modify, run_pure]
    rfl
  · intro name' m'' hfind
    rw [OrderedMap.find?_insert] at hfind
    split at hfind
    · next hname =>
        cases hfind
        rw [← hname]
        exact .inr hkeep
    · exact .inl hfind
  · intro name' m'' hfind
    have hne : m.name ≠ name' := by
      rintro rfl
      rw [hsame, hc] at hfind
      cases hfind
    rw [OrderedMap.find?_insert_of_ne _ _ hne]
    exact hfind
  · intro i n
    rw [instanceState_putState]
    by_cases hkey : (inst.definition.id, inst.serial) = (i.definition.id, i.serial)
    · rw [if_pos hkey, OrderedMap.find?_insert, hsame, t.instanceState_congr hkey]
      simp only [hkey, true_and]
    · rw [if_neg hkey, hsame, if_neg fun hboth => hkey hboth.1]

/-- **Asking an instance for a member.**  Either there is one, and from then on it is kept, or the
definition declares none of that name and nothing happens. -/
theorem member_run (h : t.Sound K) (hi : inst.ty.Known K t) (name : String) :
    (∃ m t', (inst.member name).run t = (.ok m, t') ∧ t'.Sound K ∧ t.Grows t' ∧
      (t'.instanceState inst).members.find? name = some m) ∨
    ((∀ decl ∈ t.declared inst.definition, decl.name ≠ name) ∧
      (inst.member name).run t =
        (.error (.error (.lacks (.member name inst.definition.text))), t)) := by
  rcases hc : (t.instanceState inst).members.find? name with _ | m
  · rcases hm : t.member? inst.definition name with _ | m
    · refine .inr ⟨fun decl hdecl hname => ?_, Instance.member_run_of_lacks hc hm⟩
      obtain ⟨m, hsome⟩ := exists_member? hdecl
      rw [hname, hm] at hsome
      cases hsome
    · obtain ⟨m', t', hrun, h', hgrows, -, hkept⟩ := h.member_run_of_declared hi hc hm
      exact .inl ⟨m', t', hrun, h', hgrows, (hkept inst name).trans (if_pos ⟨rfl, rfl⟩)⟩
  · exact .inl ⟨m, t, Instance.member_run_of_kept hc, h, Grows.refl t, hc⟩

/-- Whatever comes of asking for a member, the table stays in order and nothing is lost. -/
lemma member (h : t.Sound K) (hi : inst.ty.Known K t) {name : String} {r : Except Failure Member}
    (hrun : (inst.member name).run t = (r, t')) : t'.Sound K ∧ t.Grows t' := by
  rcases h.member_run hi name with ⟨m, t₁, hrun', h', hgrows, -⟩ | ⟨-, hrun'⟩
  · rw [hrun'] at hrun
    cases hrun
    exact ⟨h', hgrows⟩
  · rw [hrun'] at hrun
    cases hrun
    exact ⟨h, Grows.refl t⟩

/-- A member that is returned is kept. -/
lemma member_ok (h : t.Sound K) (hi : inst.ty.Known K t) {name : String} {m : Member}
    (hrun : (inst.member name).run t = (.ok m, t')) :
    (t'.instanceState inst).members.find? name = some m := by
  rcases h.member_run hi name with ⟨m', t₁, hrun', -, -, hkept⟩ | ⟨-, hrun'⟩
  · rw [hrun'] at hrun
    cases hrun
    exact hkept
  · rw [hrun'] at hrun
    cases hrun

/-- A declared member is returned. -/
lemma member_succeeds (h : t.Sound K) (hi : inst.ty.Known K t) {decl : Declaration}
    (hdecl : decl ∈ t.declared inst.definition) :
    ∃ m t', (inst.member decl.name).run t = (.ok m, t') := by
  rcases h.member_run hi decl.name with ⟨m, t₁, hrun, -⟩ | ⟨hnone, -⟩
  · exact ⟨m, t₁, hrun⟩
  · exact absurd rfl (hnone decl hdecl)

/-- What an instance keeps under a name specialises a declaration of that name. -/
lemma kept_specialises (h : t.Sound K) (hi : inst.ty.Known K t) {name : String} {m : Member}
    (hm : (t.instanceState inst).members.find? name = some m) : t.MayKeep K inst name m :=
  h.cached.cached _ hi.1 inst hi.2 name m hm

/-! ## Other operations -/

lemma construct (h : t.Sound K) {d : Definition} (hd : .definition d ∈ K)
    {args : List (Option Ty)} (hargs : ∀ a ∈ args, KnownType K t a) {r : Except Failure Instance}
    (hrun : (d.construct args).run t = (r, t')) : t'.Sound K ∧ t.Grows t' := by
  obtain ⟨h', hfiles⟩ := h.interned.construct hd hargs hrun
  exact ⟨h.files h' hfiles, hfiles.grows⟩

lemma substitute (h : t.Sound K) (hi : inst.ty.Known K t) {o : Option Ty} (ho : KnownType K t o)
    {r : Except Failure (Option Ty)} (hrun : (inst.substitute o).run t = (r, t')) :
    t'.Sound K ∧ t.Grows t' := by
  obtain ⟨o', t₁, hrun', h', hfiles, -⟩ := h.interned.substitute_run hi ho
  rw [hrun'] at hrun
  cases hrun
  exact ⟨h.files h' hfiles, hfiles.grows⟩

/-- A table whose instances have not been asked for members. -/
lemma blank (h : t.Interned K) (hinst : t.instances = ∅)
    (hdecl : ∀ d, .definition d ∈ K → ∀ decl ∈ t.declared d, decl.Known K t) : t.Sound K where
  interned := h
  cached :=
    { states := fun key s hs => by simp [hinst] at hs
      declared := hdecl
      cached := fun d _ i _ name m hm => by simp [instanceState, hinst] at hm }

lemma empty : ({} : TypeTable).Sound ∅ :=
  blank (Interned.blank (fun x hx => absurd hx (Set.notMem_empty x))
    fun x hx => absurd hx (Set.notMem_empty x)) rfl fun _ hd => absurd hd (Set.notMem_empty _)

/-- A type whose identity nobody has may be added; a definition must declare members of known
types only. -/
lemma add_type (h : t.Sound K) {x : Ty} (hI : t.Interned (insert x K))
    (hnew : ∀ y ∈ K, y.ident ≠ x.ident)
    (hdecl : ∀ d, x = .definition d → ∀ decl ∈ d.declarations, decl.Known (insert x K) t) :
    t.Sound (insert x K) := by
  have hsub : K ⊆ insert x K := Set.subset_insert x K
  have hfiled : ∀ d, t.filed d ⊆ t.filed d := fun _ => List.Subset.refl _
  refine ⟨hI, ⟨?_, ?_, ?_⟩⟩
  · intro key s hs
    obtain ⟨d, hd, hrest⟩ := h.cached.states key s hs
    exact ⟨d, hsub hd, hrest⟩
  · rintro d (hx | hd) decl hmem
    · rw [declared, h.interned.definition_eq_empty (by rwa [hx])] at hmem
      exact hdecl d hx.symm decl (by simpa using hmem)
    · exact (h.cached.declared d hd decl hmem).mono hsub hfiled
  · rintro d (hx | hd) i hi name m hm
    · rw [filed, h.interned.definition_eq_empty (by rwa [hx])] at hi
      cases hi
    · obtain ⟨hspec, hknown⟩ := h.cached.cached d hd i hi name m hm
      exact ⟨hspec, hknown.mono hsub hfiled⟩

lemma next (h : t.Sound K) : ({ t with next := t.next + 1 } : TypeTable).Sound K where
  interned := h.interned.next
  cached :=
    { states := h.cached.states
      declared := fun d hd decl hmem =>
        (h.cached.declared d hd decl hmem).mono (Set.Subset.refl K) fun _ => List.Subset.refl _
      cached := fun d hd i hi name m hm =>
        let ⟨hspec, hknown⟩ := h.cached.cached d hd i hi name m hm
        ⟨hspec, hknown.mono (Set.Subset.refl K) fun _ => List.Subset.refl _⟩ }

/-- A type created with the next serial is new. -/
lemma add_type_next (h : t.Sound K) {x : Ty} (hx : x.ident.clientSerial? = some t.next)
    (hdecl : ∀ d, x = .definition d → ∀ decl ∈ d.declarations,
      decl.Known (insert x K) { t with next := t.next + 1 }) :
    ({ t with next := t.next + 1 } : TypeTable).Sound (insert x K) := by
  refine h.next.add_type (h.interned.add_type_next hx) (fun y hy hid => ?_) hdecl
  have hlt := h.interned.serial_lt_next y hy t.next (by rw [hid, hx])
  exact absurd hlt (Nat.lt_irrefl _)

end TypeTable.Sound

lemma TypeTable.grows_next (t : TypeTable) :
    t.Grows ({ t with next := t.next + 1 } : TypeTable) :=
  ⟨⟨Nat.le_succ _, fun _ => List.Subset.refl _, fun _ _ _ h => h⟩, fun _ => rfl⟩

/-! ## Members added later -/

namespace TypeTable

lemma definition_addMember (t : TypeTable) (d e : Definition) (m : Declaration) :
    (t.addMember d m).definition e =
      if d.id = e.id then { t.definition e with added := (t.definition e).added ++ [m] }
      else t.definition e := by
  rw [definition, addMember, OrderedMap.getD_insert]
  split
  · next hid => rw [t.definition_congr hid]
  · rfl

lemma buckets_addMember (t : TypeTable) (d e : Definition) (m : Declaration) :
    ((t.addMember d m).definition e).buckets = (t.definition e).buckets := by
  rw [definition_addMember]
  split <;> rfl

lemma filed_addMember (t : TypeTable) (d e : Definition) (m : Declaration) :
    (t.addMember d m).filed e = t.filed e := by
  rw [filed, filed, buckets_addMember]

lemma extends_addMember (t : TypeTable) (d : Definition) (m : Declaration) :
    t.Extends (t.addMember d m) := by
  refine ⟨Nat.le_refl _, fun e => ?_, fun _ _ _ h => h⟩
  rw [filed_addMember]
  exact List.Subset.refl _

/-- A definition may get another member of known types.  Members that instances keep already are
not replaced: they still specialise the declaration they were made from. -/
lemma Sound.addMember {K : Set Ty} {t : TypeTable} (h : t.Sound K) {d : Definition}
    (hd : .definition d ∈ K) {m : Declaration} (hm : m.Known K t) : (t.addMember d m).Sound K := by
  have hsub := (t.extends_addMember d m).filed
  have hdecl : ∀ e, t.declared e ⊆ (t.addMember d m).declared e := by
    intro e decl hmem
    rw [declared, definition_addMember]
    rcases List.mem_append.mp hmem with hown | hadded
    · exact List.mem_append_left _ hown
    · refine List.mem_append_right _ ?_
      split
      · exact List.mem_append_left _ hadded
      · exact hadded
  refine ⟨⟨h.interned.ident_inj, h.interned.serial_lt_next, ?_, ?_⟩, ⟨?_, ?_, ?_⟩⟩
  · intro id s hs
    by_cases hid : d.id = id
    · exact ⟨d, hd, hid⟩
    · rw [TypeTable.addMember, OrderedMap.find?_insert_of_ne _ _ hid] at hs
      exact h.interned.listed id s hs
  · intro e he
    exact (h.interned.each e he).of_buckets_eq (Set.Subset.refl K) hsub (t.buckets_addMember d e m)
  · intro key s hs
    obtain ⟨e, he, hid, i, hi, hn⟩ := h.cached.states key s hs
    exact ⟨e, he, hid, i, hsub e hi, hn⟩
  · intro e he decl hmem
    have hknown : decl.Known K t := by
      rw [declared, definition_addMember] at hmem
      rcases List.mem_append.mp hmem with hown | hadded
      · exact h.cached.declared e he decl (List.mem_append_left _ hown)
      · split at hadded
        · rcases List.mem_append.mp hadded with hold | hlast
          · exact h.cached.declared e he decl (List.mem_append_right _ hold)
          · rwa [List.mem_singleton.mp hlast]
        · exact h.cached.declared e he decl (List.mem_append_right _ hadded)
    exact hknown.mono (Set.Subset.refl K) hsub
  · intro e he i hi name m' hm'
    rw [filed_addMember] at hi
    obtain ⟨⟨decl, hmem, hname, hspec⟩, hknown⟩ := h.cached.cached e he i hi name m' hm'
    exact ⟨⟨decl, hdecl e hmem, hname, hspec⟩, hknown.mono (Set.Subset.refl K) hsub⟩

end TypeTable

end CallSites
