import CallSites.Proofs.Program.History

/-!
# The types of cells

A cell has two lives.  Until it is bound its field has the non-generic cache cell type and nothing
else about it can be read (`Cell.Open`).  From then on its field, its target and its create method
all speak of one and the same instance, the generic cache cell type over the callable, and never
change again (`Cell.Bound`).

The target and the create method come from the table of members.  For the create method one has to
know more than what is substituted: its declared type is the generic cache cell type over its own
type parameter, so substituting gives *some* instance over the callable, and it is the type of the
cell because instances are interned.

`cell_typing` says that a cell is in one of its two lives after every history.
-/

namespace CallSites

/-! ## The two lives of a cell -/

/-- The cell has not been bound. -/
structure Cell.Open (p : Platform) (w : World) (c : Cell) : Prop where
  not_final : w.store.isFinal c.field = false
  type : ∃ x, p.cell = .ok x ∧ w.store.fieldType c.field = some x
  target : ∃ d, p.genericCell? = some d ∧
    w.store.types.member? d CellMember.target.name = some (w.store.target c)
  /-- Neither the type nor the callable nor the create method can be read. -/
  unreadable : ∃ e, c.binding w.store = .error e ∧ e.isInternal = true

/-- The cell has been bound, and this is what it is bound to. -/
structure Cell.Bound (p : Platform) (w : World) (c : Cell) (b : Binding) : Prop where
  readable : c.binding w.store = .ok b
  final : w.store.isFinal c.field = true
  type : w.store.fieldType c.field = some b.type.ty
  generic : p.genericCell? = some b.type.definition
  args : b.type.args = [b.callable.ty]
  /-- There is no other instance over the callable. -/
  unique : ∀ i : Instance, w.Exists p i.ty → i.definition = b.type.definition →
    i.args = [b.callable.ty] → i = b.type
  target : w.store.target c = b.target
  target_type : b.target.type = some b.callable.ty
  target_container : b.target.container = b.type.ty
  create_type : b.create.type = some b.type.ty
  create_container : b.create.container = b.type.ty
  /-- The type of the field cannot be set again. -/
  locked : ∀ x, ∃ e, (c.field.setType x).run w.store = (.error e, w.store)

/-! ## Members of the generic cache cell type -/

lemma CellMember.name_inj {m m' : CellMember} (h : m.name = m'.name) : m = m' := by
  cases m with
  | target =>
      cases m' with
      | target => rfl
      | create => exact absurd h (by decide)
  | create =>
      cases m' with
      | target => exact absurd h (by decide)
      | create => rfl

lemma Platform.cellMember_eq_ok {p : Platform} {name : String} {m : Member}
    (h : p.cellMember name = .ok m) :
    ∃ d, p.genericCell? = some d ∧ ({} : TypeTable).member? d name = some m := by
  rw [cellMember] at h
  split at h
  · cases h
  · next hm =>
      cases h
      exact Option.bind_eq_some_iff.mp hm

/-- Members of a definition depend on the table only through what has been added to it. -/
lemma TypeTable.member?_of_added_eq_nil {t : TypeTable} {d : Definition}
    (h : (t.definition d).added = []) (name : String) :
    t.member? d name = ({} : TypeTable).member? d name := by
  have hdecl : t.declared d = ({} : TypeTable).declared d := congrArg (d.declarations ++ ·) h
  rw [member?_eq, member?_eq, hdecl]

section Binding

variable {p : Platform} {K : Set Ty} {t : TypeTable} {b : Binding}

/-- What the type of a cell keeps under the name of one of its members specialises that member. -/
lemma Binding.Proper.specialises (hb : b.Proper p K t) (h : t.Sound K)
    (hplain : ∀ d, (t.definition d).added = []) {k : CellMember} {m : Member}
    (hm : (t.instanceState b.type).members.find? k.name = some m) :
    (∃ n, p.binder? = some n ∧ m.Specialises (b.type.definition.cellDeclaration n k) b.type) ∧
      KnownType K t m.type := by
  obtain ⟨⟨decl, hdecl, hname, hspec⟩, hknown, -⟩ := h.kept_specialises hb.known hm
  rw [TypeTable.declared, hplain, List.append_nil] at hdecl
  obtain ⟨n, k', hn, rfl⟩ := Platform.mem_declarations_genericCell hb.generic hdecl
  have hk : k'.name = k.name := by
    cases k' <;> exact hname
  obtain rfl := CellMember.name_inj hk
  exact ⟨⟨n, hn, hspec⟩, hknown⟩

/-- Substituting for the type parameter of the generic cache cell type gives the callable. -/
lemma Binding.Proper.eq_of_replaced (hb : b.Proper p K t) {x : Ty}
    (h : b.type.Replaced (.param b.type.definition 0) x) : x = b.callable.ty := by
  have harg := h.getElem?_of_own
  rw [hb.args] at harg
  exact (Option.some.inj harg).symm

/-- There is one instance over the callable. -/
lemma Binding.Proper.eq_type (hb : b.Proper p K t) (h : t.Sound K) {i : Instance}
    (hi : i.ty.Known K t) (hdef : i.definition = b.type.definition)
    (hargs : i.args = [b.callable.ty]) : i = b.type :=
  h.interned.eq_of_args_eq hb.known.1 (hdef ▸ hi.2) hb.known.2 (hargs.trans hb.args.symm)

lemma Binding.Proper.target_spec (hb : b.Proper p K t) (h : t.Sound K)
    (hplain : ∀ d, (t.definition d).added = []) :
    b.target.type = some b.callable.ty ∧ b.target.container = b.type.ty := by
  obtain ⟨⟨n, -, hspec⟩, -⟩ := hb.specialises h hplain hb.target
  obtain ⟨x, hx, hrep⟩ := hspec.type.exists_some
  rw [hx, hb.eq_of_replaced hrep]
  exact ⟨rfl, hspec.container⟩

/-- The create method returns the type of the cell: it returns an instance over the callable, and
there is only one. -/
lemma Binding.Proper.create_spec (hb : b.Proper p K t) (h : t.Sound K)
    (hplain : ∀ d, (t.definition d).added = []) :
    b.create.type = some b.type.ty ∧ b.create.container = b.type.ty := by
  obtain ⟨⟨n, -, hspec⟩, hknown⟩ := hb.specialises h hplain hb.create
  obtain ⟨x, hx, hrep⟩ := hspec.type.exists_some
  refine ⟨?_, hspec.container⟩
  obtain ⟨-, -, -, harity, -⟩ := Platform.genericCell?_eq_some hb.generic
  have hparams : b.type.definition.params = [.param b.type.definition 0] := by
    rw [Definition.params, harity]
    rfl
  -- the declared type is an instance, so what replaces it is an instance over replaced arguments
  rw [Instance.ty, Definition.self, hparams] at hrep
  cases hrep with
  | @inst _ _ n' _ args' hargs =>
      rw [List.forall₂_cons_left_iff] at hargs
      obtain ⟨y, ys, hy, hys, rfl⟩ := hargs
      obtain rfl := List.forall₂_nil_left_iff.mp hys
      obtain rfl := hb.eq_of_replaced hy
      have htype : (⟨b.type.definition, n', [b.callable.ty]⟩ : Instance) = b.type :=
        hb.eq_type h (hknown _ hx) rfl rfl
      rw [hx, ← htype]
      rfl

end Binding

/-! ## After every history -/

section World

variable {p : Platform} {w : World} {c : Cell}

lemma Cell.binding_of_find? {s : Store} {b : Binding} (h : s.binding? c = some b) :
    c.binding s = .ok b := by
  rw [Cell.binding, h]
  rfl

/-- A field that has its final type keeps it. -/
lemma Field.run_setType_of_final {f : Field} {s : Store} (h : s.isFinal f = true) (x : Option Ty) :
    ∃ e, (f.setType x).run s = (.error e, s) := by
  rw [Field.setType, run_bind, run_get]
  simp only [h, if_true]
  exact ⟨_, rfl⟩

lemma World.Valid.open_of_unbound (h : w.Valid p) (hc : c ∈ w.cells)
    (hunbound : w.store.binding? c = none) : c.Open p w := by
  obtain ⟨hproper, -, hopen⟩ := h.cells c hc
  have hnone := hopen hunbound
  obtain ⟨d, hd, hmember⟩ := Platform.cellMember_eq_ok hproper.target
  refine
    { not_final := Store.isFinal_eq_false_iff.mpr hnone
      type := ⟨c.provisional, hproper.provisional, ?_⟩
      target := ⟨d, hd, ?_⟩
      unreadable := ?_ }
  · rw [Store.fieldType, hnone]
    exact hproper.field
  · rw [TypeTable.member?_of_added_eq_nil (h.plain d), hmember, Store.target, hunbound]
  · rw [Cell.binding, hunbound]
    exact ⟨_, rfl, rfl⟩

lemma World.Valid.bound_of_binding (h : w.Valid p) {b : Binding}
    (hb : w.store.binding? c = some b) : c.Bound p w b := by
  obtain ⟨hfinal, hproper⟩ := h.bindings _ b hb
  obtain ⟨htarget, htarget'⟩ := hproper.target_spec h.types h.plain
  obtain ⟨hcreate, hcreate'⟩ := hproper.create_spec h.types h.plain
  have hisFinal : w.store.isFinal c.field = true := by
    rw [Store.isFinal, OrderedMap.contains, hfinal, Option.isSome_some]
  exact
    { readable := Cell.binding_of_find? hb
      final := hisFinal
      type := by rw [Store.fieldType, hfinal]
      generic := hproper.generic
      args := hproper.args
      unique := fun i hi => hproper.eq_type h.types hi
      target := by rw [Store.target, hb]
      target_type := htarget
      target_container := htarget'
      create_type := hcreate
      create_container := hcreate'
      locked := Field.run_setType_of_final hisFinal }

end World

/-- **The two-phase typing of cells.**  After every history, whatever has succeeded or failed in it,
an allocated cell is either unbound and open, or it is bound, its field, its target and its create
method agree on its type, and it stays bound to the same from then on. -/
theorem cell_typing {p : Platform} {w : World} (hw : (World.initial p).Run p w) {c : Cell}
    (hc : c ∈ w.cells) :
    (w.store.binding? c = none → c.Open p w) ∧
    ∀ b, w.store.binding? c = some b → c.Bound p w b ∧
      ∀ w', w.Run p w' →
        c ∈ w'.cells ∧ w'.store.binding? c = some b ∧ c.Bound p w' b := by
  have h := hw.valid_of_initial
  refine ⟨h.open_of_unbound hc, fun b hb => ⟨h.bound_of_binding hb, fun w' hw' => ?_⟩⟩
  obtain ⟨h', hg, -, hcells⟩ := hw'.valid h
  have hb' : w'.store.binding? c = some b := hg.bindings _ b hb
  exact ⟨hcells hc, hb', h'.bound_of_binding hb'⟩

/-- A site is begun, which leaves its cell open, and resolved, which binds it. -/
theorem cell_typing_of_site :
    let f : SiteFactory := ⟨0, .ofPlatform .standard, ⟨0, "", "Program"⟩, ⟨1, ""⟩⟩
    let w := (World.initial .standard).perform (.beginSite f "call")
    ∃ c b, c ∈ w.cells ∧ c.Open .standard w ∧
      c.Bound .standard (w.perform (.resolveSite ⟨f, c⟩ ⟨[], none⟩)) b := by
  intro f w
  have hsite : (w.cells.any fun c => (w.store.binding? c).isNone &&
      ((w.perform (.resolveSite ⟨f, c⟩ ⟨[], none⟩)).store.binding? c).isSome) = true := by
    unfold w f
    decide +kernel
  obtain ⟨c, hc, hbind⟩ := List.any_eq_true.mp hsite
  rw [Bool.and_eq_true, Option.isNone_iff_eq_none, Option.isSome_iff_exists] at hbind
  obtain ⟨hopen, b, hbound⟩ := hbind
  have hw : (World.initial .standard).Run .standard w := .step .refl rfl
  have hw' : (World.initial .standard).Run .standard (w.perform (.resolveSite ⟨f, c⟩ ⟨[], none⟩)) :=
    .step hw ⟨rfl, hc, by simp, knownType_none⟩
  refine ⟨c, b, hc, (cell_typing hw hc).1 hopen, ?_⟩
  exact ((cell_typing hw' (List.mem_append_right _ hc)).2 b hbound).1

end CallSites
