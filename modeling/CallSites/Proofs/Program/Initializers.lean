import CallSites.Proofs.Program.CellTyping
import CallSites.Proofs.Program.Effects

/-!
# Static initializers

A static initializer creates cells, one after the other: a binder is created, the create method of
a site is called with it, and the result is stored in the field of the site.  The cells may come
from any number of factories that share the container, and between two of them anything may happen
to the program.

A `World.Chronicle` is a history of genuine requests together with the creations of cells that have
succeeded in it.  `Store.Recorded` says that the record of the program tells the same story: the
static initializers hold the code of the creations and nothing else, no field is stored to twice,
and the cells of all sites are in the containers that the sites name.  What each entry of the record
can come to is known from `World.Effect`, and there is one lemma for each of these.

That the right types are stored is then a matter of the two lives of a cell: a site that has been
listed has a cell that is bound, so its field is final and has the type that its create method
returns.
-/

namespace CallSites

/-! ## Chronicles -/

/-- A program that has come about by genuine requests, with the cells that have been created in
static initializers: the site of each and the binder it was created from, oldest first. -/
abbrev World.Chronicle (p : Platform) : List (Site × Ty) → World → Prop :=
  World.Recounts p (fun e => e.request.Genuine e.world) Event.creations

/-- The code for those of the creations that are of cells in a container. -/
def creationCode (log : List (Site × Ty)) (c : Container) : List Instr :=
  (log.filter fun e => e.1.container.serial = c.serial).flatMap fun e => e.1.bootstrapCode e.2

/-- The cell is in a field that has been declared for it. -/
structure Store.Houses (s : Store) (c : Cell) : Prop where
  field : c.field = c.factory.container.fieldOf c.name (some c.provisional) .owner true
  found : (s.containerFields c.factory.container).find? c.name = some c.field

/-- **The record tells what has happened**, for the cells that have been allocated and those that
have been created in static initializers. -/
structure Store.Recorded (log : List (Site × Ty)) (L : List Cell) (s : Store) : Prop where
  cells : ∀ c ∈ L, s.Houses c
  sites : ∀ f, ∀ x ∈ s.factorySites f, x.cell ∈ L ∧ x.container = x.cell.factory.container
  resolved : ∀ id ∈ s.resolved, ∃ c ∈ L, c.field.id = id
  listed : ∀ e ∈ log, ∃ f, e.1 ∈ s.factorySites f
  code : ∀ c, s.initializer c = creationCode log c
  bootstrapped : ∀ id, id ∈ s.bootstrapped ↔ id ∈ log.map fun e => e.1.place.id
  once : (log.map fun e => e.1.place.id).Nodup

/-! ## The entries of the record -/

namespace Store

variable {log : List (Site × Ty)} {L : List Cell} {s s' : Store}

lemma Houses.id_eq {c : Cell} (h : s.Houses c) :
    c.field.id = .declared c.factory.container.serial c.name := by
  rw [h.field]
  rfl

lemma Houses.declares {c : Cell} (h : s.Houses c) : s.Declares c.field.id := by
  have hfound : ((s.containerFields c.factory.container).find? c.name).isSome = true := by
    rw [h.found]
    rfl
  rw [h.id_eq]
  exact hfound

lemma Houses.congr {c : Cell} (h : s.Houses c) (hfields : s'.fields = s.fields) :
    s'.Houses c := by
  refine ⟨h.field, ?_⟩
  rw [containerFields, hfields]
  exact h.found

lemma Recorded.congr (h : s.Recorded log L) (hrecord : s'.record = s.record) :
    s'.Recorded log L := by
  simp only [record, Prod.mk.injEq] at hrecord
  obtain ⟨hfields, hsites, hresolved, hcode, hbootstrapped⟩ := hrecord
  have hlists : s'.factorySites = s.factorySites := by
    funext f
    rw [factorySites, hsites, factorySites]
  refine
    { cells := fun c hc => (h.cells c hc).congr hfields
      sites := hlists ▸ h.sites
      resolved := hresolved ▸ h.resolved
      listed := hlists ▸ h.listed
      code := fun c => ?_
      bootstrapped := hbootstrapped ▸ h.bootstrapped
      once := h.once }
  rw [initializer, hcode]
  exact h.code c

lemma find?_containerFields_declare (s : Store) (c c' : Container) (name name' : String)
    (f : Field) :
    ((s.declare c name f).containerFields c').find? name' =
      if c.serial = c'.serial ∧ name = name' then some f
      else (s.containerFields c').find? name' := by
  rw [containerFields, declare, OrderedMap.getD_insert]
  by_cases hc : c.serial = c'.serial
  · have hsame : s.containerFields c = s.containerFields c' := congrArg (s.fields.getD · ∅) hc
    rw [if_pos hc, OrderedMap.find?_insert, hsame]
    simp only [hc, true_and]
  · rw [if_neg hc, if_neg fun h => hc h.1]
    rfl

/-- A field that is declared under a free name leaves the others where they are. -/
lemma find?_declare_of_find? {c c' : Container} {name name' : String} {f' : Field}
    (h : (s.containerFields c').find? name' = some f')
    (hfree : (s.containerFields c).contains name = false) (f : Field) :
    ((s.declare c name f).containerFields c').find? name' = some f' := by
  rw [find?_containerFields_declare, if_neg, h]
  rintro ⟨hc, rfl⟩
  have hsame : s.containerFields c = s.containerFields c' := congrArg (s.fields.getD · ∅) hc
  rw [OrderedMap.contains, hsame, h] at hfree
  cases hfree

lemma Houses.declare {c' : Cell} (h : s.Houses c') {c : Container} {name : String}
    (hfree : (s.containerFields c).contains name = false) (f : Field) :
    (s.declare c name f).Houses c' :=
  ⟨h.field, find?_declare_of_find? h.found hfree f⟩

lemma Recorded.declare (h : s.Recorded log L) {c : Container} {name : String}
    (hfree : (s.containerFields c).contains name = false) (f : Field) :
    (s.declare c name f).Recorded log L :=
  { h with cells := fun c' hc' => (h.cells c' hc').declare hfree f }

lemma Recorded.add_cell (h : s.Recorded log L) {c : Cell} (hc : s.Houses c) :
    s.Recorded log (c :: L) where
  cells := List.forall_mem_cons.mpr ⟨hc, h.cells⟩
  sites f x hx := (h.sites f x hx).imp_left (List.mem_cons_of_mem c)
  resolved id hid := (h.resolved id hid).imp fun _ hc' => hc'.imp_left (List.mem_cons_of_mem c)
  listed := h.listed
  code := h.code
  bootstrapped := h.bootstrapped
  once := h.once

lemma Recorded.mark (h : s.Recorded log L) {c : Cell} (hc : c ∈ L) :
    (s.mark c.field.id).Recorded log L :=
  { h with
    cells := fun c' hc' => (h.cells c' hc').congr rfl
    resolved := List.forall_mem_cons.mpr ⟨⟨c, hc, rfl⟩, h.resolved⟩ }

lemma factorySites_list (s : Store) (f g : SiteFactory) (x : Site) :
    (s.list f x).factorySites g =
      if f.serial = g.serial then s.factorySites f ++ [x] else s.factorySites g := by
  rw [factorySites, Store.list, OrderedMap.getD_insert]
  rfl

lemma mem_factorySites_list {f g : SiteFactory} {x y : Site} :
    y ∈ (s.list f x).factorySites g ↔ f.serial = g.serial ∧ y = x ∨ y ∈ s.factorySites g := by
  rw [factorySites_list]
  by_cases hserial : f.serial = g.serial
  · have hsame : s.factorySites f = s.factorySites g := congrArg (s.sites.getD · []) hserial
    rw [if_pos hserial, hsame, List.mem_append, List.mem_singleton, or_comm]
    simp only [hserial, true_and]
  · simp only [hserial, if_false, false_and, false_or]

lemma Recorded.list (h : s.Recorded log L) {f : SiteFactory} {x : Site} (hcell : x.cell ∈ L)
    (hcontainer : x.container = x.cell.factory.container) : (s.list f x).Recorded log L := by
  refine
    { h with
      cells := fun c hc => (h.cells c hc).congr rfl
      sites := fun g y hy => ?_
      listed := fun e he => ?_ }
  · rcases mem_factorySites_list.mp hy with ⟨-, rfl⟩ | hy
    · exact ⟨hcell, hcontainer⟩
    · exact h.sites g y hy
  · obtain ⟨g, hg⟩ := h.listed e he
    exact ⟨g, mem_factorySites_list.mpr (.inr hg)⟩

lemma creationCode_append (log : List (Site × Ty)) (x : Site) (t : Ty) (c : Container) :
    creationCode (log ++ [(x, t)]) c =
      creationCode log c ++ if x.container.serial = c.serial then x.bootstrapCode t else [] := by
  rw [creationCode, List.filter_append, List.flatMap_append, ← creationCode]
  by_cases hserial : x.container.serial = c.serial <;> simp [hserial]

lemma isBootstrapped_eq_false_iff {x : Site} :
    s.isBootstrapped x = false ↔ x.place.id ∉ s.bootstrapped := by
  rw [isBootstrapped, List.contains_eq_mem, decide_eq_false_iff_not]

lemma Recorded.create (h : s.Recorded log L) {f : SiteFactory} {x : Site}
    (hx : x ∈ s.factorySites f) (hnew : s.isBootstrapped x = false) (t : Ty) :
    (s.create x t).Recorded (log ++ [(x, t)]) L where
  cells c hc := (h.cells c hc).congr rfl
  sites := h.sites
  resolved := h.resolved
  listed e he := by
    rcases List.mem_append.mp he with he | he
    · exact h.listed e he
    · rw [List.mem_singleton.mp he]
      exact ⟨f, hx⟩
  code c := by
    rw [initializer, Store.create, OrderedMap.getD_insert, creationCode_append, ← h.code c]
    by_cases hserial : x.container.serial = c.serial
    · have hsame : s.initializer x.container = s.initializer c :=
        congrArg (s.initializers.getD · []) hserial
      rw [if_pos hserial, if_pos hserial, hsame]
    · rw [if_neg hserial, if_neg hserial, List.append_nil]
      rfl
  bootstrapped id := by
    rw [List.map_append, List.mem_append, ← h.bootstrapped, or_comm]
    exact List.mem_cons.trans (or_congr_left List.mem_singleton.symm)
  once := by
    rw [List.map_append, List.map_singleton, ← List.concat_eq_append]
    refine h.once.concat ?_
    rw [← h.bootstrapped]
    exact isBootstrapped_eq_false_iff.mp hnew

end Store

/-! ## Whole chronicles -/

/-- The record tells what has happened, and listed sites have bound cells. -/
structure World.Told (log : List (Site × Ty)) (w : World) : Prop where
  recorded : w.store.Recorded log w.cells
  bound : ∀ f, ∀ x ∈ w.store.factorySites f,
    ∃ b, w.store.binding? x.cell = some b ∧ x.create = b.create

namespace World

variable {p : Platform} {log : List (Site × Ty)} {w w' : World}

/-- A site that was listed before still has its cell bound to the same. -/
lemma Told.bound_of_grows (h : w.Told log) (hg : w.store.Grows w'.store) {f : SiteFactory}
    {x : Site} (hx : x ∈ w.store.factorySites f) :
    ∃ b, w'.store.binding? x.cell = some b ∧ x.create = b.create :=
  (h.bound f x hx).imp fun b hb => ⟨hg.bindings _ b hb.1, hb.2⟩

lemma factorySites_of_record {s s' : Store} (h : s'.record = s.record) (f : SiteFactory) :
    s'.factorySites f = s.factorySites f := by
  simp only [Store.record, Prod.mk.injEq] at h
  rw [Store.factorySites, h.2.1, Store.factorySites]

/-- The record has come to that of a store with the same sites. -/
lemma Told.of_record {log' : List (Site × Ty)} {s : Store} (h : w.Told log)
    (hg : w.store.Grows w'.store) (hrecord : w'.store.record = s.record)
    (hs : s.Recorded log' w'.cells) (hsites : s.factorySites = w.store.factorySites) :
    w'.Told log' := by
  refine ⟨hs.congr hrecord, fun f x hx => ?_⟩
  rw [factorySites_of_record hrecord, hsites] at hx
  exact h.bound_of_grows hg hx

/-- **One request.** -/
lemma Told.effect (h : w.Told log) (hg : w.store.Grows w'.store) {more : List (Site × Ty)}
    (heffect : w.Effect w' more) : w'.Told (log ++ more) := by
  cases heffect with
  | none hrecord hcells =>
      rw [List.append_nil]
      exact h.of_record hg hrecord (hcells ▸ h.recorded) rfl
  | field hfree hrecord hcells =>
      rw [List.append_nil]
      exact h.of_record hg hrecord (hcells ▸ h.recorded.declare hfree _) rfl
  | @cell c name hfield hfree hrecord hcells =>
      obtain rfl : c.name = name := congrArg Field.name hfield
      have hhouses : (w.store.declare c.factory.container c.name c.field).Houses c :=
        ⟨hfield, by rw [Store.find?_containerFields_declare, if_pos ⟨rfl, rfl⟩]⟩
      rw [List.append_nil]
      exact h.of_record hg hrecord (hcells ▸ (h.recorded.declare hfree _).add_cell hhouses) rfl
  | attempt hcell hrecord hcells =>
      rw [List.append_nil]
      exact h.of_record hg hrecord (hcells ▸ h.recorded.mark hcell) rfl
  | @site b sh x hcell hfactory hx hrecord hcells =>
      have hcontainer : x.container = x.cell.factory.container := by
        rw [hx.container, hx.cell, hfactory]
        rfl
      rw [List.append_nil]
      refine ⟨hcells ▸ ((h.recorded.mark hcell).list (hx.cell ▸ hcell) hcontainer).congr hrecord,
        fun f y hy => ?_⟩
      rw [factorySites_of_record hrecord] at hy
      rcases Store.mem_factorySites_list.mp hy with ⟨-, rfl⟩ | hy
      · rw [hx.cell]
        exact hx.bound
      · exact h.bound_of_grows hg hy
  | creation hx hnew hrecord hcells =>
      exact h.of_record hg hrecord (hcells ▸ h.recorded.create hx hnew _) rfl

lemma told_initial (p : Platform) : (World.initial p).Told [] where
  recorded :=
    { cells := fun c hc => by cases hc
      sites := fun f x hx => by cases hx
      resolved := fun id hid => by cases hid
      listed := fun e he => by cases he
      code := fun c => rfl
      bootstrapped := fun id => Iff.rfl
      once := List.nodup_nil }
  bound f x hx := by cases hx

/-- **A whole chronicle.** -/
theorem Chronicle.told (h : Chronicle p log w) : w.Told log := by
  induction h using World.Recounts.induction with
  | initial => exact told_initial p
  | step h hr hgenuine ih =>
      exact ih.effect (perform_valid h.valid hr).2 (perform_effect hr hgenuine)

end World

/-! ## What is stored -/

/-- The create method of a cell that is bound is the static one that takes a binder. -/
lemma Binding.Proper.create_method {p : Platform} {K : Set Ty} {t : TypeTable} {b : Binding}
    (hb : b.Proper p K t) (h : t.Sound K) (hplain : ∀ d, (t.definition d).added = []) :
    b.create.kind = .method ∧ b.create.static = true ∧
      ∃ n, p.binder? = some n ∧ b.create.params = [⟨"binder", some (.named n), false⟩] := by
  obtain ⟨⟨n, hn, hspec⟩, -⟩ := hb.specialises h hplain hb.create
  refine ⟨hspec.kind, hspec.static, n, hn, ?_⟩
  obtain ⟨q, qs, hq, hqs, hparams⟩ := List.forall₂_cons_left_iff.mp hspec.params
  obtain rfl := List.forall₂_nil_left_iff.mp hqs
  obtain ⟨x, hx, hrep⟩ := hq.type.exists_some
  cases hrep
  obtain ⟨name, type, byRef⟩ := q
  obtain rfl : name = "binder" := hq.name
  obtain rfl : byRef = false := hq.byRef
  obtain rfl : type = some (.named n) := hx
  exact hparams

/-- The cell of a site can be created in its container: the field is declared there, it is final,
and it has the type that the create method returns, which is a static method of that same type. -/
structure Site.Creatable (p : Platform) (s : Store) (x : Site) : Prop where
  declared : (s.containerFields x.container).find? x.place.name = some x.place
  container : x.place.container = some x.container
  final : s.isFinal x.place = true
  type : s.fieldType x.place = x.create.type
  own : x.create.type = some x.create.container
  kind : x.create.kind = .method
  static : x.create.static = true
  params : ∃ n, p.binder? = some n ∧ x.create.params = [⟨"binder", some (.named n), false⟩]

lemma World.Chronicle.creatable {p : Platform} {log : List (Site × Ty)} {w : World}
    (h : World.Chronicle p log w) {f : SiteFactory} {x : Site} (hx : x ∈ w.store.factorySites f) :
    x.Creatable p w.store := by
  obtain ⟨b, hb, hcreate⟩ := h.told.bound f x hx
  obtain ⟨hcell, hcontainer⟩ := h.told.recorded.sites f x hx
  have hhouses := h.told.recorded.cells _ hcell
  have hbound := h.valid.bound_of_binding hb
  obtain ⟨hkind, hstatic, hparams⟩ :=
    (h.valid.bindings _ b hb).2.create_method h.valid.types h.valid.plain
  refine
    { declared := hcontainer ▸ hhouses.found
      container := ?_
      final := hbound.final
      type := ?_
      own := ?_
      kind := hcreate ▸ hkind
      static := hcreate ▸ hstatic
      params := hcreate ▸ hparams }
  · rw [Site.place, hhouses.field, hcontainer]
    rfl
  · rw [hcreate, hbound.create_type]
    exact hbound.type
  · rw [hcreate, hbound.create_type, hbound.create_container]

end CallSites
