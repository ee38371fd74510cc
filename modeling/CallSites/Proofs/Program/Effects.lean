import CallSites.Proofs.Program.Calls

/-!
# What requests leave on record

Which fields are declared, which sites are listed, which builders have been tried and what is in the
static initializers is the *record* of a program.  Most requests do not write to it, and those that
do write one entry: a field, a mark on a builder, a site with such a mark, or the code that creates
the cell of a site.  `World.Effect` lists these, and `World.perform_effect` says that there are no
others, so what holds of the record after every history need only be shown for these.

A request is `Genuine` if it goes by the rules of the objects it is about: a builder is used with a
cell of its own factory, a site is bootstrapped only after it has been listed, and static
initializers are written by bootstrapping only.
-/

namespace CallSites

/-! ## Writing to the record -/

/-- The name of the cell that is allocated for a hint after a number of others. -/
def cellName (hint : String) (n : Nat) : String := "<>" ++ hint ++ "'" ++ toString n

namespace Store

/-- What is on record about fields, sites and static initializers. -/
def record (s : Store) := (s.fields, s.sites, s.resolved, s.initializers, s.bootstrapped)

/-- The store in which a name has been given out. -/
def giveName (s : Store) (f : CellFactory) : Store :=
  { s with named := s.named.insert f.serial (s.allocated f + 1) }

/-- The store in which the cell of a site is created from a binder. -/
def create (s : Store) (x : Site) (binder : Ty) : Store :=
  { s with
    initializers :=
      s.initializers.insert x.container.serial (s.initializer x.container ++ x.bootstrapCode binder)
    bootstrapped := x.place.id :: s.bootstrapped }

variable {s s' : Store}

lemma record_list (h : s'.record = s.record) (f : SiteFactory) (x : Site) :
    (s'.list f x).record = (s.list f x).record := by
  simp only [record, Prod.mk.injEq] at h
  simp only [record, list, factorySites, h.1, h.2]

end Store

/-! ## Runs -/

section Runs

variable {p : Platform} {s s' : Store}

lemma CellFactory.run_nextName (f : CellFactory) (hint : String) (s : Store) :
    (f.nextName hint).run s = (.ok (cellName hint (s.allocated f)), s.giveName f) := rfl

lemma Container.run_declare (c : Container) (name : String) (type : Option Ty) (access : Access)
    (static : Bool) (s : Store) :
    (c.declare name type access static).run s =
      if (s.containerFields c).contains name then
        (.error (.error (.cause (.fieldDeclared name c.text))), s)
      else
        (.ok (c.fieldOf name type access static),
          s.declare c name (c.fieldOf name type access static)) := by
  rw [Container.declare, run_bind, run_get]
  dsimp only
  split <;> rfl

/-- The next field in which a factory stores a cell. -/
def CellFactory.nextField (f : CellFactory) (hint : String) (base : Ty) (s : Store) : Field :=
  f.container.fieldOf (cellName hint (s.allocated f)) (some base) .owner true

/-- The store in which a cell has been allocated. -/
def Store.allot (s : Store) (f : CellFactory) (hint : String) (base : Ty) : Store :=
  (s.giveName f).declare f.container (cellName hint (s.allocated f)) (f.nextField hint base s)

/-- Allocating a cell fails if the platform lacks something or if the name is taken. -/
lemma CellFactory.run_allocate {f : CellFactory} (hf : f.services = .ofPlatform p) (hint : String)
    (s : Store) :
    (f.allocate hint).run s =
      match p.cell, p.cellMember CellMember.target.name with
      | .error e, _ => (.error (.error e), s)
      | .ok _, .error e => (.error (.error e), s)
      | .ok base, .ok target =>
        if (s.containerFields f.container).contains (cellName hint (s.allocated f)) then
          (.error (.error (.context ("cannot allocate cache cell " ++ Text.quote hint ++ ": ")
            (.cause (.fieldDeclared (cellName hint (s.allocated f)) f.container.text)))),
            s.giveName f)
        else (.ok ⟨f, f.nextField hint base s, base, target⟩, s.allot f hint base) := by
  have hcell : f.services.cell.run s = (StoreM.ofExcept p.cell).run s := by rw [hf]; rfl
  have hmember : (f.services.cellMember CellMember.target.name).run s =
      (StoreM.ofExcept (p.cellMember CellMember.target.name)).run s := by rw [hf]; rfl
  rw [CellFactory.allocate, run_bind, hcell]
  rcases p.cell with e | base
  · rfl
  · simp only [StoreM.ofExcept, run_pure, run_bind, hmember]
    rcases p.cellMember CellMember.target.name with e | target
    · rfl
    · simp only [run_pure, f.run_nextName, run_withContext, Container.run_declare]
      have hsame : (s.giveName f).containerFields f.container = s.containerFields f.container := rfl
      by_cases htaken :
          (s.containerFields f.container).contains (cellName hint (s.allocated f)) = true
      · simp only [hsame, htaken, if_true]
        rfl
      · simp only [hsame, htaken, if_false, Bool.false_eq_true]
        rfl

/-- A cell is created in the static initializer unless it has been or there is no binder. -/
lemma Site.run_bootstrap (x : Site) (binder : Option Ty) (s : Store) :
    (x.bootstrap binder).run s =
      if s.isBootstrapped x then (.error (.error (.cause (.bootstrapped x.cell.name))), s)
      else
        match binder with
        | none => (.error (.error (.fault (.noBinder x.cell.name))), s)
        | some t => (.ok (), s.create x t) := by
  unfold Site.bootstrap
  rw [run_bind, run_get]
  dsimp only
  split
  · rfl
  · cases binder with
    | none => rfl
    | some t =>
        simp only [Site.bootstrapCode, List.forM_eq_forM, List.forM_cons, List.forM_nil, run_bind,
          Container.emit, run_modify, run_pure, Store.initializer, OrderedMap.getD_insert_self,
          OrderedMap.insert_insert_self, Store.create, List.append_assoc, List.cons_append,
          List.nil_append]

lemma Spares.types_record {α : Type} (x : TypeM α) : Spares Store.record x.toStoreM s :=
  Spares.toStoreM rfl

lemma Spares.resolve_record (y : Synthesizer) (sh : Shape) :
    Spares Store.record (y.resolve sh) s :=
  Spares.resolve (fun _ _ _ => Spares.types_record _) (fun _ _ => rfl) (fun _ _ => rfl) y sh

lemma Spares.bindShape_record (b : SiteBuilder) (sh : Shape) :
    Spares Store.record (b.bindShape sh) s :=
  Spares.bindShape (fun _ _ => rfl) (fun _ _ => rfl) (fun _ _ => rfl) (fun _ _ => rfl)
    (fun _ _ => rfl) sh

lemma Spares.bindCell_tallies {c : Cell} (callable : Instance) :
    Spares Store.tallies (c.bind callable) s :=
  Spares.bindCell (fun _ _ => rfl) (fun _ _ => rfl) (fun _ _ => rfl) callable

/-- What a site is once it is resolved: it is in the cell of its builder, and its create method is
that of what the cell is bound to. -/
structure Site.Settled (b : SiteBuilder) (sh : Shape) (s : Store) (x : Site) : Prop where
  shape : x.shape = sh
  cell : x.cell = b.cell
  container : x.container = b.factory.container
  bound : ∃ a, s.binding? b.cell = some a ∧ x.create = a.create

/-- The create method is read from the cell after it has been bound. -/
lemma SiteBuilder.binding_of_bindShape {b : SiteBuilder} {sh : Shape} {a : Instance × Member}
    (hrun : (b.bindShape sh).run s = (.ok a, s')) :
    ∃ c, s'.binding? b.cell = some c ∧ a.2 = c.create := by
  rw [SiteBuilder.bindShape] at hrun
  obtain ⟨callable, s₁, -, hrun⟩ | ⟨e, -, he⟩ := run_bind_cases hrun
  · obtain ⟨_, s₂, -, hrun⟩ | ⟨e, -, he⟩ := run_bind_cases hrun
    · rw [run_bind, run_get] at hrun
      rcases hc : s₂.binding? b.cell with _ | c
      · simp only [Cell.binding, hc] at hrun
        cases hrun
      · simp only [Cell.binding, hc] at hrun
        cases hrun
        exact ⟨c, hc, rfl⟩
    · cases he
  · cases he

/-- **Resolving a site** marks its builder, and lists the site if all goes well. -/
lemma SiteBuilder.resolve_record {b : SiteBuilder} {sh : Shape} {o : Except Failure Site}
    (hrun : (b.resolve sh).run s = (o, s')) :
    s.isResolved b = true ∧ (∃ e, o = .error e) ∧ s' = s ∨
      s.isResolved b = false ∧
        ((∃ e, o = .error e) ∧ s'.record = (s.mark b.cell.field.id).record ∨
          ∃ x, o = .ok x ∧ x.Settled b sh s' ∧
            s'.record = ((s.mark b.cell.field.id).list b.factory x).record) := by
  rcases hdone : s.isResolved b with _ | _
  · rw [SiteBuilder.run_resolve hdone] at hrun
    refine .inr ⟨rfl, ?_⟩
    rcases hbind : (b.bindShape sh).run (s.mark b.cell.field.id) with ⟨e | a, s₁⟩
    · have hrecord := (Spares.bindShape_record b sh).of_run hbind
      rw [hbind] at hrun
      cases hrun
      exact .inl ⟨⟨_, rfl⟩, hrecord⟩
    · have hrecord := (Spares.bindShape_record b sh).of_run hbind
      rw [hbind] at hrun
      cases hrun
      obtain ⟨c, hc, hcreate⟩ := SiteBuilder.binding_of_bindShape hbind
      exact .inr ⟨_, rfl, ⟨rfl, rfl, rfl, c, hc, hcreate⟩, Store.record_list hrecord _ _⟩
  · rw [SiteBuilder.resolve, run_bind, run_get] at hrun
    simp only [hdone, if_true] at hrun
    cases hrun
    exact .inl ⟨rfl, ⟨_, rfl⟩, rfl⟩

end Runs

/-! ## Effects -/

/-- The request goes by the rules of the objects it is about. -/
def Request.Genuine (w : World) : Request → Prop
  | .resolveSite b _ | .resolveOperands b _ => b.cell.factory = b.factory.cells
  | .bootstrap x _ => ∃ f, x ∈ w.store.factorySites f
  | .emit .. => False
  | _ => True

/-- The creation of a cell that a request adds to a static initializer, if it succeeds: the site and
the binder. -/
def Request.creations (s : Store) : Request → List (Site × Ty)
  | .bootstrap x (some t) =>
    match ((x.bootstrap (some t)).run s).1 with
    | .ok _ => [(x, t)]
    | .error _ => []
  | _ => []

/-- The creations of cells in the course of a request. -/
def Event.creations (e : Event) : List (Site × Ty) := e.request.creations e.world.store

/-- What the record of a program can come to by one request, and which creations of cells it adds to
static initializers. -/
inductive World.Effect (w w' : World) : List (Site × Ty) → Prop
  /-- Nothing is written. -/
  | none (hrecord : w'.store.record = w.store.record) (hcells : w'.cells = w.cells) :
      Effect w w' []
  /-- A field is declared. -/
  | field {c : Container} {name : String} {type : Option Ty} {access : Access} {static : Bool}
      (hfree : (w.store.containerFields c).contains name = false)
      (hrecord : w'.store.record =
        (w.store.declare c name (c.fieldOf name type access static)).record)
      (hcells : w'.cells = w.cells) : Effect w w' []
  /-- A cell is allocated in a field that is declared for it. -/
  | cell {c : Cell} {name : String}
      (hfield : c.field = c.factory.container.fieldOf name (some c.provisional) .owner true)
      (hfree : (w.store.containerFields c.factory.container).contains name = false)
      (hrecord : w'.store.record = (w.store.declare c.factory.container name c.field).record)
      (hcells : w'.cells = c :: w.cells) : Effect w w' []
  /-- A builder is tried. -/
  | attempt {b : SiteBuilder} (hcell : b.cell ∈ w.cells)
      (hrecord : w'.store.record = (w.store.mark b.cell.field.id).record)
      (hcells : w'.cells = w.cells) : Effect w w' []
  /-- A site is resolved. -/
  | site {b : SiteBuilder} {sh : Shape} {x : Site} (hcell : b.cell ∈ w.cells)
      (hfactory : b.cell.factory = b.factory.cells) (hx : x.Settled b sh w'.store)
      (hrecord : w'.store.record = ((w.store.mark b.cell.field.id).list b.factory x).record)
      (hcells : w'.cells = w.cells) : Effect w w' []
  /-- The cell of a site is created. -/
  | creation {f : SiteFactory} {x : Site} {t : Ty} (hx : x ∈ w.store.factorySites f)
      (hnew : w.store.isBootstrapped x = false)
      (hrecord : w'.store.record = (w.store.create x t).record)
      (hcells : w'.cells = w.cells) : Effect w w' [(x, t)]

namespace World

variable {p : Platform} {w : World} {r : Request}

lemma Effect.of_spares {α : Type} {x : StoreM α} (hr : r.perform = Request.quiet x)
    (hx : Spares Store.record x w.store) : w.Effect (w.perform r) [] := by
  rcases hrun : x.run w.store with ⟨o, s⟩
  rw [World.perform_quiet hr hrun]
  exact .none (hx.of_run hrun) rfl

/-- A request for a cell, directly or for a site. -/
lemma Effect.of_allocate {f : CellFactory} (hf : f.services = .ofPlatform p) {hint : String}
    {o : Except Failure Cell} {s : Store} (hrun : (f.allocate hint).run w.store = (o, s))
    (hr : r.perform.run w.store = (o.map .cell, s)) : w.Effect (w.perform r) [] := by
  rw [World.perform, hr]
  rw [CellFactory.run_allocate hf] at hrun
  split at hrun
  · cases hrun
    exact .none rfl rfl
  · cases hrun
    exact .none rfl rfl
  · split at hrun
    · cases hrun
      exact .none rfl rfl
    · next hfree =>
        cases hrun
        exact .cell rfl (Bool.eq_false_iff.mpr hfree) rfl rfl

/-- A request to resolve a site, directly or with operands. -/
lemma Effect.of_resolve {b : SiteBuilder} {sh : Shape} {x : StoreM Site} (hcell : b.cell ∈ w.cells)
    (hfactory : b.cell.factory = b.factory.cells) (hr : r.perform = Request.quiet x)
    (hx : x.run w.store = (b.resolve sh).run w.store) : w.Effect (w.perform r) [] := by
  rcases hrun : (b.resolve sh).run w.store with ⟨o, s⟩
  rw [World.perform_quiet hr (hx.trans hrun)]
  obtain ⟨-, -, rfl⟩ | ⟨-, ⟨-, hrecord⟩ | ⟨x, -, hx, hrecord⟩⟩ := SiteBuilder.resolve_record hrun
  · exact .none rfl rfl
  · exact .attempt hcell hrecord rfl
  · exact .site hcell hfactory hx hrecord rfl

/-- **What requests leave on record.** -/
theorem perform_effect (hr : r.Allowed p w) (hgenuine : r.Genuine w) :
    w.Effect (w.perform r) (r.creations w.store) := by
  cases r with
  | types q =>
      rcases hrun : q.perform.run w.store.types with ⟨o, t⟩
      rw [World.perform_types hrun]
      exact .none rfl rfl
  | newRegistry unit => exact .of_spares rfl (Spares.fresh_bind (fun _ _ => rfl) _)
  | newUnits => exact .of_spares rfl (Spares.fresh_bind (fun _ _ => rfl) _)
  | forUnit u unit =>
      exact .of_spares rfl (Spares.forUnit (fun _ _ => rfl) (fun _ _ => rfl) u unit)
  | release u unit => exact .of_spares rfl (Spares.modify rfl)
  | newSynthesizer v q => exact .of_spares rfl (Spares.fresh_bind (fun _ _ => rfl) _)
  | newCells v c => exact .of_spares rfl (Spares.fresh_bind (fun _ _ => rfl) _)
  | newSites v c q => exact .of_spares rfl (Spares.newSites (fun _ _ => rfl) v c q)
  | loadOrCreate q k => exact .of_spares rfl (Spares.loadOrCreate (fun _ _ => rfl) q k)
  | resolve y sh => exact .of_spares rfl (Spares.resolve_record y sh)
  | callableType f ops =>
      exact .of_spares rfl (Spares.bind (Spares.derive f ops) fun sh _ _ =>
        Spares.resolve_record _ sh)
  | allocate f hint =>
      rcases hrun : (f.allocate hint).run w.store with ⟨o, s⟩
      refine .of_allocate hr hrun ?_
      rw [Request.perform, run_bind, hrun]
      cases o <;> rfl
  | bind c callable =>
      exact .of_spares rfl
        (Spares.bindCell (fun _ _ => rfl) (fun _ _ => rfl) (fun _ _ => rfl) callable)
  | bindWith f c callable =>
      refine .of_spares rfl (Spares.bindWith ?_)
      exact Spares.bindCell (fun _ _ => rfl) (fun _ _ => rfl) (fun _ _ => rfl) callable
  | beginSite f hint =>
      rcases hrun : (f.cells.allocate hint).run w.store with ⟨o, s⟩
      refine .of_allocate (f := f.cells) hr hrun ?_
      rw [Request.perform, run_bind, SiteFactory.beginSite, run_bind, hrun]
      cases o <;> rfl
  | resolveSite b sh => exact .of_resolve hr.2.1 hgenuine rfl rfl
  | resolveOperands b ops =>
      rcases hder : (b.factory.derive ops).run w.store with ⟨e | sh, s⟩
      all_goals have hs : s = w.store := (Spares.derive (π := id) b.factory ops).of_run hder
      · have hrun : (b.resolveOperands ops).run w.store = (.error e, w.store) := by
          rw [SiteBuilder.resolveOperands, run_bind, hder, hs]
        rw [World.perform_quiet rfl hrun]
        exact .none rfl rfl
      · have hrun : (b.resolveOperands ops).run w.store = (b.resolve sh).run w.store := by
          rw [SiteBuilder.resolveOperands, run_bind, hder, hs]
        exact .of_resolve hr.2.1 hgenuine rfl hrun
  | bootstrap x binder =>
      obtain ⟨f, hf⟩ := hgenuine
      have hrun := x.run_bootstrap binder w.store
      rcases hnew : w.store.isBootstrapped x with _ | _
      · simp only [hnew, if_false, Bool.false_eq_true] at hrun
        cases binder with
        | none =>
            rw [World.perform_quiet rfl hrun]
            exact .none rfl rfl
        | some t =>
            rw [World.perform_quiet rfl hrun, Request.creations, hrun]
            exact .creation hf hnew rfl rfl
      · simp only [hnew, if_true] at hrun
        rw [World.perform_quiet rfl hrun]
        cases binder with
        | none => exact .none rfl rfl
        | some t =>
            rw [Request.creations, hrun]
            exact .none rfl rfl
  | declare c name type access static =>
      have hrun := c.run_declare name type access static w.store
      rcases hfree : (w.store.containerFields c).contains name with _ | _
      · simp only [hfree, if_false, Bool.false_eq_true] at hrun
        rw [World.perform_quiet rfl hrun]
        exact .field hfree rfl rfl
      · simp only [hfree, if_true] at hrun
        rw [World.perform_quiet rfl hrun]
        exact .none rfl rfl
  | setType f type => exact .of_spares rfl (Spares.setType (fun _ _ => rfl) type)
  | emit c i => exact absurd hgenuine id

end World

end CallSites
