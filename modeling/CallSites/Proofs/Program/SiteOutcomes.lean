import CallSites.Proofs.Program.CallableOperands
import CallSites.Proofs.Program.Initializers
import CallSites.Proofs.Program.Orderly
import CallSites.Proofs.Text.Names

/-!
# What comes of a site

A site is begun, resolved with operands and perhaps bootstrapped.  On the platform of an accepted
profile what comes of it can be foretold.  It cannot be begun at all unless the generic cache cell
type has a target, and if it has, only a name that is taken stands in the way.  The operands may be
refused.  If they are not, the site is resolved and counted, and the only thing that can still be
wanting is the create method (`SiteBuilder.Outcome`).

Names are never taken in a container whose cells come from one factory, since the numbers at the end
of the names are all different, whatever the hints are (`cellName_inj`).  A field that is new has no
history: nothing is bound, tried or bootstrapped in it (`Store.Chronicled.unmarked`).
-/

namespace CallSites

/-! ## Names of cells -/

/-- The number at the end can be read off a name. -/
lemma cellName_inj {hint hint' : String} {m n : Nat} (h : cellName hint m = cellName hint' n) :
    m = n :=
  Text.NameSequence.nameAt_inj (s := { lead := "<>", separator := "'" }) (by simp) h

/-! ## Beginning a site -/

section Begin

variable {p : Platform} {f : SiteFactory} {s s' : Store}

/-- A platform without the target of cells supports no site. -/
lemma SiteFactory.run_beginSite_of_not_offers (hf : f.services = .ofPlatform p)
    (htarget : ¬ p.Offers .target) :
    ∃ e : Error, e.isUnsupported = true ∧
      ∀ hint s, (f.beginSite hint).run s = (.error (.error e), s) := by
  rcases hcell : p.cell with e | base
  · refine ⟨e, ?_, fun hint s => ?_⟩
    · rw [Platform.cell] at hcell
      split at hcell
      · cases hcell
        rfl
      · cases hcell
    · rw [SiteFactory.beginSite, run_bind, CellFactory.run_allocate (f := f.cells) hf, hcell]
  · refine ⟨.lacks (.cellMember CellMember.target.name p.runtime), rfl, fun hint s => ?_⟩
    rw [SiteFactory.beginSite, run_bind, CellFactory.run_allocate (f := f.cells) hf, hcell,
      Platform.cellMember_of_not_offers htarget]

/-- A cell is allocated under a name that is free. -/
lemma CellFactory.exists_allocate {f : CellFactory} (hf : f.services = .ofPlatform p)
    (htarget : p.Offers .target) {hint : String}
    (hfree : (s.containerFields f.container).contains (cellName hint (s.allocated f)) = false) :
    ∃ c : Cell, c.factory = f ∧ p.cell = .ok c.provisional ∧
      c.field = f.nextField hint c.provisional s ∧
      (f.allocate hint).run s = (.ok c, s.allot f hint c.provisional) := by
  obtain ⟨n, hn⟩ := htarget.exists_cell
  obtain ⟨target, htarget⟩ := htarget.exists_cellMember
  have hcell : p.cell = .ok (.named n) := by
    rw [Platform.cell, hn]
    rfl
  refine ⟨⟨f, f.nextField hint (.named n) s, .named n, target⟩, rfl, hcell, rfl, ?_⟩
  rw [CellFactory.run_allocate hf, hcell, htarget]
  simp only [hfree, if_false, Bool.false_eq_true]

/-- A site is begun under a name that is free. -/
lemma SiteFactory.exists_beginSite (hf : f.services = .ofPlatform p) (htarget : p.Offers .target)
    {hint : String}
    (hfree : (s.containerFields f.container).contains (cellName hint (s.allocated f.cells)) =
      false) :
    ∃ c : Cell, c.factory = f.cells ∧ p.cell = .ok c.provisional ∧
      c.field = f.cells.nextField hint c.provisional s ∧
      (f.beginSite hint).run s = (.ok ⟨f, c⟩, s.allot f.cells hint c.provisional) := by
  obtain ⟨c, hfactory, hcell, hfield, hrun⟩ :=
    CellFactory.exists_allocate (f := f.cells) hf htarget hfree
  refine ⟨c, hfactory, hcell, hfield, ?_⟩
  rw [SiteFactory.beginSite, run_bind, hrun]
  rfl

/-- A cell is of the factory that has allocated it. -/
lemma CellFactory.eq_of_allocate {f : CellFactory} (hf : f.services = .ofPlatform p) {hint : String}
    {c : Cell} (hrun : (f.allocate hint).run s = (.ok c, s')) : c.factory = f := by
  rw [CellFactory.run_allocate hf] at hrun
  split at hrun
  · cases hrun
  · cases hrun
  · split at hrun
    · cases hrun
    · cases hrun
      rfl

lemma SiteFactory.eq_of_beginSite (hf : f.services = .ofPlatform p) {hint : String}
    {b : SiteBuilder} (hrun : (f.beginSite hint).run s = (.ok b, s')) :
    b.factory = f ∧ b.cell.factory = f.cells := by
  rw [SiteFactory.beginSite] at hrun
  obtain ⟨c, s₁, hallocate, hrest⟩ | ⟨e, -, he⟩ := run_bind_cases hrun
  · cases hrest
    exact ⟨rfl, CellFactory.eq_of_allocate (f := f.cells) hf hallocate⟩
  · cases he

end Begin

/-! ## Resolving a site -/

/-- Binding a cell on a platform that has the target fails only for want of the create method. -/
lemma Platform.unbindable?_cases {p : Platform} (htarget : p.Offers .target) :
    p.Offers .create ∧ p.unbindable? = none ∨
      ¬ p.Offers .create ∧ ∃ text,
        p.unbindable? = some (.error (.lacks (.member CellMember.create.name text))) := by
  obtain ⟨c, hc, -⟩ := id htarget
  have hd : p.genericCell? = some (cellDefinition c) := by
    rw [genericCell?, hc]
    rfl
  have hgeneric : p.genericCell = .ok (cellDefinition c) := by
    rw [genericCell, hd]
    rfl
  have hhas : (cellDefinition c).lacks? CellMember.target.name = none :=
    if_pos ((mem_names_declarations_iff hd .target).mpr htarget)
  have hunbindable : p.unbindable? = (cellDefinition c).lacks? CellMember.create.name := by
    simp only [unbindable?, hgeneric, hhas, Option.none_or]
  rw [hunbindable, Definition.lacks?]
  by_cases hcreate : p.Offers .create
  · exact .inl ⟨hcreate, if_pos ((mem_names_declarations_iff hd .create).mpr hcreate)⟩
  · refine .inr ⟨hcreate, _, if_neg fun hmem => ?_⟩
    exact hcreate ((mem_names_declarations_iff hd .create).mp hmem)

/-- The error is about a type that a site names: it cannot be found or it cannot be used. -/
inductive Error.AboutTypes : Error → Prop
  | unknown (name runtime : String) : AboutTypes (.lacks (.type name runtime))
  | ambiguous (name : String) (n : Nat) : AboutTypes (.cause (.ambiguousType name n))
  | argument {c : Cause} (h : c.IsArgument) : AboutTypes (.cause c)
  | context (note : String) {e : Error} (h : AboutTypes e) : AboutTypes (.context note e)
  | several {es : List Error} (h : ∀ e ∈ es, AboutTypes e) : AboutTypes (.several es)

/-- What resolving a site with operands comes to, and what it leaves in the store. -/
inductive SiteBuilder.Outcome (p : Platform) (b : SiteBuilder) (ops : Operands) (s s' : Store) :
    Except Failure Site → Prop
  /-- The site is resolved and listed. -/
  | resolved {x : Site} {sh : Shape} (huse : ops.Usable) (hstore : ops.Storable)
      (hcreate : p.Offers .create) (hsh : p.derive ops = .ok sh) (hx : x.Settled b sh s')
      (hrecord : s'.record = ((s.mark b.cell.field.id).list b.factory x).record)
      (hnamed : s'.named = s.named)
      (htotal : (s'.tally b.factory.synthesizer).total =
        (s.tally b.factory.synthesizer).total + 1) : Outcome p b ops s s' (.ok x)
  /-- The cell cannot be bound for want of the create method. -/
  | unsupported {e : Error} (huse : ops.Usable) (hstore : ops.Storable)
      (hcreate : ¬ p.Offers .create) (he : e.isUnsupported = true)
      (hrecord : s'.record = (s.mark b.cell.field.id).record) (hfinals : s'.finals = s.finals)
      (hnamed : s'.named = s.named)
      (htotal : (s'.tally b.factory.synthesizer).total =
        (s.tally b.factory.synthesizer).total + 1) : Outcome p b ops s s' (.error (.error e))
  /-- There are more operands than can be stored. -/
  | oversized (hstore : ¬ ops.Storable) : Outcome p b ops s s' (.error (.range .capacity))
  /-- One of the operands cannot be used. -/
  | unusable {e : Error} (huse : ¬ ops.Usable) (he : e.AboutTypes)
      (hplain : e.isUnsupported = false) : Outcome p b ops s s' (.error (.error e))

section Resolve

variable {prof : Profile} {p : Platform} {C : Set Ty} {L : List Cell} {s s' : Store}
variable {b : SiteBuilder} {sh : Shape}

lemma Spares.bindShape_named (b : SiteBuilder) (sh : Shape) :
    Spares Store.named (b.bindShape sh) s :=
  Spares.bindShape (fun _ _ => rfl) (fun _ _ => rfl) (fun _ _ => rfl) (fun _ _ => rfl)
    (fun _ _ => rfl) sh

/-- What finding the callable type of a shape and binding the cell to it comes to. -/
lemma SiteBuilder.bindShape_cases (hp : Platform.ofProfile prof = .ok p) (hs : s.Valid p C L)
    (hb : b.factory.services = .ofPlatform p) (htarget : p.Offers .target) (hcell : b.cell ∈ L)
    (hopen : s.binding? b.cell = none) (hsh : sh.Known (s.census p C) s.types)
    {o : Except Failure (Instance × Member)} (hrun : (b.bindShape sh).run s = (o, s')) :
    (sh.Usable ∧ sh.Storable ∧
        (s'.tally b.factory.synthesizer).total = (s.tally b.factory.synthesizer).total + 1 ∧
        (p.Offers .create ∧ (∃ a, o = .ok a) ∨
          ¬ p.Offers .create ∧ s'.finals = s.finals ∧ ∃ text,
            o = .error (.error (.lacks (.member CellMember.create.name text))))) ∨
      ¬ sh.Storable ∧ o = .error (.range .capacity) ∨
      ¬ sh.Usable ∧ ∃ note c, Cause.IsArgument c ∧
        o = .error (.error (.context note (.cause c))) := by
  rcases hres : (b.factory.synthesizer.resolve sh).run s with ⟨q, s₁⟩
  rw [SiteBuilder.bindShape, run_bind, hres] at hrun
  obtain ⟨hs₁, -, hresolves⟩ := Keeps.resolve (y := b.factory.synthesizer) hs hb hsh _ _ hres
  obtain ⟨⟨callable, rfl⟩, huse, hcovered, htotal⟩ | ⟨rfl, -, hlong⟩ |
      ⟨hnot, -, note, c, hc, rfl⟩ :=
    Synthesizer.resolve_cases (y := b.factory.synthesizer) hs hb hres
  · have hroom : sh.Storable := by
      by_contra hnot
      exact hnot (hcovered (Platform.uncovered_of_not_storable hp hnot))
    have hspares : s₁.visible = s.visible := (Spares.resolve_visible _ sh).of_run hres
    simp only [Store.visible, Prod.mk.injEq] at hspares
    obtain ⟨-, hfinals, hbindings, -⟩ := hspares
    have hopen₁ : s₁.binding? b.cell = none := by
      rw [Store.binding?, hbindings]
      exact hopen
    have hc := hresolves callable rfl
    rcases hbind : (b.cell.bind callable).run s₁ with ⟨q, s₂⟩
    have htallies : s₂.tallies = s₁.tallies := (Spares.bindCell_tallies callable).of_run hbind
    have htotal₂ : (s₂.tally b.factory.synthesizer).total =
        (s.tally b.factory.synthesizer).total + 1 := by
      rw [Store.tally, htallies]
      exact htotal
    simp only at hrun
    rw [run_bind, hbind] at hrun
    refine .inl ⟨huse, hroom, ?_⟩
    obtain ⟨e, t, he, rfl, rfl⟩ | ⟨hnone, rfl, t, a, rfl, -⟩ :=
      Cell.bind_cases hs₁ hcell hopen₁ hc.known (hc.usable hs₁) hbind
    · cases hrun
      obtain ⟨-, hnone⟩ | ⟨hcreate, text, htext⟩ := Platform.unbindable?_cases htarget
      · rw [hnone] at he
        cases he
      · rw [htext] at he
        cases he
        exact ⟨htotal₂, .inr ⟨hcreate, hfinals, text, rfl⟩⟩
    · -- the cell has just been bound, so the create method can be read
      have hread : (Store.seal { s₁ with types := t } b.cell.field.id a).binding? b.cell = some a :=
        OrderedMap.find?_insert_self _ _ _
      simp only at hrun
      rw [run_bind, run_get] at hrun
      simp only [Cell.binding_of_find? hread, StoreM.ofExcept] at hrun
      cases hrun
      obtain ⟨hcreate, -⟩ | ⟨-, text, htext⟩ := Platform.unbindable?_cases htarget
      · exact ⟨htotal₂, .inl ⟨hcreate, _, rfl⟩⟩
      · rw [htext] at hnone
        cases hnone
  · cases hrun
    exact .inr (.inl ⟨hlong, rfl⟩)
  · cases hrun
    exact .inr (.inr ⟨hnot, note, c, hc, rfl⟩)

/-- **What comes of a site** whose cell is as it was allocated. -/
theorem SiteBuilder.outcome (hp : Platform.ofProfile prof = .ok p) (hs : s.Valid p C L)
    (hb : b.factory.services = .ofPlatform p) (htarget : p.Offers .target) (hcell : b.cell ∈ L)
    (hopen : s.binding? b.cell = none) (hnew : s.isResolved b = false) {ops : Operands}
    (hops : ops.Known (s.census p C) s.types) (hmodes : ops.modesFit = true)
    {o : Except Failure Site} (hrun : (b.resolveOperands ops).run s = (o, s')) :
    b.Outcome p ops s s' o := by
  obtain ⟨n, hn⟩ := htarget.exists_cell
  obtain ⟨sh, hsh, huse, hstore⟩ := Platform.exists_derive hn hmodes
  rw [SiteBuilder.resolveOperands, run_bind, run_derive hb, hsh] at hrun
  simp only at hrun
  rw [SiteBuilder.run_resolve hnew] at hrun
  -- the builder is marked first, which is outside of everything that matters to its cell
  have hs₁ : (s.mark b.cell.field.id).Valid p C L := (hs.mark b.cell.field.id).1
  rcases hbind : (b.bindShape sh).run (s.mark b.cell.field.id) with ⟨q, s₁⟩
  have hrecord : s₁.record = (s.mark b.cell.field.id).record :=
    (Spares.bindShape_record b sh).of_run hbind
  have hnamed : s₁.named = (s.mark b.cell.field.id).named :=
    (Spares.bindShape_named b sh).of_run hbind
  rw [hbind] at hrun
  obtain ⟨husable, hroom, htotal, ⟨hcreate, a, rfl⟩ | ⟨hcreate, hfinals, text, rfl⟩⟩ |
      ⟨hlong, rfl⟩ | ⟨hnot, note, c, hc, rfl⟩ :=
    SiteBuilder.bindShape_cases hp hs₁ hb htarget hcell hopen (hops.shape hsh) hbind
  · cases hrun
    obtain ⟨c, hread, hc⟩ := SiteBuilder.binding_of_bindShape hbind
    exact .resolved (huse.mp husable) (hstore.mp hroom) hcreate hsh ⟨rfl, rfl, rfl, c, hread, hc⟩
      (Store.record_list hrecord _ _) hnamed htotal
  · cases hrun
    exact .unsupported (huse.mp husable) (hstore.mp hroom) hcreate rfl hrecord hfinals hnamed htotal
  · cases hrun
    exact .oversized fun h => hlong (hstore.mpr h)
  · cases hrun
    exact .unusable (fun h => hnot (huse.mpr h)) (.context _ (.context _ (.argument hc))) rfl

end Resolve

/-! ## Stores with a history -/

/-- The store is that of a program with a chronicle in which the given cells have been allocated,
and all cells in static initializers have been created from the binder of the platform. -/
def Store.Chronicled (p : Platform) (L : List Cell) (s : Store) : Prop :=
  ∃ log w, World.Chronicle p log w ∧ (∀ e ∈ log, p.binder = .ok e.2) ∧ L ⊆ w.cells ∧ w.store = s

namespace Store.Chronicled

variable {p : Platform} {L : List Cell} {s s' : Store}
variable {f : SiteFactory} {b : SiteBuilder} {x : Site}

lemma initial (p : Platform) : (Store.initial p).Chronicled p [] :=
  ⟨[], .initial p, .initial, by simp, List.nil_subset _, rfl⟩

lemma valid (h : s.Chronicled p L) : ∃ C L', L ⊆ L' ∧ s.Valid p C L' := by
  obtain ⟨log, w, hw, -, hL, rfl⟩ := h
  exact ⟨w.client, w.cells, hL, hw.valid⟩

lemma houses (h : s.Chronicled p L) {c : Cell} (hc : c ∈ L) : s.Houses c := by
  obtain ⟨log, w, hw, -, hL, rfl⟩ := h
  exact hw.told.recorded.cells c (hL hc)

lemma creatable (h : s.Chronicled p L) (hx : x ∈ s.factorySites f) : x.Creatable p s := by
  obtain ⟨log, w, hw, -, -, rfl⟩ := h
  exact hw.creatable hx

lemma mono {L' : List Cell} (h : s.Chronicled p L) (hL : L' ⊆ L) : s.Chronicled p L' := by
  obtain ⟨log, w, hw, hbinders, hcells, rfl⟩ := h
  exact ⟨log, w, hw, hbinders, List.Subset.trans hL hcells, rfl⟩

/-- Nothing has happened in a field that does not exist. -/
lemma unmarked (h : s.Chronicled p L) {id : FieldId} (hid : ¬ s.Declares id) :
    s.finals.find? id = none ∧ s.bindings.find? id = none ∧ id ∉ s.resolved ∧
      id ∉ s.bootstrapped := by
  obtain ⟨log, w, hw, -, -, rfl⟩ := h
  have hcell : ∀ c ∈ w.cells, c.field.id ≠ id := fun c hc hcid =>
    hid (hcid ▸ (hw.told.recorded.cells c hc).declares)
  have hfinals : w.store.finals.find? id = none := by
    rcases hx : w.store.finals.find? id with _ | y
    · rfl
    · exact absurd (hw.valid.finals id y hx) hid
  refine ⟨hfinals, ?_, fun hmem => ?_, fun hmem => ?_⟩
  · rcases ha : w.store.bindings.find? id with _ | a
    · rfl
    · rw [(hw.valid.bindings id a ha).1] at hfinals
      cases hfinals
  · obtain ⟨c, hc, hcid⟩ := hw.told.recorded.resolved id hmem
    exact hcell c hc hcid
  · rw [hw.told.recorded.bootstrapped] at hmem
    obtain ⟨e, he, heid⟩ := List.mem_map.mp hmem
    obtain ⟨g, hg⟩ := hw.told.recorded.listed e he
    exact hcell _ (hw.told.recorded.sites g _ hg).1 heid

/-- A request that brings nothing into being and creates no cell. -/
lemma quiet {α : Type} {y : StoreM α} {o : Except Failure α} (h : s.Chronicled p L) {r : Request}
    (hperform : r.perform = Request.quiet y) (hcreations : ∀ s, r.creations s = [])
    (hr : ∀ w : World, L ⊆ w.cells → w.store = s → r.Allowed p w)
    (hgenuine : ∀ w : World, w.store = s → r.Genuine w) (hrun : y.run s = (o, s')) :
    s'.Chronicled p L := by
  obtain ⟨log, w, hw, hbinders, hL, rfl⟩ := h
  have hstep := hw.step (hr w hL rfl) (hgenuine w rfl)
  have hnone : Event.creations ⟨w, r⟩ = [] := hcreations w.store
  rw [hnone, List.append_nil, World.perform_quiet hperform hrun] at hstep
  exact ⟨log, _, hstep, hbinders, hL, rfl⟩

lemma newContainer (h : s.Chronicled p L) (ns name : String) : s.reserve.Chronicled p L := by
  obtain ⟨log, w, hw, hbinders, hL, rfl⟩ := h
  have hstep := hw.step (r := .types (.newContainer ns name)) ⟨trivial, trivial⟩ trivial
  rw [World.perform_types (r := .newContainer ns name) rfl] at hstep
  exact ⟨_, _, hstep, by simpa [Event.creations, Request.creations] using hbinders, hL, rfl⟩

/-- A site is begun, or cannot be. -/
lemma beginSite (h : s.Chronicled p L) (hf : f.services = .ofPlatform p) {hint : String}
    {q : Except Failure SiteBuilder} (hrun : (f.beginSite hint).run s = (q, s')) :
    s'.Chronicled p L ∧ ∀ b, q = .ok b → s'.Chronicled p (b.cell :: L) := by
  obtain ⟨log, w, hw, hbinders, hL, rfl⟩ := h
  have hstep := hw.step (r := .beginSite f hint) hf trivial
  have hperform : (Request.beginSite f hint).perform.run w.store =
      (q.map fun b => .cell b.cell, s') := by
    rw [Request.perform, run_bind, hrun]
    cases q <;> rfl
  have hnone : Event.creations ⟨w, .beginSite f hint⟩ = [] := rfl
  rw [World.perform, hperform, hnone, List.append_nil] at hstep
  refine ⟨⟨_, _, hstep, hbinders, List.subset_append_of_subset_right _ hL, rfl⟩, ?_⟩
  rintro b rfl
  exact ⟨_, _, hstep, hbinders, List.cons_subset_cons _ hL, rfl⟩

lemma resolveOperands (h : s.Chronicled p L) (hb : b.factory.services = .ofPlatform p)
    (hcell : b.cell ∈ L) (hown : b.cell.factory = b.factory.cells) {ops : Operands}
    (hops : ∀ x ∈ ops.types, p.IsNamed x) {o : Except Failure Site}
    (hrun : (b.resolveOperands ops).run s = (o, s')) : s'.Chronicled p L :=
  h.quiet (r := .resolveOperands b ops) rfl (fun _ => rfl)
    (fun _ hL _ => ⟨hb, hL hcell, Operands.known_of_named hops⟩) (fun _ _ => hown) hrun

/-- The cell of a site is created from the binder of the platform. -/
lemma create (h : s.Chronicled p L) (hx : x ∈ s.factorySites f) (hnew : s.isBootstrapped x = false)
    {binder : Ty} (hbinder : p.binder = .ok binder) : (s.create x binder).Chronicled p L := by
  obtain ⟨log, w, hw, hbinders, hL, rfl⟩ := h
  have hrun : (x.bootstrap (some binder)).run w.store = (.ok (), w.store.create x binder) := by
    simp only [x.run_bootstrap, hnew, if_false, Bool.false_eq_true]
  have hstep := hw.step (r := .bootstrap x (some binder)) trivial ⟨f, hx⟩
  have hlog : Event.creations ⟨w, .bootstrap x (some binder)⟩ = [(x, binder)] := by
    simp only [Event.creations, Request.creations, hrun]
  rw [World.perform_quiet rfl hrun, hlog] at hstep
  refine ⟨_, _, hstep, fun e he => ?_, hL, rfl⟩
  rcases List.mem_append.mp he with he | he
  · exact hbinders e he
  · rw [List.mem_singleton.mp he]
    exact hbinder

end Store.Chronicled

end CallSites
