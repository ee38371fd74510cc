import CallSites.Proofs.Frame
import CallSites.Proofs.Program.Cells
import CallSites.Proofs.Types.History

/-!
# Histories of a program

A program is compiled by requests of many sorts, in any order: types are created and constructed,
registries, synthesizers and factories are made, shapes are resolved, cells are allocated and bound,
sites are begun, resolved and bootstrapped.  Any number of each of these objects may be in use and
all of them share one store.  A `Request` is one of these operations with what it is applied to.

A request is `Allowed` when its types exist, when it goes through the platform itself and not
through a view of it, and when the cell that it binds has been allocated.  Nothing is asked of the
serials of registries and factories: objects that are not distinguished by them share what they
hold.  A field may be given its final type from outside unless it is that of an unbound cell.

`World.perform_valid` is what one request does to the invariant and `World.Run.valid` what a whole
history does.

A `World.History` has on record all requests since the beginning, each with the program that it
found.  What is told of a history elsewhere is read off this record, request by request
(`World.Recounts`), and shown by the one induction for all that is so read
(`World.Recounts.induction`).
-/

namespace CallSites

/-! ## Requests -/

/-- What can be asked of a program. -/
inductive Request where
  | types (r : TypeRequest)
  | newRegistry (unit : String)
  | newUnits
  | forUnit (u : UnitTable) (unit : String)
  | release (u : UnitTable) (unit : String)
  | newSynthesizer (v : Services) (r : Registry)
  | newCells (v : Services) (c : Container)
  | newSites (v : Option Services) (c : Option Container) (r : Option Registry)
  | loadOrCreate (r : Registry) (k : Key)
  | resolve (y : Synthesizer) (sh : Shape)
  | callableType (f : SiteFactory) (ops : Operands)
  | allocate (f : CellFactory) (hint : String)
  | bind (c : Cell) (callable : Instance)
  | bindWith (f : CellFactory) (c : Cell) (callable : Instance)
  | beginSite (f : SiteFactory) (hint : String)
  | resolveSite (b : SiteBuilder) (sh : Shape)
  | resolveOperands (b : SiteBuilder) (ops : Operands)
  | bootstrap (x : Site) (binder : Option Ty)
  | declare (c : Container) (name : String) (type : Option Ty) (access : Access) (static : Bool)
  | setType (f : Field) (type : Option Ty)
  | emit (c : Container) (i : Instr)

/-- What a request has brought into being, as far as it matters later. -/
inductive Made where
  | nothing
  | type (x : Ty)
  | cell (c : Cell)

namespace Made

/-- The types that have been created. -/
def types : Made → Set Ty
  | .type x => {x}
  | _ => ∅

/-- The cells that have been allocated. -/
def cells : Made → List Cell
  | .cell c => [c]
  | _ => []

/-- What a request for types has created. -/
def ofCreated : Option Ty → Made
  | some x => .type x
  | none => .nothing

/-- A request that fails has brought nothing into being. -/
def ofOutcome : Except Failure Made → Made
  | .ok m => m
  | .error _ => .nothing

end Made

namespace Request

/-- Performs an operation that brings nothing into being. -/
def quiet {α : Type} (x : StoreM α) : StoreM Made := do
  let _ ← x
  return .nothing

/-- Performs a request. -/
def perform : Request → StoreM Made
  | .types r => return .ofCreated (← r.perform.toStoreM)
  | .newRegistry unit => quiet (Registry.new unit)
  | .newUnits => quiet UnitTable.new
  | .forUnit u unit => quiet (u.forUnit unit)
  | .release u unit => quiet (u.release unit)
  | .newSynthesizer v r => quiet (Synthesizer.new v r)
  | .newCells v c => quiet (CellFactory.new v c)
  | .newSites v c r => quiet (SiteFactory.new v c r)
  | .loadOrCreate r k => quiet (r.loadOrCreate k)
  | .resolve y sh => quiet (y.resolve sh)
  | .callableType f ops => quiet (f.callableType ops)
  | .allocate f hint => return .cell (← f.allocate hint)
  | .bind c callable => quiet (c.bind callable)
  | .bindWith f c callable => quiet (f.bind c callable)
  | .beginSite f hint => return .cell (← f.beginSite hint).cell
  | .resolveSite b sh => quiet (b.resolve sh)
  | .resolveOperands b ops => quiet (b.resolveOperands ops)
  | .bootstrap x binder => quiet (x.bootstrap binder)
  | .declare c name type access static => quiet (c.declare name type access static)
  | .setType f type => quiet (f.setType type)
  | .emit c i => quiet (c.emit i)

end Request

/-! ## Worlds -/

/-- A program with what is not written in its store: the types that clients have created and the
cells that have been allocated. -/
structure World where
  store : Store
  client : Set Ty
  cells : List Cell

namespace World

/-- The program before anything has happened. -/
def initial (p : Platform) : World := ⟨.initial p, ∅, []⟩

/-- What a request makes of the program, whether it succeeds or not. -/
def perform (w : World) (r : Request) : World :=
  let made := Made.ofOutcome (r.perform.run w.store).1
  ⟨(r.perform.run w.store).2, made.types ∪ w.client, made.cells ++ w.cells⟩

/-- The named types, containers and definitions that exist. -/
def census (w : World) (p : Platform) : Set Ty := w.store.census p w.client

/-- The type exists. -/
def Exists (p : Platform) (w : World) (x : Ty) : Prop := x.Known (w.census p) w.store.types

/-- The invariant. -/
def Valid (p : Platform) (w : World) : Prop := w.store.Valid p w.client w.cells

end World

/-- What a request is about exists, and the platform itself is asked. -/
def Request.Allowed (p : Platform) (w : World) : Request → Prop
  | .types r => r.IsPlain ∧ r.Allowed (w.census p) w.store.types
  | .resolve y sh => y.services = .ofPlatform p ∧ sh.Known (w.census p) w.store.types
  | .callableType f ops => f.services = .ofPlatform p ∧ ops.Known (w.census p) w.store.types
  | .allocate f _ => f.services = .ofPlatform p
  | .bind c callable | .bindWith _ c callable => c ∈ w.cells ∧ w.Exists p callable
  | .beginSite f _ => f.services = .ofPlatform p
  | .resolveSite b sh =>
    b.factory.services = .ofPlatform p ∧ b.cell ∈ w.cells ∧ sh.Known (w.census p) w.store.types
  | .resolveOperands b ops =>
    b.factory.services = .ofPlatform p ∧ b.cell ∈ w.cells ∧ ops.Known (w.census p) w.store.types
  | .setType f _ =>
    w.store.Declares f.id ∧
      ∀ c ∈ w.cells, c.field.id = f.id → w.store.bindings.find? f.id ≠ none
  | _ => True

/-- The second program comes about from the first by allowed requests. -/
inductive World.Run (p : Platform) (w : World) : World → Prop
  | refl : Run p w w
  | step {w' : World} {r : Request} (h : Run p w w') (hr : r.Allowed p w') :
      Run p w (w'.perform r)

/-! ## One request -/

section Step

variable {p : Platform} {C : Set Ty} {L : List Cell} {s : Store} {w w' : World}

lemma Store.census_union (s : Store) (p : Platform) (A C : Set Ty) :
    s.census p (A ∪ C) = A ∪ s.census p C := by
  rw [census, census, Set.union_left_comm, Set.union_assoc]

/-- Types that clients create through the type table. -/
lemma Store.Valid.with_client (h : s.Valid p C L) {o : Except Failure (Option Ty)} {t : TypeTable}
    (hl : TypeTable.Leaves (s.census p C) s.types o t) :
    ({ s with types := t } : Store).Valid p (created o ∪ C) L ∧ s.Grows { s with types := t } := by
  have hg : s.Grows { s with types := t } := { Grows.refl s with types := hl.grows }
  refine
    ⟨{ h with
        types := ?_
        plain := fun d => (hl.grows.added d).trans (h.plain d)
        client := ?_
        bindings := fun id b hb => ?_ }, hg⟩
  · rw [census_union]
    exact hl.sound
  · rintro x (hx | hx)
    · exact hl.serial x hx
    · exact h.client x hx
  · obtain ⟨hfinal, hproper⟩ := h.bindings id b hb
    exact ⟨hfinal, hproper.mono (hg.census Set.subset_union_right) hg.types.toExtends⟩

lemma World.perform_types {r : TypeRequest} {o : Except Failure (Option Ty)} {t : TypeTable}
    (hrun : r.perform.run w.store.types = (o, t)) :
    w.perform (.types r) = ⟨{ w.store with types := t }, created o ∪ w.client, w.cells⟩ := by
  rcases o with e | x
  · have hstore : (Request.types r).perform.run w.store =
        (.error e, { w.store with types := t }) := by
      rw [Request.perform, run_bind, run_toStoreM, hrun]
    rw [World.perform, hstore]
    rfl
  · have hstore : (Request.types r).perform.run w.store =
        (.ok (.ofCreated x), { w.store with types := t }) := by
      rw [Request.perform, run_bind, run_toStoreM, hrun]
      rfl
    rw [World.perform, hstore]
    cases x <;> rfl

lemma Keeps.quiet {α : Type} {x : StoreM α} {Q : α → Store → Prop} (hx : Keeps p C L x s Q) :
    Keeps p C L (Request.quiet x) s fun m _ => m = .nothing :=
  Leads.bind hx fun _ _ h₁ _ _ => Leads.pure h₁ rfl

/-- A request that keeps the invariant and allocates at most a cell. -/
lemma World.valid_of_keeps {r : Request}
    (hr : Keeps p w.client w.cells r.perform w.store fun m s' =>
      m = .nothing ∨ ∃ c, m = .cell c ∧ c.Fresh p s') :
    (w.perform r).Valid p ∧ w.store.Grows (w.perform r).store := by
  obtain ⟨h', hg, hmade⟩ := hr (r.perform.run w.store).1 (r.perform.run w.store).2 rfl
  refine ⟨?_, hg⟩
  have hnothing : (r.perform.run w.store).2.Valid p (Made.nothing.types ∪ w.client)
      (Made.nothing.cells ++ w.cells) := by
    rw [Made.types, Set.empty_union]
    · exact h'
    · rintro x ⟨⟩
  rw [World.Valid, World.perform]
  rcases ho : (r.perform.run w.store).1 with e | m
  · exact hnothing
  · rcases hmade m ho with rfl | ⟨c, rfl, hc⟩
    · exact hnothing
    · exact hnothing.add_cell hc

/-- A request that brings nothing into being changes the store at most. -/
lemma World.perform_quiet {α : Type} {x : StoreM α} {r : Request}
    (hr : r.perform = Request.quiet x) {o : Except Failure α} {s : Store}
    (hrun : x.run w.store = (o, s)) : w.perform r = ⟨s, w.client, w.cells⟩ := by
  have hperform : r.perform.run w.store = (o.map fun _ => .nothing, s) := by
    rw [hr, Request.quiet, run_bind, hrun]
    cases o <;> rfl
  rw [World.perform, hperform]
  cases o <;> exact congrArg (World.mk s · w.cells) (Set.empty_union w.client)

lemma World.valid_of_quiet {α : Type} {x : StoreM α} {r : Request} {Q : α → Store → Prop}
    (hr : r.perform = Request.quiet x) (hx : Keeps p w.client w.cells x w.store Q) :
    (w.perform r).Valid p ∧ w.store.Grows (w.perform r).store := by
  refine World.valid_of_keeps ?_
  rw [hr]
  exact (Keeps.quiet hx).imp fun _ _ _ _ hm => .inl hm

lemma Keeps.fresh (h : s.Valid p C L) : Keeps p C L StoreM.fresh s fun _ _ => True := by
  rw [StoreM.fresh]
  refine Leads.get_bind ?_
  refine Leads.bind (Keeps.frame h rfl rfl rfl rfl rfl) fun _ s₁ h₁ _ _ => ?_
  exact Leads.pure h₁ trivial

/-- An object that is no more than a new serial. -/
lemma Keeps.fresh_bind (h : s.Valid p C L) {α : Type} {f : Nat → α} :
    Keeps p C L (StoreM.fresh >>= fun n => Pure.pure (f n)) s fun _ _ => True :=
  Leads.bind (Keeps.fresh h) fun _ _ h₁ _ _ => Leads.pure h₁ trivial

lemma Keeps.forUnit (h : s.Valid p C L) (u : UnitTable) (unit : String) :
    Keeps p C L (u.forUnit unit) s fun _ _ => True := by
  rw [UnitTable.forUnit]
  refine Leads.get_bind ?_
  rcases (s.unitRegistries u).find? unit with _ | r
  · refine Leads.bind (Keeps.fresh_bind h) fun r s₁ h₁ _ _ => ?_
    refine Leads.bind (Keeps.frame h₁ rfl rfl rfl rfl rfl) fun _ s₂ h₂ _ _ => ?_
    exact Leads.pure h₂ trivial
  · exact Leads.pure h trivial

lemma Keeps.newSites (h : s.Valid p C L) (v : Option Services) (c : Option Container)
    (r : Option Registry) : Keeps p C L (SiteFactory.new v c r) s fun _ _ => True := by
  unfold SiteFactory.new
  split
  · exact Keeps.fresh_bind h
  · exact Leads.throw h _

/-- **One request.**  The invariant is kept, whatever comes of the request. -/
theorem World.perform_valid (h : w.Valid p) {r : Request} (hr : r.Allowed p w) :
    (w.perform r).Valid p ∧ w.store.Grows (w.perform r).store := by
  cases r with
  | types r =>
      rcases hrun : r.perform.run w.store.types with ⟨o, t⟩
      rw [perform_types hrun]
      exact Store.Valid.with_client h (TypeRequest.leaves h.types hr.2 hr.1 hrun)
  | newRegistry unit => exact valid_of_quiet rfl (Keeps.fresh_bind h)
  | newUnits => exact valid_of_quiet rfl (Keeps.fresh_bind h)
  | forUnit u unit => exact valid_of_quiet rfl (Keeps.forUnit h u unit)
  | release u unit => exact valid_of_quiet rfl (Keeps.frame h rfl rfl rfl rfl rfl)
  | newSynthesizer v r => exact valid_of_quiet rfl (Keeps.fresh_bind h)
  | newCells v c => exact valid_of_quiet rfl (Keeps.fresh_bind h)
  | newSites v c r => exact valid_of_quiet rfl (Keeps.newSites h v c r)
  | loadOrCreate r k => exact valid_of_quiet rfl (Keeps.loadOrCreate h r k)
  | resolve y sh => exact valid_of_quiet rfl (Keeps.resolve h hr.1 hr.2)
  | callableType f ops => exact valid_of_quiet rfl (Keeps.callableType h hr.1 hr.2)
  | allocate f hint =>
      exact valid_of_keeps (Leads.bind (Keeps.allocate h hr hint) fun c _ h₁ _ hc =>
        Leads.pure h₁ (.inr ⟨c, rfl, hc⟩))
  | bind c callable => exact valid_of_quiet rfl (Keeps.bindCell h hr.1 hr.2)
  | bindWith f c callable => exact valid_of_quiet rfl (Keeps.bindWith h f hr.1 hr.2)
  | beginSite f hint =>
      exact valid_of_keeps (Leads.bind (Keeps.beginSite h hr hint) fun b _ h₁ _ hb =>
        Leads.pure h₁ (.inr ⟨b.cell, rfl, hb⟩))
  | resolveSite b sh => exact valid_of_quiet rfl (Keeps.resolveSite h hr.1 hr.2.1 hr.2.2)
  | resolveOperands b ops => exact valid_of_quiet rfl (Keeps.resolveOperands h hr.1 hr.2.1 hr.2.2)
  | bootstrap x binder => exact valid_of_quiet rfl (Keeps.bootstrap h x binder)
  | declare c name type access static =>
      exact valid_of_quiet rfl (Keeps.declare h c name type access static)
  | setType f type => exact valid_of_quiet rfl (Keeps.setType h hr.1 hr.2 type)
  | emit c i => exact valid_of_quiet rfl (Keeps.emit h c i)

/-! ## Whole histories -/

lemma World.valid_initial (p : Platform) : (World.initial p).Valid p := by
  have hcensus : (initial p).store.census p (initial p).client = {x | p.Provides x} := by
    refine Set.Subset.antisymm ?_ fun x hx => .inl (.inl hx)
    rintro x ((hx | hx) | ⟨d, -, r, k, hd⟩)
    · exact hx
    · cases hx
    · cases hd
  refine
    { types := ?_
      plain := p.added_initialTypes
      client := fun x hx => absurd hx (Set.notMem_empty x)
      registry := fun r n k d hd => by cases hd
      finals := fun id x hx => by cases hx
      bindings := fun id b hb => by cases hb
      cells := fun c hc => by cases hc }
  rw [hcensus]
  exact p.sound_initialTypes

/-- **A whole history.**  The invariant is kept, and nothing is taken back. -/
theorem World.Run.valid (hrun : w.Run p w') (h : w.Valid p) :
    w'.Valid p ∧ w.store.Grows w'.store ∧ w.client ⊆ w'.client ∧ w.cells ⊆ w'.cells := by
  induction hrun with
  | refl => exact ⟨h, .refl _, Set.Subset.refl _, List.Subset.refl _⟩
  | step _ hr ih =>
      obtain ⟨h₁, hg, hclient, hcells⟩ := ih
      obtain ⟨h₂, hg'⟩ := World.perform_valid h₁ hr
      exact ⟨h₂, hg.trans hg', hclient.trans Set.subset_union_right,
        List.Subset.trans hcells (List.subset_append_right _ _)⟩

/-- The invariant holds after every history of a program. -/
lemma World.Run.valid_of_initial (hrun : (World.initial p).Run p w) : w.Valid p :=
  (hrun.valid (World.valid_initial p)).1

end Step

/-! ## Histories on record -/

/-- A request, with the program that it finds. -/
structure Event where
  world : World
  request : Request

/-- The program comes about by the given requests, oldest first. -/
inductive World.History (p : Platform) : List Event → World → Prop
  | initial : History p [] (.initial p)
  | step {log : List Event} {w : World} {r : Request} (h : History p log w) (hr : r.Allowed p w) :
      History p (log ++ [⟨w, r⟩]) (w.perform r)

lemma World.History.run {p : Platform} {log : List Event} {w : World} (h : World.History p log w) :
    (World.initial p).Run p w := by
  induction h with
  | initial => exact .refl
  | step _ hr ih => exact ih.step hr

/-- The list recounts a history of the program: it has what `read` gives for each request, oldest
first, and the requests are all as `ok` says. -/
def World.Recounts {α : Type} (p : Platform) (ok : Event → Prop) (read : Event → List α)
    (log : List α) (w : World) : Prop :=
  ∃ events, World.History p events w ∧ (∀ e ∈ events, ok e) ∧ log = events.flatMap read

namespace World.Recounts

variable {α : Type} {p : Platform} {ok : Event → Prop} {read : Event → List α} {log : List α}
variable {w : World}

lemma initial : Recounts p ok read [] (.initial p) :=
  ⟨[], .initial, fun _ he => absurd he List.not_mem_nil, rfl⟩

lemma step {r : Request} (h : Recounts p ok read log w) (hr : r.Allowed p w) (hok : ok ⟨w, r⟩) :
    Recounts p ok read (log ++ read ⟨w, r⟩) (w.perform r) := by
  obtain ⟨events, hevents, hall, rfl⟩ := h
  refine ⟨events ++ [⟨w, r⟩], hevents.step hr, ?_, ?_⟩
  · rw [List.forall_mem_append, List.forall_mem_singleton]
    exact ⟨hall, hok⟩
  · rw [List.flatMap_append, List.flatMap_singleton]

/-- **A whole history.**  What holds at first and is kept by each request holds in the end. -/
@[elab_as_elim]
theorem induction {motive : ∀ (log : List α) (w : World), Recounts p ok read log w → Prop}
    (initial : motive [] (.initial p) initial)
    (step : ∀ {log : List α} {w : World} {r : Request} (h : Recounts p ok read log w)
      (hr : r.Allowed p w) (hok : ok ⟨w, r⟩), motive log w h →
        motive (log ++ read ⟨w, r⟩) (w.perform r) (h.step hr hok))
    (h : Recounts p ok read log w) : motive log w h := by
  obtain ⟨events, hevents, hall, hlog⟩ := h
  induction hevents generalizing log with
  | initial =>
      obtain rfl : log = [] := hlog
      exact initial
  | @step events w r hevents hr ih =>
      obtain rfl : log = events.flatMap read ++ read ⟨w, r⟩ := by
        rw [hlog, List.flatMap_append, List.flatMap_singleton]
      rw [List.forall_mem_append, List.forall_mem_singleton] at hall
      exact step ⟨events, hevents, hall.1, rfl⟩ hr hall.2 (ih hall.1 rfl)

lemma run (h : Recounts p ok read log w) : (World.initial p).Run p w := by
  obtain ⟨events, hevents, -⟩ := h
  exact hevents.run

lemma valid (h : Recounts p ok read log w) : w.Valid p := h.run.valid_of_initial

end World.Recounts

/-! ## What requests leave alone -/

section Spares

variable {γ : Type} {π : Store → γ} {s : Store}

lemma Request.run_quiet {α : Type} (x : StoreM α) (s : Store) :
    ((Request.quiet x).run s).2 = (x.run s).2 := by
  rw [Request.quiet, run_bind]
  rcases x.run s with ⟨e | a, s'⟩ <;> rfl

lemma Spares.quiet {α : Type} {x : StoreM α} (hx : Spares π x s) : Spares π (Request.quiet x) s :=
  Spares.bind hx fun _ _ _ => Spares.pure _

/-- The request makes an object, sees to a table of units, gives a field its type or writes to a
static initializer. -/
def Request.IsMinor : Request → Prop
  | .newRegistry _ | .newUnits | .forUnit .. | .release .. | .newSynthesizer .. | .newCells ..
  | .newSites .. | .bootstrap .. | .setType .. | .emit .. => True
  | _ => False

/-- What `π` reads is out of the reach of minor requests. -/
structure BeyondMinor (π : Store → γ) : Prop where
  next : ∀ (s : Store) n, π { s with next := n } = π s
  units : ∀ (s : Store) m, π { s with units := m } = π s
  finals : ∀ (s : Store) m, π { s with finals := m } = π s
  initializers : ∀ (s : Store) m, π { s with initializers := m } = π s
  bootstrapped : ∀ (s : Store) l, π { s with bootstrapped := l } = π s

/-- **Minor requests** leave everything else alone. -/
lemma Request.IsMinor.spares {r : Request} (hr : r.IsMinor) (h : BeyondMinor π) :
    Spares π r.perform s := by
  cases r with
  | newRegistry unit => exact Spares.quiet (Spares.fresh_bind h.next _)
  | newUnits => exact Spares.quiet (Spares.fresh_bind h.next _)
  | forUnit u unit => exact Spares.quiet (Spares.forUnit h.next h.units u unit)
  | release u unit => exact Spares.quiet (Spares.modify (h.units s _))
  | newSynthesizer v q => exact Spares.quiet (Spares.fresh_bind h.next _)
  | newCells v c => exact Spares.quiet (Spares.fresh_bind h.next _)
  | newSites v c q => exact Spares.quiet (Spares.newSites h.next v c q)
  | bootstrap x binder =>
      exact Spares.quiet (Spares.bootstrap (fun s _ => h.initializers s _)
        (fun s => h.bootstrapped s _) binder)
  | setType f type => exact Spares.quiet (Spares.setType (fun s _ => h.finals s _) type)
  | emit c i => exact Spares.quiet (Spares.emit (fun s _ => h.initializers s _) i)
  | _ => exact absurd hr id

end Spares

end CallSites
