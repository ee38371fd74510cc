import CallSites.Proofs.Frame
import CallSites.Proofs.Program.History

/-!
# Requests that fail

A request that fails keeps what it has done: a name stays given out, a definition stays in its
registry, an instance stays on file.  None of this is visible in the program that is being compiled.
What is visible are the fields of containers with their types, what cells are bound to, the sites of
factories and the static initializers, and of these a request that fails changes nothing
(`intact_of_failure`).

For the requests that write to this part of the store the order of their steps matters.  Binding a
cell constructs a type and asks it for two members before it writes the field, and the field, which
may refuse, before the cell.  Resolving a site lists it last, when nothing can fail any more.

No invariant is needed, so the result holds from every store, for every view of the platform, and
also if a field has been given its final type behind the back of its cell.
-/

namespace CallSites

/-- The part of the store that is visible in the program. -/
def Store.visible (s : Store) :=
  (s.fields, s.finals, s.bindings, s.sites, s.initializers)

/-- What can be seen of the program is the same in both stores. -/
structure Store.Intact (s s' : Store) : Prop where
  fields : ∀ c : Container, s'.containerFields c = s.containerFields c
  type : ∀ f : Field, s'.fieldType f = s.fieldType f
  final : ∀ f : Field, s'.isFinal f = s.isFinal f
  bound : ∀ c : Cell, s'.binding? c = s.binding? c
  /-- What reading the type, the callable and the create method of a cell comes to. -/
  binding : ∀ c : Cell, c.binding s' = c.binding s
  target : ∀ c : Cell, s'.target c = s.target c
  sites : ∀ f : SiteFactory, s'.factorySites f = s.factorySites f
  initializer : ∀ c : Container, s'.initializer c = s.initializer c

lemma Store.intact_of_visible_eq {s s' : Store} (h : s'.visible = s.visible) : s.Intact s' := by
  simp only [visible, Prod.mk.injEq] at h
  obtain ⟨hfields, hfinals, hbindings, hsites, hinit⟩ := h
  have hbound : ∀ c : Cell, s'.binding? c = s.binding? c := fun c => by
    rw [binding?, binding?, hbindings]
  refine
    { fields := fun c => ?_, type := fun f => ?_, final := fun f => ?_, bound := hbound
      binding := fun c => ?_, target := fun c => ?_, sites := fun f => ?_
      initializer := fun c => ?_ }
  · rw [containerFields, containerFields, hfields]
  · rw [fieldType, fieldType, hfinals]
  · rw [isFinal, isFinal, hfinals]
  · rw [Cell.binding, Cell.binding, hbound]
  · rw [Store.target, Store.target, hbound]
  · rw [factorySites, factorySites, hsites]
  · rw [Store.initializer, Store.initializer, hinit]

variable {s : Store}

/-! ## Operations that write nothing visible -/

lemma Spares.types_visible {α : Type} (x : TypeM α) : Spares Store.visible x.toStoreM s :=
  Spares.toStoreM rfl

lemma Spares.resolve_visible (y : Synthesizer) (sh : Shape) :
    Spares Store.visible (y.resolve sh) s :=
  Spares.resolve (fun _ _ _ => Spares.types_visible _) (fun _ _ => rfl) (fun _ _ => rfl) y sh

lemma Spares.callableType_visible (f : SiteFactory) (ops : Operands) :
    Spares Store.visible (f.callableType ops) s := by
  rw [SiteFactory.callableType]
  exact Spares.bind (Spares.derive f ops) fun sh s₁ _ => Spares.resolve_visible _ _

/-! ## Operations that write when they succeed -/

lemma Atomic.declare (c : Container) (name : String) (type : Option Ty) (access : Access)
    (static : Bool) : Atomic Store.visible (c.declare name type access static) s := by
  rw [Container.declare]
  refine Atomic.get_bind ?_
  dsimp only
  split
  · exact Atomic.of_spares (Spares.throw _)
  · intro e s' hrun
    cases hrun

lemma Atomic.setType (f : Field) (type : Option Ty) :
    Atomic Store.visible (f.setType type) s := by
  rw [Field.setType]
  refine Atomic.get_bind ?_
  split
  · exact Atomic.of_spares (Spares.throw _)
  · cases type with
    | none => exact Atomic.of_spares (Spares.throw _)
    | some t =>
        intro e s' hrun
        cases hrun

lemma Atomic.allocate (f : CellFactory) (hint : String) :
    Atomic Store.visible (f.allocate hint) s := by
  rw [CellFactory.allocate]
  refine Atomic.bind (Spares.cell _) fun base s₁ _ => ?_
  refine Atomic.bind (Spares.cellMember _ _) fun target s₂ _ => ?_
  refine Atomic.bind (Spares.nextName (fun _ _ => rfl) _) fun name s₃ _ => ?_
  exact Atomic.bind_ok (Atomic.withContext _ (Atomic.declare _ _ _ _ _)) fun field s₄ _ =>
    ⟨_, _, rfl⟩

/-- Everything that can fail comes before the field is written, and the field before the cell. -/
lemma Atomic.bindCell (c : Cell) (callable : Instance) :
    Atomic Store.visible (c.bind callable) s := by
  rw [Cell.bind]
  refine Atomic.get_bind ?_
  rcases s.binding? c with _ | b
  · refine Atomic.bind (Spares.genericCell _) fun d s₁ _ => ?_
    refine Atomic.bind (Spares.withContext _ (Spares.types_visible _)) fun type s₂ _ => ?_
    refine Atomic.bind (Spares.types_visible _) fun target s₃ _ => ?_
    refine Atomic.bind (Spares.types_visible _) fun create s₄ _ => ?_
    exact Atomic.bind_ok (Atomic.setType _ _) fun _ s₅ _ => ⟨_, _, rfl⟩
  · exact Atomic.of_spares (Spares.throw _)

lemma Atomic.bindWith (f : CellFactory) (c : Cell) (callable : Instance) :
    Atomic Store.visible (f.bind c callable) s := by
  rw [CellFactory.bind]
  split
  · exact Atomic.bindCell c callable
  · exact Atomic.of_spares (Spares.throw _)

/-- A cell that has been bound can be read. -/
lemma Cell.exists_binding_of_bind {c : Cell} {callable : Instance} {s' : Store}
    (h : (c.bind callable).run s = (.ok (), s')) : ∃ b, c.binding s' = .ok b := by
  have hlast : ∀ (x : StoreM Unit) (b : Binding) {s₁ : Store},
      (x >>= fun _ => modify fun s => { s with bindings := s.bindings.insert c.field.id b }).run s₁
        = (.ok (), s') → c.binding s' = .ok b := by
    intro x b s₁ hrun
    rcases run_bind_cases hrun with ⟨_, s₂, -, hset⟩ | ⟨e, -, he⟩
    · cases hset
      rw [Cell.binding, Store.binding?, OrderedMap.find?_insert_self]
      rfl
    · cases he
  rw [Cell.bind, run_bind, run_get] at h
  rcases hb : s.binding? c with _ | b
  · simp only [hb] at h
    rcases run_bind_cases h with ⟨d, s₁, -, h₁⟩ | ⟨e, -, he⟩
    · rcases run_bind_cases h₁ with ⟨type, s₂, -, h₂⟩ | ⟨e, -, he⟩
      · rcases run_bind_cases h₂ with ⟨target, s₃, -, h₃⟩ | ⟨e, -, he⟩
        · rcases run_bind_cases h₃ with ⟨create, s₄, -, h₄⟩ | ⟨e, -, he⟩
          · exact ⟨_, hlast _ _ h₄⟩
          · cases he
        · cases he
      · cases he
    · cases he
  · simp only [hb] at h
    cases h

lemma Atomic.bindShape (b : SiteBuilder) (sh : Shape) :
    Atomic Store.visible (b.bindShape sh) s := by
  rw [SiteBuilder.bindShape]
  refine Atomic.bind (Spares.resolve_visible _ _) fun callable s₁ _ => ?_
  refine Atomic.bind_ok (Atomic.bindCell _ _) fun _ s₂ hbind => ?_
  obtain ⟨binding, hread⟩ := Cell.exists_binding_of_bind hbind
  refine ⟨(callable, binding.create), s₂, ?_⟩
  rw [run_bind, run_get]
  simp only [hread]
  rfl

lemma Atomic.resolveSite (b : SiteBuilder) (sh : Shape) :
    Atomic Store.visible (b.resolve sh) s := by
  rw [SiteBuilder.resolve]
  refine Atomic.get_bind ?_
  split
  · exact Atomic.of_spares (Spares.throw _)
  · refine Atomic.bind (Spares.set rfl) fun _ s₁ _ => ?_
    exact Atomic.bind_ok (Atomic.withContext _ (Atomic.bindShape b sh)) fun _ s₂ _ => ⟨_, _, rfl⟩

lemma Atomic.resolveOperands (b : SiteBuilder) (ops : Operands) :
    Atomic Store.visible (b.resolveOperands ops) s := by
  rw [SiteBuilder.resolveOperands]
  exact Atomic.bind (Spares.derive _ _) fun sh s₁ _ => Atomic.resolveSite b sh

lemma Atomic.bootstrap (x : Site) (binder : Option Ty) :
    Atomic Store.visible (x.bootstrap binder) s := by
  unfold Site.bootstrap
  refine Atomic.get_bind ?_
  split
  · exact Atomic.of_spares (Spares.throw _)
  · cases binder with
    | none => exact Atomic.of_spares (Spares.throw _)
    | some t =>
        intro e s' hrun
        cases hrun

/-! ## Every request -/

lemma Atomic.quiet {α : Type} {x : StoreM α} (hx : Atomic Store.visible x s) :
    Atomic Store.visible (Request.quiet x) s :=
  Atomic.bind_ok hx fun _ _ _ => ⟨_, _, rfl⟩

lemma Atomic.perform (r : Request) (s : Store) : Atomic Store.visible r.perform s := by
  cases r with
  | types r =>
      exact Atomic.bind_ok (Atomic.of_spares (Spares.types_visible _)) fun _ _ _ => ⟨_, _, rfl⟩
  | newRegistry unit => exact Atomic.quiet (Atomic.of_spares (Spares.fresh_bind (fun _ _ => rfl) _))
  | newUnits => exact Atomic.quiet (Atomic.of_spares (Spares.fresh_bind (fun _ _ => rfl) _))
  | forUnit u unit =>
      refine Atomic.quiet (Atomic.of_spares ?_)
      exact Spares.forUnit (fun _ _ => rfl) (fun _ _ => rfl) u unit
  | release u unit => exact Atomic.quiet (Atomic.of_spares (Spares.modify rfl))
  | newSynthesizer v r =>
      exact Atomic.quiet (Atomic.of_spares (Spares.fresh_bind (fun _ _ => rfl) _))
  | newCells v c => exact Atomic.quiet (Atomic.of_spares (Spares.fresh_bind (fun _ _ => rfl) _))
  | newSites v c r => exact Atomic.quiet (Atomic.of_spares (Spares.newSites (fun _ _ => rfl) v c r))
  | loadOrCreate r k =>
      exact Atomic.quiet (Atomic.of_spares (Spares.loadOrCreate (fun _ _ => rfl) r k))
  | resolve y sh => exact Atomic.quiet (Atomic.of_spares (Spares.resolve_visible y sh))
  | callableType f ops => exact Atomic.quiet (Atomic.of_spares (Spares.callableType_visible f ops))
  | allocate f hint => exact Atomic.bind_ok (Atomic.allocate f hint) fun _ _ _ => ⟨_, _, rfl⟩
  | bind c callable => exact Atomic.quiet (Atomic.bindCell c callable)
  | bindWith f c callable => exact Atomic.quiet (Atomic.bindWith f c callable)
  | beginSite f hint =>
      refine Atomic.bind_ok ?_ fun _ _ _ => ⟨_, _, rfl⟩
      exact Atomic.bind_ok (Atomic.allocate f.cells hint) fun _ _ _ => ⟨_, _, rfl⟩
  | resolveSite b sh => exact Atomic.quiet (Atomic.resolveSite b sh)
  | resolveOperands b ops => exact Atomic.quiet (Atomic.resolveOperands b ops)
  | bootstrap x binder => exact Atomic.quiet (Atomic.bootstrap x binder)
  | declare c name type access static =>
      exact Atomic.quiet (Atomic.declare c name type access static)
  | setType f type => exact Atomic.quiet (Atomic.setType f type)
  | emit c i => exact Atomic.quiet fun e s' hrun => by cases hrun

/-- **A request that fails leaves the program as it was.** -/
theorem intact_of_failure {r : Request} {s s' : Store} {e : Failure}
    (h : r.perform.run s = (.error e, s')) : s.Intact s' :=
  Store.intact_of_visible_eq (Atomic.perform r s e s' h)

/-- The field of a site has been given a type from outside.  Resolving the site goes as far as
adding a definition to the registry, and then fails at the field. -/
theorem intact_of_failure_halfway :
    let f : SiteFactory := ⟨0, .ofPlatform .standard, ⟨0, "", "Program"⟩, ⟨1, ""⟩⟩
    let w := (World.initial .standard).perform (.beginSite f "call")
    ∃ c ∈ w.cells, ∃ e s',
      let s := (w.perform (.setType c.field (some c.provisional))).store
      (Request.resolveSite ⟨f, c⟩ ⟨[⟨some c.provisional, .byRef⟩], none⟩).perform.run s =
          (.error e, s') ∧
        f.registry.size s = 0 ∧ f.registry.size s' = 1 ∧ s.isFinal c.field = true ∧
        s.Intact s' := by
  intro f w
  have hsite : (w.cells.any fun c =>
      let s := (w.perform (.setType c.field (some c.provisional))).store
      let x := (Request.resolveSite ⟨f, c⟩ ⟨[⟨some c.provisional, .byRef⟩], none⟩).perform.run s
      !x.1.toBool && f.registry.size s == 0 && f.registry.size x.2 == 1 && s.isFinal c.field) =
        true := by
    unfold w f
    decide +kernel
  obtain ⟨c, hc, hfail⟩ := List.any_eq_true.mp hsite
  simp only [Bool.and_eq_true, Bool.not_eq_true', beq_iff_eq] at hfail
  obtain ⟨⟨⟨herror, hbefore⟩, hafter⟩, hfinal⟩ := hfail
  rcases hrun : (Request.resolveSite ⟨f, c⟩ ⟨[⟨some c.provisional, .byRef⟩], none⟩).perform.run
      (w.perform (.setType c.field (some c.provisional))).store with ⟨e | m, s'⟩
  · rw [hrun] at hafter
    exact ⟨c, hc, e, s', hrun, hbefore, hafter, hfinal, intact_of_failure hrun⟩
  · rw [hrun] at herror
    cases herror

end CallSites
