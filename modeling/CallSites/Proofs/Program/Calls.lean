import CallSites.Proofs.Program.History

/-!
# Calls to resolve shapes

A `Resolution` is one call to resolve a shape, with the store that it finds.  `Resolution.Course`
lists the ways in which a call can go, with what it returns and the store it leaves, and
`Resolution.course` says that there are no others.  What is known about the effects of a call on
registries, types and counts is read off these.

A request makes at most one call, and `Request.resolutions` gives it.  Part of the store may be out
of reach of everything that the request does besides: `Store.ChangesBy` says that a part changes by
the calls and by nothing else.  The calls of a history are those of its requests.
-/

namespace CallSites

/-! ## One call -/

/-- The store in which a synthesizer has changed its counts. -/
def Store.count (s : Store) (n : Nat) (f : Tally → Tally) : Store :=
  { s with tallies := s.tallies.insert n (f (s.tallies.getD n {})) }

lemma Store.getD_count (s : Store) (m n : Nat) (f : Tally → Tally) :
    (s.count m f).tallies.getD n {} =
      if m = n then f (s.tallies.getD n {}) else s.tallies.getD n {} := by
  rw [Store.count, OrderedMap.getD_insert]
  split
  · next hmn => rw [hmn]
  · rfl

lemma Store.Valid.count {p : Platform} {C : Set Ty} {L : List Cell} {s : Store}
    (hs : s.Valid p C L) (n : Nat) (f : Tally → Tally) :
    (s.count n f).Valid p C L ∧ s.Grows (s.count n f) :=
  hs.frame rfl rfl rfl rfl rfl

@[simp] lemma Store.tallies_synthesize (s : Store) (r : Nat) (k : Key) (d : Definition) :
    (s.synthesize r k d).tallies = s.tallies := rfl

/-- What applying a definition to a shape comes to. -/
lemma Synthesizer.instantiate_cases {s s' : Store} {d : Definition} {sh : Shape}
    {o : Except Failure Instance} (hrun : (Synthesizer.instantiate d sh).run s = (o, s')) :
    (∃ e, o = .error e ∧ s' = s) ∨
      ∃ i t, (d.construct sh.signature).run s.types = (.ok i, t) ∧ o = .ok i ∧
        s' = { s with types := t } := by
  rcases hcon : (d.construct sh.signature).run s.types with ⟨e | i, t⟩
  · rw [Synthesizer.instantiate, run_withContext, run_toStoreM, hcon] at hrun
    cases hrun
    obtain ⟨_, -, -, rfl⟩ | ⟨as, -, ⟨i, -, hr, -⟩ | ⟨-, hr, -⟩⟩ := Definition.construct_cases hcon
    · exact .inl ⟨_, rfl, rfl⟩
    · cases hr
    · cases hr
  · rw [Synthesizer.instantiate, run_withContext, run_toStoreM, hcon] at hrun
    cases hrun
    exact .inr ⟨i, t, rfl, rfl, rfl⟩

/-- A call to resolve a shape, with the store that it finds. -/
structure Resolution where
  synthesizer : Synthesizer
  shape : Shape
  store : Store

namespace Resolution

/-- What the call comes to. -/
def run (a : Resolution) : Except Failure Instance × Store :=
  (a.synthesizer.resolve a.shape).run a.store

/-- The call returns an instance. -/
def succeeds (a : Resolution) : Bool := a.run.1.toBool

/-- How a call goes: what it returns and which store it leaves. -/
inductive Course (p : Platform) (a : Resolution) : Except Failure Instance × Store → Prop
  /-- A callable family is applied. -/
  | family {d : Definition} {i : Instance} {s' : Store} (hprov : p.provided? a.shape = some d)
      (hinst : (Synthesizer.instantiate d a.shape).run a.store = (.ok i, s')) :
      Course p a (.ok i, s'.count a.synthesizer.serial fun t =>
        { t with fastPath := t.fastPath + 1 })
  /-- A callable family cannot be applied. -/
  | refused {d : Definition} {e : Failure} {s' : Store} (hprov : p.provided? a.shape = some d)
      (hinst : (Synthesizer.instantiate d a.shape).run a.store = (.error e, s')) :
      Course p a (.error e, s')
  /-- There is a definition, and it is applied after that has been counted. -/
  | found {d : Definition} {o : Except Failure Instance} {s' : Store}
      (hprov : p.provided? a.shape = none)
      (hfound : a.synthesizer.registry.lookup? a.shape.key a.store = some d)
      (hinst : (Synthesizer.instantiate d a.shape).run (a.store.count a.synthesizer.serial fun t =>
        { t with reused := t.reused + 1 }) = (o, s')) : Course p a (o, s')
  /-- A definition is made, and it is applied after that has been counted. -/
  | made {d : Definition} {o : Except Failure Instance} {s' : Store}
      (hprov : p.provided? a.shape = none)
      (hnone : a.synthesizer.registry.lookup? a.shape.key a.store = none)
      (hmade : synthesizedDefinition a.synthesizer.registry.serial
        (a.synthesizer.registry.size a.store) a.shape.key = .ok d)
      (hinst : (Synthesizer.instantiate d a.shape).run
        ((a.store.synthesize a.synthesizer.registry.serial a.shape.key d).count
          a.synthesizer.serial fun t => { t with synthesized := t.synthesized + 1 }) = (o, s')) :
      Course p a (o, s')
  /-- There is no room for a definition. -/
  | full {e : Failure} (hprov : p.provided? a.shape = none)
      (hmade : synthesizedDefinition a.synthesizer.registry.serial
        (a.synthesizer.registry.size a.store) a.shape.key = .error e) :
      Course p a (.error e, a.store)

variable {p : Platform} {a : Resolution} {C : Set Ty} {L : List Cell}

/-- **How a call goes.** -/
theorem course (hy : a.synthesizer.services = .ofPlatform p) : a.Course p a.run := by
  rcases hrun : a.run with ⟨o, s'⟩
  rw [run, Synthesizer.resolve, run_bind, run_provided? hy] at hrun
  rcases hprov : p.provided? a.shape with _ | d
  · simp only [hprov] at hrun
    obtain ⟨⟨d, loaded⟩, s₁, hload, hrest⟩ | ⟨e, hload, rfl⟩ := run_bind_cases hrun
    · obtain ⟨d', hold, he, rfl⟩ | ⟨hnone, ⟨d', hmade, he, rfl⟩ | ⟨e, -, he, -⟩⟩ :=
        Registry.loadOrCreate_cases hload
      · cases he
        exact .found hprov hold hrest
      · cases he
        exact .made hprov hnone hmade hrest
      · cases he
    · obtain ⟨d, -, he, -⟩ | ⟨-, ⟨d, -, he, -⟩ | ⟨e, hmade, he, rfl⟩⟩ :=
        Registry.loadOrCreate_cases hload
      · cases he
      · cases he
      · cases he
        exact .full hprov hmade
  · simp only [hprov] at hrun
    obtain ⟨i, s₁, hinst, hrest⟩ | ⟨e, hinst, rfl⟩ := run_bind_cases hrun
    · cases hrest
      exact .family hprov hinst
    · exact .refused hprov hinst

/-- The call is made through the platform, over types that exist. -/
structure Sound (p : Platform) (C : Set Ty) (L : List Cell) (a : Resolution) : Prop where
  valid : a.store.Valid p C L
  services : a.synthesizer.services = .ofPlatform p
  known : a.shape.Known (a.store.census p C) a.store.types

/-- What a call leaves and what it returns are sound. -/
lemma Sound.keeps (h : a.Sound p C L) :
    a.run.2.Valid p C L ∧ ∀ i, a.run.1 = .ok i →
      Resolves p C a.synthesizer.registry.serial a.shape a.run.2 i := by
  obtain ⟨h', -, hres⟩ := Keeps.resolve h.valid h.services h.known a.run.1 a.run.2 rfl
  exact ⟨h', hres⟩

end Resolution

/-! ## The calls of factories and builders -/

/-- The store in which a builder has been tried. -/
def Store.mark (s : Store) (id : FieldId) : Store := { s with resolved := id :: s.resolved }

lemma Store.Valid.mark {p : Platform} {C : Set Ty} {L : List Cell} {s : Store}
    (hs : s.Valid p C L) (id : FieldId) : (s.mark id).Valid p C L ∧ s.Grows (s.mark id) :=
  hs.frame rfl rfl rfl rfl rfl

/-- The store with one more site of a factory. -/
def Store.list (s : Store) (f : SiteFactory) (x : Site) : Store :=
  { s with sites := s.sites.insert f.serial (s.factorySites f ++ [x]) }

/-- The call that is made for the callable type of an operation, if it has a shape. -/
def SiteFactory.resolutions (f : SiteFactory) (ops : Operands) (s : Store) : List Resolution :=
  match ((f.derive ops).run s).1 with
  | .ok sh => [⟨f.synthesizer, sh, s⟩]
  | .error _ => []

namespace SiteBuilder

/-- The call that is made for a site, if it has not been resolved. -/
def resolutions (b : SiteBuilder) (sh : Shape) (s : Store) : List Resolution :=
  if s.isResolved b then [] else [⟨b.factory.synthesizer, sh, s.mark b.cell.field.id⟩]

/-- The call that is made for a site with the shape of an operation. -/
def operandResolutions (b : SiteBuilder) (ops : Operands) (s : Store) : List Resolution :=
  match ((b.factory.derive ops).run s).1 with
  | .ok sh => b.resolutions sh s
  | .error _ => []

/-- The site that a builder resolves to. -/
def siteOf (b : SiteBuilder) (sh : Shape) (a : Instance × Member) (s : Store) : Site :=
  ⟨(s.factorySites b.factory).length, sh, b.cell, a.1, s.target b.cell, a.2, b.factory.container⟩

/-- A builder is marked, whatever comes of it, and the site is listed if all goes well. -/
lemma run_resolve {b : SiteBuilder} {s : Store} (hnew : s.isResolved b = false) (sh : Shape) :
    (b.resolve sh).run s =
      match (b.bindShape sh).run (s.mark b.cell.field.id) with
      | (.ok a, s₁) => (.ok (b.siteOf sh a s₁), s₁.list b.factory (b.siteOf sh a s₁))
      | (.error e, s₁) =>
        (.error (e.mapError (.context ("call site " ++ b.cell.name ++ ": "))), s₁) := by
  rw [resolve, run_bind, run_get]
  simp only [hnew, if_false, Bool.false_eq_true]
  rw [run_bind, run_set]
  dsimp only
  rw [← Store.mark, run_bind, run_withContext]
  rcases (b.bindShape sh).run (s.mark b.cell.field.id) with ⟨e | a, s₁⟩ <;> rfl

end SiteBuilder

section Sound

variable {p : Platform} {C : Set Ty} {L : List Cell} {s : Store} {sh : Shape} {ops : Operands}

lemma SiteFactory.sound_resolutions (hs : s.Valid p C L) {f : SiteFactory}
    (hf : f.services = .ofPlatform p) (hops : ops.Known (s.census p C) s.types) :
    ∀ a ∈ f.resolutions ops s, a.Sound p C L ∧ a.shape.Known (s.census p C) s.types := by
  intro a ha
  rw [resolutions] at ha
  split at ha
  · next sh hsh =>
      have hknown := hs.known_of_derive hf hops hsh
      rw [List.mem_singleton.mp ha]
      exact ⟨⟨hs, hf, hknown⟩, hknown⟩
  · cases ha

/-- A site is marked before the call, which makes no difference to what exists. -/
lemma SiteBuilder.sound_resolutions (hs : s.Valid p C L) {b : SiteBuilder}
    (hb : b.factory.services = .ofPlatform p) (hsh : sh.Known (s.census p C) s.types) :
    ∀ a ∈ b.resolutions sh s, a.Sound p C L ∧ a.shape.Known (s.census p C) s.types := by
  intro a ha
  rw [resolutions] at ha
  split at ha
  · cases ha
  · rw [List.mem_singleton.mp ha]
    exact ⟨⟨(hs.mark _).1, hb, hsh⟩, hsh⟩

lemma SiteBuilder.sound_operandResolutions (hs : s.Valid p C L) {b : SiteBuilder}
    (hb : b.factory.services = .ofPlatform p) (hops : ops.Known (s.census p C) s.types) :
    ∀ a ∈ b.operandResolutions ops s, a.Sound p C L ∧ a.shape.Known (s.census p C) s.types := by
  intro a ha
  rw [operandResolutions] at ha
  split at ha
  · next sh hsh => exact sound_resolutions hs hb (hs.known_of_derive hb hops hsh) a ha
  · cases ha

end Sound

/-! ## What changes by calls alone -/

/-- What `π` reads changes by the given calls, of which there is at most one, and by nothing
else. -/
def Store.ChangesBy {γ : Type} (π : Store → γ) (s s' : Store) (calls : List Resolution) : Prop :=
  calls = [] ∧ π s' = π s ∨ ∃ a, calls = [a] ∧ π a.store = π s ∧ π s' = π a.run.2

section Changes

variable {γ : Type} {π : Store → γ} {s : Store}

lemma run_derive_eq (f : SiteFactory) (ops : Operands) (s : Store) :
    (f.derive ops).run s = (((f.derive ops).run s).1, s) :=
  Prod.ext rfl (Spares.derive (π := id) f ops)

lemma SiteFactory.changesBy_callableType (f : SiteFactory) (ops : Operands) (s : Store) :
    s.ChangesBy π ((f.callableType ops).run s).2 (f.resolutions ops s) := by
  rw [callableType, run_bind, run_derive_eq, resolutions]
  rcases ((f.derive ops).run s).1 with e | sh
  · exact .inl ⟨rfl, rfl⟩
  · exact .inr ⟨_, rfl, rfl, rfl⟩

namespace SiteBuilder

variable {b : SiteBuilder}

/-- After the call the cell is bound. -/
lemma apply_bindShape {a : Resolution} (ha : a.synthesizer = b.factory.synthesizer)
    (hbind : ∀ i, a.run.1 = .ok i → Spares π (b.cell.bind i) a.run.2) :
    π ((b.bindShape a.shape).run a.store).2 = π a.run.2 := by
  rw [bindShape, run_bind, ← ha, ← Resolution.run]
  rcases hrun : a.run with ⟨e | i, s₁⟩
  · rfl
  · rw [hrun] at hbind
    refine Spares.bind (hbind i rfl) fun _ s₂ _ => ?_
    exact Spares.get_bind (Spares.bind (Spares.ofExcept _) fun _ _ _ => Spares.pure _)

/-- **Resolving a site** makes one call, unless the site has been resolved. -/
lemma changesBy_resolve {sh : Shape} (hmark : ∀ (s : Store) id, π (s.mark id) = π s)
    (hlist : ∀ (s : Store) f x, π (s.list f x) = π s)
    (hbind : ∀ a ∈ b.resolutions sh s, ∀ i, a.run.1 = .ok i →
      Spares π (b.cell.bind i) a.run.2) :
    s.ChangesBy π ((b.resolve sh).run s).2 (b.resolutions sh s) := by
  rcases hdone : s.isResolved b with _ | _
  · let a : Resolution := ⟨b.factory.synthesizer, sh, s.mark b.cell.field.id⟩
    have hcalls : b.resolutions sh s = [a] := by
      rw [resolutions, hdone]
      rfl
    rw [hcalls] at hbind ⊢
    refine .inr ⟨a, rfl, hmark s _, ?_⟩
    have hafter := apply_bindShape (a := a) rfl (hbind a (List.mem_singleton_self a))
    rw [run_resolve hdone]
    rcases hrun : (b.bindShape sh).run (s.mark b.cell.field.id) with ⟨e | x, s₁⟩
    all_goals rw [hrun] at hafter
    · exact hafter
    · exact (hlist s₁ _ _).trans hafter
  · refine .inl ⟨by rw [resolutions, hdone]; rfl, ?_⟩
    rw [resolve, run_bind, run_get]
    simp only [hdone, if_true]
    rfl

lemma changesBy_resolveOperands {ops : Operands}
    (hmark : ∀ (s : Store) id, π (s.mark id) = π s)
    (hlist : ∀ (s : Store) f x, π (s.list f x) = π s)
    (hbind : ∀ a ∈ b.operandResolutions ops s, ∀ i, a.run.1 = .ok i →
      Spares π (b.cell.bind i) a.run.2) :
    s.ChangesBy π ((b.resolveOperands ops).run s).2 (b.operandResolutions ops s) := by
  rw [operandResolutions] at hbind ⊢
  rw [resolveOperands, run_bind, run_derive_eq]
  rcases hder : ((b.factory.derive ops).run s).1 with e | sh
  · exact .inl ⟨rfl, rfl⟩
  · rw [hder] at hbind
    exact changesBy_resolve hmark hlist hbind

end SiteBuilder

end Changes

/-! ## The calls of requests -/

namespace Request

/-- The calls to resolve shapes that a request makes. -/
def resolutions (s : Store) : Request → List Resolution
  | .resolve y sh => [⟨y, sh, s⟩]
  | .callableType f ops => f.resolutions ops s
  | .resolveSite b sh => b.resolutions sh s
  | .resolveOperands b ops => b.operandResolutions ops s
  | _ => []

/-- The request is one to resolve a shape. -/
def IsCall : Request → Prop
  | .resolve .. | .callableType .. | .resolveSite .. | .resolveOperands .. => True
  | _ => False

/-- The cell that is bound after the call. -/
def boundCell? : Request → Option Cell
  | .resolveSite b _ | .resolveOperands b _ => some b.cell
  | _ => none

variable {p : Platform} {w : World} {r : Request}

/-- The calls of an allowed request are made through the platform, over types that exist. -/
lemma sound_resolutions (hw : w.Valid p) (hr : r.Allowed p w) :
    ∀ a ∈ r.resolutions w.store,
      a.Sound p w.client w.cells ∧ a.shape.Known (w.census p) w.store.types := by
  intro a ha
  cases r with
  | resolve y sh =>
      rw [List.mem_singleton.mp ha]
      exact ⟨⟨hw, hr.1, hr.2⟩, hr.2⟩
  | callableType f ops => exact SiteFactory.sound_resolutions hw hr.1 hr.2 a ha
  | resolveSite b sh => exact SiteBuilder.sound_resolutions hw hr.1 hr.2.2 a ha
  | resolveOperands b ops => exact SiteBuilder.sound_operandResolutions hw hr.1 hr.2.2 a ha
  | _ => cases ha

/-- **One request** makes at most one call.  What nothing else about it reaches changes by the call
alone. -/
theorem changesBy_perform {γ : Type} {π : Store → γ} {s : Store}
    (hmark : ∀ (s : Store) id, π (s.mark id) = π s)
    (hlist : ∀ (s : Store) f x, π (s.list f x) = π s)
    (hbind : ∀ c ∈ r.boundCell?, ∀ a ∈ r.resolutions s, ∀ i, a.run.1 = .ok i →
      Spares π (c.bind i) a.run.2)
    (hother : ¬ r.IsCall → Spares π r.perform s) :
    s.ChangesBy π (r.perform.run s).2 (r.resolutions s) := by
  cases r with
  | resolve y sh => exact .inr ⟨_, rfl, rfl, by rw [perform, run_quiet]; rfl⟩
  | callableType f ops =>
      rw [perform, run_quiet]
      exact f.changesBy_callableType ops s
  | resolveSite b sh =>
      rw [perform, run_quiet]
      exact SiteBuilder.changesBy_resolve hmark hlist (hbind _ rfl)
  | resolveOperands b ops =>
      rw [perform, run_quiet]
      exact SiteBuilder.changesBy_resolveOperands hmark hlist (hbind _ rfl)
  | _ => exact .inl ⟨rfl, hother id⟩

lemma mem_cells_of_boundCell? (hr : r.Allowed p w) {c : Cell} (hc : c ∈ r.boundCell?) :
    c ∈ w.cells := by
  cases r with
  | resolveSite b sh | resolveOperands b ops =>
      cases hc
      exact hr.2.1
  | _ => cases hc

end Request

/-! ## The calls of a history -/

/-- The calls that are made in the course of a request. -/
def Event.resolutions (e : Event) : List Resolution := e.request.resolutions e.world.store

/-- The calls of a history are sound when they are made, and what they are about exists ever
after. -/
lemma World.History.sound {p : Platform} {log : List Event} {w : World}
    (h : World.History p log w) : ∀ e ∈ log, ∀ a ∈ e.resolutions,
      a.Sound p e.world.client e.world.cells ∧ a.shape.Known (w.census p) w.store.types := by
  induction h with
  | initial => simp
  | @step log w r h hr ih =>
      have hw := h.run.valid_of_initial
      obtain ⟨-, hg, hclient, -⟩ := (World.Run.step .refl hr : w.Run p (w.perform r)).valid hw
      intro e he a ha
      have hold : a.Sound p e.world.client e.world.cells ∧
          a.shape.Known (w.census p) w.store.types := by
        rcases List.mem_append.mp he with he | he
        · exact ih e he a ha
        · obtain rfl := List.mem_singleton.mp he
          exact Request.sound_resolutions hw hr a ha
      exact ⟨hold.1, hold.2.mono (hg.census hclient) hg.types.filed⟩

end CallSites
