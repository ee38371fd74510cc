import CallSites.Program.Site
import CallSites.Proofs.Outcome
import Mathlib.Order.Defs.Unbundled

/-!
# What an operation does to the state

`Leads I R x s Q` is the general form of what is said about an operation `x` that is run from a
state `s`.  Whatever comes of it, the invariant `I` holds in the end and the state then stands to
`s` as `R` says, and if it succeeds, `Q` holds of its result and the state.  An operation is taken
apart from the front: the second part of a sequence may rely on what the first has established
(`Leads.bind`).

Most operations write to a small part of the state, and some only when they succeed.  A part of the
state is given by the function `π` that reads it.  `Spares π x s` says that the operation leaves
that part alone whatever comes of it, which is a case of the general form; `Atomic π x s` says so
only for the case that it fails.  Both are shown from the front: what comes before the first write
spares the part, and what comes after it cannot fail.
-/

namespace CallSites

variable {σ α β γ : Type} {π : σ → γ} {s s' : σ}

/-- Whatever comes of the operation, the invariant holds after it and the state is related to the
one before, and if it succeeds its result and the state are as stated. -/
def Leads (I : σ → Prop) (R : σ → σ → Prop) (x : ExceptT Failure (StateM σ) α) (s : σ)
    (Q : α → σ → Prop) : Prop :=
  ∀ o s', x.run s = (o, s') → I s' ∧ R s s' ∧ ∀ a, o = .ok a → Q a s'

/-- What `π` reads is the same. -/
def Same (π : σ → γ) (s s' : σ) : Prop := π s' = π s

instance : IsPreorder σ (Same π) where
  refl _ := rfl
  trans _ _ _ h h' := Eq.trans h' h

/-- The operation does not change what `π` reads. -/
def Spares (π : σ → γ) (x : ExceptT Failure (StateM σ) α) (s : σ) : Prop := π (x.run s).2 = π s

/-- The operation does not change what `π` reads, unless it succeeds. -/
def Atomic (π : σ → γ) (x : ExceptT Failure (StateM σ) α) (s : σ) : Prop :=
  ∀ e s', x.run s = (.error e, s') → π s' = π s

/-! ## Rules -/

namespace Leads

variable {I : σ → Prop} {R : σ → σ → Prop} {x : ExceptT Failure (StateM σ) α}
variable {f : α → ExceptT Failure (StateM σ) β} {Q : α → σ → Prop} {T : β → σ → Prop}

lemma imp {Q' : α → σ → Prop} (hx : Leads I R x s Q)
    (hq : ∀ a s', I s' → R s s' → Q a s' → Q' a s') : Leads I R x s Q' := by
  intro o s' hrun
  obtain ⟨h', hR, hQ⟩ := hx o s' hrun
  exact ⟨h', hR, fun a ha => hq a s' h' hR (hQ a ha)⟩

/-- The result is that of the run. -/
lemma and_run (hx : Leads I R x s Q) :
    Leads I R x s fun a s' => x.run s = (.ok a, s') ∧ Q a s' := by
  intro o s' hrun
  obtain ⟨h', hR, hQ⟩ := hx o s' hrun
  refine ⟨h', hR, fun a ha => ⟨?_, hQ a ha⟩⟩
  rw [hrun, ha]

lemma set (h : I s') (hR : R s s') {Q : PUnit → σ → Prop} (hq : Q ⟨⟩ s') :
    Leads I R (set s') s Q := by
  intro o s₁ hrun
  cases hrun
  exact ⟨h, hR, fun _ _ => hq⟩

lemma get_bind {f : σ → ExceptT Failure (StateM σ) β} (hf : Leads I R (f s) s T) :
    Leads I R (get >>= f) s T :=
  hf

variable [IsPreorder σ R]

lemma pure (h : I s) {a : α} (ha : Q a s) : Leads I R (pure a) s Q := by
  intro o s' hrun
  cases hrun
  exact ⟨h, refl_of R s, fun b hb => by cases hb; exact ha⟩

lemma throw (h : I s) (e : Failure) :
    Leads I R (throw e : ExceptT Failure (StateM σ) α) s Q := by
  intro o s' hrun
  cases hrun
  exact ⟨h, refl_of R s, fun b hb => by cases hb⟩

lemma ofResult (h : I s) {r : Except Failure α} (hr : ∀ a, r = .ok a → Q a s) :
    Leads I R (ExceptT.mk (Pure.pure r)) s Q := by
  cases r with
  | ok a => exact Leads.pure h (hr a rfl)
  | error e => exact Leads.throw h e

/-- The second part of a sequence may rely on what the first has established. -/
lemma bind (hx : Leads I R x s Q)
    (hf : ∀ a s₁, I s₁ → R s s₁ → Q a s₁ → Leads I R (f a) s₁ T) : Leads I R (x >>= f) s T := by
  intro o s' hrun
  rcases run_bind_cases hrun with ⟨a, s₁, hok, hrest⟩ | ⟨e, herr, rfl⟩
  · obtain ⟨h₁, hR₁, hq⟩ := hx _ _ hok
    obtain ⟨h', hR', hr⟩ := hf a s₁ h₁ hR₁ (hq a rfl) o s' hrest
    exact ⟨h', trans_of R hR₁ hR', hr⟩
  · obtain ⟨h', hR', -⟩ := hx _ _ herr
    exact ⟨h', hR', fun b hb => by cases hb⟩

/-- The last step of an operation whose result does not matter. -/
lemma discard (hx : Leads I R x s Q) :
    Leads I R (do let _ ← x; Pure.pure () : ExceptT Failure (StateM σ) Unit) s fun _ _ => True :=
  hx.bind fun _ _ h₁ _ _ => pure h₁ trivial

end Leads

namespace Spares

variable {x : ExceptT Failure (StateM σ) α} {f : α → ExceptT Failure (StateM σ) β}

lemma of_run {o : Except Failure α} (h : Spares π x s) (hrun : x.run s = (o, s')) : π s' = π s := by
  have hπ : π (x.run s).2 = π s := h
  rwa [hrun] at hπ

/-- Sparing a part is a case of the general form. -/
lemma iff_leads :
    Spares π x s ↔ Leads (fun _ => True) (Same π) x s fun _ _ => True :=
  ⟨fun h _ _ hrun => ⟨trivial, h.of_run hrun, fun _ _ => trivial⟩, fun h => (h _ _ rfl).2.1⟩

/-- What is spared may be all that an invariant depends on. -/
lemma leads {I : σ → Prop} {R : σ → σ → Prop} (h : Spares π x s)
    (hI : ∀ s', π s' = π s → I s' ∧ R s s') : Leads I R x s fun _ _ => True := fun _ s' hrun =>
  ⟨(hI s' (h.of_run hrun)).1, (hI s' (h.of_run hrun)).2, fun _ _ => trivial⟩

lemma pure (a : α) : Spares π (pure a) s := rfl

lemma throw (e : Failure) : Spares π (throw e : ExceptT Failure (StateM σ) α) s := rfl

lemma bind (hx : Spares π x s) (hf : ∀ a s₁, x.run s = (.ok a, s₁) → Spares π (f a) s₁) :
    Spares π (x >>= f) s := by
  rw [iff_leads] at hx ⊢
  exact hx.and_run.bind fun a s₁ _ _ hok => iff_leads.mp (hf a s₁ hok.1)

lemma get_bind {f : σ → ExceptT Failure (StateM σ) β} (hf : Spares π (f s) s) :
    Spares π (get >>= f) s := hf

lemma set (h : π s' = π s) : Spares π (set s') s := h

lemma modify {g : σ → σ} (h : π (g s) = π s) : Spares π (modify g) s := h

lemma ofResult (r : Except Failure α) :
    Spares π (ExceptT.mk (Pure.pure r) : ExceptT Failure (StateM σ) α) s := rfl

end Spares

namespace Atomic

variable {x : ExceptT Failure (StateM σ) α} {f : α → ExceptT Failure (StateM σ) β}

lemma of_spares (h : Spares π x s) : Atomic π x s := fun _ _ hrun => h.of_run hrun

/-- Nothing is written before the second part of a sequence. -/
lemma bind (hx : Spares π x s) (hf : ∀ a s₁, x.run s = (.ok a, s₁) → Atomic π (f a) s₁) :
    Atomic π (x >>= f) s := by
  intro e s' hrun
  rcases run_bind_cases hrun with ⟨a, s₁, hok, hrest⟩ | ⟨e', herr, -⟩
  · exact (hf a s₁ hok e s' hrest).trans (hx.of_run hok)
  · exact hx.of_run herr

/-- The second part of a sequence cannot fail once the first has succeeded. -/
lemma bind_ok (hx : Atomic π x s)
    (hf : ∀ a s₁, x.run s = (.ok a, s₁) → ∃ b s₂, (f a).run s₁ = (.ok b, s₂)) :
    Atomic π (x >>= f) s := by
  intro e s' hrun
  rcases run_bind_cases hrun with ⟨a, s₁, hok, hrest⟩ | ⟨e', herr, -⟩
  · obtain ⟨b, s₂, hb⟩ := hf a s₁ hok
    rw [hb] at hrest
    cases hrest
  · exact hx e' s' herr

lemma get_bind {f : σ → ExceptT Failure (StateM σ) β} (hf : Atomic π (f s) s) :
    Atomic π (get >>= f) s := hf

end Atomic

/-! ## Rules for operations on the store -/

section Store

variable {I : Store → Prop} {R : Store → Store → Prop} {Q : α → Store → Prop}
variable {π : Store → γ} {s : Store} {x : StoreM α}

lemma Leads.withContext (note : String) (hx : Leads I R x s Q) :
    Leads I R (StoreM.withContext note x) s Q := by
  intro o s' hrun
  rcases run_withContext_cases hrun with ⟨a, hok, rfl⟩ | ⟨e, e', herr, rfl⟩
  · exact hx _ _ hok
  · obtain ⟨h', hR, -⟩ := hx _ _ herr
    exact ⟨h', hR, fun b hb => by cases hb⟩

lemma Leads.ofExcept [IsPreorder Store R] (h : I s) {r : Except Error α}
    (hr : ∀ a, r = .ok a → Q a s) : Leads I R (StoreM.ofExcept r) s Q := by
  cases r with
  | ok a => exact Leads.pure h (hr a rfl)
  | error e => exact Leads.throw h (.error e)

lemma Spares.withContext (note : String) (hx : Spares π x s) :
    Spares π (StoreM.withContext note x) s :=
  Spares.iff_leads.mpr (Leads.withContext note (Spares.iff_leads.mp hx))

lemma Spares.ofExcept (r : Except Error α) : Spares π (StoreM.ofExcept r) s := by
  cases r <;> rfl

/-- An operation on types spares what it spares of the type table. -/
lemma Spares.toStoreM {x : TypeM α} (h : Spares (fun t => π { s with types := t }) x s.types) :
    Spares π x.toStoreM s := h

lemma Atomic.withContext (note : String) (hx : Atomic π x s) :
    Atomic π (StoreM.withContext note x) s := by
  intro e s' hrun
  rcases run_withContext_cases hrun with ⟨a, -, hok⟩ | ⟨e', _, herr, -⟩
  · cases hok
  · exact hx e' s' herr

/-! ## Operations that only read -/

lemma Spares.cell (v : Services) : Spares π v.cell s := by
  rw [Services.cell]
  refine Spares.bind rfl fun b s₁ _ => ?_
  split
  · exact Spares.throw _
  · exact Spares.ofExcept _

lemma Spares.genericCell (v : Services) : Spares π v.genericCell s := by
  rw [Services.genericCell]
  refine Spares.bind rfl fun b s₁ _ => ?_
  split
  · exact Spares.throw _
  · split
    · exact Spares.pure _
    · exact Spares.ofExcept _

lemma Spares.cellMember (v : Services) (name : String) : Spares π (v.cellMember name) s := by
  rw [Services.cellMember]
  refine Spares.bind rfl fun b s₁ _ => ?_
  split
  · exact Spares.throw _
  · exact Spares.ofExcept _

lemma Spares.family? (v : Services) (family : Family) (params : Int) :
    Spares π (v.family? family params) s := by
  rw [Services.family?]
  refine Spares.bind rfl fun b s₁ _ => ?_
  split <;> exact Spares.pure _

lemma Spares.provided? (y : Synthesizer) (sh : Shape) : Spares π (y.provided? sh) s := by
  rw [Synthesizer.provided?]
  split
  · exact Spares.pure _
  · exact Spares.family? _ _ _

lemma Spares.derive (f : SiteFactory) (ops : Operands) : Spares π (f.derive ops) s := by
  rw [SiteFactory.derive]
  exact Spares.bind (Spares.cell _) fun _ _ _ => Spares.ofResult _

/-! ## Looking up, resolving and binding

The rules for what writes to several parts of the store are given in the general form.  What is
established on the way has to be kept by what comes after it. -/

/-- The store with a definition for one more key in a registry. -/
def Store.synthesize (s : Store) (r : Nat) (k : Key) (d : Definition) : Store :=
  { s with registries := s.registries.insert r ((s.registries.getD r ∅).insert k d) }

/-- What looking a key up comes to: there is a definition, there is a new one, or there is no room
for it. -/
lemma Registry.loadOrCreate_cases {s' : Store} {r : Registry} {k : Key}
    {o : Except Failure (Definition × Bool)} (hrun : (r.loadOrCreate k).run s = (o, s')) :
    (∃ d, (s.registries.getD r.serial ∅).find? k = some d ∧ o = .ok (d, true) ∧ s' = s) ∨
      (s.registries.getD r.serial ∅).find? k = none ∧
        ((∃ d, synthesizedDefinition r.serial (s.registries.getD r.serial ∅).size k = .ok d ∧
            o = .ok (d, false) ∧ s' = s.synthesize r.serial k d) ∨
          ∃ e, synthesizedDefinition r.serial (s.registries.getD r.serial ∅).size k = .error e ∧
            o = .error e ∧ s' = s) := by
  rw [Registry.loadOrCreate, run_bind, run_get] at hrun
  rcases hk : (s.definitions r).find? k with _ | d
  · simp only [hk, run_bind, run_ofPure] at hrun
    refine .inr ⟨hk, ?_⟩
    rcases hd : synthesizedDefinition r.serial (s.definitions r).size k with e | d
    · rw [hd] at hrun
      cases hrun
      exact .inr ⟨e, hd, rfl, rfl⟩
    · rw [hd] at hrun
      cases hrun
      exact .inl ⟨d, hd, rfl, rfl⟩
  · simp only [hk] at hrun
    cases hrun
    exact .inl ⟨d, hk, rfl, rfl⟩

section General

variable [IsPreorder Store R]

lemma Leads.loadOrCreate (h : I s) {r : Registry} {k : Key} {Q : Definition × Bool → Store → Prop}
    (hfound : ∀ d, (s.registries.getD r.serial ∅).find? k = some d → Q (d, true) s)
    (hmade : ∀ d, (s.registries.getD r.serial ∅).find? k = none →
      synthesizedDefinition r.serial (s.registries.getD r.serial ∅).size k = .ok d →
        I (s.synthesize r.serial k d) ∧ R s (s.synthesize r.serial k d) ∧
          Q (d, false) (s.synthesize r.serial k d)) :
    Leads I R (r.loadOrCreate k) s Q := by
  intro o s' hrun
  obtain ⟨d, hd, rfl, rfl⟩ | ⟨hnone, ⟨d, hd, rfl, rfl⟩ | ⟨e, -, rfl, rfl⟩⟩ :=
    Registry.loadOrCreate_cases hrun
  · exact ⟨h, refl_of R _, fun a ha => by cases ha; exact hfound d hd⟩
  · obtain ⟨h', hR, hq⟩ := hmade d hnone hd
    exact ⟨h', hR, fun a ha => by cases ha; exact hq⟩
  · exact ⟨h, refl_of R _, fun a ha => by cases ha⟩

/-- **Resolving a shape.**  `P` is known of the definition that is applied, wherever it comes from,
and `N` if the platform has none. -/
theorem Leads.resolve {y : Synthesizer} {sh : Shape} {N : Prop} {P : Definition → Store → Prop}
    {Q : Instance → Store → Prop}
    (hprovided : Leads I R (y.provided? sh) s fun o s₁ => o.elim N (P · s₁))
    (hload : ∀ s₁, I s₁ → R s s₁ → N →
      Leads I R (y.registry.loadOrCreate sh.key) s₁ fun e s₂ => P e.1 s₂)
    (hinst : ∀ d s₁, I s₁ → R s s₁ → P d s₁ → Leads I R (Synthesizer.instantiate d sh) s₁ Q)
    (htallies : ∀ (s₁ : Store) m, I s₁ →
      I { s₁ with tallies := m } ∧ R s₁ { s₁ with tallies := m })
    (hP : ∀ d s₁ s₂, R s₁ s₂ → P d s₁ → P d s₂) (hQ : ∀ i s₁ s₂, R s₁ s₂ → Q i s₁ → Q i s₂) :
    Leads I R (y.resolve sh) s Q := by
  have hcount : ∀ f s₁, I s₁ → Leads I R (y.count f) s₁ fun _ _ => True := fun f s₁ h₁ =>
    Leads.set (htallies s₁ _ h₁).1 (htallies s₁ _ h₁).2 trivial
  rw [Synthesizer.resolve]
  refine hprovided.bind fun o s₁ h₁ hR₁ ho => ?_
  rcases o with _ | d
  · refine (hload s₁ h₁ hR₁ ho).bind fun e s₂ h₂ hR₂ he => ?_
    refine (hcount _ s₂ h₂).bind fun _ s₃ h₃ hR₃ _ => ?_
    exact hinst e.1 s₃ h₃ (trans_of R hR₁ (trans_of R hR₂ hR₃)) (hP _ _ _ hR₃ he)
  · refine (hinst d s₁ h₁ hR₁ ho).bind fun i s₂ h₂ _ hi => ?_
    exact (hcount _ s₂ h₂).bind fun _ s₃ h₃ hR₃ _ => Leads.pure h₃ (hQ i _ _ hR₃ hi)

variable {b : SiteBuilder} {sh : Shape} {Q : Instance → Store → Prop}

lemma Leads.bindShape (hresolve : Leads I R (b.factory.synthesizer.resolve sh) s Q)
    (hbind : ∀ c s₁, I s₁ → R s s₁ → Q c s₁ → Leads I R (b.cell.bind c) s₁ fun _ _ => True)
    (hQ : ∀ i s₁ s₂, R s₁ s₂ → Q i s₁ → Q i s₂) :
    Leads I R (b.bindShape sh) s fun a s' => Q a.1 s' := by
  rw [SiteBuilder.bindShape]
  refine hresolve.bind fun c s₁ h₁ hR₁ hc => ?_
  refine (hbind c s₁ h₁ hR₁ hc).bind fun _ s₂ h₂ hR₂ _ => Leads.get_bind ?_
  refine Leads.bind (Leads.ofExcept (Q := fun _ _ => True) h₂ fun _ _ => trivial) ?_
  intro _ s₃ h₃ hR₃ _
  exact Leads.pure h₃ (hQ c _ _ (trans_of R hR₂ hR₃) hc)

/-- **Resolving a site** marks its builder, binds the cell and lists the site. -/
theorem Leads.resolveSite (h : I s)
    (hresolved : ∀ s₁ : Store, I s₁ → I { s₁ with resolved := b.cell.field.id :: s₁.resolved } ∧
      R s₁ { s₁ with resolved := b.cell.field.id :: s₁.resolved })
    (hbind : ∀ s₁, I s₁ → R s s₁ → Leads I R (b.bindShape sh) s₁ fun a s₂ => Q a.1 s₂)
    (hsites : ∀ (s₁ : Store) l, I s₁ →
      I { s₁ with sites := s₁.sites.insert b.factory.serial l } ∧
        R s₁ { s₁ with sites := s₁.sites.insert b.factory.serial l })
    (hQ : ∀ i s₁ s₂, R s₁ s₂ → Q i s₁ → Q i s₂) :
    Leads I R (b.resolve sh) s fun x s' => Q x.callable s' := by
  rw [SiteBuilder.resolve]
  refine Leads.get_bind ?_
  split
  · exact Leads.throw h _
  · have hmark := hresolved s h
    refine Leads.bind (Leads.set (Q := fun _ _ => True) hmark.1 hmark.2 trivial) ?_
    intro _ s₁ h₁ hR₁ _
    refine Leads.bind (Leads.withContext _ (hbind s₁ h₁ hR₁)) ?_
    rintro ⟨callable, create⟩ s₂ h₂ - hc
    have hlist := hsites s₂
    refine Leads.get_bind (Leads.bind (Leads.set (Q := fun _ _ => True) (hlist _ h₂).1
      (hlist _ h₂).2 trivial) ?_)
    exact fun _ s₃ h₃ hR₃ _ => Leads.pure h₃ (hQ callable _ _ hR₃ hc)

end General

/-! ## Operations that write to parts of the store

What is spared is any part that does not read the parts written to. -/

lemma Spares.fresh_bind (hnext : ∀ (s : Store) n, π { s with next := n } = π s) (f : Nat → α) :
    Spares π (StoreM.fresh >>= fun n => Pure.pure (f n)) s := hnext s _

lemma Spares.forUnit (hnext : ∀ (s : Store) n, π { s with next := n } = π s)
    (hunits : ∀ (s : Store) m, π { s with units := m } = π s) (u : UnitTable) (unit : String) :
    Spares π (u.forUnit unit) s := by
  rw [UnitTable.forUnit]
  refine Spares.get_bind ?_
  rcases (s.unitRegistries u).find? unit with _ | r
  · refine Spares.bind (Spares.fresh_bind hnext _) fun r s₁ _ => ?_
    exact Spares.bind (Spares.modify (hunits s₁ _)) fun _ _ _ => Spares.pure _
  · exact Spares.pure _

lemma Spares.newSites (hnext : ∀ (s : Store) n, π { s with next := n } = π s)
    (v : Option Services) (c : Option Container) (r : Option Registry) :
    Spares π (SiteFactory.new v c r) s := by
  unfold SiteFactory.new
  split
  · exact Spares.fresh_bind hnext _
  · exact Spares.throw _

lemma Spares.loadOrCreate (hregistries : ∀ (s : Store) m, π { s with registries := m } = π s)
    (r : Registry) (k : Key) : Spares π (r.loadOrCreate k) s :=
  Spares.iff_leads.mpr <| Leads.loadOrCreate trivial (fun _ _ => trivial) fun _ _ _ =>
    ⟨trivial, hregistries s _, trivial⟩

/-- Resolving a shape constructs a type and writes to a registry and to the counts. -/
lemma Spares.resolve
    (hconstruct : ∀ (s : Store) (d : Definition) args, Spares π (d.construct args).toStoreM s)
    (hregistries : ∀ (s : Store) m, π { s with registries := m } = π s)
    (htallies : ∀ (s : Store) m, π { s with tallies := m } = π s) (y : Synthesizer) (sh : Shape) :
    Spares π (y.resolve sh) s := by
  rw [Spares.iff_leads]
  refine Leads.resolve (N := True) (P := fun _ _ => True) ?_ (fun s₁ _ _ _ => ?_)
    (fun d s₁ _ _ _ => ?_) (fun s₁ m _ => ⟨trivial, htallies s₁ m⟩) (fun _ _ _ _ _ => trivial)
    fun _ _ _ _ _ => trivial
  · refine (Spares.iff_leads.mp (Spares.provided? y sh)).imp fun o _ _ _ _ => ?_
    cases o <;> trivial
  · exact Spares.iff_leads.mp (Spares.loadOrCreate hregistries _ _)
  · exact Spares.iff_leads.mp (Spares.withContext _ (hconstruct s₁ d _))

lemma Spares.nextName {f : CellFactory}
    (hnamed : ∀ (s : Store) k, π { s with named := s.named.insert f.serial k } = π s)
    (hint : String) : Spares π (f.nextName hint) s := by
  rw [CellFactory.nextName]
  refine Spares.get_bind ?_
  exact Spares.bind (Spares.set (hnamed s _)) fun _ _ _ => Spares.pure _

lemma Spares.declare {c : Container} {name : String} {type : Option Ty} {access : Access}
    {static : Bool}
    (hfields : ∀ s : Store, (s.containerFields c).contains name = false →
      π { s with
          fields := s.fields.insert c.serial
            ((s.containerFields c).insert name (c.fieldOf name type access static)) } = π s) :
    Spares π (c.declare name type access static) s := by
  rw [Container.declare]
  refine Spares.get_bind ?_
  dsimp only
  split
  · exact Spares.throw _
  · next hfree =>
      refine Spares.bind (Spares.set (hfields s ?_)) fun _ _ _ => Spares.pure _
      exact Bool.eq_false_iff.mpr hfree

lemma Spares.setType {f : Field}
    (hfinals : ∀ (s : Store) t, π { s with finals := s.finals.insert f.id t } = π s)
    (type : Option Ty) : Spares π (f.setType type) s := by
  rw [Field.setType]
  refine Spares.get_bind ?_
  split
  · exact Spares.throw _
  · cases type with
    | none => exact Spares.throw _
    | some t => exact Spares.set (hfinals s _)

lemma Spares.allocate {f : CellFactory}
    (hnamed : ∀ (s : Store) k, π { s with named := s.named.insert f.serial k } = π s)
    (hfields : ∀ (s : Store) name type, (s.containerFields f.container).contains name = false →
      π { s with
          fields := s.fields.insert f.container.serial
            ((s.containerFields f.container).insert name
              (f.container.fieldOf name type .owner true)) } = π s)
    (hint : String) : Spares π (f.allocate hint) s := by
  rw [CellFactory.allocate]
  refine Spares.bind (Spares.cell _) fun base s₁ _ => ?_
  refine Spares.bind (Spares.cellMember _ _) fun target s₂ _ => ?_
  refine Spares.bind (Spares.nextName hnamed _) fun name s₃ _ => ?_
  refine Spares.bind (Spares.withContext _ (Spares.declare fun s => hfields s _ _)) ?_
  exact fun field s₄ _ => Spares.pure _

lemma Spares.beginSite {f : SiteFactory} {hint : String} (h : Spares π (f.cells.allocate hint) s) :
    Spares π (f.beginSite hint) s :=
  Spares.bind h fun _ _ _ => Spares.pure _

/-- Binding a cell asks for types and writes to its field and to its binding. -/
lemma Spares.bindCell {c : Cell} (htypes : ∀ (s : Store) t, π { s with types := t } = π s)
    (hfinals : ∀ (s : Store) t, π { s with finals := s.finals.insert c.field.id t } = π s)
    (hbindings : ∀ (s : Store) b, π { s with bindings := s.bindings.insert c.field.id b } = π s)
    (callable : Instance) : Spares π (c.bind callable) s := by
  rw [Cell.bind]
  refine Spares.get_bind ?_
  rcases s.binding? c with _ | b
  · refine Spares.bind (Spares.genericCell _) fun d s₁ _ => ?_
    refine Spares.bind (Spares.withContext _ (htypes s₁ _)) fun type s₂ _ => ?_
    refine Spares.bind (htypes s₂ _) fun target s₃ _ => ?_
    refine Spares.bind (htypes s₃ _) fun create s₄ _ => ?_
    exact Spares.bind (Spares.setType hfinals _) fun _ s₅ _ => Spares.modify (hbindings s₅ _)
  · exact Spares.throw _

/-- A factory binds its own cells only. -/
lemma Spares.bindWith {f : CellFactory} {c : Cell} {callable : Instance}
    (h : Spares π (c.bind callable) s) : Spares π (f.bind c callable) s := by
  rw [CellFactory.bind]
  split
  · exact h
  · exact Spares.throw _

lemma Spares.bindShape {b : SiteBuilder} (htypes : ∀ (s : Store) t, π { s with types := t } = π s)
    (hregistries : ∀ (s : Store) m, π { s with registries := m } = π s)
    (htallies : ∀ (s : Store) m, π { s with tallies := m } = π s)
    (hfinals : ∀ (s : Store) t, π { s with finals := s.finals.insert b.cell.field.id t } = π s)
    (hbindings : ∀ (s : Store) a,
      π { s with bindings := s.bindings.insert b.cell.field.id a } = π s)
    (sh : Shape) : Spares π (b.bindShape sh) s := by
  rw [Spares.iff_leads]
  refine Leads.bindShape (Q := fun _ _ => True) ?_ (fun c s₁ _ _ _ => ?_) fun _ _ _ _ _ => trivial
  · exact Spares.iff_leads.mp
      (Spares.resolve (fun s _ _ => htypes s _) hregistries htallies _ _)
  · exact Spares.iff_leads.mp (Spares.bindCell htypes hfinals hbindings c)

lemma Spares.resolveSite {b : SiteBuilder} (htypes : ∀ (s : Store) t, π { s with types := t } = π s)
    (hregistries : ∀ (s : Store) m, π { s with registries := m } = π s)
    (htallies : ∀ (s : Store) m, π { s with tallies := m } = π s)
    (hfinals : ∀ (s : Store) t, π { s with finals := s.finals.insert b.cell.field.id t } = π s)
    (hbindings : ∀ (s : Store) a,
      π { s with bindings := s.bindings.insert b.cell.field.id a } = π s)
    (hresolved : ∀ s : Store, π { s with resolved := b.cell.field.id :: s.resolved } = π s)
    (hsites : ∀ (s : Store) l, π { s with sites := s.sites.insert b.factory.serial l } = π s)
    (sh : Shape) : Spares π (b.resolve sh) s := by
  rw [Spares.iff_leads]
  refine Leads.resolveSite (Q := fun _ _ => True) trivial (fun s₁ _ => ⟨trivial, hresolved s₁⟩)
    (fun s₁ _ _ => ?_) (fun s₁ l _ => ⟨trivial, hsites s₁ l⟩) fun _ _ _ _ _ => trivial
  exact Spares.iff_leads.mp (Spares.bindShape htypes hregistries htallies hfinals hbindings sh)

lemma Spares.emit {c : Container}
    (hcode : ∀ (s : Store) l, π { s with initializers := s.initializers.insert c.serial l } = π s)
    (i : Instr) : Spares π (c.emit i) s :=
  Spares.modify (hcode s _)

lemma Spares.bootstrap {x : Site}
    (hcode : ∀ (s : Store) l,
      π { s with initializers := s.initializers.insert x.container.serial l } = π s)
    (hdone : ∀ s : Store, π { s with bootstrapped := x.place.id :: s.bootstrapped } = π s)
    (binder : Option Ty) : Spares π (x.bootstrap binder) s := by
  unfold Site.bootstrap
  refine Spares.get_bind ?_
  split
  · exact Spares.throw _
  · cases binder with
    | none => exact Spares.throw _
    | some t =>
        refine Spares.bind ?_ fun _ s₁ _ => Spares.modify (hdone s₁)
        refine Spares.bind (Spares.emit hcode _) fun _ s₁ _ => ?_
        refine Spares.bind (Spares.emit hcode _) fun _ s₂ _ => ?_
        refine Spares.bind (Spares.emit hcode _) fun _ s₃ _ => ?_
        exact Spares.pure _

end Store

end CallSites
