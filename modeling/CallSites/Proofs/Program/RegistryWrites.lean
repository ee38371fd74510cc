import CallSites.Proofs.Program.Bookkeeping

/-!
# Writes to a registry

A registry is written to by looking a key up, by applying one of its definitions and by resolving a
shape.  Each of these stays within the registry: what other registries hold, what their definitions
have been applied to and who has which registry is `Store.outside` of it, and `StaysIn` says that an
operation leaves all that alone.  A write can tell its own definitions from those of others, as
definitions carry the serial of their registry (`Store.Labelled`).
-/

namespace CallSites

/-! ## Staying within a registry -/

/-- The definitions in a registry have identities of that registry. -/
def Store.Labelled (s : Store) : Prop :=
  ∀ r, ∀ d ∈ (s.registries.getD r ∅).values, ∃ n, d.id = .synthesized r n

/-- An identity is of one registry. -/
lemma eq_of_id_eq_synthesized {d : Definition} {r m : Nat} (hid : d.id = .synthesized r m) :
    ∀ q n, d.id = .synthesized q n → q = r := by
  intro q n hqn
  rw [hid] at hqn
  cases hqn
  rfl

/-- What a write to a registry has to leave alone: serials, tables, and the other registries with
what has happened to their definitions. -/
def Store.outside (r : Nat) (s : Store) :=
  (s.next, s.units, fun q : {q : Nat // q ≠ r} =>
    (s.registries.getD q ∅, fun n => s.types.entry (.synthesized q n)))

/-- The operation writes to one registry at most, whatever comes of it, and if it succeeds its
result is as stated. -/
def StaysIn (r : Nat) {α : Type} (x : StoreM α) (s : Store) (Q : α → Prop) : Prop :=
  Leads Store.Labelled (Same (Store.outside r)) x s fun a _ => Q a

/-- One more definition, labelled as one of its registry, is nothing to the other registries. -/
lemma Store.Labelled.synthesize {s : Store} (h : s.Labelled) {r : Nat} {k : Key} {d : Definition}
    (hnone : (s.registries.getD r ∅).find? k = none) {n : Nat} (hid : d.id = .synthesized r n) :
    (s.synthesize r k d).Labelled ∧ (s.synthesize r k d).outside r = s.outside r := by
  refine ⟨fun q d' hd' => ?_, ?_⟩
  · rw [Store.synthesize, OrderedMap.getD_insert] at hd'
    split at hd'
    · next hq =>
        subst hq
        rw [OrderedMap.values, OrderedMap.entries_insert_of_find?_eq_none _ hnone, List.map_append,
          List.mem_append] at hd'
        rcases hd' with hold | hnew
        · exact h _ d' hold
        · obtain rfl : d' = d := List.mem_singleton.mp hnew
          exact ⟨_, hid⟩
    · exact h q d' hd'
  · refine congrArg (fun g => (s.next, s.units, g)) (funext fun q => ?_)
    exact congrArg (·, fun n => s.types.entry (.synthesized q n))
      (OrderedMap.getD_insert_of_ne _ _ _ q.2.symm)

namespace StaysIn

variable {r : Nat} {α : Type} {s : Store} {x : StoreM α}

/-- An operation that does not write to registries at all. -/
lemma of_spares (h : s.Labelled) (hregistries : Spares Store.registries x s)
    (hout : Spares (Store.outside r) x s) : StaysIn r x s fun _ => True := by
  intro o s' hrun
  refine ⟨fun q d hd => h q d ?_, hout.of_run hrun, fun _ _ => trivial⟩
  rwa [← hregistries.of_run hrun]

lemma loadOrCreate (h : s.Labelled) (reg : Registry) (k : Key) :
    StaysIn reg.serial (reg.loadOrCreate k) s
      fun e => ∃ n, e.1.id = .synthesized reg.serial n := by
  refine Leads.loadOrCreate h (fun d hd => ?_) fun d hnone hmade => ?_
  · exact h _ d (OrderedMap.mem_values_of_find? hd)
  · have hid := (synthesizedDefinition_eq_ok hmade).1
    obtain ⟨hlabelled, hout⟩ := h.synthesize hnone hid
    exact ⟨hlabelled, hout, _, hid⟩

/-- Applying a definition that is not of another registry. -/
lemma construct (h : s.Labelled) {d : Definition} (hd : ∀ q n, d.id = .synthesized q n → q = r)
    (args : List (Option Ty)) : StaysIn r (d.construct args).toStoreM s fun _ => True := by
  refine of_spares h rfl (Spares.toStoreM ?_)
  refine congrArg (fun g => (s.next, s.units, g)) (funext fun q => ?_)
  refine congrArg (s.registries.getD q ∅, ·) (funext fun n => ?_)
  exact Spares.construct (fun hid => q.2 (hd q n hid)) args

/-- The platform has no definition of a registry. -/
lemma provided? (h : s.Labelled) (y : Synthesizer) (sh : Shape) :
    StaysIn r (y.provided? sh) s fun o => ∀ d ∈ o, ∀ q n, d.id ≠ .synthesized q n := by
  rw [Synthesizer.provided?]
  split
  · exact Leads.pure h fun d hd => by cases hd
  · rw [Services.family?]
    have hview : StaysIn r (y.services.keepsBack (.family (Synthesizer.familyOf sh))) s
        fun _ => True := of_spares h rfl rfl
    refine Leads.bind hview fun b s₁ h₁ _ _ => ?_
    split
    · exact Leads.pure h₁ fun d hd => by cases hd
    · exact Leads.pure h₁ fun d hd => Platform.id_ne_synthesized_of_family? hd

/-- **Resolving a shape** writes to the registry of the synthesizer and to no other. -/
lemma resolve (h : s.Labelled) (y : Synthesizer) (sh : Shape) :
    StaysIn y.registry.serial (y.resolve sh) s fun _ => True := by
  refine Leads.resolve (N := True)
    (P := fun d _ => ∀ q n, d.id = .synthesized q n → q = y.registry.serial)
    ?_ (fun s₁ h₁ _ _ => ?_) (fun d s₁ h₁ _ hd => ?_) (fun s₁ m h₁ => ⟨h₁, rfl⟩)
    (fun _ _ _ _ hd => hd) fun _ _ _ _ _ => trivial
  · refine (provided? h y sh).imp fun o s₁ _ _ ho => ?_
    cases o with
    | none => exact trivial
    | some d => exact fun q n hqn => absurd hqn (ho d rfl q n)
  · refine (loadOrCreate h₁ y.registry sh.key).imp fun e s₂ _ _ he => ?_
    obtain ⟨m, hid⟩ := he
    exact eq_of_id_eq_synthesized hid
  · exact Leads.withContext _ (construct h₁ hd sh.signature)

end StaysIn

/-! ## Writes -/

/-- A write to a registry. -/
inductive RegistryWrite where
  /-- Looks a key up and makes its definition if there is none. -/
  | create (k : Key)
  /-- Applies the definition at a position. -/
  | apply (position : Nat) (args : List (Option Ty))
  /-- Resolves a shape with a synthesizer over the registry. -/
  | resolve (synthesizer : Nat) (services : Services) (sh : Shape)

/-- Performs a write. -/
def RegistryWrite.perform (r : Registry) : RegistryWrite → StoreM Unit
  | .create k => do
    let _ ← r.loadOrCreate k
    pure ()
  | .apply position args => do
    match (r.definitions (← get))[position]? with
    | some d =>
      let _ ← (d.construct args).toStoreM
      pure ()
    | none => pure ()
  | .resolve synthesizer services sh => do
    let _ ← Synthesizer.resolve ⟨synthesizer, services, r⟩ sh
    pure ()

/-- **A write to a registry** stays within it. -/
lemma RegistryWrite.staysIn {s : Store} (h : s.Labelled) (r : Registry) (x : RegistryWrite) :
    StaysIn r.serial (x.perform r) s fun _ => True := by
  cases x with
  | create k => exact Leads.discard (StaysIn.loadOrCreate h r k)
  | apply position args =>
      refine Leads.get_bind ?_
      split
      · next d hd =>
          obtain ⟨m, hid⟩ := h r.serial d (List.mem_of_getElem? hd)
          exact Leads.discard (StaysIn.construct h (eq_of_id_eq_synthesized hid) args)
      · exact Leads.pure h trivial
  | resolve n v sh => exact Leads.discard (StaysIn.resolve h ⟨n, v, r⟩ sh)

lemma RegistryWrite.outside_run {s : Store} (h : s.Labelled) (r : Registry) (x : RegistryWrite) :
    ((x.perform r).run s).2.Labelled ∧
      ((x.perform r).run s).2.outside r.serial = s.outside r.serial := by
  obtain ⟨hlabelled, hout, -⟩ := x.staysIn h r ((x.perform r).run s).1 ((x.perform r).run s).2 rfl
  exact ⟨hlabelled, hout⟩

/-! ## The contents of other registries -/

/-- What is in a registry is the same in two stores. -/
structure Registry.SameIn (r : Registry) (s s' : Store) : Prop where
  definitions : s'.definitions r = s.definitions r
  numInstances : r.numInstances s' = r.numInstances s

lemma Registry.SameIn.of_eq {r : Registry} {s s' : Store}
    (hregistries : s'.registries = s.registries) (htypes : s'.types = s.types) :
    r.SameIn s s' := by
  have hdefs : s'.definitions r = s.definitions r := by
    rw [Store.definitions, Store.definitions, hregistries]
  refine ⟨hdefs, ?_⟩
  rw [Registry.numInstances, Registry.numInstances, Registry.definitions, Registry.definitions,
    hdefs, htypes]

/-- The contents of all other registries are outside of a registry. -/
lemma Registry.sameIn_of_outside {r r' : Registry} {s s' : Store} (h : s.Labelled)
    (hout : s'.outside r.serial = s.outside r.serial) (hne : r'.serial ≠ r.serial) :
    r'.SameIn s s' := by
  simp only [Store.outside, Prod.mk.injEq] at hout
  have hq := congrFun hout.2.2 ⟨r'.serial, hne⟩
  simp only [Prod.mk.injEq] at hq
  have hdefs : s'.definitions r' = s.definitions r' := hq.1
  refine ⟨hdefs, ?_⟩
  rw [Registry.numInstances, Registry.numInstances, Registry.definitions, Registry.definitions,
    hdefs]
  refine congrArg (List.foldr _ _) (List.map_congr_left fun d hd => ?_)
  obtain ⟨n, hid⟩ := h r'.serial d hd
  have hstate : s'.types.definition d = s.types.definition d := by
    rw [TypeTable.definition, TypeTable.definition, hid]
    exact congrFun hq.2 n
  rw [TypeTable.numInstances, TypeTable.numInstances, hstate]

end CallSites
