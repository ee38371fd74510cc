import CallSites.Program.Store
import Mathlib.Tactic.Lemma

/-!
# Runs of operations that can fail

An operation on the type table or on the store is run from a state and comes back with an outcome
and a new state.  An operation that fails keeps what it has done, so the new state matters whatever
the outcome.  The equations below say what each building block of an operation does to a state.
With them an operation is taken apart from the front, one building block after the other, and no
proof needs to look inside the monad.
-/

namespace CallSites

/-! ## Building blocks -/

section Blocks

variable {ε σ α β : Type}

@[simp] lemma run_pure (a : α) (s : σ) :
    (pure a : ExceptT ε (StateM σ) α).run s = (.ok a, s) := rfl

@[simp] lemma run_get (s : σ) :
    (get : ExceptT ε (StateM σ) σ).run s = (.ok s, s) := rfl

@[simp] lemma run_set (s s' : σ) :
    (set s' : ExceptT ε (StateM σ) PUnit).run s = (.ok ⟨⟩, s') := rfl

@[simp] lemma run_modify (f : σ → σ) (s : σ) :
    (modify f : ExceptT ε (StateM σ) PUnit).run s = (.ok ⟨⟩, f s) := rfl

@[simp] lemma run_ofPure (r : Except ε α) (s : σ) :
    (ExceptT.mk (pure r) : ExceptT ε (StateM σ) α).run s = (r, s) := rfl

lemma run_bind (x : ExceptT ε (StateM σ) α) (f : α → ExceptT ε (StateM σ) β) (s : σ) :
    (x >>= f).run s =
      match x.run s with
      | (.ok a, s₁) => (f a).run s₁
      | (.error e, s₁) => (.error e, s₁) := by
  have hrun : (x >>= f).run s = ExceptT.bindCont f (x.run s).1 (x.run s).2 := rfl
  rw [hrun]
  rcases x.run s with ⟨_ | _, _⟩ <;> rfl

/-- **One step of an operation.**  Either the first part succeeds and the rest runs from where it
left off, or the first part fails and so does the whole. -/
lemma run_bind_cases {x : ExceptT ε (StateM σ) α} {f : α → ExceptT ε (StateM σ) β} {s s' : σ}
    {r : Except ε β} (h : (x >>= f).run s = (r, s')) :
    (∃ a s₁, x.run s = (.ok a, s₁) ∧ (f a).run s₁ = (r, s')) ∨
      ∃ e, x.run s = (.error e, s') ∧ r = .error e := by
  rw [run_bind] at h
  rcases hx : x.run s with ⟨e | a, s₁⟩
  · rw [hx] at h
    cases h
    exact .inr ⟨e, rfl, rfl⟩
  · rw [hx] at h
    exact .inl ⟨a, s₁, rfl, h⟩

end Blocks

/-! ## Operations on types within the store -/

variable {α : Type}

lemma run_toStoreM (x : TypeM α) (s : Store) :
    x.toStoreM.run s = ((x.run s.types).1, { s with types := (x.run s.types).2 }) := rfl

lemma run_withContext (note : String) (x : StoreM α) (s : Store) :
    (StoreM.withContext note x).run s =
      match x.run s with
      | (.ok a, s₁) => (.ok a, s₁)
      | (.error f, s₁) => (.error (f.mapError (.context note)), s₁) := by
  rcases hx : x.run s with ⟨e | a, s₁⟩
  all_goals
    unfold StoreM.withContext
    simp only [tryCatch, tryCatchThe, MonadExceptOf.tryCatch, ExceptT.tryCatch, ExceptT.run_mk,
      bind, StateT.bind]
    simp only [ExceptT.run] at hx
    rw [hx]
    rfl

/-- A note in front of an error changes neither the state nor a success. -/
lemma run_withContext_cases {note : String} {x : StoreM α} {s s' : Store} {r : Except Failure α}
    (h : (StoreM.withContext note x).run s = (r, s')) :
    (∃ a, x.run s = (.ok a, s') ∧ r = .ok a) ∨
      ∃ e f, x.run s = (.error e, s') ∧ r = .error f := by
  rw [run_withContext] at h
  rcases hx : x.run s with ⟨e | a, s₁⟩
  · rw [hx] at h
    cases h
    exact .inr ⟨e, _, rfl, rfl⟩
  · rw [hx] at h
    cases h
    exact .inl ⟨a, rfl, rfl⟩

end CallSites
