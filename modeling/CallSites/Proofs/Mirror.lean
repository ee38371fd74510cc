import CallSites.Proofs.Frame

/-!
# Two runs side by side

An operation may be run from two different states, perhaps on objects that play the same part in
the one as in the other.  `Agree Q` says of two outcomes that they are the same failure, or
successes with related results.  `Mirrors π π' x x' s s' Q` says that the runs of `x` from `s` and
of `x'` from `s'` agree, and that what `π` reads after the one is what `π'` reads after the other.

As with `Spares`, an operation is taken apart from the front.  The second part of a sequence is
given the runs of the first, so what is known of each run on its own can be used.
-/

namespace CallSites

variable {σ α β α' β' γ : Type}

/-- The outcomes are the same failure, or successes with related results. -/
inductive Agree (Q : α → β → Prop) : Except Failure α → Except Failure β → Prop
  | ok {a : α} {b : β} (h : Q a b) : Agree Q (.ok a) (.ok b)
  | error (e : Failure) : Agree Q (.error e) (.error e)

namespace Agree

variable {Q : α → β → Prop} {o : Except Failure α} {o' : Except Failure β}

lemma of_ok {a : α} {b : β} (h : Agree Q (.ok a) (.ok b)) : Q a b := by
  cases h
  assumption

lemma toBool_eq (h : Agree Q o o') : o.toBool = o'.toBool := by
  cases h <;> rfl

lemma mono {R : α → β → Prop} (h : Agree Q o o')
    (hR : ∀ a b, o = .ok a → o' = .ok b → Q a b → R a b) : Agree R o o' := by
  cases h with
  | ok hq => exact .ok (hR _ _ rfl rfl hq)
  | error e => exact .error e

end Agree

/-- The two runs agree, and so does what can be read after them. -/
def Mirrors (π π' : σ → γ) (x : ExceptT Failure (StateM σ) α) (x' : ExceptT Failure (StateM σ) β)
    (s s' : σ) (Q : α → β → Prop) : Prop :=
  π (x.run s).2 = π' (x'.run s').2 ∧ Agree Q (x.run s).1 (x'.run s').1

namespace Mirrors

variable {π π' : σ → γ} {s s' s₁ s₁' : σ}
variable {x : ExceptT Failure (StateM σ) α} {x' : ExceptT Failure (StateM σ) α'}
variable {f : α → ExceptT Failure (StateM σ) β} {f' : α' → ExceptT Failure (StateM σ) β'}
variable {Q : α → α' → Prop} {R : β → β' → Prop}

lemma of_run {o : Except Failure α} {o' : Except Failure α'} (h : Mirrors π π' x x' s s' Q)
    (hrun : x.run s = (o, s₁)) (hrun' : x'.run s' = (o', s₁')) :
    π s₁ = π' s₁' ∧ Agree Q o o' := by
  rwa [Mirrors, hrun, hrun'] at h

/-- Operations that agree and write nothing that is read. -/
lemma of_spares (h : π s = π' s') (hx : Spares π x s) (hx' : Spares π' x' s')
    (hagree : Agree Q (x.run s).1 (x'.run s').1) : Mirrors π π' x x' s s' Q :=
  ⟨hx.trans (h.trans hx'.symm), hagree⟩

lemma pure (h : π s = π' s') {a : α} {a' : α'} (ha : Q a a') :
    Mirrors π π' (pure a) (pure a') s s' Q :=
  ⟨h, .ok ha⟩

lemma throw (h : π s = π' s') (e : Failure) :
    Mirrors π π' (throw e : ExceptT Failure (StateM σ) α)
      (throw e : ExceptT Failure (StateM σ) α') s s' Q :=
  ⟨h, .error e⟩

lemma bind (hx : Mirrors π π' x x' s s' Q)
    (hf : ∀ a a' s₁ s₁', x.run s = (.ok a, s₁) → x'.run s' = (.ok a', s₁') → Q a a' →
      π s₁ = π' s₁' → Mirrors π π' (f a) (f' a') s₁ s₁' R) :
    Mirrors π π' (x >>= f) (x' >>= f') s s' R := by
  obtain ⟨hπ, hagree⟩ := hx
  rcases hrun : x.run s with ⟨o, s₁⟩
  rcases hrun' : x'.run s' with ⟨o', s₁'⟩
  rw [hrun, hrun'] at hπ hagree
  rw [Mirrors, run_bind, run_bind, hrun, hrun']
  cases hagree with
  | ok hq => exact hf _ _ s₁ s₁' hrun hrun' hq hπ
  | error e => exact ⟨hπ, .error e⟩

lemma get_bind {f : σ → ExceptT Failure (StateM σ) β} {f' : σ → ExceptT Failure (StateM σ) β'}
    (hf : Mirrors π π' (f s) (f' s') s s' R) : Mirrors π π' (get >>= f) (get >>= f') s s' R :=
  hf

lemma set (h : π s₁ = π' s₁') : Mirrors π π' (set s₁) (set s₁') s s' fun _ _ => True :=
  ⟨h, .ok trivial⟩

lemma modify {g g' : σ → σ} (h : π (g s) = π' (g' s')) :
    Mirrors π π' (modify g) (modify g') s s' fun _ _ => True :=
  ⟨h, .ok trivial⟩

end Mirrors

/-! ## Operations on the store -/

section Store

variable {π π' : Store → γ} {s s' : Store}

lemma Mirrors.withContext {x : StoreM α} {x' : StoreM α'} {Q : α → α' → Prop} {note note' : String}
    (hnote : note = note') (h : Mirrors π π' x x' s s' Q) :
    Mirrors π π' (StoreM.withContext note x) (StoreM.withContext note' x') s s' Q := by
  obtain ⟨hπ, hagree⟩ := h
  subst hnote
  rcases hrun : x.run s with ⟨o, s₁⟩
  rcases hrun' : x'.run s' with ⟨o', s₁'⟩
  rw [hrun, hrun'] at hπ hagree
  rw [Mirrors, run_withContext, run_withContext, hrun, hrun']
  cases hagree with
  | ok hq => exact ⟨hπ, .ok hq⟩
  | error e => exact ⟨hπ, .error _⟩

lemma Mirrors.ofExcept (h : π s = π' s') (r : Except Error α) :
    Mirrors π π' (StoreM.ofExcept r) (StoreM.ofExcept r) s s' fun a a' => r = .ok a ∧ a' = a := by
  cases r with
  | ok a => exact Mirrors.pure h ⟨rfl, rfl⟩
  | error e => exact Mirrors.throw h (.error e)

/-! ### What the platform answers -/

variable {p : Platform} {v v' : Services}

lemma Mirrors.cell (h : π s = π' s') (hv : v = .ofPlatform p) (hv' : v' = .ofPlatform p) :
    Mirrors π π' v.cell v'.cell s s' fun a a' => p.cell = .ok a ∧ a' = a := by
  subst hv hv'
  exact Mirrors.ofExcept h p.cell

lemma Mirrors.cellMember (h : π s = π' s') (hv : v = .ofPlatform p) (hv' : v' = .ofPlatform p)
    (name : String) :
    Mirrors π π' (v.cellMember name) (v'.cellMember name) s s'
      fun a a' => p.cellMember name = .ok a ∧ a' = a := by
  subst hv hv'
  exact Mirrors.ofExcept h (p.cellMember name)

end Store

end CallSites
