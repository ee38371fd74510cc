import CallSites.Proofs.Frame
import CallSites.Proofs.Types.Callable

/-!
# Which definitions are applied

Construction files an instance of one definition.  Substitution may construct instances on its way
back, but only of definitions that are applied in the type it starts from, and a member of an
instance is made by substitution in what the definition declares.  So what has happened to a
definition stays as it is unless the definition is constructed itself or applied in a type that is
substituted in.  The call method of a callable type has no applied definition in its types, and the
members of the generic cache cell type apply no other definition.
-/

namespace CallSites

/-- What has happened to the definition with a given identity. -/
def TypeTable.entry (id : DefId) (t : TypeTable) : DefState := t.definitions.getD id {}

mutual

/-- The definition with a given identity is applied in the type. -/
def Ty.applies (id : DefId) : Ty → Bool
  | .inst d _ args => d.id = id || Ty.appliesAny id args
  | _ => false

/-- The definition with a given identity is applied in one of the types. -/
def Ty.appliesAny (id : DefId) : List Ty → Bool
  | [] => false
  | x :: xs => x.applies id || Ty.appliesAny id xs

end

/-- The definition is not applied in the types of the declaration. -/
def Declaration.Avoids (id : DefId) (decl : Declaration) : Prop :=
  (∀ x, decl.type = some x → x.applies id = false) ∧
    ∀ q ∈ decl.params, ∀ x, q.type = some x → x.applies id = false

variable {id : DefId} {t : TypeTable} {d : Definition} {inst : Instance}

lemma Ty.appliesAny_eq_false {xs : List Ty} (h : ∀ x ∈ xs, x.applies id = false) :
    Ty.appliesAny id xs = false := by
  induction xs with
  | nil => rfl
  | cons x xs ih =>
      rw [Ty.appliesAny, h x (by simp), Bool.false_or]
      exact ih fun y hy => h y (by simp [hy])

/-! ## Construction and substitution -/

lemma Spares.construct (h : d.id ≠ id) (args : List (Option Ty)) :
    Spares (TypeTable.entry id) (d.construct args) t := by
  rcases hrun : (d.construct args).run t with ⟨o, t'⟩
  rw [Spares, hrun]
  obtain ⟨e, -, -, rfl⟩ | ⟨as, -, ⟨i, -, -, rfl⟩ | ⟨-, -, rfl⟩⟩ := Definition.construct_cases hrun
  · rfl
  · rfl
  · exact OrderedMap.getD_insert_of_ne _ _ _ h

mutual

/-- The induction is on the type, as in the substitution itself. -/
lemma Spares.substituteTy :
    ∀ (x : Ty) {t : TypeTable}, x.applies id = false →
      Spares (TypeTable.entry id) (inst.substituteTy x) t
  | .param d k, t, _ => by
      rw [Instance.substituteTy]
      split <;> exact Spares.pure _
  | .inst d n args, t, h => by
      rw [Ty.applies, Bool.or_eq_false_iff, decide_eq_false_iff_not] at h
      rw [Instance.substituteTy]
      refine Spares.bind (Spares.substituteAll args h.2) fun args' t₁ _ => ?_
      split
      · exact Spares.pure _
      · exact Spares.bind (Spares.construct h.1 _) fun i t₂ _ => Spares.pure _
  | .void, _, _ | .named _, _, _ | .container _, _, _ | .definition _, _, _ => by
      rw [Instance.substituteTy]
      exact Spares.pure _

lemma Spares.substituteAll :
    ∀ (xs : List Ty) {t : TypeTable}, Ty.appliesAny id xs = false →
      Spares (TypeTable.entry id) (inst.substituteAll xs) t
  | [], _, _ => Spares.pure _
  | x :: xs, t, h => by
      rw [Ty.appliesAny, Bool.or_eq_false_iff] at h
      rw [Instance.substituteAll]
      refine Spares.bind (Spares.substituteTy x h.1) fun y t₁ _ => ?_
      exact Spares.bind (Spares.substituteAll xs h.2) fun ys t₂ _ => Spares.pure _

end

lemma Spares.substitute {o : Option Ty} (h : ∀ x, o = some x → x.applies id = false) :
    Spares (TypeTable.entry id) (inst.substitute o) t := by
  cases o with
  | none => exact Spares.pure _
  | some x => exact Spares.bind (Spares.substituteTy x (h x rfl)) fun y t₁ _ => Spares.pure _

lemma Spares.substituteParams :
    ∀ (ps : List Parameter) {t : TypeTable},
      (∀ q ∈ ps, ∀ x, q.type = some x → x.applies id = false) →
      Spares (TypeTable.entry id) (inst.substituteParams ps) t
  | [], _, _ => Spares.pure _
  | q :: ps, t, h => by
      rw [Instance.substituteParams]
      refine Spares.bind (Spares.substitute (h q (by simp))) fun type t₁ _ => ?_
      refine Spares.bind (Spares.substituteParams ps fun q' hq' => h q' (by simp [hq'])) ?_
      exact fun rest t₂ _ => Spares.pure _

/-! ## Members -/

lemma Spares.member (h : ∀ decl ∈ t.declared inst.definition, decl.Avoids id) (name : String) :
    Spares (TypeTable.entry id) (inst.member name) t := by
  rw [Instance.member]
  refine Spares.get_bind ?_
  rcases (t.instanceState inst).members.find? name with _ | m
  · rcases hm : t.member? inst.definition name with _ | m
    · exact Spares.throw _
    · simp only
      obtain ⟨htype, hparams⟩ := h _ (TypeTable.member?_eq_some hm).1
      refine Spares.bind ?_ fun m' t₁ _ =>
        Spares.bind (Spares.modify rfl) fun _ _ _ => Spares.pure _
      rw [Member.specialise]
      split
      · refine Spares.bind (Spares.substitute htype) fun type t₂ _ => ?_
        refine Spares.bind (Spares.substituteParams _ hparams) fun params t₃ _ => ?_
        refine Spares.get_bind ?_
        exact Spares.bind (Spares.set rfl) fun _ _ _ => Spares.pure _
      · exact Spares.bind (Spares.throw _) fun _ _ hrun => by cases hrun
  · exact Spares.pure _

lemma Definition.not_applies_invokeParams :
    ∀ (flags : List Bool) (k : Nat), ∀ q ∈ d.invokeParams k flags, ∀ x, q.type = some x →
      x.applies id = false
  | [], _ => by simp [Definition.invokeParams]
  | b :: bs, k => by
      intro q hq x hx
      rcases List.mem_cons.mp hq with rfl | hq
      · cases hx
        rfl
      · exact Definition.not_applies_invokeParams bs (k + 1) q hq x hx

/-- A callable type mentions its type parameters and nothing else. -/
lemma Definition.avoids_of_callable {byRef : List Bool} {returns : Bool}
    (h : d.body = .callable byRef returns) (id : DefId) :
    ∀ decl ∈ d.declarations, decl.Avoids id := by
  intro decl hdecl
  rw [Definition.declarations, h, List.mem_singleton] at hdecl
  subst hdecl
  refine ⟨fun x hx => ?_, Definition.not_applies_invokeParams byRef 0⟩
  cases returns <;> cases hx <;> rfl

/-- A cache cell type mentions instances of itself at most. -/
lemma Definition.avoids_cellDeclaration (h : d.id ≠ id) (binder : Named) (m : CellMember) :
    (d.cellDeclaration binder m).Avoids id := by
  have hparams : Ty.appliesAny id d.params = false := by
    refine Ty.appliesAny_eq_false fun x hx => ?_
    obtain ⟨k, -, rfl⟩ := List.mem_map.mp hx
    rfl
  cases m with
  | target => exact ⟨fun x hx => by cases hx; rfl, by simp [Definition.cellDeclaration]⟩
  | create =>
      refine ⟨fun x hx => ?_, fun q hq x hx => ?_⟩
      · cases hx
        rw [Instance.ty, Definition.self, Ty.applies, Bool.or_eq_false_iff]
        exact ⟨decide_eq_false h, hparams⟩
      · rw [List.mem_singleton.mp hq] at hx
        cases hx
        rfl

/-- What a definition is created with mentions no other definition. -/
lemma Definition.avoids_of_ne (h : d.id ≠ id) : ∀ decl ∈ d.declarations, decl.Avoids id := by
  intro decl hdecl
  rcases hbody : d.body with _ | ⟨byRef, returns⟩ | ⟨binder, members⟩
  · rw [Definition.declarations, hbody] at hdecl
    cases hdecl
  · exact Definition.avoids_of_callable hbody id decl hdecl
  · rw [Definition.declarations, hbody] at hdecl
    obtain ⟨m, -, rfl⟩ := List.mem_map.mp hdecl
    exact Definition.avoids_cellDeclaration h binder m

end CallSites
