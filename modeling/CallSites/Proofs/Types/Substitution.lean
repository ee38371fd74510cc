import CallSites.Proofs.Types.Interning
import Mathlib.Data.List.Forall2

/-!
# Substitution

Replacing the type parameters of a definition by the arguments of an instance goes down into the
arguments of other instances and constructs new instances on the way back, in the table that is
being read.  `Instance.Replaced` says what the result has to be without mentioning the table: each
own type parameter gives way to the argument at its position, other types stay, and an instance
becomes an instance of the same definition over the replaced arguments.  Its serial is left open;
for a known type it is determined by the arguments.

`Interned.substituteTy_run` is the one statement about the recursion: substitution in a known type
succeeds, its result is known and is a replacement, and the table has only had instances filed in
it.
-/

namespace CallSites

/-! ## Replacement -/

/-- The second type is the first one with the type parameters of the definition of an instance
replaced by the arguments of the instance. -/
inductive Instance.Replaced (inst : Instance) : Ty → Ty → Prop
  | void : Replaced inst .void .void
  | named (n : Named) : Replaced inst (.named n) (.named n)
  | container (c : Container) : Replaced inst (.container c) (.container c)
  | definition (d : Definition) : Replaced inst (.definition d) (.definition d)
  | other {d : Definition} {k : Nat} (h : d.id ≠ inst.definition.id) :
      Replaced inst (.param d k) (.param d k)
  | own {d : Definition} {k : Nat} {x : Ty} (h : d.id = inst.definition.id)
      (hx : inst.args[k]? = some x) : Replaced inst (.param d k) x
  | inst {d : Definition} {n m : Nat} {args args' : List Ty}
      (h : List.Forall₂ (Replaced inst) args args') :
      Replaced inst (.inst d n args) (.inst d m args')

/-- The same for types that may be absent. -/
def Instance.ReplacedType (inst : Instance) (x y : Option Ty) : Prop :=
  Option.Rel inst.Replaced x y

/-- The parameter has the name and the pass mode of another and its type with type parameters
replaced. -/
structure Instance.ReplacedParam (inst : Instance) (p q : Parameter) : Prop where
  name : q.name = p.name
  byRef : q.byRef = p.byRef
  type : inst.ReplacedType p.type q.type

namespace Instance.Replaced

variable {inst : Instance} {d : Definition} {k : Nat} {x : Ty}

lemma eq_of_void (h : inst.Replaced .void x) : x = .void := by
  cases h
  rfl

lemma eq_of_named {n : Named} (h : inst.Replaced (.named n) x) : x = .named n := by
  cases h
  rfl

lemma getElem?_of_own (h : inst.Replaced (.param inst.definition k) x) :
    inst.args[k]? = some x := by
  cases h with
  | other hne => exact absurd rfl hne
  | own _ hx => exact hx

end Instance.Replaced

lemma Instance.ReplacedType.exists_some {inst : Instance} {x : Ty} {o : Option Ty}
    (h : inst.ReplacedType (some x) o) : ∃ y, o = some y ∧ inst.Replaced x y := by
  cases o with
  | none => cases h
  | some y =>
      cases h with
      | some hxy => exact ⟨y, rfl, hxy⟩

/-! ## Running a substitution -/

namespace TypeTable.Interned

variable {K : Set Ty} {inst : Instance}

lemma eq_of_sameAll {t : TypeTable} (h : t.Interned K) :
    ∀ {xs ys : List Ty}, (∀ x ∈ xs, x.Known K t) → (∀ y ∈ ys, y.Known K t) →
      Ty.sameAll xs ys = true → xs = ys
  | [], [], _, _, _ => rfl
  | [], _ :: _, _, _, hs | _ :: _, [], _, _, hs => by simp [Ty.sameAll] at hs
  | x :: xs, y :: ys, hx, hy, hs => by
      rw [Ty.sameAll, decide_eq_true_iff, List.map_cons, List.map_cons, List.cons.injEq] at hs
      have hhead := h.eq_of_ident_eq (hx x (by simp)) (hy y (by simp)) hs.1
      have htail := h.eq_of_sameAll (fun a ha => hx a (by simp [ha]))
        (fun a ha => hy a (by simp [ha])) (decide_eq_true hs.2)
      rw [hhead, htail]

lemma run_substituteTy_inst (d : Definition) (n : Nat) (args : List Ty) (t : TypeTable) :
    (inst.substituteTy (.inst d n args)).run t =
      match (inst.substituteAll args).run t with
      | (.error e, t₁) => (.error e, t₁)
      | (.ok args', t₁) =>
        if Ty.sameAll args' args then (.ok (.inst d n args), t₁)
        else
          match (d.construct (args'.map some)).run t₁ with
          | (.error e, t₂) => (.error e, t₂)
          | (.ok i, t₂) => (.ok i.ty, t₂) := by
  rw [Instance.substituteTy, run_bind]
  rcases (inst.substituteAll args).run t with ⟨e | args', t₁⟩
  · rfl
  · simp only
    split
    · rfl
    · rw [run_bind]
      rcases (d.construct (args'.map some)).run t₁ with ⟨e | i, t₂⟩ <;> rfl

/-- An argument of a known instance is known and usable. -/
lemma arg_known {t : TypeTable} (h : t.Interned K) (hi : inst.ty.Known K t) {k : Nat} {x : Ty}
    (hx : inst.args[k]? = some x) : x.Known K t ∧ x.Usable :=
  (h.each _ hi.1).args inst hi.2 x (List.mem_of_getElem? hx)

mutual

/-- **Substitution.**  The induction is on the type.  At an instance the arguments are replaced
first, in a table that grows; if they come out the same the instance is kept, and otherwise there
is an instance over them, since replaced arguments can be used where the old ones could. -/
theorem substituteTy_run :
    ∀ (x : Ty) {t : TypeTable}, t.Interned K → inst.ty.Known K t → x.Known K t →
      ∃ y t', (inst.substituteTy x).run t = (.ok y, t') ∧ t'.Interned K ∧ t.Files t' ∧
        y.Known K t' ∧ inst.Replaced x y ∧ (x.Usable → y.Usable)
  | .param d k, t, h, hi, hx => by
      rw [Instance.substituteTy]
      by_cases hd : d.id = inst.definition.id
      · rw [if_pos hd]
        have hdef := h.definition_inj hx.1 hi.1 hd
        have hlen : k < inst.args.length := by
          rw [(h.each _ hi.1).arity inst hi.2, ← hdef]
          exact hx.2
        have harg : inst.args[k]? = some inst.args[k] := List.getElem?_eq_getElem hlen
        obtain ⟨hknown, huse⟩ := h.arg_known hi harg
        refine ⟨inst.args[k], t, ?_, h, Files.refl t, hknown, .own hd harg, fun _ => huse⟩
        rw [harg, run_pure, Option.getD_some]
      · rw [if_neg hd]
        exact ⟨.param d k, t, rfl, h, Files.refl t, hx, .other hd, id⟩
  | .inst d n args, t, h, hi, hx => by
      obtain ⟨args', t₁, hrun, h₁, hfiles, hknown, hrep, huse⟩ :=
        substituteAll_run args h hi (h.args_known hx)
      have hx₁ : (Ty.inst d n args).Known K t₁ := hx.files hfiles
      rw [run_substituteTy_inst, hrun]
      by_cases hs : Ty.sameAll args' args = true
      · obtain rfl := h₁.eq_of_sameAll hknown (h₁.args_known hx₁) hs
        refine ⟨.inst d n args', t₁, ?_, h₁, hfiles, hx₁, .inst hrep, id⟩
        simp only [hs, if_true]
      · have hlen : args'.length = d.arity := by
          rw [← hrep.length_eq]
          exact (h.each d hx.1).arity _ hx.2
        have huse' : ∀ a ∈ args', a.Usable :=
          huse (fun a ha => ((h.each d hx.1).args _ hx.2 a ha).2)
        obtain ⟨i, t₂, hcon⟩ := construct_succeeds (t := t₁) hlen huse'
        have hargs : ∀ a ∈ args'.map some, KnownType K t₁ a := by
          intro a ha
          obtain ⟨b, hb, rfl⟩ := List.mem_map.mp ha
          exact knownType_some.mpr (hknown b hb)
        obtain ⟨h₂, hfiles₂, hdef, hknown₂, hmap⟩ := h₁.construct_ok hx.1 hargs hcon
        have heq : i.ty = .inst d i.serial args' := by
          rw [Instance.ty, hdef, map_some_inj hmap]
        refine ⟨i.ty, t₂, ?_, h₂, hfiles.trans hfiles₂, hknown₂, ?_, ?_⟩
        · simp only [hs, if_false, hcon, Bool.false_eq_true]
        · rw [heq]
          exact .inst hrep
        · rw [heq]
          exact id
  | .void, t, h, _, hx => ⟨.void, t, rfl, h, Files.refl t, hx, .void, id⟩
  | .named n, t, h, _, hx => ⟨.named n, t, rfl, h, Files.refl t, hx, .named n, id⟩
  | .container c, t, h, _, hx => ⟨.container c, t, rfl, h, Files.refl t, hx, .container c, id⟩
  | .definition d, t, h, _, hx => ⟨.definition d, t, rfl, h, Files.refl t, hx, .definition d, id⟩

/-- Substitution in all types of a list. -/
theorem substituteAll_run :
    ∀ (xs : List Ty) {t : TypeTable}, t.Interned K → inst.ty.Known K t →
      (∀ x ∈ xs, x.Known K t) →
      ∃ ys t', (inst.substituteAll xs).run t = (.ok ys, t') ∧ t'.Interned K ∧ t.Files t' ∧
        (∀ y ∈ ys, y.Known K t') ∧ List.Forall₂ inst.Replaced xs ys ∧
        ((∀ x ∈ xs, x.Usable) → ∀ y ∈ ys, y.Usable)
  | [], t, h, _, _ => ⟨[], t, rfl, h, Files.refl t, by simp, .nil, by simp⟩
  | x :: xs, t, h, hi, hx => by
      obtain ⟨y, t₁, hrun, h₁, hfiles, hy, hrep, huse⟩ := substituteTy_run x h hi (hx x (by simp))
      obtain ⟨ys, t₂, hrun₂, h₂, hfiles₂, hys, hreps, huses⟩ :=
        substituteAll_run xs h₁ (hi.files hfiles) (fun a ha => (hx a (by simp [ha])).files hfiles)
      refine ⟨y :: ys, t₂, ?_, h₂, hfiles.trans hfiles₂, ?_, .cons hrep hreps, ?_⟩
      · rw [Instance.substituteAll, run_bind, hrun]
        simp only [run_bind, hrun₂, run_pure]
      · intro z hz
        rcases List.mem_cons.mp hz with rfl | hz
        · exact hy.files hfiles₂
        · exact hys z hz
      · intro hu z hz
        rcases List.mem_cons.mp hz with rfl | hz
        · exact huse (hu x (by simp))
        · exact huses (fun a ha => hu a (by simp [ha])) z hz

end

lemma substitute_run {t : TypeTable} (h : t.Interned K) (hi : inst.ty.Known K t) {o : Option Ty}
    (ho : KnownType K t o) :
    ∃ o' t', (inst.substitute o).run t = (.ok o', t') ∧ t'.Interned K ∧ t.Files t' ∧
      KnownType K t' o' ∧ inst.ReplacedType o o' := by
  cases o with
  | none => exact ⟨none, t, rfl, h, Files.refl t, knownType_none, .none⟩
  | some x =>
      obtain ⟨y, t', hrun, h', hfiles, hy, hrep, -⟩ :=
        substituteTy_run x h hi (knownType_some.mp ho)
      refine ⟨some y, t', ?_, h', hfiles, knownType_some.mpr hy, .some hrep⟩
      rw [Instance.substitute, run_bind, hrun]
      rfl

lemma substituteParams_run :
    ∀ (ps : List Parameter) {t : TypeTable}, t.Interned K → inst.ty.Known K t →
      (∀ p ∈ ps, KnownType K t p.type) →
      ∃ qs t', (inst.substituteParams ps).run t = (.ok qs, t') ∧ t'.Interned K ∧ t.Files t' ∧
        (∀ q ∈ qs, KnownType K t' q.type) ∧ List.Forall₂ inst.ReplacedParam ps qs
  | [], t, h, _, _ => ⟨[], t, rfl, h, Files.refl t, by simp, .nil⟩
  | p :: ps, t, h, hi, hp => by
      obtain ⟨o, t₁, hrun, h₁, hfiles, ho, hrep⟩ := h.substitute_run hi (hp p (by simp))
      obtain ⟨qs, t₂, hrun₂, h₂, hfiles₂, hqs, hreps⟩ :=
        substituteParams_run ps h₁ (hi.files hfiles)
          (fun q hq => (hp q (by simp [hq])).mono (Set.Subset.refl K) hfiles.filed)
      refine ⟨{ p with type := o } :: qs, t₂, ?_, h₂, hfiles.trans hfiles₂, ?_,
        .cons ⟨rfl, rfl, hrep⟩ hreps⟩
      · rw [Instance.substituteParams, run_bind, hrun]
        simp only [run_bind, hrun₂, run_pure]
      · intro q hq
        rcases List.mem_cons.mp hq with rfl | hq
        · exact ho.mono (Set.Subset.refl K) hfiles₂.filed
        · exact hqs q hq

end TypeTable.Interned

end CallSites
