import CallSites.Proofs.Types.History

/-!
# What substitution comes to

Substitution writes to the table that it reads, and whether it keeps a type or constructs another
one depends on identities.  The relation `Instance.Replaced` describes its result without either.
The relation leaves serials open, but a type has only one replacement that exists
(`Interned.eq_of_replaced`), so it describes the result completely.

A type in which no type parameter of the definition occurs comes back as it is, and here the table
does not matter at all (`Instance.run_substituteTy_of_not_mentions`).
-/

namespace CallSites

/-! ## Types without the type parameters -/

mutual

/-- A type parameter of the definition with a given identity occurs in the type. -/
def Ty.mentions (id : DefId) : Ty → Bool
  | .param d _ => d.id = id
  | .inst _ _ args => Ty.mentionsAny id args
  | _ => false

/-- A type parameter of the definition with a given identity occurs in one of the types. -/
def Ty.mentionsAny (id : DefId) : List Ty → Bool
  | [] => false
  | x :: xs => x.mentions id || Ty.mentionsAny id xs

end

section NotMentioned

variable {inst : Instance}

lemma Ty.sameAll_refl (xs : List Ty) : Ty.sameAll xs xs = true := decide_eq_true rfl

mutual

/-- The induction is on the type.  The arguments of an instance come back as they are, so they pass
for the same ones and nothing is constructed. -/
lemma Instance.run_substituteTy_of_not_mentions :
    ∀ (x : Ty) (t : TypeTable), x.mentions inst.definition.id = false →
      (inst.substituteTy x).run t = (.ok x, t)
  | .param d k, t, h => by
      rw [Ty.mentions, decide_eq_false_iff_not] at h
      rw [Instance.substituteTy, if_neg h, run_pure]
  | .inst d n args, t, h => by
      rw [Ty.mentions] at h
      rw [TypeTable.Interned.run_substituteTy_inst,
        Instance.run_substituteAll_of_not_mentions args t h]
      simp only [Ty.sameAll_refl, if_true]
  | .void, _, _ | .named _, _, _ | .container _, _, _ | .definition _, _, _ => by
      rw [Instance.substituteTy, run_pure]

lemma Instance.run_substituteAll_of_not_mentions :
    ∀ (xs : List Ty) (t : TypeTable), Ty.mentionsAny inst.definition.id xs = false →
      (inst.substituteAll xs).run t = (.ok xs, t)
  | [], _, _ => rfl
  | x :: xs, t, h => by
      rw [Ty.mentionsAny, Bool.or_eq_false_iff] at h
      rw [Instance.substituteAll, run_bind, Instance.run_substituteTy_of_not_mentions x t h.1]
      simp only [run_bind, Instance.run_substituteAll_of_not_mentions xs t h.2, run_pure]

end

end NotMentioned

/-! ## The only replacement -/

namespace TypeTable.Interned

variable {K : Set Ty} {t : TypeTable} {inst : Instance}

mutual

/-- **A type has one replacement.**  The induction is on the type that is replaced.  Two
replacements of an instance are instances of one definition, by induction over the same arguments,
and there is only one of these. -/
theorem eq_of_replaced (h : t.Interned K) :
    ∀ (x : Ty) {y z : Ty}, y.Known K t → z.Known K t → inst.Replaced x y → inst.Replaced x z → y = z
  | .param d k, y, z, _, _, hy, hz => by
      cases hy with
      | other hne =>
          cases hz with
          | other => rfl
          | own heq => exact absurd heq hne
      | own heq hget =>
          cases hz with
          | other hne => exact absurd heq hne
          | own _ hget' => exact Option.some.inj (hget.symm.trans hget')
  | .inst d n args, y, z, hky, hkz, hy, hz => by
      cases hy with
      | inst hargs =>
          cases hz with
          | inst hargs' =>
              obtain rfl :=
                eq_of_forall₂_replaced h args (h.args_known hky) (h.args_known hkz) hargs hargs'
              cases h.eq_of_args_eq hky.1 hky.2 hkz.2 rfl
              rfl
  | .void, _, _, _, _, hy, hz | .named _, _, _, _, _, hy, hz
  | .container _, _, _, _, _, hy, hz | .definition _, _, _, _, _, hy, hz => by
      cases hy
      cases hz
      rfl

/-- The same for all types of a list. -/
theorem eq_of_forall₂_replaced (h : t.Interned K) :
    ∀ (xs : List Ty) {ys zs : List Ty}, (∀ y ∈ ys, y.Known K t) → (∀ z ∈ zs, z.Known K t) →
      List.Forall₂ inst.Replaced xs ys → List.Forall₂ inst.Replaced xs zs → ys = zs
  | [], _, _, _, _, .nil, .nil => rfl
  | x :: xs, _, _, hky, hkz, .cons hy hys, .cons hz hzs => by
      rw [List.forall_mem_cons] at hky hkz
      rw [eq_of_replaced h x hky.1 hkz.1 hy hz, eq_of_forall₂_replaced h xs hky.2 hkz.2 hys hzs]

end

/-- A definition applied to its own type parameters is replaced by the instance itself. -/
lemma replaced_params (h : t.Interned K) (hi : inst.ty.Known K t) (n : Nat) :
    inst.Replaced (.inst inst.definition n inst.definition.params) inst.ty := by
  have hlength : inst.definition.params.length = inst.args.length := by
    rw [Definition.params, List.length_map, List.length_range, (h.each _ hi.1).arity inst hi.2]
  refine .inst (List.forall₂_iff_get.mpr ⟨hlength, fun k hk hk' => ?_⟩)
  have hparam : inst.definition.params.get ⟨k, hk⟩ = .param inst.definition k := by
    simp [Definition.params]
  rw [hparam]
  exact .own rfl (List.getElem?_eq_getElem hk')

/-- Constructing an instance that exists finds it and changes nothing. -/
lemma construct_of_known (h : t.Interned K) (hi : inst.ty.Known K t) :
    (inst.definition.construct (inst.args.map some)).run t = (.ok inst, t) := by
  have hat := h.each _ hi.1
  have hcheck : inst.definition.checkArgs (inst.args.map some) = .ok inst.args :=
    Definition.checkArgs_eq_ok.mpr
      ⟨rfl, hat.arity inst hi.2, fun a ha => (hat.args inst hi.2 a ha).2⟩
  have hfind : t.findInstance? inst.definition inst.args = some inst :=
    h.findInstance?_of_filed hi.1 hi.2
  rw [Definition.construct, run_bind, run_ofPure, hcheck]
  simp only [run_bind, run_get, hfind, run_pure]

end TypeTable.Interned

/-! ## After every history -/

/-- An instance can be had of every definition over existing types that can be used as arguments,
and what exists stays. -/
lemma TypeState.Run.exists_inst {w : TypeState} (hw : TypeState.empty.Run w) {d : Definition}
    (hd : w.Exists (.definition d)) (args : List Ty) (hlen : args.length = d.arity)
    (hargs : ∀ a ∈ args, w.Exists a) (huse : ∀ a ∈ args, a.Usable) :
    ∃ w' n, TypeState.empty.Run w' ∧ (∀ {x}, w.Exists x → w'.Exists x) ∧
      w'.Exists (.inst d n args) := by
  obtain ⟨i, t, hrun⟩ := TypeTable.Interned.construct_succeeds (t := w.table) hlen huse
  have hknown : ∀ a ∈ args.map some, KnownType w.census w.table a := by
    simpa [TypeState.Exists] using hargs
  obtain ⟨hsound, -, -⟩ := hw.sound TypeTable.Sound.empty
  obtain ⟨-, hfiles, rfl, hi, hmap⟩ := hsound.interned.construct_ok hd hknown hrun
  have hstep : TypeState.empty.Run (w.perform (.construct i.definition (args.map some))) :=
    hw.step ⟨hd, hknown⟩
  rw [TypeState.perform_construct hrun] at hstep
  refine ⟨_, i.serial, hstep, fun hx => hx.files hfiles, ?_⟩
  rw [map_some_inj hmap]
  exact hi

/-- **Substitution is replacement.**  After every history, substituting in an existing type for the
type parameters of the definition of an existing instance succeeds.  The result is the one existing
type that is a replacement of the type; if it is an instance, it is the one that construction
returns for its arguments.  A type in which none of the type parameters occurs comes back as it is
and nothing is constructed, and the definition applied to its own type parameters becomes the
instance itself. -/
theorem substitution_exact {w : TypeState} (hw : TypeState.empty.Run w) {inst : Instance} {x : Ty}
    (hi : w.Exists inst.ty) (hx : w.Exists x) :
    let w' := w.perform (.substitute inst (some x))
    ∃ y, ((inst.substitute (some x)).run w.table).1 = .ok (some y) ∧
      inst.Replaced x y ∧ w'.Exists y ∧ (∀ z, w'.Exists z → inst.Replaced x z → z = y) ∧
      (∀ i : Instance, y = i.ty →
        (i.definition.construct (i.args.map some)).run w'.table = (.ok i, w'.table)) ∧
      (x.mentions inst.definition.id = false → y = x ∧ w' = w) ∧
      ∀ n, x = .inst inst.definition n inst.definition.params → y = inst.ty := by
  obtain ⟨hsound, -, -⟩ := hw.sound TypeTable.Sound.empty
  have h := hsound.interned
  obtain ⟨y, t, hrun, h', hfiles, hy, hrep, -⟩ := TypeTable.Interned.substituteTy_run x h hi hx
  have hrun' : (inst.substitute (some x)).run w.table = (.ok (some y), t) := by
    rw [Instance.substitute, run_bind, hrun]
    rfl
  intro w'
  have hw' : w' = ⟨w.census, t⟩ := TypeState.perform_quiet rfl hrun'
  rw [hw', hrun']
  refine ⟨y, rfl, hrep, hy, fun z hz hzrep => h'.eq_of_replaced x hz hy hzrep hrep, ?_, ?_, ?_⟩
  · rintro i rfl
    exact h'.construct_of_known hy
  · intro hfree
    rw [inst.run_substituteTy_of_not_mentions x w.table hfree] at hrun
    cases hrun
    exact ⟨rfl, rfl⟩
  · rintro n rfl
    have hi' : inst.ty.Known w.census t := hi.files hfiles
    exact h'.eq_of_replaced _ hy hi' hrep (h'.replaced_params hi' n)

/-- Substituting by `G<A>` in `H<G<T>>` gives `H<G<A>>`. -/
theorem substitution_exact_nested :
    let a : Named := ⟨.free 0, "", "A", .reference⟩
    let g : Definition := ⟨.free 1, "", "G", .reference, ["T"], false, .empty⟩
    let h : Definition := ⟨.free 2, "", "H", .reference, ["U"], false, .empty⟩
    ∃ w i j k, TypeState.empty.Run w ∧ w.Exists (.inst g i [.named a]) ∧
      w.Exists (.inst h k [.inst g j [.param g 0]]) ∧ ∃ n m,
      ((Instance.substitute ⟨g, i, [.named a]⟩
        (some (.inst h k [.inst g j [.param g 0]]))).run w.table).1 =
          .ok (some (.inst h n [.inst g m [.named a]])) := by
  intro a g h
  let w₀ := ((TypeState.empty.perform (.newNamed "" "A" .reference)).perform
    (.newGeneric "" "G" .reference 1 ["T"])).perform (.newGeneric "" "H" .reference 1 ["U"])
  have hw₀ : TypeState.empty.Run w₀ := .step (.step (.step .refl trivial) trivial) trivial
  have hcensus : w₀.census = {.definition h} ∪ ({.definition g} ∪ ({.named a} ∪ ∅)) := rfl
  have ha : w₀.Exists (.named a) := by simp [TypeState.Exists, Ty.Known, hcensus]
  have hg : w₀.Exists (.definition g) := by simp [TypeState.Exists, Ty.Known, hcensus]
  have hh : w₀.Exists (.definition h) := by simp [TypeState.Exists, Ty.Known, hcensus]
  have hT : w₀.Exists (.param g 0) := ⟨hg, Nat.zero_lt_one⟩
  obtain ⟨w₁, i, hw₁, hkeep₁, hi⟩ :=
    hw₀.exists_inst hg [.named a] rfl (by simpa using ha) (by simp [Ty.Usable, Ty.kind, a])
  obtain ⟨w₂, j, hw₂, hkeep₂, hj⟩ :=
    hw₁.exists_inst (hkeep₁ hg) [.param g 0] rfl (by simpa using hkeep₁ hT)
      (by simp [Ty.Usable, Ty.kind])
  obtain ⟨w₃, k, hw₃, hkeep₃, hk⟩ :=
    hw₂.exists_inst (hkeep₂ (hkeep₁ hh)) [.inst g j [.param g 0]] rfl (by simpa using hj)
      (by simp [Ty.Usable, Ty.kind, g])
  have hi₃ : w₃.Exists (Instance.ty ⟨g, i, [.named a]⟩) := hkeep₃ (hkeep₂ hi)
  obtain ⟨y, hrun, hrep, -⟩ := substitution_exact hw₃ hi₃ hk
  refine ⟨w₃, i, j, k, hw₃, hi₃, hk, ?_⟩
  -- the parameter below two definitions is the first argument of the instance
  cases hrep with
  | inst houter =>
      obtain _ | ⟨hinner, ⟨⟩⟩ := houter
      cases hinner with
      | inst hargs =>
          obtain _ | ⟨hparam, ⟨⟩⟩ := hargs
          cases hparam with
          | other hne => exact absurd rfl hne
          | own _ hget =>
              cases hget
              exact ⟨_, _, hrun⟩

end CallSites
