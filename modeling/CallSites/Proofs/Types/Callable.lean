import CallSites.Proofs.Types.Membership

/-!
# Callable types

A callable type declares one method, whose parameters and result are its own type parameters in
order.  An instance of it therefore has a call method whose signature is read off the arguments of
the instance: this is `TypeTable.Sound.invoke_run`, for every definition that `IsCallable`.

The pass modes do not take part in substitution.  They are fixed when the definition is made, from
a pattern with one character for each parameter; `patternFlags_flagDigits` says that a pattern
written from flags gives the flags back.
-/

namespace CallSites

/-! ## Labels and flags -/

lemma length_callableLabels (n : Nat) (returns : Bool) :
    (callableLabels n returns).length = n + if returns then 1 else 0 := by
  cases returns <;> simp [callableLabels]

/-- The flags as they are written in a pattern. -/
def flagDigits (flags : List Bool) : String :=
  String.ofList (flags.map fun b => if b then '1' else '0')

/-- A pattern written from flags gives the flags back. -/
lemma patternFlags_flagDigits (flags : List Bool) :
    patternFlags (flagDigits flags) flags.length = flags := by
  have hdigits : ((flags.map fun b => if b then '1' else '0').flatMap fun c : Char =>
      (c == '1') :: List.replicate (c.utf8Size - 1) false) = flags := by
    induction flags with
    | nil => rfl
    | cons b bs ih =>
        have hhead : (((if b then '1' else '0') == '1') ::
            List.replicate ((if b then '1' else '0' : Char).utf8Size - 1) false) = [b] := by
          cases b <;> decide
        rw [List.map_cons, List.flatMap_cons, hhead, ih, List.singleton_append]
  rw [patternFlags, flagDigits, String.toList_ofList, hdigits]
  refine List.ext_getElem (by simp) fun n h₁ h₂ => ?_
  rw [List.getElem_map, List.getElem_range, List.getElem?_eq_getElem h₂, Option.getD_some]

/-! ## Callable definitions -/

/-- The definition is a callable type with the given pass modes, and has a type parameter for each
parameter and for what is returned. -/
structure Definition.IsCallable (d : Definition) (byRef : List Bool) (returns : Bool) : Prop where
  body : d.body = .callable byRef returns
  arity : d.arity = byRef.length + if returns then 1 else 0

lemma isCallable_callableDefinition (id : DefId) (ns name : String) (byRef : List Bool)
    (returns synthesized : Bool) :
    (callableDefinition id ns name byRef returns synthesized).IsCallable byRef returns :=
  ⟨rfl, length_callableLabels byRef.length returns⟩

section

variable {K : Set Ty} {t : TypeTable} {d : Definition} {byRef : List Bool} {returns : Bool}

lemma Definition.known_invokeParams (hd : .definition d ∈ K) :
    ∀ (flags : List Bool) (k : Nat), k + flags.length ≤ d.arity →
      ∀ p ∈ d.invokeParams k flags, KnownType K t p.type
  | [], _, _ => by simp [Definition.invokeParams]
  | b :: bs, k, hk => by
      rw [List.length_cons] at hk
      intro p hp
      rcases List.mem_cons.mp hp with rfl | hp
      · exact knownType_some.mpr ⟨hd, by omega⟩
      · exact Definition.known_invokeParams hd bs (k + 1) (by omega) p hp

/-- A callable type declares a method over its own type parameters. -/
lemma Definition.IsCallable.known_declarations (h : d.IsCallable byRef returns)
    (hd : .definition d ∈ K) : ∀ decl ∈ d.declarations, decl.Known K t := by
  intro decl hdecl
  rw [Definition.declarations, h.body, List.mem_singleton] at hdecl
  subst hdecl
  have harity := h.arity
  refine ⟨?_, Definition.known_invokeParams hd byRef 0 (by omega)⟩
  cases returns with
  | true => exact knownType_some.mpr ⟨hd, by rw [harity, if_pos rfl]; omega⟩
  | false => exact knownType_some.mpr trivial

/-! ## The call method -/

/-- The parameters of the call method of an instance: the flags are those of the definition, the
types the arguments of the instance from the given position on. -/
lemma Instance.forall₂_invokeParams {inst : Instance} :
    ∀ {flags : List Bool} {k : Nat} {qs : List Parameter}, k + flags.length ≤ inst.args.length →
      List.Forall₂ inst.ReplacedParam (inst.definition.invokeParams k flags) qs →
      qs.map (·.byRef) = flags ∧
        qs.map (·.type) = ((inst.args.drop k).take flags.length).map some
  | [], k, qs, _, h => by
      cases h
      simp
  | b :: bs, k, qs, hk, h => by
      rw [List.length_cons] at hk
      cases h with
      | @cons _ q _ qs hq hqs =>
          obtain ⟨hflags, htypes⟩ := Instance.forall₂_invokeParams (by omega) hqs
          have htype : q.type = some inst.args[k] := by
            obtain ⟨x, hx, hrep⟩ := hq.type.exists_some
            rw [hx, ← hrep.getElem?_of_own, List.getElem?_eq_getElem (by omega)]
          rw [List.map_cons, List.map_cons, hflags, htypes, hq.byRef, htype,
            List.drop_eq_getElem_cons (by omega : k < inst.args.length), List.length_cons,
            List.take_succ_cons, List.map_cons]
          exact ⟨rfl, rfl⟩

/-- **Calling an instance of a callable type.**  The call method is there, and its signature is the
argument list of the instance. -/
theorem TypeTable.Sound.invoke_run (h : t.Sound K) {inst : Instance} (hi : inst.ty.Known K t)
    (hc : inst.definition.IsCallable byRef returns)
    (hadded : (t.definition inst.definition).added = []) :
    ∃ m t', inst.invoke.run t = (.ok m, t') ∧ m.params.map (·.byRef) = byRef ∧
      m.params.map (·.type) = (inst.args.take byRef.length).map some ∧
      m.type = (if returns then inst.args[byRef.length]? else some .void) ∧
      m.container = inst.ty := by
  have hdecl : t.declared inst.definition = [inst.definition.invokeDeclaration byRef returns] := by
    rw [TypeTable.declared, hadded, Definition.declarations, hc.body, List.append_nil]
  obtain ⟨m, t', hrun⟩ := h.member_succeeds hi (hdecl ▸ List.mem_singleton_self _)
  obtain ⟨h', hgrows⟩ := h.member hi hrun
  have hi' : inst.ty.Known K t' := hi.mono (Set.Subset.refl K) hgrows.filed
  obtain ⟨⟨decl, hmem, -, hspec⟩, -⟩ := h'.kept_specialises hi' (h.member_ok hi hrun)
  rw [TypeTable.declared, hgrows.added, ← TypeTable.declared, hdecl, List.mem_singleton] at hmem
  subst hmem
  have hlen : byRef.length ≤ inst.args.length := by
    rw [(h.interned.each _ hi.1).arity inst hi.2, hc.arity]
    omega
  obtain ⟨hflags, htypes⟩ := Instance.forall₂_invokeParams (by omega) hspec.params
  refine ⟨m, t', hrun, hflags, htypes, ?_, hspec.container⟩
  cases returns with
  | true =>
      obtain ⟨x, hx, hrep⟩ := hspec.type.exists_some
      rw [hx, if_pos rfl, hrep.getElem?_of_own]
  | false =>
      obtain ⟨x, hx, hrep⟩ := hspec.type.exists_some
      rw [hx, hrep.eq_of_void]
      rfl

end

end CallSites
