import CallSites.Proofs.Data.BitVector
import CallSites.Proofs.Program.Invariant

/-!
# Resolution of shapes

A shape is resolved in one of two ways, with a callable family of the platform or with a definition
from a registry, and either may have been there before.  `Resolves` says what the resulting instance
has to do with the shape in terms that do not change any more once they hold: which definition the
shape selects, and that the arguments are the signature of the shape.

On its way into a registry the list of pass modes is packed into words, written as digits to be part
of a key, and read back when a definition is made.  `Shape.key_eq_iff` says that nothing gets lost
on the way to the key, and `isCallable_of_synthesized` that nothing gets lost on the way back: the
definition for the key of a shape has the pass modes of the shape.

The main result is `Keeps.resolve`.
-/

namespace CallSites

/-! ## Shapes -/

namespace Shape

/-- The types of a shape exist. -/
def Known (K : Set Ty) (t : TypeTable) (sh : Shape) : Prop :=
  (∀ q ∈ sh.params, KnownType K t q.type) ∧ KnownType K t sh.result

/-- For each parameter whether it is passed by reference. -/
def flags (sh : Shape) : List Bool := sh.params.map fun q => q.mode = .byRef

variable {K K' : Set Ty} {t t' : TypeTable} {sh : Shape}

lemma Known.mono (h : sh.Known K t) (hK : K ⊆ K') (ht : ∀ d, t.filed d ⊆ t'.filed d) :
    sh.Known K' t' :=
  ⟨fun q hq => (h.1 q hq).mono hK ht, h.2.mono hK ht⟩

lemma Known.signature (h : sh.Known K t) : ∀ a ∈ sh.signature, KnownType K t a := by
  intro a ha
  rcases List.mem_append.mp ha with hparam | hresult
  · obtain ⟨q, hq, rfl⟩ := List.mem_map.mp hparam
    exact h.1 q hq
  · split at hresult
    · cases hresult
    · rw [List.mem_singleton.mp hresult]
      exact h.2

@[simp] lemma length_flags (sh : Shape) : sh.flags.length = sh.params.length := List.length_map _

lemma hasByRef_iff_mem_flags : sh.hasByRef = true ↔ true ∈ sh.flags := by
  rw [hasByRef, flags, List.any_eq_true, List.mem_map]

/-- Without parameters passed by reference no flag is set. -/
lemma flags_of_not_hasByRef (h : sh.hasByRef = false) :
    sh.flags = List.replicate sh.params.length false := by
  rw [← Bool.not_eq_true, hasByRef_iff_mem_flags] at h
  refine List.eq_replicate_iff.mpr ⟨sh.length_flags, fun b hb => ?_⟩
  exact Bool.eq_false_iff.mpr fun hset => h (hset ▸ hb)

/-- The digits of a key are those of the flags. -/
lemma byRefs_key (sh : Shape) : sh.key.byRefs = flagDigits sh.flags :=
  BitVector.digits_ofBools sh.flags

/-- Shapes have one key just when they pass their parameters alike and agree on whether they
return. -/
lemma key_eq_iff {sh' : Shape} :
    sh.key = sh'.key ↔ sh.flags = sh'.flags ∧ sh.isVoid = sh'.isVoid := by
  constructor
  · intro h
    have hlength : sh.flags.length = sh'.flags.length := by
      rw [length_flags, length_flags]
      exact Int.ofNat.inj (congrArg Key.params h)
    have hdigits : flagDigits sh.flags = flagDigits sh'.flags := by
      rw [← byRefs_key, ← byRefs_key, h]
    refine ⟨?_, congrArg Key.void h⟩
    rw [← patternFlags_flagDigits sh.flags, hdigits, hlength, patternFlags_flagDigits]
  · rintro ⟨hflags, hvoid⟩
    have hlength : sh.params.length = sh'.params.length := by
      rw [← length_flags, hflags, length_flags]
    have hdigits : sh.byRefs.digits = sh'.byRefs.digits :=
      (byRefs_key sh).trans (hflags ▸ (byRefs_key sh').symm)
    rw [key, key, hlength, hdigits, hvoid]

lemma hasByRef_of_key_eq {sh' : Shape} (h : sh.key = sh'.key) : sh.hasByRef = sh'.hasByRef := by
  rw [Bool.eq_iff_iff, hasByRef_iff_mem_flags, hasByRef_iff_mem_flags, (key_eq_iff.mp h).1]

lemma derive_of_modesFit (cell : Option Ty) {ops : Operands} (h : ops.modesFit = true) :
    derive cell ops = .ok ⟨⟨cell, .byValue⟩ :: ops.flat,
      if CallSites.isVoid ops.result then none else ops.result⟩ := by
  rw [derive, if_pos h]
  rfl

lemma derive_of_misfit (cell : Option Ty) {ops : Operands} (h : ops.modesFit = false) :
    derive cell ops = .error (.misuse (.passModes ops.argByRef.length ops.args.length)) := by
  rw [derive, h]
  rfl

/-- A family returns a value if the shape does. -/
lemma familyOf_eq_func (sh : Shape) : decide (Synthesizer.familyOf sh = .func) = !sh.isVoid := by
  rw [Synthesizer.familyOf]
  cases sh.isVoid <;> rfl

end Shape

/-! ## Synthesized definitions -/

lemma checkParams_eq_ok {x : Int} {n : Nat} (h : checkParams x = .ok n) :
    x = n ∧ (n : Int) + 1 ≤ maxLabels := by
  rw [checkParams] at h
  split at h
  · cases h
  · next hroom =>
      split at h
      · cases h
      · next hsign =>
          cases h
          omega

lemma synthesizedDefinition_eq_ok {r n : Nat} {k : Key} {d : Definition}
    (h : synthesizedDefinition r n k = .ok d) :
    d.id = .synthesized r n ∧ d.synthesized = true ∧
      ∃ m, checkParams k.params = .ok m ∧ d.IsCallable (patternFlags k.byRefs m) (!k.void) := by
  rw [synthesizedDefinition] at h
  rcases hm : checkParams k.params with e | m
  · rw [hm] at h
    cases h
  · rw [hm] at h
    cases h
    exact ⟨rfl, rfl, m, rfl, isCallable_callableDefinition _ _ _ _ _ _⟩

/-- **The pass modes survive the key.**  A definition that is made for the key of a shape passes its
parameters as the shape does. -/
theorem isCallable_of_synthesized {r n : Nat} {sh : Shape} {d : Definition}
    (h : synthesizedDefinition r n sh.key = .ok d) : d.IsCallable sh.flags (!sh.isVoid) := by
  obtain ⟨-, -, m, hm, hcall⟩ := synthesizedDefinition_eq_ok h
  have hlength : m = sh.flags.length := by
    rw [sh.length_flags]
    exact Int.ofNat.inj (checkParams_eq_ok hm).1.symm
  rw [sh.byRefs_key, hlength, patternFlags_flagDigits] at hcall
  exact hcall

/-! ## A new definition in a registry -/

section Registry

variable {p : Platform} {C : Set Ty} {L : List Cell} {s : Store} {r : Nat} {k : Key}
variable {d : Definition}

lemma Store.find?_synthesize (s : Store) (r r' : Nat) (k k' : Key) (d : Definition) :
    ((s.synthesize r k d).registries.getD r' ∅).find? k' =
      if r = r' ∧ k = k' then some d else (s.registries.getD r' ∅).find? k' := by
  rw [Store.synthesize, OrderedMap.getD_insert]
  by_cases hr : r = r'
  · subst hr
    simp [OrderedMap.find?_insert]
  · simp [hr]

lemma Store.grows_synthesize (hk : (s.registries.getD r ∅).find? k = none) :
    s.Grows (s.synthesize r k d) := by
  refine { Grows.refl s with registries := fun r' k' e he => ?_ }
  rw [s.find?_synthesize, if_neg]
  · exact he
  · rintro ⟨rfl, rfl⟩
    rw [hk] at he
    cases he

lemma Store.census_synthesize (hk : (s.registries.getD r ∅).find? k = none) :
    (s.synthesize r k d).census p C = insert (.definition d) (s.census p C) := by
  refine Set.Subset.antisymm ?_ (Set.insert_subset ?_ ?_)
  · rintro x (hx | ⟨e, rfl, r', k', he⟩)
    · exact .inr (.inl hx)
    · rw [s.find?_synthesize] at he
      split at he
      · cases he
        exact .inl rfl
      · exact .inr (mem_census_of_synthesized ⟨r', k', he⟩)
  · exact mem_census_of_synthesized ⟨r, k, by rw [s.find?_synthesize, if_pos ⟨rfl, rfl⟩]⟩
  · exact (grows_synthesize hk).census (Set.Subset.refl C)

/-- A definition in a registry is made for its key. -/
lemma Store.Valid.synthesizedDefinition (h : s.Valid p C L)
    (hd : (s.registries.getD r ∅).find? k = some d) :
    ∃ n, n < (s.registries.getD r ∅).size ∧ synthesizedDefinition r n k = .ok d := by
  obtain ⟨n, hn⟩ := OrderedMap.exists_getElem?_of_find? hd
  exact ⟨n, (List.getElem?_eq_some_iff.mp hn).1, h.registry r n k d hn⟩

/-- Nobody has the identity of the next definition of a registry. -/
lemma Store.Valid.ident_ne (h : s.Valid p C L)
    (hd : CallSites.synthesizedDefinition r (s.registries.getD r ∅).size k = .ok d) :
    ∀ y ∈ s.census p C, y.ident ≠ (Ty.definition d).ident := by
  obtain ⟨hid, -⟩ := synthesizedDefinition_eq_ok hd
  have hnone : (Ty.definition d).ident.clientSerial? = none := by
    rw [Ty.ident, hid]
    rfl
  rintro y ((hy | hy) | ⟨e, rfl, r', k', he⟩) heq
  · -- the platform has no synthesized definitions
    cases hy with
    | listed _ | binder _ | cell _ => cases heq
    | genericCell hg =>
        rw [Ty.ident, Ty.ident, Ty.Ident.definition.injEq, hid, Platform.id_of_genericCell? hg]
          at heq
        cases heq
    | @family f n e hf =>
        rw [Ty.ident, Ty.ident, Ty.Ident.definition.injEq, hid, (Platform.family?_eq_some hf).1]
          at heq
        cases f <;> cases heq
  · exact h.client y hy (heq ▸ hnone)
  · -- the definitions of a registry are numbered by their positions, all below the next one
    obtain ⟨n, hn, hmade⟩ := h.synthesizedDefinition he
    rw [Ty.ident, Ty.ident, Ty.Ident.definition.injEq, hid, (synthesizedDefinition_eq_ok hmade).1]
      at heq
    cases heq
    exact Nat.lt_irrefl _ hn

/-- A registry may get the definition for a key that it has none for. -/
lemma Store.Valid.synthesize (h : s.Valid p C L) (hk : (s.registries.getD r ∅).find? k = none)
    (hd : CallSites.synthesizedDefinition r (s.registries.getD r ∅).size k = .ok d) :
    (s.synthesize r k d).Valid p C L := by
  have hg : s.Grows (s.synthesize r k d) := grows_synthesize hk
  have hnew := h.ident_ne hd
  obtain ⟨hid, -, m, -, hcall⟩ := synthesizedDefinition_eq_ok hd
  have hserial : ∀ n, (Ty.definition d).ident.clientSerial? = some n → n < s.types.next := by
    intro n hn
    rw [Ty.ident, hid] at hn
    cases hn
  refine
    { h with
      types := ?_
      registry := ?_
      bindings := ?_ }
  · rw [census_synthesize hk]
    refine h.types.add_type (h.types.interned.add_type hnew hserial) hnew ?_
    rintro e ⟨⟩
    exact hcall.known_declarations (Set.mem_insert _ _)
  · intro r' n k' e he
    rw [Store.synthesize, OrderedMap.getD_insert] at he
    split at he
    · next hr =>
        subst hr
        rw [OrderedMap.entries_insert_of_find?_eq_none d hk, List.getElem?_append] at he
        split at he
        · exact h.registry r n k' e he
        · next hn =>
            obtain ⟨hn', hlast⟩ := List.getElem?_eq_some_iff.mp he
            rw [List.length_singleton, Nat.lt_one_iff] at hn'
            have hpos : n = (s.registries.getD r ∅).size := by
              rw [OrderedMap.size]
              omega
            simp only [hn', List.getElem_cons_zero, Prod.mk.injEq] at hlast
            rw [hpos, ← hlast.1, ← hlast.2]
            exact hd
    · exact h.registry r' n k' e he
  · intro id b hb
    obtain ⟨hfinal, hproper⟩ := h.bindings id b hb
    exact ⟨hfinal, hproper.mono (hg.census (Set.Subset.refl C)) (TypeTable.Extends.refl _)⟩

/-- A registry gives out the definition it has for a key from then on. -/
lemma Keeps.loadOrCreate (h : s.Valid p C L) (r : Registry) (k : Key) :
    Keeps p C L (r.loadOrCreate k) s
      fun e s' => (s'.registries.getD r.serial ∅).find? k = some e.1 := by
  refine Leads.loadOrCreate h (fun d hd => hd) fun d hk hd => ?_
  refine ⟨h.synthesize hk hd, Store.grows_synthesize hk, ?_⟩
  rw [s.find?_synthesize, if_pos ⟨rfl, rfl⟩]

end Registry

/-! ## The callable type of a shape -/

/-- The platform's own callable type for a shape, if it has one. -/
def Platform.provided? (p : Platform) (sh : Shape) : Option Definition :=
  if sh.hasByRef then none else p.family? (Synthesizer.familyOf sh) sh.params.length

/-- The definition that a shape selects: the one of the platform, or else the one that a registry
with the given serial has for its key. -/
def Selects (p : Platform) (r : Nat) (sh : Shape) (d : Definition) (s : Store) : Prop :=
  p.provided? sh = some d ∨
    p.provided? sh = none ∧ (s.registries.getD r ∅).find? sh.key = some d

/-- The instance is the callable type of the shape, for a registry with the given serial: it
applies the definition that the shape selects to the signature of the shape. -/
structure Resolves (p : Platform) (C : Set Ty) (r : Nat) (sh : Shape) (s : Store) (c : Instance) :
    Prop where
  selected : Selects p r sh c.definition s
  signature : sh.signature = c.args.map some
  known : c.ty.Known (s.census p C) s.types

section Resolve

variable {p : Platform} {C C' : Set Ty} {L : List Cell} {s s' : Store} {r : Nat} {sh : Shape}
variable {c : Instance} {d : Definition}

lemma Selects.mono (h : Selects p r sh d s) (hg : s.Grows s') : Selects p r sh d s' :=
  Or.imp_right (fun hd => ⟨hd.1, hg.registries r _ _ hd.2⟩) h

lemma Selects.mem_census (h : Selects p r sh d s) : .definition d ∈ s.census p C := by
  rcases h with hprov | ⟨-, hfind⟩
  · rw [Platform.provided?] at hprov
    split at hprov
    · cases hprov
    · exact Store.mem_census_of_provides (.family hprov)
  · exact Store.mem_census_of_synthesized ⟨r, _, hfind⟩

/-- Once resolved, a shape stays resolved. -/
lemma Resolves.mono (h : Resolves p C r sh s c) (hg : s.Grows s') (hC : C ⊆ C') :
    Resolves p C' r sh s' c where
  selected := h.selected.mono hg
  signature := h.signature
  known := h.known.mono (hg.census hC) hg.types.filed

lemma Platform.isCallable_of_provided? (h : p.provided? sh = some d) :
    d.synthesized = false ∧ d.IsCallable sh.flags (!sh.isVoid) := by
  rw [provided?] at h
  split at h
  · cases h
  · next hbyRef =>
      obtain ⟨-, hsyn, hcall⟩ := family?_eq_some h
      rw [Int.toNat_natCast, sh.familyOf_eq_func] at hcall
      rw [Shape.flags_of_not_hasByRef (by simpa using hbyRef)]
      exact ⟨hsyn, hcall⟩

/-- Either way the definition has the pass modes of the shape. -/
lemma Resolves.isCallable (h : Resolves p C r sh s c) (hs : s.Valid p C L) :
    c.definition.IsCallable sh.flags (!sh.isVoid) := by
  rcases h.selected with hprov | ⟨-, hfind⟩
  · exact (Platform.isCallable_of_provided? hprov).2
  · obtain ⟨n, -, hmade⟩ := hs.synthesizedDefinition hfind
    exact isCallable_of_synthesized hmade

lemma run_provided? {y : Synthesizer} (hy : y.services = .ofPlatform p) (sh : Shape) (s : Store) :
    (y.provided? sh).run s = (.ok (p.provided? sh), s) := by
  rw [Synthesizer.provided?, Platform.provided?]
  split
  · rfl
  · rw [hy]
    rfl

/-- Applying an existing definition to the signature of a shape. -/
lemma Keeps.instantiate (h : s.Valid p C L) (hd : .definition d ∈ s.census p C)
    (hsh : sh.Known (s.census p C) s.types) :
    Keeps p C L (Synthesizer.instantiate d sh) s fun c s' =>
      c.definition = d ∧ sh.signature = c.args.map some ∧
        c.ty.Known (s'.census p C) s'.types := by
  refine Leads.withContext _ ((Keeps.construct h hd hsh.signature).imp ?_)
  rintro c s' - - ⟨hdef, hargs, hknown, -⟩
  exact ⟨hdef, hargs, hknown⟩

/-- **Resolving a shape** over types that exist.  If there is a result it is the callable type of
the shape; in any case the invariant is kept. -/
theorem Keeps.resolve (h : s.Valid p C L) {y : Synthesizer} (hy : y.services = .ofPlatform p)
    (hsh : sh.Known (s.census p C) s.types) :
    Keeps p C L (y.resolve sh) s fun c s' => Resolves p C y.registry.serial sh s' c := by
  have hsh' : ∀ {s₁ : Store}, s.Grows s₁ → sh.Known (s₁.census p C) s₁.types := fun hg =>
    hsh.mono (hg.census (Set.Subset.refl C)) hg.types.filed
  refine Leads.resolve (N := p.provided? sh = none) (P := Selects p y.registry.serial sh)
    ?_ ?_ ?_ ?_ (fun d s₁ s₂ hg hd => hd.mono hg)
    fun c s₁ s₂ hg hc => hc.mono hg (Set.Subset.refl C)
  · intro o s₁ hrun
    rw [run_provided? hy] at hrun
    cases hrun
    refine ⟨h, .refl s, fun a ha => ?_⟩
    cases ha
    rcases hprov : p.provided? sh with _ | d
    · exact rfl
    · exact .inl hprov
  · intro s₁ h₁ _ hnone
    exact (Keeps.loadOrCreate h₁ y.registry sh.key).imp fun e s₂ _ _ he => .inr ⟨hnone, he⟩
  · intro d s₁ h₁ hg₁ hd
    refine (Keeps.instantiate h₁ hd.mem_census (hsh' hg₁)).imp ?_
    rintro c s₂ - hg₂ ⟨rfl, hsig, hknown⟩
    exact ⟨hd.mono hg₂, hsig, hknown⟩
  · exact fun s₁ m h₁ => h₁.frame rfl rfl rfl rfl rfl

end Resolve

/-! ## Resolution succeeds -/

section Success

variable {p : Platform} {C : Set Ty} {L : List Cell} {s : Store} {sh : Shape} {d : Definition}
variable {args : List Ty}

lemma checkParams_ofNat {n : Nat} (h : (n : Int) + 1 ≤ maxLabels) : checkParams n = .ok n := by
  rw [checkParams, if_neg (by omega), if_neg (by omega), Int.toNat_natCast]
  rfl

/-- There is a definition for the key of every shape that is not too long. -/
lemma exists_synthesizedDefinition (r n : Nat) (h : (sh.params.length : Int) + 1 ≤ maxLabels) :
    ∃ d, synthesizedDefinition r n sh.key = .ok d := by
  have hparams : checkParams sh.key.params = .ok sh.params.length := checkParams_ofNat h
  rw [synthesizedDefinition, hparams]
  exact ⟨_, rfl⟩

lemma exists_loadOrCreate (hs : s.Valid p C L) (r : Registry)
    (h : (sh.params.length : Int) + 1 ≤ maxLabels) :
    ∃ e s', (r.loadOrCreate sh.key).run s = (.ok e, s') ∧
      e.1.IsCallable sh.flags (!sh.isVoid) := by
  rw [Registry.loadOrCreate, run_bind, run_get]
  rcases hk : (s.definitions r).find? sh.key with _ | d
  · obtain ⟨d, hd⟩ := exists_synthesizedDefinition r.serial (s.definitions r).size h
    simp only [hk, run_bind, hd, run_ofPure, run_set, run_pure]
    exact ⟨_, _, rfl, isCallable_of_synthesized hd⟩
  · simp only [hk, run_pure]
    obtain ⟨n, -, hmade⟩ := hs.synthesizedDefinition hk
    exact ⟨_, _, rfl, isCallable_of_synthesized hmade⟩

lemma exists_instantiate (hd : d.IsCallable sh.flags (!sh.isVoid))
    (hsig : sh.signature = args.map some) (huse : ∀ a ∈ args, a.Usable) (s : Store) :
    ∃ c s', (Synthesizer.instantiate d sh).run s = (.ok c, s') := by
  have hlen : args.length = d.arity := by
    rw [← List.length_map some, ← hsig, hd.arity, sh.length_flags, Shape.signature,
      List.length_append, List.length_map]
    cases sh.isVoid <;> rfl
  obtain ⟨c, t, hrun⟩ := TypeTable.Interned.construct_succeeds (t := s.types) hlen huse
  refine ⟨c, { s with types := t }, ?_⟩
  rw [Synthesizer.instantiate, run_withContext, run_toStoreM, hsig, hrun]

/-- **Resolution does not fail** on a shape whose types can be used as arguments, unless the shape
has more parameters than can be stored. -/
theorem Synthesizer.resolve_succeeds (hs : s.Valid p C L) {y : Synthesizer}
    (hy : y.services = .ofPlatform p) (hsig : sh.signature = args.map some)
    (huse : ∀ a ∈ args, a.Usable) (hlen : (sh.params.length : Int) + 1 ≤ maxLabels) :
    ∃ c s', (y.resolve sh).run s = (.ok c, s') := by
  rw [Synthesizer.resolve, run_bind, run_provided? hy]
  rcases hprov : p.provided? sh with _ | d
  · obtain ⟨e, s₁, hload, hcall⟩ := exists_loadOrCreate hs y.registry hlen
    simp only [run_bind, hload]
    exact exists_instantiate hcall hsig huse _
  · obtain ⟨c, s₁, hrun⟩ :=
      exists_instantiate (Platform.isCallable_of_provided? hprov).2 hsig huse s
    simp only [run_bind, hrun]
    exact ⟨_, _, rfl⟩

end Success

end CallSites
