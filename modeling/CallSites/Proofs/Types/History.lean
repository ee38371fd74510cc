import CallSites.Proofs.Types.Callable
import Mathlib.Data.Set.Card

/-!
# Histories of the type table

A client of the type table creates types, declares members, constructs instances, and asks for
members and for substitutions, in any order and any number of times.  A `TypeRequest` is one of
these; it is `Allowed` when the types it is about exist.  Nothing is asked of how types are called:
two types may have one name, and the type parameters of different definitions may have one label.

`TypeRequest.leaves` says that one request keeps the table in order, whether it succeeds or not,
and `TypeState.Run.sound` carries this over to a whole history.  The main result is
`interning_exact`: after every history a definition has one instance for each argument list, filed
under the text of that list and counted once, and equality of types is identity.
-/

namespace CallSites

/-! ## Requests -/

/-- What a client can ask of the type table. -/
inductive TypeRequest where
  | newNamed (ns name : String) (kind : Kind)
  | newContainer (ns name : String)
  | newGeneric (ns name : String) (kind : Kind) (arity : Int) (labels : List String)
  | newCallable (ns name : String) (params : Int) (pattern : String) (returns : Bool)
  | addMember (d : Definition) (m : Declaration)
  | construct (d : Definition) (args : List (Option Ty))
  | member (inst : Instance) (name : String)
  | substitute (inst : Instance) (type : Option Ty)

namespace TypeRequest

/-- Performs a request.  The outcome is the type that has been created, for a request that creates
one. -/
def perform : TypeRequest → TypeM (Option Ty)
  | .newNamed ns name kind => do return some (.named (← TypeM.newNamed ns name kind))
  | .newContainer ns name => do return some (.container (← TypeM.newContainer ns name))
  | .newGeneric ns name kind arity labels => do
    return some (.definition (← TypeM.newGeneric ns name kind arity labels))
  | .newCallable ns name params pattern returns => do
    return some (.definition (← TypeM.newCallable ns name params pattern returns))
  | .addMember d m => do
    modify (·.addMember d m)
    return none
  | .construct d args => do
    let _ ← d.construct args
    return none
  | .member inst name => do
    let _ ← inst.member name
    return none
  | .substitute inst type => do
    let _ ← inst.substitute type
    return none

/-- The types that a request is about exist. -/
def Allowed (K : Set Ty) (t : TypeTable) : TypeRequest → Prop
  | .newNamed .. | .newContainer .. | .newGeneric .. | .newCallable .. => True
  | .addMember d m => .definition d ∈ K ∧ m.Known K t
  | .construct d args => .definition d ∈ K ∧ ∀ a ∈ args, KnownType K t a
  | .member inst _ => inst.ty.Known K t
  | .substitute inst type => inst.ty.Known K t ∧ KnownType K t type

/-- The request leaves the declarations of definitions as they are. -/
def IsPlain : TypeRequest → Prop
  | .addMember .. => False
  | _ => True

end TypeRequest

/-- The types that a request has created, by its outcome. -/
def created : Except Failure (Option Ty) → Set Ty
  | .ok (some x) => {x}
  | _ => ∅

/-! ## One request -/

section Step

variable {K : Set Ty} {t t' : TypeTable}

/-- What a request leaves behind: a table in order for the types that exist then, in which nothing
is lost, and a serial for the type that has been created. -/
structure TypeTable.Leaves (K : Set Ty) (t : TypeTable) (o : Except Failure (Option Ty))
    (t' : TypeTable) : Prop where
  sound : t'.Sound (created o ∪ K)
  grows : t.Grows t'
  serial : ∀ x ∈ created o, x.ident.clientSerial? ≠ none

/-- A request that creates nothing does what the operation behind it does. -/
lemma TypeTable.Leaves.quiet {o : Except Failure (Option Ty)} (ho : created o = ∅)
    (h : t'.Sound K ∧ t.Grows t') : Leaves K t o t' where
  sound := by
    rw [ho, Set.empty_union]
    exact h.1
  grows := h.2
  serial := by simp [ho]

lemma TypeTable.Leaves.discard {α : Type} {x : TypeM α} {o : Except Failure (Option Ty)}
    (hrun : (x >>= fun _ => pure none).run t = (o, t'))
    (hstep : ∀ {q t₁}, x.run t = (q, t₁) → t₁.Sound K ∧ t.Grows t₁) : Leaves K t o t' := by
  rcases run_bind_cases hrun with ⟨a, t₁, hok, hpure⟩ | ⟨e, herr, rfl⟩
  · cases hpure
    exact .quiet rfl (hstep hok)
  · exact .quiet rfl (hstep herr)

/-- A type made with the next serial joins the census. -/
lemma TypeTable.Leaves.create (h : t.Sound K) {x : Ty} (hx : x.ident.clientSerial? = some t.next)
    (hdecl : ∀ d, x = .definition d → ∀ decl ∈ d.declarations,
      decl.Known (insert x K) { t with next := t.next + 1 }) :
    Leaves K t (.ok (some x)) { t with next := t.next + 1 } where
  sound := Set.singleton_union ▸ h.add_type_next hx hdecl
  grows := t.grows_next
  serial y hy := by
    rw [Set.mem_singleton_iff.mp hy, hx]
    exact Option.some_ne_none _

/-- **One request** other than for a new declaration, whatever comes of it. -/
theorem TypeRequest.leaves {r : TypeRequest} (h : t.Sound K) (hr : r.Allowed K t)
    (hplain : r.IsPlain) {o : Except Failure (Option Ty)} (hrun : r.perform.run t = (o, t')) :
    TypeTable.Leaves K t o t' := by
  cases r with
  | newNamed ns name kind =>
      cases hrun
      exact .create h rfl fun d hd => by cases hd
  | newContainer ns name =>
      cases hrun
      exact .create h rfl fun d hd => by cases hd
  | newGeneric ns name kind arity labels =>
      rw [perform, TypeM.newGeneric] at hrun
      rcases hn : checkArity arity with e | n
      · rw [hn] at hrun
        cases hrun
        exact .quiet rfl ⟨h, .refl t⟩
      · rw [hn] at hrun
        cases hrun
        refine .create h rfl fun d hd => ?_
        cases hd
        intro decl hdecl
        cases hdecl
  | newCallable ns name params pattern returns =>
      rw [perform, TypeM.newCallable] at hrun
      rcases hn : checkParams params with e | n
      · rw [hn] at hrun
        cases hrun
        exact .quiet rfl ⟨h, .refl t⟩
      · rw [hn] at hrun
        cases hrun
        refine .create h rfl fun d hd => ?_
        cases hd
        exact (isCallable_callableDefinition _ _ _ _ _ _).known_declarations (Set.mem_insert _ _)
  | addMember d m => cases hplain
  | construct d args => exact .discard hrun (h.construct hr.1 hr.2)
  | member inst name => exact .discard hrun (h.member hr)
  | substitute inst type => exact .discard hrun (h.substitute hr.1 hr.2)

/-- Whatever comes of an allowed request, the table is in order for the types that exist then, and
no instance or member is lost. -/
lemma TypeRequest.perform_run {r : TypeRequest} (h : t.Sound K) (hr : r.Allowed K t)
    {o : Except Failure (Option Ty)} (hrun : r.perform.run t = (o, t')) :
    t'.Sound (created o ∪ K) ∧ t.Extends t' := by
  by_cases hplain : r.IsPlain
  · have hleaves := TypeRequest.leaves h hr hplain hrun
    exact ⟨hleaves.sound, hleaves.grows.toExtends⟩
  · cases r with
    | addMember d m =>
        cases hrun
        exact ⟨(Set.empty_union K).symm ▸ h.addMember hr.1 hr.2, t.extends_addMember d m⟩
    | _ => exact absurd trivial hplain

end Step

/-! ## Histories -/

/-- The types that exist: those created so far, and the table of instances. -/
structure TypeState where
  census : Set Ty
  table : TypeTable

namespace TypeState

/-- No type but the void type exists. -/
def empty : TypeState := ⟨∅, {}⟩

/-- What a request makes of the types that exist, whether it succeeds or not. -/
def perform (w : TypeState) (r : TypeRequest) : TypeState :=
  ⟨created (r.perform.run w.table).1 ∪ w.census, (r.perform.run w.table).2⟩

/-- The second state comes about from the first by allowed requests. -/
inductive Run (w : TypeState) : TypeState → Prop
  | refl : Run w w
  | step {w' : TypeState} {r : TypeRequest} (h : Run w w')
      (hr : r.Allowed w'.census w'.table) : Run w (w'.perform r)

/-- The type exists. -/
def Exists (w : TypeState) (x : Ty) : Prop := x.Known w.census w.table

/-- The argument lists that a definition has been applied to. -/
def argLists (w : TypeState) (d : Definition) : Set (List Ty) :=
  {args | ∃ n, w.Exists (.inst d n args)}

variable {w w' : TypeState}

/-- **A whole history.**  The table stays in order, types stay, and instances stay filed. -/
theorem Run.sound (h : w.Run w') (hw : w.table.Sound w.census) :
    w'.table.Sound w'.census ∧ w.census ⊆ w'.census ∧ w.table.Extends w'.table := by
  induction h with
  | refl => exact ⟨hw, Set.Subset.refl _, TypeTable.Extends.refl _⟩
  | step _ hr ih =>
      obtain ⟨hsound, hcensus, hext⟩ := ih
      obtain ⟨hsound', hext'⟩ := TypeRequest.perform_run hsound hr rfl
      exact ⟨hsound', hcensus.trans Set.subset_union_right, hext.trans hext'⟩

end TypeState

/-! ## What holds after every history -/

namespace TypeTable.Interned

variable {K : Set Ty} {t : TypeTable} {d : Definition}

/-- An instance stands in one bucket, that of its own arguments. -/
lemma mem_bucket_iff (h : t.Interned K) (hd : .definition d ∈ K) {key : String} {i : Instance} :
    i ∈ t.bucket d key ↔ i ∈ t.filed d ∧ key = Ty.listText i.args := by
  constructor
  · intro hi
    exact ⟨mem_filed_of_mem_bucket hi, (h.each d hd).key_eq key i hi⟩
  · rintro ⟨hi, rfl⟩
    exact (h.each d hd).bucketed i hi

/-- Lists of types that may be absent are the same when they are equal item by item. -/
lemma forall₂_equalTypes_iff_eq (h : t.Interned K) :
    ∀ {xs ys : List (Option Ty)}, (∀ x ∈ xs, KnownType K t x) → (∀ y ∈ ys, KnownType K t y) →
      (List.Forall₂ (fun x y => equalTypes x y = true) xs ys ↔ xs = ys)
  | [], [], _, _ => by simp
  | [], _ :: _, _, _ | _ :: _, [], _, _ => by simp
  | x :: xs, y :: ys, hx, hy => by
      rw [List.forall₂_cons, List.cons.injEq, h.equalTypes_iff_eq (hx x (by simp)) (hy y (by simp)),
        h.forall₂_equalTypes_iff_eq (fun a ha => hx a (by simp [ha]))
          fun a ha => hy a (by simp [ha])]

lemma args_knownType (h : t.Interned K) {i : Instance} (hi : i.ty.Known K t) :
    ∀ a ∈ i.args.map some, KnownType K t a := by
  intro a ha
  obtain ⟨x, hx, rfl⟩ := List.mem_map.mp ha
  exact knownType_some.mpr (h.args_known hi x hx)

/-- Instances of one definition are the same when their arguments are equal in pairs. -/
lemma same_iff_forall₂ (h : t.Interned K) {i j : Instance} (hi : i.ty.Known K t)
    (hj : j.ty.Known K t) (hdef : i.definition = j.definition) :
    i.ty.same j.ty = true ↔
      List.Forall₂ (fun a b => equalTypes a b = true) (i.args.map some) (j.args.map some) := by
  rw [h.same_iff_instance_eq hi hj,
    h.forall₂_equalTypes_iff_eq (h.args_knownType hi) (h.args_knownType hj)]
  constructor
  · rintro rfl
    rfl
  · intro hargs
    exact h.eq_of_args_eq hj.1 (hdef ▸ hi.2) hj.2 (map_some_inj hargs)

end TypeTable.Interned

namespace TypeState

variable {w : TypeState} {d : Definition}

lemma mem_argLists_iff (h : w.table.Interned w.census) (hd : .definition d ∈ w.census)
    {args : List Ty} : args ∈ w.argLists d ↔ args ∈ (w.table.filed d).map (·.args) := by
  constructor
  · rintro ⟨n, hn⟩
    exact List.mem_map.mpr ⟨⟨d, n, args⟩, hn.2, rfl⟩
  · intro hargs
    obtain ⟨i, hi, rfl⟩ := List.mem_map.mp hargs
    obtain rfl := (h.each d hd).definition_eq i hi
    exact ⟨i.serial, hd, hi⟩

/-- Instances are counted by their argument lists. -/
lemma numInstances_eq_ncard (h : w.table.Interned w.census) (hd : .definition d ∈ w.census) :
    w.table.numInstances d = (w.argLists d).ncard := by
  classical
  have hset : w.argLists d = ((w.table.filed d).map (·.args)).toFinset := by
    ext args
    rw [mem_argLists_iff h hd, Finset.mem_coe, List.mem_toFinset]
  rw [hset, Set.ncard_coe_finset, List.toFinset_card_of_nodup (h.each d hd).argLists,
    List.length_map, TypeTable.numInstances_eq_length]

/-- A request that creates no type changes the table at most. -/
lemma perform_quiet {α : Type} {x : TypeM α} {r : TypeRequest}
    (hr : r.perform = x >>= fun _ => pure none) {o : Except Failure α} {t : TypeTable}
    (hrun : x.run w.table = (o, t)) : w.perform r = ⟨w.census, t⟩ := by
  have hperform : r.perform.run w.table = (o.map fun _ => none, t) := by
    rw [hr, run_bind, hrun]
    cases o <;> rfl
  rw [perform, hperform]
  cases o <;> exact congrArg (TypeState.mk · t) (Set.empty_union w.census)

lemma perform_construct {args : List (Option Ty)} {i : Instance} {t : TypeTable}
    (hrun : (d.construct args).run w.table = (.ok i, t)) :
    w.perform (.construct d args) = ⟨w.census, t⟩ :=
  perform_quiet rfl hrun

/-- A construction adds the argument list it is given, unless it is there already. -/
lemma argLists_construct (h : w.table.Interned w.census) (hd : .definition d ∈ w.census)
    {args : List (Option Ty)} (hargs : ∀ a ∈ args, KnownType w.census w.table a) {i : Instance}
    {t : TypeTable} (hrun : (d.construct args).run w.table = (.ok i, t)) :
    (⟨w.census, t⟩ : TypeState).argLists d = insert i.args (w.argLists d) := by
  obtain ⟨h', hfiles, hdef, hknown, hmap⟩ := h.construct_ok hd hargs hrun
  have hmem : i.args ∈ (⟨w.census, t⟩ : TypeState).argLists d := ⟨i.serial, hdef ▸ hknown⟩
  obtain ⟨e, -, he, -⟩ | ⟨as, -, ⟨j, -, -, rfl⟩ | ⟨-, hi, rfl⟩⟩ := Definition.construct_cases hrun
  · cases he
  · exact (Set.insert_eq_of_mem hmem).symm
  · cases hi
    ext bs
    rw [mem_argLists_iff (w := ⟨w.census, w.table.file ⟨d, w.table.numInstances d, as⟩⟩) h' hd,
      Set.mem_insert_iff, mem_argLists_iff h hd,
      ((w.table.filed_file_self ⟨d, _, as⟩).map (·.args)).mem_iff, List.map_append,
      List.mem_append, List.map_singleton, List.mem_singleton, or_comm]

end TypeState

/-- **Interning is exact.**  After every history, types are equal just when they are one and the
same type.  No definition has two instances over equal argument lists, an instance stands in the
bucket of the text of its own arguments and in no other, and instances are counted by their argument
lists, to which a construction adds the one it is given.  Two constructions with one definition,
whatever happens in between, give the same instance just when their arguments are equal in
pairs. -/
theorem interning_exact {w : TypeState} (hw : TypeState.empty.Run w) :
    (∀ x y, w.Exists x → w.Exists y → (x.equal y = true ↔ x.same y = true)) ∧
    ∀ d, w.Exists (.definition d) →
      (∀ i ∈ w.table.filed d, ∀ j ∈ w.table.filed d, Ty.equalAll i.args j.args = true → i = j) ∧
      (∀ key i, i ∈ w.table.bucket d key ↔ i ∈ w.table.filed d ∧ key = Ty.listText i.args) ∧
      w.table.numInstances d = (w.argLists d).ncard ∧
      ∀ args i t, (TypeRequest.construct d args).Allowed w.census w.table →
        (d.construct args).run w.table = (.ok i, t) →
        args = i.args.map some ∧
        (w.perform (.construct d args)).argLists d = insert i.args (w.argLists d) ∧
        ∀ w', (w.perform (.construct d args)).Run w' →
          ∀ args' j t', (TypeRequest.construct d args').Allowed w'.census w'.table →
            (d.construct args').run w'.table = (.ok j, t') →
            (i.ty.same j.ty = true ↔
              List.Forall₂ (fun a b => equalTypes a b = true) args args') := by
  obtain ⟨hsound, -, -⟩ := hw.sound TypeTable.Sound.empty
  have h := hsound.interned
  refine ⟨fun x y hx hy => (h.same_iff_equal hx hy).symm, fun d hd => ⟨?_, ?_, ?_, ?_⟩⟩
  · intro i hi j hj heq
    have hargs := (h.equalAll_iff_eq (fun a ha => ((h.each d hd).args i hi a ha).1)
      fun a ha => ((h.each d hd).args j hj a ha).1).mp heq
    exact h.eq_of_args_eq hd hi hj hargs
  · exact fun key i => h.mem_bucket_iff hd
  · exact TypeState.numInstances_eq_ncard h hd
  · intro args i t hallow hrun
    obtain ⟨-, -, hdef, hi, hargs⟩ := h.construct_ok hd hallow.2 hrun
    rw [TypeState.perform_construct hrun]
    refine ⟨hargs, TypeState.argLists_construct h hd hallow.2 hrun, ?_⟩
    intro w' hw' args' j t' hallow' hrun'
    -- what was in the table after the first construction is in it after the second
    obtain ⟨hsound₁, -⟩ := hsound.construct hd hallow.2 hrun
    obtain ⟨hsound', hcensus, hext⟩ := hw'.sound hsound₁
    obtain ⟨h₂, hfiles, hdef', hj, hargs'⟩ :=
      hsound'.interned.construct_ok hallow'.1 hallow'.2 hrun'
    have hi' : i.ty.Known w'.census t' := (hi.mono hcensus hext.filed).files hfiles
    rw [hargs, hargs']
    exact h₂.same_iff_forall₂ hi' hj (hdef.trans hdef'.symm)

/-- Two types of one name and a definition: the instances over the two types are different. -/
theorem interning_exact_of_one_name :
    let a : Named := ⟨.free 0, "", "A", .reference⟩
    let b : Named := ⟨.free 1, "", "A", .reference⟩
    let d : Definition := ⟨.free 2, "", "G", .reference, ["T"], false, .empty⟩
    ∃ w i j t t', TypeState.empty.Run w ∧ a.text = b.text ∧
      (d.construct [some (.named a)]).run w.table = (.ok i, t) ∧
      (d.construct [some (.named b)]).run t = (.ok j, t') ∧ i.ty.same j.ty = false := by
  intro a b d
  let w := ((TypeState.empty.perform (.newNamed "" "A" .reference)).perform
    (.newNamed "" "A" .reference)).perform (.newGeneric "" "G" .reference 1 ["T"])
  have hw : TypeState.empty.Run w := .step (.step (.step .refl trivial) trivial) trivial
  have hcensus : w.census = {.definition d} ∪ ({.named b} ∪ ({.named a} ∪ ∅)) := rfl
  have ha : .named a ∈ w.census := by simp [hcensus]
  have hb : .named b ∈ w.census := by simp [hcensus]
  have hd : .definition d ∈ w.census := by simp [hcensus]
  obtain ⟨i, t, hi⟩ := TypeTable.Interned.construct_succeeds (t := w.table)
    (show [Ty.named a].length = d.arity from rfl) (by simp [Ty.Usable, Ty.kind, a])
  obtain ⟨j, t', hj⟩ := TypeTable.Interned.construct_succeeds (t := t)
    (show [Ty.named b].length = d.arity from rfl) (by simp [Ty.Usable, Ty.kind, b])
  refine ⟨w, i, j, t, t', hw, rfl, hi, hj, ?_⟩
  obtain ⟨-, -, hsame⟩ :=
    ((interning_exact hw).2 d hd).2.2.2 _ i t ⟨hd, by simpa [Ty.Known] using ha⟩ hi
  rw [TypeState.perform_construct hi] at hsame
  have hiff := hsame _ .refl _ j t' ⟨hd, by simpa [Ty.Known] using hb⟩ hj
  rw [← Bool.not_eq_true, hiff]
  simp [equalTypes, Ty.equal, Ty.same, Ty.ident, a, b]

end CallSites
