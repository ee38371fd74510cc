import CallSites.Proofs.Types.Replacement

/-!
# Members of instances and members of definitions

A definition can get a member at any time, also one of a name that it has already; the new member
then takes the place of the old one.  An instance makes a member from that of its definition when it
is first asked for it, and gives out the same one from then on.  So an instance has a member of a
name as soon as its definition has one, but what the member looks like is settled by the first
request.

`TypeState.FirstAsked` splits a history at that request, and `instance_member_exact` says what an
instance answers in terms of it.  The member follows the definition as long as this has not got
another member of the name since; if it has, the member is still made from the earlier one, and
whether this makes a difference is seen from the two declarations (`TypeState.AgreeFor`).
-/

namespace CallSites

/-! ## Histories without a kind of request -/

namespace TypeRequest

/-- The request gives a definition a member of a name. -/
def Declares (d : Definition) (name : String) (_ : TypeTable) : TypeRequest → Prop
  | .addMember e m => e.id = d.id ∧ m.name = name
  | _ => False

/-- The request makes an instance give out a member: its definition has one of that name. -/
def GivesOut (inst : Instance) (name : String) (t : TypeTable) : TypeRequest → Prop
  | .member i n => i = inst ∧ n = name ∧ t.member? inst.definition name ≠ none
  | _ => False

end TypeRequest

namespace TypeState

/-- The second state comes about from the first by allowed requests, none of them of a kind. -/
inductive RunAvoiding (P : TypeTable → TypeRequest → Prop) (w : TypeState) : TypeState → Prop
  | refl : RunAvoiding P w w
  | step {w' : TypeState} {r : TypeRequest} (h : RunAvoiding P w w')
      (hr : r.Allowed w'.census w'.table) (hP : ¬P w'.table r) : RunAvoiding P w (w'.perform r)

variable {P : TypeTable → TypeRequest → Prop} {w w' : TypeState}

lemma RunAvoiding.run (h : w.RunAvoiding P w') : w.Run w' := by
  induction h with
  | refl => exact .refl
  | step _ hr _ ih => exact ih.step hr

lemma Run.trans {w'' : TypeState} (h : w.Run w') (h' : w'.Run w'') : w.Run w'' := by
  induction h' with
  | refl => exact h
  | step _ hr ih => exact ih.step hr

/-- What exists stays. -/
lemma Exists.run {x : Ty} (hx : w.Exists x) (hw : w.table.Sound w.census) (h : w.Run w') :
    w'.Exists x := by
  obtain ⟨-, hcensus, hext⟩ := h.sound hw
  exact hx.mono hcensus hext.filed

end TypeState

/-! ## The members of a definition -/

namespace TypeTable

lemma Grows.member?_eq {t t' : TypeTable} (h : t.Grows t') (d : Definition) (name : String) :
    t'.member? d name = t.member? d name := by
  rw [TypeTable.member?_eq, TypeTable.member?_eq, declared, declared, h.added]

/-- A new member takes the place of an earlier one of its name. -/
lemma member?_addMember_self (t : TypeTable) (d : Definition) (m : Declaration) :
    (t.addMember d m).member? d m.name = some ⟨m, .definition d, (t.declared d).length⟩ := by
  rw [member?_eq, declared, definition_addMember, if_pos rfl, ← List.append_assoc,
    List.zipIdx_append, List.foldl_append]
  simp only [List.zipIdx_singleton, List.foldl_cons, List.foldl_nil, Nat.zero_add]
  exact OrderedMap.find?_insert_self _ _ _

/-- A member of another name, or of another definition, takes no place. -/
lemma member?_addMember_of_not {t : TypeTable} {d e : Definition} {m : Declaration} {name : String}
    (h : ¬(e.id = d.id ∧ m.name = name)) : (t.addMember e m).member? d name = t.member? d name := by
  rw [member?_eq, member?_eq, declared, declared, definition_addMember]
  split
  · next hid =>
      have hname : m.name ≠ name := fun hname => h ⟨hid, hname⟩
      rw [← List.append_assoc, List.zipIdx_append, List.foldl_append]
      simp only [List.zipIdx_singleton, List.foldl_cons, List.foldl_nil]
      rw [OrderedMap.find?_insert_of_ne _ _ hname]
  · rfl

end TypeTable

lemma TypeState.RunAvoiding.member?_eq {d : Definition} {name : String} {w w' : TypeState}
    (h : w.RunAvoiding (TypeRequest.Declares d name) w') (hw : w.table.Sound w.census) :
    w'.table.member? d name = w.table.member? d name := by
  induction h with
  | refl => rfl
  | @step w₁ r h hr havoid ih =>
      rw [← ih]
      have hsound := (h.run.sound hw).1
      by_cases hplain : r.IsPlain
      · exact (TypeRequest.leaves hsound hr hplain rfl).grows.member?_eq d name
      · cases r with
        | addMember e m => exact TypeTable.member?_addMember_of_not havoid
        | _ => exact absurd trivial hplain

/-! ## The members that an instance has given out -/

section Kept

variable {K : Set Ty} {t : TypeTable} {inst : Instance} {name : String}

lemma run_discard_snd {α : Type} (x : TypeM α) (t : TypeTable) :
    ((x >>= fun _ => (pure none : TypeM (Option Ty))).run t).2 = (x.run t).2 := by
  rw [run_bind]
  rcases x.run t with ⟨_ | _, _⟩ <;> rfl

/-- A request other than for a member leaves the members of instances as they are. -/
lemma TypeRequest.instances_perform {r : TypeRequest} (h : t.Sound K) (hr : r.Allowed K t)
    (hne : ∀ i n, r ≠ .member i n) : (r.perform.run t).2.instances = t.instances := by
  cases r with
  | newNamed ns name kind => rfl
  | newContainer ns name => rfl
  | newGeneric ns name kind arity labels =>
      rw [perform, TypeM.newGeneric]
      rcases checkArity arity with _ | _ <;> rfl
  | newCallable ns name params pattern returns =>
      rw [perform, TypeM.newCallable]
      rcases checkParams params with _ | _ <;> rfl
  | addMember d m => rfl
  | construct d args =>
      rw [perform, run_discard_snd]
      exact (h.interned.construct hr.1 hr.2 rfl).2.instances
  | member inst name => exact absurd rfl (hne inst name)
  | substitute inst type =>
      obtain ⟨o, t', hrun, -, hfiles, -⟩ := h.interned.substitute_run hr.1 hr.2
      rw [perform, run_discard_snd, hrun]
      exact hfiles.instances

/-- **One request** and what an instance keeps: only a request for a member of that name makes a
difference, and only if the definition has one. -/
lemma TypeRequest.kept_perform {r : TypeRequest} (h : t.Sound K) (hr : r.Allowed K t)
    (inst : Instance) (name : String) :
    ((r.perform.run t).2.instanceState inst).members.find? name =
        (t.instanceState inst).members.find? name ∨
      ∃ i, r = .member i name ∧
        (i.definition.id, i.serial) = (inst.definition.id, inst.serial) ∧
        t.member? i.definition name ≠ none := by
  by_cases hmember : ∃ i n, r = .member i n
  · obtain ⟨i, n, rfl⟩ := hmember
    rw [perform, run_discard_snd]
    rcases hc : (t.instanceState i).members.find? n with _ | m
    · rcases hm : t.member? i.definition n with _ | m
      · rw [Instance.member_run_of_lacks hc hm]
        exact .inl rfl
      · obtain ⟨m', t', hrun, -, -, -, hkept⟩ := h.member_run_of_declared hr hc hm
        rw [hrun, hkept]
        split
        · next hboth =>
            obtain ⟨hkey, rfl⟩ := hboth
            exact .inr ⟨i, rfl, hkey, by simp [hm]⟩
        · exact .inl rfl
    · rw [Instance.member_run_of_kept hc]
      exact .inl rfl
  · have hsame := TypeRequest.instances_perform h hr fun i n hr => hmember ⟨i, n, hr⟩
    rw [TypeTable.instanceState, hsame]
    exact .inl rfl

/-- An instance keeps only members of names that its definition declares. -/
lemma TypeTable.Sound.kept_eq_none (h : t.Sound K) (hi : inst.ty.Known K t)
    (hm : t.member? inst.definition name = none) :
    (t.instanceState inst).members.find? name = none := by
  rw [Option.eq_none_iff_forall_ne_some]
  intro m hkept
  obtain ⟨⟨decl, hdecl, rfl, -⟩, -⟩ := h.kept_specialises hi hkept
  obtain ⟨m', hm'⟩ := TypeTable.exists_member? hdecl
  rw [hm] at hm'
  cases hm'

/-- There is one instance of an identity. -/
lemma TypeTable.Interned.instance_eq_of_key (h : t.Interned K) {i j : Instance}
    (hi : i.ty.Known K t) (hj : j.ty.Known K t)
    (hkey : (i.definition.id, i.serial) = (j.definition.id, j.serial)) : i = j := by
  rw [Prod.mk.injEq] at hkey
  have hdef := h.definition_inj hi.1 hj.1 hkey.1
  exact h.eq_of_serial_eq hj.1 (hdef ▸ hi.2) hj.2 hkey.2

/-! A declaration has one specialisation for an instance, as far as types that exist are concerned. -/

lemma TypeTable.Interned.replacedType_unique (h : t.Interned K) :
    ∀ {o p q : Option Ty}, KnownType K t p → KnownType K t q → inst.ReplacedType o p →
      inst.ReplacedType o q → p = q
  | none, _, _, _, _, .none, .none => rfl
  | some x, _, _, hp, hq, .some hy, .some hz => by
      rw [h.eq_of_replaced x (knownType_some.mp hp) (knownType_some.mp hq) hy hz]

lemma TypeTable.Interned.replacedParams_unique (h : t.Interned K) :
    ∀ {ps qs rs : List Parameter}, (∀ q ∈ qs, KnownType K t q.type) →
      (∀ r ∈ rs, KnownType K t r.type) → List.Forall₂ inst.ReplacedParam ps qs →
      List.Forall₂ inst.ReplacedParam ps rs → qs = rs
  | [], _, _, _, _, .nil, .nil => rfl
  | p :: ps, q :: qs, r :: rs, hqs, hrs, .cons hq hqs', .cons hr hrs' => by
      rw [List.forall_mem_cons] at hqs hrs
      have hname : q.name = r.name := hq.name.trans hr.name.symm
      have hbyRef : q.byRef = r.byRef := hq.byRef.trans hr.byRef.symm
      have htype : q.type = r.type := h.replacedType_unique hqs.1 hrs.1 hq.type hr.type
      have hhead : q = r := by
        cases q
        cases r
        simp_all
      rw [hhead, h.replacedParams_unique hqs.2 hrs.2 hqs' hrs']

/-- Two specialisations of a declaration are declared alike if their types exist. -/
lemma TypeTable.Interned.declaration_eq_of_specialises (h : t.Interned K) {m m' : Member}
    {decl : Declaration} (hm : m.toDeclaration.Known K t) (hm' : m'.toDeclaration.Known K t)
    (hs : m.Specialises decl inst) (hs' : m'.Specialises decl inst) :
    m.toDeclaration = m'.toDeclaration := by
  have htype := h.replacedType_unique hm.1 hm'.1 hs.type hs'.type
  have hparams := h.replacedParams_unique hm.2 hm'.2 hs.params hs'.params
  have hname := hs.name.trans hs'.name.symm
  have hkind := hs.kind.trans hs'.kind.symm
  have hstatic := hs.static.trans hs'.static.symm
  obtain ⟨⟨_, _, _, _, _⟩, _, _⟩ := m
  obtain ⟨⟨_, _, _, _, _⟩, _, _⟩ := m'
  simp_all

/-- What a member specialises is seen from its declaration and its container. -/
lemma Member.Specialises.congr {m m' : Member} {decl : Declaration}
    (h : m.Specialises decl inst) (hdecl : m.toDeclaration = m'.toDeclaration)
    (hcon : m'.container = inst.ty) : m'.Specialises decl inst where
  name := hdecl ▸ h.name
  kind := hdecl ▸ h.kind
  static := hdecl ▸ h.static
  container := hcon
  type := hdecl ▸ h.type
  params := hdecl ▸ h.params

end Kept

/-! ## The first request for a member -/

namespace TypeState

variable {inst : Instance} {name : String} {w w₁ : TypeState} {first : Member}

/-- An instance that has not given out a member of a name keeps none.  The induction is on the
history; a request that would make a difference is about an instance of the same identity, and this
is the same instance because both exist at the end. -/
lemma RunAvoiding.kept_eq_none
    (h : TypeState.empty.RunAvoiding (TypeRequest.GivesOut inst name) w) (hi : w.Exists inst.ty) :
    (w.table.instanceState inst).members.find? name = none := by
  have hI := (h.run.sound TypeTable.Sound.empty).1.interned
  suffices hkept : ∀ w', TypeState.empty.RunAvoiding (TypeRequest.GivesOut inst name) w' →
      (∀ x, w'.Exists x → w.Exists x) →
      (w'.table.instanceState inst).members.find? name = none from hkept w h fun _ hx => hx
  intro w' h'
  induction h' with
  | refl => exact fun _ => rfl
  | @step w'' r h'' hr havoid ih =>
      intro hsub
      have hsound := (h''.run.sound TypeTable.Sound.empty).1
      have hsub' : ∀ x, w''.Exists x → w.Exists x := fun x hx =>
        hsub x (hx.run hsound (Run.refl.step hr))
      rcases TypeRequest.kept_perform hsound hr inst name with hsame | ⟨i, rfl, hkey, hm⟩
      · exact hsame.trans (ih hsub')
      · obtain rfl := hI.instance_eq_of_key (hsub' _ hr) hi hkey
        exact absurd ⟨rfl, rfl, hm⟩ havoid

/-- An instance gave out a member of a name for the first time in state `w₁`, on the way to state
`w`, when its definition had the member `first`. -/
structure FirstAsked (inst : Instance) (name : String) (w₁ : TypeState) (first : Member)
    (w : TypeState) : Prop where
  unasked : TypeState.empty.RunAvoiding (TypeRequest.GivesOut inst name) w₁
  known : w₁.Exists inst.ty
  declared : w₁.table.member? inst.definition name = some first
  later : (w₁.perform (.member inst name)).Run w

/-- Every history either avoids such a request or goes through the first one. -/
lemma Run.unasked_or_firstAsked (h : TypeState.empty.Run w) (inst : Instance) (name : String) :
    TypeState.empty.RunAvoiding (TypeRequest.GivesOut inst name) w ∨
      ∃ w₁ first, FirstAsked inst name w₁ first w := by
  induction h with
  | refl => exact .inl .refl
  | @step w r h hr ih =>
      rcases ih with hun | ⟨w₁, first, hfirst⟩
      · by_cases hgives : r.GivesOut inst name w.table
        · cases r with
          | member i n =>
              obtain ⟨rfl, rfl, hm⟩ := hgives
              obtain ⟨first, hfirst⟩ := Option.ne_none_iff_exists'.mp hm
              exact .inr ⟨w, first, hun, hr, hfirst, .refl⟩
          | _ => cases hgives
        · exact .inl (hun.step hr hgives)
      · exact .inr ⟨w₁, first, { hfirst with later := hfirst.later.step hr }⟩

/-- Once an instance has been asked for a member that its definition has, there is a first time. -/
lemma Run.exists_firstAsked (h : TypeState.empty.Run w) (hi : w.Exists inst.ty) {m : Member}
    (hm : w.table.member? inst.definition name = some m) :
    ∃ w₁ first, FirstAsked inst name w₁ first (w.perform (.member inst name)) := by
  rcases h.unasked_or_firstAsked inst name with hun | ⟨w₁, first, hfirst⟩
  · exact ⟨w, m, hun, hi, hm, .refl⟩
  · exact ⟨w₁, first, { hfirst with later := hfirst.later.step hi }⟩

/-- **The first request settles the member.**  From then on the instance keeps a specialisation of
the member that its definition had at the time. -/
lemma FirstAsked.exists_kept (h : FirstAsked inst name w₁ first w) :
    ∃ m, (w.table.instanceState inst).members.find? name = some m ∧
      m.Specialises first.toDeclaration inst := by
  have hsound := (h.unasked.run.sound TypeTable.Sound.empty).1
  obtain ⟨m, t, hrun, hsound', -, hspec, hkept⟩ :=
    hsound.member_run_of_declared h.known (h.unasked.kept_eq_none h.known) h.declared
  have hlater := h.later
  rw [perform_quiet rfl hrun] at hlater
  obtain ⟨-, -, hext⟩ := hlater.sound hsound'
  refine ⟨m, hext.members inst name m ?_, hspec⟩
  exact (hkept inst name).trans (if_pos ⟨rfl, rfl⟩)

lemma FirstAsked.specialises (h : FirstAsked inst name w₁ first w) {m : Member}
    (hm : (w.table.instanceState inst).members.find? name = some m) :
    m.Specialises first.toDeclaration inst := by
  obtain ⟨m', hkept, hspec⟩ := h.exists_kept
  obtain rfl : m' = m := Option.some.inj (hkept.symm.trans hm)
  exact hspec

/-- Two declarations come to the same for an instance: a member whose types exist specialises both
or neither. -/
def AgreeFor (w : TypeState) (inst : Instance) (a b : Declaration) : Prop :=
  ∀ m : Member, m.toDeclaration.Known w.census w.table →
    (m.Specialises a inst ↔ m.Specialises b inst)

/-- A specialisation of one declaration is one of another if the two come to the same. -/
lemma specialises_iff_agreeFor (hw : w.table.Interned w.census) {m : Member} {a b : Declaration}
    (hm : m.toDeclaration.Known w.census w.table) (ha : m.Specialises a inst) :
    m.Specialises b inst ↔ w.AgreeFor inst a b := by
  constructor
  · intro hb m' hm'
    constructor
    · intro ha'
      have hdecl := hw.declaration_eq_of_specialises hm hm' ha ha'
      exact hb.congr hdecl ha'.container
    · intro hb'
      have hdecl := hw.declaration_eq_of_specialises hm hm' hb hb'
      exact ha.congr hdecl hb'.container
  · intro hagree
    exact (hagree m hm).mp ha

end TypeState

/-! ## After every history -/

/-- A history for the cases below: a definition with one instance and one field, for which the
instance has not been asked. -/
lemma exists_unasked_field :
    let a : Named := ⟨.free 0, "", "A", .reference⟩
    let d : Definition := ⟨.free 1, "", "G", .reference, ["T1"], false, .empty⟩
    let i : Instance := ⟨d, 0, [.named a]⟩
    ∃ w, TypeState.empty.RunAvoiding (TypeRequest.GivesOut i "M") w ∧ w.Exists (.named a) ∧
      w.Exists i.ty ∧ ∃ n, w.table.member? d "M" =
        some ⟨⟨"M", .field, false, some (.named a), []⟩, .definition d, n⟩ := by
  intro a d i
  let w₂ := (TypeState.empty.perform (.newNamed "" "A" .reference)).perform
    (.newGeneric "" "G" .reference 1 ["T1"])
  let w₃ := w₂.perform (.construct d [some (.named a)])
  let w := w₃.perform (.addMember d ⟨"M", .field, false, some (.named a), []⟩)
  have hcensus₂ : w₂.census = {.definition d} ∪ ({.named a} ∪ ∅) := rfl
  have hcensus₃ : w₃.census = ∅ ∪ w₂.census := rfl
  have hcensus : w.census = ∅ ∪ w₃.census := rfl
  have hfiled : w.table.filed d = [i] := rfl
  refine ⟨w, .step (.step (.step (.step .refl trivial id) trivial id) ⟨?_, ?_⟩ id) ⟨?_, ?_, ?_⟩ id,
    ?_, ⟨?_, ?_⟩, _, w₃.table.member?_addMember_self d _⟩
  · show .definition d ∈ w₂.census
    simp [hcensus₂]
  · show ∀ x ∈ [some (.named a)], KnownType w₂.census w₂.table x
    simp [Ty.Known, hcensus₂]
  · show .definition d ∈ w₃.census
    simp [hcensus₃, hcensus₂]
  · show KnownType w₃.census w₃.table (some (.named a))
    simp [Ty.Known, hcensus₃, hcensus₂]
  · simp
  · simp [TypeState.Exists, Ty.Known, hcensus, hcensus₃, hcensus₂]
  · show .definition d ∈ w.census
    simp [hcensus, hcensus₃, hcensus₂]
  · show i ∈ w.table.filed d
    simp [hfiled]

/-- **Members of instances.**  After every history, an instance that exists has a member of a name
just when its definition has one, and otherwise reports it as missing.  It gives out the same member
ever after.  The member belongs to the instance and specialises the member that the definition had
when the instance first gave one out.  It specialises the present member of the definition just when
the two come to the same for the instance; they are one if the definition has not got a member of
the name in between. -/
theorem instance_member_exact {w : TypeState} (hw : TypeState.empty.Run w) {inst : Instance}
    (hi : w.Exists inst.ty) (name : String) :
    let w' := w.perform (.member inst name)
    (w.table.member? inst.definition name = none →
      ∃ e : Error, (inst.member name).run w.table = (.error (.error e), w.table) ∧
        e.isMissing = true) ∧
    ∀ cur, w.table.member? inst.definition name = some cur →
      ∃ m, ((inst.member name).run w.table).1 = .ok m ∧ m.name = name ∧ m.container = inst.ty ∧
        (∀ w'', w'.Run w'' → (inst.member name).run w''.table = (.ok m, w''.table)) ∧
        (∃ w₁ first, TypeState.FirstAsked inst name w₁ first w') ∧
        ∀ w₁ first, TypeState.FirstAsked inst name w₁ first w' →
          m.Specialises first.toDeclaration inst ∧
          (m.Specialises cur.toDeclaration inst ↔
            w'.AgreeFor inst first.toDeclaration cur.toDeclaration) ∧
          (w₁.RunAvoiding (TypeRequest.Declares inst.definition name) w → first = cur) := by
  intro w'
  have hsound := (hw.sound TypeTable.Sound.empty).1
  constructor
  · intro hnone
    exact ⟨_, Instance.member_run_of_lacks (hsound.kept_eq_none hi hnone) hnone, rfl⟩
  · intro cur hcur
    obtain ⟨hdecl, hname, -⟩ := TypeTable.member?_eq_some hcur
    obtain ⟨m, t, hrun⟩ : ∃ m t, (inst.member name).run w.table = (.ok m, t) :=
      hname ▸ hsound.member_succeeds hi hdecl
    obtain ⟨hsound', hgrows⟩ := hsound.member hi hrun
    have hkept := hsound.member_ok hi hrun
    have hi' := hi.mono (Set.Subset.refl _) hgrows.filed
    obtain ⟨⟨decl, -, hmade, hspec⟩, hknown⟩ := hsound'.kept_specialises hi' hkept
    have hfirst : ∃ w₁ first, TypeState.FirstAsked inst name w₁ first w' :=
      hw.exists_firstAsked hi hcur
    rw [show w' = ⟨w.census, t⟩ from TypeState.perform_quiet rfl hrun] at hfirst ⊢
    refine ⟨m, congrArg Prod.fst hrun, hspec.name.trans hmade, hspec.container, ?_, hfirst, ?_⟩
    · intro w'' hlater
      obtain ⟨-, -, hext⟩ := hlater.sound hsound'
      exact Instance.member_run_of_kept (hext.members inst name m hkept)
    · intro w₁ first hfirst
      have hfollows := hfirst.specialises hkept
      refine ⟨hfollows, TypeState.specialises_iff_agreeFor hsound'.interned hknown hfollows, ?_⟩
      intro hrun₁
      have hsame := hrun₁.member?_eq (hfirst.unasked.run.sound TypeTable.Sound.empty).1
      rw [hcur, hfirst.declared] at hsame
      exact (Option.some.inj hsame).symm

/-- A method is declared in the place of the field before the instance is asked: it has the
method. -/
theorem instance_member_exact_of_last :
    let a : Named := ⟨.free 0, "", "A", .reference⟩
    let d : Definition := ⟨.free 1, "", "G", .reference, ["T1"], false, .empty⟩
    let i : Instance := ⟨d, 0, [.named a]⟩
    let method : Declaration := ⟨"M", .method, false, some (.param d 0), []⟩
    ∃ w m, TypeState.empty.Run w ∧ w.Exists i.ty ∧
      ((i.member "M").run w.table).1 = .ok m ∧ m.Specialises method i := by
  intro a d i method
  obtain ⟨w₁, hw₁, ha, hi₁, -⟩ := exists_unasked_field
  have hallowed : (TypeRequest.addMember d method).Allowed w₁.census w₁.table := by
    refine ⟨hi₁.1, ?_, ?_⟩
    · exact knownType_some.mpr ⟨hi₁.1, Nat.zero_lt_one⟩
    · simp [method]
  have hw := hw₁.step hallowed id
  have hi := hi₁.run (hw₁.run.sound TypeTable.Sound.empty).1 (.step .refl hallowed)
  have hcur := w₁.table.member?_addMember_self d method
  obtain ⟨m, hrun, -, -, -, -, hspec⟩ := (instance_member_exact hw.run hi "M").2 _ hcur
  exact ⟨_, m, hw.run, hi, hrun, (hspec _ _ ⟨hw, hi, hcur, .refl⟩).1⟩

/-- **A member does not follow its definition.**  The method is declared when the instance has been
asked for the field.  The definition has the method from then on, and the instance still has the
field. -/
theorem overtaken_member_stays :
    let a : Named := ⟨.free 0, "", "A", .reference⟩
    let d : Definition := ⟨.free 1, "", "G", .reference, ["T1"], false, .empty⟩
    let i : Instance := ⟨d, 0, [.named a]⟩
    ∃ w m cur, TypeState.empty.Run w ∧ w.Exists i.ty ∧ w.table.member? d "M" = some cur ∧
      (i.member "M").run w.table = (.ok m, w.table) ∧ m.kind = .field ∧ cur.kind = .method ∧
      ¬m.Specialises cur.toDeclaration i := by
  intro a d i
  let method : Declaration := ⟨"M", .method, false, some (.named a), []⟩
  obtain ⟨w₁, hw₁, ha₁, hi₁, n, hfield⟩ := exists_unasked_field
  have hsound₁ := (hw₁.run.sound TypeTable.Sound.empty).1
  have hask : w₁.Run (w₁.perform (.member i "M")) := .step .refl hi₁
  have hallowed : (TypeRequest.addMember d method).Allowed (w₁.perform (.member i "M")).census
      (w₁.perform (.member i "M")).table := by
    refine ⟨(hi₁.run hsound₁ hask).1, ?_, ?_⟩
    · exact knownType_some.mpr (ha₁.run hsound₁ hask)
    · simp [method]
  have hfirst : TypeState.FirstAsked i "M" w₁ _ _ :=
    ⟨hw₁, hi₁, hfield, .step .refl hallowed⟩
  obtain ⟨m, hkept, hspec⟩ := hfirst.exists_kept
  refine ⟨_, m, _, hw₁.run.trans (hask.step hallowed), hi₁.run hsound₁ (hask.step hallowed),
    TypeTable.member?_addMember_self _ d method, Instance.member_run_of_kept hkept, hspec.kind, rfl,
    ?_⟩
  intro hfollows
  cases hspec.kind.symm.trans hfollows.kind

end CallSites
