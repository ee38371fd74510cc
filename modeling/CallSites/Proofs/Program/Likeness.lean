import CallSites.Proofs.Mirror
import CallSites.Proofs.Program.Bookkeeping
import CallSites.Proofs.Program.CellTyping

/-!
# What does not depend on the history

Definitions of registries are identified by their positions and instances by their serials, so the
callable type of a shape depends on what has been resolved before.  How it is shown does not, and
neither does whether there is one: a shape is refused for reasons that lie in the shape and in the
platform, and two callable types of one shape differ at most in the identity of their definition
(`Synthesizer.agree_resolve`).  The same goes for the generic cache cell type over a callable and
for its members.
-/

namespace CallSites

/-! ## Definitions -/

/-- The definitions differ in nothing but their identity. -/
def Definition.Alike (d d' : Definition) : Prop := ∃ id, d' = { d with id := id }

namespace Definition

variable {d d' : Definition}

lemma Alike.refl (d : Definition) : d.Alike d := ⟨d.id, rfl⟩

lemma Alike.text (h : d.Alike d') : d'.text = d.text := by
  obtain ⟨id, rfl⟩ := h
  rfl

lemma Alike.metadataName (h : d.Alike d') : d'.metadataName = d.metadataName := by
  obtain ⟨id, rfl⟩ := h
  rfl

lemma Alike.checkArgsFrom (h : d.Alike d') :
    ∀ (args : List (Option Ty)) (n : Nat), d'.checkArgsFrom n args = d.checkArgsFrom n args
  | [], _ => rfl
  | a :: as, n => by
      have harg : d'.checkArg n a = d.checkArg n a := by
        obtain ⟨id, rfl⟩ := h
        cases a <;> rfl
      rw [Definition.checkArgsFrom, Definition.checkArgsFrom, harg, h.checkArgsFrom as (n + 1)]

/-- Arguments are refused for reasons that do not lie in the identity. -/
lemma Alike.checkArgs (h : d.Alike d') (args : List (Option Ty)) :
    d'.checkArgs args = d.checkArgs args := by
  have harity : d'.arity = d.arity := by
    obtain ⟨id, rfl⟩ := h
    rfl
  rw [Definition.checkArgs, Definition.checkArgs, h.checkArgsFrom, h.text, harity]

end Definition

/-- The definitions for a key differ only by where they are. -/
lemma alike_of_synthesizedDefinition {r n r' n' : Nat} {k : Key} {d d' : Definition}
    (h : synthesizedDefinition r n k = .ok d) (h' : synthesizedDefinition r' n' k = .ok d') :
    d.Alike d' := by
  rw [synthesizedDefinition] at h h'
  rcases hm : checkParams k.params with e | m
  · rw [hm] at h
    cases h
  · rw [hm] at h h'
    cases h
    cases h'
    exact ⟨_, rfl⟩

/-- If there is no room for a definition in one place there is none in another. -/
lemma synthesizedDefinition_eq_error {r n : Nat} (r' n' : Nat) {k : Key} {e : Failure}
    (h : synthesizedDefinition r n k = .error e) : synthesizedDefinition r' n' k = .error e := by
  rw [synthesizedDefinition] at h ⊢
  rcases hm : checkParams k.params with e' | m
  · rw [hm] at h
    exact h
  · rw [hm] at h
    cases h

/-! ## Shapes -/

/-- The shape of an operation on a platform. -/
def Platform.derive (p : Platform) (ops : Operands) : Except Failure Shape :=
  match p.cell with
  | .error e => .error (.error e)
  | .ok cell => Shape.derive (some cell) ops

/-- The shape of an operation depends on the platform alone. -/
lemma run_derive {p : Platform} {f : SiteFactory} (hf : f.services = .ofPlatform p)
    (ops : Operands) (s : Store) : (f.derive ops).run s = (p.derive ops, s) := by
  have hcell : f.services.cell.run s = (StoreM.ofExcept p.cell).run s := by
    rw [hf]
    rfl
  rw [SiteFactory.derive, run_bind, hcell, Platform.derive]
  cases p.cell <;> rfl

/-! ## Callable types -/

section Resolve

variable {p : Platform} {C C' : Set Ty} {L L' : List Cell} {s s' : Store} {sh : Shape}
variable {γ : Type} {π π' : Store → γ}

lemma Mirrors.construct {d d' : Definition} {args args' : List (Option Ty)} (h : π s = π' s')
    (hπ : ∀ (s : Store) t, π { s with types := t } = π s)
    (hπ' : ∀ (s : Store) t, π' { s with types := t } = π' s)
    (hcheck : Agree (fun _ _ => True) (d.checkArgs args) (d'.checkArgs args')) :
    Mirrors π π' (d.construct args).toStoreM (d'.construct args').toStoreM s s'
      fun _ _ => True := by
  refine .of_spares h (hπ s _) (hπ' s' _) ?_
  rcases hrun : (d.construct args).run s.types with ⟨o, t⟩
  rcases hrun' : (d'.construct args').run s'.types with ⟨o', t'⟩
  rw [run_toStoreM, run_toStoreM, hrun, hrun']
  -- what comes of a construction is settled by the check of its arguments
  have hsettled : ∀ {d : Definition} {args : List (Option Ty)} {t t' : TypeTable}
      {o : Except Failure Instance}, (d.construct args).run t = (o, t') →
      (∃ e, d.checkArgs args = .error e ∧ o = .error e) ∨
        ∃ as i, d.checkArgs args = .ok as ∧ o = .ok i := by
    intro d args t t' o hrun
    obtain ⟨e, he, ho, -⟩ | ⟨as, has, ⟨i, -, ho, -⟩ | ⟨-, ho, -⟩⟩ := Definition.construct_cases hrun
    · exact .inl ⟨e, he, ho⟩
    · exact .inr ⟨as, i, has, ho⟩
    · exact .inr ⟨as, _, has, ho⟩
  obtain ⟨e, he, rfl⟩ | ⟨as, i, has, rfl⟩ := hsettled hrun
  · obtain ⟨e', he', rfl⟩ | ⟨as', i', has', rfl⟩ := hsettled hrun'
    · rw [he, he'] at hcheck
      cases hcheck
      exact .error e
    · rw [he, has'] at hcheck
      cases hcheck
  · obtain ⟨e', he', rfl⟩ | ⟨as', i', has', rfl⟩ := hsettled hrun'
    · rw [has, he'] at hcheck
      cases hcheck
    · exact .ok trivial

lemma Agree.refl {α : Type} {Q : α → α → Prop} (hQ : ∀ a, Q a a) (o : Except Failure α) :
    Agree Q o o := by
  cases o with
  | ok a => exact .ok (hQ a)
  | error e => exact .error e

/-- What a registry answers is alike, whatever it holds. -/
lemma Mirrors.loadOrCreate (hs : s.Valid p C L) (hs' : s'.Valid p C' L') (r r' : Registry)
    (k : Key) :
    Mirrors (fun _ => ()) (fun _ => ()) (r.loadOrCreate k) (r'.loadOrCreate k) s s'
      fun e e' => e.1.Alike e'.1 := by
  -- the answer is the definition for the key at some position, or there is no room for one
  have hanswer : ∀ {C : Set Ty} {L : List Cell} {s : Store} (r : Registry), s.Valid p C L →
      (∃ e n, ((r.loadOrCreate k).run s).1 = .ok e ∧
        synthesizedDefinition r.serial n k = .ok e.1) ∨
      ∃ e n, ((r.loadOrCreate k).run s).1 = .error e ∧
        synthesizedDefinition r.serial n k = .error e := by
    intro C L s r hs
    rcases hrun : (r.loadOrCreate k).run s with ⟨o, s₁⟩
    obtain ⟨d, hd, rfl, -⟩ | ⟨-, ⟨d, hd, rfl, -⟩ | ⟨e, he, rfl, -⟩⟩ :=
      Registry.loadOrCreate_cases hrun
    · obtain ⟨n, -, hmade⟩ := hs.synthesizedDefinition hd
      exact .inl ⟨_, n, rfl, hmade⟩
    · exact .inl ⟨_, _, rfl, hd⟩
    · exact .inr ⟨e, _, rfl, he⟩
  refine ⟨rfl, ?_⟩
  obtain ⟨e, n, ho, hmade⟩ | ⟨e, n, ho, hmade⟩ := hanswer r hs
  · obtain ⟨e', n', ho', hmade'⟩ | ⟨e', n', ho', hmade'⟩ := hanswer r' hs'
    · rw [ho, ho']
      exact .ok (alike_of_synthesizedDefinition hmade hmade')
    · rw [synthesizedDefinition_eq_error r.serial n hmade'] at hmade
      cases hmade
  · obtain ⟨e', n', ho', hmade'⟩ | ⟨e', n', ho', hmade'⟩ := hanswer r' hs'
    · rw [synthesizedDefinition_eq_error r'.serial n' hmade] at hmade'
      cases hmade'
    · rw [synthesizedDefinition_eq_error r'.serial n' hmade] at hmade'
      cases hmade'
      rw [ho, ho']
      exact .error e

lemma Mirrors.instantiate {d d' : Definition} (hd : d.Alike d') (sh : Shape) :
    Mirrors (fun _ => ()) (fun _ => ()) (Synthesizer.instantiate d sh)
      (Synthesizer.instantiate d' sh) s s' fun _ _ => True := by
  rw [Synthesizer.instantiate, Synthesizer.instantiate]
  refine Mirrors.withContext (by rw [hd.text]) ?_
  refine Mirrors.construct rfl (fun _ _ => rfl) (fun _ _ => rfl) ?_
  rw [hd.checkArgs]
  exact Agree.refl (fun _ => trivial) _

/-- Whether a shape is resolved depends on the shape and on the platform. -/
lemma Mirrors.resolve_status (hs : s.Valid p C L) (hs' : s'.Valid p C' L') {y y' : Synthesizer}
    (hy : y.services = .ofPlatform p) (hy' : y'.services = .ofPlatform p) (sh : Shape) :
    Mirrors (fun _ => ()) (fun _ => ()) (y.resolve sh) (y'.resolve sh) s s' fun _ _ => True := by
  rw [Synthesizer.resolve, Synthesizer.resolve]
  refine Mirrors.bind (Q := fun o o' => o' = o) ⟨rfl, ?_⟩ ?_
  · rw [run_provided? hy, run_provided? hy']
    exact .ok rfl
  intro o o' s₁ s₁' hrun hrun' _ _
  rw [run_provided? hy] at hrun
  rw [run_provided? hy'] at hrun'
  cases hrun
  cases hrun'
  rcases p.provided? sh with _ | d
  · refine Mirrors.bind (Mirrors.loadOrCreate hs hs' _ _ _) ?_
    rintro ⟨d, loaded⟩ ⟨d', loaded'⟩ s₂ s₂' - - hd -
    exact Mirrors.bind (Mirrors.modify rfl) fun _ _ s₃ s₃' _ _ _ _ => Mirrors.instantiate hd sh
  · refine Mirrors.bind (Mirrors.instantiate (.refl d) sh) fun _ _ s₂ s₂' _ _ _ _ => ?_
    exact Mirrors.bind (Mirrors.modify rfl) fun _ _ s₃ s₃' _ _ _ _ => ⟨rfl, .ok trivial⟩

/-- The callable types of a shape differ at most in the identity of their definition. -/
lemma Resolves.alike {r r' : Nat} {c c' : Instance} (h : Resolves p C r sh s c)
    (h' : Resolves p C' r' sh s' c') (hs : s.Valid p C L) (hs' : s'.Valid p C' L') :
    c.definition.Alike c'.definition ∧ c'.args = c.args := by
  refine ⟨?_, map_some_inj (h'.signature.symm.trans h.signature)⟩
  rcases h.selected with hprov | ⟨hnone, hfind⟩
  · rcases h'.selected with hprov' | ⟨hnone', -⟩
    · rw [Option.some.inj (hprov'.symm.trans hprov)]
      exact .refl _
    · rw [hprov] at hnone'
      cases hnone'
  · rcases h'.selected with hprov' | ⟨-, hfind'⟩
    · rw [hnone] at hprov'
      cases hprov'
    · obtain ⟨n, -, hmade⟩ := hs.synthesizedDefinition hfind
      obtain ⟨n', -, hmade'⟩ := hs'.synthesizedDefinition hfind'
      exact alike_of_synthesizedDefinition hmade hmade'

lemma Instance.text_eq_of_alike {c c' : Instance} (hd : c.definition.Alike c'.definition)
    (hargs : c'.args = c.args) : c'.text = c.text := by
  obtain ⟨id, hid⟩ := hd
  rw [Instance.text, Instance.text, Instance.ty, Instance.ty, Ty.text, Ty.text, hid, hargs]

/-- **Resolution does not depend on the history.**  From any two stores a shape is refused for the
same reason, or its callable types are shown alike. -/
theorem Synthesizer.agree_resolve (hs : s.Valid p C L) (hs' : s'.Valid p C' L')
    {y y' : Synthesizer} (hy : y.services = .ofPlatform p) (hy' : y'.services = .ofPlatform p)
    (hsh : sh.Known (s.census p C) s.types) (hsh' : sh.Known (s'.census p C') s'.types) :
    Agree (fun c c' : Instance => c'.text = c.text) ((y.resolve sh).run s).1
      ((y'.resolve sh).run s').1 := by
  refine (Mirrors.resolve_status hs hs' hy hy' sh).2.mono fun c c' hc hc' _ => ?_
  obtain ⟨hs₁, -, hresolves⟩ := Keeps.resolve hs hy hsh _ _ rfl
  obtain ⟨hs₁', -, hresolves'⟩ := Keeps.resolve hs' hy' hsh' _ _ rfl
  obtain ⟨hd, hargs⟩ := (hresolves c hc).alike (hresolves' c' hc') hs₁ hs₁'
  exact Instance.text_eq_of_alike hd hargs

/-- A callable type can be used as an argument. -/
lemma Resolves.usable {r : Nat} {c : Instance} (h : Resolves p C r sh s c)
    (hs : s.Valid p C L) : c.ty.Usable := by
  have hkind : c.definition.kind = .delegate := by
    rcases h.selected with hprov | ⟨-, hfind⟩
    · rw [Platform.provided?, Platform.family?] at hprov
      split at hprov
      · cases hprov
      · split at hprov
        · cases hprov
        · rw [← Option.some.inj hprov]
          rfl
    · obtain ⟨n, -, hmade⟩ := hs.synthesizedDefinition hfind
      rw [synthesizedDefinition] at hmade
      rcases hm : checkParams sh.key.params with e | m
      · rw [hm] at hmade
        cases hmade
      · rw [hm] at hmade
        rw [← Except.ok.inj hmade]
        rfl
  simp [Ty.Usable, Instance.ty, Ty.kind, hkind]

end Resolve

/-! ## Members of cells -/

section Members

variable {p : Platform} {C : Set Ty} {L : List Cell} {s s' : Store}

/-- Why instances of a definition have no member of a given name, if so. -/
def Definition.lacks? (d : Definition) (name : String) : Option Failure :=
  if name ∈ d.declarations.map Declaration.name then none
  else some (.error (.lacks (.member name d.text)))

/-- Why cells cannot be bound on the platform, if so. -/
def Platform.unbindable? (p : Platform) : Option Failure :=
  match p.genericCell with
  | .error e => some (.error e)
  | .ok d => (d.lacks? CellMember.target.name).or (d.lacks? CellMember.create.name)

/-- An instance has the members that its definition is created with. -/
lemma Instance.member_cases (hs : s.Valid p C L) {i : Instance}
    (hi : i.ty.Known (s.census p C) s.types) {name : String} {o : Except Failure Member}
    (hrun : (i.member name).toStoreM.run s = (o, s')) :
    (∃ e, i.definition.lacks? name = some e ∧ o = .error e ∧ s' = s) ∨
      i.definition.lacks? name = none ∧ ∃ m t, o = .ok m ∧ s' = { s with types := t } := by
  have hdeclared : s.types.declared i.definition = i.definition.declarations := by
    rw [TypeTable.declared, hs.plain, List.append_nil]
  rw [run_toStoreM] at hrun
  rcases hs.types.member_run hi name with ⟨m, t, hm, hsound, hg, hkept⟩ | ⟨hnone, hm⟩
  · rw [hm] at hrun
    cases hrun
    obtain ⟨⟨decl, hmem, hname, -⟩, -⟩ :=
      hsound.kept_specialises (hi.mono (Set.Subset.refl _) hg.filed) hkept
    rw [TypeTable.declared, hg.added, ← TypeTable.declared, hdeclared] at hmem
    refine .inr ⟨?_, m, t, rfl, rfl⟩
    rw [Definition.lacks?, if_pos (List.mem_map.mpr ⟨decl, hmem, hname⟩)]
  · rw [hm] at hrun
    cases hrun
    refine .inl ⟨_, ?_, rfl, rfl⟩
    rw [Definition.lacks?, if_neg]
    intro hmem
    obtain ⟨decl, hdecl, hname⟩ := List.mem_map.mp hmem
    exact hnone decl (hdeclared.symm ▸ hdecl) hname

/-- **What binding an unbound cell comes to.**  Whether it fails depends on the platform alone. -/
theorem Cell.bind_cases (hs : s.Valid p C L) {c : Cell} (hc : c ∈ L) (hopen : s.binding? c = none)
    {callable : Instance} (hknown : callable.ty.Known (s.census p C) s.types)
    (huse : callable.ty.Usable) {o : Except Failure Unit}
    (hrun : (c.bind callable).run s = (o, s')) :
    (∃ e t, p.unbindable? = some e ∧ o = .error e ∧ s' = { s with types := t }) ∨
      p.unbindable? = none ∧ o = .ok () ∧ ∃ t b,
        s' = Store.seal { s with types := t } c.field.id b ∧
          p.genericCell? = some b.type.definition ∧ b.type.args = [callable.ty] := by
  obtain ⟨hproper, -, huntyped⟩ := hs.cells c hc
  rw [Cell.bind, run_bind, run_get] at hrun
  simp only [hopen, hproper.services] at hrun
  have hgeneric : ((Services.ofPlatform p).genericCell).run s =
      (StoreM.ofExcept p.genericCell).run s := rfl
  rw [run_bind, hgeneric] at hrun
  rw [Platform.unbindable?]
  rcases hd : p.genericCell with e | d
  · rw [hd] at hrun
    cases hrun
    exact .inl ⟨_, s.types, rfl, rfl, rfl⟩
  have hd' := Platform.genericCell_eq_ok hd
  obtain ⟨-, -, -, harity, -⟩ := Platform.genericCell?_eq_some hd'
  have hdK : .definition d ∈ s.census p C := Store.mem_census_of_provides (.genericCell hd')
  have hargs : ∀ a ∈ [callable.ty].map some, KnownType (s.census p C) s.types a := by
    simpa using hknown
  -- the construction cannot be refused
  obtain ⟨type, t, hcon⟩ := TypeTable.Interned.construct_succeeds (t := s.types)
    (show [callable.ty].length = d.arity from harity.symm) (by simpa using huse)
  have hcon' : (d.construct ([callable.ty].map some)).toStoreM.run s =
      (.ok type, { s with types := t }) := by
    rw [run_toStoreM, hcon]
  obtain ⟨hs₁, -, htype⟩ := Keeps.construct hs hdK hargs _ _ hcon'
  obtain ⟨rfl, hmap, hknown₁, -⟩ := htype type rfl
  rw [hd] at hrun
  change (StoreM.withContext _
    (type.definition.construct ([callable.ty].map some)).toStoreM >>= _).run s = _ at hrun
  rw [run_bind, run_withContext, hcon'] at hrun
  dsimp only at hrun
  have harg : type.args = [callable.ty] := (map_some_inj hmap).symm
  rcases htarget : (type.member CellMember.target.name).toStoreM.run { s with types := t } with
    ⟨o₂, s₂⟩
  rw [run_bind, htarget] at hrun
  obtain ⟨hs₂, hg₂, -⟩ := Keeps.member hs₁ hknown₁ _ _ _ htarget
  have hknown₂ := hknown₁.mono (hg₂.census (Set.Subset.refl C)) hg₂.types.filed
  obtain ⟨e, he, rfl, rfl⟩ | ⟨hhas, target, t₂, rfl, rfl⟩ :=
    Instance.member_cases hs₁ hknown₁ htarget
  · cases hrun
    exact .inl ⟨e, t, by simp [he], rfl, rfl⟩
  simp only at hrun
  rcases hcreate : (type.member CellMember.create.name).toStoreM.run { s with types := t₂ } with
    ⟨o₃, s₃⟩
  rw [run_bind, hcreate] at hrun
  obtain ⟨e, he, rfl, rfl⟩ | ⟨hhas', create, t₃, rfl, rfl⟩ :=
    Instance.member_cases hs₂ hknown₂ hcreate
  · cases hrun
    exact .inl ⟨e, t₂, by simp [hhas, he], rfl, rfl⟩
  simp only at hrun
  -- the field is as it was, and nothing can fail any more
  have hnone : ({ s with types := t₃ } : Store).finals.find? c.field.id = none := huntyped hopen
  rw [run_seal (b := ⟨type, callable, target, create⟩) hnone] at hrun
  cases hrun
  exact .inr ⟨by simp [hhas, hhas'], rfl, t₃, _, rfl, hd', harg⟩

/-- The members of a bound cell are shown by its type and the type of binders. -/
lemma Binding.Proper.member_text {K : Set Ty} {t : TypeTable} {b : Binding}
    (hb : b.Proper p K t) (h : t.Sound K) (hplain : ∀ d, (t.definition d).added = []) :
    ∃ n, p.binder? = some n ∧
      b.target.text = b.type.text ++ "." ++ CellMember.target.name ∧
      b.create.text = b.type.text ++ "." ++ CellMember.create.name ++ "(" ++ n.text ++ ")" ++
        (" " ++ b.type.text) := by
  obtain ⟨⟨_, -, htarget⟩, -⟩ := hb.specialises h hplain hb.target
  obtain ⟨⟨n, hn, hcreate⟩, -⟩ := hb.specialises h hplain hb.create
  obtain ⟨htype, -⟩ := hb.create_spec h hplain
  obtain ⟨-, -, -, -, hkind, -⟩ := Platform.genericCell?_eq_some hb.generic
  have hvoid : isVoid b.create.type = false := by
    simp [htype, isVoid, Instance.ty, Ty.kind, hkind]
  have hparams : Text.joinWith Member.paramText ", " b.create.params = n.text := by
    obtain ⟨q, qs, hq, hqs, hparams⟩ := List.forall₂_cons_left_iff.mp hcreate.params
    obtain ⟨x, hx, hrep⟩ := hq.type.exists_some
    rw [hparams, List.forall₂_nil_left_iff.mp hqs, Text.joinWith, Member.paramText, hq.byRef, hx,
      hrep.eq_of_named]
    simp [typeText, Ty.text]
  refine ⟨n, hn, ?_, ?_⟩
  · rw [Member.text, htarget.kind, htarget.container, htarget.name]
    rfl
  · rw [Member.text, hcreate.kind, hcreate.container, hcreate.name, hparams, hvoid, htype]
    rfl

end Members

end CallSites
