import CallSites.Proofs.Frame
import CallSites.Proofs.Platform.Types

/-!
# The invariant of a program

The store of a program is changed by operations that share it: a shape that is resolved may add a
definition to a registry and an instance to the type table, a cell that is bound reads both and
writes its field.  Each of them may stop halfway and keeps what it has done.  What holds of the
store after every operation is collected in `Store.Valid`, and what is never taken back in
`Store.Grows`.

The two speak about all objects of the program at once, so `Store.Valid` is relative to what is not
written in the store: the platform, the types that clients have created, and the cells that have
been allocated.  The types that exist are then the census `Store.census`.

An operation is shown to keep the invariant from the front, one building block after the other.
`Keeps x s Q` says that the operation `x`, run from the store `s`, keeps the invariant whatever
comes of it, and that `Q` holds of its result if it succeeds.  This is a case of `Leads`, whose
rules are used.
-/

namespace CallSites

/-! ## What exists -/

namespace Store

/-- The definition is in a registry. -/
def Synthesized (s : Store) (d : Definition) : Prop :=
  ∃ r k, (s.registries.getD r ∅).find? k = some d

/-- The named types, containers and definitions that exist: those of the platform, those that
clients have created, and the definitions in registries. -/
def census (s : Store) (p : Platform) (C : Set Ty) : Set Ty :=
  {x | p.Provides x} ∪ C ∪ {x | ∃ d, x = .definition d ∧ s.Synthesized d}

/-- The field exists.  Nothing is said about fields outside of any container. -/
def Declares (s : Store) : FieldId → Prop
  | .declared c name => (s.fields.getD c ∅).contains name = true
  | .free _ => True

/-- What becomes of a store as time passes: nothing is taken back and nothing is replaced. -/
structure Grows (s s' : Store) : Prop where
  types : s.types.Grows s'.types
  registries : ∀ r k d, (s.registries.getD r ∅).find? k = some d →
    (s'.registries.getD r ∅).find? k = some d
  fields : ∀ id, s.Declares id → s'.Declares id
  finals : ∀ id x, s.finals.find? id = some x → s'.finals.find? id = some x
  bindings : ∀ id b, s.bindings.find? id = some b → s'.bindings.find? id = some b

variable {s s₁ s₂ s₃ : Store} {p : Platform} {C C' : Set Ty}

lemma Grows.refl (s : Store) : s.Grows s :=
  ⟨TypeTable.Grows.refl _, fun _ _ _ h => h, fun _ h => h, fun _ _ h => h, fun _ _ h => h⟩

lemma Grows.trans (h : s₁.Grows s₂) (h' : s₂.Grows s₃) : s₁.Grows s₃ where
  types := h.types.trans h'.types
  registries r k d hd := h'.registries r k d (h.registries r k d hd)
  fields id hid := h'.fields id (h.fields id hid)
  finals id x hx := h'.finals id x (h.finals id x hx)
  bindings id b hb := h'.bindings id b (h.bindings id b hb)

instance : IsPreorder Store Store.Grows where
  refl := Grows.refl
  trans _ _ _ := Grows.trans

lemma mem_census_of_provides {x : Ty} (h : p.Provides x) : x ∈ s.census p C :=
  .inl (.inl h)

lemma mem_census_of_synthesized {d : Definition} (h : s.Synthesized d) :
    .definition d ∈ s.census p C :=
  .inr ⟨d, rfl, h⟩

lemma Grows.census (h : s₁.Grows s₂) (hC : C ⊆ C') : s₁.census p C ⊆ s₂.census p C' := by
  rintro x ((hx | hx) | ⟨d, rfl, r, k, hd⟩)
  · exact .inl (.inl hx)
  · exact .inl (.inr (hC hx))
  · exact .inr ⟨d, rfl, r, k, h.registries r k d hd⟩

end Store

/-! ## The invariant -/

/-- What a cell is bound to is in order: its type is the generic cache cell type over the callable,
and its members are those that this type keeps. -/
structure Binding.Proper (p : Platform) (K : Set Ty) (t : TypeTable) (b : Binding) : Prop where
  generic : p.genericCell? = some b.type.definition
  args : b.type.args = [b.callable.ty]
  known : b.type.ty.Known K t
  target : (t.instanceState b.type).members.find? CellMember.target.name = some b.target
  create : (t.instanceState b.type).members.find? CellMember.create.name = some b.create

lemma Binding.Proper.mono {p : Platform} {K K' : Set Ty} {t t' : TypeTable} {b : Binding}
    (h : b.Proper p K t) (hK : K ⊆ K') (ht : t.Extends t') : b.Proper p K' t' where
  generic := h.generic
  args := h.args
  known := h.known.mono hK ht.filed
  target := ht.members _ _ _ h.target
  create := ht.members _ _ _ h.create

/-- What is fixed when a cell is allocated comes from the platform. -/
structure Cell.Proper (p : Platform) (c : Cell) : Prop where
  services : c.factory.services = .ofPlatform p
  provisional : p.cell = .ok c.provisional
  field : c.field.provisional = some c.provisional
  target : p.cellMember CellMember.target.name = .ok c.target

/-- **The invariant of a program**, for the types that clients have created and the cells that have
been allocated. -/
structure Store.Valid (p : Platform) (C : Set Ty) (L : List Cell) (s : Store) : Prop where
  types : s.types.Sound (s.census p C)
  plain : ∀ d, (s.types.definition d).added = []
  client : ∀ x ∈ C, x.ident.clientSerial? ≠ none
  /-- A definition in a registry is the one for its key and its position. -/
  registry : ∀ r n k d, (s.registries.getD r ∅).entries[n]? = some (k, d) →
    synthesizedDefinition r n k = .ok d
  finals : ∀ id x, s.finals.find? id = some x → s.Declares id
  bindings : ∀ id b, s.bindings.find? id = some b →
    s.finals.find? id = some b.type.ty ∧ b.Proper p (s.census p C) s.types
  cells : ∀ c ∈ L, c.Proper p ∧ s.Declares c.field.id ∧
    (s.bindings.find? c.field.id = none → s.finals.find? c.field.id = none)

namespace Store.Valid

variable {p : Platform} {C : Set Ty} {L : List Cell} {s s' : Store}

/-- Only the type table has changed. -/
lemma with_types (h : s.Valid p C L) {t : TypeTable} (ht : t.Sound (s.census p C))
    (hg : s.types.Grows t) :
    ({ s with types := t } : Store).Valid p C L ∧ s.Grows { s with types := t } := by
  refine ⟨{ h with types := ht, plain := fun d => ?_, bindings := fun id b hb => ?_ },
    { Grows.refl s with types := hg }⟩
  · exact (hg.added d).trans (h.plain d)
  · obtain ⟨hfinal, hproper⟩ := h.bindings id b hb
    exact ⟨hfinal, hproper.mono (Set.Subset.refl _) hg.toExtends⟩

/-- Nothing that the invariant speaks about has changed. -/
lemma frame (h : s.Valid p C L) (htypes : s'.types = s.types)
    (hregistries : s'.registries = s.registries) (hfields : s'.fields = s.fields)
    (hfinals : s'.finals = s.finals) (hbindings : s'.bindings = s.bindings) :
    s'.Valid p C L ∧ s.Grows s' := by
  cases s
  cases s'
  subst htypes hregistries hfields hfinals hbindings
  exact ⟨⟨h.types, h.plain, h.client, h.registry, h.finals, h.bindings, h.cells⟩,
    ⟨TypeTable.Grows.refl _, fun _ _ _ h => h, fun _ h => h, fun _ _ h => h, fun _ _ h => h⟩⟩

end Store.Valid

/-! ## Operations that keep it -/

/-- The operation keeps the invariant, whatever comes of it, and if it succeeds its result and the
store are as stated. -/
def Keeps (p : Platform) (C : Set Ty) (L : List Cell) {α : Type} (x : StoreM α) (s : Store)
    (Q : α → Store → Prop) : Prop :=
  Leads (Store.Valid p C L) Store.Grows x s Q

namespace Keeps

variable {p : Platform} {C : Set Ty} {L : List Cell} {α : Type} {s s' : Store}
variable {x : StoreM α} {Q : α → Store → Prop}

/-- A change of the store, followed by the rest of the operation. -/
lemma change (h : s'.Valid p C L ∧ s.Grows s') {Q : PUnit → Store → Prop} (hq : Q ⟨⟩ s') :
    Keeps p C L (set s') s Q :=
  Leads.set h.1 h.2 hq

/-- A change outside of what the invariant speaks about. -/
lemma frame (h : s.Valid p C L) (htypes : s'.types = s.types)
    (hregistries : s'.registries = s.registries) (hfields : s'.fields = s.fields)
    (hfinals : s'.finals = s.finals) (hbindings : s'.bindings = s.bindings) :
    Keeps p C L (set s') s fun _ _ => True :=
  change (h.frame htypes hregistries hfields hfinals hbindings) trivial

/-- An operation on types. -/
lemma toStoreM (h : s.Valid p C L) {x : TypeM α}
    (hx : ∀ o t, x.run s.types = (o, t) → t.Sound (s.census p C) ∧ s.types.Grows t)
    (hq : ∀ a t, x.run s.types = (.ok a, t) → Q a { s with types := t }) :
    Keeps p C L x.toStoreM s Q := by
  intro o s' hrun
  rcases hr : x.run s.types with ⟨o', t⟩
  rw [run_toStoreM, hr] at hrun
  cases hrun
  obtain ⟨hsound, hg⟩ := hx o' t hr
  obtain ⟨h', hg'⟩ := h.with_types hsound hg
  refine ⟨h', hg', fun a ha => ?_⟩
  obtain rfl : o' = .ok a := ha
  exact hq a t hr

lemma construct (h : s.Valid p C L) {d : Definition} (hd : .definition d ∈ s.census p C)
    {args : List (Option Ty)} (hargs : ∀ a ∈ args, KnownType (s.census p C) s.types a) :
    Keeps p C L (d.construct args).toStoreM s fun i s' =>
      i.definition = d ∧ args = i.args.map some ∧ i.ty.Known (s'.census p C) s'.types ∧
        s'.bindings = s.bindings := by
  refine toStoreM h (fun o t hrun => h.types.construct hd hargs hrun) fun i t hrun => ?_
  obtain ⟨-, -, hdef, hknown, hmap⟩ := h.types.interned.construct_ok hd hargs hrun
  exact ⟨hdef, hmap, hknown, rfl⟩

lemma member (h : s.Valid p C L) {i : Instance} (hi : i.ty.Known (s.census p C) s.types)
    (name : String) :
    Keeps p C L (i.member name).toStoreM s fun m s' =>
      (s'.types.instanceState i).members.find? name = some m ∧ s'.bindings = s.bindings :=
  toStoreM h (fun _ _ hrun => h.types.member hi hrun) fun _ _ hrun =>
    ⟨h.types.member_ok hi hrun, rfl⟩

end Keeps

end CallSites
