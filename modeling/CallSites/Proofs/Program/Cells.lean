import CallSites.Proofs.Program.Resolution

/-!
# Cells, fields and sites

A cell is allocated in one operation and bound in another, and in between anything may happen to the
program.  Allocation puts the cell in a field that has just been declared, so the field has no final
type yet (`Keeps.allocate`).  Binding goes through four steps that can each fail before it writes
anything; then it writes the final type and the binding together (`Store.Valid.seal`), so that a
cell is bound just when its field is final (`Keeps.bindCell`).

Sites are built from these, and whatever else they write is outside of the invariant.
-/

namespace CallSites

variable {p : Platform} {C : Set Ty} {L : List Cell} {s : Store}

/-! ## What the platform answers -/

lemma Keeps.cell (h : s.Valid p C L) {v : Services} (hv : v = .ofPlatform p) :
    Keeps p C L v.cell s fun x s' => s' = s ∧ p.cell = .ok x := by
  subst hv
  exact Leads.ofExcept h fun x hx => ⟨rfl, hx⟩

lemma Keeps.cellMember (h : s.Valid p C L) {v : Services} (hv : v = .ofPlatform p)
    (name : String) :
    Keeps p C L (v.cellMember name) s fun m s' => s' = s ∧ p.cellMember name = .ok m := by
  subst hv
  exact Leads.ofExcept h fun x hx => ⟨rfl, hx⟩

lemma Platform.genericCell_eq_ok {d : Definition} (h : p.genericCell = .ok d) :
    p.genericCell? = some d := by
  rw [genericCell] at h
  split at h
  · cases h
  · next hd =>
      cases h
      exact hd

lemma Keeps.genericCell (h : s.Valid p C L) {v : Services} (hv : v = .ofPlatform p) :
    Keeps p C L v.genericCell s fun d s' => s' = s ∧ p.genericCell? = some d := by
  subst hv
  exact Leads.ofExcept h fun d hd => ⟨rfl, Platform.genericCell_eq_ok hd⟩

lemma Platform.cell_eq_ok {x : Ty} (h : p.cell = .ok x) : ∃ n, p.cell? = some n ∧ x = .named n := by
  rw [cell] at h
  split at h
  · cases h
  · next n hn =>
      cases h
      exact ⟨n, hn, rfl⟩

/-! ## Fields -/

/-- The store with one more field in a container. -/
def Store.declare (s : Store) (c : Container) (name : String) (f : Field) : Store :=
  { s with fields := s.fields.insert c.serial ((s.containerFields c).insert name f) }

lemma Store.declares_declare (s : Store) (c : Container) (name : String) (f : Field)
    (id : FieldId) :
    (s.declare c name f).Declares id ↔ id = .declared c.serial name ∨ s.Declares id := by
  cases id with
  | free n => simp [Declares]
  | declared k n =>
      rw [Declares, Store.declare, OrderedMap.getD_insert, FieldId.declared.injEq, Declares]
      by_cases hk : c.serial = k
      · subst hk
        rw [if_pos rfl, OrderedMap.contains, OrderedMap.find?_insert, containerFields]
        by_cases hn : name = n
        · simp [hn]
        · simp [hn, Ne.symm hn, OrderedMap.contains]
      · simp [hk, Ne.symm hk]

lemma Store.Valid.declare (h : s.Valid p C L) (c : Container) (name : String) (f : Field) :
    (s.declare c name f).Valid p C L ∧ s.Grows (s.declare c name f) := by
  have hmono : ∀ id, s.Declares id → (s.declare c name f).Declares id := fun id hid =>
    (s.declares_declare c name f id).mpr (.inr hid)
  refine ⟨{ h with finals := ?_, cells := ?_ }, { Grows.refl s with fields := hmono }⟩
  · exact fun id x hx => hmono id (h.finals id x hx)
  · intro c' hc'
    obtain ⟨hproper, hdecl, hopen⟩ := h.cells c' hc'
    exact ⟨hproper, hmono _ hdecl, hopen⟩

/-- A field that has just been declared has no final type. -/
lemma Keeps.declare (h : s.Valid p C L) (c : Container) (name : String) (type : Option Ty)
    (access : Access) (static : Bool) :
    Keeps p C L (c.declare name type access static) s fun f s' =>
      f = c.fieldOf name type access static ∧ s'.Declares f.id ∧ s'.finals.find? f.id = none := by
  rw [Container.declare]
  refine Leads.get_bind ?_
  by_cases hname : (s.containerFields c).contains name = true
  · simp only [hname, if_true]
    exact Leads.throw h _
  · simp only [hname, if_false, Bool.false_eq_true]
    refine Leads.bind (Keeps.change (Q := fun _ s₁ =>
      s₁ = s.declare c name (c.fieldOf name type access static)) (h.declare c name _) rfl) ?_
    rintro - s₁ h₁ - rfl
    refine Leads.pure h₁ ⟨rfl, (s.declares_declare c name _ _).mpr (.inl rfl), ?_⟩
    -- a final type would be that of a field declared before, and this name was free
    rcases hf : s.finals.find? (.declared c.serial name) with _ | x
    · exact hf
    · exact absurd (h.finals _ x hf) hname

lemma Store.isFinal_eq_false_iff {f : Field} :
    s.isFinal f = false ↔ s.finals.find? f.id = none := by
  rw [isFinal, OrderedMap.contains, Option.isSome_eq_false_iff, Option.isNone_iff_eq_none]

/-- The store with a final type for a field. -/
def Store.setFinal (s : Store) (id : FieldId) (x : Ty) : Store :=
  { s with finals := s.finals.insert id x }

lemma Store.Valid.setFinal (h : s.Valid p C L) {id : FieldId} (hdecl : s.Declares id)
    (hnone : s.finals.find? id = none)
    (hcells : ∀ c ∈ L, c.field.id = id → s.bindings.find? id ≠ none) (x : Ty) :
    (s.setFinal id x).Valid p C L ∧ s.Grows (s.setFinal id x) := by
  refine ⟨{ h with finals := ?_, bindings := ?_, cells := ?_ },
    { Grows.refl s with
      finals := fun id' y hy => OrderedMap.find?_insert_of_find?_eq_some hnone hy }⟩
  · intro id' y hy
    rw [Store.setFinal, OrderedMap.find?_insert] at hy
    split at hy
    · next hid => exact hid ▸ hdecl
    · exact h.finals id' y hy
  · intro id' b hb
    obtain ⟨hfinal, hproper⟩ := h.bindings id' b hb
    exact ⟨OrderedMap.find?_insert_of_find?_eq_some hnone hfinal, hproper⟩
  · intro c hc
    obtain ⟨hproper, hdeclared, hopen⟩ := h.cells c hc
    refine ⟨hproper, hdeclared, fun hunbound => ?_⟩
    have hne : id ≠ c.field.id := fun hid => hcells c hc hid.symm (hid ▸ hunbound)
    rw [Store.setFinal, OrderedMap.find?_insert_of_ne _ _ hne]
    exact hopen hunbound

/-- Only a field that is in no unbound cell may be given its final type from outside. -/
lemma Keeps.setType (h : s.Valid p C L) {f : Field} (hdecl : s.Declares f.id)
    (hcells : ∀ c ∈ L, c.field.id = f.id → s.bindings.find? f.id ≠ none) (type : Option Ty) :
    Keeps p C L (f.setType type) s fun _ _ => True := by
  rw [Field.setType]
  refine Leads.get_bind ?_
  rcases hfinal : s.isFinal f with _ | _
  · simp only [if_false, Bool.false_eq_true]
    cases type with
    | none => exact Leads.throw h _
    | some x =>
        have hnone := Store.isFinal_eq_false_iff.mp hfinal
        exact Keeps.change (h.setFinal hdecl hnone hcells x) trivial
  · simp only [if_true]
    exact Leads.throw h _

/-! ## Allocation -/

/-- The cell may be added to the cells that have been allocated. -/
structure Cell.Fresh (p : Platform) (s : Store) (c : Cell) : Prop where
  proper : c.Proper p
  declared : s.Declares c.field.id
  untyped : s.finals.find? c.field.id = none

lemma Store.Valid.add_cell (h : s.Valid p C L) {c : Cell} (hc : c.Fresh p s) :
    s.Valid p C (c :: L) := by
  refine { h with cells := fun c' hc' => ?_ }
  rcases List.mem_cons.mp hc' with rfl | hold
  · exact ⟨hc.proper, hc.declared, fun _ => hc.untyped⟩
  · exact h.cells c' hold

lemma Keeps.nextName (h : s.Valid p C L) (f : CellFactory) (hint : String) :
    Keeps p C L (f.nextName hint) s fun _ _ => True := by
  rw [CellFactory.nextName]
  refine Leads.get_bind ?_
  refine Leads.bind (Keeps.frame h rfl rfl rfl rfl rfl) fun _ s₁ h₁ _ _ => ?_
  exact Leads.pure h₁ trivial

/-- **Allocating a cell.**  The new cell is in a field without a final type. -/
theorem Keeps.allocate (h : s.Valid p C L) {f : CellFactory} (hf : f.services = .ofPlatform p)
    (hint : String) : Keeps p C L (f.allocate hint) s fun c s' => c.Fresh p s' := by
  rw [CellFactory.allocate]
  refine Leads.bind (Keeps.cell h hf) ?_
  rintro base s₁ - - ⟨rfl, hbase⟩
  refine Leads.bind (Keeps.cellMember h hf _) ?_
  rintro target s₁ - - ⟨rfl, htarget⟩
  refine Leads.bind (Keeps.nextName h f hint) fun name s₂ h₂ _ _ => ?_
  refine Leads.bind (Leads.withContext _ (Keeps.declare h₂ _ _ _ _ _)) ?_
  rintro field s₃ h₃ - ⟨rfl, hdecl, hnone⟩
  exact Leads.pure h₃ ⟨⟨hf, hbase, rfl, htarget⟩, hdecl, hnone⟩

/-! ## Binding -/

/-- The store in which a field has its final type and the cell in it is bound. -/
def Store.seal (s : Store) (id : FieldId) (b : Binding) : Store :=
  { s with
    finals := s.finals.insert id b.type
    bindings := s.bindings.insert id b }

/-- An unbound cell may be bound: its field gets the type of the binding along with it. -/
lemma Store.Valid.seal (h : s.Valid p C L) {c : Cell} (hc : c ∈ L) (hopen : s.binding? c = none)
    {b : Binding} (hb : b.Proper p (s.census p C) s.types) :
    (s.seal c.field.id b).Valid p C L ∧ s.Grows (s.seal c.field.id b) := by
  obtain ⟨-, hdecl, huntyped⟩ := h.cells c hc
  have hnone : s.finals.find? c.field.id = none := huntyped hopen
  refine ⟨{ h with finals := ?_, bindings := ?_, cells := ?_ },
    { Grows.refl s with
      finals := fun id x hx => OrderedMap.find?_insert_of_find?_eq_some hnone hx
      bindings := fun id x hx => OrderedMap.find?_insert_of_find?_eq_some hopen hx }⟩
  · intro id x hx
    rw [Store.seal, OrderedMap.find?_insert] at hx
    split at hx
    · next hid => exact hid ▸ hdecl
    · exact h.finals id x hx
  · intro id b' hb'
    rw [Store.seal, OrderedMap.find?_insert] at hb'
    split at hb'
    · next hid =>
        cases hb'
        subst hid
        exact ⟨OrderedMap.find?_insert_self _ _ _, hb⟩
    · obtain ⟨hfinal, hproper⟩ := h.bindings id b' hb'
      exact ⟨OrderedMap.find?_insert_of_find?_eq_some hnone hfinal, hproper⟩
  · intro c' hc'
    obtain ⟨hproper, hdeclared, huntyped'⟩ := h.cells c' hc'
    refine ⟨hproper, hdeclared, fun hunbound => ?_⟩
    rw [Store.seal, OrderedMap.find?_insert] at hunbound ⊢
    split at hunbound
    · cases hunbound
    · next hid =>
        rw [if_neg hid]
        exact huntyped' hunbound

/-- The last two steps of binding are one change of the store. -/
lemma run_seal {f : Field} {b : Binding} (hnone : s.finals.find? f.id = none) :
    (do
      f.setType (some b.type)
      modify fun s => { s with bindings := s.bindings.insert f.id b } : StoreM Unit).run s =
      (.ok (), s.seal f.id b) := by
  have hset : (f.setType (some b.type)).run s =
      (.ok (), { s with finals := s.finals.insert f.id b.type }) := by
    rw [Field.setType, run_bind, run_get]
    simp only [Store.isFinal_eq_false_iff.mpr hnone, if_false, Bool.false_eq_true]
    rfl
  rw [run_bind, hset]
  rfl

/-- **Binding a cell.**  Until the last step nothing but the type table changes. -/
theorem Keeps.bindCell (h : s.Valid p C L) {c : Cell} (hc : c ∈ L) {callable : Instance}
    (hcallable : callable.ty.Known (s.census p C) s.types) :
    Keeps p C L (c.bind callable) s fun _ _ => True := by
  obtain ⟨hproper, -, -⟩ := h.cells c hc
  rw [Cell.bind]
  refine Leads.get_bind ?_
  rcases hopen : s.binding? c with _ | b
  · simp only
    refine Leads.bind (Keeps.genericCell h hproper.services) ?_
    rintro d s₁ - - ⟨rfl, hd⟩
    have hdK : .definition d ∈ s₁.census p C := Store.mem_census_of_provides (.genericCell hd)
    have hargs : ∀ a ∈ [some callable.ty], KnownType (s₁.census p C) s₁.types a := by
      intro a ha
      rw [List.mem_singleton.mp ha]
      exact knownType_some.mpr hcallable
    refine Leads.bind (Leads.withContext _ (Keeps.construct h hdK hargs)) ?_
    rintro type s₂ h₂ - ⟨rfl, hmap, hknown₂, hsame₂⟩
    refine Leads.bind (Keeps.member h₂ hknown₂ _) ?_
    rintro target s₃ h₃ hg₃ ⟨htarget, hsame₃⟩
    have hknown₃ := hknown₂.mono (hg₃.census (Set.Subset.refl C)) hg₃.types.filed
    refine Leads.bind (Keeps.member h₃ hknown₃ _) ?_
    rintro create s₄ h₄ hg₄ ⟨hcreate, hsame₄⟩
    have hknown₄ := hknown₃.mono (hg₄.census (Set.Subset.refl C)) hg₄.types.filed
    -- so far only types have been touched, so the cell is still unbound and its field still open
    have hopen₄ : s₄.binding? c = none := by
      rw [Store.binding?, hsame₄, hsame₃, hsame₂]
      exact hopen
    have harg : type.args = [callable.ty] :=
      (map_some_inj (show [callable.ty].map some = type.args.map some from hmap)).symm
    have hsealed := h₄.seal hc hopen₄ (b := ⟨type, callable, target, create⟩)
      ⟨hd, harg, hknown₄, hg₄.types.members _ _ _ htarget, hcreate⟩
    intro o s₅ hrun
    rw [run_seal (b := ⟨type, callable, target, create⟩) ((h₄.cells c hc).2.2 hopen₄)] at hrun
    cases hrun
    exact ⟨hsealed.1, hsealed.2, fun _ _ => trivial⟩
  · exact Leads.throw h _

lemma Keeps.bindWith (h : s.Valid p C L) (f : CellFactory) {c : Cell} (hc : c ∈ L)
    {callable : Instance} (hcallable : callable.ty.Known (s.census p C) s.types) :
    Keeps p C L (f.bind c callable) s fun _ _ => True := by
  rw [CellFactory.bind]
  split
  · exact Keeps.bindCell h hc hcallable
  · exact Leads.throw h _

/-! ## Operations -/

/-- The types of the operands exist. -/
structure Operands.Known (K : Set Ty) (t : TypeTable) (ops : Operands) : Prop where
  receiver : KnownType K t ops.receiver
  args : ∀ a ∈ ops.args, KnownType K t a
  right : KnownType K t ops.right
  result : KnownType K t ops.result

section Operands

variable {K : Set Ty} {t : TypeTable}

lemma Operands.known_zipArgs : ∀ {as : List (Option Ty)} {bs : List Bool},
    (∀ a ∈ as, KnownType K t a) → ∀ q ∈ Operands.zipArgs as bs, KnownType K t q.type
  | [], _, _ => by simp [Operands.zipArgs]
  | a :: as, [], h => by
      intro q hq
      rcases List.mem_cons.mp hq with rfl | hq
      · exact h a (by simp)
      · exact Operands.known_zipArgs (fun a' ha' => h a' (by simp [ha'])) q hq
  | a :: as, b :: bs, h => by
      intro q hq
      rcases List.mem_cons.mp hq with rfl | hq
      · exact h a (by simp)
      · exact Operands.known_zipArgs (fun a' ha' => h a' (by simp [ha'])) q hq

lemma Operands.Known.flat {ops : Operands} (h : ops.Known K t) :
    ∀ q ∈ ops.flat, KnownType K t q.type := by
  intro q hq
  rw [Operands.flat, List.mem_append, List.mem_append] at hq
  rcases hq with (hrecv | harg) | hright
  · obtain ⟨x, hx, rfl⟩ := List.mem_map.mp hrecv
    exact fun y hy => h.receiver y ((Option.mem_toList.mp hx).trans hy)
  · exact Operands.known_zipArgs h.args q harg
  · obtain ⟨x, hx, rfl⟩ := List.mem_map.mp hright
    exact fun y hy => h.right y ((Option.mem_toList.mp hx).trans hy)

/-- The shape of an operation over existing types is over existing types. -/
lemma Shape.known_of_derive {ops : Operands} (h : ops.Known K t) {cell : Option Ty}
    (hcell : KnownType K t cell) {sh : Shape} (hsh : Shape.derive cell ops = .ok sh) :
    sh.Known K t := by
  rw [Shape.derive] at hsh
  split at hsh
  · cases hsh
    refine ⟨fun q hq => ?_, ?_⟩
    · rcases List.mem_cons.mp hq with rfl | hq
      · exact hcell
      · exact h.flat q hq
    · show KnownType K t (if CallSites.isVoid ops.result then none else ops.result)
      split
      · exact knownType_none
      · exact h.result
  · cases hsh

end Operands

lemma Keeps.derive (h : s.Valid p C L) {f : SiteFactory} (hf : f.services = .ofPlatform p)
    {ops : Operands} (hops : ops.Known (s.census p C) s.types) :
    Keeps p C L (f.derive ops) s fun sh s' => s' = s ∧ sh.Known (s.census p C) s.types := by
  rw [SiteFactory.derive]
  refine Leads.bind (Keeps.cell h hf) ?_
  rintro cell s₁ - - ⟨rfl, hcell⟩
  obtain ⟨n, hn, rfl⟩ := Platform.cell_eq_ok hcell
  have hknown : KnownType (s₁.census p C) s₁.types (some (.named n)) :=
    knownType_some.mpr (Store.mem_census_of_provides (.cell hn))
  exact Leads.ofResult h fun sh hsh => ⟨rfl, Shape.known_of_derive hops hknown hsh⟩

/-- A shape that is derived from operands is over the types of the operands. -/
lemma Store.Valid.known_of_derive (h : s.Valid p C L) {f : SiteFactory}
    (hf : f.services = .ofPlatform p) {ops : Operands} (hops : ops.Known (s.census p C) s.types)
    {sh : Shape} (hsh : ((f.derive ops).run s).1 = .ok sh) : sh.Known (s.census p C) s.types := by
  obtain ⟨-, -, hanswer⟩ := Keeps.derive h hf hops _ _ rfl
  exact (hanswer sh hsh).2

/-! ## Sites -/

lemma Keeps.callableType (h : s.Valid p C L) {f : SiteFactory} (hf : f.services = .ofPlatform p)
    {ops : Operands} (hops : ops.Known (s.census p C) s.types) :
    Keeps p C L (f.callableType ops) s fun _ _ => True := by
  rw [SiteFactory.callableType]
  refine Leads.bind (Keeps.derive h hf hops) ?_
  rintro sh s₁ h₁ - ⟨rfl, hsh⟩
  exact (Keeps.resolve (y := f.synthesizer) h₁ hf hsh).imp fun _ _ _ _ _ => trivial

lemma Keeps.beginSite (h : s.Valid p C L) {f : SiteFactory} (hf : f.services = .ofPlatform p)
    (hint : String) : Keeps p C L (f.beginSite hint) s fun b s' => b.cell.Fresh p s' := by
  rw [SiteFactory.beginSite]
  refine Leads.bind (Keeps.allocate (f := f.cells) h hf hint) fun c s₁ h₁ _ hc => ?_
  exact Leads.pure h₁ hc

section Builder

variable {b : SiteBuilder} {sh : Shape}

lemma Keeps.bindShape (h : s.Valid p C L) (hb : b.factory.services = .ofPlatform p)
    (hcell : b.cell ∈ L) (hsh : sh.Known (s.census p C) s.types) :
    Keeps p C L (b.bindShape sh) s fun a s' =>
      Resolves p C b.factory.registry.serial sh s' a.1 :=
  Leads.bindShape (Keeps.resolve (y := b.factory.synthesizer) h hb hsh)
    (fun _ _ h₁ _ hc => Keeps.bindCell h₁ hcell hc.known)
    fun _ _ _ hg hc => hc.mono hg (Set.Subset.refl C)

/-- **Resolving a site.**  The callable of the site is the callable type of the shape.  Marking the
builder and listing the site are outside of the invariant. -/
theorem Keeps.resolveSite (h : s.Valid p C L) (hb : b.factory.services = .ofPlatform p)
    (hcell : b.cell ∈ L) (hsh : sh.Known (s.census p C) s.types) :
    Keeps p C L (b.resolve sh) s fun x s' =>
      Resolves p C b.factory.registry.serial sh s' x.callable := by
  refine Leads.resolveSite (Q := fun c s' => Resolves p C b.factory.registry.serial sh s' c) h
    (fun s₁ h₁ => h₁.frame rfl rfl rfl rfl rfl) (fun s₁ h₁ hg₁ => ?_)
    (fun s₁ l h₁ => h₁.frame rfl rfl rfl rfl rfl)
    fun c s₁ s₂ hg hc => hc.mono hg (Set.Subset.refl C)
  exact Keeps.bindShape h₁ hb hcell (hsh.mono (hg₁.census (Set.Subset.refl C)) hg₁.types.filed)

lemma Keeps.resolveOperands (h : s.Valid p C L) (hb : b.factory.services = .ofPlatform p)
    (hcell : b.cell ∈ L) {ops : Operands} (hops : ops.Known (s.census p C) s.types) :
    Keeps p C L (b.resolveOperands ops) s fun _ _ => True := by
  rw [SiteBuilder.resolveOperands]
  refine Leads.bind (Keeps.derive h hb hops) ?_
  rintro sh s₁ h₁ - ⟨rfl, hsh⟩
  exact (Keeps.resolveSite h₁ hb hcell hsh).imp fun _ _ _ _ _ => trivial

end Builder

lemma Keeps.emit (h : s.Valid p C L) (c : Container) (i : Instr) :
    Keeps p C L (c.emit i) s fun _ _ => True :=
  Keeps.frame h rfl rfl rfl rfl rfl

/-- The static initializer is outside of the invariant. -/
lemma Keeps.bootstrap (h : s.Valid p C L) (x : Site) (binder : Option Ty) :
    Keeps p C L (x.bootstrap binder) s fun _ _ => True := by
  unfold Site.bootstrap
  refine Leads.get_bind ?_
  split
  · exact Leads.throw h _
  · cases binder with
    | none => exact Leads.throw h _
    | some t =>
        simp only [Site.bootstrapCode]
        refine Leads.bind (Q := fun _ _ => True) ?_ fun _ s₁ h₁ _ _ =>
          Keeps.frame h₁ rfl rfl rfl rfl rfl
        refine Leads.bind (Keeps.emit h _ _) fun _ s₁ h₁ _ _ => ?_
        refine Leads.bind (Keeps.emit h₁ _ _) fun _ s₂ h₂ _ _ => ?_
        refine Leads.bind (Keeps.emit h₂ _ _) fun _ s₃ h₃ _ _ => ?_
        exact Leads.pure h₃ trivial

end CallSites
