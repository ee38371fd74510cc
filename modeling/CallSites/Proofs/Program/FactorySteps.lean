import CallSites.Proofs.Program.SideBySide

/-!
# Steps of a factory

Whatever is asked of a factory, of its builders or of its sites, the same can be said of the store
afterwards: the invariant holds, nothing has been taken back, the calls to resolve shapes that were
made are in the ledger, and what is out of the factory's reach is as it was.  `SiteFactory.Steps`
collects this, so that what follows from it need not be shown for each operation again.

The calls of a factory are all made by its own synthesizer on its own registry.  What is left of a
call without these is a `Note`.  Twins whose pages and sheets are the same make the same notes.
-/

namespace CallSites

/-! ## Notes -/

/-- A call to resolve a shape, without who has made it. -/
structure Note where
  shape : Shape
  /-- The call has returned a callable type. -/
  succeeded : Bool

/-- The call without who has made it. -/
def Call.note (c : Call) : Note := ⟨c.shape, c.succeeded⟩

/-- The call of a factory. -/
def SiteFactory.enter (f : SiteFactory) (n : Note) : Call :=
  ⟨f.serial, f.registry.serial, n.shape, n.succeeded⟩

/-- What is noted of a call. -/
def Resolution.note (a : Resolution) : Note := a.call.note

section Notes

variable {f : SiteFactory} {b : SiteBuilder} {s : Store}

lemma SiteFactory.map_enter_notes (ops : Operands) :
    ((f.resolutions ops s).map Resolution.note).map f.enter =
      (f.resolutions ops s).map Resolution.call := by
  rw [SiteFactory.resolutions]
  split <;> rfl

lemma SiteBuilder.map_enter_notes (sh : Shape) :
    ((b.resolutions sh s).map Resolution.note).map b.factory.enter =
      (b.resolutions sh s).map Resolution.call := by
  rw [SiteBuilder.resolutions]
  split <;> rfl

lemma SiteBuilder.map_enter_operandNotes (ops : Operands) :
    ((b.operandResolutions ops s).map Resolution.note).map b.factory.enter =
      (b.operandResolutions ops s).map Resolution.call := by
  rw [SiteBuilder.operandResolutions]
  split
  · exact b.map_enter_notes _
  · rfl

variable {p : Platform} {f' : SiteFactory} {C C' : Set Ty} {L L' : List Cell} {s' : Store}
variable {sh : Shape} {ops : Operands}

/-- Sound calls for one shape come to the same. -/
lemma Resolution.Sound.note_eq {a a' : Resolution} (ha : a.Sound p C L) (ha' : a'.Sound p C' L')
    (hshape : a'.shape = a.shape) : a'.note = a.note := by
  have hstatus := (Synthesizer.agree_resolve ha.valid ha'.valid ha.services ha'.services ha.known
    (hshape ▸ ha'.known)).toBool_eq
  rw [note, note, call, call, Call.note, Call.note, hshape, succeeds, succeeds, run, run, hshape,
    hstatus]

/-- The shape of an operation over existing types is over existing types. -/
lemma Operands.Known.shape (hops : ops.Known (s.census p C) s.types) (h : p.derive ops = .ok sh) :
    sh.Known (s.census p C) s.types := by
  rw [Platform.derive] at h
  split at h
  · cases h
  · next cell hcell =>
      obtain ⟨n, hn, rfl⟩ := Platform.cell_eq_ok hcell
      have hknown : KnownType (s.census p C) s.types (some (.named n)) :=
        knownType_some.mpr (Store.mem_census_of_provides (.cell hn))
      exact Shape.known_of_derive hops hknown h

lemma SiteFactory.Twins.notes_eq (hf : f.Twins p f') (hs : s.Valid p C L) (hs' : s'.Valid p C' L')
    (hops : ops.Known (s.census p C) s.types) (hops' : ops.Known (s'.census p C') s'.types) :
    (f'.resolutions ops s').map Resolution.note = (f.resolutions ops s).map Resolution.note := by
  rw [SiteFactory.resolutions, SiteFactory.resolutions, run_derive hf.left, run_derive hf.right]
  rcases hsh : p.derive ops with e | sh
  · rfl
  · have ha : (⟨f.synthesizer, sh, s⟩ : Resolution).Sound p C L :=
      ⟨hs, hf.left, hops.shape hsh⟩
    have ha' : (⟨f'.synthesizer, sh, s'⟩ : Resolution).Sound p C' L' :=
      ⟨hs', hf.right, hops'.shape hsh⟩
    exact congrArg ([·]) (ha.note_eq ha' rfl)

lemma SiteBuilder.Twins.notes_eq {b' : SiteBuilder} (hb : b.Twins f f' b') (hf : f.Twins p f')
    (h : s.leaf f = s'.leaf f') (hs : s.Valid p C L) (hs' : s'.Valid p C' L')
    (hsh : sh.Known (s.census p C) s.types) (hsh' : sh.Known (s'.census p C') s'.types) :
    (b'.resolutions sh s').map Resolution.note = (b.resolutions sh s).map Resolution.note := by
  have hdone := hb.isResolved_eq h
  obtain ⟨name, base, target, rfl, rfl⟩ := hb
  rw [SiteBuilder.resolutions, SiteBuilder.resolutions, hdone]
  split
  · rfl
  · have ha : (⟨f.synthesizer, sh, s.mark (f.cellOf name base target).field.id⟩ :
        Resolution).Sound p C L := ⟨(hs.mark _).1, hf.left, hsh⟩
    have ha' : (⟨f'.synthesizer, sh, s'.mark (f'.cellOf name base target).field.id⟩ :
        Resolution).Sound p C' L' := ⟨(hs'.mark _).1, hf.right, hsh'⟩
    exact congrArg ([·]) (ha.note_eq ha' rfl)

lemma SiteBuilder.Twins.operandNotes_eq {b' : SiteBuilder} (hb : b.Twins f f' b')
    (hf : f.Twins p f') (h : s.leaf f = s'.leaf f') (hs : s.Valid p C L) (hs' : s'.Valid p C' L')
    (hops : ops.Known (s.census p C) s.types) (hops' : ops.Known (s'.census p C') s'.types) :
    (b'.operandResolutions ops s').map Resolution.note =
      (b.operandResolutions ops s).map Resolution.note := by
  have hnotes : ∀ sh, p.derive ops = .ok sh →
      (b'.resolutions sh s').map Resolution.note = (b.resolutions sh s).map Resolution.note :=
    fun sh hsh => hb.notes_eq hf h hs hs' (hops.shape hsh) (hops'.shape hsh)
  obtain ⟨name, base, target, rfl, rfl⟩ := hb
  rw [SiteBuilder.operandResolutions, SiteBuilder.operandResolutions, run_derive hf.left,
    run_derive hf.right]
  rcases hsh : p.derive ops with e | sh
  · rfl
  · exact hnotes sh hsh

end Notes

/-! ## Steps -/

/-- What can be said of the store after an operation of a factory, given what was allocated and
entered before. -/
structure SiteFactory.Steps (p : Platform) (f : SiteFactory) (C : Set Ty) (L L' : List Cell)
    (log : List Call) (notes : List Note) (s s' : Store) : Prop where
  valid : s'.Valid p C L'
  grows : s.Grows s'
  cells : L ⊆ L'
  ledger : Ledger p (log ++ notes.map f.enter) s'
  apart : ∀ {γ : Type} {π : Store → γ}, f.Apart π → π s' = π s

namespace SiteFactory.Steps

variable {p : Platform} {f : SiteFactory} {C : Set Ty} {L L' L'' : List Cell} {log : List Call}
variable {notes notes' : List Note} {s s' s'' : Store}

lemma refl (hs : s.Valid p C L) (hl : Ledger p log s) : f.Steps p C L L log [] s s where
  valid := hs
  grows := .refl s
  cells := List.Subset.refl L
  ledger := by simpa using hl
  apart _ := rfl

lemma trans (h : f.Steps p C L L' log notes s s')
    (h' : f.Steps p C L' L'' (log ++ notes.map f.enter) notes' s' s'') :
    f.Steps p C L L'' log (notes ++ notes') s s'' where
  valid := h'.valid
  grows := h.grows.trans h'.grows
  cells := List.Subset.trans h.cells h'.cells
  ledger := by
    rw [List.map_append, ← List.append_assoc]
    exact h'.ledger
  apart hπ := (h'.apart hπ).trans (h.apart hπ)

lemma beginSite (hs : s.Valid p C L) (hl : Ledger p log s) (hf : f.services = .ofPlatform p)
    {hint : String} {o : Except Failure SiteBuilder}
    (hrun : (f.beginSite hint).run s = (o, s')) :
    ∃ L', f.Steps p C L L' log [] s s' ∧
      ∀ b, o = .ok b → b.cell ∈ L' ∧ SiteBuilder.Twins f f b b := by
  obtain ⟨hs', hg, hfresh⟩ := Keeps.beginSite hs hf hint _ _ hrun
  have hledger : Ledger p log s' := by
    refine hl.of_spares hs (Spares.beginSite ?_) hrun
    exact Spares.allocate (fun _ _ => rfl) (fun _ _ _ _ => rfl) hint
  have hapart : ∀ {γ : Type} {π : Store → γ}, f.Apart π → π s' = π s := fun hπ =>
    (hπ.beginSite hint).of_run hrun
  have hnotes : Ledger p (log ++ ([] : List Note).map f.enter) s' := by simpa using hledger
  rcases o with e | b
  · exact ⟨L, ⟨hs', hg, List.Subset.refl L, hnotes, hapart⟩, fun b hb => by cases hb⟩
  · refine ⟨b.cell :: L, ⟨hs'.add_cell (hfresh b rfl), hg, List.subset_cons_self _ _, hnotes,
      hapart⟩, ?_⟩
    rintro _ ⟨⟩
    refine ⟨List.mem_cons_self, ?_⟩
    exact ((Mirrors.beginSite ⟨hf, hf, rfl⟩ rfl hint).of_run hrun hrun).2.of_ok

variable {b : SiteBuilder} {sh : Shape} {ops : Operands}

lemma resolve (hs : s.Valid p C L) (hl : Ledger p log s) (hf : f.services = .ofPlatform p)
    (hb : SiteBuilder.Twins f f b b) (hcell : b.cell ∈ L) (hsh : sh.Known (s.census p C) s.types)
    {o : Except Failure Site} (hrun : (b.resolve sh).run s = (o, s')) :
    f.Steps p C L L log ((b.resolutions sh s).map Resolution.note) s s' := by
  obtain ⟨name, base, target, hbuilder, -⟩ := hb
  have hfactory : b.factory = f := congrArg SiteBuilder.factory hbuilder
  have hid : b.cell.field.id = .declared f.container.serial name := by
    rw [hbuilder]
    rfl
  have hservices : b.factory.services = .ofPlatform p := hfactory ▸ hf
  obtain ⟨hs', hg, -⟩ := Keeps.resolveSite hs hservices hcell hsh _ _ hrun
  refine ⟨hs', hg, List.Subset.refl L, ?_, fun hπ => (hπ.resolveSite hfactory hid sh).of_run hrun⟩
  rw [← hfactory, b.map_enter_notes]
  exact hl.resolveSite hs hservices hcell hsh hrun

lemma resolveOperands (hs : s.Valid p C L) (hl : Ledger p log s) (hf : f.services = .ofPlatform p)
    (hb : SiteBuilder.Twins f f b b) (hcell : b.cell ∈ L)
    (hops : ops.Known (s.census p C) s.types) {o : Except Failure Site}
    (hrun : (b.resolveOperands ops).run s = (o, s')) :
    f.Steps p C L L log ((b.operandResolutions ops s).map Resolution.note) s s' := by
  obtain ⟨name, base, target, hbuilder, -⟩ := hb
  have hfactory : b.factory = f := congrArg SiteBuilder.factory hbuilder
  have hid : b.cell.field.id = .declared f.container.serial name := by
    rw [hbuilder]
    rfl
  have hservices : b.factory.services = .ofPlatform p := hfactory ▸ hf
  obtain ⟨hs', hg, -⟩ := Keeps.resolveOperands hs hservices hcell hops _ _ hrun
  refine ⟨hs', hg, List.Subset.refl L, ?_,
    fun hπ => (hπ.resolveOperands hfactory hid ops).of_run hrun⟩
  rw [← hfactory, b.map_enter_operandNotes]
  exact hl.resolveOperands hs hservices hcell hops hrun

lemma callableType (hs : s.Valid p C L) (hl : Ledger p log s) (hf : f.services = .ofPlatform p)
    (hops : ops.Known (s.census p C) s.types) {o : Except Failure Instance}
    (hrun : (f.callableType ops).run s = (o, s')) :
    f.Steps p C L L log ((f.resolutions ops s).map Resolution.note) s s' := by
  obtain ⟨hs', hg, -⟩ := Keeps.callableType hs hf hops _ _ hrun
  refine ⟨hs', hg, List.Subset.refl L, ?_, fun hπ => (hπ.callableType f ops).of_run hrun⟩
  rw [f.map_enter_notes]
  exact hl.callableType hs hf hops hrun

lemma bootstrap (hs : s.Valid p C L) (hl : Ledger p log s) {x : Site} (hx : Site.Twins f f x x)
    {binder : Option Ty} {o : Except Failure Unit} (hrun : (x.bootstrap binder).run s = (o, s')) :
    f.Steps p C L L log [] s s' := by
  obtain ⟨⟨name, base, target, hcell, -⟩, hcontainer, -, -⟩ := hx
  have hid : x.place.id = .declared f.container.serial name := by
    rw [Site.place, hcell]
    rfl
  obtain ⟨hs', hg, -⟩ := Keeps.bootstrap hs x binder _ _ hrun
  refine ⟨hs', hg, List.Subset.refl L, ?_,
    fun hπ => (hπ.bootstrap hcontainer hid binder).of_run hrun⟩
  rw [List.map_nil, List.append_nil]
  exact hl.of_spares hs (Spares.bootstrap (fun _ _ => rfl) (fun _ => rfl) binder) hrun

end SiteFactory.Steps

end CallSites
