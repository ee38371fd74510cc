import CallSites.Proofs.Program.Ledger

/-!
# Bookkeeping

A call to resolve a shape, whatever comes of it, is one more entry in the ledger (`Ledger.call`).
Resolving a site makes at most one such call; what comes before and after it, such as binding the
cell, does not write to the books.  Neither does anything else that can be asked of a program, as
long as no definition of a registry is looked up or applied other than by such a call.
-/

namespace CallSites

/-! ## The step -/

section Step

variable {p : Platform} {C : Set Ty} {L : List Cell} {log : List Call} {s s' : Store}

/-- A definition is made only for a number of parameters whose labels can be stored. -/
lemma room_of_synthesizedDefinition {r n : Nat} {sh : Shape} {d : Definition}
    (h : synthesizedDefinition r n sh.key = .ok d) : (sh.params.length : Int) + 1 ≤ maxLabels := by
  obtain ⟨-, -, m, hm, -⟩ := synthesizedDefinition_eq_ok h
  obtain ⟨hparams, hroom⟩ := checkParams_eq_ok hm
  rwa [← hparams] at hroom

lemma Spares.books_of_entries {α : Type} {x : TypeM α}
    (h : ∀ r n, Spares (TypeTable.entry (.synthesized r n)) x s.types) :
    Spares Store.books x.toStoreM s := by
  have hentries : (fun r n => (x.run s.types).2.entry (.synthesized r n)) =
      fun r n => s.types.entry (.synthesized r n) := by
    funext r n
    exact h r n
  exact congrArg (fun e => (s.registries, s.tallies, e)) hentries

/-- Constructing a definition that is not from a registry. -/
lemma Spares.construct_books {d : Definition} (hd : ∀ r n, d.id ≠ .synthesized r n)
    (args : List (Option Ty)) : Spares Store.books (d.construct args).toStoreM s :=
  Spares.books_of_entries fun r n => Spares.construct (hd r n) args

/-- Applying a callable family does not write to the books. -/
lemma Spares.instantiate_books {sh : Shape} {d : Definition} (hprov : p.provided? sh = some d) :
    Spares Store.books (Synthesizer.instantiate d sh) s := by
  refine Spares.withContext _ (Spares.construct_books ?_ _)
  rw [Platform.provided?] at hprov
  split at hprov
  · cases hprov
  · exact Platform.id_ne_synthesized_of_family? hprov

/-- The second half of a call that needs a definition: applying it, once the call is entered. -/
lemma Ledger.instantiate {c : Call} {d : Definition} {o : Except Failure Instance}
    (h : Ledger p (log ++ [{ c with succeeded := false }]) s) (hs : s.Valid p C L)
    (hneeds : p.Needs c.shape) (hsh : c.shape.Known (s.census p C) s.types)
    (hd : (s.registries.getD c.registry ∅).find? c.shape.key = some d)
    (hrun : (Synthesizer.instantiate d c.shape).run s = (o, s')) :
    Ledger p (log ++ [{ c with succeeded := o.toBool }]) s' := by
  obtain ⟨e, rfl, rfl⟩ | ⟨i, t, hcon, rfl, rfl⟩ := Synthesizer.instantiate_cases hrun
  · exact h
  · exact h.succeed hs hneeds hsh rfl hd hcon

/-- **A call is one more entry**, whatever comes of it. -/
theorem Ledger.call {a : Resolution} (h : Ledger p log a.store) (ha : a.Sound p C L) :
    Ledger p (log ++ [a.call]) a.run.2 := by
  have hcall : a.call = { a.call with succeeded := a.run.1.toBool } := rfl
  have hcourse := a.course ha.services
  rw [hcall]
  generalize a.run = q at hcourse ⊢
  cases hcourse with
  | family hprov hinst =>
      have hbooks := (Spares.instantiate_books hprov).of_run hinst
      exact (h.congr ha.valid hbooks).fast (c := { a.call with succeeded := true })
        (Platform.not_uncovered_of_provided? hprov) rfl
  | refused hprov hinst =>
      have hbooks := (Spares.instantiate_books hprov).of_run hinst
      exact (h.congr ha.valid hbooks).idle
        (fun hneeds => Platform.not_uncovered_of_provided? hprov hneeds.1) (.inr rfl)
  | found hprov hfound hinst =>
      obtain ⟨n, -, hmade⟩ := ha.valid.synthesizedDefinition hfound
      have hneeds : p.Needs a.shape :=
        ⟨Platform.provided?_eq_none_iff.mp hprov, room_of_synthesizedDefinition hmade⟩
      have hentered := h.reuse (c := { a.call with succeeded := false }) hneeds rfl hfound
      obtain ⟨hs, -⟩ := ha.valid.count a.synthesizer.serial fun t =>
        { t with reused := t.reused + 1 }
      exact hentered.instantiate (c := a.call) hs hneeds ha.known hfound hinst
  | @made d o s' hprov hnone hmade hinst =>
      have hneeds : p.Needs a.shape :=
        ⟨Platform.provided?_eq_none_iff.mp hprov, room_of_synthesizedDefinition hmade⟩
      have hentered :=
        h.synthesize (c := { a.call with succeeded := false }) ha.valid hneeds rfl hnone hmade
      have hg : a.store.Grows _ := Store.grows_synthesize (d := d) hnone
      obtain ⟨hs, hg'⟩ := (ha.valid.synthesize hnone hmade).count a.synthesizer.serial fun t =>
        { t with synthesized := t.synthesized + 1 }
      have hknown := ha.known.mono ((hg.trans hg').census (Set.Subset.refl C))
        (hg.trans hg').types.filed
      refine hentered.instantiate (c := a.call) hs hneeds hknown ?_ hinst
      exact (a.store.find?_synthesize ..).trans (if_pos ⟨rfl, rfl⟩)
  | full hprov hmade =>
      refine h.idle (fun hneeds : p.Needs a.shape => ?_)
        (.inl (Platform.provided?_eq_none_iff.mp hprov))
      obtain ⟨d, hd⟩ := exists_synthesizedDefinition a.synthesizer.registry.serial
        (a.synthesizer.registry.size a.store) hneeds.2
      rw [hmade] at hd
      cases hd

/-- If the books change by calls alone, the calls are entered. -/
lemma Ledger.changesBy (h : Ledger p log s) (hs : s.Valid p C L) {calls : List Resolution}
    (hcalls : s.ChangesBy Store.books s' calls) (hsound : ∀ a ∈ calls, a.Sound p C L) :
    Ledger p (log ++ calls.map Resolution.call) s' := by
  obtain ⟨rfl, hbooks⟩ | ⟨a, rfl, hbefore, hafter⟩ := hcalls
  · rw [List.map_nil, List.append_nil]
    exact h.congr hs hbooks
  · have ha := hsound a (List.mem_singleton_self a)
    exact ((h.congr hs hbefore).call ha).congr ha.keeps.1 hafter

end Step

/-! ## What leaves the books alone -/

section Books

variable {p : Platform} {C : Set Ty} {L : List Cell} {log : List Call} {s s' : Store}

lemma Ledger.of_spares (h : Ledger p log s) (hs : s.Valid p C L) {α : Type} {x : StoreM α}
    (hx : Spares Store.books x s) {o : Except Failure α} (hrun : x.run s = (o, s')) :
    Ledger p log s' :=
  h.congr hs (hx.of_run hrun)

/-- A definition with the identity of one from a registry is from a registry, and so callable. -/
lemma Store.Valid.callable_of_id (hs : s.Valid p C L) {d : Definition}
    (hd : .definition d ∈ s.census p C) {r n : Nat} (hid : d.id = .synthesized r n) :
    ∃ flags returns, d.body = .callable flags returns := by
  rcases hd with (hprov | hclient) | ⟨e, he, r', k, hfind⟩
  · cases hprov with
    | genericCell hg =>
        rw [Platform.id_of_genericCell? hg] at hid
        cases hid
    | family hf => exact absurd hid (Platform.id_ne_synthesized_of_family? hf r n)
  · refine absurd ?_ (hs.client _ hclient)
    rw [Ty.ident, hid]
    rfl
  · cases he
    obtain ⟨m, -, hmade⟩ := hs.synthesizedDefinition hfind
    obtain ⟨-, -, j, -, hcall⟩ := synthesizedDefinition_eq_ok hmade
    exact ⟨_, _, hcall.body⟩

/-- Asking for a member constructs no definition of a registry. -/
lemma Spares.member_synthesized (hs : s.Valid p C L) {i : Instance}
    (hi : i.ty.Known (s.census p C) s.types) (name : String) (r n : Nat) :
    Spares (TypeTable.entry (.synthesized r n)) (i.member name) s.types := by
  refine Spares.member (fun decl hdecl => ?_) name
  rw [TypeTable.declared, hs.plain, List.append_nil] at hdecl
  by_cases hid : i.definition.id = .synthesized r n
  · obtain ⟨flags, returns, hbody⟩ := hs.callable_of_id hi.1 hid
    exact Definition.avoids_of_callable hbody _ decl hdecl
  · exact Definition.avoids_of_ne hid decl hdecl

/-- Binding a cell applies the generic cache cell type and no other. -/
lemma Spares.bindCell_books (hs : s.Valid p C L) {c : Cell}
    (hc : c.factory.services = .ofPlatform p) {callable : Instance}
    (hcallable : callable.ty.Known (s.census p C) s.types) :
    Spares Store.books (c.bind callable) s := by
  rw [Cell.bind]
  refine Spares.get_bind ?_
  rcases s.binding? c with _ | b
  · refine Spares.bind (Spares.genericCell _) fun d s₁ hd => ?_
    obtain ⟨-, -, hanswer⟩ := Keeps.genericCell hs hc _ _ hd
    obtain ⟨rfl, hgeneric⟩ := hanswer d rfl
    have hid : ∀ r n, d.id ≠ .synthesized r n := by
      simp [Platform.id_of_genericCell? hgeneric]
    have hdK : .definition d ∈ s₁.census p C := Store.mem_census_of_provides (.genericCell hgeneric)
    have hargs : ∀ a ∈ [some callable.ty], KnownType (s₁.census p C) s₁.types a := by
      intro a ha
      rw [List.mem_singleton.mp ha]
      exact knownType_some.mpr hcallable
    refine Spares.bind (Spares.withContext _ (Spares.construct_books hid _)) fun type s₂ h₂ => ?_
    obtain ⟨hs₂, -, htype⟩ := Leads.withContext _ (Keeps.construct hs hdK hargs) _ _ h₂
    obtain ⟨-, -, hknown₂, -⟩ := htype type rfl
    refine Spares.bind (Spares.books_of_entries (Spares.member_synthesized hs₂ hknown₂ _)) ?_
    intro target s₃ h₃
    obtain ⟨hs₃, hg₃, -⟩ := Keeps.member hs₂ hknown₂ _ _ _ h₃
    have hknown₃ := hknown₂.mono (hg₃.census (Set.Subset.refl C)) hg₃.types.filed
    refine Spares.bind (Spares.books_of_entries (Spares.member_synthesized hs₃ hknown₃ _)) ?_
    intro create s₄ h₄
    exact Spares.bind (Spares.setType (fun _ _ => rfl) _) fun _ s₅ _ => Spares.modify rfl
  · exact Spares.throw _

end Books

/-! ## Sites -/

section Sites

variable {p : Platform} {C : Set Ty} {L : List Cell} {log : List Call} {s s' : Store}
variable {b : SiteBuilder} {sh : Shape} {ops : Operands}

/-- Binding a cell to what a call has returned. -/
lemma Resolution.Sound.bindCell_books {a : Resolution} (ha : a.Sound p C L) {c : Cell}
    (hc : c ∈ L) {i : Instance} (hi : a.run.1 = .ok i) :
    Spares Store.books (c.bind i) a.run.2 := by
  obtain ⟨hs, hres⟩ := ha.keeps
  exact Spares.bindCell_books hs (hs.cells c hc).1.services (hres i hi).known

lemma Ledger.callableType (h : Ledger p log s) (hs : s.Valid p C L) {f : SiteFactory}
    (hf : f.services = .ofPlatform p) (hops : ops.Known (s.census p C) s.types)
    {o : Except Failure Instance} (hrun : (f.callableType ops).run s = (o, s')) :
    Ledger p (log ++ (f.resolutions ops s).map Resolution.call) s' := by
  have hchanges := f.changesBy_callableType (π := Store.books) ops s
  rw [hrun] at hchanges
  exact h.changesBy hs hchanges fun a ha => (SiteFactory.sound_resolutions hs hf hops a ha).1

/-- **Resolving a site** is at most one call. -/
theorem Ledger.resolveSite (h : Ledger p log s) (hs : s.Valid p C L)
    (hb : b.factory.services = .ofPlatform p) (hcell : b.cell ∈ L)
    (hsh : sh.Known (s.census p C) s.types) {o : Except Failure Site}
    (hrun : (b.resolve sh).run s = (o, s')) :
    Ledger p (log ++ (b.resolutions sh s).map Resolution.call) s' := by
  have hsound := SiteBuilder.sound_resolutions hs hb hsh
  have hchanges := SiteBuilder.changesBy_resolve (π := Store.books) (fun _ _ => rfl)
    (fun _ _ _ => rfl) fun a ha i hi => (hsound a ha).1.bindCell_books hcell hi
  rw [hrun] at hchanges
  exact h.changesBy hs hchanges fun a ha => (hsound a ha).1

lemma Ledger.resolveOperands (h : Ledger p log s) (hs : s.Valid p C L)
    (hb : b.factory.services = .ofPlatform p) (hcell : b.cell ∈ L)
    (hops : ops.Known (s.census p C) s.types) {o : Except Failure Site}
    (hrun : (b.resolveOperands ops).run s = (o, s')) :
    Ledger p (log ++ (b.operandResolutions ops s).map Resolution.call) s' := by
  have hsound := SiteBuilder.sound_operandResolutions hs hb hops
  have hchanges := SiteBuilder.changesBy_resolveOperands (π := Store.books) (fun _ _ => rfl)
    (fun _ _ _ => rfl) fun a ha i hi => (hsound a ha).1.bindCell_books hcell hi
  rw [hrun] at hchanges
  exact h.changesBy hs hchanges fun a ha => (hsound a ha).1

end Sites

end CallSites
