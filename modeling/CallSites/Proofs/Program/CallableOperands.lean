import CallSites.Proofs.Program.Atomicity
import CallSites.Proofs.Program.CallableTypes
import CallSites.Proofs.Program.FactorySteps
import CallSites.Proofs.Program.Refusals

/-!
# The callable type of an operation

The callable type of an operation can be had in two ways: it is asked for, or a site is begun and
resolved with the operands.  The first leaves no trace in the program, the second a field, a binding
and a site.  Whichever is done first, the other gives the same object (`callableType_agrees`), since
both resolve the shape of the operation and a shape that has been resolved stays resolved.

Whether there is a callable type can be read off the operands.  A receiver, an argument or a value
to assign must be of a type that can be used as an argument.  What the operation results in is an
argument only if it is not void, so void is as good as nothing there.
-/

namespace CallSites

/-! ## Operands -/

/-- The types of the operands can take part in a callable type. -/
structure Operands.Usable (ops : Operands) : Prop where
  receiver : ∀ x, ops.receiver = some x → x.Usable
  args : ∀ a ∈ ops.args, UsableType a
  right : ∀ x, ops.right = some x → x.Usable
  result : ∀ x, ops.result = some x → x.kind ≠ .invalid

/-- With the cell as one parameter more, a callable type can have as many parameters as there are
operands. -/
def Operands.Storable (ops : Operands) : Prop := (ops.flat.length : Int) + 2 ≤ maxLabels

namespace Operands

lemma types_zipArgs : ∀ (as : List (Option Ty)) (bs : List Bool),
    (zipArgs as bs).map (·.type) = as
  | [], _ => rfl
  | a :: as, [] => congrArg (a :: ·) (types_zipArgs as [])
  | a :: as, _ :: bs => congrArg (a :: ·) (types_zipArgs as bs)

lemma types_flat (ops : Operands) :
    ops.flat.map (·.type) =
      ops.receiver.toList.map some ++ ops.args ++ ops.right.toList.map some := by
  simp [flat, types_zipArgs, Function.comp_def]

lemma forall_toList_map_some {o : Option Ty} :
    (∀ a ∈ o.toList.map some, UsableType a) ↔ ∀ x, o = some x → x.Usable := by
  cases o <;> simp [usableType_some]

/-- The result takes part in the signature only if there is one. -/
lemma forall_result_iff {o : Option Ty} :
    (∀ a ∈ if isVoid o then [] else [o], UsableType a) ↔ ∀ x, o = some x → x.kind ≠ .invalid := by
  cases o with
  | none => simp [isVoid]
  | some x => by_cases hx : x.kind = .void <;> simp [isVoid, hx, usableType_some, Ty.Usable]

end Operands

namespace Platform

variable {p : Platform} {ops : Operands}

lemma derive_of_cell?_eq_none (h : p.cell? = none) :
    p.derive ops = .error (.error (.lacks (.cell p.runtime))) := by
  rw [derive, cell, h]
  rfl

/-- The shape of an operation can be used and stored if the operands can. -/
lemma exists_derive {n : Named} (h : p.cell? = some n) (hmodes : ops.modesFit = true) :
    ∃ sh, p.derive ops = .ok sh ∧ (sh.Usable ↔ ops.Usable) ∧ (sh.Storable ↔ ops.Storable) := by
  have hcell : p.cell = .ok (.named n) := by
    rw [cell, h]
    rfl
  have hkind : (Ty.named n).Usable := by
    obtain ⟨c, -, rfl⟩ := Option.map_eq_some_iff.mp h
    simp [Ty.Usable, Ty.kind]
  let sh : Shape := ⟨⟨some (.named n), .byValue⟩ :: ops.flat,
    if CallSites.isVoid ops.result then none else ops.result⟩
  have hsh : p.derive ops = .ok sh := by
    rw [derive, hcell]
    exact Shape.derive_of_modesFit _ hmodes
  have hsig : sh.signature = some (.named n) :: (ops.receiver.toList.map some ++ ops.args ++
      ops.right.toList.map some ++ if CallSites.isVoid ops.result then [] else [ops.result]) := by
    have hresult : (if sh.isVoid then [] else [sh.result]) =
        if CallSites.isVoid ops.result then [] else [ops.result] := by
      rcases hr : ops.result with _ | x
      · simp [sh, Shape.isVoid, CallSites.isVoid, hr]
      · by_cases hx : x.kind = .void <;> simp [sh, Shape.isVoid, CallSites.isVoid, hr, hx]
    rw [Shape.signature, hresult, ← ops.types_flat]
    rfl
  refine ⟨sh, hsh, ?_, ?_⟩
  · rw [Shape.Usable, hsig]
    simp only [List.forall_mem_cons, List.forall_mem_append, Operands.forall_toList_map_some,
      Operands.forall_result_iff, usableType_some]
    exact ⟨fun h => ⟨h.2.1.1.1, h.2.1.1.2, h.2.1.2, h.2.2⟩, fun h =>
      ⟨hkind, ⟨⟨h.receiver, h.args⟩, h.right⟩, h.result⟩⟩
  · simp only [Shape.Storable, Operands.Storable, sh, List.length_cons, Nat.cast_add, Nat.cast_one]
    rw [add_assoc]
    rfl

end Platform

/-! ## Asking for the callable type -/

section Outcome

variable {p : Platform} {C : Set Ty} {L : List Cell} {s s' : Store} {f : SiteFactory}
variable {ops : Operands}

/-- What asking for the callable type comes to.  The shape is refused for the operands or for its
length, unless the platform has no cells. -/
lemma SiteFactory.callableType_cases {prof : Profile} (hp : Platform.ofProfile prof = .ok p)
    (hs : s.Valid p C L) (hf : f.services = .ofPlatform p) (hmodes : ops.modesFit = true)
    {o : Except Failure Instance} (hrun : (f.callableType ops).run s = (o, s')) :
    p.cell? = none ∧ o = .error (.error (.lacks (.cell p.runtime))) ∨
      p.cell? ≠ none ∧
        ((∃ c, o = .ok c) ∧ ops.Usable ∧ ops.Storable ∨
          o = .error (.range .capacity) ∧ ¬ ops.Storable ∨
          ¬ ops.Usable ∧ ∃ note c, Cause.IsArgument c ∧
            o = .error (.error (.context note (.cause c)))) := by
  rw [SiteFactory.callableType, run_bind, run_derive hf] at hrun
  rcases hcell : p.cell? with _ | n
  · rw [Platform.derive_of_cell?_eq_none hcell] at hrun
    cases hrun
    exact .inl ⟨rfl, rfl⟩
  · obtain ⟨sh, hsh, huse, hstore⟩ := Platform.exists_derive hcell hmodes
    simp only [hsh] at hrun
    have hroom : (p.Uncovered sh → sh.Storable) → sh.Storable := fun h => by
      by_contra hnot
      exact hnot (h (Platform.uncovered_of_not_storable hp hnot))
    refine .inr ⟨by simp, ?_⟩
    rw [← huse, ← hstore]
    obtain ⟨hok, husable, hcovered, -⟩ | ⟨ho, -, hlong⟩ | ⟨hnot, -, hrefused⟩ :=
      Synthesizer.resolve_cases (y := f.synthesizer) hs hf hrun
    · exact .inl ⟨hok, husable, hroom hcovered⟩
    · exact .inr (.inl ⟨ho, hlong⟩)
    · exact .inr (.inr ⟨hnot, hrefused⟩)

/-- A callable type that is asked for is that of the shape of the operation. -/
lemma SiteFactory.resolves_of_callableType (hs : s.Valid p C L) (hf : f.services = .ofPlatform p)
    (hops : ops.Known (s.census p C) s.types) {c : Instance}
    (hrun : (f.callableType ops).run s = (.ok c, s')) :
    ∃ sh, p.derive ops = .ok sh ∧ Resolves p C f.registry.serial sh s' c := by
  rw [SiteFactory.callableType, run_bind, run_derive hf] at hrun
  rcases hsh : p.derive ops with e | sh
  · rw [hsh] at hrun
    cases hrun
  · simp only [hsh] at hrun
    obtain ⟨-, -, hc⟩ := Keeps.resolve (y := f.synthesizer) hs hf (hops.shape hsh) _ _ hrun
    exact ⟨sh, rfl, hc c rfl⟩

/-- The callable of a site that is resolved with operands is that of the shape of the operation. -/
lemma SiteBuilder.resolves_of_resolveOperands (hs : s.Valid p C L) {b : SiteBuilder}
    (hb : b.factory.services = .ofPlatform p) (hcell : b.cell ∈ L)
    (hops : ops.Known (s.census p C) s.types) {x : Site}
    (hrun : (b.resolveOperands ops).run s = (.ok x, s')) :
    ∃ sh, p.derive ops = .ok sh ∧ Resolves p C b.factory.registry.serial sh s' x.callable := by
  rw [SiteBuilder.resolveOperands, run_bind, run_derive hb] at hrun
  rcases hsh : p.derive ops with e | sh
  · rw [hsh] at hrun
    cases hrun
  simp only [hsh] at hrun
  obtain ⟨-, -, hx⟩ := Keeps.resolveSite hs hb hcell (hops.shape hsh) _ _ hrun
  exact ⟨sh, rfl, hx x rfl⟩

end Outcome

/-! ## After every history -/

/-- In the program the builder resolves a site with the operands. -/
def World.ResolvesSite (p : Platform) (w : World) (b : SiteBuilder) (ops : Operands) (x : Site) :
    Prop :=
  (Request.resolveOperands b ops).Allowed p w ∧
    ∃ s, (b.resolveOperands ops).run w.store = (.ok x, s)

section World

variable {p : Platform} {w w' : World} {f : SiteFactory} {b : SiteBuilder} {ops : Operands}

/-- The callable type that has been asked for stays that of the shape. -/
lemma World.Run.resolves_callableType (hrun : (w.perform (.callableType f ops)).Run p w')
    (h : w.Valid p) (hr : (Request.callableType f ops).Allowed p w) {c : Instance} {s : Store}
    (hc : (f.callableType ops).run w.store = (.ok c, s)) :
    w'.Valid p ∧ ∃ sh, p.derive ops = .ok sh ∧
      Resolves p w'.client f.registry.serial sh w'.store c := by
  obtain ⟨sh, hsh, hres⟩ := f.resolves_of_callableType h hr.1 hr.2 hc
  have hs := (World.perform_valid h hr).1
  rw [World.perform_quiet rfl hc] at hrun hs
  obtain ⟨hs', hg, hclient, -⟩ := hrun.valid hs
  exact ⟨hs', sh, hsh, hres.mono hg hclient⟩

/-- The callable of a site that has been resolved stays that of the shape. -/
lemma World.Run.resolves_site (hrun : (w.perform (.resolveOperands b ops)).Run p w')
    (h : w.Valid p) {x : Site} (hx : w.ResolvesSite p b ops x) :
    w'.Valid p ∧ ∃ sh, p.derive ops = .ok sh ∧
      Resolves p w'.client b.factory.registry.serial sh w'.store x.callable := by
  obtain ⟨hr, s, hx⟩ := hx
  obtain ⟨sh, hsh, hres⟩ := b.resolves_of_resolveOperands h hr.1 hr.2.1 hr.2.2 hx
  have hs := (World.perform_valid h hr).1
  rw [World.perform_quiet rfl hx] at hrun hs
  obtain ⟨hs', hg, hclient, -⟩ := hrun.valid hs
  exact ⟨hs', sh, hsh, hres.mono hg hclient⟩

end World

/-- **The two ways to a callable type agree.**  Asking for the callable type of an operation
succeeds just when the platform has cells and the operands can be used, as long as they are not more
than can be stored.  It fails without fault, and as unsupported just when there are no cells.  When
it succeeds nothing is declared, listed or emitted, and the callable type is the one that any site
gets that is resolved with the same operands for the same registry, later or earlier. -/
theorem callableType_agrees {prof : Profile} {p : Platform} (hp : Platform.ofProfile prof = .ok p)
    {w : World} (hw : (World.initial p).Run p w) {f : SiteFactory} {ops : Operands}
    (hr : (Request.callableType f ops).Allowed p w) (hmodes : ops.modesFit = true) :
    ((∃ c s, (f.callableType ops).run w.store = (.ok c, s)) ↔
      p.cell? ≠ none ∧ ops.Usable ∧ ops.Storable) ∧
    (∀ e s, (f.callableType ops).run w.store = (.error e, s) →
      e = .range .capacity ∧ p.cell? ≠ none ∧ ¬ ops.Storable ∨
        ∃ err, e = .error err ∧ err.isInternal = false ∧
          (err.isUnsupported = true ↔ p.cell? = none)) ∧
    ∀ c s, (f.callableType ops).run w.store = (.ok c, s) →
      (s.fields = w.store.fields ∧ s.sites = w.store.sites ∧
        s.initializers = w.store.initializers) ∧
      (∀ w' b x, (w.perform (.callableType f ops)).Run p w' → w'.ResolvesSite p b ops x →
        b.factory.registry.serial = f.registry.serial → x.callable = c) ∧
      ∀ w₀ b x, (World.initial p).Run p w₀ → w₀.ResolvesSite p b ops x →
        (w₀.perform (.resolveOperands b ops)).Run p w →
        b.factory.registry.serial = f.registry.serial → x.callable = c := by
  have h := hw.valid_of_initial
  rcases hrun : (f.callableType ops).run w.store with ⟨o, s₁⟩
  have hcases := f.callableType_cases hp h hr.1 hmodes hrun
  refine ⟨⟨?_, ?_⟩, ?_, ?_⟩
  · rintro ⟨c, s, hok⟩
    cases hok
    obtain ⟨-, ho⟩ | ⟨hcell, ⟨-, huse, hstore⟩ | ⟨ho, -⟩ | ⟨-, note, cause, -, ho⟩⟩ := hcases
    · cases ho
    · exact ⟨hcell, huse, hstore⟩
    · cases ho
    · cases ho
  · rintro ⟨hcell, huse, hstore⟩
    obtain ⟨hnone, -⟩ | ⟨-, ⟨⟨c, rfl⟩, -⟩ | ⟨-, hlong⟩ | ⟨hnot, -⟩⟩ := hcases
    · exact absurd hnone hcell
    · exact ⟨c, s₁, rfl⟩
    · exact absurd hstore hlong
    · exact absurd huse hnot
  · intro e s herr
    cases herr
    obtain ⟨hnone, he⟩ | ⟨hcell, ⟨⟨c, ho⟩, -⟩ | ⟨he, hlong⟩ | ⟨-, note, cause, -, he⟩⟩ := hcases
    · cases he
      exact .inr ⟨_, rfl, rfl, iff_of_true rfl hnone⟩
    · cases ho
    · cases he
      exact .inl ⟨rfl, hcell, hlong⟩
    · cases he
      exact .inr ⟨_, rfl, rfl, iff_of_false Bool.false_ne_true hcell⟩
  · intro c s hok
    have hrun' : (f.callableType ops).run w.store = (.ok c, s) := hrun.trans hok
    have hvisible := (Spares.callableType_visible f ops).of_run hrun'
    simp only [Store.visible, Prod.mk.injEq] at hvisible
    obtain ⟨hfields, -, -, hsites, hinit⟩ := hvisible
    refine ⟨⟨hfields, hsites, hinit⟩, fun w' b x hlater hx hreg => ?_, ?_⟩
    · -- later: the shape is still resolved when the site is
      have hrun₁ : (w.perform (.callableType f ops)).Run p (w'.perform (.resolveOperands b ops)) :=
        .step hlater hx.1
      obtain ⟨hs', sh, hsh, hres⟩ := hrun₁.resolves_callableType h hr hrun'
      have h' := (hlater.resolves_callableType h hr hrun').1
      obtain ⟨-, sh', hsh', hres'⟩ := World.Run.refl.resolves_site h' hx
      cases hsh.symm.trans hsh'
      exact hres'.eq hres hs' (.inl hreg)
    · -- earlier: the shape of the site is still resolved when the callable type is asked for
      intro w₀ b x hw₀ hx hlater hreg
      have hrun₁ : (w₀.perform (.resolveOperands b ops)).Run p (w.perform (.callableType f ops)) :=
        .step hlater hr
      obtain ⟨hs', sh, hsh, hres⟩ := hrun₁.resolves_site hw₀.valid_of_initial hx
      obtain ⟨-, sh', hsh', hres'⟩ := World.Run.refl.resolves_callableType h hr hrun'
      cases hsh.symm.trans hsh'
      exact hres.eq hres' hs' (.inl hreg)

/-- An operation with an argument passed by reference: its callable type is asked for, and then a
site is begun and resolved with it. -/
theorem callableType_agrees_of_later_site :
    let f : SiteFactory := ⟨0, .ofPlatform .standard, ⟨0, "", "Program"⟩, ⟨1, ""⟩⟩
    let a : Ty := .named ⟨.cell, "System.Runtime.CompilerServices", "CallSite", .reference⟩
    let ops : Operands := { args := [some a], argByRef := [true] }
    let w := (World.initial .standard).perform (.callableType f ops)
    ∃ c s, (f.callableType ops).run (World.initial .standard).store = (.ok c, s) ∧
      ∃ cell ∈ (w.perform (.beginSite f "call")).cells, ∃ x s',
        (SiteBuilder.resolveOperands ⟨f, cell⟩ ops).run (w.perform (.beginSite f "call")).store =
          (.ok x, s') ∧ x.callable = c := by
  intro f a ops w
  have hknown : ∀ w : World, ops.Known (w.census .standard) w.store.types := fun w =>
    { receiver := knownType_none
      args := by
        intro o ho
        rw [List.mem_singleton.mp ho]
        exact knownType_some.mpr (Store.mem_census_of_provides (.cell rfl))
      right := knownType_none
      result := knownType_none }
  have huse : ops.Usable :=
    { receiver := fun x hx => by cases hx
      args := by simp [ops, a, usableType_some, Ty.Usable, Ty.kind]
      right := fun x hx => by cases hx
      result := fun x hx => by cases hx }
  have hallowed : (Request.callableType f ops).Allowed .standard (.initial .standard) :=
    ⟨rfl, hknown _⟩
  have hagrees := callableType_agrees Platform.ofProfile_standard .refl hallowed rfl
  obtain ⟨c, s, hc⟩ := hagrees.1.mpr ⟨by decide, huse, by unfold Operands.Storable; decide⟩
  have hsite : ((w.perform (.beginSite f "call")).cells.any fun cell =>
      ((SiteBuilder.resolveOperands ⟨f, cell⟩ ops).run
        (w.perform (.beginSite f "call")).store).1.toBool) = true := by
    unfold w ops a f
    decide +kernel
  obtain ⟨cell, hcell, hok⟩ := List.any_eq_true.mp hsite
  have hlater : w.Run .standard (w.perform (.beginSite f "call")) :=
    .step .refl (show f.services = .ofPlatform .standard from rfl)
  generalize w.perform (.beginSite f "call") = w' at hcell hok hlater ⊢
  rcases hx : (SiteBuilder.resolveOperands ⟨f, cell⟩ ops).run w'.store with ⟨e | x, s'⟩
  · rw [hx] at hok
    cases hok
  · refine ⟨c, s, hc, cell, hcell, x, s', hx, ?_⟩
    exact (hagrees.2.2 c s hc).2.1 w' ⟨f, cell⟩ x hlater ⟨⟨rfl, hcell, hknown w'⟩, s', hx⟩ rfl

end CallSites
