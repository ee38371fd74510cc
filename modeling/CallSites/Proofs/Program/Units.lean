import CallSites.Proofs.Program.UnitSteps

/-!
# Units do not interfere

A program is compiled by steps of any number of units, in any order.  The units share the platform
with its callable families and cache cell types, the table of types that are made from these, and
the table of registries.  Nothing of this can be noticed by a unit: what it sees,
`Compilation.view`, is what it sees when its own steps are performed alone.

The program that is compiled and the one in which the unit is alone are taken forward together.  A
step of the unit is performed in both and keeps its desks alongside; a step of another unit is
performed in one of them and leaves the desk of the unit undisturbed.
-/

namespace CallSites

/-- A program that is being compiled, with the desks of its units. -/
structure Compilation where
  store : Store
  desks : String → Desk

/-- An item, with all that can be seen of it. -/
inductive Shown where
  /-- A container with its fields, their types, and its static initializer. -/
  | container (name : String) (fields : List (String × String)) (code : List String)
  /-- A factory with the number of names it has given out, its sites and its counts. -/
  | factory (named : Nat) (sites : List SiteView) (tally : Tally)
  | builder (cell : String)
  | site (x : SiteView)
  | callable (type : String)
  | done
  | missing

/-- What can be seen of an item. -/
def Item.shown (s : Store) : Item → Shown
  | .container c =>
    .container c.text
      ((s.containerFields c).entries.map fun e => (e.1, typeText (s.fieldType e.2)))
      ((s.initializer c).map Instr.text)
  | .factory f =>
    .factory (s.allocated f.cells) ((s.factorySites f).map Site.view) (s.tally f.synthesizer)
  | .builder b => .builder b.cell.name
  | .site x => .site x.view
  | .callable i => .callable i.text
  | .done => .done
  | .missing => .missing

/-- What can be seen of a registry. -/
structure RegistryView where
  size : Nat
  names : List String
  instances : Nat
deriving DecidableEq

/-- What can be seen of a registry. -/
def Registry.view (r : Registry) (s : Store) : RegistryView :=
  ⟨r.size s, r.names s, r.numInstances s⟩

/-- What a unit can see: what its steps have come to and what is in its registry. -/
structure UnitView where
  results : List (Except Failure Shown)
  registry : Option RegistryView

namespace Compilation

/-- The program before anything has happened. -/
def initial (p : Platform) : Compilation := ⟨.withUnits p, fun _ => []⟩

/-- Performs a step of a unit. -/
def step (p : Platform) (c : Compilation) (x : String × UnitStep) : Compilation :=
  let (o, s) := (x.2.perform p x.1 (c.desks x.1)).run c.store
  ⟨s, Function.update c.desks x.1 (c.desks x.1 ++ [o])⟩

/-- Performs steps of units in order. -/
def run (p : Platform) (steps : List (String × UnitStep)) : Compilation :=
  steps.foldl (step p) (initial p)

/-- What a unit can see. -/
def view (c : Compilation) (unit : String) : UnitView :=
  ⟨(c.desks unit).map fun o => o.map (Item.shown c.store),
    (c.store.registryOf? unit).map fun r => r.view c.store⟩

end Compilation

/-! ## What is seen of desks that are alongside -/

namespace Alongside

variable {p : Platform} {unit : String} {m : Pairs}
variable {N : List ((SiteFactory × SiteFactory) × Note)} {w w' : Program} {f f' : SiteFactory}

lemma notesFor_eq (h : Alongside unit m N w w') :
    notesFor unit w'.journal = notesFor unit w.journal := by
  rw [notesFor, notesFor, h.left, h.right, List.map_map, List.map_map]
  rfl

/-- Notes made by a factory are made for its unit. -/
lemma notesBy_filter (hw : Orderly p w) (hf : f ∈ w.factories) (hunit : f.registry.unit = unit) :
    notesBy f.serial w.journal =
      notesBy f.serial (w.journal.filter fun e => e.1.registry.unit = unit) := by
  rw [notesBy, notesBy, List.filter_filter]
  refine congrArg (List.map _) (List.filter_congr fun e he => ?_)
  by_cases hserial : e.1.serial = f.serial
  · have hown := hw.eq_of_serial_eq (hw.journal e he) hf hserial
    simp [hown, hunit]
  · simp [hserial]

lemma notesBy_eq (h : Alongside unit m N w w') (hw : Orderly p w) (hw' : Orderly p w')
    (hpair : m.HasFactories f f') :
    notesBy f'.serial w'.journal = notesBy f.serial w.journal := by
  obtain ⟨-, hleft, hright⟩ := h.factory_of_mem hpair
  rw [notesBy_filter hw hleft.1 hleft.2, notesBy_filter hw' hright.1 hright.2, h.left, h.right,
    notesBy, notesBy, List.filter_map, List.filter_map, List.map_map, List.map_map]
  refine congrArg (List.map Prod.snd) (List.filter_congr fun e he => ?_)
  have hiff := h.factories _ _ _ _ (h.noted e he) hpair
  simp only [Function.comp_apply, hiff]

lemma synthesized_eq (h : Alongside unit m N w w') (hw : Orderly p w) (hw' : Orderly p w')
    (hpair : m.HasFactories f f') :
    (w'.store.tally f'.synthesizer).synthesized = (w.store.tally f.synthesizer).synthesized := by
  obtain ⟨-, hleft, hright⟩ := h.factory_of_mem hpair
  -- all the calls made for the unit are on one registry
  have hone : ∀ e ∈ N, e.1.1.registry = f.registry ∧ e.1.2.registry = f'.registry := by
    intro e he
    obtain ⟨-, hl, hr⟩ := h.factory_of_mem (h.noted e he)
    have hown := hw.registry _ hl.1
    have hown' := hw'.registry _ hr.1
    rw [hl.2, ← hleft.2, hw.registry f hleft.1] at hown
    rw [hr.2, ← hright.2, hw'.registry f' hright.1] at hown'
    exact ⟨(Option.some.inj hown).symm, (Option.some.inj hown').symm⟩
  obtain ⟨M, hM, hmade, hmade'⟩ := creations_pairs (p := p) (r := f.registry.serial) (N := N)
    (fun e he => by rw [(hone e he).1]) (fun e he => congrArg Registry.serial (hone e he).2)
  have hcalls : journalCalls (N.map fun e => (e.1.1, e.2)) = N.map fun e => e.1.1.enter e.2 := by
    rw [journalCalls, List.map_map]
    rfl
  have hcalls' : journalCalls (N.map fun e => (e.1.2, e.2)) = N.map fun e => e.1.2.enter e.2 := by
    rw [journalCalls, List.map_map]
    rfl
  rw [hw.synthesized_eq hleft.1, hw'.synthesized_eq hright.1, hleft.2, hright.2, h.left, h.right,
    hcalls, hcalls', hmade, hmade', List.countP_map, List.countP_map]
  refine List.countP_congr fun e he => ?_
  have hiff := h.factories _ _ _ _ (h.noted e (hM he)) hpair
  simp only [Function.comp_apply, decide_eq_true_iff, Call.creation, SiteFactory.enter]
  exact hiff.symm

/-- Factories that have been brought by the same step have counted the same. -/
lemma tally_eq (h : Alongside unit m N w w') (hw : Orderly p w) (hw' : Orderly p w')
    (hpair : m.HasFactories f f') :
    w'.store.tally f'.synthesizer = w.store.tally f.synthesizer := by
  have hnotes := h.notesBy_eq hw hw' hpair
  have hfast : (w'.store.tally f'.synthesizer).fastPath =
      (w.store.tally f.synthesizer).fastPath := by
    rw [hw.fastPath_eq, hw'.fastPath_eq, hnotes]
  have hmade := h.synthesized_eq hw hw' hpair
  have hconsulted := hw.consulted_eq f
  rw [← hnotes, ← hw'.consulted_eq f'] at hconsulted
  have hreused : (w'.store.tally f'.synthesizer).reused =
      (w.store.tally f.synthesizer).reused := by omega
  cases hl : w.store.tally f.synthesizer
  cases hr : w'.store.tally f'.synthesizer
  rw [hl, hr] at hfast hmade hreused
  simp only at hfast hmade hreused
  rw [hfast, hmade, hreused]

end Alongside

/-- The fields of a container are on its page. -/
lemma Store.Owned.fields_eq {s : Store} (h : s.Owned) (c : Container) :
    ((s.containerFields c).entries.map fun e => (e.1, typeText (s.fieldType e.2))) =
      (s.page c.serial).fields.map fun l =>
        (l.name, ((s.page c.serial).slot l.name).final.getD l.provisional) := by
  have hfields : (s.page c.serial).fields =
      (s.containerFields c).entries.map fun e => e.2.line e.1 := rfl
  rw [hfields, List.map_map]
  refine List.map_congr_left fun e he => ?_
  rw [Store.typeText_fieldType (h c.serial e he).1]
  rfl

namespace Alongside

variable {p : Platform} {unit : String} {m : Pairs}
variable {N : List ((SiteFactory × SiteFactory) × Note)} {w w' : Program} {i i' : Item}

lemma shown_eq (h : Alongside unit m N w w') (hw : Orderly p w) (hw' : Orderly p w')
    (hmem : (.ok i, .ok i') ∈ m) : i'.shown w'.store = i.shown w.store := by
  cases h.twins_of_mem hmem with
  | @container c c' text left right =>
      have hpage := h.pages c c' hmem
      have hcode : (w.store.initializer c).map Instr.text =
          (w'.store.initializer c').map Instr.text := congrArg Page.code hpage
      rw [Item.shown, Item.shown, hw.owned.fields_eq, hw'.owned.fields_eq, hpage, text, hcode]
  | @factory f f' pair left right =>
      have hsheet := h.sheets f f' hmem
      have hnamed : w.store.allocated f.cells = w'.store.allocated f'.cells :=
        congrArg Sheet.named hsheet
      have hsites : (w.store.factorySites f).map Site.view =
          (w'.store.factorySites f').map Site.view := congrArg Sheet.sites hsheet
      rw [Item.shown, Item.shown, hnamed, hsites, h.tally_eq hw hw' hmem]
  | builder pair twins left right =>
      obtain ⟨name, base, target, rfl, rfl⟩ := twins
      rfl
  | site pair twins => exact congrArg Shown.site twins.view
  | callable text => exact congrArg Shown.callable text
  | done | missing => rfl

lemma registry_view_eq (h : Alongside unit m N w w') (hw : Orderly p w) (hw' : Orderly p w') :
    ((w'.store.registryOf? unit).map fun r => r.view w'.store) =
      (w.store.registryOf? unit).map fun r => r.view w.store := by
  have hsome := h.registry
  rcases hr : w.store.registryOf? unit with _ | r <;>
    rcases hr' : w'.store.registryOf? unit with _ | r'
  · rfl
  · rw [hr, hr'] at hsome
    cases hsome
  · rw [hr, hr'] at hsome
    cases hsome
  · rw [Option.map_some, Option.map_some, Registry.view, Registry.view, hw.size_eq hr,
      hw.names_eq hr, hw.numInstances_eq hr, hw'.size_eq hr', hw'.names_eq hr',
      hw'.numInstances_eq hr', h.notesFor_eq]

end Alongside

/-! ## Desks that nobody else writes to -/

/-- The desk as it is alongside itself. -/
def Desk.paired (d : Desk) : Pairs := d.map fun o => (o, o)

/-- From the one program to the other nothing has happened to what is on the desk of a unit. -/
structure Undisturbed (unit : String) (d : Desk) (w w₁ : Program) : Prop where
  types : w.store.types.next ≤ w₁.store.types.next
  cells : w.cells ⊆ w₁.cells
  factories : w.factories ⊆ w₁.factories
  pages : ∀ c, .ok (.container c) ∈ d → w₁.store.page c.serial = w.store.page c.serial
  sheets : ∀ f, .ok (.factory f) ∈ d → w₁.store.sheet f.serial = w.store.sheet f.serial
  registry : w₁.store.registryOf? unit = w.store.registryOf? unit
  journal : w₁.journal.filter (fun e => e.1.registry.unit = unit) =
    w.journal.filter fun e => e.1.registry.unit = unit

section Desks

variable {p : Platform} {unit : String} {m : Pairs} {d : Desk}
variable {N : List ((SiteFactory × SiteFactory) × Note)} {w w' w₁ w₁' : Program}

@[simp] lemma Desk.map_fst_paired (d : Desk) : d.paired.map Prod.fst = d := by
  rw [paired, List.map_map]
  exact List.map_id d

@[simp] lemma Desk.map_snd_paired (d : Desk) : d.paired.map Prod.snd = d := by
  rw [paired, List.map_map]
  exact List.map_id d

lemma Desk.mem_paired {o o' : Except Failure Item} : (o, o') ∈ d.paired ↔ o ∈ d ∧ o' = o := by
  rw [paired, List.mem_map]
  constructor
  · rintro ⟨a, ha, heq⟩
    cases heq
    exact ⟨ha, rfl⟩
  · rintro ⟨ho, rfl⟩
    exact ⟨o', ho, rfl⟩

lemma Undisturbed.refl (unit : String) (d : Desk) (w : Program) : Undisturbed unit d w w :=
  ⟨le_refl _, List.Subset.refl _, List.Subset.refl _, fun _ _ => rfl, fun _ _ => rfl, rfl, rfl⟩

namespace Alongside

lemma undisturbed (h : Alongside unit m N w w') (hl : Undisturbed unit (m.map Prod.fst) w w₁)
    (hr : Undisturbed unit (m.map Prod.snd) w' w₁') : Alongside unit m N w₁ w₁' where
  items e he := (h.items e he).mono fun _ _ _ _ htw =>
    htw.mono (List.Subset.refl m) hl.types hr.types hl.cells hr.cells hl.factories hr.factories
  containers := h.containers
  factories := h.factories
  pages c c' hcc :=
    (hl.pages c hcc.left).trans ((h.pages c c' hcc).trans (hr.pages c' hcc.right).symm)
  sheets f f' hff :=
    (hl.sheets f hff.left).trans ((h.sheets f f' hff).trans (hr.sheets f' hff.right).symm)
  registry := by
    rw [hl.registry, hr.registry]
    exact h.registry
  noted := h.noted
  left := hl.journal.trans h.left
  right := hr.journal.trans h.right

/-- A desk that is alongside another is alongside itself. -/
lemma self (h : Alongside unit m N w w') :
    Alongside unit (Desk.paired (m.map Prod.fst)) (N.map fun e => ((e.1.1, e.1.1), e.2)) w w := by
  have hcontainers : ∀ {c c' : Container}, m.HasContainers c c' →
      Pairs.HasContainers (Desk.paired (m.map Prod.fst)) c c :=
    fun hcc => Desk.mem_paired.mpr ⟨hcc.left, rfl⟩
  have hfactories : ∀ {f f' : SiteFactory}, m.HasFactories f f' →
      Pairs.HasFactories (Desk.paired (m.map Prod.fst)) f f :=
    fun hff => Desk.mem_paired.mpr ⟨hff.left, rfl⟩
  refine
    { items := fun e he => ?_
      containers := fun c c' g g' hcc hgg => ?_
      factories := fun f f' g g' hff hgg => ?_
      pages := fun c c' hcc => ?_
      sheets := fun f f' hff => ?_
      registry := rfl
      noted := fun e he => ?_
      left := ?_
      right := ?_ }
  · obtain ⟨ho, heq⟩ := Desk.mem_paired.mp he
    obtain ⟨⟨a, a'⟩, ha, heq'⟩ := List.mem_map.mp ho
    have hagree := h.items _ ha
    simp only at hagree heq'
    rw [heq, ← heq']
    cases hagree with
    | error e => exact .error e
    | ok htw =>
        refine .ok ?_
        cases htw with
        | container text left right => exact .container rfl left left
        | factory pair left right => exact .factory (hcontainers pair) left left
        | builder pair twins left right => exact .builder (hfactories pair) twins.left left left
        | site pair twins => exact .site (hfactories pair) twins.left_self
        | callable text => exact .callable rfl
        | done => exact .done
        | missing => exact .missing
  · cases (Desk.mem_paired.mp hcc).2
    cases (Desk.mem_paired.mp hgg).2
    exact Iff.rfl
  · cases (Desk.mem_paired.mp hff).2
    cases (Desk.mem_paired.mp hgg).2
    exact Iff.rfl
  · cases (Desk.mem_paired.mp hcc).2
    rfl
  · cases (Desk.mem_paired.mp hff).2
    rfl
  · obtain ⟨e₀, he₀, rfl⟩ := List.mem_map.mp he
    exact hfactories (h.noted e₀ he₀)
  · rw [h.left, List.map_map]
    rfl
  · rw [h.left, List.map_map]
    rfl

end Alongside

end Desks

/-! ## Whole runs -/

lemma Alongside.initial (p : Platform) (unit : String) :
    Alongside unit [] [] (.initial p) (.initial p) where
  items e he := by cases he
  containers c c' g g' hcc := by cases hcc
  factories f f' g g' hff := by cases hff
  pages c c' hcc := by cases hcc
  sheets f f' hff := by cases hff
  registry := rfl
  noted e he := by cases he
  left := rfl
  right := rfl

/-- The account of a program fits what lies on its desks, and no two units have a container in
common. -/
structure Compilation.Sound (p : Platform) (c : Compilation) (w : Program) : Prop where
  store : c.store = w.store
  orderly : Orderly p w
  desks : ∀ v, ∃ N, Alongside v (c.desks v).paired N w w
  apart : ∀ u v, u ≠ v → ∀ a b, .ok (.container a) ∈ c.desks u → .ok (.container b) ∈ c.desks v →
    a.serial ≠ b.serial

namespace Compilation.Sound

variable {p : Platform} {c : Compilation} {w w₁ : Program} {u v : String}
variable {o : Except Failure Item}

lemma initial (p : Platform) : (Compilation.initial p).Sound p (.initial p) where
  store := rfl
  orderly := .initial p
  desks v := ⟨[], .initial p v⟩
  apart u v _ a b ha := by cases ha

lemma container_lt (hs : c.Sound p w) {a : Container} (ha : .ok (.container a) ∈ c.desks v) :
    a.serial < w.store.types.next := by
  obtain ⟨N, h⟩ := hs.desks v
  exact (h.container_of_mem (c := a) (Desk.mem_paired.mpr ⟨ha, rfl⟩)).2.1

lemma factory_mem (hs : c.Sound p w) {f : SiteFactory} (hf : .ok (.factory f) ∈ c.desks v) :
    f ∈ w.factories ∧ f.registry.unit = v := by
  obtain ⟨N, h⟩ := hs.desks v
  exact (h.factory_of_mem (f := f) (Desk.mem_paired.mpr ⟨hf, rfl⟩)).2.1

/-- A step of one unit leaves the desks of the others undisturbed. -/
lemma undisturbed (hs : c.Sound p w) (hv : Ventures p v (c.desks v) o w w₁) (hne : u ≠ v) :
    Undisturbed u (c.desks u) w w₁ where
  types := hv.types
  cells := hv.cells
  factories := hv.factories
  pages a ha := hv.pages _ (hs.container_lt ha) fun b hb => hs.apart v u hne.symm b a hb ha
  sheets f hf := by
    obtain ⟨hmem, hunit⟩ := hs.factory_mem hf
    refine hv.sheets _ (hs.orderly.bounds f hmem).1 fun g hg hserial => ?_
    obtain ⟨hmem', hunit'⟩ := hs.factory_mem hg
    have hown : g = f := hs.orderly.eq_of_serial_eq hmem' hmem hserial
    exact hne (hunit.symm.trans (hown ▸ hunit'))
  registry := hv.registry u hne
  journal := hv.journal u hne

/-- One more step. -/
lemma advance (hs : c.Sound p w) (hv : Ventures p v (c.desks v) o w w₁)
    (hself : ∃ N, Alongside v (Desk.paired (c.desks v ++ [o])) N w₁ w₁) :
    Sound p ⟨w₁.store, Function.update c.desks v (c.desks v ++ [o])⟩ w₁ := by
  -- a container that lies on a desk now was there before or is the new one
  have hcases : ∀ {u a}, .ok (.container a) ∈ Function.update c.desks v (c.desks v ++ [o]) u →
      .ok (.container a) ∈ c.desks u ∨ u = v ∧ w.store.types.next ≤ a.serial := by
    intro u a ha
    by_cases hu : u = v
    · rw [hu, Function.update_self, List.mem_append, List.mem_singleton] at ha
      rcases ha with ha | ha
      · exact .inl (hu ▸ ha)
      · exact .inr ⟨hu, hv.fresh a ha.symm⟩
    · rw [Function.update_of_ne hu] at ha
      exact .inl ha
  refine ⟨rfl, hv.orderly, fun u => ?_, fun u u' hne a b ha hb => ?_⟩
  · by_cases hu : u = v
    · subst hu
      dsimp only
      rw [Function.update_self]
      exact hself
    · obtain ⟨N, h⟩ := hs.desks u
      have hfree := hs.undisturbed hv hu
      dsimp only
      rw [Function.update_of_ne hu]
      refine ⟨N, h.undisturbed ?_ ?_⟩
      · rw [Desk.map_fst_paired]
        exact hfree
      · rw [Desk.map_snd_paired]
        exact hfree
  · rcases hcases ha with hold | ⟨hu, hle⟩ <;> rcases hcases hb with hold' | ⟨hu', hle'⟩
    · exact hs.apart u u' hne a b hold hold'
    · exact ((hs.container_lt hold).trans_le hle').ne
    · exact ((hs.container_lt hold').trans_le hle).ne'
    · exact absurd (hu.trans hu'.symm) hne

end Compilation.Sound

/-- The program that is compiled and the one in which a unit is alone, taken forward together. -/
lemma Compilation.exists_alongside (p : Platform) (unit : String)
    {steps : List (String × UnitStep)} (hnamed : ∀ x ∈ steps, x.2.IsNamed p) :
    ∃ w w' m N, (run p steps).Sound p w ∧ Orderly p w' ∧
      (run p (steps.filter fun x => x.1 = unit)).store = w'.store ∧
      (run p steps).desks unit = m.map Prod.fst ∧
      (run p (steps.filter fun x => x.1 = unit)).desks unit = m.map Prod.snd ∧
      Alongside unit m N w w' := by
  induction steps using List.reverseRecOn with
  | nil =>
      exact ⟨_, _, [], [], .initial p, .initial p, rfl, rfl, rfl, .initial p unit⟩
  | append_singleton steps x ih =>
      obtain ⟨w, w', m, N, hs, hw', hstore', hdesk, hdesk', h⟩ :=
        ih fun y hy => hnamed y (List.mem_append_left _ hy)
      obtain ⟨v, x⟩ := x
      have hx : x.IsNamed p := hnamed (v, x) (by simp)
      have hrun : ∀ l y, run p (l ++ [y]) = (run p l).step p y := fun l y => by
        rw [run, List.foldl_append]
        rfl
      rcases ho : (x.perform p v ((run p steps).desks v)).run w.store with ⟨o, s⟩
      have hstep : run p (steps ++ [(v, x)]) =
          ⟨s, Function.update (run p steps).desks v ((run p steps).desks v ++ [o])⟩ := by
        rw [hrun, step, hs.store, ho]
      by_cases hv : v = unit
      · -- the unit itself: the step is performed in both programs
        subst hv
        rcases ho' : (x.perform p v (m.map Prod.snd)).run w'.store with ⟨o', s'⟩
        have hstep' : run p ((steps ++ [(v, x)]).filter fun y => y.1 = v) =
            ⟨s', Function.update (run p (steps.filter fun y => y.1 = v)).desks v
              (m.map Prod.snd ++ [o'])⟩ := by
          rw [List.filter_append, List.filter_singleton]
          simp only [decide_true, cond_true]
          rw [hrun, step, hstore', hdesk', ho']
        rw [hdesk] at ho
        obtain ⟨w₁, w₁', N₁, rfl, rfl, hnext, hleft, hright⟩ := h.perform hs.orderly hw' hx ho ho'
        have hself := hnext.self
        rw [List.map_append, List.map_singleton, ← hdesk] at hself
        rw [← hdesk] at hleft
        refine ⟨w₁, w₁', m ++ [(o, o')], N₁, ?_, hright.orderly, ?_, ?_, ?_, hnext⟩
        · rw [hstep]
          exact hs.advance hleft ⟨_, hself⟩
        · rw [hstep']
        · rw [hstep, List.map_append, ← hdesk]
          exact Function.update_self _ _ _
        · rw [hstep', List.map_append]
          exact Function.update_self _ _ _
      · -- another unit: the step is performed in one of the programs
        have hsame : (steps ++ [(v, x)]).filter (fun y => y.1 = unit) =
            steps.filter fun y => y.1 = unit := by
          rw [List.filter_append, List.filter_singleton]
          simp [hv]
        obtain ⟨Nv, hown⟩ := hs.desks v
        obtain ⟨w₁, w₁', N₁, rfl, -, hnext, hleft, -⟩ :=
          hown.perform (x := x) hs.orderly hs.orderly hx (by simpa using ho) (by simpa using ho)
        rw [Desk.map_fst_paired] at hleft
        have hself := hnext.self
        rw [List.map_append, List.map_singleton, Desk.map_fst_paired] at hself
        have hfree := hs.undisturbed hleft (Ne.symm hv)
        rw [hdesk] at hfree
        refine ⟨w₁, w', m, N, ?_, hw', ?_, ?_, ?_, h.undisturbed hfree (.refl _ _ _)⟩
        · rw [hstep]
          exact hs.advance hleft ⟨_, hself⟩
        · rw [hsame]
          exact hstore'
        · rw [hstep, ← hdesk]
          exact Function.update_of_ne (Ne.symm hv) _ _
        · rw [hsame]
          exact hdesk'

/-- **Units do not interfere.**  Whatever steps of other units are performed in between, a unit sees
what it sees when its own steps are performed alone. -/
theorem units_do_not_interfere (p : Platform) (steps : List (String × UnitStep))
    (hnamed : ∀ x ∈ steps, x.2.IsNamed p) (unit : String) :
    (Compilation.run p steps).view unit =
      (Compilation.run p (steps.filter fun x => x.1 = unit)).view unit := by
  obtain ⟨w, w', m, N, hs, hw', hstore', hdesk, hdesk', h⟩ :=
    Compilation.exists_alongside p unit hnamed
  have hresults : ∀ e ∈ m, e.1.map (Item.shown w.store) = e.2.map (Item.shown w'.store) := by
    rintro ⟨o, o'⟩ he
    have hagree := h.items _ he
    simp only at hagree ⊢
    cases hagree with
    | error e => rfl
    | ok htw => exact congrArg Except.ok (h.shown_eq hs.orderly hw' he).symm
  rw [Compilation.view, Compilation.view, hs.store, hstore', hdesk, hdesk',
    h.registry_view_eq hs.orderly hw', List.map_map, List.map_map]
  exact congrArg (UnitView.mk · _) (List.map_congr_left hresults)

/-- Two units with containers of one name.  The other unit is always first: to make its container
and its factory, to begin a site of the same name and to need a definition for the same key.  The
unit goes on to find its own definition again, and to resolve a site twice and bootstrap it without
a binder, neither of which can be done. -/
theorem units_do_not_interfere_of_two :
    let p := Platform.standard
    let int : Ty := .named ⟨.listed 3, "System", "Int32", .value⟩
    let ops : Operands := { receiver := some int, receiverByRef := true }
    let steps : List (String × UnitStep) :=
      [("b", .newContainer "" "Script"), ("a", .newContainer "" "Script"), ("b", .newFactory 0),
       ("a", .newFactory 0), ("b", .beginSite 1 "set"), ("a", .beginSite 1 "set"),
       ("b", .resolveOperands 2 ops), ("a", .callableType 1 ops), ("b", .bootstrap 3 (some int)),
       ("a", .resolveOperands 2 ops), ("a", .resolveOperands 2 ops), ("a", .bootstrap 4 none)]
    let both := Compilation.run p steps
    let alone := Compilation.run p (steps.filter fun x => x.1 = "a")
    (∀ x ∈ steps, x.2.IsNamed p) ∧ both.view "a" = alone.view "a" ∧
      (both.view "a").registry = some ⟨1, ["<>A\x7b01\x7d`2"], 1⟩ ∧
      (both.view "a").results.map Except.toBool = [true, true, true, true, true, false, false] ∧
      both.store.next = 5 ∧ alone.store.next = 3 := by
  intro p int ops steps both alone
  have hint : p.IsNamed int := ⟨"System.Int32", rfl⟩
  have hops : ∀ x ∈ ops.types, p.IsNamed x := by
    intro x hx
    rw [List.mem_singleton.mp (show x ∈ [int] from hx)]
    exact hint
  have hnamed : ∀ x ∈ steps, x.2.IsNamed p := by
    simp only [steps, List.forall_mem_cons, UnitStep.IsNamed]
    exact ⟨trivial, trivial, trivial, trivial, trivial, trivial, hops, hops, trivial, hops, hops,
      trivial, by simp⟩
  refine ⟨hnamed, units_do_not_interfere p steps hnamed "a", ?_, ?_, ?_, ?_⟩
  · decide +kernel
  · decide +kernel
  · decide +kernel
  · decide +kernel

end CallSites
