import CallSites.Proofs.Program.Accounts

/-!
# Steps of a unit

A unit makes containers and factories of its own and works with them.  A `UnitStep` is one thing
that it asks for; containers, factories, builders and sites are named by the steps that have
brought them, so that a list of steps means the same whatever serials are given out.  What the
steps have come to lies on the `Desk` of the unit.

`Alongside` relates what lies on the desk of a unit in one program to what lies there in another,
and `Alongside.perform` says that one more step of the unit in both keeps them so.  Whatever the
step does, it does not go beyond what is the unit's own (`Ventures`).
-/

namespace CallSites

/-! ## Steps -/

/-- What a unit asks for.  Steps are referred to by their positions among the steps of the unit. -/
inductive UnitStep where
  | newContainer (ns name : String)
  /-- A factory for the container that a step has made and the registry of the unit. -/
  | newFactory (container : Nat)
  | beginSite (factory : Nat) (hint : String)
  | resolve (builder : Nat) (sh : Shape)
  | resolveOperands (builder : Nat) (ops : Operands)
  | callableType (factory : Nat) (ops : Operands)
  | bootstrap (site : Nat) (binder : Option Ty)

/-- What a step has brought. -/
inductive Item where
  | container (c : Container)
  | factory (f : SiteFactory)
  | builder (b : SiteBuilder)
  | site (x : Site)
  | callable (i : Instance)
  | done
  /-- The step refers to something that is not there. -/
  | missing

/-- What the steps of a unit have come to, oldest first. -/
abbrev Desk := List (Except Failure Item)

namespace Item

/-- The container, if it is one. -/
def container? : Item → Option Container
  | .container c => some c
  | _ => none

/-- The factory, if it is one. -/
def factory? : Item → Option SiteFactory
  | .factory f => some f
  | _ => none

/-- The builder, if it is one. -/
def builder? : Item → Option SiteBuilder
  | .builder b => some b
  | _ => none

/-- The site, if it is one. -/
def site? : Item → Option Site
  | .site x => some x
  | _ => none

end Item

/-- What the step at a position has brought. -/
def Desk.item (d : Desk) (k : Nat) : Item :=
  match d[k]? with
  | some (.ok i) => i
  | _ => .missing

namespace UnitStep

/-- Performs a step of a unit. -/
def perform (p : Platform) (unit : String) (d : Desk) : UnitStep → StoreM Item
  | .newContainer ns name => do return .container (← (TypeM.newContainer ns name).toStoreM)
  | .newFactory k =>
    match (d.item k).container? with
    | none => return .missing
    | some c => do
      let r ← UnitTable.forUnit ⟨0⟩ unit
      return .factory (← SiteFactory.new (some (.ofPlatform p)) (some c) (some r))
  | .beginSite k hint =>
    match (d.item k).factory? with
    | none => return .missing
    | some f => do return .builder (← f.beginSite hint)
  | .resolve k sh =>
    match (d.item k).builder? with
    | none => return .missing
    | some b => do return .site (← b.resolve sh)
  | .resolveOperands k ops =>
    match (d.item k).builder? with
    | none => return .missing
    | some b => do return .site (← b.resolveOperands ops)
  | .callableType k ops =>
    match (d.item k).factory? with
    | none => return .missing
    | some f => do return .callable (← f.callableType ops)
  | .bootstrap k binder =>
    match (d.item k).site? with
    | none => return .missing
    | some x => do
      x.bootstrap binder
      return .done

/-- The operands of the step are drawn from the named types of the platform. -/
def IsNamed (p : Platform) : UnitStep → Prop
  | .resolve _ sh => ∀ x ∈ sh.types, p.IsNamed x
  | .resolveOperands _ ops | .callableType _ ops => ∀ x ∈ ops.types, p.IsNamed x
  | _ => True

end UnitStep

/-! ## Two desks -/

/-- The items on the desks of a unit in two programs, by the steps that have brought them. -/
abbrev Pairs := List (Except Failure Item × Except Failure Item)

/-- The containers are on the desks, brought by the same step. -/
def Pairs.HasContainers (m : Pairs) (c c' : Container) : Prop :=
  (Except.ok (.container c), Except.ok (.container c')) ∈ m

/-- The factories are on the desks, brought by the same step. -/
def Pairs.HasFactories (m : Pairs) (f f' : SiteFactory) : Prop :=
  (Except.ok (.factory f), Except.ok (.factory f')) ∈ m

/-- The items play the same part for the unit in the two programs. -/
inductive Item.Twins (unit : String) (m : Pairs) (w w' : Program) : Item → Item → Prop
  | container {c c' : Container} (text : c'.text = c.text) (left : c.serial < w.store.types.next)
      (right : c'.serial < w'.store.types.next) : Twins unit m w w' (.container c) (.container c')
  | factory {f f' : SiteFactory} (pair : m.HasContainers f.container f'.container)
      (left : f ∈ w.factories ∧ f.registry.unit = unit)
      (right : f' ∈ w'.factories ∧ f'.registry.unit = unit) :
      Twins unit m w w' (.factory f) (.factory f')
  | builder {f f' : SiteFactory} {b b' : SiteBuilder} (pair : m.HasFactories f f')
      (twins : b.Twins f f' b') (left : b.cell ∈ w.cells) (right : b'.cell ∈ w'.cells) :
      Twins unit m w w' (.builder b) (.builder b')
  | site {f f' : SiteFactory} {x x' : Site} (pair : m.HasFactories f f')
      (twins : x.Twins f f' x') : Twins unit m w w' (.site x) (.site x')
  | callable {i i' : Instance} (text : i'.text = i.text) :
      Twins unit m w w' (.callable i) (.callable i')
  | done : Twins unit m w w' .done .done
  | missing : Twins unit m w w' .missing .missing

/-- The unit has come equally far in the two programs: its items play the same parts, its pages and
sheets are the same, and the same notes have been made for it. -/
structure Alongside (unit : String) (m : Pairs) (N : List ((SiteFactory × SiteFactory) × Note))
    (w w' : Program) : Prop where
  items : ∀ e ∈ m, Agree (Item.Twins unit m w w') e.1 e.2
  containers : ∀ c c' g g', m.HasContainers c c' → m.HasContainers g g' →
    (c.serial = g.serial ↔ c'.serial = g'.serial)
  factories : ∀ f f' g g', m.HasFactories f f' → m.HasFactories g g' →
    (f.serial = g.serial ↔ f'.serial = g'.serial)
  pages : ∀ c c', m.HasContainers c c' → w.store.page c.serial = w'.store.page c'.serial
  sheets : ∀ f f', m.HasFactories f f' → w.store.sheet f.serial = w'.store.sheet f'.serial
  registry : (w.store.registryOf? unit).isSome = (w'.store.registryOf? unit).isSome
  noted : ∀ e ∈ N, m.HasFactories e.1.1 e.1.2
  left : w.journal.filter (fun e => e.1.registry.unit = unit) = N.map fun e => (e.1.1, e.2)
  right : w'.journal.filter (fun e => e.1.registry.unit = unit) = N.map fun e => (e.1.2, e.2)

/-- A step of a unit that has come to `o` has gone from the one program to the other and has not
gone beyond what is on the desk of the unit. -/
structure Ventures (p : Platform) (unit : String) (d : Desk) (o : Except Failure Item)
    (w w₁ : Program) : Prop where
  orderly : Orderly p w₁
  types : w.store.types.next ≤ w₁.store.types.next
  cells : w.cells ⊆ w₁.cells
  factories : w.factories ⊆ w₁.factories
  pages : ∀ n < w.store.types.next, (∀ c, .ok (.container c) ∈ d → c.serial ≠ n) →
    w₁.store.page n = w.store.page n
  sheets : ∀ n < w.store.next, (∀ f, .ok (.factory f) ∈ d → f.serial ≠ n) →
    w₁.store.sheet n = w.store.sheet n
  registry : ∀ v, v ≠ unit → w₁.store.registryOf? v = w.store.registryOf? v
  journal : ∀ v, v ≠ unit → w₁.journal.filter (fun e => e.1.registry.unit = v) =
    w.journal.filter fun e => e.1.registry.unit = v
  fresh : ∀ c, o = .ok (.container c) → w.store.types.next ≤ c.serial

section Items

variable {unit : String} {m m₁ : Pairs} {N : List ((SiteFactory × SiteFactory) × Note)}
variable {w w' w₁ w₁' : Program} {i i' : Item}

/-- Items keep their parts as the programs go on. -/
lemma Item.Twins.mono (h : Item.Twins unit m w w' i i') (hm : m ⊆ m₁)
    (ht : w.store.types.next ≤ w₁.store.types.next)
    (ht' : w'.store.types.next ≤ w₁'.store.types.next) (hc : w.cells ⊆ w₁.cells)
    (hc' : w'.cells ⊆ w₁'.cells) (hf : w.factories ⊆ w₁.factories)
    (hf' : w'.factories ⊆ w₁'.factories) : Item.Twins unit m₁ w₁ w₁' i i' := by
  cases h with
  | container text left right => exact .container text (left.trans_le ht) (right.trans_le ht')
  | factory pair left right =>
      exact .factory (hm pair) ⟨hf left.1, left.2⟩ ⟨hf' right.1, right.2⟩
  | builder pair twins left right => exact .builder (hm pair) twins (hc left) (hc' right)
  | site pair twins => exact .site (hm pair) twins
  | callable text => exact .callable text
  | done => exact .done
  | missing => exact .missing

lemma Pairs.HasContainers.left {c c' : Container} (h : m.HasContainers c c') :
    .ok (.container c) ∈ m.map Prod.fst :=
  List.mem_map.mpr ⟨_, h, rfl⟩

lemma Pairs.HasContainers.right {c c' : Container} (h : m.HasContainers c c') :
    .ok (.container c') ∈ m.map Prod.snd :=
  List.mem_map.mpr ⟨_, h, rfl⟩

lemma Pairs.HasFactories.left {f f' : SiteFactory} (h : m.HasFactories f f') :
    .ok (.factory f) ∈ m.map Prod.fst :=
  List.mem_map.mpr ⟨_, h, rfl⟩

lemma Pairs.HasFactories.right {f f' : SiteFactory} (h : m.HasFactories f f') :
    .ok (.factory f') ∈ m.map Prod.snd :=
  List.mem_map.mpr ⟨_, h, rfl⟩

lemma Pairs.hasContainers_concat {o o' : Except Failure Item} {c c' : Container} :
    Pairs.HasContainers (m ++ [(o, o')]) c c' ↔
      m.HasContainers c c' ∨ o = .ok (.container c) ∧ o' = .ok (.container c') := by
  rw [HasContainers, HasContainers, List.mem_append, List.mem_singleton, Prod.mk.injEq,
    eq_comm (b := o), eq_comm (b := o')]

lemma Pairs.hasFactories_concat {o o' : Except Failure Item} {f f' : SiteFactory} :
    Pairs.HasFactories (m ++ [(o, o')]) f f' ↔
      m.HasFactories f f' ∨ o = .ok (.factory f) ∧ o' = .ok (.factory f') := by
  rw [HasFactories, HasFactories, List.mem_append, List.mem_singleton, Prod.mk.injEq,
    eq_comm (b := o), eq_comm (b := o')]

namespace Alongside

lemma twins_of_mem (h : Alongside unit m N w w') (hmem : (.ok i, .ok i') ∈ m) :
    Item.Twins unit m w w' i i' :=
  (h.items _ hmem).of_ok

/-- A step refers to items that have been brought by the same step, or to nothing in both. -/
lemma item_cases (h : Alongside unit m N w w') (k : Nat) :
    ∃ i i', Desk.item (m.map Prod.fst) k = i ∧ Desk.item (m.map Prod.snd) k = i' ∧
      Item.Twins unit m w w' i i' ∧ (i ≠ .missing → (.ok i, .ok i') ∈ m) := by
  rw [Desk.item, Desk.item, List.getElem?_map, List.getElem?_map]
  rcases hk : m[k]? with _ | ⟨o, o'⟩
  · exact ⟨.missing, .missing, rfl, rfl, .missing, fun hne => absurd rfl hne⟩
  · have hmem := List.mem_of_getElem? hk
    have hagree := h.items _ hmem
    simp only at hagree
    cases hagree with
    | ok htwins => exact ⟨_, _, rfl, rfl, htwins, fun _ => hmem⟩
    | error e => exact ⟨.missing, .missing, rfl, rfl, .missing, fun hne => absurd rfl hne⟩

lemma factory_of_mem (h : Alongside unit m N w w') {f f' : SiteFactory}
    (hmem : m.HasFactories f f') :
    m.HasContainers f.container f'.container ∧ (f ∈ w.factories ∧ f.registry.unit = unit) ∧
      f' ∈ w'.factories ∧ f'.registry.unit = unit := by
  cases h.twins_of_mem hmem with
  | factory pair left right => exact ⟨pair, left, right⟩

lemma container_of_mem (h : Alongside unit m N w w') {c c' : Container}
    (hmem : m.HasContainers c c') :
    c'.text = c.text ∧ c.serial < w.store.types.next ∧ c'.serial < w'.store.types.next := by
  cases h.twins_of_mem hmem with
  | container text left right => exact ⟨text, left, right⟩

/-- One more item on each desk. -/
lemma append (h : Alongside unit m N w w') {o o' : Except Failure Item} {more}
    (ht : w.store.types.next ≤ w₁.store.types.next)
    (ht' : w'.store.types.next ≤ w₁'.store.types.next) (hc : w.cells ⊆ w₁.cells)
    (hc' : w'.cells ⊆ w₁'.cells) (hf : w.factories ⊆ w₁.factories)
    (hf' : w'.factories ⊆ w₁'.factories) (hagree : Agree (Item.Twins unit m w₁ w₁') o o')
    (hfresh : ∀ c c', o = .ok (.container c) → o' = .ok (.container c') →
      w.store.types.next ≤ c.serial ∧ w'.store.types.next ≤ c'.serial)
    (hnew : ∀ f f', o = .ok (.factory f) → o' = .ok (.factory f') →
      (∀ g ∈ w.factories, g.serial ≠ f.serial) ∧ ∀ g ∈ w'.factories, g.serial ≠ f'.serial)
    (hpages : ∀ c c', Pairs.HasContainers (m ++ [(o, o')]) c c' →
      w₁.store.page c.serial = w₁'.store.page c'.serial)
    (hsheets : ∀ f f', Pairs.HasFactories (m ++ [(o, o')]) f f' →
      w₁.store.sheet f.serial = w₁'.store.sheet f'.serial)
    (hregistry : (w₁.store.registryOf? unit).isSome = (w₁'.store.registryOf? unit).isSome)
    (hnoted : ∀ e ∈ more, m.HasFactories e.1.1 e.1.2)
    (hleft : w₁.journal.filter (fun e => e.1.registry.unit = unit) =
      w.journal.filter (fun e => e.1.registry.unit = unit) ++ more.map fun e => (e.1.1, e.2))
    (hright : w₁'.journal.filter (fun e => e.1.registry.unit = unit) =
      w'.journal.filter (fun e => e.1.registry.unit = unit) ++ more.map fun e => (e.1.2, e.2)) :
    Alongside unit (m ++ [(o, o')]) (N ++ more) w₁ w₁' := by
  have hm : m ⊆ m ++ [(o, o')] := List.subset_append_left _ _
  refine
    { items := fun e he => ?_
      containers := fun c c' g g' hcc hgg => ?_
      factories := fun f f' g g' hff hgg => ?_
      pages := hpages
      sheets := hsheets
      registry := hregistry
      noted := fun e he => ?_
      left := ?_
      right := ?_ }
  · rcases List.mem_append.mp he with he | he
    · exact (h.items e he).mono fun _ _ _ _ htw => htw.mono hm ht ht' hc hc' hf hf'
    · rw [List.mem_singleton.mp he]
      exact hagree.mono fun _ _ _ _ htw => htw.mono hm (le_refl _) (le_refl _)
        (List.Subset.refl _) (List.Subset.refl _) (List.Subset.refl _) (List.Subset.refl _)
  · -- a new container has a serial of its own on both sides
    rcases Pairs.hasContainers_concat.mp hcc with hcc | ⟨ho, ho'⟩ <;>
      rcases Pairs.hasContainers_concat.mp hgg with hgg | ⟨hp, hp'⟩
    · exact h.containers c c' g g' hcc hgg
    · obtain ⟨-, hlt, hlt'⟩ := h.container_of_mem hcc
      obtain ⟨hle, hle'⟩ := hfresh g g' hp hp'
      exact iff_of_false (hlt.trans_le hle).ne (hlt'.trans_le hle').ne
    · obtain ⟨-, hlt, hlt'⟩ := h.container_of_mem hgg
      obtain ⟨hle, hle'⟩ := hfresh c c' ho ho'
      exact iff_of_false (hlt.trans_le hle).ne' (hlt'.trans_le hle').ne'
    · rw [ho] at hp
      rw [ho'] at hp'
      cases hp
      cases hp'
      exact iff_of_true rfl rfl
  · rcases Pairs.hasFactories_concat.mp hff with hff | ⟨ho, ho'⟩ <;>
      rcases Pairs.hasFactories_concat.mp hgg with hgg | ⟨hp, hp'⟩
    · exact h.factories f f' g g' hff hgg
    · obtain ⟨-, hmem, hmem'⟩ := h.factory_of_mem hff
      obtain ⟨hne, hne'⟩ := hnew g g' hp hp'
      exact iff_of_false (hne f hmem.1) (hne' f' hmem'.1)
    · obtain ⟨-, hmem, hmem'⟩ := h.factory_of_mem hgg
      obtain ⟨hne, hne'⟩ := hnew f f' ho ho'
      exact iff_of_false (hne g hmem.1).symm (hne' g' hmem'.1).symm
    · rw [ho] at hp
      rw [ho'] at hp'
      cases hp
      cases hp'
      exact iff_of_true rfl rfl
  · rcases List.mem_append.mp he with he | he
    · exact hm (h.noted e he)
    · exact hm (hnoted e he)
  · rw [hleft, h.left, List.map_append]
  · rw [hright, h.right, List.map_append]

end Alongside

end Items

/-! ## One step -/

/-- The step of a unit that has come to `o` and `o'` keeps the desks alongside, and in both programs
it stays within what is the unit's own. -/
def Onward (p : Platform) (unit : String) (m : Pairs) (w w' : Program) (o o' : Except Failure Item)
    (s s' : Store) : Prop :=
  ∃ (w₁ w₁' : Program) (N : List ((SiteFactory × SiteFactory) × Note)), w₁.store = s ∧
    w₁'.store = s' ∧ Alongside unit (m ++ [(o, o')]) N w₁ w₁' ∧
    Ventures p unit (m.map Prod.fst) o w w₁ ∧ Ventures p unit (m.map Prod.snd) o' w' w₁'

section Step

variable {p : Platform} {unit : String} {m : Pairs}
variable {N : List ((SiteFactory × SiteFactory) × Note)} {w w' : Program} {d : Desk}

lemma Ventures.idle (hw : Orderly p w) : Ventures p unit d (.ok .missing) w w where
  orderly := hw
  types := le_refl _
  cells := List.Subset.refl _
  factories := List.Subset.refl _
  pages _ _ _ := rfl
  sheets _ _ _ := rfl
  registry _ _ := rfl
  journal _ _ := rfl
  fresh c hc := by cases hc

/-- A step that refers to nothing. -/
lemma Alongside.idle (h : Alongside unit m N w w') (hw : Orderly p w) (hw' : Orderly p w') :
    Onward p unit m w w' (.ok .missing) (.ok .missing) w.store w'.store := by
  have hrefl := fun (l : List Cell) => List.Subset.refl l
  have hrefl' := fun (l : List SiteFactory) => List.Subset.refl l
  refine ⟨w, w', N ++ [], rfl, rfl, ?_, .idle hw, .idle hw'⟩
  refine h.append (le_refl _) (le_refl _) (hrefl _) (hrefl _) (hrefl' _) (hrefl' _) (.ok .missing)
    (fun c c' hc => by cases hc) (fun f f' hf => by cases hf) (fun c c' hcc => ?_)
    (fun f f' hff => ?_) h.registry (fun e he => by cases he) (by simp) (by simp)
  · rcases Pairs.hasContainers_concat.mp hcc with hcc | ⟨ho, -⟩
    · exact h.pages c c' hcc
    · cases ho
  · rcases Pairs.hasFactories_concat.mp hff with hff | ⟨ho, -⟩
    · exact h.sheets f f' hff
    · cases ho

/-- A container is made. -/
lemma Ventures.newContainer (hw : Orderly p w) (ns name : String) :
    Ventures p unit d (.ok (.container ⟨w.store.types.next, ns, name⟩)) w { w with
      store := w.store.reserve
      client := {.container ⟨w.store.types.next, ns, name⟩} ∪ w.client } where
  orderly := hw.reserve ns name
  types := Nat.le_succ _
  cells := List.Subset.refl _
  factories := List.Subset.refl _
  pages _ _ _ := rfl
  sheets _ _ _ := rfl
  registry _ _ := rfl
  journal _ _ := rfl
  fresh c hc := by
    cases hc
    exact le_refl _

lemma Alongside.newContainer (h : Alongside unit m N w w') (hw : Orderly p w) (hw' : Orderly p w')
    (ns name : String) :
    Onward p unit m w w' (.ok (.container ⟨w.store.types.next, ns, name⟩))
      (.ok (.container ⟨w'.store.types.next, ns, name⟩)) w.store.reserve w'.store.reserve := by
  have hrefl := fun (l : List Cell) => List.Subset.refl l
  have hrefl' := fun (l : List SiteFactory) => List.Subset.refl l
  refine ⟨_, _, N ++ [], rfl, rfl, ?_, .newContainer hw ns name, .newContainer hw' ns name⟩
  refine h.append (Nat.le_succ _) (Nat.le_succ _) (hrefl _) (hrefl _) (hrefl' _) (hrefl' _)
    (.ok (.container rfl (Nat.lt_succ_self _) (Nat.lt_succ_self _))) (fun c c' hc hc' => ?_)
    (fun f f' hf => by cases hf) (fun c c' hcc => ?_) (fun f f' hff => ?_) h.registry
    (fun e he => by cases he) (by simp) (by simp)
  · cases hc
    cases hc'
    exact ⟨le_refl _, le_refl _⟩
  · rcases Pairs.hasContainers_concat.mp hcc with hcc | ⟨ho, ho'⟩
    · exact h.pages c c' hcc
    · cases ho
      cases ho'
      exact (hw.pages _ (le_refl _)).trans (hw'.pages _ (le_refl _)).symm
  · rcases Pairs.hasFactories_concat.mp hff with hff | ⟨ho, -⟩
    · exact h.sheets f f' hff
    · cases ho

/-- A factory is made. -/
lemma Ventures.newFactory (hw : Orderly p w) {c : Container} (hc : c.serial < w.store.types.next)
    {o : Except Failure Registry} {s : Store}
    (hrun : (UnitTable.forUnit ⟨0⟩ unit).run w.store = (o, s)) :
    ∃ r, o = .ok r ∧ r.unit = unit ∧ s.registryOf? unit = some r ∧
      Ventures p unit d (.ok (.factory ⟨s.next, .ofPlatform p, c, r⟩)) w { w with
        store := s.hire
        factories := w.factories ++ [⟨s.next, .ofPlatform p, c, r⟩] } := by
  obtain ⟨r, rfl, hunit, hr, horderly, hother⟩ := hw.forUnit hrun
  obtain ⟨hpages, hsheets, htypes, -⟩ := forUnit_frame hrun
  refine ⟨r, rfl, hunit, hr, ?_⟩
  refine
    { orderly := horderly.hire (htypes ▸ hc) (hunit.symm ▸ hr)
      types := htypes ▸ le_refl _
      cells := List.Subset.refl _
      factories := List.subset_append_left _ _
      pages := fun n _ _ => hpages n
      sheets := fun n _ _ => hsheets n
      registry := hother
      journal := fun _ _ => rfl
      fresh := fun c hc => by cases hc }

lemma Alongside.newFactory (h : Alongside unit m N w w') (hw : Orderly p w) (hw' : Orderly p w')
    {c c' : Container} (hpair : m.HasContainers c c') {o o' : Except Failure Registry}
    {s s' : Store} (hrun : (UnitTable.forUnit ⟨0⟩ unit).run w.store = (o, s))
    (hrun' : (UnitTable.forUnit ⟨0⟩ unit).run w'.store = (o', s')) :
    ∃ r r', o = .ok r ∧ o' = .ok r' ∧
      Onward p unit m w w' (.ok (.factory ⟨s.next, .ofPlatform p, c, r⟩))
        (.ok (.factory ⟨s'.next, .ofPlatform p, c', r'⟩)) s.hire s'.hire := by
  obtain ⟨-, hc, hc'⟩ := h.container_of_mem hpair
  obtain ⟨hpages, hsheets, -, hnext⟩ := forUnit_frame hrun
  obtain ⟨hpages', hsheets', -, hnext'⟩ := forUnit_frame hrun'
  obtain ⟨r, rfl, hunit, hr, hv⟩ := Ventures.newFactory hw hc hrun
  obtain ⟨r', rfl, hunit', hr', hv'⟩ := Ventures.newFactory hw' hc' hrun'
  refine ⟨r, r', rfl, rfl, _, _, N ++ [], rfl, rfl, ?_, hv, hv'⟩
  refine h.append hv.types hv'.types hv.cells hv'.cells hv.factories hv'.factories
    (.ok (.factory hpair ⟨by simp, hunit⟩ ⟨by simp, hunit'⟩)) (fun c c' hc => by cases hc)
    (fun f f' hf hf' => ?_) (fun c c' hcc => ?_) (fun f f' hff => ?_) ?_ (fun e he => by cases he)
    (by simp) (by simp)
  · cases hf
    cases hf'
    exact ⟨fun g hg => ((hw.bounds g hg).1.trans_le hnext).ne,
      fun g hg => ((hw'.bounds g hg).1.trans_le hnext').ne⟩
  · rcases Pairs.hasContainers_concat.mp hcc with hcc | ⟨ho, -⟩
    · exact (hpages _).trans ((h.pages c c' hcc).trans (hpages' _).symm)
    · cases ho
  · rcases Pairs.hasFactories_concat.mp hff with hff | ⟨ho, ho'⟩
    · exact (hsheets _).trans ((h.sheets f f' hff).trans (hsheets' _).symm)
    · cases ho
      cases ho'
      have hblank : s.sheet s.next = .blank := (hsheets _).trans (hw.sheets _ hnext)
      have hblank' : s'.sheet s'.next = .blank := (hsheets' _).trans (hw'.sheets _ hnext')
      exact hblank.trans hblank'.symm
  · exact (congrArg Option.isSome hr).trans (congrArg Option.isSome hr').symm

/-- A factory of the unit, or one of its builders and sites, is asked something. -/
lemma Ventures.of_steps (hw : Orderly p w) {f : SiteFactory} (hf : f ∈ w.factories)
    (hunit : f.registry.unit = unit) (hd : .ok (.factory f) ∈ d)
    (hcontainer : .ok (.container f.container) ∈ d) {L : List Cell} {notes : List Note} {s : Store}
    (hs : f.Steps p w.client w.cells L (journalCalls w.journal) notes w.store s)
    {o : Except Failure Item} (ho : ∀ c, o ≠ .ok (.container c)) :
    Ventures p unit d o w { w with
      store := s
      cells := L
      journal := w.journal ++ notes.map fun n => (f, n) } where
  orderly := hw.steps hf hs
  types := hs.grows.types.next
  cells := hs.cells
  factories := List.Subset.refl _
  pages n _ hn := hs.apart (SiteFactory.apart_page (hn _ hcontainer))
  sheets n _ hn := hs.apart (SiteFactory.apart_sheet (hn _ hd))
  registry v _ := hs.registryOf?_eq v
  journal v hv := by
    rw [List.filter_append, filter_entries fun g => g.registry.unit = v, hunit,
      if_neg (Ne.symm hv), List.append_nil]
  fresh c hc := absurd hc (ho c)

/-- Factories that have been brought by the same step start abreast. -/
lemma Alongside.abreast (h : Alongside unit m N w w') (hw : Orderly p w) (hw' : Orderly p w')
    {f f' : SiteFactory} (hpair : m.HasFactories f f') :
    f.Abreast p f' w.toWorld w'.toWorld (journalCalls w.journal) (journalCalls w'.journal) []
      w.cells w'.cells w.store w'.store := by
  obtain ⟨hcontainers, hleft, hright⟩ := h.factory_of_mem hpair
  obtain ⟨htext, -, -⟩ := h.container_of_mem hcontainers
  refine .start ⟨hw.services f hleft.1, hw'.services f' hright.1, htext⟩ hw.valid hw'.valid
    hw.ledger hw'.ledger (Prod.ext ?_ ?_)
  · exact h.pages _ _ hcontainers
  · exact h.sheets _ _ hpair

lemma Alongside.asked (h : Alongside unit m N w w') (hw : Orderly p w) (hw' : Orderly p w')
    {f f' : SiteFactory} (hpair : m.HasFactories f f') {notes : List Note} {L L' : List Cell}
    {s s' : Store}
    (hab : f.Abreast p f' w.toWorld w'.toWorld (journalCalls w.journal) (journalCalls w'.journal)
      notes L L' s s')
    {o o' : Except Failure Item}
    (hagree : Agree (fun i i' => i.container? = none ∧ i.factory? = none ∧
      Item.Twins unit m
        { w with store := s, cells := L, journal := w.journal ++ notes.map fun n => (f, n) }
        { w' with store := s', cells := L', journal := w'.journal ++ notes.map fun n => (f', n) }
        i i') o o') :
    Onward p unit m w w' o o' s s' := by
  obtain ⟨hcontainers, hleft, hright⟩ := h.factory_of_mem hpair
  have hplain : (∀ c, o ≠ .ok (.container c)) ∧ ∀ g, o ≠ .ok (.factory g) := by
    cases hagree with
    | ok hq =>
        refine ⟨fun c hc => ?_, fun g hg => ?_⟩
        · cases hc
          cases hq.1
        · cases hg
          cases hq.2.1
    | error e => exact ⟨by rintro c ⟨⟩, by rintro g ⟨⟩⟩
  have hplain' : ∀ c, o' ≠ .ok (.container c) := by
    rintro c rfl
    cases hagree with
    | ok hq =>
        obtain ⟨hnone, -, htwins⟩ := hq
        cases htwins
        cases hnone
  have hv := Ventures.of_steps hw hleft.1 hleft.2 hpair.left hcontainers.left hab.left
    hplain.1
  have hv' := Ventures.of_steps hw' hright.1 hright.2 hpair.right hcontainers.right hab.right
    hplain'
  have hjournal : ∀ (J : List (SiteFactory × Note)) (g : SiteFactory), g.registry.unit = unit →
      (J ++ notes.map fun n => (g, n)).filter (fun e => e.1.registry.unit = unit) =
        J.filter (fun e => e.1.registry.unit = unit) ++ notes.map fun n => (g, n) := by
    intro J g hg
    rw [List.filter_append, filter_entries fun g => g.registry.unit = unit, if_pos hg]
  refine ⟨_, _, N ++ notes.map fun n => ((f, f'), n), rfl, rfl, ?_, hv, hv'⟩
  refine h.append hv.types hv'.types hv.cells hv'.cells hv.factories hv'.factories
    (hagree.mono fun _ _ _ _ hq => hq.2.2) (fun c c' hc => absurd hc (hplain.1 c))
    (fun g g' hg => absurd hg (hplain.2 g)) (fun c c' hcc => ?_) (fun g g' hgg => ?_) ?_
    (fun e he => ?_) ?_ ?_
  · -- the page of the container in hand is on the leaf, the others are out of reach
    have hcc := (Pairs.hasContainers_concat.mp hcc).resolve_right fun ho => hplain.1 c ho.1
    have hiff := h.containers _ _ _ _ hcontainers hcc
    by_cases hserial : f.container.serial = c.serial
    · rw [← hserial, ← hiff.mp hserial]
      exact Store.page_eq_of_leaf hab.leaf
    · have hserial' : f'.container.serial ≠ c'.serial := fun heq => hserial (hiff.mpr heq)
      exact (hab.left.apart (SiteFactory.apart_page hserial)).trans ((h.pages c c' hcc).trans
        (hab.right.apart (SiteFactory.apart_page hserial')).symm)
  · have hgg := (Pairs.hasFactories_concat.mp hgg).resolve_right fun ho => hplain.2 g ho.1
    have hiff := h.factories _ _ _ _ hpair hgg
    by_cases hserial : f.serial = g.serial
    · rw [← hserial, ← hiff.mp hserial]
      exact Store.sheet_eq_of_leaf hab.leaf
    · have hserial' : f'.serial ≠ g'.serial := fun heq => hserial (hiff.mpr heq)
      exact (hab.left.apart (SiteFactory.apart_sheet hserial)).trans ((h.sheets g g' hgg).trans
        (hab.right.apart (SiteFactory.apart_sheet hserial')).symm)
  · show (s.registryOf? unit).isSome = (s'.registryOf? unit).isSome
    rw [hab.left.registryOf?_eq, hab.right.registryOf?_eq]
    exact h.registry
  · obtain ⟨n, -, rfl⟩ := List.mem_map.mp he
    exact hpair
  · rw [hjournal _ f hleft.2, List.map_map]
    rfl
  · rw [hjournal _ f' hright.2, List.map_map]
    rfl

lemma run_bind_pure {α : Type} (x : StoreM α) (g : α → Item) (s : Store) :
    (x >>= fun a => Pure.pure (g a)).run s = ((x.run s).1.map g, (x.run s).2) := by
  rw [run_bind]
  rcases x.run s with ⟨_ | _, _⟩ <;> rfl

lemma Agree.map {α β : Type} {Q : α → β → Prop} {R : Item → Item → Prop} {o : Except Failure α}
    {o' : Except Failure β} (h : Agree Q o o') {g : α → Item} {g' : β → Item}
    (hR : ∀ a b, Q a b → R (g a) (g' b)) : Agree R (o.map g) (o'.map g') := by
  cases h with
  | ok hq => exact .ok (hR _ _ hq)
  | error e => exact .error e

/-- **One step of a unit** in two programs in which it has come equally far. -/
theorem Alongside.perform (h : Alongside unit m N w w') (hw : Orderly p w) (hw' : Orderly p w')
    {x : UnitStep} (hx : x.IsNamed p) {o o' : Except Failure Item} {s s' : Store}
    (hrun : (x.perform p unit (m.map Prod.fst)).run w.store = (o, s))
    (hrun' : (x.perform p unit (m.map Prod.snd)).run w'.store = (o', s')) :
    Onward p unit m w w' o o' s s' := by
  have hidle : ∀ {o o' : Except Failure Item} {s s' : Store},
      (pure .missing : StoreM Item).run w.store = (o, s) →
      (pure .missing : StoreM Item).run w'.store = (o', s') → Onward p unit m w w' o o' s s' := by
    intro o o' s s' hrun hrun'
    cases hrun
    cases hrun'
    exact h.idle hw hw'
  cases x with
  | newContainer ns name =>
      cases hrun
      cases hrun'
      exact h.newContainer hw hw' ns name
  | newFactory k =>
      obtain ⟨i, i', hi, hi', htwins, hmem⟩ := h.item_cases k
      rw [UnitStep.perform, hi] at hrun
      rw [UnitStep.perform, hi'] at hrun'
      cases htwins with
      | @container c c' text left right =>
          have hpair : m.HasContainers c c' := hmem (by rintro ⟨⟩)
          simp only [Item.container?, run_bind] at hrun hrun'
          rcases hr : (UnitTable.forUnit ⟨0⟩ unit).run w.store with ⟨q, t⟩
          rcases hr' : (UnitTable.forUnit ⟨0⟩ unit).run w'.store with ⟨q', t'⟩
          obtain ⟨r, r', rfl, rfl, honward⟩ := h.newFactory hw hw' hpair hr hr'
          rw [hr] at hrun
          rw [hr'] at hrun'
          cases hrun
          cases hrun'
          exact honward
      | _ => exact hidle hrun hrun'
  | beginSite k hint =>
      obtain ⟨i, i', hi, hi', htwins, hmem⟩ := h.item_cases k
      rw [UnitStep.perform, hi] at hrun
      rw [UnitStep.perform, hi'] at hrun'
      cases htwins with
      | @factory f f' pair left right =>
          have hpair : m.HasFactories f f' := hmem (by rintro ⟨⟩)
          simp only [Item.factory?, run_bind_pure] at hrun hrun'
          cases hrun
          cases hrun'
          obtain ⟨L, L', hab, -, -, hagree⟩ := (h.abreast hw hw' hpair).beginSite hint rfl rfl
          refine h.asked hw hw' hpair hab (hagree.map fun b b' hb => ⟨rfl, rfl, ?_⟩)
          exact .builder hpair hb.1 hb.2.1 hb.2.2
      | _ => exact hidle hrun hrun'
  | resolve k sh =>
      obtain ⟨i, i', hi, hi', htwins, hmem⟩ := h.item_cases k
      rw [UnitStep.perform, hi] at hrun
      rw [UnitStep.perform, hi'] at hrun'
      cases htwins with
      | @builder f f' b b' hpair hb left right =>
          simp only [Item.builder?, run_bind_pure] at hrun hrun'
          cases hrun
          cases hrun'
          obtain ⟨notes, hab, hagree⟩ := (h.abreast hw hw' hpair).resolve hb left right hx rfl rfl
          exact h.asked hw hw' hpair hab (hagree.map fun y y' hy => ⟨rfl, rfl, .site hpair hy⟩)
      | _ => exact hidle hrun hrun'
  | resolveOperands k ops =>
      obtain ⟨i, i', hi, hi', htwins, hmem⟩ := h.item_cases k
      rw [UnitStep.perform, hi] at hrun
      rw [UnitStep.perform, hi'] at hrun'
      cases htwins with
      | @builder f f' b b' hpair hb left right =>
          simp only [Item.builder?, run_bind_pure] at hrun hrun'
          cases hrun
          cases hrun'
          obtain ⟨notes, hab, hagree⟩ :=
            (h.abreast hw hw' hpair).resolveOperands hb left right hx rfl rfl
          exact h.asked hw hw' hpair hab (hagree.map fun y y' hy => ⟨rfl, rfl, .site hpair hy⟩)
      | _ => exact hidle hrun hrun'
  | callableType k ops =>
      obtain ⟨i, i', hi, hi', htwins, hmem⟩ := h.item_cases k
      rw [UnitStep.perform, hi] at hrun
      rw [UnitStep.perform, hi'] at hrun'
      cases htwins with
      | @factory f f' pair left right =>
          have hpair : m.HasFactories f f' := hmem (by rintro ⟨⟩)
          simp only [Item.factory?, run_bind_pure] at hrun hrun'
          cases hrun
          cases hrun'
          obtain ⟨notes, hab, hagree⟩ := (h.abreast hw hw' hpair).callableType hx rfl rfl
          exact h.asked hw hw' hpair hab (hagree.map fun c c' hc => ⟨rfl, rfl, .callable hc⟩)
      | _ => exact hidle hrun hrun'
  | bootstrap k binder =>
      obtain ⟨i, i', hi, hi', htwins, hmem⟩ := h.item_cases k
      rw [UnitStep.perform, hi] at hrun
      rw [UnitStep.perform, hi'] at hrun'
      cases htwins with
      | @site f f' y y' hpair hy =>
          simp only [Item.site?, run_bind_pure] at hrun hrun'
          cases hrun
          cases hrun'
          obtain ⟨hab, hagree⟩ := (h.abreast hw hw' hpair).bootstrap hy binder rfl rfl
          exact h.asked hw hw' hpair hab (hagree.map fun _ _ _ => ⟨rfl, rfl, .done⟩)
      | _ => exact hidle hrun hrun'

end Step

end CallSites
