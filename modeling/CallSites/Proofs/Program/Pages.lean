import CallSites.Proofs.Frame
import CallSites.Proofs.Program.Cells

/-!
# Pages

What the store holds about a container is spread over several maps: its fields, its static
initializer and, by the identity of each field, the final type, the binding of the cell in it and
how far its site has come.  A `Page` collects all of it in the form in which it is shown, so that
it does not mention serials any more.  What the store holds about a factory is collected in a
`Sheet`.

Every operation on sites writes to the page of one container and the sheet of one factory.  What it
writes to them is a function of what was there (`Store.page_declare`, `Store.page_seal` and so on),
and everything else is out of its reach (`SiteFactory.Apart`).
-/

namespace CallSites

/-! ## Pages and sheets -/

/-- What the store holds about a field, as it is shown. -/
structure Slot where
  /-- The final type, if the field has one. -/
  final : Option String
  /-- The type of the cell in the field, if it is bound. -/
  bound : Option String
  resolved : Bool
  bootstrapped : Bool

/-- A declared field, with the type it is declared with. -/
structure FieldLine where
  name : String
  access : Access
  static : Bool
  provisional : String

/-- What the store holds about a container, as it is shown. -/
structure Page where
  fields : List FieldLine
  code : List String
  /-- By the names of the fields. -/
  slot : String → Slot

/-- A site, as it is shown. -/
structure SiteView where
  index : Nat
  shape : Shape
  cell : String
  callable : String
  target : String
  create : String

/-- What the store holds about a factory, as it is shown. -/
structure Sheet where
  named : Nat
  sites : List SiteView

/-- The site as it is shown. -/
def Site.view (x : Site) : SiteView :=
  ⟨x.index, x.shape, x.cell.name, x.callable.text, x.target.text, x.create.text⟩

/-- The field as it is declared under a name. -/
def Field.line (f : Field) (name : String) : FieldLine :=
  ⟨name, f.access, f.static, typeText f.provisional⟩

namespace Store

/-- What the store holds about a field. -/
def slot (s : Store) (id : FieldId) : Slot :=
  ⟨(s.finals.find? id).map Ty.text, (s.bindings.find? id).map fun b => b.type.text,
    s.resolved.contains id, s.bootstrapped.contains id⟩

/-- What the store holds about the container with a given serial. -/
def page (n : Nat) (s : Store) : Page :=
  ⟨(s.fields.getD n ∅).entries.map fun e => e.2.line e.1, (s.initializers.getD n []).map Instr.text,
    fun name => s.slot (.declared n name)⟩

/-- What the store holds about the factory with a given serial. -/
def sheet (n : Nat) (s : Store) : Sheet := ⟨s.named.getD n 0, (s.sites.getD n []).map Site.view⟩

/-- What the store holds about a factory and its container. -/
def leaf (f : SiteFactory) (s : Store) : Page × Sheet :=
  (s.page f.container.serial, s.sheet f.serial)

end Store

/-- Every field is declared under its own name in its own container. -/
def Store.Owned (s : Store) : Prop :=
  ∀ n, ∀ e ∈ (s.fields.getD n ∅).entries, e.2.id = .declared n e.1 ∧ e.2.name = e.1

/-! ## Reading -/

section Read

variable {s : Store} {n : Nat} {name : String}

lemma Store.contains_iff {c : Container} :
    (s.containerFields c).contains name = true ↔
      name ∈ (s.page c.serial).fields.map FieldLine.name := by
  rw [OrderedMap.contains, Option.isSome_iff_ne_none, Ne, OrderedMap.find?_eq_none_iff, not_not,
    page, List.map_map]
  rfl

lemma Store.typeText_fieldType {f : Field} (hf : f.id = .declared n name) :
    typeText (s.fieldType f) = ((s.page n).slot name).final.getD (typeText f.provisional) := by
  rw [fieldType, hf]
  simp only [page, slot]
  cases s.finals.find? (.declared n name) <;> rfl

lemma Store.map_binding? {c : Cell} (hc : c.field.id = .declared n name) :
    (s.binding? c).map (fun b => b.type.text) = ((s.page n).slot name).bound := by
  rw [binding?, hc]
  rfl

lemma Store.isResolved_eq {b : SiteBuilder} (hb : b.cell.field.id = .declared n name) :
    s.isResolved b = ((s.page n).slot name).resolved := by
  rw [isResolved, hb]
  rfl

lemma Store.isBootstrapped_eq {x : Site} (hx : x.place.id = .declared n name) :
    s.isBootstrapped x = ((s.page n).slot name).bootstrapped := by
  rw [isBootstrapped, hx]
  rfl

end Read

/-! ## Writing -/

namespace Page

/-- The page with one more field. -/
def declare (g : Page) (l : FieldLine) : Page := { g with fields := g.fields ++ [l] }

/-- The page with a change to what it holds about a field. -/
def update (g : Page) (name : String) (h : Slot → Slot) : Page :=
  { g with slot := fun n => if n = name then h (g.slot n) else g.slot n }

/-- The page with one more instruction. -/
def emit (g : Page) (text : String) : Page := { g with code := g.code ++ [text] }

end Page

namespace Store

variable (s : Store) (n : Nat) (name : String)

lemma page_declare {s : Store} {c : Container} {name : String}
    (hfree : (s.containerFields c).find? name = none) (f : Field) :
    (s.declare c name f).page c.serial = (s.page c.serial).declare (f.line name) := by
  rw [page, Store.declare, OrderedMap.getD_insert_self,
    OrderedMap.entries_insert_of_find?_eq_none f hfree, List.map_append]
  rfl

/-- A change to what is held about one field of a container. -/
lemma page_update {s s' : Store} {n : Nat} {name : String} {h : Slot → Slot}
    (hfields : s'.fields = s.fields) (hcode : s'.initializers = s.initializers)
    (hslot : ∀ id, s'.slot id = if id = .declared n name then h (s.slot id) else s.slot id) :
    s'.page n = (s.page n).update name h := by
  have hslots : (fun name' => s'.slot (.declared n name')) =
      fun name' => if name' = name then h (s.slot (.declared n name'))
        else s.slot (.declared n name') := by
    funext name'
    rw [hslot]
    simp
  rw [page, hfields, hcode, hslots]
  rfl

lemma slot_seal (id id' : FieldId) (b : Binding) :
    (s.seal id b).slot id' = if id' = id then
      { s.slot id' with final := some b.type.text, bound := some b.type.text }
      else s.slot id' := by
  rw [slot, Store.seal, OrderedMap.find?_insert, OrderedMap.find?_insert]
  by_cases h : id = id'
  · simp [h, slot, Instance.text]
  · simp [h, Ne.symm h, slot]

lemma page_seal (b : Binding) :
    (s.seal (.declared n name) b).page n = (s.page n).update name fun x =>
      { x with final := some b.type.text, bound := some b.type.text } :=
  page_update rfl rfl fun _ => s.slot_seal _ _ _

lemma page_resolved :
    ({ s with resolved := .declared n name :: s.resolved } : Store).page n =
      (s.page n).update name fun x => { x with resolved := true } := by
  refine page_update rfl rfl fun id => ?_
  by_cases h : id = .declared n name
  · simp [h, slot]
  · simp [h, slot]

lemma page_bootstrapped :
    ({ s with bootstrapped := .declared n name :: s.bootstrapped } : Store).page n =
      (s.page n).update name fun x => { x with bootstrapped := true } := by
  refine page_update rfl rfl fun id => ?_
  by_cases h : id = .declared n name
  · simp [h, slot]
  · simp [h, slot]

lemma page_emit (c : Container) (i : Instr) :
    ({ s with initializers := s.initializers.insert c.serial (s.initializer c ++ [i]) } :
      Store).page c.serial = (s.page c.serial).emit i.text := by
  rw [page, OrderedMap.getD_insert_self, List.map_append]
  rfl

lemma sheet_named (k : Nat) :
    ({ s with named := s.named.insert n k } : Store).sheet n = { s.sheet n with named := k } := by
  rw [sheet, OrderedMap.getD_insert_self]
  rfl

lemma sheet_sites (l : List Site) :
    ({ s with sites := s.sites.insert n l } : Store).sheet n =
      { s.sheet n with sites := l.map Site.view } := by
  rw [sheet, OrderedMap.getD_insert_self]
  rfl

end Store

/-! ## What is out of reach -/

/-- What `π` reads is out of the reach of a factory. -/
structure SiteFactory.Apart {γ : Type} (π : Store → γ) (f : SiteFactory) : Prop where
  types : ∀ (s : Store) t, π { s with types := t } = π s
  registries : ∀ (s : Store) m, π { s with registries := m } = π s
  tallies : ∀ (s : Store) m, π { s with tallies := m } = π s
  named : ∀ (s : Store) k, π { s with named := s.named.insert f.serial k } = π s
  sites : ∀ (s : Store) l, π { s with sites := s.sites.insert f.serial l } = π s
  fields : ∀ (s : Store) name type, (s.containerFields f.container).contains name = false →
    π (s.declare f.container name (f.container.fieldOf name type .owner true)) = π s
  code : ∀ (s : Store) l,
    π { s with initializers := s.initializers.insert f.container.serial l } = π s
  finals : ∀ (s : Store) name t,
    π { s with finals := s.finals.insert (.declared f.container.serial name) t } = π s
  bindings : ∀ (s : Store) name b,
    π { s with bindings := s.bindings.insert (.declared f.container.serial name) b } = π s
  resolved : ∀ (s : Store) name,
    π { s with resolved := .declared f.container.serial name :: s.resolved } = π s
  bootstrapped : ∀ (s : Store) name,
    π { s with bootstrapped := .declared f.container.serial name :: s.bootstrapped } = π s

namespace SiteFactory

variable {f : SiteFactory} {n : Nat}

/-- The pages of other containers. -/
lemma apart_page (h : f.container.serial ≠ n) : f.Apart (Store.page n) := by
  have hid : ∀ name name', FieldId.declared f.container.serial name ≠ .declared n name' := by
    intro name name' heq
    exact h (FieldId.declared.inj heq).1
  have hid' : ∀ name name', FieldId.declared n name' ≠ .declared f.container.serial name :=
    fun name name' => (hid name name').symm
  refine ⟨fun _ _ => rfl, fun _ _ => rfl, fun _ _ => rfl, fun _ _ => rfl, fun _ _ => rfl,
    ?_, ?_, ?_, ?_, ?_, ?_⟩
  · intro s name type _
    rw [Store.page, Store.declare, OrderedMap.getD_insert_of_ne _ _ _ h]
    rfl
  · intro s l
    rw [Store.page, OrderedMap.getD_insert_of_ne _ _ _ h]
    rfl
  · intro s name t
    simp only [Store.page, Store.slot, OrderedMap.find?_insert_of_ne _ _ (hid name _)]
  · intro s name b
    simp only [Store.page, Store.slot, OrderedMap.find?_insert_of_ne _ _ (hid name _)]
  · intro s name
    simp [Store.page, Store.slot, Ne.symm h]
  · intro s name
    simp [Store.page, Store.slot, Ne.symm h]

/-- The sheets of other factories. -/
lemma apart_sheet (h : f.serial ≠ n) : f.Apart (Store.sheet n) := by
  refine ⟨fun _ _ => rfl, fun _ _ => rfl, fun _ _ => rfl, ?_, ?_, fun _ _ _ _ => rfl,
    fun _ _ => rfl, fun _ _ _ => rfl, fun _ _ _ => rfl, fun _ _ => rfl, fun _ _ => rfl⟩
  · intro s k
    rw [Store.sheet, OrderedMap.getD_insert_of_ne _ _ _ h]
    rfl
  · intro s l
    rw [Store.sheet, OrderedMap.getD_insert_of_ne _ _ _ h]
    rfl

/-- The serials given out and the tables of registries. -/
lemma apart_units (f : SiteFactory) : f.Apart fun s => (s.next, s.units) :=
  ⟨fun _ _ => rfl, fun _ _ => rfl, fun _ _ => rfl, fun _ _ => rfl, fun _ _ => rfl,
    fun _ _ _ _ => rfl, fun _ _ => rfl, fun _ _ _ => rfl, fun _ _ _ => rfl, fun _ _ => rfl,
    fun _ _ => rfl⟩

/-- Whether every field is declared under its own name. -/
lemma apart_owned (f : SiteFactory) : f.Apart Store.Owned := by
  refine ⟨fun _ _ => rfl, fun _ _ => rfl, fun _ _ => rfl, fun _ _ => rfl, fun _ _ => rfl, ?_,
    fun _ _ => rfl, fun _ _ _ => rfl, fun _ _ _ => rfl, fun _ _ => rfl, fun _ _ => rfl⟩
  intro s name type hfree
  rw [OrderedMap.contains, Option.isSome_eq_false_iff, Option.isNone_iff_eq_none] at hfree
  have hentries : ∀ n,
      ((s.declare f.container name (f.container.fieldOf name type .owner true)).fields.getD
        n ∅).entries = (s.fields.getD n ∅).entries ++
          if f.container.serial = n then [(name, f.container.fieldOf name type .owner true)]
          else [] := by
    intro n
    rw [Store.declare, OrderedMap.getD_insert]
    by_cases hn : f.container.serial = n
    · subst hn
      rw [if_pos rfl, if_pos rfl, OrderedMap.entries_insert_of_find?_eq_none _ hfree]
      rfl
    · simp [hn]
  refine propext ⟨fun h n e he => h n e ?_, fun h n e he => ?_⟩
  · rw [hentries]
    exact List.mem_append_left _ he
  · rw [hentries, List.mem_append] at he
    rcases he with hold | hnew
    · exact h n e hold
    · split at hnew
      · next hn =>
          rw [List.mem_singleton.mp hnew, ← hn]
          exact ⟨rfl, rfl⟩
      · cases hnew

/-- The cell of a factory in a field of its container. -/
def cellOf (f : SiteFactory) (name : String) (base : Ty) (target : Member) : Cell :=
  ⟨f.cells, f.container.fieldOf name (some base) .owner true, base, target⟩

end SiteFactory

section Apart

variable {γ : Type} {π : Store → γ} {f : SiteFactory} {s : Store}

lemma SiteFactory.Apart.resolve (h : f.Apart π) (y : Synthesizer) (sh : Shape) :
    Spares π (y.resolve sh) s :=
  Spares.resolve (fun s _ _ => h.types s _) h.registries h.tallies y sh

lemma SiteFactory.Apart.callableType (h : f.Apart π) (g : SiteFactory) (ops : Operands) :
    Spares π (g.callableType ops) s := by
  rw [SiteFactory.callableType]
  exact Spares.bind (Spares.derive g ops) fun sh s₁ _ => h.resolve _ _

lemma SiteFactory.Apart.beginSite (h : f.Apart π) (hint : String) :
    Spares π (f.beginSite hint) s := by
  apply Spares.beginSite
  exact Spares.allocate h.named h.fields hint

lemma SiteFactory.Apart.resolveSite (h : f.Apart π) {b : SiteBuilder} (hb : b.factory = f)
    {name : String} (hcell : b.cell.field.id = .declared f.container.serial name) (sh : Shape) :
    Spares π (b.resolve sh) s := by
  refine Spares.resolveSite h.types h.registries h.tallies ?_ ?_ ?_ ?_ sh
  · rw [hcell]
    exact fun s t => h.finals s name t
  · rw [hcell]
    exact fun s a => h.bindings s name a
  · rw [hcell]
    exact fun s => h.resolved s name
  · rw [hb]
    exact h.sites

lemma SiteFactory.Apart.resolveOperands (h : f.Apart π) {b : SiteBuilder} (hb : b.factory = f)
    {name : String} (hcell : b.cell.field.id = .declared f.container.serial name)
    (ops : Operands) : Spares π (b.resolveOperands ops) s := by
  rw [SiteBuilder.resolveOperands]
  exact Spares.bind (Spares.derive _ _) fun sh s₁ _ => h.resolveSite hb hcell sh

lemma SiteFactory.Apart.bootstrap (h : f.Apart π) {x : Site} (hx : x.container = f.container)
    {name : String} (hplace : x.place.id = .declared f.container.serial name)
    (binder : Option Ty) : Spares π (x.bootstrap binder) s := by
  refine Spares.bootstrap ?_ ?_ binder
  · rw [hx]
    exact h.code
  · rw [hplace]
    exact fun s => h.bootstrapped s name

end Apart

end CallSites
