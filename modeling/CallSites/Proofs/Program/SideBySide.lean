import CallSites.Proofs.Program.Likeness
import CallSites.Proofs.Program.Pages

/-!
# Sites in two programs

Two factories are twins when they work for one platform and their containers are shown alike.  They
may belong to programs with different histories, and their serials and the contents of their
registries may be different.  As long as their pages and sheets are the same, the same operation on
both has the same outcome and leaves the same pages and sheets.

Cells, builders and sites of twins correspond by the names of their fields.
-/

namespace CallSites

/-- The factories work for the platform and their containers are shown alike. -/
structure SiteFactory.Twins (p : Platform) (f f' : SiteFactory) : Prop where
  left : f.services = .ofPlatform p
  right : f'.services = .ofPlatform p
  text : f'.container.text = f.container.text

/-- The builders have been made by the factories for the same cell. -/
def SiteBuilder.Twins (f f' : SiteFactory) (b b' : SiteBuilder) : Prop :=
  ∃ name base target, b = ⟨f, f.cellOf name base target⟩ ∧ b' = ⟨f', f'.cellOf name base target⟩

/-- The sites have been made by the factories for the same cell and are shown alike. -/
structure Site.Twins (f f' : SiteFactory) (x x' : Site) : Prop where
  cell : ∃ name base target, x.cell = f.cellOf name base target ∧
    x'.cell = f'.cellOf name base target
  left : x.container = f.container
  right : x'.container = f'.container
  view : x'.view = x.view

section Twins

variable {p : Platform} {f f' : SiteFactory} {C C' : Set Ty} {L L' : List Cell} {s s' : Store}

lemma Store.page_eq_of_leaf (h : s.leaf f = s'.leaf f') :
    s.page f.container.serial = s'.page f'.container.serial :=
  congrArg Prod.fst h

lemma Store.sheet_eq_of_leaf (h : s.leaf f = s'.leaf f') : s.sheet f.serial = s'.sheet f'.serial :=
  congrArg Prod.snd h

/-! ## Beginning a site -/

lemma Mirrors.nextName (h : s.leaf f = s'.leaf f') (hint : String) :
    Mirrors (Store.leaf f) (Store.leaf f') (f.cells.nextName hint) (f'.cells.nextName hint) s s'
      fun name name' => name' = name := by
  have hpage := Store.page_eq_of_leaf h
  have hsheet := Store.sheet_eq_of_leaf h
  have hcount : s.allocated f.cells = s'.allocated f'.cells := congrArg Sheet.named hsheet
  rw [CellFactory.nextName, CellFactory.nextName]
  refine Mirrors.get_bind ?_
  refine Mirrors.bind (Mirrors.set ?_) fun _ _ s₁ s₁' _ _ _ h₁ => Mirrors.pure h₁ ?_
  · refine Prod.ext hpage ?_
    refine (s.sheet_named f.serial _).trans ((?_ : _ = _).trans (s'.sheet_named f'.serial _).symm)
    simp only [CellFactory.names, hcount, hsheet]
  · simp only [CellFactory.names, hcount]

lemma Mirrors.declare (hf : f.Twins p f') (h : s.leaf f = s'.leaf f') (name : String)
    (type : Option Ty) (access : Access) (static : Bool) :
    Mirrors (Store.leaf f) (Store.leaf f') (f.container.declare name type access static)
      (f'.container.declare name type access static) s s' fun a a' =>
        a = f.container.fieldOf name type access static ∧
          a' = f'.container.fieldOf name type access static := by
  have hpage := Store.page_eq_of_leaf h
  have hsheet := Store.sheet_eq_of_leaf h
  have hcontains : (s.containerFields f.container).contains name =
      (s'.containerFields f'.container).contains name := by
    rw [Bool.eq_iff_iff, Store.contains_iff, Store.contains_iff, hpage]
  rw [Container.declare, Container.declare]
  refine Mirrors.get_bind ?_
  dsimp only
  rw [hcontains, hf.text]
  rcases hfree : (s'.containerFields f'.container).contains name with _ | _
  · have hnone : ∀ {m : OrderedMap String Field}, m.contains name = false →
        m.find? name = none := by
      intro m hm
      rwa [OrderedMap.contains, Option.isSome_eq_false_iff, Option.isNone_iff_eq_none] at hm
    refine Mirrors.bind (Mirrors.set ?_) fun _ _ s₁ s₁' _ _ _ h₁ => Mirrors.pure h₁ ⟨rfl, rfl⟩
    refine Prod.ext ?_ hsheet
    refine (Store.page_declare (hnone (hcontains.trans hfree)) _).trans ?_
    rw [hpage]
    exact (Store.page_declare (hnone hfree) (f'.container.fieldOf name type access static)).symm
  · exact Mirrors.throw h _

/-- **Beginning a site.** -/
theorem Mirrors.beginSite (hf : f.Twins p f') (h : s.leaf f = s'.leaf f') (hint : String) :
    Mirrors (Store.leaf f) (Store.leaf f') (f.beginSite hint) (f'.beginSite hint) s s'
      (SiteBuilder.Twins f f') := by
  rw [SiteFactory.beginSite, SiteFactory.beginSite, CellFactory.allocate, CellFactory.allocate]
  refine Mirrors.bind (Q := fun c c' => ∃ name base target, c = f.cellOf name base target ∧
    c' = f'.cellOf name base target) ?_ ?_
  · refine Mirrors.bind (Mirrors.cell (v := f.cells.services) h hf.left hf.right) ?_
    rintro base _ s₁ s₁' - - ⟨-, rfl⟩ h₁
    refine Mirrors.bind (Mirrors.cellMember (v := f.cells.services) h₁ hf.left hf.right _) ?_
    rintro target _ s₂ s₂' - - ⟨-, rfl⟩ h₂
    refine Mirrors.bind (Mirrors.nextName h₂ hint) ?_
    rintro name _ s₃ s₃' - - rfl h₃
    refine Mirrors.bind (Mirrors.withContext rfl (Mirrors.declare hf h₃ _ _ _ _)) ?_
    rintro field field' s₄ s₄' - - ⟨rfl, rfl⟩ h₄
    exact Mirrors.pure h₄ ⟨_, _, _, rfl, rfl⟩
  · rintro c c' s₁ s₁' - - ⟨name, base, target, rfl, rfl⟩ h₁
    exact Mirrors.pure h₁ ⟨name, base, target, rfl, rfl⟩

/-! ## Binding a cell -/

variable {name : String} {base : Ty} {target : Member}

/-- Whether cells of twins are bound, and how their types are shown, is on the page. -/
lemma Store.map_binding?_eq (name : String) (base : Ty) (target : Member)
    (h : s.leaf f = s'.leaf f') :
    (s.binding? (f.cellOf name base target)).map (fun b => b.type.text) =
      (s'.binding? (f'.cellOf name base target)).map fun b => b.type.text := by
  rw [Store.map_binding? (n := f.container.serial) rfl,
    Store.map_binding? (n := f'.container.serial) rfl, Store.page_eq_of_leaf h]

lemma SiteFactory.Twins.field_text (hf : f.Twins p f') :
    (f'.cellOf name base target).field.text = (f.cellOf name base target).field.text := by
  simp only [SiteFactory.cellOf, Container.fieldOf, Field.text, hf.text]

/-- Types of cells are shown by the callables. -/
lemma Instance.text_of_args {i i' c c' : Instance} (hd : i'.definition = i.definition)
    (hi : i.args = [c.ty]) (hi' : i'.args = [c'.ty]) (htext : c'.text = c.text) :
    i'.text = i.text := by
  have hargs : Ty.texts i'.args = Ty.texts i.args := by
    rw [hi, hi', Ty.texts, Ty.texts, Ty.texts]
    exact congrArg (fun t => [t]) htext
  rw [Instance.text, Instance.text, Instance.ty, Instance.ty, Ty.text, Ty.text, hd, hargs]

/-- The members of cells whose types are shown alike are shown alike. -/
lemma Store.Valid.binding_text (hs : s.Valid p C L) (hs' : s'.Valid p C' L') {c c' : Cell}
    {b b' : Binding} (hb : s.binding? c = some b) (hb' : s'.binding? c' = some b')
    (htype : b'.type.text = b.type.text) :
    b'.target.text = b.target.text ∧ b'.create.text = b.create.text := by
  obtain ⟨-, hproper⟩ := hs.bindings _ b hb
  obtain ⟨-, hproper'⟩ := hs'.bindings _ b' hb'
  obtain ⟨n, hn, htarget, hcreate⟩ := hproper.member_text hs.types hs.plain
  obtain ⟨n', hn', htarget', hcreate'⟩ := hproper'.member_text hs'.types hs'.plain
  obtain rfl := Option.some.inj (hn.symm.trans hn')
  rw [htarget, htarget', hcreate, hcreate', htype]
  exact ⟨rfl, rfl⟩

/-- Binding cells of twins to callables that are shown alike. -/
lemma Mirrors.bindCell (hf : f.Twins p f') (h : s.leaf f = s'.leaf f') (hs : s.Valid p C L)
    (hs' : s'.Valid p C' L') (hc : f.cellOf name base target ∈ L)
    (hc' : f'.cellOf name base target ∈ L') {callable callable' : Instance}
    (hknown : callable.ty.Known (s.census p C) s.types)
    (hknown' : callable'.ty.Known (s'.census p C') s'.types) (huse : callable.ty.Usable)
    (huse' : callable'.ty.Usable) (htext : callable'.text = callable.text) :
    Mirrors (Store.leaf f) (Store.leaf f') ((f.cellOf name base target).bind callable)
      ((f'.cellOf name base target).bind callable') s s' fun _ _ => True := by
  have hbound := Store.map_binding?_eq name base target h
  rcases hopen : s.binding? (f.cellOf name base target) with _ | b
  · rcases hopen' : s'.binding? (f'.cellOf name base target) with _ | b'
    · rcases hrun : ((f.cellOf name base target).bind callable).run s with ⟨o, s₁⟩
      rcases hrun' : ((f'.cellOf name base target).bind callable').run s' with ⟨o', s₁'⟩
      rw [Mirrors, hrun, hrun']
      -- both are refused by the platform or both are carried out
      obtain ⟨e, t, he, rfl, rfl⟩ | ⟨hnone, rfl, t, b, rfl, hd, hargs⟩ :=
        Cell.bind_cases hs hc hopen hknown huse hrun
      · obtain ⟨e', t', he', rfl, rfl⟩ | ⟨hnone', -⟩ :=
          Cell.bind_cases hs' hc' hopen' hknown' huse' hrun'
        · obtain rfl := Option.some.inj (he.symm.trans he')
          exact ⟨h, .error e⟩
        · rw [he] at hnone'
          cases hnone'
      · obtain ⟨e', t', he', -⟩ | ⟨-, rfl, t', b', rfl, hd', hargs'⟩ :=
          Cell.bind_cases hs' hc' hopen' hknown' huse' hrun'
        · rw [hnone] at he'
          cases he'
        · have hsheet := Store.sheet_eq_of_leaf h
          refine ⟨Prod.ext ?_ hsheet, .ok trivial⟩
          have htype : b'.type.text = b.type.text :=
            Instance.text_of_args (Option.some.inj (hd'.symm.trans hd)) hargs hargs' htext
          have hpage := Store.page_eq_of_leaf h
          refine (Store.page_seal _ f.container.serial name b).trans ?_
          refine Eq.trans ?_ (Store.page_seal _ f'.container.serial name b').symm
          rw [htype]
          exact congrArg (Page.update · name _) hpage
    · rw [hopen, hopen'] at hbound
      cases hbound
  · rcases hopen' : s'.binding? (f'.cellOf name base target) with _ | b'
    · rw [hopen, hopen'] at hbound
      cases hbound
    · rw [hopen, hopen', Option.map_some, Option.map_some, Option.some.injEq] at hbound
      rw [Cell.bind, Cell.bind]
      refine Mirrors.get_bind ?_
      simp only [hopen, hopen', hf.field_text, hbound]
      exact Mirrors.throw h _

/-! ## Resolving a site -/

/-- The callable fields of cells of twins are shown alike. -/
lemma Store.target_text (name : String) (base : Ty) (target : Member) (h : s.leaf f = s'.leaf f')
    (hs : s.Valid p C L) (hs' : s'.Valid p C' L') :
    (s'.target (f'.cellOf name base target)).text =
      (s.target (f.cellOf name base target)).text := by
  have hbound := Store.map_binding?_eq name base target h
  rw [Store.target, Store.target]
  rcases hb : s.binding? (f.cellOf name base target) with _ | b
  · rcases hb' : s'.binding? (f'.cellOf name base target) with _ | b'
    · rfl
    · rw [hb, hb'] at hbound
      cases hbound
  · rcases hb' : s'.binding? (f'.cellOf name base target) with _ | b'
    · rw [hb, hb'] at hbound
      cases hbound
    · rw [hb, hb', Option.map_some, Option.map_some, Option.some.injEq] at hbound
      exact (hs.binding_text hs' hb hb' hbound.symm).1

lemma SiteBuilder.Twins.isResolved_eq {b b' : SiteBuilder} (hb : b.Twins f f' b')
    (h : s.leaf f = s'.leaf f') : s'.isResolved b' = s.isResolved b := by
  obtain ⟨name, base, target, rfl, rfl⟩ := hb
  rw [Store.isResolved_eq (n := f'.container.serial) rfl,
    Store.isResolved_eq (n := f.container.serial) rfl, Store.page_eq_of_leaf h]

/-- A site that has been resolved is put last. -/
lemma Store.leaf_list (h : s.leaf f = s'.leaf f') {x x' : Site} (hview : x'.view = x.view) :
    ({ s with sites := s.sites.insert f.serial (s.factorySites f ++ [x]) } : Store).leaf f =
      ({ s' with sites := s'.sites.insert f'.serial (s'.factorySites f' ++ [x']) } :
        Store).leaf f' := by
  have hpage := Store.page_eq_of_leaf h
  have hsheet := Store.sheet_eq_of_leaf h
  have hsites : (s.factorySites f).map Site.view = (s'.factorySites f').map Site.view :=
    congrArg Sheet.sites hsheet
  refine Prod.ext hpage ?_
  refine (s.sheet_sites f.serial _).trans (Eq.trans ?_ (s'.sheet_sites f'.serial _).symm)
  simp only [List.map_append, List.map_singleton, hsites, hview, hsheet]

section Resolve

variable {sh : Shape}

lemma Mirrors.derive (h : s.leaf f = s'.leaf f') (hf : f.Twins p f') (ops : Operands) :
    Mirrors (Store.leaf f) (Store.leaf f') (f.derive ops) (f'.derive ops) s s'
      fun sh sh' => sh' = sh := by
  rw [Mirrors, run_derive hf.left, run_derive hf.right]
  exact ⟨h, Agree.refl (Q := fun sh sh' => sh' = sh) (fun _ => rfl) _⟩

lemma Mirrors.resolve (hf : f.Twins p f') (h : s.leaf f = s'.leaf f') (hs : s.Valid p C L)
    (hs' : s'.Valid p C' L') (hsh : sh.Known (s.census p C) s.types)
    (hsh' : sh.Known (s'.census p C') s'.types) :
    Mirrors (Store.leaf f) (Store.leaf f') (f.synthesizer.resolve sh) (f'.synthesizer.resolve sh)
      s s' fun c c' => c'.text = c.text := by
  refine Mirrors.of_spares h ?_ ?_ (Synthesizer.agree_resolve hs hs' hf.left hf.right hsh hsh')
  · exact Spares.resolve (π := Store.leaf f) (fun _ _ _ => Spares.toStoreM rfl) (fun _ _ => rfl)
      (fun _ _ => rfl) _ _
  · exact Spares.resolve (π := Store.leaf f') (fun _ _ _ => Spares.toStoreM rfl) (fun _ _ => rfl)
      (fun _ _ => rfl) _ _

lemma Mirrors.bindShape (hf : f.Twins p f') (h : s.leaf f = s'.leaf f') (hs : s.Valid p C L)
    (hs' : s'.Valid p C' L') (hc : f.cellOf name base target ∈ L)
    (hc' : f'.cellOf name base target ∈ L') (hsh : sh.Known (s.census p C) s.types)
    (hsh' : sh.Known (s'.census p C') s'.types) :
    Mirrors (Store.leaf f) (Store.leaf f')
      (SiteBuilder.bindShape ⟨f, f.cellOf name base target⟩ sh)
      (SiteBuilder.bindShape ⟨f', f'.cellOf name base target⟩ sh) s s' fun r r' =>
        r'.1.text = r.1.text ∧ r'.2.text = r.2.text := by
  rw [SiteBuilder.bindShape, SiteBuilder.bindShape]
  refine Mirrors.bind (Mirrors.resolve hf h hs hs' hsh hsh') ?_
  intro c c' s₁ s₁' hrun hrun' htext h₁
  obtain ⟨hs₁, -, hc₁⟩ := Keeps.resolve hs (y := f.synthesizer) hf.left hsh _ _ hrun
  obtain ⟨hs₁', -, hc₁'⟩ := Keeps.resolve hs' (y := f'.synthesizer) hf.right hsh' _ _ hrun'
  have hres := hc₁ c rfl
  have hres' := hc₁' c' rfl
  refine Mirrors.bind (Mirrors.bindCell hf h₁ hs₁ hs₁' hc hc' hres.known hres'.known
    (hres.usable hs₁) (hres'.usable hs₁') htext) ?_
  intro _ _ s₂ s₂' hrun₂ hrun₂' _ h₂
  obtain ⟨hs₂, -, -⟩ := Keeps.bindCell hs₁ hc hres.known _ _ hrun₂
  obtain ⟨hs₂', -, -⟩ := Keeps.bindCell hs₁' hc' hres'.known _ _ hrun₂'
  refine Mirrors.get_bind ?_
  have hbound := Store.map_binding?_eq name base target h₂
  refine Mirrors.bind (Q := fun b b' => b'.create.text = b.create.text) ?_ ?_
  · rcases hb : s₂.binding? (f.cellOf name base target) with _ | b
    · rcases hb' : s₂'.binding? (f'.cellOf name base target) with _ | b'
      · simp only [Cell.binding, hb, hb', hf.field_text]
        exact Mirrors.throw h₂ _
      · rw [hb, hb'] at hbound
        cases hbound
    · rcases hb' : s₂'.binding? (f'.cellOf name base target) with _ | b'
      · rw [hb, hb'] at hbound
        cases hbound
      · rw [hb, hb', Option.map_some, Option.map_some, Option.some.injEq] at hbound
        simp only [Cell.binding, hb, hb']
        exact Mirrors.pure h₂ (hs₂.binding_text hs₂' hb hb' hbound.symm).2
  · intro b b' s₃ s₃' _ _ hcreate h₃
    exact Mirrors.pure h₃ ⟨htext, hcreate⟩

/-- **Resolving a site.** -/
theorem Mirrors.resolveSite (hf : f.Twins p f') (h : s.leaf f = s'.leaf f') (hs : s.Valid p C L)
    (hs' : s'.Valid p C' L') {b b' : SiteBuilder} (hb : b.Twins f f' b') (hc : b.cell ∈ L)
    (hc' : b'.cell ∈ L') (hsh : sh.Known (s.census p C) s.types)
    (hsh' : sh.Known (s'.census p C') s'.types) :
    Mirrors (Store.leaf f) (Store.leaf f') (b.resolve sh) (b'.resolve sh) s s'
      (Site.Twins f f') := by
  have hpage := Store.page_eq_of_leaf h
  have hsheet := Store.sheet_eq_of_leaf h
  have hdone := hb.isResolved_eq h
  obtain ⟨name, base, target, rfl, rfl⟩ := hb
  rw [SiteBuilder.resolve, SiteBuilder.resolve]
  refine Mirrors.get_bind ?_
  rw [← hdone]
  split
  · exact Mirrors.throw h _
  -- the builders are marked
  refine Mirrors.bind (Mirrors.set ?_) ?_
  · refine Prod.ext ?_ hsheet
    refine (s.page_resolved f.container.serial name).trans ?_
    rw [hpage]
    exact (s'.page_resolved f'.container.serial name).symm
  rintro ⟨⟩ ⟨⟩ s₁ s₁' hrun hrun' - h₁
  cases hrun
  cases hrun'
  obtain ⟨hs₁, hg₁⟩ := hs.mark (f.cellOf name base target).field.id
  obtain ⟨hs₁', hg₁'⟩ := hs'.mark (f'.cellOf name base target).field.id
  have hsh₁ := hsh.mono (hg₁.census (Set.Subset.refl C)) hg₁.types.filed
  have hsh₁' := hsh'.mono (hg₁'.census (Set.Subset.refl C')) hg₁'.types.filed
  refine Mirrors.bind (Mirrors.withContext rfl
    (Mirrors.bindShape hf h₁ hs₁ hs₁' hc hc' hsh₁ hsh₁')) ?_
  rintro ⟨callable, create⟩ ⟨callable', create'⟩ s₂ s₂' hrun₂ hrun₂' ⟨htext, hcreate⟩ h₂
  obtain ⟨hs₂, -, -⟩ := Leads.withContext _ (Keeps.bindShape hs₁ hf.left hc hsh₁) _ _ hrun₂
  obtain ⟨hs₂', -, -⟩ := Leads.withContext _ (Keeps.bindShape hs₁' hf.right hc' hsh₁') _ _ hrun₂'
  have hsites : (s₂.factorySites f).map Site.view = (s₂'.factorySites f').map Site.view :=
    congrArg Sheet.sites (Store.sheet_eq_of_leaf h₂)
  have hlength : (s₂.factorySites f).length = (s₂'.factorySites f').length := by
    simpa using congrArg List.length hsites
  have htarget := Store.target_text name base target h₂ hs₂ hs₂'
  -- the new sites are shown alike
  have hview : ∀ c c', Site.view ⟨(s₂'.factorySites f').length, sh, f'.cellOf name base target,
      callable', s₂'.target (f'.cellOf name base target), create', c'⟩ =
        Site.view ⟨(s₂.factorySites f).length, sh, f.cellOf name base target, callable,
          s₂.target (f.cellOf name base target), create, c⟩ := by
    intro c c'
    simp only [Site.view, hlength, htarget, htext, hcreate]
    rfl
  refine Mirrors.get_bind ?_
  dsimp only
  refine Mirrors.bind (Mirrors.set (Store.leaf_list h₂ (hview _ _))) fun _ _ s₃ s₃' _ _ _ h₃ => ?_
  exact Mirrors.pure h₃ ⟨⟨name, base, target, rfl, rfl⟩, rfl, rfl, hview _ _⟩

lemma Mirrors.resolveOperands (hf : f.Twins p f') (h : s.leaf f = s'.leaf f') (hs : s.Valid p C L)
    (hs' : s'.Valid p C' L') {b b' : SiteBuilder} (hb : b.Twins f f' b') (hc : b.cell ∈ L)
    (hc' : b'.cell ∈ L') {ops : Operands} (hops : ops.Known (s.census p C) s.types)
    (hops' : ops.Known (s'.census p C') s'.types) :
    Mirrors (Store.leaf f) (Store.leaf f') (b.resolveOperands ops) (b'.resolveOperands ops) s s'
      (Site.Twins f f') := by
  have hb₀ := hb
  obtain ⟨name, base, target, rfl, rfl⟩ := hb
  rw [SiteBuilder.resolveOperands, SiteBuilder.resolveOperands]
  refine Mirrors.bind (Mirrors.derive h hf ops) ?_
  rintro sh _ s₁ s₁' hrun hrun' rfl h₁
  obtain ⟨hs₁, -, hsh⟩ := Keeps.derive hs hf.left hops _ _ hrun
  obtain ⟨hs₁', -, hsh'⟩ := Keeps.derive hs' hf.right hops' _ _ hrun'
  obtain ⟨rfl, hsh⟩ := hsh _ rfl
  obtain ⟨rfl, hsh'⟩ := hsh' _ rfl
  exact Mirrors.resolveSite hf h₁ hs₁ hs₁' hb₀ hc hc' hsh hsh'

lemma Mirrors.callableType (hf : f.Twins p f') (h : s.leaf f = s'.leaf f') (hs : s.Valid p C L)
    (hs' : s'.Valid p C' L') {ops : Operands} (hops : ops.Known (s.census p C) s.types)
    (hops' : ops.Known (s'.census p C') s'.types) :
    Mirrors (Store.leaf f) (Store.leaf f') (f.callableType ops) (f'.callableType ops) s s'
      fun c c' => c'.text = c.text := by
  rw [SiteFactory.callableType, SiteFactory.callableType]
  refine Mirrors.bind (Mirrors.derive h hf ops) ?_
  rintro sh _ s₁ s₁' hrun hrun' rfl h₁
  obtain ⟨hs₁, -, hsh⟩ := Keeps.derive hs hf.left hops _ _ hrun
  obtain ⟨hs₁', -, hsh'⟩ := Keeps.derive hs' hf.right hops' _ _ hrun'
  obtain ⟨rfl, hsh⟩ := hsh _ rfl
  obtain ⟨rfl, hsh'⟩ := hsh' _ rfl
  exact Mirrors.resolve hf h₁ hs₁ hs₁' hsh hsh'

end Resolve

/-! ## Bootstrapping a site -/

lemma Mirrors.emit (h : s.leaf f = s'.leaf f') {i i' : Instr} (htext : i'.text = i.text) :
    Mirrors (Store.leaf f) (Store.leaf f') (f.container.emit i) (f'.container.emit i') s s'
      fun _ _ => True := by
  have hpage := Store.page_eq_of_leaf h
  have hsheet := Store.sheet_eq_of_leaf h
  refine Mirrors.modify (Prod.ext ?_ hsheet)
  refine (s.page_emit f.container i).trans (Eq.trans ?_ (s'.page_emit f'.container i').symm)
  rw [htext, hpage]

/-- **Bootstrapping a site.** -/
theorem Mirrors.bootstrap (hf : f.Twins p f') (h : s.leaf f = s'.leaf f') {x x' : Site}
    (hx : x.Twins f f' x') (binder : Option Ty) :
    Mirrors (Store.leaf f) (Store.leaf f') (x.bootstrap binder) (x'.bootstrap binder) s s'
      fun _ _ => True := by
  obtain ⟨⟨name, base, target, hcell, hcell'⟩, hleft, hright, hview⟩ := hx
  have hplace : x.place.id = .declared f.container.serial name := by
    rw [Site.place, hcell]
    rfl
  have hplace' : x'.place.id = .declared f'.container.serial name := by
    rw [Site.place, hcell']
    rfl
  have hname : x'.cell.name = x.cell.name := congrArg SiteView.cell hview
  have hcreate : x'.create.text = x.create.text := congrArg SiteView.create hview
  have hfield : x'.place.text = x.place.text := by
    rw [Site.place, Site.place, hcell, hcell', hf.field_text]
  have hdone : s.isBootstrapped x = s'.isBootstrapped x' := by
    rw [Store.isBootstrapped_eq hplace, Store.isBootstrapped_eq hplace', Store.page_eq_of_leaf h]
  unfold Site.bootstrap
  refine Mirrors.get_bind ?_
  rw [hdone, hname]
  split
  · exact Mirrors.throw h _
  cases binder with
  | none => exact Mirrors.throw h _
  | some t =>
      simp only [hleft, hright]
      refine Mirrors.bind (Q := fun _ _ => True) ?_ ?_
      · refine Mirrors.bind (Mirrors.emit h rfl) fun _ _ s₁ s₁' _ _ _ h₁ => ?_
        refine Mirrors.bind (Mirrors.emit h₁ ?_) fun _ _ s₂ s₂' _ _ _ h₂ => ?_
        · simp only [Instr.text, Operand.text, hcreate]
        refine Mirrors.bind (Mirrors.emit h₂ ?_) fun _ _ s₃ s₃' _ _ _ h₃ => Mirrors.pure h₃ trivial
        simp only [Instr.text, Operand.text, hfield]
      · intro _ _ s₁ s₁' _ _ _ h₁
        have hpage := Store.page_eq_of_leaf h₁
        have hsheet := Store.sheet_eq_of_leaf h₁
        rw [hplace, hplace']
        refine Mirrors.modify (Prod.ext ?_ hsheet)
        refine (s₁.page_bootstrapped f.container.serial name).trans ?_
        rw [hpage]
        exact (s₁'.page_bootstrapped f'.container.serial name).symm

end Twins

end CallSites
