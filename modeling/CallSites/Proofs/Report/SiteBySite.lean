import CallSites.Proofs.Program.SiteOutcomes
import CallSites.Proofs.Report.Sections

/-!
# A file, site by site

The sites of a file are dealt with one after the other, and what a platform does with one of them it
does with all.  If the generic cache cell type has no target, no site can be begun; if it has no
create method, every site is begun and none resolved; otherwise all of them are resolved.  What the
store holds about the factory of the file and what has been written is described for each of the
three after any number of sites (`Report.AllSkipped`, `Report.AllStranded`, `Report.AllResolved`).

One more site either takes such a description to the next or is refused, and a site is refused just
when the platform does not admit it (`Report.Stage.resolveSite`).  Which sites a platform admits
does not depend on what has happened before.
-/

namespace CallSites

/-! ## Sites that a platform admits -/

/-- The platform can deal with the site: its types are found and, if a site can be begun at all,
they can take part in a callable type. -/
def Platform.Admits (p : Platform) (spec : SiteSpec) : Prop :=
  ∃ ops, spec.operands p.lookup = .ok ops ∧
    (p.Offers .target → ops.modesFit = true ∧ ops.Usable ∧ ops.Storable)

/-- The platform cannot deal with the site, and why. -/
inductive Platform.Refuses (p : Platform) (spec : SiteSpec) : Failure → Prop
  /-- A type is not found. -/
  | names (note : String) {e : Error} (h : spec.operands p.lookup = .error e) :
      Refuses p spec (.error (.context note e))
  /-- There are not as many pass modes as arguments. -/
  | modes (e : Failure) {ops : Operands} (h : spec.operands p.lookup = .ok ops)
      (htarget : p.Offers .target) (hmodes : ops.modesFit = false) : Refuses p spec e
  /-- There are more operands than can be stored. -/
  | oversized {ops : Operands} (h : spec.operands p.lookup = .ok ops) (htarget : p.Offers .target)
      (hstore : ¬ ops.Storable) : Refuses p spec (.range .capacity)
  /-- A type cannot be used. -/
  | unusable {e : Error} {ops : Operands} (h : spec.operands p.lookup = .ok ops)
      (htarget : p.Offers .target) (huse : ¬ ops.Usable) (he : e.AboutTypes) :
      Refuses p spec (.error e)

lemma Platform.Refuses.not_admits {p : Platform} {spec : SiteSpec} {e : Failure}
    (h : p.Refuses spec e) : ¬ p.Admits spec := by
  rintro ⟨ops, hops, hfits⟩
  cases h with
  | names note h =>
      rw [hops] at h
      cases h
  | modes e h htarget hmodes =>
      rw [hops] at h
      cases h
      rw [(hfits htarget).1] at hmodes
      cases hmodes
  | oversized h htarget hstore =>
      rw [hops] at h
      cases h
      exact hstore (hfits htarget).2.2
  | unusable h htarget huse =>
      rw [hops] at h
      cases h
      exact huse (hfits htarget).2.1

/-! ## Runs -/

namespace Report

section Runs

variable {p : Platform} {f : SiteFactory} {i : Nat} {spec : SiteSpec} {ops : Operands}

lemma run_resolveSite (h : spec.operands p.lookup = .ok ops) (pr : Progress) :
    (resolveSite p f i spec).run pr =
      match (f.beginSite spec.hint).run pr.store with
      | (.error e, s) =>
        if e.isUnsupported then (.ok (), ⟨s, pr.lines ++ [.unsupported i e.message]⟩)
        else (.error e, ⟨s, pr.lines⟩)
      | (.ok b, s) => (resolveBuilder p i spec b ops).run ⟨s, pr.lines⟩ := by
  rw [resolveSite, h]
  simp only
  rw [run_bind, ReportM.run_attempt]
  rcases (f.beginSite spec.hint).run pr.store with ⟨e | b, s⟩
  · dsimp only
    split <;> rfl
  · rfl

lemma run_resolveBuilder (b : SiteBuilder) (pr : Progress) :
    (resolveBuilder p i spec b ops).run pr =
      match (b.resolveOperands ops).run pr.store with
      | (.error e, s) =>
        if e.isUnsupported then
          (.ok (), ⟨s, pr.lines ++ [.unsupported i e.message,
            .stranded b.cell.name (typeText (s.fieldType b.cell.field))]⟩)
        else (.error e, ⟨s, pr.lines⟩)
      | (.ok x, s) =>
        if spec.bootstrap then (bootstrapSite p x).run ⟨s, pr.lines ++ siteLines x s⟩
        else (.ok (), ⟨s, pr.lines ++ siteLines x s⟩) := by
  rw [resolveBuilder, run_bind, ReportM.run_attempt]
  rcases (b.resolveOperands ops).run pr.store with ⟨e | x, s⟩
  · dsimp only
    split <;> rfl
  · by_cases hboot : spec.bootstrap = true
    · simp only [hboot, if_true]
      rfl
    · simp only [hboot, if_false, Bool.false_eq_true]
      rfl

end Runs

/-! ## Descriptions -/

/-- The names of the cells of sites, in order. -/
def cellNames (specs : List SiteSpec) : List String :=
  specs.zipIdx.map fun e => cellName e.1.hint e.2

/-- What is written about sites that are begun and not resolved, for the cell of each and the reason
given. -/
def strandedLines (entries : List (Cell × String)) : List Line :=
  entries.zipIdx.flatMap fun e =>
    [.unsupported e.2 e.1.2, .stranded e.1.1.name (typeText (some e.1.1.provisional))]

/-- The code that creates the cells of those sites that are to be bootstrapped. -/
def bootCode (specs : List SiteSpec) (sites : List Site) (binder : Ty) : List Instr :=
  ((specs.zip sites).filter fun e => e.1.bootstrap).flatMap fun e => e.2.bootstrapCode binder

/-- The factory has done nothing. -/
structure Blank (f : SiteFactory) (s : Store) : Prop where
  fields : ∀ name, (s.containerFields f.container).contains name = false
  sites : s.factorySites f = []
  code : s.initializer f.container = []
  allocated : s.allocated f.cells = 0
  total : (s.tally f.synthesizer).total = 0

/-- A cell has been allocated for each of the sites, and nothing else in the container. -/
structure Begun (p : Platform) (f : SiteFactory) (specs : List SiteSpec) (cells : List Cell)
    (s : Store) : Prop where
  chronicled : s.Chronicled p cells
  services : f.services = .ofPlatform p
  own : ∀ c ∈ cells, c.factory = f.cells
  names : cells.map Cell.name = cellNames specs
  fields : ∀ name, (s.containerFields f.container).contains name = true → name ∈ cellNames specs
  allocated : s.allocated f.cells = specs.length
  total : (s.tally f.synthesizer).total = specs.length

/-- No site can be begun, and nothing has been done. -/
structure AllSkipped (p : Platform) (f : SiteFactory) (heading : Line) (reason : String)
    (specs : List SiteSpec) (pr : Progress) : Prop where
  chronicled : pr.store.Chronicled p []
  blank : Blank f pr.store
  refused : ∃ e : Error, e.isUnsupported = true ∧ e.message = reason ∧
    ∀ hint s, (f.beginSite hint).run s = (.error (.error e), s)
  lines : pr.lines = heading :: (List.range specs.length).map fun i => .unsupported i reason

/-- All sites have been begun and none resolved: their cells are as they were allocated. -/
structure AllStranded (p : Platform) (f : SiteFactory) (heading : Line)
    (entries : List (Cell × String)) (specs : List SiteSpec) (pr : Progress) : Prop where
  begun : Begun p f specs (entries.map Prod.fst) pr.store
  sites : pr.store.factorySites f = []
  code : pr.store.initializer f.container = []
  untyped : ∀ e ∈ entries, pr.store.finals.find? e.1.field.id = none
  lines : pr.lines = heading :: strandedLines entries

/-- All sites have been resolved, and bootstrapped where that was asked for. -/
structure AllResolved (p : Platform) (f : SiteFactory) (heading : Line) (specs : List SiteSpec)
    (pr : Progress) : Prop where
  begun : Begun p f specs ((pr.store.factorySites f).map Site.cell) pr.store
  code : ∃ binder, p.binder = .ok binder ∧
    pr.store.initializer f.container = bootCode specs (pr.store.factorySites f) binder
  lines : pr.lines = heading :: (pr.store.factorySites f).flatMap (siteLines · pr.store)

/-- The sites have been dealt with in the way of the platform. -/
inductive Stage (p : Platform) (f : SiteFactory) (heading : Line) (specs : List SiteSpec)
    (pr : Progress) : Prop
  | skipped (htarget : ¬ p.Offers .target) {reason : String}
      (h : AllSkipped p f heading reason specs pr)
  | stranded (htarget : p.Offers .target) (hcreate : ¬ p.Offers .create)
      {entries : List (Cell × String)} (h : AllStranded p f heading entries specs pr)
  | resolved (htarget : p.Offers .target) (hcreate : p.Offers .create)
      (h : AllResolved p f heading specs pr)

/-! ## One more site -/

section Step

variable {prof : Profile} {p : Platform} {f : SiteFactory} {heading : Line}
variable {specs : List SiteSpec} {cells : List Cell} {spec : SiteSpec} {ops : Operands}
variable {s s' : Store} {pr pr' : Progress} {o : Except Failure Unit}

lemma cellNames_append (specs : List SiteSpec) (spec : SiteSpec) :
    cellNames (specs ++ [spec]) = cellNames specs ++ [cellName spec.hint specs.length] := by
  simp [cellNames, List.zipIdx_append]

lemma strandedLines_append (entries : List (Cell × String)) (c : Cell) (reason : String) :
    strandedLines (entries ++ [(c, reason)]) =
      strandedLines entries ++ [.unsupported entries.length reason,
        .stranded c.name (typeText (some c.provisional))] := by
  simp [strandedLines, List.zipIdx_append]

lemma bootCode_append {sites : List Site} (h : specs.length = sites.length) (x : Site)
    (binder : Ty) :
    bootCode (specs ++ [spec]) (sites ++ [x]) binder =
      bootCode specs sites binder ++ if spec.bootstrap then x.bootstrapCode binder else [] := by
  rw [bootCode, List.zip_append h, List.filter_append, List.flatMap_append, ← bootCode]
  by_cases hboot : spec.bootstrap = true <;> simp [hboot]

/-- The next name is free, whatever the hint. -/
lemma Begun.free (h : Begun p f specs cells s) (hint : String) :
    (s.containerFields f.container).contains (cellName hint (s.allocated f.cells)) = false := by
  rw [h.allocated, ← Bool.not_eq_true]
  intro htaken
  obtain ⟨⟨spec, i⟩, he, hname⟩ := List.mem_map.mp (h.fields _ htaken)
  obtain ⟨hlt, -⟩ := List.getElem?_eq_some_iff.mp (List.mem_zipIdx_iff_getElem?.mp he)
  exact hlt.ne (cellName_inj hname)

/-- One more cell, and one more shape that has been counted. -/
lemma Begun.append (h : Begun p f specs cells s) {c : Cell} {base : Ty}
    (hown : c.factory = f.cells) (hfield : c.field = f.cells.nextField spec.hint base s)
    (hchronicled : s'.Chronicled p (cells ++ [c]))
    (hfields : s'.fields = (s.allot f.cells spec.hint base).fields)
    (hnamed : s'.named = (s.allot f.cells spec.hint base).named)
    (htotal : (s'.tally f.synthesizer).total = (s.tally f.synthesizer).total + 1) :
    Begun p f (specs ++ [spec]) (cells ++ [c]) s' where
  chronicled := hchronicled
  services := h.services
  own := by
    rw [List.forall_mem_append, List.forall_mem_singleton]
    exact ⟨h.own, hown⟩
  names := by
    have hname : c.name = cellName spec.hint specs.length := by
      rw [Cell.name, hfield, ← h.allocated]
      rfl
    rw [List.map_append, List.map_singleton, h.names, hname, cellNames_append]
  fields name hname := by
    rw [Store.containerFields, hfields, ← Store.containerFields, Store.allot,
      OrderedMap.contains, Store.find?_containerFields_declare] at hname
    rw [cellNames_append, List.mem_append, List.mem_singleton]
    split at hname
    · next heq => exact .inr (heq.2.symm.trans (by rw [h.allocated]))
    · exact .inl (h.fields name hname)
  allocated := by
    have hcount : (s.allot f.cells spec.hint base).allocated f.cells = s.allocated f.cells + 1 :=
      OrderedMap.getD_insert_self _ _ _ _
    rw [Store.allocated, hnamed, ← Store.allocated, hcount, h.allocated, List.length_append]
    rfl
  total := by
    rw [htotal, h.total, List.length_append]
    rfl

/-- No site can be begun, so nothing changes but for one line. -/
lemma AllSkipped.resolveSite {reason : String} (h : AllSkipped p f heading reason specs pr)
    (hspec : spec.operands p.lookup = .ok ops) :
    ∃ pr', (resolveSite p f specs.length spec).run pr = (.ok (), pr') ∧
      AllSkipped p f heading reason (specs ++ [spec]) pr' := by
  obtain ⟨e, hun, hreason, hbegin⟩ := h.refused
  have hun' : (Failure.error e).isUnsupported = true := hun
  have hmessage : (Failure.error e).message = reason := hreason
  refine ⟨⟨pr.store, pr.lines ++ [.unsupported specs.length reason]⟩, ?_,
    h.chronicled, h.blank, h.refused, ?_⟩
  · simp only [run_resolveSite hspec, hbegin, hun', hmessage, if_true]
  · rw [h.lines, List.length_append, List.length_singleton, List.range_succ, List.map_append]
    rfl

/-- A site has been begun, which gave it a cell, and has been tried to resolve. -/
structure Tried (p : Platform) (f : SiteFactory) (cells : List Cell) (spec : SiteSpec)
    (ops : Operands) (s : Store) (c : Cell) (q : Except Failure Site) (s' : Store) : Prop where
  own : c.factory = f.cells
  field : c.field = f.cells.nextField spec.hint c.provisional s
  untyped : s.finals.find? c.field.id = none
  fresh : c.field.id ∉ s.bootstrapped
  chronicled : s'.Chronicled p (cells ++ [c])
  outcome : SiteBuilder.Outcome p ⟨f, c⟩ ops (s.allot f.cells spec.hint c.provisional) s' q
  run : (SiteBuilder.resolveOperands ⟨f, c⟩ ops).run (s.allot f.cells spec.hint c.provisional) =
    (q, s')

/-- A site can always be begun, in a cell that nothing has happened to. -/
lemma Begun.begin (h : Begun p f specs cells s) (htarget : p.Offers .target) (hint : String) :
    ∃ c : Cell, c.factory = f.cells ∧ c.field = f.cells.nextField hint c.provisional s ∧
      (f.beginSite hint).run s = (.ok ⟨f, c⟩, s.allot f.cells hint c.provisional) ∧
      (s.allot f.cells hint c.provisional).Chronicled p (cells ++ [c]) ∧
      s.finals.find? c.field.id = none ∧ s.bindings.find? c.field.id = none ∧
      c.field.id ∉ s.resolved ∧ c.field.id ∉ s.bootstrapped := by
  obtain ⟨c, hown, -, hfield, hbegin⟩ :=
    SiteFactory.exists_beginSite h.services htarget (h.free hint)
  refine ⟨c, hown, hfield, hbegin, ?_, h.chronicled.unmarked ?_⟩
  · exact ((h.chronicled.beginSite h.services hbegin).2 _ rfl).mono (by simp)
  · rw [hfield]
    exact Bool.not_eq_true _ ▸ h.free hint

lemma Begun.exists_tried (hp : Platform.ofProfile prof = .ok p) (htarget : p.Offers .target)
    (h : Begun p f specs cells pr.store) (hspec : spec.operands p.lookup = .ok ops)
    (hmodes : ops.modesFit = true) (i : Nat) :
    ∃ c q s', Tried p f cells spec ops pr.store c q s' ∧
      (resolveSite p f i spec).run pr =
        (resolveBuilder p i spec ⟨f, c⟩ ops).run
          ⟨pr.store.allot f.cells spec.hint c.provisional, pr.lines⟩ := by
  obtain ⟨c, hown, hfield, hbegin, hchronicled, huntyped, hunbound, hunresolved, hfresh⟩ :=
    h.begin htarget spec.hint
  have hnamed := SiteSpec.named_of_operands hspec
  have hcell : c ∈ cells ++ [c] := by simp
  rcases hrun : (SiteBuilder.resolveOperands ⟨f, c⟩ ops).run
    (pr.store.allot f.cells spec.hint c.provisional) with ⟨q, s'⟩
  obtain ⟨C, L, hL, hvalid⟩ := hchronicled.valid
  have hnew : (pr.store.allot f.cells spec.hint c.provisional).isResolved ⟨f, c⟩ = false := by
    rw [Store.isResolved, List.contains_eq_mem, decide_eq_false_iff_not]
    exact hunresolved
  refine ⟨c, q, s', ?_, ?_⟩
  · exact
      { own := hown
        field := hfield
        untyped := huntyped
        fresh := hfresh
        chronicled := hchronicled.resolveOperands h.services hcell hown hnamed hrun
        outcome := SiteBuilder.outcome (b := ⟨f, c⟩) hp hvalid h.services htarget (hL hcell)
          hunbound hnew (Operands.known_of_named hnamed) hmodes hrun
        run := hrun }
  · rw [run_resolveSite hspec, hbegin]

lemma Begun.length_eq (h : Begun p f specs cells s) : cells.length = specs.length := by
  rw [← List.length_map (f := Cell.name), h.names, cellNames, List.length_map, List.length_zipIdx]

/-- **One more site** on a platform without the create method. -/
lemma AllStranded.resolveSite {entries : List (Cell × String)}
    (hp : Platform.ofProfile prof = .ok p) (htarget : p.Offers .target)
    (hcreate : ¬ p.Offers .create) (h : AllStranded p f heading entries specs pr)
    (hspec : spec.operands p.lookup = .ok ops) (hmodes : ops.modesFit = true)
    (hrun : (resolveSite p f specs.length spec).run pr = (o, pr')) :
    (o = .ok () ∧ ops.Usable ∧ ops.Storable ∧
        ∃ entries, AllStranded p f heading entries (specs ++ [spec]) pr') ∨
      ∃ e, o = .error e ∧ p.Refuses spec e := by
  obtain ⟨c, q, s, htried, hsite⟩ := h.begun.exists_tried hp htarget hspec hmodes specs.length
  rw [hsite, run_resolveBuilder, htried.run] at hrun
  cases htried.outcome with
  | resolved _ _ hcreate' => exact absurd hcreate' hcreate
  | oversized hstore =>
      cases hrun
      exact .inr ⟨_, rfl, .oversized hspec htarget hstore⟩
  | unusable huse he hplain =>
      simp only [Failure.isUnsupported, hplain, if_false, Bool.false_eq_true] at hrun
      cases hrun
      exact .inr ⟨_, rfl, .unusable hspec htarget huse he⟩
  | @unsupported e huse hstore _ he hrecord hfinals hnamed htotal =>
      simp only [Failure.isUnsupported, he, if_true] at hrun
      cases hrun
      simp only [Store.record, Prod.mk.injEq] at hrecord
      obtain ⟨hfields, hsites, -, hcode, -⟩ := hrecord
      have hfinals' : s.finals = pr.store.finals := hfinals
      have htype : s.fieldType c.field = some c.provisional := by
        rw [Store.fieldType, hfinals', htried.untyped, htried.field]
        rfl
      refine .inl ⟨rfl, huse, hstore, entries ++ [(c, (Failure.error e).message)], ?_⟩
      refine
        { begun := ?_
          sites := ?_
          code := ?_
          untyped := ?_
          lines := ?_ }
      · rw [List.map_append]
        exact h.begun.append htried.own htried.field htried.chronicled hfields hnamed htotal
      · rw [Store.factorySites, hsites]
        exact h.sites
      · rw [Store.initializer, hcode]
        exact h.code
      · rw [List.forall_mem_append, List.forall_mem_singleton, hfinals']
        exact ⟨h.untyped, htried.untyped⟩
      · have hlength : entries.length = specs.length := by
          rw [← h.begun.length_eq, List.length_map]
        rw [h.lines, htype, strandedLines_append, hlength]
        rfl

/-- What is written about a resolved site stays right, since its field has its final type. -/
lemma siteLines_eq_of_creatable {x : Site} (h : x.Creatable p s) (h' : x.Creatable p s') :
    siteLines x s' = siteLines x s := by
  rw [siteLines, siteLines, h.type, h'.type]

lemma AllResolved.append (h : AllResolved p f heading specs pr) {x : Site} {lines : List Line}
    (hsites : s.factorySites f = pr.store.factorySites f ++ [x])
    (hbegun : Begun p f (specs ++ [spec]) ((pr.store.factorySites f).map Site.cell ++ [x.cell]) s)
    (hcode : ∀ binder, p.binder = .ok binder → s.initializer f.container =
      pr.store.initializer f.container ++ if spec.bootstrap then x.bootstrapCode binder else [])
    (hlines : lines = pr.lines ++ siteLines x s) :
    AllResolved p f heading (specs ++ [spec]) ⟨s, lines⟩ where
  begun := by
    rw [hsites, List.map_append]
    exact hbegun
  code := by
    obtain ⟨binder, hbinder, hold⟩ := h.code
    have hlength : specs.length = (pr.store.factorySites f).length := by
      rw [← h.begun.length_eq, List.length_map]
    refine ⟨binder, hbinder, ?_⟩
    rw [hcode binder hbinder, hold, hsites, bootCode_append hlength]
  lines := by
    have hkept : (pr.store.factorySites f).flatMap (siteLines · s) =
        (pr.store.factorySites f).flatMap (siteLines · pr.store) := by
      refine List.flatMap_congr fun y hy => siteLines_eq_of_creatable (p := p) ?_ ?_
      · exact h.begun.chronicled.creatable hy
      · exact hbegun.chronicled.creatable (f := f) (hsites ▸ List.mem_append_left _ hy)
    rw [hlines, h.lines, hsites, List.flatMap_append, hkept, List.flatMap_singleton]
    rfl

/-- **One more site** on a platform that has everything. -/
lemma AllResolved.resolveSite (hp : Platform.ofProfile prof = .ok p) (htarget : p.Offers .target)
    (hcreate : p.Offers .create) (h : AllResolved p f heading specs pr)
    (hspec : spec.operands p.lookup = .ok ops) (hmodes : ops.modesFit = true)
    (hrun : (resolveSite p f specs.length spec).run pr = (o, pr')) :
    (o = .ok () ∧ ops.Usable ∧ ops.Storable ∧ AllResolved p f heading (specs ++ [spec]) pr') ∨
      ∃ e, o = .error e ∧ p.Refuses spec e := by
  obtain ⟨c, q, s, htried, hsite⟩ := h.begun.exists_tried hp htarget hspec hmodes specs.length
  rw [hsite, run_resolveBuilder, htried.run] at hrun
  cases htried.outcome with
  | unsupported _ _ hcreate' => exact absurd hcreate hcreate'
  | oversized hstore =>
      cases hrun
      exact .inr ⟨_, rfl, .oversized hspec htarget hstore⟩
  | unusable huse he hplain =>
      simp only [Failure.isUnsupported, hplain, if_false, Bool.false_eq_true] at hrun
      cases hrun
      exact .inr ⟨_, rfl, .unusable hspec htarget huse he⟩
  | @resolved x sh huse hstore _ _ hx hrecord hnamed htotal =>
      simp only [Store.record, Prod.mk.injEq] at hrecord
      obtain ⟨hfields, hlists, -, hinits, hboots⟩ := hrecord
      obtain rfl : x.cell = c := hx.cell
      have hsites : s.factorySites f = pr.store.factorySites f ++ [x] := by
        rw [Store.factorySites, hlists, ← Store.factorySites, Store.factorySites_list, if_pos rfl]
        rfl
      have hcode : s.initializer f.container = pr.store.initializer f.container := by
        rw [Store.initializer, hinits]
        rfl
      have hbegun := h.begun.append htried.own htried.field htried.chronicled hfields hnamed htotal
      refine .inl ?_
      by_cases hboot : spec.bootstrap = true
      · -- the binder is that of the platform, and the cell is new
        obtain ⟨n, -, hbinder⟩ := htarget.exists_binder
        have hmem : x ∈ s.factorySites f := by simp [hsites]
        have hnew : s.isBootstrapped x = false := by
          rw [Store.isBootstrapped_eq_false_iff, hboots]
          exact htried.fresh
        have hcreated : (bootstrapSite p x).run ⟨s, pr.lines ++ siteLines x s⟩ =
            (.ok (), ⟨s.create x (.named n), pr.lines ++ siteLines x s⟩) := by
          simp only [bootstrapSite, hbinder, ReportM.run_perform, x.run_bootstrap, hnew, if_false,
            Bool.false_eq_true]
        simp only [hboot, if_true, hcreated] at hrun
        cases hrun
        refine ⟨rfl, huse, hstore, h.append (x := x) hsites ?_ ?_ rfl⟩
        · exact { hbegun with chronicled := htried.chronicled.create hmem hnew hbinder }
        · intro binder hbinder'
          cases hbinder.symm.trans hbinder'
          have hcontainer : x.container.serial = f.container.serial := by rw [hx.container]
          rw [if_pos hboot, ← hcode, Store.initializer, Store.create, hcontainer,
            OrderedMap.getD_insert_self, hx.container]
      · simp only [hboot, if_false, Bool.false_eq_true] at hrun
        cases hrun
        refine ⟨rfl, huse, hstore, h.append (x := x) hsites hbegun ?_ rfl⟩
        intro binder _
        rw [if_neg hboot, List.append_nil, hcode]

/-- Without as many pass modes as arguments a site is begun in vain. -/
lemma Begun.refuses_of_misfit (h : Begun p f specs cells pr.store) (htarget : p.Offers .target)
    (hspec : spec.operands p.lookup = .ok ops) (hmodes : ops.modesFit = false) {i : Nat}
    (hrun : (resolveSite p f i spec).run pr = (o, pr')) :
    ∃ e, o = .error e ∧ p.Refuses spec e := by
  obtain ⟨c, -, -, hbegin, -⟩ := h.begin htarget spec.hint
  obtain ⟨n, hn⟩ := htarget.exists_cell
  have hderive : p.derive ops =
      .error (.misuse (.passModes ops.argByRef.length ops.args.length)) := by
    rw [Platform.derive, Platform.cell, hn]
    exact Shape.derive_of_misfit _ hmodes
  rw [run_resolveSite hspec, hbegin] at hrun
  simp only at hrun
  rw [run_resolveBuilder, SiteBuilder.resolveOperands, run_bind, run_derive h.services, hderive]
    at hrun
  cases hrun
  exact ⟨_, rfl, .modes _ hspec htarget hmodes⟩

/-- **One more site.**  It is dealt with in the way of the platform, or refused. -/
theorem Stage.resolveSite (hp : Platform.ofProfile prof = .ok p) (h : Stage p f heading specs pr)
    (hrun : (resolveSite p f specs.length spec).run pr = (o, pr')) :
    (o = .ok () ∧ p.Admits spec ∧ Stage p f heading (specs ++ [spec]) pr') ∨
      ∃ e, o = .error e ∧ p.Refuses spec e := by
  rcases hspec : spec.operands p.lookup with e | ops
  · rw [Report.resolveSite, hspec] at hrun
    cases hrun
    exact .inr ⟨_, rfl, .names _ hspec⟩
  cases h with
  | skipped htarget h =>
      obtain ⟨pr₁, hsite, h'⟩ := h.resolveSite hspec
      rw [hsite] at hrun
      cases hrun
      exact .inl ⟨rfl, ⟨ops, hspec, fun hoffers => absurd hoffers htarget⟩, .skipped htarget h'⟩
  | stranded htarget hcreate h =>
      rcases hmodes : ops.modesFit with _ | _
      · exact .inr (h.begun.refuses_of_misfit htarget hspec hmodes hrun)
      · obtain ⟨ho, huse, hstore, entries, h'⟩ | hrefused :=
          h.resolveSite hp htarget hcreate hspec hmodes hrun
        · exact .inl ⟨ho, ⟨ops, hspec, fun _ => ⟨hmodes, huse, hstore⟩⟩,
            .stranded htarget hcreate h'⟩
        · exact .inr hrefused
  | resolved htarget hcreate h =>
      rcases hmodes : ops.modesFit with _ | _
      · exact .inr (h.begun.refuses_of_misfit htarget hspec hmodes hrun)
      · obtain ⟨ho, huse, hstore, h'⟩ | hrefused :=
          h.resolveSite hp htarget hcreate hspec hmodes hrun
        · exact .inl ⟨ho, ⟨ops, hspec, fun _ => ⟨hmodes, huse, hstore⟩⟩,
            .resolved htarget hcreate h'⟩
        · exact .inr hrefused

/-- **Any number of sites.**  All of them are dealt with, or the first that is not admitted is
refused. -/
theorem Stage.resolveSites (hp : Platform.ofProfile prof = .ok p) (more : List SiteSpec) :
    ∀ {specs : List SiteSpec} {pr : Progress}, Stage p f heading specs pr →
      (resolveSites p f specs.length more).run pr = (o, pr') →
      (o = .ok () ∧ (∀ spec ∈ more, p.Admits spec) ∧ Stage p f heading (specs ++ more) pr') ∨
        ∃ e, o = .error e ∧ ∃ spec ∈ more, p.Refuses spec e := by
  induction more with
  | nil =>
      intro specs pr h hrun
      cases hrun
      exact .inl ⟨rfl, by simp, by rwa [List.append_nil]⟩
  | cons spec more ih =>
      intro specs pr h hrun
      rw [Report.resolveSites, run_bind] at hrun
      rcases hsite : (Report.resolveSite p f specs.length spec).run pr with ⟨q, pr₁⟩
      rw [hsite] at hrun
      obtain ⟨rfl, hadmits, h₁⟩ | ⟨e, rfl, hrefuses⟩ := h.resolveSite hp hsite
      · have hlength : (specs ++ [spec]).length = specs.length + 1 := by simp
        obtain ⟨ho, hall, h'⟩ | ⟨e, ho, spec', hmem, hrefuses⟩ := ih h₁ (hlength ▸ hrun)
        · rw [List.append_assoc] at h'
          exact .inl ⟨ho, List.forall_mem_cons.mpr ⟨hadmits, hall⟩, h'⟩
        · exact .inr ⟨e, ho, spec', List.mem_cons_of_mem _ hmem, hrefuses⟩
      · cases hrun
        exact .inr ⟨e, rfl, spec, List.mem_cons_self, hrefuses⟩

end Step

end Report

end CallSites
