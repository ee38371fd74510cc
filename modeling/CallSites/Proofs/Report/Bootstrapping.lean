import CallSites.Proofs.Report.FileByFile

/-!
# Static initializers in reports

What is said about static initializers after every history holds of runs in particular, since all
that a run does to its store are genuine requests (`Report.chronicled_resolveFile`), whether or not
its files can be resolved.  In a run more is known about them.  The binder is always that of the
platform, which is what every create method takes, and the static initializer that is printed for a
file has the code for the sites that are to be bootstrapped, in their order.

`static_initializers_sound` has both: what holds after every history, and what holds in runs.
-/

namespace CallSites

/-- The instruction in a line, if the line is one of a static initializer. -/
def Line.instr? : Line → Option String
  | .instr text => some text
  | _ => none

namespace Report

/-! ## Runs are made of genuine requests -/

section Chronicled

variable {p : Platform} {f : SiteFactory} {L : List Cell} {pr pr' : Progress}
variable {o : Except Failure Unit}

lemma mem_factorySites_of_resolveOperands {b : SiteBuilder} {ops : Operands} {s s' : Store}
    {x : Site} (hrun : (b.resolveOperands ops).run s = (.ok x, s')) :
    x ∈ s'.factorySites b.factory := by
  rw [SiteBuilder.resolveOperands] at hrun
  obtain ⟨sh, s₁, -, hresolve⟩ | ⟨e, -, he⟩ := run_bind_cases hrun
  · obtain ⟨-, ⟨e, he⟩, -⟩ | ⟨-, ⟨⟨e, he⟩, -⟩ | ⟨y, hy, -, hrecord⟩⟩ :=
      SiteBuilder.resolve_record hresolve
    · cases he
    · cases he
    · cases hy
      rw [World.factorySites_of_record hrecord, Store.mem_factorySites_list]
      exact .inl ⟨rfl, rfl⟩
  · cases he

lemma chronicled_bootstrapSite {x : Site} (hx : x ∈ pr.store.factorySites f)
    (h : pr.store.Chronicled p L) : ((bootstrapSite p x).run pr).2.store.Chronicled p L := by
  rw [bootstrapSite]
  split
  · exact h
  · next binder hbinder =>
      rw [ReportM.run_perform, x.run_bootstrap]
      rcases hnew : pr.store.isBootstrapped x with _ | _
      · exact h.create hx hnew hbinder
      · exact h

lemma chronicled_resolveBuilder {b : SiteBuilder} {i : Nat} {spec : SiteSpec} {ops : Operands}
    (hb : b.factory.services = .ofPlatform p) (hcell : b.cell ∈ L)
    (hown : b.cell.factory = b.factory.cells) (hops : ∀ x ∈ ops.types, p.IsNamed x)
    (h : pr.store.Chronicled p L) :
    ((resolveBuilder p i spec b ops).run pr).2.store.Chronicled p L := by
  rw [run_resolveBuilder]
  rcases hrun : (b.resolveOperands ops).run pr.store with ⟨e | x, s⟩
  · have hs := h.resolveOperands hb hcell hown hops hrun
    dsimp only
    split
    · exact hs
    · exact hs
  · have hs := h.resolveOperands hb hcell hown hops hrun
    dsimp only
    split
    · exact chronicled_bootstrapSite (mem_factorySites_of_resolveOperands hrun) hs
    · exact hs

/-- **One site**, whatever comes of it. -/
lemma chronicled_resolveSite (hf : f.services = .ofPlatform p) (i : Nat) (spec : SiteSpec)
    (h : pr.store.Chronicled p L) : ((resolveSite p f i spec).run pr).2.store.Chronicled p L := by
  rcases hspec : spec.operands p.lookup with e | ops
  · rw [resolveSite, hspec]
    exact h
  rw [run_resolveSite hspec]
  rcases hbegin : (f.beginSite spec.hint).run pr.store with ⟨e | b, s⟩
  · have hs := (h.beginSite hf hbegin).1
    dsimp only
    split
    · exact hs
    · exact hs
  · have hs : (⟨s, pr.lines⟩ : Progress).store.Chronicled p (b.cell :: L) :=
      (h.beginSite hf hbegin).2 b rfl
    obtain ⟨rfl, hown⟩ := SiteFactory.eq_of_beginSite hf hbegin
    exact (chronicled_resolveBuilder hf List.mem_cons_self hown
      (SiteSpec.named_of_operands hspec) hs).mono (List.subset_cons_self _ _)

/-- **The sites of a file**, as far as it gets. -/
lemma chronicled_resolveSites (hf : f.services = .ofPlatform p) (specs : List SiteSpec) :
    ∀ (i : Nat) {pr : Progress}, pr.store.Chronicled p L →
      ((resolveSites p f i specs).run pr).2.store.Chronicled p L := by
  induction specs with
  | nil => exact fun _ _ h => h
  | cons spec specs ih =>
      intro i pr h
      rw [resolveSites, run_bind]
      have hsite := chronicled_resolveSite hf i spec h
      rcases hrun : (resolveSite p f i spec).run pr with ⟨e | _, pr₁⟩
      · rw [hrun] at hsite
        exact hsite
      · rw [hrun] at hsite
        exact ih (i + 1) hsite

lemma chronicled_resolveFile {w : Program} (hw : Orderly p w) (h : w.store.Chronicled p [])
    (file : SiteFile) :
    ((resolveFile p ⟨0⟩ file).run { store := w.store }).2.store.Chronicled p [] := by
  obtain ⟨f, w₁, hopen, hrest⟩ := exists_opened hw file
  have hf : f.services = .ofPlatform p := hopen.orderly.services f (by simp [hopen.factories])
  have hstart : (⟨w₁.store, [.container f.container.text file.unit]⟩ : Progress).store.Chronicled
      p [] := hopen.chronicled h
  have hsites := chronicled_resolveSites hf file.sites 0 hstart
  rw [hrest, run_bind]
  rcases hrun : (resolveSites p f 0 file.sites).run
    ⟨w₁.store, [.container f.container.text file.unit]⟩ with ⟨e | _, pr₁⟩
  · rw [hrun] at hsites
    exact hsites
  · rw [hrun] at hsites
    exact hsites

end Chronicled

/-! ## What is printed -/

section Printed

variable {p : Platform} {f : SiteFactory} {file : SiteFile} {lines : List Line} {pr : Progress}

lemma instr?_siteLines (x : Site) (s : Store) : (siteLines x s).filterMap Line.instr? = [] := by
  rw [siteLines]
  split <;> rfl

/-- Instructions are printed in the totals only. -/
lemma Stage.instr?_lines {name unit : String} {specs : List SiteSpec}
    (h : Stage p f (.container name unit) specs pr) : pr.lines.filterMap Line.instr? = [] := by
  have hheading : Line.instr? (.container name unit) = none := rfl
  cases h with
  | skipped _ h =>
      rw [h.lines, List.filterMap_cons_none hheading, List.filterMap_map]
      exact List.filterMap_eq_nil_iff.mpr fun _ _ => rfl
  | stranded _ _ h =>
      rw [h.lines, List.filterMap_cons_none hheading, strandedLines, List.filterMap_flatMap]
      exact List.flatMap_eq_nil_iff.mpr fun _ _ => rfl
  | resolved _ _ h =>
      rw [h.lines, List.filterMap_cons_none hheading, List.filterMap_flatMap]
      exact List.flatMap_eq_nil_iff.mpr fun _ _ => instr?_siteLines _ _

lemma instr?_totals (f : SiteFactory) (s : Store) :
    (totals f s).filterMap Line.instr? = (s.initializer f.container).map Instr.text := by
  have hcode : ((s.initializer f.container).map fun i => Line.instr i.text).filterMap
      Line.instr? = (s.initializer f.container).map Instr.text := by
    rw [List.filterMap_map, ← List.filterMap_eq_map]
    rfl
  rw [totals]
  split
  · next hempty =>
      rw [List.isEmpty_iff.mp hempty]
      rfl
  · exact hcode

/-- The static initializer of a file is printed.  Where the platform has what sites are resolved
with, it creates the cells of those sites of the file that are to be bootstrapped, in their order;
elsewhere no site has been resolved, and it is empty. -/
structure PrintsInitializer (p : Platform) (file : SiteFile) (f : SiteFactory) (pr : Progress) :
    Prop where
  container : (f.container.ns, f.container.name) = file.containerName
  printed : pr.lines.filterMap Line.instr? = (pr.store.initializer f.container).map Instr.text
  resolved : p.Offers .target → p.Offers .create →
    (pr.store.factorySites f).map (fun x => x.cell.name) = cellNames file.sites ∧
      ∃ binder, p.binder = .ok binder ∧
        pr.store.initializer f.container = bootCode file.sites (pr.store.factorySites f) binder
  unresolved : ¬ (p.Offers .target ∧ p.Offers .create) →
    pr.store.factorySites f = [] ∧ pr.store.initializer f.container = []

lemma Done.printsInitializer (h : Done p file f lines pr) : PrintsInitializer p file f pr where
  container := h.container
  printed := by
    have hlines : lines.filterMap Line.instr? = [] := h.stage.instr?_lines
    rw [h.lines, List.filterMap_append, hlines, instr?_totals, List.nil_append]
  resolved htarget hcreate := by
    cases h.stage with
    | skipped htarget' => exact absurd htarget htarget'
    | stranded _ hcreate' => exact absurd hcreate hcreate'
    | resolved _ _ h =>
        refine ⟨?_, h.code⟩
        have hnames : ((pr.store.factorySites f).map Site.cell).map Cell.name = _ := h.begun.names
        rw [← hnames, List.map_map]
        rfl
  unresolved hnot := by
    cases h.stage with
    | skipped _ h => exact ⟨h.blank.sites, h.blank.code⟩
    | stranded _ _ h => exact ⟨h.sites, h.code⟩
    | resolved htarget hcreate => exact absurd ⟨htarget, hcreate⟩ hnot

end Printed

end Report

open Report in
/-- **Static initializers are sound.**  After every history a static initializer holds the code of
the creations that have succeeded in its container, in their order, and nothing else.  No field is
stored to twice.  The field is declared in that container and final, and its type is what the create
method called before returns, which is a static method of that same type.  A creation that fails
leaves everything as it was.  In a run the create method takes the binder that it is called with,
and nothing else, and the static initializer printed for a file has the code for each site that was
resolved and is to be bootstrapped, once and in the order of the sites. -/
theorem static_initializers_sound {prof : Profile} {p : Platform}
    (hp : Platform.ofProfile prof = .ok p) :
    (∀ log w, World.Chronicle p log w →
      (∀ c, w.store.initializer c = creationCode log c) ∧
      (log.map fun e => e.1.place.id).Nodup ∧
      (∀ e ∈ log, e.1.Creatable p w.store) ∧
      ∀ (x : Site) binder e s, (x.bootstrap binder).run w.store = (.error e, s) → s = w.store) ∧
    ∀ files s, After p files s → ∀ file o pr,
      (resolveFile p ⟨0⟩ file).run { store := s } = (o, pr) →
      (∃ log w, World.Chronicle p log w ∧ w.store = pr.store ∧
        ∀ e ∈ log, e.1.create.params.map Parameter.type = [some e.2]) ∧
      (o = .ok () → ∃ f, PrintsInitializer p file f pr) := by
  refine ⟨fun log w hw => ⟨hw.told.recorded.code, hw.told.recorded.once, fun e he => ?_, ?_⟩, ?_⟩
  · obtain ⟨f, hf⟩ := hw.told.recorded.listed e he
    exact hw.creatable hf
  · intro x binder e s hrun
    rw [x.run_bootstrap] at hrun
    split at hrun
    · cases hrun
      rfl
    · cases binder with
      | none =>
          cases hrun
          rfl
      | some t => cases hrun
  · intro files s hs file o pr hrun
    obtain ⟨w, hw, hchronicled, rfl⟩ := hs.exists_orderly hp
    refine ⟨?_, fun ho => ?_⟩
    · have hafter := chronicled_resolveFile hw hchronicled file
      rw [hrun] at hafter
      obtain ⟨log, w₁, hw₁, hbinders, -, hstore⟩ := hafter
      refine ⟨log, w₁, hw₁, hstore, fun e he => ?_⟩
      obtain ⟨f, hf⟩ := hw₁.told.recorded.listed e he
      obtain ⟨n, hn, hparams⟩ := (hw₁.creatable hf).params
      have hbinder : p.binder = .ok (.named n) := by
        rw [Platform.binder, hn]
        rfl
      have htype : Ty.named n = e.2 := Except.ok.inj (hbinder.symm.trans (hbinders e he))
      rw [hparams, ← htype]
      rfl
    · obtain ⟨-, -, f, lines, hdone⟩ | ⟨e, he, -⟩ := resolveFile_of_orderly hp hw hchronicled hrun
      · exact ⟨f, hdone.printsInitializer⟩
      · rw [ho] at he
        cases he

open Report in
/-- Two sites, the second of which is to be bootstrapped: one cell is created, and stored in the
field of the second site. -/
theorem static_initializers_sound_of_second_site :
    let file : SiteFile :=
      { unit := "u", container := "Script",
        sites := [{ hint := "get", receiver := "Int32" },
          { hint := "set", args := ["String"], bootstrap := true }] }
    ∃ pr f log w,
      (resolveFile .standard ⟨0⟩ file).run { store := .withUnits .standard } = (.ok (), pr) ∧
      (pr.lines.filterMap Line.instr?).length = 3 ∧
      (pr.lines.filterMap Line.instr?).getLast? = some "stsfld Script::<>set'1" ∧
      PrintsInitializer .standard file f pr ∧ World.Chronicle .standard log w ∧
      w.store = pr.store ∧ pr.store.initializer f.container = creationCode log f.container := by
  intro file
  rcases hrun : (resolveFile .standard ⟨0⟩ file).run { store := .withUnits .standard } with ⟨o, pr⟩
  have heval : o.toBool = true ∧ (pr.lines.filterMap Line.instr?).length = 3 ∧
      (pr.lines.filterMap Line.instr?).getLast? = some "stsfld Script::<>set'1" := by
    have hfst : o = ((resolveFile .standard ⟨0⟩ file).run { store := .withUnits .standard }).1 := by
      rw [hrun]
    have hsnd :
        pr = ((resolveFile .standard ⟨0⟩ file).run { store := .withUnits .standard }).2 := by
      rw [hrun]
    rw [hfst, hsnd]
    unfold file
    decide +kernel
  obtain ⟨hok, hlength, hlast⟩ := heval
  obtain ⟨hgeneral, hruns⟩ := static_initializers_sound Platform.ofProfile_standard
  obtain ⟨⟨log, w, hw, hstore, -⟩, hprints⟩ := hruns [] _ .start file o pr hrun
  rcases o with e | _
  · cases hok
  · obtain ⟨f, hf⟩ := hprints rfl
    exact ⟨pr, f, log, w, rfl, hlength, hlast, hf, hw, hstore, hstore ▸ (hgeneral log w hw).1 _⟩

end CallSites
