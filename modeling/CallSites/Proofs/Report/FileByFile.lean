import CallSites.Proofs.Report.SiteBySite

/-!
# File by file

The files of a run are resolved in one store, each by a factory of its own in a container of its
own. When a file is opened its factory has done nothing yet, whatever the files before it have left
in the store, so the sites of the file can be followed from the beginning (`Report.Opened.stage`).

`Report.resolveFile_cases` says what comes of a file after any others: its section and its part of
the store are as described, and a file is refused just when one of its sites is.
-/

namespace CallSites

namespace Report

/-- The store after files have been resolved on a platform, in order and without failure. -/
inductive After (p : Platform) : List SiteFile → Store → Prop
  | start : After p [] (.withUnits p)
  | next {files : List SiteFile} {file : SiteFile} {s : Store} {pr : Progress} (h : After p files s)
      (hrun : (resolveFile p ⟨0⟩ file).run { store := s } = (.ok (), pr)) :
      After p (files ++ [file]) pr.store

section Open

variable {p : Platform} {file : SiteFile} {w w₁ : Program} {f : SiteFactory}

/-- A factory that has just been made has not counted anything. -/
lemma Opened.total_eq_zero (hw : Orderly p w) (h : Opened p file w f w₁) :
    (w₁.store.tally f.synthesizer).total = 0 := by
  have hnotes : notesBy f.serial w₁.journal = [] := by
    rw [notesBy, List.map_eq_nil_iff, List.filter_eq_nil_iff, h.journal]
    intro e he
    rw [decide_eq_true_iff]
    exact h.orderly.serial_ne_last h.factories (hw.journal e he)
  have hfast := h.orderly.fastPath_eq f
  have hconsulted := h.orderly.consulted_eq f
  rw [hnotes, List.countP_nil] at hfast hconsulted
  rw [Tally.total]
  omega

lemma Opened.isBlank (hw : Orderly p w) (h : Opened p file w f w₁) : Blank f w₁.store where
  fields name := by
    have hpage : w₁.store.page f.container.serial = .blank := congrArg Prod.fst h.blank
    rw [← Bool.not_eq_true, Store.contains_iff, hpage]
    exact List.not_mem_nil
  sites := by
    have hsheet : w₁.store.sheet f.serial = .blank := congrArg Prod.snd h.blank
    exact List.map_eq_nil_iff.mp (congrArg Sheet.sites hsheet)
  code := by
    have hpage : w₁.store.page f.container.serial = .blank := congrArg Prod.fst h.blank
    exact List.map_eq_nil_iff.mp (congrArg Page.code hpage)
  allocated := by
    have hsheet : w₁.store.sheet f.serial = .blank := congrArg Prod.snd h.blank
    exact congrArg Sheet.named hsheet
  total := h.total_eq_zero hw

lemma Opened.chronicled (h : Opened p file w f w₁) (hw : w.store.Chronicled p []) :
    w₁.store.Chronicled p [] := by
  obtain ⟨s, hunit, hstore⟩ := h.store
  have hreserved := hw.newContainer f.container.ns f.container.name
  have hentered := hreserved.quiet (r := .forUnit ⟨0⟩ file.unit) rfl (fun _ => rfl)
    (fun _ _ _ => trivial) (fun _ _ => trivial) hunit
  rw [hstore]
  exact hentered.quiet (r := .newSites (some (.ofPlatform p)) (some f.container) (some f.registry))
    rfl (fun _ => rfl) (fun _ _ _ => trivial) (fun _ _ => trivial) (run_newFactory s _ _ _)

lemma Blank.begun {s : Store} (h : Blank f s) (hf : f.services = .ofPlatform p)
    (hs : s.Chronicled p []) : Begun p f [] [] s where
  chronicled := hs
  services := hf
  own c hc := by cases hc
  names := rfl
  fields name hname := by
    rw [h.fields] at hname
    cases hname
  allocated := h.allocated
  total := h.total

/-- Before the first site of a file. -/
lemma Opened.stage (hw : Orderly p w) (h : Opened p file w f w₁) (hs : w.store.Chronicled p [])
    (heading : Line) : Stage p f heading [] ⟨w₁.store, [heading]⟩ := by
  have hf : f.services = .ofPlatform p := h.orderly.services f (by simp [h.factories])
  have hblank := h.isBlank hw
  have hs₁ := h.chronicled hs
  have hbegun := hblank.begun hf hs₁
  by_cases htarget : p.Offers .target
  · by_cases hcreate : p.Offers .create
    · obtain ⟨n, -, hbinder⟩ := htarget.exists_binder
      refine .resolved htarget hcreate ⟨?_, ⟨_, hbinder, ?_⟩, ?_⟩
      · exact hblank.sites.symm ▸ hbegun
      · exact hblank.code
      · simp only [hblank.sites, List.flatMap_nil]
    · have hstranded : AllStranded p f heading [] [] ⟨w₁.store, [heading]⟩ :=
        ⟨hbegun, hblank.sites, hblank.code, by simp, rfl⟩
      exact .stranded htarget hcreate hstranded
  · obtain ⟨e, hun, hbegin⟩ := SiteFactory.run_beginSite_of_not_offers hf htarget
    exact .skipped htarget ⟨hs₁, hblank, ⟨e, hun, rfl, hbegin⟩, rfl⟩

end Open

section Files

variable {prof : Profile} {p : Platform} {files : List SiteFile} {file : SiteFile} {s : Store}

lemma Stage.chronicled {f : SiteFactory} {heading : Line} {specs : List SiteSpec} {pr : Progress}
    (h : Stage p f heading specs pr) : pr.store.Chronicled p [] := by
  cases h with
  | skipped _ h => exact h.chronicled
  | stranded _ _ h => exact h.begun.chronicled.mono (List.nil_subset _)
  | resolved _ _ h => exact h.begun.chronicled.mono (List.nil_subset _)

/-- A file has been resolved: its section has a heading and the totals, and what is between them and
what is in the store is described. -/
structure Done (p : Platform) (file : SiteFile) (f : SiteFactory) (lines : List Line)
    (pr : Progress) : Prop where
  container : (f.container.ns, f.container.name) = file.containerName
  unit : f.registry.unit = file.unit
  stage : Stage p f (.container f.container.text file.unit) file.sites ⟨pr.store, lines⟩
  lines : pr.lines = lines ++ totals f pr.store

/-- What comes of a file in a program. -/
lemma resolveFile_of_orderly (hp : Platform.ofProfile prof = .ok p) {w : Program}
    (hw : Orderly p w) (hs : w.store.Chronicled p []) {o : Except Failure Unit} {pr : Progress}
    (hrun : (resolveFile p ⟨0⟩ file).run { store := w.store } = (o, pr)) :
    (o = .ok () ∧ (∀ spec ∈ file.sites, p.Admits spec) ∧ ∃ f lines, Done p file f lines pr) ∨
      ∃ e, o = .error e ∧ ∃ spec ∈ file.sites, p.Refuses spec e := by
  obtain ⟨f, w₁, hopen, hrest⟩ := exists_opened hw file
  rw [hrest, run_bind] at hrun
  rcases hsites : (resolveSites p f 0 file.sites).run
    ⟨w₁.store, [.container f.container.text file.unit]⟩ with ⟨q, pr₁⟩
  rw [hsites] at hrun
  obtain ⟨rfl, hadmits, hstage⟩ | ⟨e, rfl, hrefuses⟩ :=
    Stage.resolveSites hp file.sites (hopen.stage hw hs _) hsites
  · cases hrun
    exact .inl ⟨rfl, hadmits, f, pr₁.lines, hopen.container, hopen.unit, hstage, rfl⟩
  · cases hrun
    exact .inr ⟨e, rfl, hrefuses⟩

/-- After files have been resolved the program is orderly and has a chronicle. -/
lemma After.exists_orderly (hp : Platform.ofProfile prof = .ok p) (h : After p files s) :
    ∃ w : Program, Orderly p w ∧ w.store.Chronicled p [] ∧ w.store = s := by
  induction h with
  | start =>
      refine ⟨.initial p, .initial p, ?_, rfl⟩
      exact (Store.Chronicled.initial p).quiet (r := .newUnits) rfl (fun _ => rfl)
        (fun _ _ _ => trivial) (fun _ _ => trivial) (y := UnitTable.new) rfl
  | next _ hrun ih =>
      obtain ⟨w, hw, hs, rfl⟩ := ih
      obtain ⟨f, notes, w₁, hstore, hres, -⟩ := (resolveFile_spec hw _ hrun).2 rfl
      obtain ⟨-, -, f, lines, hdone⟩ | ⟨e, he, -⟩ := resolveFile_of_orderly hp hw hs hrun
      · exact ⟨w₁, hres.orderly, hstore ▸ hdone.stage.chronicled, hstore⟩
      · cases he

/-- **What comes of a file**, after any others. -/
theorem resolveFile_cases (hp : Platform.ofProfile prof = .ok p) (h : After p files s)
    {o : Except Failure Unit} {pr : Progress}
    (hrun : (resolveFile p ⟨0⟩ file).run { store := s } = (o, pr)) :
    (o = .ok () ∧ (∀ spec ∈ file.sites, p.Admits spec) ∧ ∃ f lines, Done p file f lines pr) ∨
      ∃ e, o = .error e ∧ ∃ spec ∈ file.sites, p.Refuses spec e := by
  obtain ⟨w, hw, hs, rfl⟩ := h.exists_orderly hp
  exact resolveFile_of_orderly hp hw hs hrun

end Files

end Report

end CallSites
