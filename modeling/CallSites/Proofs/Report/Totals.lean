import CallSites.Proofs.Report.FileByFile

/-!
# The totals of a file

The lines about the sites of a file and the totals below them come from three places: the names that
have been given out, the sites that have been listed and the counts of the synthesizer.  They are
advanced at different points of a resolution that may fail in between, and still they add up: a
platform supports all the sites of a file or none of them (`report_adds_up`).
-/

namespace CallSites

namespace Report

/-- The lines of a section: a heading, what is said about the sites, the numbers of cells that were
allocated and of sites that were resolved, the counts, and the static initializer if there is
one. -/
def sectionLines (heading : Line) (body : List Line) (allocated resolved : Nat) (t : Tally)
    (code : List Instr) : List Line :=
  heading :: body ++ [.cells allocated resolved, .tally t] ++
    if code.isEmpty then [] else .initializer :: code.map fun i => .instr i.text

/-- No site has been begun: each is reported, and there is nothing else to tell. -/
structure NoneBegun (file : SiteFile) (f : SiteFactory) (pr : Progress) : Prop where
  undeclared : ∀ name, (pr.store.containerFields f.container).contains name = false
  lines : ∃ reason, pr.lines = sectionLines (.container f.container.text file.unit)
    ((List.range file.sites.length).map fun i => .unsupported i reason) 0 0 ⟨0, 0, 0⟩ []

/-- Every site has been begun and none resolved: each is reported with the cell that it leaves
behind, which still has the non-generic cache cell type. -/
structure NoneResolved (p : Platform) (file : SiteFile) (f : SiteFactory)
    (entries : List (Cell × String)) (pr : Progress) : Prop where
  names : entries.map (fun e => e.1.name) = cellNames file.sites
  declared : ∀ e ∈ entries, e.1.factory = f.cells ∧ pr.store.Houses e.1
  untyped : ∀ e ∈ entries, p.cell = .ok e.1.provisional ∧ pr.store.isFinal e.1.field = false ∧
    pr.store.fieldType e.1.field = some e.1.provisional
  lines : ∃ t : Tally, t.total = file.sites.length ∧
    pr.lines = sectionLines (.container f.container.text file.unit) (strandedLines entries)
      file.sites.length 0 t []

/-- Every site has been resolved, and none is reported as unsupported. -/
structure EachResolved (file : SiteFile) (f : SiteFactory) (pr : Progress) : Prop where
  names : (pr.store.factorySites f).map (fun x => x.cell.name) = cellNames file.sites
  declared : ∀ x ∈ pr.store.factorySites f, x.cell.factory = f.cells ∧ pr.store.Houses x.cell
  lines : ∃ t : Tally, t.total = file.sites.length ∧
    pr.lines = sectionLines (.container f.container.text file.unit)
      ((pr.store.factorySites f).flatMap (siteLines · pr.store)) file.sites.length
      file.sites.length t (pr.store.initializer f.container)
  supported : ∀ i reason, .unsupported i reason ∉ pr.lines

section Totals

variable {p : Platform} {file : SiteFile} {f : SiteFactory} {lines : List Line} {pr : Progress}

lemma unsupported_notMem_siteLines {x : Site} {s : Store} (i : Nat) (reason : String) :
    .unsupported i reason ∉ siteLines x s := by
  rw [siteLines]
  split <;> simp

lemma unsupported_notMem_sectionLines {name unit : String} {body : List Line} {a r : Nat}
    {t : Tally} {code : List Instr} (h : ∀ i reason, .unsupported i reason ∉ body) (i : Nat)
    (reason : String) :
    .unsupported i reason ∉ sectionLines (.container name unit) body a r t code := by
  rw [sectionLines]
  split <;> simp [h]

lemma Done.noneBegun (h : Done p file f lines pr) (htarget : ¬ p.Offers .target) :
    NoneBegun file f pr := by
  cases h.stage with
  | stranded htarget' => exact absurd htarget' htarget
  | resolved htarget' => exact absurd htarget' htarget
  | @skipped _ reason hall =>
      refine ⟨hall.blank.fields, reason, ?_⟩
      have htally := Tally.eq_zero_of_total hall.blank.total
      have hlines : lines = _ := hall.lines
      simp only [h.lines, hlines, totals, htally, hall.blank.allocated, hall.blank.sites,
        hall.blank.code, sectionLines, List.append_assoc]
      rfl

lemma Done.noneResolved (h : Done p file f lines pr) (htarget : p.Offers .target)
    (hcreate : ¬ p.Offers .create) : ∃ entries, NoneResolved p file f entries pr := by
  cases h.stage with
  | skipped htarget' => exact absurd htarget htarget'
  | resolved _ hcreate' => exact absurd hcreate' hcreate
  | @stranded _ _ entries hall =>
      have hlines : lines = _ := hall.lines
      have hmem : ∀ e ∈ entries, e.1 ∈ entries.map Prod.fst := fun e he => List.mem_map_of_mem he
      obtain ⟨C, L, hL, hvalid⟩ := hall.begun.chronicled.valid
      refine ⟨entries, ?_, fun e he => ?_, fun e he => ?_, ?_⟩
      · rw [← hall.begun.names, List.map_map]
        rfl
      · exact ⟨hall.begun.own _ (hmem e he), hall.begun.chronicled.houses (hmem e he)⟩
      · have hproper := (hvalid.cells _ (hL (hmem e he))).1
        refine ⟨hproper.provisional, Store.isFinal_eq_false_iff.mpr (hall.untyped e he), ?_⟩
        rw [Store.fieldType, hall.untyped e he]
        exact hproper.field
      · refine ⟨_, hall.begun.total, ?_⟩
        have hallocated : pr.store.allocated f.cells = file.sites.length := hall.begun.allocated
        have hsites : pr.store.factorySites f = [] := hall.sites
        have hcode : pr.store.initializer f.container = [] := hall.code
        simp only [h.lines, hlines, totals, hallocated, hsites, hcode, sectionLines,
          List.append_assoc]
        rfl

lemma Done.eachResolved (h : Done p file f lines pr) (htarget : p.Offers .target)
    (hcreate : p.Offers .create) : EachResolved file f pr := by
  cases h.stage with
  | skipped htarget' => exact absurd htarget htarget'
  | stranded _ hcreate' => exact absurd hcreate hcreate'
  | resolved _ _ hall =>
      have hbegun : Begun p f file.sites ((pr.store.factorySites f).map Site.cell) pr.store :=
        hall.begun
      have hlines : pr.lines = sectionLines (.container f.container.text file.unit)
          ((pr.store.factorySites f).flatMap (siteLines · pr.store)) file.sites.length
          file.sites.length (pr.store.tally f.synthesizer) (pr.store.initializer f.container) := by
        have hbody : lines = _ := hall.lines
        have hlength : (pr.store.factorySites f).length = file.sites.length := by
          rw [← hbegun.length_eq, List.length_map]
        simp only [h.lines, hbody, totals, hbegun.allocated, hlength, sectionLines,
          List.append_assoc]
      refine ⟨?_, fun x hx => ?_, ⟨_, hbegun.total, hlines⟩, fun i reason => ?_⟩
      · rw [← hbegun.names, List.map_map]
        rfl
      · have hmem := List.mem_map_of_mem (f := Site.cell) hx
        exact ⟨hbegun.own _ hmem, hbegun.chronicled.houses hmem⟩
      · rw [hlines]
        refine unsupported_notMem_sectionLines (fun i reason hmem => ?_) i reason
        obtain ⟨x, -, hx⟩ := List.mem_flatMap.mp hmem
        exact unsupported_notMem_siteLines i reason hx

end Totals

end Report

open Report in
/-- **The report adds up.**  A file that is resolved without failure, after any others, is supported
all or nothing.  Without the target of cells every site is reported as unsupported, no cell is
allocated and nothing is counted.  With the target but without the create method every site is
reported with the cell it leaves behind.  With both no site is reported, and all are resolved.
Where cells are allocated there is one for each site, named by its hint and its position, and the
three counts add up to the number of sites. -/
theorem report_adds_up {prof : Profile} {p : Platform} (hp : Platform.ofProfile prof = .ok p)
    {files : List SiteFile} {s : Store} (h : After p files s) {file : SiteFile} {pr : Progress}
    (hrun : (resolveFile p ⟨0⟩ file).run { store := s } = (.ok (), pr)) :
    ∃ f : SiteFactory, (f.container.ns, f.container.name) = file.containerName ∧
      (¬ p.Offers .target → NoneBegun file f pr) ∧
      (p.Offers .target → ¬ p.Offers .create → ∃ entries, NoneResolved p file f entries pr) ∧
      (p.Offers .target → p.Offers .create → EachResolved file f pr) := by
  obtain ⟨-, -, f, lines, hdone⟩ | ⟨e, he, -⟩ := resolveFile_cases hp h hrun
  · exact ⟨f, hdone.container, hdone.noneBegun, hdone.noneResolved, hdone.eachResolved⟩
  · cases he

open Report in
/-- Two sites on a platform that has everything, and on one without the create method. -/
theorem report_adds_up_of_two_sites :
    let file : SiteFile :=
      { unit := "u", container := "Script",
        sites := [{ hint := "get", receiver := "Int32", receiverByRef := true },
          { hint := "set", args := ["String"], bootstrap := true }] }
    let prof : Profile :=
      { Profile.standard with
        cell := some
          { base := "CallSite", binder := "CallSiteBinder", members := some ["Target"] } }
    (∃ f pr, (resolveFile .standard ⟨0⟩ file).run { store := .withUnits .standard } = (.ok (), pr) ∧
      EachResolved file f pr) ∧
    ∃ f entries pr,
      (resolveFile ⟨prof.withDefaults⟩ ⟨0⟩ file).run { store := .withUnits ⟨prof.withDefaults⟩ } =
        (.ok (), pr) ∧ NoneResolved ⟨prof.withDefaults⟩ file f entries pr := by
  intro file prof
  have hprof : Platform.ofProfile prof = .ok ⟨prof.withDefaults⟩ :=
    Platform.ofProfile_eq_ok.mpr ⟨by decide, rfl⟩
  have hcreate : ¬ Platform.Offers ⟨prof.withDefaults⟩ .create := by
    rintro ⟨c, hc, hmem⟩
    cases hc
    revert hmem
    decide
  constructor
  · have hok : ((resolveFile .standard ⟨0⟩ file).run
        { store := .withUnits .standard }).1.toBool = true := by
      unfold file
      decide +kernel
    rcases hrun : (resolveFile .standard ⟨0⟩ file).run { store := .withUnits .standard } with
      ⟨e | _, pr⟩
    · rw [hrun] at hok
      cases hok
    · obtain ⟨f, -, -, -, heach⟩ := report_adds_up Platform.ofProfile_standard .start hrun
      exact ⟨f, pr, rfl, heach ⟨_, rfl, by decide⟩ ⟨_, rfl, by decide⟩⟩
  · have hok : ((resolveFile ⟨prof.withDefaults⟩ ⟨0⟩ file).run
        { store := .withUnits ⟨prof.withDefaults⟩ }).1.toBool = true := by
      unfold file prof
      decide +kernel
    rcases hrun : (resolveFile ⟨prof.withDefaults⟩ ⟨0⟩ file).run
      { store := .withUnits ⟨prof.withDefaults⟩ } with ⟨e | _, pr⟩
    · rw [hrun] at hok
      cases hok
    · obtain ⟨f, -, -, hnone, -⟩ := report_adds_up hprof .start hrun
      obtain ⟨entries, hentries⟩ := hnone ⟨_, rfl, by decide⟩ hcreate
      exact ⟨f, entries, pr, rfl, hentries⟩

end CallSites
