import CallSites.Proofs.Platform.Validation
import CallSites.Proofs.Report.Admission
import CallSites.Proofs.Report.FileByFile

/-!
# How a run can fail

A run over site files that can be read and obey the rules, for a profile that does, fails only for
what is in the files: it fails just when the platform rejects a site of one of them
(`run_fails_iff_rejects`).  The failure is then an error about types.  No misuse and no internal
error can come up, in whatever order sites are begun, resolved and bootstrapped, because every
operation finds what the ones before it have to leave: that is part of the description of a file
that has been resolved (`Report.resolveFile_cases`).

What a file says is up to the decoders of the run (`Report.Sources`), and nothing is assumed of them
here.
-/

namespace CallSites

/-! ## Making a platform -/

/-- The generic cache cell type can be applied to its own type parameter, which is all that happens
when a platform is made. -/
lemma Platform.construct_genericCell {p : Platform} {d : Definition} (h : p.genericCell? = some d) :
    (d.construct (d.params.map some)).run {} = (.ok d.self, p.initialTypes) := by
  have hcheck : d.checkArgs (d.params.map some) = .ok d.params := by
    refine Definition.checkArgs_eq_ok.mpr ⟨rfl, by simp [Definition.params], fun a ha => ?_⟩
    obtain ⟨i, -, rfl⟩ := List.mem_map.mp ha
    exact ⟨fun hkind => (by cases hkind), fun hkind => (by cases hkind)⟩
  rcases hrun : (d.construct (d.params.map some)).run {} with ⟨o, t⟩
  obtain ⟨e, he, -⟩ | ⟨as, has, hcases⟩ := Definition.construct_cases hrun
  · rw [hcheck] at he
    cases he
  · rw [hcheck] at has
    cases has
    rw [initialTypes, h]
    obtain ⟨i, hi, -⟩ | ⟨-, rfl, rfl⟩ := hcases
    · cases hi
    · rfl

/-! ## What is read -/

namespace Report

/-- There is a site file at the path, and it obeys the rules. -/
def HasSites (src : Sources) (path : String) : Prop :=
  ∃ text file, src.read path = .ok text ∧ SiteFile.parse src.sites text path = .ok file

/-- There is a profile at the path and it obeys the rules, or the common one is asked for. -/
def HasProfile (src : Sources) (path : String) : Prop :=
  path = "" ∨ ∃ text prof, src.read path = .ok text ∧ Profile.parse src.profile text path = .ok prof

section Runs

variable {src : Sources} {path : String} {p : Platform}

lemma HasSites.exists_file (h : HasSites src path) : ∃ file, loadSites src path = .ok file := by
  obtain ⟨text, file, hread, hparse⟩ := h
  refine ⟨file, ?_⟩
  rw [loadSites, readFile, hread]
  exact hparse

lemma violations_of_loadSites {file : SiteFile} (h : loadSites src path = .ok file) :
    ∀ spec ∈ file.sites, spec.violations = [] := by
  rw [loadSites] at h
  rcases hread : readFile src.read "site file" path with e | text
  · rw [hread] at h
    cases h
  · rw [hread] at h
    exact SiteFile.violations_of_parse h

lemma HasProfile.exists_platform (h : HasProfile src path) :
    ∃ prof p, loadPlatform src path = .ok p ∧ Platform.ofProfile prof = .ok p := by
  rw [loadPlatform]
  split
  · exact ⟨.standard, .standard, rfl, Platform.ofProfile_standard⟩
  · next hne =>
      obtain ⟨text, prof, hread, hparse⟩ := h.resolve_left hne
      have hprof := Profile.ofProfile_of_parse hparse
      refine ⟨prof, ⟨prof⟩, ?_, hprof⟩
      have hload : (do Platform.ofProfile (← Profile.parse src.profile text path)) = .ok ⟨prof⟩ := by
        rw [hparse]
        exact hprof
      rw [readFile, hread]
      exact hload

/-- What comes of the files at some paths, after any others.  The induction is on the paths; the
files that have been resolved without failure are counted among the others. -/
lemma resolvePaths_cases {prof : Profile} (hp : Platform.ofProfile prof = .ok p)
    (paths : List String) : ∀ {files : List SiteFile} {s : Store} (sections : List (List Line)),
    After p files s → (∀ path ∈ paths, ∃ file, loadSites src path = .ok file) →
    ((resolvePaths src p ⟨0⟩ paths s sections).failure = none ∧
        ∀ path ∈ paths, ∀ file, loadSites src path = .ok file →
          ∀ spec ∈ file.sites, p.Admits spec) ∨
      ∃ path ∈ paths, ∃ file, loadSites src path = .ok file ∧ ∃ spec ∈ file.sites, ∃ f,
        p.Refuses spec f ∧ (resolvePaths src p ⟨0⟩ paths s sections).failure =
          some (f.mapError (.context (path ++ ": "))) := by
  induction paths with
  | nil => exact fun _ _ _ => .inl ⟨rfl, by simp⟩
  | cons path paths ih =>
      intro files s sections hafter hload
      rw [List.forall_mem_cons] at hload
      obtain ⟨⟨file, hfile⟩, hload⟩ := hload
      rw [resolvePaths, hfile]
      dsimp only
      rcases hrun : (resolveFile p ⟨0⟩ file).run { store := s } with ⟨o, pr⟩
      obtain ⟨rfl, hadmits, -⟩ | ⟨f, rfl, spec, hspec, hrefuses⟩ := resolveFile_cases hp hafter hrun
      · obtain ⟨hnone, hall⟩ | ⟨path', hpath, hfails⟩ :=
          ih (sections ++ [pr.lines]) (hafter.next hrun) hload
        · refine .inl ⟨hnone, List.forall_mem_cons.mpr ⟨fun file' hfile' => ?_, hall⟩⟩
          rw [hfile] at hfile'
          cases hfile'
          exact hadmits
        · exact .inr ⟨path', List.mem_cons_of_mem path hpath, hfails⟩
      · exact .inr ⟨path, List.mem_cons_self, file, hfile, spec, hspec, f, hrefuses, rfl⟩

end Runs

end Report

open Report

/-- **A run fails only for what is in the files.**  Take a profile and site files that are read and
obey the rules.  Then there is a platform for the profile, and making it succeeds.  The run fails
just when some site names a type that is not to be found or, where sites can be begun, leaves an
argument without a name, passes something void, or has more operands than can be stored.  The
failure is an error about types, none of it internal; only a site that is too large ends the run in
another way. -/
theorem run_fails_iff_rejects {src : Sources} {profile : String} {paths : List String}
    (hprofile : HasProfile src profile) (hpaths : ∀ path ∈ paths, HasSites src path) :
    ∃ p, loadPlatform src profile = .ok p ∧
      (∀ d, p.genericCell? = some d →
        (d.construct (d.params.map some)).run {} = (.ok d.self, p.initialTypes)) ∧
      ((run src profile paths).failure ≠ none ↔
        ∃ path ∈ paths, ∃ file, loadSites src path = .ok file ∧ ∃ spec ∈ file.sites,
          p.Rejects spec) ∧
      ∀ f, (run src profile paths).failure = some f →
        (∃ e, f = .error e ∧ e.AboutTypes ∧ e.isInternal = false) ∨
          f = .range .capacity ∧ p.Offers .target ∧
            ∃ path ∈ paths, ∃ file, loadSites src path = .ok file ∧ ∃ spec ∈ file.sites,
              spec.Oversized := by
  obtain ⟨prof, p, hload, hp⟩ := hprofile.exists_platform
  refine ⟨p, hload, fun d => Platform.construct_genericCell, ?_⟩
  have hrun : run src profile paths = resolvePaths src p ⟨0⟩ paths (.withUnits p) [] := by
    rw [run, hload]
    rfl
  rw [hrun]
  obtain ⟨hnone, hadmits⟩ | ⟨path, hpath, file, hfile, spec, hspec, f, hrefuses, hfails⟩ :=
    resolvePaths_cases hp paths [] .start fun path hpath =>
      (hpaths path hpath).exists_file
  · refine ⟨iff_of_false (not_not.mpr hnone) ?_, fun f hf => ?_⟩
    · rintro ⟨path, hpath, file, hfile, spec, hspec, hrejects⟩
      have hviol := violations_of_loadSites hfile spec hspec
      exact (Platform.admits_iff hviol).mp (hadmits path hpath file hfile spec hspec) hrejects
    · rw [hnone] at hf
      cases hf
  · have hviol := violations_of_loadSites hfile spec hspec
    refine ⟨iff_of_true ?_ ⟨path, hpath, file, hfile, spec, hspec, ?_⟩, fun f' hf => ?_⟩
    · rw [hfails]
      exact Option.some_ne_none _
    · exact not_not.mp (mt (Platform.admits_iff hviol).mpr hrefuses.not_admits)
    · rw [hfails] at hf
      cases hf
      obtain ⟨e, rfl, htypes⟩ | ⟨rfl, htarget, hsize⟩ := hrefuses.failure hviol
      · have habout : (Error.context (path ++ ": ") e).AboutTypes := .context _ htypes
        exact .inl ⟨_, rfl, habout, habout.isInternal_eq_false⟩
      · exact .inr ⟨rfl, htarget, path, hpath, file, hfile, spec, hspec, hsize⟩

/-- One file that is in order, and one with a void argument. -/
theorem run_fails_iff_rejects_of_void_argument :
    let src : Sources := .ofYaml fun path => .ok <|
      if path = "a" then "sites:\n- \x7breceiver: Int32, args: [String]\x7d"
      else "sites:\n- \x7bargs: [Int32, void]\x7d"
    (HasProfile src "" ∧ ∀ path ∈ ["a", "b"], HasSites src path) ∧
      (¬ ∃ file, loadSites src "a" = .ok file ∧ ∃ spec ∈ file.sites,
        Platform.Rejects .standard spec) ∧
      (∃ file, loadSites src "b" = .ok file ∧ ∃ spec ∈ file.sites,
        Platform.Rejects .standard spec) ∧
      (run src "" ["a"]).failure = none ∧
      ∃ e, (run src "" ["a", "b"]).failure = some (.error e) ∧ e.AboutTypes ∧
        e.isInternal = false := by
  intro src
  have hprofile : HasProfile src "" := .inl rfl
  have hsites : ∀ path ∈ ["a", "b"], HasSites src path := by
    have hhas : ∀ {path text : String}, src.read path = .ok text →
        (SiteFile.parse src.sites text path).toBool = true → HasSites src path := by
      intro path text hread hok
      rcases hparse : SiteFile.parse src.sites text path with e | file
      · rw [hparse] at hok
        cases hok
      · exact ⟨text, file, hread, hparse⟩
    have ha : HasSites src "a" := hhas rfl (by decide +kernel)
    have hb : HasSites src "b" := hhas rfl (by decide +kernel)
    simp [ha, hb]
  have heval : (run src "" ["a"]).failure.isNone = true ∧
      (run src "" ["a", "b"]).failure.isSome = true ∧
      (run src "" ["a", "b"]).failure.map Failure.message ≠ some RangeFault.capacity.message := by
    unfold src
    decide +kernel
  obtain ⟨halone, hfails, hsmall⟩ := heval
  rw [Option.isNone_iff_eq_none] at halone
  have hstandard : loadPlatform src "" = .ok .standard := rfl
  have hfirst : ∀ path ∈ ["a"], HasSites src path :=
    List.forall_mem_singleton.mpr (hsites "a" List.mem_cons_self)
  obtain ⟨p, hp, -, hiff, -⟩ := run_fails_iff_rejects hprofile hfirst
  rw [hstandard] at hp
  cases hp
  obtain ⟨p, hp, -, hiff', hfailure⟩ := run_fails_iff_rejects hprofile hsites
  rw [hstandard] at hp
  cases hp
  have ha : ¬ ∃ file, loadSites src "a" = .ok file ∧ ∃ spec ∈ file.sites,
      Platform.Rejects .standard spec := by
    intro hrejects
    exact hiff.mpr ⟨"a", List.mem_singleton_self _, hrejects⟩ halone
  refine ⟨⟨hprofile, hsites⟩, ha, ?_, halone, ?_⟩
  · obtain ⟨path, hpath, hrejects⟩ := hiff'.mp (Option.isSome_iff_ne_none.mp hfails)
    rcases List.mem_pair.mp hpath with rfl | rfl
    · exact absurd hrejects ha
    · exact hrejects
  · obtain ⟨f, hf⟩ := Option.isSome_iff_exists.mp hfails
    obtain ⟨e, rfl, htypes, hinternal⟩ | ⟨rfl, -⟩ := hfailure f hf
    · exact ⟨e, hf, htypes, hinternal⟩
    · rw [hf] at hsmall
      exact absurd rfl hsmall

end CallSites
