import CallSites.Documents
import CallSites.Proofs.Data.SortedNames
import CallSites.Proofs.Report.Sections

/-!
# The order of the files

The report of a run without failure does not depend on the order of the files, but for the counts of
synthesized and of found callable types in the sections.

After some files the program is described by a table with a row for each of them
(`Report.Tabled`): the factories and the journal of the program are those of the rows, and the rows
have nothing in them that depends on the other files but for those counts.  The closing section asks
only which rows there are.  How files are decoded does not matter.
-/

namespace CallSites

namespace Report

/-! ## Tables -/

/-- What has come of a file in a run. -/
structure Row where
  file : SiteFile
  factory : SiteFactory
  notes : List Note
  lines : List Line

/-- The row says of its file what can be said of it when it is alone. -/
structure Row.Faithful (p : Platform) (row : Row) : Prop where
  unit : row.factory.registry.unit = row.file.unit
  heading : ∃ name, row.lines.head? = some (.container name row.file.unit)
  keys : {k | k ∈ p.keysNeeded row.notes} = keysOf p row.file
  applied : p.applied row.notes = appliedIn p row.file
  lines : (aloneRun p row.file).2.lines.map Line.faded = row.lines.map Line.faded

/-- The rows are those of the files that have been resolved in the program, in their order. -/
structure Tabled (p : Platform) (rows : List Row) (w : Program) : Prop where
  orderly : Orderly p w
  factories : w.factories = rows.map Row.factory
  journal : w.journal = rows.flatMap fun row => row.notes.map fun n => (row.factory, n)
  units : ∀ v, (w.store.registryOf? v).isSome = true ↔ ∃ row ∈ rows, row.file.unit = v
  faithful : ∀ row ∈ rows, row.Faithful p
  synthesized : ∀ row ∈ rows, ∃ t, row.lines.filterMap Line.tally? = [t] ∧
    t.synthesized = (w.store.tally row.factory.synthesizer).synthesized

section Tables

variable {p : Platform} {rows rows' : List Row} {w w' : Program} {file : SiteFile}

lemma Tabled.initial (p : Platform) : Tabled p [] (.initial p) where
  orderly := .initial p
  factories := rfl
  journal := rfl
  units _ := iff_of_false Bool.false_ne_true fun ⟨_, hrow, _⟩ => List.not_mem_nil hrow
  faithful _ hrow := absurd hrow List.not_mem_nil
  synthesized _ hrow := absurd hrow List.not_mem_nil

/-- The factories of later files do not change what a factory has counted as synthesized. -/
lemma Resolved.synthesized_eq {f g : SiteFactory} {notes : List Note} {lines : List Line}
    {w₁ : Program} (h : Resolved p file w f notes lines w₁) (hw : Orderly p w)
    (hg : g ∈ w.factories) :
    (w₁.store.tally g.synthesizer).synthesized = (w.store.tally g.synthesizer).synthesized := by
  have hne : g.serial ≠ f.serial := h.orderly.serial_ne_last h.factories hg
  obtain ⟨more, hmore, hmem⟩ := creations_append (p := p) (journalCalls w.journal)
    (notes.map f.enter)
  have hnone : more.countP (fun m => m.synthesizer = g.serial) = 0 := by
    refine List.countP_eq_zero.mpr fun m hm => ?_
    obtain ⟨c, hc, rfl⟩ := hmem m hm
    obtain ⟨n, -, rfl⟩ := List.mem_map.mp hc
    rw [decide_eq_true_iff]
    exact hne.symm
  have hafter := h.orderly.ledger.synthesized g.serial
  rw [h.journal, Orderly.journalCalls_append, hmore, List.countP_append, hnone] at hafter
  exact hafter.trans (hw.ledger.synthesized g.serial).symm

/-- One more file. -/
lemma Tabled.append (h : Tabled p rows w) {pr : Progress}
    (hrun : (resolveFile p ⟨0⟩ file).run { store := w.store } = (.ok (), pr)) :
    ∃ row w₁, row.file = file ∧ row.lines = pr.lines ∧ w₁.store = pr.store ∧
      Tabled p (rows ++ [row]) w₁ := by
  obtain ⟨f, notes, w₁, hstore, hres, hkeys, happlied, hlines⟩ :=
    (resolveFile_spec h.orderly file hrun).2 rfl
  refine ⟨⟨file, f, notes, pr.lines⟩, w₁, rfl, rfl, hstore, ?_⟩
  refine
    { orderly := hres.orderly
      factories := ?_
      journal := ?_
      units := fun v => ?_
      faithful := fun row hrow => ?_
      synthesized := fun row hrow => ?_ }
  · rw [hres.factories, h.factories, List.map_append]
    rfl
  · rw [hres.journal, h.journal, List.flatMap_append, List.flatMap_singleton]
  · simp only [hres.units v, h.units v, List.mem_append, List.mem_singleton, or_and_right,
      exists_or, exists_eq_left]
    rw [or_comm, eq_comm]
  · rcases List.mem_append.mp hrow with hrow | hrow
    · exact h.faithful row hrow
    · rw [List.mem_singleton.mp hrow]
      exact ⟨hres.unit, hres.heading, hkeys, happlied, hlines⟩
  · rcases List.mem_append.mp hrow with hrow | hrow
    · obtain ⟨t, ht, hcount⟩ := h.synthesized row hrow
      have hmem : row.factory ∈ w.factories := by
        rw [h.factories]
        exact List.mem_map_of_mem hrow
      exact ⟨t, ht, hcount.trans (hres.synthesized_eq h.orderly hmem).symm⟩
    · rw [List.mem_singleton.mp hrow]
      exact ⟨_, hres.tally, rfl⟩

/-! ## The closing section -/

lemma Tabled.mem_notesFor (h : Tabled p rows w) {unit : String} {n : Note} :
    n ∈ notesFor unit w.journal ↔ ∃ row ∈ rows, row.file.unit = unit ∧ n ∈ row.notes := by
  simp only [notesFor, h.journal, List.mem_map, List.mem_filter, List.mem_flatMap,
    decide_eq_true_iff]
  constructor
  · rintro ⟨e, ⟨⟨row, hrow, m, hm, rfl⟩, hunit⟩, rfl⟩
    exact ⟨row, hrow, (h.faithful row hrow).unit.symm.trans hunit, hm⟩
  · rintro ⟨row, hrow, hunit, hn⟩
    exact ⟨(row.factory, n), ⟨⟨row, hrow, n, hn, rfl⟩, (h.faithful row hrow).unit.trans hunit⟩, rfl⟩

lemma mem_keysNeeded {notes : List Note} {k : Key} :
    k ∈ p.keysNeeded notes ↔ ∃ n ∈ notes, p.Needs n.shape ∧ n.shape.key = k := by
  simp [Platform.keysNeeded, List.mem_eraseDups, and_assoc]

/-- A unit needs the keys that are needed in its files. -/
lemma Tabled.mem_keysNeeded_iff (h : Tabled p rows w) {unit : String} {k : Key} :
    k ∈ p.keysNeeded (notesFor unit w.journal) ↔
      ∃ row ∈ rows, row.file.unit = unit ∧ k ∈ keysOf p row.file := by
  have hrow : ∀ row ∈ rows, (k ∈ keysOf p row.file ↔
      ∃ n ∈ row.notes, p.Needs n.shape ∧ n.shape.key = k) := fun row hrow => by
    rw [← (h.faithful row hrow).keys, ← mem_keysNeeded]
    rfl
  rw [mem_keysNeeded]
  constructor
  · rintro ⟨n, hn, hneeds⟩
    obtain ⟨row, hmem, hunit, hn⟩ := h.mem_notesFor.mp hn
    exact ⟨row, hmem, hunit, (hrow row hmem).mpr ⟨n, hn, hneeds⟩⟩
  · rintro ⟨row, hmem, hunit, hk⟩
    obtain ⟨n, hn, hneeds⟩ := (hrow row hmem).mp hk
    exact ⟨n, h.mem_notesFor.mpr ⟨row, hmem, hunit, hn⟩, hneeds⟩

/-- Definitions are applied for a unit to what they are applied to in its files. -/
lemma Tabled.mem_applied_iff (h : Tabled p rows w) {unit : String} {q : Key × List (Option Ty)} :
    q ∈ p.applied (notesFor unit w.journal) ↔
      ∃ row ∈ rows, row.file.unit = unit ∧ q ∈ appliedIn p row.file := by
  constructor
  · rintro ⟨n, hn, hq⟩
    obtain ⟨row, hmem, hunit, hn⟩ := h.mem_notesFor.mp hn
    refine ⟨row, hmem, hunit, ?_⟩
    rw [← (h.faithful row hmem).applied]
    exact ⟨n, hn, hq⟩
  · rintro ⟨row, hmem, hunit, hq⟩
    rw [← (h.faithful row hmem).applied] at hq
    obtain ⟨n, hn, hq⟩ := hq
    exact ⟨n, h.mem_notesFor.mpr ⟨row, hmem, hunit, hn⟩, hq⟩

/-- The tables have the same files, in any order and number. -/
def SameFiles (rows rows' : List Row) : Prop :=
  ∀ file, (∃ row ∈ rows, row.file = file) ↔ ∃ row ∈ rows', row.file = file

lemma SameFiles.exists_iff (h : SameFiles rows rows') (P : SiteFile → Prop) :
    (∃ row ∈ rows, P row.file) ↔ ∃ row ∈ rows', P row.file := by
  constructor
  · rintro ⟨row, hrow, hP⟩
    obtain ⟨row', hrow', hfile⟩ := (h row.file).mp ⟨row, hrow, rfl⟩
    exact ⟨row', hrow', hfile ▸ hP⟩
  · rintro ⟨row, hrow, hP⟩
    obtain ⟨row', hrow', hfile⟩ := (h row.file).mpr ⟨row, hrow, rfl⟩
    exact ⟨row', hrow', hfile ▸ hP⟩

lemma unitLines_eq (h : Tabled p rows w) (h' : Tabled p rows' w') (hsame : SameFiles rows rows')
    {unit : String} {r r' : Registry} (hr : w.store.registryOf? unit = some r)
    (hr' : w'.store.registryOf? unit = some r') :
    unitLines r' w'.store = unitLines r w.store := by
  have hkeys : ∀ k, k ∈ p.keysNeeded (notesFor unit w'.journal) ↔
      k ∈ p.keysNeeded (notesFor unit w.journal) := fun k => by
    rw [h.mem_keysNeeded_iff, h'.mem_keysNeeded_iff]
    exact (hsame.exists_iff fun file => file.unit = unit ∧ k ∈ keysOf p file).symm
  have happlied : p.applied (notesFor unit w'.journal) = p.applied (notesFor unit w.journal) := by
    ext q
    rw [h.mem_applied_iff, h'.mem_applied_iff]
    exact (hsame.exists_iff fun file => file.unit = unit ∧ q ∈ appliedIn p file).symm
  have hperm : (p.keysNeeded (notesFor unit w'.journal)).Perm
      (p.keysNeeded (notesFor unit w.journal)) :=
    (List.perm_ext_iff_of_nodup (nodup_eraseDups _) (nodup_eraseDups _)).mpr hkeys
  have hnames : sortedNames ((p.keysNeeded (notesFor unit w'.journal)).map Key.typeName) =
      sortedNames ((p.keysNeeded (notesFor unit w.journal)).map Key.typeName) :=
    sortedNames_eq_of_mem_iff fun _ => (hperm.map _).mem_iff
  rw [unitLines, unitLines, h.orderly.size_eq hr, h.orderly.names_eq hr,
    h.orderly.numInstances_eq hr, h'.orderly.size_eq hr', h'.orderly.names_eq hr',
    h'.orderly.numInstances_eq hr', happlied, hnames, hperm.length_eq,
    (h.orderly.units unit r hr).1, (h'.orderly.units unit r' hr').1]

lemma mem_unitNames {s : Store} {unit : String} :
    unit ∈ UnitTable.unitNames ⟨0⟩ s ↔ (s.registryOf? unit).isSome = true := by
  rw [UnitTable.unitNames, mem_sortedNames, Store.registryOf?, Option.isSome_iff_ne_none, Ne,
    OrderedMap.find?_eq_none_iff, not_not]

lemma closingLines_eq_flatMap (s : Store) :
    closingLines ⟨0⟩ s = (UnitTable.unitNames ⟨0⟩ s).flatMap fun unit =>
      match s.registryOf? unit with
      | some r => unitLines r s
      | none => [] := rfl

/-- **The closing section depends only on which files there are.** -/
lemma closingLines_eq (h : Tabled p rows w) (h' : Tabled p rows' w')
    (hsame : SameFiles rows rows') :
    closingLines ⟨0⟩ w'.store = closingLines ⟨0⟩ w.store := by
  have hsome : ∀ v, (w'.store.registryOf? v).isSome = true ↔
      (w.store.registryOf? v).isSome = true := fun v => by
    rw [h.units, h'.units]
    exact (hsame.exists_iff fun file => file.unit = v).symm
  have hunits : UnitTable.unitNames ⟨0⟩ w'.store = UnitTable.unitNames ⟨0⟩ w.store := by
    refine (pairwise_sortedNames _).eq_of_mem_iff (pairwise_sortedNames _) fun v => ?_
    exact mem_unitNames.trans ((hsome v).trans mem_unitNames.symm)
  rw [closingLines_eq_flatMap, closingLines_eq_flatMap, hunits]
  refine List.flatMap_congr fun unit hunit => ?_
  have hr := mem_unitNames.mp hunit
  obtain ⟨r', hr'⟩ := Option.isSome_iff_exists.mp ((hsome unit).mpr hr)
  obtain ⟨r, hr⟩ := Option.isSome_iff_exists.mp hr
  rw [hr, hr']
  exact unitLines_eq h h' hsame hr hr'

end Tables

/-! ## Runs -/

section Runs

variable {src : Sources} {p : Platform} {rows : List Row} {w : Program} {paths : List String}

/-- The file at the path can be read, and resolved when it is alone. -/
def Resolvable (src : Sources) (p : Platform) (path : String) : Prop :=
  ∃ file, loadSites src path = .ok file ∧ (aloneRun p file).1 = .ok ()

/-- **A run** comes to an end without failure if each of its files could be resolved alone, and only
then. -/
lemma resolvePaths_spec (paths : List String) : ∀ {rows : List Row} {w : Program},
    Tabled p rows w →
    ((resolvePaths src p ⟨0⟩ paths w.store (rows.map Row.lines)).failure = none ↔
      ∀ path ∈ paths, Resolvable src p path) ∧
    ((resolvePaths src p ⟨0⟩ paths w.store (rows.map Row.lines)).failure = none →
      ∃ more w₁, Tabled p (rows ++ more) w₁ ∧
        paths.map (loadSites src) = more.map (fun row => .ok row.file) ∧
        resolvePaths src p ⟨0⟩ paths w.store (rows.map Row.lines) =
          { sections := (rows ++ more).map Row.lines, closing := closingLines ⟨0⟩ w₁.store }) := by
  induction paths with
  | nil =>
      intro rows w h
      refine ⟨iff_of_true rfl (by simp), fun _ => ⟨[], w, ?_, rfl, ?_⟩⟩
      · rwa [List.append_nil]
      · rw [List.append_nil]
        rfl
  | cons path paths ih =>
      intro rows w h
      rw [resolvePaths, List.forall_mem_cons]
      rcases hload : loadSites src path with e | file
      · -- the file cannot be read
        have hnot : ¬ Resolvable src p path := by
          rintro ⟨file, hfile, -⟩
          rw [hload] at hfile
          cases hfile
        exact ⟨iff_of_false nofun fun hall => hnot hall.1, nofun⟩
      · rcases hrun : (resolveFile p ⟨0⟩ file).run { store := w.store } with ⟨o, pr⟩
        have halone := (resolveFile_spec h.orderly file hrun).1
        have hiff : Resolvable src p path ↔ o = .ok () := by
          simp only [Resolvable, hload, Except.ok.injEq, exists_eq_left', halone]
        dsimp only
        rw [hrun]
        cases o with
        | error e =>
            refine ⟨iff_of_false nofun fun hall => ?_, nofun⟩
            cases hiff.mp hall.1
        | ok _ =>
            obtain ⟨row, w₁, hfile, hlines, hstore, h₁⟩ := h.append hrun
            obtain ⟨hfailure, hdone⟩ := ih h₁
            have hsections : (rows ++ [row]).map Row.lines = rows.map Row.lines ++ [pr.lines] := by
              rw [List.map_append, List.map_singleton, hlines]
            rw [hsections, hstore] at hfailure hdone
            refine ⟨hfailure.trans (and_iff_right (hiff.mpr rfl)).symm, fun hnone => ?_⟩
            obtain ⟨more, w₂, h₂, hpaths, hresult⟩ := hdone hnone
            rw [List.append_assoc] at h₂ hresult
            refine ⟨[row] ++ more, w₂, h₂, ?_, hresult⟩
            rw [List.map_cons, hload, hpaths, ← hfile]
            rfl

/-- A run without failure has a profile that can be read and files that can be resolved alone. -/
lemma exists_platform {profile : String} (hok : (run src profile paths).failure = none) :
    ∃ p, loadPlatform src profile = .ok p ∧ ∀ path ∈ paths, Resolvable src p path := by
  rw [run] at hok
  rcases hp : loadPlatform src profile with e | p
  · rw [hp] at hok
    cases hok
  · rw [hp] at hok
    exact ⟨p, rfl, (resolvePaths_spec paths (Tabled.initial p)).1.mp hok⟩

/-- Files that can be resolved alone can be resolved together. -/
lemma exists_tabled {profile : String} (hp : loadPlatform src profile = .ok p)
    (hall : ∀ path ∈ paths, Resolvable src p path) :
    ∃ rows w, Tabled p rows w ∧ paths.map (loadSites src) = rows.map (fun row => .ok row.file) ∧
      run src profile paths =
        { sections := rows.map Row.lines, closing := closingLines ⟨0⟩ w.store } := by
  obtain ⟨hiff, hdone⟩ := resolvePaths_spec paths (Tabled.initial p)
  obtain ⟨rows, w, h, hpaths, hresult⟩ := hdone (hiff.mpr hall)
  refine ⟨rows, w, h, hpaths, ?_⟩
  rw [run, hp]
  exact hresult

/-- The row of the file at a path stands where the path does. -/
lemma exists_row (hrows : paths.map (loadSites src) = rows.map fun row => .ok row.file) {i : Nat}
    {path : String} (hi : paths[i]? = some path) :
    ∃ row ∈ rows, rows[i]? = some row ∧ loadSites src path = .ok row.file := by
  have hat := congrArg (·[i]?) hrows
  simp only [List.getElem?_map, hi, Option.map_some] at hat
  obtain ⟨row, hrow, hfile⟩ := Option.map_eq_some_iff.mp hat.symm
  exact ⟨row, List.mem_of_getElem? hrow, hrow, hfile.symm⟩

end Runs

/-! ## Counts -/

/-- The section is that of a file of a given unit. -/
def isOfUnit (unit : String) (lines : List Line) : Bool :=
  match lines.head? with
  | some (.container _ owner) => owner = unit
  | _ => false

/-- How many callable types have been synthesized for the files of a unit, by their sections. -/
def synthesizedFor (r : Report) (unit : String) : Nat :=
  ((r.sections.filter (isOfUnit unit)).map fun lines =>
    ((lines.filterMap Line.tally?).map Tally.synthesized).sum).sum

/-- The closing section has every unit that a file belongs to, with as many callable types as have
been synthesized for its files. -/
structure Balanced (r : Report) : Prop where
  counts : ∀ unit types instances, .unit unit types instances ∈ r.closing →
    types = r.synthesizedFor unit
  units : ∀ lines ∈ r.sections, ∃ name unit instances,
    lines.head? = some (.container name unit) ∧
      .unit unit (r.synthesizedFor unit) instances ∈ r.closing

section Counts

variable {p : Platform} {rows : List Row} {w : Program}

lemma Row.Faithful.isOfUnit_iff {row : Row} (h : row.Faithful p) (unit : String) :
    isOfUnit unit row.lines = true ↔ row.factory.registry.unit = unit := by
  obtain ⟨name, hhead⟩ := h.heading
  rw [isOfUnit, hhead, h.unit]
  exact decide_eq_true_iff

/-- The counts in the sections of a unit sum to the size of its registry. -/
lemma Tabled.synthesizedFor_eq (h : Tabled p rows w) {closing : List Line} {unit : String}
    {r : Registry} (hr : w.store.registryOf? unit = some r) :
    synthesizedFor { sections := rows.map Row.lines, closing } unit = r.size w.store := by
  have hfilter : w.factories.filter (fun f => f.registry.unit = unit) =
      (rows.filter fun row => isOfUnit unit row.lines).map Row.factory := by
    rw [h.factories, List.filter_map]
    refine congrArg (List.map _) (List.filter_congr fun row hrow => ?_)
    rw [Bool.eq_iff_iff, (h.faithful row hrow).isOfUnit_iff]
    exact decide_eq_true_iff
  rw [← h.orderly.sum_synthesized hr, hfilter, synthesizedFor, List.filter_map, List.map_map,
    List.map_map]
  refine congrArg List.sum (List.map_congr_left fun row hrow => ?_)
  obtain ⟨t, ht, hcount⟩ := h.synthesized row (List.mem_filter.mp hrow).1
  simp [ht, hcount]

lemma mem_closingLines {s : Store} {unit : String} {types instances : Nat}
    (hunits : ∀ u r, s.registryOf? u = some r → r.unit = u) :
    .unit unit types instances ∈ closingLines ⟨0⟩ s ↔
      ∃ r, s.registryOf? unit = some r ∧ types = r.size s ∧ instances = r.numInstances s := by
  rw [closingLines_eq_flatMap, List.mem_flatMap]
  constructor
  · rintro ⟨u, -, hline⟩
    rcases hr : s.registryOf? u with _ | r
    · rw [hr] at hline
      cases hline
    · rw [hr] at hline
      have hown := hunits u r hr
      rcases List.mem_cons.mp hline with hline | hline
      · cases hline
        exact ⟨r, hown.symm ▸ hr, rfl, rfl⟩
      · obtain ⟨name, -, hname⟩ := List.mem_map.mp hline
        cases hname
  · rintro ⟨r, hr, rfl, rfl⟩
    refine ⟨unit, mem_unitNames.mpr (Option.isSome_iff_exists.mpr ⟨r, hr⟩), ?_⟩
    rw [hr]
    dsimp only
    rw [unitLines, hunits unit r hr]
    exact List.mem_cons_self

lemma Tabled.balanced (h : Tabled p rows w) :
    Balanced { sections := rows.map Row.lines, closing := closingLines ⟨0⟩ w.store } := by
  have hclosing : ∀ {unit types instances}, .unit unit types instances ∈ closingLines ⟨0⟩ w.store ↔
      ∃ r, w.store.registryOf? unit = some r ∧ types = r.size w.store ∧
        instances = r.numInstances w.store :=
    mem_closingLines fun u r hr => (h.orderly.units u r hr).1
  constructor
  · intro unit types instances hline
    obtain ⟨r, hr, htypes, -⟩ := hclosing.mp hline
    rw [htypes, h.synthesizedFor_eq hr]
  · intro lines hlines
    obtain ⟨row, hrow, rfl⟩ := List.mem_map.mp hlines
    obtain ⟨name, hhead⟩ := (h.faithful row hrow).heading
    obtain ⟨r, hr⟩ := Option.isSome_iff_exists.mp ((h.units row.file.unit).mpr ⟨row, hrow, rfl⟩)
    refine ⟨name, row.file.unit, r.numInstances w.store, hhead, hclosing.mpr ⟨r, hr, ?_, rfl⟩⟩
    exact h.synthesizedFor_eq hr

end Counts

end Report

/-! ## The order of the files -/

/-- The lines are the same, or both are about counts: then as many shapes have been resolved with a
callable family, and as many in all. -/
def Line.Agrees (l l' : Line) : Prop :=
  l' = l ∨ ∃ t t' : Tally, l = .tally t ∧ l' = .tally t' ∧ t'.fastPath = t.fastPath ∧
    t'.fastPath + t'.synthesized + t'.reused = t.fastPath + t.synthesized + t.reused

lemma Line.agrees_of_faded {l l' : Line} (h : l.faded = l'.faded) : l.Agrees l' := by
  unfold faded at h
  split at h <;> split at h
  · next t _ t' =>
      obtain ⟨hfast, hneeded, -⟩ := Tally.mk.inj (Line.tally.inj h)
      exact .inr ⟨t, t', rfl, rfl, hfast.symm, by omega⟩
  · next hother => exact absurd h.symm (hother _)
  · next hother _ _ => exact absurd h (hother _)
  · exact .inl h.symm

lemma Line.forall₂_agrees {lines lines' : List Line}
    (h : lines.map Line.faded = lines'.map Line.faded) : List.Forall₂ Line.Agrees lines lines' := by
  rw [← List.forall₂_eq_eq_eq, List.forall₂_map_left_iff, List.forall₂_map_right_iff] at h
  exact h.imp fun _ _ => agrees_of_faded

open Report

/-- **The order of the files.**  When the files at some paths can be resolved in one order, they can
in any other.  The closing section is the same, and so is the section of each file but for how many
callable types were synthesized and how many were found; in either order, the former add up to the
numbers in the closing section.  The same path may be given more than once. -/
theorem report_of_perm {src : Sources} {profile : String} {paths paths' : List String}
    (h : paths.Perm paths') (hok : (run src profile paths).failure = none) :
    let r := run src profile paths
    let r' := run src profile paths'
    r'.failure = none ∧ r'.closing = r.closing ∧ r.sections.length = paths.length ∧
      r'.sections.length = paths'.length ∧
      (∀ (i j : Nat) (path : String), paths[i]? = some path → paths'[j]? = some path →
        ∃ file name lines lines', loadSites src path = .ok file ∧ r.sections[i]? = some lines ∧
          r'.sections[j]? = some lines' ∧ lines.head? = some (.container name file.unit) ∧
            List.Forall₂ Line.Agrees lines lines') ∧
      r.Balanced ∧ r'.Balanced := by
  intro r r'
  obtain ⟨p, hp, hall⟩ := exists_platform hok
  obtain ⟨rows, w, ht, hrows, hr⟩ := exists_tabled hp hall
  obtain ⟨rows', w', ht', hrows', hr'⟩ :=
    exists_tabled hp (fun path hpath => hall path (h.mem_iff.mpr hpath))
  have hsame : SameFiles rows rows' := by
    intro file
    have hperm := h.map (loadSites src)
    rw [hrows, hrows'] at hperm
    have hiff := hperm.mem_iff (a := .ok file)
    simpa using hiff
  have hlength : rows.length = paths.length := by
    simpa using (congrArg List.length hrows).symm
  have hlength' : rows'.length = paths'.length := by
    simpa using (congrArg List.length hrows').symm
  simp only [r, r', hr, hr', List.length_map]
  refine ⟨trivial, closingLines_eq ht ht' hsame, hlength, hlength', ?_, ht.balanced, ht'.balanced⟩
  intro i j path hi hj
  obtain ⟨row, hmem, hrow, hfile⟩ := exists_row hrows hi
  obtain ⟨row', hmem', hrow', hfile'⟩ := exists_row hrows' hj
  rw [hfile, Except.ok.injEq] at hfile'
  have hlines := (ht.faithful row hmem).lines
  rw [hfile', (ht'.faithful row' hmem').lines] at hlines
  obtain ⟨name, hhead⟩ := (ht.faithful row hmem).heading
  refine ⟨row.file, name, row.lines, row'.lines, hfile, ?_, ?_, hhead,
    Line.forall₂_agrees hlines.symm⟩
  · rw [List.getElem?_map, hrow]
    rfl
  · rw [List.getElem?_map, hrow']
    rfl

/-- Two files of one unit with containers of one name, one of them given twice, and a file of
another unit.  The first file of a unit has the callable type synthesized, and which file that is
depends on the order. -/
theorem report_of_perm_of_four :
    let src : Sources := .ofYaml fun path => .ok <|
      if path = "a" then "unit: u\nsites:\n- \x7breceiver: Int32, receiver_by_ref: true\x7d"
      else if path = "b" then "unit: u\nsites:\n- \x7breceiver: Int64, receiver_by_ref: true\x7d"
      else "unit: v\nsites:\n- \x7breceiver: Int64, receiver_by_ref: true\x7d"
    ∃ r r', r = run src "" ["a", "c", "b", "a"] ∧ r' = run src "" ["b", "a", "a", "c"] ∧
      (r.failure = none ∧
        r.closing.map Line.text = ["unit u: 1 synthesized types, 2 instances", "  <>A\x7b01\x7d`2",
          "unit v: 1 synthesized types, 1 instances", "  <>A\x7b01\x7d`2"] ∧
        r.sections.map (fun lines => (lines.filterMap Line.tally?).map Tally.synthesized) =
          [[1], [1], [0], [0]] ∧
        r'.sections.map (fun lines => (lines.filterMap Line.tally?).map Tally.synthesized) =
          [[1], [0], [0], [1]]) ∧
      r'.failure = none ∧ r'.closing = r.closing ∧ r.Balanced ∧ r'.Balanced := by
  intro src
  have hperm : ["a", "c", "b", "a"].Perm ["b", "a", "a", "c"] := by decide
  refine ⟨_, _, rfl, rfl, (and_iff_left_of_imp fun heval => ?_).mpr ?_⟩
  · obtain ⟨hok', hclosing, -, -, -, hbalanced, hbalanced'⟩ := report_of_perm hperm heval.1
    exact ⟨hok', hclosing, hbalanced, hbalanced'⟩
  · decide +kernel

end CallSites
