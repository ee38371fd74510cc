import CallSites.Proofs.Program.Accounts
import CallSites.Report

/-!
# The section of a file

What is written about a file does not depend on what was resolved before it, but for one line: how
many callable types were synthesized for it and how many were found depends on which files of the
unit came first.  The sum of the two does not.

A file is compared with itself as the only file of a run (`Report.aloneRun`).  The factories of the
two stay abreast and the same lines are written, site by site (`Report.Even`), so whether the file
can be resolved at all, its section, and what it asks of the registry of its unit can be told from
the run in which it is alone (`Report.resolveFile_spec`).
-/

namespace CallSites

/-! ## Runs -/

section Runs

variable {α : Type} (x : StoreM α) (pr : Progress)

lemma ReportM.run_attempt :
    (ReportM.attempt x).run pr =
      (.ok (x.run pr.store).1, { pr with store := (x.run pr.store).2 }) := rfl

lemma ReportM.run_perform :
    (ReportM.perform x).run pr = ((x.run pr.store).1, { pr with store := (x.run pr.store).2 }) := by
  rw [ReportM.perform, run_bind, ReportM.run_attempt]
  dsimp only
  cases (x.run pr.store).1 <;> rfl

lemma ReportM.run_write (lines : List Line) :
    (ReportM.write lines).run pr = (.ok ⟨⟩, { pr with lines := pr.lines ++ lines }) := rfl

end Runs

/-! ## Counts -/

/-- The counts, if the line is about these. -/
def Line.tally? : Line → Option Tally
  | .tally t => some t
  | _ => none

/-- The line, with callable types that were found counted as though they had been synthesized. -/
def Line.faded : Line → Line
  | .tally t => .tally ⟨t.fastPath, t.synthesized + t.reused, 0⟩
  | l => l

/-! ## Two factories at the same sites -/

namespace Report

/-- The runs have the same outcome and end in progress that is related. -/
def Paced (R : Progress → Progress → Prop) (x x' : ReportM Unit) (pr pr' : Progress) : Prop :=
  R (x.run pr).2 (x'.run pr').2 ∧ (x'.run pr').1 = (x.run pr).1

/-- The lines begin with a given one and none of them is about counts. -/
def Plain (heading : Line) (lines : List Line) : Prop :=
  lines.head? = some heading ∧ lines.filterMap Line.tally? = []

/-- The twins are abreast and the same has been written. -/
def Even (p : Platform) (f f' : SiteFactory) (w w' : World) (log log' : List Call) (heading : Line)
    (pr pr' : Progress) : Prop :=
  (∃ notes L L', f.Abreast p f' w w' log log' notes L L' pr.store pr'.store) ∧
    pr'.lines = pr.lines ∧ Plain heading pr.lines

section Paced

variable {R : Progress → Progress → Prop} {x x' y y' : ReportM Unit} {pr pr' : Progress}

lemma Paced.throw (h : R pr pr') (e : Failure) : Paced R (throw e) (throw e) pr pr' := ⟨h, rfl⟩

lemma Paced.bind (hx : Paced R x x' pr pr')
    (hy : ∀ pr₁ pr₁', R pr₁ pr₁' → Paced R y y' pr₁ pr₁') :
    Paced R (x >>= fun _ => y) (x' >>= fun _ => y') pr pr' := by
  obtain ⟨hR, ho⟩ := hx
  rw [Paced, run_bind, run_bind]
  rcases hrun : x.run pr with ⟨o, pr₁⟩
  rcases hrun' : x'.run pr' with ⟨o', pr₁'⟩
  rw [hrun, hrun'] at hR ho
  simp only at hR ho
  subst ho
  cases o' with
  | error e => exact ⟨hR, rfl⟩
  | ok a => exact hy pr₁ pr₁' hR

end Paced

section Even

variable {p : Platform} {f f' : SiteFactory} {w w' : World} {log log' : List Call}
variable {heading : Line} {pr pr' : Progress} {notes : List Note} {L L' : List Cell}
variable {s s' : Store}

lemma Plain.append {lines more : List Line} (h : Plain heading lines)
    (hmore : more.filterMap Line.tally? = []) : Plain heading (lines ++ more) := by
  refine ⟨?_, ?_⟩
  · rw [List.head?_append, h.1]
    rfl
  · rw [List.filterMap_append, h.2, hmore]
    rfl

/-- The same lines are written in both. -/
lemma Even.write (h : Even p f f' w w' log log' heading pr pr') {lines lines' : List Line}
    (hlines : lines' = lines) (hnone : lines.filterMap Line.tally? = []) :
    Even p f f' w w' log log' heading { pr with lines := pr.lines ++ lines }
      { pr' with lines := pr'.lines ++ lines' } := by
  obtain ⟨hab, hsame, hplain⟩ := h
  refine ⟨hab, ?_, hplain.append hnone⟩
  dsimp only
  rw [hsame, hlines]

/-- The types of fields of twins are shown alike. -/
lemma typeText_cellOf (h : s.leaf f = s'.leaf f') (name : String) (base : Ty) (target : Member) :
    typeText (s'.fieldType (f'.cellOf name base target).field) =
      typeText (s.fieldType (f.cellOf name base target).field) := by
  rw [Store.typeText_fieldType (n := f'.container.serial) rfl,
    Store.typeText_fieldType (n := f.container.serial) rfl, Store.page_eq_of_leaf h]
  rfl

lemma siteLines_eq (h : s.leaf f = s'.leaf f') {y y' : Site} (hy : y.Twins f f' y') :
    siteLines y' s' = siteLines y s := by
  obtain ⟨⟨name, base, target, hcell, hcell'⟩, -, -, hview⟩ := hy
  have htype := typeText_cellOf h name base target
  have hname : y'.cell.name = y.cell.name := congrArg SiteView.cell hview
  have hshape : y'.shape = y.shape := congrArg SiteView.shape hview
  have hcallable : y'.callable.text = y.callable.text := congrArg SiteView.callable hview
  rw [siteLines, siteLines, Site.place, Site.place, hname, hshape, hcallable, hcell, hcell', htype]

lemma siteLines_plain (y : Site) (s : Store) : (siteLines y s).filterMap Line.tally? = [] := by
  rw [siteLines]
  split <;> rfl

lemma paced_bootstrapSite (h : Even p f f' w w' log log' heading pr pr') {y y' : Site}
    (hy : y.Twins f f' y') :
    Paced (Even p f f' w w' log log' heading) (bootstrapSite p y) (bootstrapSite p y') pr pr' := by
  rw [bootstrapSite, bootstrapSite]
  split
  · exact Paced.throw h _
  · next binder _ =>
      obtain ⟨⟨notes, L, L', hab⟩, hsame, hplain⟩ := h
      rcases hrun : (y.bootstrap (some binder)).run pr.store with ⟨o, s⟩
      rcases hrun' : (y'.bootstrap (some binder)).run pr'.store with ⟨o', s'⟩
      obtain ⟨hab₁, hagree⟩ := hab.bootstrap hy (some binder) hrun hrun'
      rw [Paced, ReportM.run_perform, ReportM.run_perform, hrun, hrun']
      refine ⟨⟨⟨notes, L, L', hab₁⟩, hsame, hplain⟩, ?_⟩
      cases hagree <;> rfl

lemma paced_resolveBuilder (hab : f.Abreast p f' w w' log log' notes L L' s s')
    {lines : List Line} (hplain : Plain heading lines) {b b' : SiteBuilder}
    (hb : b.Twins f f' b') (hc : b.cell ∈ L) (hc' : b'.cell ∈ L') {ops : Operands}
    (hops : ∀ x ∈ ops.types, p.IsNamed x) (i : Nat) (spec : SiteSpec) :
    Paced (Even p f f' w w' log log' heading) (resolveBuilder p i spec b ops)
      (resolveBuilder p i spec b' ops) ⟨s, lines⟩ ⟨s', lines⟩ := by
  rcases hrun : (b.resolveOperands ops).run s with ⟨o, s₁⟩
  rcases hrun' : (b'.resolveOperands ops).run s' with ⟨o', s₁'⟩
  obtain ⟨more, hab₁, hagree⟩ := hab.resolveOperands hb hc hc' hops hrun hrun'
  have heven : Even p f f' w w' log log' heading ⟨s₁, lines⟩ ⟨s₁', lines⟩ :=
    ⟨⟨_, L, L', hab₁⟩, rfl, hplain⟩
  rw [Paced, resolveBuilder, resolveBuilder, run_bind, run_bind, ReportM.run_attempt,
    ReportM.run_attempt, hrun, hrun']
  cases hagree with
  | error e =>
      dsimp only
      split
      · -- the cell is left behind with the type it had been declared with
        refine ⟨heven.write ?_ rfl, rfl⟩
        obtain ⟨name, base, target, rfl, rfl⟩ := hb
        rw [typeText_cellOf hab₁.leaf]
        rfl
      · exact Paced.throw heven e
  | @ok y y' hy =>
      have hlines := heven.write (siteLines_eq hab₁.leaf hy) (siteLines_plain _ _)
      have hwrite : Paced (Even p f f' w w' log log' heading) (ReportM.write (siteLines y s₁))
          (ReportM.write (siteLines y' s₁')) ⟨s₁, lines⟩ ⟨s₁', lines⟩ := ⟨hlines, rfl⟩
      have hrest : ∀ pr pr', Even p f f' w w' log log' heading pr pr' →
          Paced (Even p f f' w w' log log' heading)
            (if spec.bootstrap then bootstrapSite p y else pure ())
            (if spec.bootstrap then bootstrapSite p y' else pure ()) pr pr' := by
        intro pr pr' h
        by_cases hboot : spec.bootstrap
        · rw [if_pos hboot, if_pos hboot]
          exact paced_bootstrapSite h hy
        · rw [if_neg hboot, if_neg hboot]
          exact ⟨h, rfl⟩
      exact hwrite.bind hrest

lemma paced_resolveSite (h : Even p f f' w w' log log' heading pr pr') (i : Nat) (spec : SiteSpec) :
    Paced (Even p f f' w w' log log' heading) (resolveSite p f i spec) (resolveSite p f' i spec)
      pr pr' := by
  rw [resolveSite, resolveSite]
  split
  · exact Paced.throw h _
  · next ops hspec =>
      have hops := SiteSpec.named_of_operands hspec
      obtain ⟨s, lines⟩ := pr
      obtain ⟨s', lines'⟩ := pr'
      obtain ⟨⟨notes, L, L', hab⟩, rfl, hplain⟩ := h
      rcases hrun : (f.beginSite spec.hint).run s with ⟨o, s₁⟩
      rcases hrun' : (f'.beginSite spec.hint).run s' with ⟨o', s₁'⟩
      obtain ⟨L₁, L₁', hab₁, -, -, hagree⟩ := hab.beginSite spec.hint hrun hrun'
      rw [Paced, run_bind, run_bind, ReportM.run_attempt, ReportM.run_attempt, hrun, hrun']
      cases hagree with
      | error e =>
          have heven : Even p f f' w w' log log' heading ⟨s₁, lines'⟩ ⟨s₁', lines'⟩ :=
            ⟨⟨_, L₁, L₁', hab₁⟩, rfl, hplain⟩
          dsimp only
          split
          · exact ⟨heven.write rfl rfl, rfl⟩
          · exact Paced.throw heven e
      | ok hb => exact paced_resolveBuilder hab₁ hplain hb.1 hb.2.1 hb.2.2 hops i spec

/-- **All sites of a file.** -/
lemma paced_resolveSites (specs : List SiteSpec) :
    ∀ (i : Nat) {pr pr' : Progress}, Even p f f' w w' log log' heading pr pr' →
      Paced (Even p f f' w w' log log' heading) (resolveSites p f i specs)
        (resolveSites p f' i specs) pr pr' := by
  induction specs with
  | nil => exact fun i pr pr' h => ⟨h, rfl⟩
  | cons spec specs ih =>
      intro i pr pr' h
      rw [resolveSites, resolveSites]
      exact Paced.bind (paced_resolveSite h i spec) fun pr₁ pr₁' h₁ => ih (i + 1) h₁

end Even

/-! ## A file in a program -/

/-- A container and a factory have been made for a file. -/
structure Opened (p : Platform) (file : SiteFile) (w : Program) (f : SiteFactory) (w₁ : Program) :
    Prop where
  orderly : Orderly p w₁
  factories : w₁.factories = w.factories ++ [f]
  journal : w₁.journal = w.journal
  container : (f.container.ns, f.container.name) = file.containerName
  unit : f.registry.unit = file.unit
  blank : w₁.store.leaf f = (.blank, .blank)
  units : ∀ v, (w₁.store.registryOf? v).isSome = true ↔
    v = file.unit ∨ (w.store.registryOf? v).isSome = true
  store : ∃ s, (UnitTable.forUnit ⟨0⟩ file.unit).run w.store.reserve = (.ok f.registry, s) ∧
    w₁.store = s.hire

section Files

variable {p : Platform} {file : SiteFile} {w w₁ : Program} {f : SiteFactory}

lemma exists_opened (hw : Orderly p w) (file : SiteFile) :
    ∃ f w₁, Opened p file w f w₁ ∧
      (resolveFile p ⟨0⟩ file).run { store := w.store } =
        (do
          resolveSites p f 0 file.sites
          ReportM.write (totals f (← ReportM.store))).run
          ⟨w₁.store, [.container f.container.text file.unit]⟩ := by
  rcases hname : file.containerName with ⟨ns, name⟩
  have hreserved := hw.reserve ns name
  rcases hrun : (UnitTable.forUnit ⟨0⟩ file.unit).run w.store.reserve with ⟨o, s⟩
  obtain ⟨r, rfl, hunit, hr, hentered, hother⟩ := hreserved.forUnit hrun
  obtain ⟨hpages, -, htypes, -⟩ := forUnit_frame hrun
  have hc : w.store.types.next < s.types.next := by
    rw [htypes]
    exact Nat.lt_succ_self _
  refine ⟨⟨s.next, .ofPlatform p, ⟨w.store.types.next, ns, name⟩, r⟩, _,
    ⟨hentered.hire hc (hunit.symm ▸ hr), rfl, rfl, hname.symm, hunit, ?_, ?_, s, hrun, rfl⟩, ?_⟩
  · exact Prod.ext ((hpages _).trans (hw.pages _ (le_refl _))) (hentered.sheets _ (le_refl _))
  · intro v
    by_cases hv : v = file.unit
    · rw [hv]
      exact iff_of_true (Option.isSome_iff_exists.mpr ⟨r, hr⟩) (.inl rfl)
    · have hsame : s.hire.registryOf? v = w.store.registryOf? v := hother v hv
      rw [hsame, or_iff_right hv]
  · rw [resolveFile, hname]
    simp only [run_bind, ReportM.run_perform, run_newContainer, hrun, run_newFactory,
      ReportM.run_write]
    rfl

lemma twins_of_opened {w' w₁' : Program} {f' : SiteFactory} (h : Opened p file w f w₁)
    (h' : Opened p file w' f' w₁') : f.Twins p f' := by
  have hf : f ∈ w₁.factories := by simp [h.factories]
  have hf' : f' ∈ w₁'.factories := by simp [h'.factories]
  refine ⟨h.orderly.services f hf, h'.orderly.services f' hf', ?_⟩
  have hsame := h'.container.trans h.container.symm
  rw [Container.text, Container.text, (Prod.mk.inj hsame).1, (Prod.mk.inj hsame).2]

/-- A file has been resolved by the factory `f`, which has made the notes and has had the lines
written. -/
structure Resolved (p : Platform) (file : SiteFile) (w : Program) (f : SiteFactory)
    (notes : List Note) (lines : List Line) (w₁ : Program) : Prop where
  orderly : Orderly p w₁
  factories : w₁.factories = w.factories ++ [f]
  journal : w₁.journal = w.journal ++ notes.map fun n => (f, n)
  unit : f.registry.unit = file.unit
  units : ∀ v, (w₁.store.registryOf? v).isSome = true ↔
    v = file.unit ∨ (w.store.registryOf? v).isSome = true
  heading : ∃ name, lines.head? = some (.container name file.unit)
  tally : lines.filterMap Line.tally? = [w₁.store.tally f.synthesizer]

/-- The totals have one line about counts. -/
lemma totals_tally (f : SiteFactory) (s : Store) :
    (totals f s).filterMap Line.tally? = [s.tally f.synthesizer] := by
  have hcode : ((s.initializer f.container).map fun i => Line.instr i.text).filterMap
      Line.tally? = [] := by
    simp [List.filterMap_map, Function.comp_def, Line.tally?]
  rw [totals]
  split
  · rfl
  · exact congrArg (s.tally f.synthesizer :: ·) hcode

/-- The factory of a file has resolved the sites. -/
lemma Opened.resolved {w₀ : Program} (h : Opened p file w f w₀) {L : List Cell} {notes : List Note}
    {s : Store} (hs : f.Steps p w₀.client w₀.cells L (journalCalls w₀.journal) notes w₀.store s)
    {name : String} {lines : List Line} (hplain : Plain (.container name file.unit) lines) :
    Resolved p file w f notes (lines ++ totals f s)
      { w₀ with store := s, cells := L, journal := w₀.journal ++ notes.map fun n => (f, n) } where
  orderly := h.orderly.steps (by simp [h.factories]) hs
  factories := h.factories
  journal := by rw [h.journal]
  unit := h.unit
  units v := by
    rw [← h.units v]
    exact iff_of_eq (congrArg (fun r => Option.isSome r = true) (hs.registryOf?_eq v))
  heading := ⟨name, by rw [List.head?_append, hplain.1]; rfl⟩
  tally := by
    rw [List.filterMap_append, hplain.2, totals_tally]
    rfl

/-- The notes of the factory of a file are those made for the file. -/
lemma Resolved.notesBy_eq {notes : List Note} {lines : List Line} (hw : Orderly p w)
    (h : Resolved p file w f notes lines w₁) : notesBy f.serial w₁.journal = notes := by
  have hold : w.journal.filter (fun e => e.1.serial = f.serial) = [] := by
    refine List.filter_eq_nil_iff.mpr fun e he => ?_
    rw [decide_eq_true_iff]
    exact h.orderly.serial_ne_last h.factories (hw.journal e he)
  rw [notesBy, h.journal, List.filter_append, hold, filter_entries fun g => g.serial = f.serial,
    if_pos rfl, List.nil_append, List.map_map]
  exact List.map_id notes

/-- The same sites come to the same totals, but for the order in which definitions were needed. -/
lemma totals_faded {f' : SiteFactory} {s s' : Store} (hleaf : s.leaf f = s'.leaf f')
    (hfast : (s'.tally f'.synthesizer).fastPath = (s.tally f.synthesizer).fastPath)
    (hneeded : (s'.tally f'.synthesizer).synthesized + (s'.tally f'.synthesizer).reused =
      (s.tally f.synthesizer).synthesized + (s.tally f.synthesizer).reused) :
    (totals f' s').map Line.faded = (totals f s).map Line.faded := by
  have hcode : (s.initializer f.container).map Instr.text =
      (s'.initializer f'.container).map Instr.text :=
    congrArg (fun l => l.1.code) hleaf
  have hnamed : s.allocated f.cells = s'.allocated f'.cells := congrArg (fun l => l.2.named) hleaf
  have hsites : (s.factorySites f).map Site.view = (s'.factorySites f').map Site.view :=
    congrArg (fun l => l.2.sites) hleaf
  have hlength := congrArg List.length hsites
  have hinstr : ∀ code : List Instr, (code.map fun i => Line.instr i.text) =
      (code.map Instr.text).map Line.instr := fun code => by rw [List.map_map]; rfl
  have hempty : (s.initializer f.container).isEmpty = (s'.initializer f'.container).isEmpty := by
    rw [← List.isEmpty_map (f := Instr.text), hcode, List.isEmpty_map]
  rw [List.length_map, List.length_map] at hlength
  rw [totals, totals]
  simp only [hinstr, hcode, hnamed, hlength, hempty, List.map_append, List.map_cons, Line.faded,
    hfast, hneeded]

/-- A file is resolved in two programs. -/
lemma resolveFile_pair {w' : Program} (hw : Orderly p w) (hw' : Orderly p w') (file : SiteFile)
    {o o' : Except Failure Unit} {pr pr' : Progress}
    (hrun : (resolveFile p ⟨0⟩ file).run { store := w.store } = (o, pr))
    (hrun' : (resolveFile p ⟨0⟩ file).run { store := w'.store } = (o', pr')) :
    o' = o ∧ (o = .ok () → ∃ f f' notes w₁ w₁', w₁.store = pr.store ∧ w₁'.store = pr'.store ∧
      Resolved p file w f notes pr.lines w₁ ∧ Resolved p file w' f' notes pr'.lines w₁' ∧
        pr'.lines.map Line.faded = pr.lines.map Line.faded) := by
  obtain ⟨f, w₀, hopen, hrest⟩ := exists_opened hw file
  obtain ⟨f', w₀', hopen', hrest'⟩ := exists_opened hw' file
  have htwins := twins_of_opened hopen hopen'
  have hstart := SiteFactory.Abreast.start htwins hopen.orderly.valid hopen'.orderly.valid
    hopen.orderly.ledger hopen'.orderly.ledger (hopen.blank.trans hopen'.blank.symm)
  have heven : Even p f f' w₀.toWorld w₀'.toWorld (journalCalls w₀.journal)
      (journalCalls w₀'.journal) (.container f.container.text file.unit)
      ⟨w₀.store, [.container f.container.text file.unit]⟩
      ⟨w₀'.store, [.container f.container.text file.unit]⟩ :=
    ⟨⟨_, _, _, hstart⟩, rfl, rfl, rfl⟩
  have hpaced := paced_resolveSites file.sites 0 heven
  rw [hrest, run_bind] at hrun
  rw [hrest', htwins.text, run_bind] at hrun'
  rw [Paced] at hpaced
  rcases hsites : (resolveSites p f 0 file.sites).run
    ⟨w₀.store, [.container f.container.text file.unit]⟩ with ⟨o₁, s₁, lines⟩
  rcases hsites' : (resolveSites p f' 0 file.sites).run
    ⟨w₀'.store, [.container f.container.text file.unit]⟩ with ⟨o₁', s₁', lines'⟩
  rw [hsites] at hrun hpaced
  rw [hsites'] at hrun' hpaced
  obtain ⟨⟨⟨notes, L, L', hab⟩, hsame, hplain⟩, ho⟩ := hpaced
  simp only at ho hrun hrun' hab hsame hplain
  subst ho hsame
  cases o₁' with
  | error e =>
      cases hrun
      cases hrun'
      exact ⟨rfl, fun hok => by cases hok⟩
  | ok _ =>
      cases hrun
      cases hrun'
      have hres := hopen.resolved hab.left hplain
      have hres' := hopen'.resolved hab.right hplain
      refine ⟨rfl, fun _ => ⟨f, f', notes, _, _, rfl, rfl, hres, hres', ?_⟩⟩
      have hfast := hres'.orderly.fastPath_eq f'
      have hneeded := hres'.orderly.consulted_eq f'
      rw [hres'.notesBy_eq hw', ← hres.notesBy_eq hw, ← hres.orderly.fastPath_eq f] at hfast
      rw [hres'.notesBy_eq hw', ← hres.notesBy_eq hw, ← hres.orderly.consulted_eq f] at hneeded
      have htotals := totals_faded hab.leaf hfast hneeded
      dsimp only
      rw [List.map_append, List.map_append, htotals]

end Files

/-! ## A file alone -/

/-- What comes of a file when it is the only one. -/
def aloneRun (p : Platform) (file : SiteFile) : Except Failure Unit × Progress :=
  (resolveFile p ⟨0⟩ file).run { store := .withUnits p }

/-- The keys that definitions are needed for in a file. -/
def keysOf (p : Platform) (file : SiteFile) : Set Key :=
  {k | ∃ r, (aloneRun p file).2.store.registryOf? file.unit = some r ∧
    k ∈ ((aloneRun p file).2.store.definitions r).keys}

/-- What definitions are applied to in a file, by their keys. -/
def appliedIn (p : Platform) (file : SiteFile) : Set (Key × List (Option Ty)) :=
  {q | ∃ r, (aloneRun p file).2.store.registryOf? file.unit = some r ∧
    q ∈ r.onFile (aloneRun p file).2.store}

section Alone

variable {p : Platform} {file : SiteFile} {w : Program}

/-- **A file in a program.**  Whether it can be resolved, what it asks of the registry of its unit
and what is written about it is the same as when it is alone. -/
lemma resolveFile_spec (hw : Orderly p w) (file : SiteFile) {o : Except Failure Unit}
    {pr : Progress} (hrun : (resolveFile p ⟨0⟩ file).run { store := w.store } = (o, pr)) :
    (aloneRun p file).1 = o ∧ (o = .ok () → ∃ f notes w₁, w₁.store = pr.store ∧
      Resolved p file w f notes pr.lines w₁ ∧ {k | k ∈ p.keysNeeded notes} = keysOf p file ∧
        p.applied notes = appliedIn p file ∧
          (aloneRun p file).2.lines.map Line.faded = pr.lines.map Line.faded) := by
  have halone : (resolveFile p ⟨0⟩ file).run { store := (Program.initial p).store } =
      ((aloneRun p file).1, (aloneRun p file).2) := rfl
  obtain ⟨ho, hok⟩ := resolveFile_pair hw (.initial p) file hrun halone
  refine ⟨ho, fun hdone => ?_⟩
  obtain ⟨f, f', notes, w₁, w₁', hstore, hstore', hres, hres', hlines⟩ := hok hdone
  have hr := hres'.orderly.registry f' (by simp [hres'.factories])
  rw [hres'.unit] at hr
  -- when the file is alone, all notes have been made for its unit
  have hnotes : notesFor file.unit w₁'.journal = notes := by
    have hjournal : w₁'.journal = notes.map fun n => (f', n) := hres'.journal
    rw [notesFor, hjournal, filter_entries fun g => g.registry.unit = file.unit, if_pos hres'.unit,
      List.map_map]
    exact List.map_id notes
  refine ⟨f, notes, w₁, hstore, hres, ?_, ?_, hlines⟩
  · ext k
    simp only [keysOf, Set.mem_ofPred_eq, ← hstore', hr, Option.some.injEq, exists_eq_left']
    rw [hres'.orderly.keys_eq hr, hnotes]
  · ext q
    simp only [appliedIn, Set.mem_ofPred_eq, ← hstore', hr, Option.some.injEq, exists_eq_left']
    rw [hres'.orderly.mem_onFile_iff hr, hnotes]

end Alone

end Report

end CallSites
