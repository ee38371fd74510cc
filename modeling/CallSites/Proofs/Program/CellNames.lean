import CallSites.Proofs.Program.SiteOutcomes

/-!
# Names of cells

A cell factory numbers its cells.  The number is written at the end of the name, after a hint that
may be any text, also one that looks like the end of another name.  Names differ all the same, since
the number can be read off a name from the end (`cellName_inj`).

So a container that is left to one factory never runs into a name that is taken, and its fields are
those of the cells of the factory in the order in which they were allocated (`cell_names_exact`).
What else happens to the program makes no difference: no other request writes to the fields of the
container or to the count of the factory (`Request.spares_cells`).
-/

namespace CallSites

/-! ## Containers left to one factory -/

/-- The factories are different ones and put their cells in different containers. -/
def CellFactory.Apart (f g : CellFactory) : Prop :=
  g.serial ≠ f.serial ∧ g.container.serial ≠ f.container.serial

namespace Request

/-- The request declares no field in the container of a factory, except for a cell of that
factory. -/
def LeavesTo (f : CellFactory) : Request → Prop
  | .allocate g _ => g = f ∨ f.Apart g
  | .beginSite g _ => g.cells = f ∨ f.Apart g.cells
  | .declare c .. => c.serial ≠ f.container.serial
  | _ => True

/-- A factory that the request asks for a cell is known by its serial. -/
def Distinguishes (f : CellFactory) : Request → Prop
  | .allocate g _ => g.serial = f.serial → g = f
  | .beginSite g _ => g.cells.serial = f.serial → g.cells = f
  | _ => True

lemma LeavesTo.distinguishes {f : CellFactory} {r : Request} (h : r.LeavesTo f) :
    r.Distinguishes f := by
  cases r with
  | allocate g hint | beginSite g hint =>
      exact fun hserial => h.resolve_right fun happart => happart.1 hserial
  | _ => trivial

/-- The hint of a request for a cell of the factory. -/
def hints (f : CellFactory) : Request → List String
  | .allocate g hint => if g.serial = f.serial then [hint] else []
  | .beginSite g hint => if g.cells.serial = f.serial then [hint] else []
  | _ => []

end Request

/-- The fields of a container and the count of a factory. -/
def Store.cellsOf (f : CellFactory) (s : Store) : OrderedMap String Field × Nat :=
  (s.containerFields f.container, s.allocated f)

section Spares

variable {f : CellFactory} {s : Store}

lemma Spares.resolve_cells (y : Synthesizer) (sh : Shape) :
    Spares (Store.cellsOf f) (y.resolve sh) s := by
  have htypes : ∀ (s : Store) (d : Definition) (args : List (Option Ty)),
      Spares (Store.cellsOf f) (d.construct args).toStoreM s := fun _ _ _ => Spares.toStoreM rfl
  exact Spares.resolve htypes (fun _ _ => rfl) (fun _ _ => rfl) y sh

lemma Spares.resolveSite_cells (b : SiteBuilder) (sh : Shape) :
    Spares (Store.cellsOf f) (b.resolve sh) s :=
  Spares.resolveSite (fun _ _ => rfl) (fun _ _ => rfl) (fun _ _ => rfl) (fun _ _ => rfl)
    (fun _ _ => rfl) (fun _ => rfl) (fun _ _ => rfl) sh

/-- A factory that is apart writes to another container and another count. -/
lemma CellFactory.Apart.spares_allocate {g : CellFactory} (h : f.Apart g) (hint : String) :
    Spares (Store.cellsOf f) (g.allocate hint) s := by
  apply Spares.allocate
  · intro s k
    simp only [Store.cellsOf, Store.allocated, OrderedMap.getD_insert_of_ne _ _ _ h.1]
    rfl
  · intro s name type _
    simp only [Store.cellsOf, Store.containerFields, OrderedMap.getD_insert_of_ne _ _ _ h.2]
    rfl

/-- **What other requests do.**  None of them writes to the fields of the container or to the count
of the factory. -/
lemma Request.spares_cells {r : Request} (hr : r.LeavesTo f) (hhints : r.hints f = []) :
    Spares (Store.cellsOf f) r.perform s := by
  have hbind : ∀ (c : Cell) (callable : Instance), Spares (Store.cellsOf f) (c.bind callable) s :=
    fun c => Spares.bindCell (fun _ _ => rfl) (fun _ _ => rfl) (fun _ _ => rfl)
  by_cases hminor : r.IsMinor
  · exact hminor.spares
      ⟨fun _ _ => rfl, fun _ _ => rfl, fun _ _ => rfl, fun _ _ => rfl, fun _ _ => rfl⟩
  cases r with
  | types q => exact Spares.bind (Spares.toStoreM rfl) fun _ _ _ => Spares.pure _
  | loadOrCreate q k => exact Spares.quiet (Spares.loadOrCreate (fun _ _ => rfl) q k)
  | bind c callable => exact Spares.quiet (hbind c callable)
  | bindWith g c callable => exact Spares.quiet (Spares.bindWith (hbind c callable))
  | resolve y sh => exact Spares.quiet (Spares.resolve_cells y sh)
  | callableType g ops =>
      apply Spares.quiet
      exact Spares.bind (Spares.derive g ops) fun sh _ _ => Spares.resolve_cells _ sh
  | allocate g hint =>
      rcases hr with rfl | happart
      · simp [hints] at hhints
      · exact Spares.bind (happart.spares_allocate hint) fun _ _ _ => Spares.pure _
  | beginSite g hint =>
      rcases hr with rfl | happart
      · simp [hints] at hhints
      · refine Spares.bind (Spares.beginSite ?_) fun _ _ _ => Spares.pure _
        exact happart.spares_allocate hint
  | resolveSite b sh => exact Spares.quiet (Spares.resolveSite_cells b sh)
  | resolveOperands b ops =>
      apply Spares.quiet
      exact Spares.bind (Spares.derive _ ops) fun sh _ _ => Spares.resolveSite_cells b sh
  | declare c name type access static =>
      apply Spares.quiet
      apply Spares.declare
      intro s _
      simp only [Store.cellsOf, Store.containerFields, OrderedMap.getD_insert_of_ne _ _ _ hr]
      rfl
  | _ => exact absurd trivial hminor

end Spares

/-! ## Numbered fields -/

/-- The field of the cell with a given number. -/
def CellFactory.cellField (f : CellFactory) (base : Ty) (hint : String) (n : Nat) : Field :=
  f.container.fieldOf (cellName hint n) (some base) .owner true

/-- **The invariant.**  The container holds one field for each hint, numbered in order, and the
factory has counted them. -/
structure Store.Numbered (f : CellFactory) (base : Ty) (hints : List String) (s : Store) :
    Prop where
  count : s.allocated f = hints.length
  entries : (s.containerFields f.container).entries =
    hints.zipIdx.map fun e => (cellName e.1 e.2, f.cellField base e.1 e.2)

namespace Store.Numbered

variable {f : CellFactory} {base : Ty} {hints : List String} {s s' : Store}

lemma congr (h : s.Numbered f base hints) (hsame : s'.cellsOf f = s.cellsOf f) :
    s'.Numbered f base hints := by
  obtain ⟨hfields, hcount⟩ := Prod.mk.inj hsame
  exact ⟨hcount.trans h.count, hfields ▸ h.entries⟩

lemma keys_eq (h : s.Numbered f base hints) :
    (s.containerFields f.container).keys = hints.zipIdx.map fun e => cellName e.1 e.2 := by
  rw [OrderedMap.keys, h.entries, List.map_map]
  rfl

/-- Two names of the list end in different numbers. -/
lemma nodup_keys (h : s.Numbered f base hints) :
    (s.containerFields f.container).keys.Nodup := by
  rw [h.keys_eq]
  exact Text.nodup_map_zipIdx cellName hints 0 fun _ _ _ _ _ _ => cellName_inj

/-- The next name is free whatever the hint is: the numbers in use are smaller. -/
lemma next_free (h : s.Numbered f base hints) (hint : String) :
    (s.containerFields f.container).find? (cellName hint (s.allocated f)) = none := by
  rw [OrderedMap.find?_eq_none_iff, h.keys_eq, h.count]
  intro hmem
  obtain ⟨e, he, hname⟩ := List.mem_map.mp hmem
  have hlt := List.snd_lt_of_mem_zipIdx he
  have heq := cellName_inj hname
  omega

/-- **One more cell.** -/
lemma allot (h : s.Numbered f base hints) (hint : String) :
    (s.allot f hint base).Numbered f base (hints ++ [hint]) where
  count := by
    show (s.named.insert f.serial (s.allocated f + 1)).getD f.serial 0 = (hints ++ [hint]).length
    rw [OrderedMap.getD_insert_self, h.count, List.length_append, List.length_singleton]
  entries := by
    have hfields : (s.allot f hint base).containerFields f.container =
        (s.containerFields f.container).insert (cellName hint (s.allocated f))
          (f.cellField base hint (s.allocated f)) := OrderedMap.getD_insert_self _ _ _ _
    rw [hfields, OrderedMap.entries_insert_of_find?_eq_none _ (h.next_free hint), h.entries,
      h.count, List.zipIdx_append, List.map_append]
    simp only [List.zipIdx_singleton, List.map_singleton, Nat.zero_add]

end Store.Numbered

/-! ## Histories -/

section History

variable {p : Platform} {f : CellFactory} {base : Ty} {hints : List String} {w : World}
variable {r : Request}

lemma Request.run_allocate (g : CellFactory) (hint : String) (s : Store) :
    ((Request.allocate g hint).perform.run s).2 = ((g.allocate hint).run s).2 := by
  rw [perform, run_bind]
  rcases (g.allocate hint).run s with ⟨e | c, s'⟩ <;> rfl

lemma Request.run_beginSite (g : SiteFactory) (hint : String) (s : Store) :
    ((Request.beginSite g hint).perform.run s).2 = ((g.cells.allocate hint).run s).2 := by
  rw [perform, run_bind, SiteFactory.beginSite, run_bind]
  rcases (g.cells.allocate hint).run s with ⟨e | c, s'⟩ <;> rfl

/-- A request for a cell of the factory does what the factory does. -/
lemma Request.store_of_hints (hr : r.Distinguishes f) {hint : String} (hhints : r.hints f = [hint]) :
    (w.perform r).store = ((f.allocate hint).run w.store).2 := by
  show (r.perform.run w.store).2 = _
  cases r with
  | allocate g hint' =>
      rw [hints] at hhints
      split at hhints
      · next hserial =>
          obtain rfl : g = f := hr hserial
          cases hhints
          exact run_allocate g hint w.store
      · cases hhints
  | beginSite g hint' =>
      rw [hints] at hhints
      split at hhints
      · next hserial =>
          obtain rfl : g.cells = f := hr hserial
          cases hhints
          exact run_beginSite g hint w.store
      · cases hhints
  | _ => cases hhints

lemma Request.hints_cases (f : CellFactory) (r : Request) :
    r.hints f = [] ∨ ∃ hint, r.hints f = [hint] := by
  cases r with
  | allocate g hint | beginSite g hint =>
      rw [hints]
      split
      · exact .inr ⟨hint, rfl⟩
      · exact .inl rfl
  | _ => exact .inl rfl

/-- **Allocation succeeds** in a container left to the factory, and the field is the next one. -/
lemma Store.Numbered.exists_allocate {s : Store} (h : s.Numbered f base hints)
    (htarget : p.Offers .target) (hf : f.services = .ofPlatform p) (hbase : p.cell = .ok base)
    (hint : String) :
    ∃ c : Cell, c.field = f.cellField base hint hints.length ∧
      (f.allocate hint).run s = (.ok c, s.allot f hint base) := by
  have hfree :
      (s.containerFields f.container).contains (cellName hint (s.allocated f)) = false := by
    rw [OrderedMap.contains, h.next_free hint]
    rfl
  obtain ⟨c, -, hcell, hfield, hrun⟩ := CellFactory.exists_allocate hf htarget hfree
  obtain rfl : base = c.provisional := Except.ok.inj (hbase.symm.trans hcell)
  refine ⟨c, ?_, hrun⟩
  rw [hfield, ← h.count]
  rfl

/-- **One request.** -/
lemma Store.Numbered.perform (h : w.store.Numbered f base hints) (htarget : p.Offers .target)
    (hf : f.services = .ofPlatform p) (hbase : p.cell = .ok base) (hr : r.LeavesTo f) :
    (w.perform r).store.Numbered f base (hints ++ r.hints f) := by
  rcases r.hints_cases f with hnone | ⟨hint, hhint⟩
  · rw [hnone, List.append_nil]
    exact h.congr (r.spares_cells hr hnone)
  · obtain ⟨c, -, hrun⟩ := h.exists_allocate htarget hf hbase hint
    rw [hhint, Request.store_of_hints hr.distinguishes hhint, hrun]
    exact h.allot hint

/-- **A whole history.**  The induction is on the requests, from the first one on. -/
lemma Store.Numbered.foldl_perform (htarget : p.Offers .target) (hf : f.services = .ofPlatform p)
    (hbase : p.cell = .ok base) :
    ∀ (rs : List Request) {hints : List String} {w : World}, w.store.Numbered f base hints →
      (∀ r ∈ rs, r.LeavesTo f) →
      (rs.foldl World.perform w).store.Numbered f base (hints ++ rs.flatMap (·.hints f))
  | [], hints, w, h, _ => by
      rw [List.flatMap_nil, List.append_nil]
      exact h
  | r :: rs, hints, w, h, hrs => by
      rw [List.forall_mem_cons] at hrs
      rw [List.foldl_cons, List.flatMap_cons, ← List.append_assoc]
      exact foldl_perform htarget hf hbase rs (h.perform htarget hf hbase hrs.1) hrs.2

end History

/-- **Names of cells never clash.**  A new factory works on a platform that has the target of cells,
in a container without fields that is left to it.  Then whatever else happens to the program, each
cell can be allocated, directly or for a site.  The field of the cell is private and static and its
name ends in the number of the cell, so the names are all different.  The container has these fields
and no others, in the order in which they were allocated, and each of them is found by its name. -/
theorem cell_names_exact {p : Platform} (htarget : p.Offers .target) {f : CellFactory}
    (hf : f.services = .ofPlatform p) {w : World} (hempty : w.store.containerFields f.container = ∅)
    (hnew : w.store.allocated f = 0) {rs : List Request} (hrs : ∀ r ∈ rs, r.LeavesTo f) :
    let w' := rs.foldl World.perform w
    let hints := rs.flatMap (·.hints f)
    ∃ base, p.cell = .ok base ∧
      (∀ hint, ∃ c s, (f.allocate hint).run w'.store = (.ok c, s) ∧
        (∀ g : SiteFactory, g.cells = f → (g.beginSite hint).run w'.store = (.ok ⟨g, c⟩, s)) ∧
        c.field.name = "<>" ++ hint ++ "'" ++ toString hints.length ∧
        c.field = f.cellField base hint hints.length ∧
        c.field.access = .owner ∧ c.field.static = true) ∧
      (hints.zipIdx.map fun e => cellName e.1 e.2).Nodup ∧
      (w'.store.containerFields f.container).values =
        hints.zipIdx.map (fun e => f.cellField base e.1 e.2) ∧
      ∀ i hint, hints[i]? = some hint →
        (w'.store.containerFields f.container).find? (cellName hint i) =
          some (f.cellField base hint i) := by
  intro w' hints
  obtain ⟨n, hn⟩ := htarget.exists_cell
  have hbase : p.cell = .ok (.named n) := by
    rw [Platform.cell, hn]
    rfl
  have hstart : w.store.Numbered f (.named n) [] := ⟨hnew, by rw [hempty]; rfl⟩
  have h : w'.store.Numbered f (.named n) hints :=
    Store.Numbered.foldl_perform htarget hf hbase rs hstart hrs
  refine ⟨.named n, hbase, ?_, h.keys_eq ▸ h.nodup_keys, ?_, ?_⟩
  · intro hint
    obtain ⟨c, hfield, hrun⟩ := h.exists_allocate htarget hf hbase hint
    refine ⟨c, _, hrun, ?_, ?_⟩
    · rintro g rfl
      rw [SiteFactory.beginSite, run_bind, hrun]
      rfl
    · rw [hfield]
      exact ⟨rfl, rfl, rfl, rfl⟩
  · rw [OrderedMap.values, h.entries, List.map_map]
    rfl
  · intro i hint hi
    refine OrderedMap.find?_of_mem_entries h.nodup_keys ?_
    rw [h.entries]
    exact List.mem_map.mpr ⟨(hint, i), List.mk_mem_zipIdx_iff_getElem?.mpr hi, rfl⟩

/-- Hints that look like the ends of other names, a site among the cells, and in another container a
field that has the name of a cell. -/
theorem cell_names_exact_of_imitations :
    let c : Container := ⟨0, "", "C"⟩
    let f : CellFactory := ⟨0, .ofPlatform .standard, c⟩
    let g : SiteFactory := ⟨0, .ofPlatform .standard, c, ⟨0, "u"⟩⟩
    let rs : List Request := [.allocate f "a", .allocate f "a'0",
      .declare ⟨1, "", "D"⟩ "<>'1'2" none .all false, .beginSite g "'1"]
    let s := (rs.foldl World.perform (.initial .standard)).store
    let names := (s.containerFields c).values.map (·.name)
    (∀ r ∈ rs, r.LeavesTo f) ∧ names = ["<>a'0", "<>a'0'1", "<>'1'2"] ∧ names.Nodup := by
  intro c f g rs s names
  have hrs : ∀ r ∈ rs, r.LeavesTo f := by
    simp [rs, Request.LeavesTo, f, g, c, SiteFactory.cells]
  have htarget : Platform.standard.Offers .target := ⟨_, rfl, by decide⟩
  obtain ⟨base, -, -, hnodup, hvalues, -⟩ :=
    cell_names_exact (w := .initial .standard) htarget rfl rfl rfl hrs
  have hnames : names = (rs.flatMap (·.hints f)).zipIdx.map fun e => cellName e.1 e.2 := by
    rw [show names = _ from congrArg (List.map Field.name) hvalues, List.map_map]
    rfl
  refine ⟨hrs, ?_, hnames ▸ hnodup⟩
  rw [hnames]
  decide +kernel

end CallSites
