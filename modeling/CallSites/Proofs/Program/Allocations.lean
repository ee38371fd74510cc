import CallSites.Proofs.Program.CellNames

/-!
# Counting cells

A cell factory counts the names that it has given out.  A name is given out before the field is
declared, so an attempt to allocate a cell that fails on a name that is taken counts as well, though
nothing comes of it.  An attempt that fails for want of the platform gives out no name.

The container of the factory may have fields already, other factories may put their cells in it and
fields may be declared in it directly.  The fields that the attempts of the factory have declared are
those of the cells they have returned, so the count is the number of cells and of fields just when no
attempt has failed on a name (`allocated_eq_cells_add_clashes`).
-/

namespace CallSites

/-! ## What other requests do -/

section Other

variable {f g : CellFactory} {c : Container} {s s' : Store} {hint name : String} {field : Field}

/-- What allocating a cell comes to, whatever services the factory has: these lack something, the
name is taken, or there is one more field. -/
lemma CellFactory.allocate_cases {o : Except Failure Cell}
    (hrun : (f.allocate hint).run s = (o, s')) :
    s' = s ∨ s' = s.giveName f ∨
      ∃ base, (s.containerFields f.container).contains (cellName hint (s.allocated f)) = false ∧
        s' = s.allot f hint base := by
  rw [CellFactory.allocate] at hrun
  obtain ⟨base, s₁, h₁, hrun₁⟩ | ⟨e, h₁, -⟩ := run_bind_cases hrun
  · obtain rfl : s₁ = s := (Spares.cell (π := id) f.services).of_run h₁
    obtain ⟨target, s₂, h₂, hrun₂⟩ | ⟨e, h₂, -⟩ := run_bind_cases hrun₁
    · obtain rfl : s₂ = s₁ := (Spares.cellMember (π := id) f.services _).of_run h₂
      have hsame : (s₂.giveName f).containerFields f.container = s₂.containerFields f.container :=
        rfl
      simp only [run_bind, f.run_nextName, run_withContext, Container.run_declare, hsame] at hrun₂
      rcases hfree : (s₂.containerFields f.container).contains (cellName hint (s₂.allocated f)) with
        _ | _
      · simp only [hfree, if_false, Bool.false_eq_true] at hrun₂
        cases hrun₂
        exact .inr (.inr ⟨base, rfl, rfl⟩)
      · simp only [hfree, if_true] at hrun₂
        cases hrun₂
        exact .inr (.inl rfl)
    · exact .inl ((Spares.cellMember (π := id) f.services _).of_run h₂)
  · exact .inl ((Spares.cell (π := id) f.services).of_run h₁)

lemma CellFactory.find?_allocate (h : (s.containerFields c).find? name = some field) :
    (((g.allocate hint).run s).2.containerFields c).find? name = some field := by
  rcases hrun : (g.allocate hint).run s with ⟨o, s'⟩
  obtain rfl | rfl | ⟨base, hfree, rfl⟩ := CellFactory.allocate_cases hrun
  · exact h
  · exact h
  · exact Store.find?_declare_of_find? (s := s.giveName g) h hfree _

/-- Fields are declared and not taken back. -/
lemma Request.find?_perform (r : Request)
    (h : (s.containerFields f.container).find? name = some field) :
    ((r.perform.run s).2.containerFields f.container).find? name = some field := by
  by_cases hother : r.LeavesTo f ∧ r.hints f = []
  · have hsame : (r.perform.run s).2.containerFields f.container = s.containerFields f.container :=
      congrArg Prod.fst (Request.spares_cells hother.1 hother.2)
    rwa [hsame]
  · cases r with
    | allocate g hint =>
        rw [run_allocate]
        exact CellFactory.find?_allocate h
    | beginSite g hint =>
        rw [run_beginSite]
        exact CellFactory.find?_allocate h
    | declare c' name' type access static =>
        rw [perform, run_quiet, Container.run_declare]
        split
        · exact h
        · next hfree => exact Store.find?_declare_of_find? h (Bool.eq_false_iff.mpr hfree) _
    | _ => exact absurd ⟨trivial, rfl⟩ hother

/-- Another factory has another count. -/
lemma CellFactory.spares_allocated (hserial : g.serial ≠ f.serial) :
    Spares (·.allocated f) (g.allocate hint) s := by
  refine Spares.allocate (fun s k => ?_) (fun _ _ _ _ => rfl) hint
  exact OrderedMap.getD_insert_of_ne _ _ _ hserial

/-- Only requests for cells of the factory count. -/
lemma Request.spares_allocated {r : Request} (hhints : r.hints f = []) :
    Spares (·.allocated f) r.perform s := by
  by_cases hother : r.LeavesTo f
  · exact congrArg Prod.snd (Request.spares_cells hother hhints)
  · cases r with
    | allocate g hint =>
        have hserial : g.serial ≠ f.serial := by simpa [hints] using hhints
        exact Spares.bind (CellFactory.spares_allocated hserial) fun _ _ _ => Spares.pure _
    | beginSite g hint =>
        have hserial : g.cells.serial ≠ f.serial := by simpa [hints] using hhints
        refine Spares.bind (Spares.beginSite ?_) fun _ _ _ => Spares.pure _
        exact CellFactory.spares_allocated hserial
    | declare c' name' type access static => exact Spares.quiet (Spares.declare fun _ _ => rfl)
    | _ => exact absurd trivial hother

end Other

/-! ## Attempts -/

/-- An attempt to allocate a cell: the hint and the store that the attempt finds. -/
structure Attempt where
  hint : String
  store : Store

namespace Attempt

/-- What the attempt comes to. -/
def run (f : CellFactory) (a : Attempt) : Except Failure Cell × Store :=
  (f.allocate a.hint).run a.store

/-- The cell that the attempt returns, if it succeeds. -/
def cell? (f : CellFactory) (a : Attempt) : Option Cell := (a.run f).1.toOption

/-- The attempt fails on a name that is taken. -/
def clashes (f : CellFactory) (a : Attempt) : Bool :=
  match (a.run f).1 with
  | .error (.error (.context _ (.cause (.fieldDeclared _ _)))) => true
  | _ => false

/-- The fields of the container that the attempt has declared. -/
def declared (f : CellFactory) (a : Attempt) : List Field :=
  (((a.run f).2.containerFields f.container).entries.filter fun e =>
    !(a.store.containerFields f.container).contains e.1).map Prod.snd

variable {p : Platform} {f : CellFactory}

/-- **What an attempt comes to**: the platform lacks something and nothing happens, or the name is
taken and has been given out all the same, or there is a cell in a new field. -/
lemma outcome (hf : f.services = .ofPlatform p) (a : Attempt) :
    a.cell? f = none ∧ a.clashes f = false ∧ (a.run f).2 = a.store ∨
      a.cell? f = none ∧ a.clashes f = true ∧ (a.run f).2 = a.store.giveName f ∨
      ∃ base target, a.cell? f = some ⟨f, f.nextField a.hint base a.store, base, target⟩ ∧
        a.clashes f = false ∧
        (a.store.containerFields f.container).find? (cellName a.hint (a.store.allocated f)) = none ∧
        (a.run f).2 = a.store.allot f a.hint base := by
  have hrun : a.run f = _ := CellFactory.run_allocate hf a.hint a.store
  rw [cell?, clashes, hrun]
  rcases hbase : p.cell? with _ | n
  · have hcell : p.cell = .error (.lacks (.cell p.runtime)) := by
      rw [Platform.cell, hbase]
      rfl
    rw [hcell]
    exact .inl ⟨rfl, rfl, rfl⟩
  have hcell : p.cell = .ok (.named n) := by
    rw [Platform.cell, hbase]
    rfl
  rw [hcell]
  by_cases hoffers : p.Offers .target
  · obtain ⟨target, htarget⟩ := hoffers.exists_cellMember
    rw [htarget]
    dsimp only
    split
    · exact .inr (.inl ⟨rfl, rfl, rfl⟩)
    · next hfree =>
        refine .inr (.inr ⟨.named n, target, rfl, rfl, ?_, rfl⟩)
        rw [← Option.not_isSome_iff_eq_none]
        exact hfree
  · rw [Platform.cellMember_of_not_offers hoffers]
    exact .inl ⟨rfl, rfl, rfl⟩

/-- **An attempt declares the field of its cell** and no other. -/
lemma declared_eq (hf : f.services = .ofPlatform p) (a : Attempt) :
    a.declared f = (a.cell? f).toList.map Cell.field := by
  have hold := (a.store.containerFields f.container).filter_not_contains
  obtain ⟨hnone, -, hstore⟩ | ⟨hnone, -, hstore⟩ | ⟨base, target, hsome, -, hfree, hstore⟩ :=
    a.outcome hf
  · rw [declared, hstore, hold, hnone]
    rfl
  · have hfields : (a.store.giveName f).containerFields f.container =
        a.store.containerFields f.container := rfl
    rw [declared, hstore, hfields, hold, hnone]
    rfl
  · have hfields : (a.store.allot f a.hint base).containerFields f.container =
        (a.store.containerFields f.container).insert (cellName a.hint (a.store.allocated f))
          (f.nextField a.hint base a.store) := OrderedMap.getD_insert_self _ _ _ _
    rw [declared, hstore, hfields, OrderedMap.entries_insert_of_find?_eq_none _ hfree,
      List.filter_append, hold, hsome]
    simp [OrderedMap.contains, hfree]

end Attempt

/-- The attempts of a factory in a history, each with the store that it finds. -/
def World.attempts (f : CellFactory) : World → List Request → List Attempt
  | _, [] => []
  | w, r :: rs => (r.hints f).map (⟨·, w.store⟩) ++ (w.perform r).attempts f rs

/-! ## The count -/

/-- **The invariant.**  The count of the factory is that of the cells and of the attempts that failed
on a name.  The container has a field for each cell, and no two cells have the same. -/
structure Store.Counts (f : CellFactory) (log : List Attempt) (s : Store) : Prop where
  count : s.allocated f = (log.filterMap (·.cell? f)).length + log.countP (·.clashes f)
  fields : ∀ c ∈ log.filterMap (·.cell? f),
    (s.containerFields f.container).find? c.field.name = some c.field
  nodup : ((log.filterMap (·.cell? f)).map (·.field.name)).Nodup

namespace Store.Counts

variable {p : Platform} {f : CellFactory} {log : List Attempt} {s s' : Store} {w : World}
variable {r : Request}

lemma initial (hnew : s.allocated f = 0) : s.Counts f [] :=
  ⟨hnew, by simp, by simp⟩

/-- An attempt that returns no cell. -/
lemma fail (h : s.Counts f log) {a : Attempt} (hnone : a.cell? f = none)
    (hcount : s'.allocated f = s.allocated f + if a.clashes f then 1 else 0)
    (hfields : s'.containerFields f.container = s.containerFields f.container) :
    s'.Counts f (log ++ [a]) := by
  have hcells : (log ++ [a]).filterMap (·.cell? f) = log.filterMap (·.cell? f) := by
    simp [hnone]
  refine ⟨?_, ?_, ?_⟩
  · rw [hcount, h.count, hcells, List.countP_append, List.countP_singleton, Nat.add_assoc]
  · rw [hcells, hfields]
    exact h.fields
  · rw [hcells]
    exact h.nodup

/-- An attempt that returns a cell, in a field that was not there before. -/
lemma succeed (h : s.Counts f log) {a : Attempt} {c : Cell} (hsome : a.cell? f = some c)
    (hclash : a.clashes f = false) (hcount : s'.allocated f = s.allocated f + 1)
    (hfree : (s.containerFields f.container).find? c.field.name = none)
    (hfields : s'.containerFields f.container =
      (s.containerFields f.container).insert c.field.name c.field) :
    s'.Counts f (log ++ [a]) := by
  have hcells : (log ++ [a]).filterMap (·.cell? f) = log.filterMap (·.cell? f) ++ [c] := by
    simp [hsome]
  have hne : ∀ b ∈ log.filterMap (·.cell? f), c.field.name ≠ b.field.name := by
    intro b hb heq
    have hfound := h.fields b hb
    rw [← heq, hfree] at hfound
    cases hfound
  refine ⟨?_, ?_, ?_⟩
  · rw [hcount, h.count, hcells, List.countP_append, List.countP_singleton, hclash,
      List.length_append, List.length_singleton]
    simp only [Bool.false_eq_true, if_false]
    omega
  · rw [hcells, hfields]
    intro b hb
    rcases List.mem_append.mp hb with hold | hlast
    · rw [OrderedMap.find?_insert_of_ne _ _ (hne b hold)]
      exact h.fields b hold
    · obtain rfl := List.mem_singleton.mp hlast
      exact OrderedMap.find?_insert_self _ _ _
  · rw [hcells, List.map_append, List.map_singleton, List.nodup_append]
    refine ⟨h.nodup, List.nodup_singleton _, fun name hname last hlast => ?_⟩
    obtain ⟨b, hb, rfl⟩ := List.mem_map.mp hname
    rw [List.mem_singleton.mp hlast]
    exact (hne b hb).symm

/-- **One attempt.** -/
lemma attempt (hf : f.services = .ofPlatform p) (h : s.Counts f log) (hint : String) :
    ((f.allocate hint).run s).2.Counts f (log ++ [⟨hint, s⟩]) := by
  show ((Attempt.mk hint s).run f).2.Counts f _
  have hnamed : (s.giveName f).allocated f = s.allocated f + 1 :=
    OrderedMap.getD_insert_self _ _ _ _
  obtain ⟨hnone, hclash, hstore⟩ | ⟨hnone, hclash, hstore⟩ |
    ⟨base, target, hsome, hclash, hfree, hstore⟩ := (Attempt.mk hint s).outcome hf
  · exact h.fail hnone (by rw [hstore, hclash]; rfl) (by rw [hstore])
  · exact h.fail hnone (by rw [hstore, hclash, hnamed]; rfl) (by rw [hstore]; rfl)
  · rw [hstore]
    exact h.succeed hsome hclash hnamed hfree (OrderedMap.getD_insert_self _ _ _ _)

/-- **One request.** -/
lemma perform (hf : f.services = .ofPlatform p) (h : w.store.Counts f log)
    (hr : r.Distinguishes f) :
    (w.perform r).store.Counts f (log ++ (r.hints f).map (⟨·, w.store⟩)) := by
  rcases r.hints_cases f with hnone | ⟨hint, hhint⟩
  · rw [hnone, List.map_nil, List.append_nil]
    refine ⟨?_, fun c hc => r.find?_perform (h.fields c hc), h.nodup⟩
    rw [← h.count]
    exact r.spares_allocated hnone
  · rw [hhint, List.map_singleton, Request.store_of_hints hr hhint]
    exact h.attempt hf hint

/-- **A whole history.**  The induction is on the requests, from the first one on. -/
lemma foldl_perform (hf : f.services = .ofPlatform p) :
    ∀ (rs : List Request) {log : List Attempt} {w : World}, w.store.Counts f log →
      (∀ r ∈ rs, r.Distinguishes f) →
      (rs.foldl World.perform w).store.Counts f (log ++ w.attempts f rs)
  | [], log, w, h, _ => by
      rw [World.attempts, List.append_nil]
      exact h
  | r :: rs, log, w, h, hrs => by
      rw [List.forall_mem_cons] at hrs
      rw [List.foldl_cons, World.attempts, ← List.append_assoc]
      exact foldl_perform hf rs (h.perform hf hrs.1) hrs.2

end Store.Counts

/-- **What a factory counts.**  A new factory works in any container, whatever else is declared in
it.  The attempts of the factory have declared the fields of the cells they have returned.  These are
different fields and are all in the container.  The factory counts the attempts that failed on a name
as well, so its count is the number of its cells just when there are none of these. -/
theorem allocated_eq_cells_add_clashes {p : Platform} {f : CellFactory}
    (hf : f.services = .ofPlatform p) {w : World} (hnew : w.store.allocated f = 0)
    {rs : List Request} (hrs : ∀ r ∈ rs, r.Distinguishes f) :
    let s := (rs.foldl World.perform w).store
    let log := w.attempts f rs
    let cells := log.filterMap (·.cell? f)
    log.flatMap (·.declared f) = cells.map (·.field) ∧
      (cells.map (·.field.name)).Nodup ∧
      (∀ c ∈ cells, (s.containerFields f.container).find? c.field.name = some c.field) ∧
      s.allocated f = cells.length + log.countP (·.clashes f) ∧
      (s.allocated f = cells.length ↔ ∀ a ∈ log, a.clashes f = false) := by
  intro s log cells
  have h : s.Counts f log := Store.Counts.foldl_perform hf rs (.initial hnew) hrs
  refine ⟨?_, h.nodup, h.fields, h.count, ?_⟩
  · have hdeclared : (·.declared f) = fun a : Attempt => (a.cell? f).toList.map Cell.field :=
      funext fun a => a.declared_eq hf
    rw [hdeclared, ← List.map_flatMap, ← List.filterMap_eq_flatMap_toList]
  · rw [h.count, Nat.add_eq_left, List.countP_eq_zero]
    simp only [Bool.not_eq_true]

/-- A field in the way of the first cell, another factory in the same container, and a site. -/
theorem allocated_of_shared_container :
    let c : Container := ⟨0, "", "C"⟩
    let f : CellFactory := ⟨0, .ofPlatform .standard, c⟩
    let g : SiteFactory := ⟨0, .ofPlatform .standard, c, ⟨0, "u"⟩⟩
    let rs : List Request := [.declare c "<>a'0" none .all false, .allocate f "a",
      .allocate ⟨1, .ofPlatform .standard, c⟩ "b", .allocate f "b", .beginSite g "a"]
    let w : World := .initial .standard
    let s := (rs.foldl World.perform w).store
    let cells := (w.attempts f rs).filterMap (·.cell? f)
    (∀ r ∈ rs, r.Distinguishes f) ∧ cells.map (·.field.name) = ["<>b'1", "<>a'2"] ∧
      s.allocated f = cells.length + 1 := by
  intro c f g rs w s cells
  have hrs : ∀ r ∈ rs, r.Distinguishes f := by
    simp [rs, Request.Distinguishes, f, g, c, SiteFactory.cells]
  obtain ⟨-, -, -, hcount, -⟩ := allocated_eq_cells_add_clashes (w := w) rfl rfl hrs
  have hclash : (w.attempts f rs).countP (·.clashes f) = 1 := by decide +kernel
  refine ⟨hrs, by decide +kernel, ?_⟩
  rw [hclash] at hcount
  exact hcount

/-- A cell is counted that could not be allocated, and of which there is no field. -/
theorem allocated_counts_refused :
    let c : Container := ⟨0, "", "C"⟩
    let f : CellFactory := ⟨0, .ofPlatform .standard, c⟩
    let rs : List Request := [.declare c "<>a'0" none .all false, .allocate f "a"]
    let w : World := .initial .standard
    let log := w.attempts f rs
    (rs.foldl World.perform w).store.allocated f = 1 ∧
      (log.filterMap (·.cell? f)).length = 0 ∧ (log.flatMap (·.declared f)).length = 0 := by
  decide +kernel

end CallSites
