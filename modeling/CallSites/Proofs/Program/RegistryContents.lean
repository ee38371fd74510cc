import CallSites.Proofs.Program.Bookkeeping
import CallSites.Proofs.Program.History

/-!
# What is in a registry

After any history of a program a registry holds just the definitions that were needed: one for each
key of a shape that some synthesizer was asked to resolve and that no callable family covers, in the
order in which the keys were first needed, and whether or not the shape could then be instantiated.

The history may interleave calls on any number of registries with everything else that can be asked
of a program.  All that is excluded is to write to registries from outside: to look a key up without
a shape, or to apply a definition of a registry directly (`Request.LeavesBooks`).
-/

namespace CallSites

/-! ## Histories with their calls -/

/-- The request writes to registries by resolving shapes or not at all. -/
def Request.LeavesBooks : Request → Prop
  | .loadOrCreate .. => False
  | .types (.construct d _) => ∀ r n, d.id ≠ .synthesized r n
  | .types (.substitute _ x) => ∀ y, x = some y → ∀ r n, y.applies (.synthesized r n) = false
  | _ => True

/-- What is entered of the calls that are made in the course of a request. -/
def Event.calls (e : Event) : List Call := e.resolutions.map Resolution.call

/-- The program comes about by a history in which the given calls are made, oldest first. -/
abbrev World.Logged (p : Platform) : List Call → World → Prop :=
  World.Recounts p (fun e => e.request.LeavesBooks) Event.calls

section Step

variable {p : Platform} {log : List Call} {w : World} {r : Request}

/-- A request for types that does not apply a definition of a registry. -/
lemma Spares.types_books (h : w.Valid p) {q : TypeRequest} (hq : (Request.types q).Allowed p w)
    (hbooks : (Request.types q).LeavesBooks) :
    Spares Store.books q.perform.toStoreM w.store := by
  refine Spares.books_of_entries fun r n => ?_
  cases q with
  | newNamed ns name kind | newContainer ns name => rfl
  | newGeneric ns name kind arity labels =>
      refine Spares.bind (Spares.bind (Spares.ofResult _) fun m t₁ _ => ?_) fun _ _ _ =>
        Spares.pure _
      exact Spares.bind rfl fun _ _ _ => Spares.pure _
  | newCallable ns name params pattern returns =>
      refine Spares.bind (Spares.bind (Spares.ofResult _) fun m t₁ _ => ?_) fun _ _ _ =>
        Spares.pure _
      exact Spares.bind rfl fun _ _ _ => Spares.pure _
  | addMember d m => exact absurd hq.1 id
  | construct d args =>
      exact Spares.bind (Spares.construct (hbooks r n) args) fun _ _ _ => Spares.pure _
  | member inst name =>
      exact Spares.bind (Spares.member_synthesized h hq.2 name r n) fun _ _ _ => Spares.pure _
  | substitute inst x =>
      exact Spares.bind (Spares.substitute fun y hy => hbooks y hy r n) fun _ _ _ => Spares.pure _

/-- A request that makes no call leaves the books alone. -/
lemma Request.spares_books (hw : w.Valid p) (hr : r.Allowed p w) (hbooks : r.LeavesBooks)
    (hcall : ¬ r.IsCall) : Spares Store.books r.perform w.store := by
  by_cases hminor : r.IsMinor
  · exact hminor.spares
      ⟨fun _ _ => rfl, fun _ _ => rfl, fun _ _ => rfl, fun _ _ => rfl, fun _ _ => rfl⟩
  cases r with
  | types q => exact Spares.bind (Spares.types_books hw hr hbooks) fun _ _ _ => Spares.pure _
  | loadOrCreate q k => exact absurd hbooks id
  | resolve | callableType | resolveSite | resolveOperands => exact absurd trivial hcall
  | allocate f hint =>
      refine Spares.bind ?_ fun _ _ _ => Spares.pure _
      exact Spares.allocate (fun _ _ => rfl) (fun _ _ _ _ => rfl) hint
  | beginSite f hint =>
      refine Spares.bind (Spares.beginSite ?_) fun _ _ _ => Spares.pure _
      exact Spares.allocate (fun _ _ => rfl) (fun _ _ _ _ => rfl) hint
  | bind c callable =>
      exact Spares.quiet (Spares.bindCell_books hw (hw.cells c hr.1).1.services hr.2)
  | bindWith f c callable =>
      apply Spares.quiet
      exact Spares.bindWith (Spares.bindCell_books hw (hw.cells c hr.1).1.services hr.2)
  | declare c name type access static => exact Spares.quiet (Spares.declare fun _ _ => rfl)
  | _ => exact absurd trivial hminor

/-- **One request.**  The calls it makes are entered, and nothing else. -/
theorem Ledger.perform (h : Ledger p log w.store) (hw : w.Valid p) (hr : r.Allowed p w)
    (hbooks : r.LeavesBooks) : Ledger p (log ++ Event.calls ⟨w, r⟩) (w.perform r).store := by
  have hsound := Request.sound_resolutions hw hr
  refine h.changesBy hw ?_ fun a ha => (hsound a ha).1
  refine Request.changesBy_perform (fun _ _ => rfl) (fun _ _ _ => rfl) ?_
    (Request.spares_books hw hr hbooks)
  intro c hc a ha i hi
  exact (hsound a ha).1.bindCell_books (Request.mem_cells_of_boundCell? hr hc) hi

/-- **A whole history.**  The store is what the calls in it come to. -/
theorem World.Logged.ledger (h : World.Logged p log w) : Ledger p log w.store := by
  induction h using World.Recounts.induction with
  | initial => exact .initial p
  | step h hr hbooks ih => exact ih.perform h.valid hr hbooks

/-- The shapes that have been asked for are over existing types. -/
lemma World.Logged.known (h : World.Logged p log w) :
    ∀ c ∈ log, c.shape.Known (w.census p) w.store.types := by
  obtain ⟨events, hevents, -, rfl⟩ := h
  intro c hc
  obtain ⟨e, he, hc⟩ := List.mem_flatMap.mp hc
  obtain ⟨a, ha, rfl⟩ := List.mem_map.mp hc
  exact (hevents.sound e he a ha).2

end Step

/-! ## Contents -/

/-- The calls on a registry that need a definition. -/
def needing (p : Platform) (r : Nat) (log : List Call) : List Call :=
  log.filter fun c => c.registry = r ∧ p.Needs c.shape

lemma mem_needing {p : Platform} {r : Nat} {log : List Call} {c : Call} :
    c ∈ needing p r log ↔ c ∈ log ∧ c.registry = r ∧ p.Needs c.shape := by
  simp [needing]

/-- The keys of a registry are those of the calls that need a definition, each at its first
occurrence. -/
lemma keys_creations (p : Platform) (r : Nat) (log : List Call) :
    ((creations p log).filter (·.registry = r)).map (·.key) =
      ((needing p r log).map (·.shape.key)).eraseDups := by
  induction log using List.reverseRecOn with
  | nil => rfl
  | append_singleton log c ih =>
      have hneeding : needing p r (log ++ [c]) =
          needing p r log ++ if c.registry = r ∧ p.Needs c.shape then [c] else [] := by
        rw [needing, List.filter_append, ← needing, List.filter_singleton]
        by_cases hc : c.registry = r ∧ p.Needs c.shape <;> simp [hc]
      rw [creations_concat, hneeding]
      by_cases hneeds : p.Needs c.shape
      · by_cases hr : c.registry = r
        · have hnew : (∀ m ∈ creations p log, ¬ (m.registry = r ∧ m.key = c.shape.key)) ↔
              c.shape.key ∉ (needing p r log).map (·.shape.key) := by
            rw [← List.mem_eraseDups, ← ih]
            simp
          simp only [hneeds, hr, true_and, and_self, if_true, List.map_append, List.map_singleton]
          rw [eraseDups_concat, ← ih]
          by_cases hkey : c.shape.key ∈ (needing p r log).map (·.shape.key)
          · rw [if_neg (fun h => hnew.mp h hkey), if_pos hkey]
          · rw [if_pos (hnew.mpr hkey), if_neg hkey]
            simp [Call.creation, hr]
        · simp only [hr, false_and, if_false, List.append_nil, ← ih]
          split
          · simp [Call.creation, hr]
          · rfl
      · simp only [hneeds, false_and, and_false, if_false, List.append_nil, ← ih]

/-- What a registry contains, given the calls that have been made. -/
structure Registry.Contents (p : Platform) (log : List Call) (r : Registry) (w : World) : Prop where
  /-- The definitions in the order of their creation, by their keys. -/
  keys : (w.store.definitions r).keys =
    ((needing p r.serial log).map (·.shape.key)).eraseDups
  /-- Each definition is the one for its key and its position. -/
  definitions : ∀ n k d, (w.store.definitions r).entries[n]? = some (k, d) →
    synthesizedDefinition r.serial n k = .ok d
  found : ∀ k, (∃ d, r.lookup? k w.store = some d) ↔
    ∃ c ∈ needing p r.serial log, c.shape.key = k
  arity : ∀ k d, r.lookup? k w.store = some d →
    (d.arity : Int) = k.params + if k.void then 0 else 1
  /-- Nothing is synthesized for what a callable family covers. -/
  covered : ∀ sh, ¬ p.Uncovered sh → r.lookup? sh.key w.store = none
  /-- No definition is replaced or removed, whatever happens later. -/
  kept : ∀ w', w.Run p w' → ∀ k d, r.lookup? k w.store = some d → r.lookup? k w'.store = some d
  /-- Signatures that are equal type by type are the same. -/
  signatures : ∀ c ∈ log, ∀ c' ∈ log,
    List.Forall₂ (fun a b => equalTypes a b = true) c.shape.signature c'.shape.signature →
      c.shape.signature = c'.shape.signature
  instances : r.numInstances w.store =
    {q : Key × List (Option Ty) | ∃ c ∈ needing p r.serial log, c.succeeded = true ∧
      q = (c.shape.key, c.shape.signature)}.ncard
  /-- The synthesizers over the registry have counted each definition once. -/
  counted : ∀ ys : List Synthesizer, (ys.map (·.serial)).Nodup →
    (∀ c ∈ log, c.registry = r.serial ↔ c.synthesizer ∈ ys.map (·.serial)) →
    (ys.map fun y => (w.store.tally y).synthesized).sum = r.size w.store

section Contents

variable {p : Platform} {log : List Call} {w : World}

lemma Platform.uncovered_of_key_eq {sh sh' : Shape} (h : sh.key = sh'.key) (hneeds : p.Needs sh) :
    p.Uncovered sh' := by
  have hlength : sh.params.length = sh'.params.length := Int.ofNat.inj (congrArg Key.params h)
  have hvoid : sh.isVoid = sh'.isVoid := congrArg Key.void h
  rw [Uncovered, Synthesizer.familyOf, ← Shape.hasByRef_of_key_eq h, ← hvoid, ← hlength]
  exact hneeds.1

/-- Every creation is counted by the synthesizer that made it. -/
lemma sum_countP_synthesizer (ms : List Creation) {ns : List Nat} (hns : ns.Nodup) :
    (ns.map fun n => ms.countP fun m => m.synthesizer = n).sum =
      ms.countP fun m => m.synthesizer ∈ ns := by
  induction ns with
  | nil => simp
  | cons n ns ih =>
      rw [List.nodup_cons] at hns
      rw [List.map_cons, List.sum_cons, ih hns.2]
      clear ih
      induction ms with
      | nil => rfl
      | cons m ms ih =>
          simp only [List.countP_cons, List.mem_cons] at ih ⊢
          by_cases hm : m.synthesizer = n
          · have hnot : m.synthesizer ∉ ns := hm ▸ hns.1
            simp only [hm, hns.1, true_or, decide_true, decide_false, if_true, if_false,
              Bool.false_eq_true]
            omega
          · simp only [hm, false_or, decide_false, if_false, Bool.false_eq_true]
            omega

/-- The pairs of a key and a signature that are on file in a registry. -/
def Registry.onFile (r : Registry) (s : Store) : List (Key × List (Option Ty)) :=
  (s.definitions r).entries.flatMap fun e => (s.types.signatures e.2).map fun sig => (e.1, sig)

lemma Registry.length_onFile (r : Registry) (s : Store) :
    (r.onFile s).length = r.numInstances s := by
  rw [Registry.onFile, Registry.numInstances, Registry.definitions, OrderedMap.values]
  induction (s.definitions r).entries with
  | nil => rfl
  | cons e es ih =>
      rw [List.flatMap_cons, List.length_append, List.length_map, ih, TypeTable.signatures,
        List.length_map, ← TypeTable.numInstances_eq_length]
      rfl

lemma Registry.mem_onFile {r : Registry} {s : Store} (hkeys : (s.definitions r).keys.Nodup)
    {k : Key} {sig : List (Option Ty)} :
    (k, sig) ∈ r.onFile s ↔ ∃ d, r.lookup? k s = some d ∧ sig ∈ s.types.signatures d := by
  rw [Registry.onFile, List.mem_flatMap]
  constructor
  · rintro ⟨⟨k', d⟩, he, hq⟩
    obtain ⟨sig', hsig, heq⟩ := List.mem_map.mp hq
    cases heq
    exact ⟨d, OrderedMap.find?_of_mem_entries hkeys he, hsig⟩
  · rintro ⟨d, hd, hsig⟩
    exact ⟨(k, d), OrderedMap.mem_entries_of_findEntry hd, List.mem_map.mpr ⟨sig, hsig, rfl⟩⟩

lemma Registry.nodup_onFile {s : Store} {C : Set Ty} {L : List Cell} (hs : s.Valid p C L)
    {r : Registry} (hkeys : (s.definitions r).keys.Nodup) : (r.onFile s).Nodup := by
  rw [Registry.onFile, List.nodup_flatMap]
  constructor
  · rintro ⟨k, d⟩ he
    have hd : .definition d ∈ s.census p C := Store.mem_census_of_synthesized
      ⟨r.serial, k, OrderedMap.find?_of_mem_entries hkeys he⟩
    have hsigs : s.types.signatures d =
        ((s.types.filed d).map (·.args)).map fun args => args.map some := by
      rw [List.map_map]
      rfl
    have hnodup : (s.types.signatures d).Nodup := by
      rw [hsigs]
      exact (hs.types.interned.each d hd).argLists.map fun a b => map_some_inj
    exact hnodup.map fun a b hab => (Prod.mk.inj hab).2
  · have hpair : (s.definitions r).entries.Pairwise fun e e' => e.1 ≠ e'.1 := by
      rw [OrderedMap.keys, List.Nodup, List.pairwise_map] at hkeys
      exact hkeys
    refine hpair.imp fun {e e'} hne q hq hq' => ?_
    obtain ⟨i, -, rfl⟩ := List.mem_map.mp hq
    obtain ⟨j, -, hj⟩ := List.mem_map.mp hq'
    exact hne (Prod.mk.inj hj).1.symm

/-! ### Read off the calls -/

namespace Ledger

variable {C : Set Ty} {L : List Cell} {s : Store}

lemma keys_eq (h : Ledger p log s) (r : Registry) :
    (s.definitions r).keys = ((needing p r.serial log).map (·.shape.key)).eraseDups :=
  (h.keys r.serial).trans (keys_creations p r.serial log)

lemma nodup_keys (h : Ledger p log s) (r : Registry) : (s.definitions r).keys.Nodup := by
  rw [h.keys_eq]
  exact nodup_eraseDups _

lemma exists_lookup?_iff (h : Ledger p log s) (r : Registry) (k : Key) :
    (∃ d, r.lookup? k s = some d) ↔ ∃ c ∈ needing p r.serial log, c.shape.key = k := by
  rw [Registry.lookup?, Store.definitions, h.exists_find?_iff]
  simp only [mem_needing, and_assoc, and_left_comm, and_comm]

lemma size_eq (h : Ledger p log s) (r : Registry) :
    r.size s = (creations p log).countP fun m => m.registry = r.serial := by
  rw [List.countP_eq_length_filter, ← List.length_map (·.key), ← h.keys, OrderedMap.keys,
    List.length_map]
  rfl

/-- What is on file in a registry is what calls on it have succeeded with. -/
lemma mem_onFile_iff (h : Ledger p log s) (r : Registry) (q : Key × List (Option Ty)) :
    q ∈ r.onFile s ↔ ∃ c ∈ needing p r.serial log, c.succeeded = true ∧
      q = (c.shape.key, c.shape.signature) := by
  obtain ⟨k, sig⟩ := q
  rw [Registry.mem_onFile (h.nodup_keys r)]
  constructor
  · rintro ⟨d, hd, hsig⟩
    obtain ⟨c, hmem, hr, rfl, hneeds, hok, rfl⟩ := (h.filed _ _ d hd _).mp hsig
    exact ⟨c, mem_needing.mpr ⟨hmem, hr, hneeds⟩, hok, rfl⟩
  · rintro ⟨c, hc, hok, heq⟩
    obtain ⟨rfl, rfl⟩ := Prod.mk.inj heq
    obtain ⟨d, hd⟩ := (h.exists_lookup?_iff r c.shape.key).mpr ⟨c, hc, rfl⟩
    obtain ⟨hmem, hr, hneeds⟩ := mem_needing.mp hc
    exact ⟨d, hd, (h.filed _ _ d hd _).mpr ⟨c, hmem, hr, rfl, hneeds, hok, rfl⟩⟩

/-- There is one instance for each pair that is on file. -/
lemma numInstances_eq (h : Ledger p log s) (hs : s.Valid p C L) (r : Registry) :
    r.numInstances s = {q | q ∈ r.onFile s}.ncard := by
  classical
  have hset : {q | q ∈ r.onFile s} = (r.onFile s).toFinset := by
    ext q
    simp
  rw [hset, Set.ncard_coe_finset,
    List.toFinset_card_of_nodup (Registry.nodup_onFile hs (h.nodup_keys r)),
    Registry.length_onFile]

end Ledger

/-- **What is in a registry** after any history: what the calls on it needed. -/
theorem registry_contents {p : Platform} {log : List Call} {w : World}
    (h : World.Logged p log w) (r : Registry) : r.Contents p log w := by
  have hledger := h.ledger
  have hknown := h.known
  have hw := h.valid
  have hfound := hledger.exists_lookup?_iff r
  refine
    { keys := hledger.keys_eq r
      definitions := fun n k d => hw.registry r.serial n k d
      found := hfound
      arity := fun k d hd => ?_
      covered := fun sh hcov => ?_
      kept := fun w' hw' k d hd => (hw'.valid hw).2.1.registries _ k d hd
      signatures := fun c hc c' hc' => ?_
      instances := ?_
      counted := fun ys hys hcalls => ?_ }
  · obtain ⟨n, -, hmade⟩ := hw.synthesizedDefinition hd
    obtain ⟨-, -, m, hm, hcall⟩ := synthesizedDefinition_eq_ok hmade
    rw [hcall.arity, (checkParams_eq_ok hm).1]
    have hlen : (patternFlags k.byRefs m).length = m := by simp [patternFlags]
    rw [hlen]
    cases k.void <;> simp
  · rcases hd : r.lookup? sh.key w.store with _ | d
    · rfl
    · obtain ⟨c, hc, hkey⟩ := (hfound sh.key).mp ⟨d, hd⟩
      exact absurd (Platform.uncovered_of_key_eq hkey (mem_needing.mp hc).2.2) hcov
  · exact (hw.types.interned.forall₂_equalTypes_iff_eq (hknown c hc).signature
      (hknown c' hc').signature).mp
  · rw [hledger.numInstances_eq hw]
    simp only [hledger.mem_onFile_iff]
  · have hsum : (ys.map fun y => (w.store.tally y).synthesized) =
        (ys.map (·.serial)).map fun n => (creations p log).countP fun m => m.synthesizer = n := by
      rw [List.map_map]
      exact List.map_congr_left fun y _ => hledger.synthesized y.serial
    rw [hsum, sum_countP_synthesizer _ hys, hledger.size_eq]
    refine List.countP_congr fun m hm => ?_
    obtain ⟨c, hc, -, rfl⟩ := mem_creations hm
    rw [decide_eq_true_iff, decide_eq_true_iff]
    exact (hcalls c hc).symm

end Contents

/-- Two synthesizers over one registry.  The first makes a definition and applies it, the second
finds it, once for a parameter without a type, and a shape that is passed by value needs none. -/
theorem registry_contents_of_four_calls :
    let a : Ty := .named ⟨.free 0, "", "A", .reference⟩
    let r : Registry := ⟨2, ""⟩
    let y (n : Nat) : Synthesizer := ⟨n, .ofPlatform .standard, r⟩
    ∃ log w, World.Logged .standard log w ∧
      log.map (·.succeeded) = [true, false, true, true] ∧
      (r.size w.store, r.numInstances w.store) = (1, 1) ∧
      (w.store.tally (y 0)).synthesized + (w.store.tally (y 1)).synthesized = 1 ∧
      r.Contents .standard log w ∧ a ∈ w.client := by
  intro a r y
  let ref (x : Option Ty) : Shape := ⟨[⟨x, .byRef⟩], none⟩
  let w₀ := (World.initial .standard).perform (.types (.newNamed "" "A" .reference))
  let w₁ := w₀.perform (.resolve (y 0) (ref (some a)))
  let w₂ := w₁.perform (.resolve (y 1) (ref none))
  let w₃ := w₂.perform (.resolve (y 1) (ref (some a)))
  let w₄ := w₃.perform (.resolve (y 0) ⟨[⟨some a, .byValue⟩], none⟩)
  have ha : a ∈ w₀.client := .inl rfl
  have hknown : ∀ {w : World} {mode : PassMode}, a ∈ w.client →
      (⟨[⟨some a, mode⟩], none⟩ : Shape).Known (w.census .standard) w.store.types := by
    intro w mode haw
    have hcensus : a ∈ w.census .standard := .inl (.inr haw)
    exact ⟨by simpa [Ty.Known] using hcensus, knownType_none⟩
  have h₀ : World.Logged .standard _ w₀ := World.Recounts.initial.step ⟨trivial, trivial⟩ trivial
  have h₁ := h₀.step (r := .resolve (y 0) (ref (some a))) ⟨rfl, hknown ha⟩ trivial
  have h₂ := h₁.step (r := .resolve (y 1) (ref none)) ⟨rfl, by simp [Shape.Known, ref]⟩ trivial
  have h₃ := h₂.step (r := .resolve (y 1) (ref (some a))) ⟨rfl, hknown (.inr (.inr ha))⟩ trivial
  have h₄ := h₃.step (r := .resolve (y 0) ⟨[⟨some a, .byValue⟩], none⟩)
    ⟨rfl, hknown (.inr (.inr (.inr ha)))⟩ trivial
  refine ⟨_, w₄, h₄, ?_, ?_, ?_, registry_contents h₄ r, .inr (.inr (.inr (.inr ha)))⟩
  · decide +kernel
  · decide +kernel
  · decide +kernel

end CallSites
