import CallSites.Proofs.Program.Orderly

/-!
# Accounts of units and factories

In an orderly program what a registry holds and what a factory has counted can be read off the
journal.  For the registry of a unit it takes no more than the notes made for the unit (`notesFor`),
and for most counts of a factory no more than the notes made by it (`notesBy`).  Only how many
definitions a factory has made depends on who came first, among the factories of its unit.
-/

namespace CallSites

/-- The notes made for a unit, oldest first. -/
def notesFor (unit : String) (J : List (SiteFactory × Note)) : List Note :=
  (J.filter fun e => e.1.registry.unit = unit).map Prod.snd

/-- The notes made by the factory with a given serial, oldest first. -/
def notesBy (n : Nat) (J : List (SiteFactory × Note)) : List Note :=
  (J.filter fun e => e.1.serial = n).map Prod.snd

/-- The keys that definitions are needed for, in the order in which they are first needed. -/
def Platform.keysNeeded (p : Platform) (notes : List Note) : List Key :=
  ((notes.filter fun n => p.Needs n.shape).map fun n => n.shape.key).eraseDups

/-- What definitions are applied to, by their keys. -/
def Platform.applied (p : Platform) (notes : List Note) : Set (Key × List (Option Ty)) :=
  {q | ∃ n ∈ notes, p.Needs n.shape ∧ n.succeeded = true ∧ q = (n.shape.key, n.shape.signature)}

/-- The name of the definition for a key, with the number of its type parameters. -/
def Key.typeName (k : Key) : String :=
  match synthesizedDefinition 0 0 k with
  | .ok d => d.metadataName
  | .error _ => ""

/-! ## Who came first -/

section Creations

variable {p : Platform}

/-- What is made in a registry depends on the calls on it alone. -/
lemma filter_creations (r : Nat) (log : List Call) :
    (creations p log).filter (·.registry = r) = creations p (log.filter (·.registry = r)) := by
  induction log using List.reverseRecOn with
  | nil => rfl
  | append_singleton log c ih =>
      rw [creations_concat, List.filter_append, List.filter_singleton]
      by_cases hr : c.registry = r
      · -- whether the key is new can be told from the calls on the registry
        have hnew : (∀ m ∈ creations p log, ¬ (m.registry = c.registry ∧ m.key = c.shape.key)) ↔
            ∀ m ∈ creations p (log.filter (·.registry = r)),
              ¬ (m.registry = c.registry ∧ m.key = c.shape.key) := by
          rw [← ih, hr]
          simp
        rw [hr] at hnew
        simp only [hr, decide_true, cond_true, creations_concat]
        by_cases hmade : p.Needs c.shape ∧
            ∀ m ∈ creations p log, ¬ (m.registry = r ∧ m.key = c.shape.key)
        · rw [if_pos hmade, if_pos ⟨hmade.1, hnew.mp hmade.2⟩, List.filter_append, ih]
          simp [Call.creation, hr]
        · rw [if_neg hmade, if_neg fun h => hmade ⟨h.1, hnew.mpr h.2⟩, ih]
      · simp only [hr, decide_false, cond_false, List.append_nil, ← ih]
        split
        · simp [List.filter_append, Call.creation, hr]
        · rfl

/-- Calls to come make no definition in the place of one that is there. -/
lemma creations_append (log log' : List Call) :
    ∃ more, creations p (log ++ log') = creations p log ++ more ∧
      ∀ m ∈ more, ∃ c ∈ log', c.creation = m := by
  induction log' using List.reverseRecOn with
  | nil => exact ⟨[], by simp, by simp⟩
  | append_singleton log' c ih =>
      obtain ⟨more, hmore, hmem⟩ := ih
      have hold : ∀ m ∈ more, ∃ b ∈ log' ++ [c], b.creation = m := fun m hm =>
        (hmem m hm).imp fun b hb => ⟨List.mem_append_left _ hb.1, hb.2⟩
      rw [← List.append_assoc, creations_concat, hmore]
      split
      · refine ⟨more ++ [c.creation], List.append_assoc _ _ _, fun m hm => ?_⟩
        rcases List.mem_append.mp hm with hm | hm
        · exact hold m hm
        · exact ⟨c, by simp, (List.mem_singleton.mp hm).symm⟩
      · exact ⟨more, rfl, hold⟩

/-- Two factories that make the same calls, each on one registry, make the same definitions. -/
lemma creations_pairs {r r' : Nat} {N : List ((SiteFactory × SiteFactory) × Note)}
    (hr : ∀ e ∈ N, e.1.1.registry.serial = r) (hr' : ∀ e ∈ N, e.1.2.registry.serial = r') :
    ∃ M ⊆ N, creations p (N.map fun e => e.1.1.enter e.2) =
        M.map (fun e => (e.1.1.enter e.2).creation) ∧
      creations p (N.map fun e => e.1.2.enter e.2) = M.map fun e => (e.1.2.enter e.2).creation := by
  induction N using List.reverseRecOn with
  | nil => exact ⟨[], List.Subset.refl _, rfl, rfl⟩
  | append_singleton N e ih =>
      have hN : N ⊆ N ++ [e] := List.subset_append_left N [e]
      have he : e ∈ N ++ [e] := by simp
      obtain ⟨M, hM, hleft, hright⟩ := ih (fun e h => hr e (hN h)) fun e h => hr' e (hN h)
      -- on both sides the definition is new when its key is
      have hnew : (∀ m ∈ creations p (N.map fun e => e.1.1.enter e.2),
            ¬ (m.registry = (e.1.1.enter e.2).registry ∧ m.key = e.2.shape.key)) ↔
          ∀ d ∈ M, d.2.shape.key ≠ e.2.shape.key := by
        rw [hleft, List.forall_mem_map]
        refine forall₂_congr fun d hd => not_congr (and_iff_right ?_)
        exact (hr d (hN (hM hd))).trans (hr e he).symm
      have hnew' : (∀ m ∈ creations p (N.map fun e => e.1.2.enter e.2),
            ¬ (m.registry = (e.1.2.enter e.2).registry ∧ m.key = e.2.shape.key)) ↔
          ∀ d ∈ M, d.2.shape.key ≠ e.2.shape.key := by
        rw [hright, List.forall_mem_map]
        refine forall₂_congr fun d hd => not_congr (and_iff_right ?_)
        exact (hr' d (hN (hM hd))).trans (hr' e he).symm
      simp only [List.map_append, List.map_singleton, creations_concat]
      by_cases hmade : p.Needs e.2.shape ∧ ∀ d ∈ M, d.2.shape.key ≠ e.2.shape.key
      · refine ⟨M ++ [e], ?_, ?_, ?_⟩
        · exact List.append_subset.mpr ⟨List.Subset.trans hM hN, by simp⟩
        · rw [if_pos ⟨hmade.1, hnew.mpr hmade.2⟩, hleft, List.map_append, List.map_singleton]
        · rw [if_pos ⟨hmade.1, hnew'.mpr hmade.2⟩, hright, List.map_append, List.map_singleton]
      · refine ⟨M, List.Subset.trans hM hN, ?_, ?_⟩
        · rw [if_neg fun h => hmade ⟨h.1, hnew.mp h.2⟩, hleft]
        · rw [if_neg fun h => hmade ⟨h.1, hnew'.mp h.2⟩, hright]

end Creations

namespace Orderly

variable {p : Platform} {w : Program}

/-! ## Registries -/

section Registry

variable {unit : String} {r : Registry}

/-- Calls on the registry of a unit are those made for the unit. -/
lemma registry_iff (h : Orderly p w) (hr : w.store.registryOf? unit = some r)
    {e : SiteFactory × Note} (he : e ∈ w.journal) :
    e.1.registry.serial = r.serial ↔ e.1.registry.unit = unit := by
  have hown := h.registry e.1 (h.journal e he)
  constructor
  · exact h.distinct _ _ _ _ hown hr
  · rintro rfl
    rw [Option.some.inj (hown.symm.trans hr)]

lemma needing_eq (h : Orderly p w) (hr : w.store.registryOf? unit = some r) :
    needing p r.serial (journalCalls w.journal) =
      (w.journal.filter fun e => e.1.registry.unit = unit ∧ p.Needs e.2.shape).map
        fun e => e.1.enter e.2 := by
  rw [needing, journalCalls, List.filter_map]
  refine congrArg (List.map _) (List.filter_congr fun e he => ?_)
  have hiff := h.registry_iff hr he
  simp only [Function.comp_apply, SiteFactory.enter, hiff]

lemma keys_eq (h : Orderly p w) (hr : w.store.registryOf? unit = some r) :
    (w.store.definitions r).keys = p.keysNeeded (notesFor unit w.journal) := by
  have hfilter : (notesFor unit w.journal).filter (fun n => p.Needs n.shape) =
      (w.journal.filter fun e => e.1.registry.unit = unit ∧ p.Needs e.2.shape).map Prod.snd := by
    rw [notesFor, List.filter_map, List.filter_filter]
    refine congrArg (List.map _) (List.filter_congr fun e _ => ?_)
    simp [Bool.and_comm]
  rw [h.ledger.keys_eq, h.needing_eq hr, Platform.keysNeeded, hfilter, List.map_map, List.map_map]
  rfl

lemma size_eq (h : Orderly p w) (hr : w.store.registryOf? unit = some r) :
    r.size w.store = (p.keysNeeded (notesFor unit w.journal)).length := by
  rw [← h.keys_eq hr, OrderedMap.keys, List.length_map]
  rfl

lemma names_eq (h : Orderly p w) (hr : w.store.registryOf? unit = some r) :
    r.names w.store = sortedNames ((p.keysNeeded (notesFor unit w.journal)).map Key.typeName) := by
  rw [Registry.names, ← h.keys_eq hr, Registry.definitions, OrderedMap.values, OrderedMap.keys,
    List.map_map, List.map_map]
  refine congrArg sortedNames (List.map_congr_left fun e he => ?_)
  obtain ⟨n, hn⟩ := List.getElem?_of_mem he
  have hmade := h.valid.registry r.serial n e.1 e.2 hn
  simp only [Function.comp_apply, Key.typeName]
  rcases hd : synthesizedDefinition 0 0 e.1 with err | d
  · rw [synthesizedDefinition_eq_error r.serial n hd] at hmade
    cases hmade
  · exact (alike_of_synthesizedDefinition hd hmade).metadataName

lemma mem_onFile_iff (h : Orderly p w) (hr : w.store.registryOf? unit = some r)
    (q : Key × List (Option Ty)) :
    q ∈ r.onFile w.store ↔ q ∈ p.applied (notesFor unit w.journal) := by
  rw [h.ledger.mem_onFile_iff, h.needing_eq hr]
  constructor
  · rintro ⟨c, hc, hok, hq⟩
    obtain ⟨e, he, rfl⟩ := List.mem_map.mp hc
    obtain ⟨hmem, hunit⟩ := List.mem_filter.mp he
    obtain ⟨hunit, hneeds⟩ := of_decide_eq_true hunit
    exact ⟨e.2, List.mem_map.mpr ⟨e, List.mem_filter.mpr ⟨hmem, decide_eq_true hunit⟩, rfl⟩, hneeds,
      hok, hq⟩
  · rintro ⟨n, hn, hneeds, hok, hq⟩
    obtain ⟨e, he, rfl⟩ := List.mem_map.mp hn
    obtain ⟨hmem, hunit⟩ := List.mem_filter.mp he
    refine ⟨e.1.enter e.2, List.mem_map.mpr ⟨e, List.mem_filter.mpr ⟨hmem, ?_⟩, rfl⟩, hok, hq⟩
    exact decide_eq_true ⟨of_decide_eq_true hunit, hneeds⟩

lemma numInstances_eq (h : Orderly p w) (hr : w.store.registryOf? unit = some r) :
    r.numInstances w.store = (p.applied (notesFor unit w.journal)).ncard := by
  rw [h.ledger.numInstances_eq h.valid]
  exact congrArg Set.ncard (Set.ext fun q => h.mem_onFile_iff hr q)

end Registry

/-! ## Counts -/

lemma countP_journalCalls (J : List (SiteFactory × Note)) (n : Nat) (P : Note → Prop)
    [DecidablePred P] :
    ((journalCalls J).countP fun c => c.synthesizer = n ∧ P c.note) =
      (notesBy n J).countP fun x => P x := by
  rw [journalCalls, notesBy, List.countP_map, List.countP_map, List.countP_filter]
  refine List.countP_congr fun e _ => ?_
  have hnote : (e.1.enter e.2).note = e.2 := rfl
  simp only [Function.comp_apply, hnote, Bool.and_eq_true, decide_eq_true_iff]
  exact and_comm

lemma fastPath_eq (h : Orderly p w) (f : SiteFactory) :
    (w.store.tally f.synthesizer).fastPath =
      (notesBy f.serial w.journal).countP fun n => ¬ p.Uncovered n.shape ∧ n.succeeded = true := by
  rw [← countP_journalCalls]
  exact h.ledger.fastPath f.serial

lemma consulted_eq (h : Orderly p w) (f : SiteFactory) :
    (w.store.tally f.synthesizer).synthesized + (w.store.tally f.synthesizer).reused =
      (notesBy f.serial w.journal).countP fun n => p.Needs n.shape := by
  rw [← countP_journalCalls]
  exact h.ledger.consulted f.serial

/-- How many definitions a factory has made depends on the calls made for its unit. -/
lemma synthesized_eq (h : Orderly p w) {f : SiteFactory} (hf : f ∈ w.factories) :
    (w.store.tally f.synthesizer).synthesized =
      (creations p (journalCalls
        (w.journal.filter fun e => e.1.registry.unit = f.registry.unit))).countP
          fun m => m.synthesizer = f.serial := by
  have hr := h.registry f hf
  have hcalls : (journalCalls w.journal).filter (·.registry = f.registry.serial) =
      journalCalls (w.journal.filter fun e => e.1.registry.unit = f.registry.unit) := by
    rw [journalCalls, journalCalls, List.filter_map]
    refine congrArg (List.map _) (List.filter_congr fun e he => ?_)
    have hiff := h.registry_iff hr he
    simp only [Function.comp_apply, SiteFactory.enter, hiff]
  rw [← hcalls, ← filter_creations, List.countP_filter]
  refine (h.ledger.synthesized f.serial).trans (List.countP_congr fun m hm => ?_)
  obtain ⟨c, hc, -, rfl⟩ := mem_creations hm
  obtain ⟨e, he, rfl⟩ := List.mem_map.mp hc
  simp only [Bool.and_eq_true, decide_eq_true_iff]
  refine (and_iff_left_of_imp fun hserial => ?_).symm
  have hown : e.1 = f := h.eq_of_serial_eq (h.journal e he) hf hserial
  exact congrArg (fun g => g.registry.serial) hown

/-- The factories of a unit have made the definitions of its registry, each of them once. -/
lemma sum_synthesized (h : Orderly p w) {unit : String} {r : Registry}
    (hr : w.store.registryOf? unit = some r) :
    ((w.factories.filter fun f => f.registry.unit = unit).map fun f =>
      (w.store.tally f.synthesizer).synthesized).sum = r.size w.store := by
  have hserials : ((w.factories.filter fun f => f.registry.unit = unit).map (·.serial)).Nodup :=
    h.serials.sublist (List.Sublist.map _ List.filter_sublist)
  have hsum : ((w.factories.filter fun f => f.registry.unit = unit).map fun f =>
      (w.store.tally f.synthesizer).synthesized) =
        ((w.factories.filter fun f => f.registry.unit = unit).map (·.serial)).map fun n =>
          (creations p (journalCalls w.journal)).countP fun m => m.synthesizer = n := by
    rw [List.map_map]
    exact List.map_congr_left fun f _ => h.ledger.synthesized f.serial
  rw [hsum, sum_countP_synthesizer _ hserials, h.ledger.size_eq]
  refine List.countP_congr fun m hm => ?_
  obtain ⟨c, hc, -, rfl⟩ := mem_creations hm
  obtain ⟨e, he, rfl⟩ := List.mem_map.mp hc
  have hiff := h.registry_iff hr he
  simp only [decide_eq_true_iff, List.mem_map, List.mem_filter]
  constructor
  · rintro ⟨f, ⟨hf, hunit⟩, hserial⟩
    have hown : f = e.1 := h.eq_of_serial_eq hf (h.journal e he) hserial
    exact hiff.mpr (hown ▸ hunit)
  · intro hregistry
    exact ⟨e.1, ⟨h.journal e he, hiff.mp hregistry⟩, rfl⟩

end Orderly

end CallSites
