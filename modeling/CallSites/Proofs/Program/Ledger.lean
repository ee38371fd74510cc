import CallSites.Proofs.Program.Calls
import CallSites.Proofs.Types.Filing
import Mathlib.Data.List.Induction

/-!
# The ledger of calls

What registries contain, what is on file for their definitions and what synthesizers have counted
comes from calls to resolve shapes and from nothing else.  A `Call` is what is entered of one.  From
a list of calls, oldest first, one can tell which of them have made a definition (`creations`):
those that needed one and were the first to do so for their key in their registry.

`Ledger p log s` says that the store `s` is what the calls in `log` come to.  It speaks about the
books of the store alone (`Ledger.congr`), and there are four ways to enter one more call: it comes
to nothing, a callable family answers it, it finds a definition, or it makes one.
-/

namespace CallSites

/-! ## Shapes that need a definition -/

namespace Platform

/-- No callable family covers the shape. -/
def Uncovered (p : Platform) (sh : Shape) : Prop :=
  sh.hasByRef = true ∨
    (p.profile.family (Synthesizer.familyOf sh)).maxParams < (sh.params.length : Int)

instance (p : Platform) (sh : Shape) : Decidable (p.Uncovered sh) :=
  inferInstanceAs (Decidable (_ ∨ _))

/-- The shape needs a definition from a registry, and the labels of one can be stored. -/
def Needs (p : Platform) (sh : Shape) : Prop :=
  p.Uncovered sh ∧ (sh.params.length : Int) + 1 ≤ maxLabels

instance (p : Platform) (sh : Shape) : Decidable (p.Needs sh) :=
  inferInstanceAs (Decidable (_ ∧ _))

lemma provided?_eq_none_iff {p : Platform} {sh : Shape} :
    p.provided? sh = none ↔ p.Uncovered sh := by
  rw [provided?, Uncovered, family?]
  have hnonneg : ¬ (sh.params.length : Int) < 0 := by omega
  by_cases hbyRef : sh.hasByRef = true
  · simp [hbyRef]
  · simp [hbyRef, hnonneg]

lemma not_uncovered_of_provided? {p : Platform} {sh : Shape} {d : Definition}
    (h : p.provided? sh = some d) : ¬ p.Uncovered sh := by
  rw [← provided?_eq_none_iff, h]
  simp

end Platform

/-! ## Calls -/

/-- What is entered of a call to resolve a shape. -/
structure Call where
  /-- The serial of the synthesizer that is called. -/
  synthesizer : Nat
  /-- The serial of the registry that it uses. -/
  registry : Nat
  shape : Shape
  /-- The call has returned a callable type. -/
  succeeded : Bool

/-- The entry for a call. -/
def Resolution.call (a : Resolution) : Call :=
  ⟨a.synthesizer.serial, a.synthesizer.registry.serial, a.shape, a.succeeds⟩

/-- Who has made the definition for a key of a registry. -/
structure Creation where
  synthesizer : Nat
  registry : Nat
  key : Key
deriving DecidableEq

/-- The definition that the call makes if there is none yet. -/
def Call.creation (c : Call) : Creation := ⟨c.synthesizer, c.registry, c.shape.key⟩

/-- The definitions that have been made, oldest first. -/
def creations (p : Platform) (log : List Call) : List Creation :=
  log.foldl (fun made c =>
    if p.Needs c.shape ∧ ∀ m ∈ made, ¬ (m.registry = c.registry ∧ m.key = c.shape.key) then
      made ++ [c.creation]
    else made) []

section Creations

variable {p : Platform} {log : List Call} {c : Call} {m : Creation}

lemma creations_concat (p : Platform) (log : List Call) (c : Call) :
    creations p (log ++ [c]) =
      if p.Needs c.shape ∧
          ∀ m ∈ creations p log, ¬ (m.registry = c.registry ∧ m.key = c.shape.key) then
        creations p log ++ [c.creation]
      else creations p log := by
  rw [creations, List.foldl_append]
  rfl

lemma mem_creations (h : m ∈ creations p log) :
    ∃ c ∈ log, p.Needs c.shape ∧ c.creation = m := by
  induction log using List.reverseRecOn with
  | nil => cases h
  | append_singleton log c ih =>
      rw [creations_concat] at h
      split at h
      · next hnew =>
          rcases List.mem_append.mp h with hold | hlast
          · obtain ⟨c', hc', hrest⟩ := ih hold
            exact ⟨c', List.mem_append_left _ hc', hrest⟩
          · exact ⟨c, by simp, hnew.1, (List.mem_singleton.mp hlast).symm⟩
      · obtain ⟨c', hc', hrest⟩ := ih h
        exact ⟨c', List.mem_append_left _ hc', hrest⟩

/-- A call that needs a definition finds one made, by itself at the latest. -/
lemma exists_creation (hc : c ∈ log) (hneeds : p.Needs c.shape) :
    ∃ m ∈ creations p log, m.registry = c.registry ∧ m.key = c.shape.key := by
  induction log using List.reverseRecOn with
  | nil => cases hc
  | append_singleton log c' ih =>
      rw [creations_concat]
      rcases List.mem_append.mp hc with hold | hlast
      · obtain ⟨m, hm, hshare⟩ := ih hold
        split
        · exact ⟨m, List.mem_append_left _ hm, hshare⟩
        · exact ⟨m, hm, hshare⟩
      · obtain rfl := List.mem_singleton.mp hlast
        split
        · exact ⟨c.creation, by simp, rfl, rfl⟩
        · next hold =>
            rw [not_and_or] at hold
            simpa using hold.resolve_left (not_not.mpr hneeds)

end Creations

/-! ## The ledger -/

/-- Definitions of registries have one identity only if they are for one key of one registry. -/
lemma Store.Valid.synthesized_inj {p : Platform} {C : Set Ty} {L : List Cell} {s : Store}
    (hs : s.Valid p C L) {r r' : Nat} {k k' : Key} {d d' : Definition}
    (hd : (s.registries.getD r ∅).find? k = some d)
    (hd' : (s.registries.getD r' ∅).find? k' = some d') (hid : d.id = d'.id) : r = r' ∧ k = k' := by
  obtain ⟨n, hn⟩ := OrderedMap.exists_getElem?_of_find? hd
  obtain ⟨n', hn'⟩ := OrderedMap.exists_getElem?_of_find? hd'
  rw [(synthesizedDefinition_eq_ok (hs.registry r n k d hn)).1,
    (synthesizedDefinition_eq_ok (hs.registry r' n' k' d' hn')).1] at hid
  cases hid
  rw [hn, Option.some.injEq, Prod.mk.injEq] at hn'
  exact ⟨rfl, hn'.1⟩

/-- The argument lists that a definition has been applied to. -/
def TypeTable.signatures (t : TypeTable) (d : Definition) : List (List (Option Ty)) :=
  (t.filed d).map fun i => i.args.map some

lemma TypeTable.signatures_congr {t t' : TypeTable} {d : Definition}
    (h : t'.entry d.id = t.entry d.id) : t'.signatures d = t.signatures d := by
  have hstate : t'.definition d = t.definition d := h
  rw [signatures, signatures, filed, filed, hstate]

/-- A construction adds the argument list it is given to those on file. -/
lemma TypeTable.Interned.mem_signatures_construct {K : Set Ty} {t t' : TypeTable} {d : Definition}
    (h : t.Interned K) (hd : .definition d ∈ K) {args : List (Option Ty)}
    (hargs : ∀ a ∈ args, KnownType K t a) {i : Instance}
    (hrun : (d.construct args).run t = (.ok i, t')) {sig : List (Option Ty)} :
    sig ∈ t'.signatures d ↔ sig = args ∨ sig ∈ t.signatures d := by
  obtain ⟨-, -, hdef, hknown, hmap⟩ := h.construct_ok hd hargs hrun
  obtain ⟨e, -, he, -⟩ | ⟨bs, -, ⟨j, -, -, rfl⟩ | ⟨-, hi, rfl⟩⟩ := Definition.construct_cases hrun
  · cases he
  · have hmem : args ∈ t'.signatures d := List.mem_map.mpr ⟨i, hdef ▸ hknown.2, hmap.symm⟩
    exact ⟨.inr, fun hsig => hsig.elim (fun heq => heq ▸ hmem) id⟩
  · cases hi
    rw [signatures, ((t.filed_file_self ⟨d, _, bs⟩).map _).mem_iff, List.map_append,
      List.mem_append, List.map_singleton, List.mem_singleton, or_comm, hmap]
    rfl

/-- What the ledger is about: the registries, the counts, and what has happened to the definitions
of registries. -/
def Store.books (s : Store) :=
  (s.registries, s.tallies, fun r n => s.types.entry (.synthesized r n))

/-- The store is what the calls come to. -/
structure Ledger (p : Platform) (log : List Call) (s : Store) : Prop where
  keys : ∀ r, (s.registries.getD r ∅).keys =
    ((creations p log).filter (·.registry = r)).map (·.key)
  fastPath : ∀ n, (s.tallies.getD n {}).fastPath =
    log.countP fun c => c.synthesizer = n ∧ ¬ p.Uncovered c.shape ∧ c.succeeded
  synthesized : ∀ n, (s.tallies.getD n {}).synthesized =
    (creations p log).countP fun m => m.synthesizer = n
  consulted : ∀ n, (s.tallies.getD n {}).synthesized + (s.tallies.getD n {}).reused =
    log.countP fun c => c.synthesizer = n ∧ p.Needs c.shape
  /-- What the definitions of registries have been applied to. -/
  filed : ∀ r k d, (s.registries.getD r ∅).find? k = some d → ∀ sig,
    sig ∈ s.types.signatures d ↔
      ∃ c ∈ log, c.registry = r ∧ c.shape.key = k ∧ p.Needs c.shape ∧ c.succeeded = true ∧
        c.shape.signature = sig

namespace Ledger

variable {p : Platform} {C : Set Ty} {L : List Cell} {log : List Call} {s s' : Store} {c : Call}
variable {d : Definition}

lemma initial (p : Platform) : Ledger p [] (.initial p) where
  keys _ := rfl
  fastPath _ := rfl
  synthesized _ := rfl
  consulted _ := rfl
  filed r k d hd := by cases hd

/-- The ledger is about the books and nothing else. -/
lemma congr (h : Ledger p log s) (hs : s.Valid p C L) (hb : s'.books = s.books) :
    Ledger p log s' := by
  simp only [Store.books, Prod.mk.injEq] at hb
  obtain ⟨hregistries, htallies, hentries⟩ := hb
  refine
    { keys := ?_, fastPath := ?_, synthesized := ?_, consulted := ?_
      filed := fun r k d hd sig => ?_ }
  · rw [hregistries]
    exact h.keys
  · rw [htallies]
    exact h.fastPath
  · rw [htallies]
    exact h.synthesized
  · rw [htallies]
    exact h.consulted
  · rw [hregistries] at hd
    obtain ⟨n, -, hmade⟩ := hs.synthesizedDefinition hd
    have hid := (synthesizedDefinition_eq_ok hmade).1
    have hentry : s'.types.entry d.id = s.types.entry d.id := by
      rw [hid]
      exact congrFun (congrFun hentries r) n
    rw [TypeTable.signatures_congr hentry]
    exact h.filed r k d hd sig

/-- A registry has a definition for a key when some call needed it. -/
lemma mem_keys_iff (h : Ledger p log s) {r : Nat} {k : Key} :
    k ∈ (s.registries.getD r ∅).keys ↔
      ∃ c ∈ log, c.registry = r ∧ c.shape.key = k ∧ p.Needs c.shape := by
  rw [h.keys]
  constructor
  · intro hk
    obtain ⟨m, hm, rfl⟩ := List.mem_map.mp hk
    rw [List.mem_filter, decide_eq_true_iff] at hm
    obtain ⟨c, hc, hneeds, rfl⟩ := mem_creations hm.1
    exact ⟨c, hc, hm.2, rfl, hneeds⟩
  · rintro ⟨c, hc, rfl, rfl, hneeds⟩
    obtain ⟨m, hm, hr, hk⟩ := exists_creation hc hneeds
    exact List.mem_map.mpr ⟨m, List.mem_filter.mpr ⟨hm, decide_eq_true hr⟩, hk⟩

lemma exists_find?_iff (h : Ledger p log s) {r : Nat} {k : Key} :
    (∃ d, (s.registries.getD r ∅).find? k = some d) ↔
      ∃ c ∈ log, c.registry = r ∧ c.shape.key = k ∧ p.Needs c.shape := by
  rw [← h.mem_keys_iff, ← Option.ne_none_iff_exists', Ne, OrderedMap.find?_eq_none_iff, not_not]

/-! ### One more call

A call is entered as one that has not succeeded, along with what it does to registries and counts,
and marked as successful once an instance is on file. -/

/-- A call for a shape that needs no definition adds none. -/
lemma creations_concat_of_not_needs (log : List Call) (hneeds : ¬ p.Needs c.shape) :
    creations p (log ++ [c]) = creations p log := by
  rw [creations_concat, if_neg fun hnew => hneeds hnew.1]

/-- The calls behind what is on file do not change by a call for another key, or one that does not
count. -/
lemma exists_call_concat_iff {r : Nat} {k : Key} {sig : List (Option Ty)}
    (hc : ¬ (c.registry = r ∧ c.shape.key = k ∧ p.Needs c.shape ∧ c.succeeded = true ∧
      c.shape.signature = sig)) :
    (∃ b ∈ log ++ [c], b.registry = r ∧ b.shape.key = k ∧ p.Needs b.shape ∧ b.succeeded = true ∧
        b.shape.signature = sig) ↔
      ∃ b ∈ log, b.registry = r ∧ b.shape.key = k ∧ p.Needs b.shape ∧ b.succeeded = true ∧
        b.shape.signature = sig := by
  simp only [List.mem_append, List.mem_singleton, or_and_right, exists_or, exists_eq_left]
  exact or_iff_left hc

/-- A call that comes to nothing: its shape is covered but not usable, or there is no room for a
definition. -/
lemma idle (h : Ledger p log s) (hneeds : ¬ p.Needs c.shape)
    (hfail : p.Uncovered c.shape ∨ c.succeeded = false) : Ledger p (log ++ [c]) s := by
  have hsame := creations_concat_of_not_needs log hneeds
  have hlast : ∀ n, ¬ (c.synthesizer = n ∧ ¬ p.Uncovered c.shape ∧ c.succeeded = true) := by
    rintro n ⟨-, hcov, hok⟩
    rcases hfail with hun | hfalse
    · exact hcov hun
    · simp [hfalse] at hok
  refine
    { keys := fun r => ?_
      fastPath := fun n => ?_
      synthesized := fun n => ?_
      consulted := fun n => ?_
      filed := fun r k d hd sig => ?_ }
  · rw [h.keys, hsame]
  · simp [h.fastPath, List.countP_append, hlast]
  · rw [h.synthesized, hsame]
  · simp [h.consulted, List.countP_append, hneeds]
  · rw [h.filed r k d hd sig, exists_call_concat_iff fun hc => hneeds hc.2.2.1]

/-- A call that is answered with a callable family. -/
lemma fast (h : Ledger p log s) (hcov : ¬ p.Uncovered c.shape) (hok : c.succeeded = true) :
    Ledger p (log ++ [c])
      (s.count c.synthesizer fun t => { t with fastPath := t.fastPath + 1 }) := by
  have hneeds : ¬ p.Needs c.shape := fun hn => hcov hn.1
  have hsame := creations_concat_of_not_needs log hneeds
  refine
    { keys := fun r => ?_
      fastPath := fun n => ?_
      synthesized := fun n => ?_
      consulted := fun n => ?_
      filed := fun r k d hd sig => ?_ }
  · rw [hsame]
    exact h.keys r
  · rw [s.getD_count]
    by_cases hn : c.synthesizer = n
    · simp [hn, h.fastPath, hcov, hok, List.countP_append]
    · simp [hn, h.fastPath, List.countP_append]
  · rw [s.getD_count, hsame, ← h.synthesized n]
    split <;> rfl
  · have hcount := h.consulted n
    rw [s.getD_count, List.countP_append]
    split <;> simpa [hneeds] using hcount
  · rw [exists_call_concat_iff fun hc => hneeds hc.2.2.1]
    exact h.filed r k d hd sig

/-- A call that finds a definition for its key. -/
lemma reuse (h : Ledger p log s) (hneeds : p.Needs c.shape) (hfail : c.succeeded = false)
    (hd : (s.registries.getD c.registry ∅).find? c.shape.key = some d) :
    Ledger p (log ++ [c]) (s.count c.synthesizer fun t => { t with reused := t.reused + 1 }) := by
  have hsame : creations p (log ++ [c]) = creations p log := by
    obtain ⟨b, hb, hr, hk, hneeds'⟩ := h.exists_find?_iff.mp ⟨d, hd⟩
    obtain ⟨m, hm, hmr, hmk⟩ := exists_creation hb hneeds'
    rw [creations_concat, if_neg]
    exact fun hnew => hnew.2 m hm ⟨hmr.trans hr, hmk.trans hk⟩
  refine
    { keys := fun r => ?_
      fastPath := fun n => ?_
      synthesized := fun n => ?_
      consulted := fun n => ?_
      filed := fun r k d hd sig => ?_ }
  · rw [hsame]
    exact h.keys r
  · have hcount := h.fastPath n
    rw [s.getD_count, List.countP_append]
    split <;> simpa [hfail] using hcount
  · rw [s.getD_count, hsame, ← h.synthesized n]
    split <;> rfl
  · have hcount := h.consulted n
    rw [s.getD_count, List.countP_append]
    by_cases hn : c.synthesizer = n
    · simp only [hn, if_true, true_and, hneeds, decide_true, List.countP_cons_of_pos,
        List.countP_nil]
      omega
    · simpa [hn] using hcount
  · rw [exists_call_concat_iff fun hc => by simp [hfail] at hc]
    exact h.filed r k d hd sig

/-- A call that makes the definition for its key. -/
lemma synthesize (h : Ledger p log s) (hs : s.Valid p C L) (hneeds : p.Needs c.shape)
    (hfail : c.succeeded = false)
    (hk : (s.registries.getD c.registry ∅).find? c.shape.key = none)
    (hd : synthesizedDefinition c.registry (s.registries.getD c.registry ∅).size c.shape.key =
      .ok d) :
    Ledger p (log ++ [c])
      ((s.synthesize c.registry c.shape.key d).count c.synthesizer fun t =>
        { t with synthesized := t.synthesized + 1 }) := by
  -- no call has asked for this key, so the definition is new and nothing is on file for it
  have hnone : ∀ b ∈ log, ¬ (b.registry = c.registry ∧ b.shape.key = c.shape.key ∧
      p.Needs b.shape) := by
    intro b hb hshare
    obtain ⟨e, he⟩ := h.exists_find?_iff.mpr ⟨b, hb, hshare⟩
    rw [hk] at he
    cases he
  have hnew : creations p (log ++ [c]) = creations p log ++ [c.creation] := by
    rw [creations_concat, if_pos]
    refine ⟨hneeds, fun m hm hshare => ?_⟩
    obtain ⟨b, hb, hneeds', rfl⟩ := mem_creations hm
    exact hnone b hb ⟨hshare.1, hshare.2, hneeds'⟩
  have hblank : s.types.filed d = [] := by
    rw [TypeTable.filed, hs.types.interned.definition_eq_empty (hs.ident_ne hd)]
    rfl
  refine
    { keys := fun r => ?_
      fastPath := fun n => ?_
      synthesized := fun n => ?_
      consulted := fun n => ?_
      filed := fun r k e he sig => ?_ }
  · show ((s.synthesize c.registry c.shape.key d).registries.getD r ∅).keys = _
    rw [hnew, List.filter_append, List.map_append, ← h.keys r, Store.synthesize,
      OrderedMap.getD_insert]
    by_cases hr : c.registry = r
    · subst hr
      rw [if_pos rfl, OrderedMap.keys_insert_of_find?_eq_none d hk]
      simp [Call.creation]
    · simp [hr, Call.creation]
  · have hcount := h.fastPath n
    rw [Store.getD_count, List.countP_append]
    split <;> simpa [hfail] using hcount
  · have hcount := h.synthesized n
    rw [Store.getD_count, hnew, List.countP_append]
    by_cases hn : c.synthesizer = n
    · simpa [hn, Call.creation] using hcount
    · simpa [hn, Call.creation] using hcount
  · have hcount := h.consulted n
    rw [Store.getD_count, List.countP_append]
    by_cases hn : c.synthesizer = n
    · simp only [hn, if_true, true_and, hneeds, decide_true, List.countP_cons_of_pos,
        List.countP_nil]
      rw [← hcount, Store.tallies_synthesize]
      omega
    · simpa [hn] using hcount
  · rw [exists_call_concat_iff fun hc => by simp [hfail] at hc]
    change ((s.synthesize c.registry c.shape.key d).registries.getD r ∅).find? k = some e at he
    rw [s.find?_synthesize] at he
    split at he
    · next hrk =>
        obtain ⟨rfl, rfl⟩ := hrk
        cases he
        refine iff_of_false ?_ ?_
        · show sig ∉ s.types.signatures d
          simp [TypeTable.signatures, hblank]
        · rintro ⟨b, hb, hr, hk', hneeds', -⟩
          exact hnone b hb ⟨hr, hk', hneeds'⟩
    · exact h.filed r k e he sig

/-- The call has put an instance on file. -/
lemma succeed (h : Ledger p (log ++ [c]) s) (hs : s.Valid p C L) (hneeds : p.Needs c.shape)
    (hsh : c.shape.Known (s.census p C) s.types) (hfail : c.succeeded = false)
    (hd : (s.registries.getD c.registry ∅).find? c.shape.key = some d) {i : Instance}
    {t : TypeTable} (hrun : (d.construct c.shape.signature).run s.types = (.ok i, t)) :
    Ledger p (log ++ [{ c with succeeded := true }]) { s with types := t } := by
  have hsame : creations p (log ++ [{ c with succeeded := true }]) = creations p (log ++ [c]) := by
    rw [creations_concat, creations_concat]
    rfl
  have hdK : .definition d ∈ s.census p C := Store.mem_census_of_synthesized ⟨_, _, hd⟩
  refine
    { keys := fun r => ?_
      fastPath := fun n => ?_
      synthesized := fun n => ?_
      consulted := fun n => ?_
      filed := fun r k e he sig => ?_ }
  · rw [hsame]
    exact h.keys r
  · have hcount := h.fastPath n
    rw [List.countP_append] at hcount ⊢
    simpa [hfail, hneeds.1] using hcount
  · rw [hsame]
    exact h.synthesized n
  · have hcount := h.consulted n
    rw [List.countP_append] at hcount ⊢
    simpa [hneeds] using hcount
  · have hold := h.filed r k e he sig
    rw [exists_call_concat_iff fun hc => by simp [hfail] at hc] at hold
    by_cases hid : d.id = e.id
    · obtain ⟨rfl, rfl⟩ := hs.synthesized_inj hd he hid
      obtain rfl : d = e := Option.some.inj (hd.symm.trans he)
      rw [hs.types.interned.mem_signatures_construct hdK hsh.signature hrun, hold]
      simp only [List.mem_append, List.mem_singleton, or_and_right, exists_or, exists_eq_left,
        hneeds, true_and]
      rw [or_comm, eq_comm]
    · have hentry := (Spares.construct (t := s.types) hid c.shape.signature).of_run hrun
      rw [exists_call_concat_iff, ← hold, TypeTable.signatures_congr hentry]
      rintro ⟨rfl, rfl, -⟩
      exact hid (congrArg Definition.id (Option.some.inj (hd.symm.trans he)))

end Ledger

end CallSites
