import CallSites.Data.IndexedMap
import CallSites.Proofs.Data.OrderedMap

/-!
# An index and a table make an ordered map

A map in two parts is read by visitors that follow its index.  It `Represents` an ordered map when
the index lists the keys of that map and the table has its values; both parts are then in step, and
what a visitor is shown are the entries of the ordered map.

A history of calls writes a list of entries, oldest first: those that were stored, and those that
were created without an error.  `IndexedMap.performAll_represents` says that after any history the
map represents the ordered map made from that list, and `IndexedMap.refines_entries` reads off what
this means for every call that may come next.
-/

namespace CallSites

variable {κ α ε σ : Type}

/-! ## Visits -/

/-- The items that a visitor with a limit sees. -/
def firstItems {β : Type} (limit : Nat) (l : List β) : List β :=
  if limit = 0 then l else l.take limit

section Visits

variable {β γ : Type}

lemma visit_map (f : β → γ) (see : γ → StateM σ Bool) :
    ∀ l : List β, visit see (l.map f) = visit (fun b => see (f b)) l
  | [] => rfl
  | b :: bs => by
      rw [List.map_cons, visit, visit, visit_map f see bs]

lemma run_visit_noting_cons (limit : Nat) (b : β) (bs seen : List β) :
    (visit (noting limit) (b :: bs)).run seen =
      if seen.length + 1 = limit then ((), seen ++ [b])
      else (visit (noting limit) bs).run (seen ++ [b]) := by
  show (if (decide ((seen ++ [b]).length ≠ limit)) = true then visit (noting limit) bs
    else pure ()).run (seen ++ [b]) = _
  rw [List.length_append, List.length_singleton]
  by_cases h : seen.length + 1 = limit
  · simp only [h, ne_eq, not_true, decide_false, Bool.false_eq_true, if_false, if_true]
    rfl
  · simp only [h, ne_eq, not_false_eq_true, decide_true, if_true, if_false]

/-- A visitor adds what it sees to what it has seen, up to its limit. -/
lemma run_visit_noting (limit : Nat) :
    ∀ l seen : List β, (limit = 0 ∨ seen.length < limit) →
      (visit (noting limit) l).run seen =
        ((), seen ++ if limit = 0 then l else l.take (limit - seen.length))
  | [], seen, _ => by
      rw [List.take_nil, ite_self, List.append_nil]
      rfl
  | b :: bs, seen, h => by
      rw [run_visit_noting_cons]
      by_cases hlast : seen.length + 1 = limit
      · have hone : limit - seen.length = 1 := by omega
        have hpos : limit ≠ 0 := by omega
        simp [hlast, hone, hpos]
      · rw [if_neg hlast, run_visit_noting limit bs _ (by simp; omega)]
        by_cases hzero : limit = 0
        · simp [hzero]
        · have hsub : limit - seen.length = limit - (seen.length + 1) + 1 := by omega
          simp [hzero, hsub]

/-- A tour of a list shows it from the front, up to the limit of the visitor. -/
lemma noted_visit (limit : Nat) (l : List β) : noted limit (fun see => visit see l) =
    firstItems limit l := by
  rw [noted, run_visit_noting limit l [] (by simp; omega)]
  simp [firstItems]

end Visits

namespace IndexedMap

variable {m : IndexedMap κ α} {l : OrderedMap κ α} [DecidableEq κ]

/-! ## Fetching -/

section Fetch

variable {k : κ} {v : α} {create : StateM σ (α × Option ε)} {w w' : σ}

lemma run_fetch_of_some (h : m.table k = some v) :
    (m.fetch k create).run w = ((⟨v, true, none⟩, m), w) := by
  rw [fetch, h]
  rfl

lemma run_fetch_of_created (h : m.table k = none) (hcreate : create.run w = ((v, none), w')) :
    (m.fetch k create).run w = ((⟨v, false, none⟩, m.insert k v), w') := by
  rw [fetch, h, StateT.run_bind, hcreate]
  rfl

lemma run_fetch_of_failed {e : ε} (h : m.table k = none)
    (hcreate : create.run w = ((v, some e), w')) :
    (m.fetch k create).run w = ((⟨v, false, some e⟩, m), w') := by
  rw [fetch, h, StateT.run_bind, hcreate]
  rfl

end Fetch

/-! ## The two parts in step -/

/-- The map holds the entries of an ordered map in which no key is repeated. -/
structure Represents (m : IndexedMap κ α) (l : OrderedMap κ α) : Prop where
  index : m.index = l.keys
  table : ∀ k, m.table k = l.find? k
  nodup : l.keys.Nodup

namespace Represents

lemma empty : ({} : IndexedMap κ α).Represents ∅ := ⟨rfl, fun _ => rfl, List.nodup_nil⟩

lemma mem_index_iff (h : m.Represents l) (k : κ) : k ∈ m.index ↔ ∃ v, m.table k = some v := by
  rw [h.index, h.table, ← Option.ne_none_iff_exists', Ne, OrderedMap.find?_eq_none_iff, not_not]

lemma table_eq_none_iff (h : m.Represents l) (k : κ) : m.table k = none ↔ k ∉ l.keys := by
  rw [h.table, OrderedMap.find?_eq_none_iff]

lemma insert (h : m.Represents l) (k : κ) (v : α) : (m.insert k v).Represents (l.insert k v) := by
  refine ⟨?_, fun k' => ?_, ?_⟩
  · rw [OrderedMap.keys_insert, IndexedMap.insert, h.index]
    by_cases hk : k ∈ l.keys
    · obtain ⟨x, hx⟩ := (h.mem_index_iff k).mp (h.index ▸ hk)
      simp [hk, hx]
    · simp [hk, (h.table_eq_none_iff k).mpr hk]
  · rw [OrderedMap.find?_insert, ← h.table, IndexedMap.insert]
    simp only [eq_comm]
  · rw [OrderedMap.keys_insert]
    split
    · exact h.nodup
    · next hk =>
        rw [← List.concat_eq_append]
        exact h.nodup.concat hk

lemma visitKeys (h : m.Represents l) (see : κ → StateM σ Bool) :
    m.visitKeys see = visit see l.keys := by
  rw [IndexedMap.visitKeys, h.index]

variable [Inhabited α]

lemma map_read (h : m.Represents l) : (m.index.map fun k => (k, m.read k)) = l.toList := by
  rw [h.index, OrderedMap.toList, OrderedMap.entries_eq_map_keys h.nodup]
  refine List.map_congr_left fun k _ => ?_
  rw [read, h.table]

/-- Every visitor is shown the entries. -/
lemma visitEntries (h : m.Represents l) (see : κ × α → StateM σ Bool) :
    m.visitEntries see = visit see l.toList := by
  rw [← h.map_read, visit_map, IndexedMap.visitEntries]

lemma visitValues (h : m.Represents l) (see : α → StateM σ Bool) :
    m.visitValues see = visit see l.values := by
  rw [OrderedMap.values, visit_map, ← OrderedMap.toList, ← h.map_read, visit_map]
  rfl

end Represents

end IndexedMap

/-! ## Histories -/

/-- The entry that a call has written, by what was answered: what was stored, or what was created
without an error. -/
def MapCall.written : MapCall κ α ε σ → MapAnswer κ α ε → Option (κ × α)
  | .store k v, _ => some (k, v)
  | .loadOrStore k _, .fetched ⟨v, false, none⟩ => some (k, v)
  | _, _ => none

/-- The entries that a history has written, oldest first. -/
def writtenBy (calls : List (MapCall κ α ε σ)) (answers : List (MapAnswer κ α ε)) : List (κ × α) :=
  (calls.zip answers).filterMap fun e => e.1.written e.2

lemma writtenBy_cons (c : MapCall κ α ε σ) (cs : List (MapCall κ α ε σ)) (a : MapAnswer κ α ε)
    (as : List (MapAnswer κ α ε)) :
    writtenBy (c :: cs) (a :: as) = (c.written a).toList ++ writtenBy cs as := by
  rw [writtenBy, List.zip_cons_cons, List.filterMap_cons]
  cases c.written a <;> rfl

/-- The map answers every call as a list of entries does: by what it has under a key, by the entries
from first to last, and by a list that is lengthened or changed in place. -/
structure IndexedMap.Refines [DecidableEq κ] [Inhabited α] (m : IndexedMap κ α)
    (entries : List (κ × α)) : Prop where
  nodup_index : m.index.Nodup
  /-- The index lists the keys of the table. -/
  mem_index_iff : ∀ k, k ∈ m.index ↔ ∃ v, m.table k = some v
  load : ∀ k, m.find? k = (entries.find? fun e => e.1 = k).map Prod.snd
  entries_eq : ∀ limit, noted limit m.visitEntries = firstItems limit entries
  keys_eq : ∀ limit, noted limit m.visitKeys = firstItems limit (entries.map Prod.fst)
  values_eq : ∀ limit, noted limit m.visitValues = firstItems limit (entries.map Prod.snd)
  size_eq : m.size = entries.length
  /-- Overwriting a key keeps its position. -/
  overwrite : ∀ k v, k ∈ entries.map Prod.fst →
    noted 0 (m.insert k v).visitEntries = entries.map fun e => if e.1 = k then (k, v) else e
  append : ∀ k v, k ∉ entries.map Prod.fst →
    noted 0 (m.insert k v).visitEntries = entries ++ [(k, v)]
  /-- Nothing is created for a key that is present, and its value stays. -/
  fetch_present : ∀ {ε τ : Type} (k v) (create : StateM τ (α × Option ε)) (w : τ),
    (k, v) ∈ entries → (m.fetch k create).run w = ((⟨v, true, none⟩, m), w)
  /-- For a key that is absent a value is created once, and then written. -/
  fetch_created : ∀ {ε τ : Type} (k v) (create : StateM τ (α × Option ε)) (w w' : τ),
    k ∉ entries.map Prod.fst → create.run w = ((v, none), w') →
      (m.fetch k create).run w = ((⟨v, false, none⟩, m.insert k v), w')
  /-- A creation that fails has been tried once, and the map is as it was. -/
  fetch_failed : ∀ {ε τ : Type} (k v e) (create : StateM τ (α × Option ε)) (w w' : τ),
    k ∉ entries.map Prod.fst → create.run w = ((v, some e), w') →
      (m.fetch k create).run w = ((⟨v, false, some e⟩, m), w')

namespace IndexedMap

variable {m : IndexedMap κ α} {l : OrderedMap κ α} [DecidableEq κ] [Inhabited α]

lemma Represents.refines (h : m.Represents l) : m.Refines l.toList := by
  have hnone : ∀ {k}, k ∉ l.toList.map Prod.fst → m.table k = none := fun hk =>
    (h.table_eq_none_iff _).mpr hk
  have hnoted : ∀ {m' : IndexedMap κ α} {l' : OrderedMap κ α}, m'.Represents l' → ∀ limit,
      noted limit m'.visitEntries = firstItems limit l'.toList := fun h' limit =>
    (congrArg (noted limit) (funext h'.visitEntries)).trans (noted_visit limit _)
  refine
    { nodup_index := h.index ▸ h.nodup
      mem_index_iff := h.mem_index_iff
      load := fun k => ?_
      entries_eq := hnoted h
      keys_eq := fun limit =>
        (congrArg (noted limit) (funext h.visitKeys)).trans (noted_visit limit _)
      values_eq := fun limit =>
        (congrArg (noted limit) (funext h.visitValues)).trans (noted_visit limit _)
      size_eq := ?_
      overwrite := fun k v hk => ?_
      append := fun k v hk => ?_
      fetch_present := fun k v create w hmem => ?_
      fetch_created := fun k v create w w' hk hrun => run_fetch_of_created (hnone hk) hrun
      fetch_failed := fun k v e create w w' hk hrun => run_fetch_of_failed (hnone hk) hrun }
  · rw [find?, h.table, OrderedMap.find?, OrderedMap.findEntry_eq_find?]
    rfl
  · rw [size, h.index, OrderedMap.keys, List.length_map]
    rfl
  · rw [hnoted (h.insert k v)]
    exact OrderedMap.entries_insert_of_mem h.nodup v hk
  · rw [hnoted (h.insert k v)]
    exact OrderedMap.entries_insert_of_find?_eq_none v (OrderedMap.find?_eq_none_iff.mpr hk)
  · exact run_fetch_of_some ((h.table k).trans (OrderedMap.find?_of_mem_entries h.nodup hmem))

/-- **One call.**  What the map represents is lengthened by the entry that the call writes, if it
writes one. -/
lemma perform_represents {written : List (κ × α)} (h : m.Represents (.ofList written))
    (c : MapCall κ α ε σ) (w : σ) :
    ((m.perform c).run w).1.2.Represents
      (.ofList (written ++ (c.written ((m.perform c).run w).1.1).toList)) := by
  have hsame : m.Represents (.ofList (written ++ [])) := by rwa [List.append_nil]
  cases c with
  | store k v =>
      show (m.insert k v).Represents (.ofList (written ++ [(k, v)]))
      rw [OrderedMap.ofList_concat]
      exact h.insert k v
  | loadOrStore k create =>
      rw [perform, StateT.run_bind]
      rcases htable : m.table k with _ | v
      · rcases hcreate : create.run w with ⟨⟨v, _ | e⟩, w'⟩
        · rw [run_fetch_of_created htable hcreate]
          show (m.insert k v).Represents (.ofList (written ++ [(k, v)]))
          rw [OrderedMap.ofList_concat]
          exact h.insert k v
        · rw [run_fetch_of_failed htable hcreate]
          exact hsame
      · rw [run_fetch_of_some htable]
        exact hsame
  | load k | keys limit | values limit | entries limit | size => exact hsame

/-- **A whole history.**  The map represents what has been written, entry by entry. -/
theorem performAll_represents {written : List (κ × α)} (h : m.Represents (.ofList written))
    (calls : List (MapCall κ α ε σ)) (w : σ) :
    ((m.performAll calls).run w).1.2.Represents
      (.ofList (written ++ writtenBy calls ((m.performAll calls).run w).1.1)) := by
  induction calls generalizing m written w with
  | nil =>
      show m.Represents (.ofList (written ++ []))
      rwa [List.append_nil]
  | cons c cs ih =>
      have hstep := perform_represents h c w
      rw [performAll, StateT.run_bind]
      rcases hrun : (m.perform c).run w with ⟨⟨a, m₁⟩, w₁⟩
      rw [hrun] at hstep
      have hrest := ih hstep w₁
      rw [List.append_assoc, ← writtenBy_cons] at hrest
      exact hrest

/-- **Maps with an index are insertion-ordered lists of entries.**  After any history of calls the
map has the entries that the history has written, with their keys in the order of first insertion
and each with the value written last, and it goes on to answer as the list of these entries does. -/
theorem refines_entries (calls : List (MapCall κ α ε σ)) (w : σ) :
    let run := ((({} : IndexedMap κ α).performAll calls).run w).1
    let written := writtenBy calls run.1
    let entries := (OrderedMap.ofList written).toList
    entries.map Prod.fst = (written.map Prod.fst).eraseDups ∧
      (∀ e ∈ entries, written.reverse.find? (fun e' => e'.1 = e.1) = some e) ∧
      run.2.Refines entries := by
  intro run written entries
  have hempty : ({} : IndexedMap κ α).Represents (.ofList []) := .empty
  have h : run.2.Represents (.ofList written) := performAll_represents hempty calls w
  refine ⟨OrderedMap.keys_ofList written, fun e he => ?_, h.refines⟩
  have hfind := OrderedMap.find?_of_mem_entries h.nodup he
  rw [OrderedMap.find?_ofList, Option.map_eq_some_iff] at hfind
  obtain ⟨e', hlast, hvalue⟩ := hfind
  have hkey : e'.1 = e.1 := by simpa using List.find?_some hlast
  rw [hlast, Prod.ext hkey hvalue]

/-- A key is created at the second try, another one is overwritten, and a third is there already
when it is fetched.  Two values have been created in all, one of them in vain. -/
theorem refines_entries_of_second_try :
    let create (v : Nat) (e : Option String) : StateM Nat (Nat × Option String) :=
      fun count => ((v, e), count + 1)
    let calls : List (MapCall Nat Nat String Nat) :=
      [.store 2 7, .loadOrStore 5 (create 9 (some "no")), .store 1 3,
       .loadOrStore 5 (create 8 none), .store 2 4, .loadOrStore 1 (create 6 none), .entries 2]
    let run := (({} : IndexedMap Nat Nat).performAll calls).run 0
    run.1.2.Refines [(2, 4), (1, 3), (5, 8)] ∧ run.2 = 2 := by
  intro create calls run
  exact ⟨(refines_entries calls 0).2.2, rfl⟩

end IndexedMap

end CallSites
