import CallSites.Data.OrderedMap
import Mathlib.Data.List.Basic
import Mathlib.Data.List.Induction
import Mathlib.Data.List.Nodup
import Mathlib.Tactic.Lemma

/-!
# Look-up in insertion-ordered maps

A map is read in three ways: by key, by position, and through the list of all its values.  Writing
and erasing change what is found under one key and nothing else, whatever the map looks like.  A key
that is new gets the position after all others and a key that is present keeps its own, so the keys
of a map that has been written from scratch are the first occurrences among those written.

Where the values are lists, writing a longer list in the place of what was there adds the new items
to those of all the lists together.
-/

namespace CallSites

/-! ## First occurrences -/

lemma eraseDups_concat {α : Type*} [DecidableEq α] (l : List α) (a : α) :
    (l ++ [a]).eraseDups = if a ∈ l then l.eraseDups else l.eraseDups ++ [a] := by
  rw [List.eraseDups_append]
  by_cases h : a ∈ l
  · simp [List.removeAll, h]
  · simp [List.removeAll, h, List.eraseDups_cons]

lemma nodup_eraseDups {α : Type*} [DecidableEq α] (l : List α) : l.eraseDups.Nodup := by
  induction l using List.reverseRecOn with
  | nil => exact List.nodup_nil
  | append_singleton l a ih =>
      rw [eraseDups_concat]
      split
      · exact ih
      · next ha =>
          rw [← List.concat_eq_append]
          exact ih.concat (by rwa [List.mem_eraseDups])

namespace OrderedMap

universe u v

variable {κ : Type u} {α : Type v} [DecidableEq κ]

/-! ## By key -/

@[simp] lemma find?_empty (k : κ) : (∅ : OrderedMap κ α).find? k = none := rfl

@[simp] lemma getD_empty (k : κ) (d : α) : (∅ : OrderedMap κ α).getD k d = d := rfl

lemma findEntry_insertEntry (k k' : κ) (v : α) (es : List (κ × α)) :
    findEntry k' (insertEntry k v es) = if k = k' then some v else findEntry k' es := by
  induction es with
  | nil => rfl
  | cons e es ih =>
      obtain ⟨j, x⟩ := e
      by_cases hj : j = k
      · subst hj
        by_cases hk : j = k' <;> simp [insertEntry, findEntry, hk]
      · by_cases hk : j = k'
        · have hkk : ¬ k = k' := fun h => hj (hk.trans h.symm)
          simp [insertEntry, findEntry, hk, hkk, Ne.symm hkk]
        · simp [insertEntry, findEntry, hj, hk, ih]

lemma find?_insert (m : OrderedMap κ α) (k k' : κ) (v : α) :
    (m.insert k v).find? k' = if k = k' then some v else m.find? k' :=
  findEntry_insertEntry k k' v m.entries

@[simp] lemma find?_insert_self (m : OrderedMap κ α) (k : κ) (v : α) :
    (m.insert k v).find? k = some v := by
  rw [find?_insert, if_pos rfl]

lemma find?_insert_of_ne (m : OrderedMap κ α) {k k' : κ} (v : α) (h : k ≠ k') :
    (m.insert k v).find? k' = m.find? k' := by
  rw [find?_insert, if_neg h]

lemma findEntry_eq_find? (k : κ) :
    ∀ es : List (κ × α), findEntry k es = (es.find? fun e => e.1 = k).map Prod.snd
  | [] => rfl
  | (j, x) :: es => by
      rw [findEntry, List.find?_cons, findEntry_eq_find? k es]
      by_cases hj : j = k <;> simp [hj]

/-- Writing to a key that had no value leaves every value in place. -/
lemma find?_insert_of_find?_eq_some {m : OrderedMap κ α} {k k' : κ} {v x : α}
    (hk : m.find? k = none) (h : m.find? k' = some x) : (m.insert k v).find? k' = some x := by
  rw [find?_insert_of_ne, h]
  rintro rfl
  rw [hk] at h
  cases h

lemma insertEntry_insertEntry_self (k : κ) (v v' : α) :
    ∀ es : List (κ × α), insertEntry k v' (insertEntry k v es) = insertEntry k v' es
  | [] => by simp [insertEntry]
  | (j, x) :: es => by
      by_cases hj : j = k
      · simp [insertEntry, hj]
      · simp only [insertEntry, if_neg hj, insertEntry_insertEntry_self k v v' es]

/-- The last of two values written to one key remains. -/
@[simp] lemma insert_insert_self (m : OrderedMap κ α) (k : κ) (v v' : α) :
    (m.insert k v).insert k v' = m.insert k v' :=
  congrArg OrderedMap.mk (insertEntry_insertEntry_self k v v' m.entries)

@[simp] lemma getD_insert_self (m : OrderedMap κ α) (k : κ) (v d : α) :
    (m.insert k v).getD k d = v := by
  rw [getD, find?_insert_self, Option.getD_some]

lemma getD_insert_of_ne (m : OrderedMap κ α) {k k' : κ} (v d : α) (h : k ≠ k') :
    (m.insert k v).getD k' d = m.getD k' d := by
  rw [getD, find?_insert_of_ne m v h, getD]

lemma getD_insert (m : OrderedMap κ α) (k k' : κ) (v d : α) :
    (m.insert k v).getD k' d = if k = k' then v else m.getD k' d := by
  by_cases h : k = k'
  · subst h
    simp
  · rw [getD_insert_of_ne m v d h, if_neg h]

lemma getD_of_find?_eq_none {m : OrderedMap κ α} {k : κ} (d : α) (h : m.find? k = none) :
    m.getD k d = d := by
  rw [getD, h, Option.getD_none]

lemma findEntry_filter_ne (k k' : κ) :
    ∀ es : List (κ × α), findEntry k' (es.filter fun e => e.1 ≠ k) =
      if k = k' then none else findEntry k' es
  | [] => by simp [findEntry]
  | (j, x) :: es => by
      by_cases hj : j = k
      · subst hj
        rw [List.filter_cons_of_neg (by simp), findEntry_filter_ne j k' es, findEntry]
        split <;> rfl
      · rw [List.filter_cons_of_pos (by simp [hj]), findEntry, findEntry,
          findEntry_filter_ne k k' es]
        by_cases hk : k = k'
        · have hjk : j ≠ k' := fun heq => hj (heq.trans hk.symm)
          rw [if_neg hjk, if_pos hk, if_pos hk]
        · rw [if_neg hk, if_neg hk]

lemma find?_erase (m : OrderedMap κ α) (k k' : κ) :
    (m.erase k).find? k' = if k = k' then none else m.find? k' :=
  findEntry_filter_ne k k' m.entries

section Fold

variable {β : Type*} (key : β → κ) (value : β → α)

/-- What is found after writing entries one after the other was there before or is one of the
entries written. -/
lemma find?_foldl_insert {es : List β} {m : OrderedMap κ α} {k : κ} {v : α}
    (h : (es.foldl (fun m e => m.insert (key e) (value e)) m).find? k = some v) :
    m.find? k = some v ∨ ∃ e ∈ es, key e = k ∧ value e = v := by
  induction es generalizing m with
  | nil => exact .inl h
  | cons e es ih =>
      rcases ih h with hm | ⟨e', he', hk⟩
      · rw [find?_insert] at hm
        split at hm
        · next hke =>
            cases hm
            exact .inr ⟨e, by simp, hke, rfl⟩
        · exact .inl hm
      · exact .inr ⟨e', by simp [he'], hk⟩

/-- A key that is written has a value afterwards. -/
lemma exists_find?_foldl_insert {es : List β} {m : OrderedMap κ α} {k : κ}
    (h : (∃ e ∈ es, key e = k) ∨ ∃ v, m.find? k = some v) :
    ∃ v, (es.foldl (fun m e => m.insert (key e) (value e)) m).find? k = some v := by
  induction es generalizing m with
  | nil =>
      rcases h with ⟨e, he, -⟩ | hm
      · cases he
      · exact hm
  | cons e es ih =>
      rw [List.foldl_cons]
      refine ih ?_
      by_cases hke : key e = k
      · exact .inr ⟨value e, by rw [hke, find?_insert_self]⟩
      · rcases h with ⟨e', he', hk⟩ | ⟨v, hv⟩
        · rcases List.mem_cons.mp he' with rfl | he'
          · exact absurd hk hke
          · exact .inl ⟨e', he', hk⟩
        · exact .inr ⟨v, by rw [find?_insert_of_ne _ _ hke, hv]⟩

end Fold

lemma ofList_concat (es : List (κ × α)) (e : κ × α) :
    ofList (es ++ [e]) = (ofList es).insert e.1 e.2 := by
  rw [ofList, List.foldl_append]
  rfl

/-- The last entry for a key is the one that counts. -/
lemma find?_ofList (es : List (κ × α)) (k : κ) :
    (ofList es).find? k = (es.reverse.find? fun e => e.1 = k).map Prod.snd := by
  induction es using List.reverseRecOn with
  | nil => rfl
  | append_singleton es e ih =>
      rw [ofList_concat, find?_insert, ih, List.reverse_append, List.reverse_singleton,
        List.singleton_append, List.find?_cons]
      by_cases he : e.1 = k <;> simp [he]

/-! ## By position -/

lemma mem_entries_of_findEntry {k : κ} {v : α} :
    ∀ {es : List (κ × α)}, findEntry k es = some v → (k, v) ∈ es
  | [], h => by simp [findEntry] at h
  | (j, x) :: es, h => by
      rw [findEntry] at h
      split at h
      · next hj =>
          cases h
          simp [hj]
      · exact List.mem_cons_of_mem _ (mem_entries_of_findEntry h)

/-- What is found under a key stands at some position with that key. -/
lemma exists_getElem?_of_find? {m : OrderedMap κ α} {k : κ} {v : α} (h : m.find? k = some v) :
    ∃ n : Nat, m.entries[n]? = some (k, v) :=
  List.getElem?_of_mem (mem_entries_of_findEntry h)

lemma insertEntry_of_findEntry_eq_none {k : κ} {v : α} :
    ∀ {es : List (κ × α)}, findEntry k es = none → insertEntry k v es = es ++ [(k, v)]
  | [], _ => rfl
  | (j, x) :: es, h => by
      rw [findEntry] at h
      split at h
      · cases h
      · next hj =>
          rw [insertEntry, if_neg hj, insertEntry_of_findEntry_eq_none h, List.cons_append]

/-- A new key comes last. -/
lemma entries_insert_of_find?_eq_none {m : OrderedMap κ α} {k : κ} (v : α) (h : m.find? k = none) :
    (m.insert k v).entries = m.entries ++ [(k, v)] :=
  insertEntry_of_findEntry_eq_none h

lemma findEntry_eq_none_iff {k : κ} :
    ∀ {es : List (κ × α)}, findEntry k es = none ↔ k ∉ es.map Prod.fst
  | [] => by simp [findEntry]
  | (j, x) :: es => by
      rw [findEntry, List.map_cons, List.mem_cons, not_or]
      by_cases hj : j = k
      · simp [hj]
      · rw [if_neg hj, findEntry_eq_none_iff]
        exact ⟨fun h => ⟨Ne.symm hj, h⟩, And.right⟩

lemma find?_eq_none_iff {m : OrderedMap κ α} {k : κ} : m.find? k = none ↔ k ∉ m.keys :=
  findEntry_eq_none_iff

/-- Every entry is under a key of the map. -/
lemma filter_not_contains (m : OrderedMap κ α) :
    (m.entries.filter fun e => !m.contains e.1) = [] := by
  rw [List.filter_eq_nil_iff]
  intro e he hnot
  have hnone : m.find? e.1 = none := by simpa [contains] using hnot
  exact find?_eq_none_iff.mp hnone (List.mem_map.mpr ⟨e, he, rfl⟩)

lemma keys_insert_of_find?_eq_none {m : OrderedMap κ α} {k : κ} (v : α) (h : m.find? k = none) :
    (m.insert k v).keys = m.keys ++ [k] := by
  rw [keys, entries_insert_of_find?_eq_none v h, List.map_append]
  rfl

lemma keys_insertEntry (k : κ) (v : α) :
    ∀ es : List (κ × α), (insertEntry k v es).map Prod.fst =
      if k ∈ es.map Prod.fst then es.map Prod.fst else es.map Prod.fst ++ [k]
  | [] => rfl
  | (j, x) :: es => by
      by_cases hj : j = k
      · simp [insertEntry, hj]
      · rw [insertEntry, if_neg hj, List.map_cons, keys_insertEntry k v es]
        by_cases hk : k ∈ es.map Prod.fst <;> simp [hk, Ne.symm hj]

/-- A key that is present keeps its position. -/
lemma keys_insert (m : OrderedMap κ α) (k : κ) (v : α) :
    (m.insert k v).keys = if k ∈ m.keys then m.keys else m.keys ++ [k] :=
  keys_insertEntry k v m.entries

/-- Keys come in the order of their first entries. -/
lemma keys_ofList (es : List (κ × α)) : (ofList es).keys = (es.map Prod.fst).eraseDups := by
  induction es using List.reverseRecOn with
  | nil => rfl
  | append_singleton es e ih =>
      rw [ofList_concat, keys_insert, ih, List.map_append, List.map_singleton, eraseDups_concat]
      simp only [List.mem_eraseDups]

/-- In a map without repeated keys every entry is found. -/
lemma find?_of_mem_entries {m : OrderedMap κ α} {k : κ} {v : α} (hnodup : m.keys.Nodup)
    (h : (k, v) ∈ m.entries) : m.find? k = some v := by
  obtain ⟨entries⟩ := m
  unfold OrderedMap.keys at hnodup
  unfold OrderedMap.find?
  simp only at h hnodup ⊢
  induction entries with
  | nil => cases h
  | cons e es ih =>
      obtain ⟨j, x⟩ := e
      rw [List.map_cons, List.nodup_cons] at hnodup
      rw [findEntry]
      rcases List.mem_cons.mp h with heq | h
      · cases heq
        rw [if_pos rfl]
      · have hne : j ≠ k := by
          rintro rfl
          exact hnodup.1 (List.mem_map.mpr ⟨(j, v), h, rfl⟩)
        rw [if_neg hne]
        exact ih hnodup.2 h

/-- Without repeated keys the entries are the keys, each with what is found under it. -/
lemma entries_eq_map_keys [Inhabited α] {m : OrderedMap κ α} (hnodup : m.keys.Nodup) :
    m.entries = m.keys.map fun k => (k, (m.find? k).getD default) := by
  rw [keys, List.map_map]
  refine (List.map_id _).symm.trans (List.map_congr_left fun e he => ?_)
  rw [Function.comp_apply, find?_of_mem_entries hnodup he]
  rfl

lemma insertEntry_of_mem {k : κ} {v : α} :
    ∀ {es : List (κ × α)}, (es.map Prod.fst).Nodup → k ∈ es.map Prod.fst →
      insertEntry k v es = es.map fun e => if e.1 = k then (k, v) else e
  | [], _, hk => by cases hk
  | (j, x) :: es, hnodup, hk => by
      rw [List.map_cons, List.nodup_cons] at hnodup
      rw [insertEntry, List.map_cons]
      by_cases hj : j = k
      · -- there is no other entry for the key
        have hrest : ∀ e ∈ es, (if e.1 = k then (k, v) else e) = e := fun e he =>
          if_neg fun heq => hnodup.1 (List.mem_map.mpr ⟨e, he, heq.trans hj.symm⟩)
        rw [if_pos hj, if_pos hj, List.map_congr_left hrest, List.map_id']
      · have hk' : k ∈ es.map Prod.fst := (List.mem_cons.mp hk).resolve_left (Ne.symm hj)
        rw [if_neg hj, if_neg hj, insertEntry_of_mem hnodup.2 hk']

/-- Writing to a key that is present changes its entry in place. -/
lemma entries_insert_of_mem {m : OrderedMap κ α} (hnodup : m.keys.Nodup) {k : κ} (v : α)
    (hk : k ∈ m.keys) :
    (m.insert k v).entries = m.entries.map fun e => if e.1 = k then (k, v) else e :=
  insertEntry_of_mem hnodup hk

/-! ## All values -/

lemma mem_values_of_find? {m : OrderedMap κ α} {k : κ} {v : α} (h : m.find? k = some v) :
    v ∈ m.values :=
  List.mem_map.mpr ⟨(k, v), mem_entries_of_findEntry h, rfl⟩

lemma flatten_insertEntry_append (k : κ) (a : α) :
    ∀ es : List (κ × List α),
      ((insertEntry k ((findEntry k es).getD [] ++ [a]) es).map Prod.snd).flatten.Perm
        ((es.map Prod.snd).flatten ++ [a])
  | [] => by simp [insertEntry, findEntry]
  | (j, x) :: es => by
      by_cases hj : j = k
      · simp only [insertEntry, findEntry, hj, if_true, Option.getD_some, List.map_cons,
          List.flatten_cons, List.append_assoc]
        exact (List.perm_append_comm).append_left x
      · simp only [insertEntry, findEntry, hj, if_false, List.map_cons, List.flatten_cons,
          List.append_assoc]
        exact (flatten_insertEntry_append k a es).append_left x

/-- Lengthening the list of one key by an item adds that item to the items of all lists. -/
lemma flatten_values_insert_append (m : OrderedMap κ (List α)) (k : κ) (a : α) :
    (m.insert k (m.getD k [] ++ [a])).values.flatten.Perm (m.values.flatten ++ [a]) :=
  flatten_insertEntry_append k a m.entries

end OrderedMap

end CallSites
