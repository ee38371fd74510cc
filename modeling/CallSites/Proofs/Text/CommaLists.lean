import CallSites.Text.Basic
import Mathlib.Data.List.DropRight
import Mathlib.Tactic.Lemma

/-!
# Comma-separated lists can be read back

The values of a repeated option are cut at their commas, trimmed and freed of empty parts.  A comma
between two values has the same effect as giving them one after the other
(`commaParts_append_comma`), so a list that is collected from any values could have come from one
value.  What is collected are names (`IsListed`), and a name is the only part of itself.  The text
of a list is therefore read back as the same list.
-/

namespace CallSites.Text

/-! ## Cutting -/

lemma splitChars_eq_splitOn (sep : Char) : ∀ cs, splitChars sep cs = cs.splitOn sep
  | [] => rfl
  | c :: cs => by
      rw [splitChars, splitChars_eq_splitOn sep cs, List.splitOn_cons_eq_if_modifyHead]
      rcases hparts : cs.splitOn sep with _ | ⟨part, parts⟩
      · exact absurd hparts (List.splitOn_ne_nil sep cs)
      · rfl

/-- No part holds the character at which it has been cut. -/
lemma notMem_of_mem_splitOn {sep : Char} :
    ∀ {cs part : List Char}, part ∈ cs.splitOn sep → sep ∉ part
  | [], part, h => by
      rw [List.mem_singleton.mp h]
      exact List.not_mem_nil
  | c :: cs, part, h => by
      rw [List.splitOn_cons_eq_if_modifyHead] at h
      split at h
      · rcases List.mem_cons.mp h with rfl | h
        · exact List.not_mem_nil
        · exact notMem_of_mem_splitOn h
      · next hc =>
          obtain ⟨first, parts, hparts⟩ := List.exists_cons_of_ne_nil (List.splitOn_ne_nil sep cs)
          rw [hparts, List.modifyHead_cons] at h
          rcases List.mem_cons.mp h with rfl | h
          · have hfirst : sep ∉ first := notMem_of_mem_splitOn (hparts ▸ List.mem_cons_self)
            intro hmem
            rcases List.mem_cons.mp hmem with rfl | hmem
            · exact hc (beq_self_eq_true _)
            · exact hfirst hmem
          · exact notMem_of_mem_splitOn (hparts ▸ List.mem_cons_of_mem _ h)

/-! ## Trimming -/

lemma trimChars_eq (cs : List Char) :
    trimChars cs = (cs.dropWhile isBlank).rdropWhile isBlank := rfl

lemma trimChars_subset (cs : List Char) : trimChars cs ⊆ cs :=
  List.Subset.trans (List.rdropWhile_prefix isBlank _).subset (List.dropWhile_suffix isBlank).subset

/-- Nothing is left to trim. -/
lemma trimChars_trimChars (cs : List Char) : trimChars (trimChars cs) = trimChars cs := by
  have hstart : (trimChars cs).dropWhile isBlank = trimChars cs := by
    rw [List.dropWhile_eq_self_iff]
    intro hpos
    -- the first character is that of the text without the blanks in front
    have hle : (trimChars cs) <+: cs.dropWhile isBlank := List.rdropWhile_prefix isBlank _
    rw [hle.getElem hpos]
    exact List.dropWhile_get_zero_not isBlank cs (hpos.trans_le hle.length_le)
  rw [trimChars_eq (trimChars cs), hstart]
  exact List.rdropWhile_idempotent _ _

lemma trim_trim (s : String) : trim (trim s) = trim s := by
  rw [trim, trim, String.toList_ofList, trimChars_trimChars]

/-! ## The parts of a value -/

/-- The text can be an item of a list: it is not empty, it holds no comma, and nothing is left to
trim. -/
def IsListed (s : String) : Prop := s ≠ "" ∧ ',' ∉ s.toList ∧ trim s = s

lemma isListed_of_mem_commaParts {value s : String} (h : s ∈ commaParts value) : IsListed s := by
  obtain ⟨hs, hne⟩ := List.mem_filter.mp h
  obtain ⟨part, hpart, rfl⟩ := List.mem_map.mp hs
  obtain ⟨cs, hcs, rfl⟩ := List.mem_map.mp hpart
  rw [splitChars_eq_splitOn] at hcs
  refine ⟨of_decide_eq_true hne, fun hcomma => ?_, trim_trim _⟩
  rw [trim, String.toList_ofList, String.toList_ofList] at hcomma
  exact notMem_of_mem_splitOn hcs (trimChars_subset cs hcomma)

/-- An item of a list is the only part of itself. -/
lemma commaParts_of_isListed {s : String} (h : IsListed s) : commaParts s = [s] := by
  obtain ⟨hne, hcomma, htrim⟩ := h
  rw [commaParts, split, splitChars_eq_splitOn, List.splitOn_eq_singleton hcomma]
  simp [htrim, hne]

/-- **A comma between two values** is as good as giving them one after the other. -/
lemma commaParts_append_comma (s t : String) :
    commaParts (s ++ "," ++ t) = commaParts s ++ commaParts t := by
  have hchars : (s ++ "," ++ t).toList = s.toList ++ ',' :: t.toList := by simp
  rw [commaParts, commaParts, commaParts, split, split, split, hchars, splitChars_eq_splitOn,
    splitChars_eq_splitOn, splitChars_eq_splitOn, List.splitOn_append_cons_self, List.map_append,
    List.map_append, List.filter_append]

lemma commaParts_join : ∀ values : List String,
    commaParts (join "," values) = values.flatMap commaParts
  | [] => by simp [join, joinWith, commaParts, split, splitChars, trim, trimChars]
  | [v] => by rw [List.flatMap_singleton]; rfl
  | v :: w :: rest => by
      rw [List.flatMap_cons, ← commaParts_join (w :: rest), ← commaParts_append_comma]
      rfl

/-! ## Lists -/

namespace CommaList

/-- The list that is collected from values, first to last. -/
def ofValues (values : List String) : CommaList := values.foldl set {}

lemma items_foldl_set (values : List String) (l : CommaList) :
    (values.foldl set l).items = l.items ++ values.flatMap commaParts := by
  induction values generalizing l with
  | nil => simp
  | cons v vs ih => rw [List.foldl_cons, ih, set, List.append_assoc, List.flatMap_cons]

lemma items_ofValues (values : List String) : (ofValues values).items = values.flatMap commaParts :=
  items_foldl_set values {}

lemma isListed_of_mem_ofValues {values : List String} {s : String}
    (h : s ∈ (ofValues values).items) : IsListed s := by
  rw [items_ofValues, List.mem_flatMap] at h
  obtain ⟨v, -, hs⟩ := h
  exact isListed_of_mem_commaParts hs

/-- A list of names is read back from its text. -/
lemma set_text {l : CommaList} (h : ∀ s ∈ l.items, IsListed s) :
    ({} : CommaList).set l.text = l := by
  have hparts : l.items.flatMap commaParts = l.items :=
    (List.flatMap_congr fun s hs => commaParts_of_isListed (h s hs)).trans
      (List.flatMap_singleton' l.items)
  rw [set, text, commaParts_join, hparts, List.nil_append]

/-- **Comma-separated lists can be read back.**  A list that is collected from any values has items
that are not empty, hold no comma and need no trimming.  It comes from one value, the values with
commas between them; one more value only lengthens it; and its text is read back as the same list,
so no other list has that text. -/
theorem ofValues_round_trip (values : List String) :
    let l := ofValues values
    (∀ s ∈ l.items, s ≠ "" ∧ ',' ∉ s.toList ∧ trim s = s) ∧
      l = ({} : CommaList).set (join "," values) ∧
      (∀ value, (l.set value).items = l.items ++ (({} : CommaList).set value).items) ∧
      ({} : CommaList).set l.text = l ∧
      ∀ values', (ofValues values').text = l.text → ofValues values' = l := by
  intro l
  have hback : ∀ values, ({} : CommaList).set (ofValues values).text = ofValues values :=
    fun values => set_text fun s hs => isListed_of_mem_ofValues hs
  refine ⟨fun s hs => isListed_of_mem_ofValues hs, ?_, fun value => rfl, hback values, ?_⟩
  · rw [set, commaParts_join, List.nil_append, ← items_ofValues]
  · intro values' htext
    rw [← hback values', htext]
    exact hback values

/-- Values with commas at both ends and side by side, and with parts that are blank in several
ways. -/
theorem ofValues_round_trip_of_blanks :
    let values := [", a ,\u3000,b\tc", "", "\u00a0d,"]
    (ofValues values).items = ["a", "b\tc", "d"] ∧ (ofValues values).text = "a,b\tc,d" ∧
      ({} : CommaList).set (ofValues values).text = ofValues values := by
  intro values
  exact ⟨by decide +kernel, by decide +kernel, (ofValues_round_trip values).2.2.2.1⟩

end CommaList

end CallSites.Text
