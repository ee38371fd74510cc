import CallSites.Text.Basic
import Mathlib.Data.List.Lex
import Mathlib.Data.List.Sort
import Mathlib.Data.String.Basic

/-!
# What sorting names keeps

A sorted list of names has the same names as the list it is made from, in strictly increasing
order.  There is only one such list, so it depends on which names there are and on nothing else.

Names compare by code point.  The encoding as bytes keeps that order (`lt_iff_bytes_lt`): of two
characters the greater one has the longer code, or one of the same length, and a longer code has the
greater first byte.
-/

namespace CallSites

/-! ## The order of bytes -/

namespace Text

/-- A text as bytes. -/
def bytes (s : String) : List UInt8 := s.toUTF8.data.toList

lemma bytes_eq_flatMap (s : String) : bytes s = s.toList.flatMap String.utf8EncodeChar := by
  have hencode : s.toUTF8 = s.toList.utf8Encode := by
    rw [← String.toByteArray_ofList, String.ofList_toList]
    rfl
  rw [bytes, hencode, List.utf8Encode, List.toList_data_toByteArray]

lemma cons_ofNat_lt_cons_iff {a b : Nat} (ha : a < 256) (hb : b < 256) {l l' : List UInt8} :
    UInt8.ofNat a :: l < UInt8.ofNat b :: l' ↔ a < b ∨ a = b ∧ l < l' := by
  rw [List.cons_lt_cons_iff, UInt8.lt_iff_toNat_lt, ← UInt8.toNat_inj,
    UInt8.toNat_ofNat_of_lt' ha, UInt8.toNat_ofNat_of_lt' hb]

/-- The codes of different characters compare like the characters, whatever follows them. -/
lemma encode_append_lt {c d : Char} (h : c < d) (l l' : List UInt8) :
    String.utf8EncodeChar c ++ l < String.utf8EncodeChar d ++ l' := by
  have hlt : c.val.toNat < d.val.toNat := h
  have hmax : d.val.toNat < 0x110000 := by
    rcases d.valid with hlow | hhigh
    · exact lt_trans hlow (by decide)
    · exact hhigh.2
  unfold String.utf8EncodeChar
  generalize c.val.toNat = m at hlt ⊢
  generalize d.val.toNat = n at hlt hmax ⊢
  -- all bytes but the first hold six bits each
  have hbits : ∀ n : Nat, n / 4096 = n / 64 / 64 ∧ n / 262144 = n / 64 / 64 / 64 := by omega
  simp only [hbits]
  split_ifs
  all_goals
    simp only [List.cons_append, List.nil_append]
    repeat rw [cons_ofNat_lt_cons_iff (by omega) (by omega)]
    omega

lemma flatMap_encode_lt {cs ds : List Char} (h : cs < ds) :
    cs.flatMap String.utf8EncodeChar < ds.flatMap String.utf8EncodeChar := by
  induction h with
  | @nil d ds =>
      obtain ⟨b, bs, hd⟩ := List.exists_cons_of_ne_nil (String.utf8EncodeChar_ne_nil (c := d))
      rw [List.flatMap_nil, List.flatMap_cons, hd]
      exact List.nil_lt_cons _ _
  | rel h =>
      rw [List.flatMap_cons, List.flatMap_cons]
      exact encode_append_lt h _ _
  | cons _ ih =>
      rw [List.flatMap_cons, List.flatMap_cons]
      exact List.append_left_lt ih

/-- **The order of texts is that of their bytes.** -/
theorem lt_iff_bytes_lt {s t : String} : s < t ↔ bytes s < bytes t := by
  have hmono : ∀ {s t : String}, s < t → bytes s < bytes t := by
    intro s t h
    rw [bytes_eq_flatMap, bytes_eq_flatMap]
    exact flatMap_encode_lt (String.lt_iff_toList_lt.mp h)
  refine ⟨hmono, fun h => ?_⟩
  rcases lt_trichotomy s t with hlt | rfl | hgt
  · exact hlt
  · exact absurd h (List.lt_irrefl _)
  · exact absurd h (List.lt_asymm (hmono hgt))

end Text

/-! ## Sorted lists -/

variable {s x : String} {l l' : List String}

lemma mem_insertName : x ∈ insertName s l ↔ x = s ∨ x ∈ l := by
  induction l with
  | nil => simp [insertName]
  | cons t rest ih =>
      rw [insertName]
      split_ifs with hlt heq
      · simp
      · simp [heq]
      · rw [List.mem_cons, List.mem_cons, ih]
        exact or_left_comm

lemma pairwise_insertName (h : l.Pairwise (· < ·)) : (insertName s l).Pairwise (· < ·) := by
  induction l with
  | nil => simp [insertName]
  | cons t rest ih =>
      obtain ⟨hhead, hrest⟩ := List.pairwise_cons.mp h
      rw [insertName]
      split_ifs with hlt heq
      · refine List.pairwise_cons.mpr ⟨fun y hy => ?_, h⟩
        rcases List.mem_cons.mp hy with rfl | hy
        · exact hlt
        · exact hlt.trans (hhead y hy)
      · exact h
      · refine List.pairwise_cons.mpr ⟨fun y hy => ?_, ih hrest⟩
        rcases mem_insertName.mp hy with rfl | hy
        · exact lt_of_le_of_ne (not_lt.mp hlt) (Ne.symm heq)
        · exact hhead y hy

lemma mem_sortedNames : x ∈ sortedNames l ↔ x ∈ l := by
  induction l with
  | nil => rfl
  | cons t rest ih =>
      rw [List.mem_cons, ← ih]
      exact mem_insertName

lemma pairwise_sortedNames (l : List String) : (sortedNames l).Pairwise (· < ·) := by
  induction l with
  | nil => exact .nil
  | cons t rest ih => exact pairwise_insertName ih

/-- The sorted list depends on which names there are and on nothing else. -/
theorem sortedNames_eq_of_mem_iff (h : ∀ x, x ∈ l ↔ x ∈ l') : sortedNames l = sortedNames l' := by
  refine (pairwise_sortedNames l).eq_of_mem_iff (pairwise_sortedNames l') fun x => ?_
  rw [mem_sortedNames, mem_sortedNames]
  exact h x

/-- Names that are all different are all kept. -/
lemma sortedNames_perm (h : l.Nodup) : (sortedNames l).Perm l := by
  have hnodup : (sortedNames l).Nodup := (pairwise_sortedNames l).imp ne_of_lt
  exact (List.perm_ext_iff_of_nodup hnodup h).mpr fun x => mem_sortedNames

lemma pairwise_bytes_sortedNames (l : List String) :
    (sortedNames l).Pairwise fun s t => Text.bytes s < Text.bytes t :=
  (pairwise_sortedNames l).imp Text.lt_iff_bytes_lt.mp

end CallSites
