import CallSites.Text.Basic
import Mathlib.Algebra.Group.Nat.Defs
import Mathlib.Data.List.Induction
import Mathlib.Data.List.Nodup
import Mathlib.Data.List.TakeWhile
import Mathlib.Tactic.IntervalCases
import Mathlib.Tactic.Lemma

/-!
# When generated names are different

The names of a sequence end in numbers that are all different, but the number is written right after
a separator and a root that may be any text.  A name tells its number only if it can be seen where
the digits of the number begin.

A character of the separator that is no digit is enough for that.  What follows the last such
character of a name is always the same end of the separator and then the number, whatever the root
is (`takeWhile_isDigit_nameAt`).

With a separator of nothing but digits, two names are equal only if some number can be written
behind the separator so that the result ends in the separator again (`exists_overlap`).  Each such
number gives a collision, with ten times itself as the count (`nameAt_zero_eq`), so what matters is
whether one is small enough for the count to come that far.  `1` followed by the separator always is
such a number, and of a separator of up to seventeen digits it is small enough.  The number may also
be shorter than the separator and then is an end of it (`Overlaps`), so for a longer separator
eighteen ends have to be looked at.
-/

namespace CallSites.Text

/-- Items that tell their positions are all different. -/
lemma nodup_map_zipIdx {α β : Type*} (g : α → Nat → β) (l : List α) (k : Nat)
    (hg : ∀ a b m n, m < k + l.length → n < k + l.length → g a m = g b n → m = n) :
    ((l.zipIdx k).map fun e => g e.1 e.2).Nodup := by
  have hnumbers : ((l.zipIdx k).map Prod.snd).Nodup := by
    rw [List.zipIdx_map_snd]
    exact List.nodup_range'
  rw [List.Nodup, List.pairwise_map] at hnumbers ⊢
  refine hnumbers.imp_of_mem fun {e e'} he he' hne heq => hne ?_
  exact hg _ _ _ _ (List.mem_zipIdx he).2.1 (List.mem_zipIdx he').2.1 heq

/-! ## Numbers written in digits -/

lemma toDigits_inj {m n : Nat} (h : Nat.toDigits 10 m = Nat.toDigits 10 n) : m = n := by
  rw [← Nat.ofDigitChars_ten_toDigits (n := m), h, Nat.ofDigitChars_ten_toDigits]

lemma toList_toString (n : Nat) : (toString n).toList = Nat.toDigits 10 n := by
  rw [Nat.toString_eq_ofList_toDigits, String.toList_ofList]

/-- A digit is the way a number is written. -/
lemma toDigits_of_isDigit {c : Char} (hc : c.isDigit = true) :
    c.toNat - '0'.toNat < 10 ∧ Nat.toDigits 10 (c.toNat - '0'.toNat) = [c] := by
  have hzero : '0'.toNat = 48 := rfl
  have hnine : '9'.toNat = 57 := rfl
  obtain ⟨hlow, hhigh⟩ := Char.isDigit_iff_toNat.mp hc
  have hlt : c.toNat - '0'.toNat < 10 := by omega
  refine ⟨hlt, ?_⟩
  rw [Nat.toDigits_of_lt_base hlt, List.singleton_inj, ← Char.toNat_inj,
    Nat.toNat_digitChar_of_lt_ten hlt]
  omega

/-- Digits behind a positive number make another number. -/
lemma toDigits_append {n : Nat} (hn : 0 < n) {ds : List Char} (hds : ∀ c ∈ ds, c.isDigit = true) :
    Nat.toDigits 10 n ++ ds = Nat.toDigits 10 (Nat.ofDigitChars 10 ds n) := by
  induction ds generalizing n with
  | nil => rw [List.append_nil, Nat.ofDigitChars_nil]
  | cons c ds ih =>
      rw [List.forall_mem_cons] at hds
      obtain ⟨hlt, hc⟩ := toDigits_of_isDigit hds.1
      have hnext : Nat.toDigits 10 n ++ [c] = Nat.toDigits 10 (10 * n + (c.toNat - '0'.toNat)) := by
        rw [← Nat.toDigits_append_toDigits (by decide) hn hlt, hc]
      rw [Nat.ofDigitChars_cons, ← ih (by omega) hds.2, ← hnext, List.append_assoc,
        List.singleton_append]

/-- Digits that do not begin with `0` are the way their number is written. -/
lemma toDigits_ofDigitChars {c : Char} {ds : List Char} (hds : ∀ d ∈ c :: ds, d.isDigit = true)
    (hc : c ≠ '0') :
    0 < Nat.ofDigitChars 10 (c :: ds) 0 ∧
      Nat.toDigits 10 (Nat.ofDigitChars 10 (c :: ds) 0) = c :: ds := by
  rw [List.forall_mem_cons] at hds
  obtain ⟨-, hdigit⟩ := toDigits_of_isDigit hds.1
  have hpos : 0 < c.toNat - '0'.toNat := by
    rw [Nat.pos_iff_ne_zero]
    intro hzero
    rw [hzero, Nat.toDigits_zero, List.singleton_inj] at hdigit
    exact hc hdigit.symm
  have hnumber : Nat.toDigits 10 (Nat.ofDigitChars 10 (c :: ds) 0) = c :: ds := by
    rw [Nat.ofDigitChars_cons, Nat.mul_zero, Nat.zero_add, ← toDigits_append hpos hds.2, hdigit,
      List.singleton_append]
  refine ⟨Nat.pos_iff_ne_zero.mpr fun hzero => ?_, hnumber⟩
  rw [hzero, Nat.toDigits_zero, List.cons.injEq] at hnumber
  exact hc hnumber.1.symm

/-- A positive number does not begin with `0`. -/
lemma head?_toDigits_ne {n : Nat} (hn : 0 < n) : (Nat.toDigits 10 n).head? ≠ some '0' := by
  induction n using Nat.strong_induction_on with
  | _ n ih =>
      by_cases hlt : n < 10
      · interval_cases n <;> decide
      · have hdiv : 0 < n / 10 := by omega
        rw [Nat.toDigits_of_base_le (by decide) (by omega),
          List.head?_append_of_ne_nil _ Nat.toDigits_ne_nil]
        exact ih _ (by omega) hdiv

/-- What is left of a number when digits at its end are dropped. -/
lemma exists_toDigits_of_append {n : Nat} {l ds : List Char} (h : l ++ ds = Nat.toDigits 10 n)
    (hl : l ≠ []) (hds : ds ≠ []) : ∃ w, 0 < w ∧ 10 * w ≤ n ∧ l = Nat.toDigits 10 w := by
  induction ds using List.reverseRecOn generalizing n with
  | nil => exact absurd rfl hds
  | append_singleton ds c ih =>
      have hle : 10 ≤ n := by
        by_contra hlt
        have hlength := congrArg List.length h
        rw [Nat.toDigits_of_lt_base (by omega)] at hlength
        have hpos := List.length_pos_of_ne_nil hl
        simp only [List.length_append, List.length_singleton] at hlength
        omega
      rw [Nat.toDigits_of_base_le (by decide) hle, ← List.append_assoc] at h
      have hdiv := (List.append_inj' h rfl).1
      by_cases hnil : ds = []
      · subst hnil
        exact ⟨n / 10, by omega, by omega, by rwa [List.append_nil] at hdiv⟩
      · obtain ⟨w, hpos, hw, hdigits⟩ := ih hdiv hnil
        exact ⟨w, hpos, by omega, hdigits⟩

lemma ofDigitChars_lt {ds : List Char} (hds : ∀ c ∈ ds, c.isDigit = true) (n : Nat) :
    Nat.ofDigitChars 10 ds n < (n + 1) * 10 ^ ds.length := by
  induction ds generalizing n with
  | nil => simp
  | cons c ds ih =>
      rw [List.forall_mem_cons] at hds
      have hlt := (toDigits_of_isDigit hds.1).1
      rw [Nat.ofDigitChars_cons, List.length_cons]
      calc Nat.ofDigitChars 10 ds (10 * n + (c.toNat - '0'.toNat))
          < (10 * n + (c.toNat - '0'.toNat) + 1) * 10 ^ ds.length := ih hds.2 _
        _ ≤ ((n + 1) * 10) * 10 ^ ds.length := Nat.mul_le_mul_right _ (by omega)
        _ = (n + 1) * 10 ^ (ds.length + 1) := by rw [Nat.mul_assoc, Nat.pow_succ']

namespace NameSequence

/-! ## The names of a sequence -/

variable (s : NameSequence)

/-- **A whole list of roots.**  The names are numbered in order from the count on, and each of them
is counted. -/
lemma names_eq (roots : List String) :
    s.names roots = ((roots.zipIdx s.count).map fun e => s.nameAt e.2 e.1,
      { s with count := s.count + roots.length }) := by
  induction roots generalizing s with
  | nil => rfl
  | cons root roots ih =>
      have hcount : s.count + 1 + roots.length = s.count + (roots.length + 1) := by omega
      simp only [names, next, ih, List.zipIdx_cons, List.map_cons, List.length_cons, hcount]
      rfl

lemma toList_nameAt (n : Nat) (root : String) :
    (s.nameAt n root).toList =
      s.lead.toList ++ root.toList ++ s.separator.toList ++ Nat.toDigits 10 n := by
  simp only [nameAt, String.toList_append, toList_toString]

/-! ## Separators that are not all digits -/

section NonDigit

variable {s} (hsep : ∃ c ∈ s.separator.toList, ¬ c.isDigit)

include hsep

/-- The digits at the end of a name are those at the end of the separator and those of the
number. -/
lemma takeWhile_isDigit_nameAt (n : Nat) (root : String) :
    (s.nameAt n root).toList.reverse.takeWhile Char.isDigit =
      (Nat.toDigits 10 n).reverse ++ s.separator.toList.reverse.takeWhile Char.isDigit := by
  have hdigits : ∀ c ∈ (Nat.toDigits 10 n).reverse, c.isDigit = true := fun c hc =>
    Nat.isDigit_of_mem_toDigits (by decide) (by decide) (List.mem_reverse.mp hc)
  -- reading from the end does not get past the separator
  have hstop : (s.separator.toList.reverse.takeWhile Char.isDigit).length ≠
      s.separator.toList.reverse.length := by
    intro hlength
    obtain ⟨c, hc, hnot⟩ := hsep
    have hall := List.takeWhile_eq_self_iff.mp ((List.takeWhile_prefix _).eq_of_length hlength)
    exact hnot (hall c (List.mem_reverse.mpr hc))
  rw [s.toList_nameAt, List.reverse_append, List.reverse_append,
    List.takeWhile_append_of_pos hdigits, List.takeWhile_append, if_neg hstop]

/-- The number can be read off a name. -/
lemma nameAt_inj {m n : Nat} {root root' : String} (h : s.nameAt m root = s.nameAt n root') :
    m = n := by
  have hends := takeWhile_isDigit_nameAt hsep m root
  rw [h, takeWhile_isDigit_nameAt hsep n root', List.append_left_inj, List.reverse_inj] at hends
  exact (toDigits_inj hends).symm

lemma nodup_names (roots : List String) : (s.names roots).1.Nodup := by
  rw [s.names_eq]
  exact nodup_map_zipIdx (fun root n => s.nameAt n root) roots _ fun _ _ _ _ _ _ => nameAt_inj hsep

end NonDigit

/-! ## Numbers behind the separator -/

section Overlap

variable {s}

/-- A name with two numbers: what the longer one has in front of the shorter one makes the separator
end in itself. -/
lemma exists_overlap {m n : Nat} {root root' : String} (h : s.nameAt m root = s.nameAt n root')
    (hlength : (Nat.toDigits 10 m).length ≤ (Nat.toDigits 10 n).length) (hne : m ≠ n) :
    ∃ w, 0 < w ∧ 10 * w ≤ n ∧ s.separator.toList <:+ s.separator.toList ++ Nat.toDigits 10 w := by
  have hlist : (s.nameAt m root).toList = (s.nameAt n root').toList := by rw [h]
  rw [s.toList_nameAt, s.toList_nameAt] at hlist
  obtain ⟨l, hl⟩ := List.suffix_of_suffix_length_le
    ⟨_, hlist⟩ (List.suffix_append _ (Nat.toDigits 10 n)) hlength
  have hnil : l ≠ [] := fun hnil => hne (toDigits_inj (by rw [← hl, hnil, List.nil_append]))
  obtain ⟨w, hpos, hw, rfl⟩ := exists_toDigits_of_append hl hnil Nat.toDigits_ne_nil
  refine ⟨w, hpos, hw, ?_⟩
  rw [← hl, ← List.append_assoc, List.append_left_inj] at hlist
  refine List.suffix_of_suffix_length_le ⟨_, hlist⟩ ?_ (by simp)
  exact ⟨s.lead.toList ++ root'.toList, by simp⟩

/-- Two numbers for one name. -/
lemma nameAt_zero_eq {w : Nat} (hpos : 0 < w) {l : List Char}
    (hl : l ++ s.separator.toList = s.separator.toList ++ Nat.toDigits 10 w) :
    s.nameAt 0 (String.ofList l) = s.nameAt (10 * w) "" := by
  have hdigits : Nat.toDigits 10 (10 * w) = Nat.toDigits 10 w ++ ['0'] :=
    (Nat.toDigits_append_toDigits (b := 10) (d := 0) (by decide) hpos (by decide)).symm
  rw [← String.toList_inj, s.toList_nameAt, s.toList_nameAt, hdigits, String.toList_ofList]
  simp [hl]

/-- From the start of a sequence, the first name comes up again. -/
lemma exists_collision (hstart : s.count = 0) {w : Nat} (hpos : 0 < w)
    (hw : s.separator.toList <:+ s.separator.toList ++ Nat.toDigits 10 w) :
    ∃ roots : List String, roots.length = 10 * w + 1 ∧ ¬ (s.names roots).1.Nodup := by
  obtain ⟨l, hl⟩ := hw
  have hlast : ("", 10 * w) ∈ (List.replicate (10 * w) "").zipIdx 1 := by
    rw [List.mk_mem_zipIdx_iff_le_and_getElem?_sub, List.getElem?_replicate, if_pos (by omega)]
    exact ⟨by omega, rfl⟩
  refine ⟨String.ofList l :: List.replicate (10 * w) "", by simp, ?_⟩
  rw [s.names_eq, hstart, List.zipIdx_cons, List.map_cons, List.nodup_cons, not_and_or, not_not,
    nameAt_zero_eq hpos hl]
  exact .inl (List.mem_map.mpr ⟨_, hlast, rfl⟩)

/-- Fewer names than the limit can collide just when there is such a number. -/
lemma exists_collision_iff (hstart : s.count = 0) :
    (∃ roots : List String, roots.length < limit ∧ ¬ (s.names roots).1.Nodup) ↔
      ∃ w, 0 < w ∧ 10 * w < limit ∧
        s.separator.toList <:+ s.separator.toList ++ Nat.toDigits 10 w := by
  constructor
  · rintro ⟨roots, hroots, hclash⟩
    by_contra hnone
    push Not at hnone
    refine hclash ?_
    rw [s.names_eq, hstart]
    refine nodup_map_zipIdx (fun root n => s.nameAt n root) roots 0 fun a b m n hm hn heq => ?_
    by_contra hne
    rcases Nat.le_total (Nat.toDigits 10 m).length (Nat.toDigits 10 n).length with hle | hle
    · obtain ⟨w, hpos, hw, hover⟩ := exists_overlap heq hle hne
      exact hnone w hpos (by omega) hover
    · obtain ⟨w, hpos, hw, hover⟩ := exists_overlap heq.symm hle (Ne.symm hne)
      exact hnone w hpos (by omega) hover
  · rintro ⟨w, hpos, hw, hover⟩
    obtain ⟨roots, hlength, hclash⟩ := exists_collision hstart hpos hover
    refine ⟨roots, ?_, hclash⟩
    rw [limit] at hw ⊢
    omega

end Overlap

/-! ## Separators of digits -/

/-- The last `d` digits of a separator are a number that makes the separator end in itself when it
is written behind it, and ten times the number is below the limit. -/
def Overlaps (separator : String) (d : Nat) : Prop :=
  let last := separator.toList.drop (separator.length - d)
  separator.toList.drop d <+: separator.toList ∧ last.head? ≠ some '0' ∧
    10 * Nat.ofDigitChars 10 last 0 < limit

instance (separator : String) (d : Nat) : Decidable (Overlaps separator d) :=
  inferInstanceAs (Decidable (_ ∧ _ ∧ _))

/-- What is not longer than the text it stands behind makes the text end in itself just when it is
an end of the text and the text is repeated after its length. -/
lemma suffix_append_iff {sep last : List Char} (hlength : last.length ≤ sep.length) :
    sep <:+ sep ++ last ↔
      sep.drop last.length <+: sep ∧ sep.drop (sep.length - last.length) = last := by
  constructor
  · rintro ⟨l, hl⟩
    have hsame : l.length = last.length := by
      have hlengths := congrArg List.length hl
      simp only [List.length_append] at hlengths
      omega
    obtain ⟨rest, rfl⟩ : l <+: sep := List.prefix_of_prefix_length_le ⟨_, hl⟩
      (List.prefix_append sep last) (by omega)
    have hrest : l ++ rest = rest ++ last := by
      rwa [List.append_assoc l rest last, List.append_cancel_left_eq] at hl
    refine ⟨⟨last, ?_⟩, ?_⟩
    · rw [← hsame, List.drop_left, hrest]
    · rw [hrest, List.length_append, Nat.add_sub_cancel, List.drop_left]
  · rintro ⟨hrepeat, hlast⟩
    have htake : sep.drop last.length = sep.take (sep.length - last.length) := by
      rw [List.prefix_iff_eq_take.mp hrepeat, List.length_drop]
    have hsep : sep.drop last.length ++ last = sep := by
      conv_rhs => rw [← List.take_append_drop (sep.length - last.length) sep, hlast, ← htake]
    refine ⟨sep.take last.length, ?_⟩
    conv_rhs => rw [← List.take_append_drop last.length sep, List.append_assoc, hsep]

section Digits

variable {separator : String} (hsep : ∀ c ∈ separator.toList, c.isDigit)

include hsep

/-- `1` and the separator are a number that makes the separator end in itself. -/
lemma exists_overlap_lt : ∃ w, 0 < w ∧ w < 2 * 10 ^ separator.length ∧
    separator.toList <:+ separator.toList ++ Nat.toDigits 10 w := by
  have hone : ∀ c ∈ '1' :: separator.toList, c.isDigit = true :=
    List.forall_mem_cons.mpr ⟨rfl, hsep⟩
  obtain ⟨hpos, hdigits⟩ := toDigits_ofDigitChars hone (by decide)
  refine ⟨_, hpos, ?_, separator.toList ++ ['1'], ?_⟩
  · rw [← String.length_toList]
    exact ofDigitChars_lt hsep 1
  · rw [hdigits, List.append_assoc, List.singleton_append]

/-- In a longer separator it is enough to look at its ends. -/
lemma exists_overlap_iff (hlong : 18 ≤ separator.length) :
    (∃ w, 0 < w ∧ 10 * w < limit ∧
        separator.toList <:+ separator.toList ++ Nat.toDigits 10 w) ↔
      ∃ d, 1 ≤ d ∧ d ≤ 18 ∧ Overlaps separator d := by
  rw [← String.length_toList] at hlong
  constructor
  · rintro ⟨w, hpos, hw, hover⟩
    have hlength : (Nat.toDigits 10 w).length ≤ 18 := by
      rw [Nat.length_toDigits_le_iff (by decide) (by decide)]
      rw [limit] at hw
      omega
    obtain ⟨hrepeat, hlast⟩ := (suffix_append_iff (by omega)).mp hover
    refine ⟨_, Nat.length_toDigits_pos, hlength, hrepeat, ?_, ?_⟩
    · rw [← String.length_toList, hlast]
      exact head?_toDigits_ne hpos
    · rw [← String.length_toList, hlast, Nat.ofDigitChars_ten_toDigits]
      exact hw
  · rintro ⟨d, hd, hd', hrepeat, hhead, hlimit⟩
    rw [← String.length_toList] at hhead hlimit
    have hlength : (separator.toList.drop (separator.toList.length - d)).length = d := by
      rw [List.length_drop]
      omega
    have hdigits : ∀ c ∈ separator.toList.drop (separator.toList.length - d), c.isDigit = true :=
      fun c hc => hsep c (List.mem_of_mem_drop hc)
    rcases hlast : separator.toList.drop (separator.toList.length - d) with _ | ⟨c, ds⟩
    · rw [hlast] at hlength
      simp at hlength
      omega
    · rw [hlast] at hhead hlimit hlength hdigits
      obtain ⟨hpos, hnumber⟩ := toDigits_ofDigitChars hdigits fun hc => hhead (by simp [hc])
      refine ⟨_, hpos, hlimit, (suffix_append_iff ?_).mpr ?_⟩
      · rw [hnumber, hlength]
        omega
      · rw [hnumber, hlength]
        exact ⟨hrepeat, hlast⟩

end Digits

/-- No two names of a sequence are equal if its separator has more than seventeen characters and no
end that overlaps it. -/
lemma nodup_names_of_not_overlaps {s : NameSequence} (hstart : s.count = 0)
    (hlong : 17 < s.separator.length) (hover : ∀ d, 1 ≤ d → d ≤ 18 → ¬ Overlaps s.separator d)
    {roots : List String} (hroots : roots.length < limit) : (s.names roots).1.Nodup := by
  by_cases hsep : ∀ c ∈ s.separator.toList, c.isDigit
  · by_contra hclash
    have hnumber := (exists_collision_iff hstart).mp ⟨roots, hroots, hclash⟩
    obtain ⟨d, hd, hd', hoverlaps⟩ := (exists_overlap_iff hsep hlong).mp hnumber
    exact hover d hd hd' hoverlaps
  · push Not at hsep
    exact nodup_names hsep roots

/-- **Generated names are different** for all lists of roots that the count has room for just when
the separator has a character that is no digit, or when it is so long, with no end that overlaps it,
that two names that are equal are out of reach.  Up to seventeen digits they never are.  In any case
the count is the number of names. -/
theorem names_distinct_iff (lead separator : String) :
    let s : NameSequence := { lead, separator }
    ((∀ roots : List String, roots.length < limit → (s.names roots).1.Nodup) ↔
      (∃ c ∈ separator.toList, ¬ c.isDigit) ∨
        17 < separator.length ∧ ∀ d, 1 ≤ d → d ≤ 18 → ¬ Overlaps separator d) ∧
    ((∀ c ∈ separator.toList, c.isDigit) → separator.length ≤ 17 →
      ∃ roots : List String, roots.length < limit ∧
        roots.length ≤ 2 * 10 ^ (separator.length + 1) ∧ ¬ (s.names roots).1.Nodup) ∧
    ∀ roots, (s.names roots).1.length = roots.length ∧ (s.names roots).2.count = roots.length := by
  intro s
  have hshort : (∀ c ∈ separator.toList, c.isDigit) → separator.length ≤ 17 →
      ∃ roots : List String, roots.length < limit ∧
        roots.length ≤ 2 * 10 ^ (separator.length + 1) ∧ ¬ (s.names roots).1.Nodup := by
    intro hsep hlength
    obtain ⟨w, hpos, hw, hover⟩ := exists_overlap_lt hsep
    obtain ⟨roots, hroots, hclash⟩ := exists_collision (s := s) rfl hpos hover
    have hpow : 10 ^ separator.length ≤ 10 ^ 17 := Nat.pow_le_pow_right (by decide) hlength
    refine ⟨roots, ?_, ?_, hclash⟩
    · rw [limit]
      omega
    · rw [Nat.pow_succ]
      omega
  refine ⟨⟨fun hdistinct => ?_, ?_⟩, hshort, fun roots => ?_⟩
  · rw [or_iff_not_imp_left]
    intro hnone
    push Not at hnone
    have hlong : 17 < separator.length := by
      by_contra hlength
      obtain ⟨roots, hroots, -, hclash⟩ := hshort hnone (by omega)
      exact hclash (hdistinct roots hroots)
    refine ⟨hlong, fun d hd hd' hover => ?_⟩
    have hnumber := (exists_overlap_iff hnone hlong).mpr ⟨d, hd, hd', hover⟩
    obtain ⟨roots, hroots, hclash⟩ := (exists_collision_iff (s := s) rfl).mpr hnumber
    exact hclash (hdistinct roots hroots)
  · rintro (hsep | ⟨hlong, hover⟩) roots hroots
    · exact nodup_names (s := s) hsep roots
    · exact nodup_names_of_not_overlaps (s := s) rfl hlong hover hroots
  · rw [s.names_eq]
    simp [s]

/-- Ones can be written behind ones: of eighteen of them, two names are equal. -/
theorem names_collide_of_eighteen_ones :
    let separator := "111111111111111111"
    (∀ c ∈ separator.toList, c.isDigit) ∧ separator.length = 18 ∧
      ∃ roots : List String, roots.length < limit ∧
        ¬ (({ lead := "<>", separator } : NameSequence).names roots).1.Nodup := by
  intro separator
  have hdigits : ∀ c ∈ separator.toList, c.isDigit := List.all_eq_true.mp (by decide +kernel)
  refine ⟨hdigits, by decide +kernel, ?_⟩
  by_contra hnone
  push Not at hnone
  rcases (names_distinct_iff "<>" separator).1.mp hnone with ⟨c, hc, hnot⟩ | ⟨-, hover⟩
  · exact hnot (hdigits c hc)
  · exact hover 1 (by decide) (by decide) (by decide +kernel)

/-- A separator of digits that keeps all names apart: a number does not begin with `0`, so behind
eighteen zeros only a number with all of them in it makes them the end, and the count does not come
that far. -/
theorem names_distinct_of_eighteen_zeros :
    let separator := "000000000000000000"
    (∀ c ∈ separator.toList, c.isDigit) ∧ ∀ (lead : String) (roots : List String),
      roots.length < limit → (({ lead, separator } : NameSequence).names roots).1.Nodup := by
  intro separator
  have hlong : 17 < separator.length := by decide +kernel
  have hover : ∀ d, 1 ≤ d → d ≤ 18 → ¬ Overlaps separator d := by decide +kernel
  refine ⟨List.all_eq_true.mp (by decide +kernel), fun lead roots hroots => ?_⟩
  exact nodup_names_of_not_overlaps (s := { lead, separator }) rfl hlong hover hroots

end NameSequence

end CallSites.Text
