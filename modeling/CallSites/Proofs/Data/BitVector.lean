import CallSites.Data.BitVector
import Mathlib.Tactic.Lemma

/-!
# The bits of a vector

A vector of bits is packed into words, so setting the bit at a position changes the word it lies in
and reads the others of that word unchanged.  `BitVector.bit_put` hides the words: after it a vector
is a function from positions to bits.

A vector `Holds` a list of bits when it has these bits and no others, not even in the part of the
last word that lies beyond its end; whether any bit is set can then be told from the words.
`BitVector.digits_ofBools` is the result for a vector made from a list of bits, and
`BitVector.refines_bits` the one for a new vector that is set any number of times.
-/

namespace CallSites

namespace BitVector

@[simp] lemma length_put (v : BitVector) (i : Nat) (b : Bool) : (v.put i b).length = v.length := rfl

@[simp] lemma size_words_put (v : BitVector) (i : Nat) (b : Bool) :
    (v.put i b).words.size = v.words.size := by
  simp [put]

/-- Setting a bit that the words have room for changes that bit only. -/
lemma bit_put (v : BitVector) {i : Nat} (b : Bool) (hi : i < 64 * v.words.size) (j : Nat) :
    (v.put i b).bit j = if i = j then b else v.bit j := by
  rw [bit, put, Array.getElem?_modify]
  by_cases hword : i / 64 = j / 64
  · have hsize : j / 64 < v.words.size := by omega
    rw [if_pos hword, Array.getElem?_eq_getElem hsize, Option.map_some, Option.getD_some, bit,
      Array.getElem?_eq_getElem hsize, Option.getD_some]
    have hbit : j % 64 < 64 := by omega
    by_cases hij : i = j
    · cases b <;> simp [hij, hbit]
    · have hne : j % 64 ≠ i % 64 := by omega
      cases b <;> simp [hij, hbit, hne]
  · have hij : i ≠ j := fun h => hword (by rw [h])
    rw [if_neg hword, if_neg hij, bit]

/-! ## Vectors made from lists -/

lemma foldl_put_frame : ∀ (l : List (Bool × Nat)) (v : BitVector),
    (l.foldl (fun v b => v.put b.2 b.1) v).length = v.length ∧
      (l.foldl (fun v b => v.put b.2 b.1) v).words.size = v.words.size
  | [], _ => ⟨rfl, rfl⟩
  | b :: bs, v => by
      rw [List.foldl_cons, (foldl_put_frame bs _).1, (foldl_put_frame bs _).2]
      exact ⟨length_put v b.2 b.1, size_words_put v b.2 b.1⟩

/-- Setting bits one after the other from a position on.  The induction is on the bits: each of them
is set first, and those that come later leave it alone. -/
lemma bit_foldl_put : ∀ (bs : List Bool) (k : Nat) (v : BitVector),
    k + bs.length ≤ 64 * v.words.size → ∀ j,
      ((bs.zipIdx k).foldl (fun v b => v.put b.2 b.1) v).bit j =
        if k ≤ j then bs[j - k]?.getD (v.bit j) else v.bit j
  | [], k, v, _, j => by simp
  | b :: bs, k, v, hk, j => by
      rw [List.length_cons] at hk
      rw [List.zipIdx_cons, List.foldl_cons,
        bit_foldl_put bs (k + 1) _ (by rw [size_words_put]; omega), bit_put v b (by omega)]
      rcases Nat.lt_trichotomy k j with hlt | rfl | hgt
      · have hsub : j - k = j - (k + 1) + 1 := by omega
        rw [if_pos (by omega), if_neg (by omega), if_pos (by omega), hsub, List.getElem?_cons_succ]
      · rw [if_neg (by omega), if_pos rfl, if_pos (Nat.le_refl k), Nat.sub_self,
          List.getElem?_cons_zero, Option.getD_some]
      · rw [if_neg (by omega), if_neg (by omega), if_neg (by omega)]

/-- The words of a new vector have room for its bits. -/
lemma le_size_words_zeros (n : Nat) : n ≤ 64 * (zeros n).words.size := by
  have hcount : Int.tdiv ((n : Int) + 63) 64 = ((n : Int) + 63) / 64 :=
    Int.tdiv_eq_ediv_of_nonneg (by omega)
  rw [zeros, Array.size_replicate, hcount]
  omega

/-! ## Vectors as lists of bits -/

/-- The vector has the bits of a list, and no other bit of its words is set. -/
structure Holds (v : BitVector) (l : List Bool) : Prop where
  length : v.length = l.length
  room : l.length ≤ 64 * v.words.size
  bit : ∀ i, v.bit i = l[i]?.getD false

section Holds

variable {v : BitVector} {l : List Bool}

lemma bit_zeros (n : Int) (i : Nat) : (zeros n).bit i = false := by
  rw [bit, zeros, Array.getElem?_replicate]
  split <;> simp

lemma Holds.zeros (n : Nat) : (zeros n).Holds (List.replicate n false) where
  length := by rw [List.length_replicate, BitVector.zeros]
  room := by
    rw [List.length_replicate]
    exact le_size_words_zeros n
  bit i := by
    rw [bit_zeros, List.getElem?_replicate]
    split <;> rfl

lemma Holds.put (h : v.Holds l) {i : Nat} (hi : i < l.length) (b : Bool) :
    (v.put i b).Holds (l.set i b) where
  length := by rw [length_put, List.length_set, h.length]
  room := by
    rw [List.length_set, size_words_put]
    exact h.room
  bit j := by
    rw [bit_put v b (by have := h.room; omega), List.getElem?_set, h.bit]
    by_cases hij : i = j
    · rw [if_pos hij, if_pos hij, if_pos (hij ▸ hi), Option.getD_some]
    · rw [if_neg hij, if_neg hij]

lemma Holds.ofBools (bs : List Bool) : (ofBools bs).Holds bs where
  length := (foldl_put_frame _ _).1
  room := by
    rw [BitVector.ofBools, (foldl_put_frame _ _).2]
    exact le_size_words_zeros bs.length
  bit j := by
    have hroom : 0 + bs.length ≤ 64 * (BitVector.zeros bs.length).words.size := by
      rw [Nat.zero_add]
      exact le_size_words_zeros bs.length
    rw [BitVector.ofBools, bit_foldl_put bs 0 _ hroom, if_pos (Nat.zero_le j), Nat.sub_zero,
      bit_zeros]

/-- The digits of a vector are those of its list of bits. -/
lemma Holds.digits (h : v.Holds l) :
    v.digits = String.ofList (l.map fun b => if b then '1' else '0') := by
  rw [BitVector.digits, positions, h.length, Int.toNat_natCast]
  refine congrArg String.ofList (List.ext_getElem (by simp) fun j h₁ h₂ => ?_)
  have hj : j < l.length := by simpa using h₂
  rw [List.getElem_map, List.getElem_range, List.getElem_map, h.bit, List.getElem?_eq_getElem hj,
    Option.getD_some]

lemma Holds.mem_indices_iff (h : v.Holds l) (i : Nat) : i ∈ v.indices ↔ l[i]? = some true := by
  rw [indices, positions, h.length, Int.toNat_natCast, List.mem_filter, List.mem_range, h.bit]
  constructor
  · rintro ⟨hi, hb⟩
    rw [List.getElem?_eq_getElem hi, Option.getD_some] at hb
    rw [List.getElem?_eq_getElem hi, hb]
  · intro hi
    exact ⟨(List.getElem?_eq_some_iff.mp hi).1, by rw [hi, Option.getD_some]⟩

/-- Some word is not zero just when some bit is set. -/
lemma any_iff_exists_bit (v : BitVector) : v.any = true ↔ ∃ i, v.bit i = true := by
  rw [any, Array.any_eq_true]
  constructor
  · rintro ⟨j, hj, hword⟩
    have hne : v.words[j] ≠ 0 := of_decide_eq_true hword
    refine Classical.byContradiction fun hclear => hne (BitVec.eq_of_getLsbD_eq fun b hb => ?_)
    have hdiv : (64 * j + b) / 64 = j := by omega
    have hmod : (64 * j + b) % 64 = b := by omega
    have hbit : v.bit (64 * j + b) = v.words[j].getLsbD b := by
      rw [bit, hdiv, hmod, Array.getElem?_eq_getElem hj, Option.getD_some]
    have hfalse : v.bit (64 * j + b) = false := Bool.eq_false_iff.mpr fun hset => hclear ⟨_, hset⟩
    rw [← hbit, hfalse]
    simp
  · rintro ⟨i, hi⟩
    rw [bit] at hi
    rcases hword : v.words[i / 64]? with _ | w
    · simp [hword] at hi
    · obtain ⟨hj, rfl⟩ := Array.getElem?_eq_some_iff.mp hword
      refine ⟨i / 64, hj, decide_eq_true fun hzero => ?_⟩
      simp [hword, hzero] at hi

end Holds

/-- **The digits of a vector** made from a list are those of the list. -/
theorem digits_ofBools (bs : List Bool) :
    (ofBools bs).digits = String.ofList (bs.map fun b => if b then '1' else '0') :=
  (Holds.ofBools bs).digits

end BitVector

/-! ## Calls -/

/-- The list with the bit at an index replaced.  An index beyond the ends leaves it as it is. -/
def putBit (l : List Bool) (c : Int × Bool) : List Bool :=
  if 0 ≤ c.1 ∧ c.1 < l.length then l.set c.1.toNat c.2 else l

lemma length_foldl_putBit (calls : List (Int × Bool)) (l : List Bool) :
    (calls.foldl putBit l).length = l.length := by
  induction calls generalizing l with
  | nil => rfl
  | cons c cs ih =>
      rw [List.foldl_cons, ih, putBit]
      split
      · exact List.length_set
      · rfl

namespace BitVector

section Calls

variable {v : BitVector} {l : List Bool}

lemma Holds.inRange_iff (h : v.Holds l) (i : Int) : v.InRange i ↔ 0 ≤ i ∧ i < l.length := by
  rw [InRange, h.length]

/-- There is a word for every index within the vector. -/
lemma Holds.word_eq (h : v.Holds l) {i : Nat} (hi : i < l.length) :
    v.word i = .ok (v.words[i / 64]?.getD 0) := by
  have hj : i / 64 < v.words.size := by
    have hroom := h.room
    omega
  rw [word, Array.getElem?_eq_getElem hj]
  rfl

lemma Holds.get_eq_ok (h : v.Holds l) {i : Nat} (hi : i < l.length) : v.get i = .ok l[i] := by
  have hin : v.InRange i := (h.inRange_iff i).mpr ⟨by omega, by omega⟩
  have hbit : v.bit i = l[i] := by
    rw [h.bit, List.getElem?_eq_getElem hi, Option.getD_some]
  rw [get, if_pos hin, Int.toNat_natCast, h.word_eq hi, ← hbit]
  rfl

lemma Holds.not_inRange (h : v.Holds l) {i : Int} (hi : i < 0 ∨ l.length ≤ i) :
    ¬ v.InRange i := by
  rw [h.inRange_iff]
  omega

lemma Holds.get_eq_error (h : v.Holds l) {i : Int} (hi : i < 0 ∨ l.length ≤ i) :
    v.get i = .error (.range .bit) := by
  rw [get, if_neg (h.not_inRange hi)]
  rfl

lemma run_assign (v : BitVector) (i : Int) (b : Bool) :
    (assign i b).run v = (if v.InRange i then (do
        let _ ← ExceptT.mk (pure (v.word i.toNat))
        set (v.put i.toNat b) : ExceptT Failure (StateM BitVector) Unit)
      else throw (.range .bit)).run v := rfl

lemma Holds.run_assign_eq_ok (h : v.Holds l) {i : Int} (h0 : 0 ≤ i) (hi : i < l.length) (b : Bool) :
    (assign i b).run v = (.ok (), v.put i.toNat b) := by
  have hword := h.word_eq (i := i.toNat) (by omega)
  rw [run_assign, if_pos ((h.inRange_iff i).mpr ⟨h0, hi⟩), hword]
  rfl

lemma Holds.run_assign_eq_error (h : v.Holds l) {i : Int} (hi : i < 0 ∨ l.length ≤ i) (b : Bool) :
    (assign i b).run v = (.error (.range .bit), v) := by
  rw [run_assign, if_neg (h.not_inRange hi)]
  rfl

/-- **One call** does to the vector what it does to the list. -/
lemma Holds.assign (h : v.Holds l) (c : Int × Bool) :
    ((BitVector.assign c.1 c.2).run v).2.Holds (putBit l c) := by
  rw [putBit]
  by_cases hc : 0 ≤ c.1 ∧ c.1 < l.length
  · rw [h.run_assign_eq_ok hc.1 hc.2, if_pos hc]
    exact h.put (by omega) c.2
  · rw [h.run_assign_eq_error (by omega), if_neg hc]
    exact h

/-- **Any number of calls** do to the vector what they do to the list. -/
lemma Holds.assignAll (h : v.Holds l) (calls : List (Int × Bool)) :
    (calls.foldl (fun v c => ((BitVector.assign c.1 c.2).run v).2) v).Holds
      (calls.foldl putBit l) := by
  induction calls generalizing v l with
  | nil => exact h
  | cons c cs ih => exact ih (h.assign c)

/-- The vector answers every call as a list of bits does. -/
structure Refines (v : BitVector) (l : List Bool) : Prop where
  length_eq : v.length = l.length
  get_ok : ∀ (i : Nat) (hi : i < l.length), v.get i = .ok l[i]
  get_error : ∀ i : Int, i < 0 ∨ l.length ≤ i → v.get i = .error (.range .bit)
  assign_ok : ∀ (i : Nat) (b : Bool), i < l.length → ((assign i b).run v).1 = .ok ()
  /-- A call that fails changes nothing. -/
  assign_error : ∀ (i : Int) (b : Bool), i < 0 ∨ l.length ≤ i →
    (assign i b).run v = (.error (.range .bit), v)
  text_eq : v.text = .ok (String.ofList (l.map fun b => if b then '1' else '0'))
  indices_increasing : v.indices.Pairwise (· < ·)
  mem_indices_iff : ∀ i, i ∈ v.indices ↔ l[i]? = some true
  /-- The words, taken as a whole, show no bit but those of the list. -/
  any_iff : v.any = true ↔ v.indices ≠ []

lemma Holds.refines (h : v.Holds l) : v.Refines l where
  length_eq := h.length
  get_ok _ hi := h.get_eq_ok hi
  get_error _ hi := h.get_eq_error hi
  assign_ok i b hi := by
    rw [h.run_assign_eq_ok (by omega) (by omega)]
  assign_error _ b hi := h.run_assign_eq_error hi b
  text_eq := by
    have hlength : ¬ v.length < 0 := by
      rw [h.length]
      omega
    rw [text, if_neg hlength, h.digits]
    rfl
  indices_increasing := List.pairwise_lt_range.filter _
  mem_indices_iff := h.mem_indices_iff
  any_iff := by
    have hbit : ∀ i, v.bit i = true ↔ i ∈ v.indices := by
      intro i
      rw [h.mem_indices_iff, h.bit]
      rcases l[i]? with _ | b <;> simp
    rw [any_iff_exists_bit, exists_congr hbit]
    exact ⟨fun ⟨_, hi⟩ => List.ne_nil_of_mem hi, List.exists_mem_of_ne_nil _⟩

end Calls

/-- **Bit vectors are lists of bits.**  A new vector of `n` bits that is set any number of times,
within its ends or beyond them, answers as the list of `n` bits that is set in the same way. -/
theorem refines_bits {n : Int} (hn : 0 ≤ n) {v : BitVector} (hv : new n = .ok v)
    (calls : List (Int × Bool)) :
    let bits := calls.foldl putBit (List.replicate n.toNat false)
    (bits.length : Int) = n ∧
      (calls.foldl (fun v c => ((assign c.1 c.2).run v).2) v).Refines bits := by
  intro bits
  obtain ⟨n, rfl⟩ := Int.eq_ofNat_of_zero_le hn
  have hzeros : v = zeros n := by
    rw [new] at hv
    split at hv
    · cases hv
    · cases hv
      rfl
  have h := (hzeros ▸ Holds.zeros n : v.Holds (List.replicate n false)).assignAll calls
  refine ⟨?_, h.refines⟩
  rw [length_foldl_putBit, List.length_replicate]
  exact Int.toNat_of_nonneg hn

/-- Bits in three words are set and cleared, with calls beyond both ends in between. -/
theorem refines_bits_of_three_words :
    let calls : List (Int × Bool) :=
      [(3, true), (64, true), (130, true), (129, true), (-1, true), (64, false), (66, true)]
    let bits := calls.foldl putBit (List.replicate 130 false)
    ∃ v, new 130 = .ok v ∧
      (calls.foldl (fun v c => ((assign c.1 c.2).run v).2) v).indices = [3, 66, 129] ∧
      (calls.foldl (fun v c => ((assign c.1 c.2).run v).2) v).Refines bits := by
  intro calls bits
  have hnew : new 130 = .ok (zeros 130) := if_neg (by decide)
  exact ⟨zeros 130, hnew, by decide +kernel, (refines_bits (by decide) hnew calls).2⟩

end BitVector

end CallSites
