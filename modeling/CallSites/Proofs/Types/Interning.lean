import CallSites.Proofs.Data.OrderedMap
import CallSites.Proofs.Outcome
import CallSites.Types.Create
import Mathlib.Data.List.Nodup
import Mathlib.Data.Set.Insert

/-!
# Interning

Instances are filed by the text of their arguments, and different types may print alike.  That a
definition still has at most one instance over given arguments rests on all definitions together:
arguments are compared structurally, and the comparison goes down into the arguments of arguments,
which are instances of other definitions.

A type is a plain value, so most values of type `Ty` name nothing.  The types that do exist are
singled out by `Ty.Known`, relative to a *census* of the named types, containers and definitions
that have been created and to the table that instances are filed in.  `TypeTable.Interned` is the
invariant.  It says that identities in the census are not shared, that every filed instance is
found in the bucket of its own arguments, that its arguments are known, and that neither serials
nor argument lists repeat.

The main result is `Interned.eq_of_equal`: known types that are structurally equal are one and the
same value.  Equality of texts, which the buckets depend on, then needs no argument of its own.
From it follow that identity and equality agree on known types (`Interned.same_iff_equal`) and that
construction returns the instance over its arguments and keeps the invariant
(`Interned.construct_ok`).
-/

namespace CallSites

/-! ## Types that exist -/

/-- The instances of a definition, bucket after bucket. -/
def TypeTable.filed (t : TypeTable) (d : Definition) : List Instance :=
  (t.definition d).buckets.values.flatten

/-- The type exists: what it is made of is in the census and, if it is an instance, it has been
filed. -/
def Ty.Known (K : Set Ty) (t : TypeTable) : Ty → Prop
  | .void => True
  | .named n => .named n ∈ K
  | .container c => .container c ∈ K
  | .definition d => .definition d ∈ K
  | .param d i => .definition d ∈ K ∧ i < d.arity
  | .inst d n args => .definition d ∈ K ∧ ⟨d, n, args⟩ ∈ t.filed d

/-- The type is absent or exists. -/
def KnownType (K : Set Ty) (t : TypeTable) (o : Option Ty) : Prop := ∀ x, o = some x → x.Known K t

/-- The type can be used as an argument. -/
def Ty.Usable (x : Ty) : Prop := x.kind ≠ .void ∧ x.kind ≠ .invalid

/-- The serial in the identity of a type created by a client. -/
def Ty.Ident.clientSerial? : Ty.Ident → Option Nat
  | .named (.free n) => some n
  | .container n => some n
  | .definition (.free n) => some n
  | _ => none

/-- The instances of one definition are in order: each stands in the bucket of its own arguments,
these are known and usable and as many as there are type parameters, and neither serials nor
argument lists repeat. -/
structure TypeTable.InternedAt (K : Set Ty) (t : TypeTable) (d : Definition) : Prop where
  definition_eq : ∀ i ∈ t.filed d, i.definition = d
  bucketed : ∀ i ∈ t.filed d, i ∈ t.bucket d (Ty.listText i.args)
  key_eq : ∀ key, ∀ i ∈ t.bucket d key, key = Ty.listText i.args
  arity : ∀ i ∈ t.filed d, i.args.length = d.arity
  args : ∀ i ∈ t.filed d, ∀ a ∈ i.args, a.Known K t ∧ a.Usable
  serial_lt : ∀ i ∈ t.filed d, i.serial < t.numInstances d
  serials : ((t.filed d).map (·.serial)).Nodup
  argLists : ((t.filed d).map (·.args)).Nodup

/-- **The invariant of the type table.** -/
structure TypeTable.Interned (K : Set Ty) (t : TypeTable) : Prop where
  ident_inj : ∀ x ∈ K, ∀ y ∈ K, x.ident = y.ident → x = y
  serial_lt_next : ∀ x ∈ K, ∀ n, x.ident.clientSerial? = some n → n < t.next
  /-- Nothing has happened to a definition that does not exist. -/
  listed : ∀ id s, t.definitions.find? id = some s → ∃ d, .definition d ∈ K ∧ d.id = id
  each : ∀ d, .definition d ∈ K → t.InternedAt K d

/-- The second table has come about from the first by filing instances, and by nothing else. -/
structure TypeTable.Files (t t' : TypeTable) : Prop where
  next : t'.next = t.next
  instances : t'.instances = t.instances
  added : ∀ d, (t'.definition d).added = (t.definition d).added
  filed : ∀ d, t.filed d ⊆ t'.filed d

namespace TypeTable

lemma Files.refl (t : TypeTable) : t.Files t :=
  ⟨rfl, rfl, fun _ => rfl, fun _ => List.Subset.refl _⟩

lemma Files.trans {t₁ t₂ t₃ : TypeTable} (h : t₁.Files t₂) (h' : t₂.Files t₃) : t₁.Files t₃ :=
  ⟨h'.next.trans h.next, h'.instances.trans h.instances,
    fun d => (h'.added d).trans (h.added d), fun d => List.Subset.trans (h.filed d) (h'.filed d)⟩

lemma numInstances_eq_length (t : TypeTable) (d : Definition) :
    t.numInstances d = (t.filed d).length := by
  unfold numInstances filed
  induction (t.definition d).buckets.values with
  | nil => rfl
  | cons b bs ih =>
      simp only [List.map_cons, List.foldr_cons, ih, List.flatten_cons, List.length_append]

lemma definition_congr (t : TypeTable) {d e : Definition} (h : d.id = e.id) :
    t.definition d = t.definition e := by
  rw [definition, definition, h]

lemma filed_congr (t : TypeTable) {d e : Definition} (h : d.id = e.id) : t.filed d = t.filed e := by
  rw [filed, filed, t.definition_congr h]

lemma mem_filed_of_mem_bucket {t : TypeTable} {d : Definition} {key : String} {i : Instance}
    (h : i ∈ t.bucket d key) : i ∈ t.filed d := by
  unfold bucket OrderedMap.getD at h
  rcases hf : (t.definition d).buckets.find? key with _ | b
  · rw [hf] at h
    cases h
  · rw [hf, Option.getD_some] at h
    exact List.mem_flatten.mpr ⟨b, OrderedMap.mem_values_of_find? hf, h⟩

/-! ### Filing one instance -/

lemma definition_file (t : TypeTable) (i : Instance) (d : Definition) :
    (t.file i).definition d =
      if i.definition.id = d.id then
        { t.definition d with
          buckets := (t.definition d).buckets.insert (Ty.listText i.args)
            (t.bucket d (Ty.listText i.args) ++ [i]) }
      else t.definition d := by
  by_cases h : i.definition.id = d.id
  · rw [if_pos h]
    have hb : t.bucket i.definition (Ty.listText i.args) = t.bucket d (Ty.listText i.args) := by
      rw [bucket, bucket, t.definition_congr h]
    rw [definition, file, h, OrderedMap.getD_insert_self, hb, t.definition_congr h]
  · rw [if_neg h, definition, file, OrderedMap.getD_insert_of_ne _ _ _ h, definition]

lemma filed_file_self (t : TypeTable) (i : Instance) :
    ((t.file i).filed i.definition).Perm (t.filed i.definition ++ [i]) := by
  rw [filed, definition_file, if_pos rfl]
  exact OrderedMap.flatten_values_insert_append _ _ _

lemma filed_file_of_ne (t : TypeTable) {i : Instance} {d : Definition}
    (h : i.definition.id ≠ d.id) : (t.file i).filed d = t.filed d := by
  rw [filed, definition_file, if_neg h, filed]

lemma bucket_file_self (t : TypeTable) (i : Instance) (key : String) :
    (t.file i).bucket i.definition key =
      if Ty.listText i.args = key then t.bucket i.definition key ++ [i]
      else t.bucket i.definition key := by
  rw [bucket, definition_file, if_pos rfl, OrderedMap.getD_insert]
  by_cases h : Ty.listText i.args = key
  · rw [if_pos h, if_pos h, h]
  · rw [if_neg h, if_neg h, bucket]

lemma files_file (t : TypeTable) (i : Instance) : t.Files (t.file i) := by
  refine ⟨rfl, rfl, fun d => ?_, fun d => ?_⟩
  · rw [definition_file]
    split <;> rfl
  · by_cases h : i.definition.id = d.id
    · rw [← t.filed_congr h, ← (t.file i).filed_congr h]
      exact fun j hj => (t.filed_file_self i).mem_iff.mpr (List.mem_append_left _ hj)
    · rw [t.filed_file_of_ne h]
      exact List.Subset.refl _

end TypeTable

/-! ## Known types -/

section Known

variable {K K' : Set Ty} {t t' : TypeTable}

lemma Ty.Known.mono {x : Ty} (hx : x.Known K t) (hK : K ⊆ K')
    (ht : ∀ d, t.filed d ⊆ t'.filed d) : x.Known K' t' := by
  cases x with
  | void => trivial
  | named n => exact hK hx
  | container c => exact hK hx
  | definition d => exact hK hx
  | param d i => exact ⟨hK hx.1, hx.2⟩
  | inst d n args => exact ⟨hK hx.1, ht d hx.2⟩

lemma Ty.Known.files {x : Ty} (hx : x.Known K t) (ht : t.Files t') : x.Known K t' :=
  hx.mono (Set.Subset.refl K) ht.filed

lemma KnownType.mono {o : Option Ty} (ho : KnownType K t o) (hK : K ⊆ K')
    (ht : ∀ d, t.filed d ⊆ t'.filed d) : KnownType K' t' o :=
  fun x hx => (ho x hx).mono hK ht

/-- Lists of present types. -/
lemma map_some_inj {xs ys : List Ty} (h : xs.map some = ys.map some) : xs = ys :=
  List.map_injective_iff.mpr (fun _ _ => Option.some.inj) h

@[simp] lemma knownType_none : KnownType K t none := fun _ h => by cases h

@[simp] lemma knownType_some {x : Ty} : KnownType K t (some x) ↔ x.Known K t :=
  ⟨fun h => h x rfl, fun h y hy => by cases hy; exact h⟩

lemma Instance.known_ty {i : Instance} :
    i.ty.Known K t ↔ .definition i.definition ∈ K ∧ i ∈ t.filed i.definition := Iff.rfl

lemma Instance.ty_inj {i j : Instance} (h : i.ty = j.ty) : i = j := by
  cases i
  cases j
  cases h
  rfl

/-- The type parameters of an existing definition exist. -/
lemma Definition.known_params {d : Definition} (hd : .definition d ∈ K) :
    ∀ x ∈ d.params, x.Known K t := by
  intro x hx
  obtain ⟨i, hi, rfl⟩ := List.mem_map.mp hx
  exact ⟨hd, List.mem_range.mp hi⟩

end Known

/-! ## Equality is identity -/

namespace TypeTable.Interned

variable {K : Set Ty} {t : TypeTable}

lemma definition_inj (h : t.Interned K) {d e : Definition} (hd : .definition d ∈ K)
    (he : .definition e ∈ K) (hid : d.id = e.id) : d = e := by
  have hty := h.ident_inj _ hd _ he (congrArg Ty.Ident.definition hid)
  cases hty
  rfl

/-- A definition has one instance for a serial. -/
lemma eq_of_serial_eq (h : t.Interned K) {d : Definition} (hd : .definition d ∈ K) {i j : Instance}
    (hi : i ∈ t.filed d) (hj : j ∈ t.filed d) (hs : i.serial = j.serial) : i = j :=
  List.inj_on_of_nodup_map (h.each d hd).serials hi hj hs

/-- A definition has one instance over a list of arguments. -/
lemma eq_of_args_eq (h : t.Interned K) {d : Definition} (hd : .definition d ∈ K) {i j : Instance}
    (hi : i ∈ t.filed d) (hj : j ∈ t.filed d) (ha : i.args = j.args) : i = j :=
  List.inj_on_of_nodup_map (h.each d hd).argLists hi hj ha

/-- Known types with one identity are one and the same value. -/
lemma eq_of_ident_eq (h : t.Interned K) {x y : Ty} (hx : x.Known K t) (hy : y.Known K t)
    (hid : x.ident = y.ident) : x = y := by
  cases x with
  | void =>
      cases y with
      | void => rfl
      | _ => cases hid
  | named n =>
      cases y with
      | named n' => exact h.ident_inj _ hx _ hy hid
      | _ => cases hid
  | container c =>
      cases y with
      | container c' => exact h.ident_inj _ hx _ hy hid
      | _ => cases hid
  | definition d =>
      cases y with
      | definition d' => exact h.ident_inj _ hx _ hy hid
      | _ => cases hid
  | param d k =>
      cases y with
      | param d' k' =>
          simp only [Ty.ident, Ty.Ident.param.injEq] at hid
          rw [h.definition_inj hx.1 hy.1 hid.1, hid.2]
      | _ => cases hid
  | inst d n args =>
      cases y with
      | inst d' n' args' =>
          simp only [Ty.ident, Ty.Ident.inst.injEq] at hid
          obtain rfl := h.definition_inj hx.1 hy.1 hid.1
          cases h.eq_of_serial_eq hx.1 hx.2 hy.2 hid.2
          rfl
      | _ => cases hid

lemma same_iff_eq (h : t.Interned K) {x y : Ty} (hx : x.Known K t) (hy : y.Known K t) :
    x.same y = true ↔ x = y := by
  rw [Ty.same, decide_eq_true_iff]
  exact ⟨h.eq_of_ident_eq hx hy, congrArg Ty.ident⟩

lemma same_iff_instance_eq (h : t.Interned K) {i j : Instance} (hi : i.ty.Known K t)
    (hj : j.ty.Known K t) : i.ty.same j.ty = true ↔ i = j :=
  (h.same_iff_eq hi hj).trans ⟨Instance.ty_inj, congrArg Instance.ty⟩

lemma args_known (h : t.Interned K) {d : Definition} {n : Nat} {args : List Ty}
    (hx : (Ty.inst d n args).Known K t) : ∀ a ∈ args, a.Known K t :=
  fun a ha => ((h.each d hx.1).args _ hx.2 a ha).1

mutual

/-- **Equality is identity.**  The induction is on the first type.  Two instances of one definition
have equal arguments, so by induction the same arguments, and a definition is filed only once over
given arguments. -/
theorem eq_of_equal (h : t.Interned K) :
    ∀ (x y : Ty), x.Known K t → y.Known K t → x.equal y = true → x = y
  | .inst d n xs, .inst e m ys, hx, hy, heq => by
      rw [Ty.equal, Bool.and_eq_true, decide_eq_true_iff, Bool.or_eq_true, beq_iff_eq] at heq
      obtain rfl := h.definition_inj hx.1 hy.1 heq.1
      rcases heq.2 with hs | ha
      · cases h.eq_of_serial_eq hx.1 hx.2 hy.2 hs
        rfl
      · obtain rfl := eq_of_equalAll h xs ys (h.args_known hx) (h.args_known hy) ha
        cases h.eq_of_args_eq hx.1 hx.2 hy.2 rfl
        rfl
  | .inst _ _ _, .void, _, _, heq | .inst _ _ _, .named _, _, _, heq
  | .inst _ _ _, .container _, _, _, heq | .inst _ _ _, .definition _, _, _, heq
  | .inst _ _ _, .param _ _, _, _, heq => by simp [Ty.equal, Ty.same, Ty.ident] at heq
  | .void, y, hx, hy, heq | .named _, y, hx, hy, heq | .container _, y, hx, hy, heq
  | .definition _, y, hx, hy, heq | .param _ _, y, hx, hy, heq => by
      rw [Ty.equal] at heq
      · exact (h.same_iff_eq hx hy).mp heq
      · rintro _ _ _ _ _ _ ⟨⟩

/-- Lists of known types that are equal item by item are the same. -/
theorem eq_of_equalAll (h : t.Interned K) :
    ∀ (xs ys : List Ty), (∀ x ∈ xs, x.Known K t) → (∀ y ∈ ys, y.Known K t) →
      Ty.equalAll xs ys = true → xs = ys
  | [], [], _, _, _ => rfl
  | [], _ :: _, _, _, heq | _ :: _, [], _, _, heq => by simp [Ty.equalAll] at heq
  | x :: xs, y :: ys, hx, hy, heq => by
      rw [Ty.equalAll, Bool.and_eq_true] at heq
      have hhead := eq_of_equal h x y (hx x (by simp)) (hy y (by simp)) heq.1
      have htail := eq_of_equalAll h xs ys (fun a ha => hx a (by simp [ha]))
        (fun a ha => hy a (by simp [ha])) heq.2
      rw [hhead, htail]

end

end TypeTable.Interned

mutual

lemma Ty.equal_refl : ∀ x : Ty, x.equal x = true
  | .inst d n args => by simp [Ty.equal]
  | .void | .named _ | .container _ | .definition _ | .param _ _ => by simp [Ty.equal, Ty.same]

lemma Ty.equalAll_refl : ∀ xs : List Ty, Ty.equalAll xs xs = true
  | [] => rfl
  | x :: xs => by simp [Ty.equalAll, Ty.equal_refl x, Ty.equalAll_refl xs]

end

namespace TypeTable.Interned

variable {K : Set Ty} {t : TypeTable}

lemma equal_iff_eq (h : t.Interned K) {x y : Ty} (hx : x.Known K t) (hy : y.Known K t) :
    x.equal y = true ↔ x = y :=
  ⟨h.eq_of_equal x y hx hy, fun heq => heq ▸ x.equal_refl⟩

lemma equalAll_iff_eq (h : t.Interned K) {xs ys : List Ty} (hx : ∀ x ∈ xs, x.Known K t)
    (hy : ∀ y ∈ ys, y.Known K t) : Ty.equalAll xs ys = true ↔ xs = ys :=
  ⟨h.eq_of_equalAll xs ys hx hy, fun heq => heq ▸ Ty.equalAll_refl xs⟩

/-- On known types the structural comparison and the comparison of identities agree. -/
lemma same_iff_equal (h : t.Interned K) {x y : Ty} (hx : x.Known K t) (hy : y.Known K t) :
    x.same y = true ↔ x.equal y = true :=
  (h.same_iff_eq hx hy).trans (h.equal_iff_eq hx hy).symm

lemma equalTypes_iff_eq (h : t.Interned K) {x y : Option Ty} (hx : KnownType K t x)
    (hy : KnownType K t y) : equalTypes x y = true ↔ x = y := by
  cases x with
  | none => cases y <;> simp [equalTypes]
  | some x =>
      cases y with
      | none => simp [equalTypes]
      | some y =>
          rw [equalTypes, h.equal_iff_eq (knownType_some.mp hx) (knownType_some.mp hy),
            Option.some.injEq]

/-- A filed instance is a known type. -/
lemma known_of_filed (h : t.Interned K) {d : Definition} (hd : .definition d ∈ K) {i : Instance}
    (hi : i ∈ t.filed d) : i.definition = d ∧ i.ty.Known K t := by
  have hdef := (h.each d hd).definition_eq i hi
  refine ⟨hdef, Instance.known_ty.mpr ?_⟩
  rw [hdef]
  exact ⟨hd, hi⟩

/-! ## The search for an instance -/

/-- What the search finds is an instance over exactly the arguments searched for. -/
lemma args_of_findInstance? (h : t.Interned K) {d : Definition} (hd : .definition d ∈ K)
    {args : List Ty} (hargs : ∀ a ∈ args, a.Known K t) {i : Instance}
    (hi : t.findInstance? d args = some i) : i ∈ t.filed d ∧ i.args = args := by
  have hmem : i ∈ t.filed d := mem_filed_of_mem_bucket (List.mem_of_find?_eq_some hi)
  have heq : Ty.equalAll i.args args = true := by simpa using List.find?_some hi
  exact ⟨hmem, (h.equalAll_iff_eq (fun a ha => ((h.each d hd).args i hmem a ha).1) hargs).mp heq⟩

/-- The search misses no instance: one that is filed is in the bucket that is searched. -/
lemma findInstance?_of_filed (h : t.Interned K) {d : Definition} (hd : .definition d ∈ K)
    {i : Instance} (hi : i ∈ t.filed d) : t.findInstance? d i.args = some i := by
  rcases hf : t.findInstance? d i.args with _ | j
  · have hnone := List.find?_eq_none.mp hf i ((h.each d hd).bucketed i hi)
    exact absurd (Ty.equalAll_refl i.args) hnone
  · obtain ⟨hj, hargs⟩ :=
      h.args_of_findInstance? hd (fun a ha => ((h.each d hd).args i hi a ha).1) hf
    rw [h.eq_of_args_eq hd hj hi hargs]

lemma args_ne_of_findInstance? (h : t.Interned K) {d : Definition} (hd : .definition d ∈ K)
    {args : List Ty} (hf : t.findInstance? d args = none) : ∀ i ∈ t.filed d, i.args ≠ args := by
  intro i hi hargs
  have hsome := h.findInstance?_of_filed hd hi
  rw [hargs, hf] at hsome
  cases hsome

/-! ## Filing keeps the invariant -/

end TypeTable.Interned

namespace TypeTable.InternedAt

variable {K K' : Set Ty} {t t' : TypeTable} {d : Definition}

/-- The instances of a definition stay in order as long as its own buckets do not change. -/
lemma of_buckets_eq (h : t.InternedAt K d) (hK : K ⊆ K') (ht : ∀ e, t.filed e ⊆ t'.filed e)
    (hb : (t'.definition d).buckets = (t.definition d).buckets) : t'.InternedAt K' d := by
  have hfiled : t'.filed d = t.filed d := by rw [filed, filed, hb]
  have hbucket : ∀ key, t'.bucket d key = t.bucket d key := fun key => by rw [bucket, bucket, hb]
  have hcount : t'.numInstances d = t.numInstances d := by rw [numInstances, numInstances, hb]
  refine
    { definition_eq := ?_, bucketed := ?_, key_eq := ?_, arity := ?_, args := ?_, serial_lt := ?_
      serials := ?_, argLists := ?_ }
  · rw [hfiled]
    exact h.definition_eq
  · simp only [hfiled, hbucket]
    exact h.bucketed
  · simp only [hbucket]
    exact h.key_eq
  · rw [hfiled]
    exact h.arity
  · rw [hfiled]
    intro i hi a ha
    exact ⟨(h.args i hi a ha).1.mono hK ht, (h.args i hi a ha).2⟩
  · rw [hfiled, hcount]
    exact h.serial_lt
  · rw [hfiled]
    exact h.serials
  · rw [hfiled]
    exact h.argLists

/-- Over arguments that no instance has yet, a new instance may be filed under the next serial. -/
lemma file (h : t.InternedAt K d) {args : List Ty} (hargs : ∀ a ∈ args, a.Known K t ∧ a.Usable)
    (hlen : args.length = d.arity) (hnew : ∀ i ∈ t.filed d, i.args ≠ args) :
    (t.file ⟨d, t.numInstances d, args⟩).InternedAt K d := by
  have hfiles := t.files_file ⟨d, t.numInstances d, args⟩
  have hperm : ((t.file ⟨d, t.numInstances d, args⟩).filed d).Perm
      (t.filed d ++ [⟨d, t.numInstances d, args⟩]) := t.filed_file_self _
  have hmem : ∀ i ∈ (t.file ⟨d, t.numInstances d, args⟩).filed d,
      i ∈ t.filed d ∨ i = ⟨d, t.numInstances d, args⟩ := by
    intro i hi
    simpa using hperm.mem_iff.mp hi
  have hbucket := t.bucket_file_self ⟨d, t.numInstances d, args⟩
  refine
    { definition_eq := ?_, bucketed := ?_, key_eq := ?_, arity := ?_, args := ?_, serial_lt := ?_
      serials := ?_, argLists := ?_ }
  · intro i hi
    rcases hmem i hi with hold | rfl
    · exact h.definition_eq i hold
    · rfl
  · intro i hi
    rw [hbucket]
    rcases hmem i hi with hold | rfl
    · split
      · exact List.mem_append_left _ (h.bucketed i hold)
      · exact h.bucketed i hold
    · simp
  · intro key i hi
    rw [hbucket] at hi
    split at hi
    · next hkey =>
        rcases List.mem_append.mp hi with hold | hlast
        · exact h.key_eq key i hold
        · rw [List.mem_singleton.mp hlast]
          exact hkey.symm
    · exact h.key_eq key i hi
  · intro i hi
    rcases hmem i hi with hold | rfl
    · exact h.arity i hold
    · exact hlen
  · intro i hi a ha
    rcases hmem i hi with hold | rfl
    · exact ⟨(h.args i hold a ha).1.files hfiles, (h.args i hold a ha).2⟩
    · exact ⟨(hargs a ha).1.files hfiles, (hargs a ha).2⟩
  · intro i hi
    rw [numInstances_eq_length, hperm.length_eq, List.length_append, ← numInstances_eq_length]
    rcases hmem i hi with hold | rfl
    · exact Nat.lt_succ_of_lt (h.serial_lt i hold)
    · exact Nat.lt_succ_self _
  · rw [(hperm.map _).nodup_iff, List.map_append, List.nodup_append]
    refine ⟨h.serials, List.nodup_singleton _, ?_⟩
    intro n hn m hm
    obtain ⟨i, hi, rfl⟩ := List.mem_map.mp hn
    rw [List.mem_singleton.mp hm]
    exact (h.serial_lt i hi).ne
  · rw [(hperm.map _).nodup_iff, List.map_append, List.nodup_append]
    refine ⟨h.argLists, List.nodup_singleton _, ?_⟩
    intro as has bs hbs
    obtain ⟨i, hi, rfl⟩ := List.mem_map.mp has
    rw [List.mem_singleton.mp hbs]
    exact hnew i hi

end TypeTable.InternedAt

namespace TypeTable.Interned

variable {K : Set Ty} {t : TypeTable}

/-- Filing a new instance of one definition keeps the whole table in order. -/
lemma file (h : t.Interned K) {d : Definition} (hd : .definition d ∈ K) {args : List Ty}
    (hargs : ∀ a ∈ args, a.Known K t ∧ a.Usable) (hlen : args.length = d.arity)
    (hnew : ∀ i ∈ t.filed d, i.args ≠ args) :
    (t.file ⟨d, t.numInstances d, args⟩).Interned K := by
  refine
    { ident_inj := h.ident_inj, serial_lt_next := h.serial_lt_next, listed := ?_, each := ?_ }
  · intro id s hs
    by_cases hid : d.id = id
    · exact ⟨d, hd, hid⟩
    · rw [TypeTable.file, OrderedMap.find?_insert_of_ne _ _ hid] at hs
      exact h.listed id s hs
  · intro e he
    by_cases hed : d = e
    · subst hed
      exact (h.each d hd).file hargs hlen hnew
    · have hid : d.id ≠ e.id := fun hid => hed (h.definition_inj hd he hid)
      refine (h.each e he).of_buckets_eq (Set.Subset.refl K) (t.files_file _).filed ?_
      rw [t.definition_file, if_neg hid]

/-! ## New types -/

/-- Nothing has happened to a definition whose identity nobody has. -/
lemma definition_eq_empty (h : t.Interned K) {d : Definition}
    (hnew : ∀ y ∈ K, y.ident ≠ (Ty.definition d).ident) : t.definition d = {} := by
  rcases hf : t.definitions.find? d.id with _ | s
  · exact OrderedMap.getD_of_find?_eq_none _ hf
  · obtain ⟨e, he, hid⟩ := h.listed d.id s hf
    exact absurd (congrArg Ty.Ident.definition hid) (hnew _ he)

/-- A type whose identity nobody has may be added to the census.  If it is a definition, nothing
has happened to it so far. -/
lemma add_type (h : t.Interned K) {x : Ty} (hnew : ∀ y ∈ K, y.ident ≠ x.ident)
    (hserial : ∀ n, x.ident.clientSerial? = some n → n < t.next) : t.Interned (insert x K) := by
  have hsub : K ⊆ insert x K := Set.subset_insert x K
  refine { ident_inj := ?_, serial_lt_next := ?_, listed := ?_, each := ?_ }
  · rintro y (rfl | hy) z (rfl | hz) hid
    · rfl
    · exact absurd hid.symm (hnew z hz)
    · exact absurd hid (hnew y hy)
    · exact h.ident_inj y hy z hz hid
  · rintro y (rfl | hy)
    · exact hserial
    · exact h.serial_lt_next y hy
  · intro id s hs
    obtain ⟨d, hd, hid⟩ := h.listed id s hs
    exact ⟨d, hsub hd, hid⟩
  · rintro d (hx | hd)
    · have hstate : t.definition d = {} := h.definition_eq_empty (by rwa [hx])
      have hfiled : t.filed d = [] := by
        rw [filed, hstate]
        rfl
      have hbucket : ∀ key, t.bucket d key = [] := fun key => by
        rw [bucket, hstate]
        rfl
      constructor <;> simp [hfiled, hbucket]
    · exact (h.each d hd).of_buckets_eq hsub (fun e => List.Subset.refl _) rfl

/-- Giving out a serial changes nothing else. -/
lemma next (h : t.Interned K) : ({ t with next := t.next + 1 } : TypeTable).Interned K where
  ident_inj := h.ident_inj
  serial_lt_next x hx n hn := Nat.lt_succ_of_lt (h.serial_lt_next x hx n hn)
  listed := h.listed
  each d hd := (h.each d hd).of_buckets_eq (Set.Subset.refl K) (fun _ => List.Subset.refl _) rfl

/-- A type created with the next serial is new. -/
lemma add_type_next (h : t.Interned K) {x : Ty} (hx : x.ident.clientSerial? = some t.next) :
    ({ t with next := t.next + 1 } : TypeTable).Interned (insert x K) := by
  refine h.next.add_type (fun y hy hid => ?_) (fun n hn => ?_)
  · have hlt := h.serial_lt_next y hy t.next (by rw [hid, hx])
    exact absurd hlt (Nat.lt_irrefl _)
  · rw [hx] at hn
    cases hn
    exact Nat.lt_succ_self _

/-- The table without entries is in order for every census that no client has added to. -/
lemma blank (hinj : ∀ x ∈ K, ∀ y ∈ K, x.ident = y.ident → x = y)
    (hserial : ∀ x ∈ K, x.ident.clientSerial? = none) : ({} : TypeTable).Interned K where
  ident_inj := hinj
  serial_lt_next x hx n hn := by
    rw [hserial x hx] at hn
    cases hn
  listed id s hs := by simp at hs
  each d _ := by
    have hfiled : ({} : TypeTable).filed d = [] := rfl
    have hbucket : ∀ key, ({} : TypeTable).bucket d key = [] := fun _ => rfl
    constructor <;> simp [hfiled, hbucket]

end TypeTable.Interned

/-! ## Construction -/

namespace Definition

lemma checkArg_eq_ok {d : Definition} {n : Nat} {o : Option Ty} {x : Ty} :
    d.checkArg n o = .ok x ↔ o = some x ∧ x.Usable := by
  cases o with
  | none => simp [checkArg, throw, throwThe, MonadExceptOf.throw]
  | some y =>
      rw [checkArg, Ty.Usable, Option.some.injEq]
      split
      · next hk => exact ⟨fun h => (by cases h), fun h => absurd (h.1 ▸ hk) h.2.1⟩
      · next hk => exact ⟨fun h => (by cases h), fun h => absurd (h.1 ▸ hk) h.2.2⟩
      · next hv hi =>
          constructor
          · intro h
            cases h
            exact ⟨rfl, hv, hi⟩
          · rintro ⟨rfl, -⟩
            rfl

lemma checkArgsFrom_eq_ok {d : Definition} :
    ∀ {n : Nat} {args : List (Option Ty)} {as : List Ty},
      d.checkArgsFrom n args = .ok as ↔ args = as.map some ∧ ∀ a ∈ as, a.Usable
  | n, [], as => by
      cases as <;> simp [checkArgsFrom, pure, Except.pure]
  | n, o :: args, as => by
      rw [checkArgsFrom]
      rcases hx : d.checkArg n o with e | x
      · constructor
        · intro h
          cases h
        · rintro ⟨hargs, huse⟩
          cases as with
          | nil => cases hargs
          | cons a as =>
              rw [List.map_cons, List.cons.injEq] at hargs
              rw [checkArg_eq_ok.mpr ⟨hargs.1, huse a (by simp)⟩] at hx
              cases hx
      · obtain ⟨rfl, hxu⟩ := checkArg_eq_ok.mp hx
        rcases hrest : d.checkArgsFrom (n + 1) args with e | xs
        · constructor
          · intro h
            cases h
          · rintro ⟨hargs, huse⟩
            cases as with
            | nil => cases hargs
            | cons a as =>
                rw [List.map_cons, List.cons.injEq] at hargs
                rw [checkArgsFrom_eq_ok.mpr ⟨hargs.2, fun b hb => huse b (by simp [hb])⟩] at hrest
                cases hrest
        · obtain ⟨rfl, hxsu⟩ := checkArgsFrom_eq_ok.mp hrest
          constructor
          · intro h
            cases h
            exact ⟨rfl, by simpa using ⟨hxu, hxsu⟩⟩
          · rintro ⟨hargs, -⟩
            have has : as = x :: xs := by
              have hmap : List.map some (x :: xs) = List.map some as := hargs
              exact (map_some_inj hmap).symm
            rw [has]
            rfl

/-- Arguments are accepted when there are as many as type parameters and each can be used. -/
lemma checkArgs_eq_ok {d : Definition} {args : List (Option Ty)} {as : List Ty} :
    d.checkArgs args = .ok as ↔
      args = as.map some ∧ as.length = d.arity ∧ ∀ a ∈ as, a.Usable := by
  rw [checkArgs]
  split
  · next hlen =>
      constructor
      · intro h
        cases h
      · rintro ⟨rfl, has, -⟩
        rw [List.length_map] at hlen
        exact absurd has hlen
  · next hlen =>
      rw [checkArgsFrom_eq_ok]
      constructor
      · rintro ⟨rfl, huse⟩
        rw [List.length_map, not_not] at hlen
        exact ⟨rfl, hlen, huse⟩
      · rintro ⟨hargs, -, huse⟩
        exact ⟨hargs, huse⟩

/-- What a construction comes to: it is refused, it finds an instance, or it files a new one. -/
lemma construct_cases {d : Definition} {args : List (Option Ty)} {t t' : TypeTable}
    {r : Except Failure Instance} (h : (d.construct args).run t = (r, t')) :
    (∃ e, d.checkArgs args = .error e ∧ r = .error e ∧ t' = t) ∨
      ∃ as, d.checkArgs args = .ok as ∧
        ((∃ i, t.findInstance? d as = some i ∧ r = .ok i ∧ t' = t) ∨
          (t.findInstance? d as = none ∧ r = .ok ⟨d, t.numInstances d, as⟩ ∧
            t' = t.file ⟨d, t.numInstances d, as⟩)) := by
  rw [construct, run_bind, run_ofPure] at h
  rcases hc : d.checkArgs args with e | as
  · rw [hc] at h
    cases h
    exact .inl ⟨e, rfl, rfl, rfl⟩
  · rw [hc] at h
    simp only [run_bind, run_get] at h
    refine .inr ⟨as, rfl, ?_⟩
    rcases hf : t.findInstance? d as with _ | i
    · rw [hf] at h
      cases h
      exact .inr ⟨rfl, rfl, rfl⟩
    · rw [hf] at h
      cases h
      exact .inl ⟨i, rfl, rfl, rfl⟩

end Definition

namespace TypeTable.Interned

variable {K : Set Ty} {t t' : TypeTable} {d : Definition}

/-- **Construction.**  An instance that is returned is filed over exactly the arguments given, and
the table is still in order. -/
theorem construct_ok (h : t.Interned K) (hd : .definition d ∈ K) {args : List (Option Ty)}
    (hargs : ∀ a ∈ args, KnownType K t a) {i : Instance}
    (hrun : (d.construct args).run t = (.ok i, t')) :
    t'.Interned K ∧ t.Files t' ∧ i.definition = d ∧ i.ty.Known K t' ∧ args = i.args.map some := by
  obtain ⟨e, -, he, -⟩ | ⟨as, hc, hcases⟩ := Definition.construct_cases hrun
  · cases he
  obtain ⟨rfl, hlen, huse⟩ := Definition.checkArgs_eq_ok.mp hc
  have has : ∀ a ∈ as, a.Known K t := fun a ha =>
    knownType_some.mp (hargs (some a) (List.mem_map_of_mem ha))
  obtain ⟨j, hf, hr, rfl⟩ | ⟨hf, hr, rfl⟩ := hcases
  · cases hr
    obtain ⟨hj, rfl⟩ := h.args_of_findInstance? hd has hf
    obtain ⟨hdef, hknown⟩ := h.known_of_filed hd hj
    exact ⟨h, Files.refl t', hdef, hknown, rfl⟩
  · cases hr
    have h' := h.file hd (fun a ha => ⟨has a ha, huse a ha⟩) hlen (h.args_ne_of_findInstance? hd hf)
    refine ⟨h', t.files_file _, rfl, ⟨hd, ?_⟩, rfl⟩
    exact (t.filed_file_self ⟨d, t.numInstances d, as⟩).mem_iff.mpr (by simp)

/-- Whatever becomes of a construction, the table is in order and nothing is lost. -/
lemma construct (h : t.Interned K) (hd : .definition d ∈ K) {args : List (Option Ty)}
    (hargs : ∀ a ∈ args, KnownType K t a) {r : Except Failure Instance}
    (hrun : (d.construct args).run t = (r, t')) : t'.Interned K ∧ t.Files t' := by
  rcases r with e | i
  · obtain ⟨_, -, -, rfl⟩ | ⟨as, -, ⟨i, -, hr, -⟩ | ⟨-, hr, -⟩⟩ := Definition.construct_cases hrun
    · exact ⟨h, Files.refl _⟩
    · cases hr
    · cases hr
  · obtain ⟨h', hfiles, -⟩ := h.construct_ok hd hargs hrun
    exact ⟨h', hfiles⟩

/-- Arguments that can be used, as many as there are type parameters, are always accepted. -/
lemma construct_succeeds {args : List Ty} (hlen : args.length = d.arity)
    (huse : ∀ a ∈ args, a.Usable) :
    ∃ i t', (d.construct (args.map some)).run t = (.ok i, t') := by
  have hc : d.checkArgs (args.map some) = .ok args :=
    Definition.checkArgs_eq_ok.mpr ⟨rfl, hlen, huse⟩
  rcases hrun : (d.construct (args.map some)).run t with ⟨r, t'⟩
  obtain ⟨e, he, -, -⟩ | ⟨as, -, ⟨i, -, rfl, -⟩ | ⟨-, rfl, -⟩⟩ := Definition.construct_cases hrun
  · rw [hc] at he
    cases he
  · exact ⟨i, t', rfl⟩
  · exact ⟨_, t', rfl⟩

end TypeTable.Interned
end CallSites
