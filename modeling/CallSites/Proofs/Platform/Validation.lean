import CallSites.Documents
import CallSites.Proofs.Platform.Profiles

/-!
# What is wrong with a profile

A profile that is refused comes back with an error for every rule that it breaks.
`Profile.Breaks` says which rules these are, each with the place in the profile where it is broken;
it looks at the profile as a whole and not at what has been read of it so far.  Validation reports
every broken rule once, in the order of the places, and nothing else
(`Profile.validation_exact`).

That a list is complete and in order, `Profile.InOrder`, is shown piece by piece: for a rule that
stands alone, for two pieces one of which comes before the other, and for a list of items that is
scanned from left to right, where what is wrong with an item may depend on the items before it.
-/

namespace CallSites

namespace Profile

/-! ## Rules -/

/-- Where in a profile a rule can be broken. -/
inductive Place where
  | base
  | binder
  | member (index : Nat)
  | familyName (family : Family)
  | familyRange (family : Family)
  | typeName (index : Nat)
  | typeKind (index : Nat)
  | typeRepeat (index : Nat)

/-- The number of a place, as sections and items of a document are numbered. -/
def Place.number : Place → List Nat
  | .base => [0, 0]
  | .binder => [0, 1]
  | .member i => [0, 2, i]
  | .familyName .action => [1, 0]
  | .familyRange .action => [1, 1]
  | .familyName .func => [2, 0]
  | .familyRange .func => [2, 1]
  | .typeName i => [3, i, 0]
  | .typeKind i => [3, i, 1]
  | .typeRepeat i => [3, i, 2]

/-- The part of a profile that a place is in. -/
def Place.part (a : Place) : Nat := a.number.headD 0

/-- The first place comes before the second. -/
def Place.Before (a b : Place) : Prop := a.number < b.number

instance (a b : Place) : Decidable (a.Before b) := inferInstanceAs (Decidable (a.number < b.number))

/-- The description of the cache cell types breaks a rule at a place. -/
inductive CellBreaks (c : CellSpec) : Place → ProfileViolation → Prop where
  | base : c.base = "" → CellBreaks c .base .baseRequired
  | binder : c.binder = "" → CellBreaks c .binder .binderRequired
  | member {before after : List String} {m : String} :
      c.members.getD [] = before ++ m :: after → m ≠ "Target" → m ≠ "Create" →
      CellBreaks c (.member before.length) (.unknownMember m)

/-- The description of a family breaks a rule at a place. -/
inductive FamilyBreaks (family : Family) (f : FamilySpec) : Place → ProfileViolation → Prop where
  | name : f.name = "" → FamilyBreaks family f (.familyName family) (.familyName family)
  | range : ¬ (0 ≤ f.maxParams ∧ f.maxParams ≤ 64) →
      FamilyBreaks family f (.familyRange family) (.familyRange family f.maxParams)

/-- A type breaks a rule at a place, after given other types.  Only a type with a name is looked at
further, and it must not have the full name of one before it. -/
inductive TypeBreaks (before : List TypeSpec) (t : TypeSpec) : Place → ProfileViolation → Prop where
  | name : t.name = "" → TypeBreaks before t (.typeName before.length) (.typeName before.length)
  | kind : t.name ≠ "" → t.kind ∉ ["", "class", "struct"] →
      TypeBreaks before t (.typeKind before.length) (.typeKind before.length t.kind)
  | again {t' : TypeSpec} : t.name ≠ "" → t' ∈ before → t'.name ≠ "" → t'.fullName = t.fullName →
      TypeBreaks before t (.typeRepeat before.length) (.typeTwice t.fullName)

/-- The profile breaks a rule at a place. -/
inductive Breaks (p : Profile) (a : Place) (v : ProfileViolation) : Prop where
  | cell {c : CellSpec} : p.cell = some c → CellBreaks c a v → Breaks p a v
  | family (family : Family) : FamilyBreaks family (p.family family) a v → Breaks p a v
  | type {before after : List TypeSpec} {t : TypeSpec} :
      p.types = before ++ t :: after → TypeBreaks before t a v → Breaks p a v

/-- What a profile must be like to be accepted. -/
structure WellFormed (p : Profile) : Prop where
  cell : ∀ c, p.cell = some c →
    c.base ≠ "" ∧ c.binder ≠ "" ∧ ∀ m ∈ c.members.getD [], m = "Target" ∨ m = "Create"
  family : ∀ family, (p.family family).name ≠ "" ∧
    0 ≤ (p.family family).maxParams ∧ (p.family family).maxParams ≤ 64
  type : ∀ t ∈ p.types, t.name ≠ "" ∧ t.kind ∈ ["", "class", "struct"]
  distinct : (p.types.map TypeSpec.fullName).Nodup

/-! ## Lists that are complete and in order -/

/-- The violations are all those of the given kind, once each, in the order of their places. -/
def InOrder (B : Place → ProfileViolation → Prop) (vs : List ProfileViolation) : Prop :=
  ∃ l : List (Place × ProfileViolation),
    l.Pairwise (fun x y => x.1.Before y.1) ∧ (∀ a v, (a, v) ∈ l ↔ B a v) ∧ l.map Prod.snd = vs

namespace InOrder

variable {B B' : Place → ProfileViolation → Prop} {vs vs' : List ProfileViolation}

lemma congr (h : InOrder B vs) (hB : ∀ a v, B a v ↔ B' a v) : InOrder B' vs := by
  obtain ⟨l, hsorted, hmem, hvs⟩ := h
  exact ⟨l, hsorted, fun a v => (hmem a v).trans (hB a v), hvs⟩

lemma nil (hB : ∀ a v, ¬ B a v) : InOrder B [] :=
  ⟨[], .nil, fun a v => iff_of_false List.not_mem_nil (hB a v), rfl⟩

/-- A rule that stands alone. -/
lemma ite (c : Prop) [Decidable c] (a : Place) (v : ProfileViolation) :
    InOrder (fun b w => c ∧ b = a ∧ w = v) (if c then [v] else []) := by
  split
  · next hc => exact ⟨[(a, v)], List.pairwise_singleton _ _, by simp [hc], rfl⟩
  · next hc => exact nil fun _ _ h => hc h.1

/-- One piece before another. -/
lemma append (h : InOrder B vs) (h' : InOrder B' vs')
    (hbefore : ∀ {a v b w}, B a v → B' b w → a.Before b) :
    InOrder (fun a v => B a v ∨ B' a v) (vs ++ vs') := by
  obtain ⟨l, hsorted, hmem, rfl⟩ := h
  obtain ⟨l', hsorted', hmem', rfl⟩ := h'
  refine ⟨l ++ l', List.pairwise_append.mpr ⟨hsorted, hsorted', ?_⟩, fun a v => ?_, List.map_append⟩
  · rintro ⟨a, v⟩ hx ⟨b, w⟩ hy
    exact hbefore ((hmem a v).mp hx) ((hmem' b w).mp hy)
  · rw [List.mem_append, hmem, hmem']

/-- A list of items scanned from left to right.  The induction is on the items to come; those that
have been scanned are before them. -/
lemma scan {α : Type} {f : List α → List α → List ProfileViolation}
    {g : List α → α → List ProfileViolation} {B : List α → α → Place → ProfileViolation → Prop}
    (hnil : ∀ before, f before [] = [])
    (hcons : ∀ before x after, f before (x :: after) = g before x ++ f (before ++ [x]) after)
    (hitem : ∀ before x, InOrder (B before x) (g before x))
    (hbefore : ∀ {before before' x x' a v b w}, before.length < before'.length →
      B before x a v → B before' x' b w → a.Before b) (before xs : List α) :
    InOrder (fun a v => ∃ us x ws, xs = us ++ x :: ws ∧ B (before ++ us) x a v) (f before xs) := by
  induction xs generalizing before with
  | nil =>
      rw [hnil]
      exact nil fun a v ⟨us, x, ws, h, _⟩ => by simp at h
  | cons x xs ih =>
      rw [hcons]
      have hlater : ∀ {a v b w}, B before x a v →
          (∃ us y ws, xs = us ++ y :: ws ∧ B (before ++ [x] ++ us) y b w) → a.Before b := by
        rintro a v b w ha ⟨us, y, ws, -, hb⟩
        exact hbefore (by simp) ha hb
      refine ((hitem before x).append (ih (before ++ [x])) hlater).congr fun a v => ⟨?_, ?_⟩
      · rintro (h | ⟨us, y, ws, rfl, h⟩)
        · exact ⟨[], x, xs, rfl, by rwa [List.append_nil]⟩
        · exact ⟨x :: us, y, ws, rfl, by rwa [List.append_assoc] at h⟩
      · rintro ⟨us, y, ws, hsplit, h⟩
        obtain ⟨rfl, hhead⟩ | ⟨us, rfl, rfl⟩ := List.cons_eq_append_iff.mp hsplit
        · cases hhead
          exact .inl (by rwa [List.append_nil] at h)
        · exact .inr ⟨us, y, ws, rfl, by rwa [List.append_assoc]⟩

end InOrder

/-! ## The parts of a profile -/

lemma isNone_ofName?_iff {m : String} :
    (CellMember.ofName? m).isNone = true ↔ m ≠ "Target" ∧ m ≠ "Create" := by
  rw [CellMember.ofName?]
  grind

/-- The members that are not known, in the order in which they are listed. -/
lemma inOrder_members (ms : List String) :
    InOrder (fun a v => ∃ us m ws, ms = us ++ m :: ws ∧
        (m ≠ "Target" ∧ m ≠ "Create") ∧ a = .member us.length ∧ v = .unknownMember m)
      ((ms.filter fun m => (CellMember.ofName? m).isNone).map .unknownMember) := by
  refine InOrder.scan
    (f := fun _ ms => (ms.filter fun m => (CellMember.ofName? m).isNone).map .unknownMember)
    (g := fun _ m => if m ≠ "Target" ∧ m ≠ "Create" then [.unknownMember m] else [])
    (B := fun us m a v => (m ≠ "Target" ∧ m ≠ "Create") ∧ a = .member us.length ∧
      v = .unknownMember m) (fun _ => rfl) ?_ (fun _ _ => .ite _ _ _) ?_ [] ms
  · intro _ m ms
    simp only [List.filter_cons, isNone_ofName?_iff]
    split <;> rfl
  · rintro us us' m m' _ _ _ _ hlt ⟨-, rfl, -⟩ ⟨-, rfl, -⟩
    simpa [Place.Before, Place.number, List.cons_lt_cons_iff] using hlt

lemma inOrder_cellViolations (c : CellSpec) : InOrder (CellBreaks c) (cellViolations c) := by
  have hfields := (InOrder.ite (c.base = "") .base .baseRequired).append
    (.ite (c.binder = "") .binder .binderRequired)
    (by rintro _ _ _ _ ⟨-, rfl, -⟩ ⟨-, rfl, -⟩; decide)
  refine (hfields.append (inOrder_members _) ?_).congr fun a v => ⟨?_, fun h => ?_⟩
  · rintro _ _ _ _ (⟨-, rfl, -⟩ | ⟨-, rfl, -⟩) ⟨us, m, ws, -, -, rfl, -⟩ <;>
      simp [Place.Before, Place.number, List.cons_lt_cons_iff]
  · rintro ((⟨h, rfl, rfl⟩ | ⟨h, rfl, rfl⟩) | ⟨us, m, ws, hsplit, h, rfl, rfl⟩)
    · exact .base h
    · exact .binder h
    · exact .member hsplit h.1 h.2
  · cases h with
    | base h => exact .inl (.inl ⟨h, rfl, rfl⟩)
    | binder h => exact .inl (.inr ⟨h, rfl, rfl⟩)
    | member hsplit h h' => exact .inr ⟨_, _, _, hsplit, ⟨h, h'⟩, rfl, rfl⟩

lemma outOfRange_iff {n : Int} : n < 0 ∨ maxFamilyParams < n ↔ ¬ (0 ≤ n ∧ n ≤ 64) := by
  rw [maxFamilyParams]
  omega

lemma inOrder_familyViolations (family : Family) (f : FamilySpec) :
    InOrder (FamilyBreaks family f) (familyViolations family f) := by
  refine ((InOrder.ite (f.name = "") (.familyName family) (.familyName family)).append
    (.ite _ (.familyRange family) (.familyRange family f.maxParams)) ?_).congr
    fun a v => ⟨?_, fun h => ?_⟩
  · rintro _ _ _ _ ⟨-, rfl, -⟩ ⟨-, rfl, -⟩
    cases family <;> decide
  · rintro (⟨h, rfl, rfl⟩ | ⟨h, rfl, rfl⟩)
    · exact .name h
    · exact .range (outOfRange_iff.mp h)
  · cases h with
    | name h => exact .inl ⟨h, rfl, rfl⟩
    | range h => exact .inr ⟨outOfRange_iff.mpr h, rfl, rfl⟩

/-- The full names that have been given, the last one first. -/
def fullNamesTaken (ts : List TypeSpec) : List String :=
  ((ts.filter fun t => t.name ≠ "").map TypeSpec.fullName).reverse

lemma mem_fullNamesTaken {ts : List TypeSpec} {name : String} :
    name ∈ fullNamesTaken ts ↔ ∃ t ∈ ts, t.name ≠ "" ∧ t.fullName = name := by
  simp [fullNamesTaken, and_assoc]

lemma fullNamesTaken_append_singleton (ts : List TypeSpec) (t : TypeSpec) :
    fullNamesTaken (ts ++ [t]) =
      if t.name = "" then fullNamesTaken ts else t.fullName :: fullNamesTaken ts := by
  by_cases hname : t.name = ""
  · simp [fullNamesTaken, hname]
  · simp [fullNamesTaken, hname]

/-- The rules that a type breaks after given ones. -/
def typeViolationsAfter (before : List TypeSpec) (t : TypeSpec) : List ProfileViolation :=
  (if t.name = "" then [.typeName before.length] else []) ++
  (if t.name ≠ "" ∧ t.kind ∉ knownKinds then [.typeKind before.length t.kind] else []) ++
  (if t.name ≠ "" ∧ t.fullName ∈ fullNamesTaken before then [.typeTwice t.fullName] else [])

lemma typeViolations_cons (before : List TypeSpec) (t : TypeSpec) (after : List TypeSpec) :
    typeViolations before.length (fullNamesTaken before) (t :: after) =
      typeViolationsAfter before t ++
        typeViolations (before ++ [t]).length (fullNamesTaken (before ++ [t])) after := by
  rw [typeViolations, typeViolationsAfter, fullNamesTaken_append_singleton, List.length_append]
  by_cases hname : t.name = ""
  · simp [hname]
  · simp [hname]

lemma inOrder_typeViolationsAfter (before : List TypeSpec) (t : TypeSpec) :
    InOrder (TypeBreaks before t) (typeViolationsAfter before t) := by
  let i := before.length
  -- the rule about names excludes the other two, so only these have to be in order
  have hfields := (InOrder.ite (t.name = "") (.typeName i) (.typeName i)).append
    (.ite (t.name ≠ "" ∧ t.kind ∉ knownKinds) (.typeKind i) (.typeKind i t.kind))
    (by rintro _ _ _ _ ⟨hname, -⟩ ⟨hkind, -⟩; exact absurd hname hkind.1)
  refine (hfields.append (.ite _ (.typeRepeat i) (.typeTwice t.fullName)) ?_).congr
    fun a v => ⟨?_, fun h => ?_⟩
  · rintro _ _ _ _ (⟨hname, -⟩ | ⟨-, rfl, -⟩) ⟨hagain, rfl, -⟩
    · exact absurd hname hagain.1
    · simp [Place.Before, Place.number, List.cons_lt_cons_iff]
  · rintro ((⟨h, rfl, rfl⟩ | ⟨h, rfl, rfl⟩) | ⟨h, rfl, rfl⟩)
    · exact .name h
    · exact .kind h.1 h.2
    · obtain ⟨t', ht', hname, hfull⟩ := mem_fullNamesTaken.mp h.2
      exact .again h.1 ht' hname hfull
  · cases h with
    | name h => exact .inl (.inl ⟨h, rfl, rfl⟩)
    | kind h h' => exact .inl (.inr ⟨⟨h, h'⟩, rfl, rfl⟩)
    | again h ht' hname hfull =>
        exact .inr ⟨⟨h, mem_fullNamesTaken.mpr ⟨_, ht', hname, hfull⟩⟩, rfl, rfl⟩

lemma TypeBreaks.number_eq {before : List TypeSpec} {t : TypeSpec} {a : Place}
    {v : ProfileViolation} (h : TypeBreaks before t a v) :
    ∃ k, a.number = [3, before.length, k] := by
  cases h <;> exact ⟨_, rfl⟩

lemma inOrder_typeViolations (ts : List TypeSpec) :
    InOrder (fun a v => ∃ us t ws, ts = us ++ t :: ws ∧ TypeBreaks us t a v)
      (typeViolations 0 [] ts) := by
  refine InOrder.scan (f := fun before => typeViolations before.length (fullNamesTaken before))
    (B := TypeBreaks) (fun _ => rfl) typeViolations_cons inOrder_typeViolationsAfter ?_ [] ts
  intro us us' t t' a v b w hlt ha hb
  obtain ⟨k, hk⟩ := ha.number_eq
  obtain ⟨k', hk'⟩ := hb.number_eq
  simp [Place.Before, hk, hk', List.cons_lt_cons_iff, hlt]

/-! ## Profiles -/

lemma Place.before_of_part_lt {a b : Place} (h : a.part < b.part) : a.Before b := by
  have hcons : ∀ a : Place, a.number = a.part :: a.number.tail := by
    intro a
    rcases a with _ | _ | _ | ⟨_ | _⟩ | ⟨_ | _⟩ | _ | _ | _ <;> rfl
  rw [Before, hcons a, hcons b, List.cons_lt_cons_iff]
  exact .inl h

section Parts

variable {a : Place} {v : ProfileViolation}

lemma CellBreaks.part_eq {c : CellSpec} (h : CellBreaks c a v) : a.part = 0 := by
  cases h <;> rfl

lemma FamilyBreaks.part_eq {family : Family} {f : FamilySpec} (h : FamilyBreaks family f a v) :
    a.part = if family = .action then 1 else 2 := by
  cases h <;> cases family <;> rfl

lemma TypeBreaks.part_eq {before : List TypeSpec} {t : TypeSpec} (h : TypeBreaks before t a v) :
    a.part = 3 := by
  cases h <;> rfl

end Parts

lemma violations_eq (p : Profile) :
    p.violations = p.cell.elim [] cellViolations ++ familyViolations .action p.action ++
      familyViolations .func p.func ++ typeViolations 0 [] p.types := by
  rw [violations]
  rcases p.cell with _ | c <;> rfl

/-- The rules that a profile breaks are listed once each, in order. -/
theorem inOrder_violations (p : Profile) : InOrder p.Breaks p.violations := by
  have hcell : InOrder (fun a v => ∃ c, p.cell = some c ∧ CellBreaks c a v)
      (p.cell.elim [] cellViolations) := by
    rcases p.cell with _ | c
    · exact .nil fun a v ⟨c, hc, _⟩ => by cases hc
    · exact (inOrder_cellViolations c).congr (by simp)
  have haction := hcell.append (inOrder_familyViolations .action p.action) (by
    rintro a v b w ⟨c, -, ha⟩ hb
    exact Place.before_of_part_lt (by simp [ha.part_eq, hb.part_eq]))
  have hfunc := haction.append (inOrder_familyViolations .func p.func) (by
    rintro a v b w (⟨c, -, ha⟩ | ha) hb <;>
      exact Place.before_of_part_lt (by simp [ha.part_eq, hb.part_eq]))
  have htypes := hfunc.append (inOrder_typeViolations p.types) (by
    rintro a v b w ((⟨c, -, ha⟩ | ha) | ha) ⟨us, t, ws, -, hb⟩ <;>
      exact Place.before_of_part_lt (by simp [ha.part_eq, hb.part_eq]))
  rw [violations_eq]
  refine htypes.congr fun a v => ⟨?_, fun h => ?_⟩
  · rintro (((⟨c, hc, h⟩ | h) | h) | ⟨us, t, ws, hsplit, h⟩)
    · exact .cell hc h
    · exact .family .action h
    · exact .family .func h
    · exact .type hsplit h
  · cases h with
    | cell hc h => exact .inl (.inl (.inl ⟨_, hc, h⟩))
    | family family h =>
        cases family
        · exact .inl (.inl (.inr h))
        · exact .inl (.inr h)
    | type hsplit h => exact .inr ⟨_, _, _, hsplit, h⟩

lemma cellViolations_eq_nil_iff {c : CellSpec} :
    cellViolations c = [] ↔
      c.base ≠ "" ∧ c.binder ≠ "" ∧ ∀ m ∈ c.members.getD [], m = "Target" ∨ m = "Create" := by
  have hmember : ∀ m, ¬ (CellMember.ofName? m).isNone = true ↔ m = "Target" ∨ m = "Create" := by
    intro m
    rw [isNone_ofName?_iff]
    tauto
  simp only [cellViolations, List.append_eq_nil_iff, List.map_eq_nil_iff, List.filter_eq_nil_iff,
    hmember, ite_eq_right_iff, reduceCtorEq, imp_false, and_assoc]

lemma familyViolations_eq_nil_iff {family : Family} {f : FamilySpec} :
    familyViolations family f = [] ↔ f.name ≠ "" ∧ 0 ≤ f.maxParams ∧ f.maxParams ≤ 64 := by
  rw [familyViolations, List.append_eq_nil_iff, ite_eq_right_iff, ite_eq_right_iff, outOfRange_iff]
  simp

/-- A profile is well formed when it breaks no rule. -/
lemma wellFormed_iff_violations {p : Profile} : p.WellFormed ↔ p.violations = [] := by
  have hcell : p.cell.elim [] cellViolations = [] ↔
      ∀ c, p.cell = some c → cellViolations c = [] := by
    rcases p.cell with _ | c <;> simp
  have htypes : typeViolations 0 [] p.types = [] ↔
      (∀ t ∈ p.types, t.name ≠ "" ∧ t.kind ∈ ["", "class", "struct"]) ∧
        (p.types.map TypeSpec.fullName).Nodup := by
    rw [typeViolations_eq_nil_iff]
    simp [knownKinds]
  rw [violations_eq, List.append_eq_nil_iff, List.append_eq_nil_iff, List.append_eq_nil_iff]
  constructor
  · rintro ⟨hc, hf, ht, hd⟩
    exact ⟨⟨⟨hcell.mpr fun c h => cellViolations_eq_nil_iff.mpr (hc c h),
      familyViolations_eq_nil_iff.mpr (hf .action)⟩, familyViolations_eq_nil_iff.mpr (hf .func)⟩,
      htypes.mpr ⟨ht, hd⟩⟩
  · rintro ⟨⟨⟨hc, haction⟩, hfunc⟩, ht⟩
    refine ⟨fun c h => cellViolations_eq_nil_iff.mp (hcell.mp hc c h), fun family => ?_,
      (htypes.mp ht).1, (htypes.mp ht).2⟩
    cases family
    · exact familyViolations_eq_nil_iff.mp haction
    · exact familyViolations_eq_nil_iff.mp hfunc

/-- The profile is accepted with its defaults filled in. -/
lemma ofProfile_of_parse {decode : Decoder Profile} {text path : String} {prof : Profile}
    (h : Profile.parse decode text path = .ok prof) : Platform.ofProfile prof = .ok ⟨prof⟩ := by
  rw [parse] at h
  split at h
  · cases h
  · split at h
    · cases h
    · next hvalid =>
        cases h
        exact Platform.ofProfile_withDefaults (validate_eq_none_iff.mp hvalid)

/-- **Validation is exact and stable under defaults.**  A profile is accepted just when it is well
formed.  Otherwise there is one error for each rule that it breaks, in the order of the places where
they are broken.  Filling in defaults a second time changes nothing, and filling them in changes no
error.  So a profile that was read is accepted as it is, and so is the common one; and a profile
that was accepted is accepted again with its defaults filled in, and describes the same platform. -/
theorem validation_exact (p : Profile) (path : String) :
    (p.validate path = none ↔ p.WellFormed) ∧
      (∃ vs, InOrder p.Breaks vs ∧
        Error.listed (p.validate path) = vs.map fun v => .cause (.profile path v)) ∧
      p.withDefaults.withDefaults = p.withDefaults ∧
      p.withDefaults.validate path = p.validate path ∧
      (∀ decode text, parse decode text path = .ok p → Platform.ofProfile p = .ok ⟨p⟩) ∧
      Platform.ofProfile .standard = .ok .standard ∧
      ∀ platform, Platform.ofProfile p = .ok platform →
        platform.profile = p.withDefaults ∧ Platform.ofProfile p.withDefaults = .ok platform := by
  refine ⟨validate_eq_none_iff.trans wellFormed_iff_violations.symm,
    ⟨p.violations, p.inOrder_violations, ?_⟩, p.withDefaults_withDefaults, ?_,
    fun _ _ => ofProfile_of_parse, Platform.ofProfile_standard, fun platform h => ?_⟩
  · refine Error.listed_ofList fun e he => ?_
    obtain ⟨v, -, rfl⟩ := List.mem_map.mp he
    rfl
  · rw [validate, validate, violations_withDefaults]
  · obtain ⟨hnone, rfl⟩ := Platform.ofProfile_eq_ok.mp h
    exact ⟨rfl, Platform.ofProfile_withDefaults hnone⟩

/-- A profile with something wrong in every part of it, a type without a name among those with the
same name, and a profile that was read. -/
theorem validation_of_broken_profile :
    let p : Profile :=
      { cell := some { binder := "Binder", members := some ["Target", "Site", "Site"] }
        action := { maxParams := 65 }
        func := { name := "Func", maxParams := -1 }
        types := [{ name := "T", kind := "enum" }, {}, { name := "T" }, { name := "T" }] }
    let text := "action: \x7bname: Action\x7d\nfunc: \x7bname: Func\x7d"
    ¬ p.WellFormed ∧
      InOrder p.Breaks
        [.baseRequired, .unknownMember "Site", .unknownMember "Site", .familyName .action,
          .familyRange .action 65, .familyRange .func (-1), .typeKind 0 "enum", .typeName 1,
          .typeTwice "T", .typeTwice "T"] ∧
      ∃ q, parse ofYaml text "p" = .ok q ∧ Platform.ofProfile q = .ok ⟨q⟩ ∧
        Platform.ofProfile q.withDefaults = .ok ⟨q⟩ := by
  intro p text
  obtain ⟨hvalid, ⟨vs, hvs, hlisted⟩, -⟩ := validation_exact p "p"
  refine ⟨fun h => ?_, ?_, ?_⟩
  · have hnone : (p.validate "p").isNone = true := by rw [hvalid.mpr h]; rfl
    exact absurd hnone (by decide)
  · have hinj : Function.Injective fun v => Error.cause (.profile "p" v) := by
      intro v w h
      cases h
      rfl
    convert hvs using 1
    apply hinj.list_map
    rw [← hlisted]
    rfl
  · have hok : (parse ofYaml text "p").toBool = true := by decide +kernel
    rcases hparse : parse ofYaml text "p" with e | q
    · rw [hparse] at hok
      cases hok
    · obtain ⟨-, -, -, -, hread, -, hagain⟩ := validation_exact q "p"
      have haccepted : Platform.ofProfile q = .ok ⟨q⟩ := hread ofYaml text hparse
      exact ⟨q, rfl, haccepted, (hagain _ haccepted).2⟩

end Profile

end CallSites
