import CallSites.Proofs.Errors
import CallSites.Proofs.Platform.Types

/-!
# Accepted profiles

A profile is validated twice on its way to a platform, when it is read and when the platform is
made, and its defaults are filled in both times.  The second time changes nothing: defaults break no
rule that the profile did not break before (`Profile.violations_withDefaults`), and there is nothing
left to be filled in (`Profile.withDefaults_withDefaults`).

What a program can do with a platform depends on which members its generic cache cell type has.
`Platform.Offers` says so in terms of the profile.
-/

namespace CallSites

/-! ## Validation -/

namespace Profile

variable (p : Profile)

lemma validate_eq_none_iff {p : Profile} {path : String} :
    p.validate path = none ↔ p.violations = [] := by
  rw [validate, Error.ofList_eq_none_iff, List.map_eq_nil_iff]

lemma cellViolations_cellDefaults (c : CellSpec) :
    cellViolations (cellDefaults c) = cellViolations c := by
  have hmembers : (([CellMember.target.name, CellMember.create.name] : List String).filter fun m =>
      (CellMember.ofName? m).isNone) = [] := by decide
  rcases hc : c.members with _ | ms
  · simp [cellViolations, cellDefaults, hc, hmembers]
  · simp [cellViolations, cellDefaults, hc]

/-- A kind that is filled in is a known one, and nothing else about a type is. -/
lemma typeViolations_typeDefaults :
    ∀ (i : Nat) (taken : List String) (ts : List TypeSpec),
      typeViolations i taken (ts.map typeDefaults) = typeViolations i taken ts
  | _, _, [] => rfl
  | i, taken, t :: ts => by
      have hname : (typeDefaults t).name = t.name := rfl
      have hfull : (typeDefaults t).fullName = t.fullName := rfl
      have hkind : (if (typeDefaults t).kind ∈ knownKinds then [] else
            [ProfileViolation.typeKind i (typeDefaults t).kind]) =
          if t.kind ∈ knownKinds then [] else [.typeKind i t.kind] := by
        by_cases hempty : t.kind = ""
        · simp [typeDefaults, hempty, knownKinds]
        · simp [typeDefaults, hempty]
      rw [List.map_cons, typeViolations, typeViolations, hname, hfull, hkind,
        typeViolations_typeDefaults (i + 1) taken ts,
        typeViolations_typeDefaults (i + 1) (t.fullName :: taken) ts]

/-- **When a list of types breaks no rule**: each type has a name and a known kind, and no full name
is taken or given twice. -/
lemma typeViolations_eq_nil_iff :
    ∀ (i : Nat) (taken : List String) (ts : List TypeSpec),
      typeViolations i taken ts = [] ↔
        (∀ t ∈ ts, t.name ≠ "" ∧ t.kind ∈ knownKinds ∧ t.fullName ∉ taken) ∧
          (ts.map TypeSpec.fullName).Nodup
  | _, _, [] => by simp [typeViolations]
  | i, taken, t :: ts => by
      have hkind : (if t.kind ∈ knownKinds then [] else [ProfileViolation.typeKind i t.kind]) = [] ↔
          t.kind ∈ knownKinds := by simp
      have hnew : (if t.fullName ∈ taken then [ProfileViolation.typeTwice t.fullName] else []) = [] ↔
          t.fullName ∉ taken := by simp
      rw [typeViolations]
      by_cases hname : t.name = ""
      · simp [hname]
      · rw [if_neg hname, List.append_eq_nil_iff, List.append_eq_nil_iff, hkind, hnew,
          typeViolations_eq_nil_iff (i + 1) (t.fullName :: taken) ts, List.map_cons,
          List.nodup_cons]
        -- the name of the first type is taken further down, which is to say not given again
        grind

/-- **Defaults break no rules**, and mend none. -/
theorem violations_withDefaults : p.withDefaults.violations = p.violations := by
  simp only [violations, withDefaults, typeViolations_typeDefaults]
  rcases p.cell with _ | c
  · rfl
  · simp only [Option.map_some, cellViolations_cellDefaults]

lemma cellDefaults_cellDefaults (c : CellSpec) :
    cellDefaults (cellDefaults c) = cellDefaults c := by
  simp only [cellDefaults, Option.getD_some]
  by_cases hgeneric : c.generic = ""
  · simp [hgeneric]
  · simp [hgeneric]

lemma typeDefaults_typeDefaults (t : TypeSpec) :
    typeDefaults (typeDefaults t) = typeDefaults t := by
  by_cases hkind : t.kind = ""
  · simp [typeDefaults, hkind]
  · simp [typeDefaults, hkind]

/-- Defaults are filled in once. -/
theorem withDefaults_withDefaults : p.withDefaults.withDefaults = p.withDefaults := by
  have hruntime : p.withDefaults.runtime ≠ "" := by
    by_cases h : p.runtime = "" <;> simp [withDefaults, h]
  have hcell : p.withDefaults.cell.map cellDefaults = p.withDefaults.cell := by
    simp [withDefaults, Option.map_map, Function.comp_def, cellDefaults_cellDefaults]
  have htypes : p.withDefaults.types.map typeDefaults = p.withDefaults.types := by
    simp [withDefaults, Function.comp_def, typeDefaults_typeDefaults]
  rw [withDefaults, if_neg hruntime, hcell, htypes]

end Profile

lemma CellMember.ofName?_name (m : CellMember) : CellMember.ofName? m.name = some m := by
  cases m <;> rfl

/-! ## Platforms of accepted profiles -/

namespace Platform

variable {p : Platform} {prof : Profile}

lemma ofProfile_eq_ok :
    Platform.ofProfile prof = .ok p ↔ prof.violations = [] ∧ p = ⟨prof.withDefaults⟩ := by
  rw [ofProfile]
  split
  · next e he =>
      refine iff_of_false (fun h => by cases h) fun h => ?_
      rw [Profile.validate_eq_none_iff.mpr h.1] at he
      cases he
  · next hnone =>
      refine ⟨fun h => ⟨Profile.validate_eq_none_iff.mp hnone, ?_⟩, fun h => ?_⟩
      · exact (Except.ok.inj h).symm
      · rw [h.2]
        rfl

/-- A profile that has been accepted is accepted again, and describes the same platform. -/
lemma ofProfile_withDefaults (h : prof.violations = []) :
    Platform.ofProfile prof.withDefaults = .ok ⟨prof.withDefaults⟩ :=
  ofProfile_eq_ok.mpr ⟨prof.violations_withDefaults.trans h, by
    rw [prof.withDefaults_withDefaults]⟩

lemma ofProfile_standard : Platform.ofProfile .standard = .ok .standard :=
  ofProfile_withDefaults (by decide)

/-- The families of an accepted profile are small. -/
lemma maxParams_le (h : Platform.ofProfile prof = .ok p) (family : Family) :
    (p.profile.family family).maxParams ≤ maxFamilyParams := by
  obtain ⟨hnone, rfl⟩ := ofProfile_eq_ok.mp h
  have hfamily : Profile.familyViolations family (prof.family family) = [] := by
    simp only [Profile.violations, List.append_eq_nil_iff] at hnone
    cases family
    · exact hnone.1.1.2
    · exact hnone.1.2
  have hsame : prof.withDefaults.family family = prof.family family := by cases family <;> rfl
  rw [Profile.familyViolations, List.append_eq_nil_iff] at hfamily
  obtain ⟨-, hrange⟩ := hfamily
  rw [hsame]
  by_contra hlt
  rw [if_pos (.inr (not_le.mp hlt))] at hrange
  cases hrange

/-! ## Members of the generic cache cell type -/

/-- The platform has cache cell types, and the generic one has the given member. -/
def Offers (p : Platform) (m : CellMember) : Prop :=
  ∃ c, p.profile.cell = some c ∧ m.name ∈ c.members.getD []

lemma mem_cellMembers {c : CellSpec} {m : CellMember} :
    m ∈ cellMembers c ↔ m.name ∈ c.members.getD [] := by
  rw [cellMembers, List.mem_filterMap]
  constructor
  · rintro ⟨name, hname, hm⟩
    have hof : m.name = name := by
      rw [CellMember.ofName?] at hm
      split at hm
      · next h =>
          cases hm
          exact h.symm
      · split at hm
        · next h =>
            cases hm
            exact h.symm
        · cases hm
    exact hof ▸ hname
  · exact fun hname => ⟨m.name, hname, m.ofName?_name⟩

/-- The generic cache cell type declares what the platform offers. -/
lemma mem_names_declarations_iff {d : Definition} (h : p.genericCell? = some d) (m : CellMember) :
    m.name ∈ d.declarations.map Declaration.name ↔ p.Offers m := by
  obtain ⟨c, hc, rfl⟩ := Option.map_eq_some_iff.mp h
  have hnames : (cellDefinition c).declarations.map Declaration.name =
      (cellMembers c).map CellMember.name := by
    rw [Definition.declarations, cellDefinition, List.map_map]
    refine List.map_congr_left fun m _ => ?_
    cases m <;> rfl
  have hinj : Function.Injective CellMember.name := fun m m' hm =>
    Option.some.inj (by rw [← m.ofName?_name, hm, m'.ofName?_name])
  rw [hnames, List.mem_map_of_injective hinj, mem_cellMembers, Offers, hc]
  simp

/-- What the platform does not offer cannot be had. -/
lemma cellMember_of_not_offers {m : CellMember} (h : ¬ p.Offers m) :
    p.cellMember m.name = .error (.lacks (.cellMember m.name p.runtime)) := by
  rw [cellMember]
  split
  · rfl
  · next x hx =>
      obtain ⟨d, hd, hmember⟩ := Option.bind_eq_some_iff.mp hx
      obtain ⟨hdecl, hname, -⟩ := TypeTable.member?_eq_some hmember
      refine absurd ((mem_names_declarations_iff hd m).mp ?_) h
      rw [TypeTable.declared] at hdecl
      exact List.mem_map.mpr ⟨_, (List.append_nil _).subst hdecl, hname⟩

lemma Offers.exists_cellMember {m : CellMember} (h : p.Offers m) :
    ∃ x, p.cellMember m.name = .ok x := by
  obtain ⟨c, hc, -⟩ := id h
  have hd : p.genericCell? = some (cellDefinition c) := by rw [genericCell?, hc]; rfl
  obtain ⟨decl, hdecl, hname⟩ := List.mem_map.mp ((mem_names_declarations_iff hd m).mpr h)
  have hmem : decl ∈ ({} : TypeTable).declared (cellDefinition c) := List.mem_append_left _ hdecl
  obtain ⟨x, hx⟩ := TypeTable.exists_member? hmem
  refine ⟨x, ?_⟩
  rw [cellMember, hd, Option.bind_some, ← hname, hx]
  rfl

lemma Offers.exists_cell {m : CellMember} (h : p.Offers m) : ∃ n, p.cell? = some n := by
  obtain ⟨c, hc, -⟩ := h
  exact ⟨_, by rw [cell?, hc]; rfl⟩

lemma Offers.exists_binder {m : CellMember} (h : p.Offers m) :
    ∃ n, p.binder? = some n ∧ p.binder = .ok (.named n) := by
  obtain ⟨c, hc, -⟩ := h
  have hn : p.binder? = some ⟨.binder, c.ns, c.binder, .reference⟩ := by rw [binder?, hc]; rfl
  exact ⟨_, hn, by rw [binder, hn]; rfl⟩

end Platform

end CallSites
