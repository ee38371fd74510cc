import CallSites.Proofs.Errors
import CallSites.Proofs.Program.NormalForm
import CallSites.Documents

/-!
# The operands of a site

A site gives its types by name.  All the names are looked up, also after one of them has failed, and
then either all the operands come back or all the failures do, one for each name that failed
(`SiteSpec.operands_all_or_nothing`).  Nothing is assumed about how names are looked up, except that
each failure is a single error.

As every argument that is named gets its place, found or not, the pass modes of a site that obeys
the rules fit its operands, and its shape can always be derived.
-/

namespace CallSites

/-- The rules for sites hold in a file that is accepted. -/
lemma SiteFile.violations_of_parse {decode : Decoder SiteFile} {text path : String}
    {file : SiteFile} (h : SiteFile.parse decode text path = .ok file) :
    ∀ spec ∈ file.sites, spec.violations = [] := by
  rw [parse] at h
  split at h
  · cases h
  · next file₀ _ =>
      split at h
      · cases h
      · next hvalid =>
          cases h
          rw [validate, Error.ofList_eq_none_iff, List.map_eq_nil_iff, violations,
            List.flatMap_eq_nil_iff] at hvalid
          intro spec hspec
          obtain ⟨i, hi⟩ := List.mem_iff_getElem?.mp hspec
          exact List.map_eq_nil_iff.mp
            (hvalid (spec, i) (List.mem_zipIdx_iff_getElem?.mpr hi))

namespace SiteSpec

/-- All the names in a site that are looked up. -/
def names (spec : SiteSpec) : List String :=
  spec.receiver :: spec.args ++ [spec.right, spec.resultName]

section Lookup

variable (lookup : String → Except Error Ty)

/-- There is a name, and it cannot be looked up. -/
def fails (name : String) : Bool := name ≠ "" && !(lookup name).toBool

/-- What an operand is, by its name. -/
inductive Finds : String → Option Ty → Prop where
  | absent : Finds "" none
  | found {name : String} {t : Ty} : name ≠ "" → lookup name = .ok t → Finds name (some t)

/-- The operands are all those of the site. -/
structure Resolved (spec : SiteSpec) (ops : Operands) : Prop where
  receiver : Finds lookup spec.receiver ops.receiver
  args : List.Forall₂ (Finds lookup) spec.args ops.args
  right : Finds lookup spec.right ops.right
  result : spec.result ≠ "void" → Finds lookup spec.result ops.result
  void : spec.result = "void" → ops.result = none
  receiverByRef : ops.receiverByRef = spec.receiverByRef
  argByRef : ops.argByRef = spec.argByRef

/-- The operands that come back, which are empty if there is an error. -/
def returned (spec : SiteSpec) : Operands := (spec.operands lookup).toOption.getD {}

/-- The operands of a site as far as their types are found. -/
def operandsFound (spec : SiteSpec) : Operands :=
  { receiver := found (lookupOptional lookup spec.receiver)
    receiverByRef := spec.receiverByRef
    args := spec.args.map fun name => found (lookupOptional lookup name)
    argByRef := spec.argByRef
    right := found (lookupOptional lookup spec.right)
    result := found (lookupOptional lookup spec.resultName) }

/-- The errors of a list of names, in their order. -/
def failures (names : List String) : List Error :=
  names.filterMap fun name => reason (lookupOptional lookup name)

end Lookup

variable {lookup : String → Except Error Ty} {spec : SiteSpec} {name : String}

/-! ## Failures -/

lemma reason_lookupOptional_iff {e : Error} :
    reason (lookupOptional lookup name) = some e ↔ name ≠ "" ∧ lookup name = .error e := by
  rw [lookupOptional]
  split
  · next h => exact iff_of_false (fun he => by cases he) fun he => he.1 h
  · next h =>
      rw [and_iff_right h]
      rcases lookup name with x | t
      · simp [reason, Except.map]
      · simp [reason, Except.map]

lemma mem_failures {names : List String} {e : Error} :
    e ∈ failures lookup names ↔ ∃ name ∈ names, name ≠ "" ∧ lookup name = .error e := by
  simp only [failures, List.mem_filterMap, reason_lookupOptional_iff]

lemma failures_ne_nil_iff {names : List String} :
    failures lookup names ≠ [] ↔ ∃ name ∈ names, name ≠ "" ∧ ∃ e, lookup name = .error e := by
  constructor
  · intro hne
    obtain ⟨e, he⟩ := List.exists_mem_of_ne_nil _ hne
    obtain ⟨name, hname, hgiven, hlookup⟩ := mem_failures.mp he
    exact ⟨name, hname, hgiven, e, hlookup⟩
  · rintro ⟨name, hname, hgiven, e, he⟩
    exact List.ne_nil_of_mem (mem_failures.mpr ⟨name, hname, hgiven, he⟩)

lemma fails_iff : fails lookup name = true ↔ name ≠ "" ∧ ∃ e, lookup name = .error e := by
  rw [fails, Bool.and_eq_true, decide_eq_true_iff]
  rcases lookup name with e | t <;> simp [Except.toBool]

/-- There is one error for each name that fails. -/
lemma forall₂_failures (names : List String) :
    List.Forall₂ (fun name e => lookup name = .error e) (names.filter (fails lookup))
      (failures lookup names) := by
  induction names with
  | nil => exact .nil
  | cons name names ih =>
      rw [failures, List.filterMap_cons, List.filter_cons]
      rcases hreason : reason (lookupOptional lookup name) with _ | e
      · have hfound : ¬ fails lookup name = true := by
          rw [fails_iff]
          rintro ⟨hne, e, he⟩
          rw [reason_lookupOptional_iff.mpr ⟨hne, he⟩] at hreason
          cases hreason
        rw [if_neg hfound]
        exact ih
      · obtain ⟨hne, he⟩ := reason_lookupOptional_iff.mp hreason
        rw [if_pos (fails_iff.mpr ⟨hne, e, he⟩)]
        exact .cons he ih

/-- What comes of a site is decided by the errors of its names. -/
lemma operands_cases (spec : SiteSpec)
    (hsingle : ∀ name e, lookup name = .error e → e.Single) :
    (failures lookup spec.names = [] ∧ spec.operands lookup = .ok (spec.operandsFound lookup)) ∨
      ∃ e, Error.ofList (failures lookup spec.names) = some e ∧
        spec.operands lookup = .error e := by
  have hreasons : (lookupOptional lookup spec.receiver :: lookupAll lookup spec.args ++
      [lookupOptional lookup spec.right, lookupOptional lookup spec.resultName]).map reason =
      spec.names.map fun name => reason (lookupOptional lookup name) := by
    simp [names, lookupAll]
  have hgather : Error.gather (spec.names.map fun name => reason (lookupOptional lookup name)) =
      Error.ofList (failures lookup spec.names) := by
    rw [Error.gather_eq_ofList, List.reduceOption, List.filterMap_map, failures, Function.id_comp]
    intro e he
    obtain ⟨name, -, hreason⟩ := List.mem_map.mp he
    exact hsingle name e (reason_lookupOptional_iff.mp hreason).2
  rw [operands, hreasons, hgather]
  rcases hlist : Error.ofList (failures lookup spec.names) with _ | e
  · refine .inl ⟨Error.ofList_eq_none_iff.mp hlist, ?_⟩
    simp only [operandsFound, lookupAll, List.map_map]
    rfl
  · exact .inr ⟨e, rfl, rfl⟩

lemma operands_eq_error_iff (hsingle : ∀ name e, lookup name = .error e → e.Single) {e : Error} :
    spec.operands lookup = .error e ↔ Error.ofList (failures lookup spec.names) = some e := by
  obtain ⟨hnil, hops⟩ | ⟨x, hlist, hops⟩ := spec.operands_cases hsingle
  · rw [hops, hnil]
    exact iff_of_false (fun h => by cases h) fun h => by cases h
  · rw [hops, hlist, Except.error.injEq, Option.some.injEq]

lemma single_of_mem_failures (hsingle : ∀ name e, lookup name = .error e → e.Single)
    {names : List String} : ∀ e ∈ failures lookup names, e.Single := by
  intro e he
  obtain ⟨name, -, -, hlookup⟩ := mem_failures.mp he
  exact hsingle name e hlookup

/-! ## Operands that are found -/

lemma finds_found (h : fails lookup name = false) :
    Finds lookup name (found (lookupOptional lookup name)) := by
  rw [lookupOptional]
  split
  · next hempty => exact hempty ▸ .absent
  · next hne =>
      rcases hlookup : lookup name with e | t
      · rw [fails_iff.mpr ⟨hne, e, hlookup⟩] at h
        cases h
      · exact .found hne hlookup

lemma resolved_operandsFound (h : failures lookup spec.names = []) :
    spec.Resolved lookup (spec.operandsFound lookup) := by
  have hfinds : ∀ name ∈ spec.names, Finds lookup name (found (lookupOptional lookup name)) := by
    intro name hname
    refine finds_found (Bool.eq_false_iff.mpr fun hfails => ?_)
    obtain ⟨hne, e, he⟩ := fails_iff.mp hfails
    exact failures_ne_nil_iff.mpr ⟨name, hname, hne, e, he⟩ h
  have hresult := hfinds spec.resultName (by simp [names])
  refine ⟨hfinds _ (by simp [names]), ?_, hfinds _ (by simp [names]), fun hne => ?_,
    fun hvoid => ?_, rfl, rfl⟩
  · refine List.forall₂_map_right_iff.mpr (List.forall₂_same.mpr fun name hname => ?_)
    exact hfinds name (by simp [names, hname])
  · have hname : spec.resultName = spec.result := if_neg hne
    rw [operandsFound, hname]
    rwa [hname] at hresult
  · rw [operandsFound, resultName, if_pos hvoid]
    rfl

/-! ## Sites that obey the rules -/

/-- The pass modes of a site that obeys the rules fit as many operands as it has arguments. -/
lemma modesFit_of_violations (h : spec.violations = []) {ops : Operands}
    (hargs : ops.args.length = spec.args.length) (hmodes : ops.argByRef = spec.argByRef) :
    ops.modesFit = true := by
  rw [violations, List.append_eq_nil_iff, ite_eq_right_iff] at h
  rw [Operands.modesFit_iff, hmodes, hargs, ← List.length_eq_zero_iff]
  have hcases := mt h.1 (List.cons_ne_nil _ _)
  tauto

/-- The shape of a site that obeys the rules can be derived, whatever comes back for its names. -/
lemma exists_derive (hsingle : ∀ name e, lookup name = .error e → e.Single)
    (h : spec.violations = []) (cell : Option Ty) :
    ∃ sh, Shape.derive cell (spec.returned lookup) = .ok sh := by
  have hfit : (spec.returned lookup).modesFit = true := by
    obtain ⟨-, hops⟩ | ⟨e, -, hops⟩ := spec.operands_cases hsingle
    · rw [returned, hops]
      exact modesFit_of_violations h (List.length_map _) rfl
    · rw [returned, hops]
      rfl
  exact ⟨_, Shape.derive_of_modesFit cell hfit⟩

/-- **Operands are resolved completely or not at all.**  There is an error just when a name that is
given fails to be looked up.  It then holds one entry for each such name, in the order receiver,
arguments, value to assign, result; it is a missing dependency just when one of the entries is, and
no operands come back.  Otherwise the operands are those of the site, in their positions.  So the
shape of a site of an accepted file can be derived from what comes back for it. -/
theorem operands_all_or_nothing (spec : SiteSpec) (lookup : String → Except Error Ty)
    (hsingle : ∀ name e, lookup name = .error e → e.Single) :
    ((∃ e, spec.operands lookup = .error e) ↔
        ∃ name ∈ spec.names, name ≠ "" ∧ ∃ e, lookup name = .error e) ∧
      (∀ e, spec.operands lookup = .error e →
        List.Forall₂ (fun name x => lookup name = .error x) (spec.names.filter (fails lookup))
          e.parts ∧
        (e.isMissing = true ↔ ∃ x ∈ e.parts, x.isMissing = true) ∧ spec.returned lookup = {}) ∧
      (∀ ops, spec.operands lookup = .ok ops →
        spec.Resolved lookup ops ∧ spec.returned lookup = ops) ∧
      ∀ decode text path file, SiteFile.parse decode text path = .ok file → spec ∈ file.sites →
        ∀ cell, ∃ sh, Shape.derive cell (spec.returned lookup) = .ok sh := by
  have herror : ∀ {e}, spec.operands lookup = .error e ↔
      Error.ofList (failures lookup spec.names) = some e := operands_eq_error_iff hsingle
  refine ⟨?_, fun e he => ⟨?_, ?_, ?_⟩, fun ops hops => ⟨?_, ?_⟩, ?_⟩
  · rw [← failures_ne_nil_iff, ne_eq, ← Error.ofList_eq_none_iff, ← ne_eq,
      Option.ne_none_iff_exists']
    exact exists_congr fun e => herror
  · rw [Error.parts_of_ofList (single_of_mem_failures hsingle) (herror.mp he)]
    exact forall₂_failures spec.names
  · rw [Error.isClass_isMissing.parts, List.any_eq_true]
  · rw [returned, he]
    rfl
  · obtain ⟨hnil, hfound⟩ | ⟨e, -, herror⟩ := spec.operands_cases hsingle
    · rw [hfound] at hops
      cases hops
      exact resolved_operandsFound hnil
    · rw [herror] at hops
      cases hops
  · rw [returned, hops]
    rfl
  · intro decode text path file hparse hmem
    exact exists_derive hsingle (SiteFile.violations_of_parse hparse spec hmem)

/-- One name that fails twice and another that fails differently, a site with an argument that has
no name, and a site that was read. -/
theorem operands_of_two_unknown_names :
    let lookup : String → Except Error Ty := fun name =>
      if name = "T" then .ok .void
      else .error (if name = "A" then .cause (.ambiguousType name 2) else .lacks (.type name "R"))
    let bad : SiteSpec :=
      { receiver := "X", args := ["T", "X", ""], right := "A", result := "void" }
    let good : SiteSpec := { args := ["", "T"], argByRef := [true, false], result := "T" }
    let text := "sites:\n- \x7bargs: [T, X], arg_by_ref: [true, false]\x7d"
    (∀ name e, lookup name = .error e → e.Single) ∧
      (∃ e, bad.operands lookup = .error e ∧
        List.Forall₂ (fun name x => lookup name = .error x) ["X", "X", "A"] e.parts) ∧
      (∃ ops, good.operands lookup = .ok ops ∧ good.Resolved lookup ops) ∧
      ∃ file spec, SiteFile.parse SiteFile.ofYaml text "p" = .ok file ∧ spec ∈ file.sites ∧
        ∃ sh, Shape.derive none (spec.returned lookup) = .ok sh := by
  intro lookup bad good text
  have hsingle : ∀ name e, lookup name = .error e → e.Single := by
    intro name e he
    simp only [lookup] at he
    split at he
    · cases he
    · split at he <;> · cases he; rfl
  refine ⟨hsingle, ?_, ?_, ?_⟩
  · obtain ⟨hiff, herror, -⟩ := operands_all_or_nothing bad lookup hsingle
    obtain ⟨e, he⟩ := hiff.mpr ⟨"X", List.mem_cons_self, by decide, _, rfl⟩
    exact ⟨e, he, (herror e he).1⟩
  · obtain ⟨-, -, hok, -⟩ := operands_all_or_nothing good lookup hsingle
    exact ⟨_, rfl, (hok _ rfl).1⟩
  · have hsites : (SiteFile.parse SiteFile.ofYaml text "p").toOption.map (fun f => f.sites.isEmpty) =
        some false := by decide +kernel
    rcases hparse : SiteFile.parse SiteFile.ofYaml text "p" with e | file
    · rw [hparse] at hsites
      cases hsites
    · rw [hparse] at hsites
      have hne : file.sites ≠ [] := List.isEmpty_eq_false_iff.mp (Option.some.inj hsites)
      obtain ⟨spec, hspec⟩ := List.exists_mem_of_ne_nil _ hne
      obtain ⟨-, -, -, hderive⟩ := operands_all_or_nothing spec lookup hsingle
      exact ⟨file, spec, rfl, hspec, hderive _ text "p" file hparse hspec none⟩

end SiteSpec

end CallSites
