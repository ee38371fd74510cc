import CallSites.Proofs.Platform.Profiles
import CallSites.Proofs.Program.Likeness

/-!
# Why shapes are refused

A shape over usable types is resolved, whatever has happened before.  A shape is refused only
because one of its types cannot be an argument of a callable type, or because it has more parameters
than a callable type can have.  Neither is a fault of the compiler, and neither is something that
the platform lacks (`Synthesizer.resolve_cases`).
-/

namespace CallSites

/-! ## Arguments -/

/-- The cause is an argument that a definition cannot be applied to. -/
inductive Cause.IsArgument : Cause → Prop
  | absent (i : Nat) (definition : String) : IsArgument (.nilArgument i definition)
  | unusable (argument : String) (i : Nat) (definition : String) :
      IsArgument (.unusableArgument argument i definition)

/-- There is a type and it can be used as an argument. -/
def UsableType (o : Option Ty) : Prop := ∃ x, o = some x ∧ x.Usable

lemma usableType_some {x : Ty} : UsableType (some x) ↔ x.Usable := by
  simp [UsableType]

lemma forall_usableType_iff {os : List (Option Ty)} :
    (∀ o ∈ os, UsableType o) ↔ ∃ args : List Ty, os = args.map some ∧ ∀ a ∈ args, a.Usable := by
  constructor
  · intro h
    choose! arg harg using h
    refine ⟨os.map arg, ?_, fun a ha => ?_⟩
    · rw [List.map_map]
      conv_lhs => rw [← List.map_id os]
      exact List.map_congr_left fun o ho => (harg o ho).1
    · obtain ⟨o, ho, rfl⟩ := List.mem_map.mp ha
      exact (harg o ho).2
  · rintro ⟨args, rfl, huse⟩ o ho
    obtain ⟨a, ha, rfl⟩ := List.mem_map.mp ho
    exact usableType_some.mpr (huse a ha)

namespace Definition

variable {d : Definition}

lemma checkArg_eq_error {i : Nat} {o : Option Ty} {e : Failure} (h : d.checkArg i o = .error e) :
    ∃ c : Cause, c.IsArgument ∧ e = .error (.cause c) := by
  cases o with
  | none => exact ⟨_, .absent i d.text, (Except.error.inj h).symm⟩
  | some x =>
      rw [checkArg] at h
      split at h
      · exact ⟨_, .unusable x.text i d.text, (Except.error.inj h).symm⟩
      · exact ⟨_, .unusable x.text i d.text, (Except.error.inj h).symm⟩
      · cases h

lemma checkArgsFrom_eq_error {e : Failure} :
    ∀ {i : Nat} {args : List (Option Ty)}, d.checkArgsFrom i args = .error e →
      ∃ c : Cause, c.IsArgument ∧ e = .error (.cause c)
  | _, [], h => by cases h
  | i, a :: as, h => by
      rw [checkArgsFrom] at h
      rcases ha : d.checkArg i a with e' | x
      · rw [ha] at h
        cases h
        exact checkArg_eq_error ha
      · rw [ha] at h
        rcases has : d.checkArgsFrom (i + 1) as with e' | xs
        · rw [has] at h
          cases h
          exact checkArgsFrom_eq_error has
        · rw [has] at h
          cases h

/-- What applying a definition to as many arguments as it has type parameters comes to. -/
lemma checkArgs_cases {args : List (Option Ty)} (hlen : args.length = d.arity) :
    (∃ as, d.checkArgs args = .ok as) ∧ (∀ a ∈ args, UsableType a) ∨
      (¬ ∀ a ∈ args, UsableType a) ∧
        ∃ c : Cause, c.IsArgument ∧ d.checkArgs args = .error (.error (.cause c)) := by
  rcases h : d.checkArgs args with e | as
  · refine .inr ⟨fun huse => ?_, ?_⟩
    · obtain ⟨as, rfl, has⟩ := forall_usableType_iff.mp huse
      rw [List.length_map] at hlen
      rw [checkArgs_eq_ok.mpr ⟨rfl, hlen, has⟩] at h
      cases h
    · rw [checkArgs, if_neg (not_not.mpr hlen)] at h
      obtain ⟨c, hc, rfl⟩ := checkArgsFrom_eq_error h
      exact ⟨c, hc, rfl⟩
  · obtain ⟨hmap, -, huse⟩ := checkArgs_eq_ok.mp h
    exact .inl ⟨⟨as, rfl⟩, forall_usableType_iff.mpr ⟨as, hmap, huse⟩⟩

end Definition

/-! ## Shapes -/

/-- The types of the shape can be used as arguments. -/
def Shape.Usable (sh : Shape) : Prop := ∀ o ∈ sh.signature, UsableType o

/-- A definition from a registry can have as many parameters as the shape. -/
def Shape.Storable (sh : Shape) : Prop := (sh.params.length : Int) + 1 ≤ maxLabels

/-- How often shapes have been resolved, one way or another. -/
def Tally.total (t : Tally) : Nat := t.fastPath + t.synthesized + t.reused

lemma Tally.eq_zero_of_total {t : Tally} (h : t.total = 0) : t = ⟨0, 0, 0⟩ := by
  obtain ⟨fastPath, synthesized, reused⟩ := t
  simp only [Tally.total] at h
  simp only [Tally.mk.injEq]
  omega

section Resolve

variable {p : Platform} {C : Set Ty} {L : List Cell} {s s' : Store} {sh : Shape} {d : Definition}

lemma Shape.length_signature (sh : Shape) :
    sh.signature.length = sh.flags.length + if !sh.isVoid then 1 else 0 := by
  rw [signature, List.length_append, List.length_map, sh.length_flags]
  cases sh.isVoid <;> rfl

/-- What applying a callable type with the pass modes of a shape comes to. -/
lemma Synthesizer.instantiate_outcome (hd : d.IsCallable sh.flags (!sh.isVoid))
    {o : Except Failure Instance} (hrun : (instantiate d sh).run s = (o, s')) :
    s'.tallies = s.tallies ∧
      ((∃ i, o = .ok i) ∧ sh.Usable ∨
        ¬ sh.Usable ∧ ∃ note c, Cause.IsArgument c ∧
          o = .error (.error (.context note (.cause c)))) := by
  have hlen : sh.signature.length = d.arity := by rw [sh.length_signature, hd.arity]
  rcases hcon : (d.construct sh.signature).run s.types with ⟨q, t⟩
  rw [instantiate, run_withContext, run_toStoreM, hcon] at hrun
  obtain ⟨⟨as, has⟩, huse⟩ | ⟨hnot, c, hc, hcheck⟩ := Definition.checkArgs_cases hlen
  · obtain ⟨e, he, -⟩ | ⟨_, -, ⟨i, -, rfl, -⟩ | ⟨-, rfl, -⟩⟩ := Definition.construct_cases hcon
    · rw [has] at he
      cases he
    · cases hrun
      exact ⟨rfl, .inl ⟨⟨i, rfl⟩, huse⟩⟩
    · cases hrun
      exact ⟨rfl, .inl ⟨⟨_, rfl⟩, huse⟩⟩
  · obtain ⟨e, he, rfl, -⟩ | ⟨as, has, -⟩ := Definition.construct_cases hcon
    · rw [hcheck] at he
      cases he
      cases hrun
      exact ⟨rfl, .inr ⟨hnot, _, c, hc, rfl⟩⟩
    · rw [hcheck] at has
      cases has

lemma checkParams_eq_error {n : Nat} (h : ¬ (n : Int) + 1 ≤ maxLabels) :
    checkParams n = .error (.range .capacity) := by
  rw [checkParams, if_pos (.inr (not_le.mp h))]
  rfl

/-- There is no definition for the key of a shape only if the shape is too long. -/
lemma Shape.not_storable_of_synthesizedDefinition {r n : Nat} {e : Failure}
    (h : synthesizedDefinition r n sh.key = .error e) : ¬ sh.Storable ∧ e = .range .capacity := by
  have hroom : ¬ sh.Storable := fun hroom => by
    obtain ⟨d, hd⟩ := exists_synthesizedDefinition r n hroom
    rw [h] at hd
    cases hd
  have hcheck : checkParams sh.key.params = .error (.range .capacity) := checkParams_eq_error hroom
  rw [synthesizedDefinition, hcheck] at h
  exact ⟨hroom, (Except.error.inj h).symm⟩

/-- A count that goes up by one. -/
lemma Store.total_count {y : Synthesizer} {f : Tally → Tally}
    (hf : ∀ t : Tally, (f t).total = t.total + 1)
    (h : s'.tallies = (s.count y.serial f).tallies) :
    (s'.tally y).total = (s.tally y).total + 1 := by
  rw [Store.tally, h, Store.getD_count, if_pos rfl, hf]
  rfl

/-- **What resolving a shape comes to.**  It succeeds and is counted once, or the shape is too long
for a registry, or one of its types cannot be used. -/
theorem Synthesizer.resolve_cases (hs : s.Valid p C L) {y : Synthesizer}
    (hy : y.services = .ofPlatform p) {o : Except Failure Instance}
    (hrun : (y.resolve sh).run s = (o, s')) :
    (∃ c, o = .ok c) ∧ sh.Usable ∧ (p.Uncovered sh → sh.Storable) ∧
        (s'.tally y).total = (s.tally y).total + 1 ∨
      o = .error (.range .capacity) ∧ p.Uncovered sh ∧ ¬ sh.Storable ∨
      ¬ sh.Usable ∧ (p.Uncovered sh → sh.Storable) ∧ ∃ note c, Cause.IsArgument c ∧
        o = .error (.error (.context note (.cause c))) := by
  have hcourse := Resolution.course (a := ⟨y, sh, s⟩) hy
  have hcall : (⟨y, sh, s⟩ : Resolution).run = (o, s') := hrun
  rw [hcall] at hcourse
  cases hcourse with
  | @family d i s₁ hprov hinst =>
      have hcovered := Platform.not_uncovered_of_provided? hprov
      obtain ⟨htallies, ⟨-, huse⟩ | ⟨-, _, _, -, he⟩⟩ :=
        instantiate_outcome (Platform.isCallable_of_provided? hprov).2 hinst
      · refine .inl ⟨⟨i, rfl⟩, huse, fun h => absurd h hcovered,
          Store.total_count (f := fun t => { t with fastPath := t.fastPath + 1 }) (fun t => ?_) ?_⟩
        · simp only [Tally.total]
          omega
        · rw [Store.count, htallies, Store.count]
      · cases he
  | refused hprov hinst =>
      have hcovered := Platform.not_uncovered_of_provided? hprov
      obtain ⟨-, ⟨⟨_, he⟩, -⟩ | ⟨hnot, hcause⟩⟩ :=
        instantiate_outcome (Platform.isCallable_of_provided? hprov).2 hinst
      · cases he
      · exact .inr (.inr ⟨hnot, fun h => absurd h hcovered, hcause⟩)
  | found hprov hfound hinst =>
      obtain ⟨n, -, hmade⟩ := hs.synthesizedDefinition hfound
      have hroom := room_of_synthesizedDefinition hmade
      obtain ⟨htallies, ⟨hok, huse⟩ | ⟨hnot, hcause⟩⟩ :=
        instantiate_outcome (isCallable_of_synthesized hmade) hinst
      · refine .inl ⟨hok, huse, fun _ => hroom, Store.total_count (fun t => ?_) htallies⟩
        simp only [Tally.total]
        omega
      · exact .inr (.inr ⟨hnot, fun _ => hroom, hcause⟩)
  | made hprov hnone hmade hinst =>
      have hroom := room_of_synthesizedDefinition hmade
      obtain ⟨htallies, ⟨hok, huse⟩ | ⟨hnot, hcause⟩⟩ :=
        instantiate_outcome (isCallable_of_synthesized hmade) hinst
      · refine .inl ⟨hok, huse, fun _ => hroom,
          Store.total_count (f := fun t => { t with synthesized := t.synthesized + 1 })
            (fun t => ?_) htallies⟩
        simp only [Tally.total]
        omega
      · exact .inr (.inr ⟨hnot, fun _ => hroom, hcause⟩)
  | full hprov hmade =>
      obtain ⟨hroom, rfl⟩ := Shape.not_storable_of_synthesizedDefinition hmade
      exact .inr (.inl ⟨rfl, Platform.provided?_eq_none_iff.mp hprov, hroom⟩)

/-- On an accepted platform a shape that is too long is not covered by a family. -/
lemma Platform.uncovered_of_not_storable {prof : Profile} (hp : Platform.ofProfile prof = .ok p)
    (h : ¬ sh.Storable) : p.Uncovered sh := by
  have hmax := Platform.maxParams_le hp (Synthesizer.familyOf sh)
  rw [Shape.Storable] at h
  refine .inr ?_
  unfold maxFamilyParams at hmax
  unfold maxLabels at h
  omega

end Resolve

end CallSites
