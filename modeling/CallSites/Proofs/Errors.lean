import CallSites.ErrorTerm
import Mathlib.Data.List.ReduceOption
import Mathlib.Tactic.Lemma

/-!
# Classes of errors

What class an error belongs to is decided far from where it was raised, after it has been wrapped
and put together with others.  Nothing is lost on the way: the class of an outcome can be read off
the term by which it came about (`ErrorTerm.error_classes_exact`), wherever in the term the node
stands that decides it.

The two classes that are decided by single nodes, internal errors and missing dependencies, are
treated alike.  Of errors found together one is enough, and a note in front does not matter
(`Error.IsClass`).  A class of this kind is told by certain nodes of the term
(`ErrorTerm.Tells`), and the outcome belongs to it just when there is such a node
(`ErrorTerm.Tells.any_build`).
-/

namespace CallSites

namespace Error

/-! ## Errors found together -/

/-- A class of errors: several errors found together belong to it when one of them does, and a note
in front of an error changes nothing. -/
structure IsClass (f : Error → Bool) : Prop where
  parts : ∀ e, f e = e.parts.any f
  context : ∀ note e, f (.context note e) = f e

lemma anyNodes_eq_any (test : Error → Bool) (es : List Error) :
    anyNodes test es = es.any (anyNode test) := by
  induction es with
  | nil => rfl
  | cons e es ih => rw [anyNodes, List.any_cons, ih]

/-- A test that no note and no collection of errors passes decides a class. -/
lemma isClass_anyNode {test : Error → Bool} (hcontext : ∀ note e, test (.context note e) = false)
    (hseveral : ∀ es, test (.several es) = false) : IsClass (anyNode test) where
  parts e := by
    cases e with
    | several es => rw [anyNode, hseveral, Bool.false_or, anyNodes_eq_any, parts]
    | cause | missing | internal | context => exact (Bool.or_false _).symm
  context note e := by rw [anyNode, hcontext, Bool.false_or]

lemma isClass_isInternal : IsClass isInternal := isClass_anyNode (fun _ _ => rfl) fun _ => rfl

lemma isClass_isMissing : IsClass isMissing := isClass_anyNode (fun _ _ => rfl) fun _ => rfl

namespace IsClass

variable {f : Error → Bool} (hf : IsClass f)

include hf

lemma any_ofList (es : List Error) : (ofList es).any f = es.any f := by
  match es with
  | [] => rfl
  | [e] => exact (Bool.or_false _).symm
  | e :: e' :: es => exact hf.parts (.several (e :: e' :: es))

/-- Outcomes found together belong to a class when one of them does. -/
lemma any_append (a b : Option Error) : (append a b).any f = (a.any f || b.any f) := by
  rcases a with _ | a
  · rw [append, Option.any_none, Bool.false_or]
  rcases b with _ | b
  · rw [append, Option.any_none, Bool.or_false]
    rintro ⟨⟩
  · rw [append, hf.any_ofList, List.any_append, ← hf.parts a, ← hf.parts b]
    rfl

lemma any_context (note : String) (o : Option Error) : (o.map (.context note)).any f = o.any f := by
  cases o with
  | none => rfl
  | some e => exact hf.context note e

end IsClass

/-! ## Marking as internal -/

lemma asInternal_of_isInternal {e : Error} (h : e.isInternal = true) : e.asInternal = e := by
  rw [asInternal, if_pos h]

lemma isInternal_asInternal (e : Error) : e.asInternal.isInternal = true := by
  rw [asInternal]
  split
  · assumption
  · rfl

lemma isMissing_asInternal (e : Error) : e.asInternal.isMissing = e.isMissing := by
  rw [asInternal]
  split <;> rfl

/-! ## What errors hold -/

lemma append_some {a b : Error} (ha : a.parts ≠ []) (hb : b.parts ≠ []) :
    append (some a) (some b) = some (.several (a.parts ++ b.parts)) := by
  obtain ⟨x, xs, hx⟩ := List.exists_cons_of_ne_nil ha
  obtain ⟨y, ys, hy⟩ := List.exists_cons_of_ne_nil hb
  rw [append, hx, hy]
  cases xs <;> rfl

lemma ofList_eq_none_iff {es : List Error} : ofList es = none ↔ es = [] := by
  match es with
  | [] | [_] | _ :: _ :: _ => simp [ofList]

/-- The error holds no others. -/
def Single (e : Error) : Prop := e.parts = [e]

/-- The parts of the error that holds given single ones are these. -/
lemma parts_of_ofList {es : List Error} {e : Error} (hes : ∀ x ∈ es, x.Single)
    (h : ofList es = some e) : e.parts = es := by
  match es, hes with
  | [], _ => cases h
  | [x], hes =>
      cases h
      exact hes e List.mem_cons_self
  | _ :: _ :: _, _ =>
      cases h
      rfl

/-- The errors of an outcome. -/
def listed : Option Error → List Error
  | none => []
  | some e => e.parts

lemma listed_ofList {es : List Error} (hes : ∀ x ∈ es, x.Single) : listed (ofList es) = es := by
  rcases hlist : ofList es with _ | e
  · exact (ofList_eq_none_iff.mp hlist).symm
  · exact parts_of_ofList hes hlist

lemma append_ofList_some {es : List Error} {e : Error} (hes : ∀ x ∈ es, x.Single) (he : e.Single) :
    append (ofList es) (some e) = ofList (es ++ [e]) := by
  rcases hlist : ofList es with _ | x
  · rw [ofList_eq_none_iff.mp hlist]
    rfl
  · rw [append, parts_of_ofList hes hlist, he]

/-- Single errors are gathered as they come. -/
lemma gather_eq_ofList {os : List (Option Error)} (h : ∀ e, some e ∈ os → e.Single) :
    gather os = ofList os.reduceOption := by
  -- the outcomes so far are those of a list of single errors
  have hfold : ∀ es : List Error, (∀ x ∈ es, x.Single) →
      os.foldl append (ofList es) = ofList (es ++ os.reduceOption) := by
    induction os with
    | nil => simp
    | cons o os ih =>
        intro es hes
        have hos : ∀ e, some e ∈ os → e.Single := fun e he => h e (List.mem_cons_of_mem o he)
        rcases o with _ | e
        · have hnone : append (ofList es) none = ofList es := by cases ofList es <;> rfl
          rw [List.foldl_cons, hnone, ih hos es hes, List.reduceOption_cons_of_none]
        · have he : e.Single := h e List.mem_cons_self
          have hes' : ∀ x ∈ es ++ [e], x.Single := by
            intro x hx
            obtain hx | hx := List.mem_append.mp hx
            · exact hes x hx
            · exact List.mem_singleton.mp hx ▸ he
          rw [List.foldl_cons, append_ofList_some hes he, ih hos _ hes',
            List.reduceOption_cons_of_some, List.append_assoc, List.singleton_append]
  exact hfold [] (by simp)

end Error

/-! ## Terms -/

namespace ErrorTerm

/-- The term and all the terms in it, at any depth. -/
def nodes : ErrorTerm → List ErrorTerm
  | .fine => [.fine]
  | .plain c => [.plain c]
  | .lacking template args => [.lacking template args]
  | .lackingSome => [.lackingSome]
  | .faulty template args => [.faulty template args]
  | .marked t => .marked t :: t.nodes
  | .headed template args t => .headed template args t :: t.nodes
  | .noted template args t => .noted template args t :: t.nodes
  | .both t u => .both t u :: (t.nodes ++ u.nodes)

/-- An error starts here. -/
def raises : ErrorTerm → Bool
  | .plain _ | .lacking _ _ | .lackingSome | .faulty _ _ => true
  | .fine | .marked _ | .headed _ _ _ | .noted _ _ _ | .both _ _ => false

/-- A missing dependency is told here. -/
def lacks : ErrorTerm → Bool
  | .lacking _ _ | .lackingSome => true
  | .fine | .plain _ | .faulty _ _ | .marked _ | .headed _ _ _ | .noted _ _ _ | .both _ _ => false

/-- A fault of the compiler is told here: one is raised, or an error that was raised before is
marked as one. -/
def blames : ErrorTerm → Bool
  | .faulty _ _ => true
  | .marked t => t.nodes.any raises
  | .fine | .plain _ | .lacking _ _ | .lackingSome | .headed _ _ _ | .noted _ _ _ | .both _ _ =>
    false

/-- The last term puts the text in front of the outcome of the first. -/
inductive Wraps (t : ErrorTerm) : String → ErrorTerm → Prop where
  | headed (template : String) (args : List String) :
      Wraps t (Text.fill template args) (.headed template args t)
  | noted (template : String) (args : List String) :
      Wraps t (Text.fill template args ++ ": ") (.noted template args t)

/-- The outcomes belong to the same classes. -/
structure SameClasses (o o' : Option Error) : Prop where
  internal : o.any Error.isInternal = o'.any Error.isInternal
  missing : o.any Error.isMissing = o'.any Error.isMissing
  unsupported : o.any Error.isUnsupported = o'.any Error.isUnsupported

lemma Wraps.build_eq {t w : ErrorTerm} {note : String} (h : t.Wraps note w) :
    w.build = t.build.map (.context note) := by
  cases h <;> rfl

lemma any_isUnsupported (o : Option Error) :
    o.any Error.isUnsupported = (o.any Error.isMissing && !o.any Error.isInternal) := by
  cases o <;> rfl

lemma sameClasses_context (note : String) (o : Option Error) :
    SameClasses (o.map (.context note)) o := by
  have hinternal := Error.isClass_isInternal.any_context note o
  have hmissing := Error.isClass_isMissing.any_context note o
  exact ⟨hinternal, hmissing, by rw [any_isUnsupported, any_isUnsupported, hinternal, hmissing]⟩

/-! ### What is in an outcome -/

/-- There is something in every error that comes about, so it is not lost among others. -/
lemma parts_ne_nil {t : ErrorTerm} : ∀ {e : Error}, t.build = some e → e.parts ≠ [] := by
  induction t with
  | fine =>
      intro e h
      cases h
  | plain | lacking | lackingSome | faulty =>
      intro e h
      cases h
      exact List.cons_ne_nil _ _
  | marked t ih =>
      intro e h
      obtain ⟨x, hx, rfl⟩ := Option.map_eq_some_iff.mp h
      rw [Error.asInternal]
      split
      · exact ih hx
      · exact List.cons_ne_nil _ _
  | headed | noted =>
      intro e h
      obtain ⟨x, -, rfl⟩ := Option.map_eq_some_iff.mp h
      exact List.cons_ne_nil _ _
  | both t u iht ihu =>
      intro e h
      rw [build] at h
      rcases ht : t.build with _ | a
      · rw [ht, Error.append] at h
        exact ihu h
      rcases hu : u.build with _ | b
      · rw [ht, hu] at h
        cases h
        exact iht ht
      · rw [ht, hu, Error.append_some (iht ht) (ihu hu)] at h
        cases h
        exact List.append_ne_nil_of_left_ne_nil (iht ht) _

/-- There is an error in the end just when one was raised. -/
lemma isSome_build (t : ErrorTerm) : t.build.isSome = t.nodes.any raises := by
  induction t with
  | fine | plain | lacking | lackingSome | faulty => rfl
  | marked t ih | headed _ _ t ih | noted _ _ t ih =>
      rw [build, Option.isSome_map, ih, nodes, List.any_cons, raises, Bool.false_or]
  | both t u iht ihu =>
      rw [nodes, List.any_cons, raises, Bool.false_or, List.any_append, ← iht, ← ihu, build]
      rcases ht : t.build with _ | a
      · rfl
      rcases hu : u.build with _ | b
      · rfl
      · rw [Error.append_some (parts_ne_nil ht) (parts_ne_nil hu)]
        rfl

/-! ### What puts an outcome into a class -/

/-- A node of the kind `told` puts an outcome into a class, and nothing else does. -/
structure Tells (told : ErrorTerm → Bool) (f : Error → Bool) : Prop where
  isClass : Error.IsClass f
  fine : told .fine = false
  plain : ∀ c, told (.plain c) = f (.cause c)
  lacking : ∀ template args,
    told (.lacking template args) = f (.lacks (.other (Text.fill template args)))
  lackingSome : told .lackingSome = f (.missing none)
  faulty : ∀ template args,
    told (.faulty template args) = f (.fault (.text (Text.fill template args)))
  marked : ∀ t : ErrorTerm, t.marked.build.any f = (told t.marked || t.build.any f)
  headed : ∀ template args t, told (.headed template args t) = false
  noted : ∀ template args t, told (.noted template args t) = false
  both : ∀ t u, told (.both t u) = false

/-- An outcome belongs to the class just when this was told on the way. -/
lemma Tells.any_build {told : ErrorTerm → Bool} {f : Error → Bool} (h : Tells told f)
    (t : ErrorTerm) : t.build.any f = t.nodes.any told := by
  induction t with
  | fine => rw [nodes, List.any_cons, h.fine, build, Option.any_none, List.any_nil, Bool.or_false]
  | plain c =>
      rw [nodes, List.any_cons, h.plain, build, Option.any_some, List.any_nil, Bool.or_false]
  | lacking template args =>
      rw [nodes, List.any_cons, h.lacking, build, Option.any_some, List.any_nil, Bool.or_false]
  | lackingSome =>
      rw [nodes, List.any_cons, h.lackingSome, build, Option.any_some, List.any_nil, Bool.or_false]
  | faulty template args =>
      rw [nodes, List.any_cons, h.faulty, build, Option.any_some, List.any_nil, Bool.or_false]
  | marked t ih => rw [h.marked, ih, nodes, List.any_cons]
  | headed template args t ih =>
      rw [build, h.isClass.any_context, ih, nodes, List.any_cons, h.headed, Bool.false_or]
  | noted template args t ih =>
      rw [build, h.isClass.any_context, ih, nodes, List.any_cons, h.noted, Bool.false_or]
  | both t u iht ihu =>
      rw [build, h.isClass.any_append, iht, ihu, nodes, List.any_cons, h.both, Bool.false_or,
        List.any_append]

/-- A missing dependency. -/
lemma tells_lacks : Tells lacks Error.isMissing where
  isClass := Error.isClass_isMissing
  fine := rfl
  plain _ := rfl
  lacking _ _ := rfl
  lackingSome := rfl
  faulty _ _ := rfl
  marked t := by
    have hcomp : (fun e : Error => e.asInternal.isMissing) = Error.isMissing :=
      funext Error.isMissing_asInternal
    rw [build, Option.any_map, hcomp, lacks, Bool.false_or]
  headed _ _ _ := rfl
  noted _ _ _ := rfl
  both _ _ := rfl

/-- A fault of the compiler. -/
lemma tells_blames : Tells blames Error.isInternal where
  isClass := Error.isClass_isInternal
  fine := rfl
  plain _ := rfl
  lacking _ _ := rfl
  lackingSome := rfl
  faulty _ _ := rfl
  marked t := by
    rw [blames, ← isSome_build, build, Option.any_map]
    rcases t.build with _ | e
    · rfl
    · exact e.isInternal_asInternal
  headed _ _ _ := rfl
  noted _ _ _ := rfl
  both _ _ := rfl

/-- **Classes survive wrapping.**  There is an error in the end just when one was raised.  It is
internal just when a fault of the compiler was told somewhere on the way, a missing dependency just
when one was told, and unsupported just when a missing dependency was told and no fault.  A text put
in front changes no class and leaves what stands after it.  Marking as internal does nothing to an
outcome that is no error or is internal already, turns any other into an internal error that is
missing as before and never unsupported, and need not be done twice. -/
theorem error_classes_exact (t : ErrorTerm) :
    t.build.isSome = t.nodes.any raises ∧
      t.build.any Error.isInternal = t.nodes.any blames ∧
      t.build.any Error.isMissing = t.nodes.any lacks ∧
      t.build.any Error.isUnsupported = (t.nodes.any lacks && !t.nodes.any blames) ∧
      (∀ note w, t.Wraps note w → SameClasses w.build t.build ∧
        w.build.map Error.message = t.build.map fun e => note ++ e.message) ∧
      (t.build = none → t.marked.build = none) ∧
      (∀ e, t.build = some e → e.isInternal = true → t.marked.build = some e) ∧
      (∀ e, t.build = some e → e.isInternal = false → ∃ e', t.marked.build = some e' ∧
        e'.isInternal = true ∧ e'.isUnsupported = false ∧ e'.isMissing = e.isMissing) ∧
      t.marked.marked.build = t.marked.build := by
  refine ⟨t.isSome_build, tells_blames.any_build t, tells_lacks.any_build t, ?_, ?_, ?_, ?_, ?_, ?_⟩
  · rw [any_isUnsupported, tells_lacks.any_build, tells_blames.any_build]
  · intro note w hw
    rw [hw.build_eq]
    refine ⟨sameClasses_context note t.build, ?_⟩
    rw [Option.map_map]
    rfl
  · intro hnone
    rw [build, hnone, Option.map_none]
  · intro e he hinternal
    rw [build, he, Option.map_some, Error.asInternal_of_isInternal hinternal]
  · intro e he _
    refine ⟨e.asInternal, by rw [build, he, Option.map_some], e.isInternal_asInternal, ?_,
      e.isMissing_asInternal⟩
    rw [Error.isUnsupported, e.isInternal_asInternal, Bool.not_true, Bool.and_false]
  · have hcomp : Error.asInternal ∘ Error.asInternal = Error.asInternal :=
      funext fun e => Error.asInternal_of_isInternal e.isInternal_asInternal
    rw [build, build, Option.map_map, hcomp]

/-- A missing type and a document that is none, found together and with a note in front of the type:
unsupported behind another note, and no longer so once it is marked. -/
theorem error_classes_of_missing_type :
    let t := both (headed "in %s: " ["f"] (lacking "type %s" ["T"])) (plain .malformed)
    t.build.isSome = true ∧ t.build.any Error.isUnsupported = true ∧
      (noted "%s" ["g"] t).build.any Error.isUnsupported = true ∧
      ∃ e', t.marked.build = some e' ∧ e'.isInternal = true ∧ e'.isUnsupported = false ∧
        e'.isMissing = true := by
  intro t
  obtain ⟨hsome, -, -, hunsupported, hwraps, -, -, hmarked, -⟩ := error_classes_exact t
  have hnoted := (hwraps _ _ (.noted "%s" ["g"])).1
  exact ⟨hsome, hunsupported, hnoted.unsupported.trans hunsupported, hmarked _ rfl rfl⟩

end ErrorTerm

end CallSites
