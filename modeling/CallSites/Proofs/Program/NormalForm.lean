import CallSites.Proofs.Program.Resolution

/-!
# Shapes as a normal form of operations

Operands can be given in several ways.  A receiver is passed like a first argument, a value to
assign like a last argument that is passed by value, and the pass modes of the arguments may be left
out if all of them are passed by value.  `Operands.listed` is what an operation comes to whichever
way is chosen: its operands in order, each with the way in which it is passed.

The main result is `shape_exact`.  Shapes are equal just when these lists and the results agree, and
have one key just when the pass modes do and both or neither of them return.
-/

namespace CallSites

/-! ## Operands in order -/

namespace Operands

variable {ops : Operands}

/-- For each argument whether it is passed by reference. -/
def argFlags (ops : Operands) : List Bool :=
  if ops.argByRef = [] then List.replicate ops.args.length false else ops.argByRef

/-- The operands in order with their pass modes. -/
def listed (ops : Operands) : List Param :=
  (match ops.receiver with
    | none => []
    | some x => [⟨some x, .ofByRef ops.receiverByRef⟩]) ++
  List.zipWith (fun a b => ⟨a, .ofByRef b⟩) ops.args ops.argFlags ++
  (match ops.right with
    | none => []
    | some x => [⟨some x, .byValue⟩])

lemma modesFit_eq_false_iff :
    ops.modesFit = false ↔ ops.argByRef ≠ [] ∧ ops.argByRef.length ≠ ops.args.length := by
  rw [modesFit, Bool.or_eq_false_iff, List.isEmpty_eq_false_iff, beq_eq_false_iff_ne]

lemma modesFit_iff :
    ops.modesFit = true ↔ ops.argByRef = [] ∨ ops.argByRef.length = ops.args.length := by
  rw [modesFit, Bool.or_eq_true, List.isEmpty_iff, beq_iff_eq]

lemma length_argFlags (h : ops.modesFit = true) : ops.argFlags.length = ops.args.length := by
  rw [argFlags]
  split
  · exact List.length_replicate
  · next hne => exact (modesFit_iff.mp h).resolve_left hne

lemma argFlags_of_length (h : ops.argByRef.length = ops.args.length) :
    ops.argFlags = ops.argByRef := by
  rw [argFlags]
  split
  · next hnil =>
      rw [hnil, List.length_nil] at h
      rw [hnil, ← h]
      rfl
  · rfl

/-! The program pairs arguments and pass modes in one recursion. -/

lemma zipArgs_nil : ∀ as : List (Option Ty),
    zipArgs as [] = List.zipWith (fun a b => ⟨a, .ofByRef b⟩) as (List.replicate as.length false)
  | [] => rfl
  | a :: as => by
      rw [zipArgs, zipArgs_nil as]
      rfl

lemma zipArgs_of_length : ∀ {as : List (Option Ty)} {bs : List Bool}, bs.length = as.length →
    zipArgs as bs = List.zipWith (fun a b => ⟨a, .ofByRef b⟩) as bs
  | [], [], _ => rfl
  | a :: as, b :: bs, h => by
      rw [zipArgs, zipArgs_of_length (Nat.succ.inj h)]
      rfl

lemma flat_eq_listed (h : ops.modesFit = true) : ops.flat = ops.listed := by
  have hargs : zipArgs ops.args ops.argByRef =
      List.zipWith (fun a b => ⟨a, .ofByRef b⟩) ops.args ops.argFlags := by
    rw [argFlags]
    split
    · next hnil => rw [hnil, zipArgs_nil]
    · next hne => exact zipArgs_of_length ((modesFit_iff.mp h).resolve_left hne)
  rw [flat, listed, hargs]
  rcases ops.receiver with _ | x <;> rcases ops.right with _ | y <;> rfl

/-- An operand is passed in one of the two known ways. -/
lemma mode_eq_ofByRef {q : Param} (h : q ∈ ops.listed) : q.mode = .ofByRef (q.mode = .byRef) := by
  have hknown : ∃ b, q.mode = .ofByRef b := by
    rw [listed, List.mem_append, List.mem_append] at h
    rcases h with (hrecv | harg) | hright
    · rcases hr : ops.receiver with _ | x
      · simp [hr] at hrecv
      · simp only [hr, List.mem_singleton] at hrecv
        exact ⟨ops.receiverByRef, by rw [hrecv]⟩
    · rw [← List.map_uncurry_zip_eq_zipWith] at harg
      obtain ⟨⟨a, b⟩, -, rfl⟩ := List.mem_map.mp harg
      exact ⟨b, rfl⟩
    · rcases hr : ops.right with _ | x
      · simp [hr] at hright
      · simp only [hr, List.mem_singleton] at hright
        exact ⟨false, by rw [hright]; rfl⟩
  obtain ⟨b, hb⟩ := hknown
  rw [hb]
  cases b <;> rfl

/-- The flags of operands tell their pass modes apart. -/
lemma flags_eq_iff {a b : Operands} :
    (a.listed.map fun q => decide (q.mode = .byRef)) =
        (b.listed.map fun q => decide (q.mode = .byRef)) ↔
      a.listed.map (·.mode) = b.listed.map (·.mode) := by
  have hmodes : ∀ ops : Operands, ops.listed.map (·.mode) =
      (ops.listed.map fun q => decide (q.mode = .byRef)).map .ofByRef := by
    intro ops
    rw [List.map_map]
    exact List.map_congr_left fun q hq => mode_eq_ofByRef hq
  constructor
  · intro h
    rw [hmodes a, hmodes b, h]
  · intro h
    have hmap := congrArg (List.map fun m : PassMode => decide (m = .byRef)) h
    rwa [List.map_map, List.map_map] at hmap

end Operands

/-! ## Equal shapes and equal keys -/

/-- The operands are of equal types and passed alike. -/
def Param.Agrees (p q : Param) : Prop := equalTypes p.type q.type = true ∧ p.mode = q.mode

/-- The operations both result in nothing, or in values of equal types. -/
def ResultsAgree (x y : Option Ty) : Prop :=
  (isVoid x = true ∧ isVoid y = true) ∨
    (isVoid x = false ∧ isVoid y = false ∧ equalTypes x y = true)

lemma equalTypes_refl (x : Option Ty) : equalTypes x x = true := by
  rcases x with _ | x
  · rfl
  · exact x.equal_refl

namespace Shape

variable {cell : Option Ty} {a b ops : Operands} {sh sh' : Shape}

lemma equalParams_iff : ∀ {ps qs : List Param},
    equalParams ps qs = true ↔ List.Forall₂ Param.Agrees ps qs
  | [], [] => by simp [equalParams]
  | [], _ :: _ | _ :: _, [] => by simp [equalParams]
  | p :: ps, q :: qs => by
      rw [equalParams, Bool.and_eq_true, Bool.and_eq_true, decide_eq_true_iff, equalParams_iff,
        List.forall₂_cons, Param.Agrees, and_comm (a := p.mode = q.mode)]

lemma isNone_result : ∀ r : Option Ty,
    (if CallSites.isVoid r then none else r).isNone = CallSites.isVoid r
  | none => rfl
  | some x => by
      rcases hvoid : CallSites.isVoid (some x) with _ | _ <;> rfl

/-- What an accepted operation is turned into. -/
lemma derive_eq_ok (h : derive cell ops = .ok sh) :
    ops.modesFit = true ∧ sh.params = ⟨cell, .byValue⟩ :: ops.listed ∧
      sh.isVoid = CallSites.isVoid ops.result ∧
      (CallSites.isVoid ops.result = false → sh.result = ops.result) := by
  rcases hmodes : ops.modesFit with _ | _
  · rw [derive_of_misfit cell hmodes] at h
    cases h
  · rw [derive_of_modesFit cell hmodes, ops.flat_eq_listed hmodes] at h
    cases h
    refine ⟨rfl, rfl, isNone_result ops.result, fun hvoid => ?_⟩
    simp [hvoid]

/-- **Equal shapes.**  The cache cell is the same for both, so only the operands and the results
matter. -/
lemma equal_iff_listed (h : derive cell a = .ok sh) (h' : derive cell b = .ok sh') :
    sh.equal sh' = true ↔
      List.Forall₂ Param.Agrees a.listed b.listed ∧ ResultsAgree a.result b.result := by
  obtain ⟨-, hparams, hvoid, hresult⟩ := derive_eq_ok h
  obtain ⟨-, hparams', hvoid', hresult'⟩ := derive_eq_ok h'
  have hcell : Param.Agrees ⟨cell, .byValue⟩ ⟨cell, .byValue⟩ := ⟨equalTypes_refl cell, rfl⟩
  rw [equal, Bool.and_eq_true, Bool.and_eq_true, equalParams_iff, hparams, hparams',
    List.forall₂_cons, hvoid, hvoid', beq_iff_eq, Bool.or_eq_true, ResultsAgree, and_assoc]
  simp only [hcell, true_and]
  refine and_congr_right fun _ => ?_
  rcases hr : CallSites.isVoid a.result with _ | _ <;>
    rcases hr' : CallSites.isVoid b.result with _ | _
  · simp [hresult hr, hresult' hr']
  all_goals simp

/-- **Equal keys.** -/
lemma key_eq_iff_modes (h : derive cell a = .ok sh) (h' : derive cell b = .ok sh') :
    sh.key = sh'.key ↔ a.listed.map (·.mode) = b.listed.map (·.mode) ∧
      CallSites.isVoid a.result = CallSites.isVoid b.result := by
  obtain ⟨-, hparams, hvoid, -⟩ := derive_eq_ok h
  obtain ⟨-, hparams', hvoid', -⟩ := derive_eq_ok h'
  rw [key_eq_iff, hvoid, hvoid', flags, flags, hparams, hparams', List.map_cons, List.map_cons,
    List.cons.injEq, Operands.flags_eq_iff]
  simp only [true_and]

/-- The list of operands and the result determine the shape. -/
lemma derive_congr (ha : a.modesFit = true) (hb : b.modesFit = true) (hlisted : a.listed = b.listed)
    (hresult : a.result = b.result) : derive cell a = derive cell b := by
  rw [derive_of_modesFit cell ha, derive_of_modesFit cell hb, a.flat_eq_listed ha,
    b.flat_eq_listed hb, hlisted, hresult]

end Shape

/-! ## Other ways of giving the same operands -/

namespace Operands

variable {ops : Operands} {x : Ty}

/-- The receiver as a first argument. -/
def receiverFirst (ops : Operands) (x : Ty) : Operands :=
  { ops with receiver := none, args := some x :: ops.args,
             argByRef := ops.receiverByRef :: ops.argFlags }

/-- The value to assign as a last argument. -/
def rightLast (ops : Operands) (x : Ty) : Operands :=
  { ops with right := none, args := ops.args ++ [some x], argByRef := ops.argFlags ++ [false] }

/-- The pass modes of all arguments written out. -/
def explicit (ops : Operands) : Operands := { ops with argByRef := ops.argFlags }

lemma receiverFirst_same (h : ops.modesFit = true) (hx : ops.receiver = some x) :
    (ops.receiverFirst x).modesFit = true ∧ (ops.receiverFirst x).listed = ops.listed := by
  constructor
  · exact modesFit_iff.mpr (.inr (congrArg Nat.succ (length_argFlags h)))
  · rw [listed, listed, hx]
    rfl

lemma rightLast_same (h : ops.modesFit = true) (hx : ops.right = some x) :
    (ops.rightLast x).modesFit = true ∧ (ops.rightLast x).listed = ops.listed := by
  have hlength := length_argFlags h
  have hfit : (ops.rightLast x).argByRef.length = (ops.rightLast x).args.length := by
    simp [rightLast, hlength]
  constructor
  · exact modesFit_iff.mpr (.inr hfit)
  · rw [listed, listed, argFlags_of_length hfit, hx]
    simp only [rightLast, List.zipWith_append hlength.symm, List.append_nil, List.append_assoc]
    rfl

lemma explicit_same (h : ops.modesFit = true) :
    ops.explicit.modesFit = true ∧ ops.explicit.listed = ops.listed := by
  have hfit : ops.explicit.argByRef.length = ops.explicit.args.length := length_argFlags h
  constructor
  · exact modesFit_iff.mpr (.inr hfit)
  · rw [listed, listed, argFlags_of_length hfit]
    rfl

end Operands

/-- **Shapes are a normal form of operations.**  Deriving a shape fails just when pass modes are
given and are not as many as the arguments, and this is a fatal failure that is marked as internal.
Two shapes with the same cache cell are equal just when the operands agree in order and the results
agree; they have one key just when the operands are passed alike and both or neither return.  It
makes no difference whether a receiver is given as such or as the first argument, whether a value to
assign is given as such or as the last argument, whether pass modes that are all by value are given,
and how a receiver that is not there is passed. -/
theorem shape_exact (cell : Option Ty) (ops : Operands) :
    ((∃ f, Shape.derive cell ops = .error f) ↔
      ops.argByRef ≠ [] ∧ ops.argByRef.length ≠ ops.args.length) ∧
    (∀ f, Shape.derive cell ops = .error f → ∃ e : Error, f = .fatal e ∧ e.isInternal = true) ∧
    ∀ sh, Shape.derive cell ops = .ok sh →
      (∀ ops' sh', Shape.derive cell ops' = .ok sh' →
        (sh.equal sh' = true ↔
          List.Forall₂ Param.Agrees ops.listed ops'.listed ∧
            ResultsAgree ops.result ops'.result) ∧
        (sh.key = sh'.key ↔
          ops.listed.map (·.mode) = ops'.listed.map (·.mode) ∧
            isVoid ops.result = isVoid ops'.result)) ∧
      (∀ x, ops.receiver = some x → Shape.derive cell (ops.receiverFirst x) = .ok sh) ∧
      (∀ x, ops.right = some x → Shape.derive cell (ops.rightLast x) = .ok sh) ∧
      Shape.derive cell ops.explicit = .ok sh ∧
      (ops.receiver = none → ∀ r, Shape.derive cell { ops with receiverByRef := r } = .ok sh) := by
  refine ⟨?_, ?_, ?_⟩
  · rw [← Operands.modesFit_eq_false_iff]
    rcases hmodes : ops.modesFit with _ | _
    · simp [Shape.derive_of_misfit cell hmodes]
    · simp [Shape.derive_of_modesFit cell hmodes]
  · intro f hf
    rcases hmodes : ops.modesFit with _ | _
    · rw [Shape.derive_of_misfit cell hmodes] at hf
      cases hf
      exact ⟨_, rfl, rfl⟩
    · rw [Shape.derive_of_modesFit cell hmodes] at hf
      cases hf
  · intro sh hsh
    have hfit : ops.modesFit = true := (Shape.derive_eq_ok hsh).1
    have hsame : ∀ ops' : Operands, ops'.modesFit = true ∧ ops'.listed = ops.listed →
        ops'.result = ops.result → Shape.derive cell ops' = .ok sh := by
      rintro ops' ⟨hfit', hlisted⟩ hresult
      rw [← hsh]
      exact Shape.derive_congr hfit' hfit hlisted hresult
    refine ⟨fun ops' sh' hsh' => ⟨Shape.equal_iff_listed hsh hsh', Shape.key_eq_iff_modes hsh hsh'⟩,
      fun x hx => hsame _ (Operands.receiverFirst_same hfit hx) rfl,
      fun x hx => hsame _ (Operands.rightLast_same hfit hx) rfl,
      hsame _ (Operands.explicit_same hfit) rfl, ?_⟩
    intro hnone r
    refine hsame _ ⟨hfit, ?_⟩ rfl
    rw [Operands.listed, Operands.listed, hnone]
    rfl

/-- A receiver passed by reference, an argument and a value to assign, given as such or as three
arguments; the results are void in different ways. -/
theorem shape_exact_of_assignment :
    let a : Ty := .named ⟨.free 0, "", "A", .reference⟩
    let b : Ty := .named ⟨.free 1, "", "B", .value⟩
    let cell : Ty := .named ⟨.free 2, "", "Cell", .reference⟩
    let ops : Operands := ⟨some a, true, [some b], [], some b, none⟩
    let ops' : Operands :=
      ⟨none, true, [some a, some b, some b], [true, false, false], none, some .void⟩
    ∃ sh sh', Shape.derive cell ops = .ok sh ∧ Shape.derive cell ops' = .ok sh' ∧
      sh.equal sh' = true ∧ sh.key = sh'.key := by
  intro a b cell ops ops'
  obtain ⟨sh, hsh⟩ : ∃ sh, Shape.derive cell ops = .ok sh := ⟨_, rfl⟩
  obtain ⟨sh', hsh'⟩ : ∃ sh', Shape.derive cell ops' = .ok sh' := ⟨_, rfl⟩
  obtain ⟨hequal, hkey⟩ := ((shape_exact cell ops).2.2 sh hsh).1 ops' sh' hsh'
  have hagrees : ∀ p : Param, p.Agrees p := fun p => ⟨equalTypes_refl p.type, rfl⟩
  have hlisted : List.Forall₂ Param.Agrees ops.listed ops'.listed :=
    .cons (hagrees _) (.cons (hagrees _) (.cons (hagrees _) .nil))
  exact ⟨sh, sh', hsh, hsh', hequal.mpr ⟨hlisted, .inl ⟨rfl, rfl⟩⟩, hkey.mpr ⟨rfl, rfl⟩⟩

end CallSites
