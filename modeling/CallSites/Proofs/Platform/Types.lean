import CallSites.Platform.Basic
import CallSites.Proofs.Types.Callable

/-!
# The types of a platform

A platform has named types, cache cell types and callable families before anything is asked of it.
Their identities are functions of the profile: the position in the list of types, the number of
parameters of a member of a family, and a constant for each of the cache cell types.  So they are
never shared, among themselves or with types that a client creates.

The table that a program starts from is not empty.  The create method of the generic cache cell type
returns that type applied to its own type parameter, which is the first instance on file.  With it,
`Platform.sound_initialTypes` says that the table is in order for the types of the platform.
-/

namespace CallSites

namespace Platform

/-- The platform has the type, whatever has been asked of it. -/
inductive Provides (p : Platform) : Ty → Prop
  | listed {i : Nat} {e : TypeSpec} (h : p.profile.types[i]? = some e) :
      Provides p (.named ⟨.listed i, e.ns, e.name, e.typeKind⟩)
  | binder {n : Named} (h : p.binder? = some n) : Provides p (.named n)
  | cell {n : Named} (h : p.cell? = some n) : Provides p (.named n)
  | genericCell {d : Definition} (h : p.genericCell? = some d) : Provides p (.definition d)
  | family {f : Family} {n : Int} {d : Definition} (h : p.family? f n = some d) :
      Provides p (.definition d)

variable {p : Platform}

/-! ## Identities -/

lemma id_of_binder? {n : Named} (h : p.binder? = some n) : n.id = .binder := by
  obtain ⟨c, -, rfl⟩ := Option.map_eq_some_iff.mp h
  rfl

lemma id_of_cell? {n : Named} (h : p.cell? = some n) : n.id = .cell := by
  obtain ⟨c, -, rfl⟩ := Option.map_eq_some_iff.mp h
  rfl

lemma id_of_genericCell? {d : Definition} (h : p.genericCell? = some d) : d.id = .cell := by
  obtain ⟨c, -, rfl⟩ := Option.map_eq_some_iff.mp h
  rfl

lemma familyId_inj {f f' : Family} {n n' : Nat} (h : familyId f n = familyId f' n') :
    f = f' ∧ n = n' := by
  cases f <;> cases f' <;> cases h <;> exact ⟨rfl, rfl⟩

/-- The callable types of a family are those of a number of parameters, passed by value. -/
lemma family?_eq_some {f : Family} {k : Int} {d : Definition} (h : p.family? f k = some d) :
    d.id = familyId f k.toNat ∧ d.synthesized = false ∧
      d.IsCallable (List.replicate k.toNat false) (f = .func) := by
  rw [family?] at h
  split at h
  · cases h
  · cases h
    exact ⟨rfl, rfl, isCallable_callableDefinition _ _ _ _ _ _⟩

/-- The callable types of a family are from no registry. -/
lemma id_ne_synthesized_of_family? {f : Family} {k : Int} {d : Definition}
    (h : p.family? f k = some d) (r n : Nat) : d.id ≠ .synthesized r n := by
  rw [(family?_eq_some h).1]
  cases f <;> simp [familyId]

/-- A family has one callable type for a number of parameters, and no two families share one. -/
lemma family?_inj {f f' : Family} {k k' : Int} {d d' : Definition} (h : p.family? f k = some d)
    (h' : p.family? f' k' = some d') (hid : d.id = d'.id) : d = d' := by
  rw [(family?_eq_some h).1, (family?_eq_some h').1] at hid
  obtain ⟨rfl, hk⟩ := familyId_inj hid
  rw [family?] at h h'
  split at h
  · cases h
  · split at h'
    · cases h'
    · cases h
      cases h'
      rw [hk]

lemma familyId_ne_cell (f : Family) (n : Nat) : familyId f n ≠ .cell := by
  cases f <;> simp [familyId]

lemma Provides.clientSerial?_eq_none {x : Ty} (h : p.Provides x) :
    x.ident.clientSerial? = none := by
  cases h with
  | listed _ => rfl
  | binder h => rw [Ty.ident, id_of_binder? h]; rfl
  | cell h => rw [Ty.ident, id_of_cell? h]; rfl
  | genericCell h => rw [Ty.ident, id_of_genericCell? h]; rfl
  | @family f n d h =>
      rw [Ty.ident, (family?_eq_some h).1]
      cases f <;> rfl

/-- No two types of a platform have one identity. -/
lemma Provides.eq_of_ident_eq {x y : Ty} (hx : p.Provides x) (hy : p.Provides y)
    (hid : x.ident = y.ident) : x = y := by
  cases hx with
  | listed h =>
      cases hy with
      | listed h' =>
          cases hid
          rw [h] at h'
          cases h'
          rfl
      | binder h' => simp [Ty.ident, id_of_binder? h'] at hid
      | cell h' => simp [Ty.ident, id_of_cell? h'] at hid
      | genericCell h' | family h' => cases hid
  | binder h =>
      cases hy with
      | listed h' => simp [Ty.ident, id_of_binder? h] at hid
      | binder h' => rw [Option.some.inj (h.symm.trans h')]
      | cell h' => simp [Ty.ident, id_of_binder? h, id_of_cell? h'] at hid
      | genericCell h' | family h' => cases hid
  | cell h =>
      cases hy with
      | listed h' => simp [Ty.ident, id_of_cell? h] at hid
      | binder h' => simp [Ty.ident, id_of_cell? h, id_of_binder? h'] at hid
      | cell h' => rw [Option.some.inj (h.symm.trans h')]
      | genericCell h' | family h' => cases hid
  | genericCell h =>
      cases hy with
      | listed _ | binder _ | cell _ => cases hid
      | genericCell h' => rw [Option.some.inj (h.symm.trans h')]
      | family h' =>
          rw [Ty.ident, Ty.ident, Ty.Ident.definition.injEq, id_of_genericCell? h,
            (family?_eq_some h').1] at hid
          exact absurd hid.symm (familyId_ne_cell _ _)
  | family h =>
      cases hy with
      | listed _ | binder _ | cell _ => cases hid
      | genericCell h' =>
          rw [Ty.ident, Ty.ident, Ty.Ident.definition.injEq, id_of_genericCell? h',
            (family?_eq_some h).1] at hid
          exact absurd hid (familyId_ne_cell _ _)
      | family h' => rw [family?_inj h h' (Ty.Ident.definition.inj hid)]

/-! ## Declarations of the generic cache cell type -/

lemma genericCell?_eq_some {d : Definition} (h : p.genericCell? = some d) :
    ∃ c b, p.binder? = some b ∧ d.arity = 1 ∧ d.kind = .reference ∧
      d.body = .cell b (cellMembers c) := by
  obtain ⟨c, hc, rfl⟩ := Option.map_eq_some_iff.mp h
  exact ⟨c, _, Option.map_eq_some_iff.mpr ⟨c, hc, rfl⟩, rfl, rfl, rfl⟩

/-- The members of the generic cache cell type, with the binder type that they mention. -/
lemma mem_declarations_genericCell {d : Definition} (h : p.genericCell? = some d)
    {decl : Declaration} (hdecl : decl ∈ d.declarations) :
    ∃ b m, p.binder? = some b ∧ decl = d.cellDeclaration b m := by
  obtain ⟨c, b, hb, -, -, hbody⟩ := genericCell?_eq_some h
  rw [Definition.declarations, hbody] at hdecl
  obtain ⟨m, -, rfl⟩ := List.mem_map.mp hdecl
  exact ⟨b, m, hb, rfl⟩

lemma known_declarations_genericCell {K : Set Ty} {t : TypeTable} {d : Definition}
    (hK : ∀ x, p.Provides x → x ∈ K) (h : p.genericCell? = some d) (hself : d.self ∈ t.filed d) :
    ∀ decl ∈ d.declarations, decl.Known K t := by
  intro decl hdecl
  have hd : .definition d ∈ K := hK _ (.genericCell h)
  obtain ⟨b, m, hb, rfl⟩ := mem_declarations_genericCell h hdecl
  obtain ⟨-, -, -, harity, -⟩ := genericCell?_eq_some h
  cases m with
  | target => exact ⟨knownType_some.mpr ⟨hd, by omega⟩, by simp [Definition.cellDeclaration]⟩
  | create =>
      refine ⟨knownType_some.mpr ⟨hd, hself⟩, fun q hq => ?_⟩
      rw [List.mem_singleton.mp hq]
      exact knownType_some.mpr (hK _ (.binder hb))

/-! ## The first table -/

/-- The generic cache cell type applied to its own type parameter is on file from the start. -/
lemma self_mem_initialTypes {d : Definition} (h : p.genericCell? = some d) :
    d.self ∈ p.initialTypes.filed d := by
  rw [initialTypes, h]
  exact (({} : TypeTable).filed_file_self d.self).mem_iff.mpr (by simp)

lemma interned_initialTypes (p : Platform) : p.initialTypes.Interned {x | p.Provides x} := by
  have hblank : ({} : TypeTable).Interned {x | p.Provides x} :=
    .blank (fun x hx y hy => hx.eq_of_ident_eq hy) fun x hx => hx.clientSerial?_eq_none
  rw [initialTypes]
  rcases h : p.genericCell? with _ | d
  · exact hblank
  · have hd : .definition d ∈ {x | p.Provides x} := Provides.genericCell h
    refine hblank.file hd (fun a ha => ?_) ?_ fun i hi => by cases hi
    · obtain ⟨n, -, rfl⟩ := List.mem_map.mp ha
      exact ⟨d.known_params hd _ ha, by simp [Ty.Usable, Ty.kind]⟩
    · simp [Definition.params]

lemma added_initialTypes (p : Platform) (d : Definition) :
    (p.initialTypes.definition d).added = [] := by
  rw [initialTypes]
  split
  · rfl
  · exact (TypeTable.files_file _ _).added d

/-- **The table that a program starts from** is in order for the types of the platform. -/
theorem sound_initialTypes (p : Platform) : p.initialTypes.Sound {x | p.Provides x} := by
  refine .blank (interned_initialTypes p) ?_ fun d hd => ?_
  · rw [initialTypes]
    split <;> rfl
  · rw [TypeTable.declared, added_initialTypes, List.append_nil]
    cases hd with
    | genericCell h =>
        exact known_declarations_genericCell (fun _ => id) h (self_mem_initialTypes h)
    | family h =>
        exact (family?_eq_some h).2.2.known_declarations (Provides.family h)

end Platform

end CallSites
