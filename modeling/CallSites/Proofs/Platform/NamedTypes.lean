import CallSites.Proofs.Data.SortedNames
import CallSites.Proofs.Program.Cells
import CallSites.SiteFile
import Mathlib.Data.List.ReduceOption

/-!
# Named types

The operands of a site come from the named types of the platform.  These exist from the start, so
they are known in every program that is compiled for the platform, whatever has happened in it.
-/

namespace CallSites

/-- The type is one of the named types of the platform. -/
def Platform.IsNamed (p : Platform) (x : Ty) : Prop := ∃ name, p.types.find? name = some x

/-- The types of the operands. -/
def Operands.types (ops : Operands) : List Ty :=
  (ops.receiver :: ops.right :: ops.result :: ops.args).reduceOption

/-- The types of the parameters and of the result. -/
def Shape.types (sh : Shape) : List Ty := (sh.result :: sh.params.map (·.type)).reduceOption

section Named

variable {p : Platform} {x : Ty}

lemma Platform.IsNamed.void_or_provides (h : p.IsNamed x) : x = .void ∨ p.Provides x := by
  obtain ⟨name, hname⟩ := h
  rw [Platform.types, OrderedMap.ofList] at hname
  rcases OrderedMap.find?_foldl_insert Prod.fst Prod.snd hname with hnone | ⟨e, he, -, rfl⟩
  · cases hnone
  rw [List.cons_append, List.mem_cons, List.mem_append] at he
  rcases he with rfl | hlisted | hcell
  · exact .inl rfl
  · obtain ⟨⟨e, i⟩, he, rfl⟩ := List.mem_map.mp hlisted
    exact .inr (.listed (List.mem_zipIdx_iff_getElem?.mp he))
  · obtain ⟨n, hn, rfl⟩ := List.mem_map.mp hcell
    rw [List.mem_append, Option.mem_toList, Option.mem_toList] at hn
    rcases hn with hbinder | hcell
    · exact .inr (.binder hbinder)
    · exact .inr (.cell hcell)

variable {C : Set Ty} {s : Store} {t : TypeTable}

lemma Platform.IsNamed.known (h : p.IsNamed x) : x.Known (s.census p C) t := by
  rcases h.void_or_provides with rfl | hprovides
  · trivial
  · have hmem : x ∈ s.census p C := Store.mem_census_of_provides hprovides
    cases hprovides <;> exact hmem

lemma knownType_of_named {o : Option Ty} (h : ∀ x, o = some x → p.IsNamed x) :
    KnownType (s.census p C) t o :=
  fun x hx => (h x hx).known

lemma Operands.known_of_named {ops : Operands} (h : ∀ x ∈ ops.types, p.IsNamed x) :
    ops.Known (s.census p C) t := by
  have hmem : ∀ o ∈ ops.receiver :: ops.right :: ops.result :: ops.args,
      KnownType (s.census p C) t o := by
    intro o ho
    refine knownType_of_named fun x hx => h x ?_
    rw [Operands.types, List.reduceOption_mem_iff]
    exact hx ▸ ho
  exact
    { receiver := hmem _ (by simp)
      args := fun a ha => hmem a (by simp [ha])
      right := hmem _ (by simp)
      result := hmem _ (by simp) }

lemma Shape.known_of_named {sh : Shape} (h : ∀ x ∈ sh.types, p.IsNamed x) :
    sh.Known (s.census p C) t := by
  have hmem : ∀ o ∈ sh.result :: sh.params.map (·.type), KnownType (s.census p C) t o := by
    intro o ho
    refine knownType_of_named fun x hx => h x ?_
    rw [Shape.types, List.reduceOption_mem_iff]
    exact hx ▸ ho
  exact ⟨fun q hq => hmem _ (List.mem_cons_of_mem _ (List.mem_map.mpr ⟨q, hq, rfl⟩)),
    hmem _ List.mem_cons_self⟩

/-- What a name is looked up to is a named type. -/
lemma Platform.isNamed_of_lookup {name : String} (h : p.lookup name = .ok x) : p.IsNamed x := by
  rw [Platform.lookup] at h
  split at h
  · next y hy =>
      cases h
      exact ⟨name, hy⟩
  · split at h
    · cases h
    · next full hfull =>
        cases h
        have hmem : full ∈ p.typeNames :=
          (List.mem_filter.mp (hfull ▸ List.mem_singleton_self full)).1
        rw [Platform.typeNames, mem_sortedNames] at hmem
        obtain ⟨y, hy⟩ : ∃ y, p.types.find? full = some y := by
          rw [← Option.ne_none_iff_exists', Ne, OrderedMap.find?_eq_none_iff, not_not]
          exact hmem
        exact ⟨full, by rw [OrderedMap.getD, hy, Option.getD_some]⟩
    · cases h

/-- The operands of a site are over named types. -/
lemma SiteSpec.named_of_operands {spec : SiteSpec} {ops : Operands}
    (h : spec.operands p.lookup = .ok ops) : ∀ x ∈ ops.types, p.IsNamed x := by
  have hfound : ∀ {name : String} {x : Ty},
      SiteSpec.found (SiteSpec.lookupOptional p.lookup name) = some x → p.IsNamed x := by
    intro name x hx
    rw [SiteSpec.lookupOptional] at hx
    split at hx
    · cases hx
    · rcases hlookup : p.lookup name with e | y
      · rw [hlookup] at hx
        cases hx
      · rw [hlookup] at hx
        cases hx
        exact Platform.isNamed_of_lookup hlookup
  rw [SiteSpec.operands] at h
  split at h
  · cases h
  · cases h
    intro x hx
    rw [Operands.types, List.reduceOption_mem_iff] at hx
    simp only [List.mem_cons, SiteSpec.lookupAll, List.mem_map, exists_exists_and_eq_and] at hx
    rcases hx with hx | hx | hx | ⟨name, -, hx⟩
    · exact hfound hx.symm
    · exact hfound hx.symm
    · exact hfound hx.symm
    · exact hfound hx

end Named

end CallSites
