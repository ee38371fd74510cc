import CallSites.Proofs.Data.SortedNames
import CallSites.Proofs.Program.RegistryWrites

/-!
# Registries by unit

A table gives every unit a registry of its own.  Registries outlive their place in the table: one
that has been released can still be written to, and its unit may have another one by then.  Two
registries are one exactly if they have the same serial.

What has become of a table is told by the log of registries given out and units released, oldest
first.  `TableHistory.Sound` relates the log to the store, `Sound.perform` is what one call does to
it and `UnitTable.serves_units` what follows for every history.
-/

namespace CallSites

/-! ## Histories of a table -/

/-- What can be asked of a table and of the registries that it has given out. -/
inductive TableCall where
  | forUnit (unit : String)
  | release (unit : String)
  | units
  /-- Writes to the registry that was given out at a position. -/
  | write (position : Nat) (x : RegistryWrite)

/-- What a call has come to, as far as it matters later. -/
inductive TableEvent where
  | gave (unit : String) (r : Registry)
  | released (unit : String)

/-- The registry of a unit after an event, given the one before. -/
def TableEvent.update (unit : String) (now : Option Registry) : TableEvent → Option Registry
  | .gave v r => if v = unit then some r else now
  | .released v => if v = unit then none else now

/-- The registry that an event gives out. -/
def TableEvent.given? : TableEvent → Option Registry
  | .gave _ r => some r
  | .released _ => none

/-- A store with what a table has been asked so far, oldest first. -/
structure TableHistory where
  store : Store
  log : List TableEvent

namespace TableHistory

/-- The registry that was last given to a unit, unless the unit has been released since. -/
def current? (h : TableHistory) (unit : String) : Option Registry :=
  h.log.foldl (fun now e => e.update unit now) none

/-- The registries that have been given out, oldest first. -/
def given (h : TableHistory) : List Registry := h.log.filterMap TableEvent.given?

/-- Performs a call. -/
def perform (t : UnitTable) (h : TableHistory) : TableCall → TableHistory
  | .forUnit unit =>
    match (t.forUnit unit).run h.store with
    | (.ok r, s) => ⟨s, h.log ++ [.gave unit r]⟩
    | (.error _, s) => { h with store := s }
  | .release unit => ⟨((t.release unit).run h.store).2, h.log ++ [.released unit]⟩
  | .units => h
  | .write position x =>
    match h.given[position]? with
    | some r => { h with store := ((x.perform r).run h.store).2 }
    | none => h

/-- Performs calls one after the other. -/
def performAll (t : UnitTable) (h : TableHistory) (calls : List TableCall) : TableHistory :=
  calls.foldl (perform t) h

end TableHistory

section Tables

variable {t : UnitTable} {h : TableHistory} {s : Store} {unit v : String} {r r' : Registry}

/-! ## Giving out and releasing -/

lemma UnitTable.run_forUnit_of_some (hr : (s.unitRegistries t).find? unit = some r) :
    (t.forUnit unit).run s = (.ok r, s) := by
  rw [forUnit, run_bind, run_get]
  simp only [hr]
  rfl

/-- The store in which a unit has been given the next registry. -/
def Store.register (s : Store) (t : UnitTable) (unit : String) : Store :=
  { s with
    next := s.next + 1
    units := s.units.insert t.serial ((s.unitRegistries t).insert unit ⟨s.next, unit⟩) }

lemma UnitTable.run_forUnit_of_none (hnone : (s.unitRegistries t).find? unit = none) :
    (t.forUnit unit).run s = (.ok ⟨s.next, unit⟩, s.register t unit) := by
  rw [forUnit, run_bind, run_get]
  simp only [hnone]
  rfl

/-- The store in which a unit has been released. -/
def Store.unregister (s : Store) (t : UnitTable) (unit : String) : Store :=
  { s with units := s.units.insert t.serial ((s.unitRegistries t).erase unit) }

lemma UnitTable.run_release : (t.release unit).run s = (.ok ⟨⟩, s.unregister t unit) := rfl

@[simp] lemma Store.unitRegistries_register :
    (s.register t unit).unitRegistries t = (s.unitRegistries t).insert unit ⟨s.next, unit⟩ :=
  OrderedMap.getD_insert_self _ _ _ _

@[simp] lemma Store.unitRegistries_unregister :
    (s.unregister t unit).unitRegistries t = (s.unitRegistries t).erase unit :=
  OrderedMap.getD_insert_self _ _ _ _

/-! ## The invariant -/

/-- Serials that have not been given out belong to nothing, and the definitions of a registry carry
its serial. -/
structure Store.Settled (s : Store) : Prop where
  labelled : s.Labelled
  registries : ∀ n, s.next ≤ n → s.registries.getD n ∅ = ∅
  units : ∀ n, s.next ≤ n → s.units.getD n ∅ = ∅

lemma Store.settled_initial (p : Platform) : (Store.initial p).Settled where
  labelled _ _ hd := by cases hd
  registries _ _ := rfl
  units _ _ := rfl

namespace TableHistory

lemma current?_concat (e : TableEvent) (s : Store) :
    (⟨s, h.log ++ [e]⟩ : TableHistory).current? unit = e.update unit (h.current? unit) := by
  rw [current?, List.foldl_append]
  rfl

lemma mem_given_iff : r ∈ h.given ↔ ∃ unit, .gave unit r ∈ h.log := by
  rw [given, List.mem_filterMap]
  constructor
  · rintro ⟨_ | _, he, hr⟩ <;> cases hr
    exact ⟨_, he⟩
  · rintro ⟨unit, he⟩
    exact ⟨_, he, rfl⟩

/-- The registry of a unit has been given to it. -/
lemma mem_log_of_current? (hr : h.current? unit = some r) : .gave unit r ∈ h.log := by
  obtain ⟨s, log⟩ := h
  induction log using List.reverseRecOn with
  | nil => cases hr
  | append_singleton log e ih =>
      rw [current?_concat (h := ⟨s, log⟩)] at hr
      rw [List.mem_append]
      rcases e with ⟨v, r'⟩ | v <;> rw [TableEvent.update] at hr <;> split at hr
      · next hv =>
          cases hr
          exact .inr (by simp [hv])
      · exact .inl (ih hr)
      · cases hr
      · exact .inl (ih hr)

lemma given_gave (s : Store) :
    (⟨s, h.log ++ [.gave unit r]⟩ : TableHistory).given = h.given ++ [r] :=
  List.filterMap_append

lemma given_released (s : Store) :
    (⟨s, h.log ++ [.released unit]⟩ : TableHistory).given = h.given :=
  List.filterMap_append.trans (List.append_nil _)

/-- **The invariant of a table**: the log tells who has which registry, and registries that have
been given out are told apart by their serials. -/
structure Sound (t : UnitTable) (h : TableHistory) : Prop where
  settled : h.store.Settled
  serial_lt : t.serial < h.store.next
  find?_eq : ∀ unit, (h.store.unitRegistries t).find? unit = h.current? unit
  gave : ∀ unit r, .gave unit r ∈ h.log → r.unit = unit ∧ r.serial < h.store.next
  eq_of_serial : ∀ r ∈ h.given, ∀ r' ∈ h.given, r.serial = r'.serial → r = r'

namespace Sound

lemma serial_lt_of_mem (hs : h.Sound t) (hr : r ∈ h.given) : r.serial < h.store.next := by
  obtain ⟨unit, he⟩ := mem_given_iff.mp hr
  exact (hs.gave unit r he).2

/-- A unit is given the registry that it has. -/
lemma gave_again (hs : h.Sound t) (hr : h.current? unit = some r) :
    Sound t ⟨h.store, h.log ++ [.gave unit r]⟩ where
  settled := hs.settled
  serial_lt := hs.serial_lt
  find?_eq v := by
    rw [current?_concat, TableEvent.update, hs.find?_eq]
    split
    · next hv => rw [← hv, hr]
    · rfl
  gave v r' he := by
    rcases List.mem_append.mp he with he | he
    · exact hs.gave v r' he
    · cases List.mem_singleton.mp he
      exact hs.gave unit r (mem_log_of_current? hr)
  eq_of_serial q hq q' hq' := by
    have hold : r ∈ h.given := mem_given_iff.mpr ⟨unit, mem_log_of_current? hr⟩
    have hmem : ∀ {x}, x ∈ h.given ++ [r] → x ∈ h.given := by
      intro x hx
      rw [List.mem_append, List.mem_singleton] at hx
      exact hx.elim id fun hxr => hxr ▸ hold
    rw [given_gave] at hq hq'
    exact hs.eq_of_serial q (hmem hq) q' (hmem hq')

/-- A unit is given a new registry. -/
lemma gave_new (hs : h.Sound t) (unit : String) :
    Sound t ⟨h.store.register t unit, h.log ++ [.gave unit ⟨h.store.next, unit⟩]⟩ where
  settled :=
    { labelled := hs.settled.labelled
      registries := fun n hn => hs.settled.registries n (Nat.le_of_succ_le hn)
      units := fun n hn => by
        have hlt : t.serial < n := hs.serial_lt.trans hn
        exact (OrderedMap.getD_insert_of_ne _ _ _ hlt.ne).trans
          (hs.settled.units n (Nat.le_of_succ_le hn)) }
  serial_lt := Nat.lt_succ_of_lt hs.serial_lt
  find?_eq v := by
    rw [current?_concat, TableEvent.update, Store.unitRegistries_register, OrderedMap.find?_insert,
      hs.find?_eq]
  gave v r' he := by
    rcases List.mem_append.mp he with he | he
    · exact ⟨(hs.gave v r' he).1, Nat.lt_succ_of_lt (hs.gave v r' he).2⟩
    · cases List.mem_singleton.mp he
      exact ⟨rfl, Nat.lt_succ_self _⟩
  eq_of_serial q hq q' hq' hserial := by
    rw [given_gave, List.mem_append, List.mem_singleton] at hq hq'
    rcases hq with hq | rfl <;> rcases hq' with hq' | rfl
    · exact hs.eq_of_serial q hq q' hq' hserial
    · exact absurd hserial (hs.serial_lt_of_mem hq).ne
    · exact absurd hserial (hs.serial_lt_of_mem hq').ne'
    · rfl

/-- A unit is released. -/
lemma released (hs : h.Sound t) (unit : String) :
    Sound t ⟨h.store.unregister t unit, h.log ++ [.released unit]⟩ where
  settled :=
    { labelled := hs.settled.labelled
      registries := hs.settled.registries
      units := fun n hn =>
        (OrderedMap.getD_insert_of_ne _ _ _ (hs.serial_lt.trans_le hn).ne).trans
          (hs.settled.units n hn) }
  serial_lt := hs.serial_lt
  find?_eq v := by
    rw [current?_concat, TableEvent.update, Store.unitRegistries_unregister, OrderedMap.find?_erase,
      hs.find?_eq]
  gave v r' he := by
    rcases List.mem_append.mp he with he | he
    · exact hs.gave v r' he
    · cases List.mem_singleton.mp he
  eq_of_serial := by
    rw [given_released]
    exact hs.eq_of_serial

/-- A registry that has been given out is written to. -/
lemma wrote (hs : h.Sound t) (hr : r ∈ h.given) (x : RegistryWrite) :
    Sound t { h with store := ((x.perform r).run h.store).2 } := by
  obtain ⟨hlabelled, hout⟩ := x.outside_run hs.settled.labelled r
  simp only [Store.outside, Prod.mk.injEq] at hout
  obtain ⟨hnext, hunits, hothers⟩ := hout
  refine
    { settled := ⟨hlabelled, fun n hn => ?_, ?_⟩
      serial_lt := ?_
      find?_eq := fun unit => ?_
      gave := ?_
      eq_of_serial := hs.eq_of_serial }
  · rw [hnext] at hn
    have hne : n ≠ r.serial := ((hs.serial_lt_of_mem hr).trans_le hn).ne'
    have hn' := congrArg Prod.fst (congrFun hothers ⟨n, hne⟩)
    exact hn'.trans (hs.settled.registries n hn)
  · rw [hnext, hunits]
    exact hs.settled.units
  · rw [hnext]
    exact hs.serial_lt
  · rw [Store.unitRegistries, hunits]
    exact hs.find?_eq unit
  · rw [hnext]
    exact hs.gave

/-- **One call** keeps the invariant, whatever comes of it. -/
lemma perform (hs : h.Sound t) (c : TableCall) : (h.perform t c).Sound t := by
  cases c with
  | forUnit unit =>
      rcases hr : h.current? unit with _ | r
      · have hrun := UnitTable.run_forUnit_of_none ((hs.find?_eq unit).trans hr)
        rw [TableHistory.perform, hrun]
        exact hs.gave_new unit
      · have hrun := UnitTable.run_forUnit_of_some ((hs.find?_eq unit).trans hr)
        rw [TableHistory.perform, hrun]
        exact hs.gave_again hr
  | release unit =>
      rw [TableHistory.perform, UnitTable.run_release]
      exact hs.released unit
  | units => exact hs
  | write position x =>
      rw [TableHistory.perform]
      rcases hr : h.given[position]? with _ | r
      · exact hs
      · exact hs.wrote (List.mem_of_getElem? hr) x

/-- **Any number of calls** keep the invariant. -/
lemma performAll (hs : h.Sound t) (calls : List TableCall) : (h.performAll t calls).Sound t := by
  induction calls generalizing h with
  | nil => exact hs
  | cons c calls ih => exact ih (hs.perform c)

/-- A table that has just been made. -/
lemma new (hs : s.Settled) : Sound ⟨s.next⟩ ⟨{ s with next := s.next + 1 }, []⟩ where
  settled :=
    { labelled := hs.labelled
      registries := fun n hn => hs.registries n (Nat.le_of_succ_le hn)
      units := fun n hn => hs.units n (Nat.le_of_succ_le hn) }
  serial_lt := Nat.lt_succ_self _
  find?_eq unit := by
    have hblank : ({ s with next := s.next + 1 } : Store).unitRegistries ⟨s.next⟩ = ∅ :=
      hs.units s.next (Nat.le_refl _)
    rw [hblank]
    rfl
  gave _ _ he := by cases he
  eq_of_serial _ hr := by cases hr

end Sound

end TableHistory

/-! ## What a table does for its units -/

/-- **What a table does for its units** after a history. -/
structure UnitTable.Serves (t : UnitTable) (h : TableHistory) : Prop where
  /-- A unit that has been given a registry and has not been released since gets it again. -/
  again : ∀ unit r, h.current? unit = some r → (t.forUnit unit).run h.store = (.ok r, h.store)
  /-- Any other unit gets a registry in its name that is empty and that nobody has been given. -/
  anew : ∀ unit, h.current? unit = none →
    ∃ r s, (t.forUnit unit).run h.store = (.ok r, s) ∧ r.unit = unit ∧ s.definitions r = ∅ ∧
      r.numInstances s = 0 ∧ ∀ r' ∈ h.given, r'.serial ≠ r.serial
  named : ∀ unit r, .gave unit r ∈ h.log → r.unit = unit
  /-- No two units have ever been given one registry. -/
  apart : ∀ unit r, .gave unit r ∈ h.log → ∀ unit' r', .gave unit' r' ∈ h.log →
    unit ≠ unit' → r.serial ≠ r'.serial
  /-- Registries that have been given out are different objects if they are not the same. -/
  distinct : ∀ r ∈ h.given, ∀ r' ∈ h.given, r ≠ r' → r.serial ≠ r'.serial
  /-- A write to a registry changes no other one, whether or not the two are still in the table,
  and it does not change the table. -/
  wrote : ∀ r ∈ h.given, ∀ x : RegistryWrite,
    (∀ r' : Registry, r'.serial ≠ r.serial → r'.SameIn h.store ((x.perform r).run h.store).2) ∧
      ((x.perform r).run h.store).2.unitRegistries t = h.store.unitRegistries t
  /-- Asking for a registry and releasing a unit write to no registry. -/
  asked : ∀ (unit : String) (r : Registry), r.SameIn h.store ((t.forUnit unit).run h.store).2 ∧
    r.SameIn h.store ((t.release unit).run h.store).2
  increasing : (t.unitNames h.store).Pairwise fun u v => Text.bytes u < Text.bytes v
  /-- The units that are listed are those that have a registry. -/
  listed : ∀ unit, unit ∈ t.unitNames h.store ↔ ∃ r, h.current? unit = some r
  /-- Asking for the registry of a unit that is listed does not change the list. -/
  unchanged : ∀ unit ∈ t.unitNames h.store,
    t.unitNames ((t.forUnit unit).run h.store).2 = t.unitNames h.store
  /-- Other tables can be made from here on. -/
  settled : h.store.Settled

lemma TableHistory.Sound.mem_unitNames_iff (hs : h.Sound t) :
    unit ∈ t.unitNames h.store ↔ ∃ r, h.current? unit = some r := by
  rw [UnitTable.unitNames, mem_sortedNames, ← hs.find?_eq, ← Option.ne_none_iff_exists', ne_eq,
    OrderedMap.find?_eq_none_iff, not_not]

/-- Asking for the registry of a unit writes to no registry. -/
lemma UnitTable.sameIn_forUnit (t : UnitTable) (unit : String) (r : Registry) (s : Store) :
    r.SameIn s ((t.forUnit unit).run s).2 :=
  .of_eq (Spares.forUnit (fun _ _ => rfl) (fun _ _ => rfl) t unit)
    (Spares.forUnit (fun _ _ => rfl) (fun _ _ => rfl) t unit)

lemma TableHistory.Sound.serves (hs : h.Sound t) : t.Serves h where
  again unit r hr := UnitTable.run_forUnit_of_some ((hs.find?_eq unit).trans hr)
  anew unit hnone := by
    have hempty : (h.store.register t unit).definitions ⟨h.store.next, unit⟩ = ∅ :=
      hs.settled.registries _ (Nat.le_refl _)
    refine ⟨_, _, UnitTable.run_forUnit_of_none ((hs.find?_eq unit).trans hnone), rfl, hempty, ?_,
      fun r' hr' => (hs.serial_lt_of_mem hr').ne⟩
    rw [Registry.numInstances, Registry.definitions, hempty]
    rfl
  named unit r he := (hs.gave unit r he).1
  apart unit r he unit' r' he' hne hserial := by
    have hmem : ∀ {unit r}, .gave unit r ∈ h.log → r ∈ h.given := fun he =>
      mem_given_iff.mpr ⟨_, he⟩
    have heq := hs.eq_of_serial r (hmem he) r' (hmem he') hserial
    refine hne ?_
    rw [← (hs.gave unit r he).1, ← (hs.gave unit' r' he').1, heq]
  distinct r hr r' hr' hne hserial := hne (hs.eq_of_serial r hr r' hr' hserial)
  wrote r hr x := by
    obtain ⟨-, hout⟩ := x.outside_run hs.settled.labelled r
    refine ⟨fun r' hne => Registry.sameIn_of_outside hs.settled.labelled hout hne, ?_⟩
    have hunits := congrArg (fun v => v.2.1) hout
    exact congrArg (OrderedMap.getD · t.serial ∅) hunits
  asked unit r := ⟨t.sameIn_forUnit unit r h.store, .of_eq rfl rfl⟩
  increasing := pairwise_bytes_sortedNames _
  listed _ := hs.mem_unitNames_iff
  unchanged unit hunit := by
    obtain ⟨r, hr⟩ := hs.mem_unitNames_iff.mp hunit
    rw [UnitTable.run_forUnit_of_some ((hs.find?_eq unit).trans hr)]
  settled := hs.settled

/-- **A table is a map from units to registries.**  It is made from any store in which no serial
has been used that has not been given out, and asked and its registries written to in any order. -/
theorem UnitTable.serves_units (hs : s.Settled) (calls : List TableCall) :
    ∃ t s', UnitTable.new.run s = (.ok t, s') ∧
      t.Serves (TableHistory.performAll t ⟨s', []⟩ calls) :=
  ⟨⟨s.next⟩, _, rfl, ((TableHistory.Sound.new hs).performAll calls).serves⟩

/-- A unit is released and comes back while another one stays.  It has another registry then, and
what is still written to the first one does not show up there. -/
theorem UnitTable.serves_units_of_reopened :
    let s := Store.initial .standard
    let int : Ty := .named ⟨.listed 3, "System", "Int32", .value⟩
    let k : Key := ⟨1, "1", true⟩
    let calls : List TableCall :=
      [.forUnit "b", .forUnit "a", .write 1 (.create k), .release "a", .forUnit "b", .forUnit "a",
       .write 1 (.create ⟨2, "01", false⟩), .write 1 (.apply 0 [some int]), .write 3 (.create k),
       .units, .release "c"]
    let h := TableHistory.performAll ⟨0⟩ ⟨{ s with next := 1 }, []⟩ calls
    s.Settled ∧
      (∃ t s', UnitTable.new.run s = (.ok t, s') ∧
        t.Serves (TableHistory.performAll t ⟨s', []⟩ calls)) ∧
      h.given = [⟨1, "b"⟩, ⟨2, "a"⟩, ⟨1, "b"⟩, ⟨3, "a"⟩] ∧
      (h.given.map fun r => (r.size h.store, r.numInstances h.store)) =
        [(0, 0), (2, 1), (0, 0), (1, 0)] ∧
      UnitTable.unitNames ⟨0⟩ h.store = ["a", "b"] := by
  intro s int k calls h
  refine ⟨Store.settled_initial _, serves_units (Store.settled_initial _) calls, ?_, ?_, ?_⟩
  · decide +kernel
  · decide +kernel
  · decide +kernel

end Tables

end CallSites
