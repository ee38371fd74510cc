import CallSites.Proofs.Program.Abreast
import CallSites.Proofs.Program.RegistryContents

/-!
# Programs of many factories

A program may have any number of containers, with factories that get their registries from one
table of units.  A `Program` keeps account of the factories that have been made and of the calls
that they have made, in a journal.  `Orderly p w` says that the account is right.  What is new in
such a program is blank: a container that has just been made has a blank page and a factory a blank
sheet, whatever else is in the program.

There is one lemma for each way in which such a program goes on: a container is made, the registry
of a unit is asked for, a factory is made, or one of the factories is asked something.
-/

namespace CallSites

/-- The registry of a unit, if it has one. -/
def Store.registryOf? (s : Store) (unit : String) : Option Registry :=
  (s.unitRegistries ⟨0⟩).find? unit

/-- The page of a container that nothing has been done in. -/
def Page.blank : Page := ⟨[], [], fun _ => ⟨none, none, false, false⟩⟩

/-- The sheet of a factory that has done nothing. -/
def Sheet.blank : Sheet := ⟨0, []⟩

/-- The calls in a journal. -/
def journalCalls (J : List (SiteFactory × Note)) : List Call := J.map fun e => e.1.enter e.2

/-- Picked by their factories, the entries of one factory are all kept or all left out. -/
lemma filter_entries (P : SiteFactory → Prop) [DecidablePred P] (f : SiteFactory)
    (notes : List Note) :
    ((notes.map fun n => (f, n)).filter fun e => P e.1) =
      if P f then notes.map fun n => (f, n) else [] := by
  by_cases h : P f <;> simp [h, List.filter_map, Function.comp_def]

/-- A program with the factories that have been made, and with the calls that have been made, each
with the factory that made it. -/
structure Program extends World where
  factories : List SiteFactory
  journal : List (SiteFactory × Note)

/-- The account of the factories and of their calls is right. -/
structure Orderly (p : Platform) (w : Program) : Prop where
  valid : w.toWorld.Valid p
  ledger : Ledger p (journalCalls w.journal) w.store
  owned : w.store.Owned
  pages : ∀ n, w.store.types.next ≤ n → w.store.page n = .blank
  sheets : ∀ n, w.store.next ≤ n → w.store.sheet n = .blank
  services : ∀ f ∈ w.factories, f.services = .ofPlatform p
  bounds : ∀ f ∈ w.factories, f.serial < w.store.next ∧ f.container.serial < w.store.types.next
  registry : ∀ f ∈ w.factories, w.store.registryOf? f.registry.unit = some f.registry
  serials : (w.factories.map (·.serial)).Nodup
  journal : ∀ e ∈ w.journal, e.1 ∈ w.factories
  units : ∀ u r, w.store.registryOf? u = some r → r.unit = u ∧ r.serial < w.store.next
  distinct : ∀ u v r r', w.store.registryOf? u = some r → w.store.registryOf? v = some r' →
    r.serial = r'.serial → u = v

/-- The store of a program with a table of units, before anything else has happened. -/
def Store.withUnits (p : Platform) : Store := { Store.initial p with next := 1 }

/-- The store in which a container has been made. -/
def Store.reserve (s : Store) : Store :=
  { s with types := { s.types with next := s.types.next + 1 } }

/-- The store in which a registry has been made for a unit. -/
def Store.enroll (s : Store) (unit : String) : Store :=
  { s with
    next := s.next + 1
    units := s.units.insert 0 ((s.unitRegistries ⟨0⟩).insert unit ⟨s.next, unit⟩) }

/-- The store in which a factory has been made. -/
def Store.hire (s : Store) : Store := { s with next := s.next + 1 }

section Runs

variable (s : Store)

lemma run_newContainer (ns name : String) :
    (TypeM.newContainer ns name).toStoreM.run s = (.ok ⟨s.types.next, ns, name⟩, s.reserve) := rfl

lemma run_newFactory (v : Services) (c : Container) (r : Registry) :
    (SiteFactory.new (some v) (some c) (some r)).run s = (.ok ⟨s.next, v, c, r⟩, s.hire) := rfl

lemma run_forUnit (unit : String) :
    (UnitTable.forUnit ⟨0⟩ unit).run s =
      match s.registryOf? unit with
      | some r => (.ok r, s)
      | none => (.ok ⟨s.next, unit⟩, s.enroll unit) := by
  rw [UnitTable.forUnit, run_bind, run_get]
  dsimp only
  rw [← Store.registryOf?]
  cases s.registryOf? unit <;> rfl

/-- Asking for the registry of a unit gives out a serial at most. -/
lemma forUnit_frame {s : Store} {unit : String} {o : Except Failure Registry} {s' : Store}
    (hrun : (UnitTable.forUnit ⟨0⟩ unit).run s = (o, s')) :
    (∀ n, s'.page n = s.page n) ∧ (∀ n, s'.sheet n = s.sheet n) ∧ s'.types = s.types ∧
      s.next ≤ s'.next := by
  rw [run_forUnit] at hrun
  split at hrun
  · cases hrun
    exact ⟨fun _ => rfl, fun _ => rfl, rfl, le_refl _⟩
  · cases hrun
    exact ⟨fun _ => rfl, fun _ => rfl, rfl, Nat.le_succ _⟩

lemma Store.registryOf?_enroll (unit v : String) :
    (s.enroll unit).registryOf? v = if unit = v then some ⟨s.next, unit⟩ else s.registryOf? v := by
  have htable : (s.enroll unit).unitRegistries ⟨0⟩ =
      (s.unitRegistries ⟨0⟩).insert unit ⟨s.next, unit⟩ :=
    OrderedMap.getD_insert_self _ _ _ _
  rw [registryOf?, htable, OrderedMap.find?_insert]
  rfl

end Runs

/-- Units keep their registries when a factory is asked something. -/
lemma SiteFactory.Steps.registryOf?_eq {p : Platform} {f : SiteFactory} {C : Set Ty}
    {L L' : List Cell} {log : List Call} {notes : List Note} {s s' : Store}
    (h : f.Steps p C L L' log notes s s') (unit : String) :
    s'.registryOf? unit = s.registryOf? unit := by
  have hunits : s'.units = s.units := congrArg Prod.snd (h.apart f.apart_units)
  rw [Store.registryOf?, Store.registryOf?, Store.unitRegistries, Store.unitRegistries, hunits]

/-- The invariant does not speak about serials and tables of units. -/
lemma Store.Valid.with_units {p : Platform} {C : Set Ty} {L : List Cell} {s : Store}
    (h : s.Valid p C L) (n : Nat) (m : OrderedMap Nat (OrderedMap String Registry)) :
    ({ s with next := n, units := m } : Store).Valid p C L := by
  have hframe : ({ s with next := n, units := m } : Store).Valid p C L ∧
      s.Grows { s with next := n, units := m } :=
    h.frame rfl rfl rfl rfl rfl
  exact hframe.1

/-- The program with a table of units, before anything else has happened. -/
def Program.initial (p : Platform) : Program := ⟨⟨.withUnits p, ∅, []⟩, [], []⟩

namespace Orderly

variable {p : Platform} {w : Program}

lemma initial (p : Platform) : Orderly p (.initial p) where
  valid := Store.Valid.with_units (World.valid_initial p) _ _
  ledger := (Ledger.initial p).congr (World.valid_initial p) rfl
  owned _ e he := by cases he
  pages _ _ := rfl
  sheets _ _ := rfl
  services f hf := by cases hf
  bounds f hf := by cases hf
  registry f hf := by cases hf
  serials := List.nodup_nil
  journal e he := by cases he
  units u r hr := by cases hr
  distinct u v r r' hr := by cases hr

/-- Factories with one serial are one factory. -/
lemma eq_of_serial_eq (h : Orderly p w) {f g : SiteFactory} (hf : f ∈ w.factories)
    (hg : g ∈ w.factories) (hserial : f.serial = g.serial) : f = g :=
  List.inj_on_of_nodup_map h.serials hf hg hserial

/-- The factories before the last one have other serials. -/
lemma serial_ne_last (h : Orderly p w) {before : List SiteFactory} {f g : SiteFactory}
    (hlast : w.factories = before ++ [f]) (hg : g ∈ before) : g.serial ≠ f.serial := by
  have hserials := h.serials
  rw [hlast, List.map_append, List.nodup_append] at hserials
  exact hserials.2.2 _ (List.mem_map_of_mem hg) _ (by simp)

/-! ## Steps -/

/-- A container is made. -/
lemma reserve (h : Orderly p w) (ns name : String) :
    Orderly p { w with
      store := w.store.reserve
      client := {.container ⟨w.store.types.next, ns, name⟩} ∪ w.client } where
  valid := by
    have hleaves : TypeTable.Leaves (w.store.census p w.client) w.store.types
        (.ok (some (.container ⟨w.store.types.next, ns, name⟩)))
        { w.store.types with next := w.store.types.next + 1 } :=
      .create h.valid.types rfl fun d hd => by cases hd
    exact (Store.Valid.with_client h.valid hleaves).1
  ledger := h.ledger.congr h.valid rfl
  owned := h.owned
  pages n hn := h.pages n (Nat.le_of_succ_le hn)
  sheets := h.sheets
  services := h.services
  bounds f hf := ⟨(h.bounds f hf).1, Nat.lt_succ_of_lt (h.bounds f hf).2⟩
  registry := h.registry
  serials := h.serials
  journal := h.journal
  units := h.units
  distinct := h.distinct

/-- A registry is made for a unit that has none. -/
lemma enroll (h : Orderly p w) {unit : String} (hnone : w.store.registryOf? unit = none) :
    Orderly p { w with store := w.store.enroll unit } where
  valid := Store.Valid.with_units h.valid _ _
  ledger := h.ledger.congr h.valid rfl
  owned := h.owned
  pages := h.pages
  sheets n hn := h.sheets n (Nat.le_of_succ_le hn)
  services := h.services
  bounds f hf := ⟨Nat.lt_succ_of_lt (h.bounds f hf).1, (h.bounds f hf).2⟩
  registry f hf := by
    have hold := h.registry f hf
    have hne : unit ≠ f.registry.unit := by
      rintro rfl
      rw [hnone] at hold
      cases hold
    rw [Store.registryOf?_enroll, if_neg hne]
    exact hold
  serials := h.serials
  journal := h.journal
  units u r hr := by
    rw [Store.registryOf?_enroll] at hr
    split at hr
    · next hu =>
        cases hr
        exact ⟨hu, Nat.lt_succ_self _⟩
    · exact ⟨(h.units u r hr).1, Nat.lt_succ_of_lt (h.units u r hr).2⟩
  distinct u v r r' hr hr' hserial := by
    rw [Store.registryOf?_enroll] at hr hr'
    split at hr <;> split at hr'
    · next hu hv => exact hu.symm.trans hv
    · cases hr
      exact absurd hserial.symm (h.units v r' hr').2.ne
    · cases hr'
      exact absurd hserial (h.units u r hr).2.ne
    · exact h.distinct u v r r' hr hr' hserial

/-- The registry of a unit is asked for. -/
lemma forUnit (h : Orderly p w) {unit : String} {o : Except Failure Registry} {s' : Store}
    (hrun : (UnitTable.forUnit ⟨0⟩ unit).run w.store = (o, s')) :
    ∃ r, o = .ok r ∧ r.unit = unit ∧ s'.registryOf? unit = some r ∧
      Orderly p { w with store := s' } ∧
        ∀ v, v ≠ unit → s'.registryOf? v = w.store.registryOf? v := by
  rw [run_forUnit] at hrun
  rcases hr : w.store.registryOf? unit with _ | r
  · rw [hr] at hrun
    cases hrun
    refine ⟨⟨w.store.next, unit⟩, rfl, rfl, ?_, h.enroll hr, fun v hv => ?_⟩
    · rw [Store.registryOf?_enroll, if_pos rfl]
    · rw [Store.registryOf?_enroll, if_neg (Ne.symm hv)]
  · rw [hr] at hrun
    cases hrun
    exact ⟨r, rfl, (h.units unit r hr).1, hr, h, fun v _ => rfl⟩

/-- A factory is made for a container and the registry of a unit. -/
lemma hire (h : Orderly p w) {c : Container} {r : Registry}
    (hc : c.serial < w.store.types.next) (hr : w.store.registryOf? r.unit = some r) :
    Orderly p { w with
      store := w.store.hire
      factories := w.factories ++ [⟨w.store.next, .ofPlatform p, c, r⟩] } where
  valid := Store.Valid.with_units h.valid _ _
  ledger := h.ledger.congr h.valid rfl
  owned := h.owned
  pages := h.pages
  sheets n hn := h.sheets n (Nat.le_of_succ_le hn)
  services f hf := by
    rcases List.mem_append.mp hf with hf | hf
    · exact h.services f hf
    · rw [List.mem_singleton.mp hf]
  bounds f hf := by
    rcases List.mem_append.mp hf with hf | hf
    · exact ⟨Nat.lt_succ_of_lt (h.bounds f hf).1, (h.bounds f hf).2⟩
    · rw [List.mem_singleton.mp hf]
      exact ⟨Nat.lt_succ_self _, hc⟩
  registry f hf := by
    rcases List.mem_append.mp hf with hf | hf
    · exact h.registry f hf
    · rw [List.mem_singleton.mp hf]
      exact hr
  serials := by
    rw [List.map_append, List.map_singleton, ← List.concat_eq_append]
    refine h.serials.concat fun hmem => ?_
    obtain ⟨f, hf, hserial⟩ := List.mem_map.mp hmem
    exact (h.bounds f hf).1.ne hserial
  journal e he := List.mem_append_left _ (h.journal e he)
  units u r hr := ⟨(h.units u r hr).1, Nat.lt_succ_of_lt (h.units u r hr).2⟩
  distinct := h.distinct

lemma journalCalls_append (J : List (SiteFactory × Note)) (f : SiteFactory) (notes : List Note) :
    journalCalls (J ++ notes.map fun n => (f, n)) = journalCalls J ++ notes.map f.enter := by
  rw [journalCalls, List.map_append, List.map_map]
  rfl

/-- One of the factories is asked something. -/
lemma steps (h : Orderly p w) {f : SiteFactory} (hf : f ∈ w.factories)
    {L' : List Cell} {notes : List Note} {s' : Store}
    (hs : f.Steps p w.client w.cells L' (journalCalls w.journal) notes w.store s') :
    Orderly p { w with
      store := s'
      cells := L'
      journal := w.journal ++ notes.map fun n => (f, n) } := by
  have htypes : w.store.types.next ≤ s'.types.next := hs.grows.types.next
  have hnext : s'.next = w.store.next := congrArg Prod.fst (hs.apart f.apart_units)
  have hregistry := hs.registryOf?_eq
  obtain ⟨hserial, hcontainer⟩ := h.bounds f hf
  refine
    { valid := hs.valid
      ledger := ?_
      owned := (hs.apart f.apart_owned).mpr h.owned
      pages := fun n hn => ?_
      sheets := fun n hn => ?_
      services := h.services
      bounds := fun g hg => ?_
      registry := fun g hg => (hregistry _).trans (h.registry g hg)
      serials := h.serials
      journal := fun e he => ?_
      units := fun u r hr => ?_
      distinct := fun u v r r' hr hr' => ?_ }
  · rw [journalCalls_append]
    exact hs.ledger
  · have hne : f.container.serial ≠ n := (hcontainer.trans_le (htypes.trans hn)).ne
    exact (hs.apart (SiteFactory.apart_page hne)).trans (h.pages n (htypes.trans hn))
  · have hn' : w.store.next ≤ n := hnext ▸ hn
    have hne : f.serial ≠ n := (hserial.trans_le hn').ne
    exact (hs.apart (SiteFactory.apart_sheet hne)).trans (h.sheets n hn')
  · exact ⟨(h.bounds g hg).1.trans_eq hnext.symm, (h.bounds g hg).2.trans_le htypes⟩
  · rcases List.mem_append.mp he with he | he
    · exact h.journal e he
    · obtain ⟨n, -, rfl⟩ := List.mem_map.mp he
      exact hf
  · rw [hregistry] at hr
    exact ⟨(h.units u r hr).1, (h.units u r hr).2.trans_eq hnext.symm⟩
  · rw [hregistry] at hr hr'
    exact h.distinct u v r r' hr hr'

end Orderly

end CallSites
