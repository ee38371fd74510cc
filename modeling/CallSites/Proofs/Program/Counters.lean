import CallSites.Proofs.Program.Effects
import CallSites.Proofs.Program.Refusals

/-!
# What synthesizers count

A synthesizer keeps three counts.  The first is of shapes that were resolved with a callable family
of the platform, the second of definitions that were made, and the third of shapes that were
resolved with a definition that was there before.  Whoever uses the same registry may have made that
definition, and so may a call of the synthesizer itself that came to nothing: a definition is made,
and counted, before it is applied.

The first two counts are those of the calls in a history, whatever else happens to the program
(`counts_of_history`).  The third is that of the calls that were answered with a definition that was
there before, give or take those that failed on such a definition.  What one call counts is read off
the ways in which it can go (`Resolution.Sound.counted`), and nothing else counts.
-/

namespace CallSites

/-! ## Definitions of families and of registries -/

/-- The definition belongs to a callable family of the platform. -/
def Platform.isFamily (p : Platform) (d : Definition) : Bool :=
  match d.id with
  | .action n => p.family? .action n = some d
  | .func n => p.family? .func n = some d
  | _ => false

section Definitions

variable {p : Platform} {C : Set Ty} {L : List Cell} {s s' : Store} {r : Registry} {d : Definition}

lemma Platform.isFamily_of_provided? {sh : Shape} (h : p.provided? sh = some d) :
    p.isFamily d = true := by
  rw [provided?] at h
  split at h
  · cases h
  · have hid := (family?_eq_some h).1
    rw [Int.toNat_natCast] at hid
    rcases hfamily : Synthesizer.familyOf sh with _ | _
    all_goals
      rw [hfamily] at h hid
      rw [isFamily, hid]
      exact decide_eq_true h

lemma Platform.isFamily_of_synthesized {r n : Nat} (hid : d.id = .synthesized r n) :
    p.isFamily d = false := by
  rw [isFamily, hid]

lemma Registry.size_congr (h : s'.registries = s.registries) : r.size s' = r.size s := by
  rw [size, Store.definitions, h, size, Store.definitions]

lemma Registry.size_synthesize {k : Key} (hnone : r.lookup? k s = none)
    (h : s'.registries = (s.synthesize r.serial k d).registries) : r.size s' = r.size s + 1 := by
  have hdefs : s'.definitions r = (s.definitions r).insert k d := by
    rw [Store.definitions, h]
    exact OrderedMap.getD_insert_self _ _ _ _
  rw [size, hdefs, OrderedMap.size, OrderedMap.entries_insert_of_find?_eq_none d hnone,
    List.length_append]
  rfl

/-- A definition of a registry has the identity of its position. -/
lemma Store.Valid.id_of_mem_definitions (hs : s.Valid p C L) (hd : d ∈ r.definitions s) :
    ∃ n < r.size s, d.id = .synthesized r.serial n := by
  obtain ⟨⟨k, d⟩, he, rfl⟩ := List.mem_map.mp hd
  obtain ⟨n, hn⟩ := List.getElem?_of_mem he
  exact ⟨n, (List.getElem?_eq_some_iff.mp hn).1,
    (synthesizedDefinition_eq_ok (hs.registry r.serial n k d hn)).1⟩

end Definitions

/-! ## Calls -/

namespace Resolution

/-- The call returns an instance of a callable family of the platform. -/
def fast (p : Platform) (a : Resolution) : Bool :=
  match a.run.1 with
  | .ok i => p.isFamily i.definition
  | .error _ => false

/-- The call makes a definition, whether or not an instance of it is returned. -/
def creates (a : Resolution) : Bool :=
  a.synthesizer.registry.size a.store < a.synthesizer.registry.size a.run.2

/-- The call returns an instance of a definition that was in the registry before. -/
def reuses (a : Resolution) : Bool :=
  match a.run.1 with
  | .ok i => i.definition ∈ a.synthesizer.registry.definitions a.store
  | .error _ => false

/-- The call fails although there was a definition in the registry before, and it needs one. -/
def failsOnOld (p : Platform) (a : Resolution) : Bool :=
  !a.succeeds && (p.provided? a.shape).isNone &&
    (a.synthesizer.registry.lookup? a.shape.key a.store).isSome

variable {p : Platform} {C : Set Ty} {L : List Cell} {a : Resolution}

lemma instantiate_spares {d : Definition} {sh : Shape} {s s' : Store} {o : Except Failure Instance}
    (hrun : (Synthesizer.instantiate d sh).run s = (o, s')) :
    s'.registries = s.registries ∧ s'.tallies = s.tallies := by
  obtain ⟨e, -, rfl⟩ | ⟨i, t, -, -, rfl⟩ := Synthesizer.instantiate_cases hrun
  · exact ⟨rfl, rfl⟩
  · exact ⟨rfl, rfl⟩

/-! ## What a call counts -/

/-- What a call does to the counts of its synthesizer.  Whether a call that fails on a definition
that was there before is counted is left open. -/
structure Counted (p : Platform) (a : Resolution) (t t' : Tally) : Prop where
  fastPath : t'.fastPath = t.fastPath + (a.fast p).toNat
  synthesized : t'.synthesized = t.synthesized + a.creates.toNat
  le_reused : t.reused + a.reuses.toNat ≤ t'.reused
  reused_le : t'.reused ≤ t.reused + a.reuses.toNat + (a.failsOnOld p).toNat
  /-- An instance is one of a family, of a new definition or of an old one. -/
  instances : a.succeeds.toNat + (a.creates && !a.succeeds).toNat =
    (a.fast p).toNat + a.creates.toNat + a.reuses.toNat

/-- A call that comes to nothing counts nothing. -/
lemma Counted.of_idle {e : Failure} {s' : Store} (hrun : a.run = (.error e, s'))
    (hregistries : s'.registries = a.store.registries) (htallies : s'.tallies = a.store.tallies) :
    a.Counted p (a.store.tally a.synthesizer) (s'.tally a.synthesizer) := by
  have hsame : s'.tally a.synthesizer = a.store.tally a.synthesizer := by
    rw [Store.tally, htallies, Store.tally]
  rw [hsame]
  constructor <;>
    simp [succeeds, fast, creates, reuses, hrun, Except.toBool, Registry.size_congr hregistries]

/-- **One call.** -/
lemma Sound.counted (h : a.Sound p C L) :
    a.Counted p (a.store.tally a.synthesizer) (a.run.2.tally a.synthesizer) := by
  have hcourse := a.course h.services
  have hres := h.keeps.2
  have htally : ∀ {s' : Store} {f : Tally → Tally},
      s'.tallies = (a.store.count a.synthesizer.serial f).tallies →
      s'.tally a.synthesizer = f (a.store.tally a.synthesizer) := by
    intro s' f htallies
    rw [Store.tally, htallies]
    exact OrderedMap.getD_insert_self _ _ _ _
  generalize hrun : a.run = q at hcourse hres
  cases hcourse with
  | @family d i s₁ hprov hinst =>
      generalize hcount : (s₁.count a.synthesizer.serial fun t =>
        { t with fastPath := t.fastPath + 1 }) = s' at hrun hres ⊢
      have hregistries : s'.registries = a.store.registries := by
        rw [← hcount]
        exact (instantiate_spares hinst).1
      have htallies : s'.tallies = (a.store.count a.synthesizer.serial fun t =>
          { t with fastPath := t.fastPath + 1 }).tallies := by
        rw [← hcount, Store.count, (instantiate_spares hinst).2, Store.count]
      have hfamily := Platform.isFamily_of_provided?
        ((hres i rfl).selected.resolve_right (by simp [hprov]))
      have hnew : i.definition ∉ a.synthesizer.registry.definitions a.store := by
        intro hmem
        obtain ⟨n, -, hid⟩ := h.valid.id_of_mem_definitions hmem
        rw [Platform.isFamily_of_synthesized hid] at hfamily
        cases hfamily
      rw [htally htallies]
      constructor <;>
        simp [succeeds, fast, creates, reuses, hrun, hfamily, hnew, Except.toBool,
          Registry.size_congr hregistries]
  | refused hprov hinst =>
      obtain ⟨hregistries, htallies⟩ := instantiate_spares hinst
      exact .of_idle hrun hregistries htallies
  | full hprov hmade => exact .of_idle hrun rfl rfl
  | @found d o s' hprov hfound hinst =>
      have hregistries : s'.registries = a.store.registries := (instantiate_spares hinst).1
      have ho : ∀ i, o = .ok i → i.definition = d := fun i hi => by
        obtain ⟨-, hlast⟩ := (hres i hi).selected.resolve_left (by simp [hprov])
        rw [hregistries] at hlast
        exact Option.some.inj (hlast.symm.trans hfound)
      have hmem : d ∈ a.synthesizer.registry.definitions a.store :=
        OrderedMap.mem_values_of_find? hfound
      obtain ⟨n, -, hid⟩ := h.valid.id_of_mem_definitions hmem
      rw [htally (instantiate_spares hinst).2]
      rcases o with e | i
      · constructor <;>
          simp [succeeds, fast, creates, reuses, failsOnOld, hrun, Except.toBool, hprov, hfound,
            Registry.size_congr hregistries]
      · constructor <;>
          simp [succeeds, fast, creates, reuses, hrun, Except.toBool, ho i rfl, hmem,
            Platform.isFamily_of_synthesized hid, Registry.size_congr hregistries]
  | @made d o s' hprov hnone hmade hinst =>
      have hregistries : s'.registries =
          (a.store.synthesize a.synthesizer.registry.serial a.shape.key d).registries :=
        (instantiate_spares hinst).1
      have hid := (synthesizedDefinition_eq_ok hmade).1
      have ho : ∀ i, o = .ok i → i.definition = d := fun i hi => by
        obtain ⟨-, hlast⟩ := (hres i hi).selected.resolve_left (by simp [hprov])
        rw [hregistries] at hlast
        have hfirst := a.store.find?_synthesize a.synthesizer.registry.serial
          a.synthesizer.registry.serial a.shape.key a.shape.key d
        rw [if_pos ⟨rfl, rfl⟩] at hfirst
        exact Option.some.inj (hlast.symm.trans hfirst)
      have hnew : d ∉ a.synthesizer.registry.definitions a.store := by
        intro hmem
        obtain ⟨n, hlt, hid'⟩ := h.valid.id_of_mem_definitions hmem
        rw [hid, DefId.synthesized.injEq] at hid'
        exact absurd hid'.2.symm hlt.ne
      have htallies : s'.tallies = (a.store.count a.synthesizer.serial fun t =>
          { t with synthesized := t.synthesized + 1 }).tallies := (instantiate_spares hinst).2
      rw [htally htallies]
      rcases o with e | i
      · constructor <;>
          simp [succeeds, fast, creates, reuses, hrun, Except.toBool,
            Registry.size_synthesize hnone hregistries]
      · constructor <;>
          simp [succeeds, fast, creates, reuses, hrun, Except.toBool, ho i rfl, hnew,
            Platform.isFamily_of_synthesized hid, Registry.size_synthesize hnone hregistries]

/-- The counts of other synthesizers stay as they are. -/
lemma Sound.tally_of_ne (h : a.Sound p C L) {n : Nat} (hn : a.synthesizer.serial ≠ n) :
    a.run.2.tallies.getD n {} = a.store.tallies.getD n {} := by
  have hcourse := a.course h.services
  generalize a.run = q at hcourse
  cases hcourse with
  | family _ hinst => rw [Store.getD_count, if_neg hn, (instantiate_spares hinst).2]
  | refused _ hinst => rw [(instantiate_spares hinst).2]
  | found _ _ hinst => rw [(instantiate_spares hinst).2, Store.getD_count, if_neg hn]
  | made _ _ _ hinst =>
      rw [(instantiate_spares hinst).2, Store.getD_count, if_neg hn, Store.tallies_synthesize]
  | full _ _ => rfl

end Resolution

/-! ## Calls of a history -/

/-- The program comes about by a history in which the given calls are made, oldest first. -/
abbrev World.Called (p : Platform) : List Resolution → World → Prop :=
  World.Recounts p (fun _ => True) Event.resolutions

section Calls

variable {p : Platform} {w : World}

/-- **One request.**  Nothing about it counts but the call that it makes. -/
lemma Request.countsBy_perform (r : Request) (s : Store) :
    s.ChangesBy Store.tallies (r.perform.run s).2 (r.resolutions s) := by
  refine changesBy_perform (fun _ _ => rfl) (fun _ _ _ => rfl)
    (fun c _ a _ i _ => Spares.bindCell_tallies i) fun hcall => ?_
  by_cases hminor : r.IsMinor
  · exact hminor.spares
      ⟨fun _ _ => rfl, fun _ _ => rfl, fun _ _ => rfl, fun _ _ => rfl, fun _ _ => rfl⟩
  cases r with
  | types q => exact Spares.bind (Spares.toStoreM rfl) fun _ _ _ => Spares.pure _
  | loadOrCreate q k => exact Spares.quiet (Spares.loadOrCreate (fun _ _ => rfl) q k)
  | resolve | callableType | resolveSite | resolveOperands => exact absurd trivial hcall
  | allocate f hint =>
      refine Spares.bind ?_ fun _ _ _ => Spares.pure _
      exact Spares.allocate (fun _ _ => rfl) (fun _ _ _ _ => rfl) hint
  | beginSite f hint =>
      refine Spares.bind (Spares.beginSite ?_) fun _ _ _ => Spares.pure _
      exact Spares.allocate (fun _ _ => rfl) (fun _ _ _ _ => rfl) hint
  | bind c callable => exact Spares.quiet (Spares.bindCell_tallies callable)
  | bindWith f c callable => exact Spares.quiet (Spares.bindWith (Spares.bindCell_tallies callable))
  | declare c name type access static => exact Spares.quiet (Spares.declare fun _ _ => rfl)
  | _ => exact absurd trivial hminor

lemma World.Called.sound {log : List Resolution} (h : World.Called p log w) :
    ∀ a ∈ log, ∃ C L, a.Sound p C L := by
  obtain ⟨events, hevents, -, rfl⟩ := h
  intro a ha
  obtain ⟨e, he, ha⟩ := List.mem_flatMap.mp ha
  exact ⟨_, _, (hevents.sound e he a ha).1⟩

end Calls

/-! ## The counts -/

namespace Resolution.Counted

variable {p : Platform} {a : Resolution} {t t' : Tally}

/-- A call that fails counts at most the definition that it has made. -/
lemma of_fails (h : a.Counted p t t') (hfails : a.succeeds = false)
    (hold : a.failsOnOld p = false) :
    t' = { t with synthesized := t.synthesized + a.creates.toNat } := by
  have hinstances := h.instances
  have hfast := h.fastPath
  have hmade := h.synthesized
  have hle := h.le_reused
  have hge := h.reused_le
  simp only [hfails, Bool.not_false, Bool.and_true, Bool.toNat_false] at hinstances
  simp only [hold, Bool.toNat_false] at hge
  have hpath : t'.fastPath = t.fastPath := by omega
  have hreused : t'.reused = t.reused := by omega
  rw [← hpath, ← hmade, ← hreused]

/-- A call that succeeds is counted once. -/
lemma total_of_succeeds (h : a.Counted p t t') (hsucceeds : a.succeeds = true) :
    t'.total = t.total + 1 := by
  have hinstances := h.instances
  have hfast := h.fastPath
  have hmade := h.synthesized
  have hle := h.le_reused
  have hge := h.reused_le
  have hold : a.failsOnOld p = false := by simp [failsOnOld, hsucceeds]
  simp only [hsucceeds, Bool.not_true, Bool.and_false, Bool.toNat_false, Bool.toNat_true]
    at hinstances
  simp only [hold, Bool.toNat_false] at hge
  unfold Tally.total
  omega

end Resolution.Counted

/-- **The invariant.**  The counts of a synthesizer are those of its calls. -/
structure Tally.Sums (p : Platform) (own : List Resolution) (t : Tally) : Prop where
  fastPath : t.fastPath = own.countP (·.fast p)
  synthesized : t.synthesized = own.countP (·.creates)
  le_reused : own.countP (·.reuses) ≤ t.reused
  reused_le : t.reused ≤ own.countP (·.reuses) + own.countP (·.failsOnOld p)
  instances : own.countP (·.succeeds) + own.countP (fun a => a.creates && !a.succeeds) =
    own.countP (·.fast p) + own.countP (·.creates) + own.countP (·.reuses)

section Counts

variable {p : Platform} {own log : List Resolution} {a : Resolution} {t t' : Tally} {w : World}

lemma countP_concat (f : Resolution → Bool) :
    (own ++ [a]).countP f = own.countP f + (f a).toNat := by
  rw [List.countP_append, List.countP_singleton]
  cases f a <;> rfl

/-- **One more call.** -/
lemma Tally.Sums.concat (h : t.Sums p own) (ha : a.Counted p t t') : t'.Sums p (own ++ [a]) where
  fastPath := by rw [countP_concat, ha.fastPath, h.fastPath]
  synthesized := by rw [countP_concat, ha.synthesized, h.synthesized]
  le_reused := by
    have hle := h.le_reused
    have hle' := ha.le_reused
    rw [countP_concat]
    omega
  reused_le := by
    have hle := h.reused_le
    have hle' := ha.reused_le
    rw [countP_concat, countP_concat]
    omega
  instances := by
    have heq := h.instances
    have heq' := ha.instances
    simp only [countP_concat]
    omega

/-- **A whole history.**  The induction is on the requests, from the first one on. -/
lemma World.Called.sums (h : World.Called p log w) (n : Nat) :
    (w.store.tallies.getD n {}).Sums p (log.filter (·.synthesizer.serial = n)) := by
  induction h using World.Recounts.induction with
  | initial => exact ⟨rfl, rfl, Nat.le_refl _, Nat.le_refl _, rfl⟩
  | @step log w r h hr _ ih =>
      have hchanges : w.store.ChangesBy Store.tallies (w.perform r).store
          (Event.resolutions ⟨w, r⟩) := r.countsBy_perform w.store
      obtain ⟨hnone, htallies⟩ | ⟨a, hcall, hbefore, hafter⟩ := hchanges
      · rw [hnone, List.append_nil, htallies]
        exact ih
      · have hmem : a ∈ Event.resolutions ⟨w, r⟩ := by simp [hcall]
        obtain ⟨ha, -⟩ := Request.sound_resolutions h.valid hr a hmem
        rw [hcall, hafter, List.filter_append]
        rw [← hbefore] at ih
        by_cases hn : a.synthesizer.serial = n
        · subst hn
          simp only [List.filter_cons, List.filter_nil, decide_true, if_true]
          exact ih.concat ha.counted
        · simp only [List.filter_cons, List.filter_nil, hn, decide_false, Bool.false_eq_true,
            if_false, List.append_nil]
          rw [ha.tally_of_ne hn]
          exact ih

end Counts

/-- **What synthesizers count.**  After any history of a program the first count of a synthesizer is
the number of its calls that returned an instance of a callable family, and the second the number of
those that made a definition, whether or not they returned an instance.  The third is the number of
those that returned an instance of a definition that was in the registry before the call, and the
three together the number of those that returned an instance or made a definition and failed, but
for calls that failed on a definition that was there before.

A call that returns an instance is counted once.  One that fails is counted only if it has made a
definition, but for those same calls.  The calls of other synthesizers do not count, also if they
use the same registry. -/
theorem counts_of_history {p : Platform} {log : List Resolution} {w : World}
    (h : World.Called p log w) (y : Synthesizer) :
    let own := log.filter (·.synthesizer.serial = y.serial)
    let t := w.store.tally y
    t.fastPath = own.countP (·.fast p) ∧
      t.synthesized = own.countP (·.creates) ∧
      own.countP (·.reuses) ≤ t.reused ∧
      t.reused ≤ own.countP (·.reuses) + own.countP (·.failsOnOld p) ∧
      own.countP (·.succeeds) + own.countP (fun a => a.creates && !a.succeeds) ≤ t.total ∧
      t.total ≤ own.countP (·.succeeds) + own.countP (fun a => a.creates && !a.succeeds) +
        own.countP (·.failsOnOld p) ∧
      (∀ a ∈ own, a.succeeds = true → (a.run.2.tally y).total = (a.store.tally y).total + 1) ∧
      (∀ a ∈ own, a.succeeds = false → a.failsOnOld p = false →
        a.run.2.tally y = { a.store.tally y with
          synthesized := (a.store.tally y).synthesized + a.creates.toNat }) ∧
      ∀ a ∈ log, a.synthesizer.serial ≠ y.serial → a.run.2.tally y = a.store.tally y := by
  intro own t
  have hsums : t.Sums p own := h.sums y.serial
  have hown : ∀ a ∈ own, a.Counted p (a.store.tally y) (a.run.2.tally y) := by
    intro a ha
    obtain ⟨hlog, hserial⟩ := List.mem_filter.mp ha
    obtain ⟨C, L, hsound⟩ := h.sound a hlog
    have hcounted := hsound.counted
    rwa [Store.tally, Store.tally, of_decide_eq_true hserial] at hcounted
  have htotal : t.total = t.fastPath + t.synthesized + t.reused := rfl
  have hinstances := hsums.instances
  have hle := hsums.le_reused
  have hge := hsums.reused_le
  rw [hsums.fastPath, hsums.synthesized] at htotal
  refine ⟨hsums.fastPath, hsums.synthesized, hle, hge, by omega, by omega, ?_, ?_, ?_⟩
  · exact fun a ha hsucceeds => (hown a ha).total_of_succeeds hsucceeds
  · exact fun a ha hfails hold => (hown a ha).of_fails hfails hold
  · intro a ha hserial
    obtain ⟨C, L, hsound⟩ := h.sound a ha
    exact hsound.tally_of_ne hserial

/-- Two synthesizers over one registry.  The first makes a definition and fails to apply it, and the
second finds it.  Of two shapes for a family the second cannot be resolved. -/
theorem counts_of_shared_registry :
    let x : Ty := .named ⟨.free 0, "", "A", .reference⟩
    let y (n : Nat) : Synthesizer := ⟨n, .ofPlatform .standard, ⟨2, ""⟩⟩
    let own (n : Nat) (log : List Resolution) := log.filter (·.synthesizer.serial = (y n).serial)
    ∃ log w, World.Called .standard log w ∧
      log.map (·.succeeds) = [false, true, true, false] ∧
      (w.store.tally (y 0)).fastPath = (own 0 log).countP (·.fast .standard) ∧
      (w.store.tally (y 0)).synthesized = 1 ∧
      (own 1 log).countP (·.reuses) ≤ (w.store.tally (y 1)).reused ∧
      (own 1 log).countP (·.reuses) = 1 ∧ x ∈ w.client := by
  intro x y own
  let shape (o : Option Ty) (mode : PassMode) : Shape := ⟨[⟨o, mode⟩], none⟩
  let w₀ := (World.initial .standard).perform (.types (.newNamed "" "A" .reference))
  let w₁ := w₀.perform (.resolve (y 0) (shape none .byRef))
  let w₂ := w₁.perform (.resolve (y 1) (shape (some x) .byRef))
  let w₃ := w₂.perform (.resolve (y 0) (shape (some x) .byValue))
  let w₄ := w₃.perform (.resolve (y 0) (shape none .byValue))
  have hx : x ∈ w₀.client := .inl rfl
  have hknown : ∀ {w : World} {mode : PassMode}, x ∈ w.client →
      (shape (some x) mode).Known (w.census .standard) w.store.types := by
    intro w mode hxw
    have hcensus : x ∈ w.census .standard := .inl (.inr hxw)
    exact ⟨by simpa [shape, Ty.Known] using hcensus, knownType_none⟩
  have hnone : ∀ {w : World} {mode : PassMode},
      (shape none mode).Known (w.census .standard) w.store.types := by
    simp [Shape.Known, shape]
  have h₀ : World.Called .standard _ w₀ := World.Recounts.initial.step ⟨trivial, trivial⟩ trivial
  have h₁ := h₀.step (r := .resolve (y 0) (shape none .byRef)) ⟨rfl, hnone⟩ trivial
  have h₂ := h₁.step (r := .resolve (y 1) (shape (some x) .byRef)) ⟨rfl, hknown (.inr hx)⟩ trivial
  have h₃ := h₂.step (r := .resolve (y 0) (shape (some x) .byValue))
    ⟨rfl, hknown (.inr (.inr hx))⟩ trivial
  have h₄ := h₃.step (r := .resolve (y 0) (shape none .byValue)) ⟨rfl, hnone⟩ trivial
  obtain ⟨hfast, hmade, -⟩ := counts_of_history h₄ (y 0)
  obtain ⟨-, -, hreused, -⟩ := counts_of_history h₄ (y 1)
  refine ⟨_, w₄, h₄, ?_, hfast, hmade.trans ?_, hreused, ?_, .inr (.inr (.inr (.inr hx)))⟩
  · decide +kernel
  · decide +kernel
  · decide +kernel

/-- A call that fails is counted when it has made a definition. -/
theorem counts_failed_creation :
    let y : Synthesizer := ⟨0, .ofPlatform .standard, ⟨1, ""⟩⟩
    ∃ log w, World.Called .standard log w ∧ log.map (·.succeeds) = [false] ∧
      (w.store.tally y).total = 1 := by
  intro y
  let sh : Shape := ⟨[⟨some .void, .byRef⟩], none⟩
  have hknown : sh.Known ((World.initial .standard).census .standard)
      (World.initial .standard).store.types := by
    simp [Shape.Known, sh, Ty.Known]
  have h : World.Called .standard _ ((World.initial .standard).perform (.resolve y sh)) :=
    World.Recounts.initial.step ⟨rfl, hknown⟩ trivial
  refine ⟨_, _, h, ?_, ?_⟩
  · decide +kernel
  · decide +kernel

end CallSites
