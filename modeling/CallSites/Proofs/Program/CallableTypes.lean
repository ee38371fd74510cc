import CallSites.Proofs.Program.History

/-!
# The callable types of shapes

What a synthesizer returns for a shape is an instance of a definition that other shapes share, found
through a registry that other synthesizers share, in a table that everything else writes to.  Two
things make it the callable type of the shape.

* It has the signature of the shape: its call method takes as many parameters, of the same types and
  passed in the same way, and returns the same type (`invoke_of_resolve`).
* It stands for the shape and for no other: with one registry, two shapes get the same callable type
  just when they are equal; with different registries they do so only if the platform itself
  provides it (`resolve_shares_exactly`).

Both hold at any later time.  They follow from `Resolves`, which is never taken back.
-/

namespace CallSites

/-! ## Reading a shape off its signature -/

namespace Shape

variable {K : Set Ty} {t : TypeTable} {sh sh' : Shape}

lemma take_signature (sh : Shape) :
    sh.signature.take sh.params.length = sh.params.map (·.type) := by
  rw [signature, List.take_left' (List.length_map _)]

lemma getElem?_signature {x : Ty} (h : sh.result = some x) :
    sh.signature[sh.params.length]? = some (some x) := by
  have hvoid : sh.isVoid = false := by rw [isVoid, h, Option.isNone_some]
  rw [signature, hvoid, List.getElem?_append_right (by simp), h]
  simp

/-- The parameters are passed in one of the two ways that are known. -/
def HasKnownModes (sh : Shape) : Prop := ∀ q ∈ sh.params, q.mode = .byValue ∨ q.mode = .byRef

/-- Parameters passed in one of the known ways are determined by their types and flags. -/
lemma params_eq_zipWith (h : sh.HasKnownModes) :
    sh.params = List.zipWith (fun x b => ⟨x, .ofByRef b⟩) (sh.params.map (·.type)) sh.flags := by
  rw [flags, List.zipWith_map, List.zipWith_self]
  conv_lhs => rw [← List.map_id sh.params]
  refine List.map_congr_left fun q hq => ?_
  obtain ⟨x, mode⟩ := q
  rcases h _ hq with hmode | hmode
  all_goals
    obtain rfl : mode = _ := hmode
    rfl

/-- A shape with known modes is determined by its flags, its signature and whether it returns. -/
lemma eq_of_signature_eq (h : sh.HasKnownModes) (h' : sh'.HasKnownModes)
    (hflags : sh.flags = sh'.flags) (hvoid : sh.isVoid = sh'.isVoid)
    (hsig : sh.signature = sh'.signature) : sh = sh' := by
  have hlen : sh.params.length = sh'.params.length := by
    rw [← sh.length_flags, hflags, sh'.length_flags]
  have htypes : sh.params.map (·.type) = sh'.params.map (·.type) := by
    rw [← sh.take_signature, ← sh'.take_signature, hsig, hlen]
  have hparams : sh.params = sh'.params := by
    rw [params_eq_zipWith h, params_eq_zipWith h', htypes, hflags]
  have hresult : sh.result = sh'.result := by
    rw [isVoid, isVoid] at hvoid
    rcases hr : sh.result with _ | x
    · rw [hr, Option.isNone_none] at hvoid
      exact (Option.isNone_iff_eq_none.mp hvoid.symm).symm
    · rcases hr' : sh'.result with _ | y
      · rw [hr, hr'] at hvoid
        cases hvoid
      · have hx := getElem?_signature hr
        rw [hsig, hlen, getElem?_signature hr'] at hx
        exact (Option.some.inj hx).symm
  cases sh
  cases sh'
  cases hparams
  cases hresult
  rfl

lemma equalParams_iff_eq (h : t.Interned K) : ∀ {qs qs' : List Param},
    (∀ q ∈ qs, KnownType K t q.type) → (∀ q ∈ qs', KnownType K t q.type) →
      (equalParams qs qs' = true ↔ qs = qs')
  | [], [], _, _ => by simp [equalParams]
  | [], _ :: _, _, _ | _ :: _, [], _, _ => by simp [equalParams]
  | ⟨x, m⟩ :: qs, ⟨x', m'⟩ :: qs', hq, hq' => by
      rw [equalParams, Bool.and_eq_true, Bool.and_eq_true, decide_eq_true_iff,
        h.equalTypes_iff_eq (hq _ List.mem_cons_self) (hq' _ List.mem_cons_self),
        equalParams_iff_eq h (fun a ha => hq a (List.mem_cons_of_mem _ ha))
          fun a ha => hq' a (List.mem_cons_of_mem _ ha),
        List.cons.injEq, Param.mk.injEq, and_comm (a := m = m')]

/-- Shapes over known types are equal just when they are the same. -/
lemma equal_iff_eq (h : t.Interned K) (hsh : sh.Known K t) (hsh' : sh'.Known K t) :
    sh.equal sh' = true ↔ sh = sh' := by
  obtain ⟨qs, r⟩ := sh
  obtain ⟨qs', r'⟩ := sh'
  rw [equal, Bool.and_eq_true, Bool.and_eq_true, equalParams_iff_eq h hsh.1 hsh'.1, Bool.or_eq_true,
    h.equalTypes_iff_eq hsh.2 hsh'.2, mk.injEq]
  cases r <;> cases r' <;> simp [isVoid]

end Shape

/-! ## What resolution determines -/

section Resolves

variable {p : Platform} {C : Set Ty} {L : List Cell} {s : Store} {r r' : Nat} {sh sh' : Shape}
variable {c c' : Instance}

/-- A definition that is not from the platform is from the registry. -/
lemma Resolves.synthesized (h : Resolves p C r sh s c) (hs : s.Valid p C L) :
    (c.definition.synthesized = false ∧ p.provided? sh = some c.definition) ∨
      c.definition.synthesized = true ∧ ∃ n, c.definition.id = .synthesized r n := by
  rcases h.selected with hprov | ⟨-, hfind⟩
  · exact .inl ⟨(Platform.isCallable_of_provided? hprov).1, hprov⟩
  · obtain ⟨n, -, hmade⟩ := hs.synthesizedDefinition hfind
    obtain ⟨hid, hsyn, -⟩ := synthesizedDefinition_eq_ok hmade
    exact .inr ⟨hsyn, n, hid⟩

/-- One callable type stands for one shape. -/
lemma Resolves.shape_eq (h : Resolves p C r sh s c) (h' : Resolves p C r' sh' s c)
    (hs : s.Valid p C L) (hm : sh.HasKnownModes) (hm' : sh'.HasKnownModes) : sh = sh' := by
  have hbody := (h.isCallable hs).body
  rw [(h'.isCallable hs).body, Body.callable.injEq] at hbody
  refine Shape.eq_of_signature_eq hm hm' hbody.1.symm ?_ (h.signature.trans h'.signature.symm)
  exact Bool.not_inj hbody.2.symm

/-- One shape has one callable type, for one registry or if the platform provides it. -/
lemma Resolves.eq (h : Resolves p C r sh s c) (h' : Resolves p C r' sh s c') (hs : s.Valid p C L)
    (hr : r = r' ∨ c.definition.synthesized = false) : c = c' := by
  have hdef : c.definition = c'.definition := by
    rcases h.selected with hprov | ⟨hnone, hfind⟩
    · rcases h'.selected with hprov' | ⟨hnone', -⟩
      · exact Option.some.inj (hprov.symm.trans hprov')
      · rw [hprov] at hnone'
        cases hnone'
    · rcases h'.selected with hprov' | ⟨-, hfind'⟩
      · rw [hnone] at hprov'
        cases hprov'
      · rcases hr with rfl | hsyn
        · exact Option.some.inj (hfind.symm.trans hfind')
        · rcases h.synthesized hs with ⟨-, hprov⟩ | ⟨hsyn', -⟩
          · rw [hnone] at hprov
            cases hprov
          · rw [hsyn] at hsyn'
            cases hsyn'
  have hargs : c.args = c'.args := map_some_inj (h.signature.symm.trans h'.signature)
  exact hs.types.interned.eq_of_args_eq h.known.1 h.known.2 (hdef ▸ h'.known.2) hargs

/-- Different registries share nothing that they have synthesized. -/
lemma Resolves.synthesized_eq_false (h : Resolves p C r sh s c) (h' : Resolves p C r' sh' s c)
    (hs : s.Valid p C L) (hr : r ≠ r') : c.definition.synthesized = false := by
  rcases h.synthesized hs with ⟨hsyn, -⟩ | ⟨hsyn, n, hid⟩
  · exact hsyn
  · rcases h'.synthesized hs with ⟨hsyn', -⟩ | ⟨-, n', hid'⟩
    · exact hsyn'
    · rw [hid, DefId.synthesized.injEq] at hid'
      exact absurd hid'.1 hr

end Resolves

/-! ## After every history -/

section World

variable {p : Platform} {w w' : World} {y : Synthesizer} {sh : Shape} {c : Instance} {s : Store}

lemma World.perform_resolve (hc : (y.resolve sh).run w.store = (.ok c, s)) :
    w.perform (.resolve y sh) = ⟨s, w.client, w.cells⟩ := by
  have hrun : (Request.resolve y sh).perform.run w.store = (.ok .nothing, s) := by
    rw [Request.perform, Request.quiet, run_bind, hc]
    rfl
  rw [World.perform, hrun]
  exact congrArg (World.mk s · w.cells) (Set.empty_union w.client)

/-- A shape that has been resolved stays resolved. -/
lemma World.Run.resolves (hrun : (w.perform (.resolve y sh)).Run p w') (h : w.Valid p)
    (hr : (Request.resolve y sh).Allowed p w) (hc : (y.resolve sh).run w.store = (.ok c, s)) :
    w'.Valid p ∧ sh.Known (w'.census p) w'.store.types ∧
      Resolves p w'.client y.registry.serial sh w'.store c := by
  rw [World.perform_resolve hc] at hrun
  obtain ⟨hs, hg, hq⟩ := Keeps.resolve h hr.1 hr.2 _ _ hc
  obtain ⟨hs', hg', hclient, -⟩ := hrun.valid hs
  refine ⟨hs', hr.2.mono ?_ ?_, (hq c rfl).mono hg' hclient⟩
  · exact (hg.trans hg').census hclient
  · exact (hg.trans hg').types.filed

end World

/-- **A callable type matches its shape.**  Whenever a synthesizer returns an instance for a shape,
then from that moment on calling it is possible, and its call method takes the parameters of the
shape, in number, type and pass mode, and returns what the shape returns. -/
theorem invoke_of_resolve {p : Platform} {w w' : World} (hw : (World.initial p).Run p w)
    {y : Synthesizer} {sh : Shape} (hr : (Request.resolve y sh).Allowed p w) {c : Instance}
    {s : Store} (hc : (y.resolve sh).run w.store = (.ok c, s))
    (hw' : (w.perform (.resolve y sh)).Run p w') :
    ∃ m t, c.invoke.run w'.store.types = (.ok m, t) ∧
      m.params.length = sh.params.length ∧
      (∀ (i : Nat) (hi : i < m.params.length) (hi' : i < sh.params.length),
        m.params[i].type = sh.params[i].type ∧
          (m.params[i].byRef = true ↔ sh.params[i].mode = .byRef)) ∧
      m.container = c.ty ∧ m.type = some (sh.result.getD .void) := by
  obtain ⟨hs, -, hres⟩ := hw'.resolves hw.valid_of_initial hr hc
  obtain ⟨m, t, hrun, hflags, htypes, htype, hcontainer⟩ :=
    hs.types.invoke_run hres.known (hres.isCallable hs) (hs.plain _)
  have htypes' : m.params.map (·.type) = sh.params.map (·.type) := by
    rw [htypes, sh.length_flags, List.map_take, ← hres.signature, sh.take_signature]
  refine ⟨m, t, hrun, ?_, fun i hi hi' => ⟨?_, ?_⟩, hcontainer, ?_⟩
  · rw [← List.length_map (·.type), htypes', List.length_map]
  · have hget := congrArg (·[i]?) htypes'
    simpa [hi, hi'] using hget
  · have hget := congrArg (·[i]?) hflags
    simp only [Shape.flags, List.getElem?_map, List.getElem?_eq_getElem hi,
      List.getElem?_eq_getElem hi', Option.map_some, Option.some.injEq] at hget
    rw [hget, decide_eq_true_iff]
  · -- the result, if there is one, is the last argument
    rcases hresult : sh.result with _ | x
    · simpa [Shape.isVoid, hresult] using htype
    · have hlast := Shape.getElem?_signature hresult
      rw [hres.signature, List.getElem?_map, Option.map_eq_some_iff] at hlast
      obtain ⟨z, hz, hzx⟩ := hlast
      rw [htype, sh.length_flags, hz]
      simpa [Shape.isVoid, hresult] using hzx

/-- Sixty-five parameters, of which only the last is passed by reference. -/
theorem invoke_of_resolve_two_words :
    let a : Ty := .named ⟨.free 0, "", "A", .reference⟩
    let sh : Shape := ⟨List.replicate 64 ⟨some a, .byValue⟩ ++ [⟨some a, .byRef⟩], none⟩
    let y : Synthesizer := ⟨0, .ofPlatform .standard, ⟨1, ""⟩⟩
    let w := (World.initial .standard).perform (.types (.newNamed "" "A" .reference))
    ∃ c s m t, (y.resolve sh).run w.store = (.ok c, s) ∧ c.invoke.run s.types = (.ok m, t) ∧
      m.params.length = 65 ∧ m.type = some .void ∧
      ∀ (i : Nat) (hi : i < m.params.length), m.params[i].byRef = true ↔ i = 64 := by
  intro a sh y w
  have hw : (World.initial .standard).Run .standard w := .step .refl ⟨trivial, trivial⟩
  have ha : a.Known (w.census .standard) w.store.types := .inl (.inr (.inl rfl))
  have hparams : ∀ q ∈ sh.params, q.type = some a := by simp [sh]
  have hr : (Request.resolve y sh).Allowed .standard w := by
    refine ⟨rfl, fun q hq => ?_, knownType_none⟩
    rw [hparams q hq]
    exact knownType_some.mpr ha
  have hsig : sh.signature = (List.replicate 65 a).map some := by
    simp [sh, Shape.signature, Shape.isVoid, List.replicate_succ']
  have huse : ∀ x ∈ List.replicate 65 a, x.Usable := by simp [Ty.Usable, Ty.kind, a]
  obtain ⟨c, s, hc⟩ := Synthesizer.resolve_succeeds hw.valid_of_initial hr.1 hsig huse (by decide)
  obtain ⟨m, t, hm, hlen, hpass, -, htype⟩ := invoke_of_resolve hw hr hc .refl
  rw [World.perform_resolve hc] at hm
  refine ⟨c, s, m, t, hc, hm, hlen, htype, fun i hi => ?_⟩
  rw [(hpass i hi (hlen ▸ hi)).2]
  have hi' : i < 65 := by rw [hlen] at hi; exact hi
  simp only [sh, List.getElem_append, List.length_replicate]
  split
  · next hlt =>
      rw [List.getElem_replicate]
      simp [hlt.ne]
  · next hge => simp [Nat.le_antisymm (Nat.le_of_lt_succ hi') (Nat.le_of_not_lt hge)]

/-- **Callable types are shared exactly.**  Of two shapes that have been resolved, with anything
happening before, in between and through other synthesizers, the callable types are the same just
when the shapes are equal and, if the registries differ, the platform provides the callable type. -/
theorem resolve_shares_exactly {p : Platform} {w w' : World} (hw : (World.initial p).Run p w)
    {y y' : Synthesizer} {sh sh' : Shape} {c c' : Instance} {s s' : Store}
    (hr : (Request.resolve y sh).Allowed p w) (hc : (y.resolve sh).run w.store = (.ok c, s))
    (hw' : (w.perform (.resolve y sh)).Run p w')
    (hr' : (Request.resolve y' sh').Allowed p w')
    (hc' : (y'.resolve sh').run w'.store = (.ok c', s'))
    (hm : sh.HasKnownModes) (hm' : sh'.HasKnownModes) :
    (y.registry.serial = y'.registry.serial →
      (c.ty.same c'.ty = true ↔ sh.equal sh' = true)) ∧
    (y.registry.serial ≠ y'.registry.serial →
      (c.ty.same c'.ty = true ↔ sh.equal sh' = true ∧ c.definition.synthesized = false)) := by
  have hlast : (w.perform (.resolve y sh)).Run p (w'.perform (.resolve y' sh')) := .step hw' hr'
  have hvalid' : w'.Valid p := (hw'.resolves hw.valid_of_initial hr hc).1
  -- both shapes are resolved in the last store, where identity and equality are plain equality
  obtain ⟨hs, hsh, hres⟩ := hlast.resolves hw.valid_of_initial hr hc
  obtain ⟨-, hsh', hres'⟩ := World.Run.refl.resolves hvalid' hr' hc'
  have hinterned := hs.types.interned
  rw [hinterned.same_iff_instance_eq hres.known hres'.known, Shape.equal_iff_eq hinterned hsh hsh']
  constructor
  · intro hserial
    constructor
    · rintro rfl
      exact hres.shape_eq hres' hs hm hm'
    · rintro rfl
      exact hres.eq hres' hs (.inl hserial)
  · intro hserial
    constructor
    · rintro rfl
      exact ⟨hres.shape_eq hres' hs hm hm', hres.synthesized_eq_false hres' hs hserial⟩
    · rintro ⟨rfl, hsyn⟩
      exact hres.eq hres' hs (.inr hsyn)

/-- One shape with a parameter passed by reference, resolved through two synthesizers over one
registry and through a third over another. -/
theorem resolve_shares_exactly_by_registry :
    let a : Ty := .named ⟨.free 0, "", "A", .reference⟩
    let sh : Shape := ⟨[⟨some a, .byRef⟩], none⟩
    let y (n r : Nat) : Synthesizer := ⟨n, .ofPlatform .standard, ⟨r, ""⟩⟩
    let w := (World.initial .standard).perform (.types (.newNamed "" "A" .reference))
    ∃ c c' c'' s s' s'', ((y 0 2).resolve sh).run w.store = (.ok c, s) ∧
      ((y 1 2).resolve sh).run s = (.ok c', s') ∧ ((y 1 3).resolve sh).run s = (.ok c'', s'') ∧
      c.ty.same c'.ty = true ∧ c.ty.same c''.ty = false := by
  intro a sh y w
  have hw : (World.initial .standard).Run .standard w := .step .refl ⟨trivial, trivial⟩
  have ha : a.Known (w.census .standard) w.store.types := .inl (.inr (.inl rfl))
  have hr : (Request.resolve (y 0 2) sh).Allowed .standard w :=
    ⟨rfl, by simpa [sh] using ha, knownType_none⟩
  have hm : sh.HasKnownModes := by simp [Shape.HasKnownModes, sh]
  have huse : ∀ x ∈ [a], x.Usable := by simp [Ty.Usable, Ty.kind, a]
  have hsig : sh.signature = [a].map some := rfl
  obtain ⟨c, s, hc⟩ := Synthesizer.resolve_succeeds hw.valid_of_initial hr.1 hsig huse (by decide)
  obtain ⟨hvalid, hknown, hres⟩ := World.Run.refl.resolves hw.valid_of_initial hr hc
  have hr' : ∀ n r, (Request.resolve (y n r) sh).Allowed .standard
      (w.perform (.resolve (y 0 2) sh)) := fun _ _ => ⟨rfl, hknown⟩
  have hstore : (w.perform (.resolve (y 0 2) sh)).store = s := by rw [World.perform_resolve hc]
  obtain ⟨c', s', hc'⟩ := Synthesizer.resolve_succeeds hvalid (hr' 1 2).1 hsig huse (by decide)
  obtain ⟨c'', s'', hc''⟩ := Synthesizer.resolve_succeeds hvalid (hr' 1 3).1 hsig huse (by decide)
  have heq : sh.equal sh = true := (Shape.equal_iff_eq hvalid.types.interned hknown hknown).mpr rfl
  have hsyn : c.definition.synthesized = true := by
    rcases hres.synthesized hvalid with ⟨-, hprov⟩ | ⟨hsyn, -⟩
    · cases hprov
    · exact hsyn
  refine ⟨c, c', c'', s, s', s'', hc, hstore ▸ hc', hstore ▸ hc'', ?_, ?_⟩
  · exact ((resolve_shares_exactly hw hr hc .refl (hr' 1 2) hc' hm hm).1 rfl).mpr heq
  · have hiff := (resolve_shares_exactly hw hr hc .refl (hr' 1 3) hc'' hm hm).2 (by decide)
    rw [← Bool.not_eq_true, hiff, hsyn]
    simp

end CallSites
