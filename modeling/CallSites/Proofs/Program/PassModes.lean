import CallSites.Proofs.Program.Resolution

/-!
# Views of the parameters passed by reference

Which parameters of a shape are passed by reference is written down in three ways: in the list of
parameters, in a vector of bits that is packed into words, and in the digits of the key.  Different
parts of the program read different ones.  Whether a callable family may be used is decided from the
parameters, the report lists the positions of the bits, and a definition is made from the digits.
`Shape.ByRefViews` says that they agree.

As the digits show everything, so does the key.  Which way a shape is resolved is a function of its
key and of what the platform has to offer (`Services.route`), and `Synthesizer.resolve_eq_follow`
says that it is the way taken.
-/

namespace CallSites

/-! ## The digits of a key -/

namespace Key

/-- Some digit stands for a parameter passed by reference. -/
def hasByRef (k : Key) : Bool := k.byRefs.toList.contains '1'

/-- The family of the callable types for the key. -/
def family (k : Key) : Family := if k.void then .action else .func

end Key

namespace Shape

variable {sh sh' : Shape} {i : Nat}

/-- There is a parameter at the position, and it is passed by reference. -/
def PassesByRef (sh : Shape) (i : Nat) : Prop := sh.params[i]?.map (·.mode) = some .byRef

lemma getElem?_flags (sh : Shape) (i : Nat) :
    sh.flags[i]? = sh.params[i]?.map fun q => decide (q.mode = .byRef) := List.getElem?_map

lemma passesByRef_iff_flags : sh.PassesByRef i ↔ sh.flags[i]? = some true := by
  rw [PassesByRef, getElem?_flags]
  rcases sh.params[i]? with _ | q <;> simp

lemma toList_byRefs_key (sh : Shape) :
    sh.key.byRefs.toList = sh.flags.map fun b => if b then '1' else '0' := by
  rw [byRefs_key, flagDigits, String.toList_ofList]

/-- A digit is one just when its flag is set. -/
lemma hasByRef_key (sh : Shape) : sh.key.hasByRef = sh.hasByRef := by
  rw [Bool.eq_iff_iff, hasByRef_iff_mem_flags, Key.hasByRef, List.contains_iff_mem,
    toList_byRefs_key, List.mem_map]
  constructor
  · rintro ⟨b, hb, hdigit⟩
    rcases b with _ | _
    · cases hdigit
    · exact hb
  · exact fun h => ⟨true, h, rfl⟩

/-! ## The views of one shape -/

/-- The list of parameters, the vector of bits and the key agree on what is passed by reference. -/
structure ByRefViews (sh : Shape) : Prop where
  params_eq : sh.key.params = sh.params.length
  length_eq : (sh.key.byRefs.length : Int) = sh.key.params
  digit_eq : ∀ (i : Nat) (hi : i < sh.params.length),
    sh.key.byRefs.toList[i]? = some (if sh.params[i].mode = .byRef then '1' else '0')
  /-- A definition that is made from the digits passes its parameters as the shape does. -/
  pattern_eq : patternFlags sh.key.byRefs sh.params.length =
    sh.params.map fun q => decide (q.mode = .byRef)
  any_eq : sh.byRefs.any = sh.hasByRef
  indices_ne_nil : decide (sh.byRefs.indices ≠ []) = sh.hasByRef
  indices_increasing : sh.byRefs.indices.Pairwise (· < ·)
  mem_indices_iff : ∀ i, i ∈ sh.byRefs.indices ↔ sh.PassesByRef i
  /-- The key alone tells whether there is such a parameter. -/
  hasByRef_key : sh.key.hasByRef = sh.hasByRef

/-- The vector answers as the list of flags does. -/
lemma refines_flags (sh : Shape) : sh.byRefs.Refines sh.flags :=
  (BitVector.Holds.ofBools sh.flags).refines

lemma any_byRefs_iff : sh.byRefs.any = true ↔ true ∈ sh.flags := by
  rw [sh.refines_flags.any_iff, List.mem_iff_getElem?]
  simp only [← sh.refines_flags.mem_indices_iff]
  exact ⟨List.exists_mem_of_ne_nil _, fun ⟨_, hi⟩ => List.ne_nil_of_mem hi⟩

lemma byRefViews (sh : Shape) : sh.ByRefViews where
  params_eq := rfl
  length_eq := by
    rw [← String.length_toList, toList_byRefs_key, List.length_map, length_flags]
    rfl
  digit_eq i hi := by
    rw [toList_byRefs_key, List.getElem?_map, getElem?_flags, List.getElem?_eq_getElem hi]
    simp
  pattern_eq := by
    rw [byRefs_key, ← length_flags, patternFlags_flagDigits]
    rfl
  any_eq := by rw [Bool.eq_iff_iff, any_byRefs_iff, hasByRef_iff_mem_flags]
  indices_ne_nil := by
    rw [Bool.eq_iff_iff, decide_eq_true_iff, ← sh.refines_flags.any_iff, any_byRefs_iff,
      hasByRef_iff_mem_flags]
  indices_increasing := sh.refines_flags.indices_increasing
  mem_indices_iff i := by rw [sh.refines_flags.mem_indices_iff, passesByRef_iff_flags]
  hasByRef_key := sh.hasByRef_key

end Shape

/-! ## Ways of resolving a shape -/

/-- Where the callable type of a shape comes from. -/
inductive Route where
  /-- It is an instance of a callable type that the platform has. -/
  | family (d : Definition)
  /-- It is an instance of a callable type from the registry. -/
  | synthesized

/-- The way in which shapes with a given key are resolved, when some capabilities are kept back. -/
def Services.route (v : Services) (withheld : List Capability) (k : Key) : Route :=
  if k.hasByRef || withheld.contains (.family k.family) then .synthesized
  else (v.platform.family? k.family k.params).elim .synthesized .family

namespace Synthesizer

variable (y : Synthesizer) (sh : Shape) (s : Store)

/-- Resolves a shape in a given way. -/
def follow (y : Synthesizer) (sh : Shape) : Route → StoreM Instance
  | .family d => do
    let i ← instantiate d sh
    y.count fun t => { t with fastPath := t.fastPath + 1 }
    pure i
  | .synthesized => do
    let (d, loaded) ← y.registry.loadOrCreate sh.key
    y.count fun t =>
      if loaded then { t with reused := t.reused + 1 }
      else { t with synthesized := t.synthesized + 1 }
    instantiate d sh

lemma familyOf_eq_family_key : familyOf sh = sh.key.family := rfl

lemma run_services_family? (v : Services) (f : Family) (n : Int) :
    (v.family? f n).run s =
      (.ok (if (v.withheld s).contains (.family f) then none else v.platform.family? f n), s) := by
  have hkeeps : (v.keepsBack (.family f)).run s = (.ok ((v.withheld s).contains (.family f)), s) :=
    rfl
  rw [Services.family?, run_bind, hkeeps]
  dsimp only
  split <;> rfl

/-- **The way a shape is resolved** can be read off its key. -/
lemma resolve_eq_follow : (y.resolve sh).run s =
    (y.follow sh (y.services.route (y.services.withheld s) sh.key)).run s := by
  rw [resolve, run_bind, provided?, Services.route, sh.hasByRef_key]
  rcases hbyRef : sh.hasByRef with _ | _
  · rw [if_neg Bool.false_ne_true, run_services_family?, familyOf_eq_family_key, Bool.false_or]
    have hparams : sh.key.params = sh.params.length := rfl
    rw [hparams]
    rcases (y.services.withheld s).contains (.family sh.key.family) with _ | _
    · rcases y.services.platform.family? sh.key.family sh.params.length with _ | d <;> rfl
    · rfl
  · rfl

end Synthesizer

/-- **The views of the parameters passed by reference agree.**  For every shape, whatever the pass
modes: the key has a digit for each parameter, which is one just when the parameter is passed by
reference; some bit is set, some position is listed and some digit is one just when there is such a
parameter; and the positions are listed in increasing order.  So shapes with one key pass the same
parameters by reference.  On a given platform, whatever is kept back of it, both are resolved with
the same callable type of a family or both with the registry, by every synthesizer and in every
state. -/
theorem byRef_views_agree (sh : Shape) :
    sh.ByRefViews ∧ ∀ sh' : Shape, sh.key = sh'.key →
      (∀ i, sh.PassesByRef i ↔ sh'.PassesByRef i) ∧ sh.hasByRef = sh'.hasByRef ∧
      ∀ (v : Services) (withheld : List Capability), ∃ route : Route,
        ∀ (y : Synthesizer) (s : Store), y.services = v → v.withheld s = withheld →
          (y.resolve sh).run s = (y.follow sh route).run s ∧
          (y.resolve sh').run s = (y.follow sh' route).run s := by
  refine ⟨sh.byRefViews, fun sh' hkey => ⟨fun i => ?_, Shape.hasByRef_of_key_eq hkey,
    fun v withheld => ?_⟩⟩
  · rw [Shape.passesByRef_iff_flags, Shape.passesByRef_iff_flags, (Shape.key_eq_iff.mp hkey).1]
  · refine ⟨v.route withheld sh.key, ?_⟩
    rintro y s rfl rfl
    exact ⟨y.resolve_eq_follow sh s, hkey ▸ y.resolve_eq_follow sh' s⟩

/-- Sixty-four parameters passed by value, one by reference and one in a mode that is not known, and
a shape with other types and other modes. -/
theorem byRef_views_agree_of_two_words :
    let sh : Shape :=
      ⟨List.replicate 64 ⟨none, .byValue⟩ ++ [⟨none, .ofCode 1⟩, ⟨none, .ofCode 2⟩], none⟩
    let sh' : Shape :=
      ⟨List.replicate 64 ⟨some .void, .ofCode 7⟩ ++ [⟨none, .byRef⟩, ⟨none, .ofCode 0⟩], none⟩
    let s := Store.initial .standard
    sh.key = sh'.key ∧ sh.ByRefViews ∧ sh.PassesByRef 64 ∧ sh'.PassesByRef 64 ∧
      sh'.byRefs.indices = [64] ∧ sh.hasByRef = sh'.hasByRef ∧
      ∃ route : Route, ∀ y : Synthesizer, y.services = .ofPlatform .standard →
        (y.resolve sh).run s = (y.follow sh route).run s ∧
        (y.resolve sh').run s = (y.follow sh' route).run s := by
  intro sh sh' s
  have hkey : sh.key = sh'.key := by decide +kernel
  obtain ⟨hviews, hpair⟩ := byRef_views_agree sh
  obtain ⟨hsame, hany, hroute⟩ := hpair sh' hkey
  obtain ⟨route, hresolve⟩ := hroute (.ofPlatform .standard) []
  have hmem : sh.PassesByRef 64 := (hviews.mem_indices_iff 64).mp (by decide +kernel)
  exact ⟨hkey, hviews, hmem, (hsame 64).mp hmem, by decide +kernel, hany, route,
    fun y hy => hresolve y s hy rfl⟩

end CallSites
