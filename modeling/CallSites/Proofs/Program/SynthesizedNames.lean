import CallSites.Proofs.Data.SortedNames
import CallSites.Proofs.Program.Bookkeeping
import CallSites.Proofs.Program.History
import CallSites.Proofs.Text.Names

/-!
# Names of synthesized definitions

The name of a definition that is made for a key is a letter, the pattern of the key between braces
and, if there are type parameters, their number behind a mark.  The pattern may be any text, with
braces and marks of its own.  No brace comes after the one that closes the pattern, though, so the
key can be read off the name from the end (`key_eq_of_metadataName_eq`).

A registry lists its definitions by name.  Definitions of one name would be listed once, but there
are none: after any history a registry has one definition for each of its keys, and nothing else
(`Registry.Indexed`), so that the list of names is as long as the registry is
(`names_identify_keys`).
-/

namespace CallSites

/-! ## Keys and names -/

section Names

variable {r n r' n' : Nat} {k k' : Key} {d d' : Definition}

/-- A last mark divides a list in one way. -/
lemma eq_of_append_cons_eq {α : Type*} {a : α} {u u' v v' : List α} (hv : a ∉ v) (hv' : a ∉ v')
    (h : u ++ a :: v = u' ++ a :: v') : u = u' ∧ v = v' := by
  obtain ⟨w, rfl, hw⟩ | ⟨w, rfl, hw⟩ := List.append_eq_append_iff.mp h
  · rcases w with _ | ⟨x, w⟩
    · exact ⟨(List.append_nil u).symm, (List.cons.inj hw).2⟩
    · exact absurd (by rw [(List.cons.inj hw).2]; simp) hv
  · rcases w with _ | ⟨x, w⟩
    · exact ⟨List.append_nil u', (List.cons.inj hw).2.symm⟩
    · exact absurd (by rw [(List.cons.inj hw).2]; simp) hv'

/-- What is written behind the name of a definition for the number of its type parameters. -/
def arityMark (n : Nat) : List Char := if n = 0 then [] else '\x60' :: Nat.toDigits 10 n

lemma arityMark_inj {m n : Nat} (h : arityMark m = arityMark n) : m = n := by
  unfold arityMark at h
  split at h <;> split at h
  · next hm hn => exact hm.trans hn.symm
  · cases h
  · cases h
  · exact Text.toDigits_inj (List.cons.inj h).2

lemma brace_notMem_arityMark (n : Nat) : '\x7d' ∉ arityMark n := by
  unfold arityMark
  split
  · exact List.not_mem_nil
  · intro hmem
    rcases List.mem_cons.mp hmem with heq | hdigit
    · exact absurd heq (by decide)
    · have hbrace := Nat.isDigit_of_mem_toDigits (by decide) (by decide) hdigit
      exact absurd hbrace (by decide)

lemma Definition.toList_metadataName (d : Definition) :
    d.metadataName.toList = d.name.toList ++ arityMark d.arity := by
  rw [metadataName, arityMark]
  split
  · rw [List.append_nil]
  · rw [String.toList_append, String.toList_append, Text.toList_toString, List.append_assoc]
    rfl

/-- The letter that tells whether a callable returns something. -/
def Key.letter (k : Key) : Char := if k.void then 'A' else 'F'

lemma toList_synthesizedName (k : Key) :
    (synthesizedName k).toList = ['<', '>', k.letter, '\x7b'] ++ k.byRefs.toList ++ ['\x7d'] := by
  rw [synthesizedName, Key.letter]
  cases k.void <;> simp

/-- There is a definition for a key if there is room for its labels. -/
lemma exists_synthesizedDefinition_iff :
    (∃ d, synthesizedDefinition r n k = .ok d) ↔ 0 ≤ k.params ∧ k.params < maxLabels := by
  constructor
  · rintro ⟨d, hd⟩
    obtain ⟨-, -, m, hm, -⟩ := synthesizedDefinition_eq_ok hd
    obtain ⟨hparams, hroom⟩ := checkParams_eq_ok hm
    omega
  · rintro ⟨hsign, hroom⟩
    have hcheck : checkParams k.params = .ok k.params.toNat := by
      rw [checkParams, if_neg (by omega), if_neg (by omega)]
      rfl
    exact ⟨_, by rw [synthesizedDefinition, hcheck]; rfl⟩

/-- What the name of a definition is made from depends on its key alone. -/
lemma name_of_synthesizedDefinition (h : synthesizedDefinition r n k = .ok d) :
    d.name = synthesizedName k ∧ (d.arity : Int) = k.params + if k.void then 0 else 1 := by
  obtain ⟨-, -, m, hm, hcall⟩ := synthesizedDefinition_eq_ok h
  rw [synthesizedDefinition, hm] at h
  cases h
  refine ⟨rfl, ?_⟩
  rw [hcall.arity, (checkParams_eq_ok hm).1]
  have hlen : (patternFlags k.byRefs m).length = m := by simp [patternFlags]
  rw [hlen]
  cases k.void <;> simp

/-- **A name tells its key.** -/
lemma key_eq_of_metadataName_eq (h : synthesizedDefinition r n k = .ok d)
    (h' : synthesizedDefinition r' n' k' = .ok d') (hname : d.metadataName = d'.metadataName) :
    k = k' := by
  obtain ⟨hd, harity⟩ := name_of_synthesizedDefinition h
  obtain ⟨hd', harity'⟩ := name_of_synthesizedDefinition h'
  have hchars : ['<', '>', k.letter, '\x7b'] ++ (k.byRefs.toList ++ '\x7d' :: arityMark d.arity) =
      ['<', '>', k'.letter, '\x7b'] ++ (k'.byRefs.toList ++ '\x7d' :: arityMark d'.arity) := by
    have hlists := congrArg String.toList hname
    simpa only [Definition.toList_metadataName, hd, hd', toList_synthesizedName, List.append_assoc,
      List.singleton_append] using hlists
  obtain ⟨hhead, htail⟩ := List.append_inj hchars rfl
  obtain ⟨hbyRefs, hmark⟩ := eq_of_append_cons_eq (brace_notMem_arityMark _)
    (brace_notMem_arityMark _) htail
  have hvoid : k.void = k'.void := by
    have hletter : k.letter = k'.letter := by simpa using hhead
    rw [Key.letter, Key.letter] at hletter
    cases hk : k.void <;> cases hk' : k'.void <;> simp [hk, hk'] at hletter ⊢
  have hparams : k.params = k'.params := by
    rw [arityMark_inj hmark, hvoid] at harity
    omega
  obtain ⟨params, byRefs, void⟩ := k
  obtain ⟨params', byRefs', void'⟩ := k'
  cases hparams
  cases hvoid
  cases String.toList_inj.mp hbyRefs
  rfl

lemma metadataName_eq_of_key (h : synthesizedDefinition r n k = .ok d)
    (h' : synthesizedDefinition r' n' k = .ok d') : d.metadataName = d'.metadataName := by
  obtain ⟨hd, harity⟩ := name_of_synthesizedDefinition h
  obtain ⟨hd', harity'⟩ := name_of_synthesizedDefinition h'
  have hsame : d.arity = d'.arity := by omega
  rw [Definition.metadataName, Definition.metadataName, hd, hd', hsame]

end Names

/-! ## One definition for each key -/

/-- The registry has one definition for each of its keys, and that is one made for the key. -/
structure Registry.Indexed (reg : Registry) (s : Store) : Prop where
  nodup : (s.definitions reg).keys.Nodup
  made : ∀ e ∈ (s.definitions reg).entries, ∃ r n, synthesizedDefinition r n e.1 = .ok e.2

section Registries

variable {reg : Registry} {s s' : Store}

namespace Registry.Indexed

lemma of_new (h : reg.definitions s = []) : reg.Indexed s := by
  have hentries : (s.definitions reg).entries = [] := List.map_eq_nil_iff.mp h
  refine ⟨?_, fun e he => ?_⟩
  · rw [OrderedMap.keys, hentries]
    exact List.nodup_nil
  · rw [hentries] at he
    cases he

lemma congr (h : reg.Indexed s) (heq : s'.definitions reg = s.definitions reg) :
    reg.Indexed s' :=
  ⟨heq ▸ h.nodup, heq ▸ h.made⟩

/-- One more definition, in this registry or in another. -/
lemma synthesize (h : reg.Indexed s) {r : Nat} {k : Key} {d : Definition}
    (hnone : (s.registries.getD r ∅).find? k = none) {n : Nat}
    (hd : synthesizedDefinition r n k = .ok d) : reg.Indexed (s.synthesize r k d) := by
  by_cases hr : r = reg.serial
  · subst hr
    have hdefs : (s.synthesize reg.serial k d).definitions reg = (s.definitions reg).insert k d :=
      OrderedMap.getD_insert_self _ _ _ _
    have hnone : (s.definitions reg).find? k = none := hnone
    refine ⟨?_, fun e he => ?_⟩
    · rw [hdefs, OrderedMap.keys_insert_of_find?_eq_none d hnone, ← List.concat_eq_append]
      exact h.nodup.concat (OrderedMap.find?_eq_none_iff.mp hnone)
    · rw [hdefs, OrderedMap.entries_insert_of_find?_eq_none d hnone, List.mem_append,
        List.mem_singleton] at he
      rcases he with he | rfl
      · exact h.made e he
      · exact ⟨reg.serial, n, hd⟩
  · exact h.congr (OrderedMap.getD_insert_of_ne _ _ _ hr)

end Registry.Indexed

/-- The operation leaves the registry in order, whatever comes of it. -/
def StaysIndexed (reg : Registry) {α : Type} (x : StoreM α) (s : Store) : Prop :=
  Leads reg.Indexed (Same fun _ => ()) x s fun _ _ => True

namespace StaysIndexed

/-- What spares all registries spares this one. -/
lemma of_spares (h : reg.Indexed s) {α : Type} {x : StoreM α} (hx : Spares Store.registries x s) :
    StaysIndexed reg x s := by
  refine hx.leads fun s' hs' => ⟨h.congr ?_, rfl⟩
  rw [Store.definitions, hs']
  rfl

lemma loadOrCreate (h : reg.Indexed s) (r : Registry) (k : Key) :
    StaysIndexed reg (r.loadOrCreate k) s :=
  Leads.loadOrCreate h (fun _ _ => trivial) fun _ hnone hd => ⟨h.synthesize hnone hd, rfl, trivial⟩

lemma resolve (h : reg.Indexed s) (y : Synthesizer) (sh : Shape) :
    StaysIndexed reg (y.resolve sh) s := by
  refine Leads.resolve (N := True) (P := fun _ _ => True) ?_ (fun s₁ h₁ _ _ => ?_)
    (fun d s₁ h₁ _ _ => ?_) (fun s₁ m h₁ => ⟨h₁.congr rfl, rfl⟩) (fun _ _ _ _ _ => trivial)
    fun _ _ _ _ _ => trivial
  · refine (of_spares h (Spares.provided? y sh)).imp fun o _ _ _ _ => ?_
    cases o <;> trivial
  · exact loadOrCreate h₁ _ _
  · exact of_spares h₁ (Spares.withContext _ rfl)

lemma resolveSite (h : reg.Indexed s) (b : SiteBuilder) (sh : Shape) :
    StaysIndexed reg (b.resolve sh) s := by
  refine Leads.resolveSite (Q := fun _ _ => True) h (fun s₁ h₁ => ⟨h₁.congr rfl, rfl⟩)
    (fun s₁ h₁ _ => ?_) (fun s₁ l h₁ => ⟨h₁.congr rfl, rfl⟩) fun _ _ _ _ _ => trivial
  refine Leads.bindShape (resolve h₁ _ sh) (fun c s₂ h₂ _ _ => of_spares h₂ ?_)
    fun _ _ _ _ _ => trivial
  exact Spares.bindCell (fun _ _ => rfl) (fun _ _ => rfl) (fun _ _ => rfl) c

end StaysIndexed

/-- The request looks no key up in a registry. -/
def Request.ConsultsNone : Request → Prop
  | .loadOrCreate .. | .resolve .. | .callableType .. | .resolveSite .. | .resolveOperands .. =>
    False
  | _ => True

/-- Registries are written to when a key is looked up, and at no other time. -/
lemma Request.ConsultsNone.spares {q : Request} (hq : q.ConsultsNone) :
    Spares Store.registries q.perform s := by
  have hbind : ∀ (c : Cell) (callable : Instance), Spares Store.registries (c.bind callable) s :=
    fun c => Spares.bindCell (fun _ _ => rfl) (fun _ _ => rfl) (fun _ _ => rfl)
  by_cases hminor : q.IsMinor
  · exact hminor.spares
      ⟨fun _ _ => rfl, fun _ _ => rfl, fun _ _ => rfl, fun _ _ => rfl, fun _ _ => rfl⟩
  cases q with
  | types q => exact Spares.bind (Spares.toStoreM rfl) fun _ _ _ => Spares.pure _
  | allocate f hint =>
      refine Spares.bind ?_ fun _ _ _ => Spares.pure _
      exact Spares.allocate (fun _ _ => rfl) (fun _ _ _ _ => rfl) hint
  | beginSite f hint =>
      refine Spares.bind (Spares.beginSite ?_) fun _ _ _ => Spares.pure _
      exact Spares.allocate (fun _ _ => rfl) (fun _ _ _ _ => rfl) hint
  | bind c callable => exact Spares.quiet (hbind c callable)
  | bindWith f c callable => exact Spares.quiet (Spares.bindWith (hbind c callable))
  | declare c name type access static => exact Spares.quiet (Spares.declare fun _ _ => rfl)
  | loadOrCreate | resolve | callableType | resolveSite | resolveOperands => exact absurd hq id
  | _ => exact absurd trivial hminor

/-- **One request**, whatever it is. -/
theorem Registry.Indexed.perform {w : World} (h : reg.Indexed w.store) (q : Request) :
    reg.Indexed (w.perform q).store := by
  have hquiet : ∀ {α : Type} {x : StoreM α}, StaysIndexed reg x w.store →
      StaysIndexed reg (Request.quiet x) w.store := fun hx =>
    Leads.bind hx fun _ _ h₁ _ _ => Leads.pure h₁ trivial
  have hderive : ∀ {α : Type} (f : SiteFactory) (ops : Operands) {g : Shape → StoreM α},
      (∀ sh s₁, reg.Indexed s₁ → StaysIndexed reg (g sh) s₁) →
        StaysIndexed reg (f.derive ops >>= g) w.store := fun f ops _ hg =>
    Leads.bind (StaysIndexed.of_spares h (Spares.derive f ops)) fun sh s₁ h₁ _ _ => hg sh s₁ h₁
  suffices hq : StaysIndexed reg q.perform w.store from (hq _ _ rfl).1
  cases q with
  | loadOrCreate r k => exact hquiet (.loadOrCreate h r k)
  | resolve y sh => exact hquiet (.resolve h y sh)
  | callableType f ops => exact hquiet (hderive f ops fun sh _ h₁ => .resolve h₁ _ sh)
  | resolveSite b sh => exact hquiet (.resolveSite h b sh)
  | resolveOperands b ops =>
      exact hquiet (hderive b.factory ops fun sh _ h₁ => .resolveSite h₁ b sh)
  | _ => exact .of_spares h (Request.ConsultsNone.spares trivial)

/-- **A whole history**, from any program on. -/
theorem Registry.Indexed.foldl_perform {w : World} (h : reg.Indexed w.store) (qs : List Request) :
    reg.Indexed (qs.foldl World.perform w).store := by
  induction qs generalizing w with
  | nil => exact h
  | cons q qs ih => exact ih (h.perform q)

/-- The names of the definitions are different, as their keys are. -/
lemma Registry.Indexed.nodup_metadataNames (h : reg.Indexed s) :
    ((reg.definitions s).map Definition.metadataName).Nodup := by
  have hkeys := h.nodup
  rw [OrderedMap.keys, List.Nodup, List.pairwise_map] at hkeys
  rw [Registry.definitions, OrderedMap.values, List.map_map, List.Nodup, List.pairwise_map]
  refine hkeys.imp_of_mem fun {e e'} he he' hne hname => ?_
  obtain ⟨r, n, hd⟩ := h.made e he
  obtain ⟨r', n', hd'⟩ := h.made e' he'
  exact hne (key_eq_of_metadataName_eq hd hd' hname)

end Registries

/-! ## Lists of names -/

/-- The list of names of a registry: its definitions, each of them once, in the order of bytes. -/
structure Registry.ListsAll (reg : Registry) (s : Store) : Prop where
  increasing : (reg.names s).Pairwise fun x y => Text.bytes x < Text.bytes y
  length : (reg.names s).length = reg.size s
  mem : ∀ x, x ∈ reg.names s ↔ ∃ d ∈ reg.definitions s, d.metadataName = x

lemma Registry.Indexed.listsAll {reg : Registry} {s : Store} (h : reg.Indexed s) :
    reg.ListsAll s where
  increasing := pairwise_bytes_sortedNames _
  length := by
    rw [Registry.names, (sortedNames_perm h.nodup_metadataNames).length_eq, List.length_map,
      Registry.definitions, OrderedMap.values, List.length_map]
    rfl
  mem x := by rw [Registry.names, mem_sortedNames, List.mem_map]

/-- **Names identify keys.**  There is a definition for every key whose number of parameters is not
negative and can be stored, and definitions for two keys have one name just when the keys are equal,
whatever their patterns are and wherever the definitions stand.  So a registry that starts out empty
lists its definitions by name without losing any, after every history: the names are strictly
increasing as bytes, there are as many of them as definitions, and they are the names of these. -/
theorem names_identify_keys :
    (∀ (r n : Nat) (k : Key), (∃ d, synthesizedDefinition r n k = .ok d) ↔
      0 ≤ k.params ∧ k.params < maxLabels) ∧
    (∀ (r n r' n' : Nat) (k k' : Key) (d d' : Definition), synthesizedDefinition r n k = .ok d →
      synthesizedDefinition r' n' k' = .ok d' → (d.metadataName = d'.metadataName ↔ k = k')) ∧
    ∀ (reg : Registry) (w : World) (qs : List Request), reg.definitions w.store = [] →
      reg.ListsAll (qs.foldl World.perform w).store := by
  refine ⟨fun r n k => exists_synthesizedDefinition_iff, ?_, fun reg w qs hnew => ?_⟩
  · intro r n r' n' k k' d d' h h'
    refine ⟨key_eq_of_metadataName_eq h h', ?_⟩
    rintro rfl
    exact metadataName_eq_of_key h h'
  · exact ((Registry.Indexed.of_new hnew).foldl_perform qs).listsAll

/-- Two keys that are looked up, one that no definition is made for, and one of a shape.  The pattern
of the first looks like the end of the second name. -/
theorem names_identify_keys_of_imitations :
    let reg : Registry := ⟨0, "u"⟩
    let a : Ty := .named ⟨.free 0, "", "A", .reference⟩
    let k : Key := ⟨0, "1\x7d`1", true⟩
    let k' : Key := ⟨1, "1", true⟩
    let w := [Request.loadOrCreate reg k, .loadOrCreate reg k', .loadOrCreate reg ⟨-1, "", true⟩,
      .resolve ⟨1, .ofPlatform .standard, reg⟩ ⟨[⟨some a, .byRef⟩], some a⟩].foldl World.perform
        (World.initial .standard)
    (∃ d d', synthesizedDefinition 0 0 k = .ok d ∧ synthesizedDefinition 0 1 k' = .ok d' ∧
      d.metadataName ≠ d'.metadataName) ∧
    reg.names w.store = ["<>A\x7b1\x7d`1", "<>A\x7b1\x7d`1\x7d", "<>F\x7b1\x7d`2"] ∧
    reg.size w.store = 3 ∧ reg.ListsAll w.store := by
  intro reg a k k' w
  obtain ⟨hmade, hnames, hlists⟩ := names_identify_keys
  obtain ⟨d, hd⟩ := (hmade 0 0 k).mpr (by decide)
  obtain ⟨d', hd'⟩ := (hmade 0 1 k').mpr (by decide)
  refine ⟨⟨d, d', hd, hd', ?_⟩, ?_, ?_, hlists reg (World.initial .standard) _ rfl⟩
  · rw [Ne, hnames 0 0 0 1 k k' d d' hd hd']
    decide
  · decide +kernel
  · decide +kernel

end CallSites
