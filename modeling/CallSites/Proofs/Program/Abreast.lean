import CallSites.Proofs.Platform.NamedTypes
import CallSites.Proofs.Program.FactorySteps

/-!
# Twins abreast

Twins that start with the same pages and sheets and are asked the same stay abreast: what they
answer is shown alike, they make the same notes, and their pages and sheets are the same again.
Everything else in the two programs may be different, and whatever else happens there has no part
in it.

`SiteFactory.Abreast` says how far twins have come since they started.  There is one lemma for each
operation that can be asked of a factory, its builders and its sites.
-/

namespace CallSites

/-- The twins have come from their programs `w` and `w'`, with the calls `log` and `log'` behind
them, to the stores `s` and `s'`, making the same notes on the way. -/
structure SiteFactory.Abreast (p : Platform) (f f' : SiteFactory) (w w' : World)
    (log log' : List Call) (notes : List Note) (L L' : List Cell) (s s' : Store) : Prop where
  twins : f.Twins p f'
  left : f.Steps p w.client w.cells L log notes w.store s
  right : f'.Steps p w'.client w'.cells L' log' notes w'.store s'
  leaf : s.leaf f = s'.leaf f'

section Twins

variable {f f' : SiteFactory}

lemma SiteBuilder.Twins.left {b b' : SiteBuilder} (h : b.Twins f f' b') : b.Twins f f b := by
  obtain ⟨name, base, target, rfl, -⟩ := h
  exact ⟨name, base, target, rfl, rfl⟩

lemma SiteBuilder.Twins.right {b b' : SiteBuilder} (h : b.Twins f f' b') : b'.Twins f' f' b' := by
  obtain ⟨name, base, target, -, rfl⟩ := h
  exact ⟨name, base, target, rfl, rfl⟩

lemma Site.Twins.left_self {x x' : Site} (h : x.Twins f f' x') : x.Twins f f x := by
  obtain ⟨⟨name, base, target, hcell, -⟩, hleft, -, -⟩ := h
  exact ⟨⟨name, base, target, hcell, hcell⟩, hleft, hleft, rfl⟩

lemma Site.Twins.right_self {x x' : Site} (h : x.Twins f f' x') : x'.Twins f' f' x' := by
  obtain ⟨⟨name, base, target, -, hcell⟩, -, hright, -⟩ := h
  exact ⟨⟨name, base, target, hcell, hcell⟩, hright, hright, rfl⟩

end Twins

namespace SiteFactory.Abreast

variable {p : Platform} {f f' : SiteFactory} {w w' : World} {log log' : List Call}
variable {notes : List Note} {L L' : List Cell} {s s' s₁ s₁' : Store}

/-- Twins are abreast where they start. -/
lemma start (hf : f.Twins p f') (hw : w.Valid p) (hw' : w'.Valid p) (hl : Ledger p log w.store)
    (hl' : Ledger p log' w'.store) (h : w.store.leaf f = w'.store.leaf f') :
    f.Abreast p f' w w' log log' [] w.cells w'.cells w.store w'.store :=
  ⟨hf, .refl hw hl, .refl hw' hl', h⟩

/-- One more step that leaves the leaves the same. -/
lemma step (h : f.Abreast p f' w w' log log' notes L L' s s') {more : List Note}
    {L₁ L₁' : List Cell}
    (hs : f.Steps p w.client L L₁ (log ++ notes.map f.enter) more s s₁)
    (hs' : f'.Steps p w'.client L' L₁' (log' ++ notes.map f'.enter) more s' s₁')
    (hleaf : s₁.leaf f = s₁'.leaf f') :
    f.Abreast p f' w w' log log' (notes ++ more) L₁ L₁' s₁ s₁' :=
  ⟨h.twins, h.left.trans hs, h.right.trans hs', hleaf⟩

lemma beginSite (h : f.Abreast p f' w w' log log' notes L L' s s') (hint : String)
    {o o' : Except Failure SiteBuilder} (hrun : (f.beginSite hint).run s = (o, s₁))
    (hrun' : (f'.beginSite hint).run s' = (o', s₁')) :
    ∃ L₁ L₁', f.Abreast p f' w w' log log' notes L₁ L₁' s₁ s₁' ∧ L ⊆ L₁ ∧ L' ⊆ L₁' ∧
      Agree (fun b b' => b.Twins f f' b' ∧ b.cell ∈ L₁ ∧ b'.cell ∈ L₁') o o' := by
  obtain ⟨L₁, hs, hcell⟩ := Steps.beginSite h.left.valid h.left.ledger h.twins.left hrun
  obtain ⟨L₁', hs', hcell'⟩ := Steps.beginSite h.right.valid h.right.ledger h.twins.right hrun'
  obtain ⟨hleaf, hagree⟩ := (Mirrors.beginSite h.twins h.leaf hint).of_run hrun hrun'
  have hstep := h.step hs hs' hleaf
  rw [List.append_nil] at hstep
  refine ⟨L₁, L₁', hstep, hs.cells, hs'.cells, hagree.mono ?_⟩
  intro b b' hb hb' htwins
  exact ⟨htwins, (hcell b hb).1, (hcell' b' hb').1⟩

section Builder

variable {b b' : SiteBuilder} {o o' : Except Failure Site}

lemma resolve (h : f.Abreast p f' w w' log log' notes L L' s s') (hb : b.Twins f f' b')
    (hc : b.cell ∈ L) (hc' : b'.cell ∈ L') {sh : Shape} (hsh : ∀ x ∈ sh.types, p.IsNamed x)
    (hrun : (b.resolve sh).run s = (o, s₁)) (hrun' : (b'.resolve sh).run s' = (o', s₁')) :
    ∃ more, f.Abreast p f' w w' log log' (notes ++ more) L L' s₁ s₁' ∧
      Agree (Site.Twins f f') o o' := by
  have hknown := Shape.known_of_named (C := w.client) (s := s) (t := s.types) hsh
  have hknown' := Shape.known_of_named (C := w'.client) (s := s') (t := s'.types) hsh
  have hs := Steps.resolve h.left.valid h.left.ledger h.twins.left hb.left hc hknown hrun
  have hs' := Steps.resolve h.right.valid h.right.ledger h.twins.right hb.right hc' hknown' hrun'
  rw [hb.notes_eq h.twins h.leaf h.left.valid h.right.valid hknown hknown'] at hs'
  obtain ⟨hleaf, hagree⟩ := (Mirrors.resolveSite h.twins h.leaf h.left.valid h.right.valid hb hc hc'
    hknown hknown').of_run hrun hrun'
  exact ⟨_, h.step hs hs' hleaf, hagree⟩

lemma resolveOperands (h : f.Abreast p f' w w' log log' notes L L' s s') (hb : b.Twins f f' b')
    (hc : b.cell ∈ L) (hc' : b'.cell ∈ L') {ops : Operands} (hops : ∀ x ∈ ops.types, p.IsNamed x)
    (hrun : (b.resolveOperands ops).run s = (o, s₁))
    (hrun' : (b'.resolveOperands ops).run s' = (o', s₁')) :
    ∃ more, f.Abreast p f' w w' log log' (notes ++ more) L L' s₁ s₁' ∧
      Agree (Site.Twins f f') o o' := by
  have hknown := Operands.known_of_named (C := w.client) (s := s) (t := s.types) hops
  have hknown' := Operands.known_of_named (C := w'.client) (s := s') (t := s'.types) hops
  have hs := Steps.resolveOperands h.left.valid h.left.ledger h.twins.left hb.left hc hknown hrun
  have hs' := Steps.resolveOperands h.right.valid h.right.ledger h.twins.right hb.right hc' hknown'
    hrun'
  rw [hb.operandNotes_eq h.twins h.leaf h.left.valid h.right.valid hknown hknown'] at hs'
  obtain ⟨hleaf, hagree⟩ := (Mirrors.resolveOperands h.twins h.leaf h.left.valid h.right.valid hb hc
    hc' hknown hknown').of_run hrun hrun'
  exact ⟨_, h.step hs hs' hleaf, hagree⟩

end Builder

lemma callableType (h : f.Abreast p f' w w' log log' notes L L' s s') {ops : Operands}
    (hops : ∀ x ∈ ops.types, p.IsNamed x) {o o' : Except Failure Instance}
    (hrun : (f.callableType ops).run s = (o, s₁))
    (hrun' : (f'.callableType ops).run s' = (o', s₁')) :
    ∃ more, f.Abreast p f' w w' log log' (notes ++ more) L L' s₁ s₁' ∧
      Agree (fun c c' => c'.text = c.text) o o' := by
  have hknown := Operands.known_of_named (C := w.client) (s := s) (t := s.types) hops
  have hknown' := Operands.known_of_named (C := w'.client) (s := s') (t := s'.types) hops
  have hs := Steps.callableType h.left.valid h.left.ledger h.twins.left hknown hrun
  have hs' := Steps.callableType h.right.valid h.right.ledger h.twins.right hknown' hrun'
  rw [h.twins.notes_eq h.left.valid h.right.valid hknown hknown'] at hs'
  obtain ⟨hleaf, hagree⟩ := (Mirrors.callableType h.twins h.leaf h.left.valid h.right.valid hknown
    hknown').of_run hrun hrun'
  exact ⟨_, h.step hs hs' hleaf, hagree⟩

lemma bootstrap (h : f.Abreast p f' w w' log log' notes L L' s s') {x x' : Site}
    (hx : x.Twins f f' x') (binder : Option Ty) {o o' : Except Failure Unit}
    (hrun : (x.bootstrap binder).run s = (o, s₁))
    (hrun' : (x'.bootstrap binder).run s' = (o', s₁')) :
    f.Abreast p f' w w' log log' notes L L' s₁ s₁' ∧ Agree (fun _ _ => True) o o' := by
  have hs := Steps.bootstrap h.left.valid h.left.ledger hx.left_self hrun
  have hs' := Steps.bootstrap h.right.valid h.right.ledger hx.right_self hrun'
  obtain ⟨hleaf, hagree⟩ := (Mirrors.bootstrap h.twins h.leaf hx binder).of_run hrun hrun'
  have hstep := h.step hs hs' hleaf
  rw [List.append_nil] at hstep
  exact ⟨hstep, hagree⟩

end SiteFactory.Abreast

end CallSites
