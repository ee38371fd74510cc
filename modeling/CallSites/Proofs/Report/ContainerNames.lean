import CallSites.Documents
import Mathlib.Tactic.Lemma

/-!
# The names of containers

A site file gives its container by a qualified name.  The name is cut at its last dot, and the class
that is made of the two parts puts them together again.

The two do not undo each other on every name.  A class without a namespace shows no dot, and there
are two ways to come to such a class: from a name without dots, and from one whose only dot comes
first.  The second kind (`OnlyLeadingDot`) is shown without its dot, like a name of the first kind.
All other names come back as they are, however many dots they have and wherever these stand.
-/

namespace CallSites

/-- The first character of a name is a dot, and it is the only one. -/
def OnlyLeadingDot (name : String) : Prop :=
  name.toList.head? = some '.' ∧ '.' ∉ name.toList.tail

instance (name : String) : Decidable (OnlyLeadingDot name) := inferInstanceAs (Decidable (_ ∧ _))

lemma onlyLeadingDot_append {name : String} (h : '.' ∉ name.toList) :
    OnlyLeadingDot ("." ++ name) := by
  simpa [OnlyLeadingDot] using h

lemma OnlyLeadingDot.mem {name : String} (h : OnlyLeadingDot name) : '.' ∈ name.toList :=
  List.mem_of_mem_head? h.1

namespace SiteFile

/-! ## Cutting at the last dot -/

lemma splitLastDot_eq_none {cs : List Char} (h : splitLastDot cs = none) : '.' ∉ cs := by
  induction cs with
  | nil => exact List.not_mem_nil
  | cons c cs ih =>
      rw [splitLastDot] at h
      rcases hcs : splitLastDot cs with _ | ⟨before, after⟩
      · rw [hcs] at h
        have hc : c ≠ '.' := by
          rintro rfl
          cases h
        rw [List.mem_cons, not_or]
        exact ⟨hc.symm, ih hcs⟩
      · rw [hcs] at h
        cases h

lemma splitLastDot_eq_some {cs before after : List Char}
    (h : splitLastDot cs = some (before, after)) : cs = before ++ '.' :: after ∧ '.' ∉ after := by
  induction cs generalizing before with
  | nil => cases h
  | cons c cs ih =>
      rw [splitLastDot] at h
      rcases hcs : splitLastDot cs with _ | ⟨before', after'⟩
      · rw [hcs] at h
        dsimp only at h
        split at h
        · next hc =>
            cases h
            exact ⟨by rw [hc, List.nil_append], splitLastDot_eq_none hcs⟩
        · cases h
      · rw [hcs] at h
        cases h
        obtain ⟨hsplit, hdot⟩ := ih hcs
        exact ⟨by rw [hsplit, List.cons_append], hdot⟩

variable (file file' : SiteFile)

/-- **The parts of the name.**  There is no dot to cut at, or the parts are those on both sides of
the last one. -/
lemma containerName_cases :
    ('.' ∉ file.container.toList ∧ file.containerName = ("", file.container)) ∨
      ∃ ns name, file.container = ns ++ "." ++ name ∧ '.' ∉ name.toList ∧
        file.containerName = (ns, name) := by
  rw [containerName]
  rcases hsplit : splitLastDot file.container.toList with _ | ⟨before, after⟩
  · exact .inl ⟨splitLastDot_eq_none hsplit, rfl⟩
  · obtain ⟨hchars, hdot⟩ := splitLastDot_eq_some hsplit
    refine .inr ⟨String.ofList before, String.ofList after, ?_, ?_, rfl⟩
    · rw [← String.toList_inj, hchars]
      simp
    · rwa [String.toList_ofList]

/-! ## Putting the parts together -/

/-- The name that the class of a file shows. -/
def className : String := qualified file.containerName.1 file.containerName.2

variable {file file'}

lemma className_of_not_onlyLeadingDot (h : ¬ OnlyLeadingDot file.container) :
    file.className = file.container := by
  rcases file.containerName_cases with ⟨-, hparts⟩ | ⟨ns, name, hname, hdot, hparts⟩
  · rw [className, hparts]
    rfl
  · have hns : ns ≠ "" := by
      rintro rfl
      rw [hname, String.empty_append] at h
      exact h (onlyLeadingDot_append hdot)
    rw [className, hparts, qualified, if_neg hns, hname]

/-- The dot is lost, and it was the only one. -/
lemma className_of_onlyLeadingDot (h : OnlyLeadingDot file.container) :
    file.container = "." ++ file.className ∧ '.' ∉ file.className.toList := by
  rcases file.containerName_cases with ⟨hnone, -⟩ | ⟨ns, name, hname, hdot, hparts⟩
  · exact absurd h.mem hnone
  · -- a character in front of the last dot would be the first one, and so a dot
    have hns : ns = "" := by
      rw [OnlyLeadingDot, hname] at h
      rcases hchars : ns.toList with _ | ⟨c, cs⟩
      · rwa [String.toList_eq_nil_iff] at hchars
      · simp [hchars] at h
    subst hns
    rw [className, hparts, qualified, if_pos rfl]
    exact ⟨by rw [hname, String.empty_append], hdot⟩

lemma className_eq_container_iff :
    file.className = file.container ↔ ¬ OnlyLeadingDot file.container := by
  refine ⟨fun h hlead => ?_, className_of_not_onlyLeadingDot⟩
  have hlost := (className_of_onlyLeadingDot hlead).2
  rw [h] at hlost
  exact hlost hlead.mem

lemma className_eq_of_lost_dot (h : OnlyLeadingDot file.container)
    (heq : file.container = "." ++ file'.container) : file.className = file'.className := by
  obtain ⟨hlost, hdot⟩ := className_of_onlyLeadingDot h
  have hshown : file.className = file'.container :=
    String.append_right_inj "." |>.mp (hlost.symm.trans heq)
  have hlead : ¬ OnlyLeadingDot file'.container := fun h' => hdot (hshown ▸ h'.mem)
  rw [hshown, className_of_not_onlyLeadingDot hlead]

/-- Names that are shown alike are the same, or one of them has lost its dot. -/
lemma className_eq_iff :
    file.className = file'.className ↔ file.container = file'.container ∨
      (OnlyLeadingDot file.container ∧ file.container = "." ++ file'.container) ∨
      (OnlyLeadingDot file'.container ∧ file'.container = "." ++ file.container) := by
  constructor
  · intro heq
    by_cases h : OnlyLeadingDot file.container <;> by_cases h' : OnlyLeadingDot file'.container
    · left
      rw [(className_of_onlyLeadingDot h).1, heq, ← (className_of_onlyLeadingDot h').1]
    · refine .inr (.inl ⟨h, ?_⟩)
      rw [(className_of_onlyLeadingDot h).1, heq, className_of_not_onlyLeadingDot h']
    · refine .inr (.inr ⟨h', ?_⟩)
      rw [(className_of_onlyLeadingDot h').1, ← heq, className_of_not_onlyLeadingDot h]
    · left
      rw [← className_of_not_onlyLeadingDot h, heq, className_of_not_onlyLeadingDot h']
  · rintro (heq | ⟨h, heq⟩ | ⟨h', heq⟩)
    · rw [className, className, containerName, containerName, heq]
    · exact className_eq_of_lost_dot h heq
    · exact (className_eq_of_lost_dot h' heq).symm

/-! ## Classes -/

/-- The class of a file, made in a given type table. -/
def classIn (file : SiteFile) (t : TypeTable) : Except Failure Container :=
  ((TypeM.newContainer file.containerName.1 file.containerName.2).run t).1

lemma classIn_eq (t : TypeTable) :
    file.classIn t = .ok ⟨t.next, file.containerName.1, file.containerName.2⟩ := rfl

/-- What a text is read as can be computed. -/
lemma parse_eq_ok {decode : Decoder SiteFile} {text path : String}
    (h : (parse decode text path).toOption = some file) : parse decode text path = .ok file := by
  rcases hparse : parse decode text path with e | file
  · rw [hparse] at h
    cases h
  · rw [hparse] at h
    cases h
    rfl

/-- **Which names of containers come back.**  Every file gets a class, and the name of the class has
no dot.  The class shows the name that the file gives for its container, unless the only dot of the
name comes first; then it shows the name without the dot.  So the classes of two files show the same
just when the files give the same name, or names that differ in such a dot. -/
theorem container_comes_back_iff (file : SiteFile) (t : TypeTable) :
    ∃ c, file.classIn t = .ok c ∧ '.' ∉ c.name.toList ∧
      (c.text = file.container ↔ ¬ OnlyLeadingDot file.container) ∧
      (OnlyLeadingDot file.container → file.container = "." ++ c.text) ∧
      ∀ (file' : SiteFile) (t' : TypeTable) (c' : Container), file'.classIn t' = .ok c' →
        (c.text = c'.text ↔ file.container = file'.container ∨
          (OnlyLeadingDot file.container ∧ file.container = "." ++ file'.container) ∨
          (OnlyLeadingDot file'.container ∧ file'.container = "." ++ file.container)) := by
  refine ⟨_, classIn_eq t, ?_, className_eq_container_iff,
    fun h => (className_of_onlyLeadingDot h).1, ?_⟩
  · rcases file.containerName_cases with ⟨hdot, hparts⟩ | ⟨ns, name, -, hdot, hparts⟩ <;>
      rwa [hparts]
  · rintro file' t' c' ⟨⟩
    exact className_eq_iff

/-- Dots at both ends and side by side come back. -/
theorem container_comes_back_of_many_dots :
    ∃ file c, parse ofYaml "container: ..App..Script." "p" = .ok file ∧ file.classIn {} = .ok c ∧
      c.text = "..App..Script." := by
  have hparse : parse ofYaml "container: ..App..Script." "p" =
      .ok { unit := "p", container := "..App..Script." } := parse_eq_ok (by decide +kernel)
  obtain ⟨c, hc, -, hback, -⟩ :=
    container_comes_back_iff { unit := "p", container := "..App..Script." } {}
  exact ⟨_, c, hparse, hc, hback.mpr (by decide)⟩

/-- Two files that are accepted name different containers, and their classes show the same. -/
theorem container_loses_leading_dot :
    ∃ file file' c c', parse ofYaml "container: .Script" "p" = .ok file ∧
      parse ofYaml "container: Script" "q" = .ok file' ∧ file.container = ".Script" ∧
      file'.container = "Script" ∧ file.classIn {} = .ok c ∧ file'.classIn {} = .ok c' ∧
      c.text = "Script" ∧ c'.text = "Script" := by
  have hparse : parse ofYaml "container: .Script" "p" = .ok { unit := "p", container := ".Script" } :=
    parse_eq_ok (by decide +kernel)
  have hparse' : parse ofYaml "container: Script" "q" = .ok { unit := "q", container := "Script" } :=
    parse_eq_ok (by decide +kernel)
  exact ⟨_, _, _, _, hparse, hparse', rfl, rfl, rfl, rfl, by decide +kernel, by decide +kernel⟩

end SiteFile

end CallSites
