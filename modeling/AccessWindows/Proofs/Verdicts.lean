import AccessWindows.Proofs.Construction
import AccessWindows.Proofs.Fusion
import Mathlib.Data.List.DropRight
import Mathlib.Data.List.TakeWhile

/-!
# Verdicts on templates

A template is accepted if its name is not blank, it has grants, and its zone exists; what is reported of
another one is the first of these that fails (`Template.validateIn_eq_ok_iff`,
`Template.validateIn_eq_error_iff`). A name is blank if it holds blank characters only
(`Blank.trim_eq_nil_iff`).

Normalizing changes the grants alone, so only the second check could come out otherwise. But the normal
form is empty exactly if the grants give access at no minute (`Grant.normalize_eq_nil_iff`), and a valid
grant gives access from its start on. So valid grants are not normalized away, and no verdict changes
(`Template.normalized_keeps_verdict`).
-/

set_option autoImplicit false

namespace AccessWindows

/-! ## Blank names -/

theorem Blank.trim_eq_nil_iff {s : List Char} : trim s = [] ↔ ∀ c ∈ s, isBlank c = true := by
  have hends : trim s = (s.dropWhile isBlank).rdropWhile isBlank := rfl
  rw [hends, List.rdropWhile_eq_nil_iff]
  constructor
  · intro h c hc
    rw [← List.takeWhile_append_dropWhile (p := isBlank) (l := s), List.mem_append] at hc
    rcases hc with hc | hc
    · exact List.mem_takeWhile_imp hc
    · exact h c hc
  · intro h c hc
    exact h c ((List.dropWhile_sublist isBlank).subset hc)

/-! ## Empty normal forms -/

namespace Grant

/-- A valid grant gives access from its start on. -/
theorem Valid.exists_covers {g : Grant} (valid : g.Valid) : ∃ d, g.Covers d g.start.minutes := by
  obtain ⟨d, hd⟩ := List.exists_mem_of_ne_nil _ valid.1
  exact ⟨d, hd, Nat.le_refl _, valid.2⟩

/-- The normal form is empty exactly if the grants give no access at all. -/
theorem normalize_eq_nil_iff {gs : List Grant} :
    normalize gs = [] ↔ ∀ d m, ¬ (Schedule.grants gs).Covers d m := by
  constructor
  · intro hnil d m hcovers
    rw [← covers_normalize, hnil] at hcovers
    obtain ⟨g, hg, -⟩ := hcovers
    exact List.not_mem_nil hg
  · intro none
    refine List.eq_nil_iff_forall_not_mem.2 fun g hg => ?_
    have sound : g.Sound := sound_of_mem_ofSelections hg
    obtain ⟨d, hd⟩ := sound.valid.exists_covers
    exact none d _ ((covers_normalize gs d _).1 ⟨g, hg, hd⟩)

/-- Valid grants are not normalized away. -/
theorem normalize_eq_nil_iff_of_valid {gs : List Grant} (valid : ∀ g ∈ gs, g.Valid) :
    normalize gs = [] ↔ gs = [] := by
  rw [normalize_eq_nil_iff]
  constructor
  · intro none
    refine List.eq_nil_iff_forall_not_mem.2 fun g hg => ?_
    obtain ⟨d, hd⟩ := (valid g hg).exists_covers
    exact none d _ ⟨g, hg, hd⟩
  · rintro rfl d m ⟨g, hg, -⟩
    exact List.not_mem_nil hg

end Grant

namespace Template

/-! ## Verdicts -/

/-- Whether the name of a template holds blank characters only. -/
def Nameless (t : Template) : Prop := ∀ c ∈ t.name.toList, Blank.isBlank c = true

variable {zones : List String} {t : Template}

/-- The four verdicts and when they are given. -/
theorem validateIn_cases (zones : List String) (t : Template) :
    t.Nameless ∧ t.validateIn zones = .error .blankName ∨
      ¬ t.Nameless ∧ t.grants = [] ∧ t.validateIn zones = .error (.noRanges t.name) ∨
      ¬ t.Nameless ∧ t.grants ≠ [] ∧ t.zone ∉ zones ∧
        t.validateIn zones = .error (.noSuchZone t.zone) ∨
      ¬ t.Nameless ∧ t.grants ≠ [] ∧ t.zone ∈ zones ∧ t.validateIn zones = .ok () := by
  unfold validateIn zoneIn
  split
  · next hname => exact .inl ⟨Blank.trim_eq_nil_iff.1 hname, rfl⟩
  · next hname =>
    have hnamed : ¬ t.Nameless := fun h => hname (Blank.trim_eq_nil_iff.2 h)
    split
    · next hgrants => exact .inr (.inl ⟨hnamed, hgrants, rfl⟩)
    · next hgrants =>
      split
      · next hzone => exact .inr (.inr (.inr ⟨hnamed, hgrants, hzone, rfl⟩))
      · next hzone => exact .inr (.inr (.inl ⟨hnamed, hgrants, hzone, rfl⟩))

/-- Which templates are accepted. -/
theorem validateIn_eq_ok_iff :
    t.validateIn zones = .ok () ↔ ¬ t.Nameless ∧ t.grants ≠ [] ∧ t.zone ∈ zones := by
  rcases validateIn_cases zones t with ⟨hname, h⟩ | ⟨hname, hgrants, h⟩ |
    ⟨hname, hgrants, hzone, h⟩ | ⟨hname, hgrants, hzone, h⟩
  · simp [h, hname]
  · simp [h, hgrants]
  · simp [h, hzone]
  · simp [h, hname, hgrants, hzone]

/-- What is reported of the others: the first check that fails. -/
theorem validateIn_eq_error_iff {f : Fault} :
    t.validateIn zones = .error f ↔
      t.Nameless ∧ f = .blankName ∨
        ¬ t.Nameless ∧ t.grants = [] ∧ f = .noRanges t.name ∨
          ¬ t.Nameless ∧ t.grants ≠ [] ∧ t.zone ∉ zones ∧ f = .noSuchZone t.zone := by
  rcases validateIn_cases zones t with ⟨hname, h⟩ | ⟨hname, hgrants, h⟩ |
    ⟨hname, hgrants, hzone, h⟩ | ⟨hname, hgrants, hzone, h⟩
  · simp [h, hname, eq_comm]
  · simp [h, hname, hgrants, eq_comm]
  · simp [h, hname, hgrants, hzone, eq_comm]
  · simp [h, hname, hgrants, hzone]

/-- The verdict depends on nothing but the name, the zone, and whether there are grants. -/
theorem validateIn_congr {u : Template} (hname : u.name = t.name) (hzone : u.zone = t.zone)
    (hgrants : u.grants = [] ↔ t.grants = []) : u.validateIn zones = t.validateIn zones := by
  simp only [validateIn, zoneIn, hname, hzone, hgrants]

/-- **Normalizing keeps what a template means and what is said of it**, whatever table of zones there
is. If its grants are valid, a template in normal form has the same name, description, category and zone,
gives access at the same minutes of the week, and gets the same verdict: it is accepted if the template
was, and otherwise the same is reported, a blank name before missing grants and these before an unknown
zone. -/
theorem normalized_keeps_verdict (zones : List String) (t : Template)
    (valid : ∀ g ∈ t.grants, g.Valid) :
    (t.normalized.name = t.name ∧ t.normalized.description = t.description ∧
      t.normalized.category = t.category ∧ t.normalized.zone = t.zone) ∧
    (∀ d m, (Schedule.grants t.normalized.grants).Covers d m ↔
      (Schedule.grants t.grants).Covers d m) ∧
    t.normalized.validateIn zones = t.validateIn zones ∧
    (t.normalized.validateIn zones = .ok () ↔ ¬ t.Nameless ∧ t.grants ≠ [] ∧ t.zone ∈ zones) ∧
    ∀ f, t.normalized.validateIn zones = .error f ↔
      t.Nameless ∧ f = .blankName ∨
        ¬ t.Nameless ∧ t.grants = [] ∧ f = .noRanges t.name ∨
          ¬ t.Nameless ∧ t.grants ≠ [] ∧ t.zone ∉ zones ∧ f = .noSuchZone t.zone := by
  have same : t.normalized.validateIn zones = t.validateIn zones :=
    validateIn_congr rfl rfl (Grant.normalize_eq_nil_iff_of_valid valid)
  refine ⟨⟨rfl, rfl, rfl, rfl⟩, covers_normalize t.grants, same, ?_, fun f => ?_⟩
  · rw [same, validateIn_eq_ok_iff]
  · rw [same, validateIn_eq_error_iff]

/-- Two grants that overlap out of phase, one of them with repeated weekdays, in the zone of Zurich. -/
def earlyShift : Template where
  name := "Frühschicht"
  description := ""
  category := .work
  grants := [⟨[.sunday, .monday, .sunday], ⟨335, by decide⟩, ⟨430, by decide⟩⟩,
    ⟨[.monday], ⟨365, by decide⟩, ⟨505, by decide⟩⟩]
  zone := "Europe/Zurich"

theorem normalized_keeps_verdict_earlyShift :
    (∀ g ∈ earlyShift.grants, g.Valid) ∧
    earlyShift.normalized.validateIn ["Europe/Zurich"] = .ok () ∧
    earlyShift.normalized.validateIn ["Europe/Berlin", "Europe/Paris"] =
      .error (.noSuchZone "Europe/Zurich") := by
  have valid : ∀ g ∈ earlyShift.grants, g.Valid := by decide
  have named : ¬ earlyShift.Nameless := by
    intro blank
    have hmem : 'F' ∈ earlyShift.name.toList := by simp [earlyShift]
    exact absurd (blank 'F' hmem) (by decide)
  obtain ⟨-, -, -, accepted, -⟩ := normalized_keeps_verdict ["Europe/Zurich"] earlyShift valid
  obtain ⟨-, -, -, -, refused⟩ :=
    normalized_keeps_verdict ["Europe/Berlin", "Europe/Paris"] earlyShift valid
  exact ⟨valid, accepted.2 ⟨named, by decide, by decide⟩,
    (refused _).2 (.inr (.inr ⟨named, by decide, by decide, rfl⟩))⟩

end Template

end AccessWindows
