import AccessWindows.Proofs.Templates
import AccessWindows.Proofs.Verdicts
import AccessWindows.Template.Builtin

/-!
# Templates that pass the check

The check of a template looks at the name, at the zone, and at whether there are grants, but not at the
grants themselves. A template is read back with its grants built anew, or refused for the first that
cannot be (`reads_template`), so it comes back as it was exactly if its grants are sound
(`Exchange.readTemplate_eq_ok_self_iff`). And one that passed the check passes it in normal form exactly
if its grants give access at some minute (`Template.validateIn_normalized_eq_ok_iff`).

So a template that passes the check can be stored and still grants time after normalizing if its grants
are sound, and the two conditions say when each of this fails (`Exchange.validated_template`). It does
fail for grants put together by hand: a window from evening to morning passes the check, but it cannot be
read back, and nothing is left of it in normal form (`Exchange.validated_overnight`).
-/

set_option autoImplicit false

namespace AccessWindows

open Json (Fills ReadError Reads Style)

/-! ## Reading templates back -/

/-- A template is read back with its grants built anew, or refused for the first that cannot be. -/
theorem reads_template (t : Template) :
    Reads Template.reader t.toJson
      (((t.grants.mapM Grant.remake).mapError fun f => .mismatch (.refused f)).map fun gs =>
        { t with grants := gs }) := by
  have hgrants := Json.reads_array fun g (_ : g ∈ t.grants) => reads_grant g
  rw [mapM_mapError] at hgrants
  -- the members before the grants are read in any case
  have fills : ∀ members last, Fills TemplateDraft.record.fields
      ⟨some t.name, some t.description, some t.category, none, none⟩ members last →
      Fills TemplateDraft.record.fields TemplateDraft.record.blank
        (("name", .string t.name.toList) :: ("description", .string t.description.toList) ::
          ("category", t.category.toJson) :: members) last := by
    intro members last later
    refine .cons rfl rfl ((reads_text t.name).map _) ?_
    refine .cons rfl rfl ((reads_text t.description).map _) ?_
    exact .cons rfl rfl ((reads_category t.category).map _) later
  cases hanswer : (t.grants.mapM Grant.remake).mapError fun f => ReadError.mismatch (.refused f) with
  | error e =>
      rw [hanswer] at hgrants
      exact Json.reads_object_refused (fills [] _ (.nil _)) rfl rfl (hgrants.map _)
        [("timezone", .string t.zone.toList)]
  | ok gs =>
      rw [hanswer] at hgrants
      refine Json.reads_object ⟨some t.name, some t.description, some t.category, some gs, some t.zone⟩
        (fills _ _ ?_) rfl
      refine .cons rfl rfl (hgrants.map _) ?_
      exact .cons rfl rfl ((reads_text t.zone).map _) (.nil _)

namespace Exchange

/-- What is read of the text of a template, without blanks around it. -/
theorem readTemplate_write (t : Template) (style : Style) :
    Template.reader.readAll (write style t.toJson).toList =
      ((t.grants.mapM Grant.remake).mapError fun f => .mismatch (.refused f)).map fun gs =>
        { t with grants := gs } := by
  have h := (reads_template t).readAll style Json.blank_nil
  rw [List.append_nil] at h
  rw [write, String.toList_ofList]
  exact h

/-- A template is read back as it was if and only if its grants are sound. -/
theorem readTemplate_eq_ok_self_iff (t : Template) (style : Style) :
    Template.reader.readAll (write style t.toJson).toList = .ok t ↔ ∀ g ∈ t.grants, g.Sound := by
  rw [readTemplate_write]
  have hself : (∀ g ∈ t.grants, g.Sound) ↔ t.grants.mapM Grant.remake = .ok t.grants := by
    rw [mapM_eq_ok_iff, List.forall₂_same]
    simp only [Grant.remake_eq_ok_self_iff]
  rw [hself]
  cases t.grants.mapM Grant.remake with
  | error f => simp [Except.map, Except.mapError]
  | ok gs =>
      simp only [Except.map, Except.mapError, Except.ok.injEq]
      constructor
      · intro h
        exact congrArg Template.grants h
      · rintro rfl
        rfl

/-- A template is read back at all if and only if its grants are valid. -/
theorem exists_readTemplate_iff (t : Template) (style : Style) :
    (∃ u, Template.reader.readAll (write style t.toJson).toList = .ok u) ↔
      ∀ g ∈ t.grants, g.Valid := by
  have hall : (∃ gs, t.grants.mapM Grant.remake = .ok gs) ↔ ∀ g ∈ t.grants, g.Valid := by
    rw [exists_mapM_eq_ok_iff]
    simp only [Grant.exists_remake_iff]
  rw [readTemplate_write, ← hall]
  cases t.grants.mapM Grant.remake with
  | error f => simp [Except.map, Except.mapError]
  | ok gs => simp [Except.map, Except.mapError]

end Exchange

/-! ## The check after normalizing -/

/-- A template passes the check in normal form if and only if it passes it as it is and its grants give
access at some minute. -/
theorem Template.validateIn_normalized_eq_ok_iff {zones : List String} {t : Template} :
    t.normalized.validateIn zones = .ok () ↔
      t.validateIn zones = .ok () ∧ ∃ d m, (Schedule.grants t.grants).Covers d m := by
  have hnormal : t.normalized.grants ≠ [] ↔ ∃ d m, (Schedule.grants t.grants).Covers d m := by
    rw [Ne, Template.normalized, Grant.normalize_eq_nil_iff]
    simp only [not_forall, not_not]
  rw [Template.validateIn_eq_ok_iff, Template.validateIn_eq_ok_iff, hnormal]
  constructor
  · rintro ⟨hname, hcovers, hzone⟩
    have hgrants : t.grants ≠ [] := by
      obtain ⟨d, m, g, hg, -⟩ := hcovers
      exact List.ne_nil_of_mem hg
    exact ⟨⟨hname, hgrants, hzone⟩, hcovers⟩
  · rintro ⟨⟨hname, -, hzone⟩, hcovers⟩
    exact ⟨hname, hcovers, hzone⟩

namespace Exchange

/-- **A template that passes the check can be stored and still grants time, if its grants are sound.**
Of any template that passes the check, whatever zones there are: its text is read at all exactly if
every grant holds on some weekday and starts before it stops, and gives back the template exactly if the
weekdays are in order and listed once as well; and its normal form passes the check exactly if the grants
give access at some minute. All this is so if the grants are sound. -/
theorem validated_template {zones : List String} {t : Template}
    (validated : t.validateIn zones = .ok ()) :
    (∀ style, (∃ u, Template.reader.readAll (write style t.toJson).toList = .ok u) ↔
      ∀ g ∈ t.grants, g.Valid) ∧
    (∀ style, Template.reader.readAll (write style t.toJson).toList = .ok t ↔
      ∀ g ∈ t.grants, g.Sound) ∧
    (t.normalized.validateIn zones = .ok () ↔ ∃ d m, (Schedule.grants t.grants).Covers d m) ∧
    ((∀ g ∈ t.grants, g.Sound) →
      (∀ style, Template.reader.readAll (write style t.toJson).toList = .ok t) ∧
        t.normalized.validateIn zones = .ok ()) := by
  have applied : t.normalized.validateIn zones = .ok () ↔
      ∃ d m, (Schedule.grants t.grants).Covers d m := by
    rw [Template.validateIn_normalized_eq_ok_iff]
    exact and_iff_right validated
  refine ⟨exists_readTemplate_iff t, readTemplate_eq_ok_self_iff t, applied, fun sound => ⟨?_, ?_⟩⟩
  · exact fun style => (readTemplate_eq_ok_self_iff t style).2 sound
  · -- there is a grant, and it gives access from its start on
    obtain ⟨-, hgrants, -⟩ := Template.validateIn_eq_ok_iff.1 validated
    obtain ⟨g, hg⟩ := List.exists_mem_of_ne_nil _ hgrants
    obtain ⟨d, hd⟩ := (sound g hg).valid.exists_covers
    exact applied.2 ⟨d, _, g, hg, hd⟩

/-- A template of one grant in the standard zone. -/
def nightDuty (days : List Weekday) (start stop : ClockTime) : Template :=
  .single "Night duty" "" .duty ⟨days, start, stop⟩

theorem nightDuty_not_nameless (days : List Weekday) (start stop : ClockTime) :
    ¬ (nightDuty days start stop).Nameless := by
  intro blank
  have hmem : 'N' ∈ (nightDuty days start stop).name.toList := by simp [nightDuty, Template.single]
  exact absurd (blank 'N' hmem) (by decide)

theorem nightDuty_validate (days : List Weekday) (start stop : ClockTime) :
    (nightDuty days start stop).validate = .ok () := by
  have zone : Zone.standard ∈ Zone.names := by decide +kernel
  exact Template.validateIn_eq_ok_iff.2
    ⟨nightDuty_not_nameless days start stop, List.cons_ne_nil _ _, zone⟩

/-- From ten in the evening on Mondays and Saturdays to the end of the day: the grant is sound. -/
theorem validated_template_lateEvening :
    let t := nightDuty [.monday, .saturday] ⟨1320, by decide⟩ .dayEnd
    t.validate = .ok () ∧ Template.reader.readAll (write .pretty t.toJson).toList = .ok t ∧
      t.normalized.validate = .ok () := by
  have validated := nightDuty_validate [.monday, .saturday] ⟨1320, by decide⟩ .dayEnd
  obtain ⟨-, -, -, kept⟩ := validated_template validated
  obtain ⟨stored, applied⟩ := kept (by decide)
  exact ⟨validated, stored .pretty, applied⟩

/-- A window from ten in the evening to six in the morning passes the check, but its text is refused, and
its normal form has no grants left and fails the check. -/
theorem validated_overnight :
    let t := nightDuty [.monday] ⟨1320, by decide⟩ ⟨360, by decide⟩
    t.validate = .ok () ∧
      Template.reader.readAll (write .compact t.toJson).toList =
        .error (.mismatch (.refused (.rangeOrder ⟨1320, by decide⟩ ⟨360, by decide⟩))) ∧
      t.normalized.validate = .error (.noRanges "Night duty") := by
  refine ⟨nightDuty_validate _ _ _, readTemplate_write _ _, ?_⟩
  have hnil : (nightDuty [.monday] ⟨1320, by decide⟩ ⟨360, by decide⟩).normalized.grants = [] := by
    refine Grant.normalize_eq_nil_iff.2 fun d m hcovers => ?_
    obtain ⟨g, hg, -, hfrom, hto⟩ := hcovers
    obtain rfl := List.mem_singleton.1 hg
    exact absurd (Nat.lt_of_le_of_lt hfrom hto) (by decide)
  have named := nightDuty_not_nameless [.monday] ⟨1320, by decide⟩ ⟨360, by decide⟩
  exact Template.validateIn_eq_error_iff.2 (.inr (.inl ⟨named, hnil, rfl⟩))

end Exchange

end AccessWindows
