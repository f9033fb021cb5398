import AccessWindows.Proofs.RoundTrip

/-!
# Templates read back from their texts

A template is written as an object with all its fields. Names, descriptions and zones are strings of any
characters, a category is its name, and the grants are read back if they are sound (`reads_grants`). Two
members may be missing in a text: without a description it is empty, and without a zone the standard one
is meant. So a member that says just this may be left out (`Template.Implied`), and the template comes
back as it was, with the member or without it (`Exchange.template_read_write`).
-/

set_option autoImplicit false

namespace AccessWindows

open Json (Fills Reader Reads Style Writer)

/-! ## Parts of a template -/

theorem reads_text (s : String) : Reads Reader.text (.string s.toList) (.ok s) := by
  have h : Reads Reader.text (.string s.toList) (.ok (String.ofList s.toList)) :=
    (Json.reads_string s.toList).map String.ofList
  rwa [String.ofList_toList] at h

/-- A category is found by its name. -/
theorem Category.ofName?_name (c : Category) : ofName? c.name.toList = some c := by
  cases c <;> decide

theorem reads_categoryName (c : Category) : Reads Category.nameReader c.toJson (.ok c) where
  opens := (Json.reads_stringFor .variant c.name.toList).opens
  read style depth gap rest blank ends := by
    have hname := (Json.reads_stringFor .variant c.name.toList).read style depth gap rest blank ends
    rw [Category.nameReader, Category.toJson, Reader.bind_ok hname]
    simp only [c.ofName?_name]
    rfl

/-- A category is read back from its name alone. -/
theorem reads_category (c : Category) : Reads Category.reader c.toJson (.ok c) where
  opens := (reads_categoryName c).opens
  read style depth gap rest blank ends := by
    have hname := (reads_categoryName c).read style depth [] rest Json.blank_nil ends
    -- the quote decides between the two forms of a category, and is read again with the name
    show Category.reader (gap ++ '"' :: _) = _
    rw [Category.reader, Reader.bind_ok (Reader.start_gap blank rfl _), if_pos rfl]
    exact hname

/-- Sound grants are read back as they are. -/
theorem reads_grants {gs : List Grant} (sound : ∀ g ∈ gs, g.Sound) :
    Reads (Reader.array Grant.reader) (.array (gs.map Grant.toJson)) (.ok gs) := by
  have h := Json.reads_array fun g (_ : g ∈ gs) => reads_grant g
  have hall : gs.mapM Grant.remake = .ok gs :=
    mapM_eq_ok_iff.2 (List.forall₂_same.2 fun g hg => Grant.remake_eq_ok_self_iff.2 (sound g hg))
  rw [mapM_mapError, hall] at h
  exact h

/-! ## Members that may be left out -/

namespace Template

/-- The members of a template's object. -/
def members (t : Template) : List (String × Writer) :=
  [("name", .string t.name.toList), ("description", .string t.description.toList),
    ("category", t.category.toJson), ("time_ranges", .array (t.grants.map Grant.toJson)),
    ("timezone", .string t.zone.toList)]

theorem toJson_eq (t : Template) : t.toJson = .object t.members := rfl

/-- A template as an object without the members of some names. -/
def toJsonWithout (t : Template) (omitted : List String) : Writer :=
  .object (t.members.filter fun m => m.1 ∉ omitted)

/-- Whether the member of a name says what is meant without it as well. -/
def Implied (t : Template) (key : String) : Prop :=
  key = "description" ∧ t.description = "" ∨ key = "timezone" ∧ t.zone = Zone.standard

theorem toJsonWithout_nil (t : Template) : t.toJsonWithout [] = t.toJson := by
  rw [toJson_eq, toJsonWithout]
  simp

/-- What is collected of a template from an object without the members of some names. -/
def draftWithout (t : Template) (omitted : List String) : TemplateDraft where
  name := some t.name
  description := if "description" ∈ omitted then none else some t.description
  category := some t.category
  grants := some t.grants
  zone := if "timezone" ∈ omitted then none else some t.zone

variable {t : Template} {omitted : List String}

theorem fills_draftWithout (sound : ∀ g ∈ t.grants, g.Sound)
    (implied : ∀ key ∈ omitted, t.Implied key) :
    Fills TemplateDraft.record.fields TemplateDraft.record.blank
      (t.members.filter fun m => m.1 ∉ omitted) (t.draftWithout omitted) := by
  have hname : "name" ∉ omitted := fun h => by simpa [Implied] using implied _ h
  have hcategory : "category" ∉ omitted := fun h => by simpa [Implied] using implied _ h
  have hgrants : "time_ranges" ∉ omitted := fun h => by simpa [Implied] using implied _ h
  -- the drafts in between, each with one more member read or passed over
  let named : TemplateDraft := ⟨some t.name, none, none, none, none⟩
  let described := { named with
    description := if "description" ∈ omitted then none else some t.description }
  let sorted := { described with category := some t.category }
  let filled := { sorted with grants := some t.grants }
  refine .optional named rfl rfl ((reads_text t.name).map _) (fun _ => rfl) (by simp [hname]) ?_
  refine .optional described rfl rfl ((reads_text t.description).map _)
    (by simp +contextual [described]) (by simp +contextual [described, named]) ?_
  refine .optional sorted rfl rfl ((reads_category t.category).map _) (fun _ => rfl)
    (by simp [hcategory]) ?_
  refine .optional filled rfl rfl ((reads_grants sound).map _) (fun _ => rfl) (by simp [hgrants]) ?_
  refine .optional (t.draftWithout omitted) rfl rfl ((reads_text t.zone).map _)
    (by simp +contextual [draftWithout, filled, sorted, described, named])
    (by simp +contextual [draftWithout, filled, sorted, described, named]) ?_
  exact .nil _

/-- What is left out is meant all the same. -/
theorem finish_draftWithout (implied : ∀ key ∈ omitted, t.Implied key) :
    TemplateDraft.record.finish (t.draftWithout omitted) = .ok t := by
  have hdescription : (t.draftWithout omitted).description.getD "" = t.description := by
    by_cases h : "description" ∈ omitted
    · have hempty : t.description = "" := by simpa [Implied] using implied _ h
      simp [draftWithout, h, hempty]
    · simp [draftWithout, h]
  have hzone : (t.draftWithout omitted).zone.getD Zone.standard = t.zone := by
    by_cases h : "timezone" ∈ omitted
    · have hstandard : t.zone = Zone.standard := by simpa [Implied] using implied _ h
      simp [draftWithout, h, hstandard]
    · simp [draftWithout, h]
  show Except.ok (Template.mk t.name ((t.draftWithout omitted).description.getD "") t.category t.grants
    ((t.draftWithout omitted).zone.getD Zone.standard)) = .ok t
  rw [hdescription, hzone]

/-- A template of sound grants is read back without what is implied. -/
theorem reads_toJsonWithout (sound : ∀ g ∈ t.grants, g.Sound)
    (implied : ∀ key ∈ omitted, t.Implied key) :
    Reads Template.reader (t.toJsonWithout omitted) (.ok t) :=
  Json.reads_object _ (fills_draftWithout sound implied) (finish_draftWithout implied)

end Template

namespace Exchange

/-- **A template is read back from its text.** If its grants are sound, a template comes back as it was
from what is written for it in either style, whatever characters its strings hold. So it does if the
description is left out where it is empty, or the zone where it is the standard one, or both. -/
theorem template_read_write (t : Template) (sound : ∀ g ∈ t.grants, g.Sound) (style : Style) :
    Template.reader.readAll (write style t.toJson).toList = .ok t ∧
      ∀ omitted : List String, (∀ key ∈ omitted, t.Implied key) →
        Template.reader.readAll (write style (t.toJsonWithout omitted)).toList = .ok t := by
  have without : ∀ omitted : List String, (∀ key ∈ omitted, t.Implied key) →
      Template.reader.readAll (write style (t.toJsonWithout omitted)).toList = .ok t := by
    intro omitted implied
    have h := (Template.reads_toJsonWithout sound implied).readAll style Json.blank_nil
    rw [List.append_nil] at h
    rw [write, String.toList_ofList]
    exact h
  refine ⟨?_, without⟩
  have hall := without [] (by simp)
  rwa [t.toJsonWithout_nil] at hall

/-- A template with quotes, escapes and foreign letters in its name and no description, in the standard
zone. -/
def nightShift : Template where
  name := "\"N\\u00e4cht\"\n\u0001\u007f nächtlich \u2028 夜"
  description := ""
  category := .duty
  grants := [⟨[.monday, .saturday], ⟨1325, by decide⟩, .dayEnd⟩, ⟨[.tuesday], .midnight, ⟨361, by decide⟩⟩]
  zone := Zone.standard

theorem template_read_write_nightShift :
    (∀ g ∈ nightShift.grants, g.Sound) ∧
    (∀ key ∈ ["description", "timezone"], nightShift.Implied key) ∧
    Template.reader.readAll (write .pretty nightShift.toJson).toList = .ok nightShift ∧
      Template.reader.readAll
        (write .pretty (nightShift.toJsonWithout ["description", "timezone"])).toList = .ok nightShift := by
  have sound : ∀ g ∈ nightShift.grants, g.Sound := by decide
  have implied : ∀ key ∈ ["description", "timezone"], nightShift.Implied key := by
    simp [Template.Implied, nightShift]
  have read := template_read_write nightShift sound .pretty
  exact ⟨sound, implied, read.1, read.2 _ implied⟩

end Exchange

end AccessWindows
