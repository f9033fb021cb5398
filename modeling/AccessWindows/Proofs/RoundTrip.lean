import AccessWindows.Exchange.Text
import AccessWindows.Proofs.ClockText
import AccessWindows.Proofs.Order
import AccessWindows.Proofs.Reading
import Mathlib.Data.List.Forall2

/-!
# Schedules read back from their texts

A selection is read back as it is (`reads_selection`). A grant is built anew from its parts when it is
read, so what comes back is what `Grant.remake` makes of it, or its fault (`reads_grant`); it comes
back as it is if and only if it is sound (`Grant.remake_eq_ok_self_iff`). So a list of selections is
read back from its text, and a list of grants is rebuilt from left to right and refused for the first
that cannot be built (`Exchange.read_write`).
-/

set_option autoImplicit false

namespace AccessWindows

open Json (Blank Ends Fills Reader ReadError Reads Style Writer)

/-! ## Lists that are built from left to right -/

section FromLeftToRight

variable {ε α β : Type} {f : α → Except ε β}

theorem mapM_cons_of_error {a : α} {e : ε} (ha : f a = .error e) (as : List α) :
    (a :: as).mapM f = .error e := by
  rw [List.mapM_cons, ha]
  rfl

theorem mapM_cons_of_ok {a : α} {b : β} (ha : f a = .ok b) (as : List α) :
    (a :: as).mapM f = (as.mapM f).map (b :: ·) := by
  rw [List.mapM_cons, ha]
  cases as.mapM f <;> rfl

/-- The list is built if every entry can be. -/
theorem mapM_eq_ok_iff {as : List α} {bs : List β} :
    as.mapM f = .ok bs ↔ List.Forall₂ (fun a b => f a = .ok b) as bs := by
  induction as generalizing bs with
  | nil =>
      rw [List.mapM_nil, List.forall₂_nil_left_iff]
      exact ⟨fun h => (Except.ok.inj h).symm, fun h => congrArg Except.ok h.symm⟩
  | cons a as ih =>
      rw [List.forall₂_cons_left_iff]
      cases ha : f a with
      | error e => simp [mapM_cons_of_error ha]
      | ok b =>
          rw [mapM_cons_of_ok ha]
          constructor
          · intro h
            cases hlater : as.mapM f with
            | error e => simp [hlater, Except.map] at h
            | ok cs =>
                rw [hlater] at h
                exact ⟨b, cs, rfl, ih.1 hlater, (Except.ok.inj h).symm⟩
          · rintro ⟨c, cs, hc, hcs, rfl⟩
            rw [ih.2 hcs, Except.ok.inj hc]
            rfl

theorem exists_mapM_eq_ok_iff {as : List α} :
    (∃ bs, as.mapM f = .ok bs) ↔ ∀ a ∈ as, ∃ b, f a = .ok b := by
  simp only [mapM_eq_ok_iff]
  induction as with
  | nil => simp
  | cons a as ih =>
      rw [List.forall_mem_cons, ← ih]
      constructor
      · rintro ⟨bs, hbs⟩
        obtain ⟨b, later, hb, hlater, -⟩ := List.forall₂_cons_left_iff.1 hbs
        exact ⟨⟨b, hb⟩, later, hlater⟩
      · rintro ⟨⟨b, hb⟩, later, hlater⟩
        exact ⟨b :: later, .cons hb hlater⟩

/-- Otherwise the first entry that cannot be built says why. -/
theorem mapM_eq_error_iff {as : List α} {e : ε} :
    as.mapM f = .error e ↔ ∃ before a after, as = before ++ a :: after ∧
      (∀ b ∈ before, ∃ c, f b = .ok c) ∧ f a = .error e := by
  constructor
  · intro h
    induction as with
    | nil => exact nomatch h
    | cons a as ih =>
        cases ha : f a with
        | error e' =>
            rw [mapM_cons_of_error ha] at h
            exact ⟨[], a, as, rfl, by simp, by rw [ha, Except.error.inj h]⟩
        | ok b =>
            have hlater : as.mapM f = .error e := by
              rw [mapM_cons_of_ok ha] at h
              cases hlater : as.mapM f with
              | error e' =>
                  rw [hlater] at h
                  exact congrArg Except.error (Except.error.inj h)
              | ok cs => simp [hlater, Except.map] at h
            -- the first entry can be built, so it comes before the one that cannot
            obtain ⟨before, a', after, rfl, hbefore, ha'⟩ := ih hlater
            exact ⟨a :: before, a', after, rfl, List.forall_mem_cons.2 ⟨⟨b, ha⟩, hbefore⟩, ha'⟩
  · rintro ⟨before, a, after, rfl, hbefore, ha⟩
    induction before with
    | nil => exact mapM_cons_of_error ha after
    | cons b before ih =>
        obtain ⟨⟨c, hc⟩, hbefore⟩ := List.forall_mem_cons.1 hbefore
        rw [List.cons_append, mapM_cons_of_ok hc, ih hbefore]
        rfl

/-- Faults may be renamed after the list is built. -/
theorem mapM_mapError {ε' : Type} (rename : ε → ε') (as : List α) :
    as.mapM (fun a => (f a).mapError rename) = (as.mapM f).mapError rename := by
  induction as with
  | nil => rfl
  | cons a as ih =>
      cases ha : f a with
      | error e =>
          have hrenamed : (f a).mapError rename = .error (rename e) := by rw [ha]; rfl
          rw [mapM_cons_of_error ha, mapM_cons_of_error (f := fun a => (f a).mapError rename) hrenamed]
          rfl
      | ok b =>
          have hrenamed : (f a).mapError rename = .ok b := by rw [ha]; rfl
          rw [mapM_cons_of_ok ha, mapM_cons_of_ok (f := fun a => (f a).mapError rename) hrenamed, ih]
          cases as.mapM f <;> rfl

theorem mapError_eq_ok_iff {ε' : Type} {rename : ε → ε'} {x : Except ε β} {b : β} :
    x.mapError rename = .ok b ↔ x = .ok b := by
  cases x <;> simp [Except.mapError]

theorem mapError_eq_error_iff {ε' : Type} {rename : ε → ε'} {x : Except ε β} {e' : ε'} :
    x.mapError rename = .error e' ↔ ∃ e, x = .error e ∧ e' = rename e := by
  cases x <;> simp [Except.mapError, eq_comm]

end FromLeftToRight

/-! ## Values without parts -/

theorem Weekday.ofNumber_number (d : Weekday) : ofNumber d.number = .ok d := by cases d <;> rfl

theorem reads_weekday (d : Weekday) : Reads Weekday.reader d.toJson (.ok d) := by
  have hnumber : 0 < d.number ∧ d.number < 10 := by cases d <;> decide
  have h := (Json.reads_byte hnumber.1 hnumber.2).accept Weekday.ofNumber
  rwa [d.ofNumber_number] at h

theorem reads_time (t : ClockTime) : Reads ClockTime.reader t.toJson (.ok t) := by
  have h := (Json.reads_string t.text).accept ClockTime.read
  rwa [t.read_text] at h

theorem reads_interval (i : Interval) : Reads Interval.reader i.toJson (.ok i) := by
  have h := (Json.reads_string i.text).accept Interval.read
  rwa [i.read_text] at h

/-- A list of values that are read back is read back. -/
theorem reads_list {α : Type} {item : Reader α} {write : α → Writer}
    (reads : ∀ a, Reads item (write a) (.ok a)) (as : List α) :
    Reads (Reader.array item) (.array (as.map write)) (.ok as) := by
  have h : Reads (Reader.array item) (.array (as.map write)) (as.mapM fun a => .ok a) :=
    Json.reads_array fun a _ => reads a
  rwa [mapM_eq_ok_iff.2 (List.forall₂_same.2 fun _ _ => rfl)] at h

/-! ## Selections and grants -/

/-- The members of a selection fill its fields. -/
theorem fills_selection (s : Selection) :
    Fills SelectionDraft.record.fields SelectionDraft.record.blank
      [("day", s.day.toJson), ("value", .array (s.intervals.map Interval.toJson))]
      ⟨some s.day, some s.intervals⟩ := by
  refine .cons rfl rfl ((reads_weekday s.day).map _) ?_
  refine .cons rfl rfl ((reads_list reads_interval s.intervals).map _) ?_
  exact .nil _

/-- A selection is read back as it is. -/
theorem reads_selection (s : Selection) : Reads Selection.reader s.toJson (.ok s) :=
  Json.reads_object _ (fills_selection s) rfl

/-- The members of a grant fill its fields, whatever may be built from them. -/
theorem fills_grant (g : Grant) :
    Fills GrantDraft.record.fields GrantDraft.record.blank
      [("weekdays", .array (g.weekdays.map Weekday.toJson)), ("start_time", g.start.toJson),
        ("end_time", g.stop.toJson)]
      ⟨some g.weekdays, some g.start, some g.stop⟩ := by
  refine .cons rfl rfl ((reads_list reads_weekday g.weekdays).map _) ?_
  refine .cons rfl rfl ((reads_time g.start).map _) ?_
  refine .cons rfl rfl ((reads_time g.stop).map _) ?_
  exact .nil _

/-- A grant is read back as what is built from its parts. -/
theorem reads_grant (g : Grant) :
    Reads Grant.reader g.toJson (g.remake.mapError fun f => .mismatch (.refused f)) := by
  -- the object is read in any case; only what is built from it may be refused
  have hobject : Reads GrantDraft.record.read g.toJson (.ok g) :=
    Json.reads_object _ (fills_grant g) rfl
  exact hobject.accept Grant.remake

namespace Grant

/-- What can be built is sound. -/
theorem sound_of_make {days : List Weekday} {start stop : ClockTime} {g : Grant}
    (h : make days start stop = .ok g) : g.Sound := by
  unfold make at h
  split at h
  · exact nomatch h
  · next hdays =>
    split at h
    · next hlt =>
      obtain rfl := Except.ok.inj h
      refine ⟨fun hnil => hdays ?_, Weekday.pairwise_ofList days, hlt⟩
      exact List.eq_nil_iff_forall_not_mem.2 fun d hd =>
        List.eq_nil_iff_forall_not_mem.1 hnil d (Ascending.mem_ofList.2 hd)
    · exact nomatch h

/-- A grant is built anew as it is if and only if it is sound. -/
theorem remake_eq_ok_self_iff {g : Grant} : g.remake = .ok g ↔ g.Sound := by
  constructor
  · exact sound_of_make
  · intro hg
    have hdays : Ascending.ofList g.weekdays = g.weekdays :=
      Ascending.eq_of_mem_iff (fun _ _ => Weekday.lt_asymm) (Weekday.pairwise_ofList _)
        hg.weekdays_ascend fun _ => Ascending.mem_ofList
    rw [remake, make, if_neg hg.weekdays_ne_nil, if_pos hg.start_lt_stop, hdays]

end Grant

namespace Exchange

/-! ## Whole texts -/

theorem blank_empty : Blank "".toList := Json.blank_nil

/-- The line break behind a printed text is a blank to the reader. -/
theorem blank_lineBreak : Blank "\n".toList := Json.blank_newline .pretty 0

/-- Selections are read back from their text, with blanks behind it or without. -/
theorem readSelections_write (style : Style) (sels : List Selection) {gap : String}
    (blank : Blank gap.toList) : readSelections (writeSelections style sels ++ gap) = .ok sels := by
  rw [readSelections, writeSelections, write, String.toList_append, String.toList_ofList]
  exact (reads_list reads_selection sels).readAll style blank

/-- Grants are built anew from their text, with blanks behind it or without. -/
theorem readGrants_write (style : Style) (gs : List Grant) {gap : String} (blank : Blank gap.toList) :
    readGrants (writeGrants style gs ++ gap) =
      (gs.mapM Grant.remake).mapError fun f => .mismatch (.refused f) := by
  rw [readGrants, writeGrants, write, String.toList_append, String.toList_ofList, ← mapM_mapError]
  exact (Json.reads_array fun g _ => reads_grant g).readAll style blank

/-- **What is written is read back**, in either style. Selections come back as they are. Grants are
built anew from left to right: all come back rebuilt if every one can be, and as they were if they
were sound; otherwise the text is refused as one that holds no grants, with the fault of the first
that cannot be built. -/
theorem read_write (style : Style) :
    (∀ sels, readSelections (writeSelections style sels) = .ok sels) ∧
    ∀ gs, readGrants (writeGrants style gs) =
        ((gs.mapM Grant.remake).mapError fun f => .mismatch (.refused f)) ∧
      (∀ hs, readGrants (writeGrants style gs) = .ok hs ↔
        List.Forall₂ (fun g h => g.remake = .ok h) gs hs) ∧
      (readGrants (writeGrants style gs) = .ok gs ↔ ∀ g ∈ gs, g.Sound) ∧
      ∀ e, readGrants (writeGrants style gs) = .error e ↔
        ∃ before g after f, gs = before ++ g :: after ∧ (∀ b ∈ before, ∃ b', b.remake = .ok b') ∧
          g.remake = .error f ∧ e = .mismatch (.refused f) ∧
          e.report = "Malformed JSON: " ++ f.message := by
  have hread : ∀ gs, readGrants (writeGrants style gs) =
      (gs.mapM Grant.remake).mapError fun f => .mismatch (.refused f) := by
    intro gs
    simpa using readGrants_write style gs blank_empty
  refine ⟨fun sels => ?_, fun gs => ⟨hread gs, ?_, ?_, ?_⟩⟩
  · simpa using readSelections_write style sels blank_empty
  · intro hs
    rw [hread, mapError_eq_ok_iff, mapM_eq_ok_iff]
  · -- a list is rebuilt as it was if and only if each of its entries is
    rw [hread, mapError_eq_ok_iff, mapM_eq_ok_iff, List.forall₂_same]
    simp only [Grant.remake_eq_ok_self_iff]
  · intro e
    rw [hread, mapError_eq_error_iff]
    constructor
    · rintro ⟨f, hf, rfl⟩
      obtain ⟨before, g, after, happ, hbefore, hg⟩ := mapM_eq_error_iff.1 hf
      exact ⟨before, g, after, f, happ, hbefore, hg, rfl, rfl⟩
    · rintro ⟨before, g, after, f, happ, hbefore, hg, rfl, -⟩
      exact ⟨f, mapM_eq_error_iff.2 ⟨before, g, after, happ, hbefore, hg⟩, rfl⟩

end Exchange

end AccessWindows
