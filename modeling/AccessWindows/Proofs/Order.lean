import AccessWindows.Schedule.Normal

/-!
# Orders

Times and weekdays are ordered by their numbers, intervals by start and then by stop, and grants by
weekday key, start and stop. All of these orders are strict and compare any two values. For grants
this needs that a weekday key belongs to one list of weekdays only (`weekdayKey_injective`); the
shorter order of canonical lists (`Grant.Precedes`) leaves the stop out and need not compare all.

An ascending list is determined by its members (`Ascending.eq_of_mem_iff`).
-/

set_option autoImplicit false

namespace AccessWindows

universe u

/-- Two lists that ascend in the same strict order and have the same members are equal. -/
theorem Ascending.eq_of_mem_iff {α : Type u} {r : α → α → Prop} (asymm : ∀ a b, r a b → ¬ r b a)
    {xs ys : List α} (ascend : xs.Pairwise r) (ascend' : ys.Pairwise r)
    (same : ∀ z, z ∈ xs ↔ z ∈ ys) : xs = ys := by
  have distinct : ∀ {zs : List α}, zs.Pairwise r → zs.Nodup := by
    intro zs h
    refine h.imp fun {a b} hab heq => ?_
    subst heq
    exact asymm a a hab hab
  -- the same members make the lists rearrangements of each other, and the order allows only one
  have perm : xs.Perm ys := (List.perm_ext_iff_of_nodup (distinct ascend) (distinct ascend')).2 same
  refine perm.eq_of_pairwise ?_ ascend ascend'
  intro a b _ _ hab hba
  exact absurd hba (asymm a b hab)

/-! ## Times, weekdays and intervals -/

theorem ClockTime.minutes_lt (t : ClockTime) : t.minutes < 1440 := t.inDay

namespace Weekday

theorem lt_asymm {a b : Weekday} (h : a < b) : ¬ b < a := Nat.lt_asymm h

theorem lt_trans (a b c : Weekday) (hab : a < b) (hbc : b < c) : a < c := Nat.lt_trans hab hbc

theorem number_lt_ten (d : Weekday) : d.number < 10 :=
  Nat.lt_of_lt_of_le (Nat.succ_lt_succ d.row.isLt) (by decide)

theorem number_injective {a b : Weekday} (h : a.number = b.number) : a = b := by
  revert h
  cases a <;> cases b <;> decide

/-- Any two weekdays compare. -/
theorem lt_or_eq_or_gt (a b : Weekday) : a < b ∨ a = b ∨ b < a := by
  rcases Nat.lt_trichotomy a.number b.number with h | h | h
  · exact Or.inl h
  · exact Or.inr (Or.inl (number_injective h))
  · exact Or.inr (Or.inr h)

/-- The week ascends. -/
theorem pairwise_all : all.Pairwise (· < ·) := by decide

/-- Sorted weekdays ascend. -/
theorem pairwise_ofList (days : List Weekday) : (Ascending.ofList days).Pairwise (· < ·) :=
  Ascending.pairwise_ofList lt_trans lt_or_eq_or_gt days

end Weekday

namespace Interval

/-- Intervals are compared by the minutes of their start, then of their stop. -/
theorem lt_iff {a b : Interval} :
    a < b ↔ a.start.minutes < b.start.minutes ∨
      a.start.minutes = b.start.minutes ∧ a.stop.minutes < b.stop.minutes := by
  show (a.start < b.start ∨ a.start = b.start ∧ a.stop < b.stop) ↔ _
  rw [ClockTime.lt_iff, ClockTime.lt_iff, ClockTime.ext_iff]

theorem minutes_lt (i : Interval) : i.start.minutes < i.stop.minutes := i.start_lt_stop

theorem lt_trans (a b c : Interval) (hab : a < b) (hbc : b < c) : a < c := by
  rw [lt_iff] at *
  omega

theorem lt_asymm (a b : Interval) (h : a < b) : ¬ b < a := by
  rw [lt_iff] at *
  omega

/-- Any two intervals compare. -/
theorem lt_or_eq_or_gt (a b : Interval) : a < b ∨ a = b ∨ b < a := by
  rw [lt_iff, lt_iff, Interval.ext_iff, ClockTime.ext_iff, ClockTime.ext_iff]
  omega

/-- Sorted intervals ascend. -/
theorem pairwise_ofList (is : List Interval) : (Ascending.ofList is).Pairwise (· < ·) :=
  Ascending.pairwise_ofList lt_trans lt_or_eq_or_gt is

end Interval

/-! ## Weekday keys -/

/-- The text of a weekday is one digit. -/
theorem Weekday.text_eq (d : Weekday) : d.text = [Nat.digitChar d.number] := by
  cases d <;> rfl

theorem Weekday.digitChar_injective {a b : Weekday}
    (h : Nat.digitChar a.number = Nat.digitChar b.number) : a = b :=
  number_injective ((Digits.digitChar_inj a.number_lt_ten b.number_lt_ten).1 h)

@[simp] theorem weekdayKey_singleton (d : Weekday) :
    weekdayKey [d] = [Nat.digitChar d.number] := by
  simp [weekdayKey, Weekday.text_eq, List.intercalate]

@[simp] theorem weekdayKey_cons_cons (d e : Weekday) (rest : List Weekday) :
    weekdayKey (d :: e :: rest) = Nat.digitChar d.number :: ',' :: weekdayKey (e :: rest) := by
  simp [weekdayKey, Weekday.text_eq, List.intercalate]

/-- Without its commas a weekday key is the row of digits of the weekdays. -/
theorem filter_weekdayKey (days : List Weekday) :
    (weekdayKey days).filter (fun c => c ≠ ',') = days.map fun d => Nat.digitChar d.number := by
  have digit : ∀ d : Weekday, Nat.digitChar d.number ≠ ',' := by
    intro d
    cases d <;> decide
  induction days with
  | nil => rfl
  | cons d rest ih =>
      -- a comma follows a weekday only if another one does
      cases rest with
      | nil => simp [digit]
      | cons e rest =>
          rw [weekdayKey_cons_cons, List.map_cons, ← ih]
          simp [digit]

/-- A weekday key belongs to one list of weekdays. -/
theorem weekdayKey_injective {as bs : List Weekday} (h : weekdayKey as = weekdayKey bs) :
    as = bs := by
  have hdigits := congrArg (List.filter fun c => c ≠ ',') h
  rw [filter_weekdayKey, filter_weekdayKey] at hdigits
  exact (List.map_inj_right fun _ _ => Weekday.digitChar_injective).1 hdigits

/-! ## Grants -/

namespace Grant

theorem eq_of_parts {g h : Grant} (days : g.weekdays = h.weekdays) (start : g.start = h.start)
    (stop : g.stop = h.stop) : g = h := by
  cases g
  cases h
  simp only at days start stop
  rw [days, start, stop]

/-- Grants with the same key hold on the same weekdays. -/
theorem weekdays_eq_of_key_eq {g h : Grant} (same : g.key = h.key) : g.weekdays = h.weekdays :=
  weekdayKey_injective same

theorem key_eq_of_weekdays_eq {g h : Grant} (same : g.weekdays = h.weekdays) : g.key = h.key :=
  congrArg weekdayKey same

/-- Any two keys compare. -/
theorem key_lt_or_eq_or_gt (g h : Grant) : g.key < h.key ∨ g.key = h.key ∨ h.key < g.key := by
  by_cases hgh : g.key < h.key
  · exact Or.inl hgh
  · by_cases hhg : h.key < g.key
    · exact Or.inr (Or.inr hhg)
    · exact Or.inr (Or.inl (List.le_antisymm (List.not_lt.1 hhg) (List.not_lt.1 hgh)))

theorem lt_iff {g h : Grant} :
    g < h ↔ g.key < h.key ∨ g.key = h.key ∧
      (g.start.minutes < h.start.minutes ∨
        g.start.minutes = h.start.minutes ∧ g.stop.minutes < h.stop.minutes) := by
  show (g.key < h.key ∨ g.key = h.key ∧
    (g.start < h.start ∨ g.start = h.start ∧ g.stop < h.stop)) ↔ _
  rw [ClockTime.lt_iff, ClockTime.lt_iff, ClockTime.ext_iff]

theorem lt_trans (g h k : Grant) (hgh : g < h) (hhk : h < k) : g < k := by
  rw [lt_iff] at *
  rcases hgh with hkey | ⟨hkey, hwin⟩
  · rcases hhk with hkey' | ⟨hkey', -⟩
    · exact Or.inl (List.lt_trans hkey hkey')
    · exact Or.inl (hkey' ▸ hkey)
  · rcases hhk with hkey' | ⟨hkey', hwin'⟩
    · exact Or.inl (hkey ▸ hkey')
    · exact Or.inr ⟨hkey.trans hkey', by omega⟩

theorem lt_asymm (g h : Grant) (hgh : g < h) : ¬ h < g := by
  intro hhg
  have hgg := lt_trans g h g hgh hhg
  rw [lt_iff] at hgg
  rcases hgg with hkey | ⟨-, hwin⟩
  · exact List.lt_irrefl g.key hkey
  · omega

/-- Any two grants compare. -/
theorem lt_or_eq_or_gt (g h : Grant) : g < h ∨ g = h ∨ h < g := by
  rcases key_lt_or_eq_or_gt g h with hkey | hkey | hkey
  · exact Or.inl (lt_iff.2 (Or.inl hkey))
  · -- on the same weekdays the windows decide
    have hwin : (g.start.minutes < h.start.minutes ∨
          g.start.minutes = h.start.minutes ∧ g.stop.minutes < h.stop.minutes) ∨
        (g.start.minutes = h.start.minutes ∧ g.stop.minutes = h.stop.minutes) ∨
        (h.start.minutes < g.start.minutes ∨
          h.start.minutes = g.start.minutes ∧ h.stop.minutes < g.stop.minutes) := by omega
    rcases hwin with hlt | ⟨hstart, hstop⟩ | hgt
    · exact Or.inl (lt_iff.2 (Or.inr ⟨hkey, hlt⟩))
    · exact Or.inr (Or.inl (eq_of_parts (weekdays_eq_of_key_eq hkey) (ClockTime.ext hstart)
        (ClockTime.ext hstop)))
    · exact Or.inr (Or.inr (lt_iff.2 (Or.inr ⟨hkey.symm, hgt⟩)))
  · exact Or.inr (Or.inr (lt_iff.2 (Or.inl hkey)))

/-- Sorted grants ascend. -/
theorem pairwise_ofList (gs : List Grant) : (Ascending.ofList gs).Pairwise (· < ·) :=
  Ascending.pairwise_ofList lt_trans lt_or_eq_or_gt gs

theorem Precedes.asymm (g h : Grant) (hgh : g.Precedes h) : ¬ h.Precedes g := by
  rintro (hkey | ⟨hkey, hstart⟩)
  · rcases hgh with hkey' | ⟨hkey', -⟩
    · exact List.lt_irrefl g.key (List.lt_trans hkey' hkey)
    · exact List.lt_irrefl g.key (hkey' ▸ hkey)
  · rcases hgh with hkey' | ⟨-, hstart'⟩
    · exact List.lt_irrefl g.key (hkey ▸ hkey')
    · exact Nat.lt_asymm hstart hstart'

end Grant

end AccessWindows
