import AccessWindows.Proofs.Order
import AccessWindows.Schedule.Conversion

/-!
# Half hours and selections by weekday

A window that is cut into half hours hands out its `k`-th interval `k` half hours after its start,
thirty minutes long or clipped to the end of the window (`getElem?_toList_eq_some_iff`), and as many
as it announces (`length_toList`). Together the intervals hold every minute of the window and no
other (`exists_mem_toList_holds`). A reversed or empty window gives none.

Cutting grants and listing the cells of a grid both give one selection for each weekday that has an
interval, in the order of the week (`Selection.perDay`). Such a schedule picks on a weekday exactly
the intervals given for it (`mem_daysPicking_perDay`), and if these are in order, it is determined by
them (`perDay_eq_of_mem_iff`). For grants these are the half hours of all grants that list the weekday,
in order (`mem_daysPicking_ofGrants`, `pairwise_slotsOn`).
-/

set_option autoImplicit false

namespace AccessWindows

namespace HalfHours

/-! ## One cut -/

/-- What is left of a window after one cut. -/
def rest (h : HalfHours) : HalfHours := ⟨h.cut, h.stop⟩

theorem minutes_cut (h : HalfHours) : h.cut.minutes = min (h.next.minutes + 30) h.stop.minutes :=
  rfl

theorem remaining_eq (h : HalfHours) :
    h.remaining = (h.stop.minutes - h.next.minutes + 29) / 30 := rfl

theorem next?_of_lt {h : HalfHours} (left : h.next < h.stop) :
    h.next? = some (⟨h.next, h.cut, next_lt_cut left⟩, h.rest) := dif_pos left

/-- A cut takes one from the number of intervals to come. -/
theorem remaining_of_lt {h : HalfHours} (left : h.next < h.stop) :
    h.remaining = h.rest.remaining + 1 := by
  rw [ClockTime.lt_iff] at left
  rw [remaining_eq, remaining_eq]
  show _ = (h.stop.minutes - h.cut.minutes + 29) / 30 + 1
  rw [minutes_cut]
  omega

theorem remaining_of_not_lt {h : HalfHours} (used : ¬ h.next < h.stop) : h.remaining = 0 := by
  rw [ClockTime.lt_iff] at used
  rw [remaining_eq]
  omega

theorem toList_of_lt {h : HalfHours} (left : h.next < h.stop) :
    h.toList = ⟨h.next, h.cut, next_lt_cut left⟩ :: h.rest.toList := by
  show take h.remaining h = _
  rw [remaining_of_lt left, take, next?_of_lt left]
  rfl

theorem toList_of_not_lt {h : HalfHours} (used : ¬ h.next < h.stop) : h.toList = [] := by
  show take h.remaining h = []
  rw [remaining_of_not_lt used]
  rfl

/-! ## All cuts -/

/-- A window hands out as many intervals as it announces. -/
theorem length_toList (h : HalfHours) : h.toList.length = h.remaining := by
  -- the induction is on the intervals to come; the window changes with each cut
  induction hn : h.remaining generalizing h with
  | zero =>
      show (take h.remaining h).length = 0
      rw [hn]
      rfl
  | succ n ih =>
      have left : h.next < h.stop := by
        rw [remaining_eq] at hn
        rw [ClockTime.lt_iff]
        omega
      rw [remaining_of_lt left] at hn
      rw [toList_of_lt left, List.length_cons, ih h.rest (by omega)]

/-- The `k`-th interval starts `k` half hours after the window does, if that is before the end of
the window. -/
theorem getElem?_toList_eq_some_iff {h : HalfHours} {k : Nat} {i : Interval} :
    h.toList[k]? = some i ↔ i.start.minutes = h.next.minutes + 30 * k ∧
      i.start.minutes < h.stop.minutes ∧
      i.stop.minutes = min (i.start.minutes + 30) h.stop.minutes := by
  induction k generalizing h with
  | zero =>
      by_cases left : h.next < h.stop
      · rw [toList_of_lt left, List.getElem?_cons_zero, Option.some.injEq, Interval.ext_iff,
          ClockTime.ext_iff, ClockTime.ext_iff]
        show h.next.minutes = i.start.minutes ∧ h.cut.minutes = i.stop.minutes ↔ _
        rw [ClockTime.lt_iff] at left
        rw [minutes_cut]
        omega
      · rw [toList_of_not_lt left, List.getElem?_nil]
        rw [ClockTime.lt_iff] at left
        constructor
        · intro absurd
          cases absurd
        · omega
  | succ k ih =>
      by_cases left : h.next < h.stop
      · -- only the last cut is clipped, and no interval comes after it
        rw [toList_of_lt left, List.getElem?_cons_succ, ih]
        rw [ClockTime.lt_iff] at left
        have hcut : h.rest.next.minutes = min (h.next.minutes + 30) h.stop.minutes := rfl
        have hstop : h.rest.stop.minutes = h.stop.minutes := rfl
        omega
      · rw [toList_of_not_lt left, List.getElem?_nil]
        rw [ClockTime.lt_iff] at left
        constructor
        · intro absurd
          cases absurd
        · omega

/-- An interval is handed out if it starts a number of half hours after the window does and is thirty
minutes long or clipped to the end of the window. -/
theorem mem_toList {h : HalfHours} {i : Interval} :
    i ∈ h.toList ↔ ∃ k, i.start.minutes = h.next.minutes + 30 * k ∧
      i.start.minutes < h.stop.minutes ∧
      i.stop.minutes = min (i.start.minutes + 30) h.stop.minutes := by
  rw [List.mem_iff_getElem?]
  exact exists_congr fun _ => getElem?_toList_eq_some_iff

/-- The intervals hold the minutes of the window and no others. -/
theorem exists_mem_toList_holds {h : HalfHours} {m : Nat} :
    (∃ i ∈ h.toList, i.Holds m) ↔ h.next.minutes ≤ m ∧ m < h.stop.minutes := by
  constructor
  · rintro ⟨i, hi, hfrom, hto⟩
    obtain ⟨k, hstart, -, hstop⟩ := mem_toList.1 hi
    omega
  · rintro ⟨hfrom, hto⟩
    -- the minute lies in the interval after the half hours that have passed since the start
    have hk : (m - h.next.minutes) / 30 < h.toList.length := by
      rw [length_toList, remaining_eq]
      omega
    obtain ⟨hstart, -, hstop⟩ := getElem?_toList_eq_some_iff.1 (List.getElem?_eq_getElem hk)
    refine ⟨_, List.getElem_mem hk, ?_, ?_⟩
    · rw [hstart]
      omega
    · rw [hstop, hstart]
      omega

end HalfHours

/-! ## Selections by weekday -/

namespace Selection

/-- The selections of the intervals given for each weekday, in the order of the week. -/
def perDay (intervalsOn : Weekday → List Interval) : List Selection :=
  Weekday.all.filterMap fun d => onDay? d (intervalsOn d)

theorem ofGrants_eq_perDay (gs : List Grant) : ofGrants gs = perDay (slotsOn gs) := rfl

theorem onDay?_eq_some_iff {d : Weekday} {is : List Interval} {s : Selection} :
    onDay? d is = some s ↔ is ≠ [] ∧ s = ⟨d, is⟩ := by
  cases is with
  | nil => simp [onDay?]
  | cons i is => simp [onDay?, eq_comm]

theorem mem_perDay {intervalsOn : Weekday → List Interval} {s : Selection} :
    s ∈ perDay intervalsOn ↔ s.intervals ≠ [] ∧ s.intervals = intervalsOn s.day := by
  rw [perDay, List.mem_filterMap]
  constructor
  · rintro ⟨d, -, hs⟩
    obtain ⟨hne, rfl⟩ := onDay?_eq_some_iff.1 hs
    exact ⟨hne, rfl⟩
  · rintro ⟨hne, hs⟩
    refine ⟨s.day, Weekday.mem_all s.day, onDay?_eq_some_iff.2 ⟨hs ▸ hne, ?_⟩⟩
    rw [← hs]

/-- The intervals given for a weekday are picked on it, and no others. -/
theorem mem_daysPicking_perDay {intervalsOn : Weekday → List Interval} {i : Interval}
    {d : Weekday} : d ∈ daysPicking (perDay intervalsOn) i ↔ i ∈ intervalsOn d := by
  rw [mem_daysPicking]
  constructor
  · rintro ⟨s, hs, rfl, hi⟩
    rw [← (mem_perDay.1 hs).2]
    exact hi
  · intro hi
    exact ⟨⟨d, intervalsOn d⟩, mem_perDay.2 ⟨List.ne_nil_of_mem hi, rfl⟩, rfl, hi⟩

/-- If the intervals of every weekday ascend, only their members count. -/
theorem perDay_eq_of_mem_iff {intervalsOn intervalsOn' : Weekday → List Interval}
    (ascend : ∀ d, (intervalsOn d).Pairwise (· < ·)) (ascend' : ∀ d, (intervalsOn' d).Pairwise (· < ·))
    (same : ∀ d i, i ∈ intervalsOn d ↔ i ∈ intervalsOn' d) : perDay intervalsOn = perDay intervalsOn' := by
  congr 1
  funext d
  exact Ascending.eq_of_mem_iff Interval.lt_asymm (ascend d) (ascend' d) (same d)

end Selection

/-! ## Half hours of grants -/

/-- Whether a minute lies in the window of a grant, on whatever weekdays. -/
def Grant.Holds (g : Grant) (m : Nat) : Prop := g.start.minutes ≤ m ∧ m < g.stop.minutes

/-- The window of a grant is the interval between its times. -/
theorem Grant.window?_eq_some_iff {g : Grant} {i : Interval} :
    g.window? = some i ↔ i.start = g.start ∧ i.stop = g.stop := by
  unfold window? Interval.ofTimes?
  split
  · simp [Interval.ext_iff, eq_comm]
  · next empty =>
    simp only [reduceCtorEq, false_iff]
    rintro ⟨hstart, hstop⟩
    exact empty (hstart ▸ hstop ▸ i.start_lt_stop)

/-- An interval is a half hour of a grant if it starts a number of half hours after the window does and
is thirty minutes long or clipped to the end of the window. -/
theorem Grant.mem_halfHours {g : Grant} {i : Interval} :
    i ∈ g.halfHours ↔ ∃ k, i.start.minutes = g.start.minutes + 30 * k ∧
      i.start.minutes < g.stop.minutes ∧
      i.stop.minutes = min (i.start.minutes + 30) g.stop.minutes :=
  HalfHours.mem_toList (h := ⟨g.start, g.stop⟩)

/-- The half hours of a grant hold the minutes of its window and no others. -/
theorem Grant.exists_mem_halfHours_holds {g : Grant} {m : Nat} :
    (∃ i ∈ g.halfHours, i.Holds m) ↔ g.Holds m :=
  HalfHours.exists_mem_toList_holds (h := ⟨g.start, g.stop⟩)

namespace Selection

theorem mem_slotsOn {gs : List Grant} {d : Weekday} {i : Interval} :
    i ∈ slotsOn gs d ↔ ∃ g ∈ gs, d ∈ g.weekdays ∧ i ∈ g.halfHours := by
  simp [slotsOn, and_assoc]

/-- Cutting picks the half hours of the grants. Which grant one was cut from is forgotten, but not on
which weekdays it lies. -/
theorem mem_daysPicking_ofGrants {gs : List Grant} {i : Interval} {d : Weekday} :
    d ∈ daysPicking (ofGrants gs) i ↔ ∃ g ∈ gs, d ∈ g.weekdays ∧ i ∈ g.halfHours := by
  rw [ofGrants_eq_perDay, mem_daysPicking_perDay, mem_slotsOn]

theorem pairwise_slotsOn (gs : List Grant) (d : Weekday) : (slotsOn gs d).Pairwise (· < ·) :=
  Interval.pairwise_ofList _

end Selection

end AccessWindows
