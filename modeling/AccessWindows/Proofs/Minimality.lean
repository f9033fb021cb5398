import AccessWindows.Proofs.NormalForm
import Mathlib.Combinatorics.Enumerative.DoubleCounting

/-!
# No shorter list of grants

A list of grants describes a schedule if at each minute of a window exactly the weekdays of the
grant are granted, and no minute that is granted is left out (`Grant.Describes`). Merging intervals
of which no two overlap gives a list that describes them, and none that does is shorter
(`ofSelections_minimal`).

The reason is that a canonical list needs its windows. Each of them starts within some window of any
list that describes the same, and no window holds two starts (`Canonical.eq_of_holds_start`): both
would be on the weekdays of that window, and so would be the minute at which the earlier one stops,
but in a canonical list nothing goes on there.
-/

set_option autoImplicit false

namespace AccessWindows

namespace Grant

/-- Whether a list of grants says on which weekdays a schedule grants each minute: the weekdays of a
window are just those granted at each of its minutes, and every minute granted lies in a window. -/
structure Describes (ys : List Grant) (schedule : Schedule) : Prop where
  exact : ∀ y ∈ ys, ∀ m, y.Holds m → ∀ d, d ∈ y.weekdays ↔ schedule.Covers d m
  full : ∀ d m, schedule.Covers d m → ∃ y ∈ ys, y.Holds m

/-- Only what a schedule grants matters. -/
theorem Describes.congr {ys : List Grant} {schedule other : Schedule}
    (describes : Describes ys schedule) (same : ∀ d m, schedule.Covers d m ↔ other.Covers d m) : Describes ys other := by
  constructor
  · intro y hy m hm d
    rw [describes.exact y hy m hm d, same d m]
  · intro d m hcovers
    exact describes.full d m ((same d m).2 hcovers)

/-- A canonical list describes itself. -/
theorem Canonical.describes {gs : List Grant} (canonical : Canonical gs) :
    Describes gs (.grants gs) := by
  constructor
  · intro g hg m hm d
    exact (canonical.covers_iff hg hm).symm
  · rintro d m ⟨g, hg, -, hm⟩
    exact ⟨g, hg, hm⟩

section Counting

variable {gs ys : List Grant} (canonical : Canonical gs) (describes : Describes ys (.grants gs))

include canonical describes

/-- Windows that share a minute are on the same weekdays. -/
theorem Canonical.mem_weekdays_iff {g y : Grant} (hg : g ∈ gs) (hy : y ∈ ys) {m : Nat}
    (hgm : g.Holds m) (hym : y.Holds m) (d : Weekday) : d ∈ g.weekdays ↔ d ∈ y.weekdays := by
  rw [describes.exact y hy m hym d, canonical.covers_iff hg hgm]

/-- Windows of a canonical list that share minutes with one other window are on the same days. -/
theorem Canonical.weekdays_eq {g h y : Grant} (hg : g ∈ gs) (hh : h ∈ gs) (hy : y ∈ ys)
    {m m' : Nat} (hgm : g.Holds m) (hym : y.Holds m) (hhm : h.Holds m') (hym' : y.Holds m') :
    h.weekdays = g.weekdays := by
  refine Ascending.eq_of_mem_iff (fun _ _ => Weekday.lt_asymm) (canonical.sound h hh).weekdays_ascend
    (canonical.sound g hg).weekdays_ascend fun d => ?_
  rw [canonical.mem_weekdays_iff describes hh hy hhm hym',
    canonical.mem_weekdays_iff describes hg hy hgm hym]

/-- Where one window holds the starts of two windows of a canonical list, none starts later. -/
theorem Canonical.start_le_of_holds {g h y : Grant} (hg : g ∈ gs) (hh : h ∈ gs) (hy : y ∈ ys)
    (hgy : y.Holds g.start.minutes) (hhy : y.Holds h.start.minutes) :
    h.start.minutes ≤ g.start.minutes := by
  have hgsound := canonical.sound g hg
  have hgproper := hgsound.minutes_lt
  apply Nat.le_of_not_lt
  intro hlt
  have hstop : g.stop.minutes ≤ h.start.minutes := by
    apply Nat.le_of_not_lt
    intro hinside
    have heq := eq_of_holds canonical.sound canonical.apart hg hh ⟨Nat.le_of_lt hlt, hinside⟩
      (canonical.sound h hh).holds_start
    subst heq
    exact Nat.lt_irrefl _ hlt
  -- the window goes on at the minute where `g` stops, so another one of its weekdays starts there
  have hyStop : y.Holds g.stop.minutes := by
    obtain ⟨hfrom, -⟩ := hgy
    obtain ⟨-, hto⟩ := hhy
    exact ⟨by omega, by omega⟩
  obtain ⟨d, hd⟩ := List.exists_mem_of_ne_nil _ hgsound.weekdays_ne_nil
  rw [canonical.mem_weekdays_iff describes hg hy hgsound.holds_start hgy,
    describes.exact y hy _ hyStop] at hd
  obtain ⟨k, hk, -, hkStop⟩ := hd
  have hdays := canonical.weekdays_eq describes hg hk hy hgsound.holds_start hgy hkStop hyStop
  exact canonical.not_holds_stop hg hk hdays hkStop

/-- One window holds the start of at most one window of a canonical list. -/
theorem Canonical.eq_of_holds_start {g h y : Grant} (hg : g ∈ gs) (hh : h ∈ gs) (hy : y ∈ ys)
    (hgy : y.Holds g.start.minutes) (hhy : y.Holds h.start.minutes) : g = h := by
  have hstart : g.start.minutes = h.start.minutes := Nat.le_antisymm
    (canonical.start_le_of_holds describes hh hg hy hhy hgy)
    (canonical.start_le_of_holds describes hg hh hy hgy hhy)
  refine eq_of_holds canonical.sound canonical.apart hg hh (canonical.sound g hg).holds_start ?_
  rw [hstart]
  exact (canonical.sound h hh).holds_start

/-- **No list that describes a canonical one is shorter.** -/
theorem Canonical.length_le : gs.length ≤ ys.length := by
  have hdistinct : gs.Nodup := by
    refine canonical.ordered.imp ?_
    rintro g h hgh rfl
    exact Precedes.asymm g g hgh hgh
  -- each window of the canonical list is counted where it starts
  have hcard : gs.toFinset.card ≤ ys.toFinset.card := by
    apply Finset.card_le_card_of_forall_subsingleton fun g y => y.Holds g.start.minutes
    · intro g hg
      have hmem := List.mem_toFinset.1 hg
      have hsound := canonical.sound g hmem
      obtain ⟨d, hd⟩ := List.exists_mem_of_ne_nil _ hsound.weekdays_ne_nil
      obtain ⟨y, hy, hholds⟩ := describes.full d g.start.minutes ⟨g, hmem, hd, hsound.holds_start⟩
      exact ⟨y, List.mem_toFinset.2 hy, hholds⟩
    · rintro y hy g ⟨hg, hgy⟩ h ⟨hh, hhy⟩
      exact canonical.eq_of_holds_start describes (List.mem_toFinset.1 hg) (List.mem_toFinset.1 hh)
        (List.mem_toFinset.1 hy) hgy hhy
  calc gs.length = gs.toFinset.card := (List.toFinset_card_of_nodup hdistinct).symm
    _ ≤ ys.toFinset.card := hcard
    _ ≤ ys.length := ys.toFinset_card_le

end Counting

/-- Intervals that share no minute lie one behind the other. -/
theorem stop_le_or_of_disjoint {i j : Interval} (disjoint : ∀ m, i.Holds m → ¬ j.Holds m) :
    i.stop ≤ j.start ∨ j.stop ≤ i.start := by
  have hi := i.minutes_lt
  have hj := j.minutes_lt
  rw [ClockTime.le_iff, ClockTime.le_iff]
  -- otherwise the later start would be a shared minute
  apply Decidable.byContradiction
  intro hoverlap
  exact disjoint (max i.start.minutes j.start.minutes) ⟨by omega, by omega⟩ ⟨by omega, by omega⟩

/-- **Merging gives a shortest list.** If no two intervals overlap, whether they are picked on the
same day or not, then the merged grants describe what is picked, and no list of grants that does is
shorter. -/
theorem ofSelections_minimal {sels : List Selection}
    (disjoint : ∀ s ∈ sels, ∀ i ∈ s.intervals, ∀ t ∈ sels, ∀ j ∈ t.intervals, i ≠ j →
      ∀ m, i.Holds m → ¬ j.Holds m) :
    Describes (ofSelections sels) (.selections sels) ∧
      ∀ ys, Describes ys (.selections sels) → (ofSelections sels).length ≤ ys.length := by
  have hcanonical : Canonical (ofSelections sels) := by
    apply canonical_ofSelections
    intro i hi j hj hne
    obtain ⟨s, hs, hi⟩ := mem_windows_iff.1 hi
    obtain ⟨t, ht, hj⟩ := mem_windows_iff.1 hj
    exact stop_le_or_of_disjoint (disjoint s hs i hi t ht j hj hne)
  refine ⟨hcanonical.describes.congr (covers_ofSelections sels), ?_⟩
  intro ys hys
  apply hcanonical.length_le
  apply hys.congr
  intro d m
  exact (covers_ofSelections sels d m).symm

/-- The time so many quarters of an hour after midnight. -/
def quarter (k : Fin 96) : ClockTime := ⟨15 * k, by unfold minutesPerDay; omega⟩

/-- The half hour that begins so many half hours after midnight. -/
def halfHour (k : Fin 47) : Interval :=
  ⟨quarter ⟨2 * k, by omega⟩, quarter ⟨2 * k + 2, by omega⟩, by
    rw [ClockTime.lt_iff]
    unfold quarter
    dsimp only
    omega⟩

/-- Two half hours on Monday, of which Tuesday has the second. -/
def sharedHalfHour : List Selection :=
  [⟨.monday, [halfHour 19, halfHour 18]⟩, ⟨.tuesday, [halfHour 19]⟩]

/-- The same in three grants, the shared half hour in two pieces, its weekdays in another order. -/
def threeGrants : List Grant :=
  [⟨[.tuesday, .monday], quarter 38, quarter 39⟩, ⟨[.monday], quarter 36, quarter 38⟩,
    ⟨[.monday, .tuesday, .monday], quarter 39, quarter 40⟩]

theorem covers_sharedHalfHour (d : Weekday) (m : Nat) :
    (Schedule.selections sharedHalfHour).Covers d m ↔
      d = .monday ∧ 540 ≤ m ∧ m < 600 ∨ d = .tuesday ∧ 570 ≤ m ∧ m < 600 := by
  show (∃ s ∈ sharedHalfHour, s.Covers d m) ↔ _
  cases d <;> simp [sharedHalfHour, Selection.Covers, Interval.Holds, halfHour, quarter]
  -- Monday's intervals meet at half past nine
  omega

/-- Two grants are enough for the shared half hour and the other one, and three are not fewer. -/
theorem ofSelections_minimal_sharedHalfHour :
    (∀ s ∈ sharedHalfHour, ∀ i ∈ s.intervals, ∀ t ∈ sharedHalfHour, ∀ j ∈ t.intervals, i ≠ j →
      ∀ m, i.Holds m → ¬ j.Holds m) ∧
    Describes threeGrants (.selections sharedHalfHour) ∧
    (ofSelections sharedHalfHour).length = 2 ∧
    (ofSelections sharedHalfHour).length ≤ threeGrants.length := by
  have behind : ∀ s ∈ sharedHalfHour, ∀ i ∈ s.intervals, ∀ t ∈ sharedHalfHour, ∀ j ∈ t.intervals,
      i ≠ j → i.stop.minutes ≤ j.start.minutes ∨ j.stop.minutes ≤ i.start.minutes := by decide
  have disjoint : ∀ s ∈ sharedHalfHour, ∀ i ∈ s.intervals, ∀ t ∈ sharedHalfHour,
      ∀ j ∈ t.intervals, i ≠ j → ∀ m, i.Holds m → ¬ j.Holds m := by
    rintro s hs i hi t ht j hj hne m ⟨hfrom, hto⟩ ⟨hfrom', hto'⟩
    have horder := behind s hs i hi t ht j hj hne
    omega
  have describes : Describes threeGrants (.selections sharedHalfHour) := by
    constructor
    · intro y hy m hm d
      rw [covers_sharedHalfHour]
      simp only [threeGrants, List.mem_cons, List.not_mem_nil, or_false] at hy
      -- each window lies on one side of half past nine
      rcases hy with rfl | rfl | rfl <;> cases d <;> simp [Grant.Holds, quarter] at hm ⊢ <;> omega
    · intro d m hcovers
      rw [covers_sharedHalfHour] at hcovers
      simp only [threeGrants, List.mem_cons, List.not_mem_nil, or_false, exists_eq_or_imp,
        exists_eq_left, Grant.Holds, quarter]
      omega
  exact ⟨disjoint, describes, by decide, (ofSelections_minimal disjoint).2 _ describes⟩

end Grant

end AccessWindows
