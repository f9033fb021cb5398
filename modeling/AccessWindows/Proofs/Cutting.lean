import AccessWindows.Proofs.HalfHours

/-!
# What grants are cut into

Cutting lists a weekday once for all grants that hold on it, in the order of the week
(`Selection.pairwise_perDay`), and leaves it out if none of them has a half hour
(`Selection.exists_mem_perDay_iff`). A grant has one exactly if its window is not empty
(`Grant.exists_mem_halfHours_iff`), so reversed and empty windows leave no trace, not even a weekday without
intervals. The half hours of a weekday are those of its grants and no others: each is counted from the start
of some window and clipped by the end of that window, and every window has all of its own there, however
much windows overlap and whatever their phases. `ofGrants_wellFormed` puts this together.
-/

set_option autoImplicit false

namespace AccessWindows

/-! ## Windows that have half hours -/

namespace Grant

/-- A window has a half hour for each number of half hours after its start that is before its end. -/
theorem exists_mem_halfHours {g : Grant} {k : Nat}
    (left : g.start.minutes + 30 * k < g.stop.minutes) :
    ∃ i ∈ g.halfHours, i.start.minutes = g.start.minutes + 30 * k ∧
      i.stop.minutes = min (g.start.minutes + 30 * k + 30) g.stop.minutes := by
  have hk : k < g.halfHours.length := by
    rw [halfHours, HalfHours.length_toList, HalfHours.remaining_eq]
    show k < (g.stop.minutes - g.start.minutes + 29) / 30
    omega
  obtain ⟨hstart, -, hstop⟩ :=
    HalfHours.getElem?_toList_eq_some_iff.1 (List.getElem?_eq_getElem hk)
  rw [hstart] at hstop
  exact ⟨_, List.getElem_mem hk, hstart, hstop⟩

/-- A grant has half hours exactly if its window is not empty. -/
theorem exists_mem_halfHours_iff {g : Grant} : (∃ i, i ∈ g.halfHours) ↔ g.start < g.stop := by
  rw [ClockTime.lt_iff]
  constructor
  · rintro ⟨i, hi⟩
    obtain ⟨k, hstart, hlt, -⟩ := mem_halfHours.1 hi
    omega
  · intro proper
    obtain ⟨i, hi, -⟩ := exists_mem_halfHours (k := 0) proper
    exact ⟨i, hi⟩

end Grant

namespace Selection

/-! ## Weekdays that are listed -/

/-- Weekdays are listed in the order of the week, and so each of them once. -/
theorem pairwise_perDay (intervalsOn : Weekday → List Interval) :
    (perDay intervalsOn).Pairwise fun s t => s.day < t.day := by
  apply Weekday.pairwise_all.filterMap fun d => onDay? d (intervalsOn d)
  intro d e hlt s hs t ht
  obtain ⟨-, rfl⟩ := onDay?_eq_some_iff.1 hs
  obtain ⟨-, rfl⟩ := onDay?_eq_some_iff.1 ht
  exact hlt

/-- A weekday is listed exactly if there is an interval for it. -/
theorem exists_mem_perDay_iff {intervalsOn : Weekday → List Interval} {d : Weekday} :
    (∃ s ∈ perDay intervalsOn, s.day = d) ↔ ∃ i, i ∈ intervalsOn d := by
  constructor
  · rintro ⟨s, hs, rfl⟩
    obtain ⟨hne, hintervals⟩ := mem_perDay.1 hs
    rw [hintervals] at hne
    exact List.exists_mem_of_ne_nil _ hne
  · rintro ⟨i, hi⟩
    exact ⟨⟨d, intervalsOn d⟩, mem_perDay.2 ⟨List.ne_nil_of_mem hi, rfl⟩, rfl⟩

/-- A weekday has half hours exactly if a grant with a window holds on it. -/
theorem exists_mem_slotsOn_iff {gs : List Grant} {d : Weekday} :
    (∃ i, i ∈ slotsOn gs d) ↔ ∃ g ∈ gs, g.start < g.stop ∧ d ∈ g.weekdays := by
  constructor
  · rintro ⟨i, hi⟩
    obtain ⟨g, hg, hd, hi⟩ := mem_slotsOn.1 hi
    exact ⟨g, hg, Grant.exists_mem_halfHours_iff.1 ⟨i, hi⟩, hd⟩
  · rintro ⟨g, hg, proper, hd⟩
    obtain ⟨i, hi⟩ := Grant.exists_mem_halfHours_iff.2 proper
    exact ⟨i, mem_slotsOn.2 ⟨g, hg, hd, hi⟩⟩

/-! ## The lists -/

/-- **What grants are cut into.** For any grants, the weekdays come in order and each at most once, and a
weekday is listed exactly if a grant whose window is not empty holds on it. What is listed for a weekday
is not empty and ascends by start and then by stop. Each interval lasts from one to thirty minutes; it
starts a number of half hours after the window of some grant that holds on the weekday, and stops half an
hour later or with that window, whichever is first. Every such half hour of every grant is listed. -/
theorem ofGrants_wellFormed (gs : List Grant) :
    (ofGrants gs).Pairwise (fun s t => s.day < t.day) ∧
    (∀ d, (∃ s ∈ ofGrants gs, s.day = d) ↔ ∃ g ∈ gs, g.start < g.stop ∧ d ∈ g.weekdays) ∧
    (∀ s ∈ ofGrants gs, s.intervals ≠ [] ∧
      s.intervals.Pairwise fun i j => i.start < j.start ∨ i.start = j.start ∧ i.stop < j.stop) ∧
    (∀ s ∈ ofGrants gs, ∀ i ∈ s.intervals, 1 ≤ i.minutes ∧ i.minutes ≤ 30 ∧
      ∃ g ∈ gs, s.day ∈ g.weekdays ∧ ∃ k, i.start.minutes = g.start.minutes + 30 * k ∧
        i.stop.minutes = min (i.start.minutes + 30) g.stop.minutes) ∧
    ∀ g ∈ gs, ∀ d ∈ g.weekdays, ∀ k, g.start.minutes + 30 * k < g.stop.minutes →
      ∃ s ∈ ofGrants gs, s.day = d ∧ ∃ i ∈ s.intervals,
        i.start.minutes = g.start.minutes + 30 * k ∧
        i.stop.minutes = min (g.start.minutes + 30 * k + 30) g.stop.minutes := by
  refine ⟨pairwise_perDay _, ?_, ?_, ?_, ?_⟩
  · intro d
    rw [← exists_mem_slotsOn_iff]
    exact exists_mem_perDay_iff
  · intro s hs
    obtain ⟨hne, hintervals⟩ := mem_perDay.1 hs
    refine ⟨hne, ?_⟩
    rw [hintervals]
    exact pairwise_slotsOn gs s.day
  · intro s hs i hi
    rw [(mem_perDay.1 hs).2] at hi
    obtain ⟨g, hg, hd, hi⟩ := mem_slotsOn.1 hi
    obtain ⟨k, hstart, -, hstop⟩ := Grant.mem_halfHours.1 hi
    have hproper := i.minutes_lt
    unfold Interval.minutes
    exact ⟨by omega, by omega, g, hg, hd, k, hstart, hstop⟩
  · intro g hg d hd k left
    obtain ⟨i, hi, hstart, hstop⟩ := Grant.exists_mem_halfHours left
    have hpicked := mem_daysPicking_ofGrants.2 ⟨g, hg, hd, hi⟩
    obtain ⟨s, hs, hday, hi⟩ := mem_daysPicking.1 hpicked
    exact ⟨s, hs, hday, i, hi, hstart, hstop⟩

end Selection

end AccessWindows
