import AccessWindows.Proofs.Fusion

/-!
# Normalizing a normal form

Cutting counts half hours from where a window starts, so a normal form is cut again where its grants
start and not where the given ones did. If every half hour that is joined to the next is a full one,
the joined windows are cut where they were joined (`Grant.mem_halfHours_upTo`), the half hours of each
weekday are the same as before (`Grant.ofGrants_normalize`), and the normal form is its own. This is
so unless a window ends with a clipped half hour just where a half hour of the same weekday begins
(`Grant.InStep`); then a second pass may cut elsewhere, and the hours that it finds on several
weekdays may move (`Grant.normalize_brokenHalfHour`).
-/

set_option autoImplicit false

namespace AccessWindows

namespace Grant

/-! ## Cuts that meet -/

/-- Whether a half hour of `h` begins where `g` stops. -/
def StopsAtCut (g h : Grant) : Prop :=
  h.start ≤ g.stop ∧ g.stop < h.stop ∧ (g.stop.minutes - h.start.minutes) % slotMinutes = 0

instance (g h : Grant) : Decidable (g.StopsAtCut h) :=
  inferInstanceAs (Decidable (h.start ≤ g.stop ∧ g.stop < h.stop ∧
    (g.stop.minutes - h.start.minutes) % slotMinutes = 0))

/-- Whether a grant that stops where a half hour of the same weekday begins always lasts a whole number
of half hours. -/
def InStep (gs : List Grant) : Prop :=
  ∀ g ∈ gs, ∀ h ∈ gs, (∃ d ∈ g.weekdays, d ∈ h.weekdays) → g.StopsAtCut h →
    (g.stop.minutes - g.start.minutes) % slotMinutes = 0

instance (gs : List Grant) : Decidable (InStep gs) :=
  inferInstanceAs (Decidable (∀ g ∈ gs, ∀ h ∈ gs, (∃ d ∈ g.weekdays, d ∈ h.weekdays) →
    g.StopsAtCut h → (g.stop.minutes - g.start.minutes) % slotMinutes = 0))

/-- Grants that all start at the same minute of a half hour are in step, such as those that start
on one. -/
theorem inStep_of_phase {gs : List Grant} {phase : Nat}
    (start : ∀ g ∈ gs, g.start.minutes % slotMinutes = phase) : InStep gs := by
  intro g hg h hh _ hcut
  obtain ⟨hle, -, hcut⟩ := hcut
  have hphase := start g hg
  have hphase' := start h hh
  rw [ClockTime.le_iff] at hle
  unfold slotMinutes at *
  omega

/-- Whether a grant lasts one full half hour. -/
def Full (g : Grant) : Prop := g.stop.minutes = g.start.minutes + 30

/-- If grants are in step, a half hour that goes on in another one of its weekday is a full one. -/
theorem InStep.full {gs : List Grant} (inStep : InStep gs) {d : Weekday} {i j : Interval}
    (hi : i ∈ Selection.slotsOn gs d) (hj : j ∈ Selection.slotsOn gs d) (touch : i.stop = j.start) :
    i.stop.minutes = i.start.minutes + 30 := by
  obtain ⟨g, hg, hdg, hig⟩ := Selection.mem_slotsOn.1 hi
  obtain ⟨h, hh, hdh, hjh⟩ := Selection.mem_slotsOn.1 hj
  obtain ⟨k, hstart, hlt, hstop⟩ := mem_halfHours.1 hig
  obtain ⟨l, hstart', hlt', -⟩ := mem_halfHours.1 hjh
  rw [ClockTime.ext_iff] at touch
  -- a clipped half hour is the last of its window, which then stops at a cut of the other one
  apply Decidable.byContradiction
  intro clipped
  have hcut : g.StopsAtCut h := by
    refine ⟨ClockTime.le_iff.2 (by omega), ClockTime.lt_iff.2 (by omega), ?_⟩
    show (g.stop.minutes - h.start.minutes) % 30 = 0
    omega
  have hwhole : (g.stop.minutes - g.start.minutes) % 30 = 0 := inStep g hg h hh ⟨d, hdg, hdh⟩ hcut
  omega

/-! ## Cutting what was joined -/

/-- A window that a full half hour and a window after it make is cut where they were joined. -/
theorem mem_halfHours_upTo {g h : Grant} (full : g.Full) (hcont : g.Continues h)
    (proper : h.start < h.stop) {i : Interval} :
    i ∈ (g.upTo h).halfHours ↔ i ∈ g.halfHours ∨ i ∈ h.halfHours := by
  have htouch := ClockTime.ext_iff.1 hcont.2
  rw [ClockTime.lt_iff] at proper
  unfold Full at full
  have hup : i ∈ (g.upTo h).halfHours ↔ ∃ k, i.start.minutes = g.start.minutes + 30 * k ∧
      i.start.minutes < h.stop.minutes ∧
      i.stop.minutes = min (i.start.minutes + 30) h.stop.minutes := mem_halfHours
  rw [hup, mem_halfHours, mem_halfHours]
  constructor
  · rintro ⟨k, hstart, hlt, hstop⟩
    -- the first cut gives the half hour, and the later ones count on from the other window's start
    cases k with
    | zero => exact Or.inl ⟨0, by omega, by omega, by omega⟩
    | succ k => exact Or.inr ⟨k, by omega, by omega, by omega⟩
  · rintro (⟨k, hstart, hlt, hstop⟩ | ⟨k, hstart, hlt, hstop⟩)
    · exact ⟨k, by omega, by omega, by omega⟩
    · exact ⟨k + 1, by omega, by omega, by omega⟩

/-- Fusing keeps the half hours on any kind of weekdays, if only full half hours are continued. -/
theorem mem_halfHours_fuse (P : List Weekday → Prop) {gs : List Grant} (sound : ∀ g ∈ gs, g.Sound)
    (full : ∀ g ∈ gs, ∀ h ∈ gs, g.Continues h → g.Full) {i : Interval} :
    (∃ f ∈ fuse gs, P f.weekdays ∧ i ∈ f.halfHours) ↔ ∃ g ∈ gs, P g.weekdays ∧ i ∈ g.halfHours := by
  induction gs with
  | nil => exact Iff.rfl
  | cons g gs ih =>
      obtain ⟨-, hgs⟩ := List.forall_mem_cons.1 sound
      have later := ih hgs fun a ha b hb =>
        full a (List.mem_cons_of_mem g ha) b (List.mem_cons_of_mem g hb)
      rw [fuse_cons]
      simp only [List.mem_cons, exists_eq_or_imp]
      rw [← later]
      cases hfused : fuse gs with
      | nil => simp [join_nil]
      | cons h rest =>
          have hh : h ∈ fuse gs := hfused ▸ List.mem_cons_self
          by_cases hcont : g.Continues h
          · -- the fused grant starts where a given one does, so the half hour before it is full
            obtain ⟨k, hk, hdays, hstart⟩ := start_of_mem_fuse hh
            have hfull : g.Full := full g List.mem_cons_self k (List.mem_cons_of_mem g hk)
              ⟨hcont.1.trans hdays.symm, hcont.2.trans hstart.symm⟩
            have proper := (sound_of_mem_fuse hgs h hh).start_lt_stop
            rw [join_cons_of_continues hcont]
            simp only [List.mem_cons, exists_eq_or_imp, ← or_assoc]
            have hup : (g.upTo h).weekdays = g.weekdays := rfl
            rw [mem_halfHours_upTo hfull hcont proper, hup, ← hcont.1, and_or_left]
          · rw [join_cons_of_not_continues hcont]
            simp only [List.mem_cons, exists_eq_or_imp]

/-! ## The half hours of a normal form -/

/-- An interval of at most thirty minutes is its only half hour. -/
theorem mem_halfHours_of_le {g : Grant} (proper : g.start < g.stop)
    (short : g.stop.minutes ≤ g.start.minutes + 30) {i : Interval} :
    i ∈ g.halfHours ↔ i.start = g.start ∧ i.stop = g.stop := by
  rw [ClockTime.lt_iff] at proper
  rw [mem_halfHours, ClockTime.ext_iff, ClockTime.ext_iff]
  constructor
  · rintro ⟨k, hstart, hlt, hstop⟩
    omega
  · rintro ⟨hstart, hstop⟩
    exact ⟨0, by omega, by omega, by omega⟩

/-- The half hours that grants give on a weekday are those of the intervals picked after cutting. -/
theorem mem_halfHours_picked {gs : List Grant} {d : Weekday} {i : Interval} :
    (∃ p ∈ picked (Selection.ofGrants gs), d ∈ p.weekdays ∧ i ∈ p.halfHours) ↔
      i ∈ Selection.slotsOn gs d := by
  have short : ∀ {e : Weekday} {j : Interval}, j ∈ Selection.slotsOn gs e →
      j.stop.minutes ≤ j.start.minutes + 30 := by
    intro e j hj
    obtain ⟨g, -, -, hjg⟩ := Selection.mem_slotsOn.1 hj
    obtain ⟨k, -, -, hstop⟩ := mem_halfHours.1 hjg
    omega
  constructor
  · rintro ⟨p, hp, hd, hip⟩
    obtain ⟨j, -, rfl⟩ := mem_picked.1 hp
    have hj : j ∈ Selection.slotsOn gs d := Selection.mem_daysPicking_perDay.1 hd
    obtain ⟨hstart, hstop⟩ := (mem_halfHours_of_le j.start_lt_stop (short hj)).1 hip
    rw [Interval.ext hstart hstop]
    exact hj
  · intro hi
    have hd : d ∈ daysPicking (Selection.ofGrants gs) i := Selection.mem_daysPicking_perDay.2 hi
    exact ⟨_, mem_picked.2 ⟨i, mem_windows.2 ⟨d, hd⟩, rfl⟩, hd,
      (mem_halfHours_of_le i.start_lt_stop (short hi)).2 ⟨rfl, rfl⟩⟩

/-- Normalizing grants that are in step keeps the half hours of every weekday. -/
theorem ofGrants_normalize {gs : List Grant} (inStep : InStep gs) :
    Selection.ofGrants (normalize gs) = Selection.ofGrants gs := by
  have full : ∀ g ∈ picked (Selection.ofGrants gs), ∀ h ∈ picked (Selection.ofGrants gs),
      g.Continues h → g.Full := by
    rintro g hg h hh ⟨hdays, htouch⟩
    obtain ⟨i, hi, rfl⟩ := mem_picked.1 hg
    obtain ⟨j, -, rfl⟩ := mem_picked.1 hh
    have hsame : daysPicking (Selection.ofGrants gs) i = daysPicking (Selection.ofGrants gs) j := hdays
    -- the two are picked on the same weekdays, and there is one
    obtain ⟨d, hd⟩ := mem_windows.1 hi
    exact inStep.full (Selection.mem_daysPicking_perDay.1 hd)
      (Selection.mem_daysPicking_perDay.1 (hsame ▸ hd)) htouch
  rw [Selection.ofGrants_eq_perDay, Selection.ofGrants_eq_perDay]
  refine Selection.perDay_eq_of_mem_iff (Selection.pairwise_slotsOn _)
    (Selection.pairwise_slotsOn gs) fun d i => ?_
  rw [Selection.mem_slotsOn, ← mem_halfHours_picked]
  exact mem_halfHours_fuse (fun days => d ∈ days) (fun _ hp => sound_of_mem_picked hp) full

/-- **The normal form of grants that are in step is its own normal form.** -/
theorem normalize_normalize {gs : List Grant} (inStep : InStep gs) :
    normalize (normalize gs) = normalize gs :=
  congrArg ofSelections (ofGrants_normalize inStep)

/-- Windows off the half hour and of two phases, one of them clipped, and two that are joined. -/
def oddMinutes : List Grant :=
  [⟨[.monday, .tuesday], ⟨550, by decide⟩, ⟨610, by decide⟩⟩,
    ⟨[.monday], ⟨565, by decide⟩, ⟨590, by decide⟩⟩, ⟨[.tuesday], ⟨520, by decide⟩, ⟨550, by decide⟩⟩,
    ⟨[.monday, .tuesday], ⟨610, by decide⟩, ⟨625, by decide⟩⟩]

theorem normalize_normalize_oddMinutes :
    InStep oddMinutes ∧ normalize oddMinutes ≠ oddMinutes ∧
      normalize (normalize oddMinutes) = normalize oddMinutes :=
  ⟨by decide, by decide, normalize_normalize (by decide)⟩

/-- On Monday one minute goes on in a half hour; on Tuesday the same time is one window. -/
def brokenHalfHour : List Grant :=
  [⟨[.monday], .midnight, ⟨1, by decide⟩⟩, ⟨[.monday], ⟨1, by decide⟩, ⟨31, by decide⟩⟩,
    ⟨[.tuesday], .midnight, ⟨31, by decide⟩⟩]

/-- A normal form need not be its own. The first pass joins the pieces on Monday, and only the second
one, which cuts the joined window where it cuts the one on Tuesday, finds that both days agree. -/
theorem normalize_brokenHalfHour :
    (∀ g ∈ brokenHalfHour, g.remake = .ok g) ∧
      normalize brokenHalfHour = [⟨[.monday], .midnight, ⟨31, by decide⟩⟩,
        ⟨[.tuesday], .midnight, ⟨31, by decide⟩⟩] ∧
      normalize (normalize brokenHalfHour) =
        [⟨[.monday, .tuesday], .midnight, ⟨31, by decide⟩⟩] ∧
      normalize (normalize brokenHalfHour) ≠ normalize brokenHalfHour := by
  refine ⟨?_, by decide, by decide, by decide⟩
  intro g hg
  simp only [brokenHalfHour, List.mem_cons, List.not_mem_nil, or_false] at hg
  rcases hg with rfl | rfl | rfl <;> rfl

end Grant

end AccessWindows
