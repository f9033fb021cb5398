import AccessWindows.Proofs.HalfHours

/-!
# Picked intervals, their fusion, and what conversions grant

Every picked interval becomes one sound grant on the weekdays that pick it (`mem_picked`,
`sound_of_mem_picked`), and the list of these grants ascends. Fusing works from the back of the list
one grant at a time, so each of its properties is shown for `join` first and then for `fuse` by
induction on the list: a property that joining keeps holds of every fused grant if it holds of every
given one (`forall_mem_fuse`), a fused grant starts where a given grant on the same weekdays does
(`start_of_mem_fuse`), and the minutes held on a kind of weekdays stay the same (`holds_fuse`).

What a list of selections grants depends only on which intervals it picks on which days
(`Schedule.covers_selections`). Cutting grants into half hours, making grants of selections and
normalizing grant the same minutes of the week as before (`conversions_keep_coverage`), whatever the
input: intervals may overlap out of phase, weekdays may repeat, and windows may be empty or reversed.
-/

set_option autoImplicit false

namespace AccessWindows

namespace Grant

/-! ## Picked intervals -/

theorem mem_windows {sels : List Selection} {i : Interval} :
    i ∈ windows sels ↔ ∃ d, d ∈ daysPicking sels i := by
  simp only [windows, Ascending.mem_ofList, List.mem_flatMap, mem_daysPicking]
  constructor
  · rintro ⟨s, hs, hi⟩
    exact ⟨s.day, s, hs, rfl, hi⟩
  · rintro ⟨d, s, hs, -, hi⟩
    exact ⟨s, hs, hi⟩

theorem mem_windows_iff {sels : List Selection} {i : Interval} :
    i ∈ windows sels ↔ ∃ s ∈ sels, i ∈ s.intervals := by
  simp [windows]

theorem mem_picked {sels : List Selection} {g : Grant} :
    g ∈ picked sels ↔ ∃ i ∈ windows sels, g = ⟨daysPicking sels i, i.start, i.stop⟩ := by
  simp [picked, eq_comm]

theorem pairwise_picked (sels : List Selection) : (picked sels).Pairwise (· < ·) :=
  pairwise_ofList _

theorem pairwise_daysPicking (sels : List Selection) (i : Interval) :
    (daysPicking sels i).Pairwise (· < ·) :=
  Weekday.pairwise_all.sublist List.filter_sublist

theorem sound_of_mem_picked {sels : List Selection} {g : Grant} (hg : g ∈ picked sels) :
    g.Sound := by
  obtain ⟨i, hi, rfl⟩ := mem_picked.1 hg
  obtain ⟨d, hd⟩ := mem_windows.1 hi
  exact ⟨List.ne_nil_of_mem hd, pairwise_daysPicking sels i, i.start_lt_stop⟩

/-! ## Joining one grant -/

/-- A grant lengthened to the end of another. -/
def upTo (g h : Grant) : Grant := { g with stop := h.stop }

theorem join_nil (g : Grant) : join g [] = [g] := rfl

theorem join_cons_of_continues {g h : Grant} (hcont : g.Continues h) (rest : List Grant) :
    join g (h :: rest) = g.upTo h :: rest := if_pos hcont

theorem join_cons_of_not_continues {g h : Grant} (hcont : ¬ g.Continues h) (rest : List Grant) :
    join g (h :: rest) = g :: h :: rest := if_neg hcont

theorem forall_mem_join {P : Grant → Prop}
    (closed : ∀ g h, P g → P h → g.Continues h → P (g.upTo h)) {g : Grant} {hs : List Grant}
    (hg : P g) (hhs : ∀ h ∈ hs, P h) : ∀ f ∈ join g hs, P f := by
  cases hs with
  | nil =>
      intro f hf
      rw [join_nil, List.mem_singleton] at hf
      exact hf ▸ hg
  | cons h rest =>
      obtain ⟨hh, hrest⟩ := List.forall_mem_cons.1 hhs
      by_cases hcont : g.Continues h
      · rw [join_cons_of_continues hcont]
        exact List.forall_mem_cons.2 ⟨closed g h hg hh hcont, hrest⟩
      · rw [join_cons_of_not_continues hcont]
        exact List.forall_mem_cons.2 ⟨hg, hhs⟩

/-- Joining a grant adds its minutes. -/
theorem holds_join (P : List Weekday → Prop) (m : Nat) {g : Grant} {hs : List Grant}
    (proper : g.start < g.stop) (properAll : ∀ h ∈ hs, h.start < h.stop) :
    (∃ f ∈ join g hs, P f.weekdays ∧ f.Holds m) ↔
      (P g.weekdays ∧ g.Holds m) ∨ ∃ h ∈ hs, P h.weekdays ∧ h.Holds m := by
  cases hs with
  | nil => simp [join_nil]
  | cons h rest =>
      by_cases hcont : g.Continues h
      · rw [join_cons_of_continues hcont]
        simp only [List.mem_cons, exists_eq_or_imp, ← or_assoc]
        -- the windows touch, so the lengthened one holds the minutes of both and no others
        obtain ⟨hdays, htouch⟩ := hcont
        have hproper := properAll h List.mem_cons_self
        have hmin : (g.upTo h).Holds m ↔ g.Holds m ∨ h.Holds m := by
          show (g.start.minutes ≤ m ∧ m < h.stop.minutes) ↔
            (g.start.minutes ≤ m ∧ m < g.stop.minutes) ∨ h.start.minutes ≤ m ∧ m < h.stop.minutes
          rw [ClockTime.lt_iff] at proper hproper
          rw [ClockTime.ext_iff] at htouch
          omega
        have hup : (g.upTo h).weekdays = g.weekdays := rfl
        rw [hup, hmin, ← hdays, and_or_left]
      · rw [join_cons_of_not_continues hcont]
        simp only [List.mem_cons, exists_eq_or_imp]

/-! ## Fusing a list -/

theorem fuse_cons (g : Grant) (gs : List Grant) : fuse (g :: gs) = join g (fuse gs) := rfl

/-- What joining keeps holds of every fused grant if it holds of every given one. -/
theorem forall_mem_fuse {P : Grant → Prop}
    (closed : ∀ g h, P g → P h → g.Continues h → P (g.upTo h)) {gs : List Grant}
    (all : ∀ g ∈ gs, P g) : ∀ f ∈ fuse gs, P f := by
  induction gs with
  | nil =>
      intro f hf
      exact absurd hf List.not_mem_nil
  | cons g gs ih =>
      obtain ⟨hg, hgs⟩ := List.forall_mem_cons.1 all
      rw [fuse_cons]
      exact forall_mem_join closed hg (ih hgs)

/-- A fused grant starts where a given one on the same weekdays does. -/
theorem start_of_mem_fuse {gs : List Grant} {f : Grant} (hf : f ∈ fuse gs) :
    ∃ g ∈ gs, g.weekdays = f.weekdays ∧ g.start = f.start := by
  refine forall_mem_fuse (P := fun f => ∃ g ∈ gs, g.weekdays = f.weekdays ∧ g.start = f.start)
    ?_ (fun g hg => ⟨g, hg, rfl, rfl⟩) f hf
  rintro g h hg - -
  exact hg

/-- Joined sound grants are sound. -/
theorem Sound.upTo {g h : Grant} (hg : g.Sound) (hh : h.Sound) (hcont : g.Continues h) :
    (g.upTo h).Sound := by
  refine ⟨hg.weekdays_ne_nil, hg.weekdays_ascend, ?_⟩
  show g.start < h.stop
  have hleft := hg.start_lt_stop
  have hright := hh.start_lt_stop
  rw [hcont.2] at hleft
  exact Nat.lt_trans hleft hright

theorem sound_of_mem_fuse {gs : List Grant} (sound : ∀ g ∈ gs, g.Sound) :
    ∀ f ∈ fuse gs, f.Sound :=
  forall_mem_fuse (fun _ _ hg hh hcont => hg.upTo hh hcont) sound

/-- Fusing keeps the minutes held on any kind of weekdays. -/
theorem holds_fuse (P : List Weekday → Prop) (m : Nat) {gs : List Grant}
    (sound : ∀ g ∈ gs, g.Sound) :
    (∃ f ∈ fuse gs, P f.weekdays ∧ f.Holds m) ↔ ∃ g ∈ gs, P g.weekdays ∧ g.Holds m := by
  induction gs with
  | nil => exact Iff.rfl
  | cons g gs ih =>
      obtain ⟨hg, hgs⟩ := List.forall_mem_cons.1 sound
      -- joining asks for proper windows behind the grant, and fused ones are sound again
      rw [fuse_cons, holds_join P m hg.start_lt_stop
        fun f hf => (sound_of_mem_fuse hgs f hf).start_lt_stop, ih hgs]
      simp only [List.mem_cons, exists_eq_or_imp]

/-! ## Grants from selections -/

theorem sound_of_mem_ofSelections {sels : List Selection} {g : Grant}
    (hg : g ∈ ofSelections sels) : g.Sound :=
  sound_of_mem_fuse (fun _ hp => sound_of_mem_picked hp) g hg

end Grant

/-! ## What conversions grant -/

/-- What selections grant depends on which intervals they pick on which days. -/
theorem Schedule.covers_selections {sels : List Selection} {d : Weekday} {m : Nat} :
    (Schedule.selections sels).Covers d m ↔ ∃ i, d ∈ daysPicking sels i ∧ i.Holds m := by
  constructor
  · rintro ⟨s, hs, hday, i, hi, hm⟩
    exact ⟨i, mem_daysPicking.2 ⟨s, hs, hday, hi⟩, hm⟩
  · rintro ⟨i, hi, hm⟩
    obtain ⟨s, hs, hday, hi⟩ := mem_daysPicking.1 hi
    exact ⟨s, hs, hday, i, hi, hm⟩

/-- Cutting grants into half hours changes nothing about what they grant. -/
theorem covers_ofGrants (gs : List Grant) (d : Weekday) (m : Nat) :
    (Schedule.selections (Selection.ofGrants gs)).Covers d m ↔ (Schedule.grants gs).Covers d m := by
  rw [Schedule.covers_selections]
  constructor
  · rintro ⟨i, hi, hm⟩
    obtain ⟨g, hg, hd, hi⟩ := Selection.mem_daysPicking_ofGrants.1 hi
    exact ⟨g, hg, hd, Grant.exists_mem_halfHours_holds.1 ⟨i, hi, hm⟩⟩
  · rintro ⟨g, hg, hd, hm⟩
    obtain ⟨i, hi, hm⟩ := Grant.exists_mem_halfHours_holds.2 hm
    exact ⟨i, Selection.mem_daysPicking_ofGrants.2 ⟨g, hg, hd, hi⟩, hm⟩

/-- Picked intervals as grants give what the selections give. -/
theorem Grant.covers_picked (sels : List Selection) (d : Weekday) (m : Nat) :
    (Schedule.grants (Grant.picked sels)).Covers d m ↔ (Schedule.selections sels).Covers d m := by
  rw [Schedule.covers_selections]
  constructor
  · rintro ⟨g, hg, hd, hm⟩
    obtain ⟨i, -, rfl⟩ := Grant.mem_picked.1 hg
    exact ⟨i, hd, hm⟩
  · rintro ⟨i, hd, hm⟩
    exact ⟨_, Grant.mem_picked.2 ⟨i, Grant.mem_windows.2 ⟨d, hd⟩, rfl⟩, hd, hm⟩

/-- Making grants of selections changes nothing about what they grant. -/
theorem covers_ofSelections (sels : List Selection) (d : Weekday) (m : Nat) :
    (Schedule.grants (Grant.ofSelections sels)).Covers d m ↔
      (Schedule.selections sels).Covers d m := by
  rw [← Grant.covers_picked]
  -- what is fused is sound, whatever the intervals were, so no empty window can swallow a minute
  exact Grant.holds_fuse (fun days => d ∈ days) m fun _ hg => Grant.sound_of_mem_picked hg

/-- Normalizing grants changes nothing about what they grant. -/
theorem covers_normalize (gs : List Grant) (d : Weekday) (m : Nat) :
    (Schedule.grants (Grant.normalize gs)).Covers d m ↔ (Schedule.grants gs).Covers d m :=
  (covers_ofSelections (Selection.ofGrants gs) d m).trans (covers_ofGrants gs d m)

/-- **No conversion grants a minute more or less.** A minute of a weekday is granted after a conversion
exactly if it was before. -/
theorem conversions_keep_coverage :
    (∀ (sels : List Selection) (d : Weekday) (m : Nat),
      (Schedule.grants (Grant.ofSelections sels)).Covers d m ↔
        (Schedule.selections sels).Covers d m) ∧
    (∀ (gs : List Grant) (d : Weekday) (m : Nat),
      (Schedule.selections (Selection.ofGrants gs)).Covers d m ↔
        (Schedule.grants gs).Covers d m) ∧
    (∀ (gs : List Grant) (d : Weekday) (m : Nat),
      (Schedule.grants (Grant.normalize gs)).Covers d m ↔ (Schedule.grants gs).Covers d m) :=
  ⟨covers_ofSelections, covers_ofGrants, covers_normalize⟩

end AccessWindows
