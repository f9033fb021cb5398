import AccessWindows.Proofs.Painting

/-!
# Runs of conversions

On aligned schedules every conversion keeps the grid of covered cells, and every conversion but merging
writes the schedule that lists this grid (`Schedule.lists_of_step`). So a run of conversions of any
length, in any order that fits the forms, keeps the grid, and from the first step that is no merge on
each value is the list of the grid in its form (`run_of_aligned`).
-/

set_option autoImplicit false

namespace AccessWindows

/-! ## Forms -/

/-- The two forms of a schedule. -/
inductive Form where
  | selections
  | grants
deriving DecidableEq

/-- The form of a schedule. -/
def Schedule.form : Schedule → Form
  | .selections _ => .selections
  | .grants _ => .grants

namespace Step

/-- The form that a step makes of a form, if it fits it. -/
def target? : Step → Form → Option Form
  | .merge, .selections => some .grants
  | .split, .grants => some .selections
  | .normalize, .grants => some .grants
  | .grid, form => some form
  | _, _ => none

/-- Whether each step of a series fits the form that the steps before it leave. -/
def Chained : Form → List Step → Prop
  | _, [] => True
  | form, s :: steps => ∃ next, s.target? form = some next ∧ Chained next steps

end Step

namespace Schedule

/-- Whether a schedule lists the cells of a grid in its form. -/
def Lists (g : WeekGrid) : Schedule → Prop
  | .selections sels => sels = g.toSelections
  | .grants gs => gs = g.toGrants

theorem aligned_of_lists {g : WeekGrid} {v : Schedule} (h : v.Lists g) : v.Aligned := by
  cases v with
  | selections sels =>
      rw [show sels = g.toSelections from h]
      exact g.aligned_toSelections
  | grants gs =>
      rw [show gs = g.toGrants from h]
      exact g.aligned_toGrants

theorem cellGrid_of_lists {g : WeekGrid} (narrow : g.Narrow) {v : Schedule} (h : v.Lists g) :
    v.cellGrid = g := by
  cases v with
  | selections sels =>
      rw [show sels = g.toSelections from h]
      exact cellGrid_toSelections narrow
  | grants gs =>
      rw [show gs = g.toGrants from h]
      exact cellGrid_toGrants narrow

/-! ## One step -/

/-- A step that fits the form of a schedule is defined on it. -/
theorem exists_step {s : Step} {v : Schedule} {form : Form} (fits : s.target? v.form = some form) :
    ∃ w, step? s v = some w ∧ w.form = form := by
  cases s with
  | merge =>
      cases v with
      | selections sels => exact ⟨_, rfl, Option.some.inj fits⟩
      | grants gs => cases fits
  | split =>
      cases v with
      | selections sels => cases fits
      | grants gs => exact ⟨_, rfl, Option.some.inj fits⟩
  | normalize =>
      cases v with
      | selections sels => cases fits
      | grants gs => exact ⟨_, rfl, Option.some.inj fits⟩
  | grid =>
      cases v with
      | selections sels => exact ⟨_, rfl, Option.some.inj fits⟩
      | grants gs => exact ⟨_, rfl, Option.some.inj fits⟩

/-- Merging keeps the cells of an aligned schedule. -/
theorem cellGrid_of_merge {v w : Schedule} (aligned : v.Aligned) (hstep : step? .merge v = some w) :
    w.Aligned ∧ w.cellGrid = v.cellGrid := by
  cases v with
  | selections sels =>
      obtain rfl := Option.some.inj hstep
      exact ⟨aligned_ofSelections aligned, cellGrid_ofSelections aligned⟩
  | grants gs => cases hstep

/-- After any step but merging an aligned schedule is the list of its cells. -/
theorem lists_of_step {s : Step} {v w : Schedule} (aligned : v.Aligned) (hs : s ≠ .merge)
    (hstep : step? s v = some w) : w.Lists v.cellGrid := by
  cases s with
  | merge => exact absurd rfl hs
  | split =>
      cases v with
      | selections sels => cases hstep
      | grants gs =>
          obtain rfl := Option.some.inj hstep
          exact ofGrants_of_aligned aligned
  | normalize =>
      cases v with
      | selections sels => cases hstep
      | grants gs =>
          obtain rfl := Option.some.inj hstep
          show Grant.ofSelections (Selection.ofGrants gs) = _
          rw [ofGrants_of_aligned aligned]
          rfl
  | grid =>
      have hpaint := paint_eq_cellGrid aligned
      cases v with
      | selections sels =>
          obtain rfl := Option.some.inj hstep
          exact congrArg WeekGrid.toSelections hpaint
      | grants gs =>
          obtain rfl := Option.some.inj hstep
          exact congrArg WeekGrid.toGrants hpaint

/-- A step keeps the cells of an aligned schedule. -/
theorem cellGrid_of_step {s : Step} {v w : Schedule} (aligned : v.Aligned)
    (hstep : step? s v = some w) : w.Aligned ∧ w.cellGrid = v.cellGrid := by
  by_cases hs : s = .merge
  · subst hs
    exact cellGrid_of_merge aligned hstep
  · have hlists := lists_of_step aligned hs hstep
    exact ⟨aligned_of_lists hlists, cellGrid_of_lists v.narrow_cellGrid hlists⟩

/-- Once a schedule lists its cells, every later one does. -/
theorem lists_of_lists_of_step {g : WeekGrid} (narrow : g.Narrow) {s : Step} {v w : Schedule}
    (hv : v.Lists g) (hstep : step? s v = some w) : w.Lists g := by
  by_cases hs : s = .merge
  · subst hs
    cases v with
    | selections sels =>
        -- the grants of a grid are by definition those of its listed cells
        obtain rfl := Option.some.inj hstep
        exact congrArg Grant.ofSelections hv
    | grants gs => cases hstep
  · rw [← cellGrid_of_lists narrow hv]
    exact lists_of_step (aligned_of_lists hv) hs hstep

/-! ## A run -/

/-- The values of a run from an aligned schedule. The induction is on the steps; that the schedule at
hand lists the grid already is carried along, because a merge keeps this but does not bring it about. -/
theorem exists_run {g : WeekGrid} : ∀ (steps : List Step) (v : Schedule), v.Aligned →
    v.cellGrid = g → Step.Chained v.form steps →
    ∃ values, run? steps v = some values ∧ values.length = steps.length ∧
      (∀ w ∈ values, w.Aligned ∧ w.cellGrid = g) ∧
      ∀ (k : Nat) (w : Schedule), values[k]? = some w →
        (v.Lists g ∨ ∃ s ∈ steps.take (k + 1), s ≠ Step.merge) → w.Lists g := by
  intro steps
  induction steps with
  | nil =>
      intro v _ _ _
      refine ⟨[], rfl, rfl, fun w hw => absurd hw List.not_mem_nil, ?_⟩
      intro k w hw
      cases hw
  | cons s steps ih =>
      rintro v aligned rfl ⟨form, hfits, hchained⟩
      obtain ⟨next, hstep, rfl⟩ := exists_step hfits
      obtain ⟨halign, hgrid⟩ := cellGrid_of_step aligned hstep
      obtain ⟨later, hrun, hlength, hall, hlists⟩ := ih next halign hgrid hchained
      refine ⟨next :: later, by simp [run?, hstep, hrun], by simp [hlength], ?_, ?_⟩
      · exact List.forall_mem_cons.2 ⟨⟨halign, hgrid⟩, hall⟩
      · intro k w hw hbefore
        -- the schedule lists its grid from here on if it did before, or if this step brings it about
        have hnext : v.Lists v.cellGrid ∨ s ≠ .merge → next.Lists v.cellGrid := by
          rintro (hv | hs)
          · exact lists_of_lists_of_step v.narrow_cellGrid hv hstep
          · exact lists_of_step aligned hs hstep
        simp only [List.take_succ_cons, List.mem_cons, exists_eq_or_imp, ← or_assoc] at hbefore
        cases k with
        | zero =>
            obtain rfl := Option.some.inj hw
            rcases hbefore with hfirst | ⟨s', hs', -⟩
            · exact hnext hfirst
            · cases hs'
        | succ k =>
            apply hlists k w hw
            rcases hbefore with hfirst | hlater
            · exact Or.inl (hnext hfirst)
            · exact Or.inr hlater

/-- **Conversions are confluent on aligned schedules.** The cells that an aligned schedule covers are
those whose first minute it grants. A series of steps that fit its form runs to its end. Every value on
the way, the schedule itself included, covers the cells that the schedule covers and is painted as just
these cells; and from the first step that is no merge on, every value is the list of them in its form. -/
theorem run_of_aligned {start : Schedule} (aligned : start.Aligned) {steps : List Step}
    (fits : Step.Chained start.form steps) :
    (∀ d c, start.cellGrid.isSelected d c = true ↔ c < 48 ∧ start.Covers d (30 * c)) ∧
    ∃ values, run? steps start = some values ∧ values.length = steps.length ∧
      (∀ v ∈ start :: values, v.cellGrid = start.cellGrid ∧ v.paint = start.cellGrid) ∧
      ∀ (k : Nat) (v : Schedule), values[k]? = some v →
        (∃ s ∈ steps.take (k + 1), s ≠ Step.merge) → v.Lists start.cellGrid := by
  obtain ⟨values, hrun, hlength, hall, hlists⟩ := exists_run steps start aligned rfl fits
  refine ⟨fun d c => isSelected_cellGrid_of_aligned aligned, values, hrun, hlength, ?_,
    fun k v hv hbefore => hlists k v hv (Or.inr hbefore)⟩
  intro v hv
  have hkept : v.Aligned ∧ v.cellGrid = start.cellGrid := by
    rcases List.mem_cons.1 hv with rfl | hv
    · exact ⟨aligned, rfl⟩
    · exact hall v hv
  exact ⟨hkept.2, (paint_eq_cellGrid hkept.1).trans hkept.2⟩

/-- Intervals that overlap and repeat, in no order: 9:30 to 10:30 and twice 9:00 to 10:00 on Monday,
nothing on Tuesday. -/
def overlappingPicks : Schedule :=
  .selections [⟨.monday, [⟨⟨570, by decide⟩, ⟨630, by decide⟩, by decide⟩,
    ⟨⟨540, by decide⟩, ⟨600, by decide⟩, by decide⟩]⟩, ⟨.tuesday, []⟩,
    ⟨.monday, [⟨⟨540, by decide⟩, ⟨600, by decide⟩, by decide⟩]⟩]

/-- The merged form of overlapping picks is cut, merged and painted without leaving their cells. -/
theorem run_overlappingPicks :
    overlappingPicks.Aligned ∧
      Step.Chained overlappingPicks.form [.merge, .split, .merge, .normalize, .grid] ∧
      (∀ d c, overlappingPicks.cellGrid.isSelected d c = true ↔
        c < 48 ∧ overlappingPicks.Covers d (30 * c)) ∧
      ∃ values, run? [.merge, .split, .merge, .normalize, .grid] overlappingPicks = some values ∧
        values.length = 5 ∧
        (∀ v ∈ overlappingPicks :: values, v.cellGrid = overlappingPicks.cellGrid ∧
          v.paint = overlappingPicks.cellGrid) ∧
        ∀ (k : Nat) (v : Schedule), values[k]? = some v →
          (∃ s ∈ [Step.merge, .split, .merge, .normalize, .grid].take (k + 1), s ≠ Step.merge) →
            v.Lists overlappingPicks.cellGrid := by
  have aligned : overlappingPicks.Aligned := by
    unfold overlappingPicks Schedule.Aligned
    decide
  have fits : Step.Chained overlappingPicks.form [.merge, .split, .merge, .normalize, .grid] :=
    ⟨_, rfl, _, rfl, _, rfl, _, rfl, _, rfl, trivial⟩
  exact ⟨aligned, fits, run_of_aligned aligned fits⟩

end Schedule

end AccessWindows
