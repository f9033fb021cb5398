import AccessWindows.Proofs.WeekdayKeys

/-!
# Merging pass by pass

Selections can be merged in three passes (`Grant.mergeInTurn`). The first goes through the intervals of
one selection after the other and tags each with the weekday. What it ends with are the picked intervals
and the weekdays that pick them, all in order and each once (`Tags.intervals_ofSelections`,
`Tags.days_ofSelections`). The second sorts the grants made of them by weekday key and start. The third
goes through these from the front and lengthens the last grant that it has, or puts the next one behind
it (`Grant.joinLast`).

The third pass is shown to come to the same as joining from the back (`Grant.fuseInTurn_eq`). The reason
is that a grant that continues another may be joined to it before what follows is joined
(`Grant.join_join_of_continues`), and that one that does not continue it leaves it as it is
(`Grant.join_join_of_not_continues`).
-/

set_option autoImplicit false

namespace AccessWindows

/-! ## Tagging intervals with weekdays -/

/-- The intervals that have come up, and the weekdays with which each of them is tagged. -/
structure Tags where
  intervals : List Interval
  days : Interval → List Weekday

namespace Tags

/-- Nothing has come up. -/
def none : Tags := ⟨[], fun _ => []⟩

/-- Tag an interval with a weekday. -/
def tag (d : Weekday) (t : Tags) (i : Interval) : Tags :=
  ⟨Ascending.insert i t.intervals,
    fun j => if j = i then Ascending.insert d (t.days j) else t.days j⟩

/-- Tag the intervals of a selection with its weekday, one after the other. -/
def add (t : Tags) (s : Selection) : Tags := s.intervals.foldl (tag s.day) t

/-- Tag the intervals of selections, one selection after the other. -/
def ofSelections (sels : List Selection) : Tags := sels.foldl add none

/-- The intervals and the weekdays are in order and each once, and an interval has come up if it has a
tag. -/
structure Sound (t : Tags) : Prop where
  intervals_ascend : t.intervals.Pairwise (· < ·)
  days_ascend : ∀ i, (t.days i).Pairwise (· < ·)
  mem_intervals : ∀ i, i ∈ t.intervals ↔ ∃ d, d ∈ t.days i

variable {t : Tags} {d e : Weekday} {i j : Interval}

theorem intervals_tag : (t.tag d i).intervals = Ascending.insert i t.intervals := rfl

theorem days_tag : (t.tag d i).days j =
    if j = i then Ascending.insert d (t.days j) else t.days j := rfl

theorem mem_days_tag : e ∈ (t.tag d i).days j ↔ (e = d ∧ j = i) ∨ e ∈ t.days j := by
  rw [days_tag]
  split
  · next same => rw [Ascending.mem_insert, and_iff_left same]
  · next other => rw [or_iff_right fun h => other h.2]

theorem sound_none : none.Sound where
  intervals_ascend := .nil
  days_ascend _ := .nil
  mem_intervals i := by simp [none]

theorem Sound.tag (sound : t.Sound) (d : Weekday) (i : Interval) : (t.tag d i).Sound where
  intervals_ascend :=
    Ascending.pairwise_insert Interval.lt_trans Interval.lt_or_eq_or_gt i sound.intervals_ascend
  days_ascend j := by
    rw [days_tag]
    split
    · exact Ascending.pairwise_insert Weekday.lt_trans Weekday.lt_or_eq_or_gt d (sound.days_ascend j)
    · exact sound.days_ascend j
  mem_intervals j := by
    rw [intervals_tag, Ascending.mem_insert, sound.mem_intervals]
    simp only [mem_days_tag, exists_or, exists_and_right, exists_eq, true_and]

theorem mem_days_add {s : Selection} :
    e ∈ (t.add s).days j ↔ (e = s.day ∧ j ∈ s.intervals) ∨ e ∈ t.days j := by
  unfold add
  induction s.intervals generalizing t with
  | nil => simp
  | cons i is ih =>
      rw [List.foldl_cons, ih, mem_days_tag, ← or_assoc, ← and_or_left, List.mem_cons,
        or_comm (a := j = i)]

theorem Sound.add (sound : t.Sound) (s : Selection) : (t.add s).Sound := by
  unfold Tags.add
  induction s.intervals generalizing t with
  | nil => exact sound
  | cons i is ih => exact ih (sound.tag s.day i)

theorem mem_days_foldl_add {sels : List Selection} :
    e ∈ (sels.foldl add t).days j ↔ (∃ s ∈ sels, e = s.day ∧ j ∈ s.intervals) ∨ e ∈ t.days j := by
  induction sels generalizing t with
  | nil => simp
  | cons s sels ih =>
      rw [List.foldl_cons, ih, mem_days_add, or_left_comm]
      simp only [List.mem_cons, exists_eq_or_imp, or_assoc]

theorem Sound.foldl_add (sound : t.Sound) (sels : List Selection) :
    (sels.foldl Tags.add t).Sound := by
  induction sels generalizing t with
  | nil => exact sound
  | cons s sels ih => exact ih (sound.add s)

theorem sound_ofSelections (sels : List Selection) : (ofSelections sels).Sound :=
  sound_none.foldl_add sels

/-- An interval ends up with the weekdays that pick it. -/
theorem days_ofSelections (sels : List Selection) (i : Interval) :
    (ofSelections sels).days i = daysPicking sels i := by
  refine Ascending.eq_of_mem_iff (fun _ _ => Weekday.lt_asymm) ((sound_ofSelections sels).days_ascend i)
    (Grant.pairwise_daysPicking sels i) fun d => ?_
  have hnone : d ∉ none.days i := List.not_mem_nil
  rw [ofSelections, mem_days_foldl_add, or_iff_left hnone, mem_daysPicking]
  simp only [eq_comm]

/-- The picked intervals have come up in the end. -/
theorem intervals_ofSelections (sels : List Selection) :
    (ofSelections sels).intervals = Grant.windows sels := by
  refine Ascending.eq_of_mem_iff Interval.lt_asymm (sound_ofSelections sels).intervals_ascend
    (Interval.pairwise_ofList _) fun i => ?_
  rw [(sound_ofSelections sels).mem_intervals, days_ofSelections, Grant.mem_windows]

end Tags

namespace Grant

/-! ## Fusing from the front -/

/-- Put a grant behind a list, joined to the last entry if it continues that. -/
def joinLast (fused : List Grant) (g : Grant) : List Grant :=
  match fused.getLast? with
  | some last => if last.Continues g then fused.dropLast ++ [last.upTo g] else fused ++ [g]
  | none => [g]

/-- Put grants behind one another, each joined to the one before it if it continues that. -/
def fuseInTurn (gs : List Grant) : List Grant := gs.foldl joinLast []

theorem joinLast_concat (fused : List Grant) (last g : Grant) : joinLast (fused ++ [last]) g =
    if last.Continues g then fused ++ [last.upTo g] else fused ++ [last] ++ [g] := by
  simp only [joinLast, List.getLast?_concat, List.dropLast_concat]

/-- A grant that continues another may be joined to it before what follows is joined. -/
theorem join_join_of_continues {g h : Grant} (hcont : g.Continues h) (hs : List Grant) :
    join g (join h hs) = join (g.upTo h) hs := by
  cases hs with
  | nil => exact join_cons_of_continues hcont []
  | cons k rest =>
      by_cases hnext : h.Continues k
      · have hboth : g.Continues (h.upTo k) := hcont
        have hlong : (g.upTo h).Continues k := ⟨hcont.1.trans hnext.1, hnext.2⟩
        rw [join_cons_of_continues hnext, join_cons_of_continues hboth, join_cons_of_continues hlong]
        rfl
      · have hlong : ¬ (g.upTo h).Continues k := fun hlong =>
          hnext ⟨hcont.1.symm.trans hlong.1, hlong.2⟩
        rw [join_cons_of_not_continues hnext, join_cons_of_continues hcont,
          join_cons_of_not_continues hlong]

/-- A grant that does not continue another leaves it as it is, whatever follows. -/
theorem join_join_of_not_continues {g h : Grant} (hcont : ¬ g.Continues h) (hs : List Grant) :
    join g (join h hs) = g :: join h hs := by
  cases hs with
  | nil => exact join_cons_of_not_continues hcont []
  | cons k rest =>
      by_cases hnext : h.Continues k
      · -- a lengthened grant starts where it did
        have hboth : ¬ g.Continues (h.upTo k) := hcont
        rw [join_cons_of_continues hnext, join_cons_of_not_continues hboth]
      · rw [join_cons_of_not_continues hnext, join_cons_of_not_continues hcont]

/-- What a pass from the front adds to the grants behind which it goes on. Only the last of them can
change any more, so the others are carried along. -/
theorem foldl_joinLast (fused : List Grant) (last : Grant) (gs : List Grant) :
    gs.foldl joinLast (fused ++ [last]) = fused ++ fuse (last :: gs) := by
  induction gs generalizing fused last with
  | nil => rfl
  | cons g gs ih =>
      rw [List.foldl_cons, joinLast_concat, fuse_cons, fuse_cons]
      by_cases hcont : last.Continues g
      · rw [if_pos hcont, ih, fuse_cons, join_join_of_continues hcont]
      · rw [if_neg hcont, ih, fuse_cons, join_join_of_not_continues hcont, List.append_assoc]
        rfl

/-- **Fusing from the front is fusing from the back.** -/
theorem fuseInTurn_eq (gs : List Grant) : fuseInTurn gs = fuse gs := by
  cases gs with
  | nil => rfl
  | cons g gs => exact foldl_joinLast [] g gs

/-! ## All passes -/

/-- Merge selections pass by pass: tag their intervals, sort the grants made of them, and fuse these from
the front. -/
def mergeInTurn (sels : List Selection) : List Grant :=
  let tags := Tags.ofSelections sels
  let candidates := tags.intervals.map fun i => (⟨tags.days i, i.start, i.stop⟩ : Grant)
  fuseInTurn (candidates.mergeSort comesFirst)

/-- **Merging pass by pass is merging at once.** -/
theorem mergeInTurn_eq (sels : List Selection) : mergeInTurn sels = ofSelections sels := by
  simp only [mergeInTurn, Tags.intervals_ofSelections, Tags.days_ofSelections]
  rw [fuseInTurn_eq, ← candidates, mergeSort_candidates]
  rfl

end Grant

end AccessWindows
