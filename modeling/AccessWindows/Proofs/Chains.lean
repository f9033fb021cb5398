import AccessWindows.Proofs.Fusion
import AccessWindows.Proofs.RoundTrip
import Mathlib.Data.List.SplitBy
import Mathlib.Data.Set.List

/-!
# Chains of touching intervals

The intervals that selections pick, each once and in the order of the grants that they become
(`ComesBefore`), fall into chains: the list is cut wherever an interval does not touch the next one
on the same weekdays (`Touches`). Fusing makes one grant of each chain, from the start of its first
interval to the stop of its last (`Spans`). This is shown for one chain in front of a fused list
(`foldr_join_of_isChain`) and then for a row of chains (`forall₂_spans_fuse`), and `exists_chains`
says it of any selections.

A fused grant may stop later than the interval that it starts with, so that the fused list still
ascends needs an argument (`pairwise_fuse`): of several intervals with one start only the last can
be touched by what follows it in the list. `ofSelections_wellFormed` says what every list of fused
grants has in common.
-/

set_option autoImplicit false

namespace AccessWindows

namespace Grant

section Chains

variable (sels : List Selection)

/-- An interval as a grant on the weekdays that pick it. -/
def ofInterval (i : Interval) : Grant := ⟨daysPicking sels i, i.start, i.stop⟩

/-- Whether an interval goes on where another one stops, picked on the same weekdays. -/
def Touches (i j : Interval) : Prop := daysPicking sels i = daysPicking sels j ∧ i.stop = j.start

instance (i j : Interval) : Decidable (Touches sels i j) :=
  inferInstanceAs (Decidable (daysPicking sels i = daysPicking sels j ∧ i.stop = j.start))

/-- Whether an interval comes before another: by the key of the weekdays that pick it, or by start
and then stop if the keys agree. -/
def ComesBefore (i j : Interval) : Prop :=
  weekdayKey (daysPicking sels i) < weekdayKey (daysPicking sels j) ∨
    weekdayKey (daysPicking sels i) = weekdayKey (daysPicking sels j) ∧ i < j

/-- Whether a chain of touching intervals makes up a grant: it holds on the weekdays that pick each
of them, from the start of the first to the stop of the last. -/
structure Spans (chain : List Interval) (g : Grant) : Prop where
  touching : chain.IsChain (Touches sels)
  weekdays : ∀ i ∈ chain, daysPicking sels i = g.weekdays
  start : ∃ i ∈ chain.head?, i.start = g.start
  stop : ∃ i ∈ chain.getLast?, i.stop = g.stop

/-- Whether a chain cannot be joined to another one behind it. -/
def Parted (a b : List Interval) : Prop := ∃ i ∈ a.getLast?, ∃ j ∈ b.head?, ¬ Touches sels i j

variable {sels}

/-! ## Fusing chains -/

theorem spans_singleton (i : Interval) : Spans sels [i] (ofInterval sels i) := by
  refine ⟨.singleton i, ?_, ⟨i, rfl, rfl⟩, ⟨i, rfl, rfl⟩⟩
  intro j hj
  rw [List.mem_singleton.1 hj]
  rfl

/-- An interval goes on with the grant of a chain if it touches the first interval of the chain. -/
theorem Spans.continues {i j : Interval} {chain : List Interval} {g : Grant}
    (spans : Spans sels chain g) (first : j ∈ chain.head?) :
    (ofInterval sels i).Continues g ↔ Touches sels i j := by
  obtain ⟨_, hfirst, hstart⟩ := spans.start
  obtain rfl := Option.some.inj (first.symm.trans hfirst)
  show daysPicking sels i = g.weekdays ∧ i.stop = g.start ↔ _
  rw [← spans.weekdays j (List.mem_of_mem_head? first), ← hstart]
  rfl

/-- An interval in front of a chain lengthens its grant. -/
theorem Spans.cons {i j : Interval} {chain : List Interval} {g : Grant}
    (spans : Spans sels (j :: chain) g) (touches : Touches sels i j) :
    Spans sels (i :: j :: chain) ((ofInterval sels i).upTo g) := by
  refine ⟨spans.touching.cons_cons touches, ?_, ⟨i, rfl, rfl⟩, ?_⟩
  · intro k hk
    show daysPicking sels k = daysPicking sels i
    rcases List.mem_cons.1 hk with rfl | hk
    · rfl
    · rw [spans.weekdays k hk, touches.1, spans.weekdays j List.mem_cons_self]
  · obtain ⟨k, hlast, hstop⟩ := spans.stop
    refine ⟨k, ?_, hstop⟩
    rwa [List.getLast?_cons_cons]

/-- Joining the intervals of a chain to a fused list puts one grant in front of it, if the last of
them is not continued there. -/
theorem foldr_join_of_isChain {chain : List Interval} (nonempty : chain ≠ [])
    (touching : chain.IsChain (Touches sels)) {gs : List Grant}
    (last : ∀ i ∈ chain.getLast?, ∀ g ∈ gs.head?, ¬ (ofInterval sels i).Continues g) :
    ∃ g, Spans sels chain g ∧ (chain.map (ofInterval sels)).foldr join gs = g :: gs := by
  induction chain with
  | nil => exact absurd rfl nonempty
  | cons i chain ih =>
      cases chain with
      | nil =>
          refine ⟨_, spans_singleton i, ?_⟩
          show join (ofInterval sels i) gs = _
          cases gs with
          | nil => exact join_nil _
          | cons g gs => exact join_cons_of_not_continues (last i rfl g rfl) gs
      | cons j chain =>
          -- the rest of the chain is one grant already, which the interval in front lengthens
          obtain ⟨htouches, htouching⟩ := List.isChain_cons_cons.1 touching
          rw [List.getLast?_cons_cons] at last
          obtain ⟨g, hspans, hfold⟩ := ih (List.cons_ne_nil j chain) htouching last
          refine ⟨_, hspans.cons htouches, ?_⟩
          rw [List.map_cons, List.foldr_cons, hfold]
          exact join_cons_of_continues ((hspans.continues rfl).2 htouches) gs

/-- Fusing a row of chains that cannot be joined gives one grant for each. -/
theorem forall₂_spans_fuse {chains : List (List Interval)} (nonempty : [] ∉ chains)
    (touching : ∀ chain ∈ chains, chain.IsChain (Touches sels))
    (parted : chains.IsChain (Parted sels)) :
    List.Forall₂ (Spans sels) chains (fuse (chains.flatten.map (ofInterval sels))) := by
  induction chains with
  | nil => exact .nil
  | cons chain chains ih =>
      rw [List.mem_cons, not_or] at nonempty
      obtain ⟨htouching, hrest⟩ := List.forall_mem_cons.1 touching
      have hfused := ih nonempty.2 hrest parted.tail
      rw [List.flatten_cons, List.map_append, fuse, List.foldr_append, ← fuse]
      -- of the fused list only its chains matter from here on
      generalize fuse (chains.flatten.map (ofInterval sels)) = fused at hfused
      have hlast : ∀ i ∈ chain.getLast?, ∀ g ∈ fused.head?,
          ¬ (ofInterval sels i).Continues g := by
        intro i hi g hg hcont
        cases hfused with
        | nil => exact nomatch hg
        | @cons next _ others _ hspans _ =>
            obtain rfl := Option.some.inj hg
            obtain ⟨i', hi', j, hj, hnot⟩ := (List.isChain_cons_cons.1 parted).1
            obtain rfl := Option.some.inj (hi.symm.trans hi')
            exact hnot ((hspans.continues hj).1 hcont)
      obtain ⟨g, hspans, hfold⟩ := foldr_join_of_isChain (Ne.symm nonempty.1) htouching hlast
      rw [hfold]
      exact .cons hspans hfused

/-! ## The intervals in order -/

theorem ofInterval_injective : Function.Injective (ofInterval sels) := by
  intro i j h
  exact Interval.ext (congrArg Grant.start h) (congrArg Grant.stop h)

variable (sels)

/-- The picked intervals can be listed in order, and are picked grants in this order. -/
theorem exists_inOrder : ∃ is : List Interval,
    (∀ i, i ∈ is ↔ ∃ s ∈ sels, i ∈ s.intervals) ∧ is.Pairwise (ComesBefore sels) ∧
      is.map (ofInterval sels) = picked sels := by
  have hrange : picked sels ∈ Set.range (List.map (ofInterval sels)) := by
    rw [Set.range_list_map]
    intro g hg
    obtain ⟨i, -, rfl⟩ := mem_picked.1 hg
    exact ⟨i, rfl⟩
  obtain ⟨is, his⟩ := hrange
  refine ⟨is, ?_, ?_, his⟩
  · intro i
    rw [← mem_windows_iff, ← List.mem_map_of_injective ofInterval_injective, his, mem_picked]
    constructor
    · rintro ⟨j, hj, hij⟩
      rwa [ofInterval_injective hij]
    · intro hi
      exact ⟨i, hi, rfl⟩
  · have hascend := pairwise_picked sels
    rw [← his, List.pairwise_map] at hascend
    exact hascend

/-- A list of intervals can be cut into chains. -/
theorem exists_cut (is : List Interval) : ∃ chains : List (List Interval), chains.flatten = is ∧
    [] ∉ chains ∧ (∀ chain ∈ chains, chain.IsChain (Touches sels)) ∧
      chains.IsChain (Parted sels) := by
  obtain ⟨hflatten, hnonempty, htouching, hparted⟩ :=
    List.splitBy_eq_iff.1 (rfl : is.splitBy (fun i j => decide (Touches sels i j)) = _)
  refine ⟨_, hflatten.symm, hnonempty, ?_, ?_⟩
  · simpa only [decide_eq_true_eq] using htouching
  · refine hparted.imp ?_
    rintro a b ⟨ha, hb, hcut⟩
    exact ⟨_, List.getLast?_eq_some_getLast ha, _, List.head?_eq_some_head hb,
      of_decide_eq_false hcut⟩

/-- **Merging cuts the picked intervals into chains.** The intervals that are picked on any day,
each once and in order, are cut into chains of intervals that touch on the same weekdays. There is
one chain for each grant, which it makes up, and none can be joined to the next one. -/
theorem exists_chains : ∃ chains : List (List Interval),
    (∀ i, i ∈ chains.flatten ↔ ∃ s ∈ sels, i ∈ s.intervals) ∧
    chains.flatten.Pairwise (ComesBefore sels) ∧
    List.Forall₂ (Spans sels) chains (ofSelections sels) ∧
    (∀ g ∈ ofSelections sels, g.weekdays.Pairwise (· < ·)) ∧
    chains.IsChain (Parted sels) := by
  obtain ⟨is, hmem, hascend, hpicked⟩ := exists_inOrder sels
  obtain ⟨chains, rfl, hnonempty, htouching, hparted⟩ := exists_cut sels is
  have hspans := forall₂_spans_fuse hnonempty htouching hparted
  rw [hpicked] at hspans
  refine ⟨chains, hmem, hascend, hspans, ?_, hparted⟩
  intro g hg
  exact (sound_of_mem_ofSelections hg).weekdays_ascend

end Chains

/-! ## The order of fused grants -/

/-- Of the given grants one on the same weekdays starts where a fused grant starts, and stops no
later. -/
theorem exists_start_of_mem_fuse {gs : List Grant} (sound : ∀ g ∈ gs, g.Sound) {f : Grant}
    (hf : f ∈ fuse gs) :
    ∃ g ∈ gs, g.weekdays = f.weekdays ∧ g.start = f.start ∧ g.stop ≤ f.stop := by
  have hinvariant := forall_mem_fuse
    (P := fun f => f.Sound ∧
      ∃ g ∈ gs, g.weekdays = f.weekdays ∧ g.start = f.start ∧ g.stop ≤ f.stop)
    ?_ (fun g hg => ⟨sound g hg, g, hg, rfl, rfl, Nat.le_refl _⟩) f hf
  · exact hinvariant.2
  · rintro g h ⟨hg, k, hk, hdays, hstart, hstop⟩ ⟨hh, -⟩ hcont
    refine ⟨hg.upTo hh hcont, k, hk, hdays, hstart, ?_⟩
    -- the joined grant stops where `h` does, which starts where `g` stops
    show k.stop ≤ h.stop
    have hproper := hh.start_lt_stop
    rw [← hcont.2] at hproper
    exact Nat.le_trans hstop (Nat.le_of_lt hproper)

/-- What comes before all given grants comes before all fused ones. -/
theorem lt_of_mem_fuse {gs : List Grant} (sound : ∀ g ∈ gs, g.Sound) {g : Grant}
    (before : ∀ h ∈ gs, g < h) {f : Grant} (hf : f ∈ fuse gs) : g < f := by
  obtain ⟨h, hh, hdays, hstart, hstop⟩ := exists_start_of_mem_fuse sound hf
  have hlt := before h hh
  rw [lt_iff, key_eq_of_weekdays_eq hdays, hstart] at hlt
  rw [lt_iff]
  rw [ClockTime.le_iff] at hstop
  rcases hlt with hkey | ⟨hkey, hwindow⟩
  · exact Or.inl hkey
  · exact Or.inr ⟨hkey, by omega⟩

/-- A grant lengthened by what continues it comes before what follows that: it starts earlier. -/
theorem upTo_lt {g h r : Grant} (proper : g.start < g.stop) (hcont : g.Continues h) (hlt : h < r) :
    g.upTo h < r := by
  rw [lt_iff] at hlt ⊢
  show g.key < r.key ∨ g.key = r.key ∧ _
  rw [key_eq_of_weekdays_eq hcont.1]
  rcases hlt with hkey | ⟨hkey, hwindow⟩
  · exact Or.inl hkey
  · refine Or.inr ⟨hkey, Or.inl ?_⟩
    have htouch := ClockTime.ext_iff.1 hcont.2
    rw [ClockTime.lt_iff] at proper
    show g.start.minutes < r.start.minutes
    omega

/-- Joining a grant that comes before an ascending list keeps it ascending. -/
theorem pairwise_join {g : Grant} {hs : List Grant} (proper : g.start < g.stop)
    (before : ∀ h ∈ hs, g < h) (ascend : hs.Pairwise (· < ·)) :
    (join g hs).Pairwise (· < ·) := by
  cases hs with
  | nil => exact List.pairwise_singleton _ g
  | cons h rest =>
      by_cases hcont : g.Continues h
      · rw [join_cons_of_continues hcont]
        obtain ⟨hrest, hascend⟩ := List.pairwise_cons.1 ascend
        exact List.pairwise_cons.2 ⟨fun r hr => upTo_lt proper hcont (hrest r hr), hascend⟩
      · rw [join_cons_of_not_continues hcont]
        exact List.pairwise_cons.2 ⟨before, ascend⟩

/-- **Fusing keeps sound grants in order.** -/
theorem pairwise_fuse {gs : List Grant} (sound : ∀ g ∈ gs, g.Sound)
    (ascend : gs.Pairwise (· < ·)) : (fuse gs).Pairwise (· < ·) := by
  induction gs with
  | nil => exact .nil
  | cons g gs ih =>
      obtain ⟨hg, hgs⟩ := List.forall_mem_cons.1 sound
      obtain ⟨hbefore, hascend⟩ := List.pairwise_cons.1 ascend
      rw [fuse_cons]
      -- a fused grant may stop later than the given one that starts it, but comes no earlier
      exact pairwise_join hg.start_lt_stop (fun f hf => lt_of_mem_fuse hgs hbefore hf)
        (ih hgs hascend)

/-- Joining one more grant leaves nothing to join if there was nothing before. -/
theorem isChain_join {g : Grant} {hs : List Grant}
    (separate : hs.IsChain fun a b => ¬ a.Continues b) :
    (join g hs).IsChain fun a b => ¬ a.Continues b := by
  cases hs with
  | nil => exact .singleton g
  | cons h rest =>
      by_cases hcont : g.Continues h
      · rw [join_cons_of_continues hcont]
        cases rest with
        | nil => exact .singleton _
        | cons r rest =>
            obtain ⟨hnot, hrest⟩ := List.isChain_cons_cons.1 separate
            refine List.isChain_cons_cons.2 ⟨?_, hrest⟩
            -- the lengthened grant stops where `h` did, on the same weekdays
            rintro ⟨hdays, htouch⟩
            exact hnot ⟨hcont.1.symm.trans hdays, htouch⟩
      · rw [join_cons_of_not_continues hcont]
        exact List.isChain_cons_cons.2 ⟨hcont, separate⟩

/-- Neighbours in a fused list do not continue each other. -/
theorem isChain_fuse (gs : List Grant) : (fuse gs).IsChain fun a b => ¬ a.Continues b := by
  induction gs with
  | nil => exact .nil
  | cons g gs ih => exact isChain_join ih

/-- **What merging yields is well formed**, whatever the selections: its grants are sound and are
built anew as they are, they ascend by weekday key, start and stop, so that none occurs twice, and
no two neighbours could be joined. -/
theorem ofSelections_wellFormed (sels : List Selection) :
    (∀ g ∈ ofSelections sels, g.Sound ∧ g.remake = .ok g) ∧
    (ofSelections sels).Pairwise (fun g h => g.key < h.key ∨
      g.key = h.key ∧ (g.start < h.start ∨ g.start = h.start ∧ g.stop < h.stop)) ∧
    (ofSelections sels).Nodup ∧
    (ofSelections sels).IsChain fun g h => ¬ (g.weekdays = h.weekdays ∧ g.stop = h.start) := by
  have hascend : (ofSelections sels).Pairwise (· < ·) :=
    pairwise_fuse (fun _ hg => sound_of_mem_picked hg) (pairwise_picked sels)
  refine ⟨?_, hascend, ?_, isChain_fuse _⟩
  · intro g hg
    have hsound := sound_of_mem_ofSelections hg
    exact ⟨hsound, remake_eq_ok_self_iff.2 hsound⟩
  · refine hascend.imp ?_
    rintro g h hlt rfl
    exact lt_asymm g g hlt hlt

end Grant

end AccessWindows
