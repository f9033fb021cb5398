import AccessWindows.Proofs.Encoding
import AccessWindows.Proofs.Fusion

/-!
# Weekday keys keep the order of weekdays

A weekday key is compared as text, character by character or byte by byte, and yet it stands for the
weekdays: two keys compare as the lists of weekday numbers do (`weekdayKey_lt_iff`), since every
weekday is one digit and a key that goes on goes on with a comma. So in a list that is sorted by key, the
grants on the same weekdays stand together (`Grant.grouped_of_pairwise`), and one pass over neighbours
sees them all.

Grants that are picked are sorted by key and then by start; the sort is stable, so of grants that agree in
both the one that stops earlier comes first. The outcome is the order of grants (`Grant.mergeSort_candidates`).
-/

set_option autoImplicit false

namespace AccessWindows

/-! ## Comparing keys -/

/-- What a key has behind its first weekday: a comma in front of each further one. -/
def keyTail (days : List Weekday) : List Char :=
  days.flatMap fun d => [',', Nat.digitChar d.number]

theorem keyTail_cons (d : Weekday) (days : List Weekday) :
    keyTail (d :: days) = ',' :: Nat.digitChar d.number :: keyTail days := List.flatMap_cons

theorem weekdayKey_cons (d : Weekday) (days : List Weekday) :
    weekdayKey (d :: days) = Nat.digitChar d.number :: keyTail days := by
  induction days generalizing d with
  | nil => exact weekdayKey_singleton d
  | cons e days ih => rw [weekdayKey_cons_cons, ih, keyTail_cons]

/-- The digits of weekdays are in the order of the weekdays. -/
theorem Weekday.digitChar_lt_iff (d e : Weekday) :
    Nat.digitChar d.number < Nat.digitChar e.number ↔ d.number < e.number :=
  Digits.digitChar_lt_iff d.number_lt_ten e.number_lt_ten

theorem Weekday.digitChar_eq_iff (d e : Weekday) :
    Nat.digitChar d.number = Nat.digitChar e.number ↔ d.number = e.number :=
  Digits.digitChar_inj d.number_lt_ten e.number_lt_ten

theorem keyTail_lt_iff (as bs : List Weekday) :
    keyTail as < keyTail bs ↔ as.map Weekday.number < bs.map Weekday.number := by
  -- the commas agree and the digits decide, unless they agree too
  induction as generalizing bs with
  | nil =>
      cases bs with
      | nil => exact iff_of_false (List.not_lt_nil _) (List.not_lt_nil _)
      | cons b bs => exact iff_of_true (List.nil_lt_cons _ _) (List.nil_lt_cons _ _)
  | cons a as ih =>
      cases bs with
      | nil => exact iff_of_false (List.not_lt_nil _) (List.not_lt_nil _)
      | cons b bs =>
          simp only [keyTail_cons, List.map_cons, List.cons_lt_cons_iff, Char.lt_irrefl,
            Weekday.digitChar_lt_iff, Weekday.digitChar_eq_iff, ih, false_or, true_and]

/-- Keys compare as the lists of weekday numbers do. -/
theorem weekdayKey_lt_iff (as bs : List Weekday) :
    weekdayKey as < weekdayKey bs ↔ as.map Weekday.number < bs.map Weekday.number := by
  cases as with
  | nil =>
      cases bs with
      | nil => exact iff_of_false (List.not_lt_nil _) (List.not_lt_nil _)
      | cons b bs =>
          rw [weekdayKey_cons]
          exact iff_of_true (List.nil_lt_cons _ _) (List.nil_lt_cons _ _)
  | cons a as =>
      cases bs with
      | nil => exact iff_of_false (List.not_lt_nil _) (List.not_lt_nil _)
      | cons b bs =>
          simp only [weekdayKey_cons, List.map_cons, List.cons_lt_cons_iff, Weekday.digitChar_lt_iff,
            Weekday.digitChar_eq_iff, keyTail_lt_iff as bs]

example : weekdayKey [.monday, .tuesday] < weekdayKey [.monday, .tuesday, .wednesday] ∧
    weekdayKey [.monday, .tuesday, .wednesday] < weekdayKey [.tuesday] := by decide

/-- The bytes of keys compare as the lists of weekday numbers do. -/
theorem encode_weekdayKey_lt_iff (as bs : List Weekday) :
    Bytes.encode (weekdayKey as) < Bytes.encode (weekdayKey bs) ↔
      as.map Weekday.number < bs.map Weekday.number :=
  Bytes.encode_lt_iff.trans (weekdayKey_lt_iff as bs)

/-! ## Sorting by key -/

namespace Grant

/-- Whether grants on the same weekdays stand together: what stands between two of them is on the same
weekdays as well. -/
def Grouped (gs : List Grant) : Prop :=
  ∀ g k h, [g, k, h].Sublist gs → g.weekdays = h.weekdays → k.weekdays = g.weekdays

/-- The order in which grants are sorted: by key, and by start where the keys agree. -/
def comesFirst (g h : Grant) : Bool :=
  decide (g.key < h.key ∨ g.key = h.key ∧ g.start ≤ h.start)

theorem comesFirst_iff {g h : Grant} :
    comesFirst g h = true ↔ g.key < h.key ∨ g.key = h.key ∧ g.start.minutes ≤ h.start.minutes :=
  decide_eq_true_iff

theorem comesFirst_trans (g h k : Grant) (hgh : comesFirst g h = true) (hhk : comesFirst h k = true) :
    comesFirst g k = true := by
  rw [comesFirst_iff] at *
  rcases hgh with hkey | ⟨hkey, hstart⟩
  · rcases hhk with hkey' | ⟨hkey', -⟩
    · exact .inl (List.lt_trans hkey hkey')
    · exact .inl (hkey' ▸ hkey)
  · rcases hhk with hkey' | ⟨hkey', hstart'⟩
    · exact .inl (hkey ▸ hkey')
    · exact .inr ⟨hkey.trans hkey', Nat.le_trans hstart hstart'⟩

theorem comesFirst_total (g h : Grant) : (comesFirst g h || comesFirst h g) = true := by
  rw [Bool.or_eq_true, comesFirst_iff, comesFirst_iff]
  rcases key_lt_or_eq_or_gt g h with hkey | hkey | hkey
  · exact .inl (.inl hkey)
  · rcases Nat.le_total g.start.minutes h.start.minutes with hstart | hstart
    · exact .inl (.inr ⟨hkey, hstart⟩)
    · exact .inr (.inr ⟨hkey.symm, hstart⟩)
  · exact .inr (.inl hkey)

/-- In a list that is sorted by key, grants on the same weekdays stand together. -/
theorem grouped_of_pairwise {gs : List Grant} (sorted : gs.Pairwise fun g h => ¬ h.key < g.key) :
    Grouped gs := by
  intro g k h hsub hdays
  have hkey := key_eq_of_weekdays_eq hdays
  obtain ⟨hfirst, hrest⟩ := List.pairwise_cons.1 (sorted.sublist hsub)
  have hgk := hfirst k List.mem_cons_self
  have hkh := (List.pairwise_cons.1 hrest).1 h (List.mem_singleton_self h)
  -- the key between two equal ones is neither smaller than the first nor greater than the second
  rcases key_lt_or_eq_or_gt k g with hlt | heq | hgt
  · exact absurd hlt hgk
  · exact weekdays_eq_of_key_eq heq
  · exact absurd (hkey ▸ hgt) hkh

theorem pairwise_mergeSort_comesFirst (gs : List Grant) :
    (gs.mergeSort comesFirst).Pairwise fun g h => comesFirst g h = true :=
  List.pairwise_mergeSort comesFirst_trans comesFirst_total gs

/-- Sorting puts grants on the same weekdays together. -/
theorem grouped_mergeSort (gs : List Grant) : Grouped (gs.mergeSort comesFirst) := by
  refine grouped_of_pairwise ((pairwise_mergeSort_comesFirst gs).imp ?_)
  intro g h hgh hlt
  rcases comesFirst_iff.1 hgh with hkey | ⟨hkey, -⟩
  · exact List.lt_irrefl g.key (List.lt_trans hkey hlt)
  · exact List.lt_irrefl g.key (hkey ▸ hlt)

/-- Whether a grant has the key and the start of another, so that the sort does not tell them apart. -/
def agrees (g k : Grant) : Bool := decide (k.key = g.key ∧ k.start = g.start)

/-- The sort is stable: grants that agree in key and start keep their order. -/
theorem sublist_of_mergeSort {gs : List Grant} {g h : Grant}
    (hsub : [g, h].Sublist (gs.mergeSort comesFirst)) (hgh : g.agrees h = true) :
    [g, h].Sublist gs := by
  -- the grants that agree are sorted as they are, and the sort leaves such a part of the list alone
  have hsorted : (gs.filter g.agrees).Pairwise fun k l => comesFirst k l = true := by
    refine List.pairwise_of_forall_mem_list fun k hk l hl => comesFirst_iff.2 (.inr ?_)
    obtain ⟨hkey, hstart⟩ := of_decide_eq_true (List.mem_filter.1 hk).2
    obtain ⟨hkey', hstart'⟩ := of_decide_eq_true (List.mem_filter.1 hl).2
    exact ⟨hkey.trans hkey'.symm, Nat.le_of_eq (congrArg _ (hstart.trans hstart'.symm))⟩
  have hpart := (List.sublist_mergeSort comesFirst_trans comesFirst_total hsorted
    List.filter_sublist).filter g.agrees
  have hall : gs.filter g.agrees = (gs.mergeSort comesFirst).filter g.agrees := by
    rw [List.filter_filter] at hpart
    simp only [Bool.and_self] at hpart
    exact hpart.eq_of_length ((List.mergeSort_perm gs comesFirst).filter g.agrees).symm.length_eq
  have hboth : [g, h].filter g.agrees = [g, h] := by
    have hg : g.agrees g = true := decide_eq_true ⟨rfl, rfl⟩
    rw [List.filter_cons_of_pos hg, List.filter_cons_of_pos hgh, List.filter_nil]
  have hpair := hsub.filter g.agrees
  rw [hboth, ← hall] at hpair
  exact hpair.trans List.filter_sublist

/-! ## Sorting picked grants -/

/-- One grant for each interval picked, in the order of the intervals. -/
def candidates (sels : List Selection) : List Grant :=
  (windows sels).map fun i => ⟨daysPicking sels i, i.start, i.stop⟩

/-- Of candidates on the same weekdays with the same start, the one that stops earlier stands first. -/
theorem stop_lt_of_sublist {sels : List Selection} {g h : Grant}
    (hsub : [g, h].Sublist (candidates sels)) (hstart : g.start = h.start) :
    g.stop.minutes < h.stop.minutes := by
  have ascend : (candidates sels).Pairwise fun g h =>
      g.start.minutes < h.start.minutes ∨
        g.start.minutes = h.start.minutes ∧ g.stop.minutes < h.stop.minutes :=
    List.pairwise_map.2 ((Interval.pairwise_ofList _).imp Interval.lt_iff.1)
  have hpair := List.pairwise_iff_forall_sublist.1 ascend hsub
  rw [hstart] at hpair
  omega

/-- **A stable sort puts the candidates in the order of grants.** -/
theorem mergeSort_candidates (sels : List Selection) :
    (candidates sels).mergeSort comesFirst = picked sels := by
  have ascend : ((candidates sels).mergeSort comesFirst).Pairwise (· < ·) := by
    rw [List.pairwise_iff_forall_sublist]
    intro g h hsub
    rcases comesFirst_iff.1 (List.pairwise_iff_forall_sublist.1 (pairwise_mergeSort_comesFirst _) hsub)
      with hkey | ⟨hkey, hstart⟩
    · exact lt_iff.2 (.inl hkey)
    · refine lt_iff.2 (.inr ⟨hkey, ?_⟩)
      rcases Nat.lt_or_eq_of_le hstart with hlt | heq
      · exact .inl hlt
      · have hsame : g.start = h.start := ClockTime.ext heq
        exact .inr ⟨heq, stop_lt_of_sublist
          (sublist_of_mergeSort hsub (decide_eq_true ⟨hkey.symm, hsame.symm⟩)) hsame⟩
  refine Ascending.eq_of_mem_iff lt_asymm ascend (pairwise_picked sels) fun g => ?_
  rw [List.mem_mergeSort, picked, Ascending.mem_ofList]
  rfl

end Grant

/-- **The weekday key is a faithful sort key.** Whatever the lists of weekdays, two keys compare as the
lists of weekday numbers do, as texts and byte by byte, and equal keys are keys of equal lists. So sorting
grants by key puts those on the same weekdays together, and no others among them; and sorting the
candidates for merging gives them in the order in which they are joined. -/
theorem weekdayKey_faithful :
    (∀ as bs : List Weekday,
      (String.ofList (weekdayKey as) < String.ofList (weekdayKey bs) ↔
        as.map Weekday.number < bs.map Weekday.number) ∧
      ((String.ofList (weekdayKey as)).toUTF8.data.toList < (String.ofList (weekdayKey bs)).toUTF8.data.toList ↔
        as.map Weekday.number < bs.map Weekday.number) ∧
      (String.ofList (weekdayKey as) = String.ofList (weekdayKey bs) ↔ as = bs)) ∧
    (∀ gs : List Grant, Grant.Grouped (gs.mergeSort Grant.comesFirst)) ∧
    ∀ sels, (Grant.candidates sels).mergeSort Grant.comesFirst = Grant.picked sels ∧
      Grant.Grouped (Grant.picked sels) := by
  refine ⟨fun as bs => ⟨?_, ?_, ?_⟩, Grant.grouped_mergeSort, fun sels => ?_⟩
  · rw [String.lt_iff, String.toList_ofList, String.toList_ofList]
    exact weekdayKey_lt_iff as bs
  · rw [Bytes.data_toUTF8, Bytes.data_toUTF8, String.toList_ofList, String.toList_ofList]
    exact encode_weekdayKey_lt_iff as bs
  · rw [← String.toList_inj, String.toList_ofList, String.toList_ofList]
    exact ⟨weekdayKey_injective, congrArg weekdayKey⟩
  · have hsort := Grant.mergeSort_candidates sels
    exact ⟨hsort, hsort ▸ Grant.grouped_mergeSort _⟩

end AccessWindows
