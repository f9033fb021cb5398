import AccessWindows.Proofs.ExactTexts
import AccessWindows.Proofs.RoundTrip
import AccessWindows.Proofs.HalfHours

/-!
# Values are ordered as their texts

Times and intervals are compared by minutes, and their texts character by character or byte by byte,
with the same outcome. A number of a clock always has two digits, so of two such numbers the smaller
one has the smaller text, and what follows counts only where the numbers agree
(`Digits.padded_append_lt_iff`). A time is the hour and then the minute within it
(`ClockTime.lt_iff_hour_minute`), each with two digits (`ClockTime.text_append_lt_iff`), and an
interval is a time, a tilde and a time (`Interval.text_lt_iff`).

So texts need not be read to be sorted: sorting what is read of them and writing it again gives the
texts sorted by their bytes (`map_sort_of_read`).
-/

set_option autoImplicit false

namespace AccessWindows

/-! ## Fields of two digits -/

/-- Numbers of two digits decide before what follows them. -/
theorem Digits.padded_append_lt_iff {m n : Nat} (hm : m < 60) (hn : n < 60) (xs ys : List Char) :
    padded 2 m ++ xs < padded 2 n ++ ys ↔ m < n ∨ m = n ∧ xs < ys := by
  have htens : m / 10 < 10 ∧ n / 10 < 10 := by omega
  have hones : m % 10 < 10 ∧ n % 10 < 10 := by omega
  have horder : m < n ↔ m / 10 < n / 10 ∨ m / 10 = n / 10 ∧ m % 10 < n % 10 := by omega
  have hsame : m = n ↔ m / 10 = n / 10 ∧ m % 10 = n % 10 := by omega
  rw [padded_two hm, padded_two hn, horder, hsame]
  simp only [List.cons_append, List.nil_append, List.cons_lt_cons_iff,
    digitChar_lt_iff htens.1 htens.2, digitChar_inj htens.1 htens.2,
    digitChar_lt_iff hones.1 hones.2, digitChar_inj hones.1 hones.2]
  simp only [and_or_left, or_assoc, and_assoc]

/-! ## Times -/

namespace ClockTime

/-- Times are compared by the hour, and within an hour by the minute. -/
theorem lt_iff_hour_minute {a b : ClockTime} :
    a < b ↔ a.hour < b.hour ∨ a.hour = b.hour ∧ a.minute < b.minute := by
  rw [lt_iff]
  unfold hour minute
  omega

theorem eq_iff_hour_minute {a b : ClockTime} : a = b ↔ a.hour = b.hour ∧ a.minute = b.minute := by
  rw [ClockTime.ext_iff]
  unfold hour minute
  omega

/-- Times decide before what follows them. -/
theorem text_append_lt_iff (a b : ClockTime) (xs ys : List Char) :
    a.text ++ xs < b.text ++ ys ↔ a < b ∨ a = b ∧ xs < ys := by
  have ha := a.hour_lt
  have hb := b.hour_lt
  rw [text, text, List.append_assoc, List.append_assoc,
    Digits.padded_append_lt_iff (by omega) (by omega), List.cons_append, List.cons_append,
    List.cons_lt_cons_iff, Digits.padded_append_lt_iff a.minute_lt b.minute_lt,
    lt_iff_hour_minute, eq_iff_hour_minute]
  -- the colons agree, so the minutes follow the hours
  simp only [Char.lt_irrefl, false_or, true_and, and_or_left, or_assoc, and_assoc]

theorem text_lt_iff {a b : ClockTime} : a.text < b.text ↔ a < b := by
  have h := text_append_lt_iff a b [] []
  rw [List.append_nil, List.append_nil] at h
  simpa using h

/-- The strings of times are in the order of the times. -/
theorem toString_lt_iff {a b : ClockTime} : toString a < toString b ↔ a < b := by
  show String.ofList a.text < String.ofList b.text ↔ a < b
  rw [String.lt_iff, String.toList_ofList, String.toList_ofList, text_lt_iff]

theorem le_iff_not_lt {a b : ClockTime} : a ≤ b ↔ ¬ b < a := Nat.not_lt.symm

end ClockTime

/-! ## Intervals -/

namespace Interval

theorem text_lt_iff {i j : Interval} : i.text < j.text ↔ i < j := by
  rw [text, text, ClockTime.text_append_lt_iff, List.cons_lt_cons_iff, ClockTime.text_lt_iff]
  show _ ↔ i.start < j.start ∨ i.start = j.start ∧ i.stop < j.stop
  simp only [Char.lt_irrefl, false_or, true_and]

/-- The strings of intervals are in the order of the intervals. -/
theorem toString_lt_iff {i j : Interval} : toString i < toString j ↔ i < j := by
  show String.ofList i.text < String.ofList j.text ↔ i < j
  rw [String.lt_iff, String.toList_ofList, String.toList_ofList, text_lt_iff]

theorem le_iff_not_lt {i j : Interval} : i ≤ j ↔ ¬ j < i := by
  show (i.start < j.start ∨ i.start = j.start ∧ i.stop ≤ j.stop) ↔ _
  rw [lt_iff, ClockTime.lt_iff, ClockTime.le_iff, ClockTime.ext_iff]
  omega

end Interval

/-- **The half hours of a day are written in the order of their texts**, and none of them twice. -/
theorem Selection.pairwise_toString {gs : List Grant} {s : Selection} (hs : s ∈ ofGrants gs) :
    (s.intervals.map toString).Pairwise (· < ·) := by
  have hslots : s.intervals = slotsOn gs s.day := (mem_perDay.1 hs).2
  rw [hslots, List.pairwise_map]
  exact (pairwise_slotsOn gs s.day).imp Interval.toString_lt_iff.2

/-! ## Sorting -/

/-- The strings of a list in the order of their bytes; equal ones are kept. -/
def Bytes.sort (texts : List String) : List String :=
  texts.mergeSort fun s t => decide (s.toUTF8.data.toList ≤ t.toUTF8.data.toList)

/-- Sorting gives the one arrangement of the strings that ascends. -/
theorem Bytes.sort_eq_of_perm {texts sorted : List String} (perm : sorted.Perm texts)
    (ascend : sorted.Pairwise (· ≤ ·)) : sort texts = sorted := by
  -- bytes compare as strings do, and any two strings compare
  have hbytes : ∀ s t : String, decide (s.toUTF8.data.toList ≤ t.toUTF8.data.toList) = decide (s ≤ t) := by
    intro s t
    rw [decide_eq_decide, ← List.not_lt, data_toUTF8_lt_iff, String.not_lt]
  have hsort : (sort texts).Pairwise (· ≤ ·) := by
    simp only [sort, hbytes]
    refine (List.pairwise_mergeSort ?_ ?_ texts).imp of_decide_eq_true
    · intro s t u hst htu
      exact decide_eq_true (String.le_trans (of_decide_eq_true hst) (of_decide_eq_true htu))
    · intro s t
      simpa using String.le_total s t
  apply ((List.mergeSort_perm texts _).trans perm.symm).eq_of_pairwise _ hsort ascend
  intro s t _ _ hst hts
  exact String.le_antisymm hst hts

section Sorting

variable {α : Type} [ToString α] {read : String → Except Fault α}
  (reads : ∀ {s : String} {a : α}, read s = .ok a ↔ s = toString a)

include reads

/-- Values that are read from their texts have texts of their own. -/
theorem toString_inj_of_reads {a b : α} : toString a = toString b ↔ a = b := by
  refine ⟨fun h => ?_, congrArg toString⟩
  exact Except.ok.inj ((reads.2 rfl).symm.trans (reads.2 h))

/-- A list of texts is read as a list of values if they are the texts of these values. -/
theorem mapM_eq_ok_iff_of_reads {texts : List String} {as : List α} :
    texts.mapM read = .ok as ↔ texts = as.map toString := by
  rw [mapM_eq_ok_iff]
  simp only [reads]
  rw [← List.forall₂_map_right_iff, List.forall₂_eq_eq_eq]

variable [LT α] [LE α] [DecidableLE α]
  (keeps : ∀ {a b : α}, toString a < toString b ↔ a < b)
  (total : ∀ {a b : α}, a ≤ b ↔ ¬ b < a)

include keeps total

/-- What is read of texts, sorted and written again, is the texts sorted by their bytes. -/
theorem map_sort_of_read {texts : List String} {as : List α} (h : texts.mapM read = .ok as) :
    (as.mergeSort fun a b => decide (a ≤ b)).map toString = Bytes.sort texts := by
  obtain rfl := (mapM_eq_ok_iff_of_reads reads).1 h
  -- sorting commutes with writing, since all comparisons have the same outcome
  apply List.map_mergeSort
  intro a _ b _
  rw [decide_eq_decide, total, ← keeps, ← Bytes.data_toUTF8_lt_iff, List.not_lt]

end Sorting

/-- **Values are ordered as their texts.** Of two times the earlier one has the smaller string, whether
strings are compared character by character or byte by byte, and different times have different strings;
and likewise two intervals, of which the one that starts earlier comes first, or of two that start together
the one that stops earlier. So for any list of texts that are all read as times, or all as intervals,
sorting what is read and writing it again gives the texts sorted by their bytes. -/
theorem values_ordered_as_texts :
    (∀ a b : ClockTime, (toString a < toString b ↔ a < b) ∧
      ((toString a).toUTF8.data.toList < (toString b).toUTF8.data.toList ↔ a < b) ∧
      (toString a = toString b ↔ a = b)) ∧
    (∀ i j : Interval, (toString i < toString j ↔ i < j) ∧
      ((toString i).toUTF8.data.toList < (toString j).toUTF8.data.toList ↔ i < j) ∧
      (toString i = toString j ↔ i = j)) ∧
    (∀ texts : List String, (∀ s ∈ texts, ∃ t, ClockTime.ofString s = .ok t) →
      ∃ ts, texts.mapM ClockTime.ofString = .ok ts ∧
        (ClockTime.sort ts).map toString = Bytes.sort texts) ∧
    ∀ texts : List String, (∀ s ∈ texts, ∃ i, Interval.ofString s = .ok i) →
      ∃ is, texts.mapM Interval.ofString = .ok is ∧
        (Interval.sort is).map toString = Bytes.sort texts := by
  refine ⟨?_, ?_, ?_, ?_⟩
  · intro a b
    refine ⟨ClockTime.toString_lt_iff, ?_, toString_inj_of_reads ClockTime.ofString_eq_ok_iff⟩
    rw [Bytes.data_toUTF8_lt_iff, ClockTime.toString_lt_iff]
  · intro i j
    refine ⟨Interval.toString_lt_iff, ?_, toString_inj_of_reads Interval.ofString_eq_ok_iff⟩
    rw [Bytes.data_toUTF8_lt_iff, Interval.toString_lt_iff]
  · intro texts valid
    obtain ⟨ts, hts⟩ := exists_mapM_eq_ok_iff.2 valid
    exact ⟨ts, hts, map_sort_of_read ClockTime.ofString_eq_ok_iff ClockTime.toString_lt_iff
      ClockTime.le_iff_not_lt hts⟩
  · intro texts valid
    obtain ⟨is, his⟩ := exists_mapM_eq_ok_iff.2 valid
    exact ⟨is, his, map_sort_of_read Interval.ofString_eq_ok_iff Interval.toString_lt_iff
      Interval.le_iff_not_lt his⟩

/-- Times out of order, one of them twice. -/
def shuffledTimes : List String := ["13:00", "09:30", "00:00", "23:59", "09:00", "09:30"]

/-- Intervals out of order, two of which start together. -/
def shuffledIntervals : List String := ["10:00~10:30", "09:30~23:59", "09:30~10:00", "00:00~00:01"]

theorem values_ordered_shuffledTexts :
    (∀ s ∈ shuffledTimes, ∃ t, ClockTime.ofString s = .ok t) ∧
    (∃ ts, shuffledTimes.mapM ClockTime.ofString = .ok ts ∧ (ClockTime.sort ts).map toString =
      ["00:00", "09:00", "09:30", "09:30", "13:00", "23:59"]) ∧
    (∀ s ∈ shuffledIntervals, ∃ i, Interval.ofString s = .ok i) ∧
    ∃ is, shuffledIntervals.mapM Interval.ofString = .ok is ∧ (Interval.sort is).map toString =
      ["00:00~00:01", "09:30~10:00", "09:30~23:59", "10:00~10:30"] := by
  have times : ∀ s ∈ shuffledTimes, ∃ t, ClockTime.ofString s = .ok t := by
    simp only [shuffledTimes, List.forall_mem_cons]
    exact ⟨⟨_, rfl⟩, ⟨_, rfl⟩, ⟨_, rfl⟩, ⟨_, rfl⟩, ⟨_, rfl⟩, ⟨_, rfl⟩, by simp⟩
  have intervals : ∀ s ∈ shuffledIntervals, ∃ i, Interval.ofString s = .ok i := by
    simp only [shuffledIntervals, List.forall_mem_cons]
    exact ⟨⟨_, rfl⟩, ⟨_, rfl⟩, ⟨_, rfl⟩, ⟨_, rfl⟩, by simp⟩
  obtain ⟨-, -, sortedTimes, sortedIntervals⟩ := values_ordered_as_texts
  obtain ⟨ts, hts, htimes⟩ := sortedTimes _ times
  obtain ⟨is, his, hintervals⟩ := sortedIntervals _ intervals
  refine ⟨times, ⟨ts, hts, ?_⟩, intervals, is, his, ?_⟩
  · rw [htimes]
    exact Bytes.sort_eq_of_perm (by decide) (by decide)
  · rw [hintervals]
    exact Bytes.sort_eq_of_perm (by decide) (by decide)

end AccessWindows
