import AccessWindows.Proofs.HalfHours
import Mathlib.Algebra.Order.Floor.Div

/-!
# Half hours call by call

A window that is cut into half hours is asked for one interval after the other, and may be asked
again when it is used up. Each call takes the first of the intervals to come (`toList_call`), so the
answer to any call is known from their list (`answer_eq`), and the number that is announced goes
down by one with each call until it is zero (`remaining_after`). That gives all answers in closed
form (`answer_of_lt`, `answer_of_le`), and that they tile the window (`calls_tile_window`).

In memory a window is two words of sixteen bits. A call adds thirty to one of them, and the sum is a
word in every call of every run (`Cursor.calls?_ofHalfHours`), since it is only formed before the end
of the window, which lies within the day.
-/

set_option autoImplicit false

namespace AccessWindows

namespace HalfHours

/-! ## Calls and their answers -/

/-- One call: the next interval if there is one, and what is left behind it. A window that is used up
stays as it is. -/
def call (h : HalfHours) : Option Interval × HalfHours :=
  match h.next? with
  | none => (none, h)
  | some (i, rest) => (some i, rest)

/-- What is left after `k` calls. -/
def after : Nat → HalfHours → HalfHours
  | 0, h => h
  | k + 1, h => after k h.call.2

/-- The answer to the call behind `k` earlier ones. -/
def answer (h : HalfHours) (k : Nat) : Option Interval := (h.after k).call.1

theorem call_of_lt {h : HalfHours} (left : h.next < h.stop) :
    h.call = (some ⟨h.next, h.cut, next_lt_cut left⟩, h.rest) := by
  rw [call, next?_of_lt left]

theorem call_of_not_lt {h : HalfHours} (used : ¬ h.next < h.stop) : h.call = (none, h) := by
  rw [call, next?, dif_neg used]

/-- A call takes the first of the intervals to come. -/
theorem toList_call (h : HalfHours) :
    h.call.1 = h.toList.head? ∧ h.call.2.toList = h.toList.tail := by
  by_cases left : h.next < h.stop
  · rw [call_of_lt left, toList_of_lt left]
    exact ⟨rfl, rfl⟩
  · rw [call_of_not_lt left, toList_of_not_lt left]
    exact ⟨rfl, rfl⟩

/-- A number of calls takes as many of the intervals to come. -/
theorem toList_after (h : HalfHours) (k : Nat) : (h.after k).toList = h.toList.drop k := by
  induction k generalizing h with
  | zero => rfl
  | succ k ih =>
      -- the first call is made on `h`, the others on what it leaves
      show (h.call.2.after k).toList = _
      rw [ih, h.toList_call.2, List.drop_tail]

theorem answer_eq (h : HalfHours) (k : Nat) : h.answer k = h.toList[k]? := by
  rw [answer, (h.after k).toList_call.1, toList_after, List.head?_drop]

/-- The number of intervals to come goes down with each call, and stays at zero. -/
theorem remaining_after (h : HalfHours) (k : Nat) : (h.after k).remaining = h.remaining - k := by
  rw [← length_toList, toList_after, List.length_drop, length_toList]

/-! ## The answers in closed form -/

/-- The number of intervals is the length of the window in half hours, rounded up. -/
theorem remaining_eq_ceilDiv (h : HalfHours) :
    h.remaining = (h.stop.minutes - h.next.minutes) ⌈/⌉ 30 := by
  rw [Nat.ceilDiv_eq_add_pred_div]
  rfl

/-- Before the window is used up, the answer is the next half hour, clipped to the end. -/
theorem answer_of_lt {h : HalfHours} {k : Nat} (hk : k < h.remaining) :
    ∃ i, h.answer k = some i ∧ i.start.minutes = h.next.minutes + 30 * k ∧
      i.stop.minutes = min (h.next.minutes + 30 * (k + 1)) h.stop.minutes := by
  rw [← length_toList] at hk
  have hget := List.getElem?_eq_getElem hk
  obtain ⟨hstart, -, hstop⟩ := getElem?_toList_eq_some_iff.1 hget
  refine ⟨_, (h.answer_eq k).trans hget, hstart, ?_⟩
  rw [hstop, hstart]
  omega

theorem answer_of_le {h : HalfHours} {k : Nat} (hk : h.remaining ≤ k) : h.answer k = none := by
  rw [answer_eq, List.getElem?_eq_none_iff, length_toList]
  exact hk

/-- The intervals of a window are the answers to as many calls as it announces. -/
theorem map_some_toList (h : HalfHours) : h.toList.map some = (List.range h.remaining).map h.answer := by
  refine List.ext_getElem ?_ fun k hk _ => ?_
  · rw [List.length_map, List.length_map, List.length_range, length_toList]
  · rw [List.length_map] at hk
    rw [List.getElem_map, List.getElem_map, List.getElem_range, answer_eq, List.getElem?_eq_getElem hk]

theorem answer_eq_some_iff {h : HalfHours} {k : Nat} {i : Interval} :
    h.answer k = some i ↔ i.start.minutes = h.next.minutes + 30 * k ∧
      i.start.minutes < h.stop.minutes ∧
      i.stop.minutes = min (i.start.minutes + 30) h.stop.minutes := by
  rw [answer_eq]
  exact getElem?_toList_eq_some_iff

/-- An interval ends where the next one starts, and only the last is clipped. -/
theorem answer_touches {h : HalfHours} {k : Nat} {i j : Interval} (hi : h.answer k = some i)
    (hj : h.answer (k + 1) = some j) : i.stop = j.start ∧ i.minutes = 30 := by
  obtain ⟨hstart, -, hstop⟩ := answer_eq_some_iff.1 hi
  obtain ⟨hstart', hinside, -⟩ := answer_eq_some_iff.1 hj
  refine ⟨ClockTime.ext (by omega), ?_⟩
  show i.stop.minutes - i.start.minutes = 30
  omega

/-- The minutes of the window, and no others, lie in an interval that some call gives. -/
theorem exists_answer_holds {h : HalfHours} {m : Nat} :
    (∃ k i, h.answer k = some i ∧ i.Holds m) ↔ h.next.minutes ≤ m ∧ m < h.stop.minutes := by
  rw [← exists_mem_toList_holds]
  constructor
  · rintro ⟨k, i, hi, hholds⟩
    rw [answer_eq] at hi
    exact ⟨i, List.mem_of_getElem? hi, hholds⟩
  · rintro ⟨i, hi, hholds⟩
    obtain ⟨k, hk⟩ := List.mem_iff_getElem?.1 hi
    exact ⟨k, i, (h.answer_eq k).trans hk, hholds⟩

/-- A minute lies in the interval of one call only. -/
theorem eq_of_answer_holds {h : HalfHours} {k l : Nat} {i j : Interval} {m : Nat}
    (hi : h.answer k = some i) (hj : h.answer l = some j) (hm : i.Holds m) (hm' : j.Holds m) :
    k = l := by
  -- both intervals start a number of half hours after the window and last half an hour at most
  obtain ⟨hstart, -, hstop⟩ := answer_eq_some_iff.1 hi
  obtain ⟨hstart', -, hstop'⟩ := answer_eq_some_iff.1 hj
  obtain ⟨hfrom, hto⟩ := hm
  obtain ⟨hfrom', hto'⟩ := hm'
  omega

end HalfHours

/-! ## Calls on words -/

/-- What is left of a window, as it is kept in memory. -/
structure Cursor where
  next : UInt16
  stop : UInt16

namespace Cursor

/-- The sum of two words, if it is a word. -/
def sum? (a b : UInt16) : Option UInt16 :=
  if a.toNat + b.toNat < UInt16.size then some (a + b) else none

/-- One call: the words of the next interval if there is one, and what is left behind it; or nothing
at all if a sum is too large for a word. -/
def call? (c : Cursor) : Option (Option (UInt16 × UInt16) × Cursor) :=
  if c.stop ≤ c.next then some (none, c)
  else do
    let cut ← sum? c.next 30
    let stop := min cut c.stop
    return (some (c.next, stop), ⟨stop, c.stop⟩)

/-- The answers to a number of calls, and what is left behind them. -/
def calls? : Nat → Cursor → Option (List (Option (UInt16 × UInt16)) × Cursor)
  | 0, c => some ([], c)
  | k + 1, c => do
      let (answer, c) ← c.call?
      let (answers, c) ← calls? k c
      return (answer :: answers, c)

/-- The number of intervals that is announced; a difference below zero counts as zero. -/
def announced (c : Cursor) : Nat :=
  (if c.next ≤ c.stop then (c.stop - c.next).toNat else 0) ⌈/⌉ 30

/-- A time as a word. -/
def wordOf (t : ClockTime) : UInt16 := .ofNat t.minutes

/-- A window in memory. -/
def ofHalfHours (h : HalfHours) : Cursor := ⟨wordOf h.next, wordOf h.stop⟩

/-- An interval in memory. -/
def wordsOf (i : Interval) : UInt16 × UInt16 := (wordOf i.start, wordOf i.stop)

@[simp] theorem toNat_wordOf (t : ClockTime) : (wordOf t).toNat = t.minutes := by
  have hday := t.minutes_lt
  exact UInt16.toNat_ofNat_of_lt' (Nat.lt_trans hday (by decide))

theorem wordOf_le_wordOf {s t : ClockTime} : wordOf s ≤ wordOf t ↔ s.minutes ≤ t.minutes := by
  rw [UInt16.le_iff_toNat_le, toNat_wordOf, toNat_wordOf]

theorem announced_ofHalfHours (h : HalfHours) : (ofHalfHours h).announced = h.remaining := by
  rw [HalfHours.remaining_eq_ceilDiv, announced]
  congr 1
  show (if wordOf h.next ≤ wordOf h.stop then (wordOf h.stop - wordOf h.next).toNat else 0) = _
  by_cases hle : wordOf h.next ≤ wordOf h.stop
  · rw [if_pos hle, UInt16.toNat_sub_of_le _ _ hle, toNat_wordOf, toNat_wordOf]
  · rw [if_neg hle]
    rw [wordOf_le_wordOf] at hle
    omega

/-- Half an hour after a time of the day is a word. -/
theorem sum?_wordOf (t : ClockTime) : sum? (wordOf t) 30 = some (.ofNat (t.minutes + 30)) := by
  have hday := t.minutes_lt
  have hword : (wordOf t).toNat + (30 : UInt16).toNat < UInt16.size := by
    rw [toNat_wordOf]
    show t.minutes + 30 < 65536
    omega
  rw [sum?, if_pos hword, wordOf, UInt16.ofNat_add]
  rfl

/-- The cut on words is the cut of the window. -/
theorem min_ofNat_wordOf (h : HalfHours) :
    min (.ofNat (h.next.minutes + 30)) (wordOf h.stop) = wordOf h.cut := by
  have hday := h.next.minutes_lt
  have hsum : (UInt16.ofNat (h.next.minutes + 30)).toNat = h.next.minutes + 30 :=
    UInt16.toNat_ofNat_of_lt' (Nat.lt_trans (Nat.add_lt_add_right hday 30) (by decide))
  have hcut := h.minutes_cut
  rw [← UInt16.toNat_inj, toNat_wordOf, hcut]
  show (if UInt16.ofNat (h.next.minutes + 30) ≤ wordOf h.stop then _ else _ : UInt16).toNat = _
  by_cases hle : UInt16.ofNat (h.next.minutes + 30) ≤ wordOf h.stop
  · rw [if_pos hle, hsum]
    rw [UInt16.le_iff_toNat_le, hsum, toNat_wordOf] at hle
    omega
  · rw [if_neg hle, toNat_wordOf]
    rw [UInt16.le_iff_toNat_le, hsum, toNat_wordOf] at hle
    omega

/-- A call on words is a call. -/
theorem call?_ofHalfHours (h : HalfHours) :
    (ofHalfHours h).call? = some (h.call.1.map wordsOf, ofHalfHours h.call.2) := by
  show (if wordOf h.stop ≤ wordOf h.next then _ else _) = _
  by_cases left : h.next < h.stop
  · have hwords : ¬ wordOf h.stop ≤ wordOf h.next := by
      rw [wordOf_le_wordOf]
      exact Nat.not_le_of_lt left
    rw [if_neg hwords, HalfHours.call_of_lt left]
    show ((sum? (wordOf h.next) 30).bind fun cut => some (some (wordOf h.next, min cut (wordOf h.stop)),
      Cursor.mk (min cut (wordOf h.stop)) (wordOf h.stop))) = _
    rw [sum?_wordOf, Option.bind_some, min_ofNat_wordOf]
    rfl
  · have hwords : wordOf h.stop ≤ wordOf h.next := wordOf_le_wordOf.2 (Nat.le_of_not_lt left)
    rw [if_pos hwords, HalfHours.call_of_not_lt left]
    rfl

/-- **A run on words is a run**: no sum is too large in any number of calls, and the answers are those
of the window. -/
theorem calls?_ofHalfHours (h : HalfHours) (k : Nat) :
    (ofHalfHours h).calls? k =
      some ((List.range k).map fun j => (h.answer j).map wordsOf, ofHalfHours (h.after k)) := by
  induction k generalizing h with
  | zero => rfl
  | succ k ih =>
      -- what a call leaves is a window in memory again, so the next call does not fail either
      rw [calls?, call?_ofHalfHours]
      show ((ofHalfHours h.call.2).calls? k).bind _ = _
      rw [ih, List.range_succ_eq_map, List.map_cons, List.map_map]
      rfl

/-- The words that a run yields are times of the day, and those of an interval are in order. -/
theorem lt_of_mem_calls? {h : HalfHours} {k : Nat} {answers : List (Option (UInt16 × UInt16))}
    {left : Cursor} (run : (ofHalfHours h).calls? k = some (answers, left)) {first last : UInt16}
    (hmem : some (first, last) ∈ answers) : first.toNat < last.toNat ∧ last.toNat < 1440 := by
  rw [calls?_ofHalfHours, Option.some.injEq, Prod.mk.injEq] at run
  obtain ⟨rfl, -⟩ := run
  obtain ⟨j, -, hj⟩ := List.mem_map.1 hmem
  obtain ⟨i, -, hi⟩ := Option.map_eq_some_iff.1 hj
  obtain ⟨rfl, rfl⟩ := Prod.mk.inj hi
  rw [toNat_wordOf, toNat_wordOf]
  exact ⟨i.start_lt_stop, i.stop.minutes_lt⟩

end Cursor

/-! ## The whole run -/

/-- **The calls tile the window.** Let `n` be the length of a window in half hours, rounded up, and zero
if it is reversed. The first `n` calls give an interval each, the `k`-th one `k` half hours after the
start, half an hour long or clipped to the end, and every further call gives none; these are the
intervals that the window is cut into. They are not empty, each but the last lasts half an hour and
ends where the next one starts, and they hold each minute of the window once and no other minute. What
is announced before the first call and after every call is the number of intervals to come. All of it
can be done in words of sixteen bits: no sum is too large for one, and no time reaches the end of the
day. -/
theorem calls_tile_window (start stop : ClockTime) :
    let h : HalfHours := ⟨start, stop⟩
    let n := (stop.minutes - start.minutes) ⌈/⌉ 30
    (∀ k, k < n → ∃ i, h.answer k = some i ∧ i.start.minutes = start.minutes + 30 * k ∧
      i.stop.minutes = min (start.minutes + 30 * (k + 1)) stop.minutes) ∧
    (∀ k, n ≤ k → h.answer k = none) ∧
    h.toList.map some = (List.range n).map h.answer ∧
    (∀ k i, h.answer k = some i → i.start < i.stop) ∧
    (∀ k i j, h.answer k = some i → h.answer (k + 1) = some j → i.stop = j.start ∧ i.minutes = 30) ∧
    (∀ m, (∃ k i, h.answer k = some i ∧ i.Holds m) ↔ start.minutes ≤ m ∧ m < stop.minutes) ∧
    (∀ k l i j m, h.answer k = some i → h.answer l = some j → i.Holds m → j.Holds m → k = l) ∧
    (∀ k, (h.after k).remaining = n - k) ∧
    (∀ k, ∃ left, (Cursor.ofHalfHours h).calls? k =
      some ((List.range k).map fun j => (h.answer j).map Cursor.wordsOf, left) ∧
        left.announced = n - k) ∧
    ∀ k answers left first last, (Cursor.ofHalfHours h).calls? k = some (answers, left) →
      some (first, last) ∈ answers → first.toNat < last.toNat ∧ last.toNat < 1440 := by
  intro h n
  have hn : h.remaining = n := h.remaining_eq_ceilDiv
  refine ⟨fun k hk => HalfHours.answer_of_lt (hn ▸ hk), fun k hk => HalfHours.answer_of_le (hn ▸ hk),
    hn ▸ h.map_some_toList, fun k i _ => i.start_lt_stop, fun k i j => HalfHours.answer_touches,
    fun m => HalfHours.exists_answer_holds, fun k l i j m => HalfHours.eq_of_answer_holds,
    fun k => hn ▸ h.remaining_after k, ?_, fun k _ _ _ _ run hmem => Cursor.lt_of_mem_calls? run hmem⟩
  intro k
  refine ⟨_, Cursor.calls?_ofHalfHours h k, ?_⟩
  rw [Cursor.announced_ofHalfHours, h.remaining_after, hn]

/-- From 22:45 to the end of the day, two full half hours and a clipped one. -/
def lateEvening : HalfHours := ⟨⟨1365, by decide⟩, .dayEnd⟩

/-- The first half hour of the late evening, 22:45 to 23:15. -/
def lateEveningFirst : Interval := ⟨⟨1365, by decide⟩, ⟨1395, by decide⟩, by decide⟩

/-- The second half hour of the late evening, 23:15 to 23:45. -/
def lateEveningSecond : Interval := ⟨⟨1395, by decide⟩, ⟨1425, by decide⟩, by decide⟩

theorem calls_tile_lateEvening :
    (lateEvening.answer 0 = some lateEveningFirst ∧ lateEvening.answer 1 = some lateEveningSecond ∧
      lateEveningFirst.stop = lateEveningSecond.start ∧ lateEveningFirst.minutes = 30) ∧
    (2 < (1439 - 1365) ⌈/⌉ 30 ∧ ∃ i, lateEvening.answer 2 = some i ∧ i.start.minutes = 1425 ∧
      i.stop.minutes = 1439) ∧
    ((1439 - 1365) ⌈/⌉ 30 ≤ 3 ∧ lateEvening.answer 3 = none) ∧
    (lateEveningSecond.Holds 1400 ∧ ∀ k i, lateEvening.answer k = some i → i.Holds 1400 → 1 = k) ∧
    ∃ answers left, (Cursor.ofHalfHours lateEvening).calls? 4 = some (answers, left) ∧
      some (1425, 1439) ∈ answers ∧ (1439 : UInt16).toNat < 1440 := by
  have first : lateEvening.answer 0 = some lateEveningFirst := by decide
  have second : lateEvening.answer 1 = some lateEveningSecond := by decide
  have holds : lateEveningSecond.Holds 1400 := by decide
  obtain ⟨given, used, -, -, touch, -, once, -, -, words⟩ :=
    calls_tile_window ⟨1365, by decide⟩ .dayEnd
  refine ⟨⟨first, second, touch 0 _ _ first second⟩, ⟨by decide, given 2 (by decide)⟩,
    ⟨by decide, used 3 (by decide)⟩, ⟨holds, fun k i hi => once 1 k _ i 1400 second hi holds⟩, ?_⟩
  refine ⟨_, _, Cursor.calls?_ofHalfHours lateEvening 4, by decide, ?_⟩
  exact (words 4 _ _ 1425 1439 (Cursor.calls?_ofHalfHours lateEvening 4) (by decide)).2

end AccessWindows
