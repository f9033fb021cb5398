import AccessWindows.Clock.Reading

/-!
# Times and intervals from their texts

A time is written in five characters, two digits of the hour, a colon and two digits of the minute
(`ClockTime.text_eq`), and an interval as two times parted by a tilde. Reading gives back what was
written (`ClockTime.read_text`, `Interval.read_text`). No time holds a tilde, so the first one in the
text of an interval parts the two.
-/

set_option autoImplicit false

namespace AccessWindows

/-! ## Digits -/

theorem digitChar_ne_tilde {k : Nat} (hk : k < 10) : Nat.digitChar k ≠ '~' := by
  have all : ∀ k : Fin 10, Nat.digitChar k ≠ '~' := by decide
  exact all ⟨k, hk⟩

/-- Numbers of a clock have two digits. -/
theorem Digits.padded_two {n : Nat} (hn : n < 60) :
    padded 2 n = [Nat.digitChar (n / 10), Nat.digitChar (n % 10)] := by
  have all : ∀ n : Fin 60, padded 2 n = [Nat.digitChar (n / 10), Nat.digitChar (n % 10)] := by decide
  exact all ⟨n, hn⟩

/-! ## Times -/

namespace ClockTime

theorem hour_lt (t : ClockTime) : t.hour < 24 := by
  have hday : t.minutes < 1440 := t.inDay
  unfold hour
  omega

theorem minute_lt (t : ClockTime) : t.minute < 60 := Nat.mod_lt _ (by decide)

/-- The five characters of a time. -/
theorem text_eq (t : ClockTime) :
    t.text = [Nat.digitChar (t.hour / 10), Nat.digitChar (t.hour % 10), ':',
      Nat.digitChar (t.minute / 10), Nat.digitChar (t.minute % 10)] := by
  have hhour := t.hour_lt
  rw [text, Digits.padded_two (by omega), Digits.padded_two t.minute_lt]
  rfl

theorem parts?_text (t : ClockTime) : parts? t.text = some (t.hour, t.minute) := by
  have hhour := t.hour_lt
  have hminute := t.minute_lt
  rw [text_eq, parts?]
  simp only [Digits.value?_digitChar (show t.hour / 10 < 10 by omega),
    Digits.value?_digitChar (show t.hour % 10 < 10 by omega),
    Digits.value?_digitChar (show t.minute / 10 < 10 by omega),
    Digits.value?_digitChar (show t.minute % 10 < 10 by omega), Option.bind_eq_bind,
    Option.bind_some, Nat.div_add_mod]
  rfl

theorem ofParts?_hour_minute (t : ClockTime) : ofParts? t.hour t.minute = some t := by
  rw [ofParts?, dif_pos ⟨t.hour_lt, t.minute_lt⟩]
  exact congrArg some (ClockTime.ext (Nat.div_add_mod t.minutes 60))

/-- **A time is read from its text.** -/
theorem read_text (t : ClockTime) : read t.text = .ok t := by
  simp only [read, parts?_text, ofParts?_hour_minute, orFault]

theorem tilde_not_mem_text (t : ClockTime) : '~' ∉ t.text := by
  have hhour := t.hour_lt
  have hminute := t.minute_lt
  have digit : ∀ k, k < 10 → '~' ≠ Nat.digitChar k := fun k hk => (digitChar_ne_tilde hk).symm
  simp only [text_eq, List.mem_cons, List.not_mem_nil, or_false, not_or]
  exact ⟨digit _ (by omega), digit _ (by omega), by decide, digit _ (by omega), digit _ (by omega)⟩

end ClockTime

/-! ## Intervals -/

namespace Interval

/-- The first tilde parts the two times, and the one in front of it is read first. -/
theorem read_append {front : List Char} (first : '~' ∉ front) (rest : List Char) :
    read (front ++ '~' :: rest) = (do
      let start ← ClockTime.read front
      let stop ← ClockTime.read rest
      ofTimes start stop) := by
  have plain : ∀ c ∈ front, decide (c ≠ '~') = true :=
    fun c hc => decide_eq_true fun h => first (h ▸ hc)
  have hdrop : (front ++ '~' :: rest).dropWhile (· ≠ '~') = '~' :: rest := by
    rw [List.dropWhile_append_of_pos plain]
    rfl
  have htake : (front ++ '~' :: rest).takeWhile (· ≠ '~') = front := by
    rw [List.takeWhile_append_of_pos plain]
    exact List.append_nil front
  rw [read, hdrop, htake]

theorem ofTimes_start_stop (i : Interval) : ofTimes i.start i.stop = .ok i := by
  rw [ofTimes, ofTimes?, dif_pos i.start_lt_stop]
  rfl

/-- **An interval is read from its text.** -/
theorem read_text (i : Interval) : read i.text = .ok i := by
  rw [text, read_append i.start.tilde_not_mem_text]
  simp only [ClockTime.read_text]
  exact ofTimes_start_stop i

end Interval

end AccessWindows
