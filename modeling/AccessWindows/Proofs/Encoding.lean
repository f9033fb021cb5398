import AccessWindows.Text.Basic

/-!
# The bytes of a text

A text is kept as the bytes of its characters one after the other. A character below 128 is one byte,
its own number (`encodeChar_of_ascii`), and all bytes of any other character are 128 or above. So a byte
below 128 never stands within a character: where a text begins with one, it begins with the character of
that number (`exists_of_encode_eq_cons`).

Any character is a first byte that tells how many follow, and the last digits of its number in base 64
(`encodeChar_eq`). Greater characters have greater first bytes, or the same one and greater digits behind
it, so bytes compare as characters do (`encode_lt_iff`).
-/

set_option autoImplicit false

namespace AccessWindows.Bytes

/-- The bytes of a text. -/
def encode (s : List Char) : List UInt8 := s.flatMap String.utf8EncodeChar

/-- The bytes of a string are those of its characters. -/
theorem data_toUTF8 (s : String) : s.toUTF8.data.toList = encode s.toList := by
  have hbytes : s.toUTF8 = s.toList.utf8Encode := by simp
  rw [hbytes, List.utf8Encode, List.data_toByteArray]
  rfl

theorem encode_cons (c : Char) (s : List Char) :
    encode (c :: s) = String.utf8EncodeChar c ++ encode s := List.flatMap_cons

/-- A character below 128 is one byte. -/
theorem encodeChar_of_ascii {c : Char} (ascii : c.toNat < 128) :
    String.utf8EncodeChar c = [.ofNat c.toNat] :=
  if_pos (Nat.le_of_lt_succ ascii)

/-! ## The bytes of one character -/

/-- How many bytes stand behind the first one of the character with a number. -/
def further (n : Nat) : Nat :=
  if n < 128 then 0 else if n < 2048 then 1 else if n < 65536 then 2 else 3

/-- What is left of a number without its last `k` digits in base 64. -/
def front (n : Nat) : Nat → Nat
  | 0 => n
  | k + 1 => front n k / 64

/-- The first byte of the character with a number: what the bytes behind it leave, above a mark that
tells how many they are. -/
def leading (n : Nat) : Nat :=
  front n (further n) + if n < 128 then 0 else if n < 2048 then 192 else if n < 65536 then 224 else 240

/-- The last `k` digits of a number in base 64, each in a byte from 128 on. -/
def trailing (n : Nat) : Nat → List UInt8
  | 0 => []
  | k + 1 => .ofNat (front n k % 64 + 128) :: trailing n k

theorem toNat_lt (c : Char) : c.toNat < 1114112 := by
  rcases c.valid with h | h
  · exact Nat.lt_trans h (by decide)
  · exact h.2

/-- One, two, three or four bytes, by the size of the number. -/
theorem leading_cases (n : Nat) :
    (n < 128 ∧ further n = 0 ∧ leading n = n) ∨
    ((128 ≤ n ∧ n < 2048) ∧ further n = 1 ∧ leading n = n / 64 + 192) ∨
    ((2048 ≤ n ∧ n < 65536) ∧ further n = 2 ∧ leading n = n / 64 / 64 + 224) ∨
    (65536 ≤ n ∧ further n = 3 ∧ leading n = n / 64 / 64 / 64 + 240) := by
  unfold leading further
  by_cases one : n < 128
  · refine .inl ⟨one, if_pos one, ?_⟩
    simp only [if_pos one, front, Nat.add_zero]
  · simp only [if_neg one]
    by_cases two : n < 2048
    · refine .inr (.inl ⟨⟨by omega, two⟩, if_pos two, ?_⟩)
      simp only [if_pos two, front]
    · simp only [if_neg two]
      by_cases three : n < 65536
      · refine .inr (.inr (.inl ⟨⟨by omega, three⟩, if_pos three, ?_⟩))
        simp only [if_pos three, front]
      · refine .inr (.inr (.inr ⟨by omega, if_neg three, ?_⟩))
        simp only [if_neg three, front]

theorem toNat_leading {n : Nat} (h : n < 1114112) : (UInt8.ofNat (leading n)).toNat = leading n := by
  have hcases := leading_cases n
  rw [UInt8.toNat_ofNat']
  omega

/-- A character is a first byte and the digits behind it. -/
theorem encodeChar_eq (c : Char) :
    String.utf8EncodeChar c = .ofNat (leading c.toNat) :: trailing c.toNat (further c.toNat) := by
  have hbound := toNat_lt c
  have hnumber : c.val.toNat = c.toNat := rfl
  unfold String.utf8EncodeChar
  -- the first byte holds what is left of the number, so no digit of it is cut off
  rcases leading_cases c.toNat with ⟨h, hf, hl⟩ | ⟨h, hf, hl⟩ | ⟨h, hf, hl⟩ | ⟨h, hf, hl⟩ <;>
    simp only [hf, hl, hnumber, trailing, front, Nat.div_div_eq_div_mul, Nat.reduceMul]
  · rw [if_pos (by omega)]
  · rw [if_neg (by omega), if_pos (by omega), Nat.mod_eq_of_lt (by omega)]
  · rw [if_neg (by omega), if_neg (by omega), if_pos (by omega),
      Nat.mod_eq_of_lt (show c.toNat / 4096 < 16 by omega)]
  · rw [if_neg (by omega), if_neg (by omega), if_neg (by omega),
      Nat.mod_eq_of_lt (show c.toNat / 262144 < 8 by omega)]

/-- The first byte of a character from 128 on is 128 or above. -/
theorem encodeChar_of_not_ascii {c : Char} (wide : ¬ c.toNat < 128) :
    ∃ b bs, String.utf8EncodeChar c = b :: bs ∧ 128 ≤ b.toNat := by
  refine ⟨_, _, encodeChar_eq c, ?_⟩
  have hcases := leading_cases c.toNat
  rw [toNat_leading (toNat_lt c)]
  omega

/-! ## The bytes of a text -/

/-- A text that begins with a byte below 128 begins with the character of that number. -/
theorem exists_of_encode_eq_cons {s : List Char} {b : UInt8} {bs : List UInt8}
    (ascii : b.toNat < 128) (begins : encode s = b :: bs) :
    ∃ c rest, s = c :: rest ∧ c.toNat = b.toNat ∧ encode rest = bs := by
  cases s with
  | nil => exact nomatch begins
  | cons c rest =>
      rw [encode_cons] at begins
      by_cases hc : c.toNat < 128
      · rw [encodeChar_of_ascii hc, List.singleton_append, List.cons.injEq] at begins
        obtain ⟨rfl, rfl⟩ := begins
        refine ⟨c, rest, rfl, ?_, rfl⟩
        rw [UInt8.toNat_ofNat']
        omega
      · obtain ⟨b', bs', hchar, hwide⟩ := encodeChar_of_not_ascii hc
        rw [hchar, List.cons_append, List.cons.injEq] at begins
        obtain ⟨rfl, -⟩ := begins
        omega

theorem encode_eq_nil_iff {s : List Char} : encode s = [] ↔ s = [] := by
  cases s with
  | nil => exact ⟨fun _ => rfl, fun _ => rfl⟩
  | cons c rest =>
      refine ⟨fun h => ?_, fun h => nomatch h⟩
      rw [encode_cons, List.append_eq_nil_iff] at h
      exact absurd h.1 String.utf8EncodeChar_ne_nil

/-! ## Order -/

theorem front_le {m n : Nat} (h : m ≤ n) (k : Nat) : front m k ≤ front n k := by
  induction k with
  | zero => exact h
  | succ k ih => exact Nat.div_le_div_right ih

/-- The greater number has the greater first byte, unless the two differ only in what is behind it. -/
theorem leading_lt_or_eq {m n : Nat} (h : m < n) : leading m < leading n ∨
    leading m = leading n ∧ further m = further n ∧ front m (further n) = front n (further n) := by
  have hm := leading_cases m
  rcases leading_cases n with ⟨hn, hf, hl⟩ | ⟨hn, hf, hl⟩ | ⟨hn, hf, hl⟩ | ⟨hn, hf, hl⟩ <;>
    simp only [hf, hl, front] <;> omega

/-- Numbers that differ only in their last digits compare as these do. -/
theorem trailing_append_lt {m n k : Nat} (same : front m k = front n k) (h : m < n)
    (xs ys : List UInt8) : trailing m k ++ xs < trailing n k ++ ys := by
  induction k with
  | zero => exact absurd same (Nat.ne_of_lt h)
  | succ k ih =>
      have hquotient : front m k / 64 = front n k / 64 := same
      rw [trailing, trailing, List.cons_append, List.cons_append, List.cons_lt_cons_iff,
        UInt8.lt_iff_toNat_lt, UInt8.toNat_ofNat', UInt8.toNat_ofNat']
      -- the first of the digits decides, or the numbers agree in it as well
      rcases Nat.lt_or_eq_of_le (front_le (Nat.le_of_lt h) k) with hlt | heq
      · exact .inl (by omega)
      · exact .inr ⟨by rw [heq], ih heq⟩

/-- The smaller character decides, whatever follows. -/
theorem encodeChar_append_lt {c d : Char} (h : c < d) (xs ys : List UInt8) :
    String.utf8EncodeChar c ++ xs < String.utf8EncodeChar d ++ ys := by
  rw [encodeChar_eq, encodeChar_eq, List.cons_append, List.cons_append, List.cons_lt_cons_iff,
    UInt8.lt_iff_toNat_lt, toNat_leading (toNat_lt c), toNat_leading (toNat_lt d)]
  rcases leading_lt_or_eq (show c.toNat < d.toNat from h) with hlt | ⟨hleading, hfurther, hsame⟩
  · exact .inl hlt
  · exact .inr ⟨by rw [hleading], by rw [hfurther]; exact trailing_append_lt hsame h xs ys⟩

theorem encode_lt {s t : List Char} (h : s < t) : encode s < encode t := by
  induction h with
  | nil =>
      rw [encode_cons, encodeChar_eq]
      exact List.nil_lt_cons _ _
  | rel h =>
      rw [encode_cons, encode_cons]
      exact encodeChar_append_lt h _ _
  | cons _ ih =>
      rw [encode_cons, encode_cons]
      exact List.append_left_lt ih

/-- **Texts compare byte by byte as they compare character by character.** -/
theorem encode_lt_iff {s t : List Char} : encode s < encode t ↔ s < t := by
  refine ⟨fun h => ?_, encode_lt⟩
  by_cases hst : s < t
  · exact hst
  · by_cases hts : t < s
    · exact absurd h (List.lt_asymm (encode_lt hts))
    · obtain rfl := List.le_antisymm (List.not_lt.1 hts) (List.not_lt.1 hst)
      exact absurd h (List.lt_irrefl _)

theorem data_toUTF8_lt_iff {s t : String} :
    s.toUTF8.data.toList < t.toUTF8.data.toList ↔ s < t := by
  rw [data_toUTF8, data_toUTF8, encode_lt_iff, String.lt_iff]

end AccessWindows.Bytes
