import AccessWindows.Proofs.ClockText
import AccessWindows.Proofs.Encoding

/-!
# Times and intervals have one text each

Reading takes a text exactly if it is what the library writes for the value: nothing else is accepted,
and nothing that is written is refused. A text in the shape of a time is four digits and a colon, so it
is known from its two numbers (`ClockTime.parts?_eq_some_iff`), and these are the hour and the minute
(`ClockTime.read_eq_ok_iff`). An interval is parted at its first tilde (`Interval.read_append`), and a
fault of the first time comes before one of the second, and both before their order.

A reader of bytes counts the bytes of a text, looks at five of them by their place and computes with
them in bytes. Whatever characters the text has, no place is missing and no result is out of a byte, and
the outcome is the same (`ClockTime.readBytes?_eq`): a byte of a digit is the digit itself
(`Bytes.exists_of_encode_eq_cons`), so five bytes in the shape of a time are five characters.
-/

set_option autoImplicit false

namespace AccessWindows

/-! ## Digits -/

/-- A digit has the value for which it is written. -/
theorem Digits.value?_eq_some_iff {c : Char} {k : Nat} :
    value? c = some k ↔ k < 10 ∧ c = Nat.digitChar k := by
  constructor
  · intro h
    unfold value? at h
    split at h
    · next hc =>
      obtain rfl := Option.some.inj h
      have hfrom : 48 ≤ c.toNat := hc.1
      have hto : c.toNat ≤ 57 := hc.2
      have hzero : '0'.toNat = 48 := rfl
      have hlt : c.toNat - '0'.toNat < 10 := by omega
      refine ⟨hlt, Char.toNat_inj.1 ?_⟩
      rw [Nat.toNat_digitChar_of_lt_ten hlt]
      omega
    · exact nomatch h
  · rintro ⟨hk, rfl⟩
    exact value?_digitChar hk

/-! ## Times -/

namespace ClockTime

/-- Two numbers of two digits each, parted by a colon. -/
def shaped (hour minute : Nat) : List Char :=
  [Nat.digitChar (hour / 10), Nat.digitChar (hour % 10), ':',
    Nat.digitChar (minute / 10), Nat.digitChar (minute % 10)]

/-- A text has the shape of a time if it is two numbers below one hundred in this shape. -/
theorem parts?_eq_some_iff {s : List Char} {hour minute : Nat} :
    parts? s = some (hour, minute) ↔ hour < 100 ∧ minute < 100 ∧ s = shaped hour minute := by
  constructor
  · intro h
    unfold parts? at h
    split at h
    · next h₁ h₂ m₁ m₂ =>
      simp only [Option.bind_eq_bind, Option.bind_eq_some_iff, Digits.value?_eq_some_iff] at h
      obtain ⟨a, ⟨ha, rfl⟩, b, ⟨hb, rfl⟩, c, ⟨hc, rfl⟩, d, ⟨hd, rfl⟩, hparts⟩ := h
      obtain ⟨rfl, rfl⟩ := Prod.mk.inj (Option.some.inj hparts)
      refine ⟨by omega, by omega, ?_⟩
      rw [shaped, show (10 * a + b) / 10 = a by omega, show (10 * a + b) % 10 = b by omega,
        show (10 * c + d) / 10 = c by omega, show (10 * c + d) % 10 = d by omega]
    · exact nomatch h
  · rintro ⟨hhour, hminute, rfl⟩
    rw [shaped, parts?]
    simp only [Digits.value?_digitChar (show hour / 10 < 10 by omega),
      Digits.value?_digitChar (show hour % 10 < 10 by omega),
      Digits.value?_digitChar (show minute / 10 < 10 by omega),
      Digits.value?_digitChar (show minute % 10 < 10 by omega), Option.bind_eq_bind,
      Option.bind_some, Nat.div_add_mod]
    rfl

theorem ofParts?_eq_some_iff {hour minute : Nat} {t : ClockTime} :
    ofParts? hour minute = some t ↔ t.hour = hour ∧ t.minute = minute := by
  constructor
  · intro h
    unfold ofParts? at h
    split at h
    · next bounds =>
      obtain rfl := Option.some.inj h
      show (60 * hour + minute) / 60 = hour ∧ (60 * hour + minute) % 60 = minute
      omega
    · cases h
  · rintro ⟨rfl, rfl⟩
    exact ofParts?_hour_minute t

/-- What is read of a text: it lacks the shape of a time, or it has the shape of two numbers that no
clock shows, or it is the text of a time. -/
theorem read_cases (s : List Char) :
    (parts? s = none ∧ read s = .error (.timeShape (String.ofList s))) ∨
    (read s = .error (.timeOutside (String.ofList s))) ∨
    ∃ t : ClockTime, s = t.text ∧ read s = .ok t := by
  cases hparts : parts? s with
  | none => exact .inl ⟨rfl, by rw [read, hparts]⟩
  | some parts =>
      obtain ⟨hour, minute⟩ := parts
      have hread : read s = orFault (.timeOutside (String.ofList s)) (ofParts? hour minute) := by
        rw [read, hparts]
      cases htime : ofParts? hour minute with
      | none => exact .inr (.inl (by rw [hread, htime]; rfl))
      | some t =>
          refine .inr (.inr ⟨t, ?_, by rw [hread, htime]; rfl⟩)
          obtain ⟨rfl, rfl⟩ := ofParts?_eq_some_iff.1 htime
          rw [(parts?_eq_some_iff.1 hparts).2.2, text_eq]
          rfl

/-- **A time is read from its text only.** -/
theorem read_eq_ok_iff {s : List Char} {t : ClockTime} : read s = .ok t ↔ s = t.text := by
  constructor
  · intro h
    rcases read_cases s with ⟨-, hread⟩ | hread | ⟨u, rfl, hread⟩
    · exact nomatch h.symm.trans hread
    · exact nomatch h.symm.trans hread
    · obtain rfl := Except.ok.inj (h.symm.trans hread)
      rfl
  · rintro rfl
    exact t.read_text

/-- A text that is refused quotes itself, as one without the shape of a time or outside the day. -/
theorem read_eq_error {s : List Char} {f : Fault} (h : read s = .error f) :
    f = .timeShape (String.ofList s) ∨ f = .timeOutside (String.ofList s) := by
  rcases read_cases s with ⟨-, hread⟩ | hread | ⟨u, -, hread⟩
  · exact .inl (Except.error.inj (h.symm.trans hread))
  · exact .inr (Except.error.inj (h.symm.trans hread))
  · exact nomatch h.symm.trans hread

end ClockTime

/-! ## Intervals -/

namespace Interval

/-- Without a tilde, a text is no interval. -/
theorem read_of_not_mem {s : List Char} (plain : '~' ∉ s) :
    read s = .error (.intervalShape (String.ofList s)) := by
  have hall : ∀ c ∈ s, decide (c ≠ '~') = true := fun c hc => decide_eq_true fun h => plain (h ▸ hc)
  have hdrop : s.dropWhile (· ≠ '~') = [] := by
    rw [← List.append_nil s, List.dropWhile_append_of_pos hall]
    rfl
  rw [read, hdrop]

theorem ofTimes_of_not_lt {start stop : ClockTime} (h : ¬ start < stop) :
    ofTimes start stop = .error (.intervalOrder start stop) := by
  rw [ofTimes, ofTimes?, dif_neg h]
  rfl

theorem ofTimes_eq_ok_iff {start stop : ClockTime} {i : Interval} :
    ofTimes start stop = .ok i ↔ i.start = start ∧ i.stop = stop := by
  constructor
  · intro h
    by_cases hlt : start < stop
    · rw [ofTimes, ofTimes?, dif_pos hlt] at h
      obtain rfl := Except.ok.inj h
      exact ⟨rfl, rfl⟩
    · cases (ofTimes_of_not_lt hlt).symm.trans h
  · rintro ⟨rfl, rfl⟩
    exact i.ofTimes_start_stop

variable {front rest : List Char}

/-- A fault of the first time is reported first. -/
theorem read_append_of_error (first : '~' ∉ front) {f : Fault} (h : ClockTime.read front = .error f) :
    read (front ++ '~' :: rest) = .error f := by
  rw [read_append first, h]
  rfl

/-- A fault of the second time is reported next. -/
theorem read_append_of_ok_error (first : '~' ∉ front) {start : ClockTime} {f : Fault}
    (h : ClockTime.read front = .ok start) (h' : ClockTime.read rest = .error f) :
    read (front ++ '~' :: rest) = .error f := by
  rw [read_append first, h, h']
  rfl

/-- Of two times the interval between them is made, if their order allows it. -/
theorem read_append_of_ok (first : '~' ∉ front) {start stop : ClockTime}
    (h : ClockTime.read front = .ok start) (h' : ClockTime.read rest = .ok stop) :
    read (front ++ '~' :: rest) = ofTimes start stop := by
  rw [read_append first, h, h']
  rfl

/-- **An interval is read from its text only.** -/
theorem read_eq_ok_iff {s : List Char} {i : Interval} : read s = .ok i ↔ s = i.text := by
  constructor
  · intro h
    by_cases hmem : '~' ∈ s
    -- the front has no tilde, so reading parts the text in the same place
    · obtain ⟨front, rest, rfl, first⟩ := List.eq_append_cons_of_mem hmem
      cases hfront : ClockTime.read front with
      | error f => cases h.symm.trans (read_append_of_error first hfront)
      | ok start =>
          cases hrest : ClockTime.read rest with
          | error f => cases h.symm.trans (read_append_of_ok_error first hfront hrest)
          | ok stop =>
              rw [read_append_of_ok first hfront hrest, ofTimes_eq_ok_iff] at h
              obtain ⟨rfl, rfl⟩ := h
              rw [ClockTime.read_eq_ok_iff.1 hfront, ClockTime.read_eq_ok_iff.1 hrest, text]
    · cases h.symm.trans (read_of_not_mem hmem)
  · rintro rfl
    exact i.read_text

end Interval

/-! ## Reading by bytes -/

namespace Bytes

/-- The difference of two bytes, if it is not below zero. -/
def sub? (a b : UInt8) : Option UInt8 := if b ≤ a then some (a - b) else none

/-- The product of two bytes, if it is a byte. -/
def mul? (a b : UInt8) : Option UInt8 :=
  if a.toNat * b.toNat < UInt8.size then some (a * b) else none

/-- The sum of two bytes, if it is a byte. -/
def add? (a b : UInt8) : Option UInt8 :=
  if a.toNat + b.toNat < UInt8.size then some (a + b) else none

/-- Whether a byte is a digit. -/
def isDigit (b : UInt8) : Bool := decide (48 ≤ b ∧ b ≤ 57)

/-- Whether there are digits in some places, which are looked at up to the first that holds none.
Nothing if a byte is looked at that is not there. -/
def digitsAt? (bs : List UInt8) : List Nat → Option Bool
  | [] => some true
  | place :: places => do
      if isDigit (← bs[place]?) then digitsAt? bs places else return false

/-- Whether bytes have the shape of a time: there are five of them, a colon in the middle and digits
around it. Nothing if a byte is looked at that is not there. -/
def shape? (bs : List UInt8) : Option Bool :=
  if bs.length ≠ 5 then some false
  else do
    if (← bs[2]?) = 58 then digitsAt? bs [0, 1, 3, 4] else return false

/-- The number that two digits from a place on write, computed in bytes. Nothing if one of them is not
there or a result is no byte. -/
def number? (bs : List UInt8) (place : Nat) : Option UInt8 := do
  let tens ← sub? (← bs[place]?) 48
  let ones ← sub? (← bs[place + 1]?) 48
  add? (← mul? tens 10) ones

end Bytes

/-- Read a time by the bytes of its text. Nothing if a byte is missing or a result is no byte. -/
def ClockTime.readBytes? (s : String) : Option (Except Fault ClockTime) := do
  let bs := s.toUTF8.data.toList
  if !(← Bytes.shape? bs) then return .error (.timeShape s)
  let hour ← Bytes.number? bs 0
  let minute ← Bytes.number? bs 3
  return orFault (.timeOutside s) (ofParts? hour.toNat minute.toNat)

/-- Read an interval by the bytes of its two times. -/
def Interval.readBytes? (s : String) : Option (Except Fault Interval) :=
  match s.toList.dropWhile (· ≠ '~') with
  | [] => some (.error (.intervalShape s))
  | _ :: after => do
      match ← ClockTime.readBytes? (String.ofList (s.toList.takeWhile (· ≠ '~'))) with
      | .error f => return .error f
      | .ok start =>
          match ← ClockTime.readBytes? (String.ofList after) with
          | .error f => return .error f
          | .ok stop => return ofTimes start stop

namespace Bytes

/-- The digit of a number as a byte. -/
def digit (k : Nat) : UInt8 := .ofNat (48 + k)

theorem toNat_digit {k : Nat} (hk : k < 10) : (digit k).toNat = 48 + k := by
  rw [digit, UInt8.toNat_ofNat']
  omega

/-- The byte of a digit is the digit itself. -/
theorem encodeChar_digitChar {k : Nat} (hk : k < 10) :
    String.utf8EncodeChar (Nat.digitChar k) = [digit k] := by
  have hchar := Nat.toNat_digitChar_of_lt_ten hk
  rw [encodeChar_of_ascii (by omega), hchar]
  rfl

/-- A text that begins with the byte of a digit begins with the digit. -/
theorem exists_of_encode_eq_digit {s : List Char} {k : Nat} {bs : List UInt8} (hk : k < 10)
    (begins : encode s = digit k :: bs) : ∃ rest, s = Nat.digitChar k :: rest ∧ encode rest = bs := by
  have hbyte := toNat_digit hk
  obtain ⟨c, rest, rfl, hc, hrest⟩ := exists_of_encode_eq_cons (by omega) begins
  refine ⟨rest, ?_, hrest⟩
  rw [Char.toNat_inj.1 (show c.toNat = (Nat.digitChar k).toNat by
    rw [Nat.toNat_digitChar_of_lt_ten hk, hc, hbyte])]

theorem isDigit_digit {k : Nat} (hk : k < 10) : isDigit (digit k) = true := by
  have hbyte := toNat_digit hk
  refine decide_eq_true ⟨?_, ?_⟩
  · exact UInt8.le_iff_toNat_le.2 (by rw [hbyte]; exact Nat.le_add_right 48 k)
  · exact UInt8.le_iff_toNat_le.2 (by rw [hbyte]; exact Nat.add_le_add_left (Nat.le_of_lt_succ hk) 48)

theorem exists_digit_of_isDigit {b : UInt8} (h : isDigit b = true) : ∃ k, k < 10 ∧ b = digit k := by
  obtain ⟨hfrom, hto⟩ := of_decide_eq_true h
  have hfrom : 48 ≤ b.toNat := UInt8.le_iff_toNat_le.1 hfrom
  have hto : b.toNat ≤ 57 := UInt8.le_iff_toNat_le.1 hto
  refine ⟨b.toNat - 48, by omega, UInt8.toNat_inj.1 ?_⟩
  rw [toNat_digit (by omega)]
  omega

/-! ### No place is missing -/

theorem digitsAt?_eq {bs : List UInt8} {places : List Nat}
    (present : ∀ place ∈ places, place < bs.length) :
    digitsAt? bs places = some (places.all fun place => bs[place]?.any isDigit) := by
  induction places with
  | nil => rfl
  | cons place places ih =>
      obtain ⟨hplace, hplaces⟩ := List.forall_mem_cons.1 present
      have hbyte := List.getElem?_eq_getElem hplace
      rw [digitsAt?, List.all_cons, ih hplaces, hbyte]
      show (if isDigit bs[place] then _ else some false) = some (isDigit bs[place] && _)
      cases isDigit bs[place] <;> rfl

theorem shape?_five (b₀ b₁ b₂ b₃ b₄ : UInt8) : shape? [b₀, b₁, b₂, b₃, b₄] =
    some (decide (b₂ = 58) && (isDigit b₀ && (isDigit b₁ && (isDigit b₃ && (isDigit b₄ && true))))) := by
  have hdigits : digitsAt? [b₀, b₁, b₂, b₃, b₄] [0, 1, 3, 4] = _ := digitsAt?_eq (by simp)
  show (if b₂ = 58 then _ else some false) = _
  rw [hdigits]
  by_cases hcolon : b₂ = 58
  · rw [if_pos hcolon, decide_eq_true hcolon]
    rfl
  · rw [if_neg hcolon, decide_eq_false hcolon]
    rfl

/-- The shape of bytes can always be told, and is that of a time for four digits and a colon only. -/
theorem shape?_cases (bs : List UInt8) : shape? bs = some false ∨
    ∃ a b c d, (a < 10 ∧ b < 10 ∧ c < 10 ∧ d < 10) ∧
      bs = [digit a, digit b, 58, digit c, digit d] := by
  by_cases hlength : bs.length = 5
  · match bs, hlength with
    | [b₀, b₁, b₂, b₃, b₄], _ =>
      rw [shape?_five]
      cases hshape : decide (b₂ = 58) && (isDigit b₀ && (isDigit b₁ && (isDigit b₃ && (isDigit b₄ && true)))) with
      | false => exact .inl rfl
      | true =>
          simp only [Bool.and_eq_true, decide_eq_true_eq] at hshape
          obtain ⟨rfl, h₀, h₁, h₃, h₄, -⟩ := hshape
          obtain ⟨a, ha, rfl⟩ := exists_digit_of_isDigit h₀
          obtain ⟨b, hb, rfl⟩ := exists_digit_of_isDigit h₁
          obtain ⟨c, hc, rfl⟩ := exists_digit_of_isDigit h₃
          obtain ⟨d, hd, rfl⟩ := exists_digit_of_isDigit h₄
          exact .inr ⟨a, b, c, d, ⟨ha, hb, hc, hd⟩, rfl⟩
  · exact .inl (if_pos hlength)

theorem shape?_digits {a b c d : Nat} (ha : a < 10) (hb : b < 10) (hc : c < 10) (hd : d < 10) :
    shape? [digit a, digit b, 58, digit c, digit d] = some true := by
  rw [shape?_five, isDigit_digit ha, isDigit_digit hb, isDigit_digit hc, isDigit_digit hd]
  rfl

/-! ### No result is out of a byte -/

theorem number?_digits {bs : List UInt8} {place a b : Nat} (ha : a < 10) (hb : b < 10)
    (hfirst : bs[place]? = some (digit a)) (hsecond : bs[place + 1]? = some (digit b)) :
    number? bs place = some (.ofNat (10 * a + b)) := by
  -- a hundred pairs of digits, the largest of which writes 99
  have all : ∀ a b : Fin 10, (do
      let tens ← sub? (digit a) 48
      let ones ← sub? (digit b) 48
      add? (← mul? tens 10) ones) = some (UInt8.ofNat (10 * a + b)) := by decide
  rw [number?, hfirst, hsecond]
  exact all ⟨a, ha⟩ ⟨b, hb⟩

end Bytes

/-! ### The outcome is the same -/

namespace ClockTime

open Bytes (encode digit)

theorem encode_shaped {hour minute : Nat} (hhour : hour < 100) (hminute : minute < 100) :
    encode (shaped hour minute) = [digit (hour / 10), digit (hour % 10), 58,
      digit (minute / 10), digit (minute % 10)] := by
  rw [shaped, encode, List.flatMap_cons, List.flatMap_cons, List.flatMap_cons, List.flatMap_cons,
    List.flatMap_cons, Bytes.encodeChar_digitChar (show hour / 10 < 10 by omega),
    Bytes.encodeChar_digitChar (show hour % 10 < 10 by omega),
    Bytes.encodeChar_digitChar (show minute / 10 < 10 by omega),
    Bytes.encodeChar_digitChar (show minute % 10 < 10 by omega)]
  rfl

/-- Five bytes in the shape of a time are five characters in that shape. -/
theorem eq_shaped_of_encode {s : List Char} {a b c d : Nat} (ha : a < 10) (hb : b < 10) (hc : c < 10)
    (hd : d < 10) (bytes : encode s = [digit a, digit b, 58, digit c, digit d]) :
    s = shaped (10 * a + b) (10 * c + d) := by
  obtain ⟨s₁, rfl, bytes₁⟩ := Bytes.exists_of_encode_eq_digit ha bytes
  obtain ⟨s₂, rfl, bytes₂⟩ := Bytes.exists_of_encode_eq_digit hb bytes₁
  obtain ⟨colon, s₃, rfl, hcolon, bytes₃⟩ := Bytes.exists_of_encode_eq_cons (by decide) bytes₂
  obtain ⟨s₄, rfl, bytes₄⟩ := Bytes.exists_of_encode_eq_digit hc bytes₃
  obtain ⟨s₅, rfl, bytes₅⟩ := Bytes.exists_of_encode_eq_digit hd bytes₄
  obtain rfl := Bytes.encode_eq_nil_iff.1 bytes₅
  obtain rfl : colon = ':' := Char.toNat_inj.1 hcolon
  rw [shaped, show (10 * a + b) / 10 = a by omega, show (10 * a + b) % 10 = b by omega,
    show (10 * c + d) / 10 = c by omega, show (10 * c + d) % 10 = d by omega]

/-- **Reading a time by bytes never fails**, and has the same outcome. -/
theorem readBytes?_eq (s : String) : readBytes? s = some (ofString s) := by
  rw [readBytes?, Bytes.data_toUTF8, ofString]
  rcases Bytes.shape?_cases (encode s.toList) with hshape | ⟨a, b, c, d, ⟨ha, hb, hc, hd⟩, hbytes⟩
  -- a text in the shape of a time would have bytes in that shape
  · have hparts : parts? s.toList = none := by
      cases hparts : parts? s.toList with
      | none => rfl
      | some parts =>
          obtain ⟨hhour, hminute, htext⟩ := parts?_eq_some_iff.1 hparts
          rw [htext, encode_shaped hhour hminute,
            Bytes.shape?_digits (by omega) (by omega) (by omega) (by omega)] at hshape
          exact nomatch hshape
    rw [hshape, read, hparts, String.ofList_toList]
    rfl
  -- four digits and a colon: both readers have the same two numbers, and these are bytes
  · have hparts : parts? s.toList = some (10 * a + b, 10 * c + d) :=
      parts?_eq_some_iff.2 ⟨by omega, by omega, eq_shaped_of_encode ha hb hc hd hbytes⟩
    have hour : (UInt8.ofNat (10 * a + b)).toNat = 10 * a + b := by
      rw [UInt8.toNat_ofNat']
      omega
    have minute : (UInt8.ofNat (10 * c + d)).toNat = 10 * c + d := by
      rw [UInt8.toNat_ofNat']
      omega
    rw [hbytes, Bytes.shape?_digits ha hb hc hd, read, hparts, String.ofList_toList]
    dsimp only [Option.bind_eq_bind, Option.bind_some, Bool.not_true]
    rw [Bytes.number?_digits ha hb rfl rfl, Bytes.number?_digits hc hd rfl rfl]
    dsimp only [Option.bind_eq_bind, Option.bind_some]
    rw [hour, minute]
    rfl

end ClockTime

/-- **Reading an interval by bytes never fails**, and has the same outcome. -/
theorem Interval.readBytes?_eq (s : String) : readBytes? s = some (ofString s) := by
  rw [readBytes?, ofString, read, String.ofList_toList]
  cases s.toList.dropWhile (· ≠ '~') with
  | nil => rfl
  | cons tilde after =>
      dsimp only
      rw [ClockTime.readBytes?_eq, ClockTime.readBytes?_eq, ClockTime.ofString, ClockTime.ofString,
        String.toList_ofList, String.toList_ofList]
      cases ClockTime.read (s.toList.takeWhile (· ≠ '~')) with
      | error f => rfl
      | ok start =>
          cases ClockTime.read after with
          | error f => rfl
          | ok stop => rfl

/-! ## Strings and values -/

theorem eq_ofList_iff {s : String} {cs : List Char} : s = String.ofList cs ↔ s.toList = cs := by
  rw [← String.toList_inj, String.toList_ofList]

theorem ClockTime.ofString_eq_ok_iff {s : String} {t : ClockTime} : ofString s = .ok t ↔ s = toString t :=
  read_eq_ok_iff.trans eq_ofList_iff.symm

theorem Interval.ofString_eq_ok_iff {s : String} {i : Interval} : ofString s = .ok i ↔ s = toString i :=
  read_eq_ok_iff.trans eq_ofList_iff.symm

/-- A string that is refused as a time is refused as one. -/
theorem ClockTime.kind_of_ofString {s : String} {f : Fault} (h : ofString s = .error f) :
    f.kind = .time := by
  rcases read_eq_error h with rfl | rfl
  · rfl
  · rfl

theorem toList_append_tilde (front rest : String) :
    (front ++ "~" ++ rest).toList = front.toList ++ '~' :: rest.toList := by
  rw [String.toList_append, String.toList_append, List.append_assoc]
  rfl

/-- **Reading takes exactly what is written.** A string is read as a time exactly if it is the string of
that time, and as an interval exactly if it is the string of that interval. Any other string is refused:
as a time; or as an interval if it has no tilde; else for the fault of the time in front of the first
tilde, if there is one; else for the fault of the time behind it; else because the times are not in
order. And reading by bytes has the same outcome for every string: no byte is missing where it is looked
for, and no difference, product or sum is out of a byte. -/
theorem reading_takes_written :
    (∀ (s : String) (t : ClockTime), ClockTime.ofString s = .ok t ↔ s = toString t) ∧
    (∀ (s : String) (i : Interval), Interval.ofString s = .ok i ↔ s = toString i) ∧
    (∀ s : String, (∀ t : ClockTime, s ≠ toString t) →
      ∃ f, ClockTime.ofString s = .error f ∧ f.kind = .time) ∧
    (∀ s : String, '~' ∉ s.toList →
      Interval.ofString s = .error (.intervalShape s) ∧ (Fault.intervalShape s).kind = .interval) ∧
    (∀ front rest : String, '~' ∉ front.toList →
      (∀ f, ClockTime.ofString front = .error f →
        Interval.ofString (front ++ "~" ++ rest) = .error f ∧ f.kind = .time) ∧
      (∀ start f, ClockTime.ofString front = .ok start → ClockTime.ofString rest = .error f →
        Interval.ofString (front ++ "~" ++ rest) = .error f ∧ f.kind = .time) ∧
      ∀ start stop, ClockTime.ofString front = .ok start → ClockTime.ofString rest = .ok stop →
        ¬ start < stop →
        Interval.ofString (front ++ "~" ++ rest) = .error (.intervalOrder start stop) ∧
          (Fault.intervalOrder start stop).kind = .interval) ∧
    ∀ s : String, ClockTime.readBytes? s = some (ClockTime.ofString s) ∧
      Interval.readBytes? s = some (Interval.ofString s) := by
  refine ⟨fun _ _ => ClockTime.ofString_eq_ok_iff, fun _ _ => Interval.ofString_eq_ok_iff, ?_, ?_, ?_,
    fun s => ⟨ClockTime.readBytes?_eq s, Interval.readBytes?_eq s⟩⟩
  · intro s hother
    cases hread : ClockTime.ofString s with
    | ok t => exact absurd (ClockTime.ofString_eq_ok_iff.1 hread) (hother t)
    | error f => exact ⟨f, rfl, ClockTime.kind_of_ofString hread⟩
  · intro s hplain
    have hread := Interval.read_of_not_mem hplain
    rw [String.ofList_toList] at hread
    exact ⟨hread, rfl⟩
  · intro front rest first
    refine ⟨fun f hfront => ⟨?_, ClockTime.kind_of_ofString hfront⟩,
      fun start f hfront hrest => ⟨?_, ClockTime.kind_of_ofString hrest⟩,
      fun start stop hfront hrest horder => ⟨?_, rfl⟩⟩
    · rw [Interval.ofString, toList_append_tilde]
      exact Interval.read_append_of_error first hfront
    · rw [Interval.ofString, toList_append_tilde]
      exact Interval.read_append_of_ok_error first hfront hrest
    · rw [Interval.ofString, toList_append_tilde, Interval.read_append_of_ok first hfront hrest]
      exact Interval.ofTimes_of_not_lt horder

/-- A text of four characters in five bytes, the third of which is a colon, is no time and no front of an
interval; a second tilde belongs to the second time; and times out of order are reported last. -/
theorem reading_takes_strangeTexts :
    (∀ t : ClockTime, "é:00" ≠ toString t) ∧
    (∃ f, ClockTime.ofString "é:00" = .error f ∧ f.kind = .time) ∧
    ClockTime.readBytes? "é:00" = some (.error (.timeShape "é:00")) ∧
    Interval.ofString "09:00-10:00" = .error (.intervalShape "09:00-10:00") ∧
    Interval.ofString ("é:00" ++ "~" ++ "é") = .error (.timeShape "é:00") ∧
    Interval.ofString ("09:00" ++ "~" ++ "10:00~11:00") = .error (.timeShape "10:00~11:00") ∧
    Interval.ofString ("10:00" ++ "~" ++ "09:00") =
      .error (.intervalOrder ⟨600, by decide⟩ ⟨540, by decide⟩) := by
  obtain ⟨times, -, others, untilded, tilded, bytes⟩ := reading_takes_written
  have strange : ClockTime.ofString "é:00" = .error (.timeShape "é:00") := by rfl
  have hother : ∀ t : ClockTime, "é:00" ≠ toString t :=
    fun t h => nomatch strange.symm.trans ((times _ t).2 h)
  refine ⟨hother, others _ hother, (bytes "é:00").1.trans (congrArg some strange),
    (untilded _ (by decide)).1, ((tilded _ _ (by decide)).1 _ strange).1, ?_, ?_⟩
  · exact ((tilded _ _ (by decide)).2.1 ⟨540, by decide⟩ _ (by rfl) (by rfl)).1
  · exact ((tilded _ _ (by decide)).2.2 _ _ (by rfl) (by rfl) (by decide)).1

end AccessWindows
