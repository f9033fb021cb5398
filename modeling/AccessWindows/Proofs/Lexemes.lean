import AccessWindows.Json.Reader
import AccessWindows.Json.Write

/-!
# Lexemes as they are written

Blanks, strings and digits are read back from the front of a text, whatever follows. A string may hold
any characters: each is read from what it is escaped as (`stringBody_escape`), and the closing quote
ends the string (`stringRest_string`). A number has no end of its own, so what follows must not go on
with it (`Ends`); then a digit is read as what it stands for (`Number.read_digit`).
-/

set_option autoImplicit false

namespace AccessWindows

namespace Json

/-! ## Blanks -/

/-- Whether a text holds nothing but blanks. -/
def Blank (gap : List Char) : Prop := ∀ c ∈ gap, isSpace c = true

theorem blank_nil : Blank [] := fun _ h => absurd h List.not_mem_nil

theorem blank_space : Blank [' '] := by
  intro c hc
  rw [List.mem_singleton.1 hc]
  rfl

/-- What stands between the lines of a written text is blank. -/
theorem blank_newline (style : Style) (depth : Nat) : Blank (Writer.newline style depth) := by
  cases style with
  | compact => exact blank_nil
  | pretty =>
      intro c hc
      rcases List.mem_cons.1 hc with rfl | hc
      · rfl
      · rw [List.eq_of_mem_replicate hc]
        rfl

theorem skipSpace_append {gap : List Char} (blank : Blank gap) (s : List Char) :
    skipSpace (gap ++ s) = skipSpace s := List.dropWhile_append_of_pos blank

theorem skipSpace_cons {c : Char} (hc : isSpace c = false) (s : List Char) :
    skipSpace (c :: s) = c :: s := List.dropWhile_cons_of_neg (by simp [hc])

/-- Blanks before a character that is none are left out. -/
theorem skipSpace_gap {gap : List Char} (blank : Blank gap) {c : Char} (hc : isSpace c = false)
    (s : List Char) : skipSpace (gap ++ c :: s) = c :: s :=
  (skipSpace_append blank _).trans (skipSpace_cons hc s)

/-! ## Strings -/

theorem stringBody_plain {c : Char} (quote : c ≠ '"') (backslash : c ≠ '\\') (shown : ¬ c.toNat < 0x20)
    (s : List Char) : stringBody .plain (c :: s) = prepend c (stringBody .plain s) := by
  rw [stringBody, if_neg quote, if_neg backslash, if_neg shown]

/-- A character is read from what it is escaped as. -/
theorem stringBody_escape (c : Char) (s : List Char) :
    stringBody .plain (Writer.escape c ++ s) = prepend c (stringBody .plain s) := by
  unfold Writer.escape
  split
  · next h => subst h; rfl
  · next quote =>
    split
    · next h => subst h; rfl
    · next backslash =>
      split
      · next h => subst h; rfl
      · split
        · next h => subst h; rfl
        · split
          · next h => subst h; rfl
          · split
            · next h => subst h; rfl
            · split
              · next h => subst h; rfl
              · split
                · next control =>
                  -- the two digits behind `\u00` give the code of the character
                  have hhigh : c.toNat / 16 < 16 := by omega
                  have hlow : c.toNat % 16 < 16 := Nat.mod_lt _ (by decide)
                  have hcode : 16 * (c.toNat / 16) + c.toNat % 16 = c.toNat := Nat.div_add_mod _ _
                  have htrailing : isTrailing c.toNat = false := by
                    rw [isTrailing, decide_eq_false_iff_not]
                    omega
                  have hleading : isLeading c.toNat = false := by
                    rw [isLeading, decide_eq_false_iff_not]
                    omega
                  simp [stringBody, Writer.hexDigit, Digits.hexValue?_digitChar hhigh,
                    Digits.hexValue?_digitChar hlow, hcode, htrailing, hleading,
                    show Digits.hexValue? '0' = some 0 from rfl]
                · next shown => exact stringBody_plain quote backslash shown s

/-- **A string is read from what it is written as**, whatever follows its closing quote. -/
theorem stringRest_string (cs rest : List Char) :
    stringRest (cs.flatMap Writer.escape ++ '"' :: rest) = .ok (cs, rest) := by
  induction cs with
  | nil => rfl
  | cons c cs ih =>
      rw [stringRest] at ih
      rw [stringRest, List.flatMap_cons, List.append_assoc, stringBody_escape, ih]
      rfl

/-! ## Digits -/

/-- Whether a text does not go on with a number that stands before it. -/
def Ends (rest : List Char) : Prop :=
  ∀ c s, rest = c :: s → Digits.isDigit c = false ∧ c ≠ '.' ∧ c ≠ 'e' ∧ c ≠ 'E'

theorem ends_cons {c : Char} (hc : Digits.isDigit c = false ∧ c ≠ '.' ∧ c ≠ 'e' ∧ c ≠ 'E')
    (s : List Char) : Ends (c :: s) := by
  intro d s' h
  obtain ⟨rfl, -⟩ := List.cons.inj h
  exact hc

/-- No number goes on with a blank. -/
theorem Blank.ends {gap : List Char} (blank : Blank gap) : Ends gap := by
  intro c s h
  have hc : isSpace c = true := blank c (by rw [h]; exact List.mem_cons_self)
  simp only [isSpace, Bool.decide_or, Bool.or_eq_true, decide_eq_true_eq] at hc
  rcases hc with rfl | rfl | rfl | rfl <;> decide

theorem takeWhile_of_ends {rest : List Char} (ends : Ends rest) :
    rest.takeWhile Digits.isDigit = [] := by
  cases rest with
  | nil => rfl
  | cons c s => rw [List.takeWhile_cons_of_neg (by simp [(ends c s rfl).1])]

theorem dropWhile_of_ends {rest : List Char} (ends : Ends rest) :
    rest.dropWhile Digits.isDigit = rest := by
  cases rest with
  | nil => rfl
  | cons c s => rw [List.dropWhile_cons_of_neg (by simp [(ends c s rfl).1])]

namespace Number

theorem gather_of_ends (n : Nat) {rest : List Char} (ends : Ends rest) :
    gather n rest = (n, 0, rest) := by
  cases rest with
  | nil => rfl
  | cons c s =>
      have hvalue : Digits.value? c = none := by
        have hdigit := (ends c s rfl).1
        rwa [Digits.isDigit, ← Bool.not_eq_true, Option.not_isSome_iff_eq_none] at hdigit
      rw [gather, hvalue]

/-- A significand that nothing follows is a whole number. -/
theorem afterSignificand_of_ends (n : Nat) {rest : List Char} (ends : Ends rest) :
    afterSignificand false n rest = .ok (.integer n, rest) := by
  rw [afterSignificand, takeWhile_of_ends ends, dropWhile_of_ends ends]
  split
  · next s => exact absurd rfl (ends _ s rfl).2.1
  · next s => exact absurd rfl (ends _ s rfl).2.2.1
  · next s => exact absurd rfl (ends _ s rfl).2.2.2
  · rfl

/-- **A digit other than zero is read as what it stands for**, if nothing goes on with it. -/
theorem read_digit {k : Nat} (pos : 0 < k) (hk : k < 10) {rest : List Char} (ends : Ends rest) :
    read (Nat.digitChar k :: rest) = .ok (.integer k, rest) := by
  have sign : Nat.digitChar k ≠ '-' ∧ Nat.digitChar k ≠ '0' := by
    have all : ∀ k : Fin 10, 0 < k.val → Nat.digitChar k ≠ '-' ∧ Nat.digitChar k ≠ '0' := by decide
    exact all ⟨k, hk⟩ pos
  have hgather : gather 0 (Nat.digitChar k :: rest) = (k, 1, rest) := by
    have hbound : k < significandBound := Nat.lt_of_lt_of_le hk (by decide)
    rw [gather, Digits.value?_digitChar hk]
    simp only [Nat.mul_zero, Nat.zero_add, gather_of_ends k ends, if_pos hbound]
  rw [read]
  · rw [unsigned]
    · rw [if_pos (Digits.isDigit_digitChar hk), hgather]
      exact afterSignificand_of_ends k ends
    · exact sign.2
  · intro s h
    exact sign.1 (List.cons.inj h).1

end Number

end Json

end AccessWindows
