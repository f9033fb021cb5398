import AccessWindows.Json.Record
import AccessWindows.Proofs.Lexemes

/-!
# Reading what was written

A reader reads back a writer with an answer (`Json.Reads`) if it takes the written text off the front
of any text and leaves the rest, in either style, at any depth, and behind any blanks; the answer is a
value, or the reason why the value is refused. Strings and weekday digits are read back so, and the
property goes through the containers. An array is read back with the answers of its elements from left
to right, up to the first that is refused (`reads_array`). An object is read back if each of its
members fills a field of the draft that was empty (`Fills`, `reads_object`), also where some of the
members are left out (`Fills.optional`), and refused for the first member whose value is
(`reads_object_refused`).
-/

set_option autoImplicit false

namespace AccessWindows

namespace Json

/-! ## Steps of a reader -/

namespace Reader

variable {α β : Type}

theorem bind_ok {x : Reader α} {f : α → Reader β} {s s' : List Char} {a : α}
    (h : x s = .ok (a, s')) : (x >>= f) s = f a s' := by
  show (x s).bind (fun p => f p.1 p.2) = f a s'
  rw [h]
  rfl

theorem bind_error {x : Reader α} {f : α → Reader β} {s : List Char} {e : ReadError}
    (h : x s = .error e) : (x >>= f) s = .error e := by
  show (x s).bind (fun p => f p.1 p.2) = .error e
  rw [h]
  rfl

theorem peek_eq (s : List Char) : peek s = .ok ((skipSpace s).head?, skipSpace s) := rfl

theorem peek_cons {c : Char} (hc : isSpace c = false) (s : List Char) :
    peek (c :: s) = .ok (some c, c :: s) := by
  rw [peek_eq, skipSpace_cons hc]
  rfl

/-- Behind blanks the next character is seen, and the blanks are gone. -/
theorem peek_gap {gap : List Char} (blank : Blank gap) {c : Char} (hc : isSpace c = false)
    (s : List Char) : peek (gap ++ c :: s) = .ok (some c, c :: s) := by
  rw [peek_eq, skipSpace_gap blank hc]
  rfl

theorem start_gap {gap : List Char} (blank : Blank gap) {c : Char} (hc : isSpace c = false)
    (s : List Char) : start (gap ++ c :: s) = .ok (c, c :: s) := by
  rw [start, bind_ok (peek_gap blank hc s)]
  rfl

theorem advance_cons (c : Char) (s : List Char) : advance (c :: s) = .ok ((), s) := rfl

end Reader

/-! ## Values that are read back -/

/-- A reader reads back what a writer writes, with an answer. What is written begins like a value, so it
is neither taken for a blank nor for the end of an array. -/
structure Reads {α : Type} (r : Reader α) (w : Writer) (answer : Except ReadError α) : Prop where
  opens : ∀ style depth, ∃ c s, w style depth = c :: s ∧ isSpace c = false ∧ c ≠ ']'
  read : ∀ style depth gap rest, Blank gap → Ends rest →
    r (gap ++ (w style depth ++ rest)) = answer.map fun a => (a, rest)

/-- A string is read back, whatever the message would speak of if there were none. -/
theorem reads_stringFor (wanted : Expected) (cs : List Char) :
    Reads (Reader.stringFor wanted) (.string cs) (.ok cs) where
  opens _ _ := ⟨'"', _, rfl, rfl, by decide⟩
  read _ _ gap rest blank _ := by
    have htext : Writer.string cs .compact 0 ++ rest =
        '"' :: (cs.flatMap Writer.escape ++ '"' :: rest) := by simp [Writer.string]
    show Reader.stringFor wanted (gap ++ (Writer.string cs .compact 0 ++ rest)) = _
    rw [htext, Reader.stringFor, Reader.bind_ok (Reader.start_gap blank rfl _), if_pos rfl,
      Reader.bind_ok (Reader.advance_cons _ _)]
    exact stringRest_string cs rest

theorem reads_string (cs : List Char) : Reads Reader.string (.string cs) (.ok cs) :=
  reads_stringFor .string cs

/-- A digit other than zero is read back as a small number. -/
theorem reads_byte {k : Nat} (pos : 0 < k) (hk : k < 10) : Reads Reader.byte (.number k) (.ok k) := by
  have hdigit := Digits.isDigit_digitChar hk
  have hplain : Digits.plain k = [Nat.digitChar k] := Nat.toDigits_of_lt_base hk
  have hmark : isSpace (Nat.digitChar k) = false ∧ Nat.digitChar k ≠ ']' := by
    have all : ∀ k : Fin 10, isSpace (Nat.digitChar k) = false ∧ Nat.digitChar k ≠ ']' := by decide
    exact all ⟨k, hk⟩
  refine ⟨fun _ _ => ⟨_, [], hplain, hmark⟩, ?_⟩
  intro style depth gap rest blank ends
  show Reader.byte (gap ++ (Digits.plain k ++ rest)) = _
  rw [hplain, List.singleton_append, Reader.byte, Reader.bind_ok (Reader.start_gap blank hmark.1 _),
    if_pos (Or.inr hdigit),
    Reader.bind_ok (x := Reader.lexeme Number.read) (Number.read_digit pos hk ends)]
  have hbound : (0 : Int) ≤ k ∧ (k : Int) ≤ 255 := by omega
  simp only [if_pos hbound]
  rfl

/-- What is read back may be put somewhere. -/
theorem Reads.map {α β : Type} {r : Reader α} {w : Writer} {answer : Except ReadError α}
    (h : Reads r w answer) (f : α → β) : Reads (do return f (← r)) w (answer.map f) where
  opens := h.opens
  read style depth gap rest blank ends := by
    have hread := h.read style depth gap rest blank ends
    cases answer with
    | error e =>
        rw [Reader.bind_error hread]
        rfl
    | ok a =>
        rw [Reader.bind_ok hread]
        rfl

/-- What a reader passes on may still be refused by the library. -/
theorem Reads.accept {α β : Type} {r : Reader α} {w : Writer} {a : α} (h : Reads r w (.ok a))
    (f : α → Except Fault β) :
    Reads (do Reader.accept (f (← r))) w ((f a).mapError fun fault => .mismatch (.refused fault)) where
  opens := h.opens
  read style depth gap rest blank ends := by
    rw [Reader.bind_ok (h.read style depth gap rest blank ends)]
    cases f a <;> rfl

/-- A whole text is read back, with blanks behind it or without. -/
theorem Reads.readAll {α : Type} {r : Reader α} {w : Writer} {answer : Except ReadError α}
    (h : Reads r w answer) (style : Style) {gap : List Char} (blank : Blank gap) :
    r.readAll (w.text style ++ gap) = answer := by
  have hread := h.read style 0 [] gap blank_nil blank.ends
  have hskip : skipSpace gap = [] := by
    simpa [skipSpace] using skipSpace_append blank []
  rw [List.nil_append] at hread
  rw [Reader.readAll, Writer.text, StateT.run, hread]
  cases answer with
  | error e => rfl
  | ok a => exact if_pos hskip

/-! ## Rows of values between brackets -/

namespace Writer

/-- What stands behind an entry of an array or object that has these entries still to come. -/
def following (closing : Char) (items : List Writer) (style : Style) (depth : Nat) (rest : List Char) :
    List Char :=
  items.flatMap (fun w => ',' :: (newline style (depth + 1) ++ w style (depth + 1))) ++
    (newline style depth ++ closing :: rest)

theorem following_nil (closing : Char) (style : Style) (depth : Nat) (rest : List Char) :
    following closing [] style depth rest = newline style depth ++ closing :: rest := rfl

theorem following_cons (closing : Char) (w : Writer) (items : List Writer) (style : Style)
    (depth : Nat) (rest : List Char) :
    following closing (w :: items) style depth rest =
      ',' :: (newline style (depth + 1) ++
        (w style (depth + 1) ++ following closing items style depth rest)) := by
  simp [following]

theorem bracketed_cons_append (opening closing : Char) (w : Writer) (items : List Writer)
    (style : Style) (depth : Nat) (rest : List Char) :
    bracketed opening closing (w :: items) style depth ++ rest =
      opening :: (newline style (depth + 1) ++
        (w style (depth + 1) ++ following closing items style depth rest)) := by
  simp [bracketed, following]

/-- Each entry to come takes up at least a comma. -/
theorem length_le_following (closing : Char) (items : List Writer) (style : Style) (depth : Nat)
    (rest : List Char) : items.length ≤ (following closing items style depth rest).length := by
  induction items with
  | nil => exact Nat.zero_le _
  | cons w items ih =>
      rw [following_cons]
      simp only [List.length_cons, List.length_append]
      omega

/-- No number goes on behind an entry. -/
theorem ends_following {closing : Char} (hclosing : closing = ']' ∨ closing = '}')
    (items : List Writer) (style : Style) (depth : Nat) (rest : List Char) :
    Ends (following closing items style depth rest) := by
  cases items with
  | nil =>
      cases style with
      | compact => rcases hclosing with rfl | rfl <;> exact ends_cons (by decide) rest
      | pretty => exact ends_cons (by decide) _
  | cons w items =>
      rw [following_cons]
      exact ends_cons (by decide) _

end Writer

/-! ## Arrays -/

namespace Reader

theorem hasElement_first {gap : List Char} (blank : Blank gap) {c : Char} (hc : isSpace c = false)
    (hopen : c ≠ ']') (s : List Char) : hasElement true (gap ++ c :: s) = .ok (true, c :: s) := by
  rw [hasElement, bind_ok (peek_gap blank hc s)]
  simp only [if_neg hopen, if_pos]
  rfl

theorem hasElement_comma {gap : List Char} (blank : Blank gap) {c : Char} (hc : isSpace c = false)
    (hopen : c ≠ ']') (s : List Char) :
    hasElement false (',' :: (gap ++ c :: s)) = .ok (true, c :: s) := by
  rw [hasElement, bind_ok (peek_cons (c := ',') rfl _)]
  simp only [if_neg (show ',' ≠ ']' by decide), Bool.false_eq_true, if_false, if_pos]
  rw [bind_ok (advance_cons _ _), bind_ok (peek_gap blank hc s)]
  simp only [if_neg hopen]
  rfl

theorem hasElement_close (first : Bool) {gap : List Char} (blank : Blank gap) (rest : List Char) :
    hasElement first (gap ++ ']' :: rest) = .ok (false, ']' :: rest) := by
  rw [hasElement, bind_ok (peek_gap blank rfl rest)]
  rfl

theorem closeList_close (rest : List Char) : closeList (']' :: rest) = .ok ((), rest) := by
  rw [closeList, bind_ok (peek_cons (c := ']') rfl rest)]
  rfl

/-- An element in front goes before those behind it, and its failure before theirs. -/
theorem elements_step {β : Type} {item : Reader β} {steps : Nat} {first : Bool}
    {s t u v : List Char} {answer : Except ReadError β} {later : Except ReadError (List β)}
    (more : hasElement first s = .ok (true, t)) (read : item t = answer.map fun b => (b, u))
    (behind : elements item steps false u = later.map fun bs => (bs, v)) :
    elements item (steps + 1) first s =
      (do return (← answer) :: (← later) : Except ReadError (List β)).map fun bs => (bs, v) := by
  rw [elements, bind_ok more, if_pos rfl]
  cases answer with
  | error e =>
      rw [bind_error read]
      rfl
  | ok b =>
      rw [bind_ok read]
      cases later with
      | error e =>
          rw [bind_error behind]
          rfl
      | ok bs =>
          rw [bind_ok behind]
          rfl

end Reader

section Arrays

variable {α β : Type} {item : Reader β} {write : α → Writer} {answer : α → Except ReadError β}

open Writer

/-- Elements behind a comma are read back up to the closing bracket. -/
theorem elements_following {as : List α} (reads : ∀ a ∈ as, Reads item (write a) (answer a))
    {steps : Nat} (enough : as.length < steps) (style : Style) (depth : Nat) (rest : List Char) :
    Reader.elements item steps false (following ']' (as.map write) style depth rest) =
      (as.mapM answer).map fun bs => (bs, ']' :: rest) := by
  induction as generalizing steps with
  | nil =>
      obtain ⟨steps, rfl⟩ := Nat.exists_eq_add_one_of_ne_zero (Nat.ne_zero_of_lt enough)
      rw [List.map_nil, following_nil, Reader.elements,
        Reader.bind_ok (Reader.hasElement_close false (blank_newline style depth) rest)]
      rfl
  | cons a as ih =>
      obtain ⟨steps, rfl⟩ := Nat.exists_eq_add_one_of_ne_zero (Nat.ne_zero_of_lt enough)
      obtain ⟨ha, has⟩ := List.forall_mem_cons.1 reads
      obtain ⟨c, s, hopens, hspace, hbracket⟩ := ha.opens style (depth + 1)
      -- a comma or the end follows the element, so a number there is not read on
      have hread := ha.read style (depth + 1) [] _ blank_nil
        (ends_following (.inl rfl) (as.map write) style depth rest)
      have hlater := ih has (Nat.lt_of_succ_lt_succ enough)
      rw [List.map_cons, following_cons, List.mapM_cons]
      refine Reader.elements_step ?_ hread hlater
      rw [hopens]
      exact Reader.hasElement_comma (blank_newline style (depth + 1)) hspace hbracket _

/-- The elements of an array are read back from behind its opening bracket. -/
theorem elements_array {as : List α} (reads : ∀ a ∈ as, Reads item (write a) (answer a))
    (style : Style) (depth : Nat) (rest : List Char) :
    ∃ s, array (as.map write) style depth ++ rest = '[' :: s ∧
      Reader.elements item (s.length + 1) true s =
        (as.mapM answer).map fun bs => (bs, ']' :: rest) := by
  cases as with
  | nil =>
      refine ⟨']' :: rest, rfl, ?_⟩
      have hclose : Reader.hasElement true (']' :: rest) = .ok (false, ']' :: rest) :=
        Reader.hasElement_close true blank_nil rest
      rw [Reader.elements, Reader.bind_ok hclose]
      rfl
  | cons a as =>
      obtain ⟨ha, has⟩ := List.forall_mem_cons.1 reads
      obtain ⟨c, s, hopens, hspace, hbracket⟩ := ha.opens style (depth + 1)
      refine ⟨_, bracketed_cons_append '[' ']' (write a) (as.map write) style depth rest, ?_⟩
      have hread := ha.read style (depth + 1) [] _ blank_nil
        (ends_following (.inl rfl) (as.map write) style depth rest)
      rw [List.mapM_cons]
      refine Reader.elements_step ?_ hread (elements_following has ?_ style depth rest)
      · rw [hopens]
        exact Reader.hasElement_first (blank_newline style (depth + 1)) hspace hbracket _
      · -- the steps are bounded by the text, and each element behind takes up a comma of it
        have hlength := length_le_following ']' (as.map write) style depth rest
        rw [List.length_map] at hlength
        rw [hopens]
        simp only [List.length_append, List.length_cons]
        omega

/-- **An array is read back element by element**, and refused with the first element that is. -/
theorem reads_array {as : List α} (reads : ∀ a ∈ as, Reads item (write a) (answer a)) :
    Reads (Reader.array item) (.array (as.map write)) (as.mapM answer) := by
  refine ⟨fun style depth => ?_, fun style depth gap rest blank _ => ?_⟩
  · cases as with
    | nil => exact ⟨'[', _, rfl, rfl, by decide⟩
    | cons a as => exact ⟨'[', _, rfl, rfl, by decide⟩
  obtain ⟨s, htext, helements⟩ := elements_array reads style depth rest
  rw [htext, Reader.array, Reader.bind_ok (Reader.start_gap blank rfl s), if_pos rfl,
    Reader.bind_ok (Reader.advance_cons '[' s), Reader.bind_ok (x := get) (s := s) rfl]
  cases hanswer : as.mapM answer with
  | error e =>
      rw [hanswer] at helements
      rw [Reader.bind_error helements]
      rfl
  | ok bs =>
      rw [hanswer] at helements
      rw [Reader.bind_ok helements, Reader.bind_ok (Reader.closeList_close rest)]
      rfl

end Arrays

/-! ## Objects -/

namespace Record

theorem hasMember_first {gap : List Char} (blank : Blank gap) (s : List Char) :
    hasMember true (gap ++ '"' :: s) = .ok (true, '"' :: s) := by
  rw [hasMember, Reader.bind_ok (Reader.peek_gap blank rfl s)]
  rfl

theorem hasMember_comma {gap : List Char} (blank : Blank gap) (s : List Char) :
    hasMember false (',' :: (gap ++ '"' :: s)) = .ok (true, '"' :: s) := by
  rw [hasMember, Reader.bind_ok (Reader.peek_cons (c := ',') rfl _)]
  simp only [if_neg (show ',' ≠ '}' by decide), Bool.false_eq_true, if_false, if_pos]
  rw [Reader.bind_ok (Reader.advance_cons _ _), Reader.bind_ok (Reader.peek_gap blank rfl s)]
  rfl

theorem hasMember_close (first : Bool) {gap : List Char} (blank : Blank gap) (rest : List Char) :
    hasMember first (gap ++ '}' :: rest) = .ok (false, '}' :: rest) := by
  rw [hasMember, Reader.bind_ok (Reader.peek_gap blank rfl rest)]
  rfl

theorem colon_cons (s : List Char) : colon (':' :: s) = .ok ((), s) := by
  rw [colon, Reader.bind_ok (Reader.peek_cons (c := ':') rfl s)]
  rfl

variable {σ : Type} {fields : List (Field σ)}

/-- A member with the name of a field that is lacking is read for this field. -/
theorem member_named {field : Field σ} {key : List Char} {draft : σ}
    (named : fields.find? (fun f => f.name.toList = key) = some field)
    (lacking : field.isSet draft = false) :
    member fields key draft = (do colon; field.read draft) := by
  simp only [member, named, lacking, Bool.false_eq_true, if_false]

end Record

/-- A member is its key between quotes, a colon, perhaps a blank, and its value. -/
theorem Writer.member_append (key : String) (w : Writer) (style : Style) (depth : Nat) :
    ∃ gap, Blank gap ∧ ∀ rest, member key w style depth ++ rest =
      '"' :: (key.toList.flatMap escape ++ '"' :: ':' :: (gap ++ (w style depth ++ rest))) := by
  cases style with
  | compact => exact ⟨[], blank_nil, fun rest => by simp [member, string]⟩
  | pretty => exact ⟨[' '], blank_space, fun rest => by simp [member, string]⟩

section Objects

variable {σ α : Type} {fields : List (Field σ)}

open Writer

/-- Members that fill the fields of a draft one after the other: each has the name of a field that the
draft lacks, and its value is read back for that field. -/
inductive Fills (fields : List (Field σ)) : σ → List (String × Writer) → σ → Prop where
  | nil (draft : σ) : Fills fields draft [] draft
  | cons {draft next last : σ} {key : String} {w : Writer} {members : List (String × Writer)}
      {field : Field σ} (named : fields.find? (fun f => f.name.toList = key.toList) = some field)
      (lacking : field.isSet draft = false) (reads : Reads (field.read draft) w (.ok next))
      (later : Fills fields next members last) : Fills fields draft ((key, w) :: members) last

/-- A member may be kept or left out. If it is left out, the draft goes on lacking its field. -/
theorem Fills.optional {keep : String × Writer → Bool} (onward : σ) {draft next last : σ} {key : String}
    {w : Writer} {members : List (String × Writer)} {field : Field σ}
    (named : fields.find? (fun f => f.name.toList = key.toList) = some field)
    (lacking : field.isSet draft = false) (reads : Reads (field.read draft) w (.ok next))
    (kept : keep (key, w) = true → onward = next) (left : keep (key, w) = false → onward = draft)
    (later : Fills fields onward (members.filter keep) last) :
    Fills fields draft (((key, w) :: members).filter keep) last := by
  cases hkeep : keep (key, w) with
  | true =>
      rw [List.filter_cons_of_pos hkeep]
      rw [kept hkeep] at later
      exact .cons named lacking reads later
  | false =>
      rw [List.filter_cons_of_neg (by simp [hkeep])]
      rwa [left hkeep] at later

/-- A member in front is read for its field. If that is answered by a draft, the rest is read into it;
otherwise the answer is the failure of all members. -/
theorem members_entry (style : Style) (depth : Nat) {draft : σ} {key : String} {w : Writer}
    {field : Field σ} {answer : Except ReadError σ}
    (named : fields.find? (fun f => f.name.toList = key.toList) = some field)
    (lacking : field.isSet draft = false) (reads : Reads (field.read draft) w answer)
    {steps : Nat} {first : Bool} {s u : List Char} (ends : Ends u)
    (more : Record.hasMember first s = .ok (true, member key w style depth ++ u)) :
    Record.members fields (steps + 1) first draft s =
      answer.bind fun next => Record.members fields steps false next u := by
  obtain ⟨gap, blank, htext⟩ := member_append key w style depth
  have hmember : Record.member fields key.toList draft (':' :: (gap ++ (w style depth ++ u))) =
      answer.map fun next => (next, u) := by
    rw [Record.member_named named lacking, Reader.bind_ok (Record.colon_cons _)]
    exact reads.read style depth gap u blank ends
  rw [htext] at more
  rw [Record.members, Reader.bind_ok more, if_pos rfl, Reader.bind_ok (Reader.advance_cons _ _),
    Reader.bind_ok (x := Reader.lexeme stringRest) (stringRest_string key.toList _)]
  cases answer with
  | error e => rw [Reader.bind_error hmember]; rfl
  | ok next => rw [Reader.bind_ok hmember]; rfl

/-- A member in front fills its field, and the rest is read into what comes of it. -/
theorem members_step (style : Style) (depth : Nat) {draft next : σ} {key : String} {w : Writer}
    {field : Field σ}
    (named : fields.find? (fun f => f.name.toList = key.toList) = some field)
    (lacking : field.isSet draft = false) (reads : Reads (field.read draft) w (.ok next))
    {steps : Nat} {first : Bool} {s u : List Char} (ends : Ends u)
    (more : Record.hasMember first s = .ok (true, member key w style depth ++ u)) :
    Record.members fields (steps + 1) first draft s = Record.members fields steps false next u :=
  members_entry style depth named lacking reads ends more

/-- Members behind a comma are read into a draft up to the closing brace. -/
theorem members_following {draft last : σ} {ms : List (String × Writer)}
    (fills : Fills fields draft ms last) {steps : Nat} (enough : ms.length < steps) (style : Style)
    (depth : Nat) (rest : List Char) :
    Record.members fields steps false draft
      (following '}' (ms.map fun m => member m.1 m.2) style depth rest) =
        .ok (last, '}' :: rest) := by
  induction fills generalizing steps with
  | nil draft =>
      obtain ⟨steps, rfl⟩ := Nat.exists_eq_add_one_of_ne_zero (Nat.ne_zero_of_lt enough)
      rw [List.map_nil, following_nil, Record.members,
        Reader.bind_ok (Record.hasMember_close false (blank_newline style depth) rest)]
      rfl
  | @cons draft next last key w ms field named lacking reads later ih =>
      obtain ⟨steps, rfl⟩ := Nat.exists_eq_add_one_of_ne_zero (Nat.ne_zero_of_lt enough)
      obtain ⟨gap, -, htext⟩ := member_append key w style (depth + 1)
      have hends := ends_following (.inr rfl) (ms.map fun m => member m.1 m.2) style depth rest
      rw [List.map_cons, following_cons]
      refine (members_step style (depth + 1) named lacking reads hends ?_).trans
        (ih (Nat.lt_of_succ_lt_succ enough))
      rw [htext]
      exact Record.hasMember_comma (blank_newline style (depth + 1)) _

/-- The members of an object are read into a draft from behind its opening brace. -/
theorem members_object {draft last : σ} {ms : List (String × Writer)}
    (fills : Fills fields draft ms last) (style : Style) (depth : Nat) (rest : List Char) :
    ∃ s, object ms style depth ++ rest = '{' :: s ∧
      Record.members fields (s.length + 1) true draft s = .ok (last, '}' :: rest) := by
  cases fills with
  | nil =>
      have hclose : Record.hasMember true ('}' :: rest) = .ok (false, '}' :: rest) :=
        Record.hasMember_close true blank_nil rest
      refine ⟨'}' :: rest, rfl, ?_⟩
      rw [Record.members, Reader.bind_ok hclose]
      rfl
  | @cons draft next last key w ms field named lacking reads later =>
      obtain ⟨gap, -, htext⟩ := member_append key w style (depth + 1)
      refine ⟨_, by rw [object, List.map_cons, bracketed_cons_append], ?_⟩
      have hends := ends_following (.inr rfl) (ms.map fun m => member m.1 m.2) style depth rest
      refine (members_step style (depth + 1) named lacking reads hends ?_).trans
        (members_following later ?_ style depth rest)
      · rw [htext]
        exact Record.hasMember_first (blank_newline style (depth + 1)) _
      · -- as in an array, there are commas enough for the members behind
        have hlength := length_le_following '}' (ms.map fun m => member m.1 m.2) style depth rest
        rw [List.length_map] at hlength
        rw [htext]
        simp only [List.length_append, List.length_cons]
        omega

/-- **An object is read back as the record of the draft that its members fill.** -/
theorem reads_object {r : Record σ α} (last : σ) {a : α} {ms : List (String × Writer)}
    (fills : Fills r.fields r.blank ms last) (finish : r.finish last = .ok a) :
    Reads r.read (.object ms) (.ok a) := by
  refine ⟨fun style depth => ?_, fun style depth gap rest blank _ => ?_⟩
  · cases ms with
    | nil => exact ⟨'{', _, rfl, rfl, by decide⟩
    | cons m ms => exact ⟨'{', _, rfl, rfl, by decide⟩
  -- the draft is checked before the closing brace is read
  obtain ⟨s, htext, hmembers⟩ := members_object fills style depth rest
  have hcomplete : r.complete last ('}' :: rest) = .ok (a, '}' :: rest) := by
    rw [Record.complete, finish]
    rfl
  rw [htext, Record.read, Reader.bind_ok (Reader.start_gap blank rfl s),
    if_neg (show '{' ≠ '[' by decide), if_pos rfl, Reader.bind_ok (Reader.advance_cons _ s),
    Reader.bind_ok (x := get) (s := s) rfl, Reader.bind_ok hmembers, Reader.bind_ok hcomplete,
    Reader.bind_ok (Reader.advance_cons _ rest)]
  rfl

/-- Members behind a comma are refused for the first whose value is, if those before it fill their
fields. -/
theorem members_refused {draft last : σ} {before : List (String × Writer)}
    (fills : Fills fields draft before last) {key : String} {w : Writer} {field : Field σ}
    {e : ReadError} (named : fields.find? (fun f => f.name.toList = key.toList) = some field)
    (lacking : field.isSet last = false) (reads : Reads (field.read last) w (.error e))
    (after : List (String × Writer)) {steps : Nat} (enough : before.length < steps) (style : Style)
    (depth : Nat) (rest : List Char) :
    Record.members fields steps false draft
      (following '}' ((before ++ (key, w) :: after).map fun m => member m.1 m.2) style depth rest) =
        .error e := by
  induction fills generalizing steps with
  | nil last =>
      obtain ⟨steps, rfl⟩ := Nat.exists_eq_add_one_of_ne_zero (Nat.ne_zero_of_lt enough)
      obtain ⟨gap, -, htext⟩ := member_append key w style (depth + 1)
      have hends := ends_following (.inr rfl) (after.map fun m => member m.1 m.2) style depth rest
      rw [List.nil_append, List.map_cons, following_cons]
      refine members_entry style (depth + 1) named lacking reads hends ?_
      rw [htext]
      exact Record.hasMember_comma (blank_newline style (depth + 1)) _
  | @cons draft next last key' w' before field' named' lacking' reads' later ih =>
      obtain ⟨steps, rfl⟩ := Nat.exists_eq_add_one_of_ne_zero (Nat.ne_zero_of_lt enough)
      obtain ⟨gap, -, htext⟩ := member_append key' w' style (depth + 1)
      have hends := ends_following (.inr rfl)
        ((before ++ (key, w) :: after).map fun m => member m.1 m.2) style depth rest
      rw [List.cons_append, List.map_cons, following_cons]
      refine (members_step style (depth + 1) named' lacking' reads' hends ?_).trans
        (ih lacking reads (Nat.lt_of_succ_lt_succ enough))
      rw [htext]
      exact Record.hasMember_comma (blank_newline style (depth + 1)) _

/-- The members of an object are refused from behind its opening brace. -/
theorem members_object_refused {draft last : σ} {before : List (String × Writer)}
    (fills : Fills fields draft before last) {key : String} {w : Writer} {field : Field σ}
    {e : ReadError} (named : fields.find? (fun f => f.name.toList = key.toList) = some field)
    (lacking : field.isSet last = false) (reads : Reads (field.read last) w (.error e))
    (after : List (String × Writer)) (style : Style) (depth : Nat) (rest : List Char) :
    ∃ s, object (before ++ (key, w) :: after) style depth ++ rest = '{' :: s ∧
      Record.members fields (s.length + 1) true draft s = .error e := by
  cases fills with
  | nil =>
      obtain ⟨gap, -, htext⟩ := member_append key w style (depth + 1)
      have hends := ends_following (.inr rfl) (after.map fun m => member m.1 m.2) style depth rest
      refine ⟨_, by rw [object, List.nil_append, List.map_cons, bracketed_cons_append], ?_⟩
      refine members_entry style (depth + 1) named lacking reads hends ?_
      rw [htext]
      exact Record.hasMember_first (blank_newline style (depth + 1)) _
  | @cons _ next _ key' w' before field' named' lacking' reads' later =>
      obtain ⟨gap, -, htext⟩ := member_append key' w' style (depth + 1)
      have hends := ends_following (.inr rfl)
        ((before ++ (key, w) :: after).map fun m => member m.1 m.2) style depth rest
      refine ⟨_, by rw [object, List.cons_append, List.map_cons, bracketed_cons_append], ?_⟩
      refine (members_step style (depth + 1) named' lacking' reads' hends ?_).trans
        (members_refused later named lacking reads after ?_ style depth rest)
      · rw [htext]
        exact Record.hasMember_first (blank_newline style (depth + 1)) _
      · -- there are commas enough for the members behind
        have hlength := length_le_following '}'
          ((before ++ (key, w) :: after).map fun m => member m.1 m.2) style depth rest
        rw [List.length_map, List.length_append] at hlength
        rw [htext]
        simp only [List.length_append, List.length_cons] at hlength ⊢
        omega

/-- **An object is refused for the first member whose value is**, if those before it fill their fields. -/
theorem reads_object_refused {r : Record σ α} {last : σ} {before : List (String × Writer)}
    (fills : Fills r.fields r.blank before last) {key : String} {w : Writer} {field : Field σ}
    {e : ReadError} (named : r.fields.find? (fun f => f.name.toList = key.toList) = some field)
    (lacking : field.isSet last = false) (reads : Reads (field.read last) w (.error e))
    (after : List (String × Writer)) :
    Reads r.read (.object (before ++ (key, w) :: after)) (.error e) := by
  refine ⟨fun style depth => ?_, fun style depth gap rest blank _ => ?_⟩
  · cases before with
    | nil => exact ⟨'{', _, rfl, rfl, by decide⟩
    | cons m before => exact ⟨'{', _, rfl, rfl, by decide⟩
  obtain ⟨s, htext, hmembers⟩ :=
    members_object_refused fills named lacking reads after style depth rest
  rw [htext, Record.read, Reader.bind_ok (Reader.start_gap blank rfl s),
    if_neg (show '{' ≠ '[' by decide), if_pos rfl, Reader.bind_ok (Reader.advance_cons _ s),
    Reader.bind_ok (x := get) (s := s) rfl, Reader.bind_error hmembers]
  rfl

end Objects

end Json

end AccessWindows
