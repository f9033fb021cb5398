import AccessWindows.Proofs.Construction

/-!
# Texts that break off

A reader goes through a text once. So what it takes of a whole text it takes of the front as well, or it
comes to the end of the front and reports that (`Json.Agrees`, `Json.Streams`). This goes from one step
of a reader to the next (`Json.Agrees.bind`), and every step that looks at a character has it: where
there is none it reports the end (`Json.streams_peek`). A string is left at any of its characters, inside
an escape as well (`Json.agrees_stringBody`).

A number is the exception, since its front is a number too. Of what is written, only weekdays are numbers,
and they have one digit. So the readers of values as they are written have the property
(`Json.Takes`): strings and digits have it, and it goes through arrays (`Json.takes_array`) and objects
(`Json.takes_object`). If a text that is read breaks off, it is refused because it has ended
(`Json.Takes.readAll_front`).

The bound on the steps through an array or an object is another one for the front than for the whole. If
it were too small the reader would report the end of the text too, so it need not be compared.
-/

set_option autoImplicit false

namespace AccessWindows

namespace Json

open Reader

variable {α β : Type}

/-! ## The front of a text -/

/-- Whether a text is refused because it has ended. -/
def RunsOut (x : Except ReadError α) : Prop := ∃ u, x = .error (.eof u)

/-- What is read of the front of a text agrees with what is read of the whole, of which `behind` is
missing. If the whole is read, then the front is read with the same value, and its rest lacks `behind`
too, or the front runs out. -/
def Agrees (behind : List Char) (whole front : Lexed α) : Prop :=
  ∀ a rest, whole = .ok (a, rest) →
    (∃ s, rest = s ++ behind ∧ front = .ok (a, s)) ∨ RunsOut front

/-- A reader takes a text as it comes: what it reads of the front agrees with what it reads of the
whole, wherever the text breaks off. -/
def Streams (r : Reader α) (t : List Char) : Prop :=
  ∀ front behind, t = front ++ behind → Agrees behind (r t) (r front)

/-- The same for a text whose first character has come. -/
def StreamsFrom (c : Char) (r : Reader α) (s : List Char) : Prop :=
  ∀ front behind, s = front ++ behind → Agrees behind (r (c :: s)) (r (c :: front))

section Steps

variable {behind : List Char}

theorem agrees_of_error {whole front : Lexed α} {e : ReadError} (h : whole = .error e) :
    Agrees behind whole front := by
  intro a rest hok
  exact nomatch h.symm.trans hok

theorem agrees_of_runsOut {whole front : Lexed α} (h : RunsOut front) : Agrees behind whole front :=
  fun _ _ _ => .inr h

/-- One step after another. The front may be read by other steps. -/
theorem Agrees.bind {x y : Reader α} {f g : α → Reader β} {t front : List Char}
    (hx : Agrees behind (x t) (y front))
    (hf : ∀ a s, x t = .ok (a, s ++ behind) → y front = .ok (a, s) →
      Agrees behind (f a (s ++ behind)) (g a s)) :
    Agrees behind ((x >>= f) t) ((y >>= g) front) := by
  intro b rest h
  obtain ⟨a, u, hwhole, hlater⟩ := bind_eq_ok_iff.1 h
  rcases hx a u hwhole with ⟨s, rfl, hfront⟩ | ⟨u', hfront⟩
  · rw [bind_ok hfront]
    exact hf a s hwhole hfront b rest hlater
  · exact .inr ⟨u', bind_error hfront⟩

/-- One step after another, if it is known what the first one reads of the whole. -/
theorem Agrees.bind_read {x y : Reader α} {f g : α → Reader β} {t u front : List Char} {a : α}
    (hx : Agrees behind (x t) (y front)) (read : x t = .ok (a, u))
    (hf : ∀ s, u = s ++ behind → y front = .ok (a, s) → Agrees behind (f a u) (g a s)) :
    Agrees behind ((x >>= f) t) ((y >>= g) front) := by
  refine hx.bind fun b s hwhole hfront => ?_
  obtain ⟨rfl, rfl⟩ := Prod.mk.inj (Except.ok.inj (read.symm.trans hwhole))
  exact hf s rfl hfront

end Steps

section Streams

variable {t : List Char}

theorem streams_pure (a : α) (t : List Char) : Streams (pure a) t := by
  rintro front behind rfl b rest h
  obtain ⟨rfl, rfl⟩ := Prod.mk.inj (Except.ok.inj h)
  exact .inl ⟨front, rfl, rfl⟩

/-- A reader that always fails takes any text as it comes. -/
theorem Reader.Yields.streams {r : Reader α} (h : r.Yields fun _ => False) (t : List Char) :
    Streams r t :=
  fun _ _ _ a rest hok => (h t a rest hok).elim

theorem streams_throw (e : ReadError) (t : List Char) : Streams (throw e : Reader α) t :=
  (yields_throw e _).streams t

theorem Streams.bind {x : Reader α} {f : α → Reader β} (hx : Streams x t)
    (hf : ∀ a u, x t = .ok (a, u) → Streams (f a) u) : Streams (x >>= f) t :=
  fun front behind cut => (hx front behind cut).bind fun a s hwhole _ =>
    hf a (s ++ behind) hwhole s behind rfl

theorem Streams.map {x : Reader α} (hx : Streams x t) (f : α → β) :
    Streams (do return f (← x)) t :=
  hx.bind fun _ _ _ => streams_pure _ _

theorem Streams.accept {x : Reader α} (hx : Streams x t) (f : α → Except Fault β) :
    Streams (do Reader.accept (f (← x))) t := by
  refine hx.bind fun a u _ => ?_
  cases f a with
  | error fault => exact streams_throw _ u
  | ok b => exact streams_pure b u

theorem Streams.from {c : Char} {r : Reader α} {s : List Char} (h : Streams r (c :: s)) :
    StreamsFrom c r s :=
  fun front behind cut => h (c :: front) behind (congrArg (c :: ·) cut)

theorem streamsFrom_advance {c : Char} {f : Unit → Reader α} {s : List Char} (h : Streams (f ()) s) :
    StreamsFrom c (advance >>= f) s := by
  intro front behind cut
  rw [bind_ok (advance_cons c s), bind_ok (advance_cons c front)]
  exact h front behind cut

/-! ## Steps that look at a character -/

/-- A reader that looks at the next character takes the text as it comes if it does so from this
character on. If the front is blank it has no such character, and the reader runs out. -/
theorem streams_peek {k : Option Char → Reader α} (ends : RunsOut (k none []))
    (h : ∀ c s, skipSpace t = c :: s → StreamsFrom c (k (some c)) s) : Streams (peek >>= k) t := by
  intro front behind cut
  cases hfront : skipSpace front with
  | nil =>
      -- there are only blanks in the front
      have hpeek : peek front = .ok (none, []) := by rw [peek_eq, hfront]; rfl
      apply agrees_of_runsOut
      rw [bind_ok hpeek]
      exact ends
  | cons c s =>
      -- the character comes next in the whole as well
      have hwhole : skipSpace t = c :: (s ++ behind) := by
        rw [skipSpace] at hfront ⊢
        rw [cut, List.dropWhile_append, hfront]
        rfl
      have hpeek : peek front = .ok (some c, c :: s) := by rw [peek_eq, hfront]; rfl
      have hpeek' : peek t = .ok (some c, c :: (s ++ behind)) := by rw [peek_eq, hwhole]; rfl
      rw [bind_ok hpeek, bind_ok hpeek']
      exact h c (s ++ behind) hwhole s behind rfl

/-- Such a reader comes to a value only if there is a character. -/
theorem exists_of_peek_bind_eq_ok {k : Option Char → Reader α} (ends : RunsOut (k none [])) {s : List Char}
    {p : α × List Char} (h : (peek >>= k) s = .ok p) : ∃ c v, k (some c) (c :: v) = .ok p := by
  rw [bind_ok (peek_eq s)] at h
  cases hskip : skipSpace s with
  | nil =>
      rw [hskip] at h
      obtain ⟨u, hu⟩ := ends
      exact nomatch hu.symm.trans h
  | cons c v =>
      rw [hskip] at h
      exact ⟨c, v, h⟩

/-- A value is taken as it comes if it is so from its first character on. -/
theorem streams_start {k : Char → Reader α}
    (h : ∀ c s, skipSpace t = c :: s → StreamsFrom c (k c) s) : Streams (start >>= k) t := by
  rw [start, bind_assoc]
  refine streams_peek ⟨.value, rfl⟩ fun c s hskip => ?_
  exact h c s hskip

/-- The same behind blanks. -/
theorem streams_start_gap {k : Char → Reader α} {gap s : List Char} {c : Char} (blank : Blank gap)
    (hc : isSpace c = false) (h : StreamsFrom c (k c) s) : Streams (start >>= k) (gap ++ c :: s) := by
  refine streams_start fun d u hskip => ?_
  rw [skipSpace_gap blank hc] at hskip
  obtain ⟨rfl, rfl⟩ := List.cons.inj hskip
  exact h

theorem streams_hasElement (first : Bool) (t : List Char) : Streams (hasElement first) t := by
  refine streams_peek ⟨.list, rfl⟩ fun c s _ => ?_
  dsimp only
  split
  · exact (streams_pure false _).from
  · split
    · exact (streams_pure true _).from
    · split
      · refine streamsFrom_advance (streams_peek ⟨.value, rfl⟩ fun d s' _ => ?_)
        dsimp only
        split
        · exact (streams_throw _ _).from
        · exact (streams_pure true _).from
      · exact (streams_throw _ _).from

theorem streams_closeList (t : List Char) : Streams closeList t := by
  refine streams_peek ⟨.list, rfl⟩ fun c s _ => ?_
  dsimp only
  split
  · exact streamsFrom_advance (streams_pure () s)
  · split
    · refine streamsFrom_advance (Yields.streams ?_ s)
      exact (yields_any peek).bind fun _ _ => .ite (yields_throw _ _) (yields_throw _ _)
    · exact (streams_throw _ _).from

theorem Record.streams_hasMember (first : Bool) (t : List Char) : Streams (hasMember first) t := by
  refine streams_peek ⟨.object, rfl⟩ fun c s _ => ?_
  dsimp only
  split
  · exact (streams_pure false _).from
  · split
    · split
      · exact (streams_pure true _).from
      · exact (streams_throw _ _).from
    · split
      · refine streamsFrom_advance (streams_peek ⟨.value, rfl⟩ fun d s' _ => ?_)
        dsimp only
        split
        · exact (streams_pure true _).from
        · exact (Yields.streams (.ite (yields_throw _ _) (yields_throw _ _)) _).from
      · exact (streams_throw _ _).from

theorem Record.streams_colon (t : List Char) : Streams colon t := by
  refine streams_peek ⟨.object, rfl⟩ fun c s _ => ?_
  dsimp only
  split
  · exact streamsFrom_advance (streams_pure () s)
  · exact (streams_throw _ _).from

end Streams

/-! ## Strings and digits -/

theorem Agrees.prepend {behind : List Char} {whole front : Lexed (List Char)} (c : Char)
    (h : Agrees behind whole front) : Agrees behind (prepend c whole) (prepend c front) := by
  intro a rest hok
  cases whole with
  | error e => exact nomatch hok
  | ok p =>
      obtain ⟨cs, u⟩ := p
      obtain ⟨rfl, rfl⟩ := Prod.mk.inj (Except.ok.inj hok)
      rcases h cs u rfl with ⟨s, hs, hfront⟩ | ⟨u', hfront⟩
      · exact .inl ⟨s, hs, by rw [hfront]; rfl⟩
      · exact .inr ⟨u', by rw [hfront]; rfl⟩

/-- **A string may break off at any character**, whatever the characters before have announced. -/
theorem agrees_stringBody (state : StringState) (front behind : List Char) :
    Agrees behind (stringBody state (front ++ behind)) (stringBody state front) := by
  -- by induction on the front: in every state the next character alone decides how to go on
  induction front generalizing state with
  | nil => exact agrees_of_runsOut ⟨.string, by rw [stringBody]⟩
  | cons c s ih =>
      rw [List.cons_append]
      cases state with
      | plain =>
          simp only [stringBody]
          split
          · exact streams_pure [] (s ++ behind) s behind rfl
          · split
            · exact ih .escape
            · split
              · exact agrees_of_error rfl
              · exact (ih .plain).prepend c
      | escape =>
          simp only [stringBody]
          split
          · exact ih (.hex none 0 0)
          · cases unescape? c with
            | none => exact agrees_of_error rfl
            | some d => exact (ih .plain).prepend d
      | hex leading count value =>
          simp only [stringBody]
          cases Digits.hexValue? c with
          | none =>
              -- what is said of a bad digit depends on how much follows, but no whole is read so
              exact agrees_of_error rfl
          | some d =>
              dsimp only
              split
              · exact ih (.hex leading (count + 1) _)
              · -- the fourth digit makes a character, or the first half of one
                cases leading with
                | none =>
                    dsimp only
                    split
                    · exact agrees_of_error rfl
                    · split
                      · exact ih (.leading _)
                      · exact (ih .plain).prepend _
                | some first =>
                    dsimp only
                    split
                    · exact (ih .plain).prepend _
                    · exact agrees_of_error rfl
      | leading unit =>
          simp only [stringBody]
          split
          · exact ih (.leadingEscape unit)
          · exact agrees_of_error rfl
      | leadingEscape unit =>
          simp only [stringBody]
          split
          · exact ih (.hex (some unit) 0 0)
          · exact agrees_of_error rfl

theorem streams_stringRest (t : List Char) : Streams (lexeme stringRest) t := by
  rintro front behind rfl
  exact agrees_stringBody .plain front behind

theorem streams_stringFor (wanted : Expected) (t : List Char) : Streams (stringFor wanted) t := by
  refine streams_start fun c s _ => ?_
  split
  · exact streamsFrom_advance (streams_stringRest s)
  · exact (Yields.streams (yields_unexpected _ _) _).from

/-! ## Values as they are written -/

/-- A reader takes what a writer writes as it comes, behind any blanks and before any text that does not
go on with it. -/
def Takes (r : Reader α) (w : Writer) : Prop :=
  ∀ style depth gap rest, Blank gap → Ends rest → Streams r (gap ++ (w style depth ++ rest))

theorem takes_stringFor (wanted : Expected) (w : Writer) : Takes (stringFor wanted) w :=
  fun _ _ _ _ _ _ => streams_stringFor wanted _

theorem takes_string (w : Writer) : Takes Reader.string w := takes_stringFor .string w

theorem Ends.front {front behind : List Char} (ends : Ends (front ++ behind)) : Ends front := by
  rintro c s rfl
  exact ends c (s ++ behind) rfl

/-- A number of one digit has no front but the empty one. -/
theorem takes_byte {k : Nat} (pos : 0 < k) (hk : k < 10) : Takes byte (.number k) := by
  intro style depth gap rest blank ends
  have hplain : Digits.plain k = [Nat.digitChar k] := Nat.toDigits_of_lt_base hk
  obtain ⟨c, s, hopens, hspace, -⟩ := (reads_byte pos hk).opens style depth
  obtain ⟨rfl, -⟩ := List.cons.inj (hplain.symm.trans hopens)
  show Streams byte (gap ++ (Digits.plain k ++ rest))
  rw [hplain, List.singleton_append]
  refine streams_start_gap blank hspace ?_
  rw [if_pos (Or.inr (Digits.isDigit_digitChar hk))]
  rintro front behind rfl
  -- what follows the digit in the front does not go on with it either
  have hnumber : Agrees behind (Number.read (Nat.digitChar k :: (front ++ behind)))
      (Number.read (Nat.digitChar k :: front)) := by
    rw [Number.read_digit pos hk ends, Number.read_digit pos hk ends.front]
    exact streams_pure _ _ front behind rfl
  refine Agrees.bind (x := lexeme Number.read) hnumber fun n s _ _ => ?_
  cases n with
  | integer n =>
      dsimp only
      split
      · exact streams_pure _ _ s behind rfl
      · exact agrees_of_error rfl
  | floating negative x => exact agrees_of_error rfl

theorem Takes.map {r : Reader α} {w : Writer} (h : Takes r w) (f : α → β) :
    Takes (do return f (← r)) w :=
  fun style depth gap rest blank ends => (h style depth gap rest blank ends).map f

theorem Takes.accept {r : Reader α} {w : Writer} (h : Takes r w) (f : α → Except Fault β) :
    Takes (do Reader.accept (f (← r))) w :=
  fun style depth gap rest blank ends => (h style depth gap rest blank ends).accept f

/-- A text that is read runs out wherever it breaks off. -/
theorem Takes.readAll_front {r : Reader α} {w : Writer} {a : α} (takes : Takes r w)
    (reads : Reads r w (.ok a)) {style : Style} {front behind : List Char}
    (cut : w.text style = front ++ behind) (short : behind ≠ []) : RunsOut (r.readAll front) := by
  have hread := reads.read style 0 [] [] blank_nil blank_nil.ends
  have hstreams := takes style 0 [] [] blank_nil blank_nil.ends front behind
  rw [List.nil_append, List.append_nil] at hread hstreams
  rcases hstreams cut a [] hread with ⟨s, hs, -⟩ | ⟨u, hfront⟩
  · -- the whole leaves nothing, so it cannot leave what is missing
    exact absurd (List.append_eq_nil_iff.1 hs.symm).2 short
  · refine ⟨u, ?_⟩
    rw [Reader.readAll, StateT.run, hfront]

/-! ## Arrays -/

section Arrays

variable {item : Reader β} {write : α → Writer} {answer : α → Except ReadError β}

open Writer

/-- Read an element and those behind it. -/
def Reader.elementAndMore (item : Reader β) (steps : Nat) : Reader (List β) := do
  return (← item) :: (← elements item steps false)

/-- The elements of an array agree if they do so once there is one, whatever bounds their number. -/
theorem agrees_elements {first : Bool} {t front behind : List Char} (cut : t = front ++ behind)
    (more : ∀ u s, hasElement first t = .ok (true, u) → u = s ++ behind → ∀ steps steps',
      Agrees behind (elementAndMore item steps u) (elementAndMore item steps' s))
    (steps steps' : Nat) :
    Agrees behind (elements item steps first t) (elements item steps' first front) := by
  cases steps with
  | zero => exact agrees_of_error rfl
  | succ steps =>
    cases steps' with
    | zero =>
      -- a front without steps is refused as one that has ended
      exact agrees_of_runsOut ⟨.list, rfl⟩
    | succ steps' =>
      rw [elements, elements]
      refine (streams_hasElement first t front behind cut).bind fun another s hwhole _ => ?_
      cases another with
      | false => exact streams_pure [] _ s behind rfl
      | true => exact more _ s hwhole rfl steps steps'

/-- An element agrees with those behind it if these agree. -/
theorem agrees_element {a : α} (reads : Reads item (write a) (answer a))
    (takes : Takes item (write a)) {style : Style} {depth steps steps' : Nat}
    {u s behind : List Char} (ends : Ends u) (cut : write a style depth ++ u = s ++ behind)
    (later : ∀ s', u = s' ++ behind →
      Agrees behind (elements item steps false u) (elements item steps' false s')) :
    Agrees behind (elementAndMore item steps (write a style depth ++ u))
      (elementAndMore item steps' s) := by
  have hread := reads.read style depth [] u blank_nil ends
  have hitem := takes style depth [] u blank_nil ends s behind
  rw [List.nil_append] at hread hitem
  cases hanswer : answer a with
  | error e =>
      -- with an element that is refused, the whole is not read
      rw [hanswer] at hread
      exact agrees_of_error (bind_error hread)
  | ok b =>
      rw [hanswer] at hread
      refine (hitem cut).bind_read hread fun s' hs' _ => ?_
      exact (later s' hs').bind fun bs v _ _ => streams_pure (b :: bs) _ v behind rfl

/-- Elements behind a comma agree. -/
theorem agrees_elements_following {as : List α} (reads : ∀ a ∈ as, Reads item (write a) (answer a))
    (takes : ∀ a ∈ as, Takes item (write a)) (steps steps' : Nat) (style : Style) (depth : Nat)
    (rest : List Char) {front behind : List Char}
    (cut : following ']' (as.map write) style depth rest = front ++ behind) :
    Agrees behind
      (elements item steps false (following ']' (as.map write) style depth rest))
      (elements item steps' false front) := by
  induction as generalizing steps steps' front with
  | nil =>
      refine agrees_elements cut (fun u s more _ => ?_) steps steps'
      rw [List.map_nil, following_nil, hasElement_close false (blank_newline style depth)] at more
      exact nomatch more
  | cons a as ih =>
      obtain ⟨ha, has⟩ := List.forall_mem_cons.1 reads
      obtain ⟨ta, tas⟩ := List.forall_mem_cons.1 takes
      obtain ⟨c, w, hopens, hspace, hbracket⟩ := ha.opens style (depth + 1)
      refine agrees_elements cut (fun u s more hs steps steps' => ?_) steps steps'
      have hu : write a style (depth + 1) ++ following ']' (as.map write) style depth rest = u := by
        rw [List.map_cons, following_cons, hopens, List.cons_append,
          hasElement_comma (blank_newline style (depth + 1)) hspace hbracket] at more
        rw [hopens, List.cons_append]
        exact (Prod.mk.inj (Except.ok.inj more)).2
      subst hu
      exact agrees_element ha ta (ends_following (.inl rfl) _ style depth rest) hs
        fun s' hs' => ih has tas steps steps' hs'

/-- The elements of an array agree from behind its opening bracket. -/
theorem agrees_elements_array {as : List α} (reads : ∀ a ∈ as, Reads item (write a) (answer a))
    (takes : ∀ a ∈ as, Takes item (write a)) (style : Style) (depth : Nat) (rest : List Char) :
    ∃ s, array (as.map write) style depth ++ rest = '[' :: s ∧
      ∀ front behind, s = front ++ behind → ∀ steps steps',
        Agrees behind (elements item steps true s) (elements item steps' true front) := by
  cases as with
  | nil =>
      refine ⟨']' :: rest, rfl, fun front behind cut => agrees_elements cut fun u s more _ => ?_⟩
      have hclose : hasElement true (']' :: rest) = .ok (false, ']' :: rest) :=
        hasElement_close true blank_nil rest
      exact nomatch hclose.symm.trans more
  | cons a as =>
      obtain ⟨ha, has⟩ := List.forall_mem_cons.1 reads
      obtain ⟨ta, tas⟩ := List.forall_mem_cons.1 takes
      obtain ⟨c, w, hopens, hspace, hbracket⟩ := ha.opens style (depth + 1)
      refine ⟨_, bracketed_cons_append '[' ']' (write a) (as.map write) style depth rest, ?_⟩
      intro front behind cut
      refine agrees_elements cut fun u s more hs steps steps' => ?_
      have hu : write a style (depth + 1) ++ following ']' (as.map write) style depth rest = u := by
        rw [hopens, List.cons_append,
          hasElement_first (blank_newline style (depth + 1)) hspace hbracket] at more
        rw [hopens, List.cons_append]
        exact (Prod.mk.inj (Except.ok.inj more)).2
      subst hu
      exact agrees_element ha ta (ends_following (.inl rfl) _ style depth rest) hs
        fun s' hs' => agrees_elements_following has tas steps steps' style depth rest hs'

/-- **An array is taken as it comes** if its elements are. -/
theorem takes_array {as : List α} (reads : ∀ a ∈ as, Reads item (write a) (answer a))
    (takes : ∀ a ∈ as, Takes item (write a)) :
    Takes (Reader.array item) (.array (as.map write)) := by
  intro style depth gap rest blank _
  obtain ⟨s, htext, helements⟩ := agrees_elements_array reads takes style depth rest
  rw [htext]
  refine streams_start_gap blank rfl ?_
  rw [if_pos rfl]
  refine streamsFrom_advance fun front behind cut => ?_
  rw [bind_ok (x := get) (s := s) rfl, bind_ok (x := get) (s := front) rfl]
  refine (helements front behind cut _ _).bind fun bs v _ _ => ?_
  exact (streams_closeList _ v behind rfl).bind fun _ v' _ _ => streams_pure bs _ v' behind rfl

end Arrays

/-! ## Objects -/

section Objects

variable {σ : Type} {fields : List (Field σ)}

open Writer

namespace Record

/-- If another member follows, its opening quote is next, and otherwise the closing brace. -/
theorem hasMember_next {first more : Bool} {s u : List Char}
    (h : hasMember first s = .ok (more, u)) : ∃ v, u = (if more then '"' else '}') :: v := by
  obtain ⟨c, v, h⟩ := exists_of_peek_bind_eq_ok ⟨.object, rfl⟩ h
  dsimp only at h
  split at h
  · next hc =>
    obtain ⟨rfl, rfl⟩ := Prod.mk.inj (Except.ok.inj h)
    exact ⟨v, by rw [hc]; rfl⟩
  · split at h
    · split at h
      · next hc =>
        obtain ⟨rfl, rfl⟩ := Prod.mk.inj (Except.ok.inj h)
        exact ⟨v, by rw [hc]; rfl⟩
      · exact nomatch h
    · split at h
      · rw [bind_ok (advance_cons c v)] at h
        obtain ⟨d, v', h⟩ := exists_of_peek_bind_eq_ok ⟨.value, rfl⟩ h
        dsimp only at h
        split at h
        · next hd =>
          obtain ⟨rfl, rfl⟩ := Prod.mk.inj (Except.ok.inj h)
          exact ⟨v', by rw [hd]; rfl⟩
        · split at h
          · exact nomatch h
          · exact nomatch h
      · exact nomatch h

/-- Members are read up to the closing brace. -/
theorem members_brace {steps : Nat} {first : Bool} {draft last : σ} {s u : List Char}
    (h : members fields steps first draft s = .ok (last, u)) : ∃ v, u = '}' :: v := by
  induction steps generalizing first draft s with
  | zero => exact nomatch h
  | succ steps ih =>
      rw [members] at h
      obtain ⟨more, t, hmore, h⟩ := bind_eq_ok_iff.1 h
      cases more with
      | false =>
          obtain ⟨-, rfl⟩ := Prod.mk.inj (Except.ok.inj h)
          exact hasMember_next hmore
      | true =>
          obtain ⟨-, _, -, h⟩ := bind_eq_ok_iff.1 h
          obtain ⟨key, _, -, h⟩ := bind_eq_ok_iff.1 h
          obtain ⟨next, _, -, h⟩ := bind_eq_ok_iff.1 h
          exact ih h

/-- Read a member, whose opening quote has come, and those behind it. -/
def memberAndMore (fields : List (Field σ)) (steps : Nat) (draft : σ) : Reader σ := do
  let key ← lexeme stringRest
  members fields steps false (← member fields key draft)

end Record

/-- The members of an object agree if they do so once there is one, whatever bounds their number. -/
theorem agrees_members {first : Bool} {draft : σ} {t front behind : List Char}
    (cut : t = front ++ behind)
    (more : ∀ u s, Record.hasMember first t = .ok (true, '"' :: u) → u = s ++ behind →
      ∀ steps steps', Agrees behind (Record.memberAndMore fields steps draft u)
        (Record.memberAndMore fields steps' draft s))
    (steps steps' : Nat) :
    Agrees behind (Record.members fields steps first draft t)
      (Record.members fields steps' first draft front) := by
  cases steps with
  | zero => exact agrees_of_error rfl
  | succ steps =>
    cases steps' with
    | zero => exact agrees_of_runsOut ⟨.object, rfl⟩
    | succ steps' =>
      rw [Record.members, Record.members]
      refine (Record.streams_hasMember first t front behind cut).bind fun another s hwhole hfront => ?_
      cases another with
      | false => exact streams_pure draft _ s behind rfl
      | true =>
          -- the quote of the key has come in the front as well
          obtain ⟨v, rfl⟩ := Record.hasMember_next hfront
          rw [if_pos rfl, if_pos rfl, if_pos rfl, List.cons_append, bind_ok (advance_cons _ _),
            bind_ok (advance_cons _ _)]
          exact more (v ++ behind) v hwhole rfl steps steps'

/-- A member agrees with those behind it if these agree. -/
theorem agrees_member (style : Style) (depth : Nat) {draft next : σ} {key : String} {w : Writer}
    {field : Field σ} (named : fields.find? (fun f => f.name.toList = key.toList) = some field)
    (lacking : field.isSet draft = false) (reads : Reads (field.read draft) w (.ok next))
    (takes : Takes (field.read draft) w) {steps steps' : Nat} {t u s behind : List Char}
    (ends : Ends u) (text : member key w style depth ++ u = '"' :: t) (cut : t = s ++ behind)
    (later : ∀ s', u = s' ++ behind → Agrees behind (Record.members fields steps false next u)
      (Record.members fields steps' false next s')) :
    Agrees behind (Record.memberAndMore fields steps draft t)
      (Record.memberAndMore fields steps' draft s) := by
  obtain ⟨gap, blank, htext⟩ := member_append key w style depth
  obtain ⟨-, rfl⟩ := List.cons.inj ((htext u).symm.trans text)
  -- the key, the colon and the value come one after the other
  have hkey := streams_stringRest _ s behind cut
  refine hkey.bind_read (stringRest_string key.toList _) fun s' hs' _ => ?_
  rw [Record.member_named named lacking]
  have hread := reads.read style depth gap u blank ends
  refine Agrees.bind_read (a := next) (u := u) ?_ ?_ fun s'' hs'' _ => later s'' hs''
  · refine (Record.streams_colon _ s' behind hs').bind_read (Record.colon_cons _) fun v hv _ => ?_
    exact takes style depth gap u blank ends v behind hv
  · rw [bind_ok (Record.colon_cons _)]
    exact hread

/-- Whether a record takes the values of its fields as they come, whatever has been read before. -/
def TakesFields (fields : List (Field σ)) (ms : List (String × Writer)) : Prop :=
  ∀ m ∈ ms, ∀ field, fields.find? (fun f => f.name.toList = m.1.toList) = some field →
    ∀ draft, Takes (field.read draft) m.2

theorem takesFields_nil (fields : List (Field σ)) : TakesFields fields [] :=
  fun _ h => absurd h List.not_mem_nil

theorem TakesFields.cons {key : String} {w : Writer} {ms : List (String × Writer)} {field : Field σ}
    (named : fields.find? (fun f => f.name.toList = key.toList) = some field)
    (takes : ∀ draft, Takes (field.read draft) w) (later : TakesFields fields ms) :
    TakesFields fields ((key, w) :: ms) := by
  refine List.forall_mem_cons.2 ⟨fun field' named' => ?_, later⟩
  obtain rfl := Option.some.inj (named.symm.trans named')
  exact takes

/-- Members behind a comma agree. -/
theorem agrees_members_following {draft last : σ} {ms : List (String × Writer)}
    (fills : Fills fields draft ms last) (takes : TakesFields fields ms) (steps steps' : Nat)
    (style : Style) (depth : Nat) (rest : List Char) {front behind : List Char}
    (cut : following '}' (ms.map fun m => member m.1 m.2) style depth rest = front ++ behind) :
    Agrees behind
      (Record.members fields steps false draft
        (following '}' (ms.map fun m => member m.1 m.2) style depth rest))
      (Record.members fields steps' false draft front) := by
  induction fills generalizing steps steps' front with
  | nil draft =>
      refine agrees_members cut (fun u s more _ => ?_) steps steps'
      rw [List.map_nil, following_nil,
        Record.hasMember_close false (blank_newline style depth)] at more
      exact nomatch more
  | @cons draft next last key w ms field named lacking reads later ih =>
      obtain ⟨hmember, hmembers⟩ := List.forall_mem_cons.1 takes
      obtain ⟨gap, -, htext⟩ := member_append key w style (depth + 1)
      refine agrees_members cut (fun u s more hs steps steps' => ?_) steps steps'
      rw [List.map_cons, following_cons, htext,
        Record.hasMember_comma (blank_newline style (depth + 1)), ← htext] at more
      exact agrees_member style (depth + 1) named lacking reads (hmember field named draft)
        (ends_following (.inr rfl) _ style depth rest) (Prod.mk.inj (Except.ok.inj more)).2 hs
        fun s' hs' => ih hmembers steps steps' hs'

/-- The members of an object agree from behind its opening brace. -/
theorem agrees_members_object {draft last : σ} {ms : List (String × Writer)}
    (fills : Fills fields draft ms last) (takes : TakesFields fields ms) (style : Style)
    (depth : Nat) (rest : List Char) :
    ∃ s, object ms style depth ++ rest = '{' :: s ∧
      ∀ front behind, s = front ++ behind → ∀ steps steps',
        Agrees behind (Record.members fields steps true draft s)
          (Record.members fields steps' true draft front) := by
  cases fills with
  | nil =>
      refine ⟨'}' :: rest, rfl, fun front behind cut => agrees_members cut fun u s more _ => ?_⟩
      have hclose : Record.hasMember true ('}' :: rest) = .ok (false, '}' :: rest) :=
        Record.hasMember_close true blank_nil rest
      exact nomatch hclose.symm.trans more
  | @cons draft next last key w ms field named lacking reads later =>
      obtain ⟨hmember, hmembers⟩ := List.forall_mem_cons.1 takes
      obtain ⟨gap, -, htext⟩ := member_append key w style (depth + 1)
      refine ⟨_, by rw [object, List.map_cons, bracketed_cons_append], ?_⟩
      intro front behind cut
      refine agrees_members cut fun u s more hs steps steps' => ?_
      rw [htext, Record.hasMember_first (blank_newline style (depth + 1)), ← htext] at more
      exact agrees_member style (depth + 1) named lacking reads (hmember field named draft)
        (ends_following (.inr rfl) _ style depth rest) (Prod.mk.inj (Except.ok.inj more)).2 hs
        fun s' hs' => agrees_members_following later hmembers steps steps' style depth rest hs'

/-- **An object is taken as it comes** if the values of its members are. -/
theorem takes_object {r : Record σ α} {last : σ} {ms : List (String × Writer)}
    (fills : Fills r.fields r.blank ms last) (takes : TakesFields r.fields ms) :
    Takes r.read (.object ms) := by
  intro style depth gap rest blank _
  obtain ⟨s, htext, hmembers⟩ := agrees_members_object fills takes style depth rest
  rw [htext]
  refine streams_start_gap blank rfl ?_
  rw [if_neg (show '{' ≠ '[' by decide), if_pos rfl]
  refine streamsFrom_advance fun front behind cut => ?_
  rw [bind_ok (x := get) (s := s) rfl, bind_ok (x := get) (s := front) rfl]
  refine (hmembers front behind cut _ _).bind fun draft v _ hfront => ?_
  -- the closing brace has come in the front as well
  obtain ⟨v, rfl⟩ := Record.members_brace hfront
  rw [List.cons_append, Record.complete]
  cases r.finish draft with
  | error m => exact agrees_of_error rfl
  | ok a => exact streams_pure a _ v behind rfl

end Objects

end Json

end AccessWindows
