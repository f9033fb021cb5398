import AccessWindows.Proofs.RoundTrip
import Mathlib.Data.List.Destutter

/-!
# Only sound grants are built

A grant is built from any list of weekdays and two times, if there is a weekday and the first time is
before the second (`Grant.make_eq_ok_iff`); a missing weekday is reported before the times
(`Grant.make_eq_error_iff`). Its weekdays are those of the list in order and each once, as sorting and
leaving out repeated neighbours gives them (`Weekday.ofList_eq_destutter`). So what is built is sound.

Reading adds no other way to a grant. A property of all that a reader takes from texts
(`Json.Reader.Yields`) goes from the elements of an array to the array (`Json.Reader.Yields.array`), and
whatever form a grant has in the text, it is built from its parts (`yields_grant`). So every grant of
every text that is read is sound (`Exchange.built_and_read_sound`).
-/

set_option autoImplicit false

namespace AccessWindows

open Json (ReadError Reader)

/-! ## Building a grant -/

/-- Weekdays in order and each once are what is left of the sorted list without repeated neighbours. -/
theorem Weekday.ofList_eq_destutter (days : List Weekday) :
    Ascending.ofList days = (days.mergeSort fun a b => decide (a ≤ b)).destutter (· ≠ ·) := by
  have trans : ∀ a b c : Weekday, decide (a ≤ b) = true → decide (b ≤ c) = true →
      decide (a ≤ c) = true := by
    intro a b c hab hbc
    rw [decide_eq_true_eq] at *
    exact Nat.le_trans hab hbc
  have total : ∀ a b : Weekday, (decide (a ≤ b) || decide (b ≤ a)) = true := by
    intro a b
    rw [Bool.or_eq_true, decide_eq_true_eq, decide_eq_true_eq]
    exact Nat.le_total a.number b.number
  have sorted : (days.mergeSort fun a b => decide (a ≤ b)).Pairwise (· ≤ ·) :=
    (List.pairwise_mergeSort trans total days).imp of_decide_eq_true
  have antisymm : Std.Antisymm (α := Weekday) (· ≤ ·) :=
    ⟨fun a b hab hba => number_injective (Nat.le_antisymm hab hba)⟩
  rw [sorted.destutter_eq_dedup]
  -- in a sorted list without repetitions, the members ascend strictly
  have ascend : (days.mergeSort fun a b => decide (a ≤ b)).dedup.Pairwise (· < ·) := by
    refine ((sorted.sublist (List.dedup_sublist _)).and (List.nodup_dedup _)).imp ?_
    rintro a b ⟨hle, hne⟩
    exact Nat.lt_of_le_of_ne hle fun h => hne (number_injective h)
  refine Ascending.eq_of_mem_iff (fun _ _ => lt_asymm) (pairwise_ofList days) ascend fun d => ?_
  rw [Ascending.mem_ofList, List.mem_dedup, List.mem_mergeSort]

namespace Grant

/-- A valid grant holds on some weekday and starts before it stops. Unlike a sound one it may repeat
weekdays, in any order. -/
def Valid (g : Grant) : Prop := g.weekdays ≠ [] ∧ g.start < g.stop

instance : DecidablePred Valid := fun g =>
  inferInstanceAs (Decidable (g.weekdays ≠ [] ∧ g.start < g.stop))

theorem Sound.valid {g : Grant} (sound : g.Sound) : g.Valid :=
  ⟨sound.weekdays_ne_nil, sound.start_lt_stop⟩

variable {days : List Weekday} {start stop : ClockTime}

/-- What is built of which parts. -/
theorem make_eq_ok_iff {g : Grant} : make days start stop = .ok g ↔
    days ≠ [] ∧ start < stop ∧ g = ⟨Ascending.ofList days, start, stop⟩ := by
  unfold make
  split
  · next hnil => simp [hnil]
  · next hdays =>
    split
    · next hlt => simp [hdays, hlt, eq_comm]
    · next hlt => simp [hlt]

/-- Why nothing is built. -/
theorem make_eq_error_iff {f : Fault} : make days start stop = .error f ↔
    days = [] ∧ f = .noWeekday start stop ∨
      days ≠ [] ∧ ¬ start < stop ∧ f = .rangeOrder start stop := by
  unfold make
  split
  · next hnil => simp [hnil, eq_comm]
  · next hdays =>
    split
    · next hlt => simp [hdays, hlt]
    · next hlt => simp [hdays, hlt, eq_comm]

/-- What is built depends on which weekdays there are, not on their order or number. -/
theorem make_eq_of_mem_iff {days' : List Weekday} (same : ∀ d, d ∈ days' ↔ d ∈ days)
    (start stop : ClockTime) : make days' start stop = make days start stop := by
  have hnil : days' = [] ↔ days = [] := by
    simp only [List.eq_nil_iff_forall_not_mem, same]
  have hdays : Ascending.ofList days' = Ascending.ofList days := by
    refine Ascending.eq_of_mem_iff (fun _ _ => Weekday.lt_asymm) (Weekday.pairwise_ofList _)
      (Weekday.pairwise_ofList _) fun d => ?_
    rw [Ascending.mem_ofList, Ascending.mem_ofList, same]
  simp only [make, hnil, hdays]

/-- A grant can be built anew if and only if it is valid. -/
theorem exists_remake_iff {g : Grant} : (∃ h, g.remake = .ok h) ↔ g.Valid := by
  constructor
  · rintro ⟨h, hmake⟩
    obtain ⟨hdays, hlt, -⟩ := make_eq_ok_iff.1 hmake
    exact ⟨hdays, hlt⟩
  · rintro ⟨hdays, hlt⟩
    exact ⟨_, make_eq_ok_iff.2 ⟨hdays, hlt, rfl⟩⟩

end Grant

/-! ## What readers yield -/

namespace Json.Reader

variable {α β : Type}

/-- Whether all that a reader takes from any text has a property. -/
def Yields (r : Reader α) (P : α → Prop) : Prop :=
  ∀ s a rest, r s = .ok (a, rest) → P a

theorem bind_eq_ok_iff {x : Reader α} {f : α → Reader β} {s rest : List Char} {b : β} :
    (x >>= f) s = .ok (b, rest) ↔ ∃ a s', x s = .ok (a, s') ∧ f a s' = .ok (b, rest) := by
  cases h : x s with
  | error e =>
      rw [bind_error h]
      simp
  | ok p =>
      obtain ⟨a, s'⟩ := p
      rw [bind_ok h]
      simp only [Except.ok.injEq, Prod.mk.injEq]
      constructor
      · exact fun hf => ⟨a, s', ⟨rfl, rfl⟩, hf⟩
      · rintro ⟨_, _, ⟨rfl, rfl⟩, hf⟩
        exact hf

theorem yields_any (r : Reader α) : r.Yields fun _ => True := fun _ _ _ _ => trivial

theorem yields_pure {P : α → Prop} {a : α} (ha : P a) : Yields (pure a) P := by
  intro s b rest h
  obtain ⟨rfl, -⟩ := Prod.mk.inj (Except.ok.inj h)
  exact ha

/-- A failing reader yields nothing. -/
theorem yields_throw (e : ReadError) (P : α → Prop) : Yields (throw e) P :=
  fun _ _ _ h => nomatch h

/-- One reader after another: what the first yields is known when the second is run. -/
theorem Yields.bind {x : Reader α} {f : α → Reader β} {P : α → Prop} {Q : β → Prop}
    (hx : x.Yields P) (hf : ∀ a, P a → (f a).Yields Q) : (x >>= f).Yields Q := by
  intro s b rest h
  obtain ⟨a, s', hfirst, hsecond⟩ := bind_eq_ok_iff.1 h
  exact hf a (hx s a s' hfirst) s' b rest hsecond

theorem Yields.ite {c : Prop} [Decidable c] {x y : Reader α} {P : α → Prop} (hx : x.Yields P)
    (hy : y.Yields P) : Yields (if c then x else y) P := by
  split
  · exact hx
  · exact hy

theorem yields_accept {x : Except Fault α} {P : α → Prop} (h : ∀ a, x = .ok a → P a) :
    Yields (accept x) P := by
  cases x with
  | ok a => exact yields_pure (h a rfl)
  | error f => exact yields_throw _ P

/-- A value of another kind than wanted is never yielded. -/
theorem yields_unexpected (wanted : Expected) (P : α → Prop) : Yields (unexpected wanted) P := by
  refine (yields_any start).bind fun c _ => ?_
  have fails : ∀ {γ : Type} (x : Reader γ) (e : γ → ReadError),
      Yields (x >>= fun b => throw (e b)) P :=
    fun x e => (yields_any x).bind fun b _ => yields_throw (e b) P
  have skips : ∀ {γ : Type} (x : Reader γ) (e : γ → ReadError),
      Yields (advance >>= fun _ => x >>= fun b => throw (e b)) P :=
    fun x e => (yields_any advance).bind fun _ _ => fails x e
  -- the value is read for the message, or not at all
  refine .ite (skips _ fun _ => _) (.ite (skips _ fun _ => _) (.ite (skips _ fun _ => _) ?_))
  refine .ite (fails (lexeme Number.read) fun n => .mismatch (.kind n.found wanted)) ?_
  refine .ite (skips (lexeme stringRest) fun s => .mismatch (.kind (.string s) wanted)) ?_
  exact .ite (yields_throw _ P) (.ite (yields_throw _ P) (yields_throw _ P))

/-- What holds of all elements a reader yields holds of all elements of the lists they make up. -/
theorem Yields.elements {item : Reader α} {P : α → Prop} (h : item.Yields P) (steps : Nat)
    (first : Bool) : (elements item steps first).Yields fun as => ∀ a ∈ as, P a := by
  induction steps generalizing first with
  | zero => exact yields_throw _ _
  | succ steps ih =>
      refine (yields_any (hasElement first)).bind fun more _ => ?_
      cases more with
      | false => exact yields_pure (by simp)
      | true =>
          refine h.bind fun a ha => ?_
          refine (ih false).bind fun as has => ?_
          exact yields_pure (List.forall_mem_cons.2 ⟨ha, has⟩)

/-- What holds of all elements a reader yields holds of the elements of the arrays. -/
theorem Yields.array {item : Reader α} {P : α → Prop} (h : item.Yields P) :
    (array item).Yields fun as => ∀ a ∈ as, P a := by
  refine (yields_any start).bind fun c _ => ?_
  refine .ite ?_ (yields_unexpected _ _)
  refine (yields_any advance).bind fun _ _ => ?_
  refine (yields_any get).bind fun s _ => ?_
  refine (h.elements _ true).bind fun as has => ?_
  exact (yields_any closeList).bind fun _ _ => yields_pure has

/-- What holds of all that a reader yields holds of what it makes of a whole text. -/
theorem Yields.readAll {r : Reader α} {P : α → Prop} (h : r.Yields P) {s : List Char} {a : α}
    (hread : r.readAll s = .ok a) : P a := by
  unfold Reader.readAll at hread
  split at hread
  · exact nomatch hread
  · next b rest hrun =>
    split at hread
    · obtain rfl := Except.ok.inj hread
      exact h s b rest hrun
    · exact nomatch hread

end Json.Reader

/-- In whatever form a grant stands in a text, what is read is built from its parts. -/
theorem yields_grant : Grant.reader.Yields Grant.Sound := by
  refine (Reader.yields_any _).bind fun g _ => ?_
  exact Reader.yields_accept fun _ hmake => Grant.sound_of_make hmake

namespace Exchange

/-- **Only sound grants are built, and only sound grants are read.** A grant is built exactly if there
is a weekday and the start is before the stop, and a missing weekday is reported first. It has the given
times and the given weekdays, in order and each once, as if they were sorted and repeated neighbours left
out; so lists of the same weekdays build the same. And whatever text is read as grants, all of them are
sound. -/
theorem built_and_read_sound :
    (∀ days start stop,
      ((∃ g, Grant.make days start stop = .ok g) ↔ days ≠ [] ∧ start < stop) ∧
      (∀ f, Grant.make days start stop = .error f ↔
        days = [] ∧ f = .noWeekday start stop ∨
          days ≠ [] ∧ ¬ start < stop ∧ f = .rangeOrder start stop) ∧
      (∀ g, Grant.make days start stop = .ok g →
        g.start = start ∧ g.stop = stop ∧
          g.weekdays = (days.mergeSort fun a b => decide (a ≤ b)).destutter (· ≠ ·) ∧
          g.weekdays.Pairwise (· < ·) ∧ ∀ d, d ∈ g.weekdays ↔ d ∈ days) ∧
      ∀ days', (∀ d, d ∈ days' ↔ d ∈ days) →
        Grant.make days' start stop = Grant.make days start stop) ∧
    ∀ text gs, readGrants text = .ok gs → ∀ g ∈ gs, g.Sound := by
  refine ⟨fun days start stop => ⟨?_, fun f => Grant.make_eq_error_iff, ?_, ?_⟩, ?_⟩
  · exact Grant.exists_remake_iff (g := ⟨days, start, stop⟩)
  · intro g hmake
    obtain ⟨-, -, rfl⟩ := Grant.make_eq_ok_iff.1 hmake
    exact ⟨rfl, rfl, Weekday.ofList_eq_destutter days, Weekday.pairwise_ofList days,
      fun _ => Ascending.mem_ofList⟩
  · intro days' same
    exact Grant.make_eq_of_mem_iff same start stop
  · intro text gs hread
    exact yields_grant.array.readAll hread

/-- Two grants in a text, one as an array and one as an object with its members out of order; both
repeat weekdays. -/
def mixedForms : String :=
  "[[[3,1,3],\"07:50\",\"08:20\"],\x7b\"end_time\":\"23:59\",\"weekdays\":[7,7],\"start_time\":\"00:00\"\x7d]"

/-- The grants that are meant. -/
def mixedGrants : List Grant :=
  [⟨[.monday, .wednesday], ⟨470, by decide⟩, ⟨500, by decide⟩⟩, ⟨[.sunday], .midnight, .dayEnd⟩]

theorem built_and_read_sound_mixedForms :
    (readGrants mixedForms = .ok mixedGrants ∧ ∀ g ∈ mixedGrants, g.Sound) ∧
    (Grant.make [.sunday, .monday, .sunday] .midnight .dayEnd =
        .ok ⟨[.monday, .sunday], .midnight, .dayEnd⟩ ∧
      [Weekday.monday, .sunday].Pairwise (· < ·)) ∧
    (∀ d, d ∈ [Weekday.monday, .sunday] ↔ d ∈ [Weekday.sunday, .monday, .sunday]) ∧
      Grant.make [.monday, .sunday] .midnight .dayEnd =
        Grant.make [.sunday, .monday, .sunday] .midnight .dayEnd := by
  have read : readGrants mixedForms = .ok mixedGrants := by decide +kernel
  have make : Grant.make [.sunday, .monday, .sunday] .midnight .dayEnd =
      .ok ⟨[.monday, .sunday], .midnight, .dayEnd⟩ := by decide
  have same : ∀ d, d ∈ [Weekday.monday, .sunday] ↔ d ∈ [Weekday.sunday, .monday, .sunday] := by
    intro d
    cases d <;> decide
  obtain ⟨built, sound⟩ := built_and_read_sound
  obtain ⟨-, -, parts, regrouped⟩ := built [.sunday, .monday, .sunday] .midnight .dayEnd
  exact ⟨⟨read, sound _ _ read⟩, ⟨make, (parts _ make).2.2.2.1⟩, same, regrouped _ same⟩

end Exchange

end AccessWindows
