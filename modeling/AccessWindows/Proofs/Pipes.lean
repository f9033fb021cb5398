import AccessWindows.Console.Run
import AccessWindows.Proofs.Fusion
import AccessWindows.Proofs.RoundTrip

/-!
# Conversions one after another

The text that a conversion yields is a text for the next one. Splitting and merging its result gives
the normal form, and splitting refuses the same texts as normalizing, for the same reason. What
merging or normalizing yields is never refused, since only sound grants come out of either
(`Exchange.IsMerged.readGrants`).

A command that reads its standard input from what another one printed does the same
(`Surroundings.behind`): the printed text ends with a line break, which is no more than a blank behind
it. How the commands lay their texts out and what they log makes no difference
(`conversions_compose`).
-/

set_option autoImplicit false

namespace AccessWindows

open Json (Blank ReadError Style)
open Log (Traced)

/-! ## From text to text -/

namespace Exchange

variable (style : Style) (text : String)

theorem value_merge : (merge style text).map (·.value) =
    (readSelections text).map fun sels => writeGrants style (Grant.ofSelections sels) := by
  unfold merge
  cases readSelections text <;> rfl

theorem value_split : (split style text).map (·.value) =
    (readGrants text).map fun gs => writeSelections style (Selection.ofGrants gs) := by
  unfold split
  cases readGrants text <;> rfl

theorem value_normalize : (normalize style text).map (·.value) =
    (readGrants text).map fun gs => writeGrants style (Grant.normalize gs) := by
  unfold normalize
  cases readGrants text <;> rfl

variable {style text}

/-- Whether a text is what some selections are merged to. -/
def IsMerged (style : Style) (text : String) : Prop :=
  ∃ sels, text = writeGrants style (Grant.ofSelections sels)

theorem isMerged_of_merge {result : String} (h : (merge style text).map (·.value) = .ok result) :
    IsMerged style result := by
  rw [value_merge] at h
  cases hread : readSelections text with
  | error e => simp [hread, Except.map] at h
  | ok sels =>
      simp only [hread, Except.map, Except.ok.injEq] at h
      exact ⟨sels, h.symm⟩

theorem isMerged_of_normalize {result : String}
    (h : (normalize style text).map (·.value) = .ok result) : IsMerged style result := by
  rw [value_normalize] at h
  cases hread : readGrants text with
  | error e => simp [hread, Except.map] at h
  | ok gs =>
      simp only [hread, Except.map, Except.ok.injEq] at h
      exact ⟨Selection.ofGrants gs, h.symm⟩

/-- What selections are merged to is sound, so its text is read back, with blanks behind it or
without. -/
theorem IsMerged.readGrants {result gap : String} (merged : IsMerged style result)
    (blank : Blank gap.toList) : ∃ gs, readGrants (result ++ gap) = .ok gs := by
  obtain ⟨sels, rfl⟩ := merged
  refine ⟨Grant.ofSelections sels, ?_⟩
  rw [readGrants_write style _ blank, mapError_eq_ok_iff, mapM_eq_ok_iff, List.forall₂_same]
  intro g hg
  exact Grant.remake_eq_ok_self_iff.2 (Grant.sound_of_mem_ofSelections hg)

/-- Splitting and normalizing refuse the same texts, for the same reason. -/
theorem splitText_eq_error_iff {e : ReadError} :
    splitText text = .error e ↔ normalizeText text = .error e := by
  rw [splitText, normalizeText, value_split, value_normalize]
  cases readGrants text <;> simp [Except.map]

/-- Splitting and merging gives the normal form. -/
theorem mergeText_of_splitText {slots : String} (h : splitText text = .ok slots) :
    ∃ normal, mergeText slots = .ok normal ∧ normalizeText text = .ok normal := by
  rw [splitText, value_split] at h
  rw [mergeText, normalizeText, value_merge, value_normalize]
  cases hread : Exchange.readGrants text with
  | error e => simp [hread, Except.map] at h
  | ok gs =>
      simp only [hread, Except.map, Except.ok.injEq] at h
      have hslots := readSelections_write .compact (Selection.ofGrants gs) blank_empty
      rw [h, String.append_empty] at hslots
      rw [hslots]
      exact ⟨_, rfl, rfl⟩

/-- What merging or normalizing gives can be split and normalized. -/
theorem IsMerged.texts {result : String} (merged : IsMerged style result) :
    (∃ slots, splitText result = .ok slots) ∧ ∃ normal, normalizeText result = .ok normal := by
  obtain ⟨gs, hread⟩ := merged.readGrants blank_empty
  rw [String.append_empty] at hread
  rw [splitText, normalizeText, value_split, value_normalize, hread]
  exact ⟨⟨_, rfl⟩, _, rfl⟩

end Exchange

/-! ## Command lines -/

namespace Console

/-- What a run shows of a result: a text on the standard output, or the report of a failure on the
standard error, behind what was logged. -/
def Outcome.Shows (o : Outcome) : Except Failure String → Prop
  | .ok text => o.exit = 0 ∧ o.stdout = text ++ "\n"
  | .error f => o.exit = 1 ∧ o.stdout = "" ∧ ∃ log, o.stderr = log ++ f.report

/-- The same surroundings, with what a run printed on the standard input. -/
def Surroundings.behind (s : Surroundings) (o : Outcome) : Surroundings :=
  { s with stdin := o.stdout.toUTF8 }

/-- Whether a command line asks for a command, with pretty texts or without. -/
def Asks (arguments : List String) (pretty : Bool) (command : Command) : Prop :=
  ∃ verbose, Invocation.ofArguments arguments = .ok ⟨pretty, verbose, command⟩

/-- The style of the texts. -/
def styleOf (pretty : Bool) : Style := if pretty then .pretty else .compact

theorem fromUTF8?_toUTF8 (s : String) : String.fromUTF8? s.toUTF8 = some s := by
  have hvalid : s.toUTF8.IsValidUTF8 := s.isValidUTF8
  rw [String.fromUTF8?, dif_pos hvalid]
  rfl

theorem readSource_behind (s : Surroundings) (o : Outcome) :
    (readSource (s.behind o) .stdin).value = .ok o.stdout := by
  show readSource.orElse .stdinEncoding (String.fromUTF8? o.stdout.toUTF8) = _
  rw [fromUTF8?_toUTF8]
  rfl

/-- The result of a conversion is that of its text, if there is one. -/
theorem value_convert (s : Surroundings) (source : Source) (failure : ReadError → Failure)
    (work : String → Except ReadError (Traced String)) :
    (convert s source failure work).value = (readSource s source).value.bind fun text =>
      ((work text).map (·.value)).mapError failure := by
  rw [convert, Log.Traced.value_bind]
  cases (readSource s source).value with
  | error f => rfl
  | ok text =>
      cases hwork : work text with
      | error e => simp [hwork, Except.bind, Except.map, Except.mapError]
      | ok result => simp [hwork, Except.bind, Except.map, Except.mapError]

/-- A run shows the result of its command. -/
theorem run_shows {arguments : List String} {pretty : Bool} {command : Command}
    (asks : Asks arguments pretty command) (s : Surroundings) :
    (run s arguments).Shows (command.run s (styleOf pretty)).value := by
  obtain ⟨verbose, hread⟩ := asks
  rw [run, hread]
  show (Invocation.run s ⟨pretty, verbose, command⟩).Shows _
  unfold Invocation.run styleOf
  dsimp only
  cases (command.run s (if pretty then .pretty else .compact)).value with
  | ok text => exact ⟨rfl, rfl⟩
  | error f => exact ⟨rfl, rfl, _, rfl⟩

/-- The exit code tells whether there is a text. -/
theorem Outcome.Shows.exit_eq_zero_iff {o : Outcome} {result : Except Failure String}
    (h : o.Shows result) : o.exit = 0 ↔ ∃ text, result = .ok text := by
  cases result with
  | ok text => simp [h.1]
  | error f => simp [h.1]

section Conversions

variable {arguments : List String} {pretty : Bool} {command : Command} {s : Surroundings}
  {source : Source} {failure : ReadError → Failure} {work : String → Except ReadError (Traced String)}

/-- A conversion whose text cannot be had shows why. -/
theorem shows_unread (asks : Asks arguments pretty command)
    (converts : command.run s (styleOf pretty) = convert s source failure work) {f : Failure}
    (unread : (readSource s source).value = .error f) : (run s arguments).Shows (.error f) := by
  have hshows := run_shows asks s
  rwa [converts, value_convert, unread] at hshows

/-- A conversion shows what comes of its text. -/
theorem shows_converted (asks : Asks arguments pretty command)
    (converts : command.run s (styleOf pretty) = convert s source failure work) {text : String}
    (hread : (readSource s source).value = .ok text) {result : Except ReadError String}
    (hwork : (work text).map (·.value) = result) :
    (run s arguments).Shows (result.mapError failure) := by
  have hshows := run_shows asks s
  rw [converts, value_convert, hread] at hshows
  rwa [← hwork]

/-- A conversion that succeeds shows what came of its text. -/
theorem shows_of_exit (asks : Asks arguments pretty command)
    (converts : command.run s (styleOf pretty) = convert s source failure work)
    (success : (run s arguments).exit = 0) :
    ∃ text result, (work text).map (·.value) = .ok result ∧ (run s arguments).Shows (.ok result) := by
  cases hsource : (readSource s source).value with
  | error f =>
      obtain ⟨text, htext⟩ := (shows_unread asks converts hsource).exit_eq_zero_iff.1 success
      exact nomatch htext
  | ok text =>
      have hshows := shows_converted asks converts hsource rfl
      obtain ⟨result, hresult⟩ := hshows.exit_eq_zero_iff.1 success
      rw [hresult] at hshows
      exact ⟨text, result, mapError_eq_ok_iff.1 hresult, hshows⟩

end Conversions

/-- Splitting and normalizing the same source fail alike, or else what splitting printed can be merged,
to what normalizing printed if the texts are laid out alike. -/
theorem shows_split_and_normalize {s : Surroundings} {source : Source}
    {splitting normalizing : List String} {pretty pretty' : Bool} (asks : Asks splitting pretty (.split source))
    (asks' : Asks normalizing pretty' (.normalize source)) :
    (∃ f, (run s splitting).Shows (.error f) ∧ (run s normalizing).Shows (.error f)) ∨
      ∃ slots normal, (run s splitting).Shows (.ok slots) ∧ (run s normalizing).Shows (.ok normal) ∧
        ∀ (next : Surroundings) merging again, Asks merging again (.merge .stdin) →
          ∃ result, (run (next.behind (run s splitting)) merging).Shows (.ok result) ∧
            (again = pretty' → result = normal) := by
  cases hsource : (readSource s source).value with
  | error f => exact .inl ⟨f, shows_unread asks rfl hsource, shows_unread asks' rfl hsource⟩
  | ok text =>
      have hsplit := shows_converted asks rfl hsource (Exchange.value_split _ _)
      have hnormalize := shows_converted asks' rfl hsource (Exchange.value_normalize _ _)
      cases hread : Exchange.readGrants text with
      | error e =>
          rw [hread] at hsplit hnormalize
          exact .inl ⟨.grants e, hsplit, hnormalize⟩
      | ok gs =>
          rw [hread] at hsplit hnormalize
          refine .inr ⟨_, _, hsplit, hnormalize, ?_⟩
          intro next merging again asks''
          have hmerge := shows_converted asks'' rfl (readSource_behind next (run s splitting))
            (Exchange.value_merge _ _)
          rw [hsplit.2, Exchange.readSelections_write _ _ Exchange.blank_lineBreak] at hmerge
          refine ⟨_, hmerge, ?_⟩
          rintro rfl
          rfl

/-- What a merging or normalizing run prints, if it succeeds. -/
theorem exists_isMerged_of_exit {s : Surroundings} {source : Source} {arguments : List String}
    {pretty : Bool}
    (asks : Asks arguments pretty (.merge source) ∨ Asks arguments pretty (.normalize source))
    (success : (run s arguments).exit = 0) :
    ∃ text, (run s arguments).Shows (.ok text) ∧ Exchange.IsMerged (styleOf pretty) text := by
  rcases asks with asks | asks
  · obtain ⟨_, result, hresult, hshows⟩ := shows_of_exit asks rfl success
    exact ⟨result, hshows, Exchange.isMerged_of_merge hresult⟩
  · obtain ⟨_, result, hresult, hshows⟩ := shows_of_exit asks rfl success
    exact ⟨result, hshows, Exchange.isMerged_of_normalize hresult⟩

/-- What merging or normalizing prints is accepted by splitting and by normalizing. -/
theorem shows_behind_isMerged {o : Outcome} {style : Style} {text : String}
    (printed : o.Shows (.ok text)) (merged : Exchange.IsMerged style text) {next : Surroundings}
    {arguments : List String} {pretty : Bool}
    (asks : Asks arguments pretty (.split .stdin) ∨ Asks arguments pretty (.normalize .stdin)) :
    ∃ result, (run (next.behind o) arguments).Shows (.ok result) := by
  obtain ⟨gs, hread⟩ := merged.readGrants Exchange.blank_lineBreak
  rw [← printed.2] at hread
  rcases asks with asks | asks
  · have hshows := shows_converted asks rfl (readSource_behind next o) (Exchange.value_split _ _)
    rw [hread] at hshows
    exact ⟨_, hshows⟩
  · have hshows := shows_converted asks rfl (readSource_behind next o) (Exchange.value_normalize _ _)
    rw [hread] at hshows
    exact ⟨_, hshows⟩

/-- **The conversions compose**, from text to text and from one run to the next. Splitting and
normalizing refuse the same texts for the same reason, splitting and then merging gives what
normalizing gives, and what merging or normalizing gives is never refused. -/
theorem conversions_compose :
    (∀ text e, Exchange.splitText text = .error e ↔ Exchange.normalizeText text = .error e) ∧
    (∀ text slots, Exchange.splitText text = .ok slots →
      ∃ normal, Exchange.mergeText slots = .ok normal ∧ Exchange.normalizeText text = .ok normal) ∧
    (∀ text result, Exchange.mergeText text = .ok result ∨ Exchange.normalizeText text = .ok result →
      (∃ slots, Exchange.splitText result = .ok slots) ∧
        ∃ normal, Exchange.normalizeText result = .ok normal) ∧
    (∀ s source splitting normalizing pretty pretty', Asks splitting pretty (.split source) →
      Asks normalizing pretty' (.normalize source) →
      (∃ f, (run s splitting).Shows (.error f) ∧ (run s normalizing).Shows (.error f)) ∨
        ∃ slots normal, (run s splitting).Shows (.ok slots) ∧ (run s normalizing).Shows (.ok normal) ∧
          ∀ (next : Surroundings) merging again, Asks merging again (.merge .stdin) →
            ∃ result, (run (next.behind (run s splitting)) merging).Shows (.ok result) ∧
              (again = pretty' → result = normal)) ∧
    (∀ s source arguments pretty,
      Asks arguments pretty (.merge source) ∨ Asks arguments pretty (.normalize source) →
      (run s arguments).exit = 0 →
      ∀ (next : Surroundings) arguments' pretty',
        Asks arguments' pretty' (.split .stdin) ∨ Asks arguments' pretty' (.normalize .stdin) →
        ∃ result, (run (next.behind (run s arguments)) arguments').Shows (.ok result)) := by
  refine ⟨fun _ _ => Exchange.splitText_eq_error_iff, fun _ _ => Exchange.mergeText_of_splitText,
    ?_, ?_, ?_⟩
  · rintro text result (hmerge | hnormalize)
    · exact (Exchange.isMerged_of_merge hmerge).texts
    · exact (Exchange.isMerged_of_normalize hnormalize).texts
  · intro s source splitting normalizing pretty pretty' asks asks'
    exact shows_split_and_normalize asks asks'
  · intro s source arguments pretty asks success next arguments' pretty' asks'
    obtain ⟨text, printed, merged⟩ := exists_isMerged_of_exit asks success
    exact shows_behind_isMerged printed merged asks'

/-- Three quarters of an hour on Monday morning. -/
def quarters : String := "[\x7b\"weekdays\":[1],\"start_time\":\"09:00\",\"end_time\":\"09:45\"\x7d]"

/-- Surroundings with a text on the standard input and no files. -/
def typing (text : String) : Surroundings := ⟨fun _ => .error .missing, text.toUTF8, none⟩

/-- The quarters are split to a full and a clipped half hour, and what normalizing prints of them on
several lines can be split. -/
theorem conversions_compose_quarters :
    Exchange.splitText quarters =
      .ok "[\x7b\"day\":1,\"value\":[\"09:00~09:30\",\"09:30~09:45\"]\x7d]" ∧
    (∃ normal, Exchange.mergeText "[\x7b\"day\":1,\"value\":[\"09:00~09:30\",\"09:30~09:45\"]\x7d]" =
      .ok normal ∧ Exchange.normalizeText quarters = .ok normal) ∧
    (run (typing quarters) ["--pretty", "normalize"]).exit = 0 ∧
    ∃ result, (run ((typing quarters).behind (run (typing quarters) ["--pretty", "normalize"]))
      ["split", "-"]).Shows (.ok result) :=
  ⟨by decide +kernel, conversions_compose.2.1 _ _ (by decide +kernel), by decide +kernel,
    conversions_compose.2.2.2.2 _ .stdin _ true (.inr ⟨false, rfl⟩) (by decide +kernel) _ _ false
      (.inl ⟨false, rfl⟩)⟩

end Console

end AccessWindows
