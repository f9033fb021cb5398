import AccessWindows.Proofs.CommandLine
import AccessWindows.Proofs.Pipes

/-!
# Command lines print what the library yields

Other programs ask the library for a conversion from text to text (`Conversion.exported`); a person
asks for it on the command line. Both read the same text by the same reader, so both give the same
result or refuse it for the same reason, and neither the way in which the text comes
(`Surroundings.Gives`) nor the flags nor the log setting make a difference to what is printed
(`run_words`).

A text is converted to one schedule with one series of events, or refused for one reason
(`Conversion.traced`). The style of the result decides only how this schedule is laid out
(`Conversion.work_eq`), and the log setting decides which of the events are shown on the standard
error (`logged`).
-/

set_option autoImplicit false

namespace AccessWindows

open Json (ReadError Style)
open Log (Event Filter Traced)

/-- Write a schedule in its form. -/
def Schedule.write (style : Style) : Schedule → String
  | .selections sels => Exchange.writeSelections style sels
  | .grants gs => Exchange.writeGrants style gs

namespace Console

/-! ## Where the text comes from -/

/-- A name that leads to the standard input begins with a dash. -/
theorem head?_of_isDash {path : String} (dash : isDash path = true) :
    path.toList.head? = some '-' := by
  obtain ⟨rest, hparts⟩ : ∃ rest, Folder.parts path = "-" :: rest := by
    unfold isDash at dash
    split at dash
    · next hparts => exact ⟨_, hparts⟩
    · contradiction
  obtain ⟨first, others, hsplit, hfirst, -⟩ := List.map_eq_cons_iff.1 hparts
  have hdash : first = ['-'] := by
    have htext := congrArg String.toList hfirst
    rwa [String.toList_ofList] at htext
  rw [List.splitOn] at hsplit
  cases hpath : path.toList with
  | nil =>
      rw [hpath] at hsplit
      simp_all
  | cons c cs =>
      rw [hpath, List.splitOnP_cons_eq_if_modifyHead] at hsplit
      split at hsplit
      · -- a name that begins with a slash has an empty first part
        simp_all
      · cases hrest : List.splitOnP (fun x => x == '/') cs with
        | nil => simp_all
        | cons part parts =>
            rw [hrest, List.modifyHead_cons, hdash] at hsplit
            simp_all

/-- A text is given to a command line: on the standard input, which is read without a name or by the
name of a dash, or in a file whose name begins with no dash. -/
inductive Surroundings.Gives (s : Surroundings) (text : String) : Option String → Prop
  | unnamed : s.stdin = text.toUTF8 → Gives s text none
  | dash : s.stdin = text.toUTF8 → Gives s text (some "-")
  | file {path : String} : path ≠ "" → path.toList.head? ≠ some '-' →
      s.files path = .ok text.toUTF8 → Gives s text (some path)

/-- What is said before the text is read. -/
def announcement (input : Option String) : List Event :=
  match Source.ofInput input with
  | .stdin => []
  | .file path => [.readingFile path]

theorem readSource_stdin {s : Surroundings} {text : String} (input : s.stdin = text.toUTF8) :
    readSource s .stdin = ⟨.ok text, []⟩ := by
  rw [readSource, input, fromUTF8?_toUTF8]
  rfl

section Gives

variable {s : Surroundings} {text : String} {input : Option String} (gives : s.Gives text input)

include gives

theorem Surroundings.Gives.nameable : ∀ path ∈ input, Nameable path := by
  intro path hpath
  cases gives with
  | unnamed => exact nomatch hpath
  | dash =>
      obtain rfl := Option.some.inj hpath
      exact .inl rfl
  | file hname hfirst =>
      obtain rfl := Option.some.inj hpath
      exact .inr ⟨hname, hfirst⟩

/-- The text is read, wherever it is given. -/
theorem Surroundings.Gives.readSource_ofInput :
    readSource s (.ofInput input) = ⟨.ok text, announcement input⟩ := by
  cases gives with
  | unnamed hinput => exact readSource_stdin hinput
  | dash hinput => exact readSource_stdin hinput
  | @file path _ hfirst hfile =>
      have hsource : Source.ofInput (some path) = .file path :=
        if_neg fun hdash => hfirst (head?_of_isDash hdash)
      rw [announcement, hsource, readSource, hfile]
      dsimp only
      rw [fromUTF8?_toUTF8]
      rfl

end Gives

/-! ## What a conversion yields -/

namespace Conversion

/-- The conversion of a text, with its events. -/
def work (style : Style) : Conversion → String → Except ReadError (Traced String)
  | merge => Exchange.merge style
  | split => Exchange.split style
  | normalize => Exchange.normalize style

/-- What other programs get of the library. -/
def exported : Conversion → String → Except ReadError String
  | merge => Exchange.mergeText
  | split => Exchange.splitText
  | normalize => Exchange.normalizeText

/-- What a command says of a text that is refused. -/
def refusal : Conversion → ReadError → Failure
  | merge => .selections
  | split => .grants
  | normalize => .grants

/-- The schedule that a text is converted to, with the events of it, or why the text is refused. -/
def traced : Conversion → String → Except ReadError (Traced Schedule)
  | merge, text => do return Schedule.grants <$> Log.merge (← Exchange.readSelections text)
  | split, text => do return Schedule.selections <$> Log.split (← Exchange.readGrants text)
  | normalize, text => do return Schedule.grants <$> Log.normalize (← Exchange.readGrants text)

/-- What is written of a value that is read and converted is the text of the schedule that it is
converted to. -/
theorem written_eq {α β : Type} (style : Style) (read : Except ReadError α) (convert : α → Traced β)
    (form : β → Schedule) : (do return (fun b => (form b).write style) <$> convert (← read)) =
      (do return form <$> convert (← read) : Except ReadError (Traced Schedule)).map fun t =>
        (⟨t.value.write style, t.events⟩ : Traced String) := by
  cases read with
  | error e => rfl
  | ok a => rfl

/-- The style of a text decides nothing but how the schedule is written. -/
theorem work_eq (c : Conversion) (style : Style) (text : String) :
    c.work style text = (c.traced text).map fun t => ⟨t.value.write style, t.events⟩ := by
  cases c with
  | merge => exact written_eq style (Exchange.readSelections text) Log.merge .grants
  | split => exact written_eq style (Exchange.readGrants text) Log.split .selections
  | normalize => exact written_eq style (Exchange.readGrants text) Log.normalize .grants

theorem exported_eq (c : Conversion) (text : String) :
    c.exported text = (c.work .compact text).map (·.value) := by
  cases c <;> rfl

theorem run_command (c : Conversion) (s : Surroundings) (style : Style) (source : Source) :
    (c.command source).run s style = convert s source c.refusal (c.work style) := by
  cases c <;> rfl

section Traced

variable {c : Conversion} {text : String}

theorem work_of_traced {t : Traced Schedule} (traced : c.traced text = .ok t) (style : Style) :
    c.work style text = .ok ⟨t.value.write style, t.events⟩ := by
  rw [work_eq, traced]
  rfl

theorem work_of_refused {e : ReadError} (refused : c.traced text = .error e) (style : Style) :
    c.work style text = .error e := by
  rw [work_eq, refused]
  rfl

theorem exported_of_traced {t : Traced Schedule} (traced : c.traced text = .ok t) :
    c.exported text = .ok (t.value.write .compact) := by
  rw [exported_eq, work_of_traced traced]
  rfl

theorem exported_of_refused {e : ReadError} (refused : c.traced text = .error e) :
    c.exported text = .error e := by
  rw [exported_eq, work_of_refused refused]
  rfl

end Traced

end Conversion

/-! ## What a run shows -/

/-- The log lines on the standard error: those of the events that the log setting shows. -/
def logged (verbose : Bool) (setting : Option String) (events : List Event) : String :=
  String.join (((Filter.ofSetting verbose setting).lines events).map fun line => line ++ "\n")

/-- The report of a refused text names the error of the library, and then its own cause. -/
theorem report_refusal (c : Conversion) (e : ReadError) : (c.refusal e).report =
    "Error: " ++ (c.refusal e).headline ++ "\n\nCaused by:\n" ++ Failure.indented "    0: " e.report ++
      "\n" ++ Failure.indented "    1: " e.message ++ "\n" := by
  have hcauses : (c.refusal e).causes = [e.report, e.message] := by cases c <;> rfl
  have hlines : Failure.causeLines [e.report, e.message] =
      [Failure.indented "    0: " e.report, Failure.indented "    1: " e.message] := by
    have hzero : "    " ++ toString 0 ++ ": " = "    0: " := by decide
    have hone : "    " ++ toString 1 ++ ": " = "    1: " := by decide
    rw [← hzero, ← hone]
    rfl
  rw [Failure.report, hcauses, hlines]
  simp [String.append_assoc]

section Runs

variable {s : Surroundings} {i : Invocation} {events : List Event}

theorem Invocation.run_of_ok {text : String}
    (result : i.command.run s (styleOf i.pretty) = ⟨.ok text, events⟩) :
    i.run s = ⟨0, text ++ "\n", logged i.verbose s.logSetting events⟩ := by
  unfold Invocation.run
  rw [styleOf] at result
  rw [result]
  rfl

theorem Invocation.run_of_error {f : Failure}
    (result : i.command.run s (styleOf i.pretty) = ⟨.error f, events⟩) :
    i.run s = ⟨1, "", logged i.verbose s.logSetting events ++ f.report⟩ := by
  unfold Invocation.run
  rw [styleOf] at result
  rw [result]
  rfl

/-- A conversion that reads its text goes on with what comes of it. -/
theorem convert_of_read {source : Source} {text : String} {announced : List Event}
    (hread : readSource s source = ⟨.ok text, announced⟩) (failure : ReadError → Failure)
    (work : String → Except ReadError (Traced String)) :
    convert s source failure work =
      match work text with
      | .error e => ⟨.error (failure e), announced⟩
      | .ok result => ⟨.ok result.value, announced ++ result.events⟩ := by
  rw [convert, hread]
  show (⟨_, _⟩ : Traced _) = _
  cases hwork : work text with
  | error e => simp [hwork]
  | ok result => simp [hwork]

end Runs

/-- **A command line prints what the library yields.** Take any text. If it can be converted, there is
one schedule: the library yields its compact text, and every command line for the conversion prints its
text and a line break, in the layout that is asked for, and ends well. If it is refused, the library
gives the reason, and every such command line prints nothing, fails, and reports the same error. Of the
flags and the log setting only the log lines on the standard error depend otherwise: which ones of the
same events are shown. -/
theorem run_words (c : Conversion) (text : String) :
    (∃ schedule events, c.traced text = .ok ⟨schedule, events⟩ ∧
      c.exported text = .ok (schedule.write .compact) ∧
      ∀ (s : Surroundings) (l : Line), s.Gives text l.input → run s (l.words c.name) =
        ⟨0, schedule.write (styleOf (l.raises .pretty)) ++ "\n",
          logged (l.raises .verbose) s.logSetting (announcement l.input ++ events)⟩) ∨
    (∃ e, c.traced text = .error e ∧ c.exported text = .error e ∧
      ∀ (s : Surroundings) (l : Line), s.Gives text l.input → run s (l.words c.name) =
        ⟨1, "", logged (l.raises .verbose) s.logSetting (announcement l.input) ++ ("Error: " ++
          (c.refusal e).headline ++ "\n\nCaused by:\n" ++ Failure.indented "    0: " e.report ++ "\n" ++
            Failure.indented "    1: " e.message ++ "\n")⟩) := by
  cases htraced : c.traced text with
  | ok t =>
      refine .inl ⟨t.value, t.events, rfl, Conversion.exported_of_traced htraced, ?_⟩
      intro s l gives
      rw [run, l.ofArguments_words c gives.nameable]
      apply Invocation.run_of_ok
      rw [c.run_command, convert_of_read gives.readSource_ofInput, Conversion.work_of_traced htraced]
  | error e =>
      refine .inr ⟨e, rfl, Conversion.exported_of_refused htraced, ?_⟩
      intro s l gives
      rw [run, l.ofArguments_words c gives.nameable, ← report_refusal]
      apply Invocation.run_of_error
      rw [c.run_command, convert_of_read gives.readSource_ofInput, Conversion.work_of_refused htraced]

/-- Surroundings with one file, nothing on the standard input and a log setting. -/
def filed (name contents setting : String) : Surroundings :=
  ⟨fun path => if path = name then .ok contents.toUTF8 else .error .missing, .empty, some setting⟩

theorem files_filed (name contents setting : String) :
    (filed name contents setting).files name = .ok contents.toUTF8 := if_pos rfl

/-- The quarters in a file are split as the library splits them, whatever is logged besides, and laid out
over several lines if that is asked for; and a text that breaks off is refused on the standard input. -/
theorem run_words_quarters :
    Exchange.splitText quarters =
      .ok "[\x7b\"day\":1,\"value\":[\"09:00~09:30\",\"09:30~09:45\"]\x7d]" ∧
    (run (filed "quarters.json" quarters "off") ["-v", "split", "quarters.json"]).exit = 0 ∧
    (run (filed "quarters.json" quarters "off") ["-v", "split", "quarters.json"]).stdout =
      "[\x7b\"day\":1,\"value\":[\"09:00~09:30\",\"09:30~09:45\"]\x7d]\n" ∧
    (run (filed "quarters.json" quarters "off") ["split", "quarters.json", "--pretty"]).exit = 0 ∧
    (run (filed "quarters.json" quarters "off") ["split", "quarters.json", "--pretty"]).stdout =
      "[\n  \x7b\n    \"day\": 1,\n    \"value\": [\n      \"09:00~09:30\",\n      \"09:30~09:45\"\n    ]\n  \x7d\n]\n" ∧
    (∃ e, Exchange.mergeText "[" = .error e) ∧
    (run (typing "[") ["merge", "-", "--pretty"]).exit = 1 ∧
    (run (typing "[") ["merge", "-", "--pretty"]).stdout = "" := by
  have hsplit : Exchange.splitText quarters =
      .ok "[\x7b\"day\":1,\"value\":[\"09:00~09:30\",\"09:30~09:45\"]\x7d]" := by decide +kernel
  have hmerge : ∃ e, Exchange.mergeText "[" = .error e := ⟨_, by rfl⟩
  have hwritten : ∀ text style, (Conversion.split.traced quarters).map (·.value.write style) = .ok text →
      ∀ l : Line, l.input = some "quarters.json" → styleOf (l.raises .pretty) = style →
        (run (filed "quarters.json" quarters "off") (l.words Conversion.split.name)).exit = 0 ∧
        (run (filed "quarters.json" quarters "off") (l.words Conversion.split.name)).stdout =
          text ++ "\n" := by
    rintro text _ written l named rfl
    obtain ⟨schedule, events, htraced, -, hrun⟩ | ⟨e, he, -⟩ := run_words .split quarters
    · have hline := hrun (filed "quarters.json" quarters "off") l
        (named ▸ .file (by decide) (by decide) (files_filed _ _ _))
      obtain rfl : schedule.write (styleOf (l.raises .pretty)) = text := by
        rw [htraced] at written
        exact Except.ok.inj written
      exact ⟨congrArg Outcome.exit hline, congrArg Outcome.stdout hline⟩
    · rw [he] at written
      cases written
  have hcompact := hwritten
    "[\x7b\"day\":1,\"value\":[\"09:00~09:30\",\"09:30~09:45\"]\x7d]" .compact (by decide +kernel)
    ⟨[.v], [], some "quarters.json", [], by decide, by decide⟩ rfl rfl
  have hpretty := hwritten
    "[\n  \x7b\n    \"day\": 1,\n    \"value\": [\n      \"09:00~09:30\",\n      \"09:30~09:45\"\n    ]\n  \x7d\n]"
    .pretty (by decide +kernel) ⟨[], [], some "quarters.json", [.pretty], by decide, by decide⟩ rfl rfl
  have htyped : (run (typing "[") ["merge", "-", "--pretty"]).exit = 1 ∧
      (run (typing "[") ["merge", "-", "--pretty"]).stdout = "" := by
    obtain ⟨schedule, events, -, hexported, -⟩ | ⟨e, -, -, hrun⟩ := run_words .merge "["
    · exact nomatch hmerge.choose_spec.symm.trans hexported
    · have hline := hrun (typing "[") ⟨[], [], some "-", [.pretty], by decide, by decide⟩
        (.dash rfl)
      exact ⟨congrArg Outcome.exit hline, congrArg Outcome.stdout hline⟩
  exact ⟨hsplit, hcompact.1, hcompact.2, hpretty.1, hpretty.2, hmerge, htyped⟩

end Console

end AccessWindows
