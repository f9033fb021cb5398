import AccessWindows.Proofs.Construction
import AccessWindows.Proofs.Exports

/-!
# Warnings about empty windows

Grants are cut one after the other, and the half hours of each are put with those that its weekdays have
already. A grant whose window is empty is skipped with a warning instead. Going through the grants in this
way gives the selections and the events of cutting them all at once (`Log.splitInTurn_eq`), so there is one
warning for each empty window, in the order of the grants.

No grant that the library hands out has an empty window, whatever it was made of (`Grant.Issued.sound`):
it is built, read, merged, normalized or taken from a grid. So cutting such grants warns of nothing, and a
conversion on the command line, which only cuts what it has read, shows nothing on the standard error
unless it fails or details are asked for (`Console.stderr_of_quiet`).
-/

set_option autoImplicit false

namespace AccessWindows

/-! ## Grant by grant -/

namespace Log

/-- The half hours found so far on each weekday, in order and each once; none where a weekday has not come
up yet. -/
abbrev Found : Type := Weekday → List Interval

namespace Found

/-- Put intervals with those of a weekday. -/
def extend (found : Found) (slots : List Interval) (d : Weekday) : Found :=
  fun e => if e = d then Ascending.ofList (slots ++ found e) else found e

/-- Put intervals with those of each weekday of a list. -/
def add (found : Found) (days : List Weekday) (slots : List Interval) : Found :=
  days.foldl (fun found d => found.extend slots d) found

/-- Whether the intervals of each weekday are in order and each once. -/
def Ascends (found : Found) : Prop := ∀ d, (found d).Pairwise (· < ·)

theorem mem_extend {found : Found} {slots : List Interval} {d e : Weekday} {i : Interval} :
    i ∈ found.extend slots d e ↔ e = d ∧ i ∈ slots ∨ i ∈ found e := by
  unfold extend
  split
  · next same => rw [Ascending.mem_ofList, List.mem_append, and_iff_right same]
  · next other => rw [or_iff_right fun h => other h.1]

theorem mem_add {found : Found} {days : List Weekday} {slots : List Interval} {e : Weekday}
    {i : Interval} : i ∈ found.add days slots e ↔ e ∈ days ∧ i ∈ slots ∨ i ∈ found e := by
  unfold add
  induction days generalizing found with
  | nil => simp
  | cons d days ih =>
      rw [List.foldl_cons, ih, mem_extend, List.mem_cons]
      tauto

theorem Ascends.extend {found : Found} (ascends : found.Ascends) (slots : List Interval) (d : Weekday) :
    (found.extend slots d).Ascends := by
  intro e
  unfold Found.extend
  split
  · exact Interval.pairwise_ofList _
  · exact ascends e

theorem Ascends.add {found : Found} (ascends : found.Ascends) (days : List Weekday)
    (slots : List Interval) : (found.add days slots).Ascends := by
  unfold Found.add
  induction days generalizing found with
  | nil => exact ascends
  | cons d days ih => exact ih (ascends.extend slots d)

end Found

/-- Go through grants one after the other. The half hours of a window are put with those of its weekdays;
a grant with an empty window is skipped with a warning. -/
def collect (found : Found) : List Grant → Traced Found
  | [] => pure found
  | g :: gs =>
      match g.window? with
      | none => do
          Traced.emit (.skippedEmpty g.start g.stop)
          collect found gs
      | some i => collect (found.add g.weekdays (HalfHours.mk i.start i.stop).toList) gs

/-- Grants to selections, one grant after the other. -/
def splitInTurn (grants : List Grant) : Traced (List Selection) := do
  let found ← collect (fun _ => []) grants
  let sels := Selection.perDay found
  Traced.emit (.split grants.length sels.length)
  return sels

/-- A grant is skipped with a warning, or its half hours are added without one. -/
theorem collect_cons (found : Found) (g : Grant) (gs : List Grant) :
    (¬ g.start < g.stop ∧ g.halfHours = [] ∧ collect found (g :: gs) = do
      Traced.emit (.skippedEmpty g.start g.stop)
      collect found gs) ∨
    (g.start < g.stop ∧ collect found (g :: gs) = collect (found.add g.weekdays g.halfHours) gs) := by
  by_cases hlt : g.start < g.stop
  · have hwindow : g.window? = some ⟨g.start, g.stop, hlt⟩ := dif_pos hlt
    refine .inr ⟨hlt, ?_⟩
    rw [collect, hwindow]
    rfl
  · have hwindow : g.window? = none := dif_neg hlt
    refine .inl ⟨hlt, HalfHours.toList_of_not_lt hlt, ?_⟩
    rw [collect, hwindow]

theorem warning?_of_lt {g : Grant} (hlt : g.start < g.stop) : warning? g = none := if_pos hlt

theorem warning?_of_not_lt {g : Grant} (hlt : ¬ g.start < g.stop) :
    warning? g = some (.skippedEmpty g.start g.stop) := if_neg hlt

/-- The warnings are about the empty windows, in the order of the grants. -/
theorem events_collect (found : Found) (gs : List Grant) :
    (collect found gs).events = gs.filterMap warning? := by
  -- what has been found does not matter for the warnings, but it changes from grant to grant
  induction gs generalizing found with
  | nil => rfl
  | cons g gs ih =>
      rcases collect_cons found g gs with ⟨hlt, -, hcollect⟩ | ⟨hlt, hcollect⟩
      · rw [hcollect, Traced.events_bind, ih, List.filterMap_cons_some (warning?_of_not_lt hlt)]
        rfl
      · rw [hcollect, ih, List.filterMap_cons_none (warning?_of_lt hlt)]

/-- What is found is what was there before and the half hours of all grants on their weekdays. -/
theorem mem_collect {found : Found} {gs : List Grant} {d : Weekday} {i : Interval} :
    i ∈ (collect found gs).value d ↔ i ∈ Selection.slotsOn gs d ∨ i ∈ found d := by
  induction gs generalizing found with
  | nil => exact (or_iff_right List.not_mem_nil).symm
  | cons g gs ih =>
      rw [Selection.mem_slotsOn, List.exists_mem_cons_iff, ← Selection.mem_slotsOn]
      rcases collect_cons found g gs with ⟨-, hnone, hcollect⟩ | ⟨-, hcollect⟩
      · rw [hcollect, Traced.value_bind, ih, hnone]
        simp
      · rw [hcollect, ih, Found.mem_add]
        tauto

theorem ascends_collect {found : Found} (ascends : found.Ascends) (gs : List Grant) :
    (collect found gs).value.Ascends := by
  induction gs generalizing found with
  | nil => exact ascends
  | cons g gs ih =>
      rcases collect_cons found g gs with ⟨-, -, hcollect⟩ | ⟨-, hcollect⟩
      · rw [hcollect, Traced.value_bind]
        exact ih ascends
      · rw [hcollect]
        exact ih (ascends.add _ _)

/-- **Cutting grants in turn is cutting them all**, with the same events. -/
theorem splitInTurn_eq (gs : List Grant) : splitInTurn gs = split gs := by
  -- both lists of a weekday ascend and have the same members
  have hsels : Selection.perDay (collect (fun _ => []) gs).value = Selection.ofGrants gs := by
    rw [Selection.ofGrants_eq_perDay]
    refine Selection.perDay_eq_of_mem_iff (ascends_collect (fun _ => .nil) gs)
      (Selection.pairwise_slotsOn gs) fun d i => ?_
    rw [mem_collect, or_iff_left List.not_mem_nil]
  show (⟨Selection.perDay (collect (fun _ => []) gs).value, (collect (fun _ => []) gs).events ++
    [.split gs.length (Selection.perDay (collect (fun _ => []) gs).value).length]⟩ : Traced _) = _
  rw [hsels, events_collect]
  rfl

/-! ## Events without warnings -/

/-- The line of an event with two values: what stands in front of the first, and what between them. -/
theorem Event.line_of_values {e : Event} {front between name value name' value' : String}
    (values : e.values = [(name, value), (name', value')])
    (hfront : e.level.name ++ " " ++ e.target ++ ": " ++ e.words ++ " " ++ name ++ "=" = front)
    (hbetween : " " ++ name' ++ "=" = between) : e.line = front ++ value ++ between ++ value' := by
  rw [← hfront, ← hbetween]
  simp only [Event.line, Event.text, values, List.map_cons, List.map_nil, String.join_cons,
    String.join_nil, String.append_assoc, String.append_empty]

theorem Event.line_skippedEmpty (start stop : ClockTime) : (Event.skippedEmpty start stop).line =
    "WARN weektime_engine::split: skipping empty range start_time=" ++ toString start ++ " end_time=" ++
      toString stop :=
  Event.line_of_values rfl rfl rfl

theorem Event.line_split (ranges days : Nat) : (Event.split ranges days).line =
    "DEBUG weektime_engine::split: split merged ranges ranges=" ++ toString ranges ++ " days=" ++
      toString days :=
  Event.line_of_values rfl rfl rfl

/-- Whether there is no warning among some events. -/
def Quiet (events : List Event) : Prop := ∀ e ∈ events, e.level ≠ .warn

theorem quiet_nil : Quiet [] := fun _ he => absurd he List.not_mem_nil

theorem Quiet.append {events events' : List Event} (quiet : Quiet events) (quiet' : Quiet events') :
    Quiet (events ++ events') := fun e he => (List.mem_append.1 he).elim (quiet e) (quiet' e)

theorem quiet_singleton {e : Event} (h : e.level ≠ .warn) : Quiet [e] :=
  fun _ he => List.mem_singleton.1 he ▸ h

/-- The grants that are warned of are those whose window is empty. -/
theorem filterMap_warning? (gs : List Grant) : gs.filterMap warning? =
    (gs.filter fun g => g.stop ≤ g.start).map fun g => .skippedEmpty g.start g.stop := by
  induction gs with
  | nil => rfl
  | cons g gs ih =>
      by_cases hlt : g.start < g.stop
      · have hproper : ¬ decide (g.stop ≤ g.start) = true :=
          fun h => Nat.not_le_of_lt hlt (of_decide_eq_true h)
        rw [List.filterMap_cons_none (warning?_of_lt hlt), List.filter_cons, if_neg hproper, ih]
      · have hempty : decide (g.stop ≤ g.start) = true := decide_eq_true (Nat.le_of_not_lt hlt)
        rw [List.filterMap_cons_some (warning?_of_not_lt hlt), List.filter_cons, if_pos hempty,
          List.map_cons, ih]

/-- The events of cutting grants. -/
theorem events_split (gs : List Grant) : (split gs).events =
    ((gs.filter fun g => g.stop ≤ g.start).map fun g => .skippedEmpty g.start g.stop) ++
      [.split gs.length (split gs).value.length] := by
  rw [← filterMap_warning?]
  rfl

theorem events_normalize (gs : List Grant) : (normalize gs).events =
    (split gs).events ++ [.merged (split gs).value.length (normalize gs).value.length] := rfl

theorem events_paintGrants (gs : List Grant) : (paintGrants gs).events =
    (split gs).events ++ [.painted (split gs).value.length (paintGrants gs).value.selectedCount] := rfl

/-- Cutting grants without an empty window warns of nothing. -/
theorem quiet_split {gs : List Grant} (proper : ∀ g ∈ gs, g.start < g.stop) :
    Quiet (split gs).events := by
  rw [events_split]
  refine Quiet.append ?_ (quiet_singleton nofun)
  have hnone : (gs.filter fun g => g.stop ≤ g.start) = [] := by
    rw [List.filter_eq_nil_iff]
    intro g hg hempty
    exact Nat.not_le_of_lt (proper g hg) (of_decide_eq_true hempty)
  rw [hnone]
  exact quiet_nil

theorem quiet_normalize {gs : List Grant} (proper : ∀ g ∈ gs, g.start < g.stop) :
    Quiet (normalize gs).events :=
  (quiet_split proper).append (quiet_singleton nofun)

theorem quiet_paintGrants {gs : List Grant} (proper : ∀ g ∈ gs, g.start < g.stop) :
    Quiet (paintGrants gs).events :=
  (quiet_split proper).append (quiet_singleton nofun)

/-- A filter for warnings shows nothing of quiet events. -/
theorem lines_of_quiet {events : List Event} (quiet : Quiet events) :
    (Filter.upTo .warn).lines events = [] := by
  have hnone : events.filter (Filter.upTo .warn).shows = [] := by
    rw [List.filter_eq_nil_iff]
    intro e he hshown
    refine quiet e he ?_
    -- the filter shows warnings and what is worse, and nothing worse is ever logged
    cases e with
    | skippedEmpty start stop => rfl
    | merged selections ranges => exact absurd hshown Bool.false_ne_true
    | split ranges days => exact absurd hshown Bool.false_ne_true
    | painted selections cells => exact absurd hshown Bool.false_ne_true
    | readingFile path => exact absurd hshown Bool.false_ne_true
  rw [Filter.lines, hnone]
  rfl

end Log

/-! ## Grants that the library hands out -/

/-- A grant that the library hands out: built from its parts, read from a text, merged from selections,
put into normal form or taken from a grid. -/
inductive Grant.Issued : Grant → Prop
  | built {days : List Weekday} {start stop : ClockTime} {g : Grant} :
      Grant.make days start stop = .ok g → Issued g
  | read {text : String} {gs : List Grant} {g : Grant} :
      Exchange.readGrants text = .ok gs → g ∈ gs → Issued g
  | merged {sels : List Selection} {g : Grant} : g ∈ Grant.ofSelections sels → Issued g
  | normalized {gs : List Grant} {g : Grant} : g ∈ Grant.normalize gs → Issued g
  | painted {grid : WeekGrid} {g : Grant} : g ∈ grid.toGrants → Issued g

theorem Exchange.sound_of_readGrants {text : String} {gs : List Grant}
    (hread : Exchange.readGrants text = .ok gs) : ∀ g ∈ gs, g.Sound :=
  yields_grant.array.readAll hread

theorem Grant.Issued.sound {g : Grant} (issued : g.Issued) : g.Sound := by
  cases issued with
  | built hmake => exact Grant.sound_of_make hmake
  | read hread hg => exact Exchange.sound_of_readGrants hread g hg
  | merged hg => exact Grant.sound_of_mem_ofSelections hg
  | normalized hg => exact Grant.sound_of_mem_ofSelections hg
  | painted hg => exact Grant.sound_of_mem_ofSelections hg

/-! ## Runs without warnings -/

namespace Console

open Json (ReadError Style)
open Log (Event Filter Quiet Traced)

/-- What a conversion of a text logs is what the conversion of the value logs that is read of it. -/
theorem exists_of_traced {α β : Type} {read : Except ReadError α} {convert : α → Traced β}
    {form : β → Schedule} {t : Traced Schedule}
    (htraced : (do return form <$> convert (← read)) = (.ok t : Except ReadError (Traced Schedule))) :
    ∃ a, read = .ok a ∧ t.events = (convert a).events := by
  cases read with
  | error e => cases htraced
  | ok a =>
      obtain rfl := Except.ok.inj htraced
      exact ⟨a, rfl, List.append_nil _⟩

/-- Converting what is read of a text warns of nothing. -/
theorem Conversion.quiet_of_traced {c : Conversion} {text : String} {t : Traced Schedule}
    (htraced : c.traced text = .ok t) : Quiet t.events := by
  have proper : ∀ {gs}, Exchange.readGrants text = .ok gs → ∀ g ∈ gs, g.start < g.stop :=
    fun hread g hg => (Exchange.sound_of_readGrants hread g hg).start_lt_stop
  cases c with
  | merge =>
      obtain ⟨sels, -, hevents⟩ := exists_of_traced htraced
      rw [hevents]
      exact Log.quiet_singleton nofun
  | split =>
      obtain ⟨gs, hread, hevents⟩ := exists_of_traced htraced
      rw [hevents]
      exact Log.quiet_split (proper hread)
  | normalize =>
      obtain ⟨gs, hread, hevents⟩ := exists_of_traced htraced
      rw [hevents]
      exact Log.quiet_normalize (proper hread)

/-- Reading the text of a source warns of nothing. -/
theorem quiet_readSource (s : Surroundings) (source : Source) : Quiet (readSource s source).events := by
  cases source with
  | stdin => exact Log.quiet_nil
  | file path => exact Log.quiet_singleton nofun

/-- A conversion that succeeds warns of nothing. -/
theorem quiet_convert {s : Surroundings} {source : Source} {c : Conversion} {style : Style} {text : String}
    (success : (convert s source c.refusal (c.work style)).value = .ok text) :
    Quiet (convert s source c.refusal (c.work style)).events := by
  have announced := quiet_readSource s source
  cases hread : readSource s source with
  | mk value events =>
      rw [hread] at announced
      cases value with
      -- a source that cannot be read is no success
      | error f =>
          rw [value_convert, hread] at success
          cases success
      | ok input =>
          rw [convert_of_read hread] at success ⊢
          cases htraced : c.traced input with
          | error e =>
              rw [Conversion.work_of_refused htraced] at success
              cases success
          | ok t =>
              rw [Conversion.work_of_traced htraced]
              exact announced.append (Conversion.quiet_of_traced htraced)

/-- A run whose command succeeds without a warning leaves the standard error empty, unless details are
asked for or the log is set up otherwise. -/
theorem stderr_of_quiet {s : Surroundings} {i : Invocation} (unset : s.logSetting = none)
    (plain : i.verbose = false) (success : (i.run s).exit = 0)
    (quiet : ∀ text events, i.command.run s (styleOf i.pretty) = ⟨.ok text, events⟩ → Quiet events) :
    (i.run s).stderr = "" := by
  cases hresult : i.command.run s (styleOf i.pretty) with
  | mk value events =>
      cases value with
      | error f =>
          rw [Invocation.run_of_error hresult] at success
          cases success
      | ok text =>
          rw [Invocation.run_of_ok hresult, plain, unset]
          show String.join (((Filter.upTo .warn).lines events).map fun line => line ++ "\n") = ""
          rw [Log.lines_of_quiet (quiet text events hresult)]
          rfl

end Console

/-! ## All warnings -/

open Log (Event Quiet Traced)
open Console (Conversion Invocation Source Surroundings)

/-- **Warnings are exact.** Cutting grants logs one warning for each grant that does not start before it
stops, in the order of the grants and with their times, and then how many grants were cut and how many
days there are; this is what going through them one after the other comes to. Normalizing and painting log
the same and then their second stage. Of grants that the library hands out nothing is warned, so a
conversion on the command line that succeeds leaves the standard error empty, unless details are asked for
or the log is set up otherwise. -/
theorem warnings_exact :
    (∀ gs : List Grant, Log.splitInTurn gs = Log.split gs ∧
      (Log.split gs).events =
        ((gs.filter fun g => g.stop ≤ g.start).map fun g => .skippedEmpty g.start g.stop) ++
          [.split gs.length (Log.split gs).value.length] ∧
      (Log.normalize gs).events = (Log.split gs).events ++
        [.merged (Log.split gs).value.length (Log.normalize gs).value.length] ∧
      (Log.paintGrants gs).events = (Log.split gs).events ++
        [.painted (Log.split gs).value.length (Log.paintGrants gs).value.selectedCount]) ∧
    (∀ start stop : ClockTime, (Event.skippedEmpty start stop).level = .warn ∧
      (Event.skippedEmpty start stop).line =
        "WARN weektime_engine::split: skipping empty range start_time=" ++ toString start ++ " end_time=" ++
          toString stop) ∧
    (∀ ranges days : Nat, (Event.split ranges days).level = .debug ∧
      (Event.split ranges days).line =
        "DEBUG weektime_engine::split: split merged ranges ranges=" ++ toString ranges ++ " days=" ++
          toString days) ∧
    (∀ gs : List Grant, (∀ g ∈ gs, g.Issued) →
      Quiet (Log.split gs).events ∧ Quiet (Log.normalize gs).events ∧
        Quiet (Log.paintGrants gs).events) ∧
    ∀ (s : Surroundings) (arguments : List String) (pretty : Bool) (c : Conversion) (source : Source),
      s.logSetting = none → Invocation.ofArguments arguments = .ok ⟨pretty, false, c.command source⟩ →
      (Console.run s arguments).exit = 0 → (Console.run s arguments).stderr = "" := by
  refine ⟨fun gs => ⟨Log.splitInTurn_eq gs, Log.events_split gs, Log.events_normalize gs,
    Log.events_paintGrants gs⟩, fun start stop => ⟨rfl, Event.line_skippedEmpty start stop⟩,
    fun ranges days => ⟨rfl, Event.line_split ranges days⟩, ?_, ?_⟩
  · intro gs issued
    have proper : ∀ g ∈ gs, g.start < g.stop := fun g hg => (issued g hg).sound.start_lt_stop
    exact ⟨Log.quiet_split proper, Log.quiet_normalize proper, Log.quiet_paintGrants proper⟩
  · intro s arguments pretty c source unset hread success
    rw [Console.run, hread] at success ⊢
    refine Console.stderr_of_quiet unset rfl success fun text events hresult => ?_
    rw [c.run_command] at hresult
    have quiet := Console.quiet_convert (congrArg Traced.value hresult)
    rwa [hresult] at quiet

/-- The whole weekend. -/
def weekend : Grant := ⟨[.saturday, .sunday], .midnight, .dayEnd⟩

/-- The weekend can be built, and normalizing it warns of nothing. Splitting the quarters on the command line
leaves the standard error empty. -/
theorem warnings_exact_quarters :
    Grant.make [.sunday, .saturday] .midnight .dayEnd = .ok weekend ∧
    Quiet (Log.normalize [weekend]).events ∧
    Invocation.ofArguments ["split"] = .ok ⟨false, false, Conversion.split.command .stdin⟩ ∧
    (Console.run (Console.typing Console.quarters) ["split"]).exit = 0 ∧
    (Console.run (Console.typing Console.quarters) ["split"]).stderr = "" := by
  have built : Grant.make [.sunday, .saturday] .midnight .dayEnd = .ok weekend := by decide
  have issued : ∀ g ∈ [weekend], g.Issued := by
    intro g hg
    obtain rfl := List.mem_singleton.1 hg
    exact .built built
  have line : Invocation.ofArguments ["split"] = .ok ⟨false, false, Conversion.split.command .stdin⟩ := by
    decide
  have success : (Console.run (Console.typing Console.quarters) ["split"]).exit = 0 := by decide +kernel
  obtain ⟨-, -, -, quiet, empty⟩ := warnings_exact
  exact ⟨built, (quiet _ issued).2.1, line, success, empty _ _ _ _ _ rfl line success⟩

end AccessWindows
