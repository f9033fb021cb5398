import AccessWindows.Proofs.Exports
import AccessWindows.Proofs.Streaming

/-!
# Schedules cut short

The readers of schedules take a written text as it comes, since the readers of its parts do
(`takes_selection`, `takes_grant`). So a schedule whose text is cut short anywhere, in a key, a time or a
number, behind a comma or behind a whole entry, is refused because its text has ended
(`Exchange.readSelections_front`, `Exchange.readGrants_front`).

No conversion goes on with a text that is refused (`Console.Conversion.Refuses`): nothing is converted,
and a run prints nothing but the report of the failure. So a part of a schedule is never taken for a
smaller one (`Console.cut_short_refused`).
-/

set_option autoImplicit false

namespace AccessWindows

open Json (ReadError Reader Reads RunsOut Style Takes Writer)

/-! ## Schedules as they are written -/

theorem takes_weekday (d : Weekday) : Takes Weekday.reader d.toJson := by
  have hnumber : 0 < d.number ∧ d.number < 10 := by cases d <;> decide
  exact (Json.takes_byte hnumber.1 hnumber.2).accept Weekday.ofNumber

theorem takes_time (t : ClockTime) : Takes ClockTime.reader t.toJson :=
  (Json.takes_string _).accept ClockTime.read

theorem takes_interval (i : Interval) : Takes Interval.reader i.toJson :=
  (Json.takes_string _).accept Interval.read

theorem takes_selection (s : Selection) : Takes Selection.reader s.toJson := by
  have hintervals : Takes (Reader.array Interval.reader) (.array (s.intervals.map Interval.toJson)) :=
    Json.takes_array (fun i _ => reads_interval i) fun i _ => takes_interval i
  refine Json.takes_object (fills_selection s) ?_
  refine .cons rfl (fun _ => (takes_weekday s.day).map _) ?_
  exact .cons rfl (fun _ => hintervals.map _) (Json.takesFields_nil _)

theorem takes_grant (g : Grant) : Takes Grant.reader g.toJson := by
  have hdays : Takes (Reader.array Weekday.reader) (.array (g.weekdays.map Weekday.toJson)) :=
    Json.takes_array (fun d _ => reads_weekday d) fun d _ => takes_weekday d
  refine (Json.takes_object (fills_grant g) ?_).accept Grant.remake
  refine .cons rfl (fun _ => hdays.map _) ?_
  refine .cons rfl (fun _ => (takes_time g.start).map _) ?_
  exact .cons rfl (fun _ => (takes_time g.stop).map _) (Json.takesFields_nil _)

namespace Exchange

/-- A text that is read runs out wherever it is cut short. -/
theorem runsOut_front {α : Type} {r : Reader α} {w : Writer} {a : α} (takes : Takes r w)
    (reads : Reads r w (.ok a)) {style : Style} {front behind : String}
    (cut : write style w = front ++ behind) (short : behind ≠ "") :
    RunsOut (r.readAll front.toList) := by
  have htext := congrArg String.toList cut
  rw [write, String.toList_ofList, String.toList_append] at htext
  exact takes.readAll_front reads htext fun hnil => short (String.toList_eq_nil_iff.1 hnil)

variable {style : Style} {front behind : String}

/-- The text of selections runs out wherever it is cut short. -/
theorem readSelections_front {sels : List Selection}
    (cut : writeSelections style sels = front ++ behind) (short : behind ≠ "") :
    RunsOut (readSelections front) := by
  have htakes := Json.takes_array (fun s (_ : s ∈ sels) => reads_selection s)
    fun s _ => takes_selection s
  exact runsOut_front htakes (reads_list reads_selection sels) cut short

/-- The text of valid grants runs out wherever it is cut short. -/
theorem readGrants_front {gs : List Grant} (valid : ∀ g ∈ gs, g.Valid)
    (cut : writeGrants style gs = front ++ behind) (short : behind ≠ "") :
    RunsOut (readGrants front) := by
  have hgrants := Json.reads_array fun g (_ : g ∈ gs) => reads_grant g
  obtain ⟨hs, hrebuilt⟩ : ∃ hs, gs.mapM Grant.remake = .ok hs :=
    exists_mapM_eq_ok_iff.2 fun g hg => Grant.exists_remake_iff.2 (valid g hg)
  rw [mapM_mapError, hrebuilt] at hgrants
  have htakes := Json.takes_array (fun g (_ : g ∈ gs) => reads_grant g) fun g _ => takes_grant g
  exact runsOut_front htakes hgrants cut short

end Exchange

/-! ## Refused texts -/

namespace Console

/-- A conversion refuses a text for a reason: there is no result in any style, other programs get the
reason instead, and a run that is given the text shows nothing but its report. -/
structure Conversion.Refuses (c : Conversion) (text : String) (e : ReadError) : Prop where
  work : ∀ style, c.work style text = .error e
  exported : c.exported text = .error e
  shows : ∀ (s : Surroundings) (source : Source) (arguments : List String) (pretty : Bool),
    Asks arguments pretty (c.command source) → (readSource s source).value = .ok text →
      (run s arguments).Shows (.error (c.refusal e))

namespace Conversion

variable {c : Conversion} {text : String} {e : ReadError}

theorem refuses_of_traced (refused : c.traced text = .error e) : c.Refuses text e where
  work := work_of_refused refused
  exported := exported_of_refused refused
  shows s source arguments pretty asks hread := by
    have hwork : (c.work (styleOf pretty) text).map (·.value) = .error e := by
      rw [work_of_refused refused]
      rfl
    exact shows_converted asks (c.run_command s (styleOf pretty) source) hread hwork

theorem refuses_merge (h : Exchange.readSelections text = .error e) : merge.Refuses text e :=
  refuses_of_traced (by rw [traced, h]; rfl)

theorem refuses_split (h : Exchange.readGrants text = .error e) : split.Refuses text e :=
  refuses_of_traced (by rw [traced, h]; rfl)

theorem refuses_normalize (h : Exchange.readGrants text = .error e) : normalize.Refuses text e :=
  refuses_of_traced (by rw [traced, h]; rfl)

end Conversion

/-- **A text that is cut short is not taken for a smaller schedule.** Take what is written of selections,
or of valid grants, in either style, and leave out any of its end. What is left is refused because the
text has ended; so selections are not merged, and grants are neither split nor normalized, but that is
what is reported. -/
theorem cut_short_refused (style : Style) (front behind : String) (short : behind ≠ "") :
    (∀ sels, Exchange.writeSelections style sels = front ++ behind →
      ∃ u, Exchange.readSelections front = .error (.eof u) ∧
        Conversion.merge.Refuses front (.eof u)) ∧
    ∀ gs, (∀ g ∈ gs, g.Valid) → Exchange.writeGrants style gs = front ++ behind →
      ∃ u, Exchange.readGrants front = .error (.eof u) ∧
        Conversion.split.Refuses front (.eof u) ∧ Conversion.normalize.Refuses front (.eof u) := by
  constructor
  · intro sels cut
    obtain ⟨u, hu⟩ := Exchange.readSelections_front cut short
    exact ⟨u, hu, Conversion.refuses_merge hu⟩
  · intro gs valid cut
    obtain ⟨u, hu⟩ := Exchange.readGrants_front valid cut short
    exact ⟨u, hu, Conversion.refuses_split hu, Conversion.refuses_normalize hu⟩

/-- A selection is cut short behind its day, and three quarters of an hour in the time where they end. -/
theorem cut_short_refused_quarters :
    let day := "[\x7b\"day\":1"
    let hour := "[\x7b\"weekdays\":[1],\"start_time\":\"09:00\",\"end_time\":\"09"
    Exchange.writeSelections .compact [⟨.monday, []⟩] = day ++ ",\"value\":[]\x7d]" ∧
    (∃ u, Exchange.mergeText day = .error (.eof u)) ∧
    Exchange.writeGrants .compact [⟨[.monday], ⟨540, by decide⟩, ⟨585, by decide⟩⟩] =
      hour ++ ":45\"\x7d]" ∧
    (∃ u, Exchange.splitText hour = .error (.eof u)) ∧
    (run (typing hour) ["normalize"]).exit = 1 ∧ (run (typing hour) ["normalize"]).stdout = "" := by
  intro day hour
  have hday : Exchange.writeSelections .compact [⟨.monday, []⟩] = day ++ ",\"value\":[]\x7d]" := by
    decide +kernel
  have hhour : Exchange.writeGrants .compact [⟨[.monday], ⟨540, by decide⟩, ⟨585, by decide⟩⟩] =
      hour ++ ":45\"\x7d]" := by decide +kernel
  obtain ⟨u, -, merged⟩ := (cut_short_refused .compact day _ (by decide)).1 _ hday
  obtain ⟨u', -, split, normalized⟩ :=
    (cut_short_refused .compact hour _ (by decide)).2 _ (by decide) hhour
  obtain ⟨exit, stdout, -⟩ := normalized.shows (typing hour) .stdin ["normalize"] false ⟨false, rfl⟩
    (congrArg (·.value) (readSource_stdin rfl))
  exact ⟨hday, ⟨u, merged.exported⟩, hhour, ⟨u', split.exported⟩, exit, stdout⟩

end Console

end AccessWindows
