import AccessWindows.Proofs.Painting

/-!
# The canonical form of aligned grants

Two things make the normal form of aligned grants a canonical form. It is canonical: the picked cells
do not overlap, and fusing sound grants that are apart and in order gives a canonical list
(`canonical_fuse`), one join at a time (`canonical_join`). And a canonical list is determined by what it
grants (`Canonical.eq_of_sameAccess`): at each minute its weekdays are those granted then, and its
windows are the longest runs of minutes with the same weekdays, because two windows on the same weekdays
never touch. `normalize_eq_canonical_form` puts both together.
-/

set_option autoImplicit false

namespace AccessWindows

namespace Grant

/-! ## Windows that are apart -/

theorem Sound.minutes_lt {g : Grant} (hg : g.Sound) : g.start.minutes < g.stop.minutes :=
  hg.start_lt_stop

/-- A sound grant holds its first minute. -/
theorem Sound.holds_start {g : Grant} (hg : g.Sound) : g.Holds g.start.minutes :=
  ⟨Nat.le_refl _, hg.minutes_lt⟩

theorem apart_iff {g h : Grant} :
    g.Apart h ↔ g.stop.minutes ≤ h.start.minutes ∨ h.stop.minutes ≤ g.start.minutes := Iff.rfl

/-- Windows are apart if they share no minute. -/
theorem apart_iff_of_sound {g h : Grant} (hg : g.Sound) (hh : h.Sound) :
    g.Apart h ↔ ∀ m, g.Holds m → ¬ h.Holds m := by
  have hgproper := hg.minutes_lt
  have hhproper := hh.minutes_lt
  rw [apart_iff]
  constructor
  · rintro hapart m ⟨hfrom, hto⟩ ⟨hfrom', hto'⟩
    omega
  · intro hdisjoint
    -- of the two starts the later one would be a shared minute
    apply Decidable.byContradiction
    intro hoverlap
    have hholds : g.Holds (max g.start.minutes h.start.minutes) := ⟨by omega, by omega⟩
    exact hdisjoint _ hholds ⟨by omega, by omega⟩

/-- In a list of grants that are apart, a minute lies in one window only. -/
theorem eq_of_holds {gs : List Grant} (sound : ∀ g ∈ gs, g.Sound) (apart : gs.Pairwise Apart)
    {g h : Grant} (hg : g ∈ gs) (hh : h ∈ gs) {m : Nat} (hgm : g.Holds m) (hhm : h.Holds m) :
    g = h := by
  -- apartness is a fact about pairs in order of the list, so the claim is proved for these first
  have hpairs : gs.Pairwise fun a b => a.Holds m → b.Holds m → a = b := by
    apply apart.imp_of_mem
    intro a b ha hb hab ham hbm
    exact absurd hbm ((apart_iff_of_sound (sound a ha) (sound b hb)).1 hab m ham)
  have hflip : gs.Pairwise (flip fun a b => a.Holds m → b.Holds m → a = b) :=
    hpairs.imp fun hab hbm ham => (hab ham hbm).symm
  exact List.Pairwise.forall_of_forall_of_flip (fun _ _ _ _ => rfl) hpairs hflip hg hh hgm hhm

/-! ## Order and touching windows -/

/-- On the same weekdays the grant that comes first starts first. -/
theorem Precedes.start_lt {g h : Grant} (hgh : g.Precedes h) (days : g.weekdays = h.weekdays) :
    g.start.minutes < h.start.minutes := by
  rcases hgh with hkey | ⟨-, hstart⟩
  · rw [key_eq_of_weekdays_eq days] at hkey
    exact absurd hkey (List.lt_irrefl _)
  · exact hstart

/-- Apart grants in order are in canonical order: with the same start they would share it. -/
theorem Precedes.of_lt {g h : Grant} (hlt : g < h) (apart : g.Apart h) (hg : g.Sound)
    (hh : h.Sound) : g.Precedes h := by
  have hgproper := hg.minutes_lt
  have hhproper := hh.minutes_lt
  rw [apart_iff] at apart
  rcases lt_iff.1 hlt with hkey | ⟨hkey, hstart | ⟨hstart, -⟩⟩
  · exact Or.inl hkey
  · exact Or.inr ⟨hkey, hstart⟩
  · omega

/-- No grant goes on at one that comes before it. -/
theorem not_continues_of_precedes {g h : Grant} (hgh : g.Precedes h) (hh : h.Sound) :
    ¬ h.Continues g := by
  rintro ⟨hdays, htouch⟩
  have hstart := hgh.start_lt hdays.symm
  have hproper := hh.minutes_lt
  rw [ClockTime.ext_iff] at htouch
  omega

/-- A grant does not go on at one that comes after its successor: the successor would stand between
them on the same weekdays and start within its window. -/
theorem not_continues_of_between {g h k : Grant} (hgh : g.Precedes h) (hhk : h.Precedes k)
    (apart : g.Apart h) (hh : h.Sound) : ¬ g.Continues k := by
  rintro ⟨hdays, htouch⟩
  have hkey := key_eq_of_weekdays_eq hdays
  have hsame : g.weekdays = h.weekdays := by
    rcases hgh with hlt | ⟨heq, -⟩
    · rcases hhk with hlt' | ⟨heq', -⟩
      · exact absurd (hkey ▸ List.lt_trans hlt hlt') (List.lt_irrefl _)
      · exact absurd (hkey ▸ heq' ▸ hlt) (List.lt_irrefl _)
    · exact weekdays_eq_of_key_eq heq
  have hfirst := hgh.start_lt hsame
  have hsecond := hhk.start_lt (hsame.symm.trans hdays)
  have hproper := hh.minutes_lt
  rw [ClockTime.ext_iff] at htouch
  rw [apart_iff] at apart
  omega

/-- No sound grant goes on at itself. -/
theorem Sound.not_continues_self {g : Grant} (hg : g.Sound) : ¬ g.Continues g := by
  rintro ⟨-, htouch⟩
  have hproper := hg.minutes_lt
  rw [ClockTime.ext_iff] at htouch
  omega

/-! ## Fusing gives a canonical list -/

theorem canonical_nil : Canonical [] :=
  ⟨fun _ h => absurd h List.not_mem_nil, List.Pairwise.nil,
    fun _ h => absurd h List.not_mem_nil, List.Pairwise.nil⟩

/-- A grant in front of a canonical list keeps it canonical if it is not continued by the first one. -/
theorem canonical_cons {g : Grant} {hs : List Grant} (canonical : Canonical hs) (hg : g.Sound)
    (apart : ∀ h ∈ hs, g.Apart h) (precedes : ∀ h ∈ hs, g.Precedes h)
    (separate : ∀ h ∈ hs, ¬ g.Continues h) : Canonical (g :: hs) := by
  refine ⟨List.forall_mem_cons.2 ⟨hg, canonical.sound⟩, List.pairwise_cons.2 ⟨apart, canonical.apart⟩,
    ?_, List.pairwise_cons.2 ⟨precedes, canonical.ordered⟩⟩
  intro a hmem b hmem'
  rcases List.mem_cons.1 hmem with rfl | ha
  · rcases List.mem_cons.1 hmem' with rfl | hb
    · exact hg.not_continues_self
    · exact separate b hb
  · rcases List.mem_cons.1 hmem' with rfl | hb
    · exact not_continues_of_precedes (precedes a ha) (canonical.sound a ha)
    · exact canonical.separate a ha b hb

theorem Canonical.tail {g : Grant} {hs : List Grant} (canonical : Canonical (g :: hs)) :
    Canonical hs :=
  ⟨fun h hh => canonical.sound h (List.mem_cons_of_mem g hh), canonical.apart.of_cons,
    fun a ha b hb => canonical.separate a (List.mem_cons_of_mem g ha) b (List.mem_cons_of_mem g hb),
    canonical.ordered.of_cons⟩

/-- Joining a grant that comes before a canonical list and is apart from it gives a canonical list. -/
theorem canonical_join {g : Grant} {hs : List Grant} (canonical : Canonical hs) (hg : g.Sound)
    (apart : ∀ h ∈ hs, g.Apart h) (precedes : ∀ h ∈ hs, g.Precedes h) : Canonical (join g hs) := by
  cases hs with
  | nil =>
      rw [join_nil]
      exact canonical_cons canonical_nil hg apart precedes fun _ h => absurd h List.not_mem_nil
  | cons h rest =>
      have hh := canonical.sound h List.mem_cons_self
      obtain ⟨hapart, hrestApart⟩ := List.pairwise_cons.1 canonical.apart
      obtain ⟨hprecedes, hrestOrdered⟩ := List.pairwise_cons.1 canonical.ordered
      by_cases hcont : g.Continues h
      · rw [join_cons_of_continues hcont]
        refine canonical_cons canonical.tail (hg.upTo hh hcont) ?_ ?_ ?_
        · -- what is apart from two windows that touch is apart from the one they make: it cannot lie
          -- between them
          intro r hr
          have hgr := apart r (List.mem_cons_of_mem h hr)
          have hhr := hapart r hr
          have hproper := (canonical.sound r (List.mem_cons_of_mem h hr)).minutes_lt
          have htouch := ClockTime.ext_iff.1 hcont.2
          rw [apart_iff] at hgr hhr ⊢
          show h.stop.minutes ≤ r.start.minutes ∨ r.stop.minutes ≤ g.start.minutes
          omega
        · intro r hr
          exact precedes r (List.mem_cons_of_mem h hr)
        · -- the lengthened grant stops where `h` did, and nothing continued `h`
          rintro r hr ⟨hdays, htouch⟩
          exact canonical.separate h List.mem_cons_self r (List.mem_cons_of_mem h hr)
            ⟨hcont.1.symm.trans hdays, htouch⟩
      · rw [join_cons_of_not_continues hcont]
        apply canonical_cons canonical hg apart precedes
        intro r hr
        rcases List.mem_cons.1 hr with rfl | hr
        · exact hcont
        · exact not_continues_of_between (precedes h List.mem_cons_self) (hprecedes r hr)
            (apart h List.mem_cons_self) hh

/-- **Fusing sound grants that are apart and in order gives a canonical list.** -/
theorem canonical_fuse {gs : List Grant} (sound : ∀ g ∈ gs, g.Sound) (apart : gs.Pairwise Apart)
    (ordered : gs.Pairwise Precedes) : Canonical (fuse gs) := by
  induction gs with
  | nil => exact canonical_nil
  | cons g gs ih =>
      obtain ⟨hg, hgs⟩ := List.forall_mem_cons.1 sound
      obtain ⟨hapart, hgsApart⟩ := List.pairwise_cons.1 apart
      obtain ⟨hprecedes, hgsOrdered⟩ := List.pairwise_cons.1 ordered
      rw [fuse_cons]
      refine canonical_join (ih hgs hgsApart hgsOrdered) hg ?_ ?_
      · intro f hf
        apply (apart_iff_of_sound hg (sound_of_mem_fuse hgs f hf)).2
        intro m hgm hfm
        -- a minute of a fused grant is a minute of a given one
        obtain ⟨h, hh, -, hhm⟩ := (holds_fuse (fun _ => True) m hgs).1 ⟨f, hf, trivial, hfm⟩
        exact (apart_iff_of_sound hg (hgs h hh)).1 (hapart h hh) m hgm hhm
      · intro f hf
        obtain ⟨h, hh, hdays, hstart⟩ := start_of_mem_fuse hf
        have hgh := hprecedes h hh
        unfold Precedes at hgh ⊢
        rwa [key_eq_of_weekdays_eq hdays, hstart] at hgh

/-- Grants from selections are canonical if no two picked intervals overlap. -/
theorem canonical_ofSelections {sels : List Selection}
    (apart : ∀ i ∈ windows sels, ∀ j ∈ windows sels, i ≠ j → i.stop ≤ j.start ∨ j.stop ≤ i.start) :
    Canonical (ofSelections sels) := by
  have hsound : ∀ g ∈ picked sels, g.Sound := fun _ hg => sound_of_mem_picked hg
  have happart : (picked sels).Pairwise Apart := by
    apply (pairwise_picked sels).imp_of_mem
    intro g h hg hh hlt
    obtain ⟨i, hi, rfl⟩ := mem_picked.1 hg
    obtain ⟨j, hj, rfl⟩ := mem_picked.1 hh
    apply apart i hi j hj
    rintro rfl
    exact lt_asymm _ _ hlt hlt
  apply canonical_fuse hsound happart
  apply (happart.and (pairwise_picked sels)).imp_of_mem
  intro g h hg hh hboth
  exact Precedes.of_lt hboth.2 hboth.1 (hsound g hg) (hsound h hh)

/-- The grants of a grid are canonical. -/
theorem canonical_toGrants (g : WeekGrid) : Canonical g.toGrants := by
  apply canonical_ofSelections
  have hcell : ∀ i ∈ windows g.toSelections, ∃ c, slotAt? c = some i := by
    intro i hi
    obtain ⟨d, hd⟩ := mem_windows.1 hi
    obtain ⟨c, -, hslot⟩ := WeekGrid.mem_slotsOn.1 (Selection.mem_daysPicking_perDay.1 hd)
    exact ⟨c, hslot⟩
  intro i hi j hj hne
  obtain ⟨c, hslot⟩ := hcell i hi
  obtain ⟨c', hslot'⟩ := hcell j hj
  have hcolumns : c ≠ c' := by
    rintro rfl
    exact hne (Option.some.inj (hslot.symm.trans hslot'))
  obtain ⟨hc, hstart, hstop⟩ := slotAt?_eq_some_iff.1 hslot
  obtain ⟨hc', hstart', hstop'⟩ := slotAt?_eq_some_iff.1 hslot'
  rw [ClockTime.le_iff, ClockTime.le_iff]
  omega

theorem canonical_normalize {gs : List Grant} (aligned : (Schedule.grants gs).Aligned) :
    Canonical (normalize gs) := by
  show Canonical (ofSelections (Selection.ofGrants gs))
  rw [ofGrants_of_aligned aligned]
  exact canonical_toGrants _

/-! ## A canonical list is determined by what it grants -/

/-- Whether two lists of grants grant the same minutes of the week. -/
def SameAccess (gs hs : List Grant) : Prop :=
  ∀ d m, (Schedule.grants gs).Covers d m ↔ (Schedule.grants hs).Covers d m

theorem SameAccess.symm {gs hs : List Grant} (same : SameAccess gs hs) : SameAccess hs gs :=
  fun d m => (same d m).symm

theorem sameAccess_normalize (gs : List Grant) : SameAccess (normalize gs) gs :=
  covers_normalize gs

/-- At a minute of a window a canonical list grants exactly the weekdays of that window. -/
theorem Canonical.covers_iff {gs : List Grant} (canonical : Canonical gs) {g : Grant} (hg : g ∈ gs)
    {m : Nat} (hm : g.Holds m) {d : Weekday} :
    (Schedule.grants gs).Covers d m ↔ d ∈ g.weekdays := by
  constructor
  · rintro ⟨h, hh, hd, hhm⟩
    rw [eq_of_holds canonical.sound canonical.apart hg hh hm hhm]
    exact hd
  · intro hd
    exact ⟨g, hg, hd, hm⟩

/-- Canonical lists that grant the same have at each minute windows on the same weekdays. -/
theorem Canonical.exists_holds {gs hs : List Grant} (hgs : Canonical gs) (hhs : Canonical hs)
    (same : SameAccess gs hs) {g : Grant} (hg : g ∈ gs) {m : Nat} (hm : g.Holds m) :
    ∃ h ∈ hs, h.Holds m ∧ h.weekdays = g.weekdays := by
  -- a sound grant has a weekday, so the other list grants this minute too; and the weekdays of its
  -- window there are all those granted at the minute, which both lists agree on
  obtain ⟨d, hd⟩ := List.exists_mem_of_ne_nil _ (hgs.sound g hg).weekdays_ne_nil
  obtain ⟨h, hh, -, hhm⟩ := (same d m).1 ((hgs.covers_iff hg hm).2 hd)
  refine ⟨h, hh, hhm, ?_⟩
  refine Ascending.eq_of_mem_iff (fun _ _ => Weekday.lt_asymm) (hhs.sound h hh).weekdays_ascend
    (hgs.sound g hg).weekdays_ascend fun e => ?_
  rw [← hhs.covers_iff hh hhm, ← hgs.covers_iff hg hm]
  exact (same e m).symm

/-- In a canonical list no window on the same weekdays holds the minute before a window starts. -/
theorem Canonical.not_holds_before {gs : List Grant} (canonical : Canonical gs) {g h : Grant}
    (hg : g ∈ gs) (hh : h ∈ gs) (days : h.weekdays = g.weekdays) {m : Nat}
    (hm : m + 1 = g.start.minutes) : ¬ h.Holds m := by
  rintro ⟨hfrom, hto⟩
  by_cases hstop : h.stop = g.start
  · exact canonical.separate h hh g hg ⟨days, hstop⟩
  · -- then the window runs into the other one, so it is the same, yet it starts earlier
    rw [ClockTime.ext_iff] at hstop
    have heq := eq_of_holds canonical.sound canonical.apart hg hh (canonical.sound g hg).holds_start
      (show h.Holds g.start.minutes from ⟨by omega, by omega⟩)
    subst heq
    omega

/-- In a canonical list no window on the same weekdays holds the minute at which a window stops. -/
theorem Canonical.not_holds_stop {gs : List Grant} (canonical : Canonical gs) {g h : Grant}
    (hg : g ∈ gs) (hh : h ∈ gs) (days : h.weekdays = g.weekdays) : ¬ h.Holds g.stop.minutes := by
  rintro ⟨hfrom, hto⟩
  have hproper := (canonical.sound g hg).minutes_lt
  by_cases hstart : g.stop = h.start
  · exact canonical.separate g hg h hh ⟨days.symm, hstart⟩
  · -- then both hold the last minute of the first, so they are the same, yet one holds its own stop
    rw [ClockTime.ext_iff] at hstart
    have heq := eq_of_holds canonical.sound canonical.apart hg hh
      (show g.Holds (g.stop.minutes - 1) from ⟨by omega, by omega⟩)
      (show h.Holds (g.stop.minutes - 1) from ⟨by omega, by omega⟩)
    subst heq
    omega

section SameAccess

variable {gs hs : List Grant} (hgs : Canonical gs) (hhs : Canonical hs) (same : SameAccess gs hs)
  {g h : Grant} (hg : g ∈ gs) (hh : h ∈ hs) (days : h.weekdays = g.weekdays)

include hgs hhs same hg hh days

/-- Of two windows on the same weekdays that share a minute, none starts earlier. -/
theorem Canonical.start_le {m : Nat} (hgm : g.Holds m) (hhm : h.Holds m) :
    g.start.minutes ≤ h.start.minutes := by
  apply Nat.le_of_not_lt
  intro hlt
  obtain ⟨g', hg', hholds, hdays⟩ := hhs.exists_holds hgs same.symm hh
    (show h.Holds (g.start.minutes - 1) from
      ⟨by omega, by have hfrom := hgm.1; have hto := hhm.2; omega⟩)
  exact hgs.not_holds_before hg hg' (hdays.trans days) (by omega) hholds

/-- Of two windows on the same weekdays that share a minute, none stops later. -/
theorem Canonical.stop_le {m : Nat} (hgm : g.Holds m) (hhm : h.Holds m) :
    g.stop.minutes ≤ h.stop.minutes := by
  apply Nat.le_of_not_lt
  intro hlt
  obtain ⟨h', hh', hholds, hdays⟩ := hgs.exists_holds hhs same hg
    (show g.Holds h.stop.minutes from
      ⟨by have hfrom := hgm.1; have hto := hhm.2; omega, hlt⟩)
  exact hhs.not_holds_stop hh hh' (hdays.trans days.symm) hholds

end SameAccess

/-- Each window of a canonical list belongs to every canonical list that grants the same. -/
theorem Canonical.mem_of_mem {gs hs : List Grant} (hgs : Canonical gs) (hhs : Canonical hs)
    (same : SameAccess gs hs) {g : Grant} (hg : g ∈ gs) : g ∈ hs := by
  -- the other list has a window on the same weekdays at the first minute; since both lists have the
  -- longest such windows, neither starts earlier and neither stops later
  have hgm := (hgs.sound g hg).holds_start
  obtain ⟨h, hh, hhm, hdays⟩ := hgs.exists_holds hhs same hg hgm
  have hstart : h.start = g.start := ClockTime.ext (Nat.le_antisymm
    (hhs.start_le hgs same.symm hh hg hdays.symm hhm hgm)
    (hgs.start_le hhs same hg hh hdays hgm hhm))
  have hstop : h.stop = g.stop := ClockTime.ext (Nat.le_antisymm
    (hhs.stop_le hgs same.symm hh hg hdays.symm hhm hgm)
    (hgs.stop_le hhs same hg hh hdays hgm hhm))
  rw [← eq_of_parts hdays hstart hstop]
  exact hh

/-- **Canonical lists that grant the same are equal.** -/
theorem Canonical.eq_of_sameAccess {gs hs : List Grant} (hgs : Canonical gs) (hhs : Canonical hs)
    (same : SameAccess gs hs) : gs = hs :=
  Ascending.eq_of_mem_iff Precedes.asymm hgs.ordered hhs.ordered fun _ =>
    ⟨hgs.mem_of_mem hhs same, hhs.mem_of_mem hgs same.symm⟩

/-! ## Normal forms -/

/-- **Normalizing aligned grants gives their one canonical form.** The normal form is canonical, and it
is the only canonical list that grants the same. Hence aligned lists have the same normal form exactly if
they grant the same, and a canonical one is its own. -/
theorem normalize_eq_canonical_form {gs : List Grant} (aligned : (Schedule.grants gs).Aligned) :
    Canonical (normalize gs) ∧
      (∀ ys, Canonical ys → SameAccess ys gs → ys = normalize gs) ∧
      (∀ hs, (Schedule.grants hs).Aligned → (normalize hs = normalize gs ↔ SameAccess hs gs)) ∧
      (Canonical gs → normalize gs = gs) := by
  have hunique : ∀ ys, Canonical ys → SameAccess ys gs → ys = normalize gs := by
    intro ys hys same
    apply hys.eq_of_sameAccess (canonical_normalize aligned)
    intro d m
    exact (same d m).trans (sameAccess_normalize gs d m).symm
  refine ⟨canonical_normalize aligned, hunique, ?_, ?_⟩
  · intro hs hsAligned
    constructor
    · intro heq d m
      rw [← sameAccess_normalize hs d m, heq, sameAccess_normalize gs d m]
    · intro same
      apply hunique _ (canonical_normalize hsAligned)
      intro d m
      exact (sameAccess_normalize hs d m).trans (same d m)
  · intro hcanonical
    exact (hunique gs hcanonical fun _ _ => Iff.rfl).symm

/-- A list put together by hand: weekdays out of order and repeated, hours that two grants share, and a
reversed window off the half hour. -/
def sharedMorning : List Grant :=
  [⟨[.tuesday, .monday, .tuesday], ⟨660, by decide⟩, ⟨720, by decide⟩⟩,
    ⟨[], ⟨725, by decide⟩, ⟨541, by decide⟩⟩, ⟨[.monday], ⟨480, by decide⟩, ⟨720, by decide⟩⟩]

/-- The same access in canonical form. -/
def regroupedMorning : List Grant :=
  [⟨[.monday], ⟨480, by decide⟩, ⟨660, by decide⟩⟩,
    ⟨[.monday, .tuesday], ⟨660, by decide⟩, ⟨720, by decide⟩⟩]

/-- The shared hours move under both weekdays. -/
theorem normalize_sharedMorning :
    (Schedule.grants sharedMorning).Aligned ∧ Canonical regroupedMorning ∧
      SameAccess regroupedMorning sharedMorning ∧ Canonical (normalize sharedMorning) ∧
      regroupedMorning = normalize sharedMorning := by
  have aligned : (Schedule.grants sharedMorning).Aligned := by
    unfold sharedMorning Schedule.Aligned
    decide
  have canonical : Canonical regroupedMorning := by
    refine ⟨?_, by decide, by decide, by decide⟩
    intro g hg
    simp only [regroupedMorning, List.mem_cons, List.not_mem_nil, or_false] at hg
    rcases hg with rfl | rfl
    · exact ⟨by decide, by decide, by decide⟩
    · exact ⟨by decide, by decide, by decide⟩
  have same : SameAccess regroupedMorning sharedMorning := by
    intro d m
    show (∃ g ∈ regroupedMorning, g.Covers d m) ↔ ∃ g ∈ sharedMorning, g.Covers d m
    cases d <;> simp [regroupedMorning, sharedMorning, Grant.Covers]
    -- on Monday two windows meet where the shared hours begin
    omega
  obtain ⟨hnormal, hunique, -, -⟩ := normalize_eq_canonical_form aligned
  exact ⟨aligned, canonical, same, hnormal, hunique _ canonical same⟩

end Grant

end AccessWindows
