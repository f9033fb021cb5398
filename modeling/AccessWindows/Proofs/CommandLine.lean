import AccessWindows.Console.Arguments

/-!
# Command lines of conversions

A command line for a conversion has flags on both sides of the command and perhaps a file name among
those behind it (`Line`). However the flags are spelled and wherever they stand, it is read as the
conversion of the file that it names, or of the standard input (`Line.ofArguments_words`).

Words are read one after another, so each kind of word has a lemma on what it does to the progress
of the reading (`take_flag`, `take_input`), and a row of flags is read by induction (`scan_flags`).
A file name waits for its check until the next flag or the end of the line; `scan_flags_end` reads
the flags behind it from there.
-/

set_option autoImplicit false

namespace AccessWindows.Console

/-- The words for the flags that a conversion takes. -/
inductive FlagWord where
  | pretty
  | verbose
  /-- The short word for `verbose`. -/
  | v
deriving DecidableEq

namespace FlagWord

/-- The word itself. -/
def word : FlagWord → String
  | pretty => "--pretty"
  | verbose => "--verbose"
  | v => "-v"

/-- The flag that the word stands for. -/
def flag : FlagWord → Flag
  | pretty => .pretty
  | verbose => .verbose
  | v => .verbose

end FlagWord

/-- Whether one of some words stands for a flag. -/
def raises (ws : List FlagWord) (f : Flag) : Bool := ws.any fun w => w.flag = f

theorem raises_append (ws ws' : List FlagWord) (f : Flag) :
    raises (ws ++ ws') f = (raises ws f || raises ws' f) := List.any_append

theorem raises_eq_false_iff {ws : List FlagWord} {f : Flag} :
    raises ws f = false ↔ f ∉ ws.map FlagWord.flag := by
  simp [raises]

/-- Whether a word can be the name of a file or of the standard input. -/
def Nameable (path : String) : Prop := path = "-" ∨ path ≠ "" ∧ path.toList.head? ≠ some '-'

/-! ## Taking one word -/

namespace Progress

/-- Whether a flag has been read. -/
def raised (p : Progress) : Flag → Bool
  | .pretty => p.pretty
  | .verbose => p.verbose
  | _ => false

/-- The progress when some flags have been read as well. -/
def withFlags (p : Progress) (ws : List FlagWord) : Progress :=
  { p with pretty := p.pretty || raises ws .pretty, verbose := p.verbose || raises ws .verbose }

theorem withFlags_nil (p : Progress) : p.withFlags [] = p := by
  simp [withFlags, raises]

theorem withFlags_append (p : Progress) (ws ws' : List FlagWord) :
    p.withFlags (ws ++ ws') = (p.withFlags ws).withFlags ws' := by
  simp [withFlags, raises_append, Bool.or_assoc]

/-- What has been read is what had been read before and what is read now. -/
theorem raised_withFlags (p : Progress) (ws : List FlagWord) (w : FlagWord) :
    (p.withFlags ws).raised w.flag = (p.raised w.flag || raises ws w.flag) := by
  cases w <;> rfl

theorem raised_start (w : FlagWord) : start.raised w.flag = false := by
  cases w <;> rfl

/-- A word for a flag is taken as the flag. -/
theorem take_flagWord (g : Grammar) {p : Progress} (w : FlagWord) (options : p.trailing = false) :
    p.take g w.word = w.flag.take p := by
  unfold Progress.take
  rw [options]
  cases w with
  | pretty => rfl
  | verbose => rfl
  | v =>
      -- a word with one dash may hold further letters, and this one holds none
      show (Flag.verbose.take p >>= fun q => Flag.takeShort g q []) = Flag.verbose.take p
      cases Flag.verbose.take p <;> rfl

/-- A flag is taken once what waits has been checked. -/
theorem take_flag (g : Grammar) {p q : Progress} (w : FlagWord) (options : p.trailing = false)
    (settles : p.settle = .ok q) (fresh : q.raised w.flag = false) :
    p.take g w.word = .ok (q.withFlags [w]) := by
  have hsettled : p.settled = .ok q := by rw [settled, settles]; rfl
  rw [take_flagWord g w options, Flag.take, hsettled]
  cases w <;> simp_all [bind, Except.bind, FlagWord.flag, raised, withFlags, raises]

/-- A name is a plain word: it has no letter behind a dash. -/
theorem take_nameable (g : Grammar) {p : Progress} (options : p.trailing = false)
    (idle : p.pending = .nothing) {path : String} (nameable : Nameable path) :
    p.take g path = p.takePlain g path := by
  unfold Progress.take
  rw [options, idle, if_neg Bool.false_ne_true]
  rcases nameable with rfl | ⟨-, hfirst⟩
  · rfl
  · split
    · simp_all
    · simp_all
    · simp_all
    · rfl

theorem settle_of_idle {p : Progress} (idle : p.pending = .nothing) : p.settle = .ok p := by
  rw [settle, idle]

/-- The first name is kept and waits for its check. -/
theorem take_input {g : Grammar} (takes : g.takesInput = true) {p : Progress}
    (options : p.trailing = false) (idle : p.pending = .nothing) (first : p.input = none)
    {path : String} (nameable : Nameable path) :
    p.take g path = .ok { p with pending := .input path } := by
  have hfree : p.hasInput = false := by rw [hasInput, idle, first]; rfl
  have hsettled : p.settled = .ok p := by rw [settled, settle_of_idle idle]; rfl
  rw [take_nameable g options idle nameable, takePlain, if_pos ⟨takes, by rw [hfree]; rfl⟩,
    hsettled]
  rfl

/-- A name passes its check. -/
theorem settle_input {p : Progress} {path : String} (nameable : Nameable path)
    (waits : p.pending = .input path) :
    p.settle = .ok { p with input := some path, pending := .nothing } := by
  have hname : path ≠ "" := by
    rcases nameable with rfl | ⟨hname, -⟩
    · decide
    · exact hname
  rw [settle, waits]
  exact if_neg hname

end Progress

/-! ## Reading a level -/

/-- A word that is no command is taken, and the reading goes on. -/
theorem scan_cons {g : Grammar} {p q : Progress} {word : String}
    (noCommand : g.hasCommands = false ∨ CommandName.ofWord? word = none)
    (takes : p.take g word = .ok q)
    (words : List String) : scan g p (word :: words) = scan g q words := by
  have hnone :
      (if g.hasCommands ∧ !p.trailing then CommandName.ofWord? word else none) = none := by
    rcases noCommand with hno | hno
    · rw [hno]
      exact if_neg fun h => Bool.false_ne_true h.1
    · rw [hno, ite_self]
  rw [scan, hnone, takes]
  rfl

/-- A word that names a command ends the reading of the level. -/
theorem scan_command {g : Grammar} (commands : g.hasCommands = true) {p : Progress}
    (options : p.trailing = false) {word : String} {c : CommandName}
    (names : CommandName.ofWord? word = some c) (words : List String) :
    scan g p (word :: words) = .ok (p, some (c, words)) := by
  have hsome :
      (if g.hasCommands ∧ !p.trailing then CommandName.ofWord? word else none) = some c := by
    rw [options, names]
    exact if_pos ⟨commands, rfl⟩
  rw [scan, hsome]

theorem ofWord?_flagWord (w : FlagWord) : CommandName.ofWord? w.word = none := by
  cases w <;> decide

/-- A row of flags is read, each of them at most once. -/
theorem scan_flags {g : Grammar} {ws : List FlagWord} (once : (ws.map FlagWord.flag).Nodup)
    {p : Progress} (options : p.trailing = false) (idle : p.pending = .nothing)
    (fresh : ∀ w ∈ ws, p.raised w.flag = false) (words : List String) :
    scan g p (ws.map FlagWord.word ++ words) = scan g (p.withFlags ws) words := by
  induction ws generalizing p with
  | nil => rw [Progress.withFlags_nil, List.map_nil, List.nil_append]
  | cons w ws ih =>
      rw [List.map_cons, List.nodup_cons] at once
      obtain ⟨hw, hws⟩ := List.forall_mem_cons.1 fresh
      have htake := Progress.take_flag g w options (Progress.settle_of_idle idle) hw
      have hall : p.withFlags (w :: ws) = (p.withFlags [w]).withFlags ws :=
        p.withFlags_append [w] ws
      rw [List.map_cons, List.cons_append, scan_cons (.inr (ofWord?_flagWord w)) htake, hall]
      refine ih once.2 options idle ?_
      -- the flags to come are others than this one
      intro w' hw'
      rw [Progress.raised_withFlags, hws w' hw', Bool.false_or, raises_eq_false_iff]
      intro hsame
      rw [List.map_singleton, List.mem_singleton] at hsame
      exact once.1 (hsame ▸ List.mem_map_of_mem hw')

theorem scan_end {g : Grammar} {p q : Progress} (settles : p.settle = .ok q) :
    scan g p [] = .ok (q, none) := by
  rw [scan, Progress.settled, settles]
  rfl

/-- A row of flags is read up to the end of the line. What waits before it is checked at the first
flag, or at the end if there is none. -/
theorem scan_flags_end {g : Grammar} {ws : List FlagWord} (once : (ws.map FlagWord.flag).Nodup)
    {p q : Progress} (options : p.trailing = false) (settles : p.settle = .ok q)
    (options' : q.trailing = false) (idle : q.pending = .nothing)
    (fresh : ∀ w ∈ ws, q.raised w.flag = false) :
    scan g p (ws.map FlagWord.word) = .ok (q.withFlags ws, none) := by
  cases ws with
  | nil => rw [Progress.withFlags_nil, List.map_nil, scan_end settles]
  | cons w ws =>
      -- the first flag checks what waits, and then nothing does
      have hw := fresh w List.mem_cons_self
      have hfirst : scan g p ((w :: ws).map FlagWord.word) =
          scan g q ((w :: ws).map FlagWord.word ++ []) := by
        rw [List.append_nil, List.map_cons,
          scan_cons (.inr (ofWord?_flagWord w)) (Progress.take_flag g w options settles hw),
          scan_cons (.inr (ofWord?_flagWord w))
            (Progress.take_flag g w options' (Progress.settle_of_idle idle) hw)]
      rw [hfirst, scan_flags once options' idle fresh]
      exact scan_end (Progress.settle_of_idle idle)

/-- Behind a command that takes one, a file name is read wherever it stands among the flags. -/
theorem scan_behind {g : Grammar} (takes : g.takesInput = true) (noCommands : g.hasCommands = false)
    {between after : List FlagWord} (once : ((between ++ after).map FlagWord.flag).Nodup)
    {input : Option String} (nameable : ∀ path ∈ input, Nameable path) :
    scan g .start (between.map FlagWord.word ++ (input.toList ++ after.map FlagWord.word)) =
      .ok ({ Progress.start.withFlags (between ++ after) with input := input }, none) := by
  cases input with
  | none =>
      rw [Option.toList_none, List.nil_append, ← List.map_append]
      exact scan_flags_end once rfl (Progress.settle_of_idle rfl) rfl rfl
        fun w _ => Progress.raised_start w
  | some path =>
      have hpath := nameable path rfl
      rw [List.map_append, List.nodup_append] at once
      obtain ⟨hbetween, hafter, hdisjoint⟩ := once
      rw [scan_flags hbetween rfl rfl fun w _ => Progress.raised_start w, Option.toList_some,
        List.singleton_append,
        scan_cons (.inl noCommands) (Progress.take_input takes rfl rfl rfl hpath)]
      -- the flags behind the name have not been read in front of it
      have hfresh : ∀ w ∈ after, (Progress.start.withFlags between).raised w.flag = false := by
        intro w hw
        rw [Progress.raised_withFlags, Progress.raised_start, Bool.false_or, raises_eq_false_iff]
        intro hmem
        exact hdisjoint _ hmem _ (List.mem_map_of_mem hw) rfl
      rw [scan_flags_end hafter rfl (Progress.settle_input hpath rfl) rfl rfl
        hfresh, Progress.withFlags_append]
      rfl

/-! ## Whole lines -/

/-- A command line for a conversion: flags in front of the command, and flags and perhaps a file
name behind it. Each flag stands at most once on either side. -/
structure Line where
  front : List FlagWord
  between : List FlagWord
  input : Option String
  after : List FlagWord
  once_front : (front.map FlagWord.flag).Nodup
  once_behind : ((between ++ after).map FlagWord.flag).Nodup

namespace Line

/-- The words of the line. -/
def words (l : Line) (command : CommandName) : List String :=
  l.front.map FlagWord.word ++
    command.word :: (l.between.map FlagWord.word ++ (l.input.toList ++ l.after.map FlagWord.word))

/-- Whether a flag stands anywhere on the line. -/
def raises (l : Line) (f : Flag) : Bool := Console.raises (l.front ++ l.between ++ l.after) f

end Line

/-- The conversions of texts that can be asked for. -/
inductive Conversion where
  | merge
  | split
  | normalize
deriving DecidableEq

namespace Conversion

/-- The name on the command line. -/
def name : Conversion → CommandName
  | merge => .merge
  | split => .split
  | normalize => .normalize

/-- The command that converts the text of a source. -/
def command : Conversion → Source → Command
  | merge => .merge
  | split => .split
  | normalize => .normalize

end Conversion

theorem Conversion.ofWord?_name (c : Conversion) :
    CommandName.ofWord? c.name.word = some c.name := by
  cases c <;> decide

theorem Conversion.toCommand_name (c : Conversion) (p : Progress) :
    c.name.toCommand p = some (c.command (.ofInput p.input)) := by
  cases c <;> rfl

/-- **A command line for a conversion is read as it is meant**: its flags, the conversion, and the
file that it names or else the standard input. -/
theorem Line.ofArguments_words (l : Line) (c : Conversion)
    (nameable : ∀ path ∈ l.input, Nameable path) :
    Invocation.ofArguments (l.words c.name) =
      .ok ⟨l.raises .pretty, l.raises .verbose, c.command (.ofInput l.input)⟩ := by
  have hfront : scan .line .start (l.words c.name) = .ok (Progress.start.withFlags l.front,
      some (c.name, l.between.map FlagWord.word ++ (l.input.toList ++ l.after.map FlagWord.word))) := by
    rw [Line.words, scan_flags l.once_front rfl rfl fun w _ => Progress.raised_start w]
    exact scan_command rfl rfl c.ofWord?_name _
  have hbehind := scan_behind (g := .ofCommand c.name) (by cases c <;> rfl) (by cases c <;> rfl)
    l.once_behind nameable
  have hflag : ∀ f, l.raises f =
      (Console.raises l.front f || Console.raises (l.between ++ l.after) f) := by
    intro f
    rw [Line.raises, List.append_assoc, raises_append]
  rw [Invocation.ofArguments, hfront]
  show (if c.name = .help then _ else _) = _
  rw [if_neg (by cases c <;> decide), hbehind]
  simp only [bind, Except.bind, c.toCommand_name, hflag]
  rfl

end AccessWindows.Console
