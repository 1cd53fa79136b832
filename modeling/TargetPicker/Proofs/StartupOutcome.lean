import Mathlib.Tactic.Common
import TargetPicker.Proofs.Makefile.Lookup
import TargetPicker.Startup

/-!
# What becomes of a start

Whether there are targets to pick from is a matter of three things in this order: what is known of
the makefile's existence, whether it could be opened, and what the reader gives.  Each outcome has
its own condition (`loadTargets_outcome`), and the last two are conditions on the lines of the
stream alone: a line gives a target if its text before the first colon is one (`headerTarget?`).

A check that fails is no reason to stop.  Only a makefile that is known not to exist is missing, and
then it is not opened.
-/

namespace TargetPicker

open StreamPlace (lineStart)

/-! ## The target of a line -/

/-- The text before the first colon of a line, if it is a target. -/
def headerTarget? (line : Text) : Option Text :=
  let target := line.takeWhile (· != ':')
  if ':' ∈ line ∧ IsName IsTargetLetter target then some target else none

lemma takeWhile_append_colon {target : Text} (h : ':' ∉ target) (rest : Text) :
    (target ++ ':' :: rest).takeWhile (· != ':') = target := by
  rw [List.takeWhile_append_of_pos]
  · simp
  · intro c hc
    rw [bne_iff_ne]
    rintro rfl
    exact h hc

lemma headerTarget?_eq_some_iff {line target : Text} :
    headerTarget? line = some target ↔ IsHeaderOf target line := by
  unfold headerTarget? IsHeaderOf
  dsimp only
  constructor
  · intro h
    split at h
    · next hline =>
      obtain ⟨start, rest, rfl, hstart⟩ := List.eq_append_cons_of_mem hline.1
      rw [takeWhile_append_colon hstart] at h hline
      cases h
      exact ⟨hline.2, rest, rfl⟩
    · cases h
  · rintro ⟨htarget, rest, rfl⟩
    have hcolon : ':' ∉ target := fun hmem => absurd (htarget.2 _ hmem) (by decide)
    rw [takeWhile_append_colon hcolon, if_pos ⟨by simp, htarget⟩]

lemma map_target_headed? (identifier : Text) (l : Line) (after : List Line) :
    (Rule.headed? identifier (l :: after)).map Rule.target = headerTarget? l.text := by
  ext target
  rw [headerTarget?_eq_some_iff, Option.map_eq_some_iff]
  simp only [Rule.headed?_eq_some_iff, LineKind.ofText_eq_ruleHeader_iff]
  constructor
  · rintro ⟨r, ⟨target, prerequisites, hline, rfl⟩, rfl⟩
    exact ⟨hline.1, prerequisites, hline.2⟩
  · rintro ⟨htarget, prerequisites, hline⟩
    exact ⟨_, ⟨target, prerequisites, ⟨htarget, hline⟩, rfl⟩, rfl⟩

/-- **The targets of a makefile** are those of its lines, in order. -/
lemma Makefile.targets_ofLines (identifier : Text) (n : ℕ) (texts : List Text) :
    (ofLines identifier (Line.numberedFrom n texts)).targets = texts.filterMap headerTarget? := by
  induction texts generalizing n with
  | nil => rfl
  | cons t texts ih =>
      have hfirst := map_target_headed? identifier ⟨n, t⟩ (Line.numberedFrom (n + 1) texts)
      have hrest := ih (n + 1)
      rw [targets] at hrest ⊢
      rw [Line.numberedFrom_cons, ofLines_cons, List.map_append, hrest, List.filterMap_cons,
        ← hfirst]
      cases Rule.headed? identifier (⟨n, t⟩ :: Line.numberedFrom (n + 1) texts) <;> rfl

/-! ## Outcomes -/

/-- The targets of a stream without a failure. -/
def ReadEvent.targets (events : List ReadEvent) : List Text :=
  (ReadEvent.lines events).filterMap headerTarget?

lemma ReadEvent.targets_eq_nil_iff {events : List ReadEvent} :
    targets events = [] ↔ ∀ line ∈ lines events, ∀ target, ¬ IsHeaderOf target line := by
  simp only [targets, List.filterMap_eq_nil_iff, ← headerTarget?_eq_some_iff,
    Option.eq_none_iff_forall_ne_some, ne_eq]

variable {path : Text} {found : Except Failure Bool} {opened : Except Failure (List ReadEvent)}

/-- A makefile that may exist is opened. -/
lemma loadTargets_of_ne (h : found ≠ .ok false) :
    loadTargets path found opened = Startup.ofReading (Makefile.parseOpened path opened) := by
  unfold loadTargets
  split
  · exact absurd rfl h
  · rfl

lemma result_ofReading_ok (path : Text) (events : List ReadEvent) :
    (Startup.ofReading (Makefile.parseOpened path (.ok events))).result
      = match lineStart.firstFailure? events with
        | some cause => .error (.unreadable (.reading path cause))
        | none => if ReadEvent.targets events = [] then .error .noTargets
          else .ok (ReadEvent.targets events) := by
  have hparsed : (Makefile.parseOpened path (.ok events)).result
      = (Makefile.parse path events).result := rfl
  rw [Startup.ofReading, hparsed, Makefile.parse_result]
  cases hfailure : lineStart.firstFailure? events with
  | some cause => rfl
  | none =>
      dsimp only
      rw [LineSource.linesOf_eq_lines hfailure, Makefile.targets_ofLines]
      simp only [List.isEmpty_iff]
      rfl

/-- **The ways in which a start can end**, in the order in which it is decided. -/
inductive Ends (path : Text) (found : Except Failure Bool)
    (opened : Except Failure (List ReadEvent)) : Except StartupError (List Text) → Prop where
  | missing (absent : found = .ok false) : Ends path found opened (.error (.missing path))
  | opening (present : found ≠ .ok false) (cause : Failure) (failed : opened = .error cause) :
    Ends path found opened (.error (.unreadable (.opening path cause)))
  | reading (present : found ≠ .ok false) (events : List ReadEvent) (given : opened = .ok events)
    (cause : Failure) (failed : lineStart.firstFailure? events = some cause) :
    Ends path found opened (.error (.unreadable (.reading path cause)))
  | noTargets (present : found ≠ .ok false) (events : List ReadEvent) (given : opened = .ok events)
    (read : lineStart.firstFailure? events = none) (empty : ReadEvent.targets events = []) :
    Ends path found opened (.error .noTargets)
  | ok (present : found ≠ .ok false) (events : List ReadEvent) (given : opened = .ok events)
    (read : lineStart.firstFailure? events = none) (nonempty : ReadEvent.targets events ≠ []) :
    Ends path found opened (.ok (ReadEvent.targets events))

lemma ends_loadTargets (path : Text) (found : Except Failure Bool)
    (opened : Except Failure (List ReadEvent)) :
    Ends path found opened (loadTargets path found opened).result := by
  by_cases hfound : found = .ok false
  · rw [hfound]
    exact .missing rfl
  · rw [loadTargets_of_ne hfound]
    cases opened with
    | error cause => exact .opening hfound cause rfl
    | ok events =>
        rw [result_ofReading_ok]
        cases hfailure : lineStart.firstFailure? events with
        | some cause => exact .reading hfound events rfl cause hfailure
        | none =>
            dsimp only
            split_ifs with htargets
            · exact .noTargets hfound events rfl hfailure htargets
            · exact .ok hfound events rfl hfailure htargets

/-- A start ends in one way. -/
lemma Ends.unique {r r' : Except StartupError (List Text)} (h : Ends path found opened r)
    (h' : Ends path found opened r') : r = r' := by
  cases h <;> cases h' <;> simp_all

lemma loadTargets_eq_iff {r : Except StartupError (List Text)} :
    (loadTargets path found opened).result = r ↔ Ends path found opened r := by
  constructor
  · rintro rfl
    exact ends_loadTargets path found opened
  · intro h
    exact (ends_loadTargets path found opened).unique h

/-- **The outcome of a start**, with the condition for each way in which it can end. -/
structure OutcomeOf (path : Text) (found : Except Failure Bool)
    (opened : Except Failure (List ReadEvent)) (s : Startup) : Prop where
  /-- The makefile is missing if it is known that there is none. -/
  missing : ∀ p, s.result = .error (.missing p) ↔ found = .ok false ∧ p = path
  /-- Then it makes no difference what opening it would have given. -/
  unopened : found = .ok false → ∀ opened', loadTargets path found opened' = s
  /-- In all other cases it is opened. -/
  opens : .opened path ∈ s.log ↔ found ≠ .ok false ∧ ∃ events, opened = .ok events
  opening : ∀ p cause, s.result = .error (.unreadable (.opening p cause)) ↔
    found ≠ .ok false ∧ opened = .error cause ∧ p = path
  /-- The first failure is reported, whatever was read before it. -/
  reading : ∀ p cause, s.result = .error (.unreadable (.reading p cause)) ↔
    found ≠ .ok false ∧ ∃ events, opened = .ok events ∧
      lineStart.firstFailure? events = some cause ∧ p = path
  /-- There are no targets if no line is a target with a colon behind it. -/
  noTargets : s.result = .error .noTargets ↔ found ≠ .ok false ∧ ∃ events, opened = .ok events ∧
    lineStart.firstFailure? events = none ∧
    ∀ line ∈ ReadEvent.lines events, ∀ target, ¬ IsHeaderOf target line
  /-- Otherwise the targets are those of all such lines, in order and with duplicates. -/
  ok : ∀ targets, s.result = .ok targets ↔ found ≠ .ok false ∧ ∃ events, opened = .ok events ∧
    lineStart.firstFailure? events = none ∧
    (∃ line ∈ ReadEvent.lines events, ∃ target, IsHeaderOf target line) ∧
    targets = (ReadEvent.lines events).filterMap headerTarget?
  /-- A check that fails counts as one that found the makefile, and never as a missing one. -/
  check_failed : ∀ cause, found = .error cause →
    s = loadTargets path (.ok true) opened ∧ ∀ p, s.result ≠ .error (.missing p)

/-- **Every start has its outcome.** -/
theorem loadTargets_outcome (path : Text) (found : Except Failure Bool)
    (opened : Except Failure (List ReadEvent)) :
    OutcomeOf path found opened (loadTargets path found opened) where
  missing p := by
    rw [loadTargets_eq_iff]
    constructor
    · rintro ⟨absent⟩
      exact ⟨absent, rfl⟩
    · rintro ⟨absent, rfl⟩
      exact .missing absent
  unopened := by
    rintro rfl opened'
    rfl
  opens := by
    by_cases hfound : found = .ok false
    · rw [hfound]
      simp [loadTargets]
    · rw [loadTargets_of_ne hfound]
      cases opened with
      | error cause => simp [Startup.ofReading, Makefile.parseOpened, LineSource.ofOpened]
      | ok events => simp [Startup.ofReading, Makefile.parseOpened, LineSource.ofOpened, hfound]
  opening p cause := by
    rw [loadTargets_eq_iff]
    constructor
    · rintro ⟨⟩
      next present failed => exact ⟨present, failed, rfl⟩
    · rintro ⟨present, failed, rfl⟩
      exact .opening present cause failed
  reading p cause := by
    rw [loadTargets_eq_iff]
    constructor
    · rintro ⟨⟩
      next present events given failed => exact ⟨present, events, given, failed, rfl⟩
    · rintro ⟨present, events, given, failed, rfl⟩
      exact .reading present events given cause failed
  noTargets := by
    simp only [loadTargets_eq_iff, ← ReadEvent.targets_eq_nil_iff]
    constructor
    · rintro ⟨⟩
      next present events given read empty => exact ⟨present, events, given, read, empty⟩
    · rintro ⟨present, events, given, read, empty⟩
      exact .noTargets present events given read empty
  ok targets := by
    have hnonempty : ∀ events, (∃ line ∈ ReadEvent.lines events, ∃ target, IsHeaderOf target line) ↔
        ReadEvent.targets events ≠ [] := by
      intro events
      simp only [ne_eq, ReadEvent.targets_eq_nil_iff, not_forall, not_not, exists_prop]
    simp only [loadTargets_eq_iff, hnonempty]
    constructor
    · rintro ⟨⟩
      next present events given read nonempty =>
        exact ⟨present, events, given, read, nonempty, rfl⟩
    · rintro ⟨present, events, given, read, nonempty, rfl⟩
      exact .ok present events given read nonempty
  check_failed := by
    rintro cause rfl
    refine ⟨rfl, fun p hmissing => ?_⟩
    rw [loadTargets_eq_iff] at hmissing
    cases hmissing with
    | missing absent => cases absent

end TargetPicker
