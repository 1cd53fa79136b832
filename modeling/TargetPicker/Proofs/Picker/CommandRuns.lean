import Mathlib.Tactic.Common
import TargetPicker.Picker.Launcher
import TargetPicker.Proofs.Input.StreamLines
import TargetPicker.Proofs.Picker.RunHistory

/-!
# Commands and their output

What a command shows does not depend on how its output arrives.  The pipe may hand it out in any
chunks, with a character cut in two, and reads may be interrupted: it is read as a whole, and decoded
as a whole (`Launcher.runner_congr`).  Either all of it is shown or a failure is, never a part.

Whatever starts the commands, **the log of a session accounts for its runs** (`LogsRuns`): every
target that was run has one record when it is started and one when it is over.
-/

namespace TargetPicker

/-! ## Reading to the end -/

namespace ReadEvent

/-- **Reading to the end is all or nothing**: the first failure before the end, or else all bytes
before it. -/
theorem readAll_eq (events : List ReadEvent) :
    readAll events = match (events.takeWhile (· != endOfFile)).findSome? fatal? with
      | some cause => .error cause
      | none => .ok ((events.takeWhile (· != endOfFile)).flatMap content) := by
  induction events with
  | nil => rfl
  | cons e events ih =>
      cases e with
      | endOfFile => rfl
      | bytes first =>
          rw [readAll, ih, List.takeWhile_cons_of_pos (by simp), List.findSome?_cons]
          dsimp only [fatal?]
          cases (events.takeWhile (· != endOfFile)).findSome? fatal? <;> rfl
      | failure cause =>
          rw [readAll, ih, List.takeWhile_cons_of_pos (by simp), List.findSome?_cons]
          by_cases h : cause.kind = .interrupted
          · simp only [fatal?, h, if_true, List.flatMap_cons, content, List.nil_append]
          · simp only [fatal?, h, if_false]

/-- A content is read like its parts. -/
lemma readAll_join (e : ReadEvent) (events : List ReadEvent) :
    readAll (join e events) = readAll (e :: events) := by
  unfold join
  split
  · next first second rest =>
    simp only [readAll]
    cases readAll rest <;> simp [Except.map]
  · rfl

lemma readAll_cons_of_isSilent {e : ReadEvent} (h : e.isSilent = true) (events : List ReadEvent) :
    readAll (e :: events) = readAll events := by
  cases e with
  | endOfFile => cases h
  | bytes first =>
      obtain rfl : first = [] := by simpa [isSilent] using h
      rw [readAll]
      cases readAll events <;> rfl
  | failure cause => rw [readAll, if_pos (by simpa [isSilent] using h)]

/-- Only the event in front and what is read behind it count. -/
lemma readAll_cons_congr {events events' : List ReadEvent} (h : readAll events = readAll events')
    (e : ReadEvent) : readAll (e :: events) = readAll (e :: events') := by
  cases e with
  | endOfFile => rfl
  | bytes first => rw [readAll, readAll, h]
  | failure cause => rw [readAll, readAll, h]

/-- **Chunks do not show** in what is read. -/
theorem readAll_stream (events : List ReadEvent) : readAll (stream events) = readAll events := by
  induction events with
  | nil => rfl
  | cons e events ih =>
      cases hsilent : e.isSilent with
      | true => rw [stream_cons_of_isSilent hsilent, ih, readAll_cons_of_isSilent hsilent]
      | false =>
          calc readAll (stream (e :: events))
              = readAll (e :: stream events) := by rw [stream_cons_of_not hsilent, readAll_join]
            _ = readAll (e :: events) := readAll_cons_congr ih e

end ReadEvent

/-! ## One run -/

namespace Launcher

variable {World : Type}

/-- **What comes of a run**: the whole output of a process that ended, or a failure. -/
theorem runner_cases (launch : Launcher World) (command target : Text) (world : World) :
    (∃ child status output,
      (launch command target world).1 = .ok child ∧
      ReadEvent.readAll child.pipe = .ok output ∧ child.ending = .ok status ∧
      launch.runner command target world
        = ({ output := Text.decode output, log := [.exited command target status] },
          (launch command target world).2)) ∨
    ∃ cause : Failure,
      ((launch command target world).1 = .error cause ∨
        ∃ child, (launch command target world).1 = .ok child ∧
          (ReadEvent.readAll child.pipe = .error cause ∨ child.ending = .error cause)) ∧
      launch.runner command target world
        = ({ output := failureText command target cause.text
             log := [.notRun command target cause.text] }, (launch command target world).2) := by
  rcases hlaunch : launch command target world with ⟨started, world'⟩
  cases started with
  | error cause =>
      refine Or.inr ⟨cause, Or.inl rfl, ?_⟩
      simp only [runner, combinedOutput, hlaunch]
      rfl
  | ok child =>
      cases hread : ReadEvent.readAll child.pipe with
      | error cause =>
          refine Or.inr ⟨cause, Or.inr ⟨child, rfl, Or.inl hread⟩, ?_⟩
          simp only [runner, combinedOutput, hlaunch, hread, bind, Except.bind]
      | ok output =>
          cases hending : child.ending with
          | error cause =>
              refine Or.inr ⟨cause, Or.inr ⟨child, rfl, Or.inr hending⟩, ?_⟩
              simp only [runner, combinedOutput, hlaunch, hread, hending, bind, Except.bind]
          | ok status =>
              refine Or.inl ⟨child, status, output, rfl, hread, hending, ?_⟩
              simp only [runner, combinedOutput, hlaunch, hread, hending, bind, Except.bind]
              rfl

/-- **How the output arrives does not matter**: two processes with the same stream in their pipes,
which end alike, cannot be told apart. -/
theorem runner_congr {launch launch' : Launcher World} {command target : Text} {world after : World}
    {child child' : Child} (h : launch command target world = (.ok child, after))
    (h' : launch' command target world = (.ok child', after))
    (hpipe : ReadEvent.stream child.pipe = ReadEvent.stream child'.pipe)
    (hending : child.ending = child'.ending) :
    launch.runner command target world = launch'.runner command target world := by
  have hread : ReadEvent.readAll child.pipe = ReadEvent.readAll child'.pipe := by
    rw [← ReadEvent.readAll_stream, hpipe, ReadEvent.readAll_stream]
  simp only [runner, combinedOutput, h, h', bind, Except.bind, hread, hending]

end Launcher

/-! ## Whole sessions -/

/-- **A log of runs** of a command: every target with a record when it is started, and one when it is
over or has failed. -/
inductive LogsRuns (command : Text) : List Text → List Record → Prop where
  | nil : LogsRuns command [] []
  | exited {runs : List Text} {log : List Record} (h : LogsRuns command runs log)
      (target : Text) (status : ExitStatus) :
      LogsRuns command (runs ++ [target])
        (log ++ [.running target, .exited command target status])
  | failed {runs : List Text} {log : List Record} (h : LogsRuns command runs log)
      (target cause : Text) :
      LogsRuns command (runs ++ [target])
        (log ++ [.running target, .notRun command target cause])

namespace LogsRuns

variable {command : Text} {runs : List Text} {log : List Record}

/-- The INFO records are those of the runs, in order. -/
theorem filter_info (h : LogsRuns command runs log) :
    log.filter (fun record => record.level = .info) = runs.map .running := by
  induction h with
  | nil => rfl
  | exited h target status ih =>
      rw [List.filter_append, ih, List.map_append]
      rfl
  | failed h target cause ih =>
      rw [List.filter_append, ih, List.map_append]
      rfl

/-- A warning is about a target that was run. -/
theorem exists_of_warn (h : LogsRuns command runs log) {record : Record} (hmem : record ∈ log)
    (hwarn : record.level = .warn) :
    ∃ target ∈ runs, ∃ cause, record = .notRun command target cause := by
  induction h with
  | nil => cases hmem
  | exited h target status ih =>
      simp only [List.mem_append, List.mem_cons, List.not_mem_nil, or_false] at hmem
      rcases hmem with hmem | rfl | rfl
      · obtain ⟨t, ht, hrecord⟩ := ih hmem
        exact ⟨t, List.mem_append_left _ ht, hrecord⟩
      · cases hwarn
      · cases hwarn
  | failed h target cause ih =>
      simp only [List.mem_append, List.mem_cons, List.not_mem_nil, or_false] at hmem
      rcases hmem with hmem | rfl | rfl
      · obtain ⟨t, ht, hrecord⟩ := ih hmem
        exact ⟨t, List.mem_append_left _ ht, hrecord⟩
      · cases hwarn
      · exact ⟨target, by simp, cause, rfl⟩

end LogsRuns

namespace Session

variable {World : Type} {s : Session World}

/-- One key adds one run to both, or nothing. -/
lemma logsRuns_press (launch : Launcher World) {command : Text}
    (h : LogsRuns command s.runs s.log) (k : Key) :
    LogsRuns command (s.press (launch.runner command) k).runs
      (s.press (launch.runner command) k).log := by
  cases hran : ranTarget (s, k) with
  | false =>
      rw [press_of_not_ranTarget hran]
      exact h
  | true =>
      have honce : s.RunsOnce (launch.runner command) (s.press (launch.runner command) k)
          s.picker.selectedTarget := runsOnce_press hran
      obtain ⟨hruns, -, -, hlog, -⟩ := honce
      rw [hruns, hlog]
      rcases launch.runner_cases command s.picker.selectedTarget s.world with
        ⟨child, status, output, -, -, -, hrunner⟩ | ⟨cause, -, hrunner⟩ <;> rw [hrunner]
      · exact h.exited _ status
      · exact h.failed _ cause.text

/-- **The log of a session accounts for its runs**, whatever starts the commands. -/
theorem logsRuns_pressAll (launch : Launcher World) (command : Text) (choices : List Text)
    (world : World) (keys : List Key) :
    LogsRuns command ((start choices world).pressAll (launch.runner command) keys).runs
      ((start choices world).pressAll (launch.runner command) keys).log := by
  have hgoes : ∀ s : Session World, LogsRuns command s.runs s.log →
      LogsRuns command (s.pressAll (launch.runner command) keys).runs
        (s.pressAll (launch.runner command) keys).log := by
    induction keys with
    | nil => exact fun s h => h
    | cons k keys ih => exact fun s h => ih _ (logsRuns_press launch h k)
  exact hgoes _ .nil

end Session

end TargetPicker
