import Mathlib.Tactic.Common
import TargetPicker.Proofs.Input.Chunks
import TargetPicker.Proofs.Makefile.ReadFailure

/-!
# The lines of a stream

A stream without a failure holds contents: its bytes up to the end, cut where a read without bytes
ends a line.  **Its lines are the lines of its contents** (`LineSource.linesOf_eq_lines`), numbered
consecutively over all of them.

The first content is read like a content of its own, since chunks and interrupted reads do not show
(`stream_eq_bytes`).  What ends it is a read without bytes.  Inside a line reading goes on with the
next content, and at the start of a line that was all (`itemsFrom_append_end`).
-/

namespace TargetPicker

open StreamPlace (lineStart)

/-! ## Events before the end -/

namespace StreamPlace

/-- Only a read without bytes leads to the end. -/
lemma step_ne_ended {p : StreamPlace} (hp : p ≠ ended) {e : ReadEvent} (he : e ≠ .endOfFile) :
    p.step e ≠ ended := by
  cases e with
  | bytes content =>
      rw [step_bytes hp]
      split_ifs <;> simp [hp]
  | endOfFile => exact absurd rfl he
  | failure cause =>
      rw [step_failure hp]
      split_ifs <;> simp [hp]

lemma after_ne_ended {p : StreamPlace} (hp : p ≠ ended) {events : List ReadEvent}
    (h : .endOfFile ∉ events) : p.after events ≠ ended := by
  induction events generalizing p with
  | nil => exact hp
  | cons e events ih =>
      rw [List.mem_cons, not_or] at h
      exact ih (step_ne_ended hp (Ne.symm h.1)) h.2

/-- Events that do not lead to the end all stand before it. -/
lemma untilEnd_append {p : StreamPlace} {events : List ReadEvent} (h : p.after events ≠ ended)
    (more : List ReadEvent) :
    p.untilEnd (events ++ more) = events ++ (p.after events).untilEnd more := by
  induction events generalizing p with
  | nil => rfl
  | cons e events ih =>
      have hstep : p.step e ≠ ended := by
        intro hended
        rw [after_cons, hended, after_ended] at h
        exact h rfl
      rw [List.cons_append, untilEnd, if_neg hstep, ih h]
      rfl

end StreamPlace

/-! ## Contents -/

namespace ReadEvent

/-- The bytes that an event gives. -/
def content : ReadEvent → Bytes
  | bytes content => content
  | _ => []

/-- **The contents of a stream**: its bytes up to the end, cut where a read without bytes ends a
line. -/
def contents (events : List ReadEvent) : List Bytes :=
  ((lineStart.untilEnd events).splitOn endOfFile).map fun piece => piece.flatMap content

/-- **The lines of a stream** are those of its contents. -/
def lines (events : List ReadEvent) : List Text := (contents events).flatMap Bytes.lines

variable {events : List ReadEvent}

lemma untilEnd_of_not_mem (h : endOfFile ∉ events) : lineStart.untilEnd events = events := by
  have huntil := StreamPlace.untilEnd_append
    (StreamPlace.after_ne_ended (p := lineStart) (by simp) h) []
  simpa [StreamPlace.untilEnd] using huntil

lemma lines_of_not_mem (h : endOfFile ∉ events) :
    lines events = Bytes.lines (events.flatMap content) := by
  rw [lines, contents, untilEnd_of_not_mem h, List.splitOn_eq_singleton h, List.map_singleton,
    List.flatMap_singleton]

/-- A read without bytes at the start of a line is the end. -/
lemma lines_append_end (h : endOfFile ∉ events) (hstart : lineStart.after events = .lineStart)
    (more : List ReadEvent) :
    lines (events ++ endOfFile :: more) = lines events := by
  have huntil : lineStart.untilEnd (endOfFile :: more) = [] := rfl
  rw [lines, lines, contents, contents, StreamPlace.untilEnd_append (by simp [hstart]), hstart,
    huntil, List.append_nil, untilEnd_of_not_mem h]

/-- Inside a line it ends that line, and the next content starts there. -/
lemma lines_append_endOfFile (h : endOfFile ∉ events)
    (hinside : lineStart.after events = .insideLine) (more : List ReadEvent) :
    lines (events ++ endOfFile :: more) = lines events ++ lines more := by
  have huntil : StreamPlace.insideLine.untilEnd (endOfFile :: more)
      = endOfFile :: lineStart.untilEnd more := rfl
  rw [lines_of_not_mem h, lines, contents, StreamPlace.untilEnd_append (by simp [hinside]), hinside,
    huntil, List.splitOn_append_cons_self_of_not_mem h, List.map_cons, List.flatMap_cons]
  rfl

/-- The lines of one content are those of its bytes. -/
@[simp] lemma lines_bytes (content : Bytes) : lines [bytes content] = Bytes.lines content := by
  rw [lines_of_not_mem (by simp)]
  simp [ReadEvent.content]

/-- **Without a failure and without an end**, events amount to their bytes. -/
lemma stream_eq_bytes (h : endOfFile ∉ events) (hfailure : lineStart.firstFailure? events = none) :
    stream events = stream [bytes (events.flatMap content)] := by
  rw [StreamPlace.firstFailure?, untilEnd_of_not_mem h, List.findSome?_eq_none_iff] at hfailure
  induction events with
  | nil => rfl
  | cons e events ih =>
      rw [List.mem_cons, not_or] at h
      rw [List.forall_mem_cons] at hfailure
      have hrest := ih h.2 hfailure.2
      cases e with
      | bytes content =>
          exact (stream_cons_congr hrest _).trans (stream_bytes_append content _ []).symm
      | endOfFile => exact absurd rfl h.1
      | failure cause =>
          have hsilent : (failure cause).isSilent = true := by
            simpa [fatal?, isSilent] using hfailure.1
          rw [stream_cons_of_isSilent hsilent, hrest]
          rfl

end ReadEvent

/-! ## Reading -/

namespace LineSource

variable {identifier : Text} {n : ℕ} {events : List ReadEvent}

/-- **At the start of a line a read without bytes is the end**, as the end of the events is. -/
lemma itemsFrom_append_end (hstart : lineStart.after events = .lineStart)
    (more : List ReadEvent) :
    itemsFrom identifier n (events ++ .endOfFile :: more) = itemsFrom identifier n events := by
  induction events using ReadEvent.appendInduction generalizing n with
  | runsOut events hplace hread =>
      have hpending : ReadEvent.pending events = [] := by
        by_contra hne
        rw [StreamPlace.holding_of_ne_nil hne, hstart] at hplace
        cases hplace
      rw [hpending] at hread
      rw [itemsFrom_finished (hread _), itemsFrom_finished (ReadEvent.readRaw_of_runsOut hread)]
  | ended events rest hplace => cases hplace.symm.trans hstart
  | line events raw rest hplace hread ih =>
      rw [itemsFrom_line (hread.readRaw_append _), itemsFrom_line hread.readRaw_eq, ih (hplace.symm.trans hstart)]
  | failed events cause kept rest hplace hread ih =>
      rw [itemsFrom_failed (hread.readRaw_append _), itemsFrom_failed hread.readRaw_eq,
        ih (hplace.symm.trans hstart)]

/-- Without a failure and without an end, events are read as their bytes. -/
lemma itemsFrom_of_not_mem (h : .endOfFile ∉ events)
    (hfailure : lineStart.firstFailure? events = none) :
    itemsFrom identifier n events = (Line.numberedFrom n (ReadEvent.lines events)).map .ok := by
  have halike : Alike
      { identifier, events, buffer := [], text := [], finished := false, lineNumber := n }
      { identifier
        events := [.bytes (events.flatMap ReadEvent.content)]
        buffer := []
        text := []
        finished := false
        lineNumber := n } :=
    ⟨rfl, ReadEvent.stream_eq_bytes h hfailure, rfl, rfl, rfl⟩
  rw [ReadEvent.lines_of_not_mem h]
  exact halike.items.trans (items_of_events_eq_bytes _ rfl rfl)

/-- **A stream without a failure delivers its lines.** -/
theorem itemsFrom_eq_lines (h : lineStart.firstFailure? events = none) :
    itemsFrom identifier n events = (Line.numberedFrom n (ReadEvent.lines events)).map .ok := by
  induction hn : events.length using Nat.strongRecOn generalizing n events with
  | ind k ih =>
      by_cases hmem : .endOfFile ∈ events
      · obtain ⟨first, more, rfl, hfirst⟩ := List.eq_append_cons_of_mem hmem
        have hplace := StreamPlace.after_ne_ended (p := lineStart) (by simp) hfirst
        rw [StreamPlace.firstFailure?_append hplace, Option.or_eq_none_iff] at h
        have hitems : itemsFrom identifier n first
            = (Line.numberedFrom n (ReadEvent.lines first)).map .ok :=
          itemsFrom_of_not_mem hfirst h.1
        cases hafter : lineStart.after first with
        | lineStart =>
            rw [itemsFrom_append_end hafter, ReadEvent.lines_append_end hfirst hafter, hitems]
        | insideLine =>
            have hmore : lineStart.firstFailure? more = none := by
              rw [hafter] at h
              exact h.2
            have hlength : more.length < k := by
              rw [← hn, List.length_append, List.length_cons]
              omega
            rw [itemsFrom_append_endOfFile hafter, ReadEvent.lines_append_endOfFile hfirst hafter,
              hitems, ih more.length hlength hmore rfl, List.length_map, Line.length_numberedFrom,
              Line.numberedFrom_append, List.map_append]
        | ended => exact absurd hafter hplace
      · exact itemsFrom_of_not_mem hmem h

/-- The lines that a source delivers are the lines of the stream. -/
theorem linesOf_eq_lines (h : lineStart.firstFailure? events = none) :
    linesOf identifier events = Line.numberedFrom 1 (ReadEvent.lines events) := by
  have hitems : (ofEvents identifier events).items
      = (Line.numberedFrom 1 (ReadEvent.lines events)).map .ok := itemsFrom_eq_lines h
  rw [linesOf, untilFailure_of_items hitems]

end LineSource

/-- **A makefile that is read** is the makefile of the lines of its stream. -/
theorem Makefile.parse_eq_ok_iff {identifier : Text} {events : List ReadEvent} {m : Makefile} :
    (parse identifier events).result = .ok m ↔ lineStart.firstFailure? events = none ∧
      m = ofLines identifier (Line.numberedFrom 1 (ReadEvent.lines events)) := by
  rw [parse_result]
  cases hfailure : lineStart.firstFailure? events with
  | some cause => simp
  | none =>
      rw [LineSource.linesOf_eq_lines hfailure]
      simp [eq_comm]

end TargetPicker
