import TargetPicker.Input.ReadEvent
import TargetPicker.Text.Utf8
import TargetPicker.Text.Lines

/-!
# A source of numbered lines

A line source reads a reader line by line, decodes each line by itself and counts the attempts.
There are two ways to move on.

* `advance` always reads; it answers whether there was a line.
* `next` is the iterator: it gives the line, and once the end was met it reads nothing more.

A failed read does not end the source: the next attempt goes on with what the reader gives then.  It
leaves what it had collected of a line in a buffer, which the next attempt clears
(`advance_buffer`).
`items` lists everything that `next` gives before the end, lines and errors; each item uses up
something of the reader (`remaining_next_lt`), so the list is finite.
-/

namespace TargetPicker

/-- One line of input, counted from one. -/
structure Line where
  number : Nat
  text : Text
  deriving DecidableEq, Repr, Inhabited

/-- A line, or the error that came in its place. -/
abbrev LineItem := Except SourceError Line

/-- A reader with a name, the line read last and the count of attempts. -/
structure LineSource where
  /-- The name under which errors are reported. -/
  identifier : Text
  /-- What the reader will give. -/
  events : List ReadEvent
  /-- The bytes that the last attempt collected, without the end of the line. -/
  buffer : Bytes
  /-- The line read last; empty if the last attempt gave none. -/
  text : Text
  /-- Holds once an attempt met the end of the input. -/
  finished : Bool
  /-- The number of the next line: one more than the attempts made. -/
  lineNumber : Nat
  deriving Repr, Inhabited

namespace LineSource

/-- A source that has not been read yet. -/
def ofEvents (identifier : Text) (events : List ReadEvent) : LineSource :=
  { identifier, events, buffer := [], text := [], finished := false, lineNumber := 1 }

/-- The number of the line read last. -/
def currentLineNumber (s : LineSource) : Nat := s.lineNumber - 1

/-- The content of a line: its line feed goes, and then one carriage return before that.  A carriage
return without a line feed stays. -/
def lineContent (raw : Bytes) : Bytes :=
  if raw.getLast? == some ReadEvent.lineFeed then
    Text.dropLast? ReadEvent.carriageReturn raw.dropLast
  else raw

/-- The text of a line. -/
def lineText (raw : Bytes) : Text := Text.decode (lineContent raw)

/-- **Reads one line.**  Answers `true` for a line, `false` at the end of the input.  What an earlier
attempt left in the buffer is cleared before. -/
def advance (s : LineSource) : Except SourceError Bool × LineSource :=
  let s := { s with buffer := [], text := [], lineNumber := s.lineNumber + 1 }
  let (raw, events) := ReadEvent.readOnto s.buffer s.events
  let s := { s with events }
  match raw with
  | .bytes content =>
    (.ok true, { s with buffer := lineContent content, text := lineText content })
  | .finished => (.ok false, { s with finished := true })
  | .failed cause kept => (.error (.reading s.identifier cause), { s with buffer := kept })

/-- **What an attempt does**, for each thing that reading a line with nothing collected can give. -/
theorem advance_eq (s : LineSource) :
    s.advance = match ReadEvent.readRaw s.events with
      | (.bytes content, events) =>
        (.ok true, { s with
          events
          buffer := lineContent content
          text := lineText content
          lineNumber := s.lineNumber + 1 })
      | (.finished, events) =>
        (.ok false, { s with
          events
          buffer := []
          text := []
          finished := true
          lineNumber := s.lineNumber + 1 })
      | (.failed cause kept, events) =>
        (.error (.reading s.identifier cause), { s with
          events
          buffer := kept
          text := []
          lineNumber := s.lineNumber + 1 }) := by
  rw [advance, ReadEvent.readRaw]
  rcases ReadEvent.readOnto [] s.events with ⟨_ | _ | _, events⟩ <;> rfl

/-- **An attempt does not depend on what an earlier one left behind.** -/
theorem advance_buffer (s : LineSource) (buffer : Bytes) :
    { s with buffer }.advance = s.advance := by
  rfl

/-- **The next line or error.**  Nothing once the end was met, and then nothing is read either. -/
def next (s : LineSource) : Option LineItem × LineSource :=
  if s.finished then (none, s)
  else match s.advance with
    | (.ok true, s) => (some (.ok ⟨s.currentLineNumber, s.text⟩), s)
    | (.ok false, s) => (none, s)
    | (.error e, s) => (some (.error e), s)

/-- How much the reader can still give. -/
def remaining (s : LineSource) : Nat := ReadEvent.totalSize s.events

theorem remaining_next_lt {s s' : LineSource} {item : LineItem} (h : s.next = (some item, s')) :
    s'.remaining < s.remaining := by
  have used := @ReadEvent.totalSize_readRaw_lt s.events
  simp only [next, advance_eq] at h
  rcases hr : ReadEvent.readRaw s.events with ⟨raw, events⟩
  rw [hr] at h used
  cases raw with
  | finished => split at h <;> simp at h
  | bytes content =>
    split at h
    · simp at h
    · rw [← (Prod.mk.inj h).2]
      exact used (by simp)
  | failed cause kept =>
    split at h
    · simp at h
    · rw [← (Prod.mk.inj h).2]
      exact used (by simp)

/-- `itemsOnto back s` is `s.items` after the items of `back`, which stand in reverse. -/
def itemsOnto (back : List LineItem) (s : LineSource) : List LineItem :=
  match h : s.next with
  | (none, _) => back.reverse
  | (some item, s') =>
    have := remaining_next_lt h
    itemsOnto (item :: back) s'
termination_by s.remaining

/-- **All lines and errors up to the end of the input.** -/
def items (s : LineSource) : List LineItem := itemsOnto [] s

theorem itemsOnto_eq (back : List LineItem) (s : LineSource) :
    itemsOnto back s = back.reverse ++ s.items := by
  induction hn : s.remaining using Nat.strongRecOn generalizing back s with
  | ind n ih =>
    rw [items, itemsOnto, itemsOnto]
    split
    · simp
    · next item s' h =>
      have hlt : s'.remaining < n := hn ▸ remaining_next_lt h
      rw [ih _ hlt (item :: back) s' rfl, ih _ hlt [item] s' rfl]
      simp

theorem items_of_next_none {s s' : LineSource} (h : s.next = (none, s')) : s.items = [] := by
  rw [items, itemsOnto]
  split <;> simp_all

theorem items_of_next_some {s s' : LineSource} {item : LineItem}
    (h : s.next = (some item, s')) : s.items = item :: s'.items := by
  rw [items, itemsOnto]
  split
  · simp_all
  · next item₁ s₁ h₁ =>
    rw [h] at h₁
    cases h₁
    exact itemsOnto_eq [item] s'

/-- The lines up to the end of the input or the first error, and that error. -/
def untilFailure (s : LineSource) : List Line × Option SourceError :=
  let good := s.items.takeWhile fun item => item.toBool
  (good.filterMap fun item => item.toOption,
    s.items.findSome? fun | .error e => some e | .ok _ => none)

end LineSource

end TargetPicker
