import Mathlib.Tactic.Common
import TargetPicker.Proofs.Input.ContentLines

/-!
# Streams of read events

What a reader gives is a list of events, and an attempt to read a line may stop in the middle of
one of them.  This file says what whole lists of events amount to, without reading them.

`StreamPlace` is where a list of events leads: to the start of a line, into a line, or to the end of
the stream.  The end is a read without bytes at the start of a line; inside a line such a read only
ends that line.  `firstFailure?` is the first failure before that end, and `pending` are the bytes
of the line in which the events end.

The bridge to reading is a single attempt.

* `readOnto_cases` — an attempt either uses up all events and is still inside its line, or it
  settles, and then it does not depend on the events behind the ones it took.
* `firstFailure?_readOnto` — an attempt meets the first failure or leaves it for the next ones.
* `readInduction` and `appendInduction` are the inductions over attempts, and `itemsFrom` is what
  all attempts deliver.
-/

namespace TargetPicker

open ReadEvent (lineFeed readRaw readOnto leftOver)

/-- The failure that ends an attempt to read a line; an interrupted read is taken again. -/
def ReadEvent.fatal? : ReadEvent → Option Failure
  | failure cause => if cause.kind = .interrupted then none else some cause
  | _ => none

/-! ## Places -/

/-- A place in a stream, between two events. -/
inductive StreamPlace where
  | lineStart
  /-- Behind some bytes of a line that has not ended. -/
  | insideLine
  /-- Behind a read without bytes that was taken at the start of a line. -/
  | ended
  deriving DecidableEq, Repr

namespace StreamPlace

/-- Where one event leads.  Nothing leads on from the end, and a failure gives up the line. -/
def step : StreamPlace → ReadEvent → StreamPlace
  | ended, _ => ended
  | p, .bytes content =>
    if content = [] then p
    else if content.getLast? = some lineFeed then lineStart else insideLine
  | lineStart, .endOfFile => ended
  | insideLine, .endOfFile => lineStart
  | p, .failure cause => if cause.kind = .interrupted then p else lineStart

/-- Where a list of events leads. -/
def after (p : StreamPlace) (events : List ReadEvent) : StreamPlace := events.foldl step p

/-- The events before the end of the stream. -/
def untilEnd (p : StreamPlace) : List ReadEvent → List ReadEvent
  | [] => []
  | e :: rest => if p.step e = ended then [] else e :: (p.step e).untilEnd rest

/-- **The first failure** before the end of the stream. -/
def firstFailure? (p : StreamPlace) (events : List ReadEvent) : Option Failure :=
  (p.untilEnd events).findSome? ReadEvent.fatal?

/-- The place of an attempt that has collected some bytes. -/
def holding (collected : Bytes) : StreamPlace := if collected = [] then lineStart else insideLine

@[simp] lemma after_cons (p : StreamPlace) (e : ReadEvent) (events : List ReadEvent) :
    p.after (e :: events) = (p.step e).after events := rfl

@[simp] lemma after_ended (events : List ReadEvent) : ended.after events = ended := by
  induction events with
  | nil => rfl
  | cons e events ih => exact ih

lemma firstFailure?_cons (p : StreamPlace) (e : ReadEvent) (events : List ReadEvent) :
    p.firstFailure? (e :: events)
      = if p.step e = ended then none
        else (e.fatal?).or ((p.step e).firstFailure? events) := by
  rw [firstFailure?, untilEnd]
  split
  · rfl
  · rw [List.findSome?_cons]
    cases e.fatal? <;> rfl

/-- Before the end of the stream the failures of two lists of events follow each other. -/
lemma firstFailure?_append {p : StreamPlace} {events : List ReadEvent}
    (h : p.after events ≠ ended) (more : List ReadEvent) :
    p.firstFailure? (events ++ more)
      = (p.firstFailure? events).or ((p.after events).firstFailure? more) := by
  induction events generalizing p with
  | nil => rfl
  | cons e events ih =>
      have hstep : p.step e ≠ ended := by
        intro hended
        rw [after_cons, hended, after_ended] at h
        exact h rfl
      rw [List.cons_append, firstFailure?_cons, firstFailure?_cons, if_neg hstep, if_neg hstep,
        ih h, Option.or_assoc]
      rfl

@[simp] lemma holding_nil : holding [] = lineStart := rfl

lemma holding_of_ne_nil {collected : Bytes} (h : collected ≠ []) :
    holding collected = insideLine := if_neg h

lemma holding_ne_ended (collected : Bytes) : holding collected ≠ ended := by
  unfold holding
  split <;> simp

variable {p : StreamPlace}

lemma step_bytes (hp : p ≠ ended) (content : Bytes) :
    p.step (.bytes content)
      = if content = [] then p
        else if content.getLast? = some lineFeed then lineStart else insideLine := by
  cases p with
  | ended => exact absurd rfl hp
  | lineStart => rfl
  | insideLine => rfl

lemma step_failure (hp : p ≠ ended) (cause : Failure) :
    p.step (.failure cause) = if cause.kind = .interrupted then p else lineStart := by
  cases p with
  | ended => exact absurd rfl hp
  | lineStart => rfl
  | insideLine => rfl

/-- Bytes without a line feed are collected. -/
lemma step_holding {collected content : Bytes} (h : lineFeed ∉ content) :
    (holding collected).step (.bytes content) = holding (collected ++ content) := by
  rw [step_bytes (holding_ne_ended collected)]
  rcases eq_or_ne content [] with rfl | hne
  · rw [if_pos rfl, List.append_nil]
  · have hlast : content.getLast? ≠ some lineFeed := fun hlast => h (List.mem_of_getLast? hlast)
    rw [if_neg hne, if_neg hlast, holding_of_ne_nil (List.append_ne_nil_of_right_ne_nil _ hne)]

/-- A line feed inside a content leads to the start of the next line. -/
lemma step_line (hp : p ≠ ended) (start rest : Bytes) :
    p.step (.bytes (start ++ lineFeed :: rest)) = lineStart.step (.bytes rest) := by
  rw [step_bytes hp, step_bytes (by simp), if_neg (by simp), List.getLast?_append]
  rcases eq_or_ne rest [] with rfl | hne
  · rfl
  · rw [if_neg hne, List.getLast?_cons_of_ne_nil hne, List.getLast?_eq_some_getLast hne,
      Option.some_or]

end StreamPlace

open StreamPlace

/-! ## One attempt -/

namespace ReadEvent

/-- What `readOnto` finds where it looks for a line feed. -/
lemma eq_append_of_dropWhile {content after : Bytes} {first : UInt8}
    (h : content.dropWhile (· != lineFeed) = first :: after) :
    content = content.takeWhile (· != lineFeed) ++ lineFeed :: after := by
  have hfirst : first = lineFeed := by
    have hhead := List.head?_dropWhile_not (· != lineFeed) content
    rw [h] at hhead
    simpa using hhead
  calc content
      = content.takeWhile (· != lineFeed) ++ content.dropWhile (· != lineFeed) :=
        List.takeWhile_append_dropWhile.symm
    _ = content.takeWhile (· != lineFeed) ++ lineFeed :: after := by rw [h, hfirst]

lemma lineFeed_not_mem_of_dropWhile {content : Bytes}
    (h : content.dropWhile (· != lineFeed) = []) : lineFeed ∉ content := by
  intro hmem
  simpa using List.dropWhile_eq_nil_iff.mp h _ hmem

lemma leftOver_of_ne_nil {collected : Bytes} (h : collected ≠ []) :
    leftOver collected = .bytes collected := by
  rw [leftOver, if_neg (by simpa using h)]

/-- The bytes of an incomplete line behind one more event. -/
def keep (collected : Bytes) : ReadEvent → Bytes
  | bytes content =>
    content.foldl (fun line b => if b = lineFeed then [] else line ++ [b]) collected
  | endOfFile => []
  | failure cause => if cause.kind = .interrupted then collected else []

/-- **The incomplete line** that events leave: the bytes behind the last line feed, the last failure
and the last read without bytes. -/
def pending (events : List ReadEvent) : Bytes := events.foldl keep []

lemma keep_of_not_mem {content : Bytes} (h : lineFeed ∉ content) (collected : Bytes) :
    keep collected (bytes content) = collected ++ content := by
  induction content generalizing collected with
  | nil => exact (List.append_nil collected).symm
  | cons b content ih =>
      rw [List.mem_cons, not_or] at h
      have hrest := ih h.2 (collected ++ [b])
      rw [List.append_assoc] at hrest
      rw [keep, List.foldl_cons, if_neg (Ne.symm h.1)]
      exact hrest

/-- What is in front of a line feed is not kept. -/
lemma keep_line (collected start after : Bytes) :
    keep collected (bytes (start ++ lineFeed :: after)) = keep [] (bytes after) := by
  rw [keep, List.foldl_append, List.foldl_cons, if_pos rfl, keep]

/-- An attempt at the start of a line settles if it comes to the same whatever events are behind,
and leaves all that the events leave incomplete. -/
structure Settles (events : List ReadEvent) (raw : RawLine) (rest : List ReadEvent) : Prop where
  readRaw_append : ∀ more, readRaw (events ++ more) = (raw, rest ++ more)
  pending_eq : pending events = pending rest

lemma Settles.readRaw_eq {events rest : List ReadEvent} {raw : RawLine}
    (h : Settles events raw rest) : readRaw events = (raw, rest) := by
  simpa using h.readRaw_append []

/-- **An attempt** uses up all events and is still inside its line, or it settles, and then nothing
depends on the events behind. -/
theorem readOnto_cases (collected : Bytes) (events : List ReadEvent) :
    ((holding collected).after events = .holding (events.foldl keep collected) ∧
      ∀ more, readOnto collected (events ++ more)
        = readOnto (events.foldl keep collected) more) ∨
    ∃ raw rest, (holding collected).after events
        = (if raw = .finished then .ended else lineStart.after rest) ∧
      events.foldl keep collected = pending rest ∧
      ∀ more, readOnto collected (events ++ more) = (raw, rest ++ more) := by
  fun_induction readOnto collected events with
  | case1 collected => exact Or.inl ⟨rfl, fun more => rfl⟩
  | case2 collected rest =>
      refine Or.inr ⟨leftOver collected, rest, ?_, rfl, fun more => rfl⟩
      rcases eq_or_ne collected [] with rfl | hne
      · exact after_ended rest
      · rw [after_cons, holding_of_ne_nil hne, leftOver_of_ne_nil hne]
        rfl
  | case3 collected cause rest hkind ih =>
      have hstep : (holding collected).step (failure cause) = .holding collected := by
        rw [step_failure (holding_ne_ended collected), if_pos hkind]
      have hread : ∀ more, readOnto collected (failure cause :: rest ++ more)
          = readOnto collected (rest ++ more) := by
        intro more
        rw [List.cons_append, readOnto, if_pos hkind]
      have hkeep : keep collected (failure cause) = collected := if_pos hkind
      simp only [after_cons, hstep, hread, List.foldl_cons, hkeep]
      exact ih
  | case4 collected cause rest hkind =>
      have hkeep : keep collected (failure cause) = [] := if_neg hkind
      refine Or.inr ⟨.failed cause collected, rest, ?_, ?_, fun more => ?_⟩
      · rw [after_cons, step_failure (holding_ne_ended collected), if_neg hkind]
        rfl
      · rw [List.foldl_cons, hkeep, pending]
      · rw [List.cons_append, readOnto, if_neg hkind]
  | case5 collected content rest hdrop ih =>
      have hstep : (holding collected).step (bytes content) = .holding (collected ++ content) :=
        step_holding (lineFeed_not_mem_of_dropWhile hdrop)
      have hread : ∀ more, readOnto collected (bytes content :: rest ++ more)
          = readOnto (collected ++ content) (rest ++ more) := by
        intro more
        rw [List.cons_append, readOnto, hdrop]
      simp only [after_cons, hstep, hread, List.foldl_cons,
        keep_of_not_mem (lineFeed_not_mem_of_dropWhile hdrop)]
      exact ih
  | case6 collected content rest first after hdrop =>
      refine Or.inr ⟨.bytes (collected ++ content.takeWhile (· != lineFeed) ++ [lineFeed]),
        bytes after :: rest, ?_, ?_, fun more => ?_⟩
      · rw [after_cons, eq_append_of_dropWhile hdrop,
          step_line (holding_ne_ended collected)]
        rfl
      · rw [List.foldl_cons, eq_append_of_dropWhile hdrop, keep_line, pending, List.foldl_cons]
      · rw [List.cons_append, readOnto, hdrop]
        rfl

/-- Events that run out inside an attempt leave what was collected. -/
lemma readRaw_of_runsOut {events : List ReadEvent} {collected : Bytes}
    (h : ∀ more, readRaw (events ++ more) = readOnto collected more) :
    readRaw events = (leftOver collected, []) := by
  have hnone := h []
  rwa [List.append_nil, readOnto] at hnone

/-- **The first failure** is met by the attempt, or is left for the next ones. -/
theorem firstFailure?_readOnto (collected : Bytes) (events : List ReadEvent) :
    (holding collected).firstFailure? events
      = match readOnto collected events with
        | (.bytes _, rest) => lineStart.firstFailure? rest
        | (.finished, _) => none
        | (.failed cause _, _) => some cause := by
  fun_induction readOnto collected events with
  | case1 collected =>
      rcases eq_or_ne collected [] with rfl | hne
      · rfl
      · rw [leftOver_of_ne_nil hne]
        rfl
  | case2 collected rest =>
      rcases eq_or_ne collected [] with rfl | hne
      · rfl
      · rw [holding_of_ne_nil hne, leftOver_of_ne_nil hne]
        rfl
  | case3 collected cause rest hkind ih =>
      rw [firstFailure?_cons, step_failure (holding_ne_ended collected),
        if_pos hkind, if_neg (holding_ne_ended collected), fatal?, if_pos hkind, Option.none_or]
      exact ih
  | case4 collected cause rest hkind =>
      rw [firstFailure?_cons, step_failure (holding_ne_ended collected),
        if_neg hkind, if_neg (by simp), fatal?, if_neg hkind, Option.some_or]
  | case5 collected content rest hdrop ih =>
      rw [firstFailure?_cons, step_holding (lineFeed_not_mem_of_dropWhile hdrop),
        if_neg (holding_ne_ended _)]
      exact ih
  | case6 collected content rest first after hdrop =>
      dsimp only
      rw [firstFailure?_cons, firstFailure?_cons, eq_append_of_dropWhile hdrop,
        step_line (holding_ne_ended collected)]
      rfl

/-- **Induction over attempts.** -/
@[elab_as_elim]
theorem readInduction {motive : List ReadEvent → Prop}
    (finished : ∀ events rest, readRaw events = (.finished, rest) → motive events)
    (line : ∀ events raw rest, readRaw events = (.bytes raw, rest) → motive rest → motive events)
    (failed : ∀ events cause kept rest, readRaw events = (.failed cause kept, rest) → motive rest →
      motive events)
    (events : List ReadEvent) : motive events := by
  induction hn : totalSize events using Nat.strongRecOn generalizing events with
  | ind n ih =>
      have hused := @totalSize_readRaw_lt events
      rcases hread : readRaw events with ⟨raw | _ | ⟨cause, kept⟩, rest⟩ <;> rw [hread] at hused
      · exact line events raw rest hread (ih _ (hn ▸ hused (by simp)) rest rfl)
      · exact finished events rest hread
      · exact failed events cause kept rest hread (ih _ (hn ▸ hused (by simp)) rest rfl)

/-- **Induction over attempts, with events behind them.**  Each case says what one attempt does
whatever follows the events. -/
@[elab_as_elim]
theorem appendInduction {motive : List ReadEvent → Prop}
    (runsOut : ∀ events, lineStart.after events = .holding (pending events) →
      (∀ more, readRaw (events ++ more) = readOnto (pending events) more) → motive events)
    (ended : ∀ events rest, lineStart.after events = .ended → Settles events .finished rest →
      motive events)
    (line : ∀ events raw rest, lineStart.after events = lineStart.after rest →
      Settles events (.bytes raw) rest → motive rest → motive events)
    (failed : ∀ events cause kept rest, lineStart.after events = lineStart.after rest →
      Settles events (.failed cause kept) rest → motive rest → motive events)
    (events : List ReadEvent) : motive events := by
  induction hn : totalSize events using Nat.strongRecOn generalizing events with
  | ind n ih =>
      rcases readOnto_cases [] events with
        ⟨hplace, hread⟩ | ⟨raw, rest, hplace, hpending, hread⟩
      · exact runsOut events hplace hread
      · have hsettles : Settles events raw rest := ⟨hread, hpending⟩
        have hsmaller : raw ≠ .finished → totalSize rest < n := by
          intro hraw
          have hused := @totalSize_readRaw_lt events
          rw [hsettles.readRaw_eq] at hused
          exact hn ▸ hused hraw
        cases raw with
        | bytes raw =>
            exact line events raw rest hplace hsettles (ih _ (hsmaller (by simp)) rest rfl)
        | finished => exact ended events rest hplace hsettles
        | failed cause kept =>
            exact failed events cause kept rest hplace hsettles (ih _ (hsmaller (by simp)) rest rfl)

/-! ## Bytes -/

/-- How many bytes the events give. -/
def contentLength (events : List ReadEvent) : ℕ :=
  (events.map fun | bytes content => content.length | _ => 0).sum

@[simp] lemma contentLength_bytes (content : Bytes) (events : List ReadEvent) :
    contentLength (bytes content :: events) = content.length + contentLength events := by
  simp [contentLength]

@[simp] lemma contentLength_endOfFile (events : List ReadEvent) :
    contentLength (endOfFile :: events) = contentLength events := by
  simp [contentLength]

@[simp] lemma contentLength_failure (cause : Failure) (events : List ReadEvent) :
    contentLength (failure cause :: events) = contentLength events := by
  simp [contentLength]

/-- A line holds the bytes that are taken for it, and a failure loses some. -/
theorem contentLength_readOnto (collected : Bytes) (events : List ReadEvent) :
    match readOnto collected events with
    | (.bytes raw, rest) => 0 < raw.length ∧
        raw.length + contentLength rest = collected.length + contentLength events
    | (_, rest) => contentLength rest ≤ contentLength events := by
  fun_induction readOnto collected events with
  | case1 collected =>
      rcases eq_or_ne collected [] with rfl | hne
      · exact Nat.le_refl _
      · rw [leftOver_of_ne_nil hne]
        exact ⟨List.length_pos_iff.mpr hne, rfl⟩
  | case2 collected rest =>
      rcases eq_or_ne collected [] with rfl | hne
      · simp [leftOver]
      · rw [leftOver_of_ne_nil hne, contentLength_endOfFile]
        exact ⟨List.length_pos_iff.mpr hne, rfl⟩
  | case3 collected cause rest hkind ih =>
      rw [contentLength_failure]
      exact ih
  | case4 collected cause rest hkind => simp
  | case5 collected content rest hdrop ih =>
      rw [List.length_append, Nat.add_assoc, ← contentLength_bytes] at ih
      split at ih
      · exact ih
      · rw [contentLength_bytes]
        exact ih.trans (Nat.le_add_left _ _)
  | case6 collected content rest first after hdrop =>
      have hlength := congrArg List.length (eq_append_of_dropWhile hdrop)
      simp only [List.length_append, List.length_cons] at hlength
      simp only [contentLength_bytes, List.length_append, List.length_singleton]
      omega

end ReadEvent

/-! ## What a source delivers -/

namespace LineSource

variable {identifier : Text} {n : ℕ} {events rest : List ReadEvent}

/-- The lines and errors of a reader, with line numbers from `n` on. -/
def itemsFrom (identifier : Text) (n : ℕ) (events : List ReadEvent) : List LineItem :=
  items { identifier, events, buffer := [], text := [], finished := false, lineNumber := n }

/-- One step over a failure. -/
lemma next_of_failed {s : LineSource} {cause : Failure} {kept : Bytes} (hs : s.finished = false)
    (h : readRaw s.events = (.failed cause kept, events)) :
    s.next = (some (.error (.reading s.identifier cause)),
      { s with events, buffer := kept, text := [], lineNumber := s.lineNumber + 1 }) := by
  simp [next, advance_eq, hs, h]

lemma items_congr {s t : LineSource} (h : s.next = t.next) : s.items = t.items := by
  rcases hs : s.next with ⟨_ | item, s'⟩
  · rw [items_of_next_none hs, items_of_next_none (h.symm.trans hs)]
  · rw [items_of_next_some hs, items_of_next_some (h.symm.trans hs)]

/-- What an earlier attempt left behind makes no difference to what is delivered. -/
lemma items_eq_itemsFrom {s : LineSource} (hs : s.finished = false) :
    s.items = itemsFrom s.identifier s.lineNumber s.events := by
  obtain ⟨identifier, events, buffer, text, finished, n⟩ := s
  obtain rfl : finished = false := hs
  exact items_congr rfl

lemma itemsFrom_finished (h : readRaw events = (.finished, rest)) :
    itemsFrom identifier n events = [] :=
  items_of_finished rfl h

@[simp] lemma itemsFrom_nil : itemsFrom identifier n [] = [] :=
  itemsFrom_finished (show readRaw [] = (.finished, []) from rfl)

lemma itemsFrom_line {raw : Bytes} (h : readRaw events = (.bytes raw, rest)) :
    itemsFrom identifier n events
      = .ok ⟨n, lineText raw⟩ :: itemsFrom identifier (n + 1) rest := by
  rw [itemsFrom, items_of_next_some (next_of_bytes rfl h), items_eq_itemsFrom rfl]

lemma itemsFrom_failed {cause : Failure} {kept : Bytes}
    (h : readRaw events = (.failed cause kept, rest)) :
    itemsFrom identifier n events
      = .error (.reading identifier cause) :: itemsFrom identifier (n + 1) rest := by
  rw [itemsFrom, items_of_next_some (next_of_failed rfl h), items_eq_itemsFrom rfl]

/-- **The first error** among the items is that of the first failure of the stream. -/
theorem findSome?_itemsFrom (identifier : Text) (n : ℕ) (events : List ReadEvent) :
    (itemsFrom identifier n events).findSome? (fun | .error e => some e | .ok _ => none)
      = (lineStart.firstFailure? events).map (.reading identifier) := by
  have hfirst := fun events => ReadEvent.firstFailure?_readOnto [] events
  induction events using ReadEvent.readInduction generalizing n with
  | finished events rest h =>
      rw [itemsFrom_finished h, ← holding_nil, hfirst, show readOnto [] events = _ from h]
      rfl
  | line events raw rest h ih =>
      rw [itemsFrom_line h, ← holding_nil, hfirst, show readOnto [] events = _ from h]
      exact ih (n + 1)
  | failed events cause kept rest h =>
      rw [itemsFrom_failed h, ← holding_nil, hfirst, show readOnto [] events = _ from h]
      rfl

/-- **Nothing behind the end of the stream is read.** -/
theorem itemsFrom_append_of_ended (hended : lineStart.after events = .ended)
    (more : List ReadEvent) :
    itemsFrom identifier n (events ++ more) = itemsFrom identifier n events := by
  induction events using ReadEvent.appendInduction generalizing n with
  | runsOut events hplace => exact absurd (hplace.symm.trans hended) (holding_ne_ended _)
  | ended events rest hplace hread =>
      rw [itemsFrom_finished (hread.readRaw_append more), itemsFrom_finished (hread.readRaw_eq)]
  | line events raw rest hplace hread ih =>
      rw [itemsFrom_line (hread.readRaw_append more), itemsFrom_line (hread.readRaw_eq),
        ih (hplace.symm.trans hended)]
  | failed events cause kept rest hplace hread ih =>
      rw [itemsFrom_failed (hread.readRaw_append more), itemsFrom_failed (hread.readRaw_eq),
        ih (hplace.symm.trans hended)]

/-- **A read without bytes inside a line** ends that line, and reading goes on behind it. -/
theorem itemsFrom_append_endOfFile (hinside : lineStart.after events = .insideLine)
    (more : List ReadEvent) :
    itemsFrom identifier n (events ++ .endOfFile :: more)
      = itemsFrom identifier n events ++
        itemsFrom identifier (n + (itemsFrom identifier n events).length) more := by
  induction events using ReadEvent.appendInduction generalizing n with
  | runsOut events hplace hread =>
      have hne : ReadEvent.pending events ≠ [] := by
        intro hnil
        rw [hnil] at hplace
        cases hplace.symm.trans hinside
      have hend : ∀ rest, readOnto (ReadEvent.pending events) (.endOfFile :: rest)
          = (.bytes (ReadEvent.pending events), rest) := by
        intro rest
        rw [readOnto, ReadEvent.leftOver_of_ne_nil hne]
      have hevents : readRaw events = (.bytes (ReadEvent.pending events), []) := by
        rw [ReadEvent.readRaw_of_runsOut hread, ReadEvent.leftOver_of_ne_nil hne]
      rw [itemsFrom_line ((hread _).trans (hend more)), itemsFrom_line hevents,
        itemsFrom_nil]
      rfl
  | ended events rest hplace => exact absurd (hplace.symm.trans hinside) (by decide)
  | line events raw rest hplace hread ih =>
      rw [itemsFrom_line (hread.readRaw_append _), itemsFrom_line (hread.readRaw_eq),
        ih (hplace.symm.trans hinside), List.cons_append, List.length_cons, Nat.add_right_comm]
      rfl
  | failed events cause kept rest hplace hread ih =>
      rw [itemsFrom_failed (hread.readRaw_append _), itemsFrom_failed (hread.readRaw_eq),
        ih (hplace.symm.trans hinside), List.cons_append, List.length_cons, Nat.add_right_comm]
      rfl

/-- **Every line takes a byte.** -/
theorem length_lines_itemsFrom_le (identifier : Text) (n : ℕ) (events : List ReadEvent) :
    ((itemsFrom identifier n events).filterMap Except.toOption).length
      ≤ ReadEvent.contentLength events := by
  have hbytes := fun events => ReadEvent.contentLength_readOnto [] events
  induction events using ReadEvent.readInduction generalizing n with
  | finished events rest h => simp [itemsFrom_finished h]
  | line events raw rest h ih =>
      have hraw := hbytes events
      rw [show readOnto [] events = _ from h] at hraw
      have hrest := ih (n + 1)
      simp only [List.length_nil] at hraw
      rw [itemsFrom_line h, List.filterMap_cons_some (show Except.toOption _ = some _ from rfl),
        List.length_cons]
      omega
  | failed events cause kept rest h ih =>
      have hraw := hbytes events
      rw [show readOnto [] events = _ from h] at hraw
      rw [itemsFrom_failed h, List.filterMap_cons_none (show Except.toOption _ = none from rfl)]
      exact (ih (n + 1)).trans hraw

end LineSource

end TargetPicker
