import Mathlib.Tactic.Common
import TargetPicker.Proofs.Makefile.ReadFailure

/-!
# Starting over behind a failure

A failed read gives up the line that is being read.  What was collected of it lies in the buffer and
is cleared by the next attempt, so that behind the failure the source is one that has not been read
yet, apart from its line numbers (`LineSource.restarts_behind_failure`).

**What is complete.**  Events complete an item for each line feed, for each read without bytes,
which ends a line where it stands, and for each failure (`ReadEvent.outcomes`).  These are the items
that a source on the events alone delivers, without its last line if the events end inside it
(`LineSource.completeItems`).

`LineSource.Delivers` says in one relation what a source delivers and what becomes of it, so that
one induction over attempts gives both.
-/

namespace TargetPicker

open ReadEvent (lineFeed readRaw readOnto pending)
open StreamPlace (lineStart holding)

lemma StreamPlace.ne_nil_of_holding {collected : Bytes} (h : holding collected = insideLine) :
    collected ≠ [] := by
  rintro rfl
  cases h

/-! ## What events complete -/

namespace ReadEvent

/-- **What events complete**, in order: nothing but a line, or a failure in place of one. -/
def outcomes (events : List ReadEvent) : List (Option Failure) :=
  events.flatMap fun
    | bytes content => List.replicate (content.count lineFeed) none
    | endOfFile => [none]
    | failure cause => if cause.kind = .interrupted then [] else [some cause]

lemma outcomes_append (events more : List ReadEvent) :
    outcomes (events ++ more) = outcomes events ++ outcomes more :=
  List.flatMap_append

/-- **An attempt completes one item**, and leaves the others to the next attempts. -/
theorem outcomes_readOnto (collected : Bytes) (events : List ReadEvent) :
    match readOnto collected events with
    | (.bytes _, rest) => rest ≠ [] → outcomes events = none :: outcomes rest
    | (.finished, _) => True
    | (.failed cause _, rest) => outcomes events = some cause :: outcomes rest := by
  fun_induction readOnto collected events with
  | case1 collected =>
      rcases eq_or_ne collected [] with rfl | hne
      · trivial
      · rw [leftOver_of_ne_nil hne]
        exact fun h => absurd rfl h
  | case2 collected rest =>
      rcases eq_or_ne collected [] with rfl | hne
      · trivial
      · rw [leftOver_of_ne_nil hne]
        exact fun _ => rfl
  | case3 collected cause rest hkind ih =>
      have houtcomes : outcomes (failure cause :: rest) = outcomes rest := by
        simp [outcomes, hkind]
      rw [houtcomes]
      exact ih
  | case4 collected cause rest hkind => simp [outcomes, hkind]
  | case5 collected content rest hdrop ih =>
      have hcount : content.count lineFeed = 0 :=
        List.count_eq_zero.mpr (lineFeed_not_mem_of_dropWhile hdrop)
      have houtcomes : outcomes (bytes content :: rest) = outcomes rest := by
        simp [outcomes, hcount]
      rw [houtcomes]
      exact ih
  | case6 collected content rest first after hdrop =>
      have hstart : lineFeed ∉ content.takeWhile (· != lineFeed) := by
        intro hmem
        simpa using List.mem_takeWhile_imp hmem
      have hcount : content.count lineFeed = after.count lineFeed + 1 := by
        rw [eq_append_of_dropWhile hdrop, List.count_append, List.count_eq_zero.mpr hstart,
          List.count_cons_self, Nat.zero_add]
      intro _
      simp [outcomes, hcount, List.replicate_succ]

/-! An attempt is complete if it does not depend on the events behind.  A failure put there shows
what it completed. -/

variable {events rest : List ReadEvent}

lemma outcomes_of_runsOut {collected : Bytes}
    (h : ∀ more, readRaw (events ++ more) = readOnto collected more) : outcomes events = [] := by
  let probe : ReadEvent := failure ⟨.other, []⟩
  have hprobe := outcomes_readOnto [] (events ++ [probe])
  rw [show readOnto [] (events ++ [probe]) = _ from h [probe], outcomes_append] at hprobe
  exact List.append_cancel_right hprobe

lemma outcomes_of_line {raw : Bytes} (h : Settles events (.bytes raw) rest) :
    outcomes events = none :: outcomes rest := by
  let probe : ReadEvent := failure ⟨.other, []⟩
  have hprobe := outcomes_readOnto [] (events ++ [probe])
  rw [show readOnto [] (events ++ [probe]) = _ from h.readRaw_append [probe]] at hprobe
  have houtcomes := hprobe (by simp)
  rw [outcomes_append, outcomes_append, ← List.cons_append] at houtcomes
  exact List.append_cancel_right houtcomes

lemma outcomes_of_failed {cause : Failure} {kept : Bytes}
    (h : Settles events (.failed cause kept) rest) :
    outcomes events = some cause :: outcomes rest := by
  have hattempt := outcomes_readOnto [] events
  rwa [show readOnto [] events = _ from h.readRaw_eq] at hattempt

end ReadEvent

/-! ## What a source delivers, and what becomes of it -/

/-- The error that an item is, if it is one. -/
def LineItem.error? : LineItem → Option SourceError
  | .ok _ => none
  | .error e => some e

namespace LineSource

variable {identifier : Text} {n : ℕ} {events rest more : List ReadEvent} {s t : LineSource}

/-- **A source delivers items** one after the other, and then it is another source. -/
inductive Delivers : LineSource → List LineItem → LineSource → Prop where
  | nothing (s : LineSource) : Delivers s [] s
  | item {s s' t : LineSource} {item : LineItem} {items : List LineItem}
      (next : s.next = (some item, s')) (rest : Delivers s' items t) : Delivers s (item :: items) t

/-- What is delivered comes before what the other source delivers. -/
lemma Delivers.items_eq {items : List LineItem} (h : s.Delivers items t) :
    s.items = items ++ t.items := by
  induction h with
  | nothing => rfl
  | item hnext _ ih => rw [items_of_next_some hnext, ih]; rfl

/-- **The complete items** of events: a line in which the events end is not one. -/
def completeItems (identifier : Text) (n : ℕ) (events : List ReadEvent) : List LineItem :=
  if lineStart.after events = .insideLine then (itemsFrom identifier n events).dropLast
  else itemsFrom identifier n events

/-- What runs out inside a line is delivered as that line. -/
lemma itemsFrom_of_runsOut {collected : Bytes} (hne : collected ≠ [])
    (hread : ∀ more, readRaw (events ++ more) = readOnto collected more) :
    itemsFrom identifier n events = [.ok ⟨n, lineText collected⟩] := by
  have hevents := ReadEvent.readRaw_of_runsOut hread
  rw [ReadEvent.leftOver_of_ne_nil hne] at hevents
  rw [itemsFrom_line hevents, itemsFrom_nil]

/-- Where events end inside a line, they have delivered something. -/
lemma itemsFrom_ne_nil (h : lineStart.after events = .insideLine) :
    itemsFrom identifier n events ≠ [] := by
  cases events using ReadEvent.appendInduction with
  | runsOut events hplace hread =>
      have hne := StreamPlace.ne_nil_of_holding (hplace.symm.trans h)
      rw [itemsFrom_of_runsOut hne hread]
      exact List.cons_ne_nil _ _
  | ended events rest hplace => cases hplace.symm.trans h
  | line events raw rest hplace hread =>
      rw [itemsFrom_line hread.readRaw_eq]
      exact List.cons_ne_nil _ _
  | failed events cause kept rest hplace hread =>
      rw [itemsFrom_failed hread.readRaw_eq]
      exact List.cons_ne_nil _ _

/-- What runs out inside the first attempt completes nothing. -/
lemma completeItems_of_runsOut {collected : Bytes}
    (hplace : lineStart.after events = holding collected)
    (hread : ∀ more, readRaw (events ++ more) = readOnto collected more) :
    completeItems identifier n events = [] := by
  rw [completeItems, hplace]
  rcases eq_or_ne collected [] with rfl | hne
  · exact itemsFrom_finished (ReadEvent.readRaw_of_runsOut hread)
  · rw [StreamPlace.holding_of_ne_nil hne, if_pos rfl, itemsFrom_of_runsOut hne hread]
    rfl

/-- An item that does not depend on the events behind is complete. -/
lemma completeItems_cons {item : LineItem} (hplace : lineStart.after events = lineStart.after rest)
    (hitems : itemsFrom identifier n events = item :: itemsFrom identifier (n + 1) rest) :
    completeItems identifier n events = item :: completeItems identifier (n + 1) rest := by
  rw [completeItems, completeItems, hplace, hitems]
  split
  · next hinside => exact List.dropLast_cons_of_ne_nil (itemsFrom_ne_nil hinside)
  · rfl

/-- **The complete items** are what the events complete, in order. -/
theorem map_error?_completeItems (identifier : Text) (n : ℕ)
    (h : lineStart.after events ≠ .ended) :
    (completeItems identifier n events).map LineItem.error?
      = (ReadEvent.outcomes events).map (Option.map (.reading identifier)) := by
  induction events using ReadEvent.appendInduction generalizing n with
  | runsOut events hplace hread =>
      rw [completeItems_of_runsOut hplace hread, ReadEvent.outcomes_of_runsOut hread]
      rfl
  | ended events rest hplace => exact absurd hplace h
  | line events raw rest hplace hread ih =>
      rw [completeItems_cons hplace (itemsFrom_line hread.readRaw_eq), List.map_cons,
        ih (n + 1) (hplace ▸ h), ReadEvent.outcomes_of_line hread]
      rfl
  | failed events cause kept rest hplace hread ih =>
      rw [completeItems_cons hplace (itemsFrom_failed hread.readRaw_eq), List.map_cons,
        ih (n + 1) (hplace ▸ h), ReadEvent.outcomes_of_failed hread]
      rfl

/-- An item that does not depend on the events behind moves the last line one place on. -/
lemma itemsFrom_eq_concat_cons {item : LineItem} {text : Text}
    (hplace : lineStart.after events = lineStart.after rest)
    (hitems : itemsFrom identifier n events = item :: itemsFrom identifier (n + 1) rest)
    (hrest : itemsFrom identifier (n + 1) rest = completeItems identifier (n + 1) rest ++
      [.ok ⟨n + 1 + (completeItems identifier (n + 1) rest).length, text⟩]) :
    itemsFrom identifier n events = completeItems identifier n events ++
      [.ok ⟨n + (completeItems identifier n events).length, text⟩] := by
  rw [completeItems_cons hplace hitems, hitems, hrest, List.length_cons, Nat.add_right_comm]
  rfl

/-- **An incomplete line** comes last, and it is all that is missing. -/
lemma itemsFrom_eq_concat (identifier : Text) (n : ℕ)
    (h : lineStart.after events = .insideLine) :
    itemsFrom identifier n events = completeItems identifier n events ++
      [.ok ⟨n + (completeItems identifier n events).length, lineText (pending events)⟩] := by
  induction events using ReadEvent.appendInduction generalizing n with
  | runsOut events hplace hread =>
      have hne := StreamPlace.ne_nil_of_holding (hplace.symm.trans h)
      rw [completeItems_of_runsOut hplace hread, itemsFrom_of_runsOut hne hread]
      rfl
  | ended events rest hplace => cases hplace.symm.trans h
  | line events raw rest hplace hread ih =>
      rw [hread.pending_eq]
      exact itemsFrom_eq_concat_cons hplace (itemsFrom_line hread.readRaw_eq)
        (ih (n + 1) (hplace.symm.trans h))
  | failed events cause kept rest hplace hread ih =>
      rw [hread.pending_eq]
      exact itemsFrom_eq_concat_cons hplace (itemsFrom_failed hread.readRaw_eq)
        (ih (n + 1) (hplace.symm.trans h))

/-- **Behind a failure** the source starts over: it has delivered the complete items and the
failure, and nothing that was read before is left of it but the count, and in the buffer the line
that was given up. -/
theorem delivers_failure {cause : Failure} (hcause : cause.kind ≠ .interrupted)
    (h : lineStart.after events ≠ .ended) (hs : s.finished = false)
    (hevents : s.events = events ++ .failure cause :: more) :
    s.Delivers
      (completeItems s.identifier s.lineNumber events ++ [.error (.reading s.identifier cause)])
      { s with
        events := more
        buffer := pending events
        text := []
        lineNumber := s.lineNumber + (completeItems s.identifier s.lineNumber events).length + 1 }
      := by
  induction events using ReadEvent.appendInduction generalizing s with
  | runsOut events hplace hread =>
      have hfailed : readRaw s.events = (.failed cause (pending events), more) := by
        rw [hevents, hread, readOnto, if_neg hcause]
      rw [completeItems_of_runsOut hplace hread]
      exact .item (next_of_failed hs hfailed) (.nothing _)
  | ended events rest hplace => exact absurd hplace h
  | line events raw rest hplace hread ih =>
      have hline := next_of_bytes hs (hevents ▸ hread.readRaw_append _)
      rw [completeItems_cons hplace (itemsFrom_line hread.readRaw_eq), List.length_cons,
        ← Nat.add_assoc, Nat.add_right_comm s.lineNumber, hread.pending_eq]
      exact .item hline (ih (hplace ▸ h) hs rfl)
  | failed events cause' kept rest hplace hread ih =>
      have hfailed := next_of_failed hs (hevents ▸ hread.readRaw_append _)
      rw [completeItems_cons hplace (itemsFrom_failed hread.readRaw_eq), List.length_cons,
        ← Nat.add_assoc, Nat.add_right_comm s.lineNumber, hread.pending_eq]
      exact .item hfailed (ih (hplace ▸ h) hs rfl)

/-- **What a failure does** to a source that is read over it: the events before the failure stand
for their complete items, and the events behind it for a source of their own. -/
structure StartsOver (identifier : Text) (events : List ReadEvent) (cause : Failure)
    (more : List ReadEvent) : Prop where
  /-- The complete items are a line or an error for everything that the events complete. -/
  complete : (completeItems identifier 1 events).map LineItem.error?
    = (ReadEvent.outcomes events).map (Option.map (.reading identifier))
  /-- At the start of a line they are all that the events deliver. -/
  whole : lineStart.after events = .lineStart →
    (ofEvents identifier events).items = completeItems identifier 1 events
  /-- Inside a line the events would deliver this line as well. -/
  givenUp : lineStart.after events = .insideLine →
    (ofEvents identifier events).items = completeItems identifier 1 events ++
      [.ok ⟨(completeItems identifier 1 events).length + 1, lineText (pending events)⟩]
  /-- After the complete items and the failure the source is a new one, but for the count and for
  the line in its buffer. -/
  restarts : (ofEvents identifier (events ++ .failure cause :: more)).Delivers
    (completeItems identifier 1 events ++ [.error (.reading identifier cause)])
    { ofEvents identifier more with
      buffer := pending events
      lineNumber := 1 + ((completeItems identifier 1 events).length + 1) }
  /-- The items of the new one follow, with the count in their numbers: the buffer is not joined to
  them. -/
  items : (ofEvents identifier (events ++ .failure cause :: more)).items
    = completeItems identifier 1 events ++ .error (.reading identifier cause) ::
        (ofEvents identifier more).items.map
          (Except.map (Line.shift ((completeItems identifier 1 events).length + 1)))

/-- **A failure is a clean restart**, wherever in a line it is met and whatever was read before,
unless the end of the stream was met first. -/
theorem restarts_behind_failure (identifier : Text) (events : List ReadEvent) {cause : Failure}
    (hcause : cause.kind ≠ .interrupted) (h : lineStart.after events ≠ .ended)
    (more : List ReadEvent) : StartsOver identifier events cause more := by
  have hrestarts := delivers_failure (s := ofEvents identifier (events ++ .failure cause :: more))
    hcause h rfl rfl
  refine
    { complete := map_error?_completeItems identifier 1 h
      whole := fun hstart => ?_
      givenUp := fun hinside => ?_
      restarts := hrestarts
      items := ?_ }
  · rw [completeItems, if_neg (by rw [hstart]; decide)]
    rfl
  · have hlast := itemsFrom_eq_concat identifier 1 hinside
    rwa [Nat.add_comm] at hlast
  · refine hrestarts.items_eq.trans ?_
    rw [List.append_assoc, items_eq_itemsFrom rfl]
    show _ ++ _ :: itemsFrom identifier (1 + _ + 1) more = _
    rw [Nat.add_assoc, Nat.add_comm 1, itemsFrom_shift]
    rfl

/-- A read without bytes ends the second line, a first failure comes between lines, and the second
one gives up a line inside of which it is met. -/
theorem restarts_behind_failure_inside_line :
    let broken : Failure := ⟨.connectionReset, []⟩
    let events : List ReadEvent :=
      [.bytes (Text.utf8 "all:\n\tcc".toList), .endOfFile, .failure broken,
       .bytes (Text.utf8 "CC = c".toList)]
    let more : List ReadEvent := [.bytes (Text.utf8 "lean:\n".toList)]
    (broken.kind ≠ .interrupted ∧ lineStart.after events ≠ .ended) ∧
    (ofEvents [] (events ++ .failure broken :: more)).items
      = [.ok ⟨1, "all:".toList⟩, .ok ⟨2, "\tcc".toList⟩, .error (.reading [] broken),
         .error (.reading [] broken), .ok ⟨5, "lean:".toList⟩] := by
  intro broken events more
  have hkind : broken.kind ≠ .interrupted := by decide
  have hplace : lineStart.after events ≠ .ended := by decide +kernel
  have hrestart := restarts_behind_failure [] events hkind hplace more
  exact ⟨⟨hkind, hplace⟩, hrestart.items.trans (by decide +kernel)⟩

end LineSource

end TargetPicker
