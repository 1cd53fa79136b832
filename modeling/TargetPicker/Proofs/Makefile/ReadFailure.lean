import Mathlib.Data.Set.List
import Mathlib.Tactic.Common
import TargetPicker.Proofs.Input.Stream
import TargetPicker.Proofs.Makefile.Joining
import TargetPicker.Proofs.Makefile.Lookahead

/-!
# Reading all or nothing

A makefile is read up to the end of its stream.  The first failure before that end is the result,
however many rules were read before it; without one there is a makefile, and what the reader would
give behind the end makes no difference.

Inside a line a read without bytes is not that end.  The line ends there and reading goes on, so the
lines behind it follow with the numbers that come next (`linesOf_append_endOfFile`).
-/

namespace TargetPicker

open ReadEvent (readRaw)
open StreamPlace (lineStart)

namespace LineSource

/-- The lines that a reader delivers before its first failure. -/
def linesOf (identifier : Text) (events : List ReadEvent) : List Line :=
  (ofEvents identifier events).untilFailure.1

/-- A source fails as its stream does. -/
lemma untilFailure_ofEvents (identifier : Text) (events : List ReadEvent) :
    (ofEvents identifier events).untilFailure
      = (linesOf identifier events,
        (lineStart.firstFailure? events).map (.reading identifier)) := by
  rw [← findSome?_itemsFrom identifier 1 events]
  rfl

/-- Without a failure all items are lines. -/
lemma items_ofEvents {identifier : Text} {events : List ReadEvent}
    (h : lineStart.firstFailure? events = none) :
    (ofEvents identifier events).items = (linesOf identifier events).map .ok := by
  have hgood : (ofEvents identifier events).items ∈ Set.range (List.map Except.ok) := by
    have hnone := findSome?_itemsFrom identifier 1 events
    rw [h, Option.map_none, List.findSome?_eq_none_iff] at hnone
    rw [Set.range_list_map]
    intro item hitem
    cases item with
    | error e => cases hnone _ hitem
    | ok l => exact ⟨l, rfl⟩
  obtain ⟨lines, hlines⟩ := hgood
  rw [linesOf, untilFailure_of_items hlines.symm, hlines]

/-- The numbers of the lines go up with the number of the first one. -/
lemma itemsFrom_shift (identifier : Text) (n k : ℕ) (events : List ReadEvent) :
    itemsFrom identifier (n + k) events
      = (itemsFrom identifier k events).map (Except.map (Line.shift n)) := by
  induction events using ReadEvent.readInduction generalizing k with
  | finished events rest h => rw [itemsFrom_finished h, itemsFrom_finished h, List.map_nil]
  | line events raw rest h ih =>
      rw [itemsFrom_line h, itemsFrom_line h, Nat.add_assoc, ih]
      rfl
  | failed events cause kept rest h ih =>
      rw [itemsFrom_failed h, itemsFrom_failed h, Nat.add_assoc, ih]
      rfl

/-- **Lines are numbered consecutively**, since no failure stands between them. -/
lemma exists_linesOf_eq_numberedFrom (identifier : Text) (events : List ReadEvent) :
    ∃ texts, linesOf identifier events = Line.numberedFrom 1 texts := by
  have hfrom : ∀ n, ∃ texts, ((itemsFrom identifier n events).takeWhile
      fun item => item.toBool).filterMap (fun item => item.toOption)
        = Line.numberedFrom n texts := by
    induction events using ReadEvent.readInduction with
    | finished events rest h =>
        intro n
        exact ⟨[], by rw [itemsFrom_finished h]; rfl⟩
    | line events raw rest h ih =>
        intro n
        obtain ⟨texts, htexts⟩ := ih (n + 1)
        refine ⟨lineText raw :: texts, ?_⟩
        rw [itemsFrom_line h, Line.numberedFrom_cons, ← htexts]
        rfl
    | failed events cause kept rest h ih =>
        intro n
        exact ⟨[], by rw [itemsFrom_failed h]; rfl⟩
  exact hfrom 1

/-- **Reading goes on** behind a read without bytes that ends a line. -/
lemma linesOf_append_endOfFile {identifier : Text} {events more : List ReadEvent}
    (hinside : lineStart.after events = .insideLine)
    (hevents : lineStart.firstFailure? events = none)
    (hmore : lineStart.firstFailure? more = none) :
    linesOf identifier (events ++ .endOfFile :: more)
      = linesOf identifier events ++
        (linesOf identifier more).map (Line.shift (linesOf identifier events).length) := by
  have hfirst : itemsFrom identifier 1 events = (linesOf identifier events).map .ok :=
    items_ofEvents hevents
  have hsecond : itemsFrom identifier 1 more = (linesOf identifier more).map .ok :=
    items_ofEvents hmore
  have hitems : (ofEvents identifier (events ++ .endOfFile :: more)).items
      = (linesOf identifier events ++
          (linesOf identifier more).map (Line.shift (linesOf identifier events).length)).map
        .ok := by
    show itemsFrom identifier 1 _ = _
    rw [itemsFrom_append_endOfFile hinside, hfirst, List.length_map, Nat.add_comm 1,
      itemsFrom_shift, hsecond, List.map_append, List.map_map, List.map_map]
    rfl
  rw [linesOf, untilFailure_of_items hitems]

end LineSource

namespace Makefile

open LineSource (linesOf)

/-- The result of reading is the first failure, or else the makefile of the lines. -/
lemma parse_result (identifier : Text) (events : List ReadEvent) :
    (parse identifier events).result
      = match lineStart.firstFailure? events with
        | some cause => .error (.reading identifier cause)
        | none => .ok (ofLines identifier (linesOf identifier events)) := by
  rw [parse, LineSource.parse_result, LineSource.untilFailure_ofEvents]
  cases lineStart.firstFailure? events <;> rfl

/-- **Reading is all or nothing.**  The first failure before the end of the stream is the result,
and without one there is a makefile.  Behind the end of the stream nothing matters; behind a read
without bytes that only ends a line reading goes on.  It makes no difference which of the two loops
that read with one item of lookahead meets the failure. -/
theorem parse_all_or_nothing (identifier : Text) (events more : List ReadEvent) :
    Lookahead.parse (LineSource.ofEvents identifier events) = parse identifier events ∧
    ((parse identifier events).result
      = match lineStart.firstFailure? events with
        | some cause => .error (.reading identifier cause)
        | none => .ok (ofLines identifier (linesOf identifier events))) ∧
    (lineStart.after events = .ended →
      parse identifier (events ++ more) = parse identifier events) ∧
    (lineStart.after events = .insideLine →
      (parse identifier (events ++ .endOfFile :: more)).result
        = match (lineStart.firstFailure? events).or
              (lineStart.firstFailure? more) with
          | some cause => .error (.reading identifier cause)
          | none => .ok (ofLines identifier (linesOf identifier events ++
              (linesOf identifier more).map (Line.shift (linesOf identifier events).length)))) := by
  refine ⟨Lookahead.parse_eq _, parse_result identifier events, fun hended => ?_,
    fun hinside => ?_⟩
  · exact LineSource.parse_congr rfl (LineSource.itemsFrom_append_of_ended hended more)
  · have hfailure : lineStart.firstFailure? (events ++ .endOfFile :: more)
        = (lineStart.firstFailure? events).or (lineStart.firstFailure? more) := by
      rw [StreamPlace.firstFailure?_append (by rw [hinside]; decide), hinside]
      rfl
    rw [parse_result, hfailure]
    cases hevents : lineStart.firstFailure? events with
    | some cause => rfl
    | none =>
        rw [Option.none_or]
        cases hmore : lineStart.firstFailure? more with
        | some cause => rfl
        | none => rw [LineSource.linesOf_append_endOfFile hinside hevents hmore]

/-- A read without bytes ends the first line of a recipe, and the second line still belongs to the
rule; the next one ends the stream, and the failure behind it is not met. -/
theorem parse_all_or_nothing_inside_recipe :
    lineStart.after [.bytes (Text.utf8 "all:\n\tcc".toList)] = .insideLine ∧
    lineStart.after [.bytes (Text.utf8 "all:\n\tcc".toList), .endOfFile,
      .bytes (Text.utf8 "\tld\n".toList), .endOfFile] = .ended ∧
    (parse [] [.bytes (Text.utf8 "all:\n\tcc".toList), .endOfFile,
        .bytes (Text.utf8 "\tld\n".toList), .endOfFile,
        .failure { kind := .permissionDenied, text := [] }]).result
      = .ok
        { identifier := []
          rules :=
            [{ target := "all".toList, dependencies := [], body := ["cc".toList, "ld".toList],
               identifier := [], lineNumber := 1 }]
          definitions := [] } := by
  have hinside : lineStart.after [.bytes (Text.utf8 "all:\n\tcc".toList)] = .insideLine := by
    decide +kernel
  have hended : lineStart.after [.bytes (Text.utf8 "all:\n\tcc".toList), .endOfFile,
      .bytes (Text.utf8 "\tld\n".toList), .endOfFile] = .ended := by
    decide +kernel
  refine ⟨hinside, hended, ?_⟩
  have hbehind := (parse_all_or_nothing [] _
    [.failure { kind := .permissionDenied, text := [] }]).2.2.1 hended
  have hgoes := (parse_all_or_nothing [] _
    [.bytes (Text.utf8 "\tld\n".toList), .endOfFile]).2.2.2 hinside
  exact (congrArg Reading.result hbehind).trans (hgoes.trans (by decide +kernel))

end Makefile

end TargetPicker
