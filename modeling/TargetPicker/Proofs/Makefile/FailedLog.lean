import Mathlib.Tactic.Common
import TargetPicker.Proofs.Makefile.LogCoverage

/-!
# The log of a reading that fails

A failure cuts a reading off.  Another reader may give the lines that were complete by then, and end
there: on it the makefile can be read, and the log is the one of the failed reading with one record
more, that of the makefile (`Makefile.log_cut_off_by_failure`).  So the rule that is open when the
failure comes is recorded with the recipe it has by then, and of the line that was being read there
is no trace.

Such a reader always exists.  `completeLines` writes the lines out as they were read, each with what
ended it: a line feed, or a read without bytes.

* `itemsFrom_completeLines` — it delivers the lines before the failure, and ends.  The induction is
  over attempts, and numbers may start anywhere.
* `transcript_append` — lines that start with no recipe line add their own findings to those of the
  lines in front.  This is where the open rule of the last lines shows.
-/

namespace TargetPicker

open ReadEvent (lineFeed readRaw readOnto)

/-! ## Complete lines, written out again -/

namespace ReadEvent

/-- The bytes of the lines before the end or the first failure, with their line feeds. -/
def rawLines (events : List ReadEvent) : List Bytes :=
  match h : readRaw events with
  | (.bytes raw, rest) =>
    have : totalSize rest < totalSize events := by
      have hused := @totalSize_readRaw_lt events
      rw [h] at hused
      exact hused (by simp)
    raw :: rawLines rest
  | _ => []
termination_by totalSize events

/-- What a reader gives for one line.  Where no line feed ends it, a read without bytes does. -/
def writeLine (raw : Bytes) : List ReadEvent :=
  if raw.getLast? = some lineFeed then [.bytes raw] else [.bytes raw, .endOfFile]

/-- **The complete lines** of a reader, and then its end. -/
def completeLines (events : List ReadEvent) : List ReadEvent :=
  (rawLines events).flatMap writeLine

variable {events rest : List ReadEvent} {raw : Bytes}

lemma completeLines_of_line (h : readRaw events = (.bytes raw, rest)) :
    completeLines events = writeLine raw ++ completeLines rest := by
  rw [completeLines, rawLines]
  split
  · next h' =>
    obtain ⟨hraw, rfl⟩ := Prod.mk.inj (h.symm.trans h')
    rw [RawLine.bytes.inj hraw]
    rfl
  · next hnot => exact absurd h (hnot raw rest)

lemma completeLines_of_not (h : ∀ raw rest, readRaw events ≠ (.bytes raw, rest)) :
    completeLines events = [] := by
  rw [completeLines, rawLines]
  split
  · next h' => exact absurd h' (h _ _)
  · rfl

/-- A line that is read is not empty, and a line feed is its last byte if there is one. -/
lemma cases_of_readRaw (h : readRaw events = (.bytes raw, rest)) :
    (raw ≠ [] ∧ lineFeed ∉ raw) ∨ ∃ piece, lineFeed ∉ piece ∧ raw = piece ++ [lineFeed] := by
  have hlength := contentLength_readOnto [] events
  rw [show readOnto [] events = _ from h] at hlength
  rcases lineFeed_of_readOnto List.not_mem_nil h with hraw | hline
  · exact Or.inl ⟨List.length_pos_iff.mp hlength.1, hraw⟩
  · exact Or.inr hline

end ReadEvent

namespace LineSource

variable {identifier : Text} {n : ℕ} {events rest more : List ReadEvent} {raw : Bytes}

/-- A chunk without bytes delivers nothing. -/
lemma itemsFrom_bytes_nil :
    itemsFrom identifier n (.bytes [] :: more) = itemsFrom identifier n more := by
  have hread : readRaw (.bytes [] :: more) = readRaw more := rfl
  refine items_congr ?_
  simp [next, advance_eq, hread]

/-- **A line that is written out is read back.** -/
lemma itemsFrom_writeLine (h : readRaw events = (.bytes raw, rest)) :
    itemsFrom identifier n (ReadEvent.writeLine raw ++ more)
      = .ok ⟨n, lineText raw⟩ :: itemsFrom identifier (n + 1) more := by
  rcases ReadEvent.cases_of_readRaw h with ⟨hne, hraw⟩ | ⟨piece, hpiece, rfl⟩
  · have hlast : raw.getLast? ≠ some lineFeed := fun hlast => hraw (List.mem_of_getLast? hlast)
    have hdrop : raw.dropWhile (· != lineFeed) = [] :=
      List.dropWhile_eq_nil_iff.mpr (ReadEvent.bne_lineFeed hraw)
    have hread : readRaw (.bytes raw :: .endOfFile :: more) = (.bytes raw, more) := by
      rw [readRaw, readOnto, hdrop]
      exact congrArg (·, more) (ReadEvent.leftOver_of_ne_nil hne)
    rw [ReadEvent.writeLine, if_neg hlast]
    exact itemsFrom_line hread
  · have hread := ReadEvent.readRaw_line hpiece [] more
    rw [ReadEvent.writeLine, if_pos (by simp), List.singleton_append, itemsFrom_line hread,
      itemsFrom_bytes_nil]

/-- **The complete lines are delivered again**, and no error behind them. -/
theorem itemsFrom_completeLines (identifier : Text) (n : ℕ) (events : List ReadEvent) :
    itemsFrom identifier n (ReadEvent.completeLines events)
      = (LineItem.untilFailure (itemsFrom identifier n events)).1.map .ok := by
  induction events using ReadEvent.readInduction generalizing n with
  | finished events rest h =>
      rw [ReadEvent.completeLines_of_not (by simp [h]), itemsFrom_nil, itemsFrom_finished h]
      rfl
  | line events raw rest h ih =>
      rw [ReadEvent.completeLines_of_line h, itemsFrom_writeLine h, ih, itemsFrom_line h]
      rfl
  | failed events cause kept rest h =>
      rw [ReadEvent.completeLines_of_not (by simp [h]), itemsFrom_nil, itemsFrom_failed h]
      rfl

end LineSource

/-! ## The rule that is open at the end -/

/-- A line that is no recipe line starts over: what is found behind it adds to what was found. -/
lemma transcript_append (identifier : Text) (isOpen : Bool) (before : List Line) {l : Line}
    (hl : l.isRecipe = false) (after : List Line) :
    transcript identifier isOpen (before ++ l :: after)
      = transcript identifier isOpen before ++ transcript identifier false (l :: after) := by
  induction before generalizing isOpen with
  | nil =>
      cases isOpen with
      | false => rfl
      | true =>
          rw [List.nil_append, transcript_open, List.dropWhile_cons_of_neg (by simp [hl])]
          rfl
  | cons first before ih =>
      have hcommands : Line.leadingCommands (l :: after) = [] :=
        Line.leadingCommands_cons_of_not (by simpa [Line.isRecipe] using hl) after
      have hheaded : Rule.headed? identifier (first :: (before ++ l :: after))
          = Rule.headed? identifier (first :: before) := by
        rw [Rule.headed?_append, hcommands]
        cases Rule.headed? identifier (first :: before) <;> simp [Rule.continued_nil]
      rw [List.cons_append, transcript, transcript, hheaded, ih, ih]
      split
      · rfl
      · rw [List.cons_append, List.append_assoc]

/-- The findings of a rule that the last lines leave open. -/
lemma transcript_rule {identifier : Text} {l : Line} {recipe : List Line}
    {target prerequisites : Text}
    (hkind : LineKind.ofText l.text = .ruleHeader target prerequisites)
    (hrecipe : ∀ r ∈ recipe, r.isRecipe = true) :
    (transcript identifier false (l :: recipe)).map (Finding.record identifier)
      = [.recognized identifier l.number (.ruleHeader target prerequisites),
          .rule target l.number recipe.length] := by
  have hdrop : recipe.dropWhile Line.isRecipe = [] := List.dropWhile_eq_nil_iff.mpr hrecipe
  have hlength : (Line.leadingCommands recipe).length = recipe.length :=
    Line.length_leadingCommands_eq_iff.mpr hrecipe
  rw [transcript_cons, Rule.headed?_eq_some_iff.mpr ⟨target, prerequisites, hkind, rfl⟩, hkind,
    ← hlength]
  simp [transcript_open, hdrop, transcript, Finding.record]

/-! ## Failed readings -/

namespace Makefile

open LineSource (linesOf recordsOf)

variable {identifier : Text} {events : List ReadEvent}

/-- A reader that delivers the complete lines of another one, and then ends, makes the records of
these lines and one more. -/
lemma exists_of_items {events' : List ReadEvent}
    (h : (LineSource.ofEvents identifier events').items = (linesOf identifier events).map .ok) :
    ∃ m, (parse identifier events').result = .ok m ∧
      (parse identifier events').log = recordsOf identifier events ++
        [.parsed identifier m.rules.length m.definitions.length] := by
  have huntil := LineSource.untilFailure_of_items h
  have hlines : linesOf identifier events' = linesOf identifier events := by
    rw [linesOf, huntil]
  have hresult : (parse identifier events').result
      = .ok (ofLines identifier (linesOf identifier events)) := by
    rw [parse, LineSource.parse_result, huntil]
    rfl
  refine ⟨_, hresult, ?_⟩
  rw [parse_log, hresult, recordsOf, hlines]
  rfl

/-- **A failed reading is one that was cut off.**  Its log is that of any reader which delivers the
lines that were complete and then ends, without the record that such a reading makes at its end; and
there is such a reader.  A rule that was open is recorded with the recipe lines it had, and nothing
behind the complete lines is on record.  Reading with one item of lookahead makes the same of the
failure. -/
theorem log_cut_off_by_failure {e : SourceError} (h : (parse identifier events).result = .error e) :
    (∀ events', (LineSource.ofEvents identifier events').items
        = (linesOf identifier events).map .ok →
      ∃ m, (parse identifier events').result = .ok m ∧
        (parse identifier events').log = (parse identifier events).log ++
          [.parsed identifier m.rules.length m.definitions.length]) ∧
    (LineSource.ofEvents identifier (ReadEvent.completeLines events)).items
      = (linesOf identifier events).map .ok ∧
    (∀ before header recipe target prerequisites,
      linesOf identifier events = before ++ header :: recipe →
      LineKind.ofText header.text = .ruleHeader target prerequisites →
      (∀ l ∈ recipe, l.isRecipe = true) →
      ∃ log, (parse identifier events).log = log ++
        [.recognized identifier header.number (.ruleHeader target prerequisites),
          .rule target header.number recipe.length]) ∧
    (∀ record ∈ (parse identifier events).log, ∀ n ∈ record.coveredLines,
      n ≤ (linesOf identifier events).length) ∧
    Lookahead.parse (LineSource.ofEvents identifier events) = parse identifier events := by
  have hlog := parse_log identifier events
  rw [h] at hlog
  refine ⟨fun events' hitems => ?_, LineSource.itemsFrom_completeLines identifier 1 events, ?_, ?_,
    Lookahead.parse_eq _⟩
  · rw [hlog]
    exact exists_of_items hitems
  · intro before header recipe target prerequisites hlines hkind hrecipe
    have hheader : header.isRecipe = false := by
      by_contra hheader
      rw [Line.ofText_of_isRecipe (by simpa using hheader)] at hkind
      cases hkind
    refine ⟨(transcript identifier false before).map (Finding.record identifier), ?_⟩
    rw [hlog, ← transcript_rule hkind hrecipe, ← List.map_append,
      ← transcript_append identifier false before hheader, ← hlines]
    rfl
  · intro record hrecord n hn
    have hconsecutive := LineSource.consecutive_linesOf identifier events
    have hcovered :=
      (LineSource.tiles_recordsOf identifier events).flatMap_coveredLines hconsecutive
    rw [hlog] at hrecord
    have hmem := List.mem_flatMap.mpr ⟨record, hrecord, hn⟩
    rw [hcovered, hconsecutive, List.mem_range'_1] at hmem
    omega

/-- A reader that fails inside the second line of a recipe. -/
def cutOffRecipe : List ReadEvent :=
  [.bytes (Text.utf8 "all:\n\tcc\n\tl".toList),
    .failure { kind := .permissionDenied, text := [] }, .bytes (Text.utf8 "d\nlib:\n".toList)]

/-- The first line of the recipe is on record, as it is without the line that was cut off. -/
theorem log_cutOffRecipe :
    (parse [] cutOffRecipe).result
      = .error (.reading [] { kind := .permissionDenied, text := [] }) ∧
    (∃ m, (parse [] [.bytes (Text.utf8 "all:\n\tcc\n".toList)]).result = .ok m ∧
      (parse [] [.bytes (Text.utf8 "all:\n\tcc\n".toList)]).log
        = (parse [] cutOffRecipe).log ++ [.parsed [] m.rules.length m.definitions.length]) ∧
    ∃ log, (parse [] cutOffRecipe).log
      = log ++ [.recognized [] 1 (.ruleHeader "all".toList []), .rule "all".toList 1 1] := by
  have hresult : (parse [] cutOffRecipe).result
      = .error (.reading [] { kind := .permissionDenied, text := [] }) := by
    decide +kernel
  have hcut := log_cut_off_by_failure hresult
  refine ⟨hresult, hcut.1 _ (by decide +kernel), ?_⟩
  exact hcut.2.2.1 [] ⟨1, "all:".toList⟩ [⟨2, "\tcc".toList⟩] "all".toList [] (by decide +kernel)
    (by decide +kernel) (by decide +kernel)

end Makefile

end TargetPicker
