import Mathlib.Tactic.Common
import TargetPicker.Proofs.Makefile.LineByLine

/-!
# Reading with one item of lookahead

A makefile can be read straight from its source, without taking all lines in first.  Two loops share
the source then: one reads lines and recognises them, and behind a rule header another one takes the
lines of the recipe.  That loop learns that the recipe is over only from an item which is not its
own, so the item goes back into a slot, from which the other loop takes it (`Lookahead`).  What lies
in the slot may be a line, an error, or the end.

**The loops make the reading that a makefile has** (`Lookahead.parse_eq`), log and result, wherever
an error is met.  What carries the induction is that a slot hides nothing: the items still to come
are the one in the slot and then those of the source, and taking or putting back an item changes
nothing about that (`items_of_next_some`, `of_takeRecipe`).  So the loops read a content line by
line (`Makefile.parseBytes_line_by_line`).
-/

namespace TargetPicker

/-! ## Lines up to an error -/

namespace LineItem

/-- The lines before the first error, and that error. -/
def untilFailure (items : List LineItem) : List Line × Option SourceError :=
  ((items.takeWhile fun item => item.toBool).filterMap fun item => item.toOption,
    items.findSome? fun | .error e => some e | .ok _ => none)

@[simp] lemma untilFailure_nil : untilFailure [] = ([], none) := rfl

@[simp] lemma untilFailure_ok (l : Line) (items : List LineItem) :
    untilFailure (.ok l :: items) = (l :: (untilFailure items).1, (untilFailure items).2) := rfl

@[simp] lemma untilFailure_error (e : SourceError) (items : List LineItem) :
    untilFailure (.error e :: items) = ([], some e) := rfl

/-- Holds of the recipe lines.  An error is none. -/
def isRecipe : LineItem → Bool
  | .ok l => l.isRecipe
  | .error _ => false

/-- A recipe is left out of the lines as it is left out of the items, and an error ends both. -/
lemma untilFailure_dropWhile (items : List LineItem) :
    untilFailure (items.dropWhile isRecipe)
      = ((untilFailure items).1.dropWhile Line.isRecipe, (untilFailure items).2) := by
  induction items with
  | nil => rfl
  | cons item items ih =>
      cases item with
      | error e => rfl
      | ok l => cases h : l.isRecipe <;> simp [isRecipe, h, ih]

/-- Items that do not start with a recipe line start with no recipe. -/
lemma leadingCommands_of_head {items : List LineItem}
    (h : ∀ item ∈ items.head?, isRecipe item = false) :
    Line.leadingCommands (untilFailure items).1 = [] ∧ items.dropWhile isRecipe = items := by
  cases items with
  | nil => exact ⟨rfl, rfl⟩
  | cons item items =>
      have hitem : isRecipe item = false := h item rfl
      refine ⟨?_, by rw [List.dropWhile_cons, hitem]; rfl⟩
      cases item with
      | error e => rfl
      | ok l =>
          have hcommand : l.command? = none := by simpa [isRecipe, Line.isRecipe] using hitem
          exact Line.leadingCommands_cons_of_not hcommand _

end LineItem

/-! ## A source with a slot -/

/-- A source, and the item that was looked at and not taken. -/
structure Lookahead where
  source : LineSource
  /-- Nothing if the source is next; otherwise an item, or the end that was met. -/
  slot : Option (Option LineItem)

namespace Lookahead

/-- Nothing was looked at yet. -/
def ofSource (source : LineSource) : Lookahead := { source, slot := none }

/-- Takes the next item. -/
def next (a : Lookahead) : Option LineItem × Lookahead :=
  match a.slot with
  | some item => (item, { a with slot := none })
  | none => (a.source.next.1, { source := a.source.next.2, slot := none })

/-- Takes the next item if it is accepted, and puts it into the slot if not. -/
def nextIf (accept : LineItem → Bool) (a : Lookahead) : Option LineItem × Lookahead :=
  match a.next with
  | (some item, rest) =>
    if accept item then (some item, rest) else (none, { rest with slot := some (some item) })
  | (none, rest) => (none, { rest with slot := some none })

/-- What is still to come. -/
def items (a : Lookahead) : List LineItem :=
  match a.slot with
  | none => a.source.items
  | some none => []
  | some (some item) => item :: a.source.items

/-- How much there is to come: what the reader can give, and one for an item in the slot. -/
def size (a : Lookahead) : ℕ :=
  match a.slot with
  | none => a.source.remaining
  | some none => 0
  | some (some _) => a.source.remaining + 1

variable {a rest : Lookahead} {item : LineItem} {accept : LineItem → Bool}

lemma items_of_next_none (h : a.next = (none, rest)) : a.items = [] := by
  unfold next at h
  unfold items
  split at h
  · next looked hslot =>
    rw [hslot, (Prod.mk.inj h).1]
  · next hslot =>
    rw [hslot]
    exact LineSource.items_of_next_none (Prod.ext (Prod.mk.inj h).1 rfl)

/-- An item that is taken is used up, and nothing is in the slot any more. -/
lemma items_of_next_some (h : a.next = (some item, rest)) :
    a.items = item :: rest.items ∧ rest.size < a.size ∧ rest.slot = none := by
  unfold next at h
  split at h
  · next looked hslot =>
    obtain ⟨rfl, rfl⟩ := Prod.mk.inj h
    simp [items, size, hslot]
  · next hslot =>
    obtain ⟨hitem, rfl⟩ := Prod.mk.inj h
    have hnext : a.source.next = (some item, a.source.next.2) := Prod.ext hitem rfl
    have hlt := LineSource.remaining_next_lt hnext
    simp only [items, size, hslot, LineSource.items_of_next_some hnext]
    exact ⟨trivial, hlt, trivial⟩

lemma items_of_nextIf_some (h : a.nextIf accept = (some item, rest)) :
    accept item = true ∧ a.items = item :: rest.items ∧ rest.size < a.size := by
  unfold nextIf at h
  split at h
  · next hnext =>
    obtain ⟨hitems, hsize, -⟩ := items_of_next_some hnext
    split at h
    · next haccept =>
      obtain ⟨hitem, rfl⟩ := Prod.mk.inj h
      rw [← Option.some.inj hitem]
      exact ⟨haccept, hitems, hsize⟩
    · cases h
  · cases h

/-- Nothing is lost by an item that goes into the slot. -/
lemma items_of_nextIf_none (h : a.nextIf accept = (none, rest)) :
    rest.items = a.items ∧ rest.size ≤ a.size ∧ ∀ item ∈ a.items.head?, accept item = false := by
  unfold nextIf at h
  split at h
  · next item after hnext =>
    obtain ⟨hitems, hsize, hslot⟩ := items_of_next_some hnext
    split at h
    · cases h
    · next haccept =>
      obtain ⟨-, rfl⟩ := Prod.mk.inj h
      refine ⟨?_, ?_, ?_⟩
      · rw [hitems]
        simp [items, hslot]
      · simp only [size, hslot] at hsize ⊢
        exact hsize
      · simpa [hitems] using haccept
  · next after hnext =>
    obtain ⟨-, rfl⟩ := Prod.mk.inj h
    rw [items_of_next_none hnext]
    exact ⟨rfl, Nat.zero_le _, by simp⟩

/-! ## The two loops -/

/-- **The inner loop**: takes the lines of a recipe and collects their commands. -/
def takeRecipe (a : Lookahead) (commands : List Text) :
    Except SourceError (List Text) × Lookahead :=
  match h : a.nextIf LineItem.isRecipe with
  | (none, rest) => (.ok commands, rest)
  | (some (.error e), rest) => (.error e, rest)
  | (some (.ok l), rest) =>
    have := (items_of_nextIf_some h).2.2
    rest.takeRecipe (commands ++ l.command?.toList)
termination_by a.size

lemma exists_takeRecipe_eq (a : Lookahead) (commands : List Text) :
    ∃ rest, a.takeRecipe commands
        = (.ok (commands ++ Line.leadingCommands (LineItem.untilFailure a.items).1), rest) ∧
      rest.items = a.items.dropWhile LineItem.isRecipe ∧ rest.size ≤ a.size := by
  fun_induction takeRecipe a commands with
  | case1 a commands rest h =>
      obtain ⟨hitems, hsize, hhead⟩ := items_of_nextIf_none h
      obtain ⟨hcommands, hdrop⟩ := LineItem.leadingCommands_of_head hhead
      exact ⟨rest, by rw [hcommands, List.append_nil], by rw [hitems, hdrop], hsize⟩
  | case2 a commands rest e h => cases (items_of_nextIf_some h).1
  | case3 a commands rest l h this ih =>
      obtain ⟨hrecipe, hitems, hsize⟩ := items_of_nextIf_some h
      obtain ⟨after, htake, hafter, hle⟩ := ih
      obtain ⟨command, hcommand⟩ := Option.isSome_iff_exists.mp hrecipe
      refine ⟨after, ?_, ?_, hle.trans hsize.le⟩
      · rw [htake, hitems, LineItem.untilFailure_ok, Line.leadingCommands_cons_of_command hcommand,
          hcommand, List.append_assoc]
        rfl
      · rw [hafter, hitems, List.dropWhile_cons_of_pos hrecipe]

/-- **The inner loop takes the recipe that is next** and leaves all other items where they are.  An
error is one of these. -/
theorem of_takeRecipe {result : Except SourceError (List Text)}
    (h : a.takeRecipe [] = (result, rest)) :
    result = .ok (Line.leadingCommands (LineItem.untilFailure a.items).1) ∧
      rest.items = a.items.dropWhile LineItem.isRecipe ∧ rest.size ≤ a.size := by
  obtain ⟨rest', htake, hitems, hsize⟩ := exists_takeRecipe_eq a []
  obtain ⟨rfl, rfl⟩ := Prod.mk.inj (h.symm.trans htake)
  exact ⟨rfl, hitems, hsize⟩

/-- **The outer loop**: recognises a line, and takes the recipe behind a rule header.  Records are
made as it goes on. -/
def run (found : Makefile) (log : List Record) (a : Lookahead) : Reading :=
  match h : a.next with
  | (none, _) =>
    { result := .ok found
      log := log ++
        [.parsed found.identifier found.rules.length found.definitions.length] }
  | (some (.error e), _) => { result := .error e, log }
  | (some (.ok l), rest) =>
    have _hrest := (items_of_next_some h).2.1
    let recognized := log ++ [.recognized found.identifier l.number (LineKind.ofText l.text)]
    match LineKind.ofText l.text with
    | .ruleHeader target prerequisites =>
      match hbody : rest.takeRecipe [] with
      | (.error e, _) => { result := .error e, log := recognized }
      | (.ok body, after) =>
        have _hafter := (of_takeRecipe hbody).2.2
        run
          { found with
            rules := found.rules ++
              [{ target
                 dependencies := dependencyNames prerequisites
                 body
                 identifier := found.identifier
                 lineNumber := l.number }] }
          (recognized ++ [.rule target l.number body.length]) after
    | _ =>
      run
        { found with
          definitions := found.definitions ++ (l.definition? found.identifier).toList }
        recognized rest
termination_by a.size

/-- **Reads a makefile** with one item of lookahead. -/
def parse (s : LineSource) : Reading :=
  run { identifier := s.identifier, rules := [], definitions := [] } [] (ofSource s)

end Lookahead

/-! ## What the loops make -/

namespace Makefile

/-- The makefile with the record of one more finding. -/
def add (m : Makefile) (f : Finding) : Makefile :=
  { m with
    rules := m.rules ++ f.rule?.toList
    definitions := m.definitions ++ (f.definition? m.identifier).toList }

lemma add_line (m : Makefile) (l : Line) :
    m.add (.line l.number (LineKind.ofText l.text))
      = { m with definitions := m.definitions ++ (l.definition? m.identifier).toList } := by
  rw [add, definition?_line, Finding.rule?, Option.toList_none, List.append_nil]

lemma add_rule (m : Makefile) (r : Rule) :
    m.add (.rule r) = { m with rules := m.rules ++ [r] } := by
  simp [add, Finding.rule?, Finding.definition?]

lemma foldl_add (m : Makefile) (findings : List Finding) :
    findings.foldl add m
      = { m with
          rules := m.rules ++ findings.filterMap Finding.rule?
          definitions := m.definitions ++
            findings.filterMap (Finding.definition? m.identifier) } := by
  induction findings generalizing m with
  | nil => simp
  | cons f findings ih =>
      rw [List.foldl_cons, ih]
      simp only [add, List.filterMap_cons, List.append_assoc]
      cases f.rule? <;> cases f.definition? m.identifier <;> rfl

end Makefile

namespace Reading

/-- The reading that ends with these findings, from a makefile and a log so far. -/
def closeWith (found : Makefile) (log : List Record) (findings : List Finding)
    (failure : Option SourceError) : Reading :=
  let m := findings.foldl Makefile.add found
  let records := log ++ findings.map (Finding.record found.identifier)
  match failure with
  | some e => { result := .error e, log := records }
  | none =>
    { result := .ok m
      log := records ++ [.parsed m.identifier m.rules.length m.definitions.length] }

lemma closeWith_cons (found : Makefile) (log : List Record) (f : Finding) (findings : List Finding)
    (failure : Option SourceError) :
    closeWith found log (f :: findings) failure
      = closeWith (found.add f) (log ++ [f.record found.identifier]) findings failure := by
  simp only [closeWith, List.foldl_cons, List.map_cons, List.append_assoc, List.singleton_append]
  rfl

end Reading

namespace Lookahead

/-- **What the outer loop makes** of the items that are still to come. -/
theorem run_eq (found : Makefile) (log : List Record) (a : Lookahead) :
    run found log a = Reading.closeWith found log
      (transcript found.identifier false (LineItem.untilFailure a.items).1)
      (LineItem.untilFailure a.items).2 := by
  fun_induction run found log a with
  | case1 found log a rest h => simp [items_of_next_none h, transcript, Reading.closeWith]
  | case2 found log a e rest h =>
      simp [(items_of_next_some h).1, transcript, Reading.closeWith]
  | case3 found log a l rest h hrest recognized target prerequisites hkind e after hbody =>
      cases (of_takeRecipe hbody).1
  | case4 found log a l rest h hrest recognized target prerequisites hkind body after hbody hafter
      ih =>
      obtain ⟨hcommands, hitems, -⟩ := of_takeRecipe hbody
      obtain rfl := Except.ok.inj hcommands
      have hheaded : Rule.headed? found.identifier (l :: (LineItem.untilFailure rest.items).1)
          = some _ := Rule.headed?_eq_some_iff.mpr ⟨target, prerequisites, hkind, rfl⟩
      have hdefinition : l.definition? found.identifier = none := by
        rw [Line.definition?, hkind]
      rw [ih, hitems, LineItem.untilFailure_dropWhile, (items_of_next_some h).1,
        LineItem.untilFailure_ok, transcript_cons, hheaded, Reading.closeWith_cons,
        Makefile.add_line, hdefinition, Option.toList_none, List.append_nil, Option.toList_some,
        List.map_singleton, List.singleton_append, Reading.closeWith_cons, Makefile.add_rule,
        Option.isSome_some, transcript_open]
      rfl
  | case5 found log a l rest h hrest recognized hkind ih =>
      have hheaded : Rule.headed? found.identifier (l :: (LineItem.untilFailure rest.items).1)
          = none := Rule.headed?_eq_none_iff.mpr hkind
      rw [ih, (items_of_next_some h).1, LineItem.untilFailure_ok, transcript_cons, hheaded,
        Reading.closeWith_cons, Makefile.add_line]
      rfl

/-- **The loops make the reading of a makefile**, its result and its log. -/
theorem parse_eq (s : LineSource) : parse s = s.parse := by
  have hlines : LineItem.untilFailure (ofSource s).items = s.untilFailure := rfl
  rw [parse, run_eq, hlines, LineSource.parse, ← findings_eq_transcript]
  unfold Reading.closeWith
  rcases s.untilFailure with ⟨lines, _ | e⟩ <;> simp [Makefile.foldl_add, Makefile.ofFindings]

end Lookahead

namespace Makefile

/-- **Reading a content is looking at each of its lines.**  The lines are the ones that a source
delivers; a rule is read wherever a line is a rule header, with the recipe that directly follows
it, and a variable wherever a line defines one.  A recipe line gives neither, wherever it stands.
The loops that read with one item of lookahead read the same. -/
theorem parseBytes_line_by_line (identifier : Text) (content : Bytes) :
    Lookahead.parse (LineSource.ofEvents identifier [.bytes content])
      = parseBytes identifier content ∧
    (LineSource.ofEvents identifier [.bytes content]).items
      = (Line.numberedFrom 1 (Bytes.lines content)).map .ok ∧
    (parseBytes identifier content).result
      = .ok (ofLines identifier (Line.numberedFrom 1 (Bytes.lines content))) ∧
    ∀ (l : Line) (after : List Line), l.isRecipe = true →
      Rule.headed? identifier (l :: after) = none ∧ l.definition? identifier = none := by
  refine ⟨Lookahead.parse_eq _, LineSource.items_ofEvents_bytes identifier content,
    parseBytes_result identifier content, ?_⟩
  intro l after hrecipe
  exact ⟨Rule.headed?_of_isRecipe identifier hrecipe after,
    Line.definition?_of_isRecipe identifier hrecipe⟩

end Makefile

end TargetPicker
