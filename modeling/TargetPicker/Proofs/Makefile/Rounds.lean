import Mathlib.Logic.Function.Iterate
import Mathlib.Tactic.Common
import TargetPicker.Proofs.Input.Exhaustion
import TargetPicker.Proofs.Makefile.Lookahead

/-!
# Rounds of the two loops

The loops that read a makefile have no counter: the outer one stops where there is no line or an
error, the inner one where the next item is no recipe line.  Here they run one round at a time
(`Stage.round`), and nothing says beforehand that this comes to an end.

It does, since every round takes an item that was still to come or leaves the inner loop for good
(`roundsLeft_round_lt`).  An item that goes back into the slot does not count as taken, which is why
a round of the inner loop has to be worth one more than a round of the outer one.  What the rounds
lead to is what the loops give (`reading_round`), so **enough rounds end with the reading of the
makefile**, and the items of the source say how many are enough.
-/

namespace TargetPicker

open ReadEvent (contentLength failures)

/-- **Where the two loops stand** between two rounds. -/
inductive Stage where
  /-- The outer loop asks for the next line. -/
  | outer (found : Makefile) (log : List Record) (a : Lookahead)
  /-- The inner loop asks for the next recipe line of a rule that has the others already. -/
  | inner (found : Makefile) (log : List Record) (r : Rule) (a : Lookahead)
  | done (reading : Reading)

namespace Stage

/-- Before the first round. -/
def start (s : LineSource) : Stage :=
  outer { identifier := s.identifier, rules := [], definitions := [] } [] (Lookahead.ofSource s)

/-- **One round** of the loop that is running. -/
def round : Stage → Stage
  | outer found log a =>
    match a.next with
    | (none, _) =>
      done
        { result := .ok found
          log := log ++ [.parsed found.identifier found.rules.length found.definitions.length] }
    | (some (.error e), _) => done { result := .error e, log }
    | (some (.ok l), rest) =>
      let recognized := log ++ [.recognized found.identifier l.number (LineKind.ofText l.text)]
      match LineKind.ofText l.text with
      | .ruleHeader target prerequisites =>
        inner found recognized
          { target
            dependencies := dependencyNames prerequisites
            body := []
            identifier := found.identifier
            lineNumber := l.number } rest
      | _ =>
        outer
          { found with
            definitions := found.definitions ++ (l.definition? found.identifier).toList }
          recognized rest
  | inner found log r a =>
    match a.nextIf LineItem.isRecipe with
    | (some (.ok l), rest) => inner found log { r with body := r.body ++ l.command?.toList } rest
    | (some (.error e), _) => done { result := .error e, log }
    | (none, rest) =>
      outer { found with rules := found.rules ++ [r] }
        (log ++ [.rule r.target r.lineNumber r.body.length]) rest
  | done reading => done reading

/-- What the loops give from here on. -/
def reading : Stage → Reading
  | outer found log a => Lookahead.run found log a
  | inner found log r a =>
    match a.takeRecipe r.body with
    | (.error e, _) => { result := .error e, log }
    | (.ok body, rest) =>
      Lookahead.run { found with rules := found.rules ++ [{ r with body }] }
        (log ++ [.rule r.target r.lineNumber body.length]) rest
  | done reading => reading

/-- How many rounds there may be from here on. -/
def roundsLeft : Stage → ℕ
  | outer _ _ a => 2 * a.items.length + 1
  | inner _ _ _ a => 2 * a.items.length + 2
  | done _ => 0

variable {s : Stage}

/-- **A round brings the end nearer.** -/
theorem roundsLeft_round_lt (h : s.roundsLeft ≠ 0) : s.round.roundsLeft < s.roundsLeft := by
  cases s with
  | outer found log a =>
      rcases hnext : a.next with ⟨_ | e | l, rest⟩
      · simp [round, hnext, roundsLeft]
      · simp [round, hnext, roundsLeft]
      · have hitems := (Lookahead.items_of_next_some hnext).1
        simp only [round, hnext]
        split <;> simp only [roundsLeft, hitems, List.length_cons] <;> omega
  | inner found log r a =>
      rcases hnext : a.nextIf LineItem.isRecipe with ⟨_ | e | l, rest⟩
      · have hitems := (Lookahead.items_of_nextIf_none hnext).1
        simp only [round, hnext, roundsLeft, hitems]
        omega
      · simp [round, hnext, roundsLeft]
      · have hitems := (Lookahead.items_of_nextIf_some hnext).2.1
        simp only [round, hnext, roundsLeft, hitems, List.length_cons]
        omega
  | done reading => exact absurd rfl h

/-- **A round changes nothing about what the loops will give.** -/
theorem reading_round (s : Stage) : s.round.reading = s.reading := by
  cases s with
  | outer found log a =>
      change (outer found log a).round.reading = Lookahead.run found log a
      fun_cases Lookahead.run found log a with
      | case1 rest hnext => simp only [round, hnext, reading]
      | case2 e rest hnext => simp only [round, hnext, reading]
      | case3 l rest hnext hrest recognized target prerequisites hkind e after hbody =>
          simp only [round, hnext, hkind, reading, hbody, recognized]
      | case4 l rest hnext hrest recognized target prerequisites hkind body after hbody hafter =>
          simp only [round, hnext, hkind, reading, hbody, recognized]
      | case5 l rest hnext hrest recognized hkind =>
          simp only [round, hnext]
          rfl
  | inner found log r a =>
      simp only [reading]
      fun_cases Lookahead.takeRecipe a r.body with
      | case1 rest hnext => simp only [round, hnext]
      | case2 e rest hnext => simp only [round, hnext]
      | case3 l rest hnext hsize => simp only [round, hnext]
  | done reading => rfl

lemma eq_done_of_roundsLeft (h : s.roundsLeft = 0) : s = done s.reading := by
  cases s with
  | outer found log a => simp [roundsLeft] at h
  | inner found log r a => simp [roundsLeft] at h
  | done reading => rfl

/-- **Enough rounds lead to the end**, with the reading that the loops give. -/
theorem iterate_round {k : ℕ} (h : s.roundsLeft ≤ k) : round^[k] s = done s.reading := by
  induction k generalizing s with
  | zero => exact eq_done_of_roundsLeft (Nat.le_zero.mp h)
  | succ k ih =>
      have hround : s.round.roundsLeft ≤ k := by
        rcases eq_or_ne s.roundsLeft 0 with hzero | hne
        · rw [eq_done_of_roundsLeft hzero]
          exact Nat.zero_le k
        · exact Nat.le_of_lt_succ ((roundsLeft_round_lt hne).trans_le h)
      rw [Function.iterate_succ_apply, ih hround, reading_round]

/-- **The inner loop leaves off** after one round for each line of the recipe, and one more. -/
theorem exists_iterate_inner (found : Makefile) (log : List Record) (r : Rule) (a : Lookahead) :
    ∃ k ≤ a.items.length + 1, ∃ body rest, a.takeRecipe r.body = (.ok body, rest) ∧
      round^[k] (inner found log r a)
        = outer { found with rules := found.rules ++ [{ r with body }] }
            (log ++ [.rule r.target r.lineNumber body.length]) rest := by
  generalize hcommands : r.body = commands
  fun_induction Lookahead.takeRecipe a commands generalizing r with
  | case1 a commands rest hnext =>
      subst hcommands
      exact ⟨1, Nat.le_add_left 1 _, r.body, rest, rfl, by
        simp only [Function.iterate_one, round, hnext]⟩
  | case2 a commands rest e hnext => cases (Lookahead.items_of_nextIf_some hnext).1
  | case3 a commands l rest hnext hsize ih =>
      subst hcommands
      obtain ⟨k, hk, body, after, htake, hround⟩ :=
        ih { r with body := r.body ++ l.command?.toList } rfl
      refine ⟨k + 1, ?_, body, after, htake, ?_⟩
      · rw [(Lookahead.items_of_nextIf_some hnext).2.1, List.length_cons]
        exact Nat.succ_le_succ hk
      · rw [Function.iterate_succ_apply]
        simpa only [round, hnext] using hround

end Stage

/-! ## Reading comes to an end -/

/-- **That reading comes to an end**: a source, and the loops that share it, failures or not. -/
structure ComesToAnEnd (identifier : Text) (events : List ReadEvent) : Prop where
  /-- A new source delivers its items, at most one for each byte and each failure, and after them
  nothing, however often it is asked. -/
  delivered : ∃ items : List LineItem,
    items.length ≤ contentLength events + (failures events).length ∧
    ∀ k, (LineSource.ofEvents identifier events).answers k
      = (items.take k).map some ++ List.replicate (k - items.length) none
  /-- A line takes bytes and no failure, an error takes the first failure. -/
  paid : ∀ (s s' : LineSource) item, s.next = (some item, s') → s.Takes s' item
  /-- A source without a next line has none later. -/
  settled : ∀ s s' : LineSource, s.next = (none, s') → s'.next = (none, s')
  /-- The inner loop gives a body. -/
  recipe : ∀ found log (r : Rule) (a : Lookahead),
    ∃ k ≤ a.items.length + 1, ∃ body rest, a.takeRecipe r.body = (.ok body, rest) ∧
      Stage.round^[k] (.inner found log r a)
        = .outer { found with rules := found.rules ++ [{ r with body }] }
            (log ++ [.rule r.target r.lineNumber body.length]) rest
  /-- The outer loop gives a reading, from wherever it starts. -/
  outer : ∀ found log (a : Lookahead), ∃ k ≤ 2 * a.items.length + 1,
    Stage.round^[k] (.outer found log a) = .done (Lookahead.run found log a)
  /-- So there is a reading of the makefile after two rounds for each byte and each failure, and one
  more. -/
  makefile : ∀ k, 2 * (contentLength events + (failures events).length) + 1 ≤ k →
    Stage.round^[k] (Stage.start (LineSource.ofEvents identifier events))
      = .done (Makefile.parse identifier events)

/-- **Reading comes to an end**, whatever the reader gives. -/
theorem reading_comes_to_an_end (identifier : Text) (events : List ReadEvent) :
    ComesToAnEnd identifier events where
  delivered := ⟨_, LineSource.length_items_le _, LineSource.answers_eq _⟩
  paid s s' item := LineSource.takes_of_next
  settled s s' := LineSource.next_of_next_none
  recipe := Stage.exists_iterate_inner
  outer found log a := ⟨_, le_rfl, Stage.iterate_round le_rfl⟩
  makefile k hk := by
    have hitems := LineSource.length_items_le (LineSource.ofEvents identifier events)
    have hrounds : (Stage.start (LineSource.ofEvents identifier events)).roundsLeft ≤ k := by
      refine le_trans ?_ hk
      exact Nat.succ_le_succ (Nat.mul_le_mul_left 2 hitems)
    rw [Stage.iterate_round hrounds]
    exact congrArg Stage.done (Lookahead.parse_eq _)

end TargetPicker
