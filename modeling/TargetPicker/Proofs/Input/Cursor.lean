import Mathlib.Tactic.Common
import TargetPicker.Proofs.Input.Chunks
import TargetPicker.Proofs.Steps

/-!
# The cursor of a source

The two ways to move through a source can be mixed at will, since they share all they change.  A
move reads one line or changes nothing, and `advance` reads even behind the end
(`LineSource.state_move`).  So the count and the end can be read off the steps
(`LineSource.ofEvents_followsMoves`).

* **The count** is one more than the steps that read: each `advance`, and each `next` that was asked
  before the end was met.
* **The end** was met if one of these steps found a read without bytes at the start of a line
  (`ReadEvent.first`).  Lines that `advance` finds behind it do not take that back.

Up to the end it makes no difference which of the two is asked, except for how the answer is given
(`LineSource.itemOf`).  With `next` alone every item counts one, so a line has its place among the
items as its number.
-/

namespace TargetPicker

open ReadEvent (readRaw readOnto)

/-! ## The end of the input -/

namespace ReadEvent

/-- **What a reader gives next**, apart from events without a trace.  Behind the list it is a read
without bytes. -/
def first (events : List ReadEvent) : ReadEvent :=
  (events.find? fun e => !e.isSilent).getD .endOfFile

lemma first_cons_of_isSilent {e : ReadEvent} (h : e.isSilent = true) (events : List ReadEvent) :
    first (e :: events) = first events := by
  rw [first, List.find?_cons_of_neg (by simp [h])]
  rfl

lemma first_cons_of_not {e : ReadEvent} (h : e.isSilent = false) (events : List ReadEvent) :
    first (e :: events) = e := by
  rw [first, List.find?_cons_of_pos (by simp [h])]
  rfl

/-- Where bytes are collected, an attempt does not find the end. -/
lemma readOnto_ne_finished {collected : Bytes} (h : collected ≠ []) (events : List ReadEvent) :
    (readOnto collected events).1 ≠ .finished := by
  fun_induction readOnto collected events with
  | case1 collected => simp [leftOver_of_ne_nil h]
  | case2 collected rest => simp [leftOver_of_ne_nil h]
  | case3 collected cause rest hkind ih => exact ih h
  | case4 collected cause rest hkind => simp
  | case5 collected content rest hdrop ih => exact ih (List.append_ne_nil_of_left_ne_nil h content)
  | case6 collected content rest first after hdrop => simp

/-- **An attempt finds the end** if the first read has no bytes. -/
theorem readRaw_eq_finished_iff (events : List ReadEvent) :
    (readRaw events).1 = .finished ↔ first events = .endOfFile := by
  induction events with
  | nil => exact iff_of_true rfl rfl
  | cons e rest ih =>
      cases hsilent : e.isSilent with
      | true =>
          have hread : readRaw (e :: rest) = readRaw rest := by
            rcases e with content | _ | cause
            · obtain rfl : content = [] := by simpa [isSilent] using hsilent
              rfl
            · cases hsilent
            · rw [readRaw, readOnto, if_pos (by simpa [isSilent] using hsilent)]
              rfl
          rw [hread, ih, first_cons_of_isSilent hsilent]
      | false =>
          rw [first_cons_of_not hsilent]
          rcases e with content | _ | cause
          · have hne : content ≠ [] := by simpa [isSilent] using hsilent
            refine iff_of_false ?_ (by simp)
            rw [readRaw, readOnto]
            split
            · exact readOnto_ne_finished (by simpa using hne) rest
            · simp
          · exact iff_of_true rfl rfl
          · refine iff_of_false ?_ (by simp)
            rw [readRaw, readOnto, if_neg (by simpa [isSilent] using hsilent)]
            simp

end ReadEvent

/-! ## One move -/

/-- Holds for the answer that the input is at its end, and for an error. -/
def Move.Answer.isFailure : Move.Answer → Bool
  | .advanced result => result != .ok true
  | .delivered item => item.any fun item => !item.toBool

namespace LineSource

variable {s : LineSource}

@[simp] lemma lineNumber_advance (s : LineSource) : s.advance.2.lineNumber = s.lineNumber + 1 := by
  rw [advance_eq]
  rcases readRaw s.events with ⟨_ | _ | _, rest⟩ <;> rfl

/-- Only the end of the input changes whether the end was met. -/
lemma finished_advance (s : LineSource) :
    s.advance.2.finished = true ↔ s.finished = true ∨ ReadEvent.first s.events = .endOfFile := by
  rw [← ReadEvent.readRaw_eq_finished_iff]
  rw [advance_eq]
  rcases readRaw s.events with ⟨_ | _ | _, rest⟩ <;> simp

/-- Without a line there is no text. -/
lemma text_advance (s : LineSource) : s.advance.1 ≠ .ok true → s.advance.2.text = [] := by
  rw [advance_eq]
  rcases readRaw s.events with ⟨_ | _ | _, rest⟩
  · exact absurd rfl
  · exact fun _ => rfl
  · exact fun _ => rfl

/-- What `next` answers where `advance` gives a result and leaves a source. -/
def itemOf : Except SourceError Bool × LineSource → Option LineItem
  | (.ok true, t) => some (.ok ⟨t.currentLineNumber, t.text⟩)
  | (.ok false, _) => none
  | (.error e, _) => some (.error e)

lemma next_of_finished (h : s.finished = true) : s.next = (none, s) := by
  rw [next, if_pos h]

/-- Up to the end the two ways to move on are one. -/
lemma next_of_unfinished (h : s.finished = false) : s.next = (itemOf s.advance, s.advance.2) := by
  rw [next, if_neg (by simp [h])]
  rcases s.advance with ⟨_ | _ | _, t⟩ <;> rfl

/-- Holds if a move reads. -/
def reads (s : LineSource) : Move → Bool
  | .advance => true
  | .next => !s.finished

/-- **A move reads a line**, or it changes nothing. -/
theorem state_move (s : LineSource) (m : Move) :
    (s.move m).2 = if s.reads m then s.advance.2 else s := by
  cases m with
  | advance => rfl
  | next =>
      show s.next.2 = if !s.finished then _ else s
      cases h : s.finished with
      | true => rw [next_of_finished h]; rfl
      | false => rw [next_of_unfinished h]; rfl

/-- Where a move finds no line, there is no text. -/
lemma text_move (s : LineSource) (m : Move) (h : (s.move m).1.isFailure = true) :
    (s.move m).2.text = [] := by
  cases m with
  | advance => exact text_advance s (by simpa [move, Move.Answer.isFailure] using h)
  | next =>
      show s.next.2.text = []
      replace h : (s.next.1.any fun item => !item.toBool) = true := h
      cases hs : s.finished with
      | true =>
          rw [next_of_finished hs] at h
          cases h
      | false =>
          rw [next_of_unfinished hs] at h ⊢
          refine text_advance s fun hline => ?_
          rcases hadvance : s.advance with ⟨answer, t⟩
          rw [hadvance] at h hline
          obtain rfl : answer = .ok true := hline
          cases h

/-! ## Many moves -/

/-- The source after a sequence of moves. -/
def moveAll (s : LineSource) (moves : List Move) : LineSource :=
  moves.foldl (fun s m => (s.move m).2) s

/-- The steps of a sequence of moves: each move, and the source that it met. -/
def steps (s : LineSource) (moves : List Move) : List (LineSource × Move) :=
  stepsOf (fun s m => (s.move m).2) s moves

@[simp] lemma steps_cons (s : LineSource) (m : Move) (moves : List Move) :
    s.steps (m :: moves) = (s, m) :: (s.move m).2.steps moves := rfl

/-- Each step that reads counts one. -/
lemma lineNumber_moveAll (s : LineSource) (moves : List Move) :
    (s.moveAll moves).lineNumber
      = s.lineNumber + (s.steps moves).countP fun step => step.1.reads step.2 := by
  induction moves generalizing s with
  | nil => rfl
  | cons m moves ih =>
      rw [steps_cons, List.countP_cons]
      refine (ih (s.move m).2).trans ?_
      rw [state_move]
      cases s.reads m with
      | true => simp only [if_true, lineNumber_advance]; omega
      | false => rfl

/-- The steps that read are the `advance`s, and the `next`s before the end. -/
lemma countP_reads_steps (s : LineSource) (moves : List Move) :
    ((s.steps moves).countP fun step => step.1.reads step.2)
      = moves.count .advance +
        (s.steps moves).countP fun step => step.2 == .next && !step.1.finished := by
  induction moves generalizing s with
  | nil => rfl
  | cons m moves ih =>
      rw [steps_cons, List.countP_cons, List.countP_cons, List.count_cons, ih]
      cases m with
      | advance => simp [reads, Nat.add_right_comm]
      | next => simp [reads, Nat.add_assoc]

/-- The end was met at the start, or by one of the steps that read. -/
lemma finished_moveAll (s : LineSource) (moves : List Move) :
    (s.moveAll moves).finished = true ↔ s.finished = true ∨
      ∃ step ∈ s.steps moves, step.1.reads step.2 = true ∧
        ReadEvent.first step.1.events = .endOfFile := by
  induction moves generalizing s with
  | nil => simp [moveAll, steps, stepsOf]
  | cons m moves ih =>
      have hmove : (s.move m).2.finished = true ↔ s.finished = true ∨
          (s.reads m = true ∧ ReadEvent.first s.events = .endOfFile) := by
        rw [state_move]
        cases s.reads m with
        | true => simp [finished_advance]
        | false => simp
      refine (ih (s.move m).2).trans ?_
      simp only [hmove, steps_cons, List.exists_mem_cons_iff, or_assoc]

/-! ## The law -/

/-- With one count for each item, a line is numbered by its place. -/
lemma number_of_getElem?_itemsFrom {identifier : Text} {events : List ReadEvent} {n i : ℕ}
    {l : Line} (h : (itemsFrom identifier n events)[i]? = some (.ok l)) : l.number = n + i := by
  induction events using ReadEvent.readInduction generalizing n i with
  | finished events rest hread =>
      rw [itemsFrom_finished hread] at h
      cases h
  | line events raw rest hread ih =>
      rw [itemsFrom_line hread] at h
      cases i with
      | zero => cases h; rfl
      | succ i => rw [ih h]; omega
  | failed events cause kept rest hread ih =>
      rw [itemsFrom_failed hread] at h
      cases i with
      | zero => cases h
      | succ i => rw [ih h]; omega

/-- **A source whose count and end can be read off the moves** that led to it from a new one. -/
structure FollowsMoves (start : LineSource) (moves : List Move) (s : LineSource) : Prop where
  /-- The count is one more than the moves that read: `advance` always does, and `next` does while
  the end was not met. -/
  lineNumber : s.lineNumber = 1 + moves.count .advance +
    (start.steps moves).countP fun step => step.2 == .next && !step.1.finished
  /-- The current line is the one before. -/
  currentLineNumber : s.lineNumber = s.currentLineNumber + 1
  /-- The end was met if one of the moves read, and found no bytes at the start of a line. -/
  finished : s.finished = true ↔ ∃ step ∈ start.steps moves,
    step.1.reads step.2 = true ∧ ReadEvent.first step.1.events = .endOfFile
  /-- It stays so, whatever is found behind. -/
  finished_stays : s.finished = true → ∀ more, (s.moveAll more).finished = true
  /-- Up to the end `next` does what `advance` does, and gives the line that is then current. -/
  unfinished : s.finished = false → s.next = (itemOf s.advance, s.advance.2)
  /-- Behind the end `next` gives nothing and changes nothing. -/
  behind : s.finished = true → s.next = (none, s)
  /-- Where a move finds no line, there is no text. -/
  text : ∀ m, (s.move m).1.isFailure = true → (s.move m).2.text = []

/-- **The moves say it all**: the count, the end, and what the next move does, for every source and
every mix of the two ways to move on.  With `next` alone a line has its place as its number. -/
theorem ofEvents_followsMoves (identifier : Text) (events : List ReadEvent) :
    (∀ moves, FollowsMoves (ofEvents identifier events) moves
      ((ofEvents identifier events).moveAll moves)) ∧
    ∀ i l, (ofEvents identifier events).items[i]? = some (.ok l) → l.number = i + 1 := by
  refine ⟨fun moves => ?_, fun i l h => ?_⟩
  · set s := (ofEvents identifier events).moveAll moves
    have hcount := lineNumber_moveAll (ofEvents identifier events) moves
    rw [countP_reads_steps, ← Nat.add_assoc] at hcount
    exact {
      lineNumber := hcount
      currentLineNumber := by
        have hpos : 0 < s.lineNumber := by
          rw [hcount]
          show 0 < 1 + _ + _
          omega
        exact (Nat.sub_add_cancel hpos).symm
      finished := by
        rw [finished_moveAll]
        exact or_iff_right Bool.false_ne_true
      finished_stays := fun h more => (finished_moveAll s more).mpr (Or.inl h)
      unfinished := next_of_unfinished
      behind := next_of_finished
      text := text_move s }
  · rw [Nat.add_comm]
    exact number_of_getElem?_itemsFrom h

/-- Behind the end `advance` finds a line, and `next` leaves it where it is. -/
example :
    let s := (ofEvents [] [.endOfFile, .bytes (Text.utf8 "all:\n".toList)]).moveAll
      [.next, .advance, .next]
    (s.text, s.finished, s.lineNumber) = ("all:".toList, true, 3) := by
  decide +kernel

end LineSource

end TargetPicker
