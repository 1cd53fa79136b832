import Mathlib.Tactic.Common
import TargetPicker.Proofs.Input.Cursor

/-!
# Coming to the end of a source

Failures do not end a source, so it is not the errors that stop a loop which asks for one line after
the other.  What stops it is that every answer is paid for: a line takes bytes of the reader and an
error takes a failure (`LineSource.takes_of_next`).  There are as many of them as there are, and so
**a source delivers no more items than its reader has bytes and failures** (`length_items_le`).

Behind its items a source has nothing to deliver, however often it is asked (`answers_eq`).
-/

namespace TargetPicker

/-! ## What one attempt takes -/

namespace ReadEvent

/-- **The failures among events**, in order; interrupted reads are none. -/
def failures (events : List ReadEvent) : List Failure := events.filterMap fatal?

lemma failures_cons_of_none {e : ReadEvent} (h : e.fatal? = none) (events : List ReadEvent) :
    failures (e :: events) = failures events :=
  List.filterMap_cons_none h

/-- **An attempt takes a failure** if it fails, and none otherwise. -/
theorem failures_readOnto (collected : Bytes) (events : List ReadEvent) :
    match readOnto collected events with
    | (.failed cause _, rest) => failures events = cause :: failures rest
    | (_, rest) => failures rest = failures events := by
  fun_induction readOnto collected events with
  | case1 collected =>
      rcases eq_or_ne collected [] with rfl | hne
      · rfl
      · rw [leftOver_of_ne_nil hne]
  | case2 collected rest =>
      rcases eq_or_ne collected [] with rfl | hne
      · rfl
      · rw [leftOver_of_ne_nil hne]
        rfl
  | case3 collected cause rest hkind ih =>
      have hfatal : (failure cause).fatal? = none := if_pos hkind
      rw [failures_cons_of_none hfatal]
      exact ih
  | case4 collected cause rest hkind => exact List.filterMap_cons_some (if_neg hkind)
  | case5 collected content rest hdrop ih =>
      rw [failures_cons_of_none rfl]
      exact ih
  | case6 collected content rest first after hdrop => rfl

/-- How many items events can pay for. -/
def budget (events : List ReadEvent) : ℕ := contentLength events + (failures events).length

end ReadEvent

/-! ## What one item takes -/

namespace LineSource

open ReadEvent (readRaw contentLength failures budget)

variable {s s' : LineSource}

/-- **What is taken** of a reader by an item of a source: bytes by a line, the first failure by an
error. -/
def Takes (s s' : LineSource) : LineItem → Prop
  | .ok _ => contentLength s'.events < contentLength s.events ∧
    failures s'.events = failures s.events
  | .error e => contentLength s'.events ≤ contentLength s.events ∧
    ∃ cause, e = .reading s.identifier cause ∧ failures s.events = cause :: failures s'.events

/-- **Every item is paid for.** -/
theorem takes_of_next {item : LineItem} (h : s.next = (some item, s')) : s.Takes s' item := by
  have hbytes := ReadEvent.contentLength_readOnto [] s.events
  have hfailures := ReadEvent.failures_readOnto [] s.events
  have hs : s.finished = false := by
    by_contra hfinished
    rw [next_of_finished (by simpa using hfinished)] at h
    cases h
  rcases hread : readRaw s.events with ⟨raw | _ | ⟨cause, kept⟩, rest⟩
  · rw [show ReadEvent.readOnto [] s.events = _ from hread] at hbytes hfailures
    rw [next_of_bytes hs hread] at h
    cases h
    refine ⟨?_, hfailures⟩
    dsimp only at hbytes ⊢
    rw [List.length_nil, Nat.zero_add] at hbytes
    omega
  · rw [next_of_end hs hread] at h
    cases h
  · rw [show ReadEvent.readOnto [] s.events = _ from hread] at hbytes hfailures
    rw [next_of_failed hs hread] at h
    cases h
    exact ⟨hbytes, cause, rfl, hfailures⟩

lemma Takes.budget_lt {item : LineItem} (h : s.Takes s' item) :
    budget s'.events < budget s.events := by
  unfold budget
  cases item with
  | ok l =>
      obtain ⟨hbytes, hfailures⟩ := h
      rw [hfailures]
      omega
  | error e =>
      obtain ⟨hbytes, cause, -, hfailures⟩ := h
      rw [hfailures, List.length_cons]
      omega

/-- **A source delivers no more items than its reader can pay for.** -/
theorem length_items_le (s : LineSource) : s.items.length ≤ budget s.events := by
  induction hn : budget s.events using Nat.strongRecOn generalizing s with
  | ind n ih =>
      rcases hnext : s.next with ⟨_ | item, s'⟩
      · rw [items_of_next_none hnext]
        exact Nat.zero_le n
      · have hlt : budget s'.events < n := hn ▸ (takes_of_next hnext).budget_lt
        have hrest := ih _ hlt s' rfl
        rw [items_of_next_some hnext, List.length_cons]
        omega

/-! ## Asking over and over -/

/-- A source that has nothing more to deliver stays as it is. -/
lemma next_of_next_none (h : s.next = (none, s')) : s'.next = (none, s') := by
  cases hs : s.finished with
  | true =>
      rw [next_of_finished hs] at h
      cases h
      exact next_of_finished hs
  | false =>
      rcases hread : readRaw s.events with ⟨raw | _ | ⟨cause, kept⟩, rest⟩
      · rw [next_of_bytes hs hread] at h
        cases h
      · rw [next_of_end hs hread] at h
        cases h
        exact next_of_finished rfl
      · rw [next_of_failed hs hread] at h
        cases h

/-- The answers of a source that is asked for the next line `k` times. -/
def answers (s : LineSource) : ℕ → List (Option LineItem)
  | 0 => []
  | k + 1 => s.next.1 :: s.next.2.answers k

/-- **The items come first, and then nothing**, however often a source is asked. -/
theorem answers_eq (s : LineSource) (k : ℕ) :
    s.answers k = (s.items.take k).map some ++ List.replicate (k - s.items.length) none := by
  induction k generalizing s with
  | zero => simp [answers]
  | succ k ih =>
      rw [answers, ih]
      rcases hnext : s.next with ⟨_ | item, s'⟩
      · simp [items_of_next_none hnext, items_of_next_none (next_of_next_none hnext),
          List.replicate_succ]
      · simp [items_of_next_some hnext]

/-- A failure, a line that an empty read ends, and a line without a line feed. -/
example :
    let broken : Failure := ⟨.brokenPipe, []⟩
    (ofEvents [] [.failure broken, .bytes [97], .endOfFile, .bytes [98]]).answers 5
      = [some (.error (.reading [] broken)), some (.ok ⟨2, ['a']⟩), some (.ok ⟨3, ['b']⟩),
          none, none] := by
  decide +kernel

end LineSource

end TargetPicker
