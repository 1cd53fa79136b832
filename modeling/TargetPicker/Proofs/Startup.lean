import Mathlib.Tactic.Common
import TargetPicker.Proofs.Makefile.ReadFailure
import TargetPicker.Startup

/-!
# The targets to pick from

The targets come from a makefile that was opened and read, and there is at least one
(`exists_of_loadTargets`).  There are no more of them than the file has bytes, since every rule has
a line of its own and every line takes a byte (`length_rules_le`).
-/

namespace TargetPicker

/-- **Where targets come from.** -/
theorem exists_of_loadTargets {path : Text} {found : Except Failure Bool}
    {opened : Except Failure (List ReadEvent)} {targets : List Text}
    (h : (loadTargets path found opened).result = .ok targets) :
    targets ≠ [] ∧ ∃ events m, opened = .ok events ∧
      (Makefile.parse path events).result = .ok m ∧ m.targets = targets := by
  have hreading : (Startup.ofReading (Makefile.parseOpened path opened)).result = .ok targets := by
    unfold loadTargets at h
    split at h
    · cases h
    · exact h
  cases opened with
  | error cause => cases hreading
  | ok events =>
      have hparsed : (Makefile.parseOpened path (.ok events)).result
          = (Makefile.parse path events).result := rfl
      simp only [Startup.ofReading, hparsed] at hreading
      cases hresult : (Makefile.parse path events).result with
      | error e => rw [hresult] at hreading; cases hreading
      | ok m =>
          rw [hresult] at hreading
          dsimp only at hreading
          split at hreading
          · cases hreading
          · next hne =>
            cases hreading
            exact ⟨by simpa using hne, events, m, rfl, hresult, rfl⟩

namespace Makefile

variable {identifier : Text}

lemma length_rules_ofLines_le (lines : List Line) :
    (ofLines identifier lines).rules.length ≤ lines.length := by
  induction lines with
  | nil => exact Nat.le_refl _
  | cons l after ih =>
      have hone : (Rule.headed? identifier (l :: after)).toList.length ≤ 1 := by
        cases Rule.headed? identifier (l :: after) <;> simp
      rw [ofLines_cons, List.length_append, List.length_cons]
      omega

/-- **There are no more rules than bytes.** -/
theorem length_rules_le {events : List ReadEvent} {m : Makefile}
    (h : (parse identifier events).result = .ok m) :
    m.rules.length ≤ ReadEvent.contentLength events := by
  have hlines : (LineSource.linesOf identifier events).length
      ≤ ReadEvent.contentLength events :=
    (((List.takeWhile_sublist _).filterMap _).length_le).trans
      (LineSource.length_lines_itemsFrom_le identifier 1 events)
  rw [parse_result] at h
  split at h
  · cases h
  · cases h
    exact (length_rules_ofLines_le _).trans hlines

end Makefile

end TargetPicker
