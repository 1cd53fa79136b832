import TargetPicker.Input.Failure

/-!
# Reading up to the next line feed

A reader is the list of what its reads will give: some bytes, no bytes, or a failure.  After the
list every read gives no bytes.  `readOnto` collects bytes up to and including the next line feed,
behind those that are collected already.

* Chunks without bytes and interrupted reads leave no trace.
* Any other failure ends the attempt.  The bytes collected so far are no line, but they are kept.
* A read without bytes ends the line where it stands; only with nothing collected is it the end of
  the input.

`size` is what an attempt uses up (`totalSize_readRaw_lt`), so reading on and on comes to an end.
-/

namespace TargetPicker

/-- What one read of a reader gives. -/
inductive ReadEvent where
  | bytes (content : Bytes)
  /-- A read that gives no bytes. -/
  | endOfFile
  | failure (cause : Failure)
  deriving DecidableEq, Repr, Inhabited

/-- What an attempt to read a line gives. -/
inductive RawLine where
  /-- The bytes of a line, with its line feed if it has one; never empty. -/
  | bytes (content : Bytes)
  | finished
  /-- The read failed, with some bytes of a line collected. -/
  | failed (cause : Failure) (kept : Bytes)
  deriving DecidableEq, Repr, Inhabited

namespace ReadEvent

/-- The byte that ends a line. -/
def lineFeed : UInt8 := 0x0A

/-- The byte that may stand before a line feed and then belongs to it. -/
def carriageReturn : UInt8 := 0x0D

/-- The line that a read without bytes leaves: what was collected, if anything. -/
def leftOver (collected : Bytes) : RawLine :=
  if collected.isEmpty then .finished else .bytes collected

/-- Goes on reading a line of which some bytes are collected. -/
def readOnto (collected : Bytes) : List ReadEvent → RawLine × List ReadEvent
  | [] => (leftOver collected, [])
  | endOfFile :: rest => (leftOver collected, rest)
  | failure cause :: rest =>
    if cause.kind = .interrupted then readOnto collected rest
    else (.failed cause collected, rest)
  | bytes content :: rest =>
    match content.dropWhile (· != lineFeed) with
    | [] => readOnto (collected ++ content) rest
    | _ :: after =>
      (.bytes (collected ++ content.takeWhile (· != lineFeed) ++ [lineFeed]), bytes after :: rest)

/-- **Reads one line** with nothing collected, and gives the events that are left. -/
def readRaw (events : List ReadEvent) : RawLine × List ReadEvent := readOnto [] events

/-! ## Reading uses events up -/

/-- One for the event and one for each byte. -/
def size : ReadEvent → Nat
  | bytes content => content.length + 1
  | _ => 1

/-- The size of all events together. -/
def totalSize (events : List ReadEvent) : Nat := events.foldr (fun e n => e.size + n) 0

theorem totalSize_cons (e : ReadEvent) (events : List ReadEvent) :
    totalSize (e :: events) = e.size + totalSize events := by
  rfl

theorem totalSize_readOnto_le (collected : Bytes) (events : List ReadEvent) :
    totalSize (readOnto collected events).2 ≤ totalSize events ∧
      (events ≠ [] → totalSize (readOnto collected events).2 < totalSize events) := by
  fun_induction readOnto collected events with
  | case1 => simp
  | case2 _ rest => simp [totalSize_cons, size]
  | case3 _ cause rest _ ih => simp only [totalSize_cons, size]; omega
  | case4 _ cause rest _ => simp [totalSize_cons, size]
  | case5 _ content rest _ ih => simp only [totalSize_cons, size]; omega
  | case6 _ content rest first after h =>
    have hlen : (first :: after).length ≤ content.length :=
      h ▸ (List.dropWhile_suffix _).length_le
    simp only [List.length_cons] at hlen
    simp only [totalSize_cons, size]
    omega

/-- An attempt that is not the end of the input uses something up. -/
theorem totalSize_readRaw_lt {events : List ReadEvent} (h : (readRaw events).1 ≠ .finished) :
    totalSize (readRaw events).2 < totalSize events := by
  refine (totalSize_readOnto_le [] events).2 ?_
  rintro rfl
  exact h rfl

end ReadEvent

end TargetPicker
