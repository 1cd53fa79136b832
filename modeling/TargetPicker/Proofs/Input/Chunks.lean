import Mathlib.Tactic.Common
import TargetPicker.Proofs.Input.Stream
import TargetPicker.Proofs.Makefile.LineByLine

/-!
# Chunks

A reader hands its bytes out in chunks, and where one chunk ends and the next one begins says
nothing about the input.  `ReadEvent.stream` is what is left of a list of events when chunks no
longer show: events without a trace are left out, and adjacent contents are one content.

**Events with the same stream cannot be told apart**, neither by moving through a source of lines in
whatever way nor by reading a makefile (`LineSource.trace_parse_eq_of_stream`).

The argument is a simulation.  One attempt to read a line finds the same on a list of events as on
its stream, and leaves the same stream behind (`readOnto_stream`).  So two sources whose readers
have the same stream, and which are equal in everything else, stay `Alike` with every move.
-/

namespace TargetPicker

open ReadEvent (lineFeed readRaw readOnto)

/-! ## Streams -/

namespace ReadEvent

/-- An event without a trace: a chunk without bytes, or an interrupted read, which is taken
again. -/
def isSilent : ReadEvent → Bool
  | bytes content => content.isEmpty
  | endOfFile => false
  | failure cause => cause.kind == .interrupted

/-- An event in front of others.  A content in front of a content becomes one with it. -/
def join : ReadEvent → List ReadEvent → List ReadEvent
  | bytes content, bytes next :: rest => bytes (content ++ next) :: rest
  | e, rest => e :: rest

/-- **The stream** that events amount to: events without a trace are left out, and adjacent contents
are one. -/
def stream (events : List ReadEvent) : List ReadEvent :=
  (events.filter fun e => !e.isSilent).foldr join []

lemma stream_cons_of_isSilent {e : ReadEvent} (h : e.isSilent = true) (events : List ReadEvent) :
    stream (e :: events) = stream events := by
  rw [stream, List.filter_cons_of_neg (by simp [h])]
  rfl

lemma stream_cons_of_not {e : ReadEvent} (h : e.isSilent = false) (events : List ReadEvent) :
    stream (e :: events) = join e (stream events) := by
  rw [stream, List.filter_cons_of_pos (by simp [h])]
  rfl

/-- The stream of the events behind decides about the stream of all. -/
lemma stream_cons_congr {events events' : List ReadEvent} (h : stream events = stream events')
    (e : ReadEvent) : stream (e :: events) = stream (e :: events') := by
  cases hsilent : e.isSilent with
  | true => rw [stream_cons_of_isSilent hsilent, stream_cons_of_isSilent hsilent, h]
  | false => rw [stream_cons_of_not hsilent, stream_cons_of_not hsilent, h]

/-- **Where a content is cut** makes no difference. -/
lemma stream_bytes_append (content next : Bytes) (rest : List ReadEvent) :
    stream (bytes (content ++ next) :: rest) = stream (bytes content :: bytes next :: rest) := by
  have hsilent : ∀ {c : Bytes}, c ≠ [] → (bytes c).isSilent = false := by
    intro c hc
    simpa [isSilent] using hc
  rcases eq_or_ne content [] with rfl | hcontent
  · rw [stream_cons_of_isSilent (e := bytes []) rfl]
    rfl
  · rcases eq_or_ne next [] with rfl | hnext
    · rw [List.append_nil]
      exact stream_cons_congr (stream_cons_of_isSilent rfl rest).symm _
    · rw [stream_cons_of_not (hsilent (List.append_ne_nil_of_left_ne_nil hcontent next)),
        stream_cons_of_not (hsilent hcontent), stream_cons_of_not (hsilent hnext)]
      rcases stream rest with _ | ⟨_ | _ | _, _⟩ <;> simp [join]

lemma stream_join (e : ReadEvent) (events : List ReadEvent) :
    stream (join e events) = stream (e :: events) := by
  unfold join
  split
  · exact stream_bytes_append _ _ _
  · rfl

@[simp] lemma stream_stream (events : List ReadEvent) : stream (stream events) = stream events := by
  induction events with
  | nil => rfl
  | cons e events ih =>
      cases hsilent : e.isSilent with
      | true => rw [stream_cons_of_isSilent hsilent, ih]
      | false =>
          calc stream (stream (e :: events))
              = stream (e :: stream events) := by rw [stream_cons_of_not hsilent, stream_join]
            _ = stream (e :: events) := stream_cons_congr ih e

/-! ## One attempt -/

/-- Bytes without a line feed are collected, whether they stand apart or not. -/
lemma readOnto_join {content : Bytes} (h : lineFeed ∉ content) (collected : Bytes)
    (events : List ReadEvent) :
    readOnto collected (join (bytes content) events) = readOnto (collected ++ content) events := by
  have hcollect : ∀ more : Bytes, (content ++ more).dropWhile (· != lineFeed)
      = more.dropWhile (· != lineFeed) := by
    intro more
    exact List.dropWhile_append_of_pos (bne_lineFeed h)
  unfold join
  split
  · next next rest heq =>
    cases heq
    rw [readOnto, readOnto, hcollect, List.takeWhile_append_of_pos (bne_lineFeed h)]
    simp only [List.append_assoc]
  · next heq =>
    rw [readOnto]
    have hnone := hcollect []
    rw [List.append_nil] at hnone
    simp [hnone]

/-- The first line feed ends the line, and what is behind it stays in front of the other events. -/
lemma readOnto_join_line {piece : Bytes} (h : lineFeed ∉ piece) (after collected : Bytes)
    (events : List ReadEvent) :
    readOnto collected (join (bytes (piece ++ lineFeed :: after)) events)
      = (.bytes (collected ++ piece ++ [lineFeed]), join (bytes after) events) := by
  have hread : ∀ (more : Bytes) (rest : List ReadEvent),
      readOnto collected (bytes (piece ++ lineFeed :: more) :: rest)
        = (.bytes (collected ++ piece ++ [lineFeed]), bytes more :: rest) := by
    intro more rest
    rw [readOnto, List.dropWhile_append_of_pos (bne_lineFeed h),
      List.takeWhile_append_of_pos (bne_lineFeed h)]
    simp
  rcases events with _ | ⟨next | _ | cause, rest⟩
  · exact hread after []
  · show readOnto collected (bytes (piece ++ lineFeed :: after ++ next) :: rest) = _
    rw [List.append_assoc, List.cons_append, hread]
    rfl
  · exact hread after _
  · exact hread after _

/-- **An attempt** finds the same on a list of events as on its stream, and leaves the same stream
behind. -/
theorem readOnto_stream (collected : Bytes) (events : List ReadEvent) :
    (readOnto collected (stream events)).1 = (readOnto collected events).1 ∧
      stream (readOnto collected (stream events)).2 = stream (readOnto collected events).2 := by
  fun_induction readOnto collected events with
  | case1 => exact ⟨rfl, rfl⟩
  | case2 collected rest => exact ⟨rfl, stream_stream rest⟩
  | case3 collected cause rest hkind ih =>
      rw [stream_cons_of_isSilent (by simpa [isSilent] using hkind)]
      exact ih
  | case4 collected cause rest hkind =>
      rw [stream_cons_of_not (by simpa [isSilent] using hkind), join, readOnto, if_neg hkind]
      · exact ⟨rfl, stream_stream rest⟩
      · simp
  | case5 collected content rest hdrop ih =>
      rcases eq_or_ne content [] with rfl | hne
      · rw [List.append_nil] at ih
        rw [stream_cons_of_isSilent rfl]
        rwa [List.append_nil]
      · rw [stream_cons_of_not (by simpa [isSilent] using hne),
          readOnto_join (lineFeed_not_mem_of_dropWhile hdrop)]
        exact ih
  | case6 collected content rest first after hdrop =>
      have hpiece : lineFeed ∉ content.takeWhile (· != lineFeed) := by
        intro hmem
        simpa using List.mem_takeWhile_imp hmem
      have hcontent := eq_append_of_dropWhile hdrop
      have hne : content ≠ [] := by
        rintro rfl
        cases hdrop
      rw [stream_cons_of_not (by simpa [isSilent] using hne), hcontent, readOnto_join_line hpiece,
        ← hcontent]
      exact ⟨rfl, by rw [stream_join]; exact stream_cons_congr (stream_stream rest) _⟩

/-- Events with the same stream give the same line, and leave the same stream behind. -/
theorem readRaw_congr {events events' : List ReadEvent} (h : stream events = stream events') :
    (readRaw events).1 = (readRaw events').1 ∧
      stream (readRaw events).2 = stream (readRaw events').2 := by
  obtain ⟨hraw, hrest⟩ := readOnto_stream [] events
  obtain ⟨hraw', hrest'⟩ := readOnto_stream [] events'
  rw [h] at hraw hrest
  exact ⟨hraw.symm.trans hraw', hrest.symm.trans hrest'⟩

end ReadEvent

/-! ## Moving through a source -/

/-- The two ways to move on. -/
inductive Move where
  | advance
  | next
  deriving DecidableEq, Repr

/-- What a move answers. -/
inductive Move.Answer where
  | advanced (result : Except SourceError Bool)
  | delivered (item : Option LineItem)
  deriving DecidableEq, Repr

namespace LineSource

variable {s t : LineSource}

/-- All that can be seen of a source between two moves. -/
structure Sight where
  text : Text
  finished : Bool
  lineNumber : ℕ
  currentLineNumber : ℕ
  deriving DecidableEq, Repr

def sight (s : LineSource) : Sight :=
  { text := s.text
    finished := s.finished
    lineNumber := s.lineNumber
    currentLineNumber := s.currentLineNumber }

/-- One move. -/
def move (s : LineSource) : Move → Move.Answer × LineSource
  | .advance => (.advanced s.advance.1, s.advance.2)
  | .next => (.delivered s.next.1, s.next.2)

/-- **What a sequence of moves shows**: the answer of each move, and what can be seen after it. -/
def trace (s : LineSource) : List Move → List (Move.Answer × Sight)
  | [] => []
  | m :: moves => ((s.move m).1, (s.move m).2.sight) :: (s.move m).2.trace moves

/-- Two sources that differ at most in how their readers cut the stream into chunks. -/
structure Alike (s t : LineSource) : Prop where
  identifier : s.identifier = t.identifier
  stream : ReadEvent.stream s.events = ReadEvent.stream t.events
  text : s.text = t.text
  finished : s.finished = t.finished
  lineNumber : s.lineNumber = t.lineNumber

namespace Alike

lemma sight (h : s.Alike t) : s.sight = t.sight := by
  rw [LineSource.sight, LineSource.sight, currentLineNumber, currentLineNumber, h.text, h.finished,
    h.lineNumber]

/-- Alike sources answer the same when they advance, and are alike afterwards. -/
theorem advance (h : s.Alike t) : s.advance.1 = t.advance.1 ∧ s.advance.2.Alike t.advance.2 := by
  obtain ⟨hraw, hrest⟩ := ReadEvent.readRaw_congr h.stream
  rw [advance_eq, advance_eq]
  rcases hs : readRaw s.events with ⟨raw, rest⟩
  rcases ht : readRaw t.events with ⟨raw', rest'⟩
  rw [hs, ht] at hraw hrest
  obtain rfl : raw = raw' := hraw
  have hnumber : s.lineNumber + 1 = t.lineNumber + 1 := by rw [h.lineNumber]
  cases raw with
  | bytes content => exact ⟨rfl, h.identifier, hrest, rfl, h.finished, hnumber⟩
  | finished => exact ⟨rfl, h.identifier, hrest, rfl, rfl, hnumber⟩
  | failed cause kept =>
      exact ⟨by rw [h.identifier], h.identifier, hrest, rfl, h.finished, hnumber⟩

/-- So they do when the next line is asked for. -/
theorem next (h : s.Alike t) : s.next.1 = t.next.1 ∧ s.next.2.Alike t.next.2 := by
  obtain ⟨hanswer, halike⟩ := h.advance
  unfold LineSource.next
  rw [h.finished]
  cases t.finished with
  | true => exact ⟨rfl, h⟩
  | false =>
      rcases hs : s.advance with ⟨answer, s'⟩
      rcases ht : t.advance with ⟨answer', t'⟩
      rw [hs, ht] at hanswer halike
      obtain rfl : answer = answer' := hanswer
      rcases answer with e | (_ | _)
      · exact ⟨rfl, halike⟩
      · exact ⟨rfl, halike⟩
      · have hline : s'.currentLineNumber = t'.currentLineNumber := by
          rw [currentLineNumber, currentLineNumber, halike.lineNumber]
        have htext : s'.text = t'.text := halike.text
        simp only [Bool.false_eq_true, if_false, hline, htext]
        exact ⟨trivial, halike⟩

lemma move (h : s.Alike t) (m : Move) :
    (s.move m).1 = (t.move m).1 ∧ (s.move m).2.Alike (t.move m).2 := by
  cases m with
  | advance => exact ⟨congrArg Move.Answer.advanced h.advance.1, h.advance.2⟩
  | next => exact ⟨congrArg Move.Answer.delivered h.next.1, h.next.2⟩

/-- **Alike sources show the same**, however they are moved. -/
theorem trace (h : s.Alike t) (moves : List Move) : s.trace moves = t.trace moves := by
  induction moves generalizing s t with
  | nil => rfl
  | cons m moves ih =>
      obtain ⟨hanswer, halike⟩ := h.move m
      rw [LineSource.trace, LineSource.trace, hanswer, halike.sight, ih halike]

/-- Alike sources deliver the same lines and errors. -/
theorem items (h : s.Alike t) : s.items = t.items := by
  induction hn : s.remaining using Nat.strongRecOn generalizing s t with
  | ind n ih =>
      obtain ⟨hitem, halike⟩ := h.next
      rcases hs : s.next with ⟨_ | item, s'⟩
      · rcases ht : t.next with ⟨_ | item', t'⟩
        · rw [items_of_next_none hs, items_of_next_none ht]
        · rw [hs, ht] at hitem
          cases hitem
      · rcases ht : t.next with ⟨_ | item', t'⟩
        · rw [hs, ht] at hitem
          cases hitem
        · rw [hs, ht] at hitem halike
          cases hitem
          rw [items_of_next_some hs, items_of_next_some ht,
            ih s'.remaining (hn ▸ remaining_next_lt hs) halike rfl]

end Alike

/-- **Chunks do not show.**  Two readers with the same stream give the same answers, texts and
counts to every sequence of moves, and the same makefile or error with the same records. -/
theorem trace_parse_eq_of_stream (identifier : Text) {events events' : List ReadEvent}
    (h : ReadEvent.stream events = ReadEvent.stream events') (moves : List Move) :
    (ofEvents identifier events).trace moves = (ofEvents identifier events').trace moves ∧
      Makefile.parse identifier events = Makefile.parse identifier events' := by
  have halike : (ofEvents identifier events).Alike (ofEvents identifier events') :=
    ⟨rfl, h, rfl, rfl, rfl⟩
  exact ⟨halike.trace moves, parse_congr rfl halike.items⟩

/-- Chunks that end inside a character and inside a line ending, with an interruption at the start
of a line and another one behind a read without bytes. -/
theorem trace_parse_eq_of_cut_character :
    let chunks : List ReadEvent :=
      [.failure ⟨.interrupted, []⟩, .bytes (Text.utf8 "CC = ".toList ++ [0xC3]), .bytes [],
       .bytes [0xA9, 0x0D], .bytes (Text.utf8 "\nall:".toList), .endOfFile,
       .failure ⟨.interrupted, []⟩, .bytes (Text.utf8 "\tcc".toList), .failure ⟨.other, []⟩]
    let whole : List ReadEvent :=
      [.bytes (Text.utf8 "CC = é\r\nall:".toList), .endOfFile, .bytes (Text.utf8 "\tcc".toList),
       .failure ⟨.other, []⟩]
    ReadEvent.stream chunks = ReadEvent.stream whole ∧
    (ofEvents [] chunks).trace [.next, .advance, .next, .advance]
      = [(.delivered (some (.ok ⟨1, "CC = é".toList⟩)), ⟨"CC = é".toList, false, 2, 1⟩),
         (.advanced (.ok true), ⟨"all:".toList, false, 3, 2⟩),
         (.delivered (some (.error (.reading [] ⟨.other, []⟩))), ⟨[], false, 4, 3⟩),
         (.advanced (.ok false), ⟨[], true, 5, 4⟩)] := by
  intro chunks whole
  have hstream : ReadEvent.stream chunks = ReadEvent.stream whole := by
    decide +kernel
  exact ⟨hstream, (trace_parse_eq_of_stream [] hstream _).1.trans (by decide +kernel)⟩

end LineSource

end TargetPicker
