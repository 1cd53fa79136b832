import Mathlib.Data.List.TakeWhile
import Mathlib.Tactic.Common
import TargetPicker.Input.LineSource
import TargetPicker.Proofs.Text.Utf8

/-!
# The lines of a content

A reader that holds one content gives the lines of that content and then ends.  `Bytes.lines` says
what these lines are without reading: the content is cut at its line feeds, every piece but the
last one ends with a line feed, and the last piece is a line only if it is not empty.

* `Bytes.lineInduction` is the induction that goes with it: a content is empty, or a line without
  its line feed, or a line with its line feed in front of a content.
* **`items_ofEvents_bytes`** — a source on one content delivers its lines, numbered from one, and
  no error.
* `Bytes.lines_append` — contents can be joined wherever a line ends.
* `Bytes.lines_unlines` — lines that are written out are read back.
-/

namespace TargetPicker

open ReadEvent (lineFeed carriageReturn readRaw readOnto)

/-! ## Numbered lines -/

/-- Texts as lines with consecutive numbers. -/
def Line.numberedFrom (n : ℕ) (texts : List Text) : List Line :=
  (texts.zipIdx n).map fun (text, number) => ⟨number, text⟩

namespace Line

@[simp] lemma numberedFrom_nil (n : ℕ) : numberedFrom n [] = [] := rfl

@[simp] lemma numberedFrom_cons (n : ℕ) (t : Text) (ts : List Text) :
    numberedFrom n (t :: ts) = ⟨n, t⟩ :: numberedFrom (n + 1) ts := rfl

lemma numberedFrom_append (n : ℕ) (ts us : List Text) :
    numberedFrom n (ts ++ us) = numberedFrom n ts ++ numberedFrom (n + ts.length) us := by
  simp [numberedFrom, List.zipIdx_append]

@[simp] lemma length_numberedFrom (n : ℕ) (ts : List Text) :
    (numberedFrom n ts).length = ts.length := by
  simp [numberedFrom]

end Line

/-! ## Cutting a content -/

namespace Bytes

/-- **The lines of a content.** -/
def lines (content : Bytes) : List Text :=
  let pieces := content.splitOn lineFeed
  pieces.dropLast.map (fun piece => Text.decode (Text.dropLast? carriageReturn piece)) ++
    (pieces.getLast?.toList.filter (!·.isEmpty)).map Text.decode

@[simp] lemma lines_nil : lines [] = [] := rfl

lemma lines_unterminated {piece : Bytes} (hne : piece ≠ []) (h : lineFeed ∉ piece) :
    lines piece = [Text.decode piece] := by
  simp [lines, List.splitOn_eq_singleton h, hne]

lemma lines_line {piece : Bytes} (h : lineFeed ∉ piece) (rest : Bytes) :
    lines (piece ++ lineFeed :: rest)
      = Text.decode (Text.dropLast? carriageReturn piece) :: lines rest := by
  have hne : rest.splitOn lineFeed ≠ [] := List.splitOn_ne_nil _ _
  rw [lines, List.splitOn_append_cons_self_of_not_mem h]
  simp only [List.dropLast_cons_of_ne_nil hne, List.getLast?_cons_of_ne_nil hne, List.map_cons,
    List.cons_append]
  rfl

/-- **Induction over the lines of a content.** -/
@[elab_as_elim]
theorem lineInduction {motive : Bytes → Prop} (nil : motive [])
    (unterminated : ∀ piece, piece ≠ [] → lineFeed ∉ piece → motive piece)
    (line : ∀ piece rest, lineFeed ∉ piece → motive rest → motive (piece ++ lineFeed :: rest))
    (content : Bytes) : motive content := by
  induction hn : content.length using Nat.strongRecOn generalizing content with
  | ind n ih =>
      by_cases hmem : lineFeed ∈ content
      · obtain ⟨piece, rest, rfl, hpiece⟩ := List.eq_append_cons_of_mem hmem
        refine line piece rest hpiece (ih rest.length ?_ rest rfl)
        simp at hn
        omega
      · rcases eq_or_ne content [] with rfl | hne
        · exact nil
        · exact unterminated content hne hmem

/-- Contents can be joined wherever a line ends. -/
theorem lines_append (a b : Bytes) (h : a = [] ∨ a.getLast? = some lineFeed) :
    lines (a ++ b) = lines a ++ lines b := by
  induction a using lineInduction with
  | nil => simp
  | unterminated piece hne hpiece =>
      rcases h with rfl | h
      · exact absurd rfl hne
      · exact absurd (List.mem_of_getLast? h) hpiece
  | line piece rest hpiece ih =>
      have hrest : rest = [] ∨ rest.getLast? = some lineFeed := by
        rcases eq_or_ne rest [] with rfl | hne
        · exact Or.inl rfl
        · rcases h with h | h
          · simp at h
          · rw [List.getLast?_append, List.getLast?_cons_of_ne_nil hne] at h
            rw [List.getLast?_eq_some_getLast hne] at h ⊢
            exact Or.inr h
      rw [List.append_assoc, List.cons_append, lines_line hpiece, lines_line hpiece, ih hrest,
        List.cons_append]

end Bytes

/-! ## Writing lines -/

namespace Text

/-- Lines written out, each with a line feed. -/
def unlines (ts : List Text) : Text := ts.flatMap (· ++ ['\n'])

/-- A text that stands on a line as it is: a line feed in it would end the line before, and a
carriage return at its end would count as part of the line ending. -/
structure IsLine (t : Text) : Prop where
  newline : '\n' ∉ t
  last : t.getLast? ≠ some '\r'

lemma utf8_unlines_cons (t : Text) (ts : List Text) :
    utf8 (unlines (t :: ts)) = utf8 t ++ lineFeed :: utf8 (unlines ts) := by
  have hfeed : utf8 ['\n'] = [lineFeed] := rfl
  rw [unlines, List.flatMap_cons, utf8_append, utf8_append, hfeed, List.append_assoc]
  rfl

lemma IsLine.lineFeed_not_mem {t : Text} (h : IsLine t) : lineFeed ∉ utf8 t := by
  intro hmem
  exact h.newline (mem_of_mem_utf8 (by decide) hmem)

lemma IsLine.dropLast? {t : Text} (h : IsLine t) :
    Text.dropLast? carriageReturn (utf8 t) = utf8 t := by
  have hlast : (utf8 t).getLast? ≠ some carriageReturn := by
    intro hlast
    exact h.last (getLast?_of_getLast?_utf8 (by decide) hlast)
  simp [Text.dropLast?, hlast]

end Text

/-- **Lines that are written out are read back.** -/
theorem Bytes.lines_unlines {ts : List Text} (h : ∀ t ∈ ts, t.IsLine) :
    lines (Text.utf8 (Text.unlines ts)) = ts := by
  induction ts with
  | nil => rfl
  | cons t ts ih =>
      have ht : t.IsLine := h t List.mem_cons_self
      rw [Text.utf8_unlines_cons, lines_line ht.lineFeed_not_mem, ht.dropLast?, Text.decode_utf8,
        ih fun t ht => h t (List.mem_cons_of_mem _ ht)]

/-! ## Reading a content -/

namespace ReadEvent

lemma bne_lineFeed {piece : Bytes} (h : lineFeed ∉ piece) :
    ∀ b ∈ piece, (b != lineFeed) = true := by
  intro b hb
  rw [bne_iff_ne]
  rintro rfl
  exact h hb

/-- The first line feed of a content ends the line. -/
lemma readRaw_line {piece : Bytes} (h : lineFeed ∉ piece) (rest : Bytes)
    (events : List ReadEvent) :
    readRaw (bytes (piece ++ lineFeed :: rest) :: events)
      = (.bytes (piece ++ [lineFeed]), bytes rest :: events) := by
  rw [readRaw, readOnto, List.dropWhile_append_of_pos (bne_lineFeed h),
    List.takeWhile_append_of_pos (bne_lineFeed h)]
  simp

/-- Without a line feed the content is read up, and the end of the reader ends the line. -/
lemma readRaw_unterminated {piece : Bytes} (h : lineFeed ∉ piece) :
    readRaw [bytes piece] = (leftOver piece, []) := by
  have hdrop : piece.dropWhile (· != lineFeed) = [] :=
    List.dropWhile_eq_nil_iff.mpr (bne_lineFeed h)
  simp [readRaw, readOnto, hdrop]

end ReadEvent

namespace LineSource

variable {s : LineSource}

lemma lineText_line (piece : Bytes) :
    lineText (piece ++ [lineFeed]) = Text.decode (Text.dropLast? carriageReturn piece) := by
  simp [lineText, lineContent]

lemma lineText_unterminated {piece : Bytes} (h : lineFeed ∉ piece) :
    lineText piece = Text.decode piece := by
  have hlast : piece.getLast? ≠ some lineFeed := by
    intro hlast
    exact h (List.mem_of_getLast? hlast)
  simp [lineText, lineContent, hlast]

/-- One step over a line. -/
lemma next_of_bytes {raw : Bytes} {events : List ReadEvent} (hs : s.finished = false)
    (h : readRaw s.events = (.bytes raw, events)) :
    s.next = (some (.ok ⟨s.lineNumber, lineText raw⟩),
      { s with
        events
        buffer := lineContent raw
        text := lineText raw
        lineNumber := s.lineNumber + 1 }) := by
  simp [next, advance_eq, hs, h, currentLineNumber]

/-- One step onto the end of the stream. -/
lemma next_of_end {events : List ReadEvent} (hs : s.finished = false)
    (h : readRaw s.events = (.finished, events)) :
    s.next = (none, { s with
      events
      buffer := []
      text := []
      finished := true
      lineNumber := s.lineNumber + 1 }) := by
  simp [next, advance_eq, hs, h]

lemma items_of_finished {events : List ReadEvent} (hs : s.finished = false)
    (h : readRaw s.events = (.finished, events)) : s.items = [] :=
  items_of_next_none (next_of_end hs h)

/-- A source that is about to read a content delivers its lines. -/
theorem items_of_events_eq_bytes (content : Bytes) (hs : s.finished = false)
    (hevents : s.events = [.bytes content]) :
    s.items = (Line.numberedFrom s.lineNumber (Bytes.lines content)).map .ok := by
  induction content using Bytes.lineInduction generalizing s with
  | nil =>
      have hread : readRaw s.events = (.finished, []) := by
        rw [hevents]
        rfl
      exact items_of_finished hs hread
  | unterminated piece hne hpiece =>
      have hread : readRaw s.events = (.bytes piece, []) := by
        rw [hevents, ReadEvent.readRaw_unterminated hpiece, ReadEvent.leftOver,
          if_neg (by simpa using hne)]
      have hend : readRaw [] = (.finished, []) := rfl
      rw [items_of_next_some (next_of_bytes hs hread), items_of_finished (by exact hs) hend,
        Bytes.lines_unterminated hne hpiece, lineText_unterminated hpiece]
      rfl
  | line piece rest hpiece ih =>
      have hread : readRaw s.events = (.bytes (piece ++ [lineFeed]), [.bytes rest]) := by
        rw [hevents, ReadEvent.readRaw_line hpiece]
      rw [items_of_next_some (next_of_bytes hs hread), Bytes.lines_line hpiece, lineText_line,
        ih (by exact hs) (by rfl)]
      rfl

/-- **A source on one content delivers the lines of the content**, numbered from one. -/
theorem items_ofEvents_bytes (identifier : Text) (content : Bytes) :
    (ofEvents identifier [.bytes content]).items
      = (Line.numberedFrom 1 (Bytes.lines content)).map .ok :=
  items_of_events_eq_bytes content rfl rfl

/-- Without errors every line is read. -/
theorem untilFailure_of_items {lines : List Line} (h : s.items = lines.map .ok) :
    s.untilFailure = (lines, none) := by
  have hgood : (lines.map Except.ok).takeWhile (fun item : LineItem => item.toBool)
      = lines.map .ok := by
    rw [List.takeWhile_eq_self_iff]
    simp [Except.toBool]
  have hlines : (lines.map Except.ok).filterMap (fun item : LineItem => item.toOption) = lines := by
    rw [List.filterMap_map]
    exact List.filterMap_some
  rw [untilFailure, h, hgood, hlines]
  simp

end LineSource

/-! ## No line holds a line feed

This holds of every reader: whatever was collected before, a line ends at the first line feed.
-/

namespace ReadEvent

lemma lineFeed_not_mem_of_leftOver {collected raw : Bytes} (hcollected : lineFeed ∉ collected)
    (h : leftOver collected = .bytes raw) : lineFeed ∉ raw := by
  unfold leftOver at h
  split at h
  · cases h
  · cases h
    exact hcollected

lemma lineFeed_of_readOnto {collected raw : Bytes} {events after : List ReadEvent}
    (hcollected : lineFeed ∉ collected) (h : readOnto collected events = (.bytes raw, after)) :
    lineFeed ∉ raw ∨ ∃ body, lineFeed ∉ body ∧ raw = body ++ [lineFeed] := by
  fun_induction readOnto collected events with
  | case1 => exact Or.inl (lineFeed_not_mem_of_leftOver hcollected (Prod.mk.inj h).1)
  | case2 => exact Or.inl (lineFeed_not_mem_of_leftOver hcollected (Prod.mk.inj h).1)
  | case3 _ _ _ _ ih => exact ih hcollected h
  | case4 => cases h
  | case5 collected content rest hdrop ih =>
      have hcontent : lineFeed ∉ content := by
        intro hmem
        simpa using List.dropWhile_eq_nil_iff.mp hdrop _ hmem
      exact ih (by simp [hcollected, hcontent]) h
  | case6 collected content rest first after' hdrop =>
      have hstart : lineFeed ∉ content.takeWhile (· != lineFeed) := by
        intro hmem
        simpa using List.mem_takeWhile_imp hmem
      refine Or.inr ⟨collected ++ content.takeWhile (· != lineFeed), ?_, ?_⟩
      · simp [hcollected, hstart]
      · cases h
        rfl

end ReadEvent

namespace LineSource

variable {s s' : LineSource}

lemma newline_not_mem_lineText {raw : Bytes} {events after : List ReadEvent}
    (h : readRaw events = (.bytes raw, after)) : '\n' ∉ lineText raw := by
  intro hmem
  rcases ReadEvent.lineFeed_of_readOnto List.not_mem_nil h with hraw | ⟨body, hbody, rfl⟩
  · rw [lineText_unterminated hraw] at hmem
    exact hraw (Text.lineFeed_mem_of_mem_decode raw hmem)
  · rw [lineText_line] at hmem
    have hcut := Text.lineFeed_mem_of_mem_decode _ hmem
    refine hbody ?_
    unfold Text.dropLast? at hcut
    split at hcut
    · exact List.dropLast_subset body hcut
    · exact hcut

lemma newline_not_mem_of_next {l : Line} (h : s.next = (some (.ok l), s')) : '\n' ∉ l.text := by
  rw [next, advance_eq] at h
  split at h
  · cases h
  · rcases hread : readRaw s.events with ⟨raw | _ | _, after⟩ <;> rw [hread] at h <;> cases h
    exact newline_not_mem_lineText hread

/-- What holds of every item that a step gives holds of all items. -/
theorem forall_mem_items {P : LineItem → Prop}
    (h : ∀ {s s' : LineSource} {item : LineItem}, s.next = (some item, s') → P item)
    (s : LineSource) : ∀ item ∈ s.items, P item := by
  induction hn : s.remaining using Nat.strongRecOn generalizing s with
  | ind n ih =>
      rcases hnext : s.next with ⟨_ | item, s'⟩
      · simp [items_of_next_none hnext]
      · rw [items_of_next_some hnext, List.forall_mem_cons]
        exact ⟨h hnext, ih s'.remaining (hn ▸ remaining_next_lt hnext) s' rfl⟩

/-- **No line holds a line feed**, whatever the reader gives. -/
theorem newline_not_mem_of_mem_untilFailure {l : Line} (h : l ∈ s.untilFailure.1) :
    '\n' ∉ l.text := by
  have hitems : ∀ item ∈ s.items, ∀ l, item = .ok l → '\n' ∉ l.text := by
    refine forall_mem_items ?_ s
    rintro s s' item hnext l rfl
    exact newline_not_mem_of_next hnext
  obtain ⟨item, hitem, hl⟩ := List.mem_filterMap.mp h
  refine hitems item ((List.takeWhile_subset _) hitem) l ?_
  cases item with
  | error e => cases hl
  | ok l' => rw [Option.some.inj hl]

end LineSource

end TargetPicker
