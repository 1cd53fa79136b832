import Mathlib.Tactic.Common
import TargetPicker.Proofs.Makefile.LineByLine

/-!
# Decoding a content as a whole

There are two ways from bytes to lines.  A source cuts the bytes at their line feeds and decodes
each piece by itself; the output of a command is decoded as a whole, and then shown line by line.
They agree on all bytes, well-formed or not (`lines_eq_lines_decode`).

A line feed and a carriage return are ASCII bytes, so a sequence of bytes that is cut short by one
of them ends there on either way, and neither of them comes out of bytes that did not hold it.  Two
facts follow, one for each kind of cut: decoding a line with its line feed gives the decoded line
and a line feed, and dropping a carriage return before decoding is dropping it afterwards
(`decode_dropLast?`).
-/

namespace TargetPicker

open ReadEvent (lineFeed carriageReturn)

/-! ## The lines of a text -/

namespace Text

lemma lines_unterminated {t : Text} (hne : t ≠ []) (h : '\n' ∉ t) : lines t = [t] := by
  simp [lines, List.splitOn_eq_singleton h, nonempty, hne]

lemma lines_line {t : Text} (h : '\n' ∉ t) (rest : Text) :
    lines (t ++ '\n' :: rest) = dropLast? '\r' t :: lines rest := by
  have hne : rest.splitOn '\n' ≠ [] := List.splitOn_ne_nil _ _
  rw [lines, List.splitOn_append_cons_self_of_not_mem h]
  simp only [List.dropLast_cons_of_ne_nil hne, List.getLast?_cons_of_ne_nil hne, List.map_cons,
    List.cons_append]
  rfl

/-! ## The two cuts -/

/-- A carriage return may be dropped before decoding or afterwards. -/
theorem decode_dropLast? (piece : Bytes) :
    decode (dropLast? carriageReturn piece) = dropLast? '\r' (decode piece) := by
  unfold dropLast?
  by_cases h : piece.getLast? = some carriageReturn
  · obtain ⟨front, rfl⟩ := List.getLast?_eq_some_iff.mp h
    have hdecode : decode (front ++ [carriageReturn]) = decode front ++ ['\r'] := by
      rw [decode_append_ascii (by decide), decode_nil]
      rfl
    simp [hdecode]
  · have hlast : (decode piece).getLast? ≠ some '\r' := by
      intro hlast
      exact h (getLast?_of_getLast?_decode (c := carriageReturn) (by decide) (by decide) hlast)
    simp [h, hlast]

lemma decode_ne_nil {bs : Bytes} (h : bs ≠ []) : decode bs ≠ [] := by
  cases bs with
  | nil => exact absurd rfl h
  | cons b rest => simp [decode_cons]

end Text

/-- **Cutting and decoding commute**: the lines of a content are the lines of its text. -/
theorem Bytes.lines_eq_lines_decode (content : Bytes) :
    lines content = Text.lines (Text.decode content) := by
  have hfree : ∀ {piece : Bytes}, lineFeed ∉ piece → '\n' ∉ Text.decode piece := by
    intro piece hpiece hmem
    exact hpiece (Text.lineFeed_mem_of_mem_decode piece hmem)
  induction content using lineInduction with
  | nil => simp [Text.lines, Text.nonempty]
  | unterminated piece hne hpiece =>
      rw [lines_unterminated hne hpiece,
        Text.lines_unterminated (Text.decode_ne_nil hne) (hfree hpiece)]
  | line piece rest hpiece ih =>
      have hcut : Text.decode (piece ++ lineFeed :: rest)
          = Text.decode piece ++ '\n' :: Text.decode rest :=
        Text.decode_append_ascii (by decide) piece rest
      rw [lines_line hpiece, hcut, Text.lines_line (hfree hpiece), Text.decode_dropLast?, ih]

/-- Three bytes of a sequence of four, cut short by the end of a line, and a stray fourth. -/
example : Bytes.lines [0xF0, 0x9F, 0x98, 0x0D, 0x0A, 0x80]
    = [[Text.replacement], [Text.replacement]] := by
  decide +kernel

namespace Makefile

/-- **Decoding line by line is decoding the whole.**  The texts that a source delivers are the lines
of the decoded content, and a makefile is read from bytes as it is read from their text: bytes that
are no UTF-8 never move, join or cut a line. -/
theorem parseBytes_decode (identifier : Text) (content : Bytes) :
    (LineSource.ofEvents identifier [.bytes content]).items
      = (Line.numberedFrom 1 (Text.lines (Text.decode content))).map .ok ∧
    parseBytes identifier content
      = parseBytes identifier (Text.utf8 (Text.decode content)) := by
  have hitems : ∀ bs : Bytes, (LineSource.ofEvents identifier [.bytes bs]).items
      = (Line.numberedFrom 1 (Text.lines (Text.decode bs))).map .ok := by
    intro bs
    rw [LineSource.items_ofEvents_bytes, Bytes.lines_eq_lines_decode]
  refine ⟨hitems content, LineSource.parse_congr rfl ?_⟩
  rw [hitems, hitems, Text.decode_utf8]

end Makefile

end TargetPicker
