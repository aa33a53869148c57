import Retrace.Proofs.Text.Lossy
import Retrace.Snippet

/-!
# Windows

A window around a line has at most the asked number of lines on either side of it. If the text has
the line, the window has it too, at the place that the start of the window says; if the text ends
before the line, the window does not reach it.

* `stopOf_sub_startOf_le`: how large a window is;
* `shows_iff`: when it has its line;
* `pieces_code`: the lines of a window are lines of the text;
* `getElem?_pieces_code`: where in a window its line is.

Main statement: `extractBytes_aligned`, the same for the lines of bytes, however malformed they are.
-/

namespace Retrace.Snippet

variable {total : Nat} {target radius : Int} {t : Text}

/-- A window has no more lines than were asked for on both sides. -/
theorem stopOf_sub_startOf_le (hradius : 0 ≤ radius) :
    stopOf total target radius - startOf total target radius ≤ 2 * radius := by
  unfold stopOf startOf
  omega

/-- A window has its line exactly if the text has it. -/
theorem startOf_le_and_lt_stopOf_iff (htarget : 1 ≤ target) (hradius : 1 ≤ radius) :
    startOf total target radius ≤ target - 1 ∧ target - 1 < stopOf total target radius ↔
      target ≤ total := by
  unfold stopOf startOf
  omega

theorem shows_iff (htarget : 1 ≤ target) (hradius : 1 ≤ radius) :
    (extract t target radius).shows target = true ↔ target ≤ (t.pieces '\n').length := by
  rw [shows, decide_eq_true_eq]
  exact startOf_le_and_lt_stopOf_iff htarget hradius

/-- The lines of a window that is not empty. -/
theorem pieces_code (h : (extract t target radius).start < (extract t target radius).stop) :
    Text.pieces '\n' (extract t target radius).code =
      ((t.pieces '\n').drop (extract t target radius).start.toNat).take
        ((extract t target radius).stop - (extract t target radius).start).toNat := by
  obtain ⟨hstart, -, hstop⟩ := extract_bounds t target radius
  apply Text.pieces_joined
  · intro hnil
    have hlength := congrArg List.length hnil
    rw [List.length_take, List.length_drop, List.length_nil] at hlength
    change min ((extract t target radius).stop - (extract t target radius).start).toNat
      ((t.pieces '\n').length - (extract t target radius).start.toNat) = 0 at hlength
    omega
  · intro piece hpiece hmem
    have hline : piece ∈ t.pieces '\n' := List.mem_of_mem_drop (List.mem_of_mem_take hpiece)
    exact (Text.mem_of_mem_pieces hline hmem).2 rfl

/-- The line that a window is around is found in it at its distance from the start. -/
theorem getElem?_pieces_code (h : (extract t target radius).shows target = true) :
    (Text.pieces '\n' (extract t target radius).code)[(target - 1 -
        (extract t target radius).start).toNat]? =
      (t.pieces '\n')[(target - 1).toNat]? := by
  rw [shows, decide_eq_true_eq] at h
  obtain ⟨hstart, -, -⟩ := extract_bounds t target radius
  rw [pieces_code (by omega), List.getElem?_take_of_lt (by omega), List.getElem?_drop]
  congr 1
  omega

/-- The text of a window is a stretch of the lines of its text. -/
theorem code_extract (t : Text) (target radius : Int) :
    (extract t target radius).code =
      ['\n'].intercalate ((t.pieces '\n').extract (extract t target radius).start.toNat
        (extract t target radius).stop.toNat) := by
  obtain ⟨hstart, hstop, -⟩ := extract_bounds t target radius
  rw [List.extract_eq_take_drop, ← Text.joined_eq_intercalate,
    show (extract t target radius).stop.toNat - (extract t target radius).start.toNat =
      ((extract t target radius).stop - (extract t target radius).start).toNat by omega]
  rfl

/-- A window of bytes is a stretch of their lines, each of them read on its own: what is malformed
shifts no line and takes none away. A line that the bytes have stands in its window, at its distance
from the start. -/
theorem extractBytes_aligned (bytes : Bytes) (target radius : Int) :
    let lines := (bytes.splitOn Utf8.lineFeed).map Utf8.decodeLossy
    let window := extractBytes bytes target radius
    (0 ≤ window.start ∧ window.start ≤ window.stop ∧ window.stop ≤ lines.length) ∧
      window.code = ['\n'].intercalate (lines.extract window.start.toNat window.stop.toNat) ∧
      (1 ≤ radius → 1 ≤ target → target ≤ lines.length →
        (window.start ≤ target - 1 ∧ target - 1 < window.stop) ∧
        ∃ line, lines[(target - 1).toNat]? = some line ∧
          (window.code.splitOn '\n')[(target - 1 - window.start).toNat]? = some line) := by
  intro lines window
  have hlines : Text.pieces '\n' (Utf8.decodeLossy bytes) = lines := Utf8.pieces_decodeLossy bytes
  refine ⟨?_, ?_, fun hradius htarget hlength => ?_⟩
  · rw [← hlines]
    exact extract_bounds _ target radius
  · rw [← hlines]
    exact code_extract _ target radius
  · have hshows : window.shows target = true := by
      refine (shows_iff htarget hradius).2 ?_
      rwa [hlines]
    refine ⟨of_decide_eq_true hshows, ?_⟩
    obtain ⟨line, hline⟩ : ∃ line, lines[(target - 1).toNat]? = some line :=
      ⟨_, List.getElem?_eq_getElem (by omega)⟩
    refine ⟨line, hline, ?_⟩
    rw [← Text.pieces_eq_splitOn]
    exact (getElem?_pieces_code hshows).trans (by rw [hlines, hline])

/-- A line that ends inside a character, and the window around it. -/
theorem extractBytes_aligned_truncated :
    let bytes : Bytes := [0x61, 0x0A, 0xE2, 0x82, 0x0A, 0xFF, 0x62]
    let lines := (bytes.splitOn Utf8.lineFeed).map Utf8.decodeLossy
    let window := extractBytes bytes 2 1
    lines = [['a'], ['\uFFFD'], ['\uFFFD', 'b']] ∧
      window = ⟨['\uFFFD', '\n', '\uFFFD', 'b'], 1, 3⟩ ∧
      (1 ≤ (1 : Int) ∧ 1 ≤ (2 : Int) ∧ 2 ≤ (lines.length : Int)) ∧
      (window.start ≤ (2 : Int) - 1 ∧ (2 : Int) - 1 < window.stop) ∧
      ∃ line, lines[((2 : Int) - 1).toNat]? = some line ∧
        (window.code.splitOn '\n')[((2 : Int) - 1 - window.start).toNat]? = some line := by
  intro bytes lines window
  refine ⟨by decide, by decide, ⟨by decide, by decide, by decide⟩, ?_⟩
  exact (extractBytes_aligned bytes 2 1).2.2 (by decide) (by decide) (by decide)

end Retrace.Snippet
