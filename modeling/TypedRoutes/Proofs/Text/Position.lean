import Mathlib.Data.List.Induction
import Mathlib.Data.List.TakeWhile
import Mathlib.Tactic.SplitIfs
import TypedRoutes.OpenApi.Loading
import TypedRoutes.Proofs.Text.Lines

/-!
Places in a text. A place counts lines from 1 and, on the last line, the bytes in front of it. From
the place behind some bytes of a text the way leads back to the last of them, or to the place itself
where a line begins.
-/

set_option autoImplicit false
set_option relaxedAutoImplicit false

namespace TypedRoutes.Text

def bytes (text : String) : List UInt8 := text.toByteArray.data.toList

def lineFeed : UInt8 := 10

def lastLine (read : List UInt8) : List UInt8 := (read.reverse.takeWhile (· != lineFeed)).reverse

/-- The place behind some bytes: a line for every line feed, and the bytes behind the last one. -/
def placeBehind (read : List UInt8) : Json.Position :=
  ⟨1 + read.count lineFeed, (lastLine read).length⟩

def encode (text : List Char) : List UInt8 := text.flatMap String.utf8EncodeChar

private theorem bytes_eq (text : String) : bytes text = encode text.toList := by
  have encoded : (encode text.toList).toByteArray = text.toByteArray := String.utf8Encode_toList
  rw [bytes, ← encoded]
  exact List.toList_data_toByteArray

private theorem encode_cons (c : Char) (rest : List Char) :
    encode (c :: rest) = String.utf8EncodeChar c ++ encode rest := List.flatMap_cons

private theorem encode_append (front back : List Char) :
    encode (front ++ back) = encode front ++ encode back := List.flatMap_append

private theorem utf8Length_eq (text : List Char) : utf8Length text = (encode text).length := by
  induction text with
  | nil => rfl
  | cons c rest ih =>
    rw [utf8Length, encode_cons, List.length_append, String.length_utf8EncodeChar, ih]

private theorem encode_newLine : encode ['\n'] = [lineFeed] := rfl

private theorem lineFeed_ne_ofNat {n : Nat} (h : n % 256 ≠ 10) : lineFeed ≠ UInt8.ofNat n := by
  intro same
  have codes := congrArg UInt8.toNat same
  rw [UInt8.toNat_ofNat'] at codes
  exact h codes.symm

private theorem lineFeed_not_mem_utf8EncodeChar {c : Char} (h : c ≠ '\n') :
    lineFeed ∉ String.utf8EncodeChar c := by
  have code : c.val.toNat ≠ 10 := fun same => h (Char.toNat_inj.mp same)
  simp only [String.utf8EncodeChar]
  split_ifs with one two three
  · simp only [List.mem_cons, List.not_mem_nil, or_false]
    exact lineFeed_ne_ofNat (by omega)
  · simp only [List.mem_cons, List.not_mem_nil, or_false, not_or]
    exact ⟨lineFeed_ne_ofNat (by omega), lineFeed_ne_ofNat (by omega)⟩
  · simp only [List.mem_cons, List.not_mem_nil, or_false, not_or]
    exact ⟨lineFeed_ne_ofNat (by omega), lineFeed_ne_ofNat (by omega),
      lineFeed_ne_ofNat (by omega)⟩
  · simp only [List.mem_cons, List.not_mem_nil, or_false, not_or]
    exact ⟨lineFeed_ne_ofNat (by omega), lineFeed_ne_ofNat (by omega),
      lineFeed_ne_ofNat (by omega), lineFeed_ne_ofNat (by omega)⟩

private theorem lastLine_append_of_not_mem (front : List UInt8) {read : List UInt8}
    (h : lineFeed ∉ read) :
    lastLine (front ++ read) = lastLine front ++ read := by
  have all : ∀ byte ∈ read.reverse, (byte != lineFeed) = true := by
    intro byte member
    refine bne_iff_ne.mpr ?_
    rintro rfl
    exact h (List.mem_reverse.mp member)
  rw [lastLine, lastLine, List.reverse_append, List.takeWhile_append_of_pos all,
    List.reverse_append, List.reverse_reverse]

private theorem lastLine_of_not_mem {read : List UInt8} (h : lineFeed ∉ read) :
    lastLine read = read :=
  lastLine_append_of_not_mem [] h

private theorem lastLine_append {read : List UInt8} (front : List UInt8) (h : lineFeed ∈ read) :
    lastLine (front ++ read) = lastLine read := by
  have stopped : (read.reverse.takeWhile (· != lineFeed)).length ≠ read.reverse.length := by
    intro whole
    have all := (List.takeWhile_prefix (· != lineFeed)).eq_of_length whole
    have apart := List.takeWhile_eq_self_iff.mp all lineFeed (List.mem_reverse.mpr h)
    simp at apart
  rw [lastLine, lastLine, List.reverse_append, List.takeWhile_append, if_neg stopped]

private theorem lastLine_cons_lineFeed (read : List UInt8) :
    lastLine (lineFeed :: read) = lastLine read := by
  by_cases h : lineFeed ∈ read
  · exact lastLine_append [lineFeed] h
  · have ended : lastLine [lineFeed] = [] := rfl
    have line := lastLine_append_of_not_mem [lineFeed] h
    rw [ended, List.nil_append] at line
    rw [lastLine_of_not_mem h]
    exact line

private theorem lastLine_eq_nil_iff (read : List UInt8) :
    lastLine read = [] ↔ read = [] ∨ read.getLast? = some lineFeed := by
  have turned : read = [] ↔ read.reverse = [] := List.reverse_eq_nil_iff.symm
  rw [lastLine, List.reverse_eq_nil_iff, ← List.head?_reverse, turned]
  cases read.reverse with
  | nil => simp
  | cons byte rest => by_cases h : byte = lineFeed <;> simp [h]

/-- The lines that are behind, and the bytes of the line that has begun, make up what was read. -/
private theorem encode_lines_append_lastLine {text : List Char} {read more : List UInt8}
    (h : encode text = read ++ more) :
    encode ((cutLines text).take (read.count lineFeed)).flatten ++ lastLine read = read := by
  -- a line that has not ended is the last one, and none lies behind
  have begun {text : List Char} {read : List UInt8} (h : lineFeed ∉ read) :
      encode ((cutLines text).take (read.count lineFeed)).flatten ++ lastLine read = read := by
    rw [List.count_eq_zero.mpr h, lastLine_of_not_mem h]
    rfl
  induction text generalizing read with
  | nil =>
    obtain ⟨rfl, -⟩ := List.append_eq_nil_iff.mp h.symm
    rfl
  | cons c rest ih =>
    rw [encode_cons] at h
    by_cases feed : c = '\n'
    · subst feed
      cases read with
      | nil => rfl
      | cons byte read =>
        have first : String.utf8EncodeChar '\n' = [lineFeed] := rfl
        rw [first, List.singleton_append, List.cons_append] at h
        obtain ⟨rfl, unread⟩ := List.cons_eq_cons.mp h
        have lines : cutLines ('\n' :: rest) = ['\n'] :: cutLines rest := rfl
        rw [lastLine_cons_lineFeed, List.count_cons_self, lines, List.take_succ_cons,
          List.flatten_cons, encode_append, encode_newLine, List.append_assoc, ih unread]
        rfl
    · have apart := lineFeed_not_mem_utf8EncodeChar feed
      obtain ⟨before, rfl, unread⟩ | ⟨behind, inside, -⟩ := List.append_eq_append_iff.mp h
      · by_cases ended : lineFeed ∈ before
        · have nonempty : rest ≠ [] := by
            rintro rfl
            obtain ⟨rfl, -⟩ := List.append_eq_nil_iff.mp unread.symm
            exact List.not_mem_nil ended
          obtain ⟨line, more, cut⟩ := List.exists_cons_of_ne_nil (cutLines_ne_nil nonempty)
          have lines : cutLines (c :: rest) = (c :: line) :: more := by
            rw [cutLines, if_neg feed, cut]
          have feeds := List.count_pos_iff.mpr ended
          obtain ⟨count, counted⟩ := Nat.exists_eq_succ_of_ne_zero feeds.ne'
          have later := ih unread
          rw [counted, cut, List.take_succ_cons, List.flatten_cons] at later
          rw [List.count_append, List.count_eq_zero.mpr apart, Nat.zero_add, counted, lines,
            List.take_succ_cons, List.flatten_cons, lastLine_append _ ended, List.cons_append,
            encode_cons, List.append_assoc, later]
        · exact begun (List.not_mem_append apart ended)
      · refine begun fun member => apart ?_
        rw [inside]
        exact List.mem_append_left _ member

private theorem foldl_after (read : List Char) :
    read.foldl Json.Position.after {} = placeBehind (encode read) := by
  induction read using List.reverseRecOn with
  | nil => rfl
  | append_singleton read c ih =>
    have last : encode [c] = String.utf8EncodeChar c := List.append_nil _
    rw [List.foldl_append, List.foldl_cons, List.foldl_nil, ih, encode_append]
    by_cases feed : c = '\n'
    · subst feed
      rw [encode_newLine, placeBehind, placeBehind, lastLine_append _ List.mem_cons_self]
      simp [Json.Position.after, lastLine, List.count_append, Nat.add_assoc]
    · have apart := lineFeed_not_mem_utf8EncodeChar feed
      rw [last, placeBehind, placeBehind, lastLine_append_of_not_mem _ apart, List.count_append,
        List.count_eq_zero.mpr apart, List.length_append, String.length_utf8EncodeChar]
      simp [Json.Position.after, feed]

section Words

variable {text : String}

private theorem Overflow.add?_of_fits (overflow : Overflow) {first second : UInt64}
    (fits : first.toNat + second.toNat < UInt64.size) :
    overflow.add? first second = some (first + second) := by
  cases overflow with
  | stops => exact if_pos fits
  | wraps => rfl

private theorem toNat_columns (column : UInt64) :
    (column.toNat - 1).toUInt64.toNat = column.toNat - 1 :=
  UInt64.toNat_ofNat_of_lt' (Nat.lt_of_le_of_lt (Nat.sub_le ..) column.toNat_lt)

private theorem lineColumnOffset?_of_fits (overflow : Overflow) {line column : UInt64}
    (someLine : line ≠ 0)
    (fits : lineStart text (line.toNat - 1) + (column.toNat - 1) < UInt64.size) :
    lineColumnOffset? overflow text line column =
      some (some (min (lineStart text (line.toNat - 1) + (column.toNat - 1))
        (bytes text).length)) := by
  have start : (lineStart text (line.toNat - 1)).toUInt64.toNat = lineStart text (line.toNat - 1) :=
    UInt64.toNat_ofNat_of_lt' (Nat.lt_of_le_of_lt (Nat.le_add_right ..) fits)
  have columns := toNat_columns column
  have words : (lineStart text (line.toNat - 1)).toUInt64.toNat +
      (column.toNat - 1).toUInt64.toNat < UInt64.size := by rwa [start, columns]
  rw [lineColumnOffset?, if_neg someLine]
  dsimp only
  rw [Overflow.add?_of_fits overflow words, Option.map_some, UInt64.toNat_add,
    Nat.mod_eq_of_lt words, start, columns, utf8Length_eq, ← bytes_eq]

/-- A build that checks its sums stops exactly where the sum does not fit. -/
private theorem lineColumnOffset?_stops (sized : (bytes text).length + 1 < UInt64.size)
    {line : UInt64} (someLine : line ≠ 0) (column : UInt64) :
    lineColumnOffset? .stops text line column =
      if lineStart text (line.toNat - 1) + (column.toNat - 1) < UInt64.size
      then lineColumnOffset? .wraps text line column else none := by
  split_ifs with fits
  · rw [lineColumnOffset?_of_fits .stops someLine fits,
      lineColumnOffset?_of_fits .wraps someLine fits]
  · have inside := lineStart_le text (line.toNat - 1)
    rw [utf8Length_eq, ← bytes_eq] at inside
    have start : (lineStart text (line.toNat - 1)).toUInt64.toNat =
        lineStart text (line.toNat - 1) :=
      UInt64.toNat_ofNat_of_lt' (by omega)
    rw [lineColumnOffset?, if_neg someLine]
    dsimp only [Overflow.add?]
    rw [start, toNat_columns, if_neg fits, Option.map_none]

private theorem lineColumnOffset?_placeBehind (sized : (bytes text).length + 1 < UInt64.size)
    (overflow : Overflow) {read more : List UInt8} (h : bytes text = read ++ more) :
    lineColumnOffset? overflow text (placeBehind read).line.toUInt64
        (placeBehind read).column.toUInt64 =
      some (some (if lastLine read = [] then read.length else read.length - 1)) := by
  have whole := congrArg List.length h
  rw [List.length_append] at whole
  have parts := congrArg List.length
    (encode_lines_append_lastLine ((bytes_eq text).symm.trans h))
  rw [List.length_append, ← utf8Length_eq] at parts
  have behind : utf8Length ((cutLines text.toList).take (read.count lineFeed)).flatten =
      lineStart text (read.count lineFeed) := rfl
  rw [behind] at parts
  have feeds : read.count lineFeed ≤ read.length := List.count_le_length
  have line : (placeBehind read).line.toUInt64.toNat = 1 + read.count lineFeed :=
    UInt64.toNat_ofNat_of_lt' (by simp only [placeBehind]; omega)
  have column : (placeBehind read).column.toUInt64.toNat = (lastLine read).length :=
    UInt64.toNat_ofNat_of_lt' (by simp only [placeBehind]; omega)
  have someLine : (placeBehind read).line.toUInt64 ≠ 0 := by
    intro none
    rw [none, UInt64.toNat_zero] at line
    omega
  have before : 1 + read.count lineFeed - 1 = read.count lineFeed := Nat.add_sub_cancel_left ..
  have fits : lineStart text ((placeBehind read).line.toUInt64.toNat - 1) +
      ((placeBehind read).column.toUInt64.toNat - 1) < UInt64.size := by
    rw [line, column, before]
    omega
  rw [lineColumnOffset?_of_fits overflow someLine fits, line, column, before]
  by_cases start : lastLine read = []
  · rw [start, List.length_nil] at parts ⊢
    rw [if_pos rfl]
    exact congrArg (some ∘ some) (by omega)
  · have positive := List.length_pos_iff.mpr start
    rw [if_neg start]
    exact congrArg (some ∘ some) (by omega)

end Words

/--
The place behind the first bytes of a text, which is where a reader stops that has read so many,
leads back to the last of them; at the start of the text and behind a line feed it leads to the next
byte instead. A JSON fault at such a place points there, and a reader keeps such places. Line 0
leads nowhere. Every other line, with any column, leads to a byte of the text or to its end in a
build whose sums wrap; a build that checks its sums does the same, or stops, exactly where the bytes
before the line and the column do not fit into a word together. The bound on the text says no more
than that the lines of the text and the bytes of a line can be counted in a word.
-/
theorem places_lead_back (text : String) (sized : (bytes text).length + 1 < UInt64.size) :
    (∀ i ≤ (bytes text).length,
      let place := placeBehind ((bytes text).take i)
      let offset := if i = 0 ∨ (bytes text)[i - 1]? = some lineFeed then i else i - 1
      (∀ overflow, lineColumnOffset? overflow text place.line.toUInt64 place.column.toUInt64 =
        some (some offset)) ∧
        ∀ fault, OpenApi.LoadError.ofJson text (.malformed ⟨fault, place⟩) =
          .json (.malformed ⟨fault, place⟩) (some offset)) ∧
    (∀ read : List Char, read.foldl Json.Position.after {} = placeBehind (encode read)) ∧
    (∀ overflow column, lineColumnOffset? overflow text 0 column = some none) ∧
    ∀ line column, line ≠ 0 →
      (∃ offset ≤ (bytes text).length,
        lineColumnOffset? .wraps text line column = some (some offset)) ∧
      lineColumnOffset? .stops text line column =
        if lineStart text (line.toNat - 1) + (column.toNat - 1) < UInt64.size
        then lineColumnOffset? .wraps text line column else none := by
  refine ⟨fun i inside => ?_, foldl_after, fun overflow column => rfl,
    fun line column positive => ⟨?_, lineColumnOffset?_stops sized positive column⟩⟩
  · have starts : lastLine ((bytes text).take i) = [] ↔
        i = 0 ∨ (bytes text)[i - 1]? = some lineFeed := by
      rw [lastLine_eq_nil_iff, List.getLast?_take]
      by_cases none : i = 0
      · simp [none]
      · have some : i - 1 < (bytes text).length := by omega
        have nonempty : bytes text ≠ [] := List.length_pos_iff.mp (by omega)
        simp [none, nonempty, List.getElem?_eq_getElem some]
    have back := fun overflow =>
      lineColumnOffset?_placeBehind sized overflow (List.take_append_drop i (bytes text)).symm
    rw [List.length_take_of_le inside] at back
    simp only [starts] at back
    refine ⟨back, fun fault => congrArg (OpenApi.LoadError.json _) ?_⟩
    exact congrArg Option.join (back .wraps)
  · refine ⟨_, ?_, if_neg positive⟩
    rw [bytes_eq, ← utf8Length_eq]
    exact Nat.min_le_right ..

/-- A fault behind a letter of two bytes, in front of a line feed and behind it, and the last column
that there is. -/
theorem places_lead_back_accent :
    (bytes "[\n\"é\n]").length = 7 ∧
    placeBehind ((bytes "[\n\"é\n]").take 5) = ⟨2, 3⟩ ∧
    lineColumnOffset? .stops "[\n\"é\n]" 2 3 = some (some 4) ∧
    placeBehind ((bytes "[\n\"é\n]").take 6) = ⟨3, 0⟩ ∧
    lineColumnOffset? .stops "[\n\"é\n]" 3 0 = some (some 6) ∧
    (∃ offset ≤ 7, lineColumnOffset? .wraps "[\n\"é\n]" 2 18446744073709551615 =
      some (some offset)) ∧
    lineColumnOffset? .stops "[\n\"é\n]" 2 18446744073709551615 = none := by
  have size : (bytes "[\n\"é\n]").length = 7 := by decide
  have behindLetter : placeBehind ((bytes "[\n\"é\n]").take 5) = ⟨2, 3⟩ := by decide
  have behindFeed : placeBehind ((bytes "[\n\"é\n]").take 6) = ⟨3, 0⟩ := by decide
  obtain ⟨back, -, -, bounded⟩ := places_lead_back "[\n\"é\n]" (by rw [size]; decide)
  have letter := (back 5 (by decide)).1 .stops
  have feed := (back 6 (by decide)).1 .stops
  have far := bounded 2 18446744073709551615 (by decide)
  rw [behindLetter] at letter
  rw [behindFeed] at feed
  rw [size] at far
  exact ⟨size, behindLetter, letter.trans (by decide), behindFeed, feed.trans (by decide), far.1,
    far.2.trans (by decide)⟩

end TypedRoutes.Text
