import Mathlib.Data.List.Basic
import Mathlib.Tactic.SplitIfs
import TypedRoutes.Text.Quoted
import TypedRoutes.Text.Ranges

/-!
What is known about the words of a declaration text: names end where a character stands that no
name has, and string literals are read back one character at a time.
-/

set_option autoImplicit false
set_option relaxedAutoImplicit false

namespace TypedRoutes.Text

theorem forall_mem_head?_cons {P : Char → Prop} {c : Char} (rest : List Char) (h : P c) :
    ∀ d ∈ (c :: rest).head?, P d := by
  intro d hd
  rw [List.head?_cons, Option.mem_some_iff] at hd
  rw [← hd]
  exact h

/-- Whether a text stops at once or goes on with a character that the predicate rejects. -/
def Stops (p : Char → Bool) (rest : List Char) : Prop := ∀ c ∈ rest.head?, p c = false

theorem stops_cons {p : Char → Bool} {c : Char} (rest : List Char) (hc : p c = false) :
    Stops p (c :: rest) :=
  forall_mem_head?_cons rest hc

theorem stops_iff_takeWhile_eq_nil {p : Char → Bool} {rest : List Char} :
    Stops p rest ↔ rest.takeWhile p = [] := by
  cases rest with
  | nil => simp [Stops]
  | cons c rest => cases h : p c <;> simp [Stops, h]

theorem stops_dropWhile (p : Char → Bool) (rest : List Char) : Stops p (rest.dropWhile p) := by
  induction rest with
  | nil => simp [Stops]
  | cons c rest ih =>
    cases h : p c with
    | true => rwa [List.dropWhile_cons_of_pos h]
    | false =>
      rw [List.dropWhile_cons_of_neg (Bool.eq_false_iff.mp h)]
      exact stops_cons rest h

theorem takeWhile_word {p : Char → Bool} {word rest : List Char} (hword : word.all p = true)
    (hrest : Stops p rest) : (word ++ rest).takeWhile p = word := by
  have stopped := stops_iff_takeWhile_eq_nil.mp hrest
  rw [List.takeWhile_append_of_pos (List.all_eq_true.mp hword), stopped, List.append_nil]

theorem dropWhile_word {p : Char → Bool} {word rest : List Char} (hword : word.all p = true)
    (hrest : Stops p rest) : (word ++ rest).dropWhile p = rest := by
  have whole : (word ++ rest).takeWhile p ++ (word ++ rest).dropWhile p = word ++ rest :=
    List.takeWhile_append_dropWhile
  rw [takeWhile_word hword hrest] at whole
  exact List.append_cancel_left whole

theorem word_cancel {p : Char → Bool} {word other rest more : List Char}
    (hword : word.all p = true) (hother : other.all p = true)
    (hrest : Stops p rest) (hmore : Stops p more) (same : word ++ rest = other ++ more) :
    word = other ∧ rest = more := by
  constructor
  · rw [← takeWhile_word hword hrest, same, takeWhile_word hother hmore]
  · rw [← dropWhile_word hword hrest, same, dropWhile_word hother hmore]

/-- The code points that begin bare names: letters of ASCII, the underscore and the dollar sign. -/
def nameStartRanges : List (Nat × Nat) :=
  [(0x24, 0x24), (0x41, 0x5A), (0x5F, 0x5F), (0x61, 0x7A)]

/-- The code points that stand inside bare names: digits of ASCII, and those that begin names. -/
def nameRestRanges : List (Nat × Nat) := (0x30, 0x39) :: nameStartRanges

theorem isAlpha_iff {c : Char} : c.isAlpha = true ↔
    (0x41 ≤ c.toNat ∧ c.toNat ≤ 0x5A) ∨ (0x61 ≤ c.toNat ∧ c.toNat ≤ 0x7A) := by
  delta Char.isAlpha Char.isUpper Char.isLower
  simp only [Bool.or_eq_true, Bool.and_eq_true, decide_eq_true_eq, UInt32.le_iff_toNat_le,
    ge_iff_le]
  exact Iff.rfl

theorem isDigit_iff {c : Char} : c.isDigit = true ↔ 0x30 ≤ c.toNat ∧ c.toNat ≤ 0x39 := by
  delta Char.isDigit
  simp only [Bool.and_eq_true, decide_eq_true_eq, UInt32.le_iff_toNat_le, ge_iff_le]
  exact Iff.rfl

theorem isNameStart_eq (c : Char) : isNameStart c = inRanges nameStartRanges c.toNat := by
  have low : c = '_' ↔ c.toNat = 0x5F := Char.toNat_inj.symm
  have dollar : c = '$' ↔ c.toNat = 0x24 := Char.toNat_inj.symm
  rw [Bool.eq_iff_iff]
  simp only [isNameStart, inRanges, nameStartRanges, Bool.or_eq_true, isAlpha_iff, beq_iff_eq, low,
    dollar, List.any_cons, List.any_nil, Bool.and_eq_true, decide_eq_true_eq, Bool.false_eq_true,
    or_false]
  omega

private theorem isNameRest_eq_or (c : Char) : isNameRest c = (c.isDigit || isNameStart c) := by
  unfold isNameRest isNameStart Char.isAlphanum
  cases c.isAlpha <;> cases c.isDigit <;> rfl

theorem isNameRest_eq (c : Char) : isNameRest c = inRanges nameRestRanges c.toNat := by
  have digit : c.isDigit = (decide (0x30 ≤ c.toNat) && decide (c.toNat ≤ 0x39)) := by
    rw [Bool.eq_iff_iff, isDigit_iff, Bool.and_eq_true, decide_eq_true_eq, decide_eq_true_eq]
  rw [isNameRest_eq_or, isNameStart_eq, digit]
  rfl

theorem toNat_lt_of_isNameRest {c : Char} (h : isNameRest c = true) : c.toNat < 128 := by
  have ascii : ∀ range ∈ nameRestRanges, range.2 < 128 := by decide
  rw [isNameRest_eq] at h
  obtain ⟨range, member, inside⟩ := List.any_eq_true.mp h
  have last := ascii range member
  simp only [Bool.and_eq_true, decide_eq_true_eq] at inside
  omega

private theorem isNameRest_of_isNameStart {c : Char} (h : isNameStart c = true) :
    isNameRest c = true := by
  rw [isNameRest_eq_or, h, Bool.or_true]

theorem toList_of_isIdentifier {name : String} (h : isIdentifier name = true) :
    ∃ c rest, name.toList = c :: rest ∧ isNameStart c = true ∧
      name.toList.all isNameRest = true := by
  unfold isIdentifier at h
  cases chars : name.toList with
  | nil => simp [chars] at h
  | cons c rest =>
    simp only [chars, Bool.and_eq_true] at h
    refine ⟨c, rest, rfl, h.1, ?_⟩
    rw [List.all_cons, isNameRest_of_isNameStart h.1, h.2]
    rfl

theorem isControl_of_isNameRest {c : Char} (h : isNameRest c = true) : isControl c = false := by
  have visible : ∀ range ∈ nameRestRanges, 0x20 ≤ range.1 ∧ range.2 < 0x7F := by decide
  rw [isNameRest_eq] at h
  obtain ⟨range, member, inside⟩ := List.any_eq_true.mp h
  obtain ⟨first, last⟩ := visible range member
  simp only [Bool.and_eq_true, decide_eq_true_eq] at inside
  simp only [isControl, Bool.or_eq_false_iff, Bool.and_eq_false_iff, decide_eq_false_iff_not]
  omega

theorem isIdentifier_append {name more : String} (h : isIdentifier name = true)
    (hmore : more.toList.all isNameRest = true) : isIdentifier (name ++ more) = true := by
  obtain ⟨c, rest, chars, start, all⟩ := toList_of_isIdentifier h
  rw [chars, List.all_cons, Bool.and_eq_true] at all
  unfold isIdentifier
  rw [String.toList_append, chars, List.cons_append]
  simp only [start, List.all_append, all.2, hmore, Bool.and_true]

theorem hexValue?_hexDigit {n : Nat} (h : n < 16) : hexValue? (hexDigit n) = some n := by
  have digits : ∀ m < 16, hexValue? (hexDigit m) = some m := by decide
  exact digits n h

private theorem hexNumber?_hexQuad {n : Nat} (h : n < 65536) : hexNumber? (hexQuad n) = some n := by
  have digit (m : Nat) : hexValue? (hexDigit (m % 16)) = some (m % 16) :=
    hexValue?_hexDigit (Nat.mod_lt m (by omega))
  simp only [hexNumber?, hexQuad, List.foldlM_cons, List.foldlM_nil, digit, Option.map_some,
    Option.bind_eq_bind, Option.bind_some]
  have value : 16 * (16 * (16 * (16 * 0 + n / 4096 % 16) + n / 256 % 16) + n / 16 % 16) + n % 16
      = n := by omega
  rw [value]
  rfl

private theorem takeHexCharacter?_hexQuad {c : Char} (h : c.toNat < 65536) (rest : List Char) :
    takeHexCharacter? 4 (hexQuad c.toNat ++ rest) = some (c, rest) := by
  have front : (hexQuad c.toNat ++ rest).take 4 = hexQuad c.toNat := rfl
  have back : (hexQuad c.toNat ++ rest).drop 4 = rest := rfl
  have four : (hexQuad c.toNat).length = 4 := rfl
  have char : character? c.toNat = some c := by
    have valid : c.toNat.isValidChar := c.valid
    unfold character?
    rw [if_pos valid, Char.ofNat_toNat]
  unfold takeHexCharacter?
  simp only [front, back, four, hexNumber?_hexQuad h, char, Option.bind_eq_bind, Option.bind_some,
    if_true]

/-- The character that a letter after a backslash stands for. -/
def unescape? : Char → Option Char
  | '"' => some '"'
  | '\\' => some '\\'
  | 'n' => some '\n'
  | 'r' => some '\r'
  | 't' => some '\t'
  | _ => none

/-- Reads one character of a string literal, an escape at a time; a quote ends the literal. -/
def readLiteralChar? : List Char → Option (Char × List Char)
  | [] => none
  | '"' :: _ => none
  | '\\' :: 'u' :: rest => takeHexCharacter? 4 rest
  | '\\' :: c :: rest => (unescape? c).map (·, rest)
  | '\\' :: [] => none
  | c :: rest => some (c, rest)

private theorem readLiteralChar?_escapeInLiteral (c : Char) (rest : List Char) :
    readLiteralChar? (escapeInLiteral c ++ rest) = some (c, rest) := by
  unfold escapeInLiteral
  split_ifs with quote backslash feed carriage tab control
  · rw [quote]; rfl
  · rw [backslash]; rfl
  · rw [feed]; rfl
  · rw [carriage]; rfl
  · rw [tab]; rfl
  · have small : c.toNat < 65536 := by
      simp only [isControl, Bool.or_eq_true, Bool.and_eq_true, decide_eq_true_eq] at control
      omega
    exact takeHexCharacter?_hexQuad small rest
  · simp only [List.singleton_append]
    unfold readLiteralChar?
    split <;> simp_all

private theorem length_lt_of_takeHexCharacter? {count : Nat} {text rest : List Char} {c : Char}
    (positive : 0 < count) (h : takeHexCharacter? count text = some (c, rest)) :
    rest.length < text.length := by
  unfold takeHexCharacter? at h
  simp only [Option.bind_eq_bind, Option.bind_eq_some_iff] at h
  obtain ⟨value, -, char, -, h⟩ := h
  split at h
  case isTrue enough =>
    obtain ⟨rfl, rfl⟩ := Prod.mk.inj (Option.some.inj h)
    rw [List.length_take] at enough
    rw [List.length_drop]
    omega
  case isFalse => cases h

private theorem length_lt_of_readLiteralChar? {text rest : List Char} {c : Char}
    (h : readLiteralChar? text = some (c, rest)) : rest.length < text.length := by
  unfold readLiteralChar? at h
  split at h
  case h_1 => cases h
  case h_2 => cases h
  case h_3 digits =>
    have shorter := length_lt_of_takeHexCharacter? (by omega) h
    simp only [List.length_cons]
    omega
  case h_4 =>
    obtain ⟨char, -, same⟩ := Option.map_eq_some_iff.mp h
    obtain ⟨-, rfl⟩ := Prod.mk.inj same
    simp only [List.length_cons]
    omega
  case h_5 => cases h
  case h_6 =>
    obtain ⟨-, rfl⟩ := Prod.mk.inj (Option.some.inj h)
    simp only [List.length_cons]
    omega

def afterQuote? : List Char → Option (List Char)
  | '"' :: rest => some rest
  | _ => none

/-- Reads the inside of a string literal and the quote that ends it. -/
def readLiteralInside? (text : List Char) : Option (List Char × List Char) :=
  match _read : readLiteralChar? text with
  | some (c, rest) => (readLiteralInside? rest).map fun inside => (c :: inside.1, inside.2)
  | none => (afterQuote? text).map fun rest => ([], rest)
termination_by text.length
decreasing_by exact length_lt_of_readLiteralChar? _read

/-- Reads a string literal at the front of a text: what it stands for, and what follows it. -/
def readLiteral? (text : String) : Option (String × String) :=
  ((afterQuote? text.toList).bind readLiteralInside?).map fun read =>
    (String.ofList read.1, String.ofList read.2)

private theorem readLiteralInside?_of_char {text rest : List Char} {c : Char}
    (h : readLiteralChar? text = some (c, rest)) :
    readLiteralInside? text =
      (readLiteralInside? rest).map fun inside => (c :: inside.1, inside.2) := by
  rw [readLiteralInside?]
  split
  case h_1 c' rest' read =>
    obtain ⟨rfl, rfl⟩ := Prod.mk.inj (Option.some.inj (read.symm.trans h))
    rfl
  case h_2 read => simp [read] at h

private theorem readLiteralInside?_quote (rest : List Char) :
    readLiteralInside? ('"' :: rest) = some ([], rest) := by
  rw [readLiteralInside?]
  split
  case h_1 read => cases read
  case h_2 => rfl

private theorem readLiteralInside?_flatMap (text rest : List Char) :
    readLiteralInside? (text.flatMap escapeInLiteral ++ '"' :: rest) = some (text, rest) := by
  induction text with
  | nil => exact readLiteralInside?_quote rest
  | cons c cs ih =>
    have first := readLiteralChar?_escapeInLiteral c (cs.flatMap escapeInLiteral ++ '"' :: rest)
    rw [List.flatMap_cons, List.append_assoc, readLiteralInside?_of_char first, ih]
    rfl

theorem readLiteral?_quote (text rest : String) :
    readLiteral? (quote text ++ rest) = some (text, rest) := by
  have written : (quote text ++ rest).toList =
      '"' :: (text.toList.flatMap escapeInLiteral ++ '"' :: rest.toList) := by
    simp [quote, quoteChars]
  unfold readLiteral?
  rw [written, afterQuote?, Option.bind_some, readLiteralInside?_flatMap, Option.map_some,
    String.ofList_toList, String.ofList_toList]

theorem quote_injective : Function.Injective quote := by
  intro text other same
  have read := readLiteral?_quote text ""
  rw [same, readLiteral?_quote] at read
  exact (Prod.mk.inj (Option.some.inj read)).1.symm

private theorem escapeInLiteral_of_isNameRest {c : Char} (h : isNameRest c = true) :
    escapeInLiteral c = [c] := by
  have visible : isControl c = false := isControl_of_isNameRest h
  have noQuote : c ≠ '"' := by
    rintro rfl
    exact absurd h (by decide)
  have noBackslash : c ≠ '\\' := by
    rintro rfl
    exact absurd h (by decide)
  have noBreak : c ≠ '\n' ∧ c ≠ '\r' ∧ c ≠ '\t' := by
    refine ⟨?_, ?_, ?_⟩ <;> rintro rfl <;> exact absurd visible (by decide)
  obtain ⟨noFeed, noReturn, noTab⟩ := noBreak
  simp [escapeInLiteral, noQuote, noBackslash, noFeed, noReturn, noTab, visible]

theorem quote_of_isIdentifier {name : String} (h : isIdentifier name = true) :
    quote name = "\"" ++ name ++ "\"" := by
  obtain ⟨-, -, -, -, all⟩ := toList_of_isIdentifier h
  have plain : name.toList.flatMap escapeInLiteral = name.toList := by
    have each : ∀ c ∈ name.toList, escapeInLiteral c = [c] := fun c hm =>
      escapeInLiteral_of_isNameRest (List.all_eq_true.mp all c hm)
    rw [List.flatMap_congr each, List.flatMap_singleton']
  rw [← String.toList_inj, quote, quoteChars, plain, String.toList_ofList, String.toList_append,
    String.toList_append]
  rfl

theorem isControl_eq_false_of_mem {signs : List Char} {c : Char}
    (visible : signs.all (fun sign => !isControl sign) = true) (h : c ∈ signs) :
    isControl c = false := by
  simpa using List.all_eq_true.mp visible c h

private theorem isControl_hexDigit {n : Nat} (h : n < 16) : isControl (hexDigit n) = false := by
  have digits : ∀ m < 16, isControl (hexDigit m) = false := by decide
  exact digits n h

private theorem isControl_eq_false_of_mem_escapeInLiteral {c d : Char} (h : d ∈ escapeInLiteral c) :
    isControl d = false := by
  have digit (n : Nat) : isControl (hexDigit (n % 16)) = false :=
    isControl_hexDigit (Nat.mod_lt n (by omega))
  unfold escapeInLiteral at h
  split_ifs at h with quote backslash feed carriage tab control
  · exact isControl_eq_false_of_mem (by decide) h
  · exact isControl_eq_false_of_mem (by decide) h
  · exact isControl_eq_false_of_mem (by decide) h
  · exact isControl_eq_false_of_mem (by decide) h
  · exact isControl_eq_false_of_mem (by decide) h
  · simp only [hexQuad, List.mem_cons, List.not_mem_nil, or_false] at h
    rcases h with rfl | rfl | rfl | rfl | rfl | rfl
    · decide
    · decide
    · exact digit _
    · exact digit _
    · exact digit _
    · exact digit _
  · rw [List.mem_singleton.mp h]
    exact Bool.eq_false_iff.mpr control

theorem isControl_eq_false_of_mem_quoteChars {text : List Char} {c : Char} (h : c ∈ quoteChars text) :
    isControl c = false := by
  unfold quoteChars at h
  rw [List.mem_cons, List.mem_append, List.mem_flatMap, List.mem_singleton] at h
  rcases h with rfl | ⟨d, -, inside⟩ | rfl
  · decide
  · exact isControl_eq_false_of_mem_escapeInLiteral inside
  · decide

/-- String literals are a prefix code: what follows one literal does not change how it is read. -/
theorem quoteChars_cancel {text other rest more : List Char}
    (same : quoteChars text ++ rest = quoteChars other ++ more) : text = other ∧ rest = more := by
  have inner : text.flatMap escapeInLiteral ++ '"' :: rest =
      other.flatMap escapeInLiteral ++ '"' :: more := by
    simpa [quoteChars] using same
  clear same
  induction text generalizing other with
  | nil =>
    cases other with
    | nil => simpa using inner
    | cons d ds =>
      -- a quote where a character of the other literal stands
      have read := congrArg readLiteralChar? inner
      rw [List.flatMap_cons, List.append_assoc, readLiteralChar?_escapeInLiteral] at read
      simp [readLiteralChar?] at read
  | cons c cs ih =>
    have read := congrArg readLiteralChar? inner
    rw [List.flatMap_cons, List.append_assoc, readLiteralChar?_escapeInLiteral] at read
    cases other with
    | nil => simp [readLiteralChar?] at read
    | cons d ds =>
      rw [List.flatMap_cons, List.append_assoc, readLiteralChar?_escapeInLiteral] at read
      simp only [Option.some.injEq, Prod.mk.injEq] at read
      obtain ⟨rfl, tail⟩ := read
      obtain ⟨rfl, ends⟩ := ih tail
      exact ⟨rfl, ends⟩

theorem toList_propertyName (name : String) :
    (isIdentifier name = true ∧ (propertyName name).toList = name.toList) ∨
      (isIdentifier name = false ∧ (propertyName name).toList = quoteChars name.toList) := by
  unfold propertyName
  cases isIdentifier name with
  | true => exact .inl ⟨rfl, rfl⟩
  | false => exact .inr ⟨rfl, by simp [quote]⟩

theorem head_propertyName (name : String) :
    ∃ c rest, (propertyName name).toList = c :: rest ∧ (c = '"' ∨ isNameStart c = true) := by
  obtain ⟨bare, chars⟩ | ⟨-, chars⟩ := toList_propertyName name
  · obtain ⟨c, rest, cons, start, -⟩ := toList_of_isIdentifier bare
    exact ⟨c, rest, by rw [chars, cons], .inr start⟩
  · exact ⟨'"', _, chars, .inl rfl⟩

theorem propertyName_cancel {name other : String} {rest more : List Char}
    (hrest : Stops isNameRest rest) (hmore : Stops isNameRest more)
    (same : (propertyName name).toList ++ rest = (propertyName other).toList ++ more) :
    name = other ∧ rest = more := by
  obtain ⟨bare, chars⟩ | ⟨-, chars⟩ := toList_propertyName name <;>
    obtain ⟨bare', chars'⟩ | ⟨-, chars'⟩ := toList_propertyName other <;>
    rw [chars, chars'] at same
  · obtain ⟨-, -, -, -, all⟩ := toList_of_isIdentifier bare
    obtain ⟨-, -, -, -, all'⟩ := toList_of_isIdentifier bare'
    obtain ⟨names, ends⟩ := word_cancel all all' hrest hmore same
    exact ⟨String.toList_inj.mp names, ends⟩
  · obtain ⟨c, tail, cons, start, -⟩ := toList_of_isIdentifier bare
    rw [cons] at same
    obtain rfl : c = '"' := (List.cons.inj same).1
    simp [isNameStart] at start
  · obtain ⟨c, tail, cons, start, -⟩ := toList_of_isIdentifier bare'
    rw [cons] at same
    obtain rfl : '"' = c := (List.cons.inj same).1
    simp [isNameStart] at start
  · obtain ⟨names, ends⟩ := quoteChars_cancel same
    exact ⟨String.toList_inj.mp names, ends⟩

theorem propertyName_injective : Function.Injective propertyName := by
  intro name other same
  have stops : Stops isNameRest [] := by
    intro c absent
    cases absent
  have texts : (propertyName name).toList ++ [] = (propertyName other).toList ++ [] := by rw [same]
  exact (propertyName_cancel stops stops texts).1

theorem isIdentifier_quote (text : String) : isIdentifier (quote text) = false := by
  have chars : (quote text).toList = '"' :: (text.toList.flatMap escapeInLiteral ++ ['"']) := by
    simp [quote, quoteChars]
  unfold isIdentifier
  rw [chars]
  rfl

end TypedRoutes.Text
