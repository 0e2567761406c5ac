import TypedRoutes.Json.Reader
import TypedRoutes.Proofs.Json.Reading
import TypedRoutes.Proofs.Json.Spelling
import TypedRoutes.Proofs.Text.Literal

/-!
The reader against the texts that spell a value. A spelled value without numbers is read whole,
with what follows it left over, as long as it is nested less deeply than the budget allows; the
length of the text is fuel enough.
-/

set_option autoImplicit false
set_option relaxedAutoImplicit false

namespace TypedRoutes.Json

open Text (Stops stops_cons hexDigit hexValue?_hexDigit)

private theorem skipBlanks_append {gap rest : List Char} (blank : Blank gap)
    (stops : Stops isBlank rest)
    (p : Position) : ∃ p', (Cursor.mk (gap ++ rest) p).skipBlanks = ⟨rest, p'⟩ := by
  unfold Cursor.skipBlanks
  induction gap generalizing p with
  | nil =>
    cases rest with
    | nil => exact ⟨p, rfl⟩
    | cons c more =>
      have word : isBlank c = false := stops c rfl
      exact ⟨p, if_neg (Bool.eq_false_iff.mp word)⟩
  | cons c more ih =>
    obtain ⟨own, others⟩ := List.forall_mem_cons.mp blank
    obtain ⟨p', later⟩ := ih others (p.after c)
    exact ⟨p', (if_pos own).trans later⟩

private theorem utf8Size_hexDigit {n : Nat} (h : n < 16) : (hexDigit n).utf8Size = 1 := by
  have digits : ∀ m < 16, (hexDigit m).utf8Size = 1 := by decide
  exact digits n h

private theorem readString_digit {n left : Nat} (digit : n < 16) (more : 1 < left)
    (high : Option Nat) (value : Nat) (read rest : List Char) (p : Position) :
    ∃ p', readString .keep (.hex high left (some value)) read p (hexDigit n :: rest) =
      readString .keep (.hex high (left - 1) (some (16 * value + n))) read p' rest := by
  refine ⟨p.after (hexDigit n), ?_⟩
  rw [readString, utf8Size_hexDigit digit, if_pos more]
  simp [hexValue?_hexDigit digit]

private theorem readString_lastDigit {n value : Nat} (digit : n < 16)
    (small : 16 * value + n < 0xD800) (read rest : List Char) (p : Position) :
    ∃ p', readString .keep (.hex none 1 (some value)) read p (hexDigit n :: rest) =
      readString .keep .plain (Char.ofNat (16 * value + n) :: read) p' rest := by
  have done : finishHex .keep none (16 * value + n) =
      .ok (.plain, [Char.ofNat (16 * value + n)]) := by
    unfold finishHex
    rw [if_neg (by omega), if_neg (by omega)]
  refine ⟨p.after (hexDigit n), ?_⟩
  rw [readString, utf8Size_hexDigit digit, if_neg (by omega)]
  simp [hexValue?_hexDigit digit, done]

private theorem readString_hexQuad {c : Char} (control : c.toNat < 0x20) (read rest : List Char)
    (p : Position) :
    ∃ p', readString .keep (.hex none 4 (some 0)) read p (Text.hexQuad c.toNat ++ rest) =
      readString .keep .plain (c :: read) p' rest := by
  have digit (n : Nat) : n % 16 < 16 := Nat.mod_lt n (by omega)
  unfold Text.hexQuad
  simp only [List.cons_append, List.nil_append]
  obtain ⟨p₁, first⟩ := readString_digit (digit (c.toNat / 4096)) (by omega : 1 < 4) none 0 read _ p
  rw [first]
  obtain ⟨p₂, second⟩ :=
    readString_digit (digit (c.toNat / 256)) (by omega : 1 < 3) none _ read _ p₁
  rw [second]
  obtain ⟨p₃, third⟩ :=
    readString_digit (digit (c.toNat / 16)) (by omega : 1 < 2) none _ read _ p₂
  rw [third]
  have value : 16 * (16 * (16 * (16 * 0 + c.toNat / 4096 % 16) + c.toNat / 256 % 16) +
      c.toNat / 16 % 16) + c.toNat % 16 = c.toNat := by omega
  have small : 16 * (16 * (16 * (16 * 0 + c.toNat / 4096 % 16) + c.toNat / 256 % 16) +
      c.toNat / 16 % 16) + c.toNat % 16 < 0xD800 := by omega
  obtain ⟨p₄, last⟩ := readString_lastDigit (digit c.toNat) small read rest p₃
  rw [value, Char.ofNat_toNat] at last
  exact ⟨p₄, last⟩

private theorem readString_escapeChar (c : Char) (read rest : List Char) (p : Position) :
    ∃ p', readString .keep .plain read p (escapeChar c ++ rest) =
      readString .keep .plain (c :: read) p' rest := by
  unfold escapeChar
  split_ifs with quote backslash feed carriage tab bell form control
  · rw [quote]
    exact ⟨_, rfl⟩
  · rw [backslash]
    exact ⟨_, rfl⟩
  · rw [feed]
    exact ⟨_, rfl⟩
  · rw [carriage]
    exact ⟨_, rfl⟩
  · rw [tab]
    exact ⟨_, rfl⟩
  · have char : c = Char.ofNat 0x08 := by rw [← bell, Char.ofNat_toNat]
    rw [char]
    exact ⟨_, rfl⟩
  · have char : c = Char.ofNat 0x0C := by rw [← form, Char.ofNat_toNat]
    rw [char]
    exact ⟨_, rfl⟩
  · obtain ⟨p', read⟩ := readString_hexQuad control read rest _
    exact ⟨p', read⟩
  · refine ⟨p.after c, ?_⟩
    rw [List.singleton_append, readString]
    simp [quote, backslash, control]

private theorem readString_flatMap (text read rest : List Char) (p : Position) :
    ∃ p', readString .keep .plain read p (text.flatMap escapeChar ++ '"' :: rest) =
      .ok (read.reverse ++ text, ⟨rest, p'⟩) := by
  induction text generalizing read p with
  | nil =>
    rw [List.append_nil]
    exact ⟨_, rfl⟩
  | cons c more ih =>
    obtain ⟨p₁, first⟩ := readString_escapeChar c read (more.flatMap escapeChar ++ '"' :: rest) p
    obtain ⟨p₂, later⟩ := ih (c :: read) p₁
    refine ⟨p₂, ?_⟩
    rw [List.flatMap_cons, List.append_assoc, first, later, List.reverse_cons, List.append_assoc]
    rfl

private theorem readString_stringChars (text : String) (rest : List Char) (p : Position) :
    ∃ p', readString .keep .plain [] p (text.toList.flatMap escapeChar ++ ['"'] ++ rest) =
      .ok (text.toList, ⟨rest, p'⟩) := by
  rw [List.append_assoc]
  exact readString_flatMap text.toList [] rest p

theorem Spells.begins {value : Json} {chars : List Char} (spells : Spells value chars) :
    ∃ c more, chars = c :: more ∧ isBlank c = false ∧ c ≠ ']' := by
  cases value with
  | null =>
    obtain rfl := spells
    exact ⟨_, _, rfl, rfl, by decide⟩
  | bool value =>
    cases value with
    | true =>
      obtain rfl := spells
      exact ⟨_, _, rfl, rfl, by decide⟩
    | false =>
      obtain rfl := spells
      exact ⟨_, _, rfl, rfl, by decide⟩
  | number value => cases spells
  | string value =>
    obtain rfl := spells
    exact ⟨_, _, rfl, rfl, by decide⟩
  | array items =>
    obtain ⟨inside, rfl, -⟩ := spells
    exact ⟨_, _, rfl, rfl, by decide⟩
  | object fields =>
    obtain ⟨inside, rfl, -⟩ := spells
    exact ⟨_, _, rfl, rfl, by decide⟩

theorem Spells.stops {value : Json} {chars : List Char} (spells : Spells value chars)
    (rest : List Char) : Stops isBlank (chars ++ rest) := by
  obtain ⟨c, more, rfl, word, -⟩ := spells.begins
  exact stops_cons _ word

private theorem Spells.length_pos {value : Json} {chars : List Char} (spells : Spells value chars) :
    0 < chars.length := by
  obtain ⟨c, more, rfl, -⟩ := spells.begins
  exact Nat.succ_pos _

private theorem SpellsItems.length_pos {first : Bool} {items : List Json} {chars : List Char}
    (spells : SpellsItems first items chars) : 0 < chars.length := by
  cases items with
  | nil =>
    obtain ⟨gap, rfl, -⟩ := spells
    simp
  | cons item rest =>
    obtain ⟨lead, spelled, more, rfl, -, own, -⟩ := spells
    have some := own.length_pos
    simp only [List.length_append]
    omega

private theorem SpellsFields.length_pos {first : Bool} {fields : List (String × Json)}
    {chars : List Char} (spells : SpellsFields first fields chars) : 0 < chars.length := by
  cases fields with
  | nil =>
    obtain ⟨gap, rfl, -⟩ := spells
    simp
  | cons field rest =>
    obtain ⟨lead, before, behind, spelled, more, rfl, -⟩ := spells
    simp only [List.length_append, List.length_cons]
    omega

/-- The words that are values, with what they are read as. -/
def words : List (List Char × Reading) :=
  [(['n', 'u', 'l', 'l'], .null), (['t', 'r', 'u', 'e'], .bool true),
    (['f', 'a', 'l', 's', 'e'], .bool false)]

section Heads

variable {fuel budget : Nat} {cursor : Cursor} {inside rest : List Char} {p : Position}

private theorem readValue_word {word : List Char} {reading : Reading}
    (known : (word, reading) ∈ words) (ahead : cursor.skipBlanks = ⟨word ++ rest, p⟩) :
    ∃ p', readValue (fuel + 1) budget .keep cursor = (reading, some ⟨rest, p'⟩) := by
  simp only [words, List.mem_cons, List.not_mem_nil, or_false, Prod.mk.injEq] at known
  obtain ⟨rfl, rfl⟩ | ⟨rfl, rfl⟩ | ⟨rfl, rfl⟩ := known <;>
    simp only [List.cons_append, List.nil_append] at ahead <;>
    simp only [readValue, ahead] <;>
    exact ⟨_, rfl⟩

private theorem readValue_string {text : String}
    (ahead : cursor.skipBlanks = ⟨stringChars text ++ rest, p⟩) :
    ∃ p', readValue (fuel + 1) budget .keep cursor = (.string text, some ⟨rest, p'⟩) := by
  obtain ⟨p', inside⟩ := readString_stringChars text rest (p.after '"')
  refine ⟨p', ?_⟩
  rw [stringChars, List.cons_append] at ahead
  simp only [readValue, ahead, inside, String.ofList_toList]

private theorem readValue_array {items : List (Option Position × Reading)} {next : Cursor}
    (ahead : cursor.skipBlanks = ⟨'[' :: inside, p⟩) (room : 1 < budget)
    (read : readItems fuel (budget - 1) .keep true ⟨inside, p.after '['⟩ =
      (items, none, some next)) :
    readValue (fuel + 1) budget .keep cursor = (.array items none, some next) := by
  have step : (Cursor.mk ('[' :: inside) p).step = ⟨inside, p.after '['⟩ := rfl
  have allowed : ¬ budget ≤ 1 := by omega
  simp only [readValue, ahead, step, read, allowed, and_false, if_false]

private theorem readValue_object {fields : List (String × Reading)} {next : Cursor}
    (ahead : cursor.skipBlanks = ⟨'{' :: inside, p⟩) (room : 1 < budget)
    (read : readFields fuel (budget - 1) .keep (fun _ => .keep) true ⟨inside, p.after '{'⟩ =
      (fields, none, some next)) :
    readValue (fuel + 1) budget .keep cursor = (.object fields none, some next) := by
  have step : (Cursor.mk ('{' :: inside) p).step = ⟨inside, p.after '{'⟩ := rfl
  have allowed : ¬ budget ≤ 1 := by omega
  simp only [readValue, ahead, step, read, allowed, and_false, if_false]

end Heads

/-- From any place, a value is read whole off a text, and the rest is left. -/
def ReadsValue (fuel budget : Nat) (text rest : List Char) (value : Json) : Prop :=
  ∀ p, ∃ reading p', readValue fuel budget .keep ⟨text, p⟩ = (reading, some ⟨rest, p'⟩) ∧
    reading.toJson = .ok value

/-- From any place, items are read whole off a text, and the rest is left. -/
def ReadsItems (fuel budget : Nat) (first : Bool) (text rest : List Char) (values : List Json) :
    Prop :=
  ∀ p, ∃ items p', readItems fuel budget .keep first ⟨text, p⟩ =
      (items, none, some ⟨rest, p'⟩) ∧
    Reading.itemsToJson items = .ok values

/-- From any place, fields are read whole off a text, and the rest is left. -/
def ReadsFields (fuel budget : Nat) (modeOf : String → Mode) (first : Bool)
    (text rest : List Char) (values : List (String × Json)) : Prop :=
  ∀ p, ∃ fields p', readFields fuel budget .keep modeOf first ⟨text, p⟩ =
      (fields, none, some ⟨rest, p'⟩) ∧
    Reading.fieldsToJson fields = .ok values

section Parts

variable {fuel budget : Nat} {first : Bool} {modeOf : String → Mode} {value : Json}
  {values : List Json} {gap lead spelled after rest : List Char}

private theorem readsItems_close (blank : Blank gap) :
    ReadsItems (fuel + 1) budget first (gap ++ (']' :: rest)) rest [] := by
  intro p
  have word : isBlank ']' = false := rfl
  obtain ⟨p₁, skip⟩ := skipBlanks_append blank (stops_cons rest word) p
  simp only [readItems, skip]
  exact ⟨_, _, rfl, rfl⟩

private theorem readsFields_close (blank : Blank gap) :
    ReadsFields (fuel + 1) budget modeOf first (gap ++ ('}' :: rest)) rest [] := by
  intro p
  have word : isBlank '}' = false := rfl
  obtain ⟨p₁, skip⟩ := skipBlanks_append blank (stops_cons rest word) p
  simp only [readFields, skip]
  exact ⟨_, _, rfl, rfl⟩

private theorem readItems_lead {c : Char} (leads : Lead first lead) (word : isBlank c = false)
    (opens : c ≠ ']') (more : List Char) (p : Position) :
    ∃ p₁ place, ∀ {reading next items stop last},
      readValue fuel budget .keep ⟨c :: more, p₁⟩ = (reading, some next) →
      readItems fuel budget .keep false next = (items, stop, last) →
      readItems (fuel + 1) budget .keep first ⟨lead ++ c :: more, p⟩ =
        ((place, reading) :: items, stop, last) := by
  cases first with
  | true =>
    obtain ⟨p₁, skip⟩ := skipBlanks_append leads (stops_cons more word) p
    refine ⟨p₁, some (Cursor.mk (c :: more) p₁).faultPosition, fun read reads => ?_⟩
    simp only [readItems, skip]
    simp [read, reads]
  | false =>
    obtain ⟨before, behind, rfl, blank, spaces⟩ := leads
    have sign : isBlank ',' = false := rfl
    obtain ⟨p₀, comma⟩ := skipBlanks_append blank (stops_cons (behind ++ c :: more) sign) p
    obtain ⟨p₁, skip⟩ := skipBlanks_append spaces (stops_cons more word) (p₀.after ',')
    have step : (Cursor.mk (',' :: (behind ++ c :: more)) p₀).step =
        ⟨behind ++ c :: more, p₀.after ','⟩ := rfl
    refine ⟨p₁, some (Cursor.mk (c :: more) p₁).faultPosition, fun read reads => ?_⟩
    rw [List.append_assoc, List.cons_append]
    simp only [readItems, comma, step, skip]
    simp [read, reads]

private theorem readsItems_cons (leads : Lead first lead) (spells : Spells value spelled)
    (own : ReadsValue fuel budget (spelled ++ after) after value)
    (others : ReadsItems fuel budget false after rest values) :
    ReadsItems (fuel + 1) budget first (lead ++ (spelled ++ after)) rest (value :: values) := by
  intro p
  obtain ⟨c, more, rfl, word, opens⟩ := spells.begins
  obtain ⟨p₁, place, reads⟩ := readItems_lead leads word opens (more ++ after) p
  obtain ⟨reading, p₂, read, whole⟩ := own p₁
  obtain ⟨items, p₃, later, wholes⟩ := others p₂
  refine ⟨(place, reading) :: items, p₃, reads read later, ?_⟩
  rw [Reading.itemsToJson, whole, wholes]
  rfl

/-- Behind its lead the key of a field is read, then its value in the mode of the key, and then
the fields behind it. -/
private theorem readFields_lead {before : List Char} (leads : Lead first lead)
    (blank : Blank before) (key : String) (tail : List Char) (p : Position) :
    ∃ p₁, ∀ {reading next fields stop last},
      readValue fuel budget (modeOf key) ⟨tail, p₁⟩ = (reading, some next) →
      readFields fuel budget .keep modeOf false next = (fields, stop, last) →
      readFields (fuel + 1) budget .keep modeOf first
          ⟨lead ++ (stringChars key ++ (before ++ ':' :: tail)), p⟩ =
        ((key, reading) :: fields, stop, last) := by
  have quote : isBlank '"' = false := rfl
  have colon : isBlank ':' = false := rfl
  have step (p₀ : Position) : (Cursor.mk (':' :: tail) p₀).step = ⟨tail, p₀.after ':'⟩ := rfl
  have inside : stringChars key ++ (before ++ ':' :: tail) =
      '"' :: (key.toList.flatMap escapeChar ++ ['"'] ++ (before ++ ':' :: tail)) := rfl
  have string := readString_stringChars key (before ++ ':' :: tail)
  rw [inside]
  generalize key.toList.flatMap escapeChar ++ ['"'] ++ (before ++ ':' :: tail) = text at string ⊢
  cases first with
  | true =>
    obtain ⟨p₁, skip⟩ := skipBlanks_append leads (stops_cons text quote) p
    obtain ⟨p₂, quoted⟩ := string (p₁.after '"')
    obtain ⟨p₃, between⟩ := skipBlanks_append blank (stops_cons tail colon) p₂
    refine ⟨p₃.after ':', fun read reads => ?_⟩
    simp only [readFields, skip]
    simp [quoted, between, step, read, reads]
  | false =>
    obtain ⟨gap, gap', rfl, blank', spaces⟩ := leads
    have sign : isBlank ',' = false := rfl
    have past (p₀ : Position) : (Cursor.mk (',' :: (gap' ++ '"' :: text)) p₀).step =
        ⟨gap' ++ '"' :: text, p₀.after ','⟩ := rfl
    obtain ⟨p₀, comma⟩ := skipBlanks_append blank' (stops_cons (gap' ++ '"' :: text) sign) p
    obtain ⟨p₁, skip⟩ := skipBlanks_append spaces (stops_cons text quote) (p₀.after ',')
    obtain ⟨p₂, quoted⟩ := string (p₁.after '"')
    obtain ⟨p₃, between⟩ := skipBlanks_append blank (stops_cons tail colon) p₂
    refine ⟨p₃.after ':', fun read reads => ?_⟩
    rw [List.append_assoc, List.cons_append]
    simp only [readFields, comma, past, skip]
    simp [quoted, between, step, read, reads]

private theorem readsFields_cons {key : String} {before behind : List Char}
    {fields : List (String × Json)}
    (leads : Lead first lead) (blank : Blank before) (kept : modeOf key = .keep)
    (own : ReadsValue fuel budget (behind ++ (spelled ++ after)) after value)
    (others : ReadsFields fuel budget modeOf false after rest fields) :
    ReadsFields (fuel + 1) budget modeOf first
      (lead ++ (stringChars key ++ (before ++ ':' :: (behind ++ (spelled ++ after))))) rest
      ((key, value) :: fields) := by
  intro p
  obtain ⟨p₁, reads⟩ := readFields_lead leads blank key (behind ++ (spelled ++ after)) p
  obtain ⟨reading, p₂, read, whole⟩ := own p₁
  obtain ⟨fields, p₃, later, wholes⟩ := others p₂
  rw [← kept] at read
  refine ⟨(key, reading) :: fields, p₃, reads read later, ?_⟩
  rw [Reading.fieldsToJson, whole, wholes]
  rfl

end Parts

mutual

private theorem readsValue_of_spells : ∀ {value : Json} {chars : List Char}, Spells value chars →
    ∀ {fuel budget : Nat}, value.depth < budget → chars.length ≤ fuel →
    ∀ {gap : List Char}, Blank gap → ∀ rest : List Char,
    ReadsValue fuel budget (gap ++ (chars ++ rest)) rest value
  | value, chars, spells, fuel, budget, deep, enough, gap, blank, rest => by
    intro p
    have some := spells.length_pos
    obtain ⟨steps, rfl⟩ := Nat.exists_eq_add_one.mpr (Nat.lt_of_lt_of_le some enough)
    obtain ⟨p₁, skip⟩ := skipBlanks_append blank (spells.stops rest) p
    match value with
    | .null =>
      obtain rfl := spells
      obtain ⟨p', read⟩ := @readValue_word steps budget _ _ _ _ .null (by simp [words]) skip
      exact ⟨_, p', read, rfl⟩
    | .bool true =>
      obtain rfl := spells
      obtain ⟨p', read⟩ := @readValue_word steps budget _ _ _ _ (.bool true) (by simp [words]) skip
      exact ⟨_, p', read, rfl⟩
    | .bool false =>
      obtain rfl := spells
      obtain ⟨p', read⟩ := @readValue_word steps budget _ _ _ _ (.bool false) (by simp [words]) skip
      exact ⟨_, p', read, rfl⟩
    | .string text =>
      obtain rfl := spells
      obtain ⟨p', read⟩ := @readValue_string steps budget _ _ _ text skip
      exact ⟨_, p', read, rfl⟩
    | .array items =>
      obtain ⟨inside, rfl, spelled⟩ := spells
      have room : depthItems items + 1 < budget := deep
      have fits : inside.length + 1 ≤ steps + 1 := enough
      have deeper : depthItems items < budget - 1 := by omega
      have reads := readsItems_of_spells spelled deeper (Nat.le_of_succ_le_succ fits) rest
      obtain ⟨readings, p', read, whole⟩ := reads (p₁.after '[')
      refine ⟨_, p', readValue_array skip (by omega) read, ?_⟩
      rw [Reading.toJson, whole]
      rfl
    | .object fields =>
      obtain ⟨inside, rfl, spelled⟩ := spells
      have room : depthFields fields + 1 < budget := deep
      have fits : inside.length + 1 ≤ steps + 1 := enough
      have deeper : depthFields fields < budget - 1 := by omega
      have reads := @readsFields_of_spells fields true inside spelled (fun _ => .keep)
        (fun _ _ => rfl) steps (budget - 1) deeper (Nat.le_of_succ_le_succ fits) rest
      obtain ⟨readings, p', read, whole⟩ := reads (p₁.after '{')
      refine ⟨_, p', readValue_object skip (by omega) read, ?_⟩
      rw [Reading.toJson, whole]
      rfl

private theorem readsItems_of_spells : ∀ {items : List Json} {first : Bool} {chars : List Char},
    SpellsItems first items chars → ∀ {fuel budget : Nat}, depthItems items < budget →
    chars.length ≤ fuel → ∀ rest : List Char,
    ReadsItems fuel budget first (chars ++ rest) rest items
  | items, first, chars, spells, fuel, budget, deep, enough, rest => by
    have some := spells.length_pos
    obtain ⟨steps, rfl⟩ := Nat.exists_eq_add_one.mpr (Nat.lt_of_lt_of_le some enough)
    match items with
    | [] =>
      obtain ⟨gap, rfl, blank⟩ := spells
      rw [List.append_assoc]
      exact readsItems_close blank
    | item :: others =>
      obtain ⟨lead, spelled, more, rfl, leads, own, later⟩ := spells
      have deepest : max item.depth (depthItems others) < budget := deep
      have itemDeep : item.depth < budget := by omega
      have othersDeep : depthItems others < budget := by omega
      -- the item is not the whole text, and neither is what follows it: one step is left for both
      have before := own.length_pos
      have behind := later.length_pos
      simp only [List.length_append] at enough
      have itemFits : spelled.length ≤ steps := by omega
      have othersFit : more.length ≤ steps := by omega
      have reads := readsValue_of_spells own itemDeep itemFits blank_nil (more ++ rest)
      have readsOthers := readsItems_of_spells later othersDeep othersFit rest
      rw [List.append_assoc, List.append_assoc]
      exact readsItems_cons leads own reads readsOthers

private theorem readsFields_of_spells : ∀ {fields : List (String × Json)} {first : Bool}
    {chars : List Char}, SpellsFields first fields chars → ∀ {modeOf : String → Mode},
    (∀ field ∈ fields, modeOf field.1 = .keep) → ∀ {fuel budget : Nat},
    depthFields fields < budget → chars.length ≤ fuel → ∀ rest : List Char,
    ReadsFields fuel budget modeOf first (chars ++ rest) rest fields
  | fields, first, chars, spells, modeOf, kept, fuel, budget, deep, enough, rest => by
    have some := spells.length_pos
    obtain ⟨steps, rfl⟩ := Nat.exists_eq_add_one.mpr (Nat.lt_of_lt_of_le some enough)
    match fields with
    | [] =>
      obtain ⟨gap, rfl, blank⟩ := spells
      rw [List.append_assoc]
      exact readsFields_close blank
    | (key, value) :: others =>
      obtain ⟨lead, before, behind, spelled, more, rfl, leads, blank, spaces, own, later⟩ := spells
      have deepest : max value.depth (depthFields others) < budget := deep
      have valueDeep : value.depth < budget := by omega
      have othersDeep : depthFields others < budget := by omega
      obtain ⟨here, elsewhere⟩ := List.forall_mem_cons.mp kept
      have filled := own.length_pos
      simp only [List.length_append, List.length_cons] at enough
      have valueFits : spelled.length ≤ steps := by omega
      have othersFit : more.length ≤ steps := by omega
      have reads := readsValue_of_spells own valueDeep valueFits spaces (more ++ rest)
      have readsOthers := readsFields_of_spells later elsewhere othersDeep othersFit rest
      have text : lead ++ (stringChars key ++ (before ++ ':' :: (behind ++ (spelled ++ more)))) ++
          rest = lead ++ (stringChars key ++
            (before ++ ':' :: (behind ++ (spelled ++ (more ++ rest))))) := by
        simp only [List.append_assoc, List.cons_append]
      rw [text]
      exact readsFields_cons leads blank here reads readsOthers

end

/-- The text of an object that is nested less deeply than the limit is decoded like its fields,
which are read whole unless they are skimmed. -/
theorem decodeText_of_spells {fields : List (String × Json)} {chars : List Char}
    (spells : Spells (.object fields) chars) (deep : (Json.object fields).depth < nestingLimit)
    {skimmed : String → Bool} (kept : ∀ field ∈ fields, skimmed field.1 = false) :
    ∃ readings, Reading.fieldsToJson readings = .ok fields ∧
      ∀ {α : Type} (decode : Reading → Except ReadError α),
        decodeText skimmed decode (String.ofList chars) = decode (.object readings none) := by
  obtain ⟨p₁, skip⟩ := skipBlanks_append blank_nil (spells.stops []) {}
  obtain ⟨inside, rfl, spelled⟩ := spells
  rw [List.append_nil, List.nil_append] at skip
  have room : depthFields fields + 1 < nestingLimit := deep
  have step : (Cursor.mk ('{' :: inside) p₁).step = ⟨inside, p₁.after '{'⟩ := rfl
  have modes : ∀ field ∈ fields, (if skimmed field.1 then Mode.skim else .keep) = .keep :=
    fun field hm => by rw [kept field hm]; rfl
  have reads := @readsFields_of_spells fields true inside spelled
    (fun key => if skimmed key then .skim else .keep) modes
    (2 * ('{' :: inside).length + 2) (nestingLimit - 1) (by omega) (by simp; omega) []
  rw [List.append_nil] at reads
  obtain ⟨readings, p₂, read, whole⟩ := reads (p₁.after '{')
  have ends : readEnd ⟨[], p₂⟩ = none := rfl
  have document : readDocument skimmed (String.ofList ('{' :: inside)) =
      ⟨.object readings none, none⟩ := by
    simp only [readDocument, String.toList_ofList, skip, step, read, Option.bind_some, ends]
  refine ⟨readings, whole, fun decode => ?_⟩
  rw [decodeText, document]
  cases decode (.object readings none) with
  | error error => rfl
  | ok value => rfl

end TypedRoutes.Json
