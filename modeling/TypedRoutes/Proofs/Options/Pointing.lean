import TypedRoutes.Options.Loading
import TypedRoutes.Proofs.Toml.Lines

/-!
Where the error for a rejected name points. An option file is made of lines, and each of its options
stands on one of them. The error points at the first place of the key in the text, be that in a
comment.
-/

set_option autoImplicit false
set_option relaxedAutoImplicit false

namespace TypedRoutes.Options

private theorem Key.ofName?_name (key : Key) : Key.ofName? key.name = some key := by
  cases key <;> rfl

private theorem Key.name_of_ofName? {name : String} {key : Key} (h : Key.ofName? name = some key) :
    key.name = name := by
  have found := List.find?_some h
  exact beq_iff_eq.mp found

private theorem Key.name_injective : Function.Injective Key.name := by
  intro key other same
  have named := Key.ofName?_name key
  rw [same, Key.ofName?_name] at named
  exact (Option.some.inj named).symm

def written? (line : String) : Option (Key × Toml.Value) :=
  match Toml.line? line.toList with
  | some (.assignment [name] value, []) => (Key.ofName? name).map fun key => (key, value)
  | _ => none

/-- The lines of an option file: blanks, comments, and options with values that they take. -/
inductive IsFileLine (line : String) : Prop
  | blank (blanks : ∀ c ∈ line.toList, Toml.isBlank c = true)
  | comment (text : List Char) (same : line.toList = '#' :: text)
    (visible : ∀ c ∈ text, Toml.isLineChar c = true)
  | option {key : Key} {value : Toml.Value} (oneLine : Toml.IsOneLine line.toList)
    (writes : written? line = some (key, value)) (fits : (key.take? tomlForm value {}).isSome)

/-- A text of such lines, no option twice, with a name for the alias in front of one of them. -/
structure IsOptionFile (text : String) (before : List String) (line name : String)
    (after : List String) : Prop where
  lines : Text.lines text = before ++ line :: after
  others : ∀ other ∈ before ++ after, IsFileLine other
  once : (((before ++ line :: after).filterMap written?).map Prod.fst).Nodup
  oneLine : Toml.IsOneLine line.toList
  front : "routeTypeName".toList <+: line.toList
  writes : written? line = some (.routeTypeName, .text name)

section Written

private theorem line?_of_written? {line : String} {key : Key} {value : Toml.Value}
    (writes : written? line = some (key, value)) :
    Toml.line? line.toList = some (.assignment [key.name] value, []) := by
  unfold written? at writes
  split at writes
  case h_1 name value' read =>
    obtain ⟨key', named, same⟩ := Option.map_eq_some_iff.mp writes
    cases same
    rw [read, Key.name_of_ofName? named]
  case h_2 => cases writes

private theorem written?_of_blank {line : String}
    (blank : Toml.line? line.toList = some (.blank, [])) :
    written? line = none := by
  rw [written?, blank]

private theorem skipBlanks_of_value? {depth : Nat} {text : List Char}
    {read : Toml.Value × List Char}
    (h : Toml.value? depth text = some read) : Toml.skipBlanks text = text := by
  cases text with
  | nil => rfl
  | cons c rest =>
    refine List.dropWhile_cons_of_neg fun blank => ?_
    have blanks : c = ' ' ∨ c = '\t' := by simpa [Toml.isBlank] using blank
    unfold Toml.value? at h
    obtain rfl | rfl := blanks <;> cases h

private theorem written?_spelled (key : Key) {spelled : String} {value : Toml.Value}
    (read : Toml.value? Toml.nestingLimit spelled.toList = some (value, [])) :
    written? (key.name ++ " = " ++ spelled) = some (key, value) := by
  have chars : (key.name ++ " = " ++ spelled).toList =
      key.name.toList ++ ' ' :: '=' :: ' ' :: spelled.toList := by simp
  generalize behind : ' ' :: '=' :: ' ' :: spelled.toList = rest at chars
  have front : Toml.skipBlanks (key.name.toList ++ rest) = key.name.toList ++ rest := by
    cases key <;> rfl
  have noBracket : (key.name.toList ++ rest).head? ≠ some '[' := by
    cases key <;> simp [Key.name]
  have goesOn : Toml.endLine? (key.name.toList ++ rest) = none := by
    cases key <;> rfl
  have named : Toml.simpleKey? (key.name.toList ++ rest) = some (key.name, rest) := by
    subst behind
    cases key <;> rfl
  have sign : Toml.skipBlanks rest = '=' :: ' ' :: spelled.toList := by
    subst behind
    rfl
  have path : Toml.path? (key.name.toList ++ rest).length (key.name.toList ++ rest) =
      some ([key.name], '=' :: ' ' :: spelled.toList) := by
    have last := Toml.path?_last ((key.name.toList ++ rest).length - 1) named (by simp [sign])
    rw [sign] at last
    have parts : (key.name.toList ++ rest).length - 1 + 1 = (key.name.toList ++ rest).length := by
      cases key <;> simp [Key.name]
    rwa [parts] at last
  have taken : Toml.value? Toml.nestingLimit (Toml.skipBlanks (' ' :: spelled.toList)) =
      some (value, []) := by
    have skipped : Toml.skipBlanks (' ' :: spelled.toList) = Toml.skipBlanks spelled.toList := rfl
    rw [skipped, skipBlanks_of_value? read, read]
  have equals : Toml.skipBlanks ('=' :: ' ' :: spelled.toList) = '=' :: ' ' :: spelled.toList :=
    rfl
  have assigned := Toml.assignment?_of path equals taken
  rw [← front] at noBracket goesOn assigned
  rw [written?, chars, Toml.line?_assignment noBracket goesOn assigned]
  exact congrArg (Option.map fun key => (key, value)) (Key.ofName?_name key)

private theorem written?_string {spelled name : String}
    (read : Toml.text? spelled.toList = some (name, [])) :
    written? ("routeTypeName = " ++ spelled) = some (.routeTypeName, .text name) := by
  refine written?_spelled .routeTypeName ?_
  obtain ⟨c, rest, quote, chars⟩ := Toml.exists_quote_of_text? read
  rw [chars] at read ⊢
  rw [Toml.value?_quote quote, read]
  rfl

end Written

theorem IsFileLine.line?_cases {line : String} (h : IsFileLine line) :
    Toml.line? line.toList = some (.blank, []) ∨
      ∃ key value, written? line = some (key, value) ∧
        (key.take? tomlForm value {}).isSome := by
  cases h with
  | blank blanks =>
    have skipped : Toml.skipBlanks line.toList = [] := List.dropWhile_eq_nil_iff.mpr blanks
    refine .inl (Toml.line?_blank ?_ ?_)
    · simp [skipped]
    · rw [skipped]
      rfl
  | comment text same visible =>
    have ended : Toml.behindComment ('#' :: text) = [] :=
      List.dropWhile_eq_nil_iff.mpr (List.forall_mem_cons.mpr ⟨rfl, visible⟩)
    have front : Toml.skipBlanks ('#' :: text) = '#' :: text := rfl
    rw [same]
    refine .inl (Toml.line?_blank ?_ ?_)
    · simp [front]
    · rw [front, Toml.endLine?_eq, ended]
  | option _ writes fits => exact .inr ⟨_, _, writes, fits⟩

private theorem IsFileLine.isOneLine {line : String} (h : IsFileLine line) :
    Toml.IsOneLine line.toList := by
  cases h with
  | blank blanks => exact Toml.isOneLine_of_forall (fun _ => Toml.isBlank_of_isBreak) blanks
  | comment text same visible =>
    rw [same]
    exact Toml.isOneLine_of_forall (fun _ => Toml.isLineChar_of_isBreak)
      (List.forall_mem_cons.mpr ⟨rfl, visible⟩)
  | option oneLine _ _ => exact oneLine

private theorem isFileLine_spelled (key : Key) {spelled : String} {value : Toml.Value}
    (oneLine : Toml.IsOneLine spelled.toList)
    (read : Toml.value? Toml.nestingLimit spelled.toList = some (value, []))
    (fits : (key.take? tomlForm value {}).isSome) :
    IsFileLine (key.name ++ " = " ++ spelled) := by
  refine .option ?_ (written?_spelled key read) fits
  have front : Toml.IsOneLine (key.name ++ " = ").toList := by
    cases key <;> decide
  rw [String.toList_append]
  intro c member
  obtain early | late := List.mem_append.mp member
  · exact front c early
  · exact oneLine c late

def fields (options : List (Key × Toml.Value)) : Toml.Entries :=
  options.map fun option => (option.1.name, option.2)

private theorem put_of_not_mem {name : String} {entries : Toml.Entries}
    (fresh : name ∉ entries.map Prod.fst) (value : Toml.Value) :
    Toml.Entries.put name value entries = entries ++ [(name, value)] := by
  induction entries with
  | nil => rfl
  | cons entry entries ih =>
    rw [List.map_cons, List.mem_cons, not_or] at fresh
    obtain ⟨differ, later⟩ := fresh
    rw [Toml.Entries.put, if_neg (Ne.symm differ), ih later]
    rfl

private theorem get?_of_not_mem {name : String} {entries : Toml.Entries}
    (fresh : name ∉ entries.map Prod.fst) : Toml.Entries.get? entries name = none := by
  refine List.lookup_eq_none_iff.mpr fun entry member => ?_
  refine bne_iff_ne.mpr ?_
  rintro rfl
  exact fresh (List.mem_map_of_mem member)

private theorem take?_assignment {done : List (Key × Toml.Value)} {key : Key}
    (fresh : key ∉ done.map Prod.fst) (value : Toml.Value) :
    Toml.State.take? ⟨fields done, []⟩ (.assignment [key.name] value) =
      some ⟨fields (done ++ [(key, value)]), []⟩ := by
  have fresh' : key.name ∉ (fields done).map Prod.fst := by
    intro member
    simp only [fields, List.map_map, List.mem_map, Function.comp_apply] at member
    obtain ⟨option, done', same⟩ := member
    exact fresh (Key.name_injective same ▸ List.mem_map_of_mem done')
  have added : Toml.State.take? ⟨fields done, []⟩ (.assignment [key.name] value) =
      ((fields done).add? key.name value).map fun root => ⟨root, []⟩ := rfl
  rw [added, Toml.Entries.add?, get?_of_not_mem fresh', put_of_not_mem fresh', fields, fields,
    List.map_append]
  rfl

private theorem takeLines?_of_fileLines {lines : List String} {done : List (Key × Toml.Value)}
    (reads : ∀ line ∈ lines, Toml.line? line.toList = some (.blank, []) ∨
      ∃ option, written? line = some option)
    (once : ((done ++ lines.filterMap written?).map Prod.fst).Nodup) :
    Toml.takeLines? ⟨fields done, []⟩ (lines.map String.toList) =
      some ⟨fields (done ++ lines.filterMap written?), []⟩ := by
  induction lines generalizing done with
  | nil =>
    rw [List.filterMap_nil, List.append_nil]
    rfl
  | cons line lines ih =>
    have later := fun line member => reads line (List.mem_cons_of_mem _ member)
    obtain blank | ⟨⟨key, value⟩, writes⟩ := reads line List.mem_cons_self
    · rw [List.filterMap_cons_none (written?_of_blank blank)] at once ⊢
      rw [List.map_cons, Toml.takeLines?_cons blank]
      exact ih later once
    · rw [List.filterMap_cons_some writes, List.append_cons] at once ⊢
      have fresh : key ∉ done.map Prod.fst := by
        intro member
        rw [List.map_append, List.map_append, List.append_assoc] at once
        exact (List.nodup_append.mp once).2.2 key member key (by simp) rfl
      rw [List.map_cons, Toml.takeLines?_cons (line?_of_written? writes), take?_assignment fresh]
      exact ih later once

section Fields

variable {Value : Type} {form : ValueForm Value} {key : Key} {value : Value} {set : OptionSet}

private theorem Key.exists_take? (fits : (key.take? form value {}).isSome) (set : OptionSet) :
    ∃ result, key.take? form value set = some result := by
  refine Option.isSome_iff_exists.mp ?_
  cases key <;> simp only [Key.take?, Option.isSome_map] at fits ⊢ <;> exact fits

private theorem Key.routeTypeName_of_take? {result : OptionSet}
    (taken : key.take? form value set = some result) (other : key ≠ .routeTypeName) :
    result.routeTypeName = set.routeTypeName := by
  cases key with
  | routeTypeName => exact absurd rfl other
  | enabled =>
    obtain ⟨_, -, rfl⟩ := Option.map_eq_some_iff.mp taken
    rfl
  | placeholder =>
    obtain ⟨_, -, rfl⟩ := Option.map_eq_some_iff.mp taken
    rfl
  | selection =>
    obtain ⟨_, -, rfl⟩ := Option.map_eq_some_iff.mp taken
    rfl

private theorem OptionSet.ofFields?_cons {result : OptionSet} {taken : List Key}
    (fresh : key ∉ taken)
    (read : key.take? form value set = some result) (rest : List (String × Value)) :
    ofFields? form taken set ((key.name, value) :: rest) =
      ofFields? form (key :: taken) result rest := by
  rw [ofFields?, Key.ofName?_name, Option.bind_some, if_neg fresh, read, Option.bind_some]

private theorem exists_ofFields? {options : List (Key × Value)} {taken : List Key}
    (once : (options.map Prod.fst).Nodup) (fresh : ∀ option ∈ options, option.1 ∉ taken)
    (fits : ∀ option ∈ options, (option.1.take? form option.2 {}).isSome) (set : OptionSet) :
    ∃ result, OptionSet.ofFields? form taken set
        (options.map fun option => (option.1.name, option.2)) = some result ∧
      (.routeTypeName ∉ options.map Prod.fst → result.routeTypeName = set.routeTypeName) ∧
      ∀ value, (.routeTypeName, value) ∈ options →
        form.alias? value = some result.routeTypeName := by
  induction options generalizing taken set with
  | nil => exact ⟨set, rfl, fun _ => rfl, fun _ member => absurd member List.not_mem_nil⟩
  | cons option options ih =>
    obtain ⟨key, value⟩ := option
    rw [List.map_cons, List.nodup_cons] at once
    have new : key ∉ taken := fresh _ List.mem_cons_self
    obtain ⟨next, here⟩ := Key.exists_take? (fits _ List.mem_cons_self) set
    have later : ∀ option ∈ options, option.1 ∉ key :: taken := by
      intro option member repeated
      obtain same | known := List.mem_cons.mp repeated
      · have again : option.1 ∈ options.map Prod.fst := List.mem_map_of_mem member
        exact once.1 (same ▸ again)
      · exact fresh option (List.mem_cons_of_mem _ member) known
    obtain ⟨result, read, kept, named⟩ :=
      ih once.2 later (fun option member => fits option (List.mem_cons_of_mem _ member)) next
    refine ⟨result, ?_, fun absent => ?_, fun name member => ?_⟩
    · rw [List.map_cons, OptionSet.ofFields?_cons new here, read]
    · rw [List.map_cons, List.mem_cons, not_or] at absent
      rw [kept absent.2, Key.routeTypeName_of_take? here (Ne.symm absent.1)]
    · obtain same | member := List.mem_cons.mp member
      · cases same
        obtain ⟨alias?, decoded, rfl⟩ := Option.map_eq_some_iff.mp here
        rw [decoded, kept once.1]
      · exact named name member

end Fields

namespace IsOptionFile

variable {text line name : String} {before after : List String}
  (file : IsOptionFile text before line name after)

include file

private theorem forall_lines {P : String → Prop} (here : P line)
    (others : ∀ other, IsFileLine other → P other) :
    ∀ other ∈ before ++ line :: after, P other := by
  intro other member
  obtain early | late := List.mem_append.mp member
  · exact others other (file.others other (List.mem_append_left _ early))
  · obtain rfl | late := List.mem_cons.mp late
    · exact here
    · exact others other (file.others other (List.mem_append_right _ late))

private theorem hasLines :
    Toml.HasLines text.toList ((before ++ line :: after).map String.toList) := by
  have bodies : (Text.cutLines text.toList).map Text.dropLineEnd =
      (before ++ line :: after).map String.toList := by
    rw [← file.lines, Text.lines, List.map_map]
    exact List.map_congr_left fun piece _ => String.toList_ofList.symm
  rw [← bodies]
  refine Toml.hasLines_dropLineEnd fun piece member => ?_
  have body := List.mem_map_of_mem (f := Text.dropLineEnd) member
  rw [bodies] at body
  obtain ⟨other, member, same⟩ := List.mem_map.mp body
  rw [← same]
  exact file.forall_lines file.oneLine (fun _ => IsFileLine.isOneLine) other member

private theorem exists_ofToml? :
    ∃ set, OptionSet.ofToml? text = some set ∧ set.routeTypeName = some (.name name) := by
  have cases := file.forall_lines (.inr ⟨_, _, file.writes, rfl⟩) fun _ => IsFileLine.line?_cases
  have formed : ∀ chars ∈ (before ++ line :: after).map String.toList,
      ∃ said rest, Toml.line? chars = some (said, rest) := by
    intro chars member
    obtain ⟨other, inside, rfl⟩ := List.mem_map.mp member
    obtain blank | ⟨key, value, writes, -⟩ := cases other inside
    · exact ⟨_, _, blank⟩
    · exact ⟨_, _, line?_of_written? writes⟩
  have reads : ∀ other ∈ before ++ line :: after,
      Toml.line? other.toList = some (.blank, []) ∨ ∃ option, written? other = some option :=
    fun other member =>
      (cases other member).imp_right fun ⟨key, value, writes, _⟩ => ⟨(key, value), writes⟩
  have taken : Toml.takeLines? {} ((before ++ line :: after).map String.toList) =
      some ⟨fields ((before ++ line :: after).filterMap written?), []⟩ :=
    @takeLines?_of_fileLines _ [] reads file.once
  have fits : ∀ option ∈ (before ++ line :: after).filterMap written?,
      (option.1.take? tomlForm option.2 {}).isSome := by
    intro option member
    obtain ⟨other, inside, writes⟩ := List.mem_filterMap.mp member
    obtain blank | ⟨key, value, writes', fits⟩ := cases other inside
    · rw [written?_of_blank blank] at writes
      cases writes
    · rw [writes'] at writes
      cases writes
      exact fits
  obtain ⟨set, decoded, -, named⟩ :=
    exists_ofFields? file.once (fun _ _ => List.not_mem_nil) fits {}
  have mine : (Key.routeTypeName, Toml.Value.text name) ∈
      (before ++ line :: after).filterMap written? :=
    List.mem_filterMap.mpr ⟨line, by simp, file.writes⟩
  refine ⟨set, ?_, (Option.some.inj (named _ mine)).symm⟩
  rw [OptionSet.ofToml?, Toml.parse?_of_hasLines file.hasLines formed, taken]
  exact decoded

end IsOptionFile

/--
The error for a rejected name in an option file tells the key and why the name is rejected, and
points at the first place of the key in the text: at the start of the line that writes the name, or
before it. It points at that line exactly if no line before holds the key, as a comment can.
-/
theorem rejected_name_points_at_key_iff {text line name : String} {before after : List String}
    {error : NameError} (file : IsOptionFile text before line name after)
    (rejected : (RouteTypeName.name name).check = .error error) :
    ∃ place,
      OptionSet.load text =
        .error (.refused ⟨"routeTypeName", error.message, some (place, 13)⟩) ∧
      place ≤ Text.lineStart text before.length ∧
      (place = Text.lineStart text before.length ↔
        ∀ other ∈ before, ¬"routeTypeName".toList <:+: other.toList) := by
  obtain ⟨set, decoded, named⟩ := file.exists_ofToml?
  have oneLine : Toml.IsOneLine "routeTypeName".toList := by decide
  have lines := file.hasLines
  rw [List.map_append, List.map_cons] at lines
  obtain ⟨place, found, bounded, exact⟩ :=
    Toml.exists_offsetOf?_of_hasLines oneLine (by decide) lines file.front
  rw [List.length_map] at bounded exact
  rw [List.forall_mem_map] at exact
  refine ⟨place, ?_, bounded, exact⟩
  have judged : set.check = .error error := by
    rw [OptionSet.check, named, Option.map_some, rejected]
  have length : Text.utf8Length "routeTypeName".toList = 13 := by decide
  have located : Refusal.locate text Key.routeTypeName.name error.message =
      ⟨"routeTypeName", error.message, some (place, 13)⟩ := by
    unfold Refusal.locate Key.name
    rw [found, length]
    rfl
  rw [← located, OptionSet.load, decoded]
  dsimp only
  rw [judged]

/-- A file with a comment in front of its options, and lines that end in two ways. -/
def commentedFile : String :=
  "# é\r\nenabled = true\nrouteTypeName = \"my route\"\nschemaSelection = { last = [] }\n"

private theorem isOptionFile_commentedFile :
    IsOptionFile commentedFile ["# é", "enabled = true"] "routeTypeName = \"my route\"" "my route"
      ["schemaSelection = { last = [] }"] where
  lines := by decide +kernel
  others := by
    have comment : IsFileLine "# é" := .comment [' ', 'é'] rfl (List.all_eq_true.mp (by decide))
    have enabled : IsFileLine ("enabled = " ++ "true") :=
      isFileLine_spelled .enabled (by decide) rfl rfl
    have selection : IsFileLine ("schemaSelection = " ++ "{ last = [] }") :=
      isFileLine_spelled .selection (by decide) rfl rfl
    simpa [comment] using ⟨enabled, selection⟩
  once := by decide +kernel
  oneLine := by decide
  front := by decide
  writes := @written?_string "\"my route\"" "my route" (by decide +kernel)

theorem rejected_name_points_at_key_iff_commentedFile :
    IsOptionFile commentedFile ["# é", "enabled = true"] "routeTypeName = \"my route\"" "my route"
      ["schemaSelection = { last = [] }"] ∧
    (RouteTypeName.name "my route").check = .error (.notTypeName "my route") ∧
    Text.lineStart commentedFile 2 = 21 ∧
    OptionSet.load commentedFile = .error (.refused
      ⟨"routeTypeName", "'my route' is not a valid type name", some (21, 13)⟩) := by
  have rejected : (RouteTypeName.name "my route").check = .error (.notTypeName "my route") := by
    decide
  obtain ⟨place, refused, -, same⟩ :=
    rejected_name_points_at_key_iff isOptionFile_commentedFile rejected
  have third : Text.lineStart commentedFile 2 = 21 := by decide +kernel
  obtain rfl : place = 21 := third ▸ same.mpr (by decide +kernel)
  exact ⟨isOptionFile_commentedFile, rejected, third, refused⟩

/-- A file with a comment about the name of the alias, and a name that the generator uses. -/
def explainedFile : String := "# about routeTypeName\nrouteTypeName = \"Config\"\n"

/-- The error points into the comment, not at the line that begins behind it. -/
theorem comment_is_pointed_at :
    IsOptionFile explainedFile ["# about routeTypeName"] "routeTypeName = \"Config\"" "Config" [] ∧
    (RouteTypeName.name "Config").check = .error (.taken "Config") ∧
    Text.lineStart explainedFile 1 = 22 ∧
    OptionSet.load explainedFile = .error (.refused ⟨"routeTypeName",
      "'Config' is already used by the generated declarations", some (8, 13)⟩) ∧
    OptionSet.load explainedFile ≠ .error (.refused ⟨"routeTypeName",
      "'Config' is already used by the generated declarations", some (22, 13)⟩) := by
  have comment : IsFileLine "# about routeTypeName" :=
    .comment " about routeTypeName".toList rfl (List.all_eq_true.mp (by decide))
  have file : IsOptionFile explainedFile ["# about routeTypeName"]
      "routeTypeName = \"Config\"" "Config" [] := {
    lines := by decide +kernel
    others := by simpa using comment
    once := by decide +kernel
    oneLine := by decide
    front := by decide
    writes := @written?_string "\"Config\"" "Config" (by decide +kernel) }
  have refused : OptionSet.load explainedFile = .error (.refused ⟨"routeTypeName",
      "'Config' is already used by the generated declarations", some (8, 13)⟩) := by
    decide +kernel
  refine ⟨file, by decide, by decide +kernel, refused, ?_⟩
  rw [refused]
  decide

end TypedRoutes.Options
