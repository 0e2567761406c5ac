import TypedRoutes.Json.Reading

/-!
Readers that succeed: each of their steps succeeded, and its value went into the next one. A reading
that is a whole value has the shape of the value and does not break off.
-/

set_option autoImplicit false
set_option relaxedAutoImplicit false

namespace TypedRoutes.Json

variable {ε α β : Type}

theorem ok_bind (value : α) (next : α → Except ε β) : (Except.ok value >>= next) = next value := rfl

theorem bind_eq_ok_iff {first : Except ε α} {next : α → Except ε β} {result : β} :
    (first >>= next) = .ok result ↔ ∃ value, first = .ok value ∧ next value = .ok result := by
  cases first with
  | error _ => simp [bind, Except.bind]
  | ok value => simp [bind, Except.bind]

theorem map_eq_ok_iff {first : Except ε α} {f : α → β} {result : β} :
    first.map f = .ok result ↔ ∃ value, first = .ok value ∧ f value = result := by
  cases first with
  | error _ => simp [Except.map]
  | ok value => simp [Except.map]

namespace Reading

private theorem eq_none_of_ending {stop : Option SyntaxError} (h : ending stop = .ok ()) :
    stop = none := by
  cases stop with
  | none => rfl
  | some error => cases h

theorem eq_string_of_toJson {reading : Reading} {text : String}
    (whole : reading.toJson = .ok (.string text)) : reading = .string text := by
  cases reading with
  | string value =>
    cases whole
    rfl
  | array items stop =>
    obtain ⟨values, -, last⟩ := bind_eq_ok_iff.mp whole
    obtain ⟨-, -, last⟩ := bind_eq_ok_iff.mp last
    cases last
  | object fields stop =>
    obtain ⟨values, -, last⟩ := bind_eq_ok_iff.mp whole
    obtain ⟨-, -, last⟩ := bind_eq_ok_iff.mp last
    cases last
  | _ => cases whole

theorem eq_array_of_toJson {reading : Reading} {values : List Json}
    (whole : reading.toJson = .ok (.array values)) :
    ∃ items, reading = .array items none ∧ itemsToJson items = .ok values := by
  cases reading with
  | array items stop =>
    obtain ⟨read, inside, last⟩ := bind_eq_ok_iff.mp whole
    obtain ⟨⟨⟩, ended, last⟩ := bind_eq_ok_iff.mp last
    cases last
    exact ⟨items, by rw [eq_none_of_ending ended], inside⟩
  | object fields stop =>
    obtain ⟨read, -, last⟩ := bind_eq_ok_iff.mp whole
    obtain ⟨-, -, last⟩ := bind_eq_ok_iff.mp last
    cases last
  | _ => cases whole

theorem eq_object_of_toJson {reading : Reading} {values : List (String × Json)}
    (whole : reading.toJson = .ok (.object values)) :
    ∃ fields, reading = .object fields none ∧ fieldsToJson fields = .ok values := by
  cases reading with
  | object fields stop =>
    obtain ⟨read, inside, last⟩ := bind_eq_ok_iff.mp whole
    obtain ⟨⟨⟩, ended, last⟩ := bind_eq_ok_iff.mp last
    cases last
    exact ⟨fields, by rw [eq_none_of_ending ended], inside⟩
  | array items stop =>
    obtain ⟨read, -, last⟩ := bind_eq_ok_iff.mp whole
    obtain ⟨-, -, last⟩ := bind_eq_ok_iff.mp last
    cases last
  | _ => cases whole

theorem eq_nil_of_itemsToJson {items : List (Option Position × Reading)}
    (whole : itemsToJson items = .ok []) : items = [] := by
  cases items with
  | nil => rfl
  | cons item rest =>
    obtain ⟨value, -, last⟩ := bind_eq_ok_iff.mp whole
    obtain ⟨values, -, last⟩ := bind_eq_ok_iff.mp last
    cases last

theorem eq_cons_of_itemsToJson {items : List (Option Position × Reading)} {value : Json}
    {values : List Json} (whole : itemsToJson items = .ok (value :: values)) :
    ∃ place reading rest, items = (place, reading) :: rest ∧ reading.toJson = .ok value ∧
      itemsToJson rest = .ok values := by
  cases items with
  | nil => cases whole
  | cons item rest =>
    obtain ⟨own, first, last⟩ := bind_eq_ok_iff.mp whole
    obtain ⟨others, later, last⟩ := bind_eq_ok_iff.mp last
    cases last
    exact ⟨item.1, item.2, rest, rfl, first, later⟩

theorem eq_nil_of_fieldsToJson {fields : List (String × Reading)}
    (whole : fieldsToJson fields = .ok []) : fields = [] := by
  cases fields with
  | nil => rfl
  | cons field rest =>
    obtain ⟨value, -, last⟩ := bind_eq_ok_iff.mp whole
    obtain ⟨values, -, last⟩ := bind_eq_ok_iff.mp last
    cases last

theorem eq_cons_of_fieldsToJson {fields : List (String × Reading)} {key : String} {value : Json}
    {values : List (String × Json)} (whole : fieldsToJson fields = .ok ((key, value) :: values)) :
    ∃ reading rest, fields = (key, reading) :: rest ∧ reading.toJson = .ok value ∧
      fieldsToJson rest = .ok values := by
  cases fields with
  | nil => cases whole
  | cons field rest =>
    obtain ⟨own, first, last⟩ := bind_eq_ok_iff.mp whole
    obtain ⟨others, later, last⟩ := bind_eq_ok_iff.mp last
    cases last
    exact ⟨field.2, rest, rfl, first, later⟩

end Reading

end TypedRoutes.Json
