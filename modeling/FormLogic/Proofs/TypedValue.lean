import FormLogic.Proofs.Calendar
import FormLogic.Proofs.Json.Tree
import FormLogic.Proofs.Number.Layout
import FormLogic.TypedValue

/-!
# FormLogic.Proofs.TypedValue

Values of fields and the texts that are kept for them.

* `readInteger?_writeInt`, `readList?_write`: what is read back, kind by kind;
* `length_lt_of_readList?`: an item is never its own list;
* `TypedValue.isLost`: lists of one item that are kept as a text of another meaning;
* `decode_encode_iff`: a decoded value is decoded from its text again, but for those lists.
-/

namespace FormLogic

open Number Text

/-! ### Integers -/

theorem writeInt_isSignedText (i : ℤ) :
    IsSignedText (decide (i < 0)) ⟨i.natAbs, 0⟩ (Json.writeInt i) := by
  have hplain : IsPlainText (Nat.toDigits 10 i.natAbs) ⟨i.natAbs, 0⟩ := by
    have h := IsPlainText.whole (Nat.toDigits 10 i.natAbs) Nat.toDigits_ne_nil
      fun c => isDigit_of_mem_toDigits
    rwa [natOfDigits_toDigits] at h
  refine ⟨_, hplain, ?_⟩
  unfold Json.writeInt
  split
  · rename_i h; simp [h]
  · rename_i h; simp [h]

/-- Digits behind a minus sign or without one are an integer, if it has 64 bits. -/
theorem readInteger?_of_digits {digits : List Char} {i : ℤ} (hne : digits ≠ [])
    (hdigits : ∀ c ∈ digits, c.isDigit = true) (hvalue : natOfDigits digits = i.natAbs)
    (hlow : -2 ^ 63 ≤ i) (hhigh : i < 2 ^ 63) :
    readInteger? ((if i < 0 then ['-'] else []) ++ digits) = some i := by
  have hrange : -Int.pow 2 63 ≤ i ∧ i < Int.pow 2 63 := ⟨hlow, hhigh⟩
  have hread : readDigits? digits = some i.natAbs := by
    rw [readDigits?, if_pos (by simpa [hne] using hdigits), hvalue]
  split
  · have hi : -(i.natAbs : ℤ) = i := by omega
    simp only [List.singleton_append, readInteger?, hread, Option.bind_eq_bind, Option.bind_some,
      Option.pure_def, Option.map_some, hi, if_pos hrange]
  · have hi : (i.natAbs : ℤ) = i := by omega
    obtain ⟨c, tail, rfl⟩ := List.exists_cons_of_ne_nil hne
    have hc := hdigits c (by simp)
    rw [List.nil_append]
    unfold readInteger?
    split
    · rename_i heq; cases heq; cases hc
    · rename_i heq; cases heq; cases hc
    · simp only [hread, Option.bind_eq_bind, Option.bind_some, Option.pure_def, Option.map_some,
        hi, if_pos hrange]

/-- An integer of 64 bits is read back. -/
theorem readInteger?_writeInt {i : ℤ} (hlow : -2 ^ 63 ≤ i) (hhigh : i < 2 ^ 63) :
    readInteger? (Json.writeInt i) = some i := by
  have hwrite : Json.writeInt i = (if i < 0 then ['-'] else []) ++ Nat.toDigits 10 i.natAbs := by
    unfold Json.writeInt
    split <;> rfl
  rw [hwrite]
  exact readInteger?_of_digits Nat.toDigits_ne_nil (fun c => isDigit_of_mem_toDigits)
    (natOfDigits_toDigits _) hlow hhigh

/-- What passes the check for 64 bits has been read before it. -/
theorem eq_some_of_rangeCheck {x : Option ℤ} {i : ℤ} (h : (x.bind fun j : ℤ =>
      if -Int.pow 2 63 ≤ j ∧ j < Int.pow 2 63 then some j else none) = some i) :
    x = some i ∧ -2 ^ 63 ≤ i ∧ i < 2 ^ 63 := by
  obtain ⟨j, hx, hj⟩ := Option.bind_eq_some_iff.1 h
  split at hj
  · rename_i hrange
    cases hj
    exact ⟨hx, hrange⟩
  · cases hj

/-- What is read has 64 bits. -/
theorem range_of_readInteger? {text : List Char} {i : ℤ} (h : readInteger? text = some i) :
    -2 ^ 63 ≤ i ∧ i < 2 ^ 63 := by
  unfold readInteger? at h
  split at h
  · exact (eq_some_of_rangeCheck h).2
  · exact (eq_some_of_rangeCheck h).2
  · exact (eq_some_of_rangeCheck h).2

/-! ### Lists -/

theorem decodeItems_text_cons (s : String) (js : List Json) :
    Json.Codec.decodeItems Json.Codec.text (.text s :: js) =
      (Json.Codec.decodeItems Json.Codec.text js).map (s :: ·) := by
  rw [Json.Codec.decodeItems]
  cases Json.Codec.decodeItems Json.Codec.text js <;> rfl

theorem decodeItems_map_text (items : List String) :
    Json.Codec.decodeItems Json.Codec.text (items.map .text) = .ok items := by
  induction items with
  | nil => rfl
  | cons s items ih => rw [List.map_cons, decodeItems_text_cons, ih]; rfl

theorem eq_map_of_decodeItems {js : List Json} {items : List String}
    (h : Json.Codec.decodeItems Json.Codec.text js = .ok items) : js = items.map .text := by
  induction js generalizing items with
  | nil => cases h; rfl
  | cons j js ih =>
    cases j with
    | text s =>
      rw [decodeItems_text_cons] at h
      cases hjs : Json.Codec.decodeItems Json.Codec.text js with
      | error misfit => rw [hjs] at h; cases h
      | ok ss => rw [hjs] at h; cases h; rw [List.map_cons, ih hjs]
    | _ => cases h

/-- The texts of a list that is one of texts. -/
theorem decode_listOfTexts_iff {j : Json} {items : List String} :
    (Json.Codec.list Json.Codec.text).decode j = .ok items ↔ j = Json.ofTexts items := by
  constructor
  · intro h
    cases j with
    | list js => rw [Json.ofTexts, ← eq_map_of_decodeItems h]
    | _ => cases h
  · rintro rfl
    exact decodeItems_map_text items

/-- A list of texts is read back. -/
theorem readList?_write (items : List String) :
    readList? (Json.ofTexts items).write.toList = some items := by
  rw [readList?, String.ofList_toList, Json.read?_write_ofTexts, Option.bind_eq_bind,
    Option.bind_some, decode_listOfTexts_iff.2 rfl]
  rfl

/-- A list that holds one text is read from a longer text. -/
theorem length_lt_of_readList? {text : List Char} {item : String}
    (h : readList? text = some [item]) : item.length < text.length := by
  obtain ⟨j, hj, h⟩ := Option.bind_eq_some_iff.1 h
  have hdecode : (Json.Codec.list Json.Codec.text).decode j = .ok [item] := by
    cases hd : (Json.Codec.list Json.Codec.text).decode j <;> rw [hd] at h <;> cases h
    rfl
  rw [decode_listOfTexts_iff.1 hdecode] at hj
  simpa using Json.length_lt_of_read? hj

/-! ### Values -/

/-- A list of one item is kept as the item, which is lost when the item is empty or starts like a
list. -/
def TypedValue.isLost : TypedValue → Bool
  | .list [item] => item.isEmpty || (trimChars item.toList).head? == some '['
  | _ => false

theorem decode_eq_ok_some {type : FieldType} {raw : String} {v : TypedValue} :
    type.decode raw = .ok (some v) ↔
      raw.isEmpty = false ∧ type.read? raw (trimChars raw.toList) = some v := by
  unfold FieldType.decode
  cases raw.isEmpty
  · cases type.read? raw (trimChars raw.toList) <;> simp
  · simp

/-- A value is kept by a text without blanks at its ends that is read as the value. -/
theorem decode_encode_of_read? {type : FieldType} {v : TypedValue} (hne : v.encode.toList ≠ [])
    (htrim : trimChars v.encode.toList = v.encode.toList)
    (hread : type.read? v.encode v.encode.toList = some v) :
    type.decode v.encode = .ok (some v) := by
  refine decode_eq_ok_some.2 ⟨?_, by rw [htrim, hread]⟩
  rw [← Bool.not_eq_true, String.isEmpty_iff]
  intro hempty
  rw [hempty] at hne
  exact hne rfl

theorem decode_encode_integer {i : ℤ} (hlow : -2 ^ 63 ≤ i) (hhigh : i < 2 ^ 63) :
    FieldType.integer.decode (TypedValue.integer i).encode = .ok (some (.integer i)) := by
  have htext := writeInt_isSignedText i
  have hencode : (TypedValue.integer i).encode.toList = Json.writeInt i := String.toList_ofList
  refine decode_encode_of_read? ?_ ?_ ?_ <;> rw [hencode]
  · exact htext.ne_nil
  · exact trimChars_eq_self_of_forall htext.isBlank_eq
  · rw [FieldType.read?, readInteger?_writeInt hlow hhigh]
    rfl

theorem decode_encode_decimal {x : Float} (h : x.isFinite = true) :
    FieldType.decimal.decode (TypedValue.decimal x).encode = .ok (some (.decimal x)) := by
  obtain ⟨d, htext, -⟩ := render_isSignedText h
  refine decode_encode_of_read? htext.ne_nil (trimChars_eq_self_of_forall htext.isBlank_eq) ?_
  rw [FieldType.read?, readFinite?, TypedValue.encode, readChars?_plain h]
  simp [h]

theorem decode_encode_date {type : FieldType} (htype : type = .date ∨ type = .dob) (d : Date) :
    type.decode (TypedValue.date d).encode = .ok (some (.date d)) := by
  have hencode : (TypedValue.date d).encode.toList = d.write := String.toList_ofList
  refine decode_encode_of_read? ?_ ?_ ?_ <;> rw [hencode]
  · exact d.write_ne_nil
  · exact trimChars_eq_self_of_forall d.isBlank_of_mem_write
  · rcases htype with rfl | rfl <;> rw [FieldType.read?, Date.read?_write] <;> rfl

theorem decode_encode_boolean (b : Bool) :
    FieldType.boolean.decode (TypedValue.boolean b).encode = .ok (some (.boolean b)) := by
  cases b <;> decide +kernel

/-- A list with no item, or with several, is kept as JSON. -/
theorem decode_encode_list {items : List String} (hitems : ∀ item, items ≠ [item]) :
    FieldType.list.decode (TypedValue.list items).encode = .ok (some (.list items)) := by
  have hencode : (TypedValue.list items).encode = (Json.ofTexts items).write := by
    unfold TypedValue.encode
    split <;> simp_all
  obtain ⟨inside, hinside⟩ := Json.exists_write_ofTexts items
  refine decode_encode_of_read? ?_ ?_ ?_ <;> rw [hencode]
  · rw [hinside]
    simp
  · rw [hinside]
    refine trimChars_eq_self (by simp [isBlank]) ?_
    rw [← List.cons_append, List.getLast?_concat]
    simp [isBlank]
  · rw [FieldType.read?, hinside, List.head?_cons, if_pos rfl, ← hinside, readList?_write]
    rfl

/-- A list with one item is kept as the item, which is read as the list unless it is empty or starts
like a list. -/
theorem decode_encode_singleton (item : String) :
    FieldType.list.decode (TypedValue.list [item]).encode = .ok (some (.list [item])) ↔
      (TypedValue.list [item]).isLost = false := by
  have hencode : (TypedValue.list [item]).encode = item := rfl
  rw [hencode, decode_eq_ok_some, TypedValue.isLost, Bool.or_eq_false_iff, beq_eq_false_iff_ne]
  refine and_congr_right fun _ => ?_
  rw [FieldType.read?]
  split
  · rename_i hhead
    refine iff_of_false (fun hlist => ?_) (not_not_intro hhead)
    obtain ⟨items, hread, heq⟩ := Option.map_eq_some_iff.1 hlist
    cases heq
    have hlength := length_lt_of_readList? hread
    have htrim := length_trimChars_le item.toList
    rw [String.length_toList] at htrim
    omega
  · rename_i hhead
    exact iff_of_true rfl hhead

/-- A decoded value is decoded from its text again, unless it is a list of one item that is empty or
starts like a list. -/
theorem decode_encode_iff (type : FieldType) (raw : String) (v : TypedValue)
    (h : type.decode raw = .ok (some v)) :
    type.decode v.encode = .ok (some v) ↔ v.isLost = false := by
  obtain ⟨-, hread⟩ := decode_eq_ok_some.1 h
  cases type with
  | integer =>
    obtain ⟨i, hi, rfl⟩ := Option.map_eq_some_iff.1 hread
    obtain ⟨hlow, hhigh⟩ := range_of_readInteger? hi
    exact iff_of_true (decode_encode_integer hlow hhigh) rfl
  | decimal =>
    obtain ⟨x, hx, rfl⟩ := Option.map_eq_some_iff.1 hread
    exact iff_of_true (decode_encode_decimal (Option.filter_eq_some_iff.1 hx).2) rfl
  | date =>
    obtain ⟨d, -, rfl⟩ := Option.map_eq_some_iff.1 hread
    exact iff_of_true (decode_encode_date (.inl rfl) d) rfl
  | dob =>
    obtain ⟨d, -, rfl⟩ := Option.map_eq_some_iff.1 hread
    exact iff_of_true (decode_encode_date (.inr rfl) d) rfl
  | boolean =>
    obtain ⟨b, -, rfl⟩ := Option.map_eq_some_iff.1 hread
    exact iff_of_true (decode_encode_boolean b) rfl
  | list =>
    obtain ⟨items, rfl⟩ : ∃ items, v = .list items := by
      rw [FieldType.read?] at hread
      split at hread
      · obtain ⟨items, -, rfl⟩ := Option.map_eq_some_iff.1 hread
        exact ⟨items, rfl⟩
      · cases hread
        exact ⟨[raw], rfl⟩
    match items with
    | [item] => exact decode_encode_singleton item
    | [] => exact iff_of_true (decode_encode_list (by simp)) rfl
    | a :: b :: items => exact iff_of_true (decode_encode_list (by simp)) rfl
  | string | phone | email | other =>
    cases hread
    exact iff_of_true h rfl

/-- A date in another layout, a decimal in another notation, and a list of two items. -/
theorem decode_encode_iff_layouts :
    (∃ v, FieldType.dob.decode " 21/04/1990" = .ok (some v) ∧ v.encode = "1990-04-21" ∧
      FieldType.dob.decode v.encode = .ok (some v)) ∧
    (∃ v, FieldType.decimal.decode "-12.50e1" = .ok (some v) ∧ v.encode = "-125" ∧
      FieldType.decimal.decode v.encode = .ok (some v)) ∧
    ∃ v, FieldType.list.decode "[ \"A\", \"\" ]" = .ok (some v) ∧ v.encode = "[\"A\",\"\"]" ∧
      FieldType.list.decode v.encode = .ok (some v) := by
  have hdate : FieldType.dob.decode " 21/04/1990" =
      .ok (some (.date ⟨1990, 4, 21, by decide⟩)) := by decide +kernel
  have hdecimal : FieldType.decimal.decode "-12.50e1" = .ok (some (.decimal (-125.0))) := by
    decide +kernel
  have hlist : FieldType.list.decode "[ \"A\", \"\" ]" = .ok (some (.list ["A", ""])) := by
    decide +kernel
  exact ⟨⟨_, hdate, by decide +kernel, (decode_encode_iff _ _ _ hdate).2 rfl⟩,
    ⟨_, hdecimal, by decide +kernel, (decode_encode_iff _ _ _ hdecimal).2 rfl⟩,
    ⟨_, hlist, by decide +kernel, (decode_encode_iff _ _ _ hlist).2 rfl⟩⟩

/-- A list of an empty item is kept as no value, and one of a bracket as a text that is no list. -/
theorem decode_encode_empty_item :
    FieldType.list.decode "[\"\"]" = .ok (some (.list [""])) ∧
      FieldType.list.decode (TypedValue.list [""]).encode = .ok none ∧
      FieldType.list.decode "[\"[\"]" = .ok (some (.list ["["])) ∧
      FieldType.list.decode (TypedValue.list ["["]).encode = .error ⟨"[", "list"⟩ := by
  decide +kernel

end FormLogic
