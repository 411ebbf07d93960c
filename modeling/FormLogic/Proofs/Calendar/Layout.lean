import FormLogic.Proofs.TypedValue

/-!
# FormLogic.Proofs.Calendar.Layout

The layouts of days exclude one another.

* `Date.writeIn`: a day in a layout;
* `Date.readAs?_writeIn`: a text in one layout is read as its day there, and in no other layout;
* `decode_date_layouts`: so it does not matter which layouts are tried before.

The layout with slashes is told from the others by its marks.  The two with hyphens are told apart
by their widths: a year has four digits or more, a day is read from two of them, and what comes next
is neither a hyphen nor the end of the text.  A year with a sign is not even the start of a day.
-/

namespace FormLogic

open Text

variable {n : Nat} {year : Int} {rest : List Char} {layout : List DatePart} {parts : DateParts}

/-! ### Years where days are expected -/

theorem le_length_padDigits (width n : Nat) : width ≤ (padDigits width n).length := by
  rw [padDigits, padDigits.zeros, List.length_append, List.length_replicate]
  omega

theorem exists_cons_padDigits_four (n : Nat) : ∃ a b c digits,
    padDigits 4 n = a :: b :: c :: digits ∧
      a.isDigit = true ∧ b.isDigit = true ∧ c.isDigit = true := by
  have hlength := le_length_padDigits 4 n
  have hdigits : ∀ c ∈ padDigits 4 n, c.isDigit = true := fun _ => isDigit_of_mem_padDigits
  match hpad : padDigits 4 n with
  | a :: b :: c :: digits =>
    rw [hpad] at hdigits
    exact ⟨a, b, c, digits, rfl, hdigits a (by simp), hdigits b (by simp), hdigits c (by simp)⟩
  | [] | [_] | [_, _] => simp [hpad] at hlength

/-- A day is not read from the start of a year, or it leaves a digit behind. -/
theorem exists_digit_of_readCount?_writeYear {left : List Char}
    (h : readCount? 2 (writeYear year ++ rest) = some (n, left)) :
    ∃ c tail, left = c :: tail ∧ c.isDigit = true := by
  simp only [writeYear] at h
  split at h
  · cases h
  split at h
  · cases h
  · obtain ⟨a, b, c, digits, hpad, ha, hb, hc⟩ := exists_cons_padDigits_four year.natAbs
    have hcount := @readCount?_append 2 [a, b] (c :: digits ++ rest) (by simp) (by simp [ha, hb])
      (Nat.le_refl 2) (.inl rfl)
    rw [hpad] at h
    have hleft := Option.some.inj (hcount.symm.trans h)
    exact ⟨c, digits ++ rest, (congrArg Prod.snd hleft).symm, hc⟩

/-- A year is no day if a digit cannot come next. -/
theorem readParts?_day_writeYear
    (hnext : ∀ parts c tail, c.isDigit = true → readParts? layout parts (c :: tail) = none) :
    readParts? (.day :: layout) parts (writeYear year ++ rest) = none := by
  rw [readParts?, trimStartChars_writeYear]
  cases hread : readCount? 2 (writeYear year ++ rest) with
  | none => rfl
  | some read =>
    obtain ⟨n, left⟩ := read
    obtain ⟨c, tail, rfl, hc⟩ := exists_digit_of_readCount?_writeYear hread
    exact hnext _ c tail hc

theorem readParts?_mark_ne {c d : Char} (h : d ≠ c) :
    readParts? (.mark c :: layout) parts (d :: rest) = none := by
  rw [readParts?, if_neg h]

theorem readParts?_mark_digit {mark : Char} (hmark : mark.isDigit = false) (parts : DateParts)
    (c : Char) (tail : List Char) (hc : c.isDigit = true) :
    readParts? (.mark mark :: layout) parts (c :: tail) = none := by
  refine readParts?_mark_ne ?_
  rintro rfl
  rw [hc] at hmark
  cases hmark

/-! ### Days where years are expected -/

theorem readParts?_year_padDigits (hn : n < 10 ^ 2) (hrest : ∀ c ∈ rest.head?, c.isDigit = false) :
    readParts? (.year :: layout) parts (padDigits 2 n ++ rest) =
      readParts? layout { parts with year := n } rest := by
  have hwidth := length_padDigits hn (by decide)
  have hcount := readCount?_append (padDigits_ne_nil 2 n) (fun _ => isDigit_of_mem_padDigits)
    (show (padDigits 2 n).length ≤ 4 by omega) (.inr hrest)
  rw [readParts?, trimStartChars_padDigits, readYear?_padDigits, hcount, natOfDigits_padDigits]
  rfl

/-! ### Days in a layout -/

def DatePart.write (d : Date) : DatePart → List Char
  | .year => writeYear d.year
  | .month => padDigits 2 d.month
  | .day => padDigits 2 d.day
  | .mark c => [c]

def Date.writeIn (d : Date) (layout : List DatePart) : List Char :=
  layout.flatMap (·.write d)

namespace Date

variable (d : Date)

theorem writeIn_hyphens : d.writeIn [.year, .mark '-', .month, .mark '-', .day] = d.write := by
  simp [writeIn, DatePart.write, write]

theorem writeIn_slashes : d.writeIn [.day, .mark '/', .month, .mark '/', .year] =
    padDigits 2 d.day ++ '/' :: (padDigits 2 d.month ++ '/' :: (writeYear d.year ++ [])) := rfl

theorem writeIn_hyphens_day_first : d.writeIn [.day, .mark '-', .month, .mark '-', .year] =
    padDigits 2 d.day ++ '-' :: (padDigits 2 d.month ++ '-' :: (writeYear d.year ++ [])) := rfl

theorem readParts?_writeIn (hlayout : layout ∈ dateLayouts) :
    readParts? layout {} (d.writeIn layout) = some ⟨d.year, d.month, d.day⟩ := by
  obtain ⟨hmonth, hday⟩ := d.month_day_lt
  simp only [dateLayouts, List.mem_cons, List.not_mem_nil, or_false] at hlayout
  rcases hlayout with rfl | rfl | rfl
  · rw [writeIn_hyphens, readParts?_write]
  · rw [writeIn_slashes, readParts?_day hday, readParts?_mark, readParts?_month hmonth,
      readParts?_mark, readParts?_year (by simp)]
    rfl
  · rw [writeIn_hyphens_day_first, readParts?_day hday, readParts?_mark, readParts?_month hmonth,
      readParts?_mark, readParts?_year (by simp)]
    rfl

theorem readParts?_writeIn_ne {other : List DatePart} (hlayout : layout ∈ dateLayouts)
    (hother : other ∈ dateLayouts) (hne : other ≠ layout) :
    readParts? other {} (d.writeIn layout) = none := by
  obtain ⟨hmonth, hday⟩ := d.month_day_lt
  simp only [dateLayouts, List.mem_cons, List.not_mem_nil, or_false] at hlayout hother
  rcases hlayout with rfl | rfl | rfl
  · rw [writeIn_hyphens, write, List.append_assoc]
    rcases hother with rfl | rfl | rfl
    · exact absurd rfl hne
    · exact readParts?_day_writeYear (readParts?_mark_digit rfl)
    · exact readParts?_day_writeYear (readParts?_mark_digit rfl)
  · rw [writeIn_slashes]
    rcases hother with rfl | rfl | rfl
    · rw [readParts?_year_padDigits hday (by simp), readParts?_mark_ne (by decide)]
    · exact absurd rfl hne
    · rw [readParts?_day hday, readParts?_mark_ne (by decide)]
  · rw [writeIn_hyphens_day_first]
    rcases hother with rfl | rfl | rfl
    · rw [readParts?_year_padDigits hday (by simp), readParts?_mark, readParts?_month hmonth,
        readParts?_mark]
      exact readParts?_day_writeYear fun _ _ _ _ => rfl
    · rw [readParts?_day hday, readParts?_mark_ne (by decide)]
    · exact absurd rfl hne

/-- A text in one layout is a day in no other layout. -/
theorem readAs?_writeIn {other : List DatePart} (hlayout : layout ∈ dateLayouts)
    (hother : other ∈ dateLayouts) :
    readAs? other (d.writeIn layout) = if other = layout then some d else none := by
  split
  · rename_i heq
    rw [heq]
    exact readAs?_eq_some (d.readParts?_writeIn hlayout)
  · rename_i hne
    rw [readAs?, d.readParts?_writeIn_ne hlayout hother hne]
    rfl

theorem read?_writeIn (hlayout : layout ∈ dateLayouts) : read? (d.writeIn layout) = some d := by
  have hown : readAs? layout (d.writeIn layout) = some d := by
    rw [d.readAs?_writeIn hlayout hlayout, if_pos rfl]
  have hsome : (read? (d.writeIn layout)).isSome = true :=
    List.findSome?_isSome_iff.2 ⟨layout, hlayout, by rw [hown]; rfl⟩
  obtain ⟨found, hfound⟩ := Option.isSome_iff_exists.1 hsome
  obtain ⟨other, hother, hread⟩ := List.exists_of_findSome?_eq_some hfound
  rw [d.readAs?_writeIn hlayout hother] at hread
  split at hread
  · rw [hfound, ← hread]
  · cases hread

theorem isBlank_of_mem_writeIn (hlayout : layout ∈ dateLayouts) {c : Char}
    (hc : c ∈ d.writeIn layout) : isBlank c = false := by
  obtain ⟨part, hpart, hc⟩ := List.mem_flatMap.1 hc
  cases part with
  | year => exact isBlank_of_mem_writeYear hc
  | month => exact isBlank_of_mem_padDigits hc
  | day => exact isBlank_of_mem_padDigits hc
  | mark m =>
    obtain rfl : c = m := List.mem_singleton.1 hc
    have hmarks : ∀ layout ∈ dateLayouts, .mark c ∈ layout → c = '-' ∨ c = '/' := by
      simp +contextual [dateLayouts]
    rcases hmarks layout hlayout hpart with rfl | rfl <;> rfl

theorem writeIn_ne_nil (hlayout : layout ∈ dateLayouts) : d.writeIn layout ≠ [] := by
  simp only [dateLayouts, List.mem_cons, List.not_mem_nil, or_false] at hlayout
  rcases hlayout with rfl | rfl | rfl
  · simp [writeIn_hyphens, d.write_ne_nil]
  · simp [writeIn_slashes]
  · simp [writeIn_hyphens_day_first]

end Date

/-- A day is decoded from its text in each of the layouts, whatever blanks stand around it, and its
text with the year in front is kept for it. -/
theorem decode_date_layouts (type : FieldType) (htype : type = .date ∨ type = .dob) (d : Date)
    (before after : List Char) (hbefore : ∀ c ∈ before, isBlank c = true)
    (hafter : ∀ c ∈ after, isBlank c = true) :
    let year := writeYear d.year
    let month := padDigits 2 d.month
    let day := padDigits 2 d.day
    (∀ text ∈ [year ++ '-' :: month ++ '-' :: day, day ++ '/' :: month ++ '/' :: year,
        day ++ '-' :: month ++ '-' :: year],
      type.decode (String.ofList (before ++ (text ++ after))) = .ok (some (.date d))) ∧
    (TypedValue.date d).encode = String.ofList (year ++ '-' :: month ++ '-' :: day) := by
  intro year month day
  refine ⟨fun text htext => ?_, rfl⟩
  obtain ⟨layout, hlayout, rfl⟩ : ∃ layout ∈ dateLayouts, text = d.writeIn layout := by
    simpa [dateLayouts, Date.writeIn_hyphens, Date.write, Date.writeIn_slashes,
      Date.writeIn_hyphens_day_first] using htext
  have hne := d.writeIn_ne_nil hlayout
  have htrim : trimChars (before ++ (d.writeIn layout ++ after)) = d.writeIn layout :=
    trimChars_surrounded hbefore hafter hne
      (fun _ hc => d.isBlank_of_mem_writeIn hlayout (List.mem_of_mem_head? hc))
      fun _ hc => d.isBlank_of_mem_writeIn hlayout (List.mem_of_getLast? hc)
  refine decode_eq_ok_some.2 ⟨by simp [hne], ?_⟩
  rw [String.toList_ofList, htrim]
  rcases htype with rfl | rfl <;> rw [FieldType.read?, d.read?_writeIn hlayout] <;> rfl

/-- A day before the common era, between blanks. -/
theorem decode_date_layouts_ides :
    (["-0044-03-15", "15/03/-0044", "15-03--0044"].map fun text =>
        FieldType.dob.decode (" " ++ text ++ "\n")) =
      List.replicate 3 (.ok (some (.date ⟨-44, 3, 15, by decide⟩))) := by
  refine List.map_eq_replicate_iff.2 fun text htext => ?_
  have hwritten : ["-0044-03-15", "15/03/-0044", "15-03--0044"].map String.toList =
      [writeYear (-44) ++ '-' :: padDigits 2 3 ++ '-' :: padDigits 2 15,
        padDigits 2 15 ++ '/' :: padDigits 2 3 ++ '/' :: writeYear (-44),
        padDigits 2 15 ++ '-' :: padDigits 2 3 ++ '-' :: writeYear (-44)] := by decide +kernel
  have hdecode := (decode_date_layouts .dob (.inr rfl) ⟨-44, 3, 15, by decide⟩ [' '] ['\n']
    (by simp [isBlank]) (by simp [isBlank])).1 text.toList (hwritten ▸ List.mem_map_of_mem htext)
  rw [← hdecode]
  congr 1
  apply String.toList_inj.1
  simp

end FormLogic
