import FormLogic.Calendar
import FormLogic.Proofs.Number.Digits

/-!
# FormLogic.Proofs.Calendar

Texts of days.

* `readCount?_append`: digits are read up to their limit, or up to a character that is none;
* `readYear?_writeYear`, `readCount?_padDigits`: the parts of a day are read as they are written;
* `readParts?_year`, `readParts?_month`, `readParts?_day`: so they are in a layout;
* `Date.read?_write`: a day is read back from its text.
-/

namespace FormLogic

open Number Text

variable {n width limit : Nat} {digits rest : List Char}

/-! ### Digits with zeros before them -/

theorem isDigit_of_mem_padDigits {c : Char} (h : c ∈ padDigits width n) : c.isDigit = true := by
  rcases List.mem_append.1 h with h | h
  · exact isDigit_of_mem_zeros h
  · exact isDigit_of_mem_toDigits h

theorem natOfDigits_padDigits (width n : Nat) : natOfDigits (padDigits width n) = n :=
  (natOfDigits_zeros_append _ _).trans (natOfDigits_toDigits n)

theorem padDigits_ne_nil (width n : Nat) : padDigits width n ≠ [] := by
  simp [padDigits, Nat.toDigits_ne_nil]

theorem length_padDigits (hn : n < 10 ^ width) (hwidth : 0 < width) :
    (padDigits width n).length = width := by
  have hle := (Nat.length_toDigits_le_iff (by decide : 1 < 10) hwidth).2 hn
  rw [padDigits, padDigits.zeros, List.length_append, List.length_replicate]
  omega

/-! ### Parts of days -/

/-- Digits are read up to the limit, or up to what is no digit. -/
theorem readCount?_append (hne : digits ≠ []) (hdigits : ∀ c ∈ digits, c.isDigit = true)
    (hlimit : digits.length ≤ limit)
    (hrest : digits.length = limit ∨ ∀ c ∈ rest.head?, c.isDigit = false) :
    readCount? limit (digits ++ rest) = some (natOfDigits digits, rest) := by
  have hend : (rest.take (limit - digits.length)).takeWhile Char.isDigit = [] := by
    rcases hrest with heq | hhead
    · simp [heq]
    · cases rest with
      | nil => simp
      | cons c rest =>
        cases limit - digits.length with
        | zero => rfl
        | succ k => simp [hhead c rfl]
  have htake : ((digits ++ rest).take limit).takeWhile Char.isDigit = digits := by
    rw [List.take_append, List.take_of_length_le hlimit,
      List.takeWhile_append_of_pos hdigits, hend, List.append_nil]
  rw [readCount?, htake]
  cases digits with
  | nil => exact absurd rfl hne
  | cons c digits => simp

theorem readLong?_append (hne : digits ≠ []) (hdigits : ∀ c ∈ digits, c.isDigit = true)
    (hrest : ∀ c ∈ rest.head?, c.isDigit = false) :
    readLong? (digits ++ rest) = some (natOfDigits digits, rest) :=
  readCount?_append hne hdigits (by simp) (.inr hrest)

theorem readCount?_padDigits (hn : n < 10 ^ width) (hwidth : 0 < width) (rest : List Char) :
    readCount? width (padDigits width n ++ rest) = some (n, rest) := by
  have hlength := length_padDigits hn hwidth
  rw [readCount?_append (padDigits_ne_nil width n) (fun _ => isDigit_of_mem_padDigits)
    (Nat.le_of_eq hlength) (.inl hlength), natOfDigits_padDigits]

/-- A year without a sign has at most four digits. -/
theorem readYear?_padDigits (width n : Nat) (rest : List Char) :
    readYear? (padDigits width n ++ rest) =
      (readCount? 4 (padDigits width n ++ rest)).map fun r => ((r.1 : Int), r.2) := by
  obtain ⟨c, digits, hcons⟩ := List.exists_cons_of_ne_nil (padDigits_ne_nil width n)
  have hc : c.isDigit = true := isDigit_of_mem_padDigits (hcons ▸ List.mem_cons_self)
  rw [hcons, List.cons_append]
  unfold readYear?
  split
  · rename_i heq; cases heq; cases hc
  · rename_i heq; cases heq; cases hc
  · rfl

/-- A year is read as it is written, before anything but a digit. -/
theorem readYear?_writeYear (year : Int) (rest : List Char)
    (hrest : ∀ c ∈ rest.head?, c.isDigit = false) :
    readYear? (writeYear year ++ rest) = some (year, rest) := by
  have hlong := readLong?_append (padDigits_ne_nil 4 year.natAbs)
    (fun _ => isDigit_of_mem_padDigits) hrest
  rw [natOfDigits_padDigits] at hlong
  simp only [writeYear]
  split
  · rw [List.cons_append, readYear?, hlong, Option.map_some]
    congr 2
    omega
  split
  · rw [List.cons_append, readYear?, hlong, Option.map_some]
    congr 2
    omega
  · have hcount := readCount?_padDigits (by omega : year.natAbs < 10 ^ 4) (by decide) rest
    rw [readYear?_padDigits, hcount, Option.map_some]
    congr 2
    omega

/-! ### Days -/

theorem Date.month_day_lt (d : Date) : d.month < 10 ^ 2 ∧ d.day < 10 ^ 2 := by
  have h := d.exists_day
  simp only [isDay, Bool.and_eq_true, decide_eq_true_eq] at h
  have hdays : daysInMonth d.year d.month ≤ 31 := by
    unfold daysInMonth
    split
    · split <;> decide
    all_goals decide
  omega

theorem trimStartChars_padDigits (width n : Nat) (rest : List Char) :
    trimStartChars (padDigits width n ++ rest) = padDigits width n ++ rest := by
  obtain ⟨c, digits, hcons⟩ := List.exists_cons_of_ne_nil (padDigits_ne_nil width n)
  have hc : c.isDigit = true := isDigit_of_mem_padDigits (hcons ▸ List.mem_cons_self)
  rw [hcons]
  exact trimStartChars_eq_self (by simp [isBlank_of_isDigit hc])

theorem trimStartChars_writeYear (year : Int) (rest : List Char) :
    trimStartChars (writeYear year ++ rest) = writeYear year ++ rest := by
  simp only [writeYear]
  split
  · exact trimStartChars_eq_self (by simp [isBlank])
  split
  · exact trimStartChars_eq_self (by simp [isBlank])
  · exact trimStartChars_padDigits 4 _ rest

theorem isBlank_of_mem_padDigits {c : Char} (h : c ∈ padDigits width n) : isBlank c = false :=
  isBlank_of_isDigit (isDigit_of_mem_padDigits h)

theorem isBlank_of_mem_writeYear {year : Int} {c : Char} (h : c ∈ writeYear year) :
    isBlank c = false := by
  simp only [writeYear] at h
  split at h
  · rcases List.mem_cons.1 h with rfl | h
    · rfl
    · exact isBlank_of_mem_padDigits h
  split at h
  · rcases List.mem_cons.1 h with rfl | h
    · rfl
    · exact isBlank_of_mem_padDigits h
  · exact isBlank_of_mem_padDigits h

theorem Date.isBlank_of_mem_write (d : Date) : ∀ c ∈ d.write, isBlank c = false := by
  intro c hc
  simp only [write, List.append_assoc, List.mem_append, List.cons_append, List.mem_cons] at hc
  rcases hc with hc | rfl | hc | rfl | hc
  · exact isBlank_of_mem_writeYear hc
  · rfl
  · exact isBlank_of_mem_padDigits hc
  · rfl
  · exact isBlank_of_mem_padDigits hc

theorem Date.write_ne_nil (d : Date) : d.write ≠ [] := by
  simp [write]

/-! ### Parts of a layout -/

section

variable {year : Int} {layout : List DatePart} {parts : DateParts}

/-- A year is read before anything but a digit. -/
theorem readParts?_year (hrest : ∀ c ∈ rest.head?, c.isDigit = false) :
    readParts? (.year :: layout) parts (writeYear year ++ rest) =
      readParts? layout { parts with year := year } rest := by
  rw [readParts?, trimStartChars_writeYear, readYear?_writeYear year rest hrest]
  rfl

theorem readParts?_month (hn : n < 10 ^ 2) :
    readParts? (.month :: layout) parts (padDigits 2 n ++ rest) =
      readParts? layout { parts with month := n } rest := by
  rw [readParts?, trimStartChars_padDigits, readCount?_padDigits hn (by decide)]
  rfl

theorem readParts?_day (hn : n < 10 ^ 2) :
    readParts? (.day :: layout) parts (padDigits 2 n ++ rest) =
      readParts? layout { parts with day := n } rest := by
  rw [readParts?, trimStartChars_padDigits, readCount?_padDigits hn (by decide)]
  rfl

theorem readParts?_mark (c : Char) :
    readParts? (.mark c :: layout) parts (c :: rest) = readParts? layout parts rest := by
  rw [readParts?, if_pos rfl]

end

/-- A text whose parts are those of a day is read as the day. -/
theorem Date.readAs?_eq_some {d : Date} {layout : List DatePart} {text : List Char}
    (h : readParts? layout {} text = some ⟨d.year, d.month, d.day⟩) :
    Date.readAs? layout text = some d := by
  simp [readAs?, h, ofParts?, d.exists_day]

theorem Date.readParts?_write (d : Date) :
    readParts? [.year, .mark '-', .month, .mark '-', .day] {} d.write =
      some ⟨d.year, d.month, d.day⟩ := by
  obtain ⟨hmonth, hday⟩ := d.month_day_lt
  rw [write, List.append_assoc, List.cons_append, readParts?_year (by simp), readParts?_mark,
    readParts?_month hmonth, readParts?_mark, ← List.append_nil (padDigits 2 d.day),
    readParts?_day hday]
  rfl

/-- A day is read back from its text. -/
theorem Date.read?_write (d : Date) : Date.read? d.write = some d := by
  rw [read?, dateLayouts, List.findSome?_cons, readAs?_eq_some d.readParts?_write]

end FormLogic
