import FormLogic.Proofs.Json.Number
import FormLogic.Proofs.Json.Text

/-!
# FormLogic.Proofs.Json.Tree

Trees that are written as text and read again.

* `sorted`: a tree with the members of all its objects in order;
* `Legible`: a tree that nests a bounded number of levels and whose numbers are read back;
* `read?_write`: a legible tree is read from its text, with its members in order;
* `read?_write_ofTexts`: so is a list of texts.
-/

namespace FormLogic
namespace Json

open Text

mutual

/-- The tree with the members of all its objects in order. -/
def sorted : Json → Json
  | .null => .null
  | .bool b => .bool b
  | .int i => .int i
  | .float x => .float x
  | .text s => .text s
  | .list js => .list (sortedItems js)
  | .object ms => .object (sortMembers (sortedMembers ms))

def sortedItems : List Json → List Json
  | [] => []
  | j :: js => j.sorted :: sortedItems js

def sortedMembers : List (String × Json) → List (String × Json)
  | [] => []
  | (name, j) :: ms => (name, j.sorted) :: sortedMembers ms

end

theorem sortedItems_eq (js : List Json) : sortedItems js = js.map sorted := by
  induction js with
  | nil => rfl
  | cons j js ih => rw [sortedItems, ih, List.map_cons]

theorem sortedMembers_eq (ms : List (String × Json)) :
    sortedMembers ms = ms.map fun m => (m.1, m.2.sorted) := by
  induction ms with
  | nil => rfl
  | cons m ms ih => rw [sortedMembers, ih, List.map_cons]

theorem sorted_list (js : List Json) : (list js).sorted = .list (js.map sorted) := by
  rw [sorted, sortedItems_eq]

theorem sorted_object (ms : List (String × Json)) :
    (object ms).sorted = .object (sortMembers (ms.map fun m => (m.1, m.2.sorted))) := by
  rw [sorted, sortedMembers_eq]

/-- A tree that nests at most as many levels as given and whose numbers are read back. -/
inductive Legible : Nat → Json → Prop where
  | null {d : Nat} : Legible d .null
  | bool {d : Nat} (b : Bool) : Legible d (.bool b)
  | int {d : Nat} {i : Int} (hlow : -Int.pow 2 63 ≤ i) (hhigh : i < Int.pow 2 64) :
      Legible d (.int i)
  | float {d : Nat} {x : Float} (hx : ReadsBack x) : Legible d (.float x)
  | text {d : Nat} (s : String) : Legible d (.text s)
  | list {d : Nat} {js : List Json} (hjs : ∀ j ∈ js, Legible d j) : Legible (d + 1) (.list js)
  | object {d : Nat} {ms : List (String × Json)} (hms : ∀ m ∈ ms, Legible d m.2) :
      Legible (d + 1) (.object ms)

/-! ### One value in front of other text -/

/-- The text of `j` is read as `k`, in front of what may stand behind a value. -/
def ReadsAs (value : ValueReader) (j k : Json) : Prop :=
  ∀ rest, EndsNumber rest → value (writeChars j ++ rest) = some (k, rest)

theorem endsNumber_nil : EndsNumber [] := nofun

theorem endsNumber_cons {c : Char} (hc : c ∈ [',', ']', '\x7d']) (rest : List Char) :
    EndsNumber (c :: rest) := by
  rintro d ⟨⟩
  fin_cases hc <;> decide

/-- What starts like a number is read as one. -/
theorem readValue?_number (d : Nat) {input : List Char}
    (h : ∃ c ∈ input.head?, c = '-' ∨ c.isDigit = true) :
    readValue? (d + 1) input = readNumber? input := by
  obtain ⟨c, hc, hnumber⟩ := h
  cases input with
  | nil => cases hc
  | cons d input =>
    obtain rfl : d = c := Option.some.inj hc
    have hapart : ∀ e ∈ [' ', '\n', '\t', '\r', '[', '\x7b', 'n', 't', 'f', '"'], d ≠ e := by
      rintro e he rfl
      rcases hnumber with rfl | hdigit
      · simp at he
      · fin_cases he <;> cases hdigit
    simp only [List.forall_mem_cons] at hapart
    obtain ⟨hspace, hline, htab, hreturn, hlist, hobject, hn, ht, hf, hquote, -⟩ := hapart
    have hgap : skipGap (d :: input) = d :: input := by
      simp [skipGap, isGap, hspace, hline, htab, hreturn]
    rw [readValue?, hgap]
    split
    · exact absurd (List.cons.inj ‹_›).1 hlist
    · exact absurd (List.cons.inj ‹_›).1 hobject
    · unfold readScalar?
      split
      · exact absurd (List.cons.inj ‹_›).1 hn
      · exact absurd (List.cons.inj ‹_›).1 ht
      · exact absurd (List.cons.inj ‹_›).1 hf
      · exact absurd (List.cons.inj ‹_›).1 hquote
      · rfl

theorem readValue?_writeNumber (d : Nat) {j : Json}
    (h : readNumber? (writeChars j) = some (j, [])) : ReadsAs (readValue? (d + 1)) j j := by
  intro rest hrest
  have hread := readNumber?_append hrest h
  rw [readValue?_number d (head?_of_readNumber? (by rw [hread]; rfl)), hread]

/-- No value starts with a closing bracket. -/
theorem readValue?_bracket (d : Nat) {input rest : List Char} (h : skipGap input = ']' :: rest) :
    readValue? d input = none := by
  cases d with
  | zero => rfl
  | succ d =>
    rw [readValue?, h]
    rfl

/-! ### Items and members -/

section Inside

variable {value : ValueReader} {f : Json → Json} {n : Nat}

theorem readItems?_write {j : Json} {js : List Json} (rest : List Char)
    (hvalue : ∀ j' ∈ j :: js, ReadsAs value j' (f j')) (hn : js.length < n) :
    readItems? value n (writeChars j ++ (writeItems js ++ ']' :: rest)) =
      some ((j :: js).map f, rest) := by
  induction js generalizing j n with
  | nil =>
    obtain ⟨n, rfl⟩ := Nat.exists_eq_add_one.2 hn
    rw [writeItems, List.nil_append, readItems?,
      hvalue j (by simp) _ (endsNumber_cons (by simp) _)]
    simp [skipGap, isGap]
  | cons k js ih =>
    obtain ⟨n, rfl⟩ := Nat.exists_eq_add_one.2 (Nat.zero_lt_of_lt hn)
    have htail := ih (j := k) (n := n) (fun j' hj' => hvalue j' (List.mem_cons_of_mem _ hj'))
      (by simpa using hn)
    rw [writeItems, List.cons_append, List.cons_append, List.append_assoc, readItems?,
      hvalue j (by simp) _ (endsNumber_cons (by simp) _)]
    simp [skipGap, isGap, htail]

theorem length_le_writeItems (js : List Json) : js.length ≤ (writeItems js).length := by
  induction js with
  | nil => simp
  | cons j js ih =>
    rw [writeItems, List.cons_append, List.length_cons, List.length_cons, List.length_append]
    omega

theorem readMember?_write {m : String × Json} (hvalue : ReadsAs value m.2 (f m.2))
    {rest : List Char} (hrest : EndsNumber rest) :
    readMember? value (writeText m.1 ++ ':' :: (writeChars m.2 ++ rest)) =
      some ((m.1, f m.2), rest) := by
  have hsplit : writeText m.1 ++ ':' :: (writeChars m.2 ++ rest) =
      '"' :: (m.1.toList.flatMap escapeChar ++ '"' :: ':' :: (writeChars m.2 ++ rest)) := by
    simp [writeText]
  rw [hsplit, readMember?]
  simp [skipGap, isGap, readText?_escaped, hvalue rest hrest]

theorem readMembers?_write {m : String × Json} {ms : List (String × Json)} (rest : List Char)
    (hvalue : ∀ m' ∈ m :: ms, ReadsAs value m'.2 (f m'.2)) (hn : ms.length < n) :
    readMembers? value n
        (writeText m.1 ++ ':' :: (writeChars m.2 ++ (writeMembers ms ++ '\x7d' :: rest))) =
      some ((m :: ms).map fun m' => (m'.1, f m'.2), rest) := by
  induction ms generalizing m n with
  | nil =>
    obtain ⟨n, rfl⟩ := Nat.exists_eq_add_one.2 hn
    rw [writeMembers, List.nil_append, readMembers?,
      readMember?_write (hvalue m (by simp)) (endsNumber_cons (by simp) _)]
    simp [skipGap, isGap]
  | cons k ms ih =>
    obtain ⟨n, rfl⟩ := Nat.exists_eq_add_one.2 (Nat.zero_lt_of_lt hn)
    have htail := ih (m := k) (n := n) (fun m' hm' => hvalue m' (List.mem_cons_of_mem _ hm'))
      (by simpa using hn)
    rw [writeMembers, List.cons_append, List.append_assoc, List.cons_append, List.append_assoc,
      readMembers?, readMember?_write (hvalue m (by simp)) (endsNumber_cons (by simp) _)]
    simp [skipGap, isGap, htail]

theorem length_le_writeMembers (ms : List (String × Json)) :
    ms.length ≤ (writeMembers ms).length := by
  induction ms with
  | nil => simp
  | cons m ms ih =>
    rw [writeMembers]
    simp only [List.length_cons, List.length_append]
    omega

end Inside

/-! ### Whole trees -/

theorem readValue?_writeList {d : Nat} {js : List Json} {f : Json → Json}
    (hjs : ∀ j ∈ js, ReadsAs (readValue? (d + 1)) j (f j)) :
    ReadsAs (readValue? (d + 2)) (.list js) (.list (js.map f)) := by
  intro rest hrest
  cases js with
  | nil => simp [writeChars, readValue?, skipGap, isGap]
  | cons j js =>
    have hlength := length_le_writeItems js
    have hsplit : writeChars (.list (j :: js)) ++ rest =
        '[' :: (writeChars j ++ (writeItems js ++ ']' :: rest)) := by
      simp [writeChars]
    have hitems := readItems?_write rest hjs
      (n := (writeChars j ++ (writeItems js ++ ']' :: rest)).length)
      (by simp only [List.length_append, List.length_cons]; omega)
    have hopen : ∀ behind, skipGap (writeChars j ++ (writeItems js ++ ']' :: rest)) ≠
        ']' :: behind := by
      intro behind hbehind
      have hends : EndsNumber (writeItems js ++ ']' :: rest) := by
        cases js with
        | nil => exact endsNumber_cons (by simp) _
        | cons => exact endsNumber_cons (by simp) _
      have hread := hjs j (by simp) _ hends
      rw [readValue?_bracket (d + 1) hbehind] at hread
      cases hread
    generalize writeChars j ++ (writeItems js ++ ']' :: rest) = input at *
    rw [hsplit, readValue?]
    have hgap : skipGap ('[' :: input) = '[' :: input := by simp [skipGap, isGap]
    rw [hgap]
    -- `hopen` leaves only the branch of a list with items.
    simp only [Nat.succ_ne_zero, if_false]
    rw [hitems]
    rfl

theorem readValue?_writeObject {d : Nat} {ms : List (String × Json)} {f : Json → Json}
    (hms : ∀ m ∈ ms, ReadsAs (readValue? (d + 1)) m.2 (f m.2)) :
    ReadsAs (readValue? (d + 2)) (.object ms)
      (.object (sortMembers (ms.map fun m => (m.1, f m.2)))) := by
  intro rest hrest
  cases ms with
  | nil => simp [writeChars, readValue?, skipGap, isGap, sortMembers, Dict.ofPairs]
  | cons m ms =>
    have hlength := length_le_writeMembers ms
    have hsplit : writeChars (.object (m :: ms)) ++ rest = '\x7b' ::
        (writeText m.1 ++ ':' :: (writeChars m.2 ++ (writeMembers ms ++ '\x7d' :: rest))) := by
      simp [writeChars]
    have hmembers := readMembers?_write rest hms
      (n := (writeText m.1 ++
        ':' :: (writeChars m.2 ++ (writeMembers ms ++ '\x7d' :: rest))).length)
      (by simp only [List.length_append, List.length_cons]; omega)
    generalize hinput : writeText m.1 ++
      ':' :: (writeChars m.2 ++ (writeMembers ms ++ '\x7d' :: rest)) = input at *
    have hgap : skipGap input = input := by simp [← hinput, writeText, skipGap, isGap]
    have hopen : input.head? = some '"' := by rw [← hinput]; rfl
    have hgap' : skipGap ('\x7b' :: input) = '\x7b' :: input := by simp [skipGap, isGap]
    rw [hsplit, readValue?, hgap']
    simp only [Nat.succ_ne_zero, if_false, hgap]
    split
    · cases hopen
    · rw [hmembers]
      rfl

/-- A legible tree is read in front of what may stand behind a value. -/
theorem readValue?_write {d : Nat} {j : Json} (h : Legible d j) :
    ReadsAs (readValue? (d + 1)) j j.sorted := by
  induction h with
  | null =>
    intro rest _
    simp [writeChars, readValue?, skipGap, isGap, readScalar?, sorted]
  | bool b =>
    intro rest _
    cases b <;> simp [writeChars, writeBool, readValue?, skipGap, isGap, readScalar?, sorted]
  | int hlow hhigh => exact readValue?_writeNumber _ (readNumber?_writeInt hlow hhigh)
  | float hx => exact readValue?_writeNumber _ hx
  | text s =>
    intro rest _
    have hsplit : writeChars (.text s) ++ rest =
        '"' :: (s.toList.flatMap escapeChar ++ '"' :: rest) := by
      simp [writeChars, writeText]
    rw [hsplit, readValue?]
    simp [skipGap, isGap, readScalar?, readText?_escaped, sorted]
  | list _ ih =>
    rw [sorted_list]
    exact readValue?_writeList ih
  | object _ ih =>
    rw [sorted_object]
    exact readValue?_writeObject ih

/-- A legible tree is read from its text, with its members in order. -/
theorem read?_write {j : Json} (h : Legible 127 j) : read? j.write = some j.sorted := by
  have hread := readValue?_write h [] endsNumber_nil
  rw [List.append_nil] at hread
  rw [read?, write, String.toList_ofList, depthLimit, hread]
  rfl

theorem read?_write_ofTexts (texts : List String) :
    read? (ofTexts texts).write = some (ofTexts texts) := by
  have hlegible : Legible 127 (ofTexts texts) := by
    refine .list fun j hj => ?_
    obtain ⟨s, -, rfl⟩ := List.mem_map.1 hj
    exact .text s
  rw [read?_write hlegible, ofTexts, sorted_list, List.map_map]
  rfl

/-- It stands between brackets. -/
theorem exists_write_ofTexts (texts : List String) :
    ∃ inside, (ofTexts texts).write.toList = '[' :: (inside ++ [']']) := by
  rw [write, String.toList_ofList, ofTexts]
  cases texts with
  | nil => exact ⟨[], rfl⟩
  | cons s texts => exact ⟨_, by rw [List.map_cons, writeChars]; rfl⟩

end Json
end FormLogic
