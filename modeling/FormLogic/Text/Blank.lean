/-!
# FormLogic.Text.Blank

White space.

* `isBlank`: the characters with the property White_Space;
* `isSpacer`: those among the first 128 that separate tokens;
* `trim`: a text without the blanks at its ends.
-/

namespace FormLogic
namespace Text

/-- Characters with the property White_Space. -/
def isBlank (c : Char) : Bool :=
  let n := c.toNat
  (9 ≤ n && n ≤ 13) || n == 0x20 || n == 0x85 || n == 0xA0 || n == 0x1680 ||
    (0x2000 ≤ n && n ≤ 0x200A) || n == 0x2028 || n == 0x2029 || n == 0x202F || n == 0x205F ||
    n == 0x3000

/-- Space, tab, line feed, form feed and carriage return. -/
def isSpacer (c : Char) : Bool :=
  c == ' ' || c == '\t' || c == '\n' || c == '\x0c' || c == '\r'

def trimStartChars (text : List Char) : List Char :=
  text.dropWhile isBlank

def trimEndChars (text : List Char) : List Char :=
  (text.reverse.dropWhile isBlank).reverse

def trimChars (text : List Char) : List Char :=
  trimEndChars (trimStartChars text)

/-- A text without the blanks at its ends. -/
def trim (text : String) : String :=
  String.ofList (trimChars text.toList)

/-- Whether a text holds nothing but blanks. -/
def allBlank (text : String) : Bool :=
  text.toList.all isBlank

theorem isBlank_of_isSpacer {c : Char} (h : isSpacer c = true) : isBlank c = true := by
  simp only [isSpacer, Bool.or_eq_true, beq_iff_eq] at h
  rcases h with (((h | h) | h) | h) | h <;> subst h <;> decide

/-- Nothing is cut off before a character that is no blank. -/
theorem trimStartChars_eq_self {text : List Char} (h : ∀ c ∈ text.head?, isBlank c = false) :
    trimStartChars text = text := by
  cases text with
  | nil => rfl
  | cons c text => exact List.dropWhile_cons_of_neg (by simp [h c rfl])

/-- The blanks before a character that is none are cut off. -/
theorem trimStartChars_blanks {blanks rest : List Char} (h : ∀ c ∈ blanks, isBlank c = true)
    (hrest : ∀ c ∈ rest.head?, isBlank c = false) : trimStartChars (blanks ++ rest) = rest := by
  rw [trimStartChars, List.dropWhile_append_of_pos h]
  exact trimStartChars_eq_self hrest

/-- The blanks on both sides of a text with other characters at its ends are cut off. -/
theorem trimChars_surrounded {before text after : List Char}
    (hbefore : ∀ c ∈ before, isBlank c = true) (hafter : ∀ c ∈ after, isBlank c = true)
    (hne : text ≠ []) (hhead : ∀ c ∈ text.head?, isBlank c = false)
    (hlast : ∀ c ∈ text.getLast?, isBlank c = false) :
    trimChars (before ++ (text ++ after)) = text := by
  have hstart : trimStartChars (before ++ (text ++ after)) = text ++ after := by
    obtain ⟨c, tail, rfl⟩ := List.exists_cons_of_ne_nil hne
    exact trimStartChars_blanks hbefore hhead
  have hend : (text ++ after).reverse.dropWhile isBlank = text.reverse := by
    rw [List.reverse_append]
    refine trimStartChars_blanks (fun c hc => hafter c (List.mem_reverse.1 hc)) ?_
    rwa [List.head?_reverse]
  rw [trimChars, hstart, trimEndChars, hend, List.reverse_reverse]

/-- Nothing is cut off a text with other characters at its ends. -/
theorem trimChars_eq_self {text : List Char} (hhead : ∀ c ∈ text.head?, isBlank c = false)
    (hlast : ∀ c ∈ text.getLast?, isBlank c = false) : trimChars text = text := by
  have hreverse := @trimStartChars_eq_self text.reverse (by rwa [List.head?_reverse])
  rw [trimStartChars] at hreverse
  rw [trimChars, trimStartChars_eq_self hhead, trimEndChars, hreverse, List.reverse_reverse]

/-- Nothing is cut off a text without blanks. -/
theorem trimChars_eq_self_of_forall {text : List Char} (h : ∀ c ∈ text, isBlank c = false) :
    trimChars text = text :=
  trimChars_eq_self (fun c hc => h c (List.mem_of_head? hc))
    fun c hc => h c (List.mem_of_getLast? hc)

theorem isBlank_of_head?_trimStartChars {text : List Char} {c : Char}
    (h : (trimStartChars text).head? = some c) : isBlank c = false := by
  have hnot := List.head?_dropWhile_not isBlank text
  rw [trimStartChars] at h
  rwa [h] at hnot

/-- Nothing is left to cut off a text that has been trimmed. -/
theorem trimChars_trimChars (text : List Char) : trimChars (trimChars text) = trimChars text := by
  refine trimChars_eq_self (fun c hc => ?_) fun c hc => ?_
  · have hprefix : trimChars text <+: trimStartChars text := by
      rw [← List.reverse_reverse (trimStartChars text)]
      exact List.reverse_prefix.2 (List.dropWhile_suffix isBlank)
    obtain ⟨rest, hrest⟩ := hprefix
    have hhead : (trimStartChars text).head? = some c := by
      rw [← hrest, List.head?_append, hc]
      rfl
    exact isBlank_of_head?_trimStartChars hhead
  · rw [trimChars, trimEndChars, List.getLast?_reverse] at hc
    exact isBlank_of_head?_trimStartChars hc

theorem length_trimChars_le (text : List Char) : (trimChars text).length ≤ text.length := by
  have hend := (List.dropWhile_sublist isBlank (l := (trimStartChars text).reverse)).length_le
  have hstart := (List.dropWhile_sublist isBlank (l := text)).length_le
  rw [trimChars, trimEndChars, List.length_reverse]
  rw [List.length_reverse] at hend
  exact Nat.le_trans hend hstart

end Text
end FormLogic
