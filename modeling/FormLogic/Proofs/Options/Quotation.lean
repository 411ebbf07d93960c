import FormLogic.Proofs.Options.Conjunction
import FormLogic.Proofs.Options.Source

/-!
# FormLogic.Proofs.Options.Quotation

Lookups that compare a column with a quoted text.

* `HasConjunction text`: a conjunction stands in the text;
* `exists_first_conjunction`: a text is cut where the first of its conjunctions stands;
* `quotedLookup column quote text`: the lookup that asks for the text in the column;
* `Listing.drawn`, `DrawnFrom`: the rows that options are drawn from, and an option of one of them;
* `rows_of_quotedLookup`: the rows that such a lookup finds.

Quotes do not keep a conjunction between them from cutting the lookup.  The first part then ends
within the quotation, so what is compared with the cells still has its opening quote.
-/

namespace FormLogic

open Formula Text

variable {text rest conjunction : List Char}

/-! ## Conjunctions in a text -/

/-- A conjunction stands in the text. -/
def HasConjunction (text : List Char) : Prop :=
  ∃ before conjunction after, text = before ++ conjunction ++ after ∧ IsConjunction conjunction

theorem IsConjunction.length_le (h : IsConjunction conjunction) : 5 ≤ conjunction.length := by
  obtain ⟨before, word, after, rfl, hword, hbefore, -, hafter, -⟩ := h
  have hfirst := List.length_pos_iff.2 hbefore
  have hlast := List.length_pos_iff.2 hafter
  simp only [List.length_append, hword.length_eq]
  omega

theorem IsConjunction.mem {c : Char} (h : IsConjunction conjunction) (hc : c ∈ conjunction) :
    isBlank c = true ∨ isWordPart c = true := by
  obtain ⟨before, word, after, rfl, hword, -, hblank, -, hblank'⟩ := h
  rw [List.mem_append, List.mem_append] at hc
  rcases hc with (hc | hc) | hc
  · exact .inl (hblank c hc)
  · exact .inr (hword.isWordPart hc)
  · exact .inl (hblank' c hc)

theorem IsConjunction.append_blanks {blanks : List Char} (h : IsConjunction conjunction)
    (hblanks : ∀ c ∈ blanks, isBlank c = true) : IsConjunction (conjunction ++ blanks) := by
  obtain ⟨before, word, after, rfl, hword, hbefore, hblank, hafter, hblank'⟩ := h
  refine ⟨before, word, after ++ blanks, by simp, hword, hbefore, hblank, by simp [hafter], ?_⟩
  intro c hc
  exact (List.mem_append.1 hc).elim (hblank' c) (hblanks c)

theorem IsConjunction.cons {c : Char} (h : IsConjunction conjunction) (hc : isBlank c = true) :
    IsConjunction (c :: conjunction) := by
  obtain ⟨before, word, after, rfl, hword, hbefore, hblank, hafter, hblank'⟩ := h
  refine ⟨c :: before, word, after, rfl, hword, by simp, ?_, hafter, hblank'⟩
  intro d hd
  rcases List.mem_cons.1 hd with rfl | hd
  · exact hc
  · exact hblank d hd

/-- A conjunction is cut off, with the blanks that follow it, wherever it stands. -/
theorem afterConjunction_append (h : IsConjunction conjunction) (rest : List Char) :
    afterConjunction? (conjunction ++ rest) = some (trimStartChars rest) := by
  have hsplit : conjunction ++ rest =
      (conjunction ++ rest.takeWhile isBlank) ++ trimStartChars rest := by
    rw [List.append_assoc, trimStartChars, List.takeWhile_append_dropWhile]
  rw [hsplit]
  refine afterConjunction_of_isConjunction ?_ ?_
  · exact h.append_blanks (List.all_eq_true.1 List.all_takeWhile)
  · intro c hc
    exact isBlank_of_head?_trimStartChars hc

theorem hasConjunction_iff :
    HasConjunction text ↔ ∃ tail ∈ text.tails, (afterConjunction? tail).isSome = true := by
  constructor
  · rintro ⟨before, conjunction, after, rfl, hconjunction⟩
    refine ⟨conjunction ++ after, (List.mem_tails _ _).2 ⟨before, by simp⟩, ?_⟩
    rw [afterConjunction_append hconjunction]
    rfl
  · rintro ⟨tail, htail, hsome⟩
    obtain ⟨rest, hrest⟩ := Option.isSome_iff_exists.1 hsome
    obtain ⟨conjunction, hconjunction, rfl, -⟩ := afterConjunction_eq_some.1 hrest
    obtain ⟨before, rfl⟩ := (List.mem_tails _ _).1 htail
    exact ⟨before, conjunction, rest, by simp, hconjunction⟩

instance (text : List Char) : Decidable (HasConjunction text) :=
  decidable_of_iff _ hasConjunction_iff.symm

theorem not_hasConjunction (h : text.length < 5) : ¬ HasConjunction text := by
  rintro ⟨before, conjunction, after, rfl, hconjunction⟩
  have hlength := hconjunction.length_le
  simp only [List.length_append] at h
  omega

theorem HasConjunction.of_append_cons {l r : List Char} {c : Char} (hblank : isBlank c = false)
    (hpart : isWordPart c = false) (h : HasConjunction (l ++ c :: r)) :
    HasConjunction l ∨ HasConjunction r := by
  obtain ⟨before, conjunction, after, heq, hconjunction⟩ := h
  have hout : c ∉ conjunction := by
    intro hc
    have hmem := hconjunction.mem hc
    rw [hblank, hpart] at hmem
    simp at hmem
  rcases infix_of_append_cons hout heq with ⟨between, rfl, -⟩ | ⟨between, rfl, -⟩
  · exact .inl ⟨before, conjunction, between, rfl, hconjunction⟩
  · exact .inr ⟨between, conjunction, after, rfl, hconjunction⟩

/-- A text without conjunctions is one part. -/
theorem splitConjunction_of_not_hasConjunction (h : ¬ HasConjunction text) :
    splitConjunction text = [text] := by
  refine splitConjunction_eq_singleton fun tail _ htail => ?_
  rw [Option.eq_none_iff_forall_not_mem]
  intro found hfound
  obtain ⟨conjunction, hconjunction, rfl, -⟩ := afterConjunction_eq_some.1 hfound
  obtain ⟨front, rfl⟩ := htail
  exact h ⟨front, conjunction, found, by simp, hconjunction⟩

/-- A text is cut where the first of its conjunctions stands. -/
theorem exists_first_conjunction (h : HasConjunction text) :
    ∃ first conjunction rest, text = first ++ conjunction ++ rest ∧ IsConjunction conjunction ∧
      (∀ c ∈ first.getLast?, isBlank c = false) ∧
      splitConjunction text = first :: splitConjunction rest := by
  induction text with
  | nil => exact absurd h (not_hasConjunction (by simp))
  | cons c text ih =>
    cases hafter : afterConjunction? (c :: text) with
    | some rest =>
      obtain ⟨conjunction, hconjunction, htext, -⟩ := afterConjunction_eq_some.1 hafter
      exact ⟨[], conjunction, rest, htext, hconjunction, by simp, splitConjunction_of_some hafter⟩
    | none =>
      have htext : HasConjunction text := by
        obtain ⟨before, conjunction, after, heq, hconjunction⟩ := h
        cases before with
        | nil =>
          rw [heq, List.nil_append, afterConjunction_append hconjunction] at hafter
          cases hafter
        | cons d before =>
          obtain ⟨-, rfl⟩ := List.cons.inj heq
          exact ⟨before, conjunction, after, rfl, hconjunction⟩
      obtain ⟨first, conjunction, rest, rfl, hconjunction, hlast, hsplit⟩ := ih htext
      refine ⟨c :: first, conjunction, rest, rfl, hconjunction, ?_, ?_⟩
      · intro d hd
        cases first with
        | nil =>
          -- a blank right before the conjunction would belong to it
          obtain rfl : c = d := by simpa using hd
          cases hblank : isBlank c with
          | false => rfl
          | true =>
            have hsome := afterConjunction_append (hconjunction.cons hblank) rest
            rw [List.cons_append] at hsome
            rw [List.nil_append, hsome] at hafter
            cases hafter
        | cons e first =>
          rw [List.getLast?_cons_cons] at hd
          exact hlast d hd
      · rw [splitConjunction_cons rfl hafter, hsplit]
        rfl

/-! ## Rows that options are drawn from -/

/-- The rows whose cells are as the predicates ask for. -/
def Listing.drawn (l : Listing) (values : Dict String) : List Row :=
  l.rows.filter (rowFits (l.expected values).value)

/-- The option has the place of the row as its sequence number, and its value is what the cell of
the row in the column stands for. -/
def DrawnFrom (column : String) (values : Dict String) (row : Row × Nat) (c : Choice) : Prop :=
  c.sequence = row.2 ∧
    ∃ cell, row.1[column]? = some cell ∧ c.value = (resolveCell values cell).value

section

variable {l : Listing} {values : Dict String}

theorem Listing.value_project {row : Row} {cell : String} (h : row[l.valueColumn]? = some cell) :
    ∃ caption, (l.project values row).value = some ((resolveCell values cell).value, caption) := by
  unfold project
  rw [h]
  cases row[l.displayColumn]? with
  | none => exact ⟨_, Metered.value_bind _ _⟩
  | some caption =>
    simp only [Metered.value_bind, Metered.value_pure]
    exact ⟨_, rfl⟩

theorem Listing.drawnFrom_rows (f : Field)
    (hcells : ∀ row ∈ l.rows, ∃ cell, row[l.valueColumn]? = some cell) {rows : List Row}
    (hrows : ∀ row ∈ rows, row ∈ l.rows) (place : Nat) :
    List.Forall₂ (DrawnFrom l.valueColumn values) (rows.zipIdx place)
      ((((rows.map fun row => (l.project values row).value).filterMap id).zipIdx place).map
        fun p => f.drawnChoice l.table p.1 p.2) := by
  induction rows generalizing place with
  | nil => exact .nil
  | cons row rows ih =>
    obtain ⟨cell, hcell⟩ := hcells row (hrows row (by simp))
    obtain ⟨caption, hproject⟩ := @value_project l values row cell hcell
    have hrest := ih (fun r hr => hrows r (by simp [hr])) (place + 1)
    simp only [List.map_cons, hproject, List.filterMap_cons, id_eq, List.zipIdx_cons]
    exact .cons ⟨rfl, cell, hcell, rfl⟩ hrest

/-- If all rows have a value cell, there is one option for each row that is drawn. -/
theorem Field.drawOptions_drawn {f : Field} {tables : Tables}
    (h : f.table?.bind (·.listing? tables) = some l)
    (hcells : ∀ row ∈ l.rows, ∃ cell, row[l.valueColumn]? = some cell) :
    List.Forall₂ (DrawnFrom l.valueColumn values) (l.drawn values).zipIdx
      (f.drawOptions tables values).value := by
  have hrows : ∀ row ∈ l.drawn values, row ∈ l.rows := fun row hrow => (List.mem_filter.1 hrow).1
  simp only [drawOptions, h, Listing.entries, Metered.value_bind, Metered.value_pure,
    Metered.value_forEach]
  exact l.drawnFrom_rows f hcells hrows 0

end

/-! ## Quotations -/

/-- The lookup that asks for a quoted text in a column. -/
def quotedLookup (column : String) (quote : Char) (text : String) : String :=
  column ++ " = " ++ String.singleton quote ++ text ++ String.singleton quote

theorem unquote_quoted {quote : Char} (hquote : quote = '\'' ∨ quote = '"') (text : List Char) :
    unquote (String.ofList (quote :: (text ++ [quote]))) = String.ofList text := by
  have hinner : ∀ q, unquoteWith? q (quote :: (text ++ [quote])) =
      if quote = q then some text else none := by
    intro q
    simp [unquoteWith?]
  unfold unquote
  rw [String.toList_ofList, hinner, hinner]
  rcases hquote with rfl | rfl <;> rfl

/-- Without a quote at the end the one in front stays. -/
theorem unquote_open {quote : Char} {text : List Char} (htext : quote ∉ text) :
    unquote (String.ofList (quote :: text)) = String.ofList (quote :: text) := by
  have hnone : ∀ q, unquoteWith? q (quote :: text) = none := by
    intro q
    rw [unquoteWith?, if_neg]
    rintro ⟨rfl, hlast⟩
    exact htext (List.mem_of_getLast? hlast)
  unfold unquote
  rw [String.toList_ofList, hnone, hnone]

theorem resolveCell_plain {values : Dict String} {cell : String} (h : '@' ∉ cell.toList) :
    (resolveCell values cell).value = cell := by
  rw [resolveCell, if_neg h]
  rfl

/-- A name that a column can have in a lookup. -/
structure IsColumnName (column : String) : Prop where
  ne_nil : column.toList ≠ []
  not_equals : '=' ∉ column.toList
  not_blank : ∀ c ∈ column.toList, isBlank c = false

instance (column : String) : Decidable (IsColumnName column) :=
  decidable_of_iff (column.toList ≠ [] ∧ '=' ∉ column.toList ∧
      column.toList.all (!isBlank ·) = true) (by
    simp only [List.all_eq_true, Bool.not_eq_true']
    exact ⟨fun ⟨hne, hequals, hblank⟩ => ⟨hne, hequals, hblank⟩,
      fun h => ⟨h.ne_nil, h.not_equals, h.not_blank⟩⟩)

section

variable {column text : String} {quote : Char}

theorem toList_quotedLookup (column : String) (quote : Char) (text : String) :
    (quotedLookup column quote text).toList =
      column.toList ++ [' '] ++ ['='] ++ [' '] ++ (quote :: (text.toList ++ [quote])) := by
  simp [quotedLookup]

theorem isBlank_quote (hquote : quote = '\'' ∨ quote = '"') : isBlank quote = false := by
  rcases hquote with rfl | rfl <;> decide

theorem isWordPart_quote (hquote : quote = '\'' ∨ quote = '"') : isWordPart quote = false := by
  rcases hquote with rfl | rfl <;> decide

/-- A blank behind a name is no conjunction yet. -/
theorem IsColumnName.not_hasConjunction (h : IsColumnName column) :
    ¬ HasConjunction (column.toList ++ [' ']) := by
  rintro ⟨before, _, after, heq, front, word, back, rfl, hword, hfront, hblank, -⟩
  have hdrop := congrArg List.dropLast heq
  have hrest : word ++ back ++ after ≠ [] := by simp [hword.ne_nil]
  have hsplit : before ++ (front ++ word ++ back) ++ after =
      (before ++ front) ++ (word ++ back ++ after) := by simp
  rw [List.dropLast_concat, hsplit, List.dropLast_append_of_ne_nil hrest] at hdrop
  obtain ⟨c, hc⟩ := List.exists_mem_of_ne_nil front hfront
  have hin : c ∈ column.toList := by simp [hdrop, hc]
  have hnot := h.not_blank c hin
  rw [hblank c hc] at hnot
  cases hnot

theorem hasConjunction_quotedLookup (hquote : quote = '\'' ∨ quote = '"')
    (hcolumn : IsColumnName column) :
    HasConjunction (quotedLookup column quote text).toList ↔ HasConjunction text.toList := by
  rw [toList_quotedLookup]
  constructor
  · intro h
    have hequals := HasConjunction.of_append_cons (l := column.toList ++ [' ']) (c := '=')
      (r := ' ' :: quote :: (text.toList ++ [quote])) (by decide) (by decide) (by simpa using h)
    have hopen := HasConjunction.of_append_cons (l := [' ']) (c := quote)
      (r := text.toList ++ [quote]) (isBlank_quote hquote) (isWordPart_quote hquote)
      (hequals.resolve_left hcolumn.not_hasConjunction)
    have hclose := HasConjunction.of_append_cons (l := text.toList) (c := quote) (r := [])
      (isBlank_quote hquote) (isWordPart_quote hquote)
      (hopen.resolve_left (not_hasConjunction (by simp)))
    exact hclose.resolve_right (not_hasConjunction (by simp))
  · rintro ⟨before, conjunction, after, htext, hconjunction⟩
    refine ⟨column.toList ++ [' ', '=', ' ', quote] ++ before, conjunction, after ++ [quote], ?_,
      hconjunction⟩
    simp [htext]

theorem readable_quoted (hquote : quote = '\'' ∨ quote = '"') (hcolumn : IsColumnName column)
    {value : List Char} (hvalue : ∀ c ∈ (quote :: value).getLast?, isBlank c = false) :
    Predicate.Readable ⟨column, String.ofList (quote :: value)⟩ := by
  refine ⟨⟨hcolumn.ne_nil, ?_, ?_⟩, ⟨?_, ?_, ?_⟩, hcolumn.not_equals, ?_⟩
  · intro c hc
    exact hcolumn.not_blank c (List.mem_of_mem_head? hc)
  · intro c hc
    exact hcolumn.not_blank c (List.mem_of_getLast? hc)
  · simp
  · rw [String.toList_ofList]
    intro c hc
    cases hc
    exact isBlank_quote hquote
  · rw [String.toList_ofList]
    exact hvalue
  · rcases hquote with rfl | rfl <;> simp

theorem spelled_quoted (column : String) (value : List Char) :
    Predicate.Spelled ⟨column, String.ofList value⟩
      (column.toList ++ [' '] ++ ['='] ++ [' '] ++ value) := by
  refine ⟨[' '], 0, [' '], ?_, ?_, by simp⟩
  · simp only [List.mem_singleton, forall_eq]
    decide
  · simp only [List.mem_singleton, forall_eq]
    decide

theorem spelled_quotedLookup (column : String) (quote : Char) (text : String) :
    Predicate.Spelled ⟨column, String.ofList (quote :: (text.toList ++ [quote]))⟩
      (quotedLookup column quote text).toList := by
  rw [toList_quotedLookup]
  exact spelled_quoted column (quote :: (text.toList ++ [quote]))

theorem readable_quotedLookup (hquote : quote = '\'' ∨ quote = '"')
    (hcolumn : IsColumnName column) (text : String) :
    Predicate.Readable ⟨column, String.ofList (quote :: (text.toList ++ [quote]))⟩ := by
  have hlast : ∀ c ∈ (quote :: (text.toList ++ [quote])).getLast?, isBlank c = false := by
    rw [← List.cons_append, List.getLast?_append_of_ne_nil (quote :: text.toList) (by simp)]
    intro c hc
    cases hc
    exact isBlank_quote hquote
  exact readable_quoted hquote hcolumn hlast

theorem readLookup_quotedLookup (hquote : quote = '\'' ∨ quote = '"')
    (hcolumn : IsColumnName column) (text : String) :
    readLookup (quotedLookup column quote text) =
      readPredicates ((splitConjunction (quotedLookup column quote text).toList).filter
        fun part => !part.all isBlank) := by
  have hspelled := spelled_quotedLookup column quote text
  have hreadable := readable_quotedLookup hquote hcolumn text
  have hhead : ∀ c ∈ (quotedLookup column quote text).toList.head?, isBlank c = false := by
    simpa using hspelled.head? hreadable []
  rw [readLookup, trimChars_eq_self hhead (hspelled.getLast? hreadable [])]

/-- Quotes that enclose no conjunction leave the lookup in one piece. -/
theorem readLookup_quoted (hquote : quote = '\'' ∨ quote = '"') (hcolumn : IsColumnName column)
    (htext : ¬ HasConjunction text.toList) :
    readLookup (quotedLookup column quote text) =
      .ok [⟨column, String.ofList (quote :: (text.toList ++ [quote]))⟩] := by
  have hone := splitConjunction_of_not_hasConjunction
    ((hasConjunction_quotedLookup hquote hcolumn).not.2 htext)
  rw [readLookup_quotedLookup hquote hcolumn, hone,
    readPredicates_cons_spelled (spelled_quotedLookup column quote text)
      (readable_quotedLookup hquote hcolumn text)]
  rfl

/-- A conjunction between the quotes ends the first part there. -/
theorem exists_open_part (hquote : quote = '\'' ∨ quote = '"') (hcolumn : IsColumnName column)
    (htext : HasConjunction text.toList) :
    ∃ value after parts, text.toList = value ++ after ∧
      (∀ c ∈ (quote :: value).getLast?, isBlank c = false) ∧
      splitConjunction (quotedLookup column quote text).toList =
        (column.toList ++ [' '] ++ ['='] ++ [' '] ++ (quote :: value)) :: parts := by
  obtain ⟨first, conjunction, rest, heq, hconjunction, hlast, hsplit⟩ :=
    exists_first_conjunction ((hasConjunction_quotedLookup hquote hcolumn).2 htext)
  have hout : quote ∉ conjunction := by
    intro hc
    have hmem := hconjunction.mem hc
    rw [isBlank_quote hquote, isWordPart_quote hquote] at hmem
    simp at hmem
  have hopen : (column.toList ++ [' ', '=', ' ']) ++ quote :: (text.toList ++ [quote]) =
      first ++ conjunction ++ rest := by
    rw [← heq, toList_quotedLookup]
    simp
  rcases infix_of_append_cons hout hopen with ⟨between, hfront, -⟩ | ⟨between, hbehind, rfl⟩
  · -- no conjunction stands before the opening quote
    have hnone : HasConjunction (column.toList ++ [' '] ++ '=' :: [' ']) :=
      ⟨first, conjunction, between, by simpa using hfront, hconjunction⟩
    rcases hnone.of_append_cons (by decide) (by decide) with h | h
    · exact absurd h hcolumn.not_hasConjunction
    · exact absurd h (not_hasConjunction (by simp))
  · rcases infix_of_append_cons (l := text.toList) (r := []) hout hbehind with
      ⟨more, htail, -⟩ | ⟨more, hnil, -⟩
    · refine ⟨between, conjunction ++ more, splitConjunction rest, by simp [htail], ?_, ?_⟩
      · intro c hc
        refine hlast c ?_
        rw [List.getLast?_append, Option.mem_def.1 hc]
        rfl
      · rw [hsplit]
        simp
    · have hne := hconjunction.length_le
      simp only [List.nil_eq, List.append_eq_nil_iff] at hnil
      rw [hnil.1.2] at hne
      simp at hne

/-- A conjunction between the quotes leaves the opening one in what is compared with the cells. -/
theorem exists_open_predicate (hquote : quote = '\'' ∨ quote = '"')
    (hcolumn : IsColumnName column) (htext : HasConjunction text.toList) {ps : List Predicate}
    (h : readLookup (quotedLookup column quote text) = .ok ps) :
    ∃ value after, text.toList = value ++ after ∧
      ⟨column, String.ofList (quote :: value)⟩ ∈ ps := by
  obtain ⟨value, after, parts, heq, hlast, hsplit⟩ := exists_open_part hquote hcolumn htext
  rw [readLookup_quotedLookup hquote hcolumn, hsplit,
    readPredicates_cons_spelled (spelled_quoted column (quote :: value))
      (readable_quoted hquote hcolumn hlast)] at h
  refine ⟨value, after, heq, ?_⟩
  cases hparts : readPredicates (parts.filter fun part => !part.all isBlank) with
  | error fault =>
    rw [hparts] at h
    cases h
  | ok others =>
    rw [hparts] at h
    cases h
    exact List.mem_cons_self

/-! ## The rows of a quotation -/

theorem value_expected (l : Listing) (values : Dict String) :
    (l.expected values).value =
      l.predicates.map fun p => (p.column, (resolveCell values (unquote p.value)).value) := by
  simp only [Listing.expected, Metered.value_forEach, Metered.value_bind, Metered.value_pure]

/-- Exactly the rows with the text in their cell are drawn. -/
theorem drawn_quoted {l : Listing} (hquote : quote = '\'' ∨ quote = '"')
    (hplain : '@' ∉ text.toList)
    (h : l.predicates = [⟨column, String.ofList (quote :: (text.toList ++ [quote]))⟩])
    (values : Dict String) :
    l.drawn values = l.rows.filter fun row => row[column]? = some text := by
  have hexpected : (l.expected values).value = [(column, text)] := by
    rw [value_expected, h, List.map_singleton, unquote_quoted hquote, String.ofList_toList,
      resolveCell_plain hplain]
  rw [Listing.drawn, hexpected]
  refine List.filter_congr ?_
  intro row _
  simp [rowFits, beq_eq_decide]

/-- A text that still has its opening quote is in no cell that holds the text without. -/
theorem not_drawn_open {l : Listing} {value after : List Char} (hclear : quote ∉ text.toList)
    (hplain : '@' ∉ text.toList) (hquote : quote ≠ '@') (htext : text.toList = value ++ after)
    (h : ⟨column, String.ofList (quote :: value)⟩ ∈ l.predicates) {values : Dict String} {row : Row}
    (hrow : row ∈ l.drawn values) : row[column]? ≠ some text := by
  have hvalue : quote ∉ value := by
    intro hin
    exact hclear (by simp [htext, hin])
  have hsign : '@' ∉ (String.ofList (quote :: value)).toList := by
    rw [String.toList_ofList, List.mem_cons, not_or]
    refine ⟨Ne.symm hquote, ?_⟩
    intro hin
    exact hplain (by simp [htext, hin])
  have hmem : (column, String.ofList (quote :: value)) ∈ (l.expected values).value := by
    rw [value_expected]
    refine List.mem_map.2 ⟨_, h, ?_⟩
    simp only [unquote_open hvalue, resolveCell_plain hsign]
  obtain ⟨-, hfits⟩ := List.mem_filter.1 hrow
  have hcell := List.all_eq_true.1 hfits _ hmem
  simp only [beq_iff_eq] at hcell
  rw [hcell]
  intro heq
  have hchars := congrArg String.toList (Option.some.inj heq)
  rw [String.toList_ofList] at hchars
  exact hclear (by simp [← hchars])

theorem nonBlank_quotedLookup (column : String) (quote : Char) (text : String) :
    nonBlank? (some (quotedLookup column quote text)) = some (quotedLookup column quote text) := by
  have hfilled : allBlank (quotedLookup column quote text) = false :=
    List.all_eq_false.2 ⟨'=', by simp [toList_quotedLookup], by decide⟩
  simp [nonBlank?, hfilled]

/-- What a source with such a lookup lists. -/
theorem listing_quotedLookup {spec : SourceSpec} {tables : Tables} {rows : List Row}
    (hlookup : spec.metadataOrEmpty.lookup = some (quotedLookup column quote text))
    (hrows : tables[spec.table]? = some rows) :
    spec.listing? tables = (readLookup (quotedLookup column quote text)).toOption.map fun ps =>
      ⟨spec.table, rows, ps, spec.metadataOrEmpty.valueColumnName,
        spec.metadataOrEmpty.displayColumnName⟩ := by
  simp only [SourceSpec.listing?, hrows, hlookup, nonBlank_quotedLookup, Option.getD_some]
  cases readLookup (quotedLookup column quote text) <;> rfl

end

/-- A lookup that asks for a quoted text in a column, with neither a field sign nor the quote in the
text, draws one option for each row that it finds, in the order of the table.  If no conjunction
stands in the text, it finds the rows with the text in their cell.  If one does, it finds none of
them. -/
theorem rows_of_quotedLookup {f : Field} {spec : SourceSpec} {tables : Tables} {rows : List Row}
    {column text : String} {quote : Char}
    (hspec : f.table? = some spec) (hvalue : spec.metadataOrEmpty.valueColumnName = "value")
    (hlookup : spec.metadataOrEmpty.lookup = some (quotedLookup column quote text))
    (hrows : tables[spec.table]? = some rows)
    (hcells : ∀ row ∈ rows, ∃ cell, row["value"]? = some cell)
    (hquote : quote = '\'' ∨ quote = '"') (hcolumn : IsColumnName column)
    (hplain : '@' ∉ text.toList) (hclear : quote ∉ text.toList) (values : Dict String) :
    ∃ drawn, drawn.Sublist rows ∧
      List.Forall₂ (DrawnFrom "value" values) drawn.zipIdx (f.drawOptions tables values).value ∧
      (¬ HasConjunction text.toList → drawn = rows.filter fun row => row[column]? = some text) ∧
      (HasConjunction text.toList → ∀ row ∈ drawn, row[column]? ≠ some text) := by
  have hlisting : f.table?.bind (·.listing? tables) =
      (readLookup (quotedLookup column quote text)).toOption.map fun ps =>
        ⟨spec.table, rows, ps, "value", spec.metadataOrEmpty.displayColumnName⟩ := by
    rw [hspec, Option.bind_some, listing_quotedLookup hlookup hrows, hvalue]
  cases hread : readLookup (quotedLookup column quote text) with
  | error fault =>
    rw [hread] at hlisting
    refine ⟨[], List.nil_sublist _, ?_, ?_, by simp⟩
    · rw [Field.drawOptions, hlisting]
      exact .nil
    · intro hnone
      rw [readLookup_quoted hquote hcolumn hnone] at hread
      cases hread
  | ok ps =>
    rw [hread] at hlisting
    refine ⟨_, List.filter_sublist, Field.drawOptions_drawn hlisting hcells, ?_, ?_⟩
    · intro hnone
      rw [readLookup_quoted hquote hcolumn hnone] at hread
      cases hread
      exact drawn_quoted hquote hplain rfl values
    · intro hsome row hrow
      obtain ⟨value, after, htext, hmem⟩ := exists_open_predicate hquote hcolumn hsome hread
      have hsign : quote ≠ '@' := by rcases hquote with rfl | rfl <;> decide
      exact not_drawn_open hclear hplain hsign htext hmem hrow

/-- Equals signs, the other quote and a word `and` that is no conjunction may stand in the text. -/
theorem rows_of_quotedLookup_label :
    let text := "= \"and\" more"
    let label : Row := Dict.ofPairs [("name", text), ("value", "1")]
    let rows : List Row := [Dict.ofPairs [("name", "and"), ("value", "0")], label]
    let spec : SourceSpec := {
      table := "NAMES", metadata := some { lookup := quotedLookup "name" '\'' text } }
    let field : Field := { keyword := "NAME", sourced := true, values := [.source spec] }
    let tables : Tables := Dict.ofPairs [("NAMES", rows)]
    field.table? = some spec ∧ tables[spec.table]? = some rows ∧
      (∀ row ∈ rows, ∃ cell, row["value"]? = some cell) ∧ IsColumnName "name" ∧
      '@' ∉ text.toList ∧ '\'' ∉ text.toList ∧ ¬ HasConjunction text.toList ∧
      List.Forall₂ (DrawnFrom "value" ∅) [(label, 0)] (field.drawOptions tables ∅).value := by
  intro text label rows spec field tables
  have hspec : field.table? = some spec := by decide +kernel
  have hrows : tables[spec.table]? = some rows := by decide +kernel
  have hcells : ∀ row ∈ rows, ∃ cell, row["value"]? = some cell := by
    simp only [rows, List.mem_cons, List.not_mem_nil, or_false, forall_eq_or_imp, forall_eq]
    exact ⟨⟨"0", by decide +kernel⟩, "1", by decide +kernel⟩
  have hcolumn : IsColumnName "name" := by decide +kernel
  have hplain : '@' ∉ text.toList := by decide +kernel
  have hclear : '\'' ∉ text.toList := by decide +kernel
  have hnone : ¬ HasConjunction text.toList := by decide +kernel
  obtain ⟨drawn, -, hoptions, hexact, -⟩ := rows_of_quotedLookup hspec (by decide +kernel) rfl hrows
    hcells (.inl rfl) hcolumn hplain hclear ∅
  have hdrawn : drawn = [label] := by
    rw [hexact hnone]
    decide +kernel
  rw [hdrawn] at hoptions
  exact ⟨hspec, hrows, hcells, hcolumn, hplain, hclear, hnone, hoptions⟩

/-- The lookup for a text with a conjunction in it does not find the row that holds the text. -/
theorem quotedLookup_loses_conjunction :
    let text := "salt and pepper"
    let rows : List Row := [Dict.ofPairs [("name", text), ("value", "SP")]]
    let spec : SourceSpec := {
      table := "SPICES", metadata := some { lookup := quotedLookup "name" '\'' text } }
    let field : Field := { keyword := "SPICE", sourced := true, values := [.source spec] }
    let tables : Tables := Dict.ofPairs [("SPICES", rows)]
    field.table? = some spec ∧ spec.metadataOrEmpty.valueColumnName = "value" ∧
      tables[spec.table]? = some rows ∧ (∀ row ∈ rows, ∃ cell, row["value"]? = some cell) ∧
      IsColumnName "name" ∧ '@' ∉ text.toList ∧ '\'' ∉ text.toList ∧
      (rows.filter fun row => row["name"]? = some text) = rows ∧
      (field.drawOptions tables ∅).value = [] := by
  intro text rows spec field tables
  have hcells : ∀ row ∈ rows, ∃ cell, row["value"]? = some cell := by
    simp only [rows, List.mem_singleton, forall_eq]
    exact ⟨"SP", by decide +kernel⟩
  exact ⟨by decide +kernel, by decide +kernel, by decide +kernel, hcells, by decide +kernel,
    by decide +kernel, by decide +kernel, by decide +kernel, by decide +kernel⟩

end FormLogic
