import FormLogic.Proofs.Options.Lookup

/-!
# FormLogic.Proofs.Options.Source

The options that a field draws from a table depend on its source references only.

* `Listing.Within l texts`: all formulas that a listing evaluates stand in the texts;
* `within_of_listing`: those of a source's listing stand in the texts of the source;
* `drawOptions_congr`: values that agree on the source references of a field give it one list.
-/

namespace FormLogic

open Formula Text

variable {v w : Dict String}

theorem resolveCell_congr {cell : String} (h : ∀ d ∈ references cell, v[d]? = w[d]?) :
    (resolveCell v cell).value = (resolveCell w cell).value := by
  have heval : evaluate cell (.ofValues v) = evaluate cell (.ofValues w) := evaluate_congr h
  unfold resolveCell
  split
  · simp only [Metered.value_bind, Metered.value_evaluate, heval]
  · rfl

/-- All formulas that the listing evaluates stand in the texts. -/
structure Listing.Within (l : Listing) (texts : List String) : Prop where
  expected : ∀ p ∈ l.predicates, ∃ text ∈ texts, CutFrom text.toList (unquote p.value).toList
  values : ∀ row ∈ l.rows, ∀ cell, row[l.valueColumn]? = some cell → cell ∈ texts
  captions : ∀ row ∈ l.rows, ∀ cell, row[l.displayColumn]? = some cell → cell ∈ texts

/-- What is expected of rows is cut from the lookup, and the cells that are shown are texts of the
source themselves. -/
theorem SourceSpec.within_of_listing {spec : SourceSpec} {tables : Tables} {l : Listing}
    (h : spec.listing? tables = some l) : l.Within (spec.texts tables) := by
  obtain ⟨rows, hrows, h⟩ := Option.bind_eq_some_iff.1 h
  obtain ⟨predicates, hread, h⟩ := Option.bind_eq_some_iff.1 h
  cases h
  have hcell : ∀ row ∈ rows, ∀ cell,
      cell ∈ row[spec.metadataOrEmpty.valueColumnName]?.toList ++
        row[spec.metadataOrEmpty.displayColumnName]?.toList → cell ∈ spec.texts tables := by
    intro row hrow cell hcell
    refine List.mem_append_right _ (List.mem_flatMap.2 ⟨row, ?_, hcell⟩)
    rw [hrows]
    exact hrow
  refine ⟨fun p hp => ?_, fun row hrow cell h => ?_, fun row hrow cell h => ?_⟩
  · have hpredicates : readLookup ((nonBlank? spec.metadataOrEmpty.lookup).getD "") =
        .ok predicates := by
      cases hresult : readLookup ((nonBlank? spec.metadataOrEmpty.lookup).getD "") with
      | error fault => rw [hresult] at hread; cases hread
      | ok ps => rw [hresult] at hread; cases hread; rfl
    cases hlookup : nonBlank? spec.metadataOrEmpty.lookup with
    | none =>
      -- without a lookup nothing is expected
      rw [hlookup, Option.getD_none, readLookup_empty] at hpredicates
      cases hpredicates
      cases hp
    | some lookup =>
      rw [hlookup, Option.getD_some] at hpredicates
      have htext : spec.metadataOrEmpty.lookup = some lookup :=
        (Option.filter_eq_some_iff.1 hlookup).1
      refine ⟨lookup, ?_, (cutFrom_of_readLookup hpredicates hp).trans (cutFrom_unquote p.value)⟩
      simp [texts, htext]
  · exact hcell row hrow cell (List.mem_append_left _ (by simp [h]))
  · exact hcell row hrow cell (List.mem_append_right _ (by simp [h]))

namespace Listing

variable {l : Listing} {texts : List String}

section

variable (hl : l.Within texts) (h : ∀ text ∈ texts, ∀ d ∈ references text, v[d]? = w[d]?)

include hl h

theorem expected_congr : (l.expected v).value = (l.expected w).value := by
  unfold expected
  rw [Metered.value_forEach, Metered.value_forEach]
  refine List.map_congr_left fun p hp => ?_
  obtain ⟨text, htext, hcut⟩ := hl.expected p hp
  have hcell := resolveCell_congr fun d hd => h text htext d (hcut.references d hd)
  simp only [Metered.value_bind, Metered.value_pure, hcell]

theorem project_congr {row : Row} (hrow : row ∈ l.rows) :
    (l.project v row).value = (l.project w row).value := by
  unfold project
  cases hcell : row[l.valueColumn]? with
  | none => rfl
  | some cell =>
    have hvalue := resolveCell_congr (h cell (hl.values row hrow cell hcell))
    cases hcaption : row[l.displayColumn]? with
    | none => simp only [Metered.value_bind, Metered.value_pure, hvalue]
    | some caption =>
      have hdisplay := resolveCell_congr (h caption (hl.captions row hrow caption hcaption))
      simp only [Metered.value_bind, Metered.value_pure, hvalue, hdisplay]

theorem entries_congr : (l.entries v).value = (l.entries w).value := by
  simp only [entries, Metered.value_bind, Metered.value_pure, Metered.value_forEach]
  rw [expected_congr hl h]
  congr 1
  exact List.map_congr_left fun row hrow => project_congr hl h (List.mem_filter.1 hrow).1

end

end Listing

/-- Values that agree on the source references of a field give it one list of options. -/
theorem Field.drawOptions_congr {f : Field} {tables : Tables}
    (h : ∀ d ∈ f.sourceReferences tables, v[d]? = w[d]?) :
    (f.drawOptions tables v).value = (f.drawOptions tables w).value := by
  unfold drawOptions
  cases hlisting : f.table?.bind (·.listing? tables) with
  | none => rfl
  | some l =>
    obtain ⟨spec, htable, hl⟩ := Option.bind_eq_some_iff.1 hlisting
    have hread : ∀ text ∈ spec.texts tables, ∀ d ∈ references text, v[d]? = w[d]? := by
      intro text htext d hd
      refine h d ?_
      rw [sourceReferences, htable]
      exact List.mem_eraseDups.2 (List.mem_flatMap.2 ⟨text, htext, hd⟩)
    have hentries := Listing.entries_congr (SourceSpec.within_of_listing hl) hread
    simp only [Metered.value_bind, Metered.value_pure, hentries]

end FormLogic
