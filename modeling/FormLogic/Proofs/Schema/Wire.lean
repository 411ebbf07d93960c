import FormLogic.Proofs.Json.Codec
import FormLogic.Schema.Wire

/-!
# FormLogic.Proofs.Schema.Wire

Products that come back from their JSON text.

* `Product.Sized`: the numbers of a product have 64 bits;
* `restores_valueEntry`: sources come back as sources and options as options;
* `restores_field`, `restores_product`: fields and products are restored;
* `Product.ofText_write`: so they are by their text, alone and in an envelope.
-/

namespace FormLogic

open Json

/-- An integer of 64 bits with a sign. -/
def IsInt64 (i : Int) : Prop := -Int.pow 2 63 ≤ i ∧ i ≤ Int.pow 2 63 - 1

instance (i : Int) : Decidable (IsInt64 i) := inferInstanceAs (Decidable (_ ∧ _))

/-- The integers of a field have 64 bits, those that are lengths without a sign. -/
structure Field.Sized (f : Field) : Prop where
  shortest : ∀ n ∈ f.shortest, n < Nat.pow 2 64
  longest : ∀ n ∈ f.longest, n < Nat.pow 2 64
  sequence : ∀ i ∈ f.sequence, IsInt64 i
  product : IsInt64 f.product
  choices : ∀ c ∈ f.choices, IsInt64 c.sequence

/-- The integers of a product have 64 bits. -/
structure Product.Sized (p : Product) : Prop where
  id : IsInt64 p.id
  master : ∀ m ∈ p.master, IsInt64 m.product
  riders : ∀ r ∈ p.riders, IsInt64 r.product
  versions : ∀ v ∈ p.versions, IsInt64 v.id
  fields : ∀ f ∈ p.fields, f.Sized
  choices : ∀ c ∈ p.choices, IsInt64 c.sequence

/-- The bounds of a field's number. -/
def Field.bounds (f : Field) : List Float := f.least.toList ++ f.greatest.toList

def Product.bounds (p : Product) : List Float := p.fields.flatMap Field.bounds

/-! ## Parts of a product -/

section Parts

variable {d : Nat}

theorem restores_optionText (o : Option String) : (Codec.option Codec.text).Restores d o :=
  restores_option (fun s _ => restores_text s) nofun

theorem restores_fieldType (type : FieldType) : Wire.fieldType.Restores d type :=
  restores_tag (by cases type <;> decide)

theorem restores_uiBehavior (b : UiBehavior) : Wire.uiBehavior.Restores d b :=
  restores_tag (by cases b <;> decide)

theorem restores_direction (direction : Direction) : Wire.direction.Restores d direction :=
  restores_tag (by cases direction <;> decide)

theorem restores_action (action : Action) : Wire.action.Restores d action :=
  restores_tag (by cases action <;> decide)

theorem restores_choice {c : Choice} (h : IsInt64 c.sequence) :
    Wire.choice.Restores (d + 1) c :=
  restores_record (by decide)
    (.cons (.optional (restores_text _)) <|
    .cons (.optional (restores_text _)) <|
    .cons (.optional (restores_text _)) <|
    .cons (.needed (restores_text _)) <|
    .cons (.optional (restores_bool _)) <|
    .cons (.optional (restores_int h)) <|
    .cons (.optional (restores_text _)) <|
    .cons (.optional (restores_text _)) .nil)
    (pairwise_commute fun _ => rfl) rfl

theorem restores_sourceMetadata (m : SourceMetadata) : Wire.sourceMetadata.Restores (d + 1) m :=
  restores_record (by decide)
    (.cons (.optional (restores_optionText _)) <|
    .cons (.optional (restores_optionText _)) <|
    .cons (.optional (restores_optionText _)) .nil)
    (pairwise_commute fun _ => rfl) rfl

theorem restores_sourceSpec (s : SourceSpec) : Wire.sourceSpec.Restores (d + 2) s :=
  restores_record (by decide)
    (.cons (.needed (restores_text _)) <|
    .cons (.optional (restores_text _)) <|
    .cons (.optional (restores_option (fun m _ => restores_sourceMetadata m) nofun)) .nil)
    (pairwise_commute fun _ => rfl) rfl

/-- An option does not fit a source, since it does not name a table. -/
theorem sourceSpec_decode_choice (c : Choice) :
    ∃ why, Wire.sourceSpec.decode (Wire.choice.encode c).sorted = .error why :=
  decode_record_of_other (by decide) List.mem_cons_self rfl (by decide)

/-- Sources come back as sources and options as options. -/
theorem restores_valueEntry {e : ValueEntry} (h : ∀ c, e = .choice c → IsInt64 c.sequence) :
    Wire.valueEntry.Restores (d + 2) e := by
  cases e with
  | source spec =>
    have hspec := restores_sourceSpec (d := d) spec
    refine ⟨hspec.legible, ?_⟩
    rw [Wire.valueEntry]
    simp only [hspec.decode_sorted]
  | choice c =>
    have hchoice := restores_choice (d := d + 1) (h c rfl)
    obtain ⟨why, hwhy⟩ := sourceSpec_decode_choice c
    refine ⟨hchoice.legible, ?_⟩
    rw [Wire.valueEntry]
    simp only [hwhy, hchoice.decode_sorted]

theorem restores_field {f : Field} (hsized : f.Sized)
    (hbounds : ∀ x ∈ f.bounds, x.isFinite = true ∧ ReadsBack x) :
    Wire.field.Restores (d + 4) f := by
  have hbound : ∀ o : Option Float, (∀ x ∈ o, x.isFinite = true ∧ ReadsBack x) →
      (Codec.option Codec.float).Restores (d + 3) o := by
    intro o ho
    refine restores_option (fun x hx => restores_float (ho x hx).1 (ho x hx).2) fun x hx => ?_
    rw [encode_float (ho x hx).1]
    nofun
  have hleast := hbound f.least fun x hx => hbounds x (by
    rw [Field.bounds, List.mem_append, Option.mem_toList]
    exact .inl hx)
  have hgreatest := hbound f.greatest fun x hx => hbounds x (by
    rw [Field.bounds, List.mem_append, Option.mem_toList, Option.mem_toList]
    exact .inr hx)
  have hshortest : (Codec.option Codec.size).Restores (d + 3) f.shortest :=
    restores_option (fun n hn => restores_size (hsized.shortest n hn)) nofun
  have hlongest : (Codec.option Codec.size).Restores (d + 3) f.longest :=
    restores_option (fun n hn => restores_size (hsized.longest n hn)) nofun
  have hsequence : (Codec.option Codec.int).Restores (d + 3) f.sequence :=
    restores_option (fun i hi => restores_int (hsized.sequence i hi)) nofun
  have hvalues : ∀ e ∈ f.values, Wire.valueEntry.Restores (d + 2) e := by
    intro e he
    refine restores_valueEntry fun c hc => hsized.choices c ?_
    exact List.mem_filterMap.2 ⟨e, he, by rw [hc]⟩
  exact restores_record (by decide)
    (.cons (.optional (restores_text _)) <|
    .cons (.needed (restores_text _)) <|
    .cons (.optional (restores_text _)) <|
    .cons (.optional (restores_fieldType _)) <|
    .cons (.optional (restores_text _)) <|
    .cons (.optional (restores_text _)) <|
    .cons (.optional (restores_optionText _)) <|
    .cons (.optional (restores_bool _)) <|
    .cons (.optional (restores_direction _)) <|
    .cons (.optional (restores_uiBehavior _)) <|
    .cons (.optional hleast) <|
    .cons (.optional hgreatest) <|
    .cons (.optional hshortest) <|
    .cons (.optional hlongest) <|
    .cons (.optional (restores_optionText _)) <|
    .cons (.optional (restores_optionText _)) <|
    .cons (.optional (restores_optionText _)) <|
    .cons (.optional (restores_optionText _)) <|
    .cons (.optional hsequence) <|
    .cons (.optional (restores_optionText _)) <|
    .cons (.optional (restores_text _)) <|
    .cons (.optional (restores_text _)) <|
    .cons (.optional (restores_int hsized.product)) <|
    .cons (.optional (restores_text _)) <|
    .cons (.optional (restores_text _)) <|
    .cons (.optional (restores_bool _)) <|
    .cons (.optional (restores_list hvalues)) .nil)
    (pairwise_commute fun _ => rfl) rfl

theorem restores_fieldRule (r : FieldRule) : Wire.fieldRule.Restores (d + 1) r :=
  restores_record (by decide)
    (.cons (.optional (restores_text _)) <|
    .cons (.needed (restores_text _)) <|
    .cons (.optional (restores_optionText _)) <|
    .cons (.needed (restores_text _)) <|
    .cons (.needed (restores_action _)) <|
    .cons (.optional (restores_optionText _)) <|
    .cons (.optional (restores_optionText _)) <|
    .cons (.optional (restores_text _)) <|
    .cons (.optional (restores_text _)) .nil)
    (pairwise_commute fun _ => rfl) rfl

theorem restores_valueRule (r : ValueRule) : Wire.valueRule.Restores (d + 1) r :=
  restores_record (by decide)
    (.cons (.optional (restores_text _)) <|
    .cons (.needed (restores_text _)) <|
    .cons (.optional (restores_text _)) <|
    .cons (.needed (restores_text _)) <|
    .cons (.optional (restores_text _)) <|
    .cons (.needed (restores_action _)) <|
    .cons (.optional (restores_optionText _)) <|
    .cons (.optional (restores_optionText _)) <|
    .cons (.optional (restores_text _)) <|
    .cons (.optional (restores_text _)) .nil)
    (pairwise_commute fun _ => rfl) rfl

theorem restores_productMaster {m : ProductMaster} (h : IsInt64 m.product) :
    Wire.productMaster.Restores (d + 1) m :=
  restores_record (by decide)
    (.cons (.optional (restores_int h)) <|
    .cons (.optional (restores_text _)) <|
    .cons (.optional (restores_text _)) <|
    .cons (.optional (restores_optionText _)) <|
    .cons (.optional (restores_text _)) <|
    .cons (.optional (restores_text _)) <|
    .cons (.optional (restores_text _)) <|
    .cons (.optional (restores_text _)) .nil)
    (pairwise_commute fun _ => rfl) rfl

theorem restores_rider {r : Rider} (h : IsInt64 r.product) : Wire.rider.Restores (d + 1) r :=
  restores_record (by decide)
    (.cons (.optional (restores_int h)) <|
    .cons (.optional (restores_text _)) <|
    .cons (.optional (restores_text _)) <|
    .cons (.optional (restores_text _)) <|
    .cons (.optional (restores_text _)) <|
    .cons (.optional (restores_text _)) <|
    .cons (.optional (restores_text _)) .nil)
    (pairwise_commute fun _ => rfl) rfl

theorem restores_version {v : Version} (h : IsInt64 v.id) : Wire.version.Restores (d + 1) v :=
  restores_record (by decide)
    (.cons (.optional (restores_int h)) <|
    .cons (.optional (restores_text _)) <|
    .cons (.optional (restores_optionText _)) <|
    .cons (.optional (restores_optionText _)) <|
    .cons (.optional (restores_text _)) .nil)
    (pairwise_commute fun _ => rfl) rfl

theorem restores_tables (t : Tables) : Wire.tables.Restores (d + 3) t :=
  restores_dict fun _ _ => restores_list fun _ _ => restores_dict fun _ _ => restores_text _

theorem restores_product {p : Product} (hsized : p.Sized)
    (hbounds : ∀ x ∈ p.bounds, x.isFinite = true ∧ ReadsBack x) :
    Wire.product.Restores (d + 6) p := by
  have hmaster : (Codec.option Wire.productMaster).Restores (d + 5) p.master :=
    restores_option (fun m hm => restores_productMaster (hsized.master m hm)) nofun
  have hfields : ∀ f ∈ p.fields, Wire.field.Restores (d + 4) f := by
    intro f hf
    exact restores_field (hsized.fields f hf) fun x hx =>
      hbounds x (List.mem_flatMap.2 ⟨f, hf, hx⟩)
  exact restores_record (by decide)
    (.cons (.optional (restores_int hsized.id)) <|
    .cons (.optional (restores_text _)) <|
    .cons (.optional hmaster) <|
    .cons (.optional (restores_list fun r hr => restores_rider (hsized.riders r hr))) <|
    .cons (.optional (restores_list fun v hv => restores_version (hsized.versions v hv))) <|
    .cons (.optional (restores_list hfields)) <|
    .cons (.optional (restores_list fun c hc => restores_choice (hsized.choices c hc))) <|
    .cons (.optional (restores_tables _)) <|
    .cons (.optional (restores_list fun r _ => restores_fieldRule r)) <|
    .cons (.optional (restores_list fun r _ => restores_valueRule r)) .nil)
    (pairwise_commute fun _ => rfl) rfl

theorem restores_envelope {e : Envelope} (hcode : IsInt64 e.statusCode)
    (h : Wire.product.Restores (d + 6) e.response) : Wire.envelope.Restores (d + 7) e :=
  restores_record (by decide)
    (.cons (.optional (restores_int hcode)) <|
    .cons (.optional (restores_text _)) <|
    .cons (.needed h) .nil)
    (pairwise_commute fun _ => rfl) rfl

end Parts

/-! ## Whole texts -/

/-- A product has no member that would make it an envelope. -/
theorem Product.ofJson_product {p : Product} {d : Nat} (h : Wire.product.Restores d p) :
    Product.ofJson (Wire.product.encode p).sorted = .ok p := by
  have hnone : (Wire.product.encode p).sorted.find? "response" = none :=
    find?_record_eq_none (by decide) (by decide)
  rw [Product.ofJson, hnone]
  exact h.decode_sorted

theorem Product.ofJson_envelope {e : Envelope} {d : Nat} (h : Wire.envelope.Restores d e) :
    Product.ofJson (Wire.envelope.encode e).sorted = .ok e.response := by
  have hsome : ((Wire.envelope.encode e).sorted.find? "response").isSome = true :=
    isSome_find?_record (by decide) (by decide)
  obtain ⟨j, hj⟩ := Option.isSome_iff_exists.1 hsome
  rw [Product.ofJson, hj]
  simp only [h.decode_sorted]
  rfl

theorem Product.ofText_of_read? {text : String} {j : Json} {p : Product}
    (hread : read? text = some j) (hj : Product.ofJson j = .ok p) :
    Product.ofText text = .ok p := by
  simp only [Product.ofText, hread, hj]
  rfl

/-- A product is read again from its text, and from the text of an envelope around it, if its
integers have 64 bits and its bounds are finite and read back from their own texts. -/
theorem Product.ofText_write (p : Product) (hsized : p.Sized)
    (hfinite : ∀ x ∈ p.bounds, x.isFinite = true) (hread : ∀ x ∈ p.bounds, ReadsBack x)
    (code : Int) (hcode : IsInt64 code) (message : String) :
    Product.ofText (Wire.product.encode p).write = .ok p ∧
      Product.ofText (Wire.envelope.encode ⟨code, message, p⟩).write = .ok p := by
  have hbounds : ∀ x ∈ p.bounds, x.isFinite = true ∧ ReadsBack x :=
    fun x hx => ⟨hfinite x hx, hread x hx⟩
  have hproduct : Wire.product.Restores (121 + 6) p := restores_product hsized hbounds
  have henvelope : Wire.envelope.Restores (120 + 7) ⟨code, message, p⟩ :=
    restores_envelope hcode (restores_product hsized hbounds)
  exact ⟨ofText_of_read? (read?_write hproduct.legible) (ofJson_product hproduct),
    ofText_of_read? (read?_write henvelope.legible) (ofJson_envelope henvelope)⟩

theorem Product.ofText_write_city :
    let city : Field := {
      keyword := "CITY", type := .other, least := some 0.5, greatest := some 100.0,
      longest := some 18446744073709551615, sourced := true,
      values := [
        .source { table := "CITIES", metadata := some { lookup := some "state = @STATE" } },
        .choice { value := "\"Pune\"", sequence := -9223372036854775808 }] }
    let cities : List Row := [Dict.ofPairs [("state", "MH")]]
    let p : Product := {
      id := 7, fields := [city], tables := Dict.ofPairs [("CITIES", cities)],
      fieldRules := [{ trigger := "STATE", target := "CITY", action := .show }] }
    p.bounds = [0.5, 100.0] ∧ Product.ofText (Wire.product.encode p).write = .ok p ∧
      Product.ofText (Wire.envelope.encode ⟨200, "OK", p⟩).write = .ok p := by
  intro city cities p
  have hbounds : p.bounds = [0.5, 100.0] := rfl
  have hfield : city.Sized := by
    refine ⟨nofun, ?_, nofun, by decide, ?_⟩
    · rintro n ⟨⟩
      decide
    · decide +kernel
  have hsized : p.Sized := by
    refine ⟨by decide, nofun, nofun, nofun, ?_, nofun⟩
    intro f hf
    rw [List.mem_singleton.1 hf]
    exact hfield
  refine ⟨hbounds, Product.ofText_write p hsized ?_ ?_ 200 (by decide) "OK"⟩
  · rw [hbounds]
    decide +kernel
  · rw [hbounds]
    intro x hx
    rcases List.mem_pair.1 hx with rfl | rfl
    · exact (rfl : readNumber? (writeFloat 0.5) = _)
    · exact (rfl : readNumber? (writeFloat 100.0) = _)

end FormLogic
