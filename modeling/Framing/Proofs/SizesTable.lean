import Mathlib
import Framing.Command

/-!
# Loading a sizes table

The load reads a table through a reader of comma-separated files (`Csv.Reader`), and all it relies
on is what a reader with a header row, records of the header's length and trimmed fields promises
about each record after the header (`Csv.Reader.Documented`): a record with another number of
fields than the header, or with a field that is not UTF-8, is an error, and any other record reads
as its fields, decoded and trimmed.

Once the header has a width and a height column, the first record that is an error ends the load
with that error, and the items of the rows before it are lost (`Sizes.load_of_columns`). A record
that reads as a row but whose width or height is no float is passed over. So the load succeeds
exactly when every record fits the header (`Csv.fits`), and then gives, in file order, one item for
each row whose two fields read as floats.

A file of a header and the rows `1,2` and `3` is refused for its second row
(`Sizes.load_short_row`), though its first row has an item.
-/

namespace Framing

namespace Csv

/-! ## What a reader promises -/

/-- Whether a record reads as a row of a header with `n` fields: it has `n` fields, each of them
UTF-8. -/
def fits (n : Nat) (raw : List (List UInt8)) : Bool :=
  raw.length == n && raw.all fun f => (Text.decodeUtf8 f).isOk

/-- The text of a trimmed field: the decoded field without blank characters at its ends. A field
that is not UTF-8 has no text; it gets the empty one. -/
def fieldText (f : List UInt8) : String :=
  match Text.decodeUtf8 f with
  | .ok s => Text.trimBlank s
  | .error _ => ""

/-- What a reader promises about a file whose header has `n` fields and whose later records, as
the reader cuts them, have the fields `raws`: one item for each of those records, in order, each
fixed by the three rules of its setting. -/
structure Reader.Documented (reader : Reader) (bytes : List UInt8) (n : Nat)
    (raws : List (List (List UInt8))) : Prop where
  /-- Records have the header's length: a record with another number of fields is an error. -/
  unequalLengths : List.Forall₂ (fun raw item => raw.length ≠ n → item.isOk = false)
    raws (reader.records bytes)
  /-- Records are text: a record with a field that is not UTF-8 is an error. -/
  invalidUtf8 : List.Forall₂
    (fun raw item => (raw.all fun f => (Text.decodeUtf8 f).isOk) = false → item.isOk = false)
    raws (reader.records bytes)
  /-- Fields are trimmed: any other record reads as the texts of its fields. -/
  trimmed : List.Forall₂ (fun raw item => fits n raw = true → item = .ok (raw.map fieldText))
    raws (reader.records bytes)

/-- A record that does not fit breaks one of the two rules that make a record an error. -/
theorem fits_eq_false {n : Nat} {raw : List (List UInt8)} (h : fits n raw = false) :
    raw.length ≠ n ∨ (raw.all fun f => (Text.decodeUtf8 f).isOk) = false := by
  unfold fits at h
  rw [Bool.and_eq_false_iff, beq_eq_false_iff_ne] at h
  exact h

variable {reader : Reader} {bytes : List UInt8} {n : Nat} {raws : List (List (List UInt8))}

/-- What a documented reader yields for one record after a header with `n` fields: the texts of
its fields when the record fits, an error when it does not. -/
def Yields (n : Nat) (raw : List (List UInt8)) (item : Except TableError (List String)) : Prop :=
  (fits n raw = true → item = .ok (raw.map fieldText)) ∧ (fits n raw = false → item.isOk = false)

/-- A record that does not fit is an error, whichever error the reader gives. -/
theorem Yields.exists_eq_error {raw : List (List UInt8)} {item : Except TableError (List String)}
    (h : Yields n raw item) (hf : fits n raw = false) : ∃ e, item = .error e := by
  cases item with
  | ok row => exact absurd (h.2 hf) (by simp [Except.isOk, Except.toBool])
  | error e => exact ⟨e, rfl⟩

/-- The three rules together, record by record. -/
theorem Reader.Documented.yields (laws : reader.Documented bytes n raws) :
    List.Forall₂ (Yields n) raws (reader.records bytes) := by
  have hL := List.forall₂_iff_zip.1 laws.unequalLengths
  have hU := List.forall₂_iff_zip.1 laws.invalidUtf8
  have hT := List.forall₂_iff_zip.1 laws.trimmed
  refine List.forall₂_iff_zip.2 ⟨hT.1, fun hmem => ⟨hT.2 hmem, fun hf => ?_⟩⟩
  -- a misfit has the wrong length or a field that is not UTF-8
  rcases fits_eq_false hf with hn | hutf
  · exact hL.2 hmem hn
  · exact hU.2 hmem hutf

end Csv

/-! ## The items of the records -/

namespace Sizes

section Items

variable {n width height : Nat}

/-- The items are read exactly when every record fits. -/
theorem items_isOk {raws : List (List (List UInt8))}
    {rs : List (Except Csv.TableError (List String))} (h : List.Forall₂ (Csv.Yields n) raws rs) :
    (items width height rs).isOk = raws.all (Csv.fits n) := by
  induction h with
  | nil => rfl
  | @cons raw item raws rs hitem _ ih =>
    cases hf : Csv.fits n raw with
    | true =>
      -- a fitting record is a row, and the rest decides
      rw [hitem.1 hf, List.all_cons, hf, Bool.true_and, ← ih]
      simp only [items]
      cases items width height rs <;> rfl
    | false =>
      -- a misfit is an error, which ends the items
      obtain ⟨e, rfl⟩ := hitem.exists_eq_error hf
      simp [items, hf, Except.isOk, Except.toBool]

/-- When every record fits, the items are those of the rows whose width and height read as
floats, in order. -/
theorem items_eq_of_fits {raws : List (List (List UInt8))}
    {rs : List (Except Csv.TableError (List String))} (h : List.Forall₂ (Csv.Yields n) raws rs)
    (hall : ∀ raw ∈ raws, Csv.fits n raw = true) :
    items width height rs =
      .ok (raws.filterMap fun raw => itemOf? width height (raw.map Csv.fieldText)) := by
  induction h with
  | nil => rfl
  | @cons raw item raws rs hitem _ ih =>
    have hf := hall raw (List.mem_cons_self ..)
    rw [hitem.1 hf, items, ih fun q hq => hall q (List.mem_cons_of_mem raw hq),
      List.filterMap_cons]
    cases itemOf? width height (raw.map Csv.fieldText) <;> rfl

/-- The first record that does not fit ends the items with the error the reader yields for it. -/
theorem items_eq_error {pre post : List (List (List UInt8))} {raw : List (List UInt8)}
    {rs : List (Except Csv.TableError (List String))}
    (h : List.Forall₂ (Csv.Yields n) (pre ++ raw :: post) rs)
    (hpre : ∀ q ∈ pre, Csv.fits n q = true) (hraw : Csv.fits n raw = false) :
    ∃ e, rs[pre.length]? = some (.error e) ∧ items width height rs = .error e := by
  induction pre generalizing rs with
  | nil =>
    obtain ⟨item, rest, hitem, -, rfl⟩ := List.forall₂_cons_left_iff.1 h
    obtain ⟨e, rfl⟩ := hitem.exists_eq_error hraw
    exact ⟨e, rfl, rfl⟩
  | cons q pre ih =>
    obtain ⟨item, rest, hitem, hrest, rfl⟩ := List.forall₂_cons_left_iff.1 h
    have hq := hpre q (List.mem_cons_self ..)
    obtain ⟨e, hget, he⟩ := ih hrest fun q' hq' => hpre q' (List.mem_cons_of_mem q hq')
    refine ⟨e, hget, ?_⟩
    rw [hitem.1 hq, items, he]
    rfl

end Items

/-! ## The load -/

section Load

variable (reader : Csv.Reader) {bytes : List UInt8} {header : List String}
  {raws : List (List (List UInt8))} {width height : Nat}

/-- With a width and a height column, the load is the items of the records the reader yields. -/
theorem load_eq_of_columns (hhead : reader.headers bytes = .ok header)
    (hw : column? (header.map Text.lowercase) ["width", "w"] = some width)
    (hh : column? (header.map Text.lowercase) ["height", "h"] = some height) :
    load reader bytes = (items width height (reader.records bytes)).mapError .table := by
  simp only [load, hhead, Except.mapError, bind, Except.bind, hw, hh]

/-- A table with a width and a height column, read through a documented reader, loads exactly
when every record after the header fits it. The items are then, in file order, those of the rows
whose width and height read as floats; a row whose fields do not read is passed over. A record
that does not fit is no row to pass over: the first one ends the load with the error the reader
yields for it. -/
theorem load_of_columns (hhead : reader.headers bytes = .ok header)
    (hw : column? (header.map Text.lowercase) ["width", "w"] = some width)
    (hh : column? (header.map Text.lowercase) ["height", "h"] = some height)
    (laws : reader.Documented bytes header.length raws) :
    ((∃ rects, load reader bytes = .ok rects) ↔
        ∀ raw ∈ raws, Csv.fits header.length raw = true) ∧
      ((∀ raw ∈ raws, Csv.fits header.length raw = true) →
        load reader bytes =
          .ok (raws.filterMap fun raw => itemOf? width height (raw.map Csv.fieldText))) ∧
      (∀ pre raw post, raws = pre ++ raw :: post →
        (∀ q ∈ pre, Csv.fits header.length q = true) → Csv.fits header.length raw = false →
        ∃ e, (reader.records bytes)[pre.length]? = some (.error e) ∧
          load reader bytes = .error (.table e)) := by
  have hyields := laws.yields
  rw [load_eq_of_columns reader hhead hw hh]
  refine ⟨?_, ?_, ?_⟩
  · -- the load succeeds exactly when the items are read
    have hok : (items width height (reader.records bytes)).isOk =
        raws.all (Csv.fits header.length) := items_isOk hyields
    rw [← List.all_eq_true, ← hok]
    cases items width height (reader.records bytes) <;>
      simp [Except.mapError, Except.isOk, Except.toBool]
  · intro hall
    rw [items_eq_of_fits hyields hall]
    rfl
  · intro pre raw post hraws hpre hraw
    subst hraws
    obtain ⟨e, hget, he⟩ : ∃ e, (reader.records bytes)[pre.length]? = some (.error e) ∧
        items width height (reader.records bytes) = .error e := items_eq_error hyields hpre hraw
    exact ⟨e, hget, by rw [he]; rfl⟩

end Load

/-- A table whose second row has no float for its width, read by the program's reader: every
record fits, so the table loads, passing that row over. -/
theorem load_of_columns_unread_width :
    let bytes := "width,height\n1,2\nx,3\n".toUTF8.toList
    let raws := [["1", "2"], ["x", "3"]].map (·.map (·.toUTF8.toList))
    (Csv.byteReader.headers bytes = .ok ["width", "height"] ∧
        column? (["width", "height"].map Text.lowercase) ["width", "w"] = some 0 ∧
        column? (["width", "height"].map Text.lowercase) ["height", "h"] = some 1 ∧
        Csv.byteReader.Documented bytes ["width", "height"].length raws) ∧
      ((∃ rects, load Csv.byteReader bytes = .ok rects) ↔
          ∀ raw ∈ raws, Csv.fits ["width", "height"].length raw = true) ∧
        ((∀ raw ∈ raws, Csv.fits ["width", "height"].length raw = true) →
          load Csv.byteReader bytes =
            .ok (raws.filterMap fun raw => itemOf? 0 1 (raw.map Csv.fieldText))) ∧
        (∀ pre raw post, raws = pre ++ raw :: post →
          (∀ q ∈ pre, Csv.fits ["width", "height"].length q = true) →
          Csv.fits ["width", "height"].length raw = false →
          ∃ e, (Csv.byteReader.records bytes)[pre.length]? = some (.error e) ∧
            load Csv.byteReader bytes = .error (.table e)) := by
  intro bytes raws
  have h : Csv.byteReader.headers bytes = .ok ["width", "height"] ∧
      column? (["width", "height"].map Text.lowercase) ["width", "w"] = some 0 ∧
      column? (["width", "height"].map Text.lowercase) ["height", "h"] = some 1 ∧
      Csv.byteReader.Documented bytes ["width", "height"].length raws :=
    ⟨by decide +kernel, by decide +kernel, by decide +kernel,
      ⟨by decide +kernel, by decide +kernel, by decide +kernel⟩⟩
  exact ⟨h, load_of_columns Csv.byteReader h.1 h.2.1 h.2.2.1 h.2.2.2⟩

example : (load Csv.byteReader "width,height\n1,2\nx,3\n".toUTF8.toList).map List.length =
    .ok 1 := by
  decide +kernel

/-- A file whose second row has one field where the header has two is refused, with the error
of that row, and the item of its first row is lost. -/
theorem load_short_row :
    load Csv.byteReader "width,height\n1,2\n3\n".toUTF8.toList =
      .error (.table (.unequalLengths ⟨2, 3, 17⟩ 2 1)) := by
  -- items have no decidable equality, so the kernel checks the error case of the load
  have h : (match load Csv.byteReader "width,height\n1,2\n3\n".toUTF8.toList with
      | .error e => decide (e = .table (.unequalLengths ⟨2, 3, 17⟩ 2 1))
      | .ok _ => false) = true := by
    decide +kernel
  split at h
  · next e heq => rw [heq, of_decide_eq_true h]
  · cases h

end Sizes

end Framing
