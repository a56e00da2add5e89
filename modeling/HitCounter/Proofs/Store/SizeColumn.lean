import HitCounter.Proofs.Hit.Size
import HitCounter.Proofs.Numeric.Shortest
import HitCounter.Store.Database

/-!
# The column of sizes

Sizes are stored as a text, each entry by its shortest digits. A page that sends this text, in a
body or in a query, sends the size that was stored (`sizeColumn_lossless`).
-/

namespace HitCounter

open Numeric (Double)
open Payload (JoinedText SizedBody SizedQuery)

variable {xs ys : List Double}

/-- The column holds the literals of its entries with nothing around them. -/
theorem joinedText_sizeColumn (xs : List Double) :
    JoinedText (xs.map (·.positional)) (sizeColumn xs).toList := by
  rw [sizeColumn, String.toList_ofList]
  refine .mk (List.forall₂_same.mpr fun literal _ => ?_)
  exact ⟨[], [], Text.isPadding_nil, Text.isPadding_nil, by simp⟩

/-- The column is read as the size that it was written for. -/
theorem sizeOfText_sizeColumn (h : ∀ x ∈ xs, x.isNaN = false) :
    sizeOfText (sizeColumn xs) = .ok xs := by
  have hvalues : List.Forall₂ (Numeric.FloatText .double) (xs.map (·.positional)) xs := by
    rw [List.forall₂_map_left_iff, List.forall₂_same]
    exact fun x hx => Numeric.Binary.floatText_positional (h x hx)
  exact Payload.sizeOfText_eq_ok_iff.mpr ((joinedText_sizeColumn xs).sizeText_of_values hvalues)

/-- **The column loses nothing.** If no entry of a size is a NaN, its column is read as the same
size, bit for bit: from the text itself, and from any body and any query that has this text for the
size beside other values. So different sizes have different columns. -/
theorem sizeColumn_lossless :
    (∀ xs : List Double, (∀ x ∈ xs, x.isNaN = false) →
      sizeOfText (sizeColumn xs) = .ok xs ∧
      ∀ p, (∀ v body, Json.StringText (sizeColumn xs).toList v → SizedBody v p body →
          Payload.ofJson body = .ok { p with size := some xs }) ∧
        ∀ query, SizedQuery (sizeColumn xs) p query →
          Payload.ofQuery query = .ok { p with size := some xs }) ∧
    ∀ xs ys : List Double, (∀ x ∈ xs, x.isNaN = false) → (∀ y ∈ ys, y.isNaN = false) →
      sizeColumn xs = sizeColumn ys → xs = ys := by
  constructor
  · intro xs hxs
    have hread := sizeOfText_sizeColumn hxs
    have hlaid : Payload.Entry.laid (.text .size (sizeColumn xs) (by decide)) =
        (.size, some { size := some xs }) := by
      rw [Payload.laid_text, hread]
      rfl
    exact ⟨hread, fun p => ⟨fun v body string sized =>
      sized.ofJson ((Payload.entry_string string).trans hlaid), fun query sized =>
      sized.ofQuery hlaid⟩⟩
  · intro xs ys hxs hys heq
    have hsame := sizeOfText_sizeColumn hxs
    rw [heq, sizeOfText_sizeColumn hys] at hsame
    exact (Except.ok.inj hsame).symm

/-- A whole number, a fraction that is not exact, infinity below zero, zero with a sign, and a great
number. -/
def storedSize : List Double :=
  [⟨false, 0x409E000000000000, by decide⟩, ⟨false, 0x3FB999999999999A, by decide⟩, .infinity true,
    ⟨true, 0, by decide⟩, ⟨false, 0x444B1AE4D6E2EF50, by decide⟩]

/-- The column of that size. -/
def storedColumn : String := "1920,0.1,-inf,-0,1000000000000000000000"

/-- It is read back from the column, from a body and from a query, and the sign at zero counts. -/
theorem sizeColumn_lossless_stored :
    (∀ x ∈ storedSize, x.isNaN = false) ∧ sizeColumn storedSize = storedColumn ∧
      sizeOfText storedColumn = .ok storedSize ∧
      Payload.ofJson (Text.encode (jsonRecord [("s", jsonText storedColumn)])) =
        .ok { size := some storedSize } ∧
      Payload.ofQuery (Text.encode ("s=".toList ++ storedColumn.toList)) =
        .ok { size := some storedSize } ∧
      (∀ x ∈ [Numeric.Binary.ofCode true 0, .ofCode false 0], (x : Double).isNaN = false) ∧
      sizeColumn [.ofCode true 0] ≠ sizeColumn [.ofCode false 0] := by
  have hcolumn : sizeColumn storedSize = storedColumn := by decide +kernel
  obtain ⟨hread, hinjective⟩ := sizeColumn_lossless
  obtain ⟨htext, hforms⟩ := hread storedSize (by decide)
  rw [hcolumn] at htext hforms
  obtain ⟨hbody, hquery⟩ := hforms {}
  have body : SizedBody (jsonText storedColumn) {}
      (Text.encode (jsonRecord [("s", jsonText storedColumn)])) := by
    have hvalue : Json.IsValue (jsonText storedColumn) :=
      .string (Json.stringText_jsonText storedColumn).isString
    have hrecord : Payload.ObjectText [⟨"s", jsonText storedColumn⟩]
        (Text.encode (jsonRecord [("s", jsonText storedColumn)])) :=
      Payload.objectText_jsonRecord (List.forall_mem_singleton.mpr hvalue)
    exact .mk (.inl rfl) (.refl _) (List.pairwise_singleton _ _) rfl hrecord
  have query : SizedQuery storedColumn {} (Text.encode ("s=".toList ++ storedColumn.toList)) := by
    have hplain (s : List Char) (h : 0x25 ∉ Text.encode s ∧ 0x26 ∉ Text.encode s ∧
        0x2B ∉ Text.encode s) : Http.FormBytes (Text.encode s) (Text.encode s) :=
      Http.formBytes_self h.1 h.2.1 h.2.2
    have hpair : Http.FormPair ("s".toList, storedColumn.toList)
        (Text.encode ("s=".toList ++ storedColumn.toList)) :=
      .mk (hplain "s".toList (by decide)) (hplain storedColumn.toList (by decide))
    have hwritten : Payload.QueryText [.text .size storedColumn (by decide)]
        (Text.encode ("s=".toList ++ storedColumn.toList)) :=
      @Payload.QueryText.mk _ [Text.encode ("s=".toList ++ storedColumn.toList)]
        (.cons ⟨"s", .inl rfl, hpair⟩ .nil)
    exact .mk (.refl _) (by decide) rfl hwritten
  refine ⟨by decide, hcolumn, htext, hbody _ _ (Json.stringText_jsonText storedColumn) body,
    hquery _ query, by decide, fun heq => ?_⟩
  have hsame := hinjective _ _ (by decide) (by decide) heq
  exact absurd hsame (by decide)

end HitCounter
