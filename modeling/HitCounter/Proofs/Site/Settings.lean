import HitCounter.Proofs.Json.Written

/-!
# Settings read back

- **Members** (`Json.Shape.member_ofText`): a member under the name of a field that has not been
  given sets that field.
- **Settings** (`Settings.ofJson_toJson`): settings that were written as JSON are read as they were,
  whatever texts the list of ignored clients holds.
-/

namespace HitCounter

open Json (Node Spelling Written WrittenMember)

/-! ## Reading a record -/

namespace Json

/-- A member under the name of a field sets the field, unless it was given before. -/
theorem Shape.member_ofText {φ σ ε : Type} [DecidableEq φ] (r : Shape φ σ ε) {key : String} {f : φ}
    {n : Node} {x y : σ} {seen : List φ} (hf : r.field? key = some f) (hnew : f ∉ seen)
    (hset : r.set f n x = .ok y) :
    r.member (x, seen) (.ofText key.toList, n) = .ok (y, f :: seen) := by
  have hread : (Spelling.ofText key.toList).read.mapError r.fault = .ok key.toList := by
    rw [Spelling.read_ofText]
    rfl
  unfold Shape.member Shape.lift
  simp only [hread, bind, Except.bind, String.ofList_toList, hf, hnew, if_false, hset, pure,
    Except.pure]

/-- A list of written texts. -/
theorem Node.readList_texts (texts : List String) :
    Node.readList Node.readText (.list (texts.map fun t => .text (.ofText t.toList)) none) =
      .ok texts := by
  have hitem (t : String) : Node.readText (.text (.ofText t.toList)) = .ok t := by
    simp [Node.readText, Spelling.read_ofText, bind, Except.bind, pure, Except.pure]
  have hitems : (texts.map fun t => Node.text (.ofText t.toList)).mapM Node.readText =
      .ok texts := by
    induction texts with
    | nil => rfl
    | cons t texts ih =>
      rw [List.map_cons, List.mapM_cons, hitem, ih]
      rfl
  rw [Node.readList, hitems]
  rfl

end Json

/-! ## The values of settings -/

/-- The value as which the toggles are written. -/
def Collect.node (c : Collect) : Node :=
  .record
    [(.ofText "location".toList, .bool c.location),
     (.ofText "location_region".toList, .bool c.region),
     (.ofText "language".toList, .bool c.language)] none

/-- The value as which settings are written. -/
def Settings.node (s : Settings) : Node :=
  .record
    [(.ofText "ignore_ips".toList, .list (s.ignored.map fun t => .text (.ofText t.toList)) none),
     (.ofText "collect".toList, s.collect.node)] none

theorem Collect.written (c : Collect) : Written c.toJson c.node :=
  Json.written_record <|
    .cons ⟨rfl, Json.written_bool _⟩ <| .cons ⟨rfl, Json.written_bool _⟩ <|
      .cons ⟨rfl, Json.written_bool _⟩ .nil

theorem Settings.written (s : Settings) : Written s.toJson s.node := by
  have hignored : List.Forall₂ Written (s.ignored.map jsonText)
      (s.ignored.map fun t => .text (.ofText t.toList)) := by
    induction s.ignored with
    | nil => exact .nil
    | cons t texts ih => exact .cons (Json.written_text t) ih
  exact Json.written_record <|
    .cons ⟨rfl, Json.written_list hignored⟩ <| .cons ⟨rfl, s.collect.written⟩ .nil

/-- The toggles are read from their value, whatever they were before. -/
theorem Collect.shape_node (c d : Collect) : Collect.shape.ofNode d c.node = .ok c := by
  have hlocation : Collect.shape.member (d, []) (.ofText "location".toList, .bool c.location) =
      .ok (d.set .location c.location, [.location]) :=
    Collect.shape.member_ofText rfl (by decide) rfl
  have hregion (e : Collect) : Collect.shape.member (e, [.location])
      (.ofText "location_region".toList, .bool c.region) =
      .ok (e.set .region c.region, [.region, .location]) :=
    Collect.shape.member_ofText rfl (by decide) rfl
  have hlanguage (e : Collect) : Collect.shape.member (e, [.region, .location])
      (.ofText "language".toList, .bool c.language) =
      .ok (e.set .language c.language, [.language, .region, .location]) :=
    Collect.shape.member_ofText rfl (by decide) rfl
  simp only [Json.Shape.ofNode, Collect.node, List.foldlM_cons, List.foldlM_nil, bind, Except.bind,
    pure, Except.pure, hlocation, hregion, hlanguage]
  rfl

/-- Settings are read from their value, whatever they were before. -/
theorem Settings.shape_node (s d : Settings) : Settings.shape.ofNode d s.node = .ok s := by
  have hignored : Settings.shape.member (d, []) (.ofText "ignore_ips".toList,
      .list (s.ignored.map fun t => .text (.ofText t.toList)) none) =
      .ok ({ d with ignored := s.ignored }, [.ignored]) := by
    refine Settings.shape.member_ofText rfl (by decide) ?_
    simp only [Settings.shape, Json.Node.readList_texts, bind, Except.bind, pure, Except.pure]
  have hcollect : Settings.shape.member ({ d with ignored := s.ignored }, [.ignored])
      (.ofText "collect".toList, s.collect.node) = .ok (s, [.collect, .ignored]) := by
    refine Settings.shape.member_ofText rfl (by decide) ?_
    simp only [Settings.shape, Collect.shape_node, bind, Except.bind, pure, Except.pure]
  simp only [Json.Shape.ofNode, Settings.node, List.foldlM_cons, List.foldlM_nil, bind, Except.bind,
    pure, Except.pure, hignored, hcollect]

/-- **Settings read back** as they were written. -/
theorem Settings.ofJson_toJson (s : Settings) :
    Settings.ofJson (Text.encode s.toJson) = .ok s := by
  unfold Settings.ofJson Json.Shape.read
  rw [s.written.document]
  simp only [Settings.shape_node, bind, Except.bind, pure, Except.pure]
  rfl

end HitCounter
