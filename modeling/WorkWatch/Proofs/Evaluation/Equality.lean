import WorkWatch.Evaluation.Comparison
import WorkWatch.Proofs.Json.Sorted

/-! Equality of documents with a literal. The text that is compared does not tell in which order the
members of an object were reported. -/

namespace WorkWatch

theorem equalsLiteral_arr (items : List Json) (literal : String) :
    equalsLiteral (.arr items) literal = ((Json.arr items).sorted.compact == literal) := rfl

theorem equalsLiteral_obj (members : List (String × Json)) (literal : String) :
    equalsLiteral (.obj members) literal = ((Json.obj members).sorted.compact == literal) := rfl

/-- Values that differ at most in the order of members, at any depth, equal the same literals. -/
theorem equalsLiteral_reordered {v w : Json} (h : v.Reordered w) (literal : String) :
    equalsLiteral v literal = equalsLiteral w literal := by
  have hsorted := h.sorted_eq
  cases h with
  | refl => rfl
  | arr => rw [equalsLiteral_arr, equalsLiteral_arr, hsorted]
  | obj => rw [equalsLiteral_obj, equalsLiteral_obj, hsorted]

/-- An object inside an array inside an object, with the members of both objects the other way
round. -/
theorem equalsLiteral_reordered_twice :
    (Json.obj [("b", .null), ("a", .arr [.int 0, .obj [("y", .int 2), ("x", .int 1)]])]).Reordered
        (.obj [("a", .arr [.int 0, .obj [("x", .int 1), ("y", .int 2)]]), ("b", .null)]) ∧
      equalsLiteral
          (.obj [("b", .null), ("a", .arr [.int 0, .obj [("y", .int 2), ("x", .int 1)]])])
          "\x7b\"a\":[0,\x7b\"x\":1,\"y\":2\x7d],\"b\":null\x7d" =
        equalsLiteral
          (.obj [("a", .arr [.int 0, .obj [("x", .int 1), ("y", .int 2)]]), ("b", .null)])
          "\x7b\"a\":[0,\x7b\"x\":1,\"y\":2\x7d],\"b\":null\x7d" := by
  have hinner : (Json.obj [("y", .int 2), ("x", .int 1)]).Reordered
      (.obj [("x", .int 1), ("y", .int 2)]) :=
    .obj (by decide) (.cons (.refl _) (.cons (.refl _) .nil)) (List.Perm.swap ..)
  have houter : (Json.obj
        [("b", .null), ("a", .arr [.int 0, .obj [("y", .int 2), ("x", .int 1)]])]).Reordered
      (.obj [("a", .arr [.int 0, .obj [("x", .int 1), ("y", .int 2)]]), ("b", .null)]) :=
    .obj (by decide)
      (.cons (.refl _) (.cons (.arr (.cons (.refl _) (.cons hinner .nil))) .nil))
      (List.Perm.swap ..)
  exact ⟨houter, equalsLiteral_reordered houter _⟩

end WorkWatch
