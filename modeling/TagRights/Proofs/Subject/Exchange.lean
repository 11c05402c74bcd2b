import TagRights.Command
import TagRights.Proofs.Json.RoundTrip
import TagRights.Proofs.Subject.Composition

namespace TagRights

open Text

theorem TagList.newline_not_mem_text {list : TagList} (h : list.OfWords) :
    '\n' ∉ list.text.toList := by
  intro mem
  have inside : '\n' ∈ ((String.singleton ' ').intercalate list.tags).toList := mem
  rcases mem_intercalate inside with space | ⟨word, hw, mem⟩
  · exact absurd space (by decide)
  · exact absurd ((h word hw).2 _ mem) (by decide)

namespace Registry

theorem newline_not_mem_tags_set {r : Registry} (hr : r.WordNames) (s : Subject) (e : String) :
    '\n' ∉ (r.set s e).tags.toList :=
  TagList.newline_not_mem_text (Working.ofWords_run hr (TagList.ofWords_ofText s.tags) _)

/-- Data that JSON text can hold exactly is read back from its text. -/
theorem ofText_text_obj {bag : DataBag} (exact : (Json.obj bag).IsExact)
    (shallow : (Json.obj bag).depth ≤ 127) : DataBag.ofText (Json.obj bag).text = .ok bag := by
  have read : Json.ofText? (Json.obj bag).text = some (.obj bag) := by
    rw [Json.ofText?_text exact]
    exact if_pos shallow
  rw [DataBag.ofText, read]

/-- The tags that an expression leaves and data that JSON text can hold exactly: printed, they are
two lines, and handed in again they are what they were, whatever comes next. -/
theorem setFrom_text (r : Registry) (hr : r.WordNames) (origin : Subject) (e₀ : String)
    (s : Subject) (tags : s.tags = (r.set origin e₀).tags) (exact : (Json.obj s.data).IsExact)
    (shallow : (Json.obj s.data).depth ≤ 127) :
    ∃ json, s.text = s.tags ++ "\n" ++ json ∧ s.text.toList.count '\n' = 1 ∧
      DataBag.ofText json = .ok s.data ∧
      ∀ (r' : Registry) (e : String), r'.setFrom s.tags e (some json) = .ok (r'.set s e) := by
  have first : '\n' ∉ s.tags.toList := tags ▸ newline_not_mem_tags_set hr origin e₀
  have second : '\n' ∉ (Json.obj s.data).text.toList := Json.newline_not_mem_text exact
  have read := ofText_text_obj exact shallow
  refine ⟨(Json.obj s.data).text, rfl, ?_, read, ?_⟩
  · rw [Subject.text, String.toList_append, String.toList_append, List.count_append,
      List.count_append, List.count_eq_zero.2 first, List.count_eq_zero.2 second]
    rfl
  · intro r' e
    simp only [setFrom, read]
    rfl

/-- Every escape, the ends of the whole numbers, empty containers and names outside ASCII. -/
def traveller : Subject where
  tags := "Nurse staff idle ärzt"
  data :=
    [("Ärzt", .arr [.int (-Decimal.twoPow 63), .int (Decimal.twoPow 64 - 1), .arr [], .null]),
     ("line\nfeed", .str "\"\\/\x08\x0c\n\r\t\x01\u2028é"),
     ("", .obj [("b", .bool true), ("a", .obj [])])]

theorem isExact_traveller : (Json.obj traveller.data).IsExact := by
  refine .obj (by decide +kernel) ?_
  simp only [traveller, List.forall_mem_cons, List.not_mem_nil, false_imp_iff, implies_true,
    and_true]
  refine ⟨.arr ?_, .str _, .obj (by decide +kernel) ?_⟩
  · simp only [List.forall_mem_cons, List.not_mem_nil, false_imp_iff, implies_true, and_true]
    exact ⟨.int (by decide) (by decide), .int (by decide) (by decide), .arr (by simp), .null⟩
  · simp only [List.forall_mem_cons, List.not_mem_nil, false_imp_iff, implies_true, and_true]
    exact ⟨.bool true, .obj .nil (by simp)⟩

theorem setFrom_text_traveller :
    clinic.WordNames ∧ traveller.tags = (clinic.set nurse handover).tags ∧
    (Json.obj traveller.data).IsExact ∧ (Json.obj traveller.data).depth ≤ 127 ∧
    ∃ json, traveller.text = "Nurse staff idle ärzt\n" ++ json ∧
      DataBag.ofText json = .ok traveller.data ∧
      watchedClinic.setFrom traveller.tags "!IDLE s" (some json) =
        .ok (watchedClinic.set traveller "!IDLE s") := by
  have names : clinic.WordNames := by decide +kernel
  have tags : traveller.tags = (clinic.set nurse handover).tags := by decide +kernel
  have shallow : (Json.obj traveller.data).depth ≤ 127 := by decide +kernel
  obtain ⟨json, text, -, read, next⟩ :=
    setFrom_text clinic names nurse handover traveller tags isExact_traveller shallow
  exact ⟨names, tags, isExact_traveller, shallow, json, text, read, next watchedClinic "!IDLE s"⟩

end Registry

end TagRights
