import TagRights.Proofs.Text.Words

namespace TagRights.Text

theorem afterFirst?_eq_some_iff {c : Char} {s rest : String} :
    afterFirst? c s = some rest ↔ s.toList = c :: rest.toList := by
  rw [afterFirst?]
  cases chars : s.toList with
  | nil => simp
  | cons d ds =>
    have part : ds = rest.toList ↔ String.ofList ds = rest := by
      rw [← String.toList_inj, String.toList_ofList]
    by_cases sign : d = c <;> simp [sign, part]

theorem afterFirst?_bang (name : String) : afterFirst? '!' ("!" ++ name) = some name := by
  rw [afterFirst?_eq_some_iff]
  simp

theorem afterFirst?_eq_none_iff {c : Char} {s : String} :
    afterFirst? c s = none ↔ s.toList.head? ≠ some c := by
  rw [afterFirst?]
  cases chars : s.toList with
  | nil => simp
  | cons d ds => by_cases sign : d = c <;> simp [sign]

theorem beforeLast?_eq_some_iff {c : Char} {s front : String} :
    beforeLast? c s = some front ↔ s.toList = front.toList ++ [c] := by
  have back : s.toList = front.toList ++ [c] ↔ s.toList.reverse = c :: front.toList.reverse := by
    rw [List.reverse_eq_iff, List.reverse_cons, List.reverse_reverse]
  rw [back, beforeLast?]
  cases chars : s.toList.reverse with
  | nil => simp
  | cons d ds =>
    have part : ds = front.toList.reverse ↔ String.ofList ds.reverse = front := by
      rw [← String.toList_inj, String.toList_ofList, List.reverse_eq_iff]
    by_cases sign : d = c <;> simp [sign, part]

theorem beforeLast?_eq_none_iff {c : Char} {s : String} :
    beforeLast? c s = none ↔ s.toList.getLast? ≠ some c := by
  rw [← List.head?_reverse, beforeLast?]
  cases chars : s.toList.reverse with
  | nil => simp
  | cons d ds => by_cases sign : d = c <;> simp [sign]

theorem mem_of_mem_pieces {p : Char → Bool} {cs piece : List Char} (h : piece ∈ pieces p cs)
    {c : Char} (hc : c ∈ piece) : c ∈ cs := by
  induction cs generalizing piece with
  | nil => simp_all [pieces]
  | cons d cs ih =>
    rw [pieces] at h
    split at h
    · rcases List.mem_cons.1 h with rfl | h
      · simp at hc
      · exact List.mem_cons_of_mem _ (ih h hc)
    · split at h
      next none => exact absurd none (pieces_ne_nil p cs)
      next first rest split =>
        rw [split] at ih
        rcases List.mem_cons.1 h with rfl | h
        · rcases List.mem_cons.1 hc with rfl | hc
          · exact List.mem_cons_self
          · exact List.mem_cons_of_mem _ (ih List.mem_cons_self hc)
        · exact List.mem_cons_of_mem _ (ih (List.mem_cons_of_mem _ h) hc)

theorem two_le_length_pieces {p : Char → Bool} {cs : List Char} {c : Char} (hc : c ∈ cs)
    (h : p c) : 2 ≤ (pieces p cs).length := by
  obtain ⟨front, rest, rfl⟩ := List.append_of_mem hc
  have left := List.length_pos_iff.2 (pieces_ne_nil p front)
  have right := List.length_pos_iff.2 (pieces_ne_nil p rest)
  rw [pieces_append_cons h, List.length_append]
  omega

section

variable {separator : Char}

theorem mem_of_mem_splitAt {s part : String} (h : part ∈ splitAt separator s) {c : Char}
    (hc : c ∈ part.toList) : c ∈ s.toList ∧ c ≠ separator := by
  obtain ⟨piece, hp, rfl⟩ := List.mem_map.1 h
  rw [String.toList_ofList] at hc
  exact ⟨mem_of_mem_pieces hp hc, by simpa using not_of_mem_pieces hp c hc⟩

theorem two_le_length_splitAt {s : String} (h : separator ∈ s.toList) :
    2 ≤ (splitAt separator s).length := by
  rw [splitAt, List.length_map]
  exact two_le_length_pieces h (by simp)

theorem splitAt_of_not_mem {s : String} (h : separator ∉ s.toList) : splitAt separator s = [s] := by
  have apart : ∀ c ∈ s.toList, (c == separator) = false := by
    intro c hc
    rw [beq_eq_false_iff_ne]
    rintro rfl
    exact h hc
  rw [splitAt, pieces_of_forall_not apart, List.map_singleton, String.ofList_toList]

/-- A separator between two texts keeps their parts apart. -/
theorem splitAt_append_separator (a b : String) :
    splitAt separator (a ++ String.singleton separator ++ b) =
      splitAt separator a ++ splitAt separator b := by
  have chars : (a ++ String.singleton separator ++ b).toList =
      a.toList ++ separator :: b.toList := by simp
  rw [splitAt, chars, pieces_append_cons (by simp), List.map_append]
  rfl

/-- Joining parts and splitting them again. -/
theorem splitAt_intercalate {parts : List String} (nonempty : parts ≠ [])
    (h : ∀ part ∈ parts, separator ∉ part.toList) :
    splitAt separator ((String.singleton separator).intercalate parts) = parts := by
  induction parts with
  | nil => exact absurd rfl nonempty
  | cons part parts ih =>
    have first := splitAt_of_not_mem (h part List.mem_cons_self)
    by_cases last : parts = []
    · rw [last, String.intercalate_singleton, first]
    · rw [String.intercalate_cons_of_ne_nil last, splitAt_append_separator, first,
        ih last fun p hp => h p (List.mem_cons_of_mem _ hp)]
      rfl

theorem separator_mem_intercalate {parts : List String} (many : 2 ≤ parts.length) :
    separator ∈ ((String.singleton separator).intercalate parts).toList := by
  match parts, many with
  | a :: b :: rest, _ => simp [String.intercalate_cons_cons]

theorem mem_intercalate {parts : List String} {c : Char}
    (h : c ∈ ((String.singleton separator).intercalate parts).toList) :
    c = separator ∨ ∃ part ∈ parts, c ∈ part.toList := by
  induction parts with
  | nil => simp at h
  | cons part parts ih =>
    by_cases last : parts = []
    · rw [last, String.intercalate_singleton] at h
      exact .inr ⟨part, List.mem_cons_self, h⟩
    · rw [String.intercalate_cons_of_ne_nil last, String.toList_append, String.toList_append,
        String.toList_singleton, List.mem_append, List.mem_append, List.mem_singleton] at h
      rcases h with (first | own) | later
      · exact .inr ⟨part, List.mem_cons_self, first⟩
      · exact .inl own
      · rcases ih later with own | ⟨other, mem, hc⟩
        · exact .inl own
        · exact .inr ⟨other, List.mem_cons_of_mem _ mem, hc⟩

theorem isWord_intercalate {parts : List String} (visible : isBlank separator = false)
    (many : 2 ≤ parts.length) (h : ∀ part ∈ parts, ∀ c ∈ part.toList, isBlank c = false) :
    IsWord ((String.singleton separator).intercalate parts) := by
  apply isWord_of_mem (separator_mem_intercalate many)
  intro c hc
  rcases mem_intercalate hc with rfl | ⟨part, mem, hc⟩
  · exact visible
  · exact h part mem c hc

end

end TagRights.Text
