import Mathlib.Data.String.Basic
import TagRights.Proofs.Text.Signs

namespace TagRights.Text

def spaces (n : Nat) : String :=
  String.ofList (List.replicate n ' ')

theorem length_spaces (n : Nat) : (spaces n).length = n := by
  rw [← String.length_toList, spaces, String.toList_ofList, List.length_replicate]

theorem spaces_succ (n : Nat) : spaces (n + 1) = " " ++ spaces n := by
  rw [spaces, List.replicate_succ, ← List.singleton_append, String.ofList_append]
  rfl

theorem spaces_append (m n : Nat) : spaces m ++ spaces n = spaces (m + n) := by
  rw [spaces, spaces, spaces, ← String.ofList_append, List.replicate_append_replicate]

/-- Spaces in front do not count among the words. -/
theorem words_spaces_append (n : Nat) (s : String) : words (spaces n ++ s) = words s := by
  induction n with
  | zero => rw [spaces, List.replicate_zero, String.ofList_nil, String.empty_append]
  | succ n ih =>
    have front : spaces (n + 1) ++ s = "" ++ " " ++ (spaces n ++ s) := by
      rw [spaces_succ, String.empty_append, String.append_assoc]
    rw [front, words_append_space, words_empty, List.nil_append, ih]

/-- A word ends where spaces begin. -/
theorem words_append_spaces {word : String} (h : IsWord word) {n : Nat} (apart : 0 < n)
    (s : String) : words (word ++ spaces n ++ s) = word :: words s := by
  obtain ⟨m, rfl⟩ := Nat.exists_eq_add_of_lt apart
  have front : word ++ spaces (0 + m + 1) ++ s = word ++ " " ++ (spaces (0 + m) ++ s) := by
    rw [spaces_succ, String.append_assoc, String.append_assoc, String.append_assoc]
  rw [front, words_append_space, words_of_isWord h, words_spaces_append]
  rfl

theorem newline_not_mem_spaces (n : Nat) : '\n' ∉ (spaces n).toList := by
  rw [spaces, String.toList_ofList, List.mem_replicate]
  rintro ⟨-, same⟩
  exact absurd same (by decide)

theorem IsWord.newline_not_mem {s : String} (h : IsWord s) : '\n' ∉ s.toList :=
  fun mem => absurd (h.2 _ mem) (by decide)

/-- A number is written as a word. -/
theorem isWord_toString (n : Nat) : IsWord (toString n) := by
  have digits : (toString n).toList = Nat.toDigits 10 n := by
    rw [show toString n = n.repr from rfl, Nat.repr_eq_ofList_toDigits, String.toList_ofList]
  constructor
  · intro empty
    rw [empty] at digits
    exact Nat.toDigits_ne_nil digits.symm
  · intro c hc
    rw [digits] at hc
    have digit := Nat.isDigit_of_mem_toDigits (by decide) (by decide) hc
    simp only [Char.isDigit, Bool.and_eq_true, decide_eq_true_eq, UInt32.le_iff_toNat_le] at digit
    have range : 48 ≤ c.toNat ∧ c.toNat ≤ 57 := digit
    simp only [isBlank, Bool.or_eq_false_iff, Bool.and_eq_false_imp, decide_eq_true_eq,
      decide_eq_false_iff_not, beq_eq_false_iff_ne]
    omega

/-- A character takes at least one byte. -/
theorem length_le_utf8ByteSize (s : String) : s.length ≤ s.utf8ByteSize := by
  rw [← String.length_toList, ← String.utf8Len_toList]
  induction s.toList with
  | nil => exact Nat.le_refl 0
  | cons c cs ih =>
    have positive := c.utf8Size_pos
    rw [List.length_cons, String.utf8Len_cons]
    omega

/-- The text has a last character, and that is no white space. -/
def EndsVisibly (s : String) : Prop :=
  ∃ c, s.toList.getLast? = some c ∧ isBlank c = false

theorem IsWord.endsVisibly {s : String} (h : IsWord s) : EndsVisibly s := by
  have nonempty : s.toList ≠ [] := mt String.toList_eq_nil_iff.1 h.1
  exact ⟨_, List.getLast?_eq_some_getLast nonempty, h.2 _ (List.getLast_mem nonempty)⟩

theorem EndsVisibly.append {b : String} (h : EndsVisibly b) (a : String) :
    EndsVisibly (a ++ b) := by
  obtain ⟨c, last, visible⟩ := h
  exact ⟨c, by rw [String.toList_append, List.getLast?_append, last, Option.some_or], visible⟩

theorem EndsVisibly.intercalate {lines : List String} (nonempty : lines ≠ []) (separator : String)
    (h : ∀ line ∈ lines, EndsVisibly line) : EndsVisibly (separator.intercalate lines) := by
  induction lines with
  | nil => exact absurd rfl nonempty
  | cons line lines ih =>
    by_cases last : lines = []
    · rw [last, String.intercalate_singleton]
      exact h line List.mem_cons_self
    · rw [String.intercalate_cons_of_ne_nil last]
      exact (ih last fun l hl => h l (List.mem_cons_of_mem _ hl)).append _

/-- Trimming takes off a line feed and nothing else where the text ends visibly. -/
theorem trimEnd_append_newline {s : String} (h : EndsVisibly s) : trimEnd (s ++ "\n") = s := by
  obtain ⟨c, last, visible⟩ := h
  obtain ⟨front, chars⟩ := List.getLast?_eq_some_iff.1 last
  have reversed : (s ++ "\n").toList.reverse = '\n' :: c :: front.reverse := by
    rw [String.toList_append, chars]
    simp
  rw [trimEnd, reversed, List.dropWhile_cons_of_pos rfl,
    List.dropWhile_cons_of_neg (by simp [visible]), ← List.reverse_concat, List.reverse_reverse,
    ← chars, String.ofList_toList]

/-- Line ends after the lines are line ends between them and one more. -/
theorem join_newlines {lines : List String} (nonempty : lines ≠ []) :
    String.join (lines.map (· ++ "\n")) = "\n".intercalate lines ++ "\n" := by
  induction lines with
  | nil => exact absurd rfl nonempty
  | cons line lines ih =>
    rw [List.map_cons, String.join_cons]
    by_cases last : lines = []
    · rw [last, List.map_nil, String.join_nil, String.intercalate_singleton, String.append_empty]
    · rw [ih last, String.intercalate_cons_of_ne_nil last, ← String.append_assoc]

end TagRights.Text
