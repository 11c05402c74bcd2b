import TagRights.Text.Lowercase
import TagRights.Text.Words

namespace TagRights.Text

/-- Some characters, none of them white space. -/
def IsWord (s : String) : Prop :=
  s ≠ "" ∧ ∀ c ∈ s.toList, isBlank c = false

instance (s : String) : Decidable (IsWord s) :=
  decidable_of_iff (s ≠ "" ∧ s.toList.all (!isBlank ·)) (by simp [IsWord])

theorem isWord_of_mem {s : String} {c : Char} (mem : c ∈ s.toList)
    (h : ∀ d ∈ s.toList, isBlank d = false) : IsWord s := by
  refine ⟨?_, h⟩
  rintro rfl
  simp at mem

theorem isWord_of_mem_words {s word : String} (h : word ∈ words s) : IsWord word :=
  not_isBlank_of_mem_words h

theorem words_empty : words "" = [] := rfl

theorem words_of_isWord {s : String} (h : IsWord s) : words s = [s] := by
  have nonempty : s.toList.isEmpty = false := by simpa using h.1
  simp [words, pieces_of_forall_not h.2, nonempty]

/-- Rendering words and reading them back. -/
theorem words_intercalate {ws : List String} (h : ∀ w ∈ ws, IsWord w) :
    words (" ".intercalate ws) = ws := by
  induction ws with
  | nil => rw [String.intercalate_nil, words_empty]
  | cons w ws ih =>
    have first := words_of_isWord (h w List.mem_cons_self)
    by_cases last : ws = []
    · rw [last, String.intercalate_singleton, first]
    · rw [String.intercalate_cons_of_ne_nil last, words_append_space, first,
        ih fun v hv => h v (List.mem_cons_of_mem _ hv)]
      rfl

/-- White space and the signs `!`, `|` and `+`. -/
def isReserved (c : Char) : Bool :=
  isBlank c || c == '!' || c == '|' || c == '+'

theorem isReserved_of_isBlank {c : Char} (h : isBlank c) : isReserved c := by
  simp [isReserved, h]

/-- Stretches of code points between the reserved characters. -/
def gaps : List (Nat × Nat) :=
  [(0x41, 0x7B), (0xA1, 0x167F), (0x1681, 0x1FFF), (0x2060, 0x2FFF), (0x3001, 0x10FFFF)]

theorem not_isReserved_of_gap {c : Char} {low high : Nat} (gap : (low, high) ∈ gaps)
    (above : low ≤ c.toNat) (below : c.toNat ≤ high) : isReserved c = false := by
  have signs : c.toNat ≠ '!'.toNat ∧ c.toNat ≠ '|'.toNat ∧ c.toNat ≠ '+'.toNat ∧
      isBlank c = false := by
    simp only [gaps, List.mem_cons, Prod.mk.injEq, List.not_mem_nil, or_false] at gap
    simp only [isBlank, Bool.or_eq_false_iff, Bool.and_eq_false_imp, decide_eq_true_eq,
      decide_eq_false_iff_not, beq_eq_false_iff_ne, Char.reduceToNat]
    omega
  obtain ⟨bang, bar, plus, blank⟩ := signs
  have other (d : Char) (h : c.toNat ≠ d.toNat) : (c == d) = false := by
    rw [beq_eq_false_iff_ne]
    rintro rfl
    exact h rfl
  simp [isReserved, blank, other _ bang, other _ bar, other _ plus]

/-- Whether the run of the row lies in a gap, and its images too. -/
def CaseRow.isApart (a : CaseRow) : Bool :=
  gaps.any (fun (low, high) => low ≤ a.first && a.last ≤ high) &&
    gaps.any (fun (low, high) => low ≤ a.image && a.lastImage ≤ high)

theorem caseRows_areApart : ∀ a ∈ caseRows, a.isApart := by decide +kernel

theorem CaseRow.not_isReserved {a : CaseRow} (h : a.isApart) {n : Nat} (hn : a.covers n) {c : Char}
    (hc : c.toNat = n ∨ c.toNat = a.image + (n - a.first)) : isReserved c = false := by
  obtain ⟨low, high, -⟩ := (a.covers_iff n).1 hn
  simp only [isApart, Bool.and_eq_true, List.any_eq_true, decide_eq_true_eq, Prod.exists] at h
  obtain ⟨⟨runLow, runHigh, run, above, below⟩, imageLow, imageHigh, image, above', below'⟩ := h
  rw [lastImage] at below'
  rcases hc with hc | hc
  · exact not_isReserved_of_gap run (by omega) (by omega)
  · exact not_isReserved_of_gap image (by omega) (by omega)

/-- Reserved characters are in lower case. -/
theorem isLower_of_isReserved {c : Char} (h : isReserved c) : IsLower c := by
  constructor
  · cases row : rowOf c.toNat caseRows with
    | none => rfl
    | some a =>
      obtain ⟨mem, covers⟩ := mem_of_rowOf row
      have other := CaseRow.not_isReserved (caseRows_areApart a mem) covers (.inl rfl)
      exact absurd h (Bool.eq_false_iff.1 other)
  · rintro rfl
    exact absurd h (by decide)

theorem eq_of_lowerChar_isReserved {c : Char} (h : isReserved (lowerChar c)) : lowerChar c = c := by
  cases row : rowOf c.toNat caseRows with
  | none => rw [lowerChar, row]
  | some a =>
    obtain ⟨mem, covers⟩ := mem_of_rowOf row
    have valid := (CaseRow.isValidChar_image covers (caseRows_giveChars a mem)).1
    have image : (lowerChar c).toNat = a.image + (c.toNat - a.first) := by
      simp only [lowerChar, row]
      rw [Char.ofNat, dif_pos valid]
      rfl
    have other := CaseRow.not_isReserved (caseRows_areApart a mem) covers (.inr image)
    exact absurd h (Bool.eq_false_iff.1 other)

/-- The lower case of a character holds a reserved one only if the character is that one. -/
theorem eq_of_mem_lowerAt {before : List Char} {c : Char} {after : List Char} {d : Char}
    (hd : isReserved d) (h : d ∈ lowerAt before c after) : c = d := by
  unfold lowerAt at h
  split at h
  · rw [List.mem_singleton] at h
    subst h
    split at hd <;> exact absurd hd (by decide)
  · split at h
    · have cases : d = 'i' ∨ d = '\u0307' := by simpa using h
      rcases cases with rfl | rfl <;> exact absurd hd (by decide)
    · rw [List.mem_singleton] at h
      subst h
      exact (eq_of_lowerChar_isReserved hd).symm

theorem lowerAt_ne_nil (before : List Char) (c : Char) (after : List Char) :
    lowerAt before c after ≠ [] := by
  unfold lowerAt
  split
  · simp
  · split <;> simp

theorem lowerFrom_eq_nil_iff {before cs : List Char} : lowerFrom before cs = [] ↔ cs = [] := by
  cases cs with
  | nil => simp [lowerFrom]
  | cons c after => simp [lowerFrom, lowerAt_ne_nil]

section

variable {d : Char} (hd : isReserved d)

include hd

theorem lowerAt_of_isReserved (before after : List Char) : lowerAt before d after = [d] :=
  lowerAt_of_isLower (isLower_of_isReserved hd) before after

theorem mem_lowerFrom_iff {before cs : List Char} : d ∈ lowerFrom before cs ↔ d ∈ cs := by
  induction cs generalizing before with
  | nil => simp [lowerFrom]
  | cons c after ih =>
    rw [lowerFrom, List.mem_append, ih, List.mem_cons]
    constructor
    · rintro (own | later)
      · exact .inl (eq_of_mem_lowerAt hd own).symm
      · exact .inr later
    · rintro (rfl | later)
      · left
        simp [lowerAt_of_isReserved hd]
      · exact .inr later

theorem head?_lowerFrom_iff {before cs : List Char} :
    (lowerFrom before cs).head? = some d ↔ cs.head? = some d := by
  cases cs with
  | nil => simp [lowerFrom]
  | cons c after =>
    obtain ⟨e, rest, image⟩ := List.exists_cons_of_ne_nil (lowerAt_ne_nil before c after)
    rw [lowerFrom, image, List.cons_append, List.head?_cons, List.head?_cons, Option.some.injEq,
      Option.some.injEq]
    constructor
    · rintro rfl
      exact eq_of_mem_lowerAt hd (image ▸ List.mem_cons_self)
    · rintro rfl
      rw [lowerAt_of_isReserved hd] at image
      exact (List.cons.inj image).1.symm

theorem getLast?_lowerFrom_iff {before cs : List Char} :
    (lowerFrom before cs).getLast? = some d ↔ cs.getLast? = some d := by
  -- From the front, since the lower case of a character depends on all that comes before it.
  induction cs generalizing before with
  | nil => simp [lowerFrom]
  | cons c after ih =>
    rw [lowerFrom, List.getLast?_append]
    by_cases last : after = []
    · subst last
      rw [lowerFrom, List.getLast?_nil, Option.none_or, List.getLast?_singleton, Option.some.injEq]
      constructor
      · intro own
        exact eq_of_mem_lowerAt hd (List.mem_of_getLast? own)
      · rintro rfl
        rw [lowerAt_of_isReserved hd, List.getLast?_singleton]
    · have more : lowerFrom (c :: before) after ≠ [] := by simpa [lowerFrom_eq_nil_iff] using last
      obtain ⟨e, he⟩ := Option.ne_none_iff_exists'.1 (mt List.getLast?_eq_none_iff.1 more)
      rw [he, Option.some_or, ← he, ih, List.getLast?_cons_of_ne_nil last]

/-- Lower case neither brings nor takes a reserved character. -/
theorem mem_lowercase_iff (s : String) : d ∈ (lowercase s).toList ↔ d ∈ s.toList := by
  rw [lowercase, String.toList_ofList, mem_lowerFrom_iff hd]

theorem head?_lowercase_iff (s : String) :
    (lowercase s).toList.head? = some d ↔ s.toList.head? = some d := by
  rw [lowercase, String.toList_ofList, head?_lowerFrom_iff hd]

theorem getLast?_lowercase_iff (s : String) :
    (lowercase s).toList.getLast? = some d ↔ s.toList.getLast? = some d := by
  rw [lowercase, String.toList_ofList, getLast?_lowerFrom_iff hd]

end

theorem lowercase_eq_empty_iff (s : String) : lowercase s = "" ↔ s = "" := by
  rw [← String.toList_eq_nil_iff, lowercase, String.toList_ofList, lowerFrom_eq_nil_iff,
    String.toList_eq_nil_iff]

/-- What a text has none of, its lower case has none of, as long as it is reserved. -/
theorem not_of_mem_lowercase {p : Char → Bool} (hp : ∀ c, p c → isReserved c) {s : String}
    (h : ∀ c ∈ s.toList, p c = false) {c : Char} (hc : c ∈ (lowercase s).toList) : p c = false := by
  rw [Bool.eq_false_iff]
  intro holds
  have before := (mem_lowercase_iff (hp c holds) s).1 hc
  exact absurd holds (Bool.eq_false_iff.1 (h c before))

theorem not_isBlank_of_mem_lowercase {s : String} (h : ∀ c ∈ s.toList, isBlank c = false) {c : Char}
    (hc : c ∈ (lowercase s).toList) : isBlank c = false :=
  not_of_mem_lowercase (fun _ => isReserved_of_isBlank) h hc

/-- The lower case of a word is a word. -/
theorem IsWord.lowercase {s : String} (h : IsWord s) : IsWord (lowercase s) :=
  ⟨mt (lowercase_eq_empty_iff s).1 h.1, fun _ hc => not_isBlank_of_mem_lowercase h.2 hc⟩

end TagRights.Text
