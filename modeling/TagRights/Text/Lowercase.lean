import TagRights.Text.CaseMapping

namespace TagRights.Text

def CaseRow.covers (r : CaseRow) (n : Nat) : Bool :=
  r.first ≤ n && n ≤ r.last && (n - r.first) % r.step == 0

/-- The row that covers `n`, if there is one. The rows ascend, so the search ends at the first that
begins after `n`. -/
def rowOf (n : Nat) : List CaseRow → Option CaseRow
  | [] => none
  | r :: rest => if n < r.first then none else if r.covers n then some r else rowOf n rest

def lowerChar (c : Char) : Char :=
  match rowOf c.toNat caseRows with
  | some r => Char.ofNat (r.image + (c.toNat - r.first))
  | none => c

/-- Whether the first character that is not passed over has a case. -/
def meetsCased (cs : List Char) : Bool :=
  match cs.dropWhile isCaseIgnorable with
  | [] => false
  | c :: _ => isCased c

/-- The lower case of `c` between `before`, nearest first, and `after`. -/
def lowerAt (before : List Char) (c : Char) (after : List Char) : List Char :=
  if c = 'Σ' then [if meetsCased before && !meetsCased after then 'ς' else 'σ']
  else if c = 'İ' then ['i', '\u0307']
  else [lowerChar c]

def lowerFrom (before : List Char) : List Char → List Char
  | [] => []
  | c :: after => lowerAt before c after ++ lowerFrom (c :: before) after

/-- By the full Unicode mapping, which has two characters more than the rows: `İ` becomes two of
them, and the capital sigma becomes `ς` at the end of a word and `σ` elsewhere. -/
def lowercase (s : String) : String :=
  String.ofList (lowerFrom [] s.toList)

/-- Equality of names, which is blind to case. -/
def sameName (a b : String) : Bool :=
  lowercase a == lowercase b

@[simp] theorem sameName_iff {a b : String} : sameName a b = true ↔ lowercase a = lowercase b := by
  simp [sameName]

namespace CaseRow

/-- The image of the last code point that the row may cover. -/
def lastImage (a : CaseRow) : Nat := a.image + (a.last - a.first)

/-- Whether the images of `a` have no row among these, which `rowOf` looks through in this order. A
row whose run meets the run of images must go by twos and be a step off. -/
def settles (a : CaseRow) : List CaseRow → Bool
  | [] => true
  | b :: rest =>
    if a.lastImage < b.first then true
    else (b.last < a.image ||
      ((a.step == 2 || a.first == a.last) && b.step == 2 && (a.image + b.first) % 2 == 1)) &&
      a.settles rest

/-- Whether the images are characters, and none of them is `İ`. -/
def givesChars (a : CaseRow) : Bool :=
  (a.lastImage < 0x130 || 0x130 < a.image) &&
    (a.lastImage < 0xD800 || (0xDFFF < a.image && a.lastImage < 0x110000))

theorem covers_iff (a : CaseRow) (n : Nat) :
    a.covers n ↔ a.first ≤ n ∧ n ≤ a.last ∧ (n - a.first) % a.step = 0 := by
  simp [covers, and_assoc]

theorem rowOf_image {a : CaseRow} {n : Nat} (hn : a.covers n) {rows : List CaseRow}
    (h : a.settles rows) : rowOf (a.image + (n - a.first)) rows = none := by
  obtain ⟨low, high, steps⟩ := (a.covers_iff n).1 hn
  induction rows with
  | nil => rfl
  | cons b rest ih =>
    rw [settles] at h
    rw [rowOf]
    split at h
    next before =>
      rw [lastImage] at before
      rw [if_pos (by omega)]
    next =>
      simp only [Bool.and_eq_true, Bool.or_eq_true, decide_eq_true_eq, beq_iff_eq] at h
      have away : b.covers (a.image + (n - a.first)) = false := by
        rw [Bool.eq_false_iff, Ne, covers_iff]
        rintro ⟨low', high', steps'⟩
        rcases h.1 with past | ⟨⟨twos | single, twos'⟩, odd⟩
        · omega
        · rw [twos] at steps
          rw [twos'] at steps'
          omega
        · rw [twos'] at steps'
          omega
      simp [away, ih h.2]

theorem isValidChar_image {a : CaseRow} {n : Nat} (hn : a.covers n) (h : a.givesChars) :
    (a.image + (n - a.first)).isValidChar ∧ a.image + (n - a.first) ≠ 0x130 := by
  obtain ⟨low, high, -⟩ := (a.covers_iff n).1 hn
  simp only [givesChars, Bool.and_eq_true, Bool.or_eq_true, decide_eq_true_eq] at h
  rw [lastImage] at h
  constructor
  · unfold Nat.isValidChar
    omega
  · omega

end CaseRow

theorem caseRows_settle : ∀ a ∈ caseRows, a.settles caseRows := by decide +kernel

theorem caseRows_giveChars : ∀ a ∈ caseRows, a.givesChars := by decide +kernel

theorem mem_of_rowOf {n : Nat} {rows : List CaseRow} {a : CaseRow} (h : rowOf n rows = some a) :
    a ∈ rows ∧ a.covers n := by
  induction rows with
  | nil => simp [rowOf] at h
  | cons b rest ih =>
    rw [rowOf] at h
    split at h
    · simp at h
    · split at h
      next hb =>
        cases h
        exact ⟨List.mem_cons_self, hb⟩
      · exact ⟨List.mem_cons_of_mem _ (ih h).1, (ih h).2⟩

/-- A character that is its own lower case wherever it stands. -/
def IsLower (c : Char) : Prop :=
  rowOf c.toNat caseRows = none ∧ c ≠ 'İ'

instance (c : Char) : Decidable (IsLower c) := inferInstanceAs (Decidable (_ ∧ _))

theorem lowerAt_of_isLower {c : Char} (h : IsLower c) (before after : List Char) :
    lowerAt before c after = [c] := by
  have sigma : c ≠ 'Σ' := by
    rintro rfl
    exact absurd h (by decide +kernel)
  simp [lowerAt, lowerChar, sigma, h.1, h.2]

theorem isLower_lowerChar {c : Char} (h : c ≠ 'İ') : IsLower (lowerChar c) := by
  unfold lowerChar
  split
  next a ha =>
    obtain ⟨mem, covers⟩ := mem_of_rowOf ha
    obtain ⟨valid, dotted⟩ := CaseRow.isValidChar_image covers (caseRows_giveChars a mem)
    have value : (Char.ofNat (a.image + (c.toNat - a.first))).toNat =
        a.image + (c.toNat - a.first) := by
      rw [Char.ofNat, dif_pos valid]
      rfl
    refine ⟨by rw [value]; exact CaseRow.rowOf_image covers (caseRows_settle a mem), ?_⟩
    intro eq
    rw [eq] at value
    exact dotted value.symm
  next none => exact ⟨none, h⟩

theorem isLower_of_mem_lowerAt {before : List Char} {c : Char} {after : List Char} {d : Char}
    (h : d ∈ lowerAt before c after) : IsLower d := by
  unfold lowerAt at h
  split at h
  · rw [List.mem_singleton] at h
    subst h
    split <;> decide +kernel
  · split at h
    · have cases : d = 'i' ∨ d = '\u0307' := by simpa using h
      rcases cases with rfl | rfl <;> decide +kernel
    next dotted =>
      rw [List.mem_singleton] at h
      subst h
      exact isLower_lowerChar dotted

theorem isLower_of_mem_lowerFrom {before cs : List Char} {d : Char}
    (h : d ∈ lowerFrom before cs) : IsLower d := by
  induction cs generalizing before with
  | nil => simp [lowerFrom] at h
  | cons c after ih =>
    rw [lowerFrom, List.mem_append] at h
    rcases h with h | h
    · exact isLower_of_mem_lowerAt h
    · exact ih h

theorem lowerFrom_of_isLower {cs : List Char} (h : ∀ c ∈ cs, IsLower c) (before : List Char) :
    lowerFrom before cs = cs := by
  induction cs generalizing before with
  | nil => rfl
  | cons c after ih =>
    rw [lowerFrom, lowerAt_of_isLower (h c (by simp)), ih fun d hd => h d (by simp [hd])]
    rfl

@[simp] theorem lowercase_lowercase (s : String) : lowercase (lowercase s) = lowercase s := by
  have low : ∀ c ∈ (lowercase s).toList, IsLower c := by
    intro c hc
    rw [lowercase, String.toList_ofList] at hc
    exact isLower_of_mem_lowerFrom hc
  rw [lowercase, lowerFrom_of_isLower low, String.ofList_toList]

end TagRights.Text
