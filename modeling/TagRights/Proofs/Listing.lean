import Mathlib.Data.List.Forall2
import Std.Data.String.ToNat
import TagRights.Command
import TagRights.Proofs.Text.Layout

namespace TagRights

open Text

namespace Listing

section

variable {column : List String}

theorem columnWidth_cons (s : String) (column : List String) :
    columnWidth (s :: column) = max s.utf8ByteSize (columnWidth column) := rfl

/-- A column is as wide as its longest text in bytes. -/
theorem columnWidth_le_iff {width : Nat} :
    columnWidth column ≤ width ↔ ∀ s ∈ column, s.utf8ByteSize ≤ width := by
  induction column with
  | nil => simp [columnWidth]
  | cons s column ih => rw [columnWidth_cons, Nat.max_le, ih, List.forall_mem_cons]

theorem columnWidth_mem (nonempty : column ≠ []) :
    columnWidth column ∈ column.map (·.utf8ByteSize) := by
  induction column with
  | nil => exact absurd rfl nonempty
  | cons s column ih =>
    rw [columnWidth_cons, List.map_cons, List.mem_cons]
    by_cases last : column = []
    · exact .inl (by simp [last, columnWidth])
    · rcases Nat.le_total (columnWidth column) s.utf8ByteSize with first | later
      · exact .inl (Nat.max_eq_left first)
      · exact .inr (by rw [Nat.max_eq_right later]; exact ih last)

theorem max?_eq_columnWidth (nonempty : column ≠ []) :
    (column.map (·.utf8ByteSize)).max? = some (columnWidth column) := by
  rw [List.max?_eq_some_iff, List.forall_mem_map]
  exact ⟨columnWidth_mem nonempty, columnWidth_le_iff.1 (Nat.le_refl _)⟩

theorem length_le_columnWidth {s : String} (h : s ∈ column) : s.length ≤ columnWidth column :=
  (length_le_utf8ByteSize s).trans (columnWidth_le_iff.1 (Nat.le_refl _) s h)

end

theorem fits_iff {tags : List Tag} : fits tags ↔
    ∀ t ∈ tags, t.name.utf8ByteSize ≤ maxWidth ∧ t.code.utf8ByteSize ≤ maxWidth := by
  rw [fits, Bool.and_eq_true, decide_eq_true_eq, decide_eq_true_eq, columnWidth_le_iff,
    columnWidth_le_iff, List.forall_mem_map, List.forall_mem_map, forall₂_and]

/-- The line begins with the name of the tag, has its code at one column and its level at another,
and has only spaces in between. -/
def Shows (codeColumn levelColumn : Nat) (t : Tag) (line : String) : Prop :=
  ∃ gap gap', line = t.name ++ spaces gap ++ t.code ++ spaces gap' ++ toString t.level ∧
    (t.name ++ spaces gap).length = codeColumn ∧
    (t.name ++ spaces gap ++ t.code ++ spaces gap').length = levelColumn

/-- A row without its line end. -/
def line (nameWidth codeWidth : Nat) (t : Tag) : String :=
  padded nameWidth t.name ++ "  " ++ padded codeWidth t.code ++ "  " ++ toString t.level

section

variable {nameWidth codeWidth : Nat} {t : Tag}

theorem padded_append_gap (width : Nat) (s : String) :
    padded width s ++ "  " = s ++ spaces (width - s.length + 2) := by
  rw [← spaces_append, ← String.append_assoc]
  rfl

theorem line_eq (nameWidth codeWidth : Nat) (t : Tag) : line nameWidth codeWidth t =
    t.name ++ spaces (nameWidth - t.name.length + 2) ++ t.code ++
      spaces (codeWidth - t.code.length + 2) ++ toString t.level := by
  have joined : line nameWidth codeWidth t =
      padded nameWidth t.name ++ "  " ++ (padded codeWidth t.code ++ "  ") ++ toString t.level := by
    simp only [line, String.append_assoc]
  rw [joined, padded_append_gap, padded_append_gap, ← String.append_assoc]

/-- Columns that are wide enough begin where they are said to. -/
theorem shows_line (name : t.name.length ≤ nameWidth) (code : t.code.length ≤ codeWidth) :
    Shows (nameWidth + 2) (nameWidth + codeWidth + 4) t (line nameWidth codeWidth t) := by
  refine ⟨_, _, line_eq nameWidth codeWidth t, ?_, ?_⟩ <;>
    simp only [String.length_append, length_spaces] <;> omega

theorem words_line (name : IsWord t.name) (code : IsWord t.code) :
    words (line nameWidth codeWidth t) = [t.name, t.code, toString t.level] := by
  have fields : line nameWidth codeWidth t =
      t.name ++ spaces (nameWidth - t.name.length + 2) ++
        (t.code ++ spaces (codeWidth - t.code.length + 2) ++ toString t.level) := by
    simp only [line_eq, String.append_assoc]
  rw [fields, words_append_spaces name (by omega), words_append_spaces code (by omega),
    words_of_isWord (isWord_toString t.level)]

theorem newline_not_mem_line (name : IsWord t.name) (code : IsWord t.code) :
    '\n' ∉ (line nameWidth codeWidth t).toList := by
  simp only [line_eq, String.toList_append, List.mem_append, not_or]
  exact ⟨⟨⟨⟨name.newline_not_mem, newline_not_mem_spaces _⟩, code.newline_not_mem⟩,
    newline_not_mem_spaces _⟩, (isWord_toString _).newline_not_mem⟩

theorem endsVisibly_line : EndsVisibly (line nameWidth codeWidth t) :=
  (isWord_toString t.level).endsVisibly.append _

end

/-- The tag that has these fields: its name, its code and its level. -/
def fields? : List String → Option (String × String × Nat)
  | [name, code, level] => do return (name, code, ← level.toNat?)
  | _ => none

/-- The tags that a listing shows, one on each line. -/
def decode? (s : String) : Option (List (String × String × Nat)) :=
  (splitAt '\n' s).mapM fun line => fields? (words line)

theorem fields?_toString (t : Tag) :
    fields? [t.name, t.code, toString t.level] = some (t.name, t.code, t.level) := by
  have level : (toString t.level).toNat? = some t.level := Nat.toNat?_repr t.level
  rw [fields?, level]
  rfl

/-- The fields of all tags can be read off their lines. -/
theorem mapM_map_line {nameWidth codeWidth : Nat} {tags : List Tag}
    (named : ∀ t ∈ tags, IsWord t.name ∧ IsWord t.code) :
    (tags.map (line nameWidth codeWidth)).mapM (fun line => fields? (words line)) =
      some (tags.map fun t => (t.name, t.code, t.level)) := by
  induction tags with
  | nil => rfl
  | cons t tags ih =>
    obtain ⟨name, code⟩ := named t List.mem_cons_self
    rw [List.map_cons, List.mapM_cons, words_line name code, fields?_toString,
      ih fun u hu => named u (List.mem_cons_of_mem _ hu)]
    rfl

end Listing

open Listing

theorem listing_of_ne_nil {tags : List Tag} (nonempty : tags ≠ []) : listing tags =
    String.join ((tags.map (line (columnWidth (tags.map (·.name)))
      (columnWidth (tags.map (·.code))))).map (· ++ "\n")) := by
  rw [listing, if_neg (by simpa using nonempty), List.map_map]
  rfl

/-- Tags whose names and codes are words, none of them too long, are listed one on a line. Where the
longest name and the longest code have `N` and `C` bytes, each code begins after `N + 2` characters
and each level after `N + C + 4`. Trimming takes off the last line end alone, and from what is left
the tags are read back. -/
theorem listing?_aligned (tags : List Tag) (nonempty : tags ≠ [])
    (named : ∀ t ∈ tags, IsWord t.name ∧ IsWord t.code)
    (short : ∀ t ∈ tags, t.name.utf8ByteSize < 65536 ∧ t.code.utf8ByteSize < 65536) :
    ∃ N C lines text,
      (tags.map (·.name.utf8ByteSize)).max? = some N ∧
      (tags.map (·.code.utf8ByteSize)).max? = some C ∧
      listing? tags = some text ∧ text = String.join (lines.map (· ++ "\n")) ∧
      (∀ line ∈ lines, '\n' ∉ line.toList) ∧
      List.Forall₂ (fun t line => Shows (N + 2) (N + C + 4) t line ∧
        words line = [t.name, t.code, toString t.level]) tags lines ∧
      text = trimEnd text ++ "\n" ∧
      decode? (trimEnd text) = some (tags.map fun t => (t.name, t.code, t.level)) ∧
      ∀ r : Registry, r.tags = tags →
        Command.answer r .list = .ok { status := 0, output := text } := by
  have fits : fits tags := fits_iff.2 fun t ht =>
    ⟨Nat.le_of_lt_succ (short t ht).1, Nat.le_of_lt_succ (short t ht).2⟩
  have listed : listing? tags = some (listing tags) := if_pos fits
  let N := columnWidth (tags.map (·.name))
  let C := columnWidth (tags.map (·.code))
  let lines := tags.map (line N C)
  have present : lines ≠ [] := by simpa [lines] using nonempty
  have text : listing tags = "\n".intercalate lines ++ "\n" := by
    rw [listing_of_ne_nil nonempty, join_newlines present]
  have visible : EndsVisibly ("\n".intercalate lines) := by
    apply EndsVisibly.intercalate present
    rw [List.forall_mem_map]
    exact fun t _ => endsVisibly_line
  have trimmed : trimEnd (listing tags) = "\n".intercalate lines := by
    rw [text, trimEnd_append_newline visible]
  have apart : ∀ line ∈ lines, '\n' ∉ line.toList := by
    rw [List.forall_mem_map]
    exact fun t ht => newline_not_mem_line (named t ht).1 (named t ht).2
  refine ⟨N, C, lines, listing tags, ?_, ?_, listed, listing_of_ne_nil nonempty, apart, ?_, ?_, ?_,
    ?_⟩
  · rw [← max?_eq_columnWidth (by simpa using nonempty), List.map_map]
    rfl
  · rw [← max?_eq_columnWidth (by simpa using nonempty), List.map_map]
    rfl
  · rw [List.forall₂_map_right_iff, List.forall₂_same]
    intro t ht
    have name := length_le_columnWidth (List.mem_map_of_mem (f := (·.name)) ht)
    have code := length_le_columnWidth (List.mem_map_of_mem (f := (·.code)) ht)
    exact ⟨shows_line name code, words_line (named t ht).1 (named t ht).2⟩
  · rw [trimmed, text]
  · have split : splitAt '\n' ("\n".intercalate lines) = lines := splitAt_intercalate present apart
    rw [trimmed, decode?, split, mapM_map_line named]
  · rintro r rfl
    rw [Command.answer, listed]
    dsimp only
    rw [trimmed, Answer.line, ← text]

/-- Names and codes with fewer characters than bytes. The name with the most bytes is not the one
with the most characters. -/
def ward : List Tag :=
  [.ofDefinition { name := "Ärzt", code := "é" },
   .ofDefinition { name := "漢字漢字", code := "🧙", level := some 7 },
   .ofDefinition { name := "longername", code := "LN", level := some 4294967295 }]

theorem listing?_aligned_ward :
    ward ≠ [] ∧ (∀ t ∈ ward, IsWord t.name ∧ IsWord t.code) ∧
    (∀ t ∈ ward, t.name.utf8ByteSize < 65536 ∧ t.code.utf8ByteSize < 65536) ∧
    ∃ lines text, listing? ward = some text ∧ text = String.join (lines.map (· ++ "\n")) ∧
      List.Forall₂ (fun t line => Shows 14 20 t line) ward lines ∧
      decode? (trimEnd text) =
        some [("ärzt", "é", 0), ("漢字漢字", "🧙", 7), ("longername", "LN", 4294967295)] := by
  have nonempty : ward ≠ [] := List.cons_ne_nil _ _
  have named : ∀ t ∈ ward, IsWord t.name ∧ IsWord t.code := by decide +kernel
  have short : ∀ t ∈ ward, t.name.utf8ByteSize < 65536 ∧ t.code.utf8ByteSize < 65536 := by
    decide +kernel
  have longestName : (ward.map (·.name.utf8ByteSize)).max? = some 12 := by decide +kernel
  have longestCode : (ward.map (·.code.utf8ByteSize)).max? = some 4 := by decide +kernel
  obtain ⟨N, C, lines, text, hN, hC, listed, joined, -, shown, -, read, -⟩ :=
    listing?_aligned ward nonempty named short
  obtain rfl : N = 12 := Option.some.inj (hN.symm.trans longestName)
  obtain rfl : C = 4 := Option.some.inj (hC.symm.trans longestCode)
  refine ⟨nonempty, named, short, lines, text, listed, joined, shown.imp fun _ _ h => h.1, ?_⟩
  rw [read]
  decide +kernel

end TagRights
