import Mathlib.Data.List.Nodup
import TagRights.Proofs.TagList

namespace TagRights.TagList

open Text

inductive Edit where
  | insert (name : String)
  | remove (name : String)

/-- What is inserted can stand in a tag list. Anything may be removed. -/
def Edit.InsertsWord : Edit → Prop
  | insert name => IsWord name
  | remove _ => True

instance (e : Edit) : Decidable e.InsertsWord :=
  match e with
  | .insert name => inferInstanceAs (Decidable (IsWord name))
  | .remove _ => inferInstanceAs (Decidable True)

def edit (list : TagList) : Edit → TagList
  | .insert name => list.insert name
  | .remove name => list.remove name

variable {list : TagList} {name : String}

theorem OfWords.edit (h : list.OfWords) {e : Edit} (he : e.InsertsWord) :
    (list.edit e).OfWords := by
  cases e with
  | insert name => exact h.insert he
  | remove name => exact h.remove name

/-- Edits that insert words only keep a list to words. -/
theorem OfWords.foldl_edit (h : list.OfWords) {edits : List Edit}
    (he : ∀ e ∈ edits, e.InsertsWord) : (edits.foldl TagList.edit list).OfWords := by
  induction edits generalizing list with
  | nil => exact h
  | cons e edits ih =>
    exact ih (h.edit (he e List.mem_cons_self)) fun d hd => he d (List.mem_cons_of_mem _ hd)

theorem has_iff_exists : list.has name ↔ ∃ t ∈ list.tags, lowercase t = lowercase name := by
  rw [has_iff, List.mem_map]

theorem filter_of_forall_ne {tags : List String}
    (h : ∀ t ∈ tags, lowercase t ≠ lowercase name) : tags.filter (!sameName · name) = tags := by
  rw [List.filter_eq_self]
  intro t ht
  simpa [sameName] using h t ht

/-- Since no two tags are equal up to case, one that is removed is the only one. -/
theorem remove_of_append_cons {before after : List String} {t : String}
    (parts : list.tags = before ++ t :: after) (same : lowercase t = lowercase name) :
    (∀ u ∈ before ++ after, lowercase u ≠ lowercase name) ∧
      (list.remove name).tags = before ++ after := by
  have distinct := list.distinct
  rw [parts, List.map_append, List.map_cons, List.nodup_middle, ← List.map_append,
    List.nodup_cons] at distinct
  have others : ∀ u ∈ before ++ after, lowercase u ≠ lowercase name := by
    intro u hu eq
    exact distinct.1 (List.mem_map.2 ⟨u, hu, eq.trans same.symm⟩)
  have dropped : (before ++ t :: after).filter (!sameName · name) =
      (before ++ after).filter (!sameName · name) := by
    rw [List.filter_append, List.filter_append, List.filter_cons_of_neg (by simp [sameName, same])]
  refine ⟨others, ?_⟩
  rw [tags_remove, parts, dropped, filter_of_forall_ne others]

/-- Whatever is inserted and removed, no two tags of a list are equal up to case, each is a word,
and written out and read the list is the same again. So a tag that is inserted is there already and
stays as it is, or goes to the end, and a removal takes out one tag or none. -/
theorem edit_run (s : String) (edits : List Edit) (h : ∀ e ∈ edits, e.InsertsWord) :
    let list := edits.foldl edit (ofText s)
    (list.tags.map lowercase).Nodup ∧ (∀ t ∈ list.tags, IsWord t) ∧ ofText list.text = list ∧
    (∀ name, (∃ t ∈ list.tags, lowercase t = lowercase name) → list.insert name = list) ∧
    (∀ name, (∀ t ∈ list.tags, lowercase t ≠ lowercase name) →
      (list.insert name).tags = list.tags ++ [name]) ∧
    (∀ name, (∀ t ∈ list.tags, lowercase t ≠ lowercase name) → list.remove name = list) ∧
    ∀ name, (∃ t ∈ list.tags, lowercase t = lowercase name) →
      ∃ before t after, list.tags = before ++ t :: after ∧ lowercase t = lowercase name ∧
        (∀ u ∈ before ++ after, lowercase u ≠ lowercase name) ∧
        (list.remove name).tags = before ++ after := by
  intro list
  have wordy : list.OfWords := (ofWords_ofText s).foldl_edit h
  refine ⟨list.distinct, wordy, ofText_text wordy, ?_, ?_, ?_, ?_⟩
  · intro name held
    exact insert_of_has (has_iff_exists.2 held)
  · intro name new
    apply tags_insert_of_not_has
    rw [has_iff_exists]
    intro held
    obtain ⟨t, ht, same⟩ := held
    exact new t ht same
  · intro name absent
    ext1
    exact filter_of_forall_ne absent
  · intro name held
    obtain ⟨t, ht, same⟩ := held
    obtain ⟨before, after, parts⟩ := List.append_of_mem ht
    obtain ⟨others, rest⟩ := remove_of_append_cons parts same
    exact ⟨before, t, after, parts, same, others, rest⟩

/-- Spellings of one tag, and words that differ in more than case: a sigma at the end of a word has
a lower case of its own. -/
def shift : List Edit :=
  [.insert "ärzt", .remove "STRASSE", .insert "οδοσ", .insert "Idle", .remove " idle",
   .remove "ΟΔΟΣ", .insert "ΟΔΟΣ"]

def shifted : TagList :=
  ⟨["ÄRZT", "Straße", "οδοσ", "Idle", "ΟΔΟΣ"], by decide +kernel⟩

theorem edit_run_shift :
    (∀ e ∈ shift, e.InsertsWord) ∧
    shift.foldl edit (ofText "  ÄRZT Straße\tärzt οδος ") = shifted ∧
    ofText shifted.text = shifted ∧ shifted.insert "οδος" = shifted ∧
    ∃ before t after, shifted.tags = before ++ t :: after ∧ lowercase t = lowercase "IDLE" ∧
      (shifted.remove "IDLE").tags = before ++ after := by
  have sound : ∀ e ∈ shift, e.InsertsWord := by decide +kernel
  have final : shift.foldl edit (ofText "  ÄRZT Straße\tärzt οδος ") = shifted := by
    decide +kernel
  obtain ⟨-, -, again, held, -, -, removed⟩ := edit_run "  ÄRZT Straße\tärzt οδος " shift sound
  rw [final] at again held removed
  have same : ∃ t ∈ shifted.tags, lowercase t = lowercase "οδος" := ⟨"ΟΔΟΣ", by decide +kernel⟩
  have idle : ∃ t ∈ shifted.tags, lowercase t = lowercase "IDLE" := ⟨"Idle", by decide +kernel⟩
  obtain ⟨before, t, after, parts, own, -, rest⟩ := removed "IDLE" idle
  exact ⟨sound, final, again, held "οδος" same, before, t, after, parts, own, rest⟩

end TagRights.TagList
