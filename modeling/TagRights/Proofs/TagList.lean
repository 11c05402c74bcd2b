import TagRights.Subject
import TagRights.Proofs.Text.Words

namespace TagRights.TagList

open Text

/-- Whether each tag can stand between white space. Not every name of a tag can. -/
def OfWords (list : TagList) : Prop :=
  ∀ t ∈ list.tags, IsWord t

variable {list : TagList} {name : String}

theorem insert_of_has (h : list.has name) : list.insert name = list :=
  dif_pos h

theorem tags_insert_of_not_has (h : ¬list.has name) :
    (list.insert name).tags = list.tags ++ [name] := by
  rw [insert, dif_neg h]

theorem tags_insert : (list.insert name).tags =
    if list.has name then list.tags else list.tags ++ [name] := by
  split
  next held => rw [insert_of_has held]
  next new => exact tags_insert_of_not_has new

theorem mem_insert {t : String} (h : t ∈ (list.insert name).tags) : t ∈ list.tags ∨ t = name := by
  by_cases held : list.has name
  · rw [insert_of_has held] at h
    exact .inl h
  · rw [tags_insert_of_not_has held, List.mem_append, List.mem_singleton] at h
    exact h

theorem lowercase_mem_insert (list : TagList) (name : String) :
    lowercase name ∈ (list.insert name).tags.map lowercase := by
  by_cases held : list.has name
  · rw [insert_of_has held, ← has_iff]
    exact held
  · rw [tags_insert_of_not_has held, List.map_append, List.map_singleton]
    exact List.mem_concat_self

theorem lowercase_not_mem_remove (list : TagList) (name : String) :
    lowercase name ∉ (list.remove name).tags.map lowercase := by
  simp [tags_remove, sameName]

theorem not_mem_remove (list : TagList) (name : String) : name ∉ (list.remove name).tags :=
  fun mem => lowercase_not_mem_remove list name (List.mem_map_of_mem mem)

/-- Only the lower case of what is removed counts. -/
theorem remove_congr {other : String} (h : lowercase name = lowercase other) (list : TagList) :
    list.remove name = list.remove other := by
  simp only [remove, sameName, h]

theorem remove_remove (list : TagList) (name : String) :
    (list.remove name).remove name = list.remove name := by
  ext1
  simp only [tags_remove, List.filter_filter, Bool.and_self]

theorem OfWords.empty : empty.OfWords :=
  List.forall_mem_nil _

theorem OfWords.insert (h : list.OfWords) (hn : IsWord name) : (list.insert name).OfWords := by
  intro t ht
  rcases mem_insert ht with old | rfl
  · exact h t old
  · exact hn

theorem OfWords.remove (h : list.OfWords) (name : String) : (list.remove name).OfWords :=
  fun t ht => h t (List.mem_filter.1 ht).1

theorem OfWords.foldl_insert {names : List String} (hn : ∀ t ∈ names, IsWord t)
    (h : list.OfWords) : (names.foldl TagList.insert list).OfWords := by
  induction names generalizing list with
  | nil => exact h
  | cons t names ih =>
    exact ih (fun u hu => hn u (List.mem_cons_of_mem _ hu)) (h.insert (hn t List.mem_cons_self))

theorem ofWords_ofText (s : String) : (ofText s).OfWords :=
  OfWords.empty.foldl_insert fun _ => isWord_of_mem_words

/-- The first tag of each lower case, with its spelling. -/
def firsts : List String → List String
  | [] => []
  | t :: ts => t :: (firsts ts).filter (!sameName · t)

theorem firsts_sublist (names : List String) : (firsts names).Sublist names := by
  induction names with
  | nil => exact .slnil
  | cons t names ih => exact (List.filter_sublist.trans ih).cons_cons t

theorem exists_mem_firsts {names : List String} {t : String} (h : t ∈ names) :
    ∃ u ∈ firsts names, lowercase u = lowercase t := by
  induction names with
  | nil => simp at h
  | cons v names ih =>
    by_cases first : lowercase t = lowercase v
    · exact ⟨v, List.mem_cons_self, first.symm⟩
    · have later : t ∈ names := (List.mem_cons.1 h).resolve_left fun eq => first (eq ▸ rfl)
      obtain ⟨u, hu, same⟩ := ih later
      refine ⟨u, List.mem_cons_of_mem _ (List.mem_filter.2 ⟨hu, ?_⟩), same⟩
      simpa [sameName, same] using first

/-- If no two are equal up to case, each is the first of its kind. -/
theorem firsts_of_nodup {names : List String} (h : (names.map lowercase).Nodup) :
    firsts names = names := by
  induction names with
  | nil => rfl
  | cons t names ih =>
    obtain ⟨new, distinct⟩ := List.nodup_cons.1 h
    have others : names.filter (!sameName · t) = names := by
      rw [List.filter_eq_self]
      intro u hu
      have apart : lowercase u ≠ lowercase t := fun same => new (same ▸ List.mem_map_of_mem hu)
      simpa [sameName] using apart
    rw [firsts, ih distinct, others]

/-- Of many names those come in that are the first of their kind and are not there. -/
theorem tags_foldl_insert (names : List String) (list : TagList) :
    (names.foldl insert list).tags = list.tags ++ (firsts names).filter (!list.has ·) := by
  induction names generalizing list with
  | nil => simp [firsts]
  | cons t names ih =>
    rw [List.foldl_cons, ih, firsts]
    by_cases held : list.has t
    · have dropped : (firsts names).filter (!list.has ·) =
          ((firsts names).filter (!sameName · t)).filter (!list.has ·) := by
        rw [List.filter_filter]
        apply List.filter_congr
        intro u _
        by_cases same : sameName u t
        · have : list.has u := by
            rw [has_iff, sameName_iff.1 same, ← has_iff]
            exact held
          simp [this]
        · simp [same]
      rw [insert_of_has held, List.filter_cons_of_neg (by simp [held]), dropped]
    · have kept : (firsts names).filter (!(list.insert t).has ·) =
          ((firsts names).filter (!sameName · t)).filter (!list.has ·) := by
        rw [List.filter_filter]
        apply List.filter_congr
        intro u _
        simp [has, tags_insert_of_not_has held, sameName, Bool.and_comm,
          BEq.comm (a := lowercase u)]
      rw [kept, tags_insert_of_not_has held, List.filter_cons_of_pos (by simp [held]),
        List.append_assoc]
      rfl

/-- A text is read by the first spelling of each tag. -/
theorem tags_ofText (s : String) : (ofText s).tags = firsts (words s) := by
  rw [ofText, tags_foldl_insert]
  exact List.filter_eq_self.2 fun _ _ => rfl

theorem words_text (h : list.OfWords) : words list.text = list.tags :=
  words_intercalate h

/-- A list of words can be written out and read back. -/
theorem ofText_text (h : list.OfWords) : ofText list.text = list := by
  ext1
  rw [tags_ofText, words_text h, firsts_of_nodup list.distinct]

end TagRights.TagList
