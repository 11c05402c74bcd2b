import TagRights.Proofs.Condition.Parsing
import TagRights.Proofs.Text.Words

namespace TagRights

open Text

/-- Writing values out and reading each of them. -/
theorem map_read_map_write {α : Type} {write : α → String} {read : String → α} {xs : List α}
    (h : ∀ x ∈ xs, read (write x) = x) : (xs.map write).map read = xs := by
  calc (xs.map write).map read
      = xs.map (read ∘ write) := List.map_map
    _ = xs.map id := List.map_congr_left h
    _ = xs := List.map_id xs

/-- Without white space and bars. -/
def IsPlain (s : String) : Prop :=
  ∀ c ∈ s.toList, isBlank c = false ∧ c ≠ '|'

theorem IsPlain.not_mem_bar {s : String} (h : IsPlain s) : '|' ∉ s.toList :=
  fun bar => (h '|' bar).2 rfl

theorem IsPlain.isWord {s : String} (h : IsPlain s) (nonempty : s ≠ "") : IsWord s :=
  ⟨nonempty, fun c hc => (h c hc).1⟩

/-- Lower case brings neither white space nor bars into a text. -/
theorem IsPlain.lowercase {s : String} (h : IsPlain s) : IsPlain (lowercase s) := by
  intro c hc
  refine ⟨not_isBlank_of_mem_lowercase (fun d hd => (h d hd).1) hc, ?_⟩
  rintro rfl
  exact h.not_mem_bar ((mem_lowercase_iff rfl s).1 hc)

theorem isPlain_bang_iff (name : String) : IsPlain ("!" ++ name) ↔ IsPlain name := by
  have sign : isBlank '!' = false ∧ '!' ≠ '|' := by decide
  have chars : ("!" ++ name).toList = '!' :: name.toList := by simp
  rw [IsPlain, chars, List.forall_mem_cons]
  exact and_iff_right sign

/-- A positive term must not begin with the sign of a negated one. -/
structure Term.Normal (t : Term) : Prop where
  lower : lowercase t.name = t.name
  plain : IsPlain t.name
  unsigned : t.negated = false → t.name.toList.head? ≠ some '!'

/-- Alternatives are two at least. A single term must not look like a threshold, nor vanish. -/
def Clause.Normal : Clause → Prop
  | anyOf terms => 2 ≤ terms.length ∧ ∀ t ∈ terms, t.Normal
  | atLeast base => IsPlain base
  | member t =>
    t.Normal ∧ t.name.toList.getLast? ≠ some '+' ∧ (t.negated = false → t.name ≠ "")

def Condition.Normal (c : Condition) : Prop :=
  ∀ clause ∈ c.clauses, clause.Normal

namespace Term

theorem normal_parse {token : String} (h : IsPlain token) : (parse token).Normal := by
  rcases parse_cases token with ⟨name, rfl, eq⟩ | ⟨head, eq⟩
  · rw [eq]
    have plain : IsPlain name := (isPlain_bang_iff name).1 h
    exact ⟨lowercase_lowercase name, plain.lowercase, by simp⟩
  · rw [eq]
    refine ⟨lowercase_lowercase token, h.lowercase, fun _ => ?_⟩
    exact mt (head?_lowercase_iff rfl token).1 head

/-- A test in normal form is written without white space and bars. -/
theorem isPlain_text {t : Term} (h : t.Normal) : IsPlain t.text := by
  rw [text]
  split
  · exact (isPlain_bang_iff t.name).2 h.plain
  · exact h.plain

theorem parse_text {t : Term} (h : t.Normal) : parse t.text = t := by
  obtain ⟨name, negated⟩ := t
  have lower : lowercase name = name := h.lower
  cases negated with
  | true =>
    have eq : text ⟨name, true⟩ = "!" ++ name := rfl
    rw [eq, parse_bang, lower]
  | false =>
    have eq : text ⟨name, false⟩ = name := rfl
    rw [eq, parse_of_head?_ne (h.unsigned rfl), lower]

theorem getLast?_text_iff (t : Term) :
    t.text.toList.getLast? = some '+' ↔ t.name.toList.getLast? = some '+' := by
  rw [text]
  split
  · exact getLast?_bang_iff t.name
  · rfl

end Term

namespace Clause

theorem normal_parse {token : String} (h : IsWord token) : (parse token).Normal := by
  rcases parse_cases token with ⟨bar, eq⟩ | ⟨base, ⟨bar, rfl⟩, eq⟩ | ⟨bar, plus, eq⟩
  · rw [eq]
    constructor
    · rw [List.length_map]
      exact two_le_length_splitAt bar
    · intro t ht
      obtain ⟨part, mem, rfl⟩ := List.mem_map.1 ht
      apply Term.normal_parse
      intro c hc
      obtain ⟨inside, other⟩ := mem_of_mem_splitAt mem hc
      exact ⟨h.2 c inside, other⟩
  · rw [eq]
    intro c hc
    have inside : c ∈ (base ++ "+").toList := by simp [hc]
    refine ⟨h.2 c inside, ?_⟩
    rintro rfl
    exact bar inside
  · rw [eq]
    have plain : IsPlain token := by
      intro c hc
      refine ⟨h.2 c hc, ?_⟩
      rintro rfl
      exact bar hc
    refine ⟨Term.normal_parse plain, ?_⟩
    rcases Term.parse_cases token with ⟨name, rfl, term⟩ | ⟨-, term⟩
    · rw [term]
      have last := mt (getLast?_bang_iff name).2 plus
      exact ⟨mt (getLast?_lowercase_iff rfl name).1 last, by simp⟩
    · rw [term]
      exact ⟨mt (getLast?_lowercase_iff rfl token).1 plus,
        fun _ => mt (lowercase_eq_empty_iff token).1 h.1⟩

theorem text_anyOf (terms : List Term) :
    text (.anyOf terms) = (String.singleton '|').intercalate (terms.map Term.text) := rfl

theorem isWord_text {c : Clause} (h : c.Normal) : IsWord c.text := by
  cases c with
  | anyOf terms =>
    obtain ⟨many, normal⟩ := h
    rw [text_anyOf]
    apply isWord_intercalate rfl (by rwa [List.length_map])
    intro part mem c hc
    obtain ⟨t, ht, rfl⟩ := List.mem_map.1 mem
    exact (Term.isPlain_text (normal t ht) c hc).1
  | atLeast base =>
    exact isWord_plus fun c hc => (h c hc).1
  | member t =>
    obtain ⟨normal, -, nonempty⟩ := h
    cases negated : t.negated with
    | true =>
      rw [text, Term.text, if_pos negated]
      exact isWord_bang fun c hc => (normal.plain c hc).1
    | false =>
      rw [text, Term.text, negated, if_neg Bool.false_ne_true]
      exact normal.plain.isWord (nonempty negated)

theorem parse_text {c : Clause} (h : c.Normal) : parse c.text = c := by
  cases c with
  | anyOf terms =>
    obtain ⟨many, normal⟩ := h
    have many : 2 ≤ (terms.map Term.text).length := by rwa [List.length_map]
    have plain : ∀ part ∈ terms.map Term.text, '|' ∉ part.toList := by
      intro part mem
      obtain ⟨t, ht, rfl⟩ := List.mem_map.1 mem
      exact (Term.isPlain_text (normal t ht)).not_mem_bar
    rw [text_anyOf, parse_intercalate many plain,
      map_read_map_write fun t ht => Term.parse_text (normal t ht)]
  | atLeast base =>
    have bar : '|' ∉ (base ++ "+").toList := by simpa using IsPlain.not_mem_bar h
    exact parse_of_isThreshold ⟨bar, rfl⟩
  | member t =>
    obtain ⟨normal, plus, -⟩ := h
    have bar := (Term.isPlain_text normal).not_mem_bar
    rw [text, parse_of_getLast?_ne bar (mt t.getLast?_text_iff.1 plus), Term.parse_text normal]

end Clause

namespace Condition

theorem normal_parse (s : String) : (parse s).Normal := by
  intro clause hc
  obtain ⟨token, mem, rfl⟩ := List.mem_map.1 hc
  exact Clause.normal_parse (isWord_of_mem_words mem)

theorem parse_text {c : Condition} (h : c.Normal) : parse c.text = c := by
  have tokens : words c.text = c.clauses.map Clause.text := by
    apply words_intercalate
    intro w hw
    obtain ⟨clause, mem, rfl⟩ := List.mem_map.1 hw
    exact Clause.isWord_text (h clause mem)
  rw [parse, tokens, map_read_map_write fun clause hc => Clause.parse_text (h clause hc)]

/-- Reading yields normal conditions, and of all conditions exactly these are read back as they were
when they are written out. -/
theorem parse_text_iff :
    (∀ s : String, (parse s).Normal) ∧
    (∀ c : Condition, parse c.text = c ↔ c.Normal) ∧
    ∀ s : String, parse (parse s).text = parse s := by
  refine ⟨normal_parse, fun c => ⟨?_, parse_text⟩, fun s => parse_text (normal_parse s)⟩
  intro same
  rw [← same]
  exact normal_parse c.text

example : (parse " Staff|!GHOST|  !+ !!X |+ ÄRZT+ ΟΔΟΣ ").text =
    "staff|!ghost| !+ !!x |+ ÄRZT+ οδος" := by decide +kernel

end Condition

end TagRights
