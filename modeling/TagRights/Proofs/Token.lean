import Mathlib
import TagRights.Pattern.Matching
import TagRights.Pattern.Reader
import TagRights.TagFile

namespace TagRights

namespace Place

variable {before : Option Char} {cs : List Char} {i : Nat} {p : Place}

theorem length_ofText : (ofText before cs).length = cs.length + 1 := by
  induction cs generalizing before with
  | nil => rfl
  | cons c cs ih => rw [ofText, List.length_cons, ih, List.length_cons]

theorem after_of_getElem? (hp : (ofText before cs)[i]? = some p) : p.after = cs[i]? := by
  induction cs generalizing before i with
  | nil =>
    cases i with
    | zero => rw [← Option.some.inj hp]; rfl
    | succ i => contradiction
  | cons c cs ih =>
    cases i with
    | zero => rw [← Option.some.inj hp]; rfl
    | succ i => exact ih hp

theorem before_of_getElem?_succ (hp : (ofText before cs)[i + 1]? = some p) :
    p.before = cs[i]? := by
  induction cs generalizing before i with
  | nil => contradiction
  | cons c cs ih =>
    cases i with
    | zero =>
      rw [ofText, List.getElem?_cons_succ] at hp
      cases cs <;> rw [← Option.some.inj hp] <;> rfl
    | succ i => exact ih hp

theorem exists_getElem?_ofText (inside : i ≤ cs.length) : ∃ p, (ofText before cs)[i]? = some p :=
  ⟨_, List.getElem?_eq_getElem (by rw [length_ofText]; omega)⟩

end Place

namespace Pattern

open Place (ofText)

/-- Whether the place with this number is in the set. -/
def Marked (marks : Marks) (i : Nat) : Prop :=
  marks[i]? = some true

variable {cs : List Char} {s : CharSet} {m n : Marks} {i : Nat}

theorem marked_zipWith_iff {places : List Place} {q : Place → Bool} :
    Marked (List.zipWith (fun p marked => marked && q p) places m) i ↔
      Marked m i ∧ ∃ p, places[i]? = some p ∧ q p := by
  rw [Marked, List.getElem?_zipWith_eq_some]
  constructor
  · intro h
    obtain ⟨p, marked, hp, hm, both⟩ := h
    rw [Bool.and_eq_true] at both
    exact ⟨by rw [Marked, hm, both.1], p, hp, both.2⟩
  · intro h
    obtain ⟨hm, p, hp, hq⟩ := h
    exact ⟨p, true, hp, hm, by rw [hq]; rfl⟩

theorem not_marked_zero_advance {places : List Place} : ¬Marked (advance places s m) 0 := by
  simp [Marked, advance]

/-- A character of the set takes its place to the next. -/
theorem marked_advance_iff {before : Option Char} :
    Marked (advance (ofText before cs) s m) (i + 1) ↔
      Marked m i ∧ ∃ c, cs[i]? = some c ∧ s.contains c := by
  have shifted : Marked (advance (ofText before cs) s m) (i + 1) ↔ Marked (List.zipWith
      (fun p marked => marked && p.after.any s.contains) (ofText before cs).dropLast m) i := by
    rw [Marked, advance, List.getElem?_cons_succ]
    rfl
  rw [shifted, marked_zipWith_iff, List.getElem?_dropLast, Place.length_ofText,
    Nat.add_sub_cancel]
  apply and_congr_right
  intro hm
  constructor
  · intro h
    obtain ⟨p, hp, taken⟩ := h
    split at hp
    · rw [Place.after_of_getElem? hp, Option.any_eq_true] at taken
      exact taken
    · contradiction
  · intro h
    obtain ⟨c, hc, member⟩ := h
    obtain ⟨inside, -⟩ := List.getElem?_eq_some_iff.1 hc
    obtain ⟨p, hp⟩ : ∃ p, (ofText before cs)[i]? = some p :=
      Place.exists_getElem?_ofText (Nat.le_of_lt inside)
    refine ⟨p, by rw [if_pos inside, hp], ?_⟩
    rw [Place.after_of_getElem? hp, hc]
    exact member

theorem length_advance (same : m.length = cs.length + 1) {before : Option Char} :
    (advance (ofText before cs) s m).length = cs.length + 1 := by
  rw [advance, List.length_cons, List.length_zipWith, List.length_dropLast, Place.length_ofText]
  omega

theorem marked_both_iff (same : m.length = n.length) :
    Marked (both m n) i ↔ Marked m i ∨ Marked n i := by
  rw [Marked, both, List.getElem?_zipWith_eq_some]
  constructor
  · intro h
    obtain ⟨x, y, hx, hy, either⟩ := h
    rcases Bool.or_eq_true_iff.1 either with rfl | rfl
    · exact .inl hx
    · exact .inr hy
  · intro h
    rcases h with hm | hn
    · obtain ⟨inside, -⟩ := List.getElem?_eq_some_iff.1 hm
      exact ⟨true, n[i], hm, List.getElem?_eq_getElem (same ▸ inside), Bool.true_or _⟩
    · obtain ⟨inside, -⟩ := List.getElem?_eq_some_iff.1 hn
      exact ⟨m[i], true, List.getElem?_eq_getElem (same ▸ inside), hn, Bool.or_true _⟩

/-- Whether the first characters, of which there are `i` and at least one, are all in the set. -/
def Spans (s : CharSet) (cs : List Char) (i : Nat) : Prop :=
  0 < i ∧ ∀ j < i, ∃ c, cs[j]? = some c ∧ s.contains c

theorem spans_succ_iff : Spans s cs (i + 1) ↔
    (i = 0 ∨ Spans s cs i) ∧ ∃ c, cs[i]? = some c ∧ s.contains c := by
  constructor
  · intro h
    refine ⟨?_, h.2 i (Nat.lt_succ_self i)⟩
    rcases Nat.eq_zero_or_pos i with zero | pos
    · exact .inl zero
    · exact .inr ⟨pos, fun j hj => h.2 j (Nat.lt_succ_of_lt hj)⟩
  · intro h
    refine ⟨Nat.succ_pos i, fun j hj => ?_⟩
    rcases Nat.lt_succ_iff_lt_or_eq.1 hj with before | rfl
    · rcases h.1 with rfl | shorter
      · omega
      · exact shorter.2 j before
    · exact h.2

section

variable {before : Option Char}

/-- A loop goes only where characters of the set lead. -/
theorem spans_of_marked_upTo {k : Nat} (same : m.length = cs.length + 1)
    (sound : ∀ j, Marked m j → Spans s cs j)
    (hi : Marked (upTo (advance (ofText before cs) s) k m) i) : Spans s cs i := by
  induction k generalizing m with
  | zero => exact sound i hi
  | succ k ih =>
    rw [upTo] at hi
    split at hi
    · exact sound i hi
    · have next : (advance (ofText before cs) s m).length = cs.length + 1 := length_advance same
      have all : m.length = (advance (ofText before cs) s m).length := same.trans next.symm
      refine ih ?_ ?_ hi
      · rw [both, List.length_zipWith, ← all, same, Nat.min_self]
      · intro j hj
        rcases (marked_both_iff all).1 hj with old | new
        · exact sound j old
        · cases j with
          | zero => exact absurd new not_marked_zero_advance
          | succ j =>
            obtain ⟨hj, member⟩ := marked_advance_iff.1 new
            exact spans_succ_iff.2 ⟨.inr (sound j hj), member⟩

/-- If no place is new, there is nothing further on either. -/
theorem marked_of_closed (same : m.length = cs.length + 1) (first : Spans s cs 1 → Marked m 1)
    (closed : both m (advance (ofText before cs) s m) = m) (hi : Spans s cs i) : Marked m i := by
  have all : m.length = (advance (ofText before cs) s m).length :=
    same.trans (length_advance same).symm
  induction i with
  | zero => exact absurd hi.1 (Nat.lt_irrefl 0)
  | succ i ih =>
    obtain ⟨shorter, member⟩ := spans_succ_iff.1 hi
    rcases shorter with rfl | shorter
    · exact first hi
    · rw [← closed, marked_both_iff all]
      exact .inr (marked_advance_iff.2 ⟨ih shorter, member⟩)

/-- A loop that may go on long enough goes wherever characters of the set lead. -/
theorem marked_upTo_of_spans {k least : Nat} (same : m.length = cs.length + 1) (pos : 0 < least)
    (complete : ∀ j ≤ least, Spans s cs j → Marked m j) (hi : Spans s cs i)
    (bound : i ≤ least + k) : Marked (upTo (advance (ofText before cs) s) k m) i := by
  induction k generalizing m least with
  | zero => exact complete i bound hi
  | succ k ih =>
    have next : (advance (ofText before cs) s m).length = cs.length + 1 := length_advance same
    have all : m.length = (advance (ofText before cs) s m).length := same.trans next.symm
    rw [upTo]
    split
    next closed => exact marked_of_closed same (complete 1 pos) closed hi
    next =>
      refine ih ?_ (Nat.succ_pos least) ?_ (by omega)
      · rw [both, List.length_zipWith, ← all, same, Nat.min_self]
      · intro j hj spans
        rw [marked_both_iff all]
        rcases Nat.lt_or_ge least j with new | old
        · have last : j = least + 1 := by omega
          subst last
          obtain ⟨shorter, member⟩ := spans_succ_iff.1 spans
          have inner : Spans s cs least := shorter.resolve_left (by omega)
          exact .inr (marked_advance_iff.2 ⟨complete least (Nat.le_refl least) inner, member⟩)
        · exact .inl (complete j old spans)

end

theorem any_id_iff : m.any id ↔ ∃ i, Marked m i := by
  rw [List.any_eq_true]
  constructor
  · intro h
    obtain ⟨marked, mem, rfl⟩ := h
    exact List.mem_iff_getElem?.1 mem
  · intro h
    obtain ⟨i, hi⟩ := h
    exact ⟨true, List.mem_of_getElem? hi, rfl⟩

theorem marked_textStart_iff : Marked (List.zipWith
    (fun p marked => marked && Assertion.textStart.holds p) (ofText none cs)
      ((ofText none cs).map fun _ => true)) i ↔ i = 0 := by
  rw [marked_zipWith_iff, Marked, List.getElem?_map, Option.map_eq_some_iff]
  constructor
  · intro h
    obtain ⟨-, p, hp, start⟩ := h
    cases i with
    | zero => rfl
    | succ i =>
      obtain ⟨inside, -⟩ := List.getElem?_eq_some_iff.1 hp
      rw [Place.length_ofText, Nat.succ_lt_succ_iff] at inside
      rw [Assertion.holds, Place.before_of_getElem?_succ hp,
        List.getElem?_eq_getElem inside] at start
      contradiction
  · intro h
    subst h
    cases cs with
    | nil => exact ⟨⟨_, rfl, rfl⟩, _, rfl, rfl⟩
    | cons c cs => exact ⟨⟨_, rfl, rfl⟩, _, rfl, rfl⟩

/-- Where the text ends. -/
theorem marked_textEnd_iff {before : Option Char} : Marked (List.zipWith
    (fun p marked => marked && Assertion.textEnd.holds p) (ofText before cs) m) i ↔
      Marked m i ∧ i = cs.length := by
  rw [marked_zipWith_iff]
  apply and_congr_right
  intro hm
  constructor
  · intro h
    obtain ⟨p, hp, stop⟩ := h
    obtain ⟨inside, -⟩ := List.getElem?_eq_some_iff.1 hp
    rw [Assertion.holds, Place.after_of_getElem? hp, Option.isNone_iff_eq_none,
      List.getElem?_eq_none_iff] at stop
    rw [Place.length_ofText] at inside
    omega
  · intro h
    obtain ⟨p, hp⟩ : ∃ p, (ofText before cs)[i]? = some p :=
      Place.exists_getElem?_ofText (Nat.le_of_eq h)
    refine ⟨p, hp, ?_⟩
    rw [Assertion.holds, Place.after_of_getElem? hp, List.getElem?_eq_none (Nat.le_of_eq h.symm)]
    rfl

theorem spans_length_iff : Spans s cs cs.length ↔ cs ≠ [] ∧ ∀ c ∈ cs, s.contains c := by
  rw [Spans, List.length_pos_iff]
  apply and_congr_right
  intro nonempty
  constructor
  · intro h c hc
    obtain ⟨j, inside, rfl⟩ := List.mem_iff_getElem.1 hc
    obtain ⟨d, hd, member⟩ := h j inside
    rw [List.getElem?_eq_getElem inside, Option.some.injEq] at hd
    rwa [hd]
  · intro h j inside
    exact ⟨cs[j], List.getElem?_eq_getElem inside, h _ (List.getElem_mem inside)⟩

/-- The whole text as one run of characters in `s`. -/
def wholeRun (s : CharSet) (bytes greedy : Bool) : Pattern :=
  seq (assertion .textStart) (seq (repeated (set s bytes) 1 none greedy) (assertion .textEnd))

theorem ends_wholeRun {bytes greedy : Bool} {before : Option Char} :
    let places := ofText before cs
    ends places false (wholeRun s bytes greedy) m =
      List.zipWith (fun p marked => marked && Assertion.textEnd.holds p) places
        (upTo (advance places s) places.length (advance places s
          (List.zipWith (fun p marked => marked && Assertion.textStart.holds p) places m))) := by
  intro places
  have once : min 1 places.length = 1 := by
    rw [Place.length_ofText]
    omega
  have first (start : Marks) : times (advance places s) 1 start = advance places s start := by
    rw [times]
    split
    next same => exact same.symm
    next => rfl
  simp only [wholeRun, ends, Bool.false_and, once]
  exact congrArg (fun m => List.zipWith _ places (upTo (advance places s) places.length m))
    (first _)

/-- A text matches if it has at least one character and all are in the set. -/
theorem occursIn_wholeRun_iff {bytes greedy : Bool} {text : String} :
    (wholeRun s bytes greedy).occursIn text ↔ text ≠ "" ∧ ∀ c ∈ text.toList, s.contains c := by
  let cs := text.toList
  let places := ofText none cs
  let first : Marks := advance places s (List.zipWith
    (fun p marked => marked && Assertion.textStart.holds p) places (places.map fun _ => true))
  have marked_first (j : Nat) : Marked first j ↔ j = 1 ∧ Spans s cs 1 := by
    cases j with
    | zero => simpa using not_marked_zero_advance
    | succ j =>
      rw [marked_advance_iff, marked_textStart_iff, spans_succ_iff, Nat.succ_inj]
      constructor
      · intro h
        obtain ⟨rfl, member⟩ := h
        exact ⟨rfl, .inl rfl, member⟩
      · intro h
        obtain ⟨rfl, -, member⟩ := h
        exact ⟨rfl, member⟩
  have length_first : first.length = cs.length + 1 := by
    apply length_advance
    rw [List.length_zipWith, List.length_map, Nat.min_self, Place.length_ofText]
  have reached : Marked (upTo (advance places s) places.length first) cs.length ↔
      Spans s cs cs.length := by
    constructor
    · intro h
      refine spans_of_marked_upTo length_first ?_ h
      intro j hj
      obtain ⟨rfl, spans⟩ := (marked_first j).1 hj
      exact spans
    · intro h
      refine marked_upTo_of_spans length_first Nat.one_pos ?_ h ?_
      · intro j hj spans
        have one : j = 1 := by have := spans.1; omega
        exact (marked_first j).2 ⟨one, one ▸ spans⟩
      · rw [Place.length_ofText]
        omega
  have nonempty : cs ≠ [] ↔ text ≠ "" := by simp [cs]
  calc (wholeRun s bytes greedy).occursIn text
      ↔ ∃ i, Marked (upTo (advance places s) places.length first) i ∧ i = cs.length := by
        rw [occursIn, ends_wholeRun, any_id_iff]
        simp only [marked_textEnd_iff]
        rfl
    _ ↔ Spans s cs cs.length := by simp only [exists_eq_right, reached]
    _ ↔ text ≠ "" ∧ ∀ c ∈ text.toList, s.contains c := by rw [spans_length_iff, nonempty]

end Pattern

namespace TagFile

/-- The pattern of names and codes. -/
def tokenPattern : String :=
  "^[^\\s!|+]+$"

/-- What is no white space and none of the three signs. -/
def tokenChars : CharSet :=
  ⟨[('\x00', '\x08'), ('\x0e', '\x1f'), ('"', '*'), (',', '\x7b'), ('\x7d', '\u0084'),
    ('\u0086', '\u009f'), ('\u00a1', '\u167f'), ('\u1681', '\u1fff'), ('\u200b', '\u2027'),
    ('\u202a', '\u202e'), ('\u2030', '\u205e'), ('\u2060', '\u2fff'),
    ('\u3001', CharSet.lastChar)]⟩

set_option maxRecDepth 20000 in
theorem ofText?_tokenPattern :
    Pattern.ofText? tokenPattern = some (Pattern.wholeRun tokenChars false true) := by
  cbv

theorem contains_tokenChars_iff {c : Char} : tokenChars.contains c ↔
    !Text.isBlank c && c != '!' && c != '|' && c != '+' := by
  have valid : c.toNat < 0x110000 := by
    rcases c.valid with low | high <;> simp only [Char.toNat] <;> omega
  have sign (d : Char) : c ≠ d ↔ c.toNat ≠ d.toNat := not_congr Char.toNat_inj.symm
  simp [tokenChars, CharSet.contains, CharSet.lastChar, Text.isBlank, Char.le_def,
    UInt32.le_iff_toNat_le, sign]
  omega

/-- Names and codes are told by their pattern. -/
theorem isToken_iff_occursIn {s : String} :
    isToken s ↔ ∃ p, Pattern.ofText? tokenPattern = some p ∧ p.occursIn s := by
  simp only [ofText?_tokenPattern, Option.some.injEq, exists_eq_left',
    Pattern.occursIn_wholeRun_iff, contains_tokenChars_iff]
  simp [isToken]

end TagFile

end TagRights
