import Mathlib.Data.List.DropRight
import TagRights.Subject
import TagRights.Proofs.Text.Signs

namespace TagRights.Directive

/-- Whether the directive grants a tag of this name. -/
def grants (r : Registry) (k : String) : Directive → Bool
  | grant token => (r.find? token).any (·.name == k)
  | revoke _ => false

/-- Whether the directive revokes this key: as the name that is written there, or as that of the tag
that is meant. -/
def revokes (r : Registry) (k : String) : Directive → Bool
  | grant _ => false
  | revoke name => k == Text.lowercase name || (r.find? name).any (·.name == k)

/-- The directives after the last that revokes `k`, and all of them if none does. -/
def sinceRevoke (r : Registry) (k : String) (ds : List Directive) : List Directive :=
  ds.rtakeWhile (!·.revokes r k)

/-- Whether `k` is granted after its last revoke. -/
def gains (r : Registry) (k : String) (ds : List Directive) : Bool :=
  (sinceRevoke r k ds).any (·.grants r k)

/-- The place among the directives of the first grant of `k` after its last revoke. -/
def gainPlace (r : Registry) (k : String) (ds : List Directive) : Nat :=
  ds.length - (sinceRevoke r k ds).length + (sinceRevoke r k ds).findIdx (·.grants r k)

theorem parse_bang (name : String) : parse ("!" ++ name) = revoke name := by
  rw [parse, Text.afterFirst?_bang]

theorem parse_eq_grant_iff {token other : String} :
    parse token = grant other ↔ token = other ∧ token.toList.head? ≠ some '!' := by
  rw [parse, ← Text.afterFirst?_eq_none_iff]
  cases Text.afterFirst? '!' token <;> simp

theorem parse_eq_revoke_iff {token name : String} :
    parse token = revoke name ↔ token = "!" ++ name := by
  constructor
  · intro h
    rw [parse] at h
    cases sign : Text.afterFirst? '!' token with
    | none => simp [sign] at h
    | some rest =>
      simp only [sign, revoke.injEq] at h
      rw [← String.toList_inj, Text.afterFirst?_eq_some_iff.1 sign, h]
      simp
  · rintro rfl
    exact parse_bang name

/-- The words without a bang grant. -/
theorem grant_mem_parseAll_iff {token e : String} :
    grant token ∈ parseAll e ↔ token ∈ Text.words e ∧ token.toList.head? ≠ some '!' := by
  simp only [parseAll, List.mem_map, parse_eq_grant_iff]
  constructor
  · rintro ⟨token, mem, rfl, head⟩
    exact ⟨mem, head⟩
  · rintro ⟨mem, head⟩
    exact ⟨token, mem, rfl, head⟩

/-- The words with a bang revoke what follows it. -/
theorem revoke_mem_parseAll_iff {name e : String} :
    revoke name ∈ parseAll e ↔ "!" ++ name ∈ Text.words e := by
  simp only [parseAll, List.mem_map, parse_eq_revoke_iff, exists_eq_right]

section

variable {r : Registry} {k : String} {d : Directive} {ds : List Directive}

theorem grants_iff : d.grants r k ↔ ∃ token t, d = grant token ∧ r.find? token = some t ∧
    t.name = k := by
  cases d <;> simp [grants, Option.any_eq_true]

theorem revokes_eq_false_of_grants (h : d.grants r k) (j : String) : d.revokes r j = false := by
  cases d with
  | grant token => rfl
  | revoke name => simp [grants] at h

theorem exists_grants_of_gains (h : gains r k ds) : ∃ d ∈ ds, d.grants r k := by
  obtain ⟨d, hd, granted⟩ := List.any_eq_true.1 h
  exact ⟨d, (List.rtakeWhile_suffix _ ds).mem hd, granted⟩

theorem exists_grant_of_gains (h : gains r k ds) :
    ∃ token t, grant token ∈ ds ∧ r.find? token = some t ∧ t.name = k := by
  obtain ⟨d, hd, granted⟩ := exists_grants_of_gains h
  obtain ⟨token, t, rfl, meant, name⟩ := grants_iff.1 granted
  exact ⟨token, t, hd, meant, name⟩

/-- A key that is granted and never revoked. -/
theorem gains_of_mem (mem : d ∈ ds) (granted : d.grants r k)
    (kept : ∀ e ∈ ds, e.revokes r k = false) : gains r k ds := by
  have all : sinceRevoke r k ds = ds := by
    rw [sinceRevoke, List.rtakeWhile_eq_self_iff]
    intro e he
    simp [kept e he]
  rw [gains, all]
  exact List.any_eq_true.2 ⟨d, mem, granted⟩

theorem revokes_of_unknown {name : String} (h : r.find? name = none) :
    (revoke name).revokes r k = (k == Text.lowercase name) := by
  simp [revokes, h]

theorem revokes_of_meant {name : String} {t : Tag} (h : r.find? name = some t) :
    (revoke name).revokes r k = (k == Text.lowercase name || k == t.name) := by
  simp [revokes, h, BEq.comm (a := t.name)]

/-- A revoke spares what is neither its name nor the name of the tag that it means. -/
theorem revoke_revokes_eq_false_iff {name : String} : (revoke name).revokes r k = false ↔
    k ≠ Text.lowercase name ∧ ∀ t, r.find? name = some t → k ≠ t.name := by
  cases meant : r.find? name with
  | none => simp [revokes_of_unknown meant]
  | some t => simp [revokes_of_meant meant]

theorem sinceRevoke_concat (ds : List Directive) (d : Directive) :
    sinceRevoke r k (ds ++ [d]) = if d.revokes r k then [] else sinceRevoke r k ds ++ [d] := by
  rw [sinceRevoke, List.rtakeWhile_concat]
  cases d.revokes r k <;> rfl

/-- The last directive takes a key back, or grants it, or leaves it as it was. -/
theorem gains_concat (ds : List Directive) (d : Directive) :
    gains r k (ds ++ [d]) = (!d.revokes r k && (gains r k ds || d.grants r k)) := by
  rw [gains, sinceRevoke_concat]
  cases d.revokes r k <;> simp [gains]

theorem length_sinceRevoke_le (r : Registry) (k : String) (ds : List Directive) :
    (sinceRevoke r k ds).length ≤ ds.length :=
  List.IsSuffix.length_le (List.rtakeWhile_suffix _ ds)

theorem gainPlace_lt (h : gains r k ds) : gainPlace r k ds < ds.length := by
  have inside : (sinceRevoke r k ds).findIdx (·.grants r k) < (sinceRevoke r k ds).length :=
    List.findIdx_lt_length.2 (List.any_eq_true.1 h)
  have part := length_sinceRevoke_le r k ds
  rw [gainPlace]
  omega

/-- A key keeps the place of its first grant while it is not revoked. -/
theorem gainPlace_concat_of_gains (h : gains r k ds) (hd : d.revokes r k = false) :
    gainPlace r k (ds ++ [d]) = gainPlace r k ds := by
  have inside : (sinceRevoke r k ds).findIdx (·.grants r k) < (sinceRevoke r k ds).length :=
    List.findIdx_lt_length.2 (List.any_eq_true.1 h)
  simp only [gainPlace, sinceRevoke_concat, hd, Bool.false_eq_true, if_false, List.length_append,
    List.length_singleton, List.findIdx_append, inside, if_true]
  omega

/-- A key that is granted anew takes the last place. -/
theorem gainPlace_concat_of_grants (h : gains r k ds = false) (hd : d.grants r k) :
    gainPlace r k (ds ++ [d]) = ds.length := by
  have past : (sinceRevoke r k ds).findIdx (·.grants r k) = (sinceRevoke r k ds).length :=
    List.findIdx_eq_length.2 (by simpa [gains] using h)
  have part := length_sinceRevoke_le r k ds
  simp only [gainPlace, sinceRevoke_concat, revokes_eq_false_of_grants hd, Bool.false_eq_true,
    if_false, List.length_append, List.length_singleton, List.findIdx_append, past, lt_irrefl]
  simp only [List.findIdx_cons, hd, cond_true]
  omega

end

end TagRights.Directive
