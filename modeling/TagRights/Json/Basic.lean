namespace TagRights

/-- Named values, as the members of an object or a table, in the order in which their names were
first put in. -/
abbrev Members (α : Type) := List (String × α)

namespace Members

variable {α : Type} {ms : Members α}

def get? (ms : Members α) (name : String) : Option α :=
  ms.lookup name

def has (ms : Members α) (name : String) : Bool :=
  ms.any (·.1 == name)

/-- A name that is present keeps its place and takes the new value; another goes to the end. -/
def put (ms : Members α) (name : String) (value : α) : Members α :=
  match ms with
  | [] => [(name, value)]
  | (n, v) :: rest => if n = name then (n, value) :: rest else (n, v) :: put rest name value

/-- The order of names: a new one comes last. -/
theorem map_fst_put (ms : Members α) (name : String) (value : α) :
    (ms.put name value).map Prod.fst =
      if ms.has name then ms.map Prod.fst else ms.map Prod.fst ++ [name] := by
  induction ms with
  | nil => simp [put, has]
  | cons m ms ih =>
    obtain ⟨n, v⟩ := m
    simp only [put, has] at ih ⊢
    split <;> grind

theorem put_of_not_has {name : String} (h : ms.has name = false) (value : α) :
    ms.put name value = ms ++ [(name, value)] := by
  induction ms with
  | nil => rfl
  | cons m ms ih =>
    obtain ⟨n, v⟩ := m
    simp only [has, List.any_cons, Bool.or_eq_false_iff, beq_eq_false_iff_ne, ne_eq] at h ih
    rw [put, if_neg h.1, ih h.2, List.cons_append]

def erase (ms : Members α) (name : String) : Members α :=
  ms.filter (·.1 != name)

/-- Whether no name stands twice. -/
def Keyed (ms : Members α) : Prop :=
  (ms.map Prod.fst).Nodup

theorem Keyed.nil : Keyed ([] : Members α) :=
  List.nodup_nil

theorem Keyed.put (h : ms.Keyed) (name : String) (value : α) : (ms.put name value).Keyed := by
  rw [Keyed, map_fst_put]
  split
  · exact h
  next new =>
    rw [List.nodup_append]
    refine ⟨h, by simp, ?_⟩
    intro n hn other ho same
    rw [List.mem_singleton.1 ho] at same
    obtain ⟨m, hm, own⟩ := List.mem_map.1 hn
    exact new (List.any_eq_true.2 ⟨m, hm, beq_iff_eq.2 (own.trans same)⟩)

theorem Keyed.filter (h : ms.Keyed) (p : String × α → Bool) : Members.Keyed (ms.filter p) :=
  List.Nodup.sublist (List.filter_sublist.map _) h

end Members

/-- Integers are kept apart from other numbers, and objects keep the order of their members. -/
inductive Json where
  | null
  | bool (b : Bool)
  | int (n : Int)
  | float (x : Float)
  | str (s : String)
  | arr (items : List Json)
  | obj (members : List (String × Json))

instance : Inhabited Json := ⟨.null⟩

end TagRights
