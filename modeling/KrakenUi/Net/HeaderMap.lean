import Mathlib.Data.List.Nodup

namespace Net

/-!
# Header maps

A header map is a list of names with values, and a name may stand in it several
times.  Setting a header leaves one value for its name.

Headers that are set one after the other act as their last settings: what a
later header says about its name holds, and a name that none of them mentions
keeps its values.
-/

/-- The headers in the order in which a map is walked through. -/
abbrev HeaderMap (Name Value : Type) := List (Name × Value)

namespace HeaderMap

variable {Name Value : Type} [DecidableEq Name]

/-- All values of a name. -/
def getAll (map : HeaderMap Name Value) (name : Name) : List Value :=
  (map.filter fun header => header.1 = name).map Prod.snd

/-- Set a header.  A name that is there keeps its place. -/
def insert (map : HeaderMap Name Value) (name : Name) (value : Value) : HeaderMap Name Value :=
  match map with
  | [] => [(name, value)]
  | header :: rest =>
      if header.1 = name then (name, value) :: rest.filter fun other => other.1 ≠ name
      else header :: insert rest name value

/-- Set headers one after the other. -/
def insertAll (map headers : HeaderMap Name Value) : HeaderMap Name Value :=
  headers.foldl (fun map header => map.insert header.1 header.2) map

/-- The last value that a list of settings has for a name. -/
def last (headers : HeaderMap Name Value) (name : Name) : Option Value :=
  match headers with
  | [] => none
  | header :: later => (last later name).or (if header.1 = name then some header.2 else none)

theorem getAll_cons (header : Name × Value) (map : HeaderMap Name Value) (name : Name) :
    getAll (header :: map) name =
      if header.1 = name then header.2 :: getAll map name else getAll map name := by
  unfold getAll
  rw [List.filter_cons]
  by_cases same : header.1 = name
  · rw [if_pos (decide_eq_true same), if_pos same, List.map_cons]
  · rw [if_neg (fun equal => same (of_decide_eq_true equal)), if_neg same]

/-- Without the headers of one name, the others have the values that they had. -/
theorem getAll_filter_ne (map : HeaderMap Name Value) (name other : Name) :
    getAll (map.filter fun header => header.1 ≠ name) other =
      if other = name then [] else getAll map other := by
  induction map with
  | nil =>
      split
      · rfl
      · rfl
  | cons header map inductionHypothesis =>
      rw [List.filter_cons, getAll_cons]
      by_cases removed : header.1 = name
      · rw [if_neg (by simpa using removed), inductionHypothesis]
        by_cases same : other = name
        · rw [if_pos same, if_pos same]
        · rw [if_neg same, if_neg same, if_neg fun equal => same (equal.symm.trans removed)]
      · rw [if_pos (by simpa using removed), getAll_cons, inductionHypothesis]
        by_cases same : other = name
        · rw [if_pos same, if_pos same, if_neg fun equal => removed (equal.trans same)]
        · rw [if_neg same, if_neg same]

theorem getAll_insert (map : HeaderMap Name Value) (name : Name) (value : Value) (other : Name) :
    getAll (map.insert name value) other =
      if other = name then [value] else getAll map other := by
  induction map with
  | nil =>
      rw [insert, getAll_cons]
      by_cases same : other = name
      · rw [if_pos same, if_pos same.symm]
        rfl
      · rw [if_neg same, if_neg (Ne.symm same)]
  | cons header map inductionHypothesis =>
      rw [insert, getAll_cons]
      by_cases found : header.1 = name
      · rw [if_pos found, getAll_cons, getAll_filter_ne]
        by_cases same : other = name
        · rw [if_pos same, if_pos same, if_pos same.symm]
        · rw [if_neg same, if_neg same, if_neg (Ne.symm same),
            if_neg fun equal => same (equal.symm.trans found)]
      · rw [if_neg found, getAll_cons, inductionHypothesis]
        by_cases same : other = name
        · rw [if_pos same, if_pos same, if_neg fun equal => found (equal.trans same)]
        · rw [if_neg same, if_neg same]

/-- The last setting of each name holds. -/
theorem getAll_insertAll (map headers : HeaderMap Name Value) (name : Name) :
    getAll (map.insertAll headers) name =
      (last headers name).elim (getAll map name) fun value => [value] := by
  induction headers generalizing map with
  | nil => rfl
  | cons header headers inductionHypothesis =>
      have set : map.insertAll (header :: headers) =
          (map.insert header.1 header.2).insertAll headers := rfl
      rw [set, inductionHypothesis, getAll_insert, last]
      cases later : last headers name with
      | some value => rfl
      | none =>
          by_cases same : name = header.1
          · rw [if_pos same, if_pos same.symm]
            rfl
          · rw [if_neg same, if_neg (Ne.symm same)]
            rfl

/-- Every name stands in the map once. -/
def Unique (map : HeaderMap Name Value) : Prop :=
  (map.map Prod.fst).Nodup

theorem mem_names_insert {map : HeaderMap Name Value} {name other : Name} {value : Value}
    (member : other ∈ (map.insert name value).map Prod.fst) :
    other = name ∨ other ∈ map.map Prod.fst := by
  induction map with
  | nil => exact Or.inl (List.mem_singleton.mp member)
  | cons header map inductionHypothesis =>
      rw [insert] at member
      split at member
      · rcases List.mem_cons.mp member with same | later
        · exact Or.inl same
        · rcases List.mem_map.mp later with ⟨found, kept, rfl⟩
          exact Or.inr (List.mem_map_of_mem (List.mem_cons_of_mem _ (List.mem_of_mem_filter kept)))
      · rcases List.mem_cons.mp member with same | later
        · exact Or.inr (same ▸ List.mem_cons_self)
        · rcases inductionHypothesis later with same | found
          · exact Or.inl same
          · exact Or.inr (List.mem_cons_of_mem _ found)

theorem Unique.insert {map : HeaderMap Name Value} (unique : Unique map) (name : Name)
    (value : Value) : Unique (map.insert name value) := by
  induction map with
  | nil => exact List.nodup_singleton name
  | cons header map inductionHypothesis =>
      rcases List.nodup_cons.mp unique with ⟨fresh, rest⟩
      rw [HeaderMap.insert]
      split
      · refine List.nodup_cons.mpr ⟨?_, rest.sublist (List.filter_sublist.map _)⟩
        intro member
        rcases List.mem_map.mp member with ⟨found, kept, same⟩
        exact of_decide_eq_true (List.mem_filter.mp kept).2 same
      · rename_i different
        refine List.nodup_cons.mpr ⟨?_, inductionHypothesis rest⟩
        intro member
        rcases mem_names_insert member with same | inside
        · exact different same
        · exact fresh inside

theorem Unique.insertAll {map : HeaderMap Name Value} (unique : Unique map)
    (headers : HeaderMap Name Value) : Unique (map.insertAll headers) := by
  induction headers generalizing map with
  | nil => exact unique
  | cons header headers inductionHypothesis =>
      exact inductionHypothesis (unique.insert header.1 header.2)

/-- In a map in which every name stands once, the values of a name are its last setting. -/
theorem Unique.getAll_eq_last {map : HeaderMap Name Value} (unique : Unique map) (name : Name) :
    getAll map name = (last map name).toList := by
  induction map with
  | nil => rfl
  | cons header map inductionHypothesis =>
      rcases List.nodup_cons.mp unique with ⟨fresh, rest⟩
      rw [getAll_cons, last, inductionHypothesis rest]
      by_cases same : header.1 = name
      · have absent : last map name = none := by
          have values := inductionHypothesis rest
          have empty : getAll map name = [] := by
            unfold getAll
            rw [List.map_eq_nil_iff, List.filter_eq_nil_iff]
            intro other member equal
            apply fresh
            rw [same, ← of_decide_eq_true equal]
            exact List.mem_map_of_mem member
          rw [empty] at values
          cases found : last map name with
          | none => rfl
          | some value =>
              rw [found] at values
              cases values
        rw [if_pos same, if_pos same, absent]
        rfl
      · rw [if_neg same, if_neg same, Option.or_none]

/-- Setting the headers of a map that was itself made by settings is setting these. -/
theorem last_insertAll (headers : HeaderMap Name Value) (name : Name) :
    last (insertAll [] headers) name = last headers name := by
  have empty : Unique ([] : HeaderMap Name Value) := List.nodup_nil
  have unique : Unique (insertAll [] headers) := empty.insertAll headers
  have values := unique.getAll_eq_last name
  rw [getAll_insertAll] at values
  cases set : last headers name with
  | none =>
      rw [set] at values
      cases found : last (insertAll [] headers) name with
      | none => rfl
      | some value =>
          rw [found] at values
          cases values
  | some value =>
      rw [set] at values
      cases found : last (insertAll [] headers) name with
      | none =>
          rw [found] at values
          cases values
      | some other =>
          rw [found] at values
          cases values
          rfl

end HeaderMap
end Net
