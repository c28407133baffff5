import CardTable.Json.Value

namespace CardTable
namespace Json

/-!
# Members of an object

An object keeps one value for each key.  Here its members are read off the
text instead, as a list in which a name may come more than once.  A lookup in
the object finds what the last member of that name says, and neither the other
members nor their order have a part in it.
-/

/-- The value that the last member of a name gives to it. -/
def lastValue? (members : List (String × Value)) (name : String) : Option Value :=
  members.reverse.lookup name

theorem lastValue?_cons (key : String) (value : Value) (rest : List (String × Value))
    (name : String) :
    lastValue? ((key, value) :: rest) name =
      (lastValue? rest name).or (if key = name then some value else none) := by
  rw [lastValue?, List.reverse_cons, List.lookup_append, List.lookup_cons]
  by_cases same : key = name
  · rw [if_pos same, beq_iff_eq.mpr same.symm]
    rfl
  · rw [if_neg same, beq_false_of_ne (Ne.symm same)]
    rfl

namespace Members

theorem insert_nil (key : String) (value : Value) : insert key value [] = [(key, value)] :=
  rfl

theorem insert_before {key first : String} (before : key < first) (value old : Value)
    (rest : Members) :
    insert key value ((first, old) :: rest) = (key, value) :: (first, old) :: rest := by
  have different : key ≠ first := by
    rintro rfl
    exact String.lt_irrefl key before
  rw [insert, if_neg different, if_pos before]

theorem insert_behind {key first : String} (behind : first < key) (value old : Value)
    (rest : Members) :
    insert key value ((first, old) :: rest) = (first, old) :: insert key value rest := by
  have different : key ≠ first := by
    rintro rfl
    exact String.lt_irrefl key behind
  rw [insert, if_neg different, if_neg (String.lt_asymm behind)]

/-- Set the members of a list, one after another. -/
def insertAll (members : Members) (more : List (String × Value)) : Members :=
  more.foldl (fun members member => members.insert member.1 member.2) members

@[simp] theorem insertAll_nil (members : Members) : members.insertAll [] = members :=
  rfl

@[simp] theorem insertAll_cons (members : Members) (key : String) (value : Value)
    (more : List (String × Value)) :
    members.insertAll ((key, value) :: more) = (members.insert key value).insertAll more :=
  rfl

theorem get?_cons (key : String) (value : Value) (rest : Members) (name : String) :
    get? ((key, value) :: rest) name = if key = name then some value else rest.get? name := by
  rw [get?, get?, List.find?_cons]
  by_cases same : key = name
  · rw [if_pos same, beq_iff_eq.mpr same]
    rfl
  · rw [if_neg same, beq_false_of_ne same]

theorem get?_insert (members : Members) (key : String) (value : Value) (name : String) :
    (members.insert key value).get? name =
      if key = name then some value else members.get? name := by
  induction members with
  | nil => exact get?_cons key value [] name
  | cons member rest inductionHypothesis =>
      rcases member with ⟨first, old⟩
      rw [insert]
      split
      · next same =>
        subst same
        rw [get?_cons, get?_cons]
        split <;> rfl
      · next different =>
        split
        · exact get?_cons key value _ name
        · rw [get?_cons, get?_cons, inductionHypothesis]
          by_cases found : first = name
          · have other : key ≠ name := fun same => different (same.trans found.symm)
            rw [if_pos found, if_pos found, if_neg other]
          · rw [if_neg found, if_neg found]

theorem get?_insertAll (members : Members) (more : List (String × Value)) (name : String) :
    (members.insertAll more).get? name = (lastValue? more name).or (members.get? name) := by
  induction more generalizing members with
  | nil => rfl
  | cons member rest inductionHypothesis =>
      rcases member with ⟨key, value⟩
      rw [insertAll_cons, inductionHypothesis, get?_insert, lastValue?_cons, Option.or_assoc]
      split <;> rfl

/-- A lookup in the object that a list of members makes. -/
theorem get?_insertAll_nil (members : List (String × Value)) (name : String) :
    (insertAll [] members).get? name = lastValue? members name := by
  rw [get?_insertAll]
  exact Option.or_none

end Members

/-! ## Members that do not matter -/

theorem mem_of_lastValue? {members : List (String × Value)} {name : String} {value : Value}
    (found : lastValue? members name = some value) : (name, value) ∈ members := by
  induction members with
  | nil => cases found
  | cons member rest inductionHypothesis =>
      rcases member with ⟨key, old⟩
      rw [lastValue?_cons, Option.or_eq_some_iff] at found
      rcases found with later | ⟨_, here⟩
      · exact List.mem_cons_of_mem _ (inductionHypothesis later)
      · split at here
        · next same =>
          rw [same, Option.some.inj here]
          exact List.mem_cons_self
        · cases here

theorem lastValue?_of_mem {members : List (String × Value)}
    (once : (members.map Prod.fst).Nodup) {name : String} {value : Value}
    (member : (name, value) ∈ members) : lastValue? members name = some value := by
  induction members with
  | nil => cases member
  | cons head rest inductionHypothesis =>
      rcases head with ⟨key, old⟩
      rw [List.map_cons, List.nodup_cons] at once
      rw [lastValue?_cons, Option.or_eq_some_iff]
      rcases List.mem_cons.mp member with same | later
      · cases same
        refine Or.inr ⟨?_, if_pos rfl⟩
        cases again : lastValue? rest name with
        | none => rfl
        | some other => exact absurd (List.mem_map_of_mem (mem_of_lastValue? again)) once.1
      · exact Or.inl (inductionHypothesis once.2 later)

/-- As long as no name comes twice, the order of the members does not matter. -/
theorem lastValue?_of_perm {members others : List (String × Value)}
    (permuted : members.Perm others) (once : (members.map Prod.fst).Nodup) (name : String) :
    lastValue? others name = lastValue? members name := by
  have onceToo : (others.map Prod.fst).Nodup := (permuted.map Prod.fst).nodup once
  cases found : lastValue? members name with
  | some value =>
      exact lastValue?_of_mem onceToo (permuted.mem_iff.mp (mem_of_lastValue? found))
  | none =>
      cases foundThere : lastValue? others name with
      | none => rfl
      | some value =>
          have there := permuted.mem_iff.mpr (mem_of_lastValue? foundThere)
          rw [lastValue?_of_mem once there] at found
          cases found

/-- Members whose names are left out do not matter to a name that is kept. -/
theorem lastValue?_filter (members : List (String × Value)) (kept : String -> Bool)
    {name : String} (keeps : kept name = true) :
    lastValue? (members.filter fun member => kept member.1) name = lastValue? members name := by
  induction members with
  | nil => rfl
  | cons member rest inductionHypothesis =>
      rcases member with ⟨key, value⟩
      cases keepsKey : kept key with
      | true =>
          rw [List.filter_cons, if_pos keepsKey, lastValue?_cons, lastValue?_cons,
            inductionHypothesis]
      | false =>
          have different : key ≠ name := by
            rintro rfl
            rw [keeps] at keepsKey
            cases keepsKey
          rw [List.filter_cons, if_neg (Bool.eq_false_iff.mp keepsKey), lastValue?_cons,
            inductionHypothesis, if_neg different, Option.or_none]

end Json
end CardTable
