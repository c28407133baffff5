namespace CardTable

/-!
# Steps that can fail

What is read and judged is read in steps.  A result says what each step gave,
and a failure says which step it comes from.
-/

section

variable {fault value result : Type} {first : Except fault value}

theorem bind_ok_iff {next : value -> Except fault result} {out : result} :
    (first >>= next) = .ok out ↔ Exists fun mid => first = .ok mid ∧ next mid = .ok out := by
  cases first <;> simp [bind, Except.bind]

theorem bind_error_iff {next : value -> Except fault result} {cause : fault} :
    (first >>= next) = .error cause ↔
      first = .error cause ∨ Exists fun mid => first = .ok mid ∧ next mid = .error cause := by
  cases first <;> simp [bind, Except.bind]

/-- A step that stores what it found leaves the rest to the steps behind it. -/
theorem map_ok_iff {change : value -> result} {out : result} :
    first.map change = .ok out ↔ Exists fun found => first = .ok found ∧ change found = out := by
  cases first <;> simp [Except.map]

theorem exists_map_ok_iff {change : value -> result} {holds : result -> Prop} :
    (Exists fun out => first.map change = .ok out ∧ holds out) ↔
      Exists fun found => first = .ok found ∧ holds (change found) := by
  cases first <;> simp [Except.map]

theorem mapError_ok_iff {change : fault -> result} {out : value} :
    first.mapError change = .ok out ↔ first = .ok out := by
  constructor
  · intro changed
    cases first with
    | error cause => cases changed
    | ok found => exact congrArg Except.ok (Except.ok.inj changed)
  · rintro rfl
    rfl

theorem mapError_error_iff {change : fault -> result} {cause : result} :
    first.mapError change = .error cause ↔
      Exists fun original => first = .error original ∧ change original = cause := by
  constructor
  · intro changed
    cases first with
    | error original => exact ⟨original, rfl, Except.error.inj changed⟩
    | ok found => cases changed
  · rintro ⟨original, rfl, rfl⟩
    rfl

end
end CardTable
