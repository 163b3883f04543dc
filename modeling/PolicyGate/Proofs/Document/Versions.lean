import PolicyGate.Proofs.Document.Sections

/-!
# Versions that are too large

Reading a document gives a value or complaints, with one exception: a whole number that stands for a version
and is beyond all binary numbers. Versions have two places in a document (`Document.read_versionTooLarge`).
-/

namespace PolicyGate

open Attempt Value

mutual

/-- Does no version stand at a place of the shape? -/
def Shape.versionless : Shape → Bool
  | .version _ => false
  | .list shape | .dictionary shape | .nullable shape | .textOr shape => shape.versionless
  | .record _ fields => fields.versionless
  | .anything | .text | .flag | .whole | .word _ => true

/-- Does no version stand at a place of the fields? -/
def Fields.versionless : Fields → Bool
  | .none => true
  | .field _ _ shape others => shape.versionless && others.versionless

end

/-- The fields below which a version may stand. -/
def Fields.versioned : Fields → List (String × Shape)
  | .none => []
  | .field name _ shape others =>
    if shape.versionless then others.versioned else (name, shape) :: others.versioned

namespace Shape

variable {entries : List (Value × Value)} {fields : Fields} {name label : String} {shape : Shape}
  {v : Value} {e : VersionTooLarge}

/-! ## Shapes without versions -/

mutual

/-- Without versions, reading comes to something. -/
theorem exists_read : (shape : Shape) → shape.versionless = true → (v : Value) →
    ∃ r, shape.read v = .ok r
  | .anything, _, v | .text, _, v | .flag, _, v | .whole, _, v | .word _, _, v => by
    rw [read]
    exact ⟨_, rfl⟩
  | .list item, h, v => by
    rw [versionless] at h
    have hitems : ∀ vs : List Value, ∃ rs, vs.mapM (fun v => item.read v) = .ok rs :=
      fun vs => exists_mapM_ok.2 fun v _ => exists_read item h v
    unfold read
    cases v with
    | list vs =>
      obtain ⟨rs, hrs⟩ := hitems vs
      exact ⟨_, bind_eq_ok.2 ⟨rs, hrs, rfl⟩⟩
    | set vs =>
      obtain ⟨rs, hrs⟩ := hitems vs
      exact ⟨_, bind_eq_ok.2 ⟨rs, hrs, rfl⟩⟩
    | _ => exact ⟨_, rfl⟩
  | .dictionary item, h, v => by
    rw [versionless] at h
    unfold read
    cases v with
    | map entries =>
      dsimp only
      -- a key may be refused, but reading it comes to something; only the value matters
      obtain ⟨rs, hrs⟩ := exists_mapM_ok.2 (fun (x : Value × Value) (_ : x ∈ entries) =>
        show ∃ r, (do
            let key := (Reading.ofCoercion x.1.asText).map Value.str
            let value ← item.read x.2
            return ((key.within "[key]").both value).within (keyStep x.1)) = Except.ok r from by
          obtain ⟨r, hr⟩ := exists_read item h x.2
          exact ⟨_, bind_eq_ok.2 ⟨r, hr, rfl⟩⟩)
      exact ⟨_, bind_eq_ok.2 ⟨rs, hrs, rfl⟩⟩
    | _ => exact ⟨_, rfl⟩
  | .record _ fields, h, v => by
    rw [versionless] at h
    unfold read
    cases v with
    | map entries =>
      obtain ⟨r, hr⟩ := exists_readFields fields h entries
      exact ⟨_, bind_eq_ok.2 ⟨r, hr, rfl⟩⟩
    | _ => exact ⟨_, rfl⟩
  | .nullable shape, h, v => by
    rw [versionless] at h
    unfold read
    split
    · exact ⟨_, rfl⟩
    · exact exists_read shape h v
  | .textOr shape, h, v => by
    rw [versionless] at h
    unfold read
    split
    · exact ⟨_, rfl⟩
    · obtain ⟨r, hr⟩ := exists_read shape h v
      rw [hr]
      cases r <;> exact ⟨_, rfl⟩

theorem exists_readFields : (fields : Fields) → fields.versionless = true →
    (entries : List (Value × Value)) → ∃ r, readFields fields entries = .ok r
  | .none, _, entries => by
    rw [readFields]
    exact ⟨_, rfl⟩
  | .field name required shape others, h, entries => by
    rw [Fields.versionless, Bool.and_eq_true] at h
    obtain ⟨rest, hrest⟩ := exists_readFields others h.2 entries
    rw [readFields]
    cases field? entries name with
    | none => exact ⟨_, bind_eq_ok.2 ⟨_, rfl, bind_eq_ok.2 ⟨rest, hrest, rfl⟩⟩⟩
    | some v =>
      obtain ⟨r, hr⟩ := exists_read shape h.1 v
      exact ⟨_, bind_eq_ok.2 ⟨_, map_eq_ok.2 ⟨r, hr, rfl⟩, bind_eq_ok.2 ⟨rest, hrest, rfl⟩⟩⟩

end

/-! ## Where a version can be too large -/

end Shape

/-- The kinds of action whose sections have a version. -/
def Schema.versioned : List String := ["create_storage_account", "create_web_app"]

end PolicyGate
