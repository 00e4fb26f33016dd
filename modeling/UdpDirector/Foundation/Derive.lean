import Mathlib.Data.List.Basic

/-!
Decoders that are derived from the fields of a type and the attributes on them, over any kind of
values that mappings hold.

* `RenameAll`: how the attribute of a type renames its fields, or its variants; it does not reach
  the fields of a variant;
* `Field`, `Field.read`: a field with its key, its default and its decoder, and what is read of it
  in a mapping. Keys that name no field are passed over;
* `Field.read_of_ne`: so a mapping that has other keys only yields the default.
-/

namespace Derive

/-- The attribute that renames the fields or the variants of a type. -/
inductive RenameAll where
  | verbatim
  | camelCase

/-- A name of words that underscores join, in camel case. -/
def camelField : List Char → List Char
  | '_' :: c :: rest => c.toUpper :: camelField rest
  | c :: rest => c :: camelField rest
  | [] => []

/-- A name of words that begin with a capital, in camel case. -/
def camelVariant : List Char → List Char
  | c :: rest => c.toLower :: rest
  | [] => []

namespace RenameAll

/-- The key of a field. -/
def field : RenameAll → String → String
  | verbatim, name => name
  | camelCase, name => String.ofList (camelField name.toList)

/-- The name of a variant. -/
def variant : RenameAll → String → String
  | verbatim, name => name
  | camelCase, name => String.ofList (camelVariant name.toList)

end RenameAll

/-- A field of a type that is decoded from mappings with values in `V`. -/
structure Field (V α : Type*) where
  key : String
  default : Option α := none
  decode : V → Except String α

namespace Field

variable {V α : Type*} {field : Field V α} {entries : List (String × V)} {value : V} {a : α}

/-- What is read of a field: the value at its key, or else its default. -/
def read (field : Field V α) (entries : List (String × V)) : Except String α :=
  match entries.lookup field.key with
  | some value => field.decode value
  | none => field.default.elim (.error ("missing field `" ++ field.key ++ "`")) .ok

lemma read_of_lookup (h : entries.lookup field.key = some value) :
    field.read entries = field.decode value := by
  rw [read, h]

lemma read_of_missing (h : entries.lookup field.key = none) :
    field.read entries
      = field.default.elim (.error ("missing field `" ++ field.key ++ "`")) .ok := by
  rw [read, h]

/-- A mapping that has other keys only yields the default. -/
lemma read_of_ne (h : ∀ e ∈ entries, e.1 ≠ field.key) (hdefault : field.default = some a) :
    field.read entries = .ok a := by
  have hmissing : entries.lookup field.key = none := by
    rw [List.lookup_eq_none_iff]
    intro e he
    simpa using (h e he).symm
  rw [read_of_missing hmissing, hdefault, Option.elim_some]

end Field

end Derive
