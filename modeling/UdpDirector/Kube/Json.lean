import Mathlib.Algebra.Group.Int.Defs
import Mathlib.Algebra.Group.Nat.Defs
import Mathlib.Data.List.Basic
import Mathlib.Data.Nat.Notation
import Mathlib.Data.Int.Notation

/-!
JSON values as `serde_json` represents them, and the path language of
`k8s_client.rs`.

* `Json`, `Json.field`, `Json.element`: values and the two forms of
  `Value::get`;
* `Fault`: how a fallible function of the source fails to return, by an error or
  by a panic;
* `extractJsonPath`: `K8sClient::extract_json_path`. A step with a bracket is
  cut at byte offsets, so a step whose bracket is its last byte, or which ends in
  a character longer than one byte, panics;
* `followPath_ne_ok`: such a path leads nowhere on any value.
-/

namespace UdpDirector

/-- How a fallible function of the source fails to return a value. -/
inductive Fault where
  | panic
  | error (message : String)
  deriving DecidableEq, Repr

/-! ### Values -/

/-- A number: an integer in the range of `u64` and `i64`, or a float under the
text it prints as. -/
inductive Number where
  | int (i : ℤ)
  | float (text : String)
  deriving DecidableEq, Repr

/-- `Number::as_u64`. -/
def Number.asU64 : Number → Option ℕ
  | .int i => if 0 ≤ i then some i.toNat else none
  | .float _ => none

/-- The text of a number. -/
def Number.text : Number → String
  | .int i => toString i
  | .float text => text

/-- A JSON value, the fields of an object in their order. -/
inductive Json where
  | null
  | bool (b : Bool)
  | number (n : Number)
  | string (s : String)
  | array (items : List Json)
  | object (fields : List (String × Json))
  deriving Repr

namespace Json

/-- `Value::get` with a string. -/
def field (name : String) : Json → Option Json
  | .object fields => fields.lookup name
  | _ => none

/-- `Value::get` with an index. -/
def element (index : ℕ) : Json → Option Json
  | .array items => items[index]?
  | _ => none

/-- The string of a string value. -/
def asString : Json → Option String
  | .string s => some s
  | _ => none

/-- The number of a number value. -/
def asNumber : Json → Option Number
  | .number n => some n
  | _ => none

/-- The items of an array value. -/
def asArray : Json → Option (List Json)
  | .array items => some items
  | _ => none

end Json

/-! ### Paths -/

/-- `str::parse::<usize>`: decimal digits after an optional plus sign, in 64
bits. -/
def parseUsize (s : List Char) : Option ℕ :=
  let digits := match s with
    | '+' :: rest => rest
    | _ => s
  if digits ≠ [] ∧ digits.all Char.isDigit ∧ Nat.ofDigitChars 10 digits 0 < 2 ^ 64 then
    some (Nat.ofDigitChars 10 digits 0)
  else
    none

/-- One step of a path: a field, or a field and an index in brackets. -/
def jsonPathStep (current : Json) (part : List Char) : Except Fault (Option Json) :=
  match part.dropWhile (· ≠ '[') with
  | [] => .ok (current.field (String.ofList part))
  | _ :: rest =>
      -- `&part[bracket_pos + 1..part.len() - 1]`
      match rest.getLast? with
      | none => .error .panic
      | some c =>
          if c.utf8Size ≠ 1 then
            .error .panic
          else
            .ok do
              let items ← current.field (String.ofList (part.takeWhile (· ≠ '[')))
              let index ← parseUsize rest.dropLast
              items.element index

/-- The steps of a path in order, ended by the first one that leads nowhere. -/
def followPath : Json → List (List Char) → Except Fault (Option Json)
  | current, [] => .ok (some current)
  | current, part :: parts => do
      match ← jsonPathStep current part with
      | some next => followPath next parts
      | none => return none

/-- `K8sClient::extract_json_path`. -/
def extractJsonPath (json : Json) (path : String) : Except Fault (Option Json) :=
  followPath json (path.toList.splitOn '.')

section

variable {json json' value : Json} {fault : Fault}

/-- Whether a step panics depends on its text only. -/
lemma jsonPathStep_eq_error {part : List Char} (h : jsonPathStep json part = .error fault) :
    jsonPathStep json' part = .error fault := by
  rw [jsonPathStep] at h ⊢
  cases hpart : part.dropWhile (· ≠ '[') with
  | nil =>
      rw [hpart] at h
      cases h
  | cons bracket rest =>
      rw [hpart] at h
      cases hlast : rest.getLast? with
      | none =>
          simp only [hlast] at h ⊢
          exact h
      | some c =>
          simp only [hlast] at h ⊢
          split at h
          · rename_i hsize
            rw [if_pos hsize, h]
          · cases h

/-- A path that panics on one value leads nowhere on any other. -/
lemma followPath_ne_ok {parts : List (List Char)} (h : followPath json parts = .error fault) :
    followPath json' parts ≠ .ok (some value) := by
  induction parts generalizing json json' with
  | nil => simp [followPath] at h
  | cons part parts ih =>
      intro h'
      rw [followPath] at h h'
      cases hstep : jsonPathStep json' part with
      | error fault' =>
          rw [hstep] at h'
          simp [bind, Except.bind] at h'
      | ok next' =>
          cases hstep' : jsonPathStep json part with
          | error fault' =>
              rw [jsonPathStep_eq_error hstep'] at hstep
              cases hstep
          | ok next =>
              rw [hstep] at h'
              rw [hstep'] at h
              cases next' with
              | none => simp [bind, Except.bind, pure, Except.pure] at h'
              | some current' =>
                  cases next with
                  | none => simp [bind, Except.bind, pure, Except.pure] at h
                  | some current => exact ih h h'

end

end UdpDirector
