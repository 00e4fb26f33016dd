import Mathlib.Data.List.Forall2
import Mathlib.Data.List.TakeWhile
import UdpDirector.Kube.Json

/-!
What a path of the configuration means, and what `K8sClient::extract_json_path` makes of it.

* `PathStep`, `Json.follow`: the steps of a path and the value they lead to; `Denotes`: the text of
  a step, a field name without brackets or a field name with a decimal index in brackets;
* `readStep`: the step that the source reads in a text. It cuts a step after its first bracket
  and before its last byte, whatever that byte is;
* `extractsDocumented_iff`: a value is extracted as the path means exactly if no step that panics
  is reached, and no value is reached by way of a misread step;
* `forall_extractsDocumented_iff`: so it is on every value exactly if all steps are well formed, or
  some step without an index comes before every step that panics.
-/

namespace UdpDirector

/-! ### Steps -/

/-- A step of a path: a field, or an element of the array in a field. -/
inductive PathStep where
  | field (name : String)
  | item (name : String) (index : ℕ)
  deriving DecidableEq, Repr

namespace Json

/-- The value that a step leads to. -/
def child (json : Json) : PathStep → Option Json
  | .field name => json.field name
  | .item name index => (json.field name).bind (element index)

/-- The value that some steps lead to, one after the other. -/
def follow : Json → List PathStep → Option Json
  | json, [] => some json
  | json, step :: steps => (json.child step).bind fun next => next.follow steps

/-- A value that some steps lead through. -/
def along : List PathStep → Json
  | [] => .null
  | .field name :: steps => .object [(name, along steps)]
  | .item name index :: steps =>
      .object [(name, .array (List.replicate index .null ++ [along steps]))]

@[simp] lemma follow_nil (json : Json) : json.follow [] = some json := rfl

lemma follow_cons (json : Json) (step : PathStep) (steps : List PathStep) :
    json.follow (step :: steps) = (json.child step).bind fun next => next.follow steps := rfl

lemma follow_along (steps : List PathStep) : (along steps).follow steps = some .null := by
  induction steps with
  | nil => rfl
  | cons step steps ih =>
      cases step <;> simp [follow_cons, child, along, field, element, ih]

end Json

/-- The step that a text denotes: a field name without brackets, or one followed by a decimal
index in brackets, the index in the range of `usize`. -/
inductive Denotes : List Char → PathStep → Prop
  | field {name : List Char} (hopen : '[' ∉ name) (hclose : ']' ∉ name) :
      Denotes name (.field (String.ofList name))
  | item {name digits : List Char} (hopen : '[' ∉ name) (hclose : ']' ∉ name)
      (hne : digits ≠ []) (hdigits : ∀ c ∈ digits, c.isDigit)
      (hlt : Nat.ofDigitChars 10 digits 0 < 2 ^ 64) :
      Denotes (name ++ '[' :: (digits ++ [']']))
        (.item (String.ofList name) (Nat.ofDigitChars 10 digits 0))

/-- A text that denotes some step. -/
def WellFormed (part : List Char) : Prop :=
  ∃ step, Denotes part step

/-- The parts of a path. -/
def pathParts (path : String) : List (List Char) :=
  path.toList.splitOn '.'

/-- The value that a path reaches. -/
def LeadsTo (json : Json) (path : String) (value : Json) : Prop :=
  ∃ steps, List.Forall₂ Denotes (pathParts path) steps ∧ json.follow steps = some value

/-- A path is extracted without a panic, as the value it reaches or as nothing. -/
def ExtractsDocumented (json : Json) (path : String) : Prop :=
  ∃ found, extractJsonPath json path = .ok found
    ∧ ∀ value, found = some value ↔ LeadsTo json path value

/-! ### What the source reads -/

/-- The step that `K8sClient::extract_json_path` reads in a text. -/
def readStep (part : List Char) : Except Fault (Option PathStep) :=
  match part.dropWhile (· ≠ '[') with
  | [] => .ok (some (.field (String.ofList part)))
  | _ :: rest =>
      match rest.getLast? with
      | none => .error .panic
      | some c =>
          if c.utf8Size ≠ 1 then
            .error .panic
          else
            .ok ((parseUsize rest.dropLast).map
              (.item (String.ofList (part.takeWhile (· ≠ '['))) ·))

/-- The source reads some texts as some steps. -/
def ReadAs (parts : List (List Char)) (steps : List PathStep) : Prop :=
  List.Forall₂ (fun part step => readStep part = .ok (some step)) parts steps

/-- On a value a step that panics is reached. -/
def PanicsOn (json : Json) (path : String) : Prop :=
  ∃ before part after steps, pathParts path = before ++ part :: after ∧ ReadAs before steps
    ∧ readStep part = .error .panic ∧ json.follow steps ≠ none

/-- On a value no step that panics is reached, and no value by way of a misread step. -/
structure HarmlessOn (json : Json) (path : String) : Prop where
  not_panicsOn : ¬PanicsOn json path
  wellFormed : ∀ {steps value}, ReadAs (pathParts path) steps → json.follow steps = some value →
    ∀ part ∈ pathParts path, WellFormed part

/-- Every step is well formed, or some step that has no index comes before every step that
panics. -/
def Harmless (path : String) : Prop :=
  (∀ part ∈ pathParts path, WellFormed part)
    ∨ ∃ before part after, pathParts path = before ++ part :: after ∧ readStep part = .ok none
        ∧ ∀ p ∈ before, readStep p ≠ .error .panic

section

variable {json value : Json} {part : List Char} {parts : List (List Char)} {step : PathStep}
  {steps : List PathStep}

/-- A bracket is closed at the end of its step. -/
lemma Denotes.getLast?_eq (h : Denotes part step) (hbracket : '[' ∈ part) :
    part.getLast? = some ']' := by
  cases h with
  | field hopen hclose => exact absurd hbracket hopen
  | @item name digits hopen hclose hne hdigits hlt =>
      have hlast : name ++ '[' :: (digits ++ [']']) = name ++ '[' :: digits ++ [']'] := by simp
      rw [hlast, List.getLast?_concat]

/-- A decimal index is parsed as its value. -/
lemma parseUsize_eq {digits : List Char} (hne : digits ≠ []) (hdigits : ∀ c ∈ digits, c.isDigit)
    (hlt : Nat.ofDigitChars 10 digits 0 < 2 ^ 64) :
    parseUsize digits = some (Nat.ofDigitChars 10 digits 0) := by
  obtain ⟨c, rest, rfl⟩ := List.exists_cons_of_ne_nil hne
  have hsign : c ≠ '+' := by
    rintro rfl
    exact absurd (hdigits '+' List.mem_cons_self) (by decide)
  unfold parseUsize
  extract_lets unsigned
  have hunsigned : unsigned = c :: rest := by
    unfold unsigned
    split
    · rename_i hplus
      exact absurd (List.cons.inj hplus).1 hsign
    · rfl
  rw [if_pos, hunsigned]
  rw [hunsigned]
  exact ⟨hne, List.all_eq_true.mpr hdigits, hlt⟩

/-- The source follows the step it reads. -/
lemma jsonPathStep_eq (json : Json) (part : List Char) :
    jsonPathStep json part = (readStep part).map fun step => step.bind json.child := by
  rw [jsonPathStep, readStep]
  cases part.dropWhile (· ≠ '[') with
  | nil => rfl
  | cons bracket rest =>
      cases hlast : rest.getLast? with
      | none => simp only [hlast, Except.map]
      | some c =>
          simp only [hlast]
          by_cases hsize : c.utf8Size ≠ 1
          · rw [if_pos hsize, if_pos hsize]
            rfl
          · rw [if_neg hsize, if_neg hsize]
            cases parseUsize rest.dropLast with
            | none => cases json.field (String.ofList (part.takeWhile (· ≠ '['))) <;> rfl
            | some index => rfl

/-- A text without a bracket is the name of a field. -/
lemma readStep_of_notMem (h : '[' ∉ part) :
    readStep part = .ok (some (.field (String.ofList part))) := by
  have hdrop : part.dropWhile (· ≠ '[') = [] :=
    List.dropWhile_eq_nil_iff.mpr fun c hc => by simpa using ne_of_mem_of_not_mem hc h
  rw [readStep, hdrop]

/-- Reading a text panics if nothing or a character of several bytes ends it after its bracket. -/
lemma readStep_of_panic {name rest : List Char} (hname : '[' ∉ name)
    (hlast : ∀ c, rest.getLast? = some c → c.utf8Size ≠ 1) :
    readStep (name ++ '[' :: rest) = .error .panic := by
  have hfirst : ∀ c ∈ name, decide (c ≠ '[') = true := fun c hc => by
    simpa using ne_of_mem_of_not_mem hc hname
  rw [readStep, List.dropWhile_append_of_pos hfirst, List.dropWhile_cons_of_neg (by decide)]
  cases hc : rest.getLast? with
  | none => simp only [hc]
  | some c =>
      simp only [hc]
      rw [if_pos (hlast c hc)]

/-- Otherwise its index stands between its bracket and its last character, whatever that is. -/
lemma readStep_of_index {name index : List Char} {c : Char} (hname : '[' ∉ name)
    (hsize : c.utf8Size = 1) :
    readStep (name ++ '[' :: (index ++ [c])) =
      .ok ((parseUsize index).map (.item (String.ofList name) ·)) := by
  have hfirst : ∀ c ∈ name, decide (c ≠ '[') = true := fun c hc => by
    simpa using ne_of_mem_of_not_mem hc hname
  have htake : (name ++ '[' :: (index ++ [c])).takeWhile (· ≠ '[') = name := by
    rw [List.takeWhile_append_of_pos hfirst, List.takeWhile_cons_of_neg (by decide),
      List.append_nil]
  have hlast : (index ++ [c]).getLast? = some c := List.getLast?_concat
  rw [readStep, htake, List.dropWhile_append_of_pos hfirst,
    List.dropWhile_cons_of_neg (by decide)]
  simp only [hlast, List.dropLast_concat]
  rw [if_neg (not_not_intro hsize)]

/-- A text is read as a step, or it has no index, or reading it panics. -/
lemma readStep_cases (part : List Char) :
    (∃ step, readStep part = .ok (some step))
      ∨ (readStep part = .ok none ∨ readStep part = .error .panic) := by
  rcases em ('[' ∈ part) with hbracket | hbracket
  swap
  · exact .inl ⟨_, readStep_of_notMem hbracket⟩
  obtain ⟨name, rest, rfl, hname⟩ := List.eq_append_cons_of_mem hbracket
  rcases rest.eq_nil_or_concat' with rfl | ⟨index, c, rfl⟩
  · exact .inr (.inr (readStep_of_panic hname (by simp)))
  rcases eq_or_ne c.utf8Size 1 with hsize | hsize
  · rw [readStep_of_index hname hsize]
    cases parseUsize index with
    | none => exact .inr (.inl rfl)
    | some i => exact .inl ⟨_, rfl⟩
  · refine .inr (.inr (readStep_of_panic hname fun c' hc' => ?_))
    obtain rfl : c = c' := by simpa using hc'
    exact hsize

/-- **Where the source panics**: at a text whose first bracket ends it, and at one that has a
bracket and ends in a character of several bytes. -/
lemma readStep_eq_panic_iff :
    readStep part = .error .panic
      ↔ ∃ name rest, part = name ++ '[' :: rest ∧ '[' ∉ name
        ∧ ∀ c, rest.getLast? = some c → c.utf8Size ≠ 1 := by
  constructor
  · intro h
    have hbracket : '[' ∈ part := by
      by_contra hnone
      rw [readStep_of_notMem hnone] at h
      cases h
    obtain ⟨name, rest, rfl, hname⟩ := List.eq_append_cons_of_mem hbracket
    refine ⟨name, rest, rfl, hname, fun c hc hsize => ?_⟩
    obtain ⟨index, rfl⟩ := List.getLast?_eq_some_iff.mp hc
    rw [readStep_of_index hname hsize] at h
    cases h
  · rintro ⟨name, rest, rfl, hname, hlast⟩
    exact readStep_of_panic hname hlast

/-- A step is read as it is meant. -/
lemma Denotes.readStep (h : Denotes part step) : readStep part = .ok (some step) := by
  cases h with
  | field hopen hclose => exact readStep_of_notMem hopen
  | item hopen hclose hne hdigits hlt =>
      rw [readStep_of_index hopen (by decide), parseUsize_eq hne hdigits hlt, Option.map_some]

lemma readAs_of_denotes (h : List.Forall₂ Denotes parts steps) : ReadAs parts steps :=
  h.imp fun _ _ => Denotes.readStep

lemma ReadAs.exists_of_mem (h : ReadAs parts steps) (hpart : part ∈ parts) :
    ∃ step, readStep part = .ok (some step) := by
  induction h with
  | nil => cases hpart
  | @cons first step rest steps hfirst _ ih =>
      rcases List.mem_cons.mp hpart with rfl | hrest
      · exact ⟨step, hfirst⟩
      · exact ih hrest

/-- Where every text is well formed, it denotes what is read. -/
lemma ReadAs.denotes (h : ReadAs parts steps) (hall : ∀ part ∈ parts, WellFormed part) :
    List.Forall₂ Denotes parts steps := by
  induction h with
  | nil => exact .nil
  | @cons part step rest steps hpart _ ih =>
      obtain ⟨step', hdenotes⟩ := hall part List.mem_cons_self
      obtain rfl : step' = step :=
        Option.some.inj (Except.ok.inj (hdenotes.readStep.symm.trans hpart))
      exact .cons hdenotes (ih fun p hp => hall p (List.mem_cons_of_mem _ hp))

lemma wellFormed_of_forall₂ (h : List.Forall₂ Denotes parts steps) :
    ∀ part ∈ parts, WellFormed part := by
  induction h with
  | nil => simp
  | @cons part step rest steps hpart _ ih =>
      intro p hp
      rcases List.mem_cons.mp hp with rfl | hrest
      · exact ⟨step, hpart⟩
      · exact ih p hrest

/-- A path is read to its end, or up to the first step that is none. -/
lemma exists_readAs (parts : List (List Char)) :
    (∃ steps, ReadAs parts steps)
      ∨ ∃ before part after steps, parts = before ++ part :: after ∧ ReadAs before steps
          ∧ (readStep part = .ok none ∨ readStep part = .error .panic) := by
  induction parts with
  | nil => exact .inl ⟨[], .nil⟩
  | cons part parts ih =>
      rcases readStep_cases part with ⟨step, hstep⟩ | hnone
      · rcases ih with ⟨steps, hsteps⟩ | ⟨before, stop, after, steps, rfl, hsteps, hstop⟩
        · exact .inl ⟨step :: steps, .cons hstep hsteps⟩
        · exact .inr ⟨part :: before, stop, after, step :: steps, rfl, .cons hstep hsteps, hstop⟩
      · exact .inr ⟨[], part, parts, [], rfl, .nil, hnone⟩

/-- Of two places in a list one comes before the other, or they are the same. -/
lemma mem_or_of_append_eq {α : Type*} {a b : α} {before before' after after' : List α}
    (h : before ++ a :: after = before' ++ b :: after') : a ∈ before' ∨ a = b ∨ b ∈ before := by
  rcases List.append_eq_append_iff.mp h with ⟨between, rfl, hrest⟩ | ⟨between, rfl, hrest⟩
  · cases between with
    | nil => exact .inr (.inl (List.cons.inj hrest).1)
    | cons first between =>
        obtain rfl := (List.cons.inj hrest).1
        exact .inl (by simp)
  · cases between with
    | nil => exact .inr (.inl (List.cons.inj hrest).1.symm)
    | cons first between =>
        obtain rfl := (List.cons.inj hrest).1
        exact .inr (.inr (by simp))

/-! ### The walk over the steps -/

lemma followPath_cons (h : readStep part = .ok (some step)) :
    followPath json (part :: parts) =
      ((json.child step).map fun next => followPath next parts).getD (.ok none) := by
  rw [followPath, jsonPathStep_eq, h]
  cases hchild : json.child step <;>
    simp only [Except.map, bind, Except.bind, Option.bind_some, hchild, Option.map_some,
      Option.map_none, Option.getD_some, Option.getD_none, pure, Except.pure]

/-- What is extracted by way of steps that are read is what the steps lead to. -/
lemma followPath_append {before : List (List Char)} (h : ReadAs before steps) :
    followPath json (before ++ parts) =
      ((json.follow steps).map fun next => followPath next parts).getD (.ok none) := by
  induction h generalizing json with
  | nil => rfl
  | @cons part step before steps hpart _ ih =>
      rw [List.cons_append, followPath_cons hpart, Json.follow_cons]
      cases hchild : json.child step with
      | none => rfl
      | some next =>
          rw [Option.map_some, Option.getD_some, ih, Option.bind_some]

lemma extractJsonPath_of_readAs {path : String} (h : ReadAs (pathParts path) steps) :
    extractJsonPath json path = .ok (json.follow steps) := by
  have hwalk := @followPath_append json [] _ _ h
  rw [List.append_nil] at hwalk
  rw [extractJsonPath, ← pathParts, hwalk]
  cases json.follow steps <;> rfl

/-- Where the walk stops at a step that is none, it panics exactly if it gets there and the step
panics. -/
lemma extractJsonPath_of_stop {path : String} {before after : List (List Char)}
    (hparts : pathParts path = before ++ part :: after) (hread : ReadAs before steps)
    (hstop : readStep part = .ok none ∨ readStep part = .error .panic) :
    extractJsonPath json path =
      if readStep part = .error .panic ∧ json.follow steps ≠ none then .error .panic
      else .ok none := by
  rw [extractJsonPath, ← pathParts, hparts, followPath_append hread]
  cases hfollow : json.follow steps with
  | none => simp
  | some next =>
      rw [Option.map_some, Option.getD_some, followPath, jsonPathStep_eq]
      rcases hstop with hstop | hstop <;>
        simp [hstop, Except.map, bind, Except.bind, pure, Except.pure]

/-- A path is extracted without a panic exactly where no step that panics is reached. -/
lemma exists_extractJsonPath_iff {path : String} :
    (∃ found, extractJsonPath json path = .ok found) ↔ ¬PanicsOn json path := by
  constructor
  · rintro ⟨found, hfound⟩ ⟨before, part, after, steps, hparts, hread, hpanic, hreached⟩
    rw [extractJsonPath_of_stop hparts hread (.inr hpanic), if_pos ⟨hpanic, hreached⟩] at hfound
    cases hfound
  · intro hsafe
    rcases exists_readAs (pathParts path) with
      ⟨steps, hread⟩ | ⟨before, part, after, steps, hparts, hread, hstop⟩
    · exact ⟨_, extractJsonPath_of_readAs hread⟩
    · refine ⟨none, ?_⟩
      rw [extractJsonPath_of_stop hparts hread hstop, if_neg]
      rintro ⟨hpanic, hreached⟩
      exact hsafe ⟨before, part, after, steps, hparts, hread, hpanic, hreached⟩

/-- What is extracted is reached by steps that are read. -/
lemma exists_readAs_of_extractJsonPath {path : String}
    (h : extractJsonPath json path = .ok (some value)) :
    ∃ steps, ReadAs (pathParts path) steps ∧ json.follow steps = some value := by
  rcases exists_readAs (pathParts path) with
    ⟨steps, hread⟩ | ⟨before, part, after, steps, hparts, hread, hstop⟩
  · rw [extractJsonPath_of_readAs hread] at h
    exact ⟨steps, hread, Except.ok.inj h⟩
  · rw [extractJsonPath_of_stop hparts hread hstop] at h
    split at h <;> cases h

/-! ### Which paths are extracted as they are meant -/

variable {path : String}

/-- **A path is extracted as it is meant exactly if it is harmless on the value.** -/
lemma extractsDocumented_iff : ExtractsDocumented json path ↔ HarmlessOn json path := by
  constructor
  · rintro ⟨found, hfound, hmeans⟩
    refine ⟨exists_extractJsonPath_iff.mp ⟨found, hfound⟩, fun {steps value} hread hfollow => ?_⟩
    rw [extractJsonPath_of_readAs hread, hfollow] at hfound
    obtain ⟨steps', hdenotes, -⟩ := (hmeans value).mp (Except.ok.inj hfound).symm
    exact wellFormed_of_forall₂ hdenotes
  · intro harmless
    obtain ⟨found, hfound⟩ := exists_extractJsonPath_iff.mpr harmless.not_panicsOn
    refine ⟨found, hfound, fun value => ⟨?_, ?_⟩⟩
    · rintro rfl
      obtain ⟨steps, hread, hfollow⟩ := exists_readAs_of_extractJsonPath hfound
      exact ⟨steps, hread.denotes (harmless.wellFormed hread hfollow), hfollow⟩
    · rintro ⟨steps, hdenotes, hfollow⟩
      rw [extractJsonPath_of_readAs (readAs_of_denotes hdenotes), hfollow] at hfound
      exact (Except.ok.inj hfound).symm

/-- **A path is extracted as it is meant on every value exactly if it is harmless.** -/
lemma forall_extractsDocumented_iff :
    (∀ json, ExtractsDocumented json path) ↔ Harmless path := by
  simp only [extractsDocumented_iff]
  constructor
  · intro hall
    rcases exists_readAs (pathParts path) with
      ⟨steps, hread⟩ | ⟨before, part, after, steps, hparts, hread, hstop | hstop⟩
    -- the steps lead through some value, so the path is not harmless on it otherwise
    · exact .inl ((hall (Json.along steps)).wellFormed hread (Json.follow_along steps))
    · refine .inr ⟨before, part, after, hparts, hstop, fun p hp => ?_⟩
      obtain ⟨step, hstep⟩ := hread.exists_of_mem hp
      simp [hstep]
    · refine absurd ⟨before, part, after, steps, hparts, hread, hstop, ?_⟩
        (hall (Json.along steps)).not_panicsOn
      simp [Json.follow_along]
  · rintro (hall | ⟨before, part, after, hparts, hnone, hbefore⟩) json
    · refine ⟨?_, fun _ _ => hall⟩
      rintro ⟨before, part, after, steps, hparts, -, hpanic, -⟩
      obtain ⟨step, hdenotes⟩ := hall part (by simp [hparts])
      simp [hdenotes.readStep] at hpanic
    · refine ⟨?_, fun {steps value} hread _ => ?_⟩
      · rintro ⟨before', part', after', steps, hparts', hread, hpanic, -⟩
        -- the step that panics comes after the one without an index, which nothing reads past
        rcases mem_or_of_append_eq (hparts.symm.trans hparts') with hmem | heq | hmem
        · obtain ⟨step, hstep⟩ := hread.exists_of_mem hmem
          simp [hnone] at hstep
        · rw [heq, hpanic] at hnone
          cases hnone
        · exact hbefore part' hmem hpanic
      · obtain ⟨step, hstep⟩ := hread.exists_of_mem (show part ∈ pathParts path by simp [hparts])
        simp [hnone] at hstep

/-- **Extraction is safe and means what it says exactly on harmless paths**: on one value if no
step that panics is reached and no value is reached by way of a misread step, and on every value if
every step is well formed or a step without an index comes before every step that panics. -/
theorem extractJsonPath_means (path : String) :
    (∀ json, ExtractsDocumented json path ↔ HarmlessOn json path)
      ∧ ((∀ json, ExtractsDocumented json path) ↔ Harmless path) :=
  ⟨fun _ => extractsDocumented_iff, forall_extractsDocumented_iff⟩

/-- A path that ends in an opening bracket panics, and one whose bracket is closed by another
character reaches the element. -/
theorem not_extractsDocumented_unclosed :
    ¬ExtractsDocumented (.object [("status", .object [("ports", .array [.bool true])])]) "status["
      ∧ ¬ExtractsDocumented (.object [("status", .object [("ports", .array [.bool true])])])
          "status.ports[0x" := by
  constructor
  · rintro ⟨found, hfound, -⟩
    have hpanic : extractJsonPath
        (.object [("status", .object [("ports", .array [.bool true])])]) "status[" =
          .error .panic := by
      rfl
    rw [hpanic] at hfound
    cases hfound
  · rw [extractsDocumented_iff]
    intro harmless
    have hparts : pathParts "status.ports[0x" = ["status".toList, "ports[0x".toList] := by
      decide
    have hread : ReadAs (pathParts "status.ports[0x") [.field "status", .item "ports" 0] := by
      rw [hparts]
      exact .cons (by decide) (.cons (by decide) .nil)
    have hfollow : (Json.object [("status", .object [("ports", .array [.bool true])])]).follow
        [.field "status", .item "ports" 0] = some (.bool true) := rfl
    obtain ⟨step, hdenotes⟩ := harmless.wellFormed hread hfollow "ports[0x".toList
      (by rw [hparts]; simp)
    exact absurd (hdenotes.getLast?_eq (by decide)) (by decide)

end

end UdpDirector
