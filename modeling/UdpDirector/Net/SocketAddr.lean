import Mathlib.Algebra.Group.Nat.Defs
import Mathlib.Data.Nat.Notation
import Mathlib.Data.List.TakeWhile

/-!
IP and socket addresses, and the text the standard library reads them from.

* `IpAddr`, `SocketAddr`: addresses as values;
* `readNumber`, `readIpv4`, `readGroups`, `readIpv6`, `readPort`: the readers of
  `core::net`, each returning what it read and the rest of the text, or nothing;
* `parseIpAddr`, `parseSocketAddr`: `str::parse`, which must consume all of the
  text;
* `parseSocketAddr_of_ipv4`, `isIpv4Text_of_parseSocketAddr`: an address followed
  by a colon and a port, as the data proxy writes its target, reads as that
  address exactly if it is IPv4.
-/

namespace UdpDirector

/-! ### Addresses -/

/-- An IP address. -/
inductive IpAddr where
  | v4 (a b c d : UInt8)
  | v6 (groups : Vector UInt16 8)
  deriving DecidableEq, Repr

/-- A socket address; the scope is zero except for some IPv6 addresses. -/
structure SocketAddr where
  ip : IpAddr
  port : UInt16
  scopeId : UInt32 := 0
  deriving DecidableEq, Repr

/-! ### Readers -/

/-- `char::to_digit`. -/
def toDigit (radix : ℕ) (c : Char) : Option ℕ :=
  let value :=
    if '0' ≤ c ∧ c ≤ '9' then some (c.toNat - '0'.toNat)
    else if 'a' ≤ c ∧ c ≤ 'z' then some (c.toNat - 'a'.toNat + 10)
    else if 'A' ≤ c ∧ c ≤ 'Z' then some (c.toNat - 'A'.toNat + 10)
    else none
  value.filter (· < radix)

/-- The value of a list of digits. -/
def digitsValue (radix : ℕ) (digits : List Char) : ℕ :=
  digits.foldl (fun n c => n * radix + (toDigit radix c).getD 0) 0

/-- A given character. -/
def readChar (c : Char) : List Char → Option (List Char)
  | [] => none
  | d :: rest => if d = c then some rest else none

/-- `read_number`: the longest run of digits, refused when it is empty, too long,
has a leading zero that is not allowed, or leaves the range of its type. -/
def readNumber (radix : ℕ) (maxDigits : Option ℕ) (allowZeroPrefix : Bool) (size : ℕ)
    (s : List Char) : Option (ℕ × List Char) :=
  let digits := s.takeWhile fun c => (toDigit radix c).isSome
  if digits = [] ∨ (∃ m ∈ maxDigits, m < digits.length)
      ∨ (allowZeroPrefix = false ∧ digits.head? = some '0' ∧ 1 < digits.length)
      ∨ size ≤ digitsValue radix digits then
    none
  else
    some (digitsValue radix digits, s.dropWhile fun c => (toDigit radix c).isSome)

/-- An octet of an IPv4 address. -/
def readOctet (s : List Char) : Option (UInt8 × List Char) :=
  (readNumber 10 (some 3) false (2 ^ 8) s).map fun (n, rest) => (UInt8.ofNat n, rest)

/-- An octet after a dot. -/
def readDotOctet (s : List Char) : Option (UInt8 × List Char) :=
  (readChar '.' s).bind readOctet

/-- `read_ipv4_addr`. -/
def readIpv4 (s : List Char) : Option (IpAddr × List Char) := do
  let (a, s) ← readOctet s
  let (b, s) ← readDotOctet s
  let (c, s) ← readDotOctet s
  let (d, s) ← readDotOctet s
  return (.v4 a b c d, s)

/-- `read_separator` before the group with the given number. -/
def readSeparator (index : ℕ) (s : List Char) : Option (List Char) :=
  if index = 0 then some s else readChar ':' s

/-- The two groups of an embedded IPv4 address. -/
def embedded : IpAddr → List UInt16
  | .v4 a b c d =>
      [UInt16.ofNat (a.toNat * 256 + b.toNat), UInt16.ofNat (c.toNat * 256 + d.toNat)]
  | .v6 _ => []

/-- `read_groups`: the groups read before the first failure, at most `room` of
them after the `index` ones read so far, and whether an IPv4 address ended them. -/
def readGroups (index : ℕ) : ℕ → List Char → List UInt16 × Bool × List Char
  | 0, s => ([], false, s)
  | room + 1, s =>
      match (if 0 < room then (readSeparator index s).bind readIpv4 else none) with
      | some (v4, rest) => (embedded v4, true, rest)
      | none =>
          match (readSeparator index s).bind (readNumber 16 (some 4) true (2 ^ 16)) with
          | some (group, rest) =>
              let (groups, ipv4, rest) := readGroups (index + 1) room rest
              (UInt16.ofNat group :: groups, ipv4, rest)
          | none => ([], false, s)

/-- The groups before and after `::`, zeros between them. -/
def assemble (head tail : List UInt16) : Vector UInt16 8 :=
  Vector.ofFn fun i =>
    (head ++ List.replicate (8 - head.length - tail.length) 0 ++ tail).getD i 0

/-- `read_ipv6_addr`. -/
def readIpv6 (s : List Char) : Option (IpAddr × List Char) :=
  match readGroups 0 8 s with
  | (head, ipv4, s) =>
      if head.length = 8 then
        some (.v6 (assemble head []), s)
      else if ipv4 then
        none
      else do
        let s ← readChar ':' s
        let s ← readChar ':' s
        let (tail, _, s) := readGroups 0 (8 - (head.length + 1)) s
        return (.v6 (assemble head tail), s)

/-- `read_port`. -/
def readPort (s : List Char) : Option (UInt16 × List Char) :=
  ((readChar ':' s).bind (readNumber 10 none true (2 ^ 16))).map
    fun (n, rest) => (UInt16.ofNat n, rest)

/-- `read_scope_id`, zero where there is none. -/
def readScopeId (s : List Char) : UInt32 × List Char :=
  match (readChar '%' s).bind (readNumber 10 none true (2 ^ 32)) with
  | some (n, rest) => (UInt32.ofNat n, rest)
  | none => (0, s)

/-- `read_socket_addr_v4`. -/
def readSocketAddrV4 (s : List Char) : Option (SocketAddr × List Char) := do
  let (ip, s) ← readIpv4 s
  let (port, s) ← readPort s
  return ({ ip, port }, s)

/-- `read_socket_addr_v6`. -/
def readSocketAddrV6 (s : List Char) : Option (SocketAddr × List Char) := do
  let s ← readChar '[' s
  let (ip, s) ← readIpv6 s
  let (scopeId, s) := readScopeId s
  let s ← readChar ']' s
  let (port, s) ← readPort s
  return ({ ip, port, scopeId }, s)

/-! ### Parsing -/

/-- A reader that must consume all of the text. -/
def parseWith {α : Type*} (read : List Char → Option (α × List Char)) (s : String) : Option α :=
  match read s.toList with
  | some (a, []) => some a
  | _ => none

/-- `str::parse::<IpAddr>`. -/
def parseIpAddr : String → Option IpAddr :=
  parseWith fun s => readIpv4 s <|> readIpv6 s

/-- `str::parse::<SocketAddr>`. -/
def parseSocketAddr : String → Option SocketAddr :=
  parseWith fun s => readSocketAddrV4 s <|> readSocketAddrV6 s

/-- The text of an IPv4 address. -/
def IsIpv4Text (s : String) : Prop := ∃ ip, readIpv4 s.toList = some (ip, [])

instance (s : String) : Decidable (IsIpv4Text s) :=
  match h : readIpv4 s.toList with
  | some (ip, []) => .isTrue ⟨ip, h⟩
  | some (ip, c :: rest) => .isFalse fun ⟨_, h'⟩ => by simp [h] at h'
  | none => .isFalse fun ⟨_, h'⟩ => by simp [h] at h'

example : parseIpAddr "fd00::a:1.2.3.4"
    = some (.v6 #v[0xfd00, 0, 0, 0, 0, 0xa, 0x102, 0x304]) := by decide

example : parseSocketAddr "[fe80::1%7]:0080"
    = some { ip := .v6 #v[0xfe80, 0, 0, 0, 0, 0, 0, 1], port := 80, scopeId := 7 } := by decide

/-! ### Reading past the end of an address -/

section

variable {radix : ℕ} {maxDigits : Option ℕ} {allowZeroPrefix : Bool} {size : ℕ}

/-- A number reads the same when text follows that does not start with a digit. -/
lemma readNumber_append {s rest t : List Char} {n : ℕ}
    (ht : ∀ c ∈ t.head?, toDigit radix c = none)
    (h : readNumber radix maxDigits allowZeroPrefix size s = some (n, rest)) :
    readNumber radix maxDigits allowZeroPrefix size (s ++ t) = some (n, rest ++ t) := by
  have hsplit : ∀ s : List Char,
      (s ++ t).takeWhile (fun c => (toDigit radix c).isSome)
          = s.takeWhile (fun c => (toDigit radix c).isSome)
        ∧ (s ++ t).dropWhile (fun c => (toDigit radix c).isSome)
          = s.dropWhile (fun c => (toDigit radix c).isSome) ++ t := by
    intro s
    induction s with
    | nil =>
        cases t with
        | nil => simp
        | cons c t =>
            have hc : toDigit radix c = none := ht c rfl
            simp [hc]
    | cons c s ih =>
        cases hc : (toDigit radix c).isSome with
        | false => simp [hc]
        | true => simpa [hc] using ih
  obtain ⟨htake, hdrop⟩ := hsplit s
  simp only [readNumber, htake, hdrop] at h ⊢
  split at h
  · exact absurd h (by simp)
  · rename_i hgood
    obtain ⟨rfl, rfl⟩ := Prod.mk.inj (Option.some.inj h)
    rw [if_neg hgood]

end

lemma readOctet_append {s rest t : List Char} {a : UInt8}
    (ht : ∀ c ∈ t.head?, toDigit 10 c = none) (h : readOctet s = some (a, rest)) :
    readOctet (s ++ t) = some (a, rest ++ t) := by
  rw [readOctet, Option.map_eq_some_iff] at h
  obtain ⟨⟨n, rest'⟩, hn, heq⟩ := h
  obtain ⟨rfl, rfl⟩ := Prod.mk.inj heq
  rw [readOctet, readNumber_append ht hn]
  rfl

lemma readChar_append {c : Char} {s rest : List Char} (t : List Char)
    (h : readChar c s = some rest) : readChar c (s ++ t) = some (rest ++ t) := by
  cases s with
  | nil => simp [readChar] at h
  | cons d s =>
      simp only [readChar, Option.ite_none_right_eq_some, Option.some.injEq] at h
      obtain ⟨rfl, rfl⟩ := h
      simp [readChar]

lemma readDotOctet_append {s rest t : List Char} {a : UInt8}
    (ht : ∀ c ∈ t.head?, toDigit 10 c = none) (h : readDotOctet s = some (a, rest)) :
    readDotOctet (s ++ t) = some (a, rest ++ t) := by
  obtain ⟨s', hs', h⟩ := Option.bind_eq_some_iff.mp h
  rw [readDotOctet, readChar_append t hs', Option.bind_some]
  exact readOctet_append ht h

/-- An IPv4 address reads the same when text follows that does not start with a
digit. -/
lemma readIpv4_append {s rest t : List Char} {ip : IpAddr}
    (ht : ∀ c ∈ t.head?, toDigit 10 c = none) (h : readIpv4 s = some (ip, rest)) :
    readIpv4 (s ++ t) = some (ip, rest ++ t) := by
  simp only [readIpv4, bind, pure, Option.bind_eq_some_iff, Prod.exists] at h
  obtain ⟨a, s₁, h₁, b, s₂, h₂, c, s₃, h₃, d, s₄, h₄, h⟩ := h
  obtain ⟨rfl, rfl⟩ := Prod.mk.inj (Option.some.inj h)
  simp only [readIpv4, bind, pure, readOctet_append ht h₁, readDotOctet_append ht h₂,
    readDotOctet_append ht h₃, readDotOctet_append ht h₄, Option.bind_some]

/-! ### Reading a port back -/

lemma toDigit_ten_of_isDigit {c : Char} (h : c.isDigit = true) :
    toDigit 10 c = some (c.toNat - '0'.toNat) := by
  rw [Char.isDigit, Bool.and_eq_true, decide_eq_true_iff, decide_eq_true_iff] at h
  have hle : '0' ≤ c ∧ c ≤ '9' := h
  have hlt : c.toNat - 48 < 10 := by
    have h9 : c.toNat ≤ 57 := h.2
    omega
  simp [toDigit, hle, hlt]

lemma digitsValue_of_isDigit {digits : List Char} (h : ∀ c ∈ digits, c.isDigit = true) :
    digitsValue 10 digits = Nat.ofDigitChars 10 digits 0 := by
  have hgen : ∀ (digits : List Char) (n : ℕ), (∀ c ∈ digits, c.isDigit = true) →
      digits.foldl (fun n c => n * 10 + (toDigit 10 c).getD 0) n
        = Nat.ofDigitChars 10 digits n := by
    intro digits
    induction digits with
    | nil => intro n _; simp
    | cons c digits ih =>
        intro n hall
        rw [List.foldl_cons, Nat.ofDigitChars_cons, Nat.mul_comm 10 n,
          ← ih _ fun d hd => hall d (List.mem_cons_of_mem c hd),
          toDigit_ten_of_isDigit (hall c List.mem_cons_self), Option.getD_some]
  exact hgen digits 0 h

/-- The decimal digits of a number in range read back as that number. -/
lemma readNumber_toDigits {n size : ℕ} (h : n < size) :
    readNumber 10 none true size (Nat.toDigits 10 n) = some (n, []) := by
  have hall : ∀ c ∈ Nat.toDigits 10 n, c.isDigit = true :=
    fun c hc => Nat.isDigit_of_mem_toDigits (by decide) (by decide) hc
  have hsome : ∀ c ∈ Nat.toDigits 10 n, (toDigit 10 c).isSome = true :=
    fun c hc => by rw [toDigit_ten_of_isDigit (hall c hc), Option.isSome_some]
  have htake : (Nat.toDigits 10 n).takeWhile (fun c => (toDigit 10 c).isSome)
      = Nat.toDigits 10 n := by
    rw [List.takeWhile_eq_self_iff]
    exact hsome
  have hdrop : (Nat.toDigits 10 n).dropWhile (fun c => (toDigit 10 c).isSome) = [] := by
    rw [List.dropWhile_eq_nil_iff]
    exact hsome
  have hvalue : digitsValue 10 (Nat.toDigits 10 n) = n := by
    rw [digitsValue_of_isDigit hall, Nat.ofDigitChars_toDigits (by decide) (by decide)]
  simp only [readNumber, htake, hdrop, hvalue]
  rw [if_neg]
  simp [Nat.toDigits_ne_nil, h]

lemma readPort_toDigits (port : UInt16) :
    readPort (':' :: Nat.toDigits 10 port.toNat) = some (port, []) := by
  have hlt : port.toNat < 2 ^ 16 := port.toNat_lt
  rw [readPort, readChar, if_pos rfl, Option.bind_some, readNumber_toDigits hlt]
  simp

/-! ### A target address -/

/-- The text of a target, as `get_target_addr` formats it. -/
def targetText (address : String) (port : UInt16) : String :=
  address ++ ":" ++ toString port.toNat

lemma toList_targetText (address : String) (port : UInt16) :
    (targetText address port).toList = address.toList ++ ':' :: Nat.toDigits 10 port.toNat := by
  simp [targetText]

/-- A bracket starts no IP address. -/
lemma readIpv6_bracket (s : List Char) : readIpv6 ('[' :: s) = none := by
  have hdigit : toDigit 16 '[' = none := by decide
  have hdigit' : toDigit 10 '[' = none := by decide
  have hnum : ∀ m z k, readNumber 16 m z k ('[' :: s) = none := by
    intro m z k
    simp [readNumber, hdigit]
  have hoctet : readIpv4 ('[' :: s) = none := by
    simp [readIpv4, readOctet, readNumber, hdigit']
  simp [readIpv6, readGroups, readSeparator, hnum, hoctet, readChar]

lemma ip_of_readIpv4 {s rest : List Char} {ip : IpAddr} (h : readIpv4 s = some (ip, rest)) :
    ∃ a b c d, ip = .v4 a b c d := by
  simp only [readIpv4, bind, pure, Option.bind_eq_some_iff, Prod.exists] at h
  obtain ⟨a, s₁, -, b, s₂, -, c, s₃, -, d, s₄, -, h⟩ := h
  exact ⟨a, b, c, d, (Prod.mk.inj (Option.some.inj h)).1.symm⟩

lemma ip_of_readIpv6 {s rest : List Char} {ip : IpAddr} (h : readIpv6 s = some (ip, rest)) :
    ∃ groups, ip = .v6 groups := by
  rw [readIpv6] at h
  split at h
  · split at h
    · exact ⟨_, (Prod.mk.inj (Option.some.inj h)).1.symm⟩
    · split at h
      · exact absurd h (by simp)
      · simp only [bind, pure, Option.bind_eq_some_iff] at h
        obtain ⟨s₁, -, s₂, -, h⟩ := h
        exact ⟨_, (Prod.mk.inj (Option.some.inj h)).1.symm⟩

lemma parseWith_eq_some {α : Type*} {read : List Char → Option (α × List Char)} {s : String}
    {a : α} : parseWith read s = some a ↔ read s.toList = some (a, []) := by
  rw [parseWith]
  constructor
  · intro h
    split at h
    · rename_i b hb
      rw [hb, Option.some.inj h]
    · exact absurd h (by simp)
  · intro h
    rw [h]

lemma parseIpAddr_of_ipv4 {address : String} {ip : IpAddr}
    (h : readIpv4 address.toList = some (ip, [])) : parseIpAddr address = some ip := by
  rw [parseIpAddr, parseWith_eq_some, h]
  rfl

/-- **A target reads back as its IPv4 address and port.** -/
lemma parseSocketAddr_of_ipv4 {address : String} {ip : IpAddr} (port : UInt16)
    (h : readIpv4 address.toList = some (ip, [])) :
    parseSocketAddr (targetText address port) = some { ip, port } := by
  have hcolon : ∀ c ∈ (':' :: Nat.toDigits 10 port.toNat).head?, toDigit 10 c = none := by
    intro c hc
    obtain rfl : ':' = c := by simpa using hc
    decide
  have hread : readSocketAddrV4 (targetText address port).toList = some ({ ip, port }, []) := by
    rw [toList_targetText, readSocketAddrV4, readIpv4_append hcolon h]
    simp [readPort_toDigits]
  simp [parseSocketAddr, parseWith, hread]

/-- **A target that reads as its address is IPv4**: for any other address the
text of the target is read as something else, or not at all. -/
lemma isIpv4Text_of_parseSocketAddr {address : String} {port : UInt16} {target : SocketAddr}
    (hip : parseIpAddr address = some target.ip)
    (h : parseSocketAddr (targetText address port) = some target) : IsIpv4Text address := by
  rw [parseIpAddr, parseWith_eq_some, Option.orElse_eq_orElse, Option.orElse_eq_or,
    Option.or_eq_some_iff] at hip
  rcases hip with hv4 | ⟨-, hv6⟩
  · exact ⟨_, hv4⟩
  · obtain ⟨groups, hgroups⟩ := ip_of_readIpv6 hv6
    rw [parseSocketAddr, parseWith_eq_some, toList_targetText, Option.orElse_eq_orElse,
      Option.orElse_eq_or, Option.or_eq_some_iff] at h
    rcases h with h | ⟨-, h⟩
    · -- read as IPv4, the target cannot have an IPv6 address
      simp only [readSocketAddrV4, bind, pure, Option.bind_eq_some_iff, Prod.exists] at h
      obtain ⟨ip, rest, hread, port', rest', -, h⟩ := h
      obtain ⟨a, b, c, d, rfl⟩ := ip_of_readIpv4 hread
      have htarget := (Prod.mk.inj (Option.some.inj h)).1
      simp [← htarget] at hgroups
    · -- read as IPv6, the address starts with a bracket, and then it is no IP address
      simp only [readSocketAddrV6, bind, Option.bind_eq_some_iff] at h
      obtain ⟨rest, hbracket, -⟩ := h
      cases hs : address.toList with
      | nil => simp [hs, readChar] at hbracket
      | cons c s =>
          simp only [hs, List.cons_append, readChar, Option.ite_none_right_eq_some] at hbracket
          rw [hs, hbracket.1, readIpv6_bracket] at hv6
          simp at hv6

end UdpDirector
