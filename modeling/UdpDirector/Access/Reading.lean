import UdpDirector.Access.Request
import UdpDirector.Foundation.Framing

/-!
How a request is read off a connection (`read_request` in `query_server.rs`).

* `readRequest`: the loop over what the reads return, each one a `Chunk`; what
  `serde_json::from_slice` makes of a byte string is a parameter, `FromSlice`;
* `LeftToRight`: the parser has no lookahead and needs none;
* `readRequest_eq`: the loop is the reader of `Framing` for the judge of the parser;
* `fragmentation_iff`: the outcome does not depend on the chunks exactly where the longest
  part of the stream that can be parsed with the document is a document too, within the limit;
* `trailing_byte_depends_on_chunks`: where it is not.
-/

namespace UdpDirector

/-! ### The loop -/

/-- `serde_json::Error`. -/
structure JsonError where
  isEof : Bool
  text : String
  deriving DecidableEq, Repr

/-- `serde_json::from_slice` at the type of a request. -/
abbrev FromSlice := List UInt8 → Except JsonError QueryRequest

/-- The size of the buffer of a read. -/
def chunkBytes : ℕ := 4096

/-- The limit on the bytes of a request. -/
def maxRequestBytes : ℕ := 65536

/-- What a read returns before the stream ends. -/
structure Chunk where
  bytes : List UInt8
  nonempty : bytes ≠ []
  fits : bytes.length ≤ chunkBytes

/-- The byte stream of some chunks. -/
def Chunk.stream (chunks : List Chunk) : List UInt8 := (chunks.map Chunk.bytes).flatten

/-- `read_request`, from the payload read so far and the chunks that are still to come. -/
def readRequest (fromSlice : FromSlice) : List UInt8 → List Chunk →
    Except String (Option QueryRequest)
  | payload, [] => if payload = [] then .ok none else .error "Incomplete JSON request"
  | payload, chunk :: chunks =>
      if maxRequestBytes < (payload ++ chunk.bytes).length then
        .error "Query exceeds 65536 bytes"
      else
        match fromSlice (payload ++ chunk.bytes) with
        | .ok request => .ok (some request)
        | .error error =>
            if error.isEof then
              readRequest fromSlice (payload ++ chunk.bytes) chunks
            else
              .error error.text

/-! ### The parser -/

/-- The parser reads from left to right: after a document come blanks or an error, and what
follows an error that is not an unexpected end makes no document of it. -/
structure LeftToRight (fromSlice : FromSlice) : Prop where
  ok_append : ∀ s t request, fromSlice s = .ok request → fromSlice (s ++ t) = .ok request
    ∨ ∃ error, fromSlice (s ++ t) = .error error ∧ error.isEof = false
  error_append : ∀ s t error request, fromSlice s = .error error → error.isEof = false →
    fromSlice (s ++ t) ≠ .ok request

/-- The verdict of the parser on the payload. -/
def verdict : Except JsonError QueryRequest → Framing.Verdict QueryRequest
  | .ok request => .accept request
  | .error error => if error.isEof then .more else .reject

@[simp] lemma verdict_eq_accept {r : Except JsonError QueryRequest} {request : QueryRequest} :
    verdict r = .accept request ↔ r = .ok request := by
  unfold verdict
  split
  · simp
  · split <;> simp

@[simp] lemma verdict_eq_reject {r : Except JsonError QueryRequest} :
    verdict r = .reject ↔ ∃ error, r = .error error ∧ error.isEof = false := by
  unfold verdict
  split
  · simp
  · split <;> simp_all

section

variable {fromSlice : FromSlice}

lemma LeftToRight.sequential (h : LeftToRight fromSlice) :
    Framing.Sequential fun s => verdict (fromSlice s) := by
  refine ⟨fun s t request hs => ?_, fun s t request hs => ?_⟩
  · simp only [verdict_eq_accept, verdict_eq_reject] at hs ⊢
    exact h.ok_append s t request hs
  · simp only [verdict_eq_reject, ne_eq, verdict_eq_accept] at hs ⊢
    obtain ⟨error, hs, heof⟩ := hs
    exact h.error_append s t error request hs heof

/-- **The loop is a reader**: it returns the request that the reader of the chunks returns,
rejects without one, and returns no request only on an empty stream. -/
theorem readRequest_eq (payload : List UInt8) (chunks : List Chunk) :
    (readRequest fromSlice payload chunks).toOption
      = if payload ++ Chunk.stream chunks = [] then some none
        else (Framing.read maxRequestBytes (fun s => verdict (fromSlice s)) payload
          (chunks.map Chunk.bytes)).map some := by
  induction chunks generalizing payload with
  | nil =>
      rw [readRequest]
      split
      · simp_all [Chunk.stream, Except.toOption]
      · simp_all [Chunk.stream, Except.toOption, Framing.read]
  | cons chunk chunks ih =>
      have hne : payload ++ chunk.bytes ++ Chunk.stream chunks ≠ [] := by
        rw [ne_eq, List.append_eq_nil_iff, List.append_eq_nil_iff]
        exact fun hnil => chunk.nonempty hnil.1.2
      have hstream : payload ++ Chunk.stream (chunk :: chunks)
          = payload ++ chunk.bytes ++ Chunk.stream chunks := by
        rw [Chunk.stream, List.map_cons, List.flatten_cons, List.append_assoc, Chunk.stream]
      have hrest := ih (payload ++ chunk.bytes)
      rw [if_neg hne] at hrest
      rw [hstream, if_neg hne, List.map_cons, readRequest, Framing.read]
      split
      · rfl
      · cases hparse : fromSlice (payload ++ chunk.bytes) with
        | ok request => rfl
        | error error =>
            cases heof : error.isEof with
            | true => simp only [verdict, heof, if_true, hrest]
            | false => simp [verdict, heof, Except.toOption]

/-! ### Chunks as pieces -/

lemma cut_of_chunks (chunks : List Chunk) :
    Framing.Cut chunkBytes (Chunk.stream chunks) (chunks.map Chunk.bytes) := by
  refine ⟨rfl, fun piece hpiece => ?_, fun piece hpiece => ?_⟩
  · obtain ⟨chunk, -, rfl⟩ := List.mem_map.mp hpiece
    exact chunk.nonempty
  · obtain ⟨chunk, -, rfl⟩ := List.mem_map.mp hpiece
    exact chunk.fits

/-- The pieces of a stream are chunks. -/
lemma exists_chunks {stream : List UInt8} {pieces : List (List UInt8)}
    (h : Framing.Cut chunkBytes stream pieces) :
    ∃ chunks, Chunk.stream chunks = stream ∧ chunks.map Chunk.bytes = pieces := by
  obtain ⟨rfl, hne, hle⟩ := h
  induction pieces with
  | nil => exact ⟨[], rfl, rfl⟩
  | cons piece pieces ih =>
      obtain ⟨chunks, -, rfl⟩ := ih (fun p hp => hne p (List.mem_cons_of_mem piece hp))
        fun p hp => hle p (List.mem_cons_of_mem piece hp)
      exact ⟨⟨piece, hne piece List.mem_cons_self, hle piece List.mem_cons_self⟩ :: chunks,
        rfl, rfl⟩

/-! ### Fragmentation -/

/-- **Fragmentation.** For every byte stream, all ways in which reads may split it have the
same outcome, the same request or a rejection, if and only if the following holds of the
shortest document that the stream begins with, where it is within the limit: what a read can
return together with the last byte of it is a document too, and within the limit. -/
theorem fragmentation_iff (h : LeftToRight fromSlice) (stream : List UInt8) :
    (∀ chunks chunks', Chunk.stream chunks = stream → Chunk.stream chunks' = stream →
        (readRequest fromSlice [] chunks).toOption = (readRequest fromSlice [] chunks').toOption)
      ↔ ∀ k, Framing.First (fun s => verdict (fromSlice s)) stream k → k ≤ maxRequestBytes →
        min stream.length (k + chunkBytes - 1) ≤ maxRequestBytes
          ∧ ∃ request, fromSlice (stream.take (min stream.length (k + chunkBytes - 1)))
              = .ok request := by
  have hindependent := Framing.independent_iff maxRequestBytes stream h.sequential
    (show 0 < chunkBytes by decide)
  simp only [verdict_eq_accept] at hindependent
  rw [← hindependent]
  constructor
  · intro hsame pieces pieces' hcut hcut'
    obtain ⟨chunks, hstream, rfl⟩ := exists_chunks hcut
    obtain ⟨chunks', hstream', rfl⟩ := exists_chunks hcut'
    have heq := hsame chunks chunks' hstream hstream'
    rw [readRequest_eq, readRequest_eq, List.nil_append, List.nil_append, hstream, hstream'] at heq
    split at heq
    · rename_i hnil
      have hnone : ¬∃ k, Framing.First (fun s => verdict (fromSlice s)) stream k := by
        rintro ⟨k, hfirst⟩
        have hle := hfirst.le
        rw [hnil] at hle
        exact absurd hfirst.pos (Nat.not_lt_of_ge hle)
      rw [Framing.read_eq_none hcut hnone h.sequential,
        Framing.read_eq_none hcut' hnone h.sequential]
    · exact Option.map_injective (Option.some_injective _) heq
  · intro hsame chunks chunks' hstream hstream'
    rw [readRequest_eq, readRequest_eq, List.nil_append, List.nil_append, hstream, hstream',
      hsame _ _ (hstream ▸ cut_of_chunks chunks) (hstream' ▸ cut_of_chunks chunks')]

end

/-! ### A byte after the document -/

namespace Sample

/-- The bytes of an ASCII text. -/
def asciiBytes (text : String) : List UInt8 := text.toList.map fun c => c.toNat.toUInt8

/-- A lookup on the map `arena`. -/
def lookupDocument : List UInt8 :=
  asciiBytes "\x7b\"type\":\"characterList\",\"map\":\"arena\"\x7d"

/-- What follows a document is blank. -/
def isBlank (byte : UInt8) : Bool := [9, 10, 13, 32].contains byte

/-- A parser of the one document. -/
def lookupParser : FromSlice := fun s =>
  if lookupDocument <+: s then
    if (s.drop lookupDocument.length).all isBlank then
      .ok (.characterList "arena" [])
    else
      .error ⟨false, "trailing characters at line 1 column 39"⟩
  else if s <+: lookupDocument then
    .error ⟨true, "EOF while parsing"⟩
  else
    .error ⟨false, "expected value"⟩

lemma lookupParser_eq_ok {s : List UInt8} {request : QueryRequest} :
    lookupParser s = .ok request
      ↔ lookupDocument <+: s ∧ (s.drop lookupDocument.length).all isBlank = true
        ∧ QueryRequest.characterList "arena" [] = request := by
  unfold lookupParser
  split
  · split <;> simp_all
  · split <;> simp_all

lemma leftToRight_lookupParser : LeftToRight lookupParser := by
  refine ⟨fun s t request hs => ?_, fun s t error request hs heof => ?_⟩
  · obtain ⟨hdocument, -, rfl⟩ := lookupParser_eq_ok.mp hs
    have happend : lookupDocument <+: s ++ t := hdocument.trans (List.prefix_append s t)
    rw [lookupParser, if_pos happend]
    split
    · exact .inl rfl
    · exact .inr ⟨_, rfl, rfl⟩
  · intro hok
    obtain ⟨hdocument, hblank, -⟩ := lookupParser_eq_ok.mp hok
    rw [lookupParser] at hs
    rcases List.prefix_or_prefix_of_prefix hdocument (List.prefix_append s t) with hle | hge
    · -- the document has been read already, and a blank cannot be missing before a blank
      obtain ⟨rest, rfl⟩ := hle
      rw [List.append_assoc, List.drop_left, List.all_append, Bool.and_eq_true] at hblank
      rw [if_pos (List.prefix_append lookupDocument rest), List.drop_left, if_pos hblank.1] at hs
      cases hs
    · split at hs
      · rename_i hle
        obtain rfl : s = lookupDocument := hge.eq_of_length_le hle.length_le
        rw [List.drop_length, List.all_nil, if_pos rfl] at hs
        cases hs
      · obtain rfl := Except.error.inj hs
        cases heof

/-- The document in one chunk. -/
def documentChunk : Chunk := ⟨lookupDocument, by decide, by decide⟩

/-- One more byte. -/
def trailingChunk : Chunk := ⟨asciiBytes "x", by decide, by decide⟩

/-- The document and the byte in one chunk. -/
def wholeChunk : Chunk := ⟨lookupDocument ++ asciiBytes "x", by decide, by decide⟩

/-- The document and a newline. -/
def documentLine : List UInt8 := lookupDocument ++ asciiBytes "\n"

/-- The newline alone. -/
def newlineChunk : Chunk := ⟨asciiBytes "\n", by decide, by decide⟩

/-- The document and the newline in one chunk. -/
def lineChunk : Chunk := ⟨documentLine, by decide, by decide⟩

end Sample

/-- A document and a newline are read alike in one chunk and in two. -/
theorem fragmentation_iff_sample :
    (readRequest Sample.lookupParser [] [Sample.lineChunk]).toOption
      = (readRequest Sample.lookupParser []
          [Sample.documentChunk, Sample.newlineChunk]).toOption := by
  refine (fragmentation_iff Sample.leftToRight_lookupParser Sample.documentLine).mpr ?_ _ _
    (by decide) (by decide)
  intro k hfirst hlimit
  have hlength : Sample.documentLine.length = 39 := by decide
  have hpos := hfirst.pos
  have hmin : min Sample.documentLine.length (k + chunkBytes - 1) = 39 := by
    rw [hlength, chunkBytes]
    omega
  rw [hmin]
  exact ⟨by decide, .characterList "arena" [], by decide +kernel⟩

/-- **A trailing byte is seen or not**: with the document in one chunk it is rejected, in a
chunk of its own it is never read. -/
theorem trailing_byte_depends_on_chunks :
    Chunk.stream [Sample.wholeChunk] = Chunk.stream [Sample.documentChunk, Sample.trailingChunk]
      ∧ readRequest Sample.lookupParser [] [Sample.wholeChunk]
        = .error "trailing characters at line 1 column 39"
      ∧ readRequest Sample.lookupParser [] [Sample.documentChunk, Sample.trailingChunk]
        = .ok (some (.characterList "arena" [])) := by
  decide +kernel

end UdpDirector
