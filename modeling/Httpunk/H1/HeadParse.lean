import Httpunk.H1.Wire

/-!
# H1 — HeadParse

The parse of a head over a read buffer that the bytes come to in pieces: `H1Codec::parse_head` of
`codec.rs` with its bounds, over the parse of a request and of a response in the vendored crate
(`Server::parse` and `Client::parse` of `role.rs`).  `httparse` itself is a parameter, and so is
what is made of the bytes of a head.

* `HeadParser.parseLoop`: the loop of `Client::parse`, past informational responses.
* `HeadParser.parseHead`: the bounded parse.
* `HeadParser.feed`: the pieces of a stream, one call for each.
* `HeadParser.Steady`: what `httparse` is relied on for.
-/

namespace Httpunk.H1

/-- `httparse::Status`, or its error. -/
inductive Answer where
  | incomplete
  | complete (n : Nat)
  | failed
  deriving DecidableEq

/-- `httparse`, and what is made of the bytes of a head: none is an error, `some none` an
informational response. -/
structure HeadParser (H : Type) where
  httparse : Bytes → Answer
  build : Bytes → Option (Option H)

/-- What one head is found to be. -/
inductive OneHead (H : Type) where
  | more
  | rejected
  | final (h : H) (n : Nat)
  | informational (n : Nat)

/-- What a parse returns; a rejection is any of its errors. -/
inductive HeadResult (H : Type) where
  | more
  | rejected
  | head (h : H)
  deriving DecidableEq

namespace HeadParser

variable {H : Type} (P : HeadParser H) (lim : Limits)

/-- The start of a turn: nothing is made of an empty buffer. -/
def answer (buf : Bytes) : Answer := if buf.isEmpty then .incomplete else P.httparse buf

/-- One head at the start of the buffer, within `max_header_size`. -/
def one (buf : Bytes) : OneHead H :=
  match P.answer buf with
  | .incomplete => .more
  | .failed => .rejected
  | .complete n =>
    if lim.maxHeaderSize.any (· < n) then .rejected
    else
      match P.build (buf.take n) with
      | none => .rejected
      | some (some h) => .final h n
      | some none => .informational n

/-- The loop of `Client::parse`, with the buffer it leaves; none where it takes more turns than
that.  A head takes a byte at least, so a turn more than there are bytes is enough. -/
def parseLoop : Nat → Bytes → Option (Bytes × HeadResult H)
  | 0, _ => none
  | k + 1, buf =>
    match P.one lim buf with
    | .more => some (buf, .more)
    | .rejected => some (buf, .rejected)
    | .final h n => some (buf.drop n, .head h)
    | .informational n => parseLoop k (buf.drop n)

/-- The buffer has reached a limit. -/
def capped (n : Nat) : Bool := lim.maxHeaderSize.any (· ≤ n) || decide (lim.maxBufSize ≤ n)

/-- The closure of `parse_head`: what is left, still incomplete at a limit, is too large. -/
def parseCapped (buf : Bytes) : Option (Bytes × HeadResult H) :=
  (P.parseLoop lim (buf.length + 1) buf).map fun r =>
    match r with
    | (rest, .more) => (rest, if capped lim rest.length then .rejected else .more)
    | r => r

/-- The loop of `parse_head`: the parse sees `max_buf_size` bytes at a time.  None where it takes
more turns than that. -/
def parseBounded : Nat → Bytes → Option (Bytes × HeadResult H)
  | 0, _ => none
  | k + 1, buf =>
    if buf.length ≤ lim.maxBufSize then P.parseCapped lim buf
    else
      match P.parseCapped lim (buf.take lim.maxBufSize) with
      | none => none
      | some (rest, .more) => parseBounded k (rest ++ buf.drop lim.maxBufSize)
      | some (rest, r) => some (rest ++ buf.drop lim.maxBufSize, r)

/-- `parse_head`. -/
def parseHead (buf : Bytes) : Option (Bytes × HeadResult H) :=
  P.parseBounded lim (buf.length + 1) buf

/-- `receive_head` and `receive_request_head`: the data joins the buffer. -/
def receive (buf data : Bytes) : Option (Bytes × HeadResult H) := P.parseHead lim (buf ++ data)

/-- What has come of a stream: more is asked for, with the buffer; a rejection; a head, with the
bytes that are left. -/
inductive Outcome (H : Type) where
  | more (buf : Bytes)
  | rejected
  | head (h : H) (rest : Bytes)
  deriving DecidableEq

/-- The result of a call, with the bytes that are not fed yet. -/
def outcome (r : Bytes × HeadResult H) (unfed : Bytes) : Outcome H :=
  match r.2 with
  | .more => .more (r.1 ++ unfed)
  | .rejected => .rejected
  | .head h => .head h (r.1 ++ unfed)

/-- The pieces of a stream, one call for each until a head is accepted or rejected; none where a
call does not end. -/
def feed : Bytes → List Bytes → Option (Outcome H)
  | buf, [] => some (.more buf)
  | buf, data :: rest =>
    match P.receive lim buf data with
    | none => none
    | some (buf, .more) => feed buf rest
    | some r => some (outcome r rest.flatten)

/-- What `httparse` is relied on for: it neither completes nor rejects on a prefix and then answers
differently on an extension, and the head it completes is the bytes it says. -/
structure Steady (P : HeadParser H) : Prop where
  complete : ∀ {buf n}, P.httparse buf = .complete n → ∀ more, P.httparse (buf ++ more) = .complete n
  failed : ∀ {buf}, P.httparse buf = .failed → ∀ more, P.httparse (buf ++ more) = .failed
  own : ∀ {buf n}, P.httparse buf = .complete n → P.httparse (buf.take n) = .complete n
  size : ∀ {buf n}, P.httparse buf = .complete n → 0 < n ∧ n ≤ buf.length

/-- `Server::parse`: a request is one head. -/
def ofRequests (httparse : Bytes → Answer) (build : Bytes → Option H) : HeadParser H :=
  ⟨httparse, fun bytes => (build bytes).map some⟩

end HeadParser

end Httpunk.H1
