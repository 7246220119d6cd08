import Mathlib

/-!
# H2 — Hpack — Header

The header fields that HPACK carries (`hpack/header.rs` of the vendored crate), and the static
table.

* `Header`, `Header.new`, `Name.intoEntry`: a field, and a field of the bytes received.
* `getStatic`, `indexStatic`: the static table as it is read and as it is searched.
* `static_name`, `static_full`: the two agree.

The checks of the `http` crate on names and values are the parameter `Http`.
-/

namespace Httpunk.H2.Hpack

abbrev Bytes : Type := List UInt8

/-- The bytes of a text. -/
def ascii (s : String) : Bytes := s.toList.map fun c => UInt8.ofNat c.toNat

/-! ### Errors -/

/-- `NeedMore`. -/
inductive NeedMore where
  | unexpectedEndOfStream
  | integerUnderflow
  | stringUnderflow
  deriving DecidableEq

/-- `DecoderError`. -/
inductive DecoderError where
  | invalidRepresentation
  | invalidIntegerPrefix
  | invalidTableIndex
  | invalidHuffmanCode
  | invalidUtf8
  | invalidStatusCode
  | invalidPseudoheader
  | invalidMaxDynamicSize
  | integerOverflow
  | needMore (n : NeedMore)
  deriving DecidableEq

/-! ### Header fields -/

/-- `Name`. -/
inductive Name where
  | field (name : Bytes)
  | authority
  | method
  | scheme
  | path
  | protocol
  | status
  deriving DecidableEq

/-- `Header`; a value of the `http` crate is its bytes, and of a field also whether it is
sensitive. -/
inductive Header where
  | field (name value : Bytes) (sensitive : Bool)
  | authority (value : Bytes)
  | method (value : Bytes)
  | scheme (value : Bytes)
  | path (value : Bytes)
  | protocol (value : Bytes)
  | status (value : Bytes)
  deriving DecidableEq

/-- What the `http` crate and UTF-8 take. -/
structure Http where
  /-- `HeaderName::from_lowercase`. -/
  headerName : Bytes → Bool
  /-- `HeaderValue::from_bytes`. -/
  headerValue : Bytes → Bool
  /-- `Method::from_bytes`. -/
  method : Bytes → Bool
  /-- `StatusCode::from_bytes`. -/
  statusCode : Bytes → Bool
  /-- `BytesStr::try_from`, which `Protocol` goes through too. -/
  utf8 : Bytes → Bool

namespace Name

/-- `as_slice`. -/
def asSlice : Name → Bytes
  | .field name => name
  | .authority => ascii ":authority"
  | .method => ascii ":method"
  | .scheme => ascii ":scheme"
  | .path => ascii ":path"
  | .protocol => ascii ":protocol"
  | .status => ascii ":status"

/-- `into_entry`. -/
def intoEntry (H : Http) (name : Name) (value : Bytes) : Except DecoderError Header :=
  match name with
  | .field n => if H.headerValue value then .ok (.field n value false) else .error .invalidUtf8
  | .authority => if H.utf8 value then .ok (.authority value) else .error .invalidUtf8
  | .method => if H.method value then .ok (.method value) else .error .invalidUtf8
  | .scheme => if H.utf8 value then .ok (.scheme value) else .error .invalidUtf8
  | .path => if H.utf8 value then .ok (.path value) else .error .invalidUtf8
  | .protocol => if H.utf8 value then .ok (.protocol value) else .error .invalidUtf8
  | .status => if H.statusCode value then .ok (.status value) else .error .invalidStatusCode

end Name

namespace Header

/-- `Header::new`. -/
def new (H : Http) (name value : Bytes) : Except DecoderError Header :=
  match name with
  | [] => .error (.needMore .unexpectedEndOfStream)
  | b :: rest =>
    if b = 58 then
      if rest = ascii "authority" then
        if H.utf8 value then .ok (.authority value) else .error .invalidUtf8
      else if rest = ascii "method" then
        if H.method value then .ok (.method value) else .error .invalidUtf8
      else if rest = ascii "scheme" then
        if H.utf8 value then .ok (.scheme value) else .error .invalidUtf8
      else if rest = ascii "path" then
        if H.utf8 value then .ok (.path value) else .error .invalidUtf8
      else if rest = ascii "protocol" then
        if H.utf8 value then .ok (.protocol value) else .error .invalidUtf8
      else if rest = ascii "status" then
        if H.statusCode value then .ok (.status value) else .error .invalidUtf8
      else .error .invalidPseudoheader
    else if H.headerName name then
      if H.headerValue value then .ok (.field name value false) else .error .invalidUtf8
    else .error .invalidUtf8

/-- `name`. -/
def name : Header → Name
  | .field n _ _ => .field n
  | .authority _ => .authority
  | .method _ => .method
  | .scheme _ => .scheme
  | .path _ => .path
  | .protocol _ => .protocol
  | .status _ => .status

/-- `value_slice`. -/
def valueSlice : Header → Bytes
  | .field _ v _ => v
  | .authority v => v
  | .method v => v
  | .scheme v => v
  | .path v => v
  | .protocol v => v
  | .status v => v

/-- `len`: the size of an entry, where a status code is three digits. -/
def len : Header → Nat
  | .field n v _ => 32 + n.length + v.length
  | .authority v => 32 + 10 + v.length
  | .method v => 32 + 7 + v.length
  | .scheme v => 32 + 7 + v.length
  | .path v => 32 + 5 + v.length
  | .protocol v => 32 + 9 + v.length
  | .status _ => 32 + 7 + 3

/-- `value_eq`. -/
def valueEq : Header → Header → Bool
  | .field _ a _, .field _ b _ => a == b
  | .authority a, .authority b => a == b
  | .method a, .method b => a == b
  | .scheme a, .scheme b => a == b
  | .path a, .path b => a == b
  | .protocol a, .protocol b => a == b
  | .status a, .status b => a == b
  | _, _ => false

/-- `is_sensitive`. -/
def isSensitive : Header → Bool
  | .field _ _ s => s
  | _ => false

/-- `skip_value_index`. -/
def skipValueIndex : Header → Bool
  | .field n _ _ =>
    [ascii "age", ascii "authorization", ascii "content-length", ascii "etag",
      ascii "if-modified-since", ascii "if-none-match", ascii "location", ascii "cookie",
      ascii "set-cookie"].contains n
  | .path _ => true
  | _ => false

/-- The field without the mark of a sensitive value, which is not decoded. -/
def plain : Header → Header
  | .field n v _ => .field n v false
  | h => h

end Header

/-! ### The static table -/

/-- The fields of the static table from its index 15 on: they have no value, but for one. -/
def staticFields : List String :=
  ["accept-charset", "accept-encoding", "accept-language", "accept-ranges", "accept",
    "access-control-allow-origin", "age", "allow", "authorization", "cache-control",
    "content-disposition", "content-encoding", "content-language", "content-length",
    "content-location", "content-range", "content-type", "cookie", "date", "etag", "expect",
    "expires", "from", "host", "if-match", "if-modified-since", "if-none-match", "if-range",
    "if-unmodified-since", "last-modified", "link", "location", "max-forwards",
    "proxy-authenticate", "proxy-authorization", "range", "referer", "refresh", "retry-after",
    "server", "set-cookie", "strict-transport-security", "transfer-encoding", "user-agent", "vary",
    "via", "www-authenticate"]

/-- `get_static`, of an index from 1 to 61. -/
def getStatic (idx : Nat) : Header :=
  match idx with
  | 1 => .authority []
  | 2 => .method (ascii "GET")
  | 3 => .method (ascii "POST")
  | 4 => .path (ascii "/")
  | 5 => .path (ascii "/index.html")
  | 6 => .scheme (ascii "http")
  | 7 => .scheme (ascii "https")
  | 8 => .status (ascii "200")
  | 9 => .status (ascii "204")
  | 10 => .status (ascii "206")
  | 11 => .status (ascii "304")
  | 12 => .status (ascii "400")
  | 13 => .status (ascii "404")
  | 14 => .status (ascii "500")
  | 16 => .field (ascii "accept-encoding") (ascii "gzip, deflate") false
  | n => .field (ascii (staticFields.getD (n - 15) "")) [] false

/-- `index_static`: the index of a name, and whether the value is there too. -/
def indexStatic : Header → Option (Nat × Bool)
  | .field n v _ =>
    match staticFields.findIdx? fun s => ascii s == n with
    | some 1 => some (16, v == ascii "gzip, deflate")
    | some k => some (k + 15, false)
    | none => none
  | .authority _ => some (1, false)
  | .method v =>
    if v = ascii "GET" then some (2, true)
    else if v = ascii "POST" then some (3, true)
    else some (2, false)
  | .scheme v =>
    if v = ascii "http" then some (6, true)
    else if v = ascii "https" then some (7, true)
    else some (6, false)
  | .path v =>
    if v = ascii "/" then some (4, true)
    else if v = ascii "/index.html" then some (5, true)
    else some (4, false)
  | .protocol _ => none
  | .status v =>
    if v = ascii "200" then some (8, true)
    else if v = ascii "204" then some (9, true)
    else if v = ascii "206" then some (10, true)
    else if v = ascii "304" then some (11, true)
    else if v = ascii "400" then some (12, true)
    else if v = ascii "404" then some (13, true)
    else if v = ascii "500" then some (14, true)
    else some (8, false)

theorem getStatic_field {n : Nat} (h : 15 ≤ n) (plain : n ≠ 16) :
    getStatic n = .field (ascii (staticFields.getD (n - 15) "")) [] false := by
  rw [getStatic.eq_def]
  split <;> first | omega | rfl

/-- What the search finds is an index of the static table, at the name of the field. -/
theorem static_name {h : Header} {n : Nat} {full : Bool} (found : indexStatic h = some (n, full)) :
    1 ≤ n ∧ n ≤ 61 ∧ (getStatic n).name = h.name := by
  cases h with
  | field name v s =>
    simp only [indexStatic] at found
    split at found
    · next searched =>
      obtain ⟨_, is, _⟩ := List.findIdx?_eq_some_iff_getElem.mp searched
      simp only [Option.some.injEq, Prod.mk.injEq] at found
      obtain ⟨rfl, -⟩ := found
      refine ⟨by decide, by decide, ?_⟩
      have : ascii "accept-encoding" = name := by simpa [staticFields] using is
      simp [getStatic, Header.name, this]
    · next k other searched =>
      obtain ⟨lt, is, _⟩ := List.findIdx?_eq_some_iff_getElem.mp searched
      simp only [Option.some.injEq, Prod.mk.injEq] at found
      obtain ⟨rfl, -⟩ := found
      have last : staticFields.length = 47 := rfl
      refine ⟨by omega, by omega, ?_⟩
      have plain : k ≠ 1 := other
      have there : ascii (staticFields.getD k "") = name := by
        rw [List.getD_eq_getElem _ _ lt]
        simpa using is
      rw [getStatic_field (by omega) (by omega), Header.name, Header.name, Nat.add_sub_cancel,
        there]
    · cases found
  | authority v =>
    cases found
    exact ⟨by decide, by decide, rfl⟩
  | protocol v => cases found
  | method v | scheme v | path v | status v =>
    simp only [indexStatic] at found
    split_ifs at found <;> cases found <;> exact ⟨by decide, by decide, rfl⟩

/-- Where the search finds the value too, the field is there. -/
theorem static_full {h : Header} {n : Nat} (found : indexStatic h = some (n, true)) :
    getStatic n = h.plain := by
  cases h with
  | field name v s =>
    have named := (static_name found).2.2
    simp only [indexStatic] at found
    split at found
    · simp only [Option.some.injEq, Prod.mk.injEq, beq_iff_eq] at found
      obtain ⟨rfl, rfl⟩ := found
      simp only [getStatic, Header.name, Name.field.injEq] at named
      simp [getStatic, Header.plain, named]
    · cases found
    · cases found
  | authority v => cases found
  | protocol v => cases found
  | method v | scheme v | path v | status v =>
    simp only [indexStatic] at found
    split_ifs at found <;> cases found <;> simp_all [getStatic, Header.plain]

end Httpunk.H2.Hpack
