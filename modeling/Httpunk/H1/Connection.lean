import Httpunk.H1.Wire

/-!
# H1 — Connection

The `Connection` lines of a response head: what `enforce_version` of the vendored crate
(`httpunk.rs`) makes of them, and when they announce that the connection closes after the
response (`headers.rs`).
-/

namespace Httpunk.H1

/-- `HeaderValue::to_str`: the text of a value all of whose bytes are visible. -/
def toStr (value : Bytes) : Option (List Char) :=
  if value.all fun b => b == 9 || (32 ≤ b && b < 127) then
    some (value.map fun b => Char.ofNat b.toNat)
  else none

/-- `str::trim`, of a visible text. -/
def trim (s : List Char) : List Char :=
  let blank (c : Char) : Bool := c == ' ' || c == '\t'
  ((s.dropWhile blank).reverse.dropWhile blank).reverse

/-- `connection_has`. -/
def connectionHas (value : Bytes) (needle : List Char) : Bool :=
  (toStr value).any fun s => (s.splitOn ',').any fun val => (trim val).map Char.toLower == needle

/-- `connection_keep_alive`. -/
def connectionKeepAlive (value : Bytes) : Bool := connectionHas value "keep-alive".toList

/-- `connection_close`. -/
def connectionClose (value : Bytes) : Bool := connectionHas value "close".toList

/-- The lines of a response head that decide its connection: its version, and the values of its
`Connection` lines. -/
structure Lines where
  http10 : Bool
  connection : List Bytes
  deriving DecidableEq

/-- `enforce_version`: the lines the caller gave, with `keep-alive` or `close` after them where it
is missing. -/
def enforceVersion (connection : List Bytes) (remoteHttp10 wantsKeepAlive : Bool) : Lines :=
  if remoteHttp10 then
    let outgoingIsKeepAlive := connection.any connectionKeepAlive
    { http10 := true
      connection :=
        if !outgoingIsKeepAlive && wantsKeepAlive then connection ++ [ofText "keep-alive"]
        else connection }
  else
    { http10 := false
      connection :=
        if !wantsKeepAlive && !connection.any connectionClose then connection ++ [ofText "close"]
        else connection }

namespace Lines

/-- A `close` among the lines announces the close, and so does an HTTP/1.0 head without a
`keep-alive`. -/
def announcesClose (l : Lines) : Bool :=
  l.connection.any connectionClose || (l.http10 && !l.connection.any connectionKeepAlive)

theorem connectionClose_close : connectionClose (ofText "close") = true := by decide +kernel

/-- Without keep-alive, an HTTP/1.1 head announces the close, whatever lines the caller gave. -/
theorem announcesClose_of_http11 (connection : List Bytes) :
    (enforceVersion connection false false).announcesClose = true := by
  unfold enforceVersion announcesClose
  rw [if_neg (by decide)]
  cases h : connection.any connectionClose with
  | true => simp [h]
  | false => simp [h, connectionClose_close]

/-- Without keep-alive, an HTTP/1.0 head keeps the lines of the caller as they are. -/
theorem enforceVersion_http10 (connection : List Bytes) :
    enforceVersion connection true false = { http10 := true, connection := connection } := by
  simp [enforceVersion]

end Lines

end Httpunk.H1
