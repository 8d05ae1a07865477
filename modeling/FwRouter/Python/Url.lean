import FwRouter.Python.Text

/-!
# Addresses

`urllib.parse`: `urlsplit` with the properties of its result, `parse_qsl` and `unquote`.  An authority
with square brackets or with characters outside ASCII is checked by the tables of `ipaddress` and of
Unicode normalization; these checks are a parameter.  A `ValueError` is `none`.
-/

namespace Py.Url

/-! ## Cutting texts -/

/-- `t.partition(sep)`. -/
def partition (sep : Char) (t : Text) : Text × Bool × Text :=
  (t.takeWhile fun c => c ≠ sep, t.contains sep, (t.dropWhile fun c => c ≠ sep).drop 1)

/-- `t.rpartition(sep)`. -/
def rpartition (sep : Char) (t : Text) : Text × Bool × Text :=
  if t.contains sep then
    ((t.rdropWhile fun c => c ≠ sep).dropLast, true, t.rtakeWhile fun c => c ≠ sep)
  else ([], false, t)

/-! ## Percent encoding -/

/-- `unquote_to_bytes` of an ASCII text. -/
def unquoteToBytes : Text → List ℕ
  | '%' :: a :: b :: rest =>
      match hexDigit a, hexDigit b with
      | some high, some low => (high * 16 + low) :: unquoteToBytes rest
      | _, _ => '%'.toNat :: unquoteToBytes (a :: b :: rest)
  | c :: rest => c.toNat :: unquoteToBytes rest
  | [] => []

/-- A byte of the form `10xxxxxx`. -/
def isContinuation (b : ℕ) : Bool := decide (128 ≤ b ∧ b < 192)

/-- The bounds of the second byte after a first one of three or four. -/
def secondInRange (first second : ℕ) : Bool :=
  isContinuation second && decide (first = 224 → 160 ≤ second) && decide (first = 237 → second < 160) &&
    decide (first = 240 → 144 ≤ second) && decide (first = 244 → second < 144)

/-- The first character of a byte sequence, of which a missing byte is `0`, and the bytes it takes.  A
sequence that is not well formed is replaced up to the byte that breaks it. -/
def firstChar (a b c d : ℕ) : Char × ℕ :=
  if a < 128 then (Char.ofNat a, 1)
  else if 194 ≤ a ∧ a < 224 ∧ isContinuation b then (Char.ofNat (a % 32 * 64 + b % 64), 2)
  else if 224 ≤ a ∧ a < 245 ∧ secondInRange a b then
    if ¬ isContinuation c then ('\uFFFD', 2)
    else if a < 240 then (Char.ofNat (a % 16 * 4096 + b % 64 * 64 + c % 64), 3)
    else if isContinuation d then
      (Char.ofNat (a % 8 * 262144 + b % 64 * 4096 + c % 64 * 64 + d % 64), 4)
    else ('\uFFFD', 3)
  else ('\uFFFD', 1)

def decodeReplaceFrom : ℕ → List ℕ → Text
  | 0, _ => []
  | _ + 1, [] => []
  | n + 1, a :: rest =>
      let (c, used) := firstChar a (rest.getD 0 0) (rest.getD 1 0) (rest.getD 2 0)
      c :: decodeReplaceFrom n (rest.drop (used - 1))

/-- `bytes.decode("utf-8", "replace")`. -/
def decodeReplace (bytes : List ℕ) : Text := decodeReplaceFrom bytes.length bytes

def isAscii (c : Char) : Bool := decide (c.toNat < 128)

/-- `unquote`: the runs of ASCII characters are decoded, the others stay. -/
def unquote (t : Text) : Text :=
  (t.splitBy fun a b => isAscii a == isAscii b).flatMap fun run =>
    if run.all isAscii then decodeReplace (unquoteToBytes run) else run

example : unquote "a%20%C3%A9%C3x%".toList = "a é\uFFFDx%".toList := by decide +kernel

/-! ## Splitting an address -/

/-- What is used of a `SplitResult`. -/
structure SplitUrl where
  scheme : Text
  netloc : Text
  query : Text
  fragment : Text
deriving DecidableEq

/-- The scheme, and what follows it. -/
def splitScheme (url : Text) : Text × Text :=
  let (scheme, found, rest) := partition ':' url
  if found && scheme.head?.any Char.isAlpha &&
      scheme.all fun c => c.isAlphanum || ['+', '-', '.'].contains c then
    (scheme.map Char.toLower, rest)
  else ([], url)

/-- `urlsplit`; `netlocAccepted` stands for `_checknetloc` and `_check_bracketed_netloc`. -/
def urlsplit (netlocAccepted : Text → Bool) (url : Text) : Option SplitUrl :=
  let cleaned := (url.dropWhile fun c => decide (c.toNat ≤ 32)).filter fun c =>
    decide (c ∉ ['\t', '\r', '\n'])
  let (scheme, rest) := splitScheme cleaned
  let authority := rest.take 2 = "//".toList
  let netloc := if authority then
    (rest.drop 2).takeWhile (fun c => decide (c ∉ ['/', '?', '#'])) else []
  let rest := if authority then
    (rest.drop 2).dropWhile (fun c => decide (c ∉ ['/', '?', '#'])) else rest
  if netloc.contains '[' ≠ netloc.contains ']' ∨ netlocAccepted netloc = false then none
  else
    let (rest, _, fragment) := partition '#' rest
    let (_, _, query) := partition '?' rest
    some ⟨scheme, netloc, query, fragment⟩

/-- `username`. -/
def SplitUrl.username (u : SplitUrl) : Option Text :=
  let (userinfo, found, _) := rpartition '@' u.netloc
  if found then some (partition ':' userinfo).1 else none

/-- `_hostinfo`: the host, and the text of the port. -/
def SplitUrl.hostinfo (u : SplitUrl) : Text × Text :=
  let (_, _, hostinfo) := rpartition '@' u.netloc
  let (_, bracket, bracketed) := partition '[' hostinfo
  if bracket then
    let (hostname, _, port) := partition ']' bracketed
    (hostname, (partition ':' port).2.2)
  else
    let (hostname, _, port) := partition ':' hostinfo
    (hostname, port)

/-- `hostname`: the zone keeps its case. -/
def SplitUrl.hostname (U : Unicode) (u : SplitUrl) : Option Text :=
  let hostname := u.hostinfo.1
  if hostname = [] then none
  else
    let (host, percent, zone) := partition '%' hostname
    some (U.lower host ++ ((if percent then ['%'] else []) ++ zone))

/-- `port`; `none` is the `ValueError`. -/
def SplitUrl.port (u : SplitUrl) : Option (Option ℕ) :=
  let port := u.hostinfo.2
  if port = [] then some none
  else if port.all Char.isDigit ∧ decValue port ≤ 65535 then some (some (decValue port))
  else none

/-- `parse_qsl(query, keep_blank_values=True)`. -/
def parseQsl (query : Text) : List (Text × Text) :=
  ((query.splitOn '&').filter fun field => field ≠ []).map fun field =>
    let (name, _, value) := partition '=' field
    (unquote (replaceChar '+' ' ' name), unquote (replaceChar '+' ' ' value))

example :
    let u := urlsplit (fun _ => true) "vless://u@Host.example:443?type=ws&path=%2Fa+b#name".toList
    u.map SplitUrl.port = some (some (some 443)) ∧
      u.bind SplitUrl.username = some "u".toList ∧
      u.bind (SplitUrl.hostname Unicode.ascii) = some "host.example".toList ∧
      u.map (fun u => parseQsl u.query) =
        some [("type".toList, "ws".toList), ("path".toList, "/a b".toList)] := by
  decide +kernel

end Py.Url
