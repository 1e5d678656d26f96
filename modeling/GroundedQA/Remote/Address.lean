import GroundedQA.Number.Digits
import GroundedQA.Remote.Host
import GroundedQA.Remote.Path
/-!
# Web addresses

The address of a web service in its normal form: scheme and host in lower case, no number after the
host where it is the usual one, no `.` or `..` among the steps of the path, and characters that may
not stand in an address by themselves written as percent signs and hexadecimal digits.

An address has a scheme and, after a colon, what the scheme makes of the rest. On the web a host
always follows, with or without slashes before it, and either slash divides the steps of the path.
A file has steps, and perhaps a host. Under any other scheme two slashes lead to a host, one begins a
path, and all else is taken as it is.
-/

namespace GroundedQA.Remote

open Text

/-- Where an address leads: a host, perhaps with a number, and who asks. -/
structure Authority where
  user : String := ""
  password : Option String := none
  host : Host
  /-- The number after the host, where it is not the usual one. -/
  number : Option Nat := none
deriving DecidableEq, Repr

/-- An address in its normal form. -/
structure Address where
  scheme : String
  authority : Option Authority
  path : String
  query : Option String
  fragment : Option String
deriving DecidableEq, Repr

/-! ## Schemes -/

/-- What a scheme makes of the rest of an address. -/
inductive SchemeKind where
  | web
  | file
  | other
deriving DecidableEq, Repr

/-- The number at which hosts usually take requests of a scheme of the web. -/
def usualNumber? : String → Option Nat
  | "http" | "ws" => some 80
  | "https" | "wss" => some 443
  | "ftp" => some 21
  | _ => none

def SchemeKind.of (scheme : String) : SchemeKind :=
  if (usualNumber? scheme).isSome then .web else if scheme = "file" then .file else .other

/-- Divides the steps of a path under a scheme of the kind. -/
def SchemeKind.isSlash (kind : SchemeKind) (c : Char) : Bool :=
  c = '/' || kind ≠ .other && c = '\\'

/-! ## Written forms -/

/-- The name and the password of who asks, with the sign that follows them, if they are given. -/
def Authority.renderUser (a : Authority) : String :=
  if a.user = "" ∧ a.password = none then ""
  else a.user ++ (a.password.elim "" (":" ++ ·)) ++ "@"

/-- The written form. -/
def Authority.render (a : Authority) : String :=
  a.renderUser ++ a.host.render ++ a.number.elim "" fun n => ":" ++ Number.decimal n

namespace Address

/-- What leads to the path. Two slashes always lead to a host, so where there is none, a path that
begins with two is led to by a step that stays. -/
def renderAuthority (address : Address) : String :=
  match address.authority with
  | some authority => "//" ++ authority.render
  | none => if ['/', '/'].isPrefixOf address.path.toList then "/." else ""

/-- The path and the query. -/
def target (address : Address) : String :=
  address.path ++ address.query.elim "" ("?" ++ ·)

/-- The written form. -/
def render (address : Address) : String :=
  address.scheme ++ ":" ++ address.renderAuthority ++ address.target ++
    address.fragment.elim "" ("#" ++ ·)

/-- The address leads to a host. -/
def hasHost (address : Address) : Bool :=
  address.authority.any (·.host ≠ .name "")

/-! ## Who asks -/

/-- The characters that are reserved in names and passwords. -/
def userReserved : List Char := pathReserved ++ "/:;=@[\\]^|".toList

/-- Adds the name and the password, which a colon divides. -/
def withUser (text : List Char) (authority : Authority) : Authority :=
  let name := text.takeWhile (· ≠ ':')
  let encoded := fun cs => String.ofList (percentEncode userReserved cs)
  { authority with
    user := encoded name
    password := match text.drop (name.length + 1) with
      | [] => none
      | password => some (encoded password) }

end Address

/-- The authority without name and password, if these can be read: a name that is no text is left as it
is, and so is a password that is no text when it stands alone. -/
def Authority.anonymous (a : Authority) : Authority :=
  let password := a.password.bind fun p => percentDecoded? p.toList
  if (percentDecoded? a.user.toList).isSome ∧ (a.user ≠ "" ∨ password.isSome) then
    { a with user := "", password := none }
  else a

namespace Address

/-- The address without name and password. -/
def anonymous (address : Address) : Address :=
  { address with authority := address.authority.map Authority.anonymous }

/-! ## Hosts in addresses -/

/-- What stands before a colon that is not in brackets. -/
def hostText (inBrackets : Bool) : List Char → List Char
  | [] => []
  | c :: cs =>
    if c = ':' ∧ !inBrackets then []
    else c :: hostText (if c = '[' then true else if c = ']' then false else inBrackets) cs

/-- The number after a host, given with its colon, and what follows it; none where it is the usual
one. -/
def hostNumber? (scheme : String) : List Char → Option (Option Nat × List Char)
  | ':' :: cs =>
    let (digits, rest) := Number.takeDigits cs
    let n := Number.ofDigits digits
    if 65536 ≤ n || rest.head?.any (· ≠ '\\') then none
    else some (if digits.isEmpty || usualNumber? scheme = some n then none else some n, rest)
  | rest => some (none, rest)

/-- The authority of an address of the web or of a scheme without rules of its own, and what is left
of the text for the path. A host without a name can have no number, and nobody can ask it. -/
def authority? (scheme : String) (text : List Char) : Option (Authority × List Char) := do
  let beforeHost := (text.reverse.dropWhile (· ≠ '@')).reverse
  let text := text.drop beforeHost.length
  let hostText := hostText false text
  let rest := text.drop hostText.length
  let kind := SchemeKind.of scheme
  let host ← if kind = .web then (if hostText.isEmpty then none else Host.ofDomain? hostText)
    else Host.ofPlain? hostText
  let (number, rest) ← hostNumber? scheme rest
  let authority := withUser beforeHost.dropLast { host, number }
  if host = .name "" ∧ (text.head? = some ':' ∨ authority.renderUser ≠ "") then none
  return (authority, rest)

/-! ## The rest of an address -/

/-- Without the slash that begins a path. -/
def afterSlash (kind : SchemeKind) : List Char → List Char
  | c :: cs => if kind.isSlash c then cs else c :: cs
  | [] => []

/-- The steps of a path, given with or without its first slash. -/
def stepsOf (kind : SchemeKind) (text : List Char) : List (List Char) :=
  pieces kind.isSlash (afterSlash kind text)

/-- Authority and path of an address whose text goes on after the slashes before a host; `isLast` says
that neither a query nor a fragment follows. -/
def ofHostText? (scheme : String) (isLast : Bool) (text : List Char) :
    Option (Option Authority × String) := do
  let kind := SchemeKind.of scheme
  let hostText := text.takeWhile (!kind.isSlash ·)
  let rest := text.drop hostText.length
  if hostText = ['@'] ∧ !(rest.isEmpty && isLast) then none
  let (authority, before) ← authority? scheme hostText
  let rest := before ++ rest
  let path := if rest.isEmpty ∧ kind = .other then "" else renderSteps (directSteps (stepsOf kind rest))
  return (some authority, path)

/-- The host of a file, which stands after two slashes, and the text without it. A drive is no host,
and this very host needs no name. -/
def fileHost? (text : List Char) : Option (Host × List Char) :=
  match text with
  | a :: b :: rest =>
    let hostText := rest.takeWhile (!SchemeKind.file.isSlash ·)
    if !(SchemeKind.file.isSlash a && SchemeKind.file.isSlash b) then some (.name "", text)
    else if hostText.isEmpty || isDrive hostText then some (.name "", rest)
    else do
      let host ← Host.ofDomain? hostText
      return (if host = .name "localhost" then .name "" else host, rest.drop hostText.length)
  | _ => some (.name "", text)

/-- Authority and path of a file. A path that begins with a drive leaves no host. -/
def ofFileText? (text : List Char) : Option (Option Authority × String) := do
  let (host, text) ← fileHost? text
  let steps := stepsOf .file text
  let host := if startsWithDrive steps then .name "" else host
  return (some { host }, renderSteps (fileSteps steps))

/-- Authority and path of an address, given what follows the colon after its scheme, up to the query or
the fragment. -/
def ofText? (scheme : String) (isLast : Bool) (text : List Char) : Option (Option Authority × String) :=
  match SchemeKind.of scheme, text with
  | .web, _ => ofHostText? scheme isLast (text.dropWhile SchemeKind.web.isSlash)
  | .file, _ => ofFileText? text
  | .other, '/' :: '/' :: rest => ofHostText? scheme isLast rest
  | .other, '/' :: rest => some (none, renderSteps (directSteps (pieces (· = '/') rest)))
  | .other, _ => some (none, .ofList (percentEncode [] text))

/-! ## Addresses -/

/-- Without the blanks and control characters around it, and without tabs and line breaks. -/
def cleaned (cs : List Char) : List Char :=
  let blank := fun c : Char => decide (c.toNat ≤ 0x20)
  ((cs.dropWhile blank).reverse.dropWhile blank).reverse.filter fun c =>
    c ≠ '\t' && c ≠ '\n' && c ≠ '\r'

/-- The scheme that a text begins with, in lower case, and what follows its colon. -/
def scheme? (cs : List Char) : Option (String × List Char) :=
  let scheme := cs.takeWhile fun c => c.isAlphanum || "+-.".toList.contains c
  match scheme, cs.drop scheme.length with
  | first :: _, ':' :: rest => if first.isAlpha then some (.ofList (scheme.map Char.toLower), rest) else none
  | _, _ => none

/-- What stands before a sign, and after it if it is there. -/
def splitAtSign (sign : Char) (cs : List Char) : List Char × Option (List Char) :=
  let before := cs.takeWhile (· ≠ sign)
  match cs.drop before.length with
  | [] => (before, none)
  | _ :: after => (before, some after)

def queryReserved (scheme : String) : List Char :=
  " \"#<>".toList ++ if SchemeKind.of scheme = .other then [] else ['\'']

def fragmentReserved : List Char := " \"<>`".toList

/-- The normal form of an address. -/
def parse? (s : String) : Option Address := do
  let (scheme, text) ← scheme? (cleaned s.toList)
  let (text, fragment) := splitAtSign '#' text
  let (text, query) := splitAtSign '?' text
  let (authority, path) ← ofText? scheme (query.isNone && fragment.isNone) text
  return {
    scheme, authority, path
    query := query.map fun cs => .ofList (percentEncode (queryReserved scheme) cs)
    fragment := fragment.map fun cs => .ofList (percentEncode fragmentReserved cs) }

example : (parse? "HTTP://Example.com:80/a/../b c").map render = some "http://example.com/b%20c" := by
  decide +kernel
example : (parse? "LocalHost:11434/v1").map render = some "localhost:11434/v1" := by decide +kernel
example : parse? "nonsense/chat" = none := by decide +kernel

end Address

end GroundedQA.Remote
