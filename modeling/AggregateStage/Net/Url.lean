/-! Absolute addresses of services on the web. They are checked for the characters and
brackets they may hold; nothing in them is decoded or changed, and ports are not checked. -/
namespace AggregateStage.Net

structure Url where
  secure : Bool
  authority : List Char
  path : List Char
  /-- What follows the question mark. -/
  query : Option (List Char)
  deriving DecidableEq, Repr

namespace Url

def plainScheme : List Char := ['h', 't', 't', 'p', ':', '/', '/']

def secureScheme : List Char := ['h', 't', 't', 'p', 's', ':', '/', '/']

def hasScheme (address : String) : Bool :=
  plainScheme.isPrefixOf address.toList || secureScheme.isPrefixOf address.toList

/-- An address without a scheme gets the plain one. -/
def normalize (address : String) : String :=
  if hasScheme address then address else String.ofList plainScheme ++ address

/-- What has been seen of an authority. -/
structure Seen where
  /-- Colons since the user part or the brackets. -/
  colons : Nat
  opened : Bool
  closed : Bool
  /-- Whether there is a percent sign since the user part or the brackets. -/
  percent : Bool
  last : Char

def Seen.none : Seen := ⟨0, false, false, false, '/'⟩

def isAuthorityChar (c : Char) : Bool := c.isAlphanum || "!$&'()*+,-.;=_~".toList.contains c

def Seen.next (seen : Seen) (c : Char) : Option Seen :=
  let seen := { seen with last := c }
  if c = ':' then
    if 8 ≤ seen.colons then Option.none else some { seen with colons := seen.colons + 1 }
  else if c = '[' then
    if seen.percent || seen.opened then Option.none else some { seen with opened := true }
  else if c = ']' then
    if !seen.opened || seen.closed then Option.none
    else some { seen with closed := true, colons := 0, percent := false }
  else if c = '@' then some { seen with colons := 0, percent := false }
  else if c = '%' then some { seen with percent := true }
  else if isAuthorityChar c then some seen
  else Option.none

/-- Brackets match, at most one colon precedes a port, and a host follows the user part. -/
def Seen.complete (seen : Seen) : Bool :=
  seen.opened == seen.closed && decide (seen.colons ≤ 1) && seen.last != '@' && !seen.percent

def endsAuthority (c : Char) : Bool := c == '/' || c == '?' || c == '#'

def validAuthority (authority : List Char) : Bool :=
  !authority.isEmpty &&
    match authority.foldlM Seen.next Seen.none with
    | some seen => seen.complete
    | Option.none => false

def within (c : Char) (low high : Nat) : Bool := decide (low ≤ c.toNat) && decide (c.toNat ≤ high)

def isPathChar (c : Char) : Bool :=
  c == '!' || within c 0x24 0x3B || c == '=' || within c 0x40 0x5F || within c 0x61 0x7A ||
    c == '|' || c == '~' || c == '"' || c == '\x7b' || c == '\x7d' || decide (0x7F ≤ c.toNat)

def isQueryChar (c : Char) : Bool :=
  c == '!' || within c 0x24 0x3B || c == '=' || decide (0x3F ≤ c.toNat)

/-- The longest address that is taken, in bytes. -/
def sizeLimit : Nat := 65534

def takeScheme (cs : List Char) : Option (Bool × List Char) :=
  if plainScheme.isPrefixOf cs then some (false, cs.drop plainScheme.length)
  else if secureScheme.isPrefixOf cs then some (true, cs.drop secureScheme.length)
  else Option.none

/-- Scheme, authority, path and query; what follows a hash sign is not looked at. -/
def parse? (text : String) : Option Url := do
  if sizeLimit < text.utf8ByteSize then failure
  let (secure, cs) ← takeScheme text.toList
  let (authority, rest) := cs.span fun c => !endsAuthority c
  if !validAuthority authority then failure
  let rest := rest.takeWhile (· != '#')
  let (path, rest) := rest.span (· != '?')
  if !path.all isPathChar then failure
  match rest with
  | [] => return ⟨secure, authority, path, Option.none⟩
  | _ :: query =>
    if query.all isQueryChar then return ⟨secure, authority, path, some query⟩ else failure

/-- An empty path is written as a slash. -/
def toText (url : Url) : String :=
  let scheme := if url.secure then secureScheme else plainScheme
  let path := if url.path.isEmpty then ['/'] else url.path
  let query := match url.query with
    | some query => '?' :: query
    | Option.none => []
  String.ofList (scheme ++ url.authority ++ path ++ query)

end Url

end AggregateStage.Net
