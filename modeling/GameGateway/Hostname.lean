import GameGateway.Record.Basic

/-!
# The hosts of servers

Players reach a server under a host: the one in its record, or else a generated one. A generated
host is the **slug** of the server's name within the base domain, if the gateway has one, and
otherwise holds the server's identifier.

`Slug.chars` makes a slug in one pass over a name; `HostnamePolicy.hostname` is the host of a
server.
-/

namespace GameGateway

namespace Slug

/-- A character that a slug keeps: an ASCII letter or digit. -/
def keeps (c : Char) : Bool :=
  c.isAlphanum

/-- The slug of the rest of a name, behind a character that was kept. Where characters were left
out since, `gap` is set, and a hyphen stands for them in front of the next one that is kept. -/
def tail (gap : Bool) : List Char → List Char
  | [] => []
  | c :: name =>
    if keeps c then
      if gap then '-' :: c.toLower :: tail false name else c.toLower :: tail false name
    else tail true name

/-- What a slug keeps of a name. -/
def kept (name : List Char) : List Char :=
  tail false (name.dropWhile fun c => !keeps c)

/-- The characters of a slug; a name of which nothing is kept has a slug all the same. -/
def chars (name : List Char) : List Char :=
  match kept name with
  | [] => "server".toList
  | slug => slug

end Slug

/-- The **slug** of a name: its runs of letters and digits in lower case, joined by hyphens. -/
def slug (name : String) : String :=
  String.ofList (Slug.chars name.toList)

/-- How the hosts of servers are **generated**. -/
structure HostnamePolicy where
  /-- The domain within which the slugs of servers are hosts. -/
  baseDomain : Option String := none
  /-- The domain within which the identifiers of servers are hosts. -/
  suffix : String := "local"
  deriving DecidableEq, Repr

namespace HostnamePolicy

/-- The host of a server whose record has none. -/
def generate (policy : HostnamePolicy) (server : Server) : String :=
  match policy.baseDomain.filter fun domain => !domain.isEmpty with
  | some domain => s!"{slug server.name}.{domain}"
  | none => s!"server-{server.id}.{policy.suffix}"

/-- The host of a server: the one in its record, without blanks around it, unless it is blank. -/
def hostname (policy : HostnamePolicy) (server : Server) : String :=
  match (server.hostname.map trimBlank).filter fun host => !host.isEmpty with
  | some host => host
  | none => policy.generate server

end HostnamePolicy

end GameGateway
