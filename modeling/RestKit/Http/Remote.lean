import RestKit.Http.Header
/-!
# Remote addresses

The address of a client behind proxies: the first hop that a proxy names, or else the peer.
-/
namespace RestKit.Http

/-- The first entry of a header that lists addresses. -/
def firstHop? (headers : Headers) (name : String) : Option String :=
  let first (v : String) : String := Text.trim (String.ofList (v.toList.takeWhile (· ≠ ',')))
  ((headers.text? name).map first).filter fun v => !v.isEmpty

/-- The first forwarded hop, the real address that a proxy gives, or the peer (`remote_ip`). -/
def remoteIp (headers : Headers) (peer : Option String) : String :=
  ((firstHop? headers "x-forwarded-for").or ((firstHop? headers "x-real-ip").or peer)).getD ""

end RestKit.Http
