import KrakenUi.Text
import KrakenUi.Net.IpParse

namespace KrakenUi
namespace ClientIp

open Net Text

/-!
# The address of the client

The address that throttling and audit charge: the peer of the connection, or
what a forwarding header says when the peer is a trusted proxy.
-/

/-- The first value of each header, one character for each byte. -/
abbrev HeaderMap := String -> Option (List Char)

/-- `HeaderValue::to_str`: visible ASCII and tabs. -/
def toStr (header : List Char) : Option (List Char) :=
  if header.all fun byte => (32 ≤ byte.toNat && byte.toNat < 127) || byte == '\t' then some header
  else none

/-- The text between the brackets, or all of it. -/
def unbracketed (value : List Char) : List Char :=
  ((stripPrefix '[' value).bind fun rest => (splitOnce ']' rest).map fun parts => parts.1).getD value

/-- The text before a port, or all of it. -/
def portless (value : List Char) : List Char :=
  ((rsplitOnce ':' value).bind fun parts => (parseU16 parts.2).map fun _ => parts.1).getD value

def parseForwardedIp (value : List Char) : Option IpAddr :=
  IpParse.parse (portless (unbracketed (trimMatches '"' value)))

/-- The first `for` parameter, unless a part before it has no equals sign. -/
def forwardedParts : List (List Char) -> Option IpAddr
  | [] => none
  | part :: parts =>
      match splitOnce '=' part with
      | none => none
      | some (name, value) =>
          if (trimChars name).map asciiLower = "for".toList then parseForwardedIp (trimChars value)
          else forwardedParts parts

def forwardedFor (headers : HeaderMap) : Option IpAddr :=
  ((headers "forwarded").bind toStr).bind fun value => forwardedParts (value.splitOn ';')

def xForwardedFor (headers : HeaderMap) : Option IpAddr :=
  ((headers "x-forwarded-for").bind toStr).bind fun value =>
    (value.splitOn ',').findSome? fun part => parseForwardedIp (trimChars part)

def xRealIp (headers : HeaderMap) : Option IpAddr :=
  ((headers "x-real-ip").bind toStr).bind fun value => parseForwardedIp (trimChars value)

def effectiveClientIp (peerIp : IpAddr) (headers : HeaderMap) (trustedProxyIps : List IpAddr) :
    IpAddr :=
  if !trustedProxyIps.contains peerIp then peerIp
  else
    (((forwardedFor headers).or (xForwardedFor headers)).or (xRealIp headers)).getD peerIp

end ClientIp
end KrakenUi
