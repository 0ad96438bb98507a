import Switchboard.Url.Domain
import Switchboard.Url.Ipv6

/-!
# Hosts in URLs

A URL with a special scheme names its host by a domain or an address; any other URL may name it by
any text without delimiters. An IPv6 address stands in brackets.
-/

namespace Switchboard.Url

inductive Host where
  | name (text : String)
  | ipv4 (address : Ipv4)
  | ipv6 (address : Ipv6)
deriving DecidableEq, Repr

inductive ReadError where
  | relative
  | flatBase
  | emptyHost
  | badPort
  | badIpv4
  | badIpv6
  | badHostCharacter
  | badDomain
deriving DecidableEq, Repr

def ReadError.message : ReadError → String
  | relative => "relative URL without a base"
  | flatBase => "relative URL with a cannot-be-a-base base"
  | emptyHost => "empty host"
  | badPort => "invalid port number"
  | badIpv4 => "invalid IPv4 address"
  | badIpv6 => "invalid IPv6 address"
  | badHostCharacter => "invalid domain character"
  | badDomain => "invalid international domain name"

namespace Host

def text : Host → String
  | name text => text
  | ipv4 address => address.text
  | ipv6 address => "[" ++ address.text ++ "]"

def empty : Host := name ""

def readBracketed (cs : List Char) : Except ReadError Host :=
  match cs.getLast?, Ipv6.read? cs.dropLast with
  | some ']', some address => .ok (ipv6 address)
  | _, _ => .error .badIpv6

def ofDomain (domain : List Char) : Except ReadError Host :=
  if domain.isEmpty then .error .emptyHost
  else if Ipv4.isMeant domain then
    match Ipv4.read? domain with
    | some address => .ok (ipv4 address)
    | none => .error .badIpv4
  else .ok (name (String.ofList domain))

def readSpecial (cs : List Char) : Except ReadError Host :=
  match cs with
  | '[' :: rest => readBracketed rest
  | _ =>
    match (Text.text? (decode (Text.bytes (String.ofList cs)))).bind fun s =>
        Domain.toAscii? s.toList with
    | some domain => ofDomain domain
    | none => .error .badDomain

def isDelimiter (c : Char) : Bool :=
  c ∈ ['\x00', '\t', '\n', '\r', ' ', '#', '/', ':', '<', '>', '?', '@', '[', '\\', ']', '^', '|']

def readPlain (cs : List Char) : Except ReadError Host :=
  match cs with
  | '[' :: rest => readBracketed rest
  | _ =>
    if cs.any isDelimiter then .error .badHostCharacter
    else .ok (name (String.ofList (encode .control cs)))

end Host

end Switchboard.Url
