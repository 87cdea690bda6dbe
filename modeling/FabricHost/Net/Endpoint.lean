import FabricHost.Net.IpAddress

/-!
# Endpoints

An address with a port. Version 6 addresses stand in brackets, so that the last colon is the port's. Behind a percent
sign, still inside the brackets, there may be the number of the scope that the address is local to.
-/

namespace FabricHost

structure Endpoint where
  address : IpAddress
  port : UInt16
  /-- The scope of a version 6 address, zero for none. -/
  scope : UInt32 := 0
deriving DecidableEq, Repr

namespace Endpoint

/-- The scope as it stands behind a version 6 address, nothing for none. -/
def scopeChars (scope : UInt32) : List Char :=
  if scope = 0 then [] else '%' :: Decimal.digits scope.toNat

def text (endpoint : Endpoint) : String :=
  let port := Decimal.digits endpoint.port.toNat
  String.ofList <| match endpoint.address with
    | .v4 address => address.chars ++ ':' :: port
    | .v6 address => '[' :: address.chars ++ scopeChars endpoint.scope ++ [']', ':'] ++ port

def port? (cs : List Char) : Option UInt16 :=
  ((Decimal.toNat? cs).filter (· < 65536)).map UInt16.ofNat

/-- Reads a scope, which may be left out. -/
def scope? : List Char → Option UInt32
  | [] => some 0
  | '%' :: cs => ((Decimal.toNat? cs).filter (· < UInt32.size)).map UInt32.ofNat
  | _ => none

def parse? (s : String) : Option Endpoint :=
  match s.toList with
  | '[' :: rest => do
    let inside := rest.takeWhile (· ≠ ']')
    let address ← Ipv6.ofChars? (inside.takeWhile (· ≠ '%'))
    let scope ← scope? (inside.dropWhile (· ≠ '%'))
    match rest.dropWhile (· ≠ ']') with
    | ']' :: ':' :: port => return { address := .v6 address, port := ← port? port, scope }
    | _ => none
  | cs => do
    let address ← Ipv4.ofChars? (cs.takeWhile (· ≠ ':'))
    match cs.dropWhile (· ≠ ':') with
    | ':' :: port => return { address := .v4 address, port := ← port? port }
    | _ => none

end Endpoint

end FabricHost
