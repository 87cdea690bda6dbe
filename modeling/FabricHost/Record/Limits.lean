/-!
# Capacities, ranges and defaults

Capacities count UTF-8 bytes.
-/

namespace FabricHost.Limits

def recordVersion : Nat := 1

def attemptName : Nat := 12
def transportType : Nat := 8
def ipText : Nat := 46
def identityText : Nat := 224
def nqn : Nat := 224
def targetAddress : Nat := 224
def keyPath : Nat := 224
def macText : Nat := 18

/-- Records in one stored set are counted in sixteen bits. -/
def setCount : Nat := 65535

/-- Handshakes tried again after the first. -/
def maxRetryCount : UInt8 := 16
def defaultRetryCount : UInt8 := 3

def minConnectTimeoutMs : UInt16 := 100
def maxConnectTimeoutMs : UInt16 := 60000
def defaultConnectTimeoutMs : UInt16 := 10000

def defaultKeepAliveTimeoutMs : UInt64 := 10000

/-- The port that targets listen on unless they are told otherwise. -/
def defaultTargetPort : UInt16 := 4420

/-- Bytes in one block of block I/O. -/
def blockSize : Nat := 512

/-- Host names made from an identifier begin so. -/
def hostNqnStem : String := "nqn.2014-08.org.nvmexpress:uuid:"

end FabricHost.Limits
