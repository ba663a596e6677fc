import Mathlib.Init

set_option autoImplicit false

namespace MavRouter

structure EndpointId where
  id : Nat
  deriving DecidableEq, Repr

abbrev Instant := Nat
abbrev Duration := Nat

def Duration.fromSecs (secs : Nat) : Duration := secs * 1000000000

def Duration.fromMillis (millis : Nat) : Duration := millis * 1000000

def Duration.asMillis (duration : Duration) : Nat := duration / 1000000

-- Like the library's since Rust 1.60, zero when the argument is the later one.
def Instant.durationSince (now earlier : Instant) : Duration := now - earlier

def usizeMax : Nat := 0xFFFFFFFFFFFFFFFF

def saturatingAdd (a b : Nat) : Nat := min usizeMax (a + b)

structure MessageTarget where
  systemId : UInt8
  componentId : UInt8
  deriving DecidableEq, Repr

end MavRouter
